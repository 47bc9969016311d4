import Balancing.Server

namespace Balancing.LeastLoaded

structure Rank where
  remote : Bool
  triedRack : Bool
  load : Binary64
  statsLoad : Binary64
  deriving DecidableEq, Repr

namespace Rank

-- Compared field by field, the first difference deciding.
def before (a b : Rank) : Bool :=
  if a.remote != b.remote then b.remote
  else if a.triedRack != b.triedRack then b.triedRack
  else if a.load.lt b.load then true
  else if b.load.lt a.load then false
  else a.statsLoad.lt b.statsLoad

end Rank

-- The racks of the servers at the given places; a place outside the list has none.
def racksAt (servers : List Server) (places : List Nat) : List String :=
  places.filterMap fun i => servers[i]?.bind (·.rack)

def isTriedRack (tried : List String) (s : Server) : Bool :=
  match s.rack with
  | some rack => tried.contains rack
  | none => false

def rank (datacenter : Option String) (tried : List String) (now : Instant) (s : Server) : Rank :=
  let weight := Binary64.ofNat (s.effectiveWeight now)
  { remote := s.isRemote datacenter
    triedRack := isTriedRack tried s
    load := (Binary64.ofNat s.requests.toNat).div weight
    statsLoad := (Binary64.ofNat s.statsRequests.toNat).div weight }

def isEligible (datacenter : Option String) (allowRemote : Bool) (s : Server) : Bool :=
  s.active && (allowRemote || !s.isRemote datacenter)

def candidates (servers : List Server) (excluded : List Nat) (datacenter : Option String)
    (allowRemote : Bool) (now : Instant) : List (Nat × Rank) :=
  let tried := racksAt servers excluded
  servers.zipIdx.filterMap fun (s, i) =>
    if isEligible datacenter allowRemote s && !excluded.contains i then
      some (i, rank datacenter tried now s)
    else none

-- A later one replaces the best so far only if it ranks before it, so the first of equals stays.
def first? (ranked : List (Nat × Rank)) : Option (Nat × Rank) :=
  ranked.foldl (fun best c =>
    match best with
    | none => some c
    | some b => if c.2.before b.2 then some c else some b) none

def select? (servers : List Server) (excluded : List Nat) (datacenter : Option String)
    (allowRemote : Bool) (now : Instant) : Option Nat :=
  (first? (candidates servers excluded datacenter allowRemote now)).map Prod.fst

end Balancing.LeastLoaded
