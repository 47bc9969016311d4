import Balancing.Choice.Words
import Balancing.Server

namespace Balancing.Weighted

def lowestHealthPercent : Nat := 2

def health (s : Server) : Nat :=
  max s.errors.successes (max (s.errors.size * lowestHealthPercent / 100) 1)

-- `least * greatest / mean`, rounded, at least one: the slower the server, the smaller.
def latencyScore (least greatest mean : UInt64) : UInt64 :=
  let share := ((Binary64.ofNat least.toNat).mul (.ofNat greatest.toNat)).div
    (.ofNat (max mean.toNat 1))
  UInt64.ofNat (max (share.roundHalfUp 18446744073709551615) 1)

-- While any server is warming up, latencies do not count.
def scores (servers : List Server) : List UInt64 :=
  let means := servers.map (·.latencies.mean?)
  if means.any Option.isNone then servers.map fun _ => 1
  else
    let means := servers.map (·.latencies.mean)
    let least := means.foldl min (means.headD 0)
    let greatest := means.foldl max 0
    means.map (latencyScore least greatest)

-- Health times score, each product in full.
def fullWeights (servers : List Server) : List Nat :=
  List.zipWith (fun s score => health s * score.toNat) servers (scores servers)

def weights (servers : List Server) : Except Breakdown (List UInt64) :=
  (fullWeights servers).mapM (Word.ofNat .product)

def total (ws : List UInt64) : Except Breakdown UInt64 := ws.foldlM Word.add 0

abbrev Pool := List (Nat × UInt64)

-- Every place with its weight.
def fullPool (ws : List UInt64) : Pool := ws.zipIdx.map fun (weight, i) => (i, weight)

-- Where the ticket falls when the weights are laid end to end; past the end it is the last one.
def position (ticket sum : UInt64) (index : Nat) : Pool → Except Breakdown Nat
  | [] => .ok (index - 1)
  | (_, weight) :: rest => do
    let sum ← Word.add sum weight
    if ticket < sum then .ok index else position ticket sum (index + 1) rest

-- The last candidate moves into the gap.
def remove (pool : Pool) (i : Nat) : Pool :=
  match pool.getLast? with
  | some last => (pool.set i last).dropLast
  | none => []

variable {γ : Type}

def sample (ticket : UInt64 → γ → UInt64 × γ) :
    Nat → UInt64 → Pool → γ → Except Breakdown (List Nat × γ)
  | 0, _, _, g => .ok ([], g)
  | picks + 1, total, pool, g =>
    if total = 0 then .error .emptyRange
    else do
      let (t, g) := ticket total g
      let i ← position t 0 0 pool
      match pool[i]? with
      | none => .ok ([], g)
      | some (place, weight) =>
        let left ← Word.sub total weight
        let (later, g) ← sample ticket picks left (remove pool i) g
        .ok (place :: later, g)

-- `count` places, going round the sampled ones once they are used up.
def cycle (sampled : List Nat) (count : Nat) : List Nat :=
  let row := sampled.toArray
  (List.range count).filterMap fun i => row[i % row.size]?

def order (ticket : UInt64 → γ → UInt64 × γ) (servers : List Server) (count : Nat) (g : γ) :
    Except Breakdown (List Nat × γ) :=
  if servers.isEmpty || count = 0 then .ok ([], g)
  else if servers.length = 1 then .ok (List.replicate count 0, g)
  else do
    let ws ← weights servers
    let total ← total ws
    let (sampled, g) ← sample ticket (min servers.length count) total (fullPool ws) g
    .ok (cycle sampled count, g)

end Balancing.Weighted
