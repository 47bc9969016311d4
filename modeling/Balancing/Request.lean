import Balancing.Duration
import Balancing.Uri.Parser

namespace Balancing

-- Names in lower case; the values of one name stand together, where it first appeared.
abbrev Headers := List (String × String)

namespace Headers

def place (name value : String) : Headers → Headers
  | [] => [(name, value)]
  | (n, v) :: rest =>
    if n = name && rest.all (·.1 ≠ name) then (n, v) :: (name, value) :: rest
    else (n, v) :: place name value rest

def add (h : Headers) (name value : String) : Headers :=
  place (String.ofList (name.toList.map Char.toLower)) value h

end Headers

structure Request where
  method : String
  uri : Uri
  headers : Headers := []
  body : String := ""
  timeout : Option Duration := none
  connectTimeout : Option Duration := none
  deriving DecidableEq, Repr

namespace Request

def isMethodChar (c : Char) : Bool :=
  c.isAlphanum || "!#$%&'*+-.^_`|~".toList.contains c

def isMethod (method : String) : Bool :=
  !method.isEmpty && method.toList.all isMethodChar

def host (r : Request) : Option String := r.uri.host

-- Only scheme and authority change.
def retarget (r : Request) (e : Endpoint) : Request :=
  { r with uri := r.uri.retarget e.scheme e.authority }

def isIdempotent (r : Request) (force : Bool) : Bool := force || r.method != "POST"

end Request

structure Response where
  status : UInt16
  reason : Option String := none
  body : String := ""
  deriving DecidableEq, Inhabited, Repr

namespace Response

def transportFailure : UInt16 := 599

def connectErrorReason : String := "connect error"

def synthetic (status : UInt16) (reason : String) : Response := { status, reason := some reason }

def connectError : Response := synthetic transportFailure connectErrorReason

def requestTimeout : Response := synthetic transportFailure "request timeout"

def noAvailableServers : Response := synthetic 502 "no available servers"

def noService : Response := synthetic 502 "no upstream configured"

-- Nothing has reached the server, so sending again is always safe.
def isConnectError (r : Response) : Bool :=
  r.status = transportFailure && r.reason = some connectErrorReason

end Response

structure TimedResponse where
  response : Response
  elapsed : Duration
  deriving DecidableEq, Inhabited, Repr

end Balancing
