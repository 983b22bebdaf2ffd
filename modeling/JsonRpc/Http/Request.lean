import JsonRpc.Http.Headers

namespace JsonRpc.Http

structure Target where
  path : String
  query : Option String
deriving DecidableEq, Repr

namespace Target

/-- Path and query of the text after the authority; a fragment does not count, and an empty path
is the root. -/
def ofPath (cs : List Char) : Target :=
  let shown := cs.takeWhile (· != '#')
  let path := shown.takeWhile (· != '?')
  { path := if path = [] then "/" else String.ofList path
    query := match shown.drop path.length with
      | [] => none
      | _ :: query => some (String.ofList query) }

def afterScheme? : List Char → Option (List Char)
  | ':' :: '/' :: '/' :: rest => some rest
  | _ :: rest => afterScheme? rest
  | [] => none

def ofText (s : String) : Target :=
  match s.toList with
  | ['*'] => { path := "*", query := none }
  | '/' :: rest => ofPath ('/' :: rest)
  | cs =>
    match afterScheme? cs with
    | some rest => ofPath (rest.dropWhile fun c => c != '/' && c != '?' && c != '#')
    | none => { path := "", query := none }

end Target

/-- A request. `cancelled` is there if the transport can cancel the call, and says whether it has;
the deadline is a reading of the clock. -/
structure Request where
  method : String := "GET"
  target : Target := { path := "/", query := none }
  headers : Headers := []
  body : Bytes := []
  cancelled : Option Bool := none
  deadline : Option Nat := none
deriving DecidableEq

structure Response where
  status : Nat := 200
  headers : Headers := []
  body : Bytes := []
deriving DecidableEq, Inhabited

def bare (status : Nat) : Response := { status }

end JsonRpc.Http
