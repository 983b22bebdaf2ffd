import JsonRpc.Fault

namespace JsonRpc

/-- An id of null is present; no id at all is absent. -/
structure Envelope where
  id : Option Json := none
  version : String := ""
  method : String := ""
  params : Option Json := none
  result : Option Json := none
  error : Option Fault := none
deriving DecidableEq, Inhabited

def protocolVersion : String := "2.0"

def splitAtDot? (s : String) : Option (String × String) :=
  let cs := s.toList
  let before := cs.takeWhile (· != '.')
  match cs.drop before.length with
  | [] => none
  | _ :: after => some (String.ofList before, String.ofList after)

def splitMethod (method : String) : Except Fault (String × String) :=
  match splitAtDot? method with
  | some (space, name) =>
    if space ≠ "" ∧ name ≠ "" then .ok (space, name) else .error (.noMethod "wrong method")
  | none => .error (.noMethod "wrong method")

namespace Envelope

def placeholderId : Json := Json.ofWord ⟨1, by decide, by decide⟩

def lenientFault (value : Option Json) : Option Fault :=
  value.bind fun record => (Fault.codec.decode record).toOption

def layout : Json.Layout Envelope where
  name := "Envelope"
  blank := {}
  fields := [
    { key := "id", required := false,
      codec := Json.Codec.value.map fun id e => { e with id := some id } },
    { key := "jsonrpc", required := false,
      codec := Json.Codec.string.map fun version e => { e with version } },
    { key := "method", required := false,
      codec := Json.Codec.string.map fun method e => { e with method } },
    { key := "params", required := false,
      codec := (Json.Codec.option .value).map fun params e => { e with params } },
    { key := "result", required := false,
      codec := (Json.Codec.option .value).map fun result e => { e with result } },
    { key := "error", required := false,
      codec := (Json.Codec.option .value).map fun record e =>
        { e with error := lenientFault record } }]

def parse (body : Bytes) : Except Fault Envelope :=
  match layout.codec.parse body with
  | .ok e => .ok e
  | .error refused => .error (.parse s!"parse error: {refused.message}")

def hasValidId (e : Envelope) : Bool :=
  match e.id with
  | some id => id.isScalar
  | none => false

def split (e : Envelope) : Except Fault (String × String) := splitMethod e.method

def validate (e : Envelope) : Except Fault Unit :=
  if e.hasValidId then (splitMethod e.method).map fun _ => ()
  else .error (.invalidRequest "id is invalid")

def decode (body : Bytes) : Except Fault Envelope :=
  match parse body with
  | .error fault => .error fault
  | .ok e =>
    match e.validate with
    | .error fault => .error fault
    | .ok () => .ok e

def members (e : Envelope) : List (String × Json) :=
  ("id", e.id.getD .null)
    :: (if e.version = "" then [] else [("jsonrpc", .string e.version)])
    ++ (if e.method = "" then [] else [("method", .string e.method)])
    ++ (e.params.map fun params => ("params", params)).toList
    ++ (e.result.map fun result => ("result", result)).toList
    ++ (e.error.map fun fault => ("error", fault.toJson)).toList

def encode (e : Envelope) : Bytes := (Json.object e.members).bytes

def setFault (e : Envelope) (fault : Fault) : Envelope :=
  { e with result := none, error := some fault }

def setResult (e : Envelope) (value : Json) : Envelope :=
  { e with error := none, result := some value }

/-- The envelope as a response: it has an id, states the version, drops the call, and holds
exactly one of a result and a fault, null being a result. -/
def normalize (e : Envelope) : Envelope where
  id := some (e.id.getD placeholderId)
  version := protocolVersion
  method := ""
  params := none
  result := if e.error.isSome then none else some (e.result.getD .null)
  error := e.error

def encodeResponse (e : Envelope) : Bytes := e.normalize.encode

def ofResult (value : Json) : Envelope := (Envelope.setResult {} value).normalize

def ofFault (fault : Fault) : Envelope := (Envelope.setFault {} fault).normalize

end Envelope

end JsonRpc
