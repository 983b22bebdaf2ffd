import JsonRpc.Json.Codec

namespace JsonRpc

inductive FaultCode where
  | parse
  | invalidRequest
  | noMethod
  | badParams
  | internal
  | server
  | authorization
  | forbidden
deriving DecidableEq, Repr

namespace FaultCode

def number : FaultCode → Int
  | .parse => -32700
  | .invalidRequest => -32600
  | .noMethod => -32601
  | .badParams => -32602
  | .internal => -32603
  | .server => -32000
  | .authorization => 401
  | .forbidden => 403

def all : List FaultCode :=
  [.parse, .invalidRequest, .noMethod, .badParams, .internal, .server, .authorization, .forbidden]

def ofNumber? (n : Int) : Option FaultCode := all.find? (·.number == n)

theorem ofNumber?_number (code : FaultCode) : ofNumber? code.number = some code := by
  cases code <;> rfl

theorem number_of_ofNumber? {n : Int} {code : FaultCode} (known : ofNumber? n = some code) :
    code.number = n := by
  have matched := List.find?_some known
  simpa using matched

theorem number_bounds (code : FaultCode) : -32700 ≤ code.number ∧ code.number ≤ 403 := by
  cases code <;> decide

def word (code : FaultCode) : Word :=
  ⟨code.number, by have := code.number_bounds; omega, by have := code.number_bounds; omega⟩

def unknown (n : Int) : String := s!"unknown fault code {n}"

def codec : Json.Codec FaultCode :=
  Json.Codec.int32.refine fun n =>
    match ofNumber? n with
    | some code => .ok code
    | none => .error (.custom (unknown n))

end FaultCode

structure Fault where
  code : FaultCode
  message : String
  data : Option Json
deriving DecidableEq

namespace Fault

def plain (code : FaultCode) (message : String) : Fault := { code, message, data := none }

def parse (message : String) : Fault := plain .parse message

def invalidRequest (message : String) : Fault := plain .invalidRequest message

def noMethod (message : String) : Fault := plain .noMethod message

def badParams (message : String) : Fault := plain .badParams message

def internal (message : String) : Fault := plain .internal message

def server (message : String) : Fault := plain .server message

def withData (fault : Fault) (data : Json) : Fault := { fault with data := some data }

def ofJsonError (e : Json.Error) : Fault := internal e.message

def toJson (fault : Fault) : Json :=
  .object
    (("code", Json.ofWord fault.code.word)
      :: (if fault.message = "" then [] else [("message", .string fault.message)])
      ++ (match fault.data with
        | none => []
        | some data => [("data", data)]))

def layout : Json.Layout Fault where
  name := "Fault"
  blank := plain .server ""
  fields := [
    { key := "code", required := true,
      codec := FaultCode.codec.map fun code fault => { fault with code } },
    { key := "message", required := false,
      codec := Json.Codec.string.map fun message fault => { fault with message } },
    { key := "data", required := false,
      codec := (Json.Codec.option .value).map fun data fault => { fault with data } }]

def codec : Json.Codec Fault := layout.codec

end Fault

inductive ErrorKind where
  | fault (fault : Fault)
  | token
  | forbidden
  | other

/-- An error with the errors that caused it, the outermost first. -/
inductive ErrorChain where
  | last (text : String) (kind : ErrorKind)
  | caused (text : String) (kind : ErrorKind) (source : ErrorChain)

namespace ErrorChain

def text : ErrorChain → String
  | .last text _ => text
  | .caused text _ _ => text

def kinds : ErrorChain → List ErrorKind
  | .last _ kind => [kind]
  | .caused _ kind source => kind :: source.kinds

def ErrorKind.verdict? : ErrorKind → Option (FaultCode × Option Json)
  | .fault fault => some (fault.code, fault.data)
  | .token => some (.authorization, none)
  | .forbidden => some (.forbidden, none)
  | .other => none

def verdict : ErrorChain → FaultCode × Option Json
  | .last _ kind => (ErrorKind.verdict? kind).getD (.server, none)
  | .caused _ kind source => (ErrorKind.verdict? kind).getD source.verdict

def toFault (chain : ErrorChain) : Fault :=
  { code := chain.verdict.1, message := chain.text, data := chain.verdict.2 }

end ErrorChain

def Fault.ofToken (message : String) : Fault := plain .authorization message

def Fault.ofForbidden (message : String) : Fault := plain .forbidden message

end JsonRpc
