import JsonRpc.Json.Refusal

namespace JsonRpc.Json

/-- A refusal met while reading. `back` columns lie between the place to report and the bytes that
are left. A failure that is not settled gets its place from the list or object around it. -/
structure Failure where
  refusal : Refusal
  rest : Bytes
  back : Nat
  settled : Bool

def refuse {α : Type} (refusal : Refusal) (rest : Bytes) : Except Failure α :=
  .error { refusal, rest, back := 0, settled := true }

def refuseInside {α : Type} (refusal : Refusal) (rest : Bytes) : Except Failure α :=
  .error { refusal, rest, back := 0, settled := false }

abbrev Reader (α : Type) := Bytes → Except Failure (α × Bytes)

def Failure.error (text : Bytes) (f : Failure) : Error :=
  let place := Position.after (text.take (text.length - f.rest.length))
  { refusal := f.refusal, position := some { place with column := place.column - f.back } }

def isBlank (b : UInt8) : Bool :=
  b == ascii ' ' || b == ascii '\n' || b == ascii '\t' || b == ascii '\r'

def skipBlanks (bytes : Bytes) : Bytes := bytes.dropWhile isBlank

def scanIdent : List UInt8 → Bytes → Except Failure Bytes
  | [], rest => .ok rest
  | _ :: _, [] => refuse .endOfValue []
  | e :: expected, b :: rest =>
    if b = e then scanIdent expected rest else refuse .expectedIdent rest

end JsonRpc.Json
