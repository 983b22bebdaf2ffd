import JsonRpc.Json.Scan

namespace JsonRpc.Json

inductive Literal where
  | whole (n : Nat)
  | scaled (n : Nat) (exponent : Int)

/-- The number that a literal stands for: a whole number if a 64-bit word holds it and it is not a
negated zero, otherwise the scaled significand; nothing when that is too large. -/
def Literal.number? (negative : Bool) : Literal → Option Number
  | .whole n =>
    if bounds : n < 0x10000000000000000 then
      if negative then
        if small : 0 < n ∧ n ≤ 0x8000000000000000 then some (.whole ⟨-n, by omega, by omega⟩)
        else some (.real (.ofFloat (-(Binary64.nearest n))))
      else some (.whole ⟨n, by omega, by omega⟩)
    else none
  | .scaled n exponent =>
    (Binary64.ofParts n exponent).map fun x =>
      .real (.ofFloat (if negative then -x else x))

def startsWithDigit : Bytes → Bool
  | [] => false
  | b :: _ => isDigit b

/-- Appends digits to a number while it stays below `2 ^ 64`: the number, how many digits it took
and what is left. -/
def takeDigits (n : Nat) : Bytes → Nat × Nat × Bytes
  | [] => (n, 0, [])
  | b :: rest =>
    if isDigit b ∧ n * 10 + digitValue b < 0x10000000000000000 then
      let (m, count, rest) := takeDigits (n * 10 + digitValue b) rest
      (m, count + 1, rest)
    else (n, 0, b :: rest)

def takeExponent (n : Nat) : Bytes → Except Bytes (Nat × Bytes)
  | [] => .ok (n, [])
  | b :: rest =>
    if isDigit b then
      if n * 10 + digitValue b < 0x80000000 then takeExponent (n * 10 + digitValue b) rest
      else .error rest
    else .ok (n, b :: rest)

def isExponentMark (b : UInt8) : Bool := b == ascii 'e' || b == ascii 'E'

def scanSign : Bytes → Bool × Bytes
  | [] => (false, [])
  | b :: rest =>
    if b = ascii '+' then (false, rest)
    else if b = ascii '-' then (true, rest)
    else (false, b :: rest)

def scanExponent (n : Nat) (start : Int) (bytes : Bytes) : Except Failure (Literal × Bytes) :=
  let (negative, bytes) := scanSign bytes
  match bytes with
  | [] => refuse .endOfValue []
  | b :: rest =>
    if !isDigit b then refuse .invalidNumber rest
    else match takeExponent (digitValue b) rest with
      | .ok (e, rest) => .ok (.scaled n (if negative then start - e else start + e), rest)
      | .error rest =>
        if n ≠ 0 ∧ !negative then refuse .numberOutOfRange rest
        else .ok (.scaled 0 0, rest.dropWhile isDigit)

/-- What may follow the digits of `n * 10 ^ start`: an exponent, or the end of the number. -/
def scanScale (n : Nat) (start : Int) : Bytes → Except Failure (Literal × Bytes)
  | [] => .ok (.scaled n start, [])
  | b :: rest =>
    if isExponentMark b then scanExponent n start rest else .ok (.scaled n start, b :: rest)

def scanFraction (n : Nat) (start : Int) (bytes : Bytes) : Except Failure (Literal × Bytes) :=
  let (n, count, rest) := takeDigits n bytes
  if startsWithDigit rest then scanScale n (start - count) (rest.dropWhile isDigit)
  else if count = 0 then
    match rest with
    | [] => refuse .endOfValue []
    | _ :: rest => refuse .invalidNumber rest
  else scanScale n (start - count) rest

def scanTail (plain : Literal) (n : Nat) (start : Int) : Bytes → Except Failure (Literal × Bytes)
  | [] => .ok (plain, [])
  | b :: rest =>
    if b = ascii '.' then scanFraction n start rest
    else if isExponentMark b then scanExponent n start rest
    else .ok (plain, b :: rest)

def scanLiteral : Bytes → Except Failure (Literal × Bytes)
  | [] => refuse .endOfValue []
  | b :: rest =>
    if b = ascii '0' then
      if startsWithDigit rest then refuse .invalidNumber rest.tail
      else scanTail (.whole 0) 0 0 rest
    else if isDigit b then
      let (n, _, rest) := takeDigits (digitValue b) rest
      let surplus := (rest.takeWhile isDigit).length
      if surplus = 0 then scanTail (.whole n) n 0 rest
      else scanTail (.scaled n surplus) n surplus (rest.dropWhile isDigit)
    else refuse .invalidNumber rest

def scanNumber (negative : Bool) (bytes : Bytes) : Except Failure (Number × Bytes) := do
  let (literal, rest) ← scanLiteral bytes
  match literal.number? negative with
  | some n => .ok (n, rest)
  | none => refuse .numberOutOfRange rest

end JsonRpc.Json
