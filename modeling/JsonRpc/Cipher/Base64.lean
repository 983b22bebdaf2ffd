import JsonRpc.Bytes

namespace JsonRpc.Base64

def symbol (n : Nat) : UInt8 :=
  if n < 26 then (65 + n).toUInt8
  else if n < 52 then (71 + n).toUInt8
  else if n < 62 then (n - 4).toUInt8
  else if n = 62 then ascii '+'
  else ascii '/'

def value? (b : UInt8) : Option Nat :=
  if ascii 'A' ≤ b ∧ b ≤ ascii 'Z' then some (b.toNat - 65)
  else if ascii 'a' ≤ b ∧ b ≤ ascii 'z' then some (b.toNat - 71)
  else if ascii '0' ≤ b ∧ b ≤ ascii '9' then some (b.toNat + 4)
  else if b = ascii '+' then some 62
  else if b = ascii '/' then some 63
  else none

theorem value?_symbol {n : Nat} (small : n < 64) : value? (symbol n) = some n := by
  have every : ∀ k : Fin 64, value? (symbol k.val) = some k.val := by decide
  exact every ⟨n, small⟩

def padSign : UInt8 := ascii '='

def encode : Bytes → Bytes
  | [] => []
  | [a] => [symbol (a.toNat / 4), symbol (a.toNat % 4 * 16), padSign, padSign]
  | [a, b] =>
    [symbol (a.toNat / 4), symbol (a.toNat % 4 * 16 + b.toNat / 16), symbol (b.toNat % 16 * 4),
      padSign]
  | a :: b :: c :: rest =>
    symbol (a.toNat / 4) :: symbol (a.toNat % 4 * 16 + b.toNat / 16)
      :: symbol (b.toNat % 16 * 4 + c.toNat / 64) :: symbol (c.toNat % 64) :: encode rest

inductive Error where
  | badSymbol (symbol : UInt8) (index : Nat)
  | badLastSymbol (symbol : UInt8) (index : Nat)
  | badLength (length : Nat)
  | badPadding

def Error.message : Error → String
  | .badSymbol symbol index => s!"Invalid symbol {symbol.toNat}, offset {index}."
  | .badLastSymbol symbol index => s!"Invalid last symbol {symbol.toNat}, offset {index}."
  | .badLength length => s!"Invalid input length: {length}"
  | .badPadding => "Invalid padding"

def values (index : Nat) : Bytes → Except Error (List Nat)
  | [] => .ok []
  | b :: rest =>
    match value? b with
    | none => .error (.badSymbol b index)
    | some n => do
      let more ← values (index + 1) rest
      .ok (n :: more)

def pack : List Nat → Bytes
  | a :: b :: c :: d :: rest =>
    (a * 4 + b / 16).toUInt8 :: (b % 16 * 16 + c / 4).toUInt8 :: (c % 4 * 64 + d).toUInt8
      :: pack rest
  | [a, b, c] => [(a * 4 + b / 16).toUInt8, (b % 16 * 16 + c / 4).toUInt8]
  | [a, b] => [(a * 4 + b / 16).toUInt8]
  | _ => []

def unusedBits : List Nat → Nat
  | [_, b] => b % 16
  | [_, _, c] => c % 4
  | _ => 0

def decodeGroup (index : Nat) (group : Bytes) : Except Error Bytes := do
  let symbols := group.takeWhile (· != padSign)
  let padding := group.drop symbols.length
  let values ← values index symbols
  let count := symbols.length
  if padding ≠ [] ∧ (count < 2 ∨ padding.any (· != padSign)) then
    .error (.badSymbol padSign (index + count))
  else if index + group.length ≠ 0 ∧ count < 2 then .error (.badLength (index + count))
  else if (count + padding.length) % 4 ≠ 0 then .error .badPadding
  else if unusedBits values ≠ 0 then
    .error (.badLastSymbol (symbols.getLastD 0) (index + count - 1))
  else .ok (pack values)

def strayEnd? (text : Bytes) : Option UInt8 :=
  if text.length % 4 = 1 then
    text.getLast?.filter fun last => last != padSign && (value? last).isNone
  else none

def decode (text : Bytes) : Except Error Bytes := do
  match strayEnd? text with
  | some last => .error (.badSymbol last (text.length - 1))
  | none =>
    let start := (text.length - 1) / 4 * 4
    let values ← values 0 (text.take start)
    let final ← decodeGroup start (text.drop start)
    .ok (pack values ++ final)

end JsonRpc.Base64
