import JsonRpc.Bytes

namespace JsonRpc.Hex

def upperDigit (n : Nat) : UInt8 := if n < 10 then (48 + n).toUInt8 else (55 + n).toUInt8

def encode (bytes : Bytes) : Bytes :=
  bytes.flatMap fun b => [upperDigit (b.toNat / 16), upperDigit (b.toNat % 16)]

inductive Error where
  | oddLength
  | badDigit (digit : UInt8) (index : Nat)

def decodeFrom (index : Nat) : Bytes → Except Error Bytes
  | a :: b :: rest =>
    match hexValue? a with
    | none => .error (.badDigit a index)
    | some high =>
      match hexValue? b with
      | none => .error (.badDigit b (index + 1))
      | some low => do
        let more ← decodeFrom (index + 2) rest
        .ok ((high * 16 + low).toUInt8 :: more)
  | _ => .ok []

def decode (text : Bytes) : Except Error Bytes :=
  if text.length % 2 = 0 then decodeFrom 0 text else .error .oddLength

theorem hexValue?_upperDigit {n : Nat} (small : n < 16) : hexValue? (upperDigit n) = some n := by
  have every : ∀ k : Fin 16, hexValue? (upperDigit k.val) = some k.val := by decide
  exact every ⟨n, small⟩

theorem length_encode (bytes : Bytes) : (encode bytes).length = 2 * bytes.length := by
  induction bytes with
  | nil => rfl
  | cons b rest hypothesis =>
    simp only [encode, List.flatMap_cons, List.length_append, List.length_cons,
      List.length_nil] at hypothesis ⊢
    omega

end JsonRpc.Hex
