import JsonRpc.Cipher.Hex

namespace JsonRpc

def upperLetter (b : UInt8) : UInt8 := if ascii 'a' ≤ b ∧ b ≤ ascii 'z' then b - 32 else b

namespace Hex

theorem hexValue?_upperLetter (b : UInt8) : hexValue? (upperLetter b) = hexValue? b := by
  revert b
  exact every_byte (by decide +kernel)

theorem upperLetter_upperDigit {n : Nat} (small : n < 16) :
    upperLetter (upperDigit n) = upperDigit n := by
  have every : ∀ k : Fin 16, upperLetter (upperDigit k.val) = upperDigit k.val := by decide
  exact every ⟨n, small⟩

theorem upperLetter_of_hexValue? {b : UInt8} {n : Nat} (value : hexValue? b = some n) :
    upperLetter b = upperDigit n := by
  have every : ∀ k : Fin 256, ∀ m ∈ hexValue? (UInt8.ofNat k.val),
      upperLetter (UInt8.ofNat k.val) = upperDigit m := by decide +kernel
  exact every_byte (P := fun b => ∀ m ∈ hexValue? b, upperLetter b = upperDigit m) every b n value

theorem encode_cons (b : UInt8) (bytes : Bytes) :
    encode (b :: bytes) = upperDigit (b.toNat / 16) :: upperDigit (b.toNat % 16) :: encode bytes :=
  rfl

theorem upperLetter_encode (bytes : Bytes) : (encode bytes).map upperLetter = encode bytes := by
  induction bytes with
  | nil => rfl
  | cons b bytes hypothesis =>
    have bound := b.toNat_lt
    rw [encode_cons, List.map_cons, List.map_cons, hypothesis,
      upperLetter_upperDigit (by omega), upperLetter_upperDigit (by omega)]

theorem upper_of_decodeFrom {index : Nat} {text bytes : Bytes} (even : text.length % 2 = 0)
    (read : decodeFrom index text = .ok bytes) : text.map upperLetter = encode bytes := by
  fun_induction decodeFrom index text generalizing bytes with
  | case1 | case2 => cases read
  | case3 index a b rest high above low below hypothesis =>
    cases more : decodeFrom (index + 2) rest with
    | error e => simp [more, bind, Except.bind] at read
    | ok others =>
      obtain rfl : (high * 16 + low).toUInt8 :: others = bytes := by
        simpa [more, bind, Except.bind] using read
      have left := hexValue?_lt above
      have right := hexValue?_lt below
      have value : (high * 16 + low).toUInt8.toNat = high * 16 + low := toNat_toUInt8 (by omega)
      have first : (high * 16 + low) / 16 = high := by omega
      have second : (high * 16 + low) % 16 = low := by omega
      have shorter : rest.length % 2 = 0 := by simp only [List.length_cons] at even; omega
      rw [encode_cons, value, first, second, List.map_cons, List.map_cons,
        upperLetter_of_hexValue? above, upperLetter_of_hexValue? below, hypothesis shorter more]
  | case4 text index short =>
    cases read
    match text, even with
    | [], _ => rfl
    | a :: b :: rest, _ => exact absurd rfl (short a b rest)

theorem decodeFrom_of_upper {index : Nat} {text bytes : Bytes}
    (same : text.map upperLetter = encode bytes) : decodeFrom index text = .ok bytes := by
  induction bytes generalizing index text with
  | nil =>
    obtain rfl : text = [] := List.map_eq_nil_iff.mp same
    rfl
  | cons b bytes hypothesis =>
    rw [encode_cons] at same
    obtain ⟨x, text, rfl, first, same⟩ := List.map_eq_cons_iff.mp same
    obtain ⟨y, rest, rfl, second, same⟩ := List.map_eq_cons_iff.mp same
    have bound := b.toNat_lt
    have above : hexValue? x = some (b.toNat / 16) := by
      rw [← hexValue?_upperLetter, first, hexValue?_upperDigit (by omega)]
    have below : hexValue? y = some (b.toNat % 16) := by
      rw [← hexValue?_upperLetter, second, hexValue?_upperDigit (by omega)]
    have whole : (b.toNat / 16 * 16 + b.toNat % 16).toUInt8 = b := toUInt8_eq (by omega)
    simp only [decodeFrom, above, below, hypothesis same, whole]
    rfl

/-- Bytes are read from the text that they are written as in either case, and from no other. -/
theorem decode_eq_ok_iff {text bytes : Bytes} :
    decode text = .ok bytes ↔ text.map upperLetter = encode bytes := by
  rw [decode]
  constructor
  · intro read
    split at read
    · rename_i even
      exact upper_of_decodeFrom even read
    · cases read
  · intro same
    have even : text.length = 2 * bytes.length := by
      rw [← length_encode, ← same, List.length_map]
    rw [if_pos (by omega)]
    exact decodeFrom_of_upper same

end Hex

end JsonRpc
