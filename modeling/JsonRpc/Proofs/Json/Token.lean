import JsonRpc.Proofs.Json.Grammar
import JsonRpc.Proofs.Text.Utf8
import JsonRpc.Json.Scan.Content
import JsonRpc.Json.Scan.Number

namespace JsonRpc

theorem digit_bounds {c : Char} (digit : c.isDigit = true) : 48 ≤ c.toNat ∧ c.toNat ≤ 57 := by
  rw [Char.isDigit, Bool.and_eq_true] at digit
  have low : (48 : UInt32) ≤ c.val := by simpa using digit.1
  have high : c.val ≤ (57 : UInt32) := by simpa using digit.2
  exact ⟨low, high⟩

theorem isDigit_iff {b : UInt8} : isDigit b = true ↔ 48 ≤ b.toNat ∧ b.toNat ≤ 57 := by
  have zero : (ascii '0').toNat = 48 := rfl
  have nine : (ascii '9').toNat = 57 := rfl
  simp [isDigit, UInt8.le_iff_toNat_le, zero, nine]

theorem isDigit_ascii {c : Char} (digit : c.isDigit = true) : isDigit (ascii c) = true := by
  have bounds := digit_bounds digit
  rw [isDigit_iff, toNat_ascii (by omega)]
  exact bounds

theorem ne_of_digit {b : UInt8} (digit : isDigit b = true) {c : Char}
    (outside : (ascii c).toNat < 48 ∨ 57 < (ascii c).toNat) : b ≠ ascii c := by
  rintro rfl
  have bounds := isDigit_iff.mp digit
  omega

namespace Json

/-- What may follow a value in a text: nothing, or what separates or closes. -/
def Ends : Bytes → Prop
  | [] => True
  | b :: _ => b = ascii ',' ∨ b = ascii ']' ∨ b = ascii '\x7d'

theorem Ends.not_digit {rest : Bytes} (ends : Ends rest) : startsWithDigit rest = false := by
  cases rest with
  | nil => rfl
  | cons b rest => rcases ends with rfl | rfl | rfl <;> rfl

theorem Ends.takeDigits {rest : Bytes} (ends : Ends rest) (n : Nat) :
    takeDigits n rest = (n, 0, rest) := by
  cases rest with
  | nil => rfl
  | cons b rest =>
    have other : isDigit b = false := ends.not_digit
    simp [Json.takeDigits, other]

theorem Ends.scanTail {rest : Bytes} (ends : Ends rest) (plain : Literal) (n : Nat) (start : Int) :
    scanTail plain n start rest = .ok (plain, rest) := by
  cases rest with
  | nil => rfl
  | cons b rest => rcases ends with rfl | rfl | rfl <;> rfl

theorem ofDigitChars_ge (cs : List Char) (n : Nat) : n ≤ Nat.ofDigitChars 10 cs n := by
  induction cs generalizing n with
  | nil => simp
  | cons c cs hypothesis =>
    have more := hypothesis (10 * n + (c.toNat - '0'.toNat))
    rw [Nat.ofDigitChars_cons]
    omega

theorem takeDigits_chars {cs : List Char} (digits : ∀ c ∈ cs, c.isDigit = true) (n : Nat)
    (small : Nat.ofDigitChars 10 cs n < 0x10000000000000000) {rest : Bytes} (ends : Ends rest) :
    takeDigits n (Utf8.encodeChars cs ++ rest) = (Nat.ofDigitChars 10 cs n, cs.length, rest) := by
  induction cs generalizing n with
  | nil => simpa [Utf8.encodeChars] using ends.takeDigits n
  | cons c cs hypothesis =>
    have digit := digits c List.mem_cons_self
    have bounds := digit_bounds digit
    have value : n * 10 + digitValue (ascii c) = 10 * n + (c.toNat - '0'.toNat) := by
      rw [digitValue, toNat_ascii (by omega), Nat.mul_comm]
      rfl
    have inside := ofDigitChars_ge cs (10 * n + (c.toNat - '0'.toNat))
    rw [Nat.ofDigitChars_cons] at small ⊢
    have more := hypothesis (fun d member => digits d (List.mem_cons_of_mem _ member)) _ small
    rw [Utf8.encodeChars_cons_low (by omega), List.cons_append, takeDigits, value,
      if_pos ⟨isDigit_ascii digit, by omega⟩, more]
    rfl

theorem scanLiteral_decimal {n : Nat} (small : n < 0x10000000000000000) {rest : Bytes}
    (ends : Ends rest) :
    scanLiteral (Utf8.encodeChars (decimal n) ++ rest) = .ok (.whole n, rest) := by
  have value : Nat.ofDigitChars 10 (decimal n) 0 = n := Nat.ofDigitChars_ten_toDigits
  have integer := decimal_integer n
  generalize decimal n = cs at value integer
  cases integer with
  | zero =>
    obtain rfl : 0 = n := value
    have read : Utf8.encodeChars ['0'] ++ rest = ascii '0' :: rest := rfl
    rw [read, scanLiteral, if_pos rfl, ends.not_digit, if_neg (by simp), ends.scanTail]
  | @digits c cs digit leading more =>
    have bounds := digit_bounds digit
    have other : ascii c ≠ ascii '0' := by
      intro same
      apply leading
      apply Char.toNat_inj.mp
      rw [← toNat_ascii (by omega), same]
      rfl
    have first : digitValue (ascii c) = c.toNat - '0'.toNat := by
      rw [digitValue, toNat_ascii (by omega)]
      rfl
    have surplus : (rest.takeWhile isDigit).length = 0 := by
      cases rest with
      | nil => rfl
      | cons b rest => simp [show isDigit b = false from ends.not_digit]
    rw [Nat.ofDigitChars_cons, Nat.mul_zero, Nat.zero_add] at value
    have taken := takeDigits_chars more (c.toNat - '0'.toNat) (by omega) ends
    rw [value] at taken
    rw [Utf8.encodeChars_cons_low (by omega), List.cons_append, scanLiteral, if_neg other,
      if_pos (isDigit_ascii digit), first, taken]
    simp only [surplus, if_true]
    exact ends.scanTail _ _ _

theorem scanNumber_natural {n : Nat} {w : Word} (word : w.val = n) {rest : Bytes}
    (ends : Ends rest) :
    scanNumber false (Utf8.encodeChars (decimal n) ++ rest) = .ok (.whole w, rest) := by
  have upper := w.upper
  have small : n < 0x10000000000000000 := by omega
  have literal : (Literal.whole n).number? false = some (.whole w) := by
    obtain ⟨val, lower, bound⟩ := w
    obtain rfl : val = n := word
    simp [Literal.number?, small]
  simp only [scanNumber, scanLiteral_decimal small ends, bind, Except.bind, literal]

theorem scanNumber_negated {n : Nat} {w : Word} (word : w.val = -(n : Int)) (some_size : 0 < n)
    {rest : Bytes} (ends : Ends rest) :
    scanNumber true (Utf8.encodeChars (decimal n) ++ rest) = .ok (.whole w, rest) := by
  have lower := w.lower
  have small : n < 0x10000000000000000 := by omega
  have literal : (Literal.whole n).number? true = some (.whole w) := by
    have bound : n ≤ 0x8000000000000000 := by omega
    obtain ⟨val, down, up⟩ := w
    obtain rfl : val = -(n : Int) := word
    simp [Literal.number?, small, some_size, bound]
  simp only [scanNumber, scanLiteral_decimal small ends, bind, Except.bind, literal]

def Plain (b : UInt8) : Prop := b ≠ ascii '"' ∧ b ≠ ascii '\\' ∧ ¬ b < 0x20

def Behind (front : Bytes) (read : Except Failure (Bytes × Bytes)) :
    Except Failure (Bytes × Bytes) :=
  read.map fun (content, rest) => (front ++ content, rest)

theorem scanContent_plain {front : Bytes} (plain : ∀ b ∈ front, Plain b) (tail : Bytes) :
    scanContent (front ++ tail) = Behind front (scanContent tail) := by
  induction front with
  | nil =>
    rw [List.nil_append]
    cases scanContent tail <;> rfl
  | cons b front hypothesis =>
    obtain ⟨quote, slash, visible⟩ := plain b List.mem_cons_self
    have more := hypothesis fun c member => plain c (List.mem_cons_of_mem _ member)
    simp only [List.cons_append]
    rw [scanContent.eq_def]
    simp only [if_neg quote, if_neg slash, if_neg visible, more]
    cases scanContent tail <;> rfl

theorem plain_of_high {b : UInt8} (high : 0x80 ≤ b.toNat) : Plain b := by
  refine ⟨?_, ?_, ?_⟩
  · rintro rfl
    exact absurd high (by decide)
  · rintro rfl
    exact absurd high (by decide)
  · rw [UInt8.lt_iff_toNat_lt]
    exact Nat.not_lt.mpr (Nat.le_trans (by decide) high)

theorem encodePoint_high {c : Char} (high : 0x80 ≤ c.toNat) :
    ∀ b ∈ Utf8.encodePoint c.toNat, 0x80 ≤ b.toNat := by
  have valid : c.toNat < 0xd800 ∨ 0xdfff < c.toNat ∧ c.toNat < 0x110000 := c.valid
  intro b member
  rw [Utf8.encodePoint, if_neg (by omega)] at member
  split at member
  · simp only [List.mem_cons, List.not_mem_nil, or_false] at member
    rcases member with rfl | rfl
    all_goals rw [toNat_toUInt8 (by omega)]; omega
  · split at member
    · simp only [List.mem_cons, List.not_mem_nil, or_false] at member
      rcases member with rfl | rfl | rfl
      all_goals rw [toNat_toUInt8 (by omega)]; omega
    · simp only [List.mem_cons, List.not_mem_nil, or_false] at member
      rcases member with rfl | rfl | rfl | rfl
      all_goals rw [toNat_toUInt8 (by omega)]; omega

theorem encodePoint_plain {c : Char} (unescaped : shortEscape? c = none)
    (visible : 0x20 ≤ c.toNat) : ∀ b ∈ Utf8.encodePoint c.toNat, Plain b := by
  intro b member
  by_cases low : c.toNat < 0x80
  · have byte : c.toNat.toUInt8 = ascii c := toUInt8_eq (toNat_ascii low).symm
    rw [Utf8.encodePoint, if_pos low, byte] at member
    obtain rfl := List.mem_singleton.mp member
    have self : ∀ d : Char, d.toNat < 0x80 → ascii c = ascii d → c = d := by
      intro d small same
      apply Char.toNat_inj.mp
      rw [← toNat_ascii low, same, toNat_ascii small]
    refine ⟨fun same => ?_, fun same => ?_, ?_⟩
    · obtain rfl := self '"' (by decide) same
      cases unescaped
    · obtain rfl := self '\\' (by decide) same
      cases unescaped
    · rw [UInt8.lt_iff_toNat_lt, toNat_ascii low]
      exact Nat.not_lt.mpr visible
  · exact plain_of_high (encodePoint_high (by omega) b member)

theorem hexQuad?_control {n : Nat} (control : n < 0x20) :
    hexQuad? (ascii '0') (ascii '0') (ascii (hexDigit (n / 16))) (ascii (hexDigit n)) = some n := by
  have every : ∀ k : Fin 0x20, hexQuad? (ascii '0') (ascii '0') (ascii (hexDigit (k.val / 16)))
      (ascii (hexDigit k.val)) = some k.val := by decide +kernel
  exact every ⟨n, control⟩

theorem toNat_hexDigit (n : Nat) : (hexDigit n).toNat < 0x80 := by
  have every : ∀ k : Fin 16, (Nat.digitChar k.val).toNat < 0x80 := by decide
  exact every ⟨n % 16, Nat.mod_lt _ (by decide)⟩

theorem scanContent_control {c : Char} (control : c.toNat < 0x20) (tail : Bytes) :
    let escape := ['\\', 'u', '0', '0', hexDigit (c.toNat / 16), hexDigit c.toNat]
    scanContent (Utf8.encodeChars escape ++ tail) =
      Behind (Utf8.encodePoint c.toNat) (scanContent tail) := by
  intro escape
  have quad := hexQuad?_control control
  have low : isLowSurrogate c.toNat = false := by
    rw [isLowSurrogate, Bool.and_eq_false_iff, decide_eq_false_iff_not]
    exact .inl (by omega)
  have high : isHighSurrogate c.toNat = false := by
    rw [isHighSurrogate, Bool.and_eq_false_iff, decide_eq_false_iff_not]
    exact .inl (by omega)
  rw [Utf8.encodeChars_cons_low (by decide), Utf8.encodeChars_cons_low (by decide),
    Utf8.encodeChars_cons_low (by decide), Utf8.encodeChars_cons_low (by decide),
    Utf8.encodeChars_cons_low (toNat_hexDigit _), Utf8.encodeChars_cons_low (toNat_hexDigit _)]
  simp only [List.cons_append]
  rw [scanContent, if_neg (by decide), if_pos rfl]
  simp only [if_true, quad, low, high, Bool.false_eq_true, if_false, Utf8.encodeChars_nil,
    List.nil_append]
  cases scanContent tail <;> rfl

theorem scanContent_short {c e : Char} (escaped : shortEscape? c = some e) (tail : Bytes) :
    scanContent (Utf8.encodeChars ['\\', e] ++ tail) =
      Behind (Utf8.encodePoint c.toNat) (scanContent tail) := by
  simp only [shortEscape?] at escaped
  have step : ∀ (d : Char) (b : UInt8), d.toNat < 0x80 → ascii d ≠ ascii 'u' →
      shortEscaped? (ascii d) = some b → Utf8.encodePoint c.toNat = [b] →
      scanContent (Utf8.encodeChars ['\\', d] ++ tail) =
        Behind (Utf8.encodePoint c.toNat) (scanContent tail) := by
    intro d b low other short alone
    rw [Utf8.encodeChars_cons_low (by decide), Utf8.encodeChars_cons_low low, alone]
    simp only [List.cons_append]
    rw [scanContent.eq_def]
    simp only [if_neg (show ascii '\\' ≠ ascii '"' by decide), if_true, if_neg other, short,
      Utf8.encodeChars_nil, List.nil_append]
    cases scanContent tail <;> rfl
  repeat' split at escaped
  all_goals cases escaped
  all_goals rename_i same
  all_goals subst same
  all_goals exact step _ _ (by decide) (by decide) rfl rfl

theorem scanContent_char (c : Char) (tail : Bytes) :
    scanContent (Utf8.encodeChars (writeChar c) ++ tail) =
      Behind (Utf8.encodePoint c.toNat) (scanContent tail) := by
  rw [writeChar]
  cases escaped : shortEscape? c with
  | some e => exact scanContent_short escaped tail
  | none =>
    by_cases control : c.toNat < 0x20
    · simp only [control, if_true]
      exact scanContent_control control tail
    · simp only [control, if_false]
      rw [Utf8.encodeChars_cons, Utf8.encodeChars_nil, List.append_nil]
      exact scanContent_plain (encodePoint_plain escaped (Nat.not_lt.mp control)) tail

theorem scanContent_chars (cs : List Char) (rest : Bytes) :
    scanContent (Utf8.encodeChars (cs.flatMap writeChar) ++ ascii '"' :: rest) =
      .ok (Utf8.encodeChars cs, rest) := by
  induction cs with
  | nil =>
    simp only [List.flatMap_nil, Utf8.encodeChars_nil, List.nil_append]
    rw [scanContent.eq_def]
    rfl
  | cons c cs hypothesis =>
    rw [List.flatMap_cons, Utf8.encodeChars_append, List.append_assoc, scanContent_char, hypothesis]
    rfl

theorem scanString_written (s : String) (rest : Bytes) :
    scanString (Utf8.encodeChars (s.toList.flatMap writeChar) ++ ascii '"' :: rest) =
      .ok (s, rest) := by
  have text : Utf8.decode (Utf8.encodeChars s.toList) = .ok s.toList :=
    Utf8.decode_eq_ok_iff.mpr rfl
  simp only [scanString, scanContent_chars, bind, Except.bind, text, String.ofList_toList]

end Json

end JsonRpc
