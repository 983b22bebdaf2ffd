import JsonRpc.Admission
import JsonRpc.Bytes
import Mathlib.Data.Nat.Digits.Defs

namespace JsonRpc

namespace Admission

open Http

def denoted (digits : Bytes) : Nat := Nat.ofDigits 10 (digits.reverse.map digitValue)

/-- A header value that is a string of digits between blanks and tabs. -/
inductive Declares : Bytes → Nat → Prop
  | digits {leading digits trailing : Bytes}
    (before : ∀ b ∈ leading, b = ascii ' ' ∨ b = ascii '\t') (some_digits : digits ≠ [])
    (decimal : ∀ b ∈ digits, isDigit b = true)
    (after : ∀ b ∈ trailing, b = ascii ' ' ∨ b = ascii '\t') :
    Declares (leading ++ digits ++ trailing) (denoted digits)

/-- A header value that stands for a number. A plus sign may be put in front of the digits. -/
inductive Counts : Bytes → Nat → Prop
  | digits {leading sign digits trailing : Bytes}
    (before : ∀ b ∈ leading, b = ascii ' ' ∨ b = ascii '\t') (signed : sign = [] ∨ sign = [ascii '+'])
    (some_digits : digits ≠ []) (decimal : ∀ b ∈ digits, isDigit b = true)
    (after : ∀ b ∈ trailing, b = ascii ' ' ∨ b = ascii '\t') :
    Counts (leading ++ (sign ++ digits) ++ trailing) (denoted digits)

theorem Declares.counts {value : Bytes} {n : Nat} (declares : Declares value n) :
    Counts value n := by
  obtain ⟨before, some_digits, decimal, after⟩ := declares
  exact .digits before (.inl rfl) some_digits decimal after

def charOf (b : UInt8) : Char := Char.ofNat b.toNat

theorem digit_visible : ∀ b : UInt8, isDigit b = true → isVisible b = true ∧
    Text.isBlank (charOf b) = false ∧ (charOf b).toNat = b.toNat ∧
    48 ≤ b.toNat ∧ b.toNat ≤ 57 :=
  every_byte (by decide +kernel)

theorem space_visible {b : UInt8} (space : b = ascii ' ' ∨ b = ascii '\t') :
    isVisible b = true ∧ Text.isBlank (charOf b) = true := by
  rcases space with rfl | rfl <;> decide

theorem foldl_eq_ofDigits (ds : List Nat) :
    ds.foldl (fun n d => n * 10 + d) 0 = Nat.ofDigits 10 ds.reverse := by
  rw [Nat.ofDigits_eq_foldr, List.foldr_reverse]
  congr 1
  funext n d
  rw [Nat.cast_id, Nat.add_comm, Nat.mul_comm]

theorem digits?_of_decimal {digits : Bytes} (some_digits : digits ≠ [])
    (decimal : ∀ b ∈ digits, isDigit b = true) :
    digits? (digits.map charOf) = some (denoted digits) := by
  have all : (digits.map charOf).all (fun c => 48 ≤ c.toNat && c.toNat ≤ 57) = true := by
    rw [List.all_map, List.all_eq_true]
    intro b member
    obtain ⟨-, -, same, low, high⟩ := digit_visible b (decimal b member)
    simp [same, low, high]
  have values : (digits.map charOf).map (fun c => c.toNat - 48) = digits.map digitValue := by
    rw [List.map_map]
    refine List.map_congr_left fun b member => ?_
    obtain ⟨-, -, same, -⟩ := digit_visible b (decimal b member)
    rw [Function.comp_apply, same]
    rfl
  have folded : (digits.map charOf).foldl (fun n c => n * 10 + (c.toNat - 48)) 0 =
      denoted digits := by
    rw [← List.foldl_map (f := fun c : Char => c.toNat - 48) (g := fun n d => n * 10 + d), values,
      foldl_eq_ofDigits, denoted, List.map_reverse]
  rw [digits?, if_pos ⟨by simpa using some_digits, all⟩, folded]

theorem nat64?_of_signed {sign digits : Bytes} (signed : sign = [] ∨ sign = [ascii '+'])
    (some_digits : digits ≠ []) (decimal : ∀ b ∈ digits, isDigit b = true) :
    nat64? ((sign ++ digits).map charOf) =
      if denoted digits < 2 ^ 64 then some (denoted digits) else none := by
  have read := digits?_of_decimal some_digits decimal
  have unsigned : ∀ rest, digits.map charOf ≠ '+' :: rest := by
    intro rest same
    have plus : '+' ∈ digits.map charOf := by simp [same]
    obtain ⟨b, member, sign⟩ := List.mem_map.mp plus
    obtain ⟨-, -, code, low, -⟩ := digit_visible b (decimal b member)
    rw [sign] at code
    have small : '+'.toNat = 43 := rfl
    omega
  rcases signed with rfl | rfl
  · rw [List.nil_append, nat64?, read, Option.filter_some]
    · simp only [decide_eq_true_eq, Nat.reducePow]
    · exact unsigned
  · have plus : ([ascii '+'] ++ digits).map charOf = '+' :: digits.map charOf := by
      rw [List.map_append]
      rfl
    simp only [plus, nat64?, read, Option.filter_some, decide_eq_true_eq, Nat.reducePow]

theorem lengthOf?_of_counts {value : Bytes} {n : Nat} (counts : Counts value n) :
    lengthOf? value = if n < 2 ^ 64 then some n else none := by
  obtain ⟨before, signed, some_digits, decimal, after⟩ := counts
  rename_i leading sign digits trailing
  have shown : ∀ b ∈ sign ++ digits, isVisible b = true ∧ Text.isBlank (charOf b) = false := by
    intro b member
    rcases List.mem_append.mp member with inside | inside
    · rcases signed with rfl | rfl
      · cases inside
      · obtain rfl := List.mem_singleton.mp inside
        decide
    · obtain ⟨visible, apart, -⟩ := digit_visible b (decimal b inside)
      exact ⟨visible, apart⟩
  have visible : (leading ++ (sign ++ digits) ++ trailing).all isVisible = true := by
    rw [List.all_append, List.all_append, Bool.and_eq_true, Bool.and_eq_true, List.all_eq_true,
      List.all_eq_true, List.all_eq_true]
    refine ⟨⟨fun b member => ?_, fun b member => ?_⟩, fun b member => ?_⟩
    · exact (space_visible (before b member)).1
    · exact (shown b member).1
    · exact (space_visible (after b member)).1
  have trimmed : Text.trim ((leading ++ (sign ++ digits) ++ trailing).map charOf) =
      (sign ++ digits).map charOf := by
    have whole : (leading ++ (sign ++ digits) ++ trailing).map charOf =
        leading.map charOf ++ (sign ++ digits).map charOf ++ trailing.map charOf := by
      rw [List.map_append, List.map_append]
    rw [whole]
    refine Text.trim_surrounded ?_ ?_ ?_
    · intro c member
      obtain ⟨b, inside, rfl⟩ := List.mem_map.mp member
      exact (shown b inside).2
    · intro c member
      obtain ⟨b, inside, rfl⟩ := List.mem_map.mp member
      exact (space_visible (before b inside)).2
    · intro c member
      obtain ⟨b, inside, rfl⟩ := List.mem_map.mp member
      exact (space_visible (after b inside)).2
  rw [lengthOf?, if_pos visible]
  exact (congrArg nat64? trimmed).trans (nat64?_of_signed signed some_digits decimal)

theorem toNat_charOf : ∀ b : UInt8, (charOf b).toNat = b.toNat :=
  every_byte (by decide +kernel)

theorem charOf_injective : Function.Injective charOf := by
  intro a b same
  rw [← UInt8.toNat_inj, ← toNat_charOf, ← toNat_charOf, same]

theorem space_of_blank : ∀ b : UInt8, isVisible b = true → Text.isBlank (charOf b) = true →
    b = ascii ' ' ∨ b = ascii '\t' :=
  every_byte (by decide +kernel)

theorem digit_of_charOf : ∀ b : UInt8, 48 ≤ (charOf b).toNat → (charOf b).toNat ≤ 57 →
    isDigit b = true :=
  every_byte (by decide +kernel)

theorem decimal_of_digits? {digits : Bytes} {n : Nat} (read : digits? (digits.map charOf) = some n) :
    digits ≠ [] ∧ ∀ b ∈ digits, isDigit b = true := by
  rw [digits?] at read
  split at read
  · rename_i decimal
    refine ⟨by simpa using decimal.1, fun b member => ?_⟩
    have code := List.all_eq_true.mp decimal.2 _ (List.mem_map_of_mem member)
    simp only [Bool.and_eq_true, decide_eq_true_eq] at code
    exact digit_of_charOf b code.1 code.2
  · cases read

theorem signed_of_nat64? {number : Bytes} {n : Nat} (read : nat64? (number.map charOf) = some n) :
    ∃ sign digits, number = sign ++ digits ∧ (sign = [] ∨ sign = [ascii '+']) ∧ digits ≠ [] ∧
      ∀ b ∈ digits, isDigit b = true := by
  have plus : charOf (ascii '+') = '+' := by decide
  unfold nat64? at read
  split at read
  · rename_i rest same
    obtain ⟨b, digits, rfl, first, rfl⟩ := List.map_eq_cons_iff.mp same
    obtain rfl := charOf_injective (first.trans plus.symm)
    have decimal := decimal_of_digits? (Option.filter_eq_some_iff.mp read).1
    exact ⟨[ascii '+'], digits, rfl, .inr rfl, decimal⟩
  · have decimal := decimal_of_digits? (Option.filter_eq_some_iff.mp read).1
    exact ⟨[], number, rfl, .inl rfl, decimal⟩

theorem counts_of_lengthOf? {value : Bytes} {n : Nat} (read : lengthOf? value = some n) :
    Counts value n := by
  have whole := read
  rw [lengthOf?] at read
  split at read
  · rename_i visible
    obtain ⟨front, back, parts, leading, trailing⟩ := Text.trim_split (value.map charOf)
    obtain ⟨rest, after, rfl, split, rfl⟩ := List.map_eq_append_iff.mp parts
    obtain ⟨before, core, rfl, rfl, trimmed⟩ := List.map_eq_append_iff.mp split
    have outside : ∀ blanks : Bytes, (∀ b ∈ blanks, b ∈ before ++ core ++ after) →
        (∀ c ∈ blanks.map charOf, Text.isBlank c = true) →
        ∀ b ∈ blanks, b = ascii ' ' ∨ b = ascii '\t' := by
      intro blanks inside blank b member
      exact space_of_blank b (List.all_eq_true.mp visible b (inside b member))
        (blank _ (List.mem_map_of_mem member))
    have first := outside before (by simp +contextual) leading
    have last := outside after (by simp +contextual) trailing
    have number : nat64? (core.map charOf) = some n := by rw [trimmed]; exact read
    obtain ⟨sign, digits, rfl, signed, some_digits, decimal⟩ := signed_of_nat64? number
    have counts := Counts.digits first signed some_digits decimal last
    rw [lengthOf?_of_counts counts] at whole
    split at whole
    · exact Option.some.inj whole ▸ counts
    · cases whole
  · cases read

/-- The length that a request declares: the number that its first field of this name stands for, and
zero where that stands for none. -/
def Declared (request : Request) (n : Nat) : Prop :=
  (∃ value more, request.headers.values "content-length" = value :: more ∧ Counts value n) ∨
    n = 0 ∧ ∀ value more m, request.headers.values "content-length" = value :: more →
      ¬ Counts value m

theorem exists_declared (request : Request) : ∃ n, Declared request n := by
  by_cases counted : ∃ n value more,
      request.headers.values "content-length" = value :: more ∧ Counts value n
  · obtain ⟨n, value, more, first, counts⟩ := counted
    exact ⟨n, .inl ⟨value, more, first, counts⟩⟩
  · exact ⟨0, .inr ⟨rfl, fun value more m first counts => counted ⟨m, value, more, first, counts⟩⟩⟩

/-- A length that is no 64-bit number counts as none. -/
def counted (n : Nat) : Nat := if n < 2 ^ 64 then n else 0

theorem contentLength_of_declared {request : Request} {n : Nat} (declared : Declared request n) :
    contentLength request = max (counted n) request.body.length := by
  rw [contentLength, Headers.get?, counted]
  congr 1
  rcases declared with ⟨value, more, first, counts⟩ | ⟨rfl, uncounted⟩
  · rw [first, List.head?_cons, Option.bind_some, lengthOf?_of_counts counts]
    split <;> rfl
  · cases fields : request.headers.values "content-length" with
    | nil => rfl
    | cons value more =>
      rw [List.head?_cons, Option.bind_some]
      cases read : lengthOf? value with
      | none => rfl
      | some k =>
        exact absurd (counts_of_lengthOf? read) (uncounted value more k fields)

/-- A request is judged by a declared length, and by the length of its body if that is larger. -/
structure Honours (request : Request) (n limit : Nat) : Prop where
  refused : ∀ length, rejection? request limit = some (.tooLarge length limit) ↔
    length = max n request.body.length ∧ limit < max n request.body.length
  accepted : rejection? request limit = none ↔ max n request.body.length ≤ limit
  probe : isProbe request = true ↔ request.method = "GET" ∧ request.target.query.getD "" = "" ∧
    n = 0 ∧ request.body.length = 0

theorem honours_of_length {request : Request} {n : Nat}
    (measured : contentLength request = max n request.body.length)
    (reads : isWriteMethod request.method = false) (limit : Nat) : Honours request n limit := by
  have decided : rejection? request limit =
      if limit < max n request.body.length then
        some (.tooLarge (max n request.body.length) limit) else none := by
    rw [rejection?, if_neg (by simp [reads]), measured]
  refine { refused := fun length => ?_, accepted := ?_, probe := ?_ }
  · rw [decided]
    split
    · rename_i long
      simp [long, eq_comm]
    · rename_i fits
      simp [fits]
  · rw [decided]
    split
    · rename_i long
      simp only [reduceCtorEq, false_iff, Nat.not_le, long]
    · rename_i fits
      simp only [Nat.not_lt.mp fits]
  · simp only [isProbe, measured, Bool.and_eq_true, beq_iff_eq, Nat.max_eq_zero_iff]
    tauto

/-- A declared length is honoured at every size that is a 64-bit number. A longer one is judged as
if there were none. -/
theorem honours_declared {request : Request} {value : Bytes} {n : Nat}
    (single : request.headers.values "content-length" = [value]) (declares : Declares value n)
    (reads : isWriteMethod request.method = false) (limit : Nat) :
    (n < 2 ^ 64 → Honours request n limit) ∧ (2 ^ 64 ≤ n → Honours request 0 limit) := by
  have measured := contentLength_of_declared (.inl ⟨value, [], single, declares.counts⟩)
  rw [counted] at measured
  constructor
  · intro short
    rw [if_pos short] at measured
    exact honours_of_length measured reads limit
  · intro long
    rw [if_neg (by omega)] at measured
    exact honours_of_length measured reads limit

def declaring (method value : String) : Request :=
  { method, headers := [("content-length", asciiBytes value)] }

theorem honours_declared_padded :
    let request := declaring "POST" " 0060\t"
    request.headers.values "content-length" = [asciiBytes " 0060\t"] ∧
      Declares (asciiBytes " 0060\t") 60 ∧ isWriteMethod request.method = false ∧
      Honours request 60 50 := by
  intro request
  have single : request.headers.values "content-length" = [asciiBytes " 0060\t"] := by
    decide +kernel
  have declares : Declares (asciiBytes " 0060\t") 60 := by
    have split : asciiBytes " 0060\t" = [ascii ' '] ++ asciiBytes "0060" ++ [ascii '\t'] := by
      decide +kernel
    have sixty : denoted (asciiBytes "0060") = 60 := by decide +kernel
    rw [split, ← sixty]
    exact .digits (by simp) (by decide +kernel) (by decide +kernel) (by simp)
  exact ⟨single, declares, rfl, (honours_declared single declares rfl 50).1 (by decide)⟩

theorem declares_overlong : Declares (asciiBytes "18446744073709551616") (2 ^ 64) := by
  have value : denoted (asciiBytes "18446744073709551616") = 2 ^ 64 := by decide +kernel
  have alone : asciiBytes "18446744073709551616" =
      [] ++ asciiBytes "18446744073709551616" ++ [] := by simp
  rw [← value, alone]
  exact .digits (by simp) (by decide +kernel) (by decide +kernel) (by simp)

/-- One more than can be counted is let in as nothing, and may even pass for a probe. -/
theorem overlong_admitted :
    Declares (asciiBytes "18446744073709551616") (2 ^ 64) ∧
      (declaring "POST" "18446744073709551616").headers.values "content-length" =
        [asciiBytes "18446744073709551616"] ∧
      rejection? (declaring "POST" "18446744073709551616") 50 = none ∧
      isProbe (declaring "GET" "18446744073709551616") = true :=
  ⟨declares_overlong, by decide +kernel, by decide +kernel, by decide +kernel⟩

end Admission

end JsonRpc
