import JsonRpc.Json.Printer

namespace JsonRpc

def DigitsText (cs : List Char) : Prop := cs ≠ [] ∧ ∀ c ∈ cs, c.isDigit = true

/-- A whole number without a sign. A zero does not stand before another digit. -/
inductive IntegerText : List Char → Prop where
  | zero : IntegerText ['0']
  | digits {c : Char} {cs : List Char} (digit : c.isDigit = true) (leading : c ≠ '0')
      (more : ∀ d ∈ cs, d.isDigit = true) : IntegerText (c :: cs)

inductive FractionText : List Char → Prop where
  | none : FractionText []
  | some {cs : List Char} (digits : DigitsText cs) : FractionText ('.' :: cs)

inductive PowerText : List Char → Prop where
  | none : PowerText []
  | some {mark : Char} {sign cs : List Char} (marked : mark = 'e' ∨ mark = 'E')
      (signed : sign = [] ∨ sign = ['+'] ∨ sign = ['-']) (digits : DigitsText cs) :
      PowerText (mark :: (sign ++ cs))

inductive NumberText : List Char → Prop where
  | number {sign whole fraction power : List Char} (signed : sign = [] ∨ sign = ['-'])
      (integer : IntegerText whole) (part : FractionText fraction) (scaled : PowerText power) :
      NumberText (sign ++ whole ++ fraction ++ power)

theorem decimal_digits (n : Nat) : DigitsText (decimal n) :=
  ⟨Nat.toDigits_ne_nil, fun _ member => Nat.isDigit_of_mem_toDigits (by decide) (by decide) member⟩

theorem decimal_integer (n : Nat) : IntegerText (decimal n) := by
  induction n using Nat.strongRecOn with
  | ind n hypothesis =>
    have unfolded := Nat.toDigits_eq_if (b := 10) (n := n) (by decide)
    by_cases small : n < 10
    · have every : ∀ k : Fin 10, k.val = 0 ∨
          ((Nat.digitChar k.val).isDigit = true ∧ Nat.digitChar k.val ≠ '0') := by decide
      rw [decimal, unfolded, if_pos small]
      rcases every ⟨n, small⟩ with zero | ⟨digit, leading⟩
      · obtain rfl : n = 0 := zero
        exact .zero
      · exact .digits digit leading (by simp)
    · have front := hypothesis (n / 10) (by omega)
      have whole := (decimal_digits n).2
      rw [decimal, unfolded, if_neg small] at whole ⊢
      rw [decimal] at front
      revert whole
      generalize front_eq : Nat.toDigits 10 (n / 10) = cs at front
      intro whole
      cases front with
      | zero =>
        have value := Nat.ofDigitChars_ten_toDigits (n := n / 10)
        rw [front_eq] at value
        have none_left : n / 10 = 0 := value.symm
        omega
      | digits digit leading more =>
        exact .digits digit leading fun d member => whole d (List.mem_cons_of_mem _ member)

theorem IntegerText.digits_text {cs : List Char} (integer : IntegerText cs) : DigitsText cs := by
  cases integer with
  | zero => exact ⟨by simp, by simp⟩
  | digits digit leading more =>
    refine ⟨by simp, fun d member => ?_⟩
    rcases List.mem_cons.mp member with rfl | member
    · exact digit
    · exact more d member

theorem signedDecimal_number (n : Int) : NumberText (signedDecimal n) := by
  cases n with
  | ofNat n =>
    have text := NumberText.number (.inl rfl) (decimal_integer n) .none .none
    simpa [signedDecimal] using text
  | negSucc n =>
    have text := NumberText.number (.inr rfl) (decimal_integer (n + 1)) .none .none
    simpa [signedDecimal] using text

namespace Binary64

theorem replicate_digits (n : Nat) : ∀ c ∈ List.replicate n '0', c.isDigit = true := by
  intro c member
  rw [List.eq_of_mem_replicate member]
  rfl

theorem place_number {sign digits : List Char} (signed : sign = [] ∨ sign = ['-'])
    (integer : IntegerText digits) {x : Int} (zero : digits = ['0'] → x = 0) :
    NumberText (sign ++ place digits x) := by
  obtain ⟨some_digits, digit⟩ := integer.digits_text
  rw [place]
  split
  · let padded := digits ++ List.replicate (x.toNat + 1 - digits.length) '0'
    have padded_digits : ∀ c ∈ padded, c.isDigit = true := by
      intro c member
      rcases List.mem_append.mp member with given | zeros
      · exact digit c given
      · exact replicate_digits _ c zeros
    have front : IntegerText (padded.take (x.toNat + 1)) := by
      cases integer with
      | zero =>
        obtain rfl := zero rfl
        exact .zero
      | digits first leading more =>
        refine .digits first leading fun d member => ?_
        exact padded_digits d (List.mem_cons_of_mem _ (List.mem_of_mem_take member))
    have back : DigitsText
        (if padded.drop (x.toNat + 1) = [] then ['0'] else padded.drop (x.toNat + 1)) := by
      split
      · exact ⟨by simp, by simp⟩
      · rename_i some_left
        exact ⟨some_left, fun c member => padded_digits c (List.mem_of_mem_drop member)⟩
    have text := NumberText.number signed front (.some back) .none
    rw [List.append_nil, List.append_assoc] at text
    exact text
  · split
    · have back : DigitsText (List.replicate ((-x).toNat - 1) '0' ++ digits) := by
        refine ⟨by simp [some_digits], fun c member => ?_⟩
        rcases List.mem_append.mp member with zeros | given
        · exact replicate_digits _ c zeros
        · exact digit c given
      have text := NumberText.number signed .zero (.some back) .none
      simpa using text
    · have power : PowerText ('e' ::
          (if x < 0 then '-' :: decimal (-x).toNat else '+' :: decimal x.toNat)) := by
        split
        · exact .some (.inl rfl) (.inr (.inr rfl)) (decimal_digits _)
        · exact .some (.inl rfl) (.inr (.inl rfl)) (decimal_digits _)
      match digits, integer, digit with
      | [d], integer, _ =>
        have text := NumberText.number signed integer .none power
        simpa using text
      | d :: next :: rest, .digits first leading more, digit =>
        have front : IntegerText [d] := .digits first leading (by simp)
        have back : DigitsText (next :: rest) := ⟨by simp, more⟩
        have text := NumberText.number signed front (.some back) power
        simpa using text

theorem Interval.contains_of_gridPoint? {i : Interval} {step n : Nat}
    (found : i.gridPoint? step = some n) : i.contains (n * step) = true := by
  simp only [gridPoint?] at found
  split at found
  · cases found
  · rename_i below above
    obtain rfl := Option.some.inj found
    exact below
  · rename_i below above
    obtain rfl := Option.some.inj found
    exact above
  · rename_i below above
    split at found
    · obtain rfl := Option.some.inj found
      exact below
    · obtain rfl := Option.some.inj found
      exact above

theorem Interval.not_contains_zero {i : Interval} (above : 0 < i.low) :
    i.contains 0 = false := by
  rw [contains]
  have outside : ¬ i.low ≤ 0 := Nat.not_le.mpr above
  split <;> simp [outside]

theorem gridDigits?_ne_zero {x : Binary64} (some_significand : x.significand ≠ 0) {k : Int} :
    x.gridDigits? k ≠ some 0 := by
  intro found
  have contained := Interval.contains_of_gridPoint? found
  rw [Nat.zero_mul, Interval.not_contains_zero] at contained
  · cases contained
  · have low : 0 < x.interval.low := by
      simp only [interval]
      split <;> omega
    have factor : 0 < Nat.pow 2 (x.exponent - 2).toNat * Nat.pow 10 (-k).toNat :=
      Nat.mul_pos (Nat.pow_pos (by decide)) (Nat.pow_pos (by decide))
    exact Nat.mul_pos low factor

theorem shortest_zero {x : Binary64} (some_significand : x.significand ≠ 0)
    (zero : x.shortest.1 = 0) : x.shortest.2 = 0 := by
  rw [shortest] at zero ⊢
  generalize found : List.findSome? _ _ = digits at zero ⊢
  cases digits with
  | none => rfl
  | some pair =>
    obtain ⟨d, k⟩ := pair
    obtain rfl : d = 0 := zero
    obtain ⟨grid, -, mapped⟩ := List.exists_of_findSome?_eq_some found
    obtain ⟨digits, gridded, same⟩ := Option.map_eq_some_iff.mp mapped
    obtain ⟨rfl, -⟩ := Prod.mk.inj same
    exact absurd gridded (gridDigits?_ne_zero some_significand)

theorem write_number (x : Binary64) : NumberText x.write := by
  have signed : (if x.isNegative then ['-'] else []) = [] ∨
      (if x.isNegative then ['-'] else []) = ['-'] := by
    split
    · exact .inr rfl
    · exact .inl rfl
  rw [write]
  split
  · have point_zero : DigitsText ['0'] := ⟨by simp, by simp⟩
    have text := NumberText.number signed .zero (.some point_zero) .none
    simpa using text
  · rename_i some_significand
    have zero := shortest_zero some_significand
    rcases shortened : x.shortest with ⟨d, k⟩
    rw [shortened] at zero
    refine place_number signed (decimal_integer d) fun alone => ?_
    have value := Nat.ofDigitChars_ten_toDigits (n := d)
    rw [decimal] at alone
    rw [alone] at value
    obtain rfl : k = 0 := zero value.symm
    rw [decimal, alone]
    rfl

end Binary64

namespace Json

def HexText (c : Char) : Prop :=
  c.isDigit = true ∨ ('a' ≤ c ∧ c ≤ 'f') ∨ ('A' ≤ c ∧ c ≤ 'F')

inductive CharText : List Char → Prop where
  | plain {c : Char} (visible : 0x20 ≤ c.toNat) (no_quote : c ≠ '"') (no_slash : c ≠ '\\') :
      CharText [c]
  | short {c : Char} (known : c ∈ ['"', '\\', '/', 'b', 'f', 'n', 'r', 't']) : CharText ['\\', c]
  | code {a b c d : Char} (hex : ∀ h ∈ [a, b, c, d], HexText h) : CharText ['\\', 'u', a, b, c, d]

inductive StringText : List Char → Prop where
  | quoted {chars : List (List Char)} (each : ∀ cs ∈ chars, CharText cs) :
      StringText ('"' :: chars.flatten ++ ['"'])

mutual

inductive JsonText : List Char → Prop where
  | null : JsonText ['n', 'u', 'l', 'l']
  | true : JsonText ['t', 'r', 'u', 'e']
  | false : JsonText ['f', 'a', 'l', 's', 'e']
  | number {cs : List Char} (text : NumberText cs) : JsonText cs
  | string {cs : List Char} (text : StringText cs) : JsonText cs
  | noItems : JsonText ['[', ']']
  | items {cs : List Char} (text : ItemsText cs) : JsonText ('[' :: cs ++ [']'])
  | object {members : List (List Char × List Char)} {cs : List Char}
      (text : ObjectText members cs) : JsonText cs

inductive ItemsText : List Char → Prop where
  | one {item : List Char} (text : JsonText item) : ItemsText item
  | more {item cs : List Char} (text : JsonText item) (rest : ItemsText cs) :
      ItemsText (item ++ ',' :: cs)

/-- The text of an object with these texts of keys and values. -/
inductive ObjectText : List (List Char × List Char) → List Char → Prop where
  | noMembers : ObjectText [] ['\x7b', '\x7d']
  | members {members : List (List Char × List Char)} {cs : List Char}
      (text : MembersText members cs) : ObjectText members ('\x7b' :: cs ++ ['\x7d'])

inductive MembersText : List (List Char × List Char) → List Char → Prop where
  | one {key value : List Char} (named : StringText key) (text : JsonText value) :
      MembersText [(key, value)] (key ++ ':' :: value)
  | more {key value cs : List Char} {members : List (List Char × List Char)}
      (named : StringText key) (text : JsonText value) (rest : MembersText members cs) :
      MembersText ((key, value) :: members) (key ++ ':' :: value ++ ',' :: cs)

end

theorem hexDigit_text (n : Nat) : HexText (hexDigit n) := by
  have every : ∀ k : Fin 16, (Nat.digitChar k.val).isDigit = true ∨
      ('a' ≤ Nat.digitChar k.val ∧ Nat.digitChar k.val ≤ 'f') := by decide
  rcases every ⟨n % 16, Nat.mod_lt _ (by decide)⟩ with digit | letter
  · exact .inl digit
  · exact .inr (.inl letter)

theorem writeChar_text (c : Char) : CharText (writeChar c) := by
  rw [writeChar]
  cases escaped : shortEscape? c with
  | some e =>
    refine .short ?_
    simp only [shortEscape?] at escaped
    repeat' split at escaped
    all_goals cases escaped
    all_goals simp
  | none =>
    by_cases small : c.toNat < 0x20
    · simp only [small, if_true]
      refine .code fun h member => ?_
      simp only [List.mem_cons, List.not_mem_nil, or_false] at member
      rcases member with rfl | rfl | rfl | rfl
      · exact .inl rfl
      · exact .inl rfl
      · exact hexDigit_text _
      · exact hexDigit_text _
    · simp only [small, if_false]
      refine .plain (Nat.not_lt.mp small) ?_ ?_
      · rintro rfl
        cases escaped
      · rintro rfl
        cases escaped

theorem writeString_text (s : String) : StringText (writeString s) := by
  have each : ∀ cs ∈ s.toList.map writeChar, CharText cs := by
    intro cs member
    obtain ⟨c, -, rfl⟩ := List.mem_map.mp member
    exact writeChar_text c
  exact .quoted each

theorem write_number (n : Number) : JsonText n.write := by
  cases n with
  | whole w => exact .number (signedDecimal_number w.val)
  | real x =>
    rw [Number.write]
    split
    · exact .number x.write_number
    · exact .null

def memberTexts (members : List (String × Json)) : List (List Char × List Char) :=
  members.map fun (key, value) => (writeString key, value.write)

mutual

theorem write_text : (value : Json) → JsonText value.write
  | .null => .null
  | .bool true => .true
  | .bool false => .false
  | .number n => write_number n
  | .string s => .string (writeString_text s)
  | .array [] => .noItems
  | .array (item :: items) => .items (writeItems_text (item :: items) (List.cons_ne_nil _ _))
  | .object [] => .object .noMembers
  | .object (member :: members) =>
    .object (.members (writeMembers_text (member :: members) (List.cons_ne_nil _ _)))

theorem writeItems_text : (items : List Json) → items ≠ [] → ItemsText (writeItems items)
  | [], some_items => absurd rfl some_items
  | [item], _ => .one (write_text item)
  | item :: next :: items, _ =>
    .more (write_text item) (writeItems_text (next :: items) (List.cons_ne_nil _ _))

theorem writeMembers_text : (members : List (String × Json)) → members ≠ [] →
    MembersText (memberTexts members) (writeMembers members)
  | [], some_members => absurd rfl some_members
  | [(key, value)], _ => .one (writeString_text key) (write_text value)
  | (key, value) :: next :: members, _ =>
    .more (writeString_text key) (write_text value)
      (writeMembers_text (next :: members) (List.cons_ne_nil _ _))

end

theorem write_object (members : List (String × Json)) :
    ObjectText (memberTexts members) (Json.object members).write := by
  cases members with
  | nil => exact .noMembers
  | cons member members => exact .members (writeMembers_text _ (List.cons_ne_nil _ _))

end Json

end JsonRpc
