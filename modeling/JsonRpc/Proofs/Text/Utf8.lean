import JsonRpc.Text.Utf8

namespace JsonRpc.Utf8

theorem toNat_char {n : Nat} (valid : n < 0xd800 ∨ 0xdfff < n ∧ n < 0x110000) :
    (Char.ofNat n).toNat = n := by
  rw [Char.ofNat, dif_pos valid]
  rfl

theorem encodeChars_cons (c : Char) (cs : List Char) :
    encodeChars (c :: cs) = encodePoint c.toNat ++ encodeChars cs := rfl

theorem encodeChars_nil : encodeChars [] = [] := rfl

theorem encodeChars_cons_low {c : Char} (low : c.toNat < 0x80) (cs : List Char) :
    encodeChars (c :: cs) = ascii c :: encodeChars cs := by
  have byte : c.toNat.toUInt8 = ascii c := toUInt8_eq (toNat_ascii low).symm
  rw [encodeChars_cons, encodePoint, if_pos low, byte]
  rfl

theorem decodeFrom_one {c : Char} (low : c.toNat < 0x80) (index : Nat) (rest : Bytes) :
    decodeFrom index (encodePoint c.toNat ++ rest) = (c :: ·) <$> decodeFrom (index + 1) rest := by
  have first : c.toNat.toUInt8.toNat = c.toNat := toNat_toUInt8 (by omega)
  rw [encodePoint, if_pos low, List.singleton_append, decodeFrom.eq_def]
  simp only [UInt8.lt_iff_toNat_lt, first, UInt8.reduceToNat]
  rw [if_pos low, Char.ofNat_toNat]

theorem decodeFrom_two {c : Char} (high : 0x80 ≤ c.toNat) (low : c.toNat < 0x800) (index : Nat)
    (rest : Bytes) :
    decodeFrom index (encodePoint c.toNat ++ rest) = (c :: ·) <$> decodeFrom (index + 2) rest := by
  have first : (0xc0 + c.toNat / 0x40).toUInt8.toNat = 0xc0 + c.toNat / 0x40 :=
    toNat_toUInt8 (by omega)
  have second : (0x80 + c.toNat % 0x40).toUInt8.toNat = 0x80 + c.toNat % 0x40 :=
    toNat_toUInt8 (by omega)
  have point : (0xc0 + c.toNat / 0x40 - 0xc0) * 0x40 + (0x80 + c.toNat % 0x40) % 0x40 = c.toNat := by
    omega
  rw [encodePoint, if_neg (by omega), if_pos low, decodeFrom.eq_def]
  simp only [List.cons_append, List.nil_append, UInt8.lt_iff_toNat_lt, UInt8.le_iff_toNat_le, isTail,
    tailBits, first, second, point, UInt8.reduceToNat, Char.ofNat_toNat]
  rw [if_neg (by omega), if_pos (by omega), if_neg (by simp; omega)]

theorem decodeFrom_three {c : Char} (high : 0x800 ≤ c.toNat) (low : c.toNat < 0x10000)
    (index : Nat) (rest : Bytes) :
    decodeFrom index (encodePoint c.toNat ++ rest) = (c :: ·) <$> decodeFrom (index + 3) rest := by
  have valid : c.toNat < 0xd800 ∨ 0xdfff < c.toNat ∧ c.toNat < 0x110000 := c.valid
  have first : (0xe0 + c.toNat / 0x1000).toUInt8.toNat = 0xe0 + c.toNat / 0x1000 :=
    toNat_toUInt8 (by omega)
  have second : (0x80 + c.toNat / 0x40 % 0x40).toUInt8.toNat = 0x80 + c.toNat / 0x40 % 0x40 :=
    toNat_toUInt8 (by omega)
  have third : (0x80 + c.toNat % 0x40).toUInt8.toNat = 0x80 + c.toNat % 0x40 :=
    toNat_toUInt8 (by omega)
  have point : (0xe0 + c.toNat / 0x1000 - 0xe0) * 0x1000 +
      (0x80 + c.toNat / 0x40 % 0x40) % 0x40 * 0x40 + (0x80 + c.toNat % 0x40) % 0x40 = c.toNat := by
    omega
  rw [encodePoint, if_neg (by omega), if_neg (by omega), if_pos low, decodeFrom.eq_def]
  simp only [List.cons_append, List.nil_append, UInt8.lt_iff_toNat_lt, UInt8.le_iff_toNat_le, isTail,
    isSecondOfThree, ← UInt8.toNat_inj, tailBits, first, second, third, point, UInt8.reduceToNat,
    Char.ofNat_toNat]
  rw [if_neg (by omega), if_neg (by omega), if_pos (by omega), if_neg, if_neg (by simp; omega)]
  -- neither a shorter spelling nor a surrogate
  simp only [Bool.not_eq_true', Bool.and_eq_false_iff, decide_eq_false_iff_not,
    apply_ite UInt8.toNat, UInt8.reduceToNat]
  split <;> split <;> omega

theorem decodeFrom_four {c : Char} (high : 0x10000 ≤ c.toNat) (index : Nat) (rest : Bytes) :
    decodeFrom index (encodePoint c.toNat ++ rest) = (c :: ·) <$> decodeFrom (index + 4) rest := by
  have valid : c.toNat < 0xd800 ∨ 0xdfff < c.toNat ∧ c.toNat < 0x110000 := c.valid
  have first : (0xf0 + c.toNat / 0x40000).toUInt8.toNat = 0xf0 + c.toNat / 0x40000 :=
    toNat_toUInt8 (by omega)
  have second : (0x80 + c.toNat / 0x1000 % 0x40).toUInt8.toNat = 0x80 + c.toNat / 0x1000 % 0x40 :=
    toNat_toUInt8 (by omega)
  have third : (0x80 + c.toNat / 0x40 % 0x40).toUInt8.toNat = 0x80 + c.toNat / 0x40 % 0x40 :=
    toNat_toUInt8 (by omega)
  have fourth : (0x80 + c.toNat % 0x40).toUInt8.toNat = 0x80 + c.toNat % 0x40 :=
    toNat_toUInt8 (by omega)
  have point : (0xf0 + c.toNat / 0x40000 - 0xf0) * 0x40000 +
      (0x80 + c.toNat / 0x1000 % 0x40) % 0x40 * 0x1000 +
      (0x80 + c.toNat / 0x40 % 0x40) % 0x40 * 0x40 + (0x80 + c.toNat % 0x40) % 0x40 = c.toNat := by
    omega
  rw [encodePoint, if_neg (by omega), if_neg (by omega), if_neg (by omega), decodeFrom.eq_def]
  simp only [List.cons_append, List.nil_append, UInt8.lt_iff_toNat_lt, UInt8.le_iff_toNat_le, isTail,
    isSecondOfFour, ← UInt8.toNat_inj, tailBits, first, second, third, fourth, point,
    UInt8.reduceToNat, Char.ofNat_toNat]
  rw [if_neg (by omega), if_neg (by omega), if_neg (by omega), if_pos (by omega), if_neg,
    if_neg (by simp; omega), if_neg (by simp; omega)]
  -- neither a shorter spelling nor a place above the last plane
  simp only [Bool.not_eq_true', Bool.and_eq_false_iff, decide_eq_false_iff_not,
    apply_ite UInt8.toNat, UInt8.reduceToNat]
  split <;> split <;> omega

theorem decodeFrom_encodeChars (index : Nat) (cs : List Char) :
    decodeFrom index (encodeChars cs) = .ok cs := by
  induction cs generalizing index with
  | nil => simp [encodeChars, decodeFrom]
  | cons c cs hypothesis =>
    have width : ∃ n, decodeFrom index (encodePoint c.toNat ++ encodeChars cs) =
        (c :: ·) <$> decodeFrom (index + n) (encodeChars cs) := by
      by_cases one : c.toNat < 0x80
      · exact ⟨1, decodeFrom_one one index _⟩
      · by_cases two : c.toNat < 0x800
        · exact ⟨2, decodeFrom_two (by omega) two index _⟩
        · by_cases three : c.toNat < 0x10000
          · exact ⟨3, decodeFrom_three (by omega) three index _⟩
          · exact ⟨4, decodeFrom_four (by omega) index _⟩
    obtain ⟨n, read⟩ := width
    rw [encodeChars_cons, read, hypothesis]
    rfl

theorem encodePoint_one {a : UInt8} (low : a < 0x80) :
    encodePoint (Char.ofNat a.toNat).toNat = [a] := by
  have bound : a.toNat < 0x80 := low
  rw [toNat_char (by omega), encodePoint, if_pos bound, toUInt8_eq rfl]

theorem isTail_bounds {b : UInt8} (tail : isTail b = true) : 0x80 ≤ b.toNat ∧ b.toNat ≤ 0xbf := by
  simpa [isTail, UInt8.le_iff_toNat_le] using tail

theorem encodePoint_two {a b : UInt8} (lead : 0xc2 ≤ a ∧ a ≤ 0xdf) (tail : isTail b = true) :
    encodePoint (Char.ofNat ((a.toNat - 0xc0) * 0x40 + tailBits b)).toNat = [a, b] := by
  have bounds : 0xc2 ≤ a.toNat ∧ a.toNat ≤ 0xdf := lead
  have second := isTail_bounds tail
  simp only [tailBits]
  rw [toNat_char (by omega), encodePoint, if_neg (by omega), if_pos (by omega),
    toUInt8_eq (b := a) (by omega), toUInt8_eq (b := b) (by omega)]

theorem isSecondOfThree_bounds {a b : UInt8} (second : isSecondOfThree a b = true) :
    0x80 ≤ b.toNat ∧ b.toNat ≤ 0xbf ∧ (a.toNat = 0xe0 → 0xa0 ≤ b.toNat) ∧
      (a.toNat = 0xed → b.toNat ≤ 0x9f) := by
  simp only [isSecondOfThree, Bool.and_eq_true, decide_eq_true_eq, UInt8.le_iff_toNat_le,
    ← UInt8.toNat_inj, apply_ite UInt8.toNat, UInt8.reduceToNat] at second
  split at second <;> split at second <;> omega

theorem encodePoint_three {a b c : UInt8} (lead : 0xe0 ≤ a ∧ a ≤ 0xef)
    (second : isSecondOfThree a b = true) (tail : isTail c = true) :
    encodePoint (Char.ofNat ((a.toNat - 0xe0) * 0x1000 + tailBits b * 0x40 + tailBits c)).toNat =
      [a, b, c] := by
  have bounds : 0xe0 ≤ a.toNat ∧ a.toNat ≤ 0xef := lead
  have middle := isSecondOfThree_bounds second
  have third := isTail_bounds tail
  simp only [tailBits]
  rw [toNat_char (by omega), encodePoint, if_neg (by omega), if_neg (by omega), if_pos (by omega),
    toUInt8_eq (b := a) (by omega), toUInt8_eq (b := b) (by omega), toUInt8_eq (b := c) (by omega)]

theorem isSecondOfFour_bounds {a b : UInt8} (second : isSecondOfFour a b = true) :
    0x80 ≤ b.toNat ∧ b.toNat ≤ 0xbf ∧ (a.toNat = 0xf0 → 0x90 ≤ b.toNat) ∧
      (a.toNat = 0xf4 → b.toNat ≤ 0x8f) := by
  simp only [isSecondOfFour, Bool.and_eq_true, decide_eq_true_eq, UInt8.le_iff_toNat_le,
    ← UInt8.toNat_inj, apply_ite UInt8.toNat, UInt8.reduceToNat] at second
  split at second <;> split at second <;> omega

theorem encodePoint_four {a b c d : UInt8} (lead : 0xf0 ≤ a ∧ a ≤ 0xf4)
    (second : isSecondOfFour a b = true) (third : isTail c = true) (fourth : isTail d = true) :
    encodePoint (Char.ofNat ((a.toNat - 0xf0) * 0x40000 + tailBits b * 0x1000 + tailBits c * 0x40 +
      tailBits d)).toNat = [a, b, c, d] := by
  have bounds : 0xf0 ≤ a.toNat ∧ a.toNat ≤ 0xf4 := lead
  have after := isSecondOfFour_bounds second
  have middle := isTail_bounds third
  have last := isTail_bounds fourth
  simp only [tailBits]
  rw [toNat_char (by omega), encodePoint, if_neg (by omega), if_neg (by omega), if_neg (by omega),
    toUInt8_eq (b := a) (by omega), toUInt8_eq (b := b) (by omega), toUInt8_eq (b := c) (by omega),
    toUInt8_eq (b := d) (by omega)]

theorem eq_of_map_cons {ε : Type} {c : Char} {x : Except ε (List Char)} {cs : List Char}
    (read : (c :: ·) <$> x = .ok cs) : ∃ ds, x = .ok ds ∧ cs = c :: ds := by
  cases x with
  | error e => cases read
  | ok ds => exact ⟨ds, rfl, (Except.ok.inj read).symm⟩

theorem eq_encodeChars_of_decodeFrom {index : Nat} {bytes : Bytes} {cs : List Char}
    (decoded : decodeFrom index bytes = .ok cs) : bytes = encodeChars cs := by
  fun_induction decodeFrom index bytes generalizing cs with
  | case1 =>
    cases decoded
    rfl
  | case2 index a rest low hypothesis =>
    obtain ⟨ds, more, rfl⟩ := eq_of_map_cons decoded
    rw [encodeChars_cons, encodePoint_one low, ← hypothesis more]
    rfl
  | case5 index a _ lead b rest tail hypothesis =>
    obtain ⟨ds, more, rfl⟩ := eq_of_map_cons decoded
    rw [encodeChars_cons, encodePoint_two lead (by simpa using tail), ← hypothesis more]
    rfl
  | case10 index a _ _ lead b second c rest tail hypothesis =>
    obtain ⟨ds, more, rfl⟩ := eq_of_map_cons decoded
    rw [encodeChars_cons, encodePoint_three lead (by simpa using second) (by simpa using tail),
      ← hypothesis more]
    rfl
  | case17 index a _ _ _ lead b second c third d rest fourth hypothesis =>
    obtain ⟨ds, more, rfl⟩ := eq_of_map_cons decoded
    rw [encodeChars_cons, encodePoint_four lead (by simpa using second) (by simpa using third)
      (by simpa using fourth), ← hypothesis more]
    rfl
  -- the other cases are the defects
  | case3 | case4 | case6 | case7 | case8 | case9 | case11 | case12 | case13 | case14 | case15
  | case16 | case18 => cases decoded

/-- A text has one spelling in bytes, and no other bytes are a text. -/
theorem decode_eq_ok_iff {bytes : Bytes} {cs : List Char} :
    decode bytes = .ok cs ↔ bytes = encodeChars cs := by
  constructor
  · exact eq_encodeChars_of_decodeFrom
  · rintro rfl
    exact decodeFrom_encodeChars 0 cs

theorem encodeChars_ascii {bytes : Bytes} (low : ∀ b ∈ bytes, b < 0x80) :
    encodeChars (bytes.map fun b => Char.ofNat b.toNat) = bytes := by
  induction bytes with
  | nil => rfl
  | cons b rest hypothesis =>
    have more := hypothesis fun c member => low c (List.mem_cons_of_mem _ member)
    rw [List.map_cons, encodeChars_cons, encodePoint_one (low b List.mem_cons_self), more]
    rfl

end JsonRpc.Utf8
