import JsonRpc.Cipher.Base64

namespace JsonRpc.Base64

theorem symbol_ne_padSign {n : Nat} (small : n < 64) : symbol n ≠ padSign := by
  have every : ∀ k : Fin 64, symbol k.val ≠ padSign := by decide
  exact every ⟨n, small⟩

theorem values_cons {n : Nat} (small : n < 64) {index : Nat} {rest : Bytes} {ns : List Nat}
    (more : values (index + 1) rest = .ok ns) :
    values index (symbol n :: rest) = .ok (n :: ns) := by
  simp only [values, value?_symbol small, more]
  rfl

theorem group_bounds (a b c : UInt8) :
    a.toNat / 4 < 64 ∧ a.toNat % 4 * 16 + b.toNat / 16 < 64 ∧
      b.toNat % 16 * 4 + c.toNat / 64 < 64 ∧ c.toNat % 64 < 64 := by
  have := a.toNat_lt
  have := b.toNat_lt
  have := c.toNat_lt
  omega

theorem final_bounds (a b : UInt8) : a.toNat % 4 * 16 < 64 ∧ b.toNat % 16 * 4 < 64 := by
  omega

theorem pack_group (a b c : UInt8) (rest : List Nat) :
    pack (a.toNat / 4 :: (a.toNat % 4 * 16 + b.toNat / 16) :: (b.toNat % 16 * 4 + c.toNat / 64)
      :: c.toNat % 64 :: rest) = a :: b :: c :: pack rest := by
  have := b.toNat_lt
  have := c.toNat_lt
  have first : a.toNat / 4 * 4 + (a.toNat % 4 * 16 + b.toNat / 16) / 16 = a.toNat := by omega
  have second : (a.toNat % 4 * 16 + b.toNat / 16) % 16 * 16 +
      (b.toNat % 16 * 4 + c.toNat / 64) / 4 = b.toNat := by omega
  have third : (b.toNat % 16 * 4 + c.toNat / 64) % 4 * 64 + c.toNat % 64 = c.toNat := by omega
  rw [pack, first, second, third]
  simp

theorem encode_append {front : Bytes} (whole : front.length % 3 = 0) (last : Bytes) :
    encode (front ++ last) = encode front ++ encode last := by
  fun_induction encode front with
  | case1 => rfl
  | case2 a => simp at whole
  | case3 a b => simp at whole
  | case4 a b c rest hypothesis =>
    have shorter : rest.length % 3 = 0 := by simp only [List.length_cons] at whole; omega
    simp only [List.cons_append, encode, hypothesis shorter]

theorem values_encode {front : Bytes} (whole : front.length % 3 = 0) (index : Nat) :
    ∃ ns, values index (encode front) = .ok ns ∧ pack ns = front := by
  fun_induction encode front generalizing index with
  | case1 => exact ⟨[], rfl, rfl⟩
  | case2 a => simp at whole
  | case3 a b => simp at whole
  | case4 a b c rest hypothesis =>
    have shorter : rest.length % 3 = 0 := by simp only [List.length_cons] at whole; omega
    obtain ⟨ns, more, packed⟩ := hypothesis shorter (index + 4)
    obtain ⟨first, second, third, fourth⟩ := group_bounds a b c
    refine ⟨_, values_cons first (values_cons second (values_cons third (values_cons fourth more))), ?_⟩
    rw [pack_group, packed]

theorem length_encode (bytes : Bytes) : (encode bytes).length = (bytes.length + 2) / 3 * 4 := by
  fun_induction encode bytes with
  | case1 => rfl
  | case2 a => simp
  | case3 a b => simp
  | case4 a b c rest hypothesis =>
    simp only [List.length_cons, hypothesis]
    omega

theorem all_encode (bytes : Bytes) :
    ((encode bytes).all fun b => (value? b).isSome || b == padSign) = true := by
  have known : ∀ n, n < 64 → ((value? (symbol n)).isSome || symbol n == padSign) = true := by
    intro n small
    rw [value?_symbol small]
    rfl
  have signs : ((value? padSign).isSome || padSign == padSign) = true := by decide
  fun_induction encode bytes with
  | case1 => rfl
  | case2 a =>
    obtain ⟨first, -, -, -⟩ := group_bounds a a a
    obtain ⟨second, -⟩ := final_bounds a a
    simp only [List.all_cons, List.all_nil, known _ first, known _ second, signs, Bool.and_self]
  | case3 a b =>
    obtain ⟨first, second, -, -⟩ := group_bounds a b b
    obtain ⟨-, third⟩ := final_bounds b b
    simp only [List.all_cons, List.all_nil, known _ first, known _ second, known _ third, signs,
      Bool.and_self]
  | case4 a b c rest hypothesis =>
    obtain ⟨first, second, third, fourth⟩ := group_bounds a b c
    simp only [List.all_cons, known _ first, known _ second, known _ third, known _ fourth,
      hypothesis, Bool.and_self]

theorem decodeGroup_filled {index count : Nat} {symbols : Bytes} {ns : List Nat}
    (visible : ∀ b ∈ symbols, b ≠ padSign) (enough : 2 ≤ symbols.length)
    (whole : symbols.length + count = 4) (read : values index symbols = .ok ns)
    (unused : unusedBits ns = 0) :
    decodeGroup index (symbols ++ List.replicate count padSign) = .ok (pack ns) := by
  have front : (symbols ++ List.replicate count padSign).takeWhile (· != padSign) = symbols := by
    rw [List.takeWhile_append_of_pos (by simpa using visible)]
    simp
  have signs : (List.replicate count padSign).any (· != padSign) = false := by simp
  rw [decodeGroup, front, List.drop_left, read]
  simp only [bind, Except.bind, signs, List.length_append, List.length_replicate, unused]
  rw [if_neg (by simp; omega), if_neg (by omega), if_neg (by omega), if_neg (by simp)]

theorem decodeGroup_one (index : Nat) (a : UInt8) : decodeGroup index (encode [a]) = .ok [a] := by
  obtain ⟨first, -, -, -⟩ := group_bounds a a a
  obtain ⟨second, -⟩ := final_bounds a a
  have read : values index [symbol (a.toNat / 4), symbol (a.toNat % 4 * 16)] =
      .ok [a.toNat / 4, a.toNat % 4 * 16] := values_cons first (values_cons second rfl)
  have filled : a.toNat / 4 * 4 + a.toNat % 4 * 16 / 16 = a.toNat := by omega
  have unused : a.toNat % 4 * 16 % 16 = 0 := by omega
  have visible : ∀ b ∈ [symbol (a.toNat / 4), symbol (a.toNat % 4 * 16)], b ≠ padSign := by
    simpa using ⟨symbol_ne_padSign first, symbol_ne_padSign second⟩
  have packed : pack [a.toNat / 4, a.toNat % 4 * 16] = [a] := by
    rw [pack, filled, Nat.toUInt8_eq, UInt8.ofNat_toNat]
  have group := decodeGroup_filled visible (by simp) (show 2 + 2 = 4 from rfl) read unused
  rwa [packed] at group

theorem decodeGroup_two (index : Nat) (a b : UInt8) :
    decodeGroup index (encode [a, b]) = .ok [a, b] := by
  obtain ⟨first, second, -, -⟩ := group_bounds a b b
  obtain ⟨-, third⟩ := final_bounds b b
  have read : values index [symbol (a.toNat / 4), symbol (a.toNat % 4 * 16 + b.toNat / 16),
      symbol (b.toNat % 16 * 4)] =
      .ok [a.toNat / 4, a.toNat % 4 * 16 + b.toNat / 16, b.toNat % 16 * 4] :=
    values_cons first (values_cons second (values_cons third rfl))
  have := b.toNat_lt
  have filled : a.toNat / 4 * 4 + (a.toNat % 4 * 16 + b.toNat / 16) / 16 = a.toNat := by omega
  have follows : (a.toNat % 4 * 16 + b.toNat / 16) % 16 * 16 + b.toNat % 16 * 4 / 4 = b.toNat := by
    omega
  have unused : b.toNat % 16 * 4 % 4 = 0 := by omega
  have visible : ∀ c ∈ [symbol (a.toNat / 4), symbol (a.toNat % 4 * 16 + b.toNat / 16),
      symbol (b.toNat % 16 * 4)], c ≠ padSign := by
    simpa using ⟨symbol_ne_padSign first, symbol_ne_padSign second, symbol_ne_padSign third⟩
  have packed : pack [a.toNat / 4, a.toNat % 4 * 16 + b.toNat / 16, b.toNat % 16 * 4] = [a, b] := by
    rw [pack, filled, follows]
    simp
  have group := decodeGroup_filled visible (by simp) (show 3 + 1 = 4 from rfl) read unused
  rwa [packed] at group

theorem decodeGroup_three (index : Nat) (a b c : UInt8) :
    decodeGroup index (encode [a, b, c]) = .ok [a, b, c] := by
  obtain ⟨first, second, third, fourth⟩ := group_bounds a b c
  have read : values index (encode [a, b, c]) = .ok [a.toNat / 4,
      a.toNat % 4 * 16 + b.toNat / 16, b.toNat % 16 * 4 + c.toNat / 64, c.toNat % 64] :=
    values_cons first (values_cons second (values_cons third (values_cons fourth rfl)))
  have visible : ∀ d ∈ encode [a, b, c], d ≠ padSign := by
    simpa [encode] using ⟨symbol_ne_padSign first, symbol_ne_padSign second,
      symbol_ne_padSign third, symbol_ne_padSign fourth⟩
  have group := decodeGroup_filled visible (by simp [encode]) (show 4 + 0 = 4 from rfl) read rfl
  rw [List.replicate_zero, List.append_nil] at group
  rw [group, pack_group]
  rfl

theorem decodeGroup_encode (index : Nat) {last : Bytes} (some_bytes : 1 ≤ last.length)
    (few : last.length ≤ 3) : decodeGroup index (encode last) = .ok last := by
  match last, some_bytes, few with
  | [a], _, _ => exact decodeGroup_one index a
  | [a, b], _, _ => exact decodeGroup_two index a b
  | [a, b, c], _, _ => exact decodeGroup_three index a b c

theorem strayEnd?_encode (bytes : Bytes) : strayEnd? (encode bytes) = none := by
  have groups := length_encode bytes
  rw [strayEnd?, if_neg (by omega)]

theorem decode_encode (bytes : Bytes) : decode (encode bytes) = .ok bytes := by
  by_cases empty : bytes = []
  · subst empty
    rfl
  · have some_bytes : 1 ≤ bytes.length := List.length_pos_iff.mpr empty
    let cut := (bytes.length - 1) / 3 * 3
    have front_length : (bytes.take cut).length = cut := by
      rw [List.length_take]
      omega
    have last_length : (bytes.drop cut).length = bytes.length - cut := List.length_drop
    have whole : (bytes.take cut).length % 3 = 0 := by omega
    have text : encode bytes = encode (bytes.take cut) ++ encode (bytes.drop cut) := by
      rw [← encode_append whole, List.take_append_drop]
    have start : ((encode bytes).length - 1) / 4 * 4 = (encode (bytes.take cut)).length := by
      rw [length_encode, length_encode, front_length]
      omega
    obtain ⟨ns, read, packed⟩ := values_encode whole 0
    have final : decodeGroup (encode (bytes.take cut)).length (encode (bytes.drop cut)) =
        .ok (bytes.drop cut) := decodeGroup_encode _ (by omega) (by omega)
    rw [decode, strayEnd?_encode]
    simp only [start]
    rw [text, List.take_left, List.drop_left, read, final]
    simp only [bind, Except.bind, packed, List.take_append_drop]

theorem symbol_of_value? {b : UInt8} {n : Nat} (value : value? b = some n) :
    b = symbol n ∧ n < 64 := by
  have every : ∀ k : Fin 256, ∀ m ∈ value? (UInt8.ofNat k.val),
      UInt8.ofNat k.val = symbol m ∧ m < 64 := by decide +kernel
  exact every_byte (P := fun b => ∀ m ∈ value? b, b = symbol m ∧ m < 64) every b n value

theorem symbols_of_values {index : Nat} {text : Bytes} {ns : List Nat}
    (read : values index text = .ok ns) : text = ns.map symbol ∧ ∀ n ∈ ns, n < 64 := by
  induction text generalizing index ns with
  | nil =>
    cases read
    exact ⟨rfl, by simp⟩
  | cons b text hypothesis =>
    rw [values] at read
    cases value : value? b with
    | none => simp [value] at read
    | some n =>
      cases more : values (index + 1) text with
      | error e => simp [value, more, bind, Except.bind] at read
      | ok ms =>
        obtain rfl : n :: ms = ns := by simpa [value, more, bind, Except.bind] using read
        obtain ⟨written, small⟩ := hypothesis more
        obtain ⟨shown, bound⟩ := symbol_of_value? value
        exact ⟨by rw [List.map_cons, ← shown, ← written], List.forall_mem_cons.mpr ⟨bound, small⟩⟩

theorem encode_pack {ns : List Nat} (small : ∀ n ∈ ns, n < 64) (whole : ns.length % 4 = 0) :
    encode (pack ns) = ns.map symbol ∧ (pack ns).length % 3 = 0 := by
  fun_induction pack ns with
  | case1 a b c d rest hypothesis =>
    simp only [List.forall_mem_cons] at small
    obtain ⟨first, second, third, fourth, small⟩ := small
    obtain ⟨written, groups⟩ := hypothesis small (by simp only [List.length_cons] at whole; omega)
    have x : (a * 4 + b / 16).toUInt8.toNat = a * 4 + b / 16 := toNat_toUInt8 (by omega)
    have y : (b % 16 * 16 + c / 4).toUInt8.toNat = b % 16 * 16 + c / 4 := toNat_toUInt8 (by omega)
    have z : (c % 4 * 64 + d).toUInt8.toNat = c % 4 * 64 + d := toNat_toUInt8 (by omega)
    have one : (a * 4 + b / 16) / 4 = a := by omega
    have two : (a * 4 + b / 16) % 4 * 16 + (b % 16 * 16 + c / 4) / 16 = b := by omega
    have three : (b % 16 * 16 + c / 4) % 16 * 4 + (c % 4 * 64 + d) / 64 = c := by omega
    have four : (c % 4 * 64 + d) % 64 = d := by omega
    refine ⟨?_, by simp only [List.length_cons]; omega⟩
    rw [encode, x, y, z, one, two, three, four, written]
    rfl
  | case2 a b c => simp at whole
  | case3 a b => simp at whole
  | case4 ns several some_three some_two =>
    match ns, whole with
    | [], _ => exact ⟨rfl, rfl⟩
    | a :: b :: c :: d :: rest, _ => exact absurd rfl (several a b c d rest)

theorem encode_pack_final {ns : List Nat} (small : ∀ n ∈ ns, n < 64) (enough : 2 ≤ ns.length)
    {count : Nat} (filled : ns.length + count = 4) (unused : unusedBits ns = 0) :
    encode (pack ns) = ns.map symbol ++ List.replicate count padSign := by
  match ns, enough with
  | [a, b], _ =>
    obtain rfl : count = 2 := by simp only [List.length_cons, List.length_nil] at filled; omega
    simp only [List.forall_mem_cons] at small
    have spare : b % 16 = 0 := unused
    have x : (a * 4 + b / 16).toUInt8.toNat = a * 4 + b / 16 := toNat_toUInt8 (by omega)
    have one : (a * 4 + b / 16) / 4 = a := by omega
    have two : (a * 4 + b / 16) % 4 * 16 = b := by omega
    rw [pack, encode, x, one, two]
    rfl
  | [a, b, c], _ =>
    obtain rfl : count = 1 := by simp only [List.length_cons, List.length_nil] at filled; omega
    simp only [List.forall_mem_cons] at small
    have spare : c % 4 = 0 := unused
    have x : (a * 4 + b / 16).toUInt8.toNat = a * 4 + b / 16 := toNat_toUInt8 (by omega)
    have y : (b % 16 * 16 + c / 4).toUInt8.toNat = b % 16 * 16 + c / 4 := toNat_toUInt8 (by omega)
    have one : (a * 4 + b / 16) / 4 = a := by omega
    have two : (a * 4 + b / 16) % 4 * 16 + (b % 16 * 16 + c / 4) / 16 = b := by omega
    have three : (b % 16 * 16 + c / 4) % 16 * 4 = c := by omega
    rw [pack, encode, x, y, one, two, three]
    rfl
  | a :: b :: c :: d :: rest, _ =>
    have last : rest = [] ∧ count = 0 := by
      simp only [List.length_cons] at filled
      exact ⟨List.eq_nil_of_length_eq_zero (by omega), by omega⟩
    obtain ⟨rfl, rfl⟩ := last
    rw [(encode_pack small (by simp)).1, List.replicate_zero, List.append_nil]

/-- A last group is made of symbols and the padding behind them. -/
structure Group (index : Nat) (group bytes : Bytes) (ns : List Nat) (padding : Bytes) : Prop where
  parted : group = ns.map symbol ++ padding
  small : ∀ n ∈ ns, n < 64
  signs : ∀ b ∈ padding, b = padSign
  enough : index + group.length ≠ 0 → 2 ≤ ns.length
  whole : group.length % 4 = 0
  unused : unusedBits ns = 0
  packed : bytes = pack ns

theorem group_of_decodeGroup {index : Nat} {group bytes : Bytes}
    (read : decodeGroup index group = .ok bytes) : ∃ ns padding, Group index group bytes ns padding := by
  let symbols := group.takeWhile (· != padSign)
  let padding := group.drop symbols.length
  have parted : group = symbols ++ padding := by
    have front : symbols = group.take symbols.length :=
      List.prefix_iff_eq_take.mp (List.takeWhile_prefix _)
    exact front ▸ (List.take_append_drop ..).symm
  rw [decodeGroup] at read
  change (values index symbols >>= _) = _ at read
  cases decoded : values index symbols with
  | error e => simp [decoded, bind, Except.bind] at read
  | ok ns =>
    obtain ⟨written, small⟩ := symbols_of_values decoded
    have count : symbols.length = ns.length := by rw [written, List.length_map]
    simp only [decoded, bind, Except.bind] at read
    split at read
    · cases read
    · rename_i signs
      split at read
      · cases read
      · rename_i enough
        split at read
        · cases read
        · rename_i whole
          split at read
          · cases read
          · rename_i unused
            change ¬ (padding ≠ [] ∧ (symbols.length < 2 ∨ padding.any (· != padSign) = true)) at signs
            change ¬ (index + group.length ≠ 0 ∧ symbols.length < 2) at enough
            change ¬ ((symbols.length + padding.length) % 4 ≠ 0) at whole
            refine ⟨ns, padding, written ▸ parted, small, ?_, by omega, ?_, by omega,
              (Except.ok.inj read).symm⟩
            · intro b member
              have some_padding : padding ≠ [] := List.ne_nil_of_mem member
              simp only [not_and, not_or, Bool.not_eq_true, List.any_eq_false] at signs
              simpa using (signs some_padding).2 b member
            · rw [parted, List.length_append]
              omega

theorem encode_of_decodeGroup {index : Nat} {group bytes : Bytes} (few : group.length ≤ 4)
    (read : decodeGroup index group = .ok bytes) : group = encode bytes := by
  obtain ⟨ns, padding, made⟩ := group_of_decodeGroup read
  have size : group.length = ns.length + padding.length := by
    rw [made.parted, List.length_append, List.length_map]
  have signs : padding = List.replicate padding.length padSign :=
    List.eq_replicate_of_mem made.signs
  rw [made.packed, made.parted, signs]
  by_cases empty : group.length = 0
  · have none_left : ns = [] ∧ padding = [] :=
      ⟨List.eq_nil_of_length_eq_zero (by omega), List.eq_nil_of_length_eq_zero (by omega)⟩
    rw [none_left.1, none_left.2]
    rfl
  · have enough := made.enough (by omega)
    have whole := made.whole
    have filled : ns.length + padding.length = 4 := by omega
    rw [encode_pack_final made.small enough filled made.unused]

theorem encode_of_decode {text bytes : Bytes} (read : decode text = .ok bytes) :
    text = encode bytes := by
  rw [decode] at read
  split at read
  · cases read
  · let start := (text.length - 1) / 4 * 4
    change (values 0 (text.take start) >>= fun ns => decodeGroup start (text.drop start) >>=
      fun final => Except.ok (pack ns ++ final)) = _ at read
    cases front : values 0 (text.take start) with
    | error e => simp [front, bind, Except.bind] at read
    | ok ns =>
      cases back : decodeGroup start (text.drop start) with
      | error e => simp [front, back, bind, Except.bind] at read
      | ok final =>
        obtain rfl : pack ns ++ final = bytes := by
          simpa [front, back, bind, Except.bind] using read
        obtain ⟨written, small⟩ := symbols_of_values front
        have size : ns.length = start := by
          rw [← List.length_map (f := symbol), ← written, List.length_take]
          omega
        obtain ⟨groups, whole⟩ := encode_pack small (by omega)
        have last : text.drop start = encode final :=
          encode_of_decodeGroup (by rw [List.length_drop]; omega) back
        rw [encode_append whole, groups, ← written, ← last, List.take_append_drop]

/-- Decoding is strict: bytes are read from the text that they are written as, and from no other. -/
theorem decode_eq_ok_iff {text bytes : Bytes} : decode text = .ok bytes ↔ text = encode bytes := by
  constructor
  · exact encode_of_decode
  · rintro rfl
    exact decode_encode bytes

end JsonRpc.Base64
