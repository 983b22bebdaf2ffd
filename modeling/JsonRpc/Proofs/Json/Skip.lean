import JsonRpc.Proofs.Json.Skip.Scalar

namespace JsonRpc.Json

def skipMoreItems (spare bytes : Bytes) : Except Failure Bytes :=
  match skipBlanks bytes with
  | [] => refuse .endOfList []
  | b :: rest =>
    if b = ascii ',' then skipItems spare rest
    else if b = ascii ']' then .ok rest
    else refuse .expectedCommaOrBracket rest

def skipMoreMembers (spare bytes : Bytes) : Except Failure Bytes :=
  match skipBlanks bytes with
  | [] => refuse .endOfObject []
  | b :: rest =>
    if b = ascii ',' then skipMembers spare rest
    else if b = ascii '\x7d' then .ok rest
    else refuse .expectedCommaOrBrace rest

/-- A value inside a text that has at most as many bytes as there are to spare. -/
abbrev skipInside (spare : Bytes) : Bytes → Except Failure Bytes :=
  skipValue (skipItems spare) (skipMembers spare)

theorem skipItems_cons (b : UInt8) (spare bytes : Bytes) :
    skipItems (b :: spare) bytes = (do
      let rest ← skipInside spare bytes
      skipMoreItems spare rest) := by
  rw [skipItems]
  rfl

theorem skipMembers_cons (b : UInt8) (spare : Bytes) {bytes start value : Bytes} {key : String}
    (quoted : skipBlanks bytes = ascii '"' :: start)
    (named : scanString start = .ok (key, value)) {rest : Bytes}
    (colon : scanColon value = .ok rest) :
    skipMembers (b :: spare) bytes = (do
      let rest ← skipInside spare rest
      skipMoreMembers spare rest) := by
  rw [skipMembers]
  simp only [quoted, ne_eq, not_true_eq_false, if_false, skipString_of_read named, bind,
    Except.bind, scanColon_ok colon]
  rfl

/-- Values that are read with so many levels to go are skipped, and take at least a byte. -/
def Skips (levels : Nat) : Prop :=
  ∀ bytes v rest, readValue levels bytes = .ok (v, rest) →
    rest.length < bytes.length ∧
      ∀ spare, bytes.length ≤ spare.length → skipInside spare bytes = .ok rest

theorem skipMoreItems_end {bytes rest : Bytes} (ended : skipBlanks bytes = ascii ']' :: rest) :
    rest.length < bytes.length ∧ ∀ spare, skipMoreItems spare bytes = .ok rest := by
  have blanks := length_skipBlanks bytes
  rw [ended, List.length_cons] at blanks
  refine ⟨blanks, fun spare => ?_⟩
  rw [skipMoreItems, ended]
  rfl

theorem skipMoreMembers_end {bytes rest : Bytes} (ended : skipBlanks bytes = ascii '\x7d' :: rest) :
    rest.length < bytes.length ∧ ∀ spare, skipMoreMembers spare bytes = .ok rest := by
  have blanks := length_skipBlanks bytes
  rw [ended, List.length_cons] at blanks
  refine ⟨blanks, fun spare => ?_⟩
  rw [skipMoreMembers, ended]
  rfl

theorem Skips.laterItems {levels : Nat} (skips : Skips levels) {bound bytes left rest : Bytes}
    {items : List Json} (read : readItems (readValue levels) bound false bytes = .ok (items, left))
    (closed : closeList left = .ok rest) :
    rest.length < bytes.length ∧
      ∀ spare, bytes.length ≤ spare.length → skipMoreItems spare bytes = .ok rest := by
  induction bound generalizing bytes items with
  | nil =>
    cases read
    obtain ⟨shorter, skipped⟩ := skipMoreItems_end (closeList_ok closed)
    exact ⟨shorter, fun spare _ => skipped spare⟩
  | cons b bound hypothesis =>
    obtain ⟨next, found, read⟩ := ok_of_bind read
    cases next with
    | none =>
      cases read
      obtain ⟨shorter, skipped⟩ := skipMoreItems_end (closeList_ok closed)
      exact ⟨shorter, fun spare _ => skipped spare⟩
    | some start =>
      obtain ⟨⟨item, behind⟩, here, read⟩ := ok_of_bind read
      obtain ⟨⟨more, last⟩, there, ended⟩ := ok_of_bind read
      cases ended
      obtain ⟨tail, comma, rfl⟩ := nextItem_later_ok found
      have blanks := length_skipBlanks bytes
      rw [comma, List.length_cons] at blanks
      rw [readValue_skipBlanks] at here
      obtain ⟨shorter, skipped⟩ := skips tail item behind here
      obtain ⟨end_shorter, end_skipped⟩ := hypothesis there
      refine ⟨by omega, fun spare enough => ?_⟩
      cases spare with
      | nil =>
        rw [List.length_nil] at enough
        omega
      | cons c spare =>
        rw [List.length_cons] at enough
        have value := skipped spare (by omega)
        have later := end_skipped spare (by omega)
        rw [skipMoreItems, comma]
        simp only [if_true, skipItems_cons, value, bind, Except.bind, later]

theorem Skips.laterMembers {levels : Nat} (skips : Skips levels) {bound bytes left rest : Bytes}
    {members : List (String × Json)}
    (read : readMembers (readValue levels) bound false bytes = .ok (members, left))
    (closed : closeObject left = .ok rest) :
    rest.length < bytes.length ∧
      ∀ spare, bytes.length ≤ spare.length → skipMoreMembers spare bytes = .ok rest := by
  induction bound generalizing bytes members with
  | nil =>
    cases read
    obtain ⟨shorter, skipped⟩ := skipMoreMembers_end (closeObject_ok closed)
    exact ⟨shorter, fun spare _ => skipped spare⟩
  | cons b bound hypothesis =>
    obtain ⟨next, found, read⟩ := ok_of_bind read
    cases next with
    | none =>
      cases read
      obtain ⟨shorter, skipped⟩ := skipMoreMembers_end (closeObject_ok closed)
      exact ⟨shorter, fun spare _ => skipped spare⟩
    | some start =>
      obtain ⟨⟨key, behind⟩, named, read⟩ := ok_of_bind read
      obtain ⟨value, colon, read⟩ := ok_of_bind read
      obtain ⟨⟨item, after⟩, here, read⟩ := ok_of_bind read
      obtain ⟨⟨more, last⟩, there, ended⟩ := ok_of_bind read
      cases ended
      obtain ⟨tail, comma, quoted⟩ := nextKey_later_ok found
      have blanks := length_skipBlanks bytes
      have second := length_skipBlanks tail
      have third := length_skipBlanks behind
      have key_length := length_skipString (skipString_of_read named)
      rw [comma, List.length_cons] at blanks
      rw [quoted, List.length_cons] at second
      rw [scanColon_ok colon, List.length_cons] at third
      obtain ⟨shorter, skipped⟩ := skips value item after here
      obtain ⟨end_shorter, end_skipped⟩ := hypothesis there
      refine ⟨by omega, fun spare enough => ?_⟩
      cases spare with
      | nil =>
        rw [List.length_nil] at enough
        omega
      | cons c spare =>
        rw [List.length_cons] at enough
        have inside := skipped spare (by omega)
        have later := end_skipped spare (by omega)
        rw [skipMoreMembers, comma]
        simp only [if_true, skipMembers_cons c spare quoted named colon, inside, bind, Except.bind,
          later]

theorem Skips.list {levels : Nat} (skips : Skips levels) {bytes rest : Bytes} {items : List Json}
    (read : readList (readValue levels) bytes = .ok (items, rest)) :
    rest.length < bytes.length ∧ ∀ spare, bytes.length < spare.length →
      (∃ tail, skipBlanks bytes = ascii ']' :: tail ∧ rest = tail) ∨
      (∃ b tail, skipBlanks bytes = b :: tail ∧ b ≠ ascii ']' ∧
        skipItems spare bytes = .ok rest) := by
  obtain ⟨left, inside, closed⟩ := enclosed_ok read
  obtain ⟨next, found, inside⟩ := ok_of_bind inside
  cases next with
  | none =>
    cases inside
    have ended := closeList_ok closed
    exact ⟨(skipMoreItems_end ended).1, fun _ _ => .inl ⟨rest, ended, rfl⟩⟩
  | some start =>
    obtain ⟨⟨item, behind⟩, here, inside⟩ := ok_of_bind inside
    obtain ⟨⟨more, last⟩, there, ended⟩ := ok_of_bind inside
    cases ended
    obtain ⟨b, tail, blanks, other, rfl⟩ := nextItem_first_ok found
    rw [← blanks, readValue_skipBlanks] at here
    obtain ⟨shorter, skipped⟩ := skips bytes item behind here
    obtain ⟨end_shorter, end_skipped⟩ := skips.laterItems there closed
    refine ⟨by omega, fun spare enough => .inr ⟨b, tail, blanks, other, ?_⟩⟩
    cases spare with
    | nil => simp at enough
    | cons c spare =>
      rw [List.length_cons] at enough
      have value := skipped spare (by omega)
      have later := end_skipped spare (by omega)
      simp only [skipItems_cons, value, bind, Except.bind, later]

theorem Skips.object {levels : Nat} (skips : Skips levels) {bytes rest : Bytes}
    {members : List (String × Json)}
    (read : readObject (readValue levels) bytes = .ok (members, rest)) :
    rest.length < bytes.length ∧ ∀ spare, bytes.length < spare.length →
      (∃ tail, skipBlanks bytes = ascii '\x7d' :: tail ∧ rest = tail) ∨
      (∃ tail, skipBlanks bytes = ascii '"' :: tail ∧ skipMembers spare bytes = .ok rest) := by
  obtain ⟨left, inside, closed⟩ := enclosed_ok read
  obtain ⟨next, found, inside⟩ := ok_of_bind inside
  cases next with
  | none =>
    cases inside
    have ended := closeObject_ok closed
    exact ⟨(skipMoreMembers_end ended).1, fun _ _ => .inl ⟨rest, ended, rfl⟩⟩
  | some start =>
    obtain ⟨⟨key, behind⟩, named, inside⟩ := ok_of_bind inside
    obtain ⟨value, colon, inside⟩ := ok_of_bind inside
    obtain ⟨⟨item, after⟩, here, inside⟩ := ok_of_bind inside
    obtain ⟨⟨more, last⟩, there, ended⟩ := ok_of_bind inside
    cases ended
    have quoted := nextKey_first_ok found
    have blanks := length_skipBlanks bytes
    have second := length_skipBlanks behind
    have key_length := length_skipString (skipString_of_read named)
    rw [quoted, List.length_cons] at blanks
    rw [scanColon_ok colon, List.length_cons] at second
    obtain ⟨shorter, skipped⟩ := skips value item after here
    obtain ⟨end_shorter, end_skipped⟩ := skips.laterMembers there closed
    refine ⟨by omega, fun spare enough => .inr ⟨start, quoted, ?_⟩⟩
    cases spare with
    | nil => simp at enough
    | cons c spare =>
      rw [List.length_cons] at enough
      have inside := skipped spare (by omega)
      have later := end_skipped spare (by omega)
      simp only [skipMembers_cons c spare quoted named colon, inside, bind, Except.bind, later]

section Brackets

variable {spare bytes tail after : Bytes}

theorem skipInside_empty_list (bracket : skipBlanks bytes = ascii '[' :: tail)
    (ended : skipBlanks tail = ascii ']' :: after) : skipInside spare bytes = .ok after := by
  simp only [skipInside, skipValue, bracket, ended]
  rfl

theorem skipInside_list {c : UInt8} (bracket : skipBlanks bytes = ascii '[' :: tail)
    (some_item : skipBlanks tail = c :: after) (other : c ≠ ascii ']') :
    skipInside spare bytes = skipItems spare tail := by
  simp only [skipInside, skipValue, bracket, some_item, if_neg other]
  rfl

theorem skipInside_empty_object (brace : skipBlanks bytes = ascii '\x7b' :: tail)
    (ended : skipBlanks tail = ascii '\x7d' :: after) : skipInside spare bytes = .ok after := by
  simp only [skipInside, skipValue, brace, ended]
  rfl

theorem skipInside_object (brace : skipBlanks bytes = ascii '\x7b' :: tail)
    (some_member : skipBlanks tail = ascii '"' :: after) :
    skipInside spare bytes = skipMembers spare tail := by
  simp only [skipInside, skipValue, brace, some_member]
  rfl

end Brackets

theorem skips_of_begins {levels : Nat} (deeper : ∀ inner, levels = inner + 1 → Skips inner)
    {b : UInt8} {bytes tail rest : Bytes} {v : Json} (blanks : skipBlanks bytes = b :: tail)
    (begins : Begins levels b tail v rest) :
    rest.length < bytes.length ∧
      ∀ spare, bytes.length ≤ spare.length → skipInside spare bytes = .ok rest := by
  have shrunk := length_skipBlanks bytes
  rw [blanks, List.length_cons] at shrunk
  cases begins with
  | null spelled | true spelled | false spelled =>
    have shorter := length_scanIdent spelled
    refine ⟨by omega, fun spare _ => ?_⟩
    rw [skipInside, skipValue, blanks]
    exact spelled
  | negative scanned =>
    have skipped := skipNumber_of_read scanned
    have shorter := length_skipNumber skipped
    refine ⟨by omega, fun spare _ => ?_⟩
    rw [skipInside, skipValue, blanks]
    exact skipped
  | number digit scanned =>
    have skipped := skipNumber_of_read scanned
    have shorter := length_skipNumber skipped
    rw [List.length_cons] at shorter
    refine ⟨by omega, fun spare _ => ?_⟩
    rw [skipInside, skipValue, blanks]
    simp only [if_neg (ne_of_digit digit (c := 'n') (by decide)),
      if_neg (ne_of_digit digit (c := 't') (by decide)),
      if_neg (ne_of_digit digit (c := 'f') (by decide)),
      if_neg (ne_of_digit digit (c := '-') (by decide)), digit, if_true]
    exact skipped
  | string scanned =>
    have skipped := skipString_of_read scanned
    have shorter := length_skipString skipped
    refine ⟨by omega, fun spare _ => ?_⟩
    rw [skipInside, skipValue, blanks]
    exact skipped
  | @array inner _ _ items levels read =>
    obtain ⟨shorter, skipped⟩ := (deeper inner levels).list read
    refine ⟨by omega, fun spare enough => ?_⟩
    rcases skipped spare (by omega) with ⟨after, ended, rfl⟩ | ⟨c, after, some_item, other, inside⟩
    · exact skipInside_empty_list blanks ended
    · rw [skipInside_list blanks some_item other, inside]
  | @object inner _ _ members levels read =>
    obtain ⟨shorter, skipped⟩ := (deeper inner levels).object read
    refine ⟨by omega, fun spare enough => ?_⟩
    rcases skipped spare (by omega) with ⟨after, ended, rfl⟩ | ⟨after, some_member, inside⟩
    · exact skipInside_empty_object blanks ended
    · rw [skipInside_object blanks some_member, inside]

theorem skips (levels : Nat) : Skips levels := by
  induction levels with
  | zero =>
    intro bytes v rest read
    obtain ⟨b, tail, blanks, begins⟩ := begins_of_read read
    have no_deeper : ∀ inner, 0 = inner + 1 → Skips inner := by omega
    exact skips_of_begins no_deeper blanks begins
  | succ levels hypothesis =>
    intro bytes v rest read
    obtain ⟨b, tail, blanks, begins⟩ := begins_of_read read
    refine skips_of_begins (fun inner same => ?_) blanks begins
    obtain rfl : levels = inner := Nat.succ.inj same
    exact hypothesis

/-- What can be read can be skipped, and skipping ends where reading does. -/
theorem skip_of_readValue {levels : Nat} {bytes rest : Bytes} {v : Json}
    (read : readValue levels bytes = .ok (v, rest)) : skip bytes = .ok rest :=
  (skips levels bytes v rest read).2 bytes (Nat.le_refl _)

end JsonRpc.Json
