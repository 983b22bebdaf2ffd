import JsonRpc.Json.Reader

namespace JsonRpc

theorem ok_of_bind {ε α β : Type} {x : Except ε α} {f : α → Except ε β} {b : β}
    (ok : (x >>= f) = .ok b) : ∃ a, x = .ok a ∧ f a = .ok b := by
  cases x with
  | error e => cases ok
  | ok a => exact ⟨a, rfl, ok⟩

namespace Json

theorem length_skipBlanks (bytes : Bytes) : (skipBlanks bytes).length ≤ bytes.length :=
  (List.dropWhile_sublist isBlank).length_le

theorem skipBlanks_skipBlanks (bytes : Bytes) :
    skipBlanks (skipBlanks bytes) = skipBlanks bytes := by
  induction bytes with
  | nil => rfl
  | cons b bytes hypothesis =>
    cases blank : isBlank b with
    | true => simpa [skipBlanks, blank] using hypothesis
    | false => simp [skipBlanks, blank]

/-- How a value that is read begins, and what is read behind its first byte. -/
inductive Begins (levels : Nat) : UInt8 → Bytes → Json → Bytes → Prop where
  | null {tail rest : Bytes} (spelled : scanIdent (asciiBytes "ull") tail = .ok rest) :
      Begins levels (ascii 'n') tail .null rest
  | true {tail rest : Bytes} (spelled : scanIdent (asciiBytes "rue") tail = .ok rest) :
      Begins levels (ascii 't') tail (.bool true) rest
  | false {tail rest : Bytes} (spelled : scanIdent (asciiBytes "alse") tail = .ok rest) :
      Begins levels (ascii 'f') tail (.bool false) rest
  | negative {tail rest : Bytes} {n : Number} (scanned : scanNumber true tail = .ok (n, rest)) :
      Begins levels (ascii '-') tail (.number n) rest
  | number {b : UInt8} {tail rest : Bytes} {n : Number} (digit : isDigit b = true)
      (scanned : scanNumber false (b :: tail) = .ok (n, rest)) :
      Begins levels b tail (.number n) rest
  | string {tail rest : Bytes} {s : String} (scanned : scanString tail = .ok (s, rest)) :
      Begins levels (ascii '"') tail (.string s) rest
  | array {inner : Nat} {tail rest : Bytes} {items : List Json} (deeper : levels = inner + 1)
      (read : readList (readValue inner) tail = .ok (items, rest)) :
      Begins levels (ascii '[') tail (.array items) rest
  | object {inner : Nat} {tail rest : Bytes} {members : List (String × Json)}
      (deeper : levels = inner + 1)
      (read : readObject (readValue inner) tail = .ok (members, rest)) :
      Begins levels (ascii '\x7b') tail (ofMembers members) rest

theorem begins_of_read {levels : Nat} {bytes rest : Bytes} {v : Json}
    (read : readValue levels bytes = .ok (v, rest)) :
    ∃ b tail, skipBlanks bytes = b :: tail ∧ Begins levels b tail v rest := by
  rw [readValue.eq_def] at read
  cases blanks : skipBlanks bytes with
  | nil => simp only [blanks] at read; cases read
  | cons b tail =>
    refine ⟨b, tail, rfl, ?_⟩
    simp only [blanks] at read
    split at read
    · rename_i same
      obtain ⟨left, spelled, ended⟩ := ok_of_bind read
      cases ended
      exact same ▸ .null spelled
    split at read
    · rename_i same
      obtain ⟨left, spelled, ended⟩ := ok_of_bind read
      cases ended
      exact same ▸ .true spelled
    split at read
    · rename_i same
      obtain ⟨left, spelled, ended⟩ := ok_of_bind read
      cases ended
      exact same ▸ .false spelled
    split at read
    · rename_i same
      obtain ⟨⟨n, left⟩, scanned, ended⟩ := ok_of_bind read
      cases ended
      exact same ▸ .negative scanned
    split at read
    · rename_i digit
      obtain ⟨⟨n, left⟩, scanned, ended⟩ := ok_of_bind read
      cases ended
      exact .number digit scanned
    split at read
    · rename_i same
      obtain ⟨⟨s, left⟩, scanned, ended⟩ := ok_of_bind read
      cases ended
      exact same ▸ .string scanned
    split at read
    · rename_i same
      cases levels with
      | zero => cases read
      | succ inner =>
        obtain ⟨⟨items, left⟩, scanned, ended⟩ := ok_of_bind read
        cases ended
        exact same ▸ .array rfl scanned
    split at read
    · rename_i same
      cases levels with
      | zero => cases read
      | succ inner =>
        obtain ⟨⟨members, left⟩, scanned, ended⟩ := ok_of_bind read
        cases ended
        exact same ▸ .object rfl scanned
    · cases read

theorem readValue_skipBlanks (levels : Nat) (bytes : Bytes) :
    readValue levels (skipBlanks bytes) = readValue levels bytes := by
  rw [readValue.eq_def, readValue.eq_def]
  simp only [skipBlanks_skipBlanks]

theorem closeList_ok {bytes rest : Bytes} (closed : closeList bytes = .ok rest) :
    skipBlanks bytes = ascii ']' :: rest := by
  rw [closeList] at closed
  cases blanks : skipBlanks bytes with
  | nil => rw [blanks] at closed; cases closed
  | cons b tail =>
    rw [blanks] at closed
    simp only at closed
    split at closed
    · rename_i same
      cases closed
      rw [same]
    · split at closed
      · cases after : skipBlanks tail with
        | nil => rw [after] at closed; cases closed
        | cons c tail =>
          rw [after] at closed
          simp only at closed
          split at closed <;> cases closed
      · cases closed

theorem closeObject_ok {bytes rest : Bytes} (closed : closeObject bytes = .ok rest) :
    skipBlanks bytes = ascii '\x7d' :: rest := by
  rw [closeObject] at closed
  cases blanks : skipBlanks bytes with
  | nil => rw [blanks] at closed; cases closed
  | cons b tail =>
    rw [blanks] at closed
    simp only at closed
    split at closed
    · rename_i same
      cases closed
      rw [same]
    · split at closed <;> cases closed

theorem nextItem_first_ok {bytes start : Bytes} (found : nextItem true bytes = .ok (some start)) :
    ∃ b tail, skipBlanks bytes = b :: tail ∧ b ≠ ascii ']' ∧ start = b :: tail := by
  rw [nextItem] at found
  cases blanks : skipBlanks bytes with
  | nil => rw [blanks] at found; cases found
  | cons b tail =>
    rw [blanks] at found
    simp only [if_true] at found
    split at found
    · cases found
    · rename_i other
      cases found
      exact ⟨b, tail, rfl, other, rfl⟩

theorem nextItem_later_ok {bytes start : Bytes} (found : nextItem false bytes = .ok (some start)) :
    ∃ tail, skipBlanks bytes = ascii ',' :: tail ∧ start = skipBlanks tail := by
  rw [nextItem] at found
  cases blanks : skipBlanks bytes with
  | nil => rw [blanks] at found; cases found
  | cons b tail =>
    rw [blanks] at found
    simp only [Bool.false_eq_true, if_false] at found
    split at found
    · cases found
    · split at found
      · rename_i comma
        refine ⟨tail, by rw [comma], ?_⟩
        cases after : skipBlanks tail with
        | nil => rw [after] at found; cases found
        | cons c tail =>
          rw [after] at found
          simp only at found
          split at found
          · cases found
          · cases found
            rfl
      · cases found

theorem nextKey_first_ok {bytes start : Bytes} (found : nextKey true bytes = .ok (some start)) :
    skipBlanks bytes = ascii '"' :: start := by
  rw [nextKey] at found
  cases blanks : skipBlanks bytes with
  | nil => rw [blanks] at found; cases found
  | cons b tail =>
    rw [blanks] at found
    simp only [if_true] at found
    split at found
    · cases found
    · split at found
      · rename_i quote
        cases found
        rw [quote]
      · cases found

theorem nextKey_later_ok {bytes start : Bytes} (found : nextKey false bytes = .ok (some start)) :
    ∃ tail, skipBlanks bytes = ascii ',' :: tail ∧ skipBlanks tail = ascii '"' :: start := by
  rw [nextKey] at found
  cases blanks : skipBlanks bytes with
  | nil => rw [blanks] at found; cases found
  | cons b tail =>
    rw [blanks] at found
    simp only [Bool.false_eq_true, if_false] at found
    split at found
    · cases found
    · split at found
      · rename_i comma
        refine ⟨tail, by rw [comma], ?_⟩
        cases after : skipBlanks tail with
        | nil => rw [after] at found; cases found
        | cons c tail =>
          rw [after] at found
          simp only at found
          split at found
          · rename_i quote
            cases found
            rw [quote]
          · split at found <;> cases found
      · cases found

theorem scanColon_ok {bytes rest : Bytes} (scanned : scanColon bytes = .ok rest) :
    skipBlanks bytes = ascii ':' :: rest := by
  rw [scanColon] at scanned
  cases blanks : skipBlanks bytes with
  | nil => rw [blanks] at scanned; cases scanned
  | cons b tail =>
    rw [blanks] at scanned
    simp only at scanned
    split at scanned
    · rename_i same
      cases scanned
      rw [same]
    · cases scanned

theorem enclosed_ok {α : Type} {close : Bytes → Except Failure Bytes} {after : Bytes → Bytes}
    {inside : Except Failure (α × Bytes)} {a : α} {rest : Bytes}
    (read : enclosed close after inside = .ok (a, rest)) :
    ∃ left, inside = .ok (a, left) ∧ close left = .ok rest := by
  cases inside with
  | error f => cases read
  | ok pair =>
    obtain ⟨b, left⟩ := pair
    obtain ⟨tail, closed, ended⟩ := ok_of_bind read
    cases ended
    exact ⟨left, rfl, closed⟩

/-- The text is an object with these members, in this order, nested no deeper than a parser goes. -/
def ReadsObject (text : Bytes) (members : List (String × Json)) : Prop :=
  ∃ tail rest, skipBlanks text = ascii '\x7b' :: tail ∧
    readObject (readValue (maxLevels - 1)) tail = .ok (members, rest) ∧ skipBlanks rest = []

end Json

end JsonRpc
