import JsonRpc.Proofs.Json.Token
import JsonRpc.Proofs.Json.Reading

namespace JsonRpc.Json

mutual

def nesting : Json → Nat
  | .array items => itemsNesting items + 1
  | .object members => membersNesting members + 1
  | _ => 0

def itemsNesting : List Json → Nat
  | [] => 0
  | item :: items => max item.nesting (itemsNesting items)

def membersNesting : List (String × Json) → Nat
  | [] => 0
  | (_, value) :: members => max value.nesting (membersNesting members)

end

mutual

/-- No number in the value is a floating-point number. -/
def IsWhole : Json → Prop
  | .number (.real _) => False
  | .array items => WholeItems items
  | .object members => WholeMembers members
  | _ => True

def WholeItems : List Json → Prop
  | [] => True
  | item :: items => item.IsWhole ∧ WholeItems items

def WholeMembers : List (String × Json) → Prop
  | [] => True
  | (_, value) :: members => value.IsWhole ∧ WholeMembers members

end

/-- The bytes behind the first element of a list, up to its closing bracket. -/
def laterItems : List Json → Bytes
  | [] => []
  | item :: items => ascii ',' :: (item.bytes ++ laterItems items)

def keyBytes (key : String) : Bytes := Utf8.encodeChars (writeString key) ++ [ascii ':']

def laterMembers : List (String × Json) → Bytes
  | [] => []
  | (key, value) :: members =>
    ascii ',' :: (keyBytes key ++ (value.bytes ++ laterMembers members))

theorem encodeChars_writeItems (item : Json) (items : List Json) :
    Utf8.encodeChars (writeItems (item :: items)) = item.bytes ++ laterItems items := by
  induction items generalizing item with
  | nil => rw [writeItems, laterItems, List.append_nil]; rfl
  | cons next items hypothesis =>
    rw [writeItems, Utf8.encodeChars_append, Utf8.encodeChars_cons_low (by decide), hypothesis]
    · rfl
    · simp

theorem encodeChars_key (key : String) (cs : List Char) :
    Utf8.encodeChars (writeString key ++ ':' :: cs) = keyBytes key ++ Utf8.encodeChars cs := by
  rw [Utf8.encodeChars_append, Utf8.encodeChars_cons_low (by decide), keyBytes,
    List.append_assoc, List.singleton_append]

theorem encodeChars_writeMembers (key : String) (value : Json) (members : List (String × Json)) :
    Utf8.encodeChars (writeMembers ((key, value) :: members)) =
      keyBytes key ++ (value.bytes ++ laterMembers members) := by
  induction members generalizing key value with
  | nil => rw [writeMembers, laterMembers, List.append_nil, encodeChars_key]; rfl
  | cons next members hypothesis =>
    obtain ⟨nextKey, nextValue⟩ := next
    rw [writeMembers, List.append_assoc, List.cons_append, encodeChars_key,
      Utf8.encodeChars_append, Utf8.encodeChars_cons_low (by decide), hypothesis]
    · rfl
    · exact nofun

theorem ends_laterItems (items : List Json) (rest : Bytes) :
    Ends (laterItems items ++ ascii ']' :: rest) := by
  cases items with
  | nil => exact .inr (.inl rfl)
  | cons item items => exact .inl rfl

theorem ends_laterMembers (members : List (String × Json)) (rest : Bytes) :
    Ends (laterMembers members ++ ascii '\x7d' :: rest) := by
  cases members with
  | nil => exact .inr (.inr rfl)
  | cons member members => exact .inl rfl

theorem length_laterItems (items : List Json) : items.length ≤ (laterItems items).length := by
  induction items with
  | nil => exact Nat.le_refl _
  | cons item items hypothesis =>
    simp only [laterItems, List.length_cons, List.length_append]
    omega

theorem length_laterMembers (members : List (String × Json)) :
    members.length ≤ (laterMembers members).length := by
  induction members with
  | nil => exact Nat.le_refl _
  | cons member members hypothesis =>
    simp only [laterMembers, List.length_cons, List.length_append]
    omega

/-- A byte that a value may start with, as far as lists and objects look at it. -/
def Starts (b : UInt8) : Prop := isBlank b = false ∧ b ≠ ascii ']'

theorem starts_of_digit {b : UInt8} (digit : isDigit b = true) : Starts b := by
  refine ⟨?_, ne_of_digit digit (by decide)⟩
  have bounds := isDigit_iff.mp digit
  have blank : (ascii ' ').toNat = 32 ∧ (ascii '\n').toNat = 10 ∧ (ascii '\t').toNat = 9 ∧
      (ascii '\r').toNat = 13 := by decide
  simp only [isBlank, Bool.or_eq_false_iff, beq_eq_false_iff_ne, ne_eq, ← UInt8.toNat_inj]
  omega

theorem decimal_head (n : Nat) : ∃ c cs, decimal n = c :: cs ∧ c.isDigit = true := by
  obtain ⟨some_digits, digits⟩ := decimal_digits n
  obtain ⟨c, cs, split⟩ := List.exists_cons_of_ne_nil some_digits
  exact ⟨c, cs, split, digits c (split ▸ List.mem_cons_self)⟩

theorem bytes_head {v : Json} (whole : v.IsWhole) : ∃ b bs, v.bytes = b :: bs ∧ Starts b := by
  cases v with
  | null => exact ⟨_, _, rfl, rfl, by decide⟩
  | bool b => cases b <;> exact ⟨_, _, rfl, rfl, by decide⟩
  | string s => exact ⟨_, _, rfl, rfl, by decide⟩
  | array items => exact ⟨_, _, rfl, rfl, by decide⟩
  | object members => exact ⟨_, _, rfl, rfl, by decide⟩
  | number n =>
    cases n with
    | real x => exact whole.elim
    | whole w =>
      cases sign : w.val with
      | ofNat n =>
        obtain ⟨c, cs, split, digit⟩ := decimal_head n
        have bounds := digit_bounds digit
        refine ⟨ascii c, Utf8.encodeChars cs, ?_, starts_of_digit (isDigit_ascii digit)⟩
        rw [bytes, write, Number.write, sign, signedDecimal, split]
        exact Utf8.encodeChars_cons_low (by omega) cs
      | negSucc n =>
        refine ⟨ascii '-', Utf8.encodeChars (decimal (n + 1)), ?_, rfl, by decide⟩
        rw [bytes, write, Number.write, sign, signedDecimal]
        exact Utf8.encodeChars_cons_low (by decide) _

theorem skipBlanks_visible {b : UInt8} (visible : isBlank b = false) (bytes : Bytes) :
    skipBlanks (b :: bytes) = b :: bytes := by
  rw [skipBlanks, List.dropWhile_cons, if_neg (by simp [visible])]

theorem nextItem_first {v : Json} (whole : v.IsWhole) (rest : Bytes) :
    nextItem true (v.bytes ++ rest) = .ok (some (v.bytes ++ rest)) := by
  obtain ⟨b, bs, split, visible, other⟩ := bytes_head whole
  rw [split, List.cons_append, nextItem, skipBlanks_visible visible]
  simp only [if_neg other, if_true]

theorem nextItem_later {v : Json} (whole : v.IsWhole) (rest : Bytes) :
    nextItem false (ascii ',' :: (v.bytes ++ rest)) = .ok (some (v.bytes ++ rest)) := by
  obtain ⟨b, bs, split, visible, other⟩ := bytes_head whole
  rw [split, List.cons_append, nextItem, skipBlanks_visible rfl]
  simp only [skipBlanks_visible visible, if_neg other, Bool.false_eq_true, if_false, if_true,
    if_neg (show ascii ',' ≠ ascii ']' by decide)]

def contentBytes (s : String) : Bytes :=
  Utf8.encodeChars (s.toList.flatMap writeChar) ++ [ascii '"']

theorem bytes_string (s : String) : (Json.string s).bytes = ascii '"' :: contentBytes s := by
  simp [bytes, write, writeString, contentBytes, Utf8.encodeChars_append,
    Utf8.encodeChars_cons_low, Utf8.encodeChars_nil]

theorem keyBytes_eq (key : String) :
    keyBytes key = ascii '"' :: (contentBytes key ++ [ascii ':']) := by
  have quoted : Utf8.encodeChars (writeString key) = ascii '"' :: contentBytes key :=
    bytes_string key
  rw [keyBytes, quoted, List.cons_append]

theorem scanString_content (s : String) (rest : Bytes) :
    scanString (contentBytes s ++ rest) = .ok (s, rest) := by
  rw [contentBytes, List.append_assoc, List.singleton_append, scanString_written]

theorem nextKey_first (key : String) (rest : Bytes) :
    nextKey true (keyBytes key ++ rest) = .ok (some (contentBytes key ++ ascii ':' :: rest)) := by
  rw [keyBytes_eq, List.cons_append, List.append_assoc, nextKey, skipBlanks_visible rfl]
  rfl

theorem nextKey_later (key : String) (rest : Bytes) :
    nextKey false (ascii ',' :: (keyBytes key ++ rest)) =
      .ok (some (contentBytes key ++ ascii ':' :: rest)) := by
  rw [keyBytes_eq, List.cons_append, List.append_assoc, nextKey, skipBlanks_visible rfl]
  rfl

theorem scanColon_written (rest : Bytes) : scanColon (ascii ':' :: rest) = .ok rest := rfl

def ReadBack (levels : Nat) (v : Json) : Prop :=
  ∀ rest, Ends rest → readValue levels (v.bytes ++ rest) = .ok (v.sorted, rest)

theorem readItems_later {levels : Nat} (items : List Json) (whole : ∀ item ∈ items, item.IsWhole)
    (each : ∀ item ∈ items, ReadBack levels item) (spare : Bytes)
    (enough : items.length < spare.length) (rest : Bytes) :
    readItems (readValue levels) spare false (laterItems items ++ ascii ']' :: rest) =
      .ok (sortedItems items, ascii ']' :: rest) := by
  induction items generalizing spare with
  | nil =>
    cases spare with
    | nil => simp at enough
    | cons b spare => rfl
  | cons item items hypothesis =>
    cases spare with
    | nil => simp at enough
    | cons b spare =>
      have here := each item List.mem_cons_self _ (ends_laterItems items rest)
      have more := hypothesis (fun next member => whole next (List.mem_cons_of_mem _ member))
        (fun next member => each next (List.mem_cons_of_mem _ member)) spare
        (by simp only [List.length_cons] at enough; omega)
      simp only [laterItems, List.cons_append, List.append_assoc, readItems,
        nextItem_later (whole item List.mem_cons_self), bind, Except.bind, here, more, sortedItems]

theorem readList_written {levels : Nat} (items : List Json) (whole : ∀ item ∈ items, item.IsWhole)
    (each : ∀ item ∈ items, ReadBack levels item) (rest : Bytes) :
    readList (readValue levels) (Utf8.encodeChars (writeItems items) ++ ascii ']' :: rest) =
      .ok (sortedItems items, rest) := by
  cases items with
  | nil => rfl
  | cons item items =>
    have here := each item List.mem_cons_self _ (ends_laterItems items rest)
    have count := length_laterItems items
    let bytes := item.bytes ++ (laterItems items ++ ascii ']' :: rest)
    have enough : items.length < bytes.length := by
      simp only [bytes, List.length_append, List.length_cons]
      omega
    have more := readItems_later items
      (fun next member => whole next (List.mem_cons_of_mem _ member))
      (fun next member => each next (List.mem_cons_of_mem _ member)) bytes enough rest
    have inside : readItems (readValue levels) (0 :: bytes) true bytes =
        .ok (sortedItems (item :: items), ascii ']' :: rest) := by
      simp only [readItems, bytes, nextItem_first (whole item List.mem_cons_self), bind,
        Except.bind, here, sortedItems]
      simp only [bytes] at more
      rw [more]
    rw [encodeChars_writeItems, List.append_assoc, readList, inside]
    rfl

theorem readMembers_later {levels : Nat} (members : List (String × Json))
    (each : ∀ member ∈ members, ReadBack levels member.2) (spare : Bytes)
    (enough : members.length < spare.length) (rest : Bytes) :
    readMembers (readValue levels) spare false (laterMembers members ++ ascii '\x7d' :: rest) =
      .ok (sortedMembers members, ascii '\x7d' :: rest) := by
  induction members generalizing spare with
  | nil =>
    cases spare with
    | nil => simp at enough
    | cons b spare => rfl
  | cons member members hypothesis =>
    obtain ⟨key, value⟩ := member
    cases spare with
    | nil => simp at enough
    | cons b spare =>
      have here := each (key, value) List.mem_cons_self _ (ends_laterMembers members rest)
      have more := hypothesis (fun next member => each next (List.mem_cons_of_mem _ member)) spare
        (by simp only [List.length_cons] at enough; omega)
      simp only [laterMembers, List.cons_append, List.append_assoc, readMembers, nextKey_later,
        bind, Except.bind, scanString_content, scanColon_written, here, more, sortedMembers]

theorem readMembers_written {levels : Nat} (members : List (String × Json))
    (each : ∀ member ∈ members, ReadBack levels member.2) (rest : Bytes) :
    let bytes := Utf8.encodeChars (writeMembers members) ++ ascii '\x7d' :: rest
    readMembers (readValue levels) (0 :: bytes) true bytes =
      .ok (sortedMembers members, ascii '\x7d' :: rest) := by
  intro bytes
  cases members with
  | nil => rfl
  | cons member members =>
    obtain ⟨key, value⟩ := member
    have here := each (key, value) List.mem_cons_self _ (ends_laterMembers members rest)
    have count := length_laterMembers members
    have split : bytes =
        keyBytes key ++ (value.bytes ++ (laterMembers members ++ ascii '\x7d' :: rest)) := by
      simp only [bytes, encodeChars_writeMembers, List.append_assoc]
    have enough : members.length < bytes.length := by
      rw [split]
      simp only [List.length_append, List.length_cons]
      omega
    have more := readMembers_later members
      (fun next member => each next (List.mem_cons_of_mem _ member)) bytes enough rest
    rw [readMembers, split, nextKey_first, ← split]
    simp only [bind, Except.bind, scanString_content, scanColon_written, here, more, sortedMembers]

theorem readValue_number {levels : Nat} (w : Word) : ReadBack levels (.number (.whole w)) := by
  intro rest ends
  rw [bytes, write, Number.write]
  cases sign : w.val with
  | ofNat n =>
    obtain ⟨c, cs, split, digit⟩ := decimal_head n
    have bounds := digit_bounds digit
    have first := isDigit_ascii digit
    have scanned := scanNumber_natural (w := w) (n := n) sign ends
    have other : ∀ d : Char, (ascii d).toNat < 48 ∨ 57 < (ascii d).toNat → ascii c ≠ ascii d :=
      fun d => ne_of_digit first
    have visible : isBlank (ascii c) = false := (starts_of_digit first).1
    rw [signedDecimal, split, Utf8.encodeChars_cons_low (by omega), List.cons_append,
      readValue.eq_def]
    rw [split, Utf8.encodeChars_cons_low (by omega), List.cons_append] at scanned
    simp only [skipBlanks_visible visible, if_neg (other 'n' (by decide)),
      if_neg (other 't' (by decide)), if_neg (other 'f' (by decide)),
      if_neg (other '-' (by decide)), first, if_true, scanned]
    rfl
  | negSucc n =>
    have scanned := scanNumber_negated (w := w) (n := n + 1) sign (Nat.succ_pos n) ends
    rw [signedDecimal, Utf8.encodeChars_cons_low (by decide), List.cons_append, readValue.eq_def]
    simp only [skipBlanks_visible (show isBlank (ascii '-') = false from rfl), scanned]
    rfl

theorem readValue_null {levels : Nat} : ReadBack levels .null := by
  intro rest _
  have spelled : Json.null.bytes ++ rest = ascii 'n' :: (asciiBytes "ull" ++ rest) := rfl
  rw [spelled, readValue.eq_def]
  rfl

theorem readValue_bool {levels : Nat} (b : Bool) : ReadBack levels (.bool b) := by
  intro rest _
  cases b with
  | true =>
    have spelled : (Json.bool true).bytes ++ rest = ascii 't' :: (asciiBytes "rue" ++ rest) := rfl
    rw [spelled, readValue.eq_def]
    rfl
  | false =>
    have spelled : (Json.bool false).bytes ++ rest = ascii 'f' :: (asciiBytes "alse" ++ rest) := rfl
    rw [spelled, readValue.eq_def]
    rfl

theorem readValue_string {levels : Nat} (s : String) : ReadBack levels (.string s) := by
  intro rest _
  rw [bytes_string, List.cons_append, readValue.eq_def]
  simp only [skipBlanks_visible (show isBlank (ascii '"') = false from rfl), scanString_content]
  rfl

theorem readValue_array {levels : Nat} {items : List Json} (whole : ∀ item ∈ items, item.IsWhole)
    (each : ∀ item ∈ items, ReadBack levels item) : ReadBack (levels + 1) (.array items) := by
  intro rest _
  have bracketed : (Json.array items).bytes ++ rest = ascii '[' ::
      (Utf8.encodeChars (writeItems items) ++ ascii ']' :: rest) := by
    simp [bytes, write, Utf8.encodeChars_append, Utf8.encodeChars_cons_low, Utf8.encodeChars_nil]
  rw [bracketed, readValue.eq_def]
  simp only [skipBlanks_visible (show isBlank (ascii '[') = false from rfl),
    readList_written items whole each]
  rfl

theorem readObject_written {levels : Nat} {members : List (String × Json)}
    (each : ∀ member ∈ members, ReadBack levels member.2) (rest : Bytes) :
    readObject (readValue levels)
        (Utf8.encodeChars (writeMembers members) ++ ascii '\x7d' :: rest) =
      .ok (sortedMembers members, rest) := by
  have inside := readMembers_written members each rest
  rw [readObject, inside]
  rfl

theorem bytes_object (members : List (String × Json)) :
    (Json.object members).bytes = ascii '\x7b' ::
      (Utf8.encodeChars (writeMembers members) ++ [ascii '\x7d']) := by
  simp [bytes, write, Utf8.encodeChars_append, Utf8.encodeChars_cons_low, Utf8.encodeChars_nil]

theorem readValue_object {levels : Nat} {members : List (String × Json)}
    (each : ∀ member ∈ members, ReadBack levels member.2) :
    ReadBack (levels + 1) (.object members) := by
  intro rest _
  rw [bytes_object, List.cons_append, List.append_assoc, List.singleton_append, readValue.eq_def]
  simp only [skipBlanks_visible (show isBlank (ascii '\x7b') = false from rfl),
    readObject_written each]
  rfl

theorem wholeItems_iff {items : List Json} :
    WholeItems items ↔ ∀ item ∈ items, item.IsWhole := by
  induction items with
  | nil => simp [WholeItems]
  | cons item items hypothesis => rw [WholeItems, hypothesis, List.forall_mem_cons]

theorem wholeMembers_iff {members : List (String × Json)} :
    WholeMembers members ↔ ∀ member ∈ members, member.2.IsWhole := by
  induction members with
  | nil => simp [WholeMembers]
  | cons member members hypothesis => rw [WholeMembers, hypothesis, List.forall_mem_cons]

mutual

theorem readValue_bytes : (v : Json) → (levels : Nat) → v.IsWhole → v.nesting ≤ levels →
    ReadBack levels v
  | .null, _, _, _ => readValue_null
  | .bool b, _, _, _ => readValue_bool b
  | .number (.whole w), _, _, _ => readValue_number w
  | .string s, _, _, _ => readValue_string s
  | .array items, levels + 1, whole, nested =>
    readValue_array (wholeItems_iff.mp whole)
      (readEach_items items levels whole (Nat.le_of_succ_le_succ nested))
  | .object members, levels + 1, whole, nested =>
    readValue_object (readEach_members members levels whole (Nat.le_of_succ_le_succ nested))

theorem readEach_items : (items : List Json) → (levels : Nat) → WholeItems items →
    itemsNesting items ≤ levels → ∀ item ∈ items, ReadBack levels item
  | [], _, _, _ => by simp
  | item :: items, levels, ⟨here, more⟩, nested =>
    List.forall_mem_cons.mpr
      ⟨readValue_bytes item levels here (Nat.le_trans (Nat.le_max_left ..) nested),
        readEach_items items levels more (Nat.le_trans (Nat.le_max_right ..) nested)⟩

theorem readEach_members : (members : List (String × Json)) → (levels : Nat) →
    WholeMembers members → membersNesting members ≤ levels →
    ∀ member ∈ members, ReadBack levels member.2
  | [], _, _, _ => by simp
  | (_, value) :: members, levels, ⟨here, more⟩, nested =>
    List.forall_mem_cons.mpr
      ⟨readValue_bytes value levels here (Nat.le_trans (Nat.le_max_left ..) nested),
        readEach_members members levels more (Nat.le_trans (Nat.le_max_right ..) nested)⟩

end

theorem insertMember_last {key : String} (value : Json) {members : List (String × Json)}
    (below : ∀ member ∈ members, member.1 < key) :
    insertMember key value members = members ++ [(key, value)] := by
  induction members with
  | nil => rfl
  | cons member members hypothesis =>
    obtain ⟨k, v⟩ := member
    have before : k < key := below (k, v) List.mem_cons_self
    have more := hypothesis fun next member => below next (List.mem_cons_of_mem _ member)
    have other : key ≠ k := by
      rintro rfl
      exact String.lt_irrefl key before
    rw [insertMember, if_neg (String.lt_asymm before), if_neg other, more, List.cons_append]

theorem foldl_insertMember {front members : List (String × Json)}
    (increasing : (front ++ members).Pairwise (·.1 < ·.1)) :
    members.foldl (fun sorted (k, v) => insertMember k v sorted) front = front ++ members := by
  induction members generalizing front with
  | nil => simp
  | cons member members hypothesis =>
    obtain ⟨key, value⟩ := member
    have below : ∀ earlier ∈ front, earlier.1 < key := fun earlier there =>
      (List.pairwise_append.mp increasing).2.2 earlier there (key, value) List.mem_cons_self
    rw [List.append_cons] at increasing
    have more := hypothesis increasing
    simp only [List.foldl_cons, insertMember_last value below]
    rw [more, List.append_assoc, List.singleton_append]

theorem ofMembers_increasing {members : List (String × Json)}
    (increasing : members.Pairwise (·.1 < ·.1)) : ofMembers members = .object members := by
  rw [ofMembers, foldl_insertMember (by simpa using increasing), List.nil_append]

mutual

theorem sorted_of_canonical : (v : Json) → v.Canonical → v.sorted = v
  | .null, _ | .bool _, _ | .number _, _ | .string _, _ => rfl
  | .array items, canonical => congrArg Json.array (sortedItems_of_canonical items canonical)
  | .object members, ⟨increasing, canonical⟩ => by
    rw [sorted, sortedMembers_of_canonical members canonical, ofMembers_increasing increasing]

theorem sortedItems_of_canonical : (items : List Json) → CanonicalItems items →
    sortedItems items = items
  | [], _ => rfl
  | item :: items, ⟨here, more⟩ => by
    rw [sortedItems, sorted_of_canonical item here, sortedItems_of_canonical items more]

theorem sortedMembers_of_canonical : (members : List (String × Json)) →
    CanonicalMembers members → sortedMembers members = members
  | [], _ => rfl
  | (key, value) :: members, ⟨here, more⟩ => by
    rw [sortedMembers, sorted_of_canonical value here, sortedMembers_of_canonical members more]

end

theorem readsObject_bytes {members : List (String × Json)} (whole : WholeMembers members)
    (shallow : (Json.object members).nesting ≤ maxLevels) :
    ReadsObject (Json.object members).bytes (sortedMembers members) := by
  have inside : membersNesting members ≤ maxLevels - 1 := by
    rw [nesting] at shallow
    omega
  have read := readObject_written (readEach_members members _ whole inside) []
  refine ⟨_, [], ?_, read, rfl⟩
  rw [bytes_object]
  exact skipBlanks_visible rfl _

theorem keys_sortedMembers (members : List (String × Json)) :
    (sortedMembers members).map (·.1) = members.map (·.1) := by
  induction members with
  | nil => rfl
  | cons member members hypothesis =>
    rw [sortedMembers, List.map_cons, List.map_cons, hypothesis]

theorem lookup_sortedMembers (key : String) (members : List (String × Json)) :
    (sortedMembers members).lookup key = (members.lookup key).map sorted := by
  induction members with
  | nil => rfl
  | cons member members hypothesis =>
    obtain ⟨other, value⟩ := member
    simp only [sortedMembers, List.lookup_cons, hypothesis]
    split <;> rfl

end JsonRpc.Json
