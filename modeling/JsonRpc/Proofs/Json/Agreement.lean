import JsonRpc.Proofs.Json.Skip
import JsonRpc.Json.Codec

namespace JsonRpc.Json

variable {α β : Type}

def Agrees (read : Except Failure (α × Bytes)) (decoded : Except Refusal α) (rest : Bytes) : Prop :=
  match decoded with
  | .ok a => read = .ok (a, rest)
  | .error refusal => ∃ f, read = .error f ∧ f.refusal = refusal

theorem Agrees.map {read : Except Failure (α × Bytes)} {decoded : Except Refusal α} {rest : Bytes}
    (agrees : Agrees read decoded rest) (f : α → β) :
    Agrees (read.map fun (a, rest) => (f a, rest)) (decoded.map f) rest := by
  cases decoded with
  | ok a =>
    obtain rfl := agrees
    rfl
  | error refusal =>
    obtain ⟨failure, rfl, same⟩ := agrees
    exact ⟨failure, rfl, same⟩

theorem Agrees.bind {read : Except Failure (α × Bytes)} {decoded : Except Refusal α}
    {rest last : Bytes} (agrees : Agrees read decoded rest)
    {next : α × Bytes → Except Failure (β × Bytes)} {also : α → Except Refusal β}
    (more : ∀ a, Agrees (next (a, rest)) (also a) last) :
    Agrees (read >>= next) (decoded >>= also) last := by
  cases decoded with
  | ok a =>
    obtain rfl := agrees
    exact more a
  | error refusal =>
    obtain ⟨failure, rfl, same⟩ := agrees
    exact ⟨failure, rfl, same⟩

theorem readValue_of_blanks {levels : Nat} {bytes rest tail : Bytes} {b : UInt8} {v : Json}
    (blanks : skipBlanks bytes = b :: tail) (read : readValue levels bytes = .ok (v, rest)) :
    readValue levels (b :: tail) = .ok (v, rest) := by
  rw [← blanks, readValue_skipBlanks]
  exact read

theorem readValue_levels {b : UInt8} {bytes tail : Bytes} (blanks : skipBlanks bytes = b :: tail)
    (no_list : b ≠ ascii '[') (no_object : b ≠ ascii '\x7b') (levels other : Nat) :
    readValue levels bytes = readValue other bytes := by
  rw [readValue.eq_def, readValue.eq_def]
  simp only [blanks, if_neg no_list, if_neg no_object]

namespace Codec

def Faithful (c : Codec α) : Prop :=
  ∀ levels bytes v rest, readValue levels bytes = .ok (v, rest) →
    Agrees (c.read levels bytes) (c.decode v) rest

theorem faithful_value : value.Faithful := fun _ _ _ _ read => read

theorem Faithful.map {c : Codec α} (faithful : c.Faithful) (f : α → β) : (c.map f).Faithful :=
  fun levels bytes v rest read => (faithful levels bytes v rest read).map f

theorem Faithful.option {c : Codec α} (faithful : c.Faithful) : c.option.Faithful := by
  intro levels bytes v rest read
  obtain ⟨b, tail, blanks, begins⟩ := begins_of_read read
  have here := (faithful levels (b :: tail) v rest (readValue_of_blanks blanks read)).map some
  have reads : c.option.read levels bytes =
      if b = ascii 'n' then (scanIdent (asciiBytes "ull") tail).map ((none : Option α), ·)
      else (c.read levels (b :: tail)).map fun (a, rest) => (some a, rest) := by
    simp only [Codec.option, blanks]
  rw [reads]
  cases begins with
  | null spelled =>
    rw [if_pos rfl, spelled]
    rfl
  | true | false | negative | string | array | object =>
    rw [if_neg (by decide)]
    exact here
  | number digit =>
    rw [if_neg (ne_of_digit digit (by decide))]
    exact here

theorem readFound_of_read {levels : Nat} {bytes rest : Bytes} {v : Json}
    (read : readValue levels bytes = .ok (v, rest)) :
    ∃ left, readFound bytes = .ok (v.found, left) ∧ (v.isScalar = true → left = rest) := by
  obtain ⟨b, tail, blanks, begins⟩ := begins_of_read read
  have whole : b ≠ ascii '[' → b ≠ ascii '\x7b' → readFound bytes = .ok (v.found, rest) := by
    intro no_list no_object
    have here := readValue_of_blanks blanks read
    have behind : skipBlanks (b :: tail) = b :: tail := by rw [← blanks, skipBlanks_skipBlanks]
    rw [readValue_levels behind no_list no_object levels 0] at here
    simp only [readFound, blanks, if_neg no_list, if_neg no_object, here]
    rfl
  cases begins with
  | null | true | false | negative | string =>
    exact ⟨rest, whole (by decide) (by decide), fun _ => rfl⟩
  | number digit =>
    have no_list : b ≠ ascii '[' := ne_of_digit digit (by decide)
    have no_object : b ≠ ascii '\x7b' := ne_of_digit digit (by decide)
    exact ⟨rest, whole no_list no_object, fun _ => rfl⟩
  | array =>
    refine ⟨ascii '[' :: tail, ?_, fun scalar => by cases scalar⟩
    simp only [readFound, blanks]
    rfl
  | object =>
    refine ⟨ascii '\x7b' :: tail, ?_, fun scalar => by cases scalar⟩
    simp only [readFound, blanks]
    rfl

theorem string_decode (s : String) : string.decode (.string s) = .ok s := rfl

theorem string_refuses {v : Json} (no_text : ∀ s, v ≠ .string s) :
    string.decode v = .error (.wrongType v.found "a string") := by
  cases v with
  | string s => exact absurd rfl (no_text s)
  | _ => rfl

theorem faithful_string : string.Faithful := by
  intro levels bytes v rest read
  obtain ⟨left, found, whole⟩ := readFound_of_read read
  by_cases text : ∃ s, v = .string s
  · obtain ⟨s, rfl⟩ := text
    obtain rfl := whole rfl
    simp only [Agrees, string_decode]
    simp only [string, scalar, found]
    rfl
  · have no_text : ∀ s, v ≠ .string s := fun s same => text ⟨s, same⟩
    simp only [Agrees, string_refuses no_text]
    simp only [string, scalar, found]
    cases v with
    | string s => exact absurd rfl (no_text s)
    | _ => exact ⟨_, rfl, rfl⟩

end Codec

namespace Layout

variable {l : Layout α}

theorem missing?_of_optional (optional : ∀ field ∈ l.fields, field.required = false)
    (seen : List String) : l.missing? seen = none := by
  rw [missing?, Option.map_eq_none_iff, List.find?_eq_none]
  intro field member
  simp [optional field member]

/-- Members that are read as values are read by the fields that they name, and skipped where they
name none. -/
theorem readKeys_agrees (optional : ∀ field ∈ l.fields, field.required = false)
    (faithful : ∀ field ∈ l.fields, field.codec.Faithful) {levels : Nat} {spare : Bytes}
    {first : Bool} {bytes left : Bytes} {members : List (String × Json)}
    (read : readMembers (readValue levels) spare first bytes = .ok (members, left))
    (distinct : (members.map (·.1)).Nodup) {seen : List String}
    (unseen : ∀ key ∈ members.map (·.1), key ∉ seen) (a : α) :
    Agrees (l.readKeys levels spare first seen a bytes) (l.decodeMembers members seen a) left := by
  induction spare generalizing first bytes members seen a with
  | nil =>
    cases read
    simp only [decodeMembers, missing?_of_optional optional]
    rfl
  | cons b spare hypothesis =>
    obtain ⟨next, found, read⟩ := ok_of_bind read
    cases next with
    | none =>
      cases read
      simp only [readKeys, found, decodeMembers, missing?_of_optional optional]
      rfl
    | some start =>
      obtain ⟨⟨key, behind⟩, named, read⟩ := ok_of_bind read
      obtain ⟨value, colon, read⟩ := ok_of_bind read
      obtain ⟨⟨item, after⟩, here, read⟩ := ok_of_bind read
      obtain ⟨⟨more, last⟩, there, ended⟩ := ok_of_bind read
      cases ended
      obtain ⟨fresh, distinct⟩ := List.nodup_cons.mp distinct
      have unseen_here : key ∉ seen := unseen key List.mem_cons_self
      have unseen_more : ∀ other ∈ more.map (·.1), other ∉ seen := fun other member =>
        unseen other (List.mem_cons_of_mem _ member)
      rw [decodeMembers]
      cases known : l.fields.find? (·.key == key) with
      | none =>
        have skipped := skip_of_readValue here
        have goes : l.readKeys levels (b :: spare) first seen a bytes =
            l.readKeys levels spare false seen a after := by
          simp only [readKeys, found, bind, Except.bind, named, known, colon, skipped]
        rw [goes]
        exact hypothesis there distinct unseen_more a
      | some field =>
        have goes : l.readKeys levels (b :: spare) first seen a bytes =
            field.codec.read levels value >>= fun pair =>
              l.readKeys levels spare false (key :: seen) (pair.1 a) pair.2 := by
          have new : seen.contains key = false := by simpa using unseen_here
          simp only [readKeys, found, bind, Except.bind, named, known, new, colon]
          rfl
        rw [goes]
        refine (faithful field (List.mem_of_find?_eq_some known) levels value item after here).bind
          fun update => hypothesis there distinct (fun other member => ?_) (update a)
        rw [List.mem_cons, not_or]
        exact ⟨fun same => fresh (same ▸ member), unseen_more other member⟩

end Layout

theorem enclosed_error (close : Bytes → Except Failure Bytes) (after : Bytes → Bytes)
    {inside : Except Failure (α × Bytes)} {f : Failure} (refused : inside = .error f) :
    ∃ g, enclosed close after inside = .error g ∧ g.refusal = f.refusal := by
  rw [refused]
  refine ⟨_, rfl, ?_⟩
  split <;> rfl

theorem Layout.parse_agrees {l : Layout α} (optional : ∀ field ∈ l.fields, field.required = false)
    (faithful : ∀ field ∈ l.fields, field.codec.Faithful) {text : Bytes}
    {members : List (String × Json)} (object : ReadsObject text members)
    (distinct : (members.map (·.1)).Nodup) :
    match l.decodeMembers members [] l.blank with
    | .ok a => l.codec.parse text = .ok a
    | .error refusal => ∃ place, l.codec.parse text = .error ⟨refusal, some place⟩ := by
  obtain ⟨tail, rest, brace, read, ended⟩ := object
  obtain ⟨left, inside, closed⟩ := enclosed_ok read
  have unseen : ∀ key ∈ members.map (·.1), key ∉ ([] : List String) := by simp
  have agrees := readKeys_agrees optional faithful inside distinct unseen l.blank
  have opened : l.read maxLevels text = enclosed closeObject afterObject
      (l.readKeys (maxLevels - 1) (0 :: tail) true [] l.blank tail) := by
    simp only [Layout.read, brace]
    rfl
  cases decoded : l.decodeMembers members [] l.blank with
  | ok a =>
    rw [decoded] at agrees
    have whole : l.read maxLevels text = .ok (a, rest) := by
      rw [opened, show l.readKeys _ _ _ _ _ _ = _ from agrees]
      simp only [enclosed, closed]
      rfl
    simp only [Codec.parse, readWhole, Layout.codec, whole, ended]
  | error refusal =>
    rw [decoded] at agrees
    obtain ⟨f, refused, rfl⟩ := agrees
    obtain ⟨g, outside, same⟩ := enclosed_error closeObject afterObject refused
    rw [← opened] at outside
    have reported : l.codec.parse text = .error (g.error text) := by
      simp only [Codec.parse, readWhole, Layout.codec, outside]
    exact ⟨_, reported.trans (by rw [Failure.error, same])⟩

end JsonRpc.Json
