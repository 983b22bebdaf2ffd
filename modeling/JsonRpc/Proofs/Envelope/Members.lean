import JsonRpc.Proofs.Json.Agreement
import JsonRpc.Envelope

namespace JsonRpc

/-- A value that may be left out and is left out when it is null. -/
def Json.present (value : Option Json) : Option Json := value.filter fun v => decide (v ≠ .null)

namespace Envelope

open Json

def textOf (blank : String) : Option Json → Except Refusal String
  | none => .ok blank
  | some v => Codec.string.decode v

theorem textOf_cases (blank : String) (value : Option Json) :
    (∃ s, textOf blank value = .ok s ∧ ∀ v, value = some v → v = .string s) ∨
      ∃ v, value = some v ∧ (∀ s, v ≠ .string s) ∧
        textOf blank value = .error (.wrongType v.found "a string") := by
  cases value with
  | none => exact .inl ⟨blank, rfl, nofun⟩
  | some v =>
    by_cases text : ∃ s, v = .string s
    · obtain ⟨s, rfl⟩ := text
      exact .inl ⟨s, rfl, fun v same => (Option.some.inj same).symm⟩
    · have no_text : ∀ s, v ≠ .string s := fun s same => text ⟨s, same⟩
      exact .inr ⟨v, rfl, no_text, Codec.string_refuses no_text⟩

def told (a : Envelope) (members : List (String × Json)) (method : String) : Envelope where
  id := (members.lookup "id").or a.id
  version := (textOf a.version (members.lookup "jsonrpc")).toOption.getD a.version
  method
  params := (members.lookup "params").elim a.params fun v => present (some v)
  result := (members.lookup "result").elim a.result fun v => present (some v)
  error := (members.lookup "error").elim a.error fun v => lenientFault (present (some v))

theorem optional : ∀ field ∈ layout.fields, field.required = false := by simp [layout]

theorem faithful : ∀ field ∈ layout.fields, field.codec.Faithful := by
  intro field member
  simp only [layout, List.mem_cons, List.not_mem_nil, or_false] at member
  rcases member with rfl | rfl | rfl | rfl | rfl | rfl
  · exact Codec.Faithful.map Codec.faithful_value fun id (e : Envelope) => { e with id := some id }
  · exact Codec.Faithful.map Codec.faithful_string _
  · exact Codec.Faithful.map Codec.faithful_string _
  · exact Codec.Faithful.map (Codec.Faithful.option Codec.faithful_value) _
  · exact Codec.Faithful.map (Codec.Faithful.option Codec.faithful_value) _
  · exact Codec.Faithful.map (Codec.Faithful.option Codec.faithful_value) _

section Members

variable (v : Json) (members : List (String × Json)) (seen : List String) (a : Envelope)

theorem decode_nil : layout.decodeMembers [] seen a = .ok a := by
  rw [Layout.decodeMembers, Layout.missing?_of_optional optional]

theorem decode_method :
    layout.decodeMembers (("method", v) :: members) seen a = (do
      let method ← Codec.string.decode v
      layout.decodeMembers members ("method" :: seen) { a with method }) := by
  cases v <;> rfl

def besides : List String := ["id", "jsonrpc", "params", "result", "error"]

theorem decode_known {key : String} (known : key ∈ besides)
    (version : key = "jsonrpc" → ∃ s, v = .string s) :
    layout.decodeMembers ((key, v) :: members) seen a =
      layout.decodeMembers members (key :: seen) (a.told [(key, v)] a.method) := by
  simp only [besides, List.mem_cons, List.not_mem_nil, or_false] at known
  rcases known with rfl | rfl | rfl | rfl | rfl
  · rfl
  · obtain ⟨s, rfl⟩ := version rfl
    rfl
  · cases v <;> rfl
  · cases v <;> rfl
  · cases v <;> rfl

theorem decode_unknown {key : String} (unknown : key ∉ besides) (other : key ≠ "method") :
    layout.decodeMembers ((key, v) :: members) seen a = layout.decodeMembers members seen a := by
  have none_named : layout.fields.find? (·.key == key) = none := by
    rw [List.find?_eq_none]
    intro field member named
    obtain rfl : field.key = key := beq_iff_eq.mp named
    simp only [layout, List.mem_cons, List.not_mem_nil, or_false] at member
    rcases member with rfl | rfl | rfl | rfl | rfl | rfl <;> simp [besides] at unknown other
  rw [Layout.decodeMembers, none_named]

end Members

theorem lookup_other {key other : String} (different : key ≠ other) (v : Json)
    (members : List (String × Json)) :
    ((key, v) :: members).lookup other = members.lookup other := by
  have unequal : (other == key) = false := by simpa using Ne.symm different
  rw [List.lookup_cons, unequal]

theorem lookup_fresh {key : String} {members : List (String × Json)}
    (fresh : key ∉ members.map (·.1)) : members.lookup key = none := by
  rw [List.lookup_eq_none_iff]
  intro member there
  have different : key ≠ member.1 := fun same => fresh (same ▸ List.mem_map_of_mem there)
  simpa using different

theorem told_unknown {key : String} (unknown : key ∉ besides) (v : Json)
    (members : List (String × Json)) (a : Envelope) (method : String) :
    a.told ((key, v) :: members) method = a.told members method := by
  simp only [besides, List.mem_cons, List.not_mem_nil, or_false, not_or] at unknown
  obtain ⟨id, version, params, result, error⟩ := unknown
  simp only [told, lookup_other id, lookup_other version, lookup_other params,
    lookup_other result, lookup_other error]

theorem told_cons {key : String} {members : List (String × Json)}
    (absent : members.lookup key = none) (v : Json) (a : Envelope) (method other : String) :
    (a.told [(key, v)] other).told members method = a.told ((key, v) :: members) method := by
  by_cases known : key ∈ besides
  · simp only [besides, List.mem_cons, List.not_mem_nil, or_false] at known
    rcases known with rfl | rfl | rfl | rfl | rfl
    all_goals simp [told, textOf, List.lookup_cons, absent, Except.toOption]
  · rw [told_unknown known, told_unknown known]
    rfl

theorem decode_members {members : List (String × Json)} (distinct : (members.map (·.1)).Nodup)
    (version : ∀ v, members.lookup "jsonrpc" = some v → ∃ s, v = .string s) (seen : List String)
    (a : Envelope) :
    layout.decodeMembers members seen a =
      (textOf a.method (members.lookup "method")).map (a.told members) := by
  induction members generalizing seen a with
  | nil => exact decode_nil seen a
  | cons member members hypothesis =>
    obtain ⟨key, v⟩ := member
    obtain ⟨fresh, apart⟩ := List.nodup_cons.mp distinct
    have absent : members.lookup key = none := lookup_fresh fresh
    have more : ∀ w, members.lookup "jsonrpc" = some w → ∃ s, w = .string s := by
      intro w found
      by_cases same : key = "jsonrpc"
      · rw [← same, absent] at found
        cases found
      · exact version w (lookup_other same v members ▸ found)
    by_cases named : key = "method"
    · subst named
      rw [decode_method, List.lookup_cons_self, textOf]
      cases Codec.string.decode v with
      | error refusal => rfl
      | ok method =>
        have same : told { a with method } members method =
            a.told (("method", v) :: members) method := told_cons absent v a method method
        simp only [bind, Except.bind, hypothesis apart more, absent, textOf, Except.map, same]
    · have step : ∃ later, layout.decodeMembers ((key, v) :: members) seen a =
          layout.decodeMembers members later (a.told [(key, v)] a.method) := by
        by_cases known : key ∈ besides
        · refine ⟨_, decode_known v members seen a known fun same => version v ?_⟩
          rw [same, List.lookup_cons_self]
        · refine ⟨seen, ?_⟩
          rw [decode_unknown v members seen a known named, told_unknown known]
          rfl
      have same : (a.told [(key, v)] a.method).told members = a.told ((key, v) :: members) :=
        funext fun method => told_cons absent v a method a.method
      obtain ⟨later, step⟩ := step
      rw [step, hypothesis apart more, same, lookup_other named]
      rfl

/-- A text of members under keys of their own, in which a version is a text. -/
structure CallText (text : Bytes) (members : List (String × Json)) : Prop where
  reads : ReadsObject text members
  distinct : (members.map (·.1)).Nodup
  version : ∀ v, members.lookup "jsonrpc" = some v → ∃ s, v = .string s

namespace CallText

variable {text : Bytes} {members : List (String × Json)}

theorem parse_of_named (given : CallText text members) {method : String}
    (named : textOf "" (members.lookup "method") = .ok method) :
    parse text = .ok (told {} members method) := by
  have decoded : layout.decodeMembers members [] {} = .ok (told {} members method) := by
    rw [decode_members given.distinct given.version, named]
    rfl
  have read := Layout.parse_agrees optional faithful given.reads given.distinct
  rw [show layout.blank = {} from rfl, decoded] at read
  rw [parse, read]

theorem parse_of_unnamed (given : CallText text members) {refusal : Refusal}
    (unnamed : textOf "" (members.lookup "method") = .error refusal) :
    ∃ place,
      parse text = .error (.parse s!"parse error: {Error.message ⟨refusal, some place⟩}") := by
  have refused : layout.decodeMembers members [] {} = .error refusal := by
    rw [decode_members given.distinct given.version, unnamed]
    rfl
  have read := Layout.parse_agrees optional faithful given.reads given.distinct
  rw [show layout.blank = {} from rfl, refused] at read
  obtain ⟨place, read⟩ := read
  exact ⟨place, by rw [parse, read]⟩

end CallText

end Envelope

end JsonRpc
