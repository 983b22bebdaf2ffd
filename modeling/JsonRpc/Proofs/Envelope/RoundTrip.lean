import JsonRpc.Proofs.Envelope.Members
import JsonRpc.Proofs.Json.RoundTrip

namespace JsonRpc

open Json

/-- The fault as it is read again. -/
def Fault.withoutNull (fault : Fault) : Fault := { fault with data := present fault.data }

theorem Fault.decode_toJson (fault : Fault)
    (canonical : ∀ data, fault.data = some data → data.Canonical) :
    Fault.codec.decode fault.toJson.sorted = .ok fault.withoutNull := by
  obtain ⟨code, message, data⟩ := fault
  cases data with
  | none =>
    by_cases empty : message = ""
    · subst empty
      cases code <;> rfl
    · have written : (Fault.toJson ⟨code, message, none⟩).sorted =
          .object [("code", .ofWord code.word), ("message", .string message)] := by
        simp [toJson, empty]
        rfl
      rw [written]
      cases code <;> rfl
  | some data =>
    have same := sorted_of_canonical data (canonical data rfl)
    by_cases empty : message = ""
    · subst empty
      have written : (Fault.toJson ⟨code, "", some data⟩).sorted =
          .object [("code", .ofWord code.word), ("data", data.sorted)] := rfl
      rw [written, same]
      cases code <;> cases data <;> rfl
    · have written : (Fault.toJson ⟨code, message, some data⟩).sorted =
          .object [("code", .ofWord code.word), ("data", data.sorted),
            ("message", .string message)] := by
        simp [toJson, empty]
        rfl
      rw [written, same]
      cases code <;> cases data <;> rfl

theorem Fault.whole_toJson {fault : Fault}
    (whole : ∀ data, fault.data = some data → data.IsWhole) : fault.toJson.IsWhole := by
  obtain ⟨code, message, data⟩ := fault
  refine wholeMembers_iff.mpr fun member there => ?_
  rcases List.mem_cons.mp there with rfl | there
  · trivial
  · rcases List.mem_append.mp there with text | given
    · split at text
      · cases text
      · obtain rfl := List.mem_singleton.mp text
        trivial
    · cases data with
      | none => cases given
      | some data =>
        obtain rfl := List.mem_singleton.mp given
        exact whole data rfl

namespace Envelope

def values (e : Envelope) : List Json :=
  e.id.toList ++ e.params.toList ++ e.result.toList ++ (e.error.bind (·.data)).toList

variable (e : Envelope)

theorem lookup_one (name key : String) (v : Json) :
    [(name, v)].lookup key = if key = name then some v else none := by
  by_cases same : key = name
  · simp [same]
  · rw [lookup_other (Ne.symm same), if_neg same, List.lookup_nil]

theorem lookup_text (name key text : String) :
    (if text = "" then [] else [(name, Json.string text)]).lookup key =
      if key = name ∧ text ≠ "" then some (.string text) else none := by
  by_cases empty : text = ""
  · simp [empty]
  · simp [empty, lookup_one]

theorem lookup_option {α : Type} (name key : String) (f : α → Json) (value : Option α) :
    (value.map fun a => (name, f a)).toList.lookup key =
      if key = name then value.map f else none := by
  cases value with
  | none => simp
  | some a => simp [lookup_one]

theorem lookup_members (key : String) :
    e.members.lookup key =
      (if key = "id" then some (e.id.getD .null) else none).or
        ((if key = "jsonrpc" ∧ e.version ≠ "" then some (.string e.version) else none).or
          ((if key = "method" ∧ e.method ≠ "" then some (.string e.method) else none).or
            ((if key = "params" then e.params else none).or
              ((if key = "result" then e.result else none).or
                (if key = "error" then e.error.map Fault.toJson else none))))) := by
  have params := lookup_option "params" key (fun v : Json => v) e.params
  have result := lookup_option "result" key (fun v : Json => v) e.result
  rw [Option.map_id'] at params result
  rw [members, ← List.singleton_append]
  simp only [List.lookup_append, lookup_one, lookup_text, params, result, lookup_option,
    Option.or_assoc]

theorem keys_members :
    (e.members.map (·.1)).Sublist ["id", "jsonrpc", "method", "params", "result", "error"] := by
  have text : ∀ name text : String,
      ((if text = "" then [] else [(name, Json.string text)]).map (·.1)).Sublist [name] := by
    intro name text
    split
    · exact List.nil_sublist _
    · exact List.Sublist.refl _
  have option : ∀ {α : Type} (name : String) (f : α → Json) (value : Option α),
      ((value.map fun a => (name, f a)).toList.map (·.1)).Sublist [name] := by
    intro α name f value
    cases value with
    | none => exact List.nil_sublist _
    | some a => exact List.Sublist.refl _
  have joined := ((((text "jsonrpc" e.version).append (text "method" e.method)).append
    (option "params" (fun v => v) e.params)).append (option "result" (fun v => v) e.result)).append
    (option "error" Fault.toJson e.error)
  simp only [members, List.cons_append, List.map_cons, List.map_append]
  exact joined.cons_cons "id"

theorem distinct_members : (e.members.map (·.1)).Nodup :=
  List.Nodup.sublist e.keys_members (by decide)

def reread : Envelope :=
  { e with
    id := some (e.id.getD .null)
    params := present e.params
    result := present e.result
    error := e.error.map Fault.withoutNull }

/-- An envelope with a text that can be read: members are in the order of their keys, no number is a
floating-point number, and nothing nests too deep. -/
structure Readable (e : Envelope) : Prop where
  canonical : ∀ v ∈ e.values, v.Canonical
  whole : ∀ v ∈ e.values, v.IsWhole
  shallow : (Json.object e.members).nesting ≤ maxLevels

variable {e}

theorem mem_values_id {v : Json} (held : e.id = some v) : v ∈ e.values := by
  simp [values, held]

theorem mem_values_params {v : Json} (held : e.params = some v) : v ∈ e.values := by
  simp [values, held]

theorem mem_values_result {v : Json} (held : e.result = some v) : v ∈ e.values := by
  simp [values, held]

theorem mem_values_data {fault : Fault} (held : e.error = some fault) {v : Json}
    (data : fault.data = some v) : v ∈ e.values := by
  simp [values, held, data]

theorem Readable.wholeMembers (readable : e.Readable) : WholeMembers e.members := by
  have text : ∀ (name text : String) (member : String × Json),
      member ∈ (if text = "" then [] else [(name, Json.string text)]) → member.2.IsWhole := by
    intro name text member there
    split at there
    · cases there
    · obtain rfl := List.mem_singleton.mp there
      trivial
  refine wholeMembers_iff.mpr fun member there => ?_
  simp only [members, List.cons_append, List.mem_cons, List.mem_append, Option.mem_toList,
    Option.map_eq_some_iff] at there
  rcases there with
    rfl | (((version | method) | ⟨v, held, rfl⟩) | ⟨v, held, rfl⟩) | ⟨fault, held, rfl⟩
  · cases held : e.id with
    | none => trivial
    | some v => exact readable.whole v (mem_values_id held)
  · exact text _ _ member version
  · exact text _ _ member method
  · exact readable.whole v (mem_values_params held)
  · exact readable.whole v (mem_values_result held)
  · exact Fault.whole_toJson fun data given => readable.whole data (mem_values_data held given)

theorem sorted_option {value : Option Json} (canonical : ∀ v, value = some v → v.Canonical) :
    value.map sorted = value := by
  cases value with
  | none => rfl
  | some v => rw [Option.map_some, sorted_of_canonical v (canonical v rfl)]

theorem callText_bytes {members : List (String × Json)} (whole : WholeMembers members)
    (shallow : (Json.object members).nesting ≤ maxLevels) (distinct : (members.map (·.1)).Nodup)
    (version : ∀ v, members.lookup "jsonrpc" = some v → ∃ s, v = .string s) :
    CallText (Json.object members).bytes (sortedMembers members) where
  reads := readsObject_bytes whole shallow
  distinct := by
    rw [keys_sortedMembers]
    exact distinct
  version := by
    intro v found
    rw [lookup_sortedMembers, Option.map_eq_some_iff] at found
    obtain ⟨w, there, rfl⟩ := found
    obtain ⟨s, rfl⟩ := version w there
    exact ⟨s, rfl⟩

theorem textOf_written (text : String) :
    textOf "" ((if text = "" then none else some (Json.string text)).map sorted) = .ok text := by
  by_cases empty : text = ""
  · simp [empty, textOf]
  · simp [empty, textOf, sorted, Codec.string_decode]

theorem Readable.told (readable : e.Readable) :
    told {} (sortedMembers e.members) e.method = e.reread := by
  have id : (e.id.getD .null).sorted = e.id.getD .null := by
    cases held : e.id with
    | none => rfl
    | some v => exact sorted_of_canonical v (readable.canonical v (mem_values_id held))
  have params : e.params.map sorted = e.params :=
    sorted_option fun v held => readable.canonical v (mem_values_params held)
  have result : e.result.map sorted = e.result :=
    sorted_option fun v held => readable.canonical v (mem_values_result held)
  have version : (textOf "" ((if e.version = "" then none else some (Json.string e.version)).map
      sorted)).toOption.getD "" = e.version := by
    rw [textOf_written]
    rfl
  have record : ∀ fault, e.error = some fault →
      lenientFault (present (some fault.toJson.sorted)) = some fault.withoutNull := by
    intro fault held
    have decoded := Fault.decode_toJson fault fun data given =>
      readable.canonical data (mem_values_data held given)
    have some_record : present (some fault.toJson.sorted) = some fault.toJson.sorted := rfl
    rw [some_record, lenientFault, Option.bind_some, decoded]
    rfl
  have error : e.error.elim none
      ((fun v => lenientFault (present (some v))) ∘ sorted ∘ Fault.toJson) =
      e.error.map Fault.withoutNull := by
    cases held : e.error with
    | none => rfl
    | some fault => exact record fault held
  have given : ∀ value : Option Json,
      value.elim none (fun v => present (some v)) = present value := by
    intro value
    cases value <;> rfl
  rw [Envelope.told, reread]
  simp only [lookup_sortedMembers]
  simp [lookup_members, id, params, result, version, error, given]

theorem Readable.parse (readable : e.Readable) : parse e.encode = .ok e.reread := by
  have version : ∀ v, e.members.lookup "jsonrpc" = some v → ∃ s, v = .string s := by
    intro v found
    by_cases empty : e.version = ""
    · simp [lookup_members, empty] at found
    · exact ⟨e.version, by simpa [lookup_members, empty] using found.symm⟩
  have given := callText_bytes readable.wholeMembers readable.shallow e.distinct_members version
  have shown : e.members.lookup "method" =
      if e.method = "" then none else some (.string e.method) := by
    by_cases empty : e.method = "" <;> simp [lookup_members, empty]
  have method : textOf "" ((sortedMembers e.members).lookup "method") = .ok e.method := by
    rw [lookup_sortedMembers, shown, textOf_written]
  rw [Envelope.encode, given.parse_of_named method, readable.told]

/-- What is read from the text of an envelope, and from the text of a response. -/
theorem parse_encode (e : Envelope) (readable : e.Readable) :
    parse e.encode = .ok e.reread ∧
      ∀ call : Envelope, call.normalize = e →
        ∃ response, parse call.encodeResponse = .ok response ∧ response.id = e.id ∧
          response.error = e.error.map Fault.withoutNull ∧
          (call.error = none → response.result = present call.result) ∧
          (call.error ≠ none → response.result = none) := by
  refine ⟨readable.parse, ?_⟩
  rintro call rfl
  refine ⟨_, readable.parse, rfl, rfl, fun no_fault => ?_, fun fault => ?_⟩
  · simp only [reread, normalize, no_fault]
    cases call.result <;> rfl
  · have some_fault : call.error.isSome = true := Option.isSome_iff_ne_none.mpr fault
    simp only [reread, normalize, some_fault]
    rfl

theorem parse_encode_filled :
    let e : Envelope :=
      { id := some (.string "a\"b"), version := "2.0", method := "calc.add",
        params := some (.array [.ofWord ⟨-7, by decide, by decide⟩, .object [("k", .null)]]),
        result := some .null, error := some ⟨.forbidden, "", some (.string "\t")⟩ }
    let call := e.setResult (.array [.bool true])
    e.Readable ∧ parse e.encode = .ok e.reread ∧ call.normalize.Readable ∧
      ∃ response, parse call.encodeResponse = .ok response ∧ response.id = call.normalize.id ∧
        response.error = call.normalize.error.map Fault.withoutNull ∧
        response.result = present call.result := by
  intro e call
  have readable : e.Readable := by
    refine ⟨?_, ?_, by decide⟩
    · simp [e, values, ofWord, Canonical, CanonicalItems, CanonicalMembers]
    · simp [e, values, ofWord, IsWhole, WholeItems, WholeMembers]
  have answer : call.normalize.Readable := by
    refine ⟨?_, ?_, by decide⟩
    · simp [e, call, values, normalize, setResult, Canonical, CanonicalItems]
    · simp [e, call, values, normalize, setResult, IsWhole, WholeItems]
  obtain ⟨response, read, id, error, result, -⟩ := (parse_encode call.normalize answer).2 call rfl
  exact ⟨readable, (parse_encode e readable).1, answer, response, read, id, error, result rfl⟩

/-- Null for the data of a fault is not read back. -/
theorem parse_encodeResponse_ne :
    let call := Envelope.setFault {} ((Fault.server "m").withData .null)
    call.normalize.Readable ∧ ∃ response, parse call.encodeResponse = .ok response ∧
      response.error ≠ call.normalize.error := by
  intro call
  have readable : call.normalize.Readable := by
    refine ⟨?_, ?_, by decide⟩
    · simp [call, values, normalize, setFault, placeholderId, ofWord, Canonical, Fault.withData]
    · simp [call, values, normalize, setFault, placeholderId, ofWord, IsWhole, Fault.withData]
  exact ⟨readable, _, readable.parse, by decide⟩

end Envelope

end JsonRpc
