import JsonRpc.Registry
import Mathlib.Data.List.TakeWhile

namespace JsonRpc

namespace Text

-- A letter that is shifted could become a dot only if a shift led down to it.
theorem lowerShifts_bound : ∀ entry ∈ lowerShifts, 46 < (entry.1.first : Int) + entry.2 := by
  decide +kernel

theorem shifted_ne_dot {c : Char} {shift : Int} (beyond : 46 < c.toNat + shift) :
    shifted c shift ≠ '.' := by
  intro dot
  have code : (shifted c shift).toNat = 46 := by rw [dot]; rfl
  unfold shifted Char.ofNat at code
  by_cases valid : (c.toNat + shift).toNat.isValidChar
  · rw [dif_pos valid] at code
    have value : (c.toNat + shift).toNat = 46 := code
    omega
  · rw [dif_neg valid] at code
    cases code

theorem upper_bound {c : Char} (ascii : c.toNat < 0x80) (upper : isUpper c = true) :
    65 ≤ c.toNat := by
  unfold isUpper at upper
  rw [if_pos ascii] at upper
  simp only [Bool.and_eq_true, decide_eq_true_eq] at upper
  exact upper.1

theorem dot_not_mem_lowerCase {c : Char} (other : c ≠ '.') : '.' ∉ lowerCase c := by
  unfold lowerCase
  split
  · rename_i ascii
    split
    · rename_i upper
      have bound := upper_bound ascii upper
      simpa using (shifted_ne_dot (by omega : (46 : Int) < c.toNat + 32)).symm
    · simpa using other.symm
  · split
    · decide
    · split
      · rename_i run shift found
        have bound : 46 < (run.first : Int) + shift :=
          lowerShifts_bound _ (List.mem_of_find?_eq_some found)
        have inside := List.find?_some found
        simp only [CodeRun.contains, Bool.and_eq_true, decide_eq_true_eq] at inside
        simpa using (shifted_ne_dot (by omega : 46 < c.toNat + shift)).symm
      · simpa using other.symm

theorem dot_not_mem_lowerWord {word : List Char} (free : '.' ∉ word) : '.' ∉ lowerWord word := by
  induction word with
  | nil => simp [lowerWord]
  | cons c rest hypothesis =>
    simp only [List.mem_cons, not_or] at free
    have first := dot_not_mem_lowerCase (Ne.symm free.1)
    cases rest with
    | nil =>
      unfold lowerWord
      split
      · decide
      · exact first
    | cons d rest =>
      simp only [lowerWord, List.mem_append, not_or]
      exact ⟨first, hypothesis free.2⟩

end Text

namespace Name

theorem dot_not_mem_pieces (name : List Char) : ∀ piece ∈ pieces name, '.' ∉ piece := by
  induction name with
  | nil => simp [pieces]
  | cons c rest hypothesis =>
    unfold pieces
    split
    · rename_i alphanumeric
      have other : '.' ≠ c := by
        rintro rfl
        revert alphanumeric
        decide
      split
      · rename_i piece more cut
        rw [cut] at hypothesis
        simp only [List.mem_cons, forall_eq_or_imp] at hypothesis ⊢
        exact ⟨by simp [other, hypothesis.1], hypothesis.2⟩
      · simpa using other
    · simpa using hypothesis

theorem mem_of_mem_wordsFrom (mode : Mode) (word cs : List Char) {c : Char} :
    ∀ w ∈ wordsFrom mode word cs, c ∈ w → c ∈ word ∨ c ∈ cs := by
  fun_induction wordsFrom mode word cs <;> grind

theorem dot_not_mem_words (name : List Char) : ∀ word ∈ words name, '.' ∉ word := by
  intro word member dot
  obtain ⟨piece, cut, inside⟩ := List.mem_flatMap.mp member
  rcases mem_of_mem_wordsFrom .boundary [] piece word inside dot with early | late
  · cases early
  · exact dot_not_mem_pieces name piece cut late

theorem mem_of_mem_intersperse {α : Type} (between : α) (parts : List α) :
    ∀ a ∈ parts.intersperse between, a = between ∨ a ∈ parts := by
  induction parts with
  | nil => simp
  | cons first rest hypothesis =>
    cases rest with
    | nil => simp
    | cons second rest =>
      intro a member
      rw [List.intersperse_cons_cons] at member
      grind

theorem dot_not_mem_snake (name : List Char) : '.' ∉ snake name := by
  intro dot
  obtain ⟨part, member, inside⟩ := List.mem_flatten.mp dot
  rcases mem_of_mem_intersperse _ _ part member with rfl | member
  · revert inside
    decide
  · obtain ⟨word, cut, rfl⟩ := List.mem_map.mp member
    exact Text.dot_not_mem_lowerWord (dot_not_mem_words name word cut) inside

end Name

theorem NameStyle.dot_not_mem_apply (style : NameStyle) {name : String} (free : '.' ∉ name.toList) :
    '.' ∉ (style.apply name).toList := by
  cases style with
  | snake =>
    rw [NameStyle.apply, String.toList_ofList]
    exact Name.dot_not_mem_snake name.toList
  | verbatim => exact free

namespace Text

theorem cut_at_dot (cs : List Char) :
    ('.' ∉ cs ∧ cs.drop (cs.takeWhile (· != '.')).length = []) ∨
      ∃ after, cs.drop (cs.takeWhile (· != '.')).length = '.' :: after ∧
        cs = cs.takeWhile (· != '.') ++ '.' :: after := by
  induction cs with
  | nil => exact .inl ⟨List.not_mem_nil, rfl⟩
  | cons c cs hypothesis =>
    by_cases dot : c = '.'
    · exact .inr ⟨cs, by simp [dot], by simp [dot]⟩
    · have kept : (c :: cs).takeWhile (· != '.') = c :: cs.takeWhile (· != '.') := by simp [dot]
      rw [kept, List.length_cons, List.drop_succ_cons]
      rcases hypothesis with ⟨free, rest⟩ | ⟨after, rest, whole⟩
      · exact .inl ⟨by simp [free, Ne.symm dot], rest⟩
      · exact .inr ⟨after, rest, by rw [List.cons_append, ← whole]⟩

end Text

theorem splitAtDot?_join {space : String} (free : '.' ∉ space.toList) (name : String) :
    splitAtDot? (space ++ "." ++ name) = some (space, name) := by
  have before : (space ++ "." ++ name).toList.takeWhile (· != '.') = space.toList := by
    have all_before : ∀ c ∈ space.toList, (c != '.') = true := by
      intro c member
      simpa using fun dot : c = '.' => free (dot ▸ member)
    rw [String.toList_append, String.toList_append, List.append_assoc,
      List.takeWhile_append_of_pos all_before]
    simp
  have after : (space ++ "." ++ name).toList.drop space.toList.length = '.' :: name.toList := by
    simp
  simp only [splitAtDot?, before, after, String.ofList_toList]

theorem splitAtDot?_eq_some_iff {method space name : String} :
    splitAtDot? method = some (space, name) ↔
      '.' ∉ space.toList ∧ method = space ++ "." ++ name := by
  constructor
  · intro cut
    rw [splitAtDot?] at cut
    rcases Text.cut_at_dot method.toList with ⟨-, rest⟩ | ⟨after, rest, whole⟩
    · simp [rest] at cut
    · simp only [rest, Option.some.injEq, Prod.mk.injEq] at cut
      obtain ⟨rfl, rfl⟩ := cut
      refine ⟨fun dot => ?_, ?_⟩
      · rw [String.toList_ofList] at dot
        simpa using List.mem_takeWhile_imp dot
      · rw [← String.toList_inj, String.toList_append, String.toList_append, String.toList_ofList,
          String.toList_ofList, List.append_assoc]
        simpa using whole
  · rintro ⟨free, rfl⟩
    exact splitAtDot?_join free name

theorem splitAtDot?_eq_none_iff {method : String} :
    splitAtDot? method = none ↔ '.' ∉ method.toList := by
  rw [splitAtDot?]
  rcases Text.cut_at_dot method.toList with ⟨free, rest⟩ | ⟨after, rest, whole⟩
  · simp [rest, free]
  · have dotted : '.' ∈ method.toList := by
      rw [whole]
      simp
    simp [rest, dotted]

theorem splitMethod_eq_ok_iff {method space name : String} :
    splitMethod method = .ok (space, name) ↔
      splitAtDot? method = some (space, name) ∧ space ≠ "" ∧ name ≠ "" := by
  rw [splitMethod]
  cases cut : splitAtDot? method with
  | none => simp
  | some parts =>
    obtain ⟨before, after⟩ := parts
    by_cases filled : before ≠ "" ∧ after ≠ ""
    · simp only [filled, ne_eq, not_false_eq_true, and_self, if_true, Except.ok.injEq,
        Option.some.injEq, Prod.mk.injEq]
      constructor
      · rintro ⟨rfl, rfl⟩
        exact ⟨⟨rfl, rfl⟩, filled⟩
      · exact fun ⟨same, _⟩ => same
    · simp only [filled, if_false, reduceCtorEq, Option.some.injEq, Prod.mk.injEq, false_iff]
      rintro ⟨⟨rfl, rfl⟩, whole⟩
      exact filled whole

theorem dot_not_mem_of_splitMethod {method space name : String}
    (parted : splitMethod method = .ok (space, name)) : '.' ∉ space.toList :=
  (splitAtDot?_eq_some_iff.mp (splitMethod_eq_ok_iff.mp parted).1).1

theorem code_of_split_error {method : String} {fault : Fault}
    (refused : splitMethod method = .error fault) : fault.code = .noMethod := by
  unfold splitMethod at refused
  split at refused
  · split at refused
    · cases refused
    · cases refused
      rfl
  · cases refused
    rfl

theorem splitMethod_join {space : String} (free : '.' ∉ space.toList) (name : String) :
    splitMethod (space ++ "." ++ name) =
      if space ≠ "" ∧ name ≠ "" then .ok (space, name) else .error (.noMethod "wrong method") := by
  simp only [splitMethod, splitAtDot?_join free]

/-- The parts that a method is looked up under: its own two, folded, neither of them empty. -/
def NameStyle.address (style : NameStyle) (method : String) : Except Fault (String × String) :=
  match splitMethod method with
  | .error fault => .error fault
  | .ok (space, name) =>
    if style.apply space ≠ "" ∧ style.apply name ≠ "" then
      .ok (style.apply space, style.apply name)
    else .error (.noMethod "wrong method")

theorem NameStyle.address_of_split_error (style : NameStyle) {method : String} {fault : Fault}
    (refused : splitMethod method = .error fault) : style.address method = .error fault := by
  rw [address, refused]

theorem NameStyle.code_of_address_error {style : NameStyle} {method : String} {fault : Fault}
    (refused : style.address method = .error fault) : fault.code = .noMethod := by
  rw [address] at refused
  cases parted : splitMethod method with
  | error cause =>
    obtain rfl : cause = fault := by simpa [parted] using refused
    exact code_of_split_error parted
  | ok parts =>
    rw [parted] at refused
    dsimp only at refused
    split at refused
    · cases refused
    · cases refused
      rfl

namespace Registry

variable {W : World} (registry : Registry W)

theorem lookup_eq_ok_iff {registry : Registry W} {space name : String} {cb : Callback W} :
    registry.lookup space name = .ok cb ↔ ∃ entry, registry.entry? space = some entry ∧
      lookup? (registry.style.apply name) entry.methods = some cb := by
  rw [lookup]
  cases registry.entry? space with
  | none => simp
  | some entry =>
    cases bound : lookup? (registry.style.apply name) entry.methods with
    | none => simp [bound]
    | some other => simp [bound]

theorem resolve_eq_ok_iff {registry : Registry W} {method : String} {cb : Callback W} :
    registry.resolve method = .ok cb ↔ ∃ space name,
      splitMethod method = .ok (space, name) ∧ registry.lookup space name = .ok cb := by
  rw [resolve]
  cases splitMethod method with
  | error fault => simp
  | ok parts =>
    obtain ⟨space, name⟩ := parts
    constructor
    · exact fun found => ⟨space, name, rfl, found⟩
    · rintro ⟨_, _, same, found⟩
      cases same
      exact found

theorem namespaceService_of_resolve {registry : Registry W} {method : String} {cb : Callback W}
    (found : registry.resolve method = .ok cb) :
    ∃ space name entry, lookup? space registry.services = some entry ∧
      (name, cb) ∈ entry.methods ∧ registry.namespaceService method = some entry.receiver := by
  obtain ⟨space, name, parted, found⟩ := resolve_eq_ok_iff.mp found
  obtain ⟨entry, entered, bound⟩ := lookup_eq_ok_iff.mp found
  refine ⟨_, _, entry, entered, mem_of_lookup? bound, ?_⟩
  simp only [namespaceService, (splitMethod_eq_ok_iff.mp parted).1, entered, Option.map_some]

theorem resolve_normalized {method folded : String}
    (normalized : registry.normalizeMethod method = .ok folded) :
    registry.resolve folded = (registry.style.address method).bind fun address =>
      registry.lookup address.1 address.2 := by
  cases parted : splitMethod method with
  | error fault => simp [normalizeMethod, parted] at normalized
  | ok parts =>
    obtain ⟨space, name⟩ := parts
    have joined : registry.style.apply space ++ "." ++ registry.style.apply name = folded := by
      simpa [normalizeMethod, parted] using normalized
    have free := registry.style.dot_not_mem_apply (dot_not_mem_of_splitMethod parted)
    by_cases filled : registry.style.apply space ≠ "" ∧ registry.style.apply name ≠ ""
    · simp [resolve, ← joined, splitMethod_join free, NameStyle.address, parted, filled,
        Except.bind]
    · simp [resolve, ← joined, splitMethod_join free, NameStyle.address, parted, filled,
        Except.bind]

theorem normalizeMethod_of_address {method space name : String}
    (address : registry.style.address method = .ok (space, name)) :
    registry.normalizeMethod method = .ok (space ++ "." ++ name) := by
  rw [NameStyle.address] at address
  cases parted : splitMethod method with
  | error fault => simp [parted] at address
  | ok parts =>
    rw [parted] at address
    dsimp only at address
    split at address
    · obtain ⟨rfl, rfl⟩ := Prod.mk.inj (Except.ok.inj address)
      rw [normalizeMethod, parted]
    · cases address

end Registry

end JsonRpc
