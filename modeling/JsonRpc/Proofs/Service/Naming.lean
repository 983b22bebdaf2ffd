import JsonRpc.Service.Basic
import Mathlib.Data.List.Infix

namespace JsonRpc

/-- The last segment of a path: it holds no `::`, and a `::` ends what comes before it. -/
def EndsPath (path segment : List Char) : Prop :=
  (path = segment ∧ ¬ [':', ':'] <:+: segment) ∨
    ∃ outer, path = outer ++ [':', ':'] ++ segment ∧ ¬ [':', ':'] <:+: ':' :: segment

/-- The name of a type is the last segment of its path, up to what the type is applied to. -/
def NamesType (path name : String) : Prop :=
  ∃ plain args, path.toList = plain ++ args ∧ '<' ∉ plain ∧
    (args = [] ∨ ∃ rest, args = '<' :: rest) ∧ EndsPath plain name.toList

theorem colons_infix_cons {c : Char} {cs : List Char} :
    [':', ':'] <:+: c :: cs ↔ c = ':' ∧ cs.head? = some ':' ∨ [':', ':'] <:+: cs := by
  rw [List.infix_cons_iff]
  refine or_congr_left ?_
  cases cs with
  | nil => simp
  | cons d rest =>
    rw [List.cons_prefix_cons, List.cons_prefix_cons]
    simp [eq_comm]

theorem lastSegment_of_whole {segment : List Char} (whole : ¬ [':', ':'] <:+: segment) :
    lastSegment segment = segment := by
  induction segment with
  | nil => rfl
  | cons c rest hypothesis =>
    rw [colons_infix_cons, not_or] at whole
    rw [lastSegment, hypothesis whole.2]
    rintro tail rfl rfl
    exact whole.1 ⟨rfl, rfl⟩

theorem lastSegment_of_cut {segment : List Char} (whole : ¬ [':', ':'] <:+: segment ++ [':'])
    (outer : List Char) : lastSegment (segment ++ ':' :: ':' :: outer) = segment := by
  induction segment with
  | nil => rfl
  | cons c rest hypothesis =>
    rw [List.cons_append, colons_infix_cons, not_or] at whole
    rw [List.cons_append, lastSegment, hypothesis whole.2]
    rintro tail rfl same
    -- a colon that follows this one would be the first of the rest, or the one behind it
    refine whole.1 ⟨rfl, ?_⟩
    cases rest with
    | nil => rfl
    | cons d more => simpa using congrArg List.head? same

theorem lastSegment_cut (cs : List Char) :
    (lastSegment cs = cs ∧ ¬ [':', ':'] <:+: cs) ∨
      ∃ outer, cs = lastSegment cs ++ ':' :: ':' :: outer ∧
        ¬ [':', ':'] <:+: lastSegment cs ++ [':'] := by
  fun_induction lastSegment cs with
  | case1 outer => exact .inr ⟨outer, rfl, by decide⟩
  | case2 c rest apart hypothesis =>
    have single : ¬ (c = ':' ∧ rest.head? = some ':') := by
      rintro ⟨rfl, first⟩
      obtain ⟨tail, rfl⟩ := List.head?_eq_some_iff.mp first
      exact apart tail rfl rfl
    rcases hypothesis with ⟨same, whole⟩ | ⟨outer, same, whole⟩
    · refine .inl ⟨by rw [same], ?_⟩
      rw [colons_infix_cons, not_or]
      exact ⟨single, whole⟩
    · refine .inr ⟨outer, by rw [List.cons_append, ← same], ?_⟩
      rw [List.cons_append, colons_infix_cons, not_or]
      refine ⟨fun ⟨colon, first⟩ => single ⟨colon, ?_⟩, whole⟩
      rw [same]
      cases read : lastSegment rest with
      | nil => rfl
      | cons d more =>
        rw [read] at first
        exact first
  | case3 => exact .inl ⟨rfl, by decide⟩

theorem endsPath_iff {path segment : List Char} :
    EndsPath path segment ↔ (lastSegment path.reverse).reverse = segment := by
  have turned : ∀ cs : List Char, [':', ':'] <:+: cs ↔ [':', ':'] <:+: cs.reverse := by
    intro cs
    rw [← List.reverse_infix]
    rfl
  constructor
  · rintro (⟨rfl, whole⟩ | ⟨outer, rfl, whole⟩)
    · rw [lastSegment_of_whole (mt (turned _).mpr whole), List.reverse_reverse]
    · rw [turned, List.reverse_cons] at whole
      simp only [List.reverse_append, List.reverse_cons, List.reverse_nil, List.nil_append,
        List.cons_append]
      rw [lastSegment_of_cut whole, List.reverse_reverse]
  · rintro rfl
    rcases lastSegment_cut path.reverse with ⟨same, whole⟩ | ⟨outer, same, whole⟩
    · refine .inl ⟨by rw [same, List.reverse_reverse], ?_⟩
      rwa [same, ← turned]
    · refine .inr ⟨outer.reverse, ?_, ?_⟩
      · simpa using congrArg List.reverse same
      · rw [turned]
        simpa using whole

theorem namesType_iff {path name : String} : NamesType path name ↔ typeNamespace path = name := by
  rw [typeNamespace]
  constructor
  · rintro ⟨plain, args, whole, free, applied, ends⟩
    have cut : path.toList.takeWhile (· != '<') = plain := by
      rw [whole, List.takeWhile_append_of_pos fun c member => by
        simpa using ne_of_mem_of_not_mem member free]
      rcases applied with rfl | ⟨rest, rfl⟩
      · simp
      · simp
    rw [cut, endsPath_iff.mp ends, String.ofList_toList]
  · intro same
    refine ⟨path.toList.takeWhile (· != '<'), path.toList.dropWhile (· != '<'),
      List.takeWhile_append_dropWhile.symm, fun member => ?_, ?_, ?_⟩
    · simpa using List.all_eq_true.mp List.all_takeWhile '<' member
    · have first := List.head?_dropWhile_not (· != '<') path.toList
      generalize path.toList.dropWhile (· != '<') = args at first
      cases args with
      | nil => exact .inl rfl
      | cons c rest => exact .inr ⟨rest, by simpa using first⟩
    · rw [endsPath_iff, ← same, String.toList_ofList]

end JsonRpc
