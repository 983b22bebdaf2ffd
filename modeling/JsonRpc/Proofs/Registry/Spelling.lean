import JsonRpc.Proofs.Name.Fold

namespace JsonRpc

def Malformed (method : String) : Prop :=
  '.' ∉ method.toList ∨
    ∃ space name, '.' ∉ space.toList ∧ method = space ++ "." ++ name ∧ (space = "" ∨ name = "")

theorem splitMethod_eq_error_iff {method : String} {fault : Fault} :
    splitMethod method = .error fault ↔ Malformed method ∧ fault = .noMethod "wrong method" := by
  rw [splitMethod, Malformed]
  cases cut : splitAtDot? method with
  | none => simp [splitAtDot?_eq_none_iff.mp cut, eq_comm]
  | some parts =>
    obtain ⟨space, name⟩ := parts
    obtain ⟨free, rfl⟩ := splitAtDot?_eq_some_iff.mp cut
    have dotted : '.' ∈ (space ++ "." ++ name).toList := by simp
    -- the parts on both sides of the first dot are the only ones
    have sole : (∃ other rest, '.' ∉ other.toList ∧ space ++ "." ++ name = other ++ "." ++ rest ∧
        (other = "" ∨ rest = "")) ↔ space = "" ∨ name = "" := by
      constructor
      · rintro ⟨other, rest, undotted, same, hollow⟩
        have again := splitAtDot?_join undotted rest
        rw [← same, cut] at again
        obtain ⟨rfl, rfl⟩ := Prod.mk.inj (Option.some.inj again)
        exact hollow
      · exact fun hollow => ⟨space, name, free, rfl, hollow⟩
    simp only [dotted, not_true_eq_false, false_or, sole]
    by_cases filled : space ≠ "" ∧ name ≠ ""
    · simp [filled]
    · have hollow : space = "" ∨ name = "" := by
        by_contra none
        exact filled (not_or.mp none)
      simp [filled, hollow, eq_comm]

namespace Registry

variable {W : World} {registry : Registry W} {method other folded space name : String}

theorem normalizeMethod_eq_error_iff {fault : Fault} :
    registry.normalizeMethod method = .error fault ↔
      Malformed method ∧ fault = .noMethod "wrong method" := by
  rw [← splitMethod_eq_error_iff, normalizeMethod]
  cases splitMethod method <;> simp

theorem normalizeMethod_eq_ok_iff :
    registry.normalizeMethod method = .ok folded ↔ ∃ space name,
      splitMethod method = .ok (space, name) ∧
      registry.style.apply space ++ "." ++ registry.style.apply name = folded := by
  rw [normalizeMethod]
  cases parted : splitMethod method with
  | error fault => simp
  | ok parts =>
    obtain ⟨space, name⟩ := parts
    constructor
    · exact fun joined => ⟨space, name, rfl, Except.ok.inj joined⟩
    · rintro ⟨_, _, same, joined⟩
      cases same
      exact congrArg _ joined

theorem lookup_ne_wrong : registry.lookup space name ≠ .error (.noMethod "wrong method") := by
  rw [lookup]
  cases registry.entry? space with
  | none => simp [Fault.noMethod, Fault.plain]
  | some entry =>
    dsimp only
    split <;> simp [Fault.noMethod, Fault.plain]

theorem resolve_eq_wrong_iff :
    registry.resolve method = .error (.noMethod "wrong method") ↔ Malformed method := by
  have refused : splitMethod method = .error (.noMethod "wrong method") ↔ _ ∧ _ :=
    splitMethod_eq_error_iff
  rw [resolve]
  cases parted : splitMethod method with
  | error fault =>
    obtain ⟨malformed, rfl⟩ := splitMethod_eq_error_iff.mp parted
    simp [malformed]
  | ok parts =>
    rw [parted] at refused
    simpa [lookup_ne_wrong] using refused

theorem lookup_congr {otherSpace otherName : String}
    (spaces : registry.style.apply otherSpace = registry.style.apply space)
    (names : registry.style.apply otherName = registry.style.apply name) :
    registry.lookup otherSpace otherName = registry.lookup space name := by
  simp only [lookup, entry?, spaces, names]

theorem splitAtDot?_normalized (normalized : registry.normalizeMethod method = .ok folded)
    (parted : splitMethod method = .ok (space, name)) :
    splitAtDot? folded = some (registry.style.apply space, registry.style.apply name) := by
  have joined : registry.style.apply space ++ "." ++ registry.style.apply name = folded := by
    simpa [normalizeMethod, parted] using normalized
  rw [← joined]
  exact splitAtDot?_join (registry.style.dot_not_mem_apply (dot_not_mem_of_splitMethod parted)) _

theorem resolve_congr (normalized : registry.normalizeMethod method = .ok folded)
    (alike : registry.normalizeMethod other = .ok folded) :
    registry.resolve other = registry.resolve method := by
  obtain ⟨space, name, parted, -⟩ := normalizeMethod_eq_ok_iff.mp normalized
  obtain ⟨otherSpace, otherName, otherParted, -⟩ := normalizeMethod_eq_ok_iff.mp alike
  have own := splitAtDot?_normalized normalized parted
  rw [splitAtDot?_normalized alike otherParted] at own
  obtain ⟨spaces, names⟩ := Prod.mk.inj (Option.some.inj own)
  rw [resolve, resolve, parted, otherParted]
  exact lookup_congr spaces names

theorem normalizeMethod_normalized (normalized : registry.normalizeMethod method = .ok folded)
    (parted : splitMethod method = .ok (space, name))
    (filled : registry.style.apply space ≠ "" ∧ registry.style.apply name ≠ "")
    (settled : registry.style.apply (registry.style.apply space) = registry.style.apply space ∧
      registry.style.apply (registry.style.apply name) = registry.style.apply name) :
    registry.normalizeMethod folded = .ok folded := by
  have again : splitMethod folded =
      .ok (registry.style.apply space, registry.style.apply name) :=
    splitMethod_eq_ok_iff.mpr ⟨splitAtDot?_normalized normalized parted, filled⟩
  have joined := splitAtDot?_eq_some_iff.mp (splitAtDot?_normalized normalized parted)
  simp only [normalizeMethod, again, settled.1, settled.2, ← joined.2]

end Registry

end JsonRpc
