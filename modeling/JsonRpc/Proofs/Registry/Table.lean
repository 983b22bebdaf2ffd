import JsonRpc.Registry
import Mathlib.Data.List.Nodup

namespace JsonRpc

theorem mem_keys_iff {α : Type} {key : String} {table : List (String × α)} :
    key ∈ table.map (·.1) ↔ (lookup? key table).isSome = true := by
  induction table with
  | nil => simp [lookup?]
  | cons entry rest hypothesis =>
    obtain ⟨k, v⟩ := entry
    by_cases same : k = key
    · simp [lookup?, same]
    · have skip : (k == key) = false := by simpa using same
      rw [List.map_cons, List.mem_cons, hypothesis]
      simp [lookup?, skip, Ne.symm same]

theorem lookup?_of_mem {α : Type} {key : String} {value : α} {table : List (String × α)}
    (distinct : (table.map (·.1)).Nodup) (member : (key, value) ∈ table) :
    lookup? key table = some value := by
  induction table with
  | nil => cases member
  | cons entry rest hypothesis =>
    obtain ⟨k, v⟩ := entry
    rw [List.map_cons, List.nodup_cons] at distinct
    rcases List.mem_cons.mp member with first | later
    · cases first
      simp [lookup?]
    · have different : k ≠ key := by
        rintro rfl
        exact distinct.1 (List.mem_map.mpr ⟨_, later, rfl⟩)
      have skip : (k == key) = false := by simpa using different
      simpa [lookup?, skip] using hypothesis distinct.2 later

theorem lookup?_append {α : Type} (key : String) (front back : List (String × α)) :
    lookup? key (front ++ back) = (lookup? key front).or (lookup? key back) := by
  rw [lookup?, lookup?, lookup?, List.find?_append]
  cases front.find? (·.1 == key) <;> rfl

theorem mem_keys_assign {α : Type} {key other : String} {value : α} {table : List (String × α)} :
    other ∈ (assign key value table).map (·.1) ↔ other = key ∨ other ∈ table.map (·.1) := by
  rw [mem_keys_iff, mem_keys_iff]
  by_cases same : other = key
  · simp [same, lookup?_assign_self]
  · simp [same, lookup?_assign_of_ne same]

theorem keys_assign_nodup {α : Type} {key : String} {value : α} {table : List (String × α)}
    (distinct : (table.map (·.1)).Nodup) : ((assign key value table).map (·.1)).Nodup := by
  induction table with
  | nil => simp [assign]
  | cons entry rest hypothesis =>
    obtain ⟨k, v⟩ := entry
    rw [List.map_cons, List.nodup_cons] at distinct
    by_cases same : k = key
    · subst same
      simpa [assign] using distinct
    · have fresh : k ∉ (assign key value rest).map (·.1) := by
        rw [mem_keys_assign, not_or]
        exact ⟨same, distinct.1⟩
      rw [assign, if_neg same, List.map_cons, List.nodup_cons]
      exact ⟨fresh, hypothesis distinct.2⟩

/-- Whether a registry keeps out a method, where `barred` are the names that were excluded. These it
folds once, and the name of the method twice. -/
def NameStyle.hides (style : NameStyle) (barred : List String) (bound : String) : Bool :=
  let folded := style.apply (style.apply bound)
  Registry.reserved.contains (NameStyle.snake.apply folded)
    || (barred.map style.apply).contains folded

def NameStyle.Hides (style : NameStyle) (barred : List String) (bound : String) : Prop :=
  style.hides barred bound = true

/-- A method is kept out under this name: it is reserved, or folded as an excluded name is. -/
def NameStyle.Excludes (style : NameStyle) (barred : List String) (bound : String) : Prop :=
  NameStyle.snake.apply bound ∈ Registry.reserved ∨
    ∃ name ∈ barred, style.apply name = style.apply bound

/-- To fold such a name again makes no difference to whether it is kept out. -/
def NameStyle.Steady (style : NameStyle) (bound : String) : Prop :=
  NameStyle.snake.apply bound ∈ Registry.reserved ∨
    style.apply (style.apply bound) = style.apply bound

instance (style : NameStyle) (barred : List String) (bound : String) :
    Decidable (style.Excludes barred bound) := inferInstanceAs (Decidable (_ ∨ _))

instance (style : NameStyle) (bound : String) : Decidable (style.Steady bound) :=
  inferInstanceAs (Decidable (_ ∨ _))

theorem NameStyle.snake_of_reserved :
    ∀ name ∈ Registry.reserved, NameStyle.snake.apply name = name := by
  decide +kernel

theorem NameStyle.hides_of_reserved (style : NameStyle) {bound : String}
    (reserved : NameStyle.snake.apply bound ∈ Registry.reserved) (barred : List String) :
    style.hides barred bound = true := by
  have kept : NameStyle.snake.apply (style.apply (style.apply bound)) =
      NameStyle.snake.apply bound := by
    cases style with
    | snake => rw [snake_of_reserved _ reserved, snake_of_reserved _ reserved]
    | verbatim => rfl
  simp [hides, kept, reserved]

theorem NameStyle.hides_iff_of_settled {style : NameStyle} {bound : String}
    (settled : style.apply (style.apply bound) = style.apply bound) (barred : List String) :
    style.hides barred bound = true ↔ style.Excludes barred bound := by
  have reserved : NameStyle.snake.apply (style.apply bound) = NameStyle.snake.apply bound := by
    cases style with
    | snake => exact settled
    | verbatim => rfl
  simp [hides, Excludes, settled, reserved]

theorem NameStyle.Steady.hides_iff {style : NameStyle} {bound : String}
    (steady : style.Steady bound) (barred : List String) :
    style.hides barred bound = true ↔ style.Excludes barred bound := by
  rcases steady with reserved | settled
  · exact iff_of_true (hides_of_reserved style reserved barred) (.inl reserved)
  · exact hides_iff_of_settled settled barred

def Method.exposed {W : World} (method : Method W) (name : String) (receiver : Service W) :
    Callback W :=
  { method := { method with name }, receiver }

def NameStyle.lastBound? {W : World} (style : NameStyle) (barred : List String)
    (methods : List (Method W)) (name : String) : Option (Method W) :=
  (methods.filter fun method =>
    style.apply method.name == name && !style.hides barred method.name).getLast?

theorem NameStyle.hides_congr {style : NameStyle} {barred : List String} {bound other : String}
    (alike : style.apply other = style.apply bound) :
    style.hides barred other = style.hides barred bound := by
  rw [hides, hides, alike]

/-- A method is the last one that is bound under a name, those aside that are kept out. -/
def NameStyle.BindsLast {W : World} (style : NameStyle) (out : String → Prop)
    (methods : List (Method W)) (name : String) (method : Method W) : Prop :=
  ∃ earlier later, methods = earlier ++ method :: later ∧ style.apply method.name = name ∧
    ¬ out method.name ∧ ∀ other ∈ later, style.apply other.name = name → out other.name

theorem NameStyle.BindsLast.congr {W : World} {style : NameStyle} {out other : String → Prop}
    {methods : List (Method W)} {name : String} {method : Method W}
    (alike : ∀ m ∈ methods, out m.name ↔ other m.name) :
    style.BindsLast out methods name method ↔ style.BindsLast other methods name method := by
  have one_way : ∀ {out other : String → Prop}, (∀ m ∈ methods, out m.name ↔ other m.name) →
      style.BindsLast out methods name method → style.BindsLast other methods name method := by
    rintro out other alike ⟨earlier, later, rfl, titled, visible, last⟩
    refine ⟨earlier, later, rfl, titled, ?_, fun m member same => ?_⟩
    · rwa [← alike method (by simp)]
    · exact (alike m (by simp [member])).mp (last m member same)
  exact ⟨one_way alike, one_way fun m member => (alike m member).symm⟩

theorem NameStyle.lastBound?_eq_some_iff {W : World} {style : NameStyle} {barred : List String}
    {methods : List (Method W)} {name : String} {method : Method W} :
    style.lastBound? barred methods name = some method ↔
      style.BindsLast (style.Hides barred) methods name method := by
  rw [lastBound?, List.getLast?_eq_some_iff]
  constructor
  · rintro ⟨before, split⟩
    obtain ⟨front, back, rfl, -, rest⟩ := List.filter_eq_append_iff.mp split
    obtain ⟨skipped, later, rfl, -, kept, none_later⟩ := List.filter_eq_cons_iff.mp rest
    rw [List.filter_eq_nil_iff] at none_later
    rw [Bool.and_eq_true, beq_iff_eq, Bool.not_eq_true'] at kept
    refine ⟨front ++ skipped, later, by rw [List.append_assoc], kept.1, by simp [Hides, kept.2],
      fun other member same => ?_⟩
    simpa [Hides, same] using none_later other member
  · rintro ⟨earlier, later, rfl, titled, visible, last⟩
    refine ⟨earlier.filter fun m => style.apply m.name == name && !style.hides barred m.name, ?_⟩
    have none_later : later.filter (fun m => style.apply m.name == name
        && !style.hides barred m.name) = [] := by
      rw [List.filter_eq_nil_iff]
      intro other member
      simpa [Hides] using last other member
    have shown : style.hides barred method.name = false := by simpa [Hides] using visible
    rw [List.filter_append, List.filter_cons, none_later]
    simp [titled, shown]

theorem NameStyle.lastBound?_eq_none_iff {W : World} {style : NameStyle} {barred : List String}
    {methods : List (Method W)} {name : String} :
    style.lastBound? barred methods name = none ↔ ∀ method ∈ methods,
      style.apply method.name = name → style.hides barred method.name = true := by
  rw [lastBound?, List.getLast?_eq_none_iff, List.filter_eq_nil_iff]
  simp

theorem NameStyle.exists_bindsLast {W : World} {style : NameStyle} {barred : List String}
    {methods : List (Method W)} {method : Method W} (offered : method ∈ methods)
    (visible : ¬ style.Hides barred method.name) :
    ∃ last, style.BindsLast (style.Hides barred) methods (style.apply method.name) last := by
  cases bound : style.lastBound? barred methods (style.apply method.name) with
  | none => exact absurd (lastBound?_eq_none_iff.mp bound method offered rfl) visible
  | some last => exact ⟨last, lastBound?_eq_some_iff.mp bound⟩

namespace Registry

variable {W : World} {registry : Registry W}

def Bars (registry : Registry W) (barred : List String) : Prop :=
  ∀ folded, folded ∈ registry.excluded ↔ folded ∈ barred.map registry.style.apply

theorem isExcluded_eq {barred : List String} (bars : registry.Bars barred) (own : List String)
    (bound : String) :
    registry.isExcluded (own.map registry.style.apply) (registry.style.apply bound) =
      registry.style.hides (barred ++ own) bound := by
  have listed : registry.excluded.contains (registry.style.apply (registry.style.apply bound)) =
      (barred.map registry.style.apply).contains
        (registry.style.apply (registry.style.apply bound)) := by
    rw [Bool.eq_iff_iff, List.contains_iff_mem, List.contains_iff_mem]
    exact bars _
  rw [isExcluded, NameStyle.hides, listed, List.map_append, List.contains_append, Bool.or_assoc]

theorem keys_table_nodup (receiver : Service W) (own : List String) (methods : List (Method W))
    {before : List (String × Callback W)} (distinct : (before.map (·.1)).Nodup) :
    ((registry.table receiver own methods before).map (·.1)).Nodup := by
  induction methods generalizing before with
  | nil => exact distinct
  | cons method methods hypothesis =>
    rw [table]
    split
    · exact hypothesis distinct
    · exact hypothesis (keys_assign_nodup distinct)

section

variable {barred : List String} (bars : registry.Bars barred) (receiver : Service W)
  (own : List String)

include bars

theorem lookup?_table (methods : List (Method W)) (before : List (String × Callback W))
    (name : String) :
    lookup? name (registry.table receiver (own.map registry.style.apply) methods before) =
      ((registry.style.lastBound? (barred ++ own) methods name).map
        (·.exposed name receiver)).or (lookup? name before) := by
  induction methods generalizing before with
  | nil => rfl
  | cons method methods hypothesis =>
    rw [table, isExcluded_eq bars]
    cases hidden : registry.style.hides (barred ++ own) method.name with
    | true =>
      rw [if_pos rfl, hypothesis]
      simp [NameStyle.lastBound?, hidden]
    | false =>
      rw [if_neg Bool.false_ne_true, hypothesis]
      by_cases same : registry.style.apply method.name = name
      · -- a later method of this name takes the place of this one
        subst same
        rw [lookup?_assign_self, NameStyle.lastBound?, NameStyle.lastBound?, List.filter_cons]
        simp only [beq_self_eq_true, hidden, Bool.not_false, Bool.and_self, if_true,
          List.getLast?_cons]
        cases (methods.filter _).getLast? <;> rfl
      · have skip : (registry.style.apply method.name == name) = false := by simpa using same
        rw [lookup?_assign_of_ne (Ne.symm same)]
        simp [NameStyle.lastBound?, skip]

theorem table_eq_nil_iff (methods : List (Method W)) :
    registry.table receiver (own.map registry.style.apply) methods [] = [] ↔
      ∀ method ∈ methods, registry.style.hides (barred ++ own) method.name = true := by
  have found := lookup?_table bars receiver own methods []
  constructor
  · intro empty method member
    rw [empty] at found
    have nothing := found (registry.style.apply method.name)
    have bound : registry.style.lastBound? (barred ++ own) methods
        (registry.style.apply method.name) = none := by
      simpa [lookup?] using nothing.symm
    exact NameStyle.lastBound?_eq_none_iff.mp bound method member rfl
  · intro hidden
    have unbound : ∀ name, registry.style.lastBound? (barred ++ own) methods name = none :=
      fun name => NameStyle.lastBound?_eq_none_iff.mpr fun method member _ => hidden method member
    rw [List.eq_nil_iff_forall_not_mem]
    rintro ⟨name, cb⟩ member
    have listed := mem_keys_iff.mp (List.mem_map_of_mem member)
    rw [found, unbound] at listed
    cases listed

end

end Registry

end JsonRpc
