import JsonRpc.Proofs.Program.Record

namespace JsonRpc

variable {W : World}

def Verdict.panic? {α : Type} : Verdict α → Option Panic
  | .panicked cause => some cause
  | .returned _ | .failed _ => none

theorem Verdict.panic?_eq_some {α : Type} {v : Verdict α} {cause : Panic} :
    v.panic? = some cause ↔ v = .panicked cause := by
  cases v <;> simp [Verdict.panic?]

/-- How a panic leaves the boundary around code: a fault takes its place, unless dropping what the
code panicked with raises another panic, which goes on. -/
inductive Panic.Becomes {α : Type} (method trace : String) : Panic → Verdict α → Prop
  | text (text : String) : Becomes method trace (.text text)
      (.failed
        { code := .internal, message := method ++ ": " ++ text, data := some (.string trace) })
  | value : Becomes method trace .value
      (.failed
        { code := .internal
          message := method ++ ": " ++ "unknown panic"
          data := some (.string trace) })
  | bomb (raised : Panic) : Becomes method trace (.bomb raised) (.panicked raised)

theorem Verdict.contain_becomes {α : Type} (cause : Panic) (method trace : String) :
    cause.Becomes method trace ((Verdict.panicked cause : Verdict α).contain method trace) := by
  cases cause with
  | text text => exact .text text
  | value => exact .value
  | bomb raised => exact .bomb raised

/-- What code panicked with in an event. Code that lies too deep to be run counts as panicking. -/
def Event.panic? (s : Surroundings) : Event W → Option Panic
  | .step (.panic cause) _ => some cause
  | .cut _ => some .value
  | .method cb bound r =>
    match (cb.method.call r.call.scope s.now bound.typed r.world).1 with
    | .error cause => some cause
    | .ok _ => none
  | _ => none

/-- The events up to an end of which `panic` says whether it is a panic. A panic is the last of
them, and there is one if and only if the end is one. -/
def Sounded (s : Surroundings) (events : List (Event W)) : Option Panic → Prop
  | none => ∀ e ∈ events, e.panic? s = none
  | some cause => ∃ before last, events = before ++ [last] ∧
      (∀ e ∈ before, e.panic? s = none) ∧ last.panic? s = some cause

namespace Sounded

variable {s : Surroundings} {events later : List (Event W)} {end? : Option Panic} {e : Event W}

theorem nil : Sounded (W := W) s [] none := by simp [Sounded]

theorem last {cause : Panic} (panics : e.panic? s = some cause) : Sounded s [e] (some cause) :=
  ⟨[], e, rfl, by simp, panics⟩

theorem append (calm : Sounded s events none) (rest : Sounded s later end?) :
    Sounded s (events ++ later) end? := by
  cases end? with
  | none =>
    intro e member
    rcases List.mem_append.mp member with early | late
    · exact calm e early
    · exact rest e late
  | some cause =>
    obtain ⟨before, last, rfl, quiet, panics⟩ := rest
    refine ⟨events ++ before, last, (List.append_assoc ..).symm, ?_, panics⟩
    intro e member
    rcases List.mem_append.mp member with early | late
    · exact calm e early
    · exact quiet e late

theorem cons (calm : e.panic? s = none) (rest : Sounded s events end?) :
    Sounded s (e :: events) end? := by
  have alone : Sounded s [e] none := by simpa [Sounded] using calm
  exact alone.append rest

theorem of_split {before after : List (Event W)} {cause : Panic} (sounded : Sounded s events end?)
    (split : events = before ++ e :: after) (panics : e.panic? s = some cause) :
    after = [] ∧ (∀ e ∈ before, e.panic? s = none) ∧ end? = some cause := by
  subst split
  cases end? with
  | none =>
    have calm := sounded e (by simp)
    rw [panics] at calm
    cases calm
  | some other =>
    obtain ⟨front, last, split, calm, sounds⟩ := sounded
    -- a panic before the last event would be among the calm ones
    rcases List.eq_nil_or_concat after with rfl | ⟨between, final, rfl⟩
    · obtain ⟨rfl, same⟩ := List.append_inj' split rfl
      obtain rfl : e = last := by simpa using same
      rw [panics] at sounds
      exact ⟨rfl, calm, sounds.symm⟩
    · have inside : before ++ e :: between ++ [final] = front ++ [last] := by simpa using split
      obtain ⟨rfl, -⟩ := List.append_inj' inside rfl
      have quiet := calm e (by simp)
      rw [panics] at quiet
      cases quiet

end Sounded

def Recorded.Sounded {α : Type} (s : Surroundings) (x : Ending W α) : Prop :=
  JsonRpc.Sounded s x.events x.result.1.panic?

namespace Recorded

variable {α β : Type} {s : Surroundings}

theorem Sounded.after {x : Ending W α} {e : Event W} (calm : e.panic? s = none)
    (sounded : x.Sounded s) : (x.after e).Sounded s := JsonRpc.Sounded.cons calm sounded

theorem Sounded.onReturn {x : Ending W α} {next : α → Run W → Ending W β} (first : x.Sounded s)
    (rest : ∀ a r, (next a r).Sounded s) : (x.onReturn next).Sounded s := by
  obtain ⟨events, verdict, r⟩ := x
  cases verdict with
  | returned a => exact JsonRpc.Sounded.append first (rest a r)
  | failed fault => exact JsonRpc.Sounded.append first JsonRpc.Sounded.nil
  | panicked cause =>
    show JsonRpc.Sounded s (events ++ []) (some cause)
    rw [List.append_nil]
    exact first

theorem Sounded.resume {x : Ending W Unit} {go : Option Fault → Run W → Ending W Unit}
    (first : x.Sounded s) (rest : ∀ fault r, (go fault r).Sounded s) :
    (x.andThen (Program.recordResume go)).Sounded s := by
  obtain ⟨events, verdict, r⟩ := x
  cases verdict with
  | returned u => exact JsonRpc.Sounded.append first (rest none r)
  | failed fault => exact JsonRpc.Sounded.append first (rest (some fault) r)
  | panicked cause =>
    show JsonRpc.Sounded s (events ++ []) (some cause)
    rw [List.append_nil]
    exact first

end Recorded

namespace Program

variable {s : Surroundings}

theorem recordAdvance_sounded {recorder : Run.Recorder W} (inner : ∀ p r, (recorder p r).Sounded s)
    (r : Run W) : (r.recordAdvance recorder).Sounded s := by
  rw [Run.recordAdvance]
  split
  · exact .nil
  · cases r.ctx.chain[r.call.position + 1]? with
    | none => exact .nil
    | some handler => exact .after rfl (inner _ _)

theorem recordStart_sounded {recorder : Run.Recorder W} (inner : ∀ p r, (recorder p r).Sounded s)
    (chain : List (Program W)) (r : Run W) : (r.recordStart recorder chain).Sounded s := by
  cases chain with
  | nil => exact .nil
  | cons first rest => exact .after rfl (inner _ _)

/-- A program ends with the panic of its own code or of the code it enters, as soon as there is
one. -/
theorem record_sounded {recorder : Run.Recorder W} (inner : ∀ p r, (recorder p r).Sounded s)
    (p : Program W) (r : Run W) : (p.record recorder r).Sounded s := by
  induction p generalizing r with
  | done | fail => exact .after rfl .nil
  | panic cause => exact .last rfl
  | look rest hypothesis => exact .after rfl (hypothesis _ _ _)
  | world change rest hypothesis => exact .after rfl (hypothesis _ _)
  | envelope change rest hypothesis => exact .after rfl (hypothesis _)
  | store change rest hypothesis => exact .after rfl (hypothesis _)
  | headers change rest hypothesis => exact .after rfl (hypothesis _)
  | write status body rest hypothesis => exact .after rfl (hypothesis _ _)
  | sink change rest hypothesis => exact .after rfl (hypothesis _)
  | stop rest hypothesis => exact .after rfl (hypothesis _)
  | begin request rest hypothesis => exact .after rfl (hypothesis _)
  | next rest hypothesis => exact .after rfl (.resume (recordAdvance_sounded inner r) hypothesis)
  | run size handler rest _ hypothesis =>
    exact .after rfl (.resume (recordStart_sounded inner _ r) hypothesis)

theorem recordWithin_sounded (depth : Nat) (p : Program W) (r : Run W) :
    (p.recordWithin depth r).Sounded s := by
  induction depth generalizing p r with
  | zero => exact .last rfl
  | succ depth hypothesis => exact record_sounded hypothesis p r

theorem recordPerform_sounded (p : Program W) (r : Run W) : (p.recordPerform r).Sounded s :=
  recordWithin_sounded _ p r

theorem recordChain_sounded (chain : List (Program W)) (r : Run W) :
    (recordChain chain r).Sounded s :=
  recordStart_sounded (recordWithin_sounded _) chain r

end Program

end JsonRpc
