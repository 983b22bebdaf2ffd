import JsonRpc.Proofs.Program.Panic
import JsonRpc.Proofs.Server.Execution

namespace JsonRpc

variable {W : World}

/-- What an invocation has to do, one after the other. -/
inductive Act where
  | hook (place : HookPlace)
  | method
deriving DecidableEq

/-- The acts of an invocation. Hooks of the registry may be missing, those of a receiver may not. -/
def Hooks.plan (hooks : Hooks W) : List Act :=
  (if hooks.before.isSome then [.hook .registryBefore] else [])
    ++ [.hook .serviceBefore, .method, .hook .serviceAfter]
    ++ (if hooks.after.isSome then [.hook .registryAfter] else [])

theorem Hooks.plan_nodup (hooks : Hooks W) : hooks.plan.Nodup := by
  obtain ⟨before, after⟩ := hooks
  cases before <;> cases after <;> simp [Hooks.plan]

theorem Hooks.method_mem_plan (hooks : Hooks W) : Act.method ∈ hooks.plan := by
  simp [Hooks.plan]

def Event.act? : Event W → Option Act
  | .hook place _ _ _ _ => some (.hook place)
  | .method _ _ _ => some .method
  | _ => none

def beginnings (events : List (Event W)) : List (Event W) := events.filter (!·.isInner)

theorem beginnings_cons {e : Event W} {inner : List (Event W)} (outer : e.isInner = false)
    (inside : ∀ i ∈ inner, i.isInner = true) (later : List (Event W)) :
    beginnings (e :: inner ++ later) = e :: beginnings later := by
  have skipped : inner.filter (!·.isInner) = [] :=
    List.filter_eq_nil_iff.mpr fun i member => by simp [inside i member]
  simp [beginnings, outer, skipped]

def Verdict.forget {α : Type} : Verdict α → Verdict Unit
  | .returned _ => .returned ()
  | .failed fault => .failed fault
  | .panicked cause => .panicked cause

theorem Verdict.forget_unit (v : Verdict Unit) : v.forget = v := by
  cases v <;> rfl

def Verdict.SameEnd {α β : Type} (v : Verdict α) (w : Verdict β) : Prop :=
  (∃ fault, v = .failed fault ∧ w = .failed fault) ∨
    ∃ cause, v = .panicked cause ∧ w = .panicked cause

theorem Recorded.onReturn_assoc {α β γ : Type} (x : Ending W α) (first : α → Run W → Ending W β)
    (second : β → Run W → Ending W γ) :
    (x.onReturn first).onReturn second = x.onReturn fun a r => (first a r).onReturn second := by
  obtain ⟨events, verdict, r⟩ := x
  cases verdict with
  | returned a => simp only [onReturn, andThen, List.append_assoc]
  | failed fault => simp only [onReturn, andThen, silent, List.append_nil]
  | panicked cause => simp only [onReturn, andThen, silent, List.append_nil]

namespace Callback

def hookAt (cb : Callback W) (hooks : Hooks W) (name : String) (raw : List Json)
    (outcome : Option Outcome) : HookPlace → Program W
  | .registryBefore => hookBefore hooks name raw
  | .serviceBefore => cb.receiver.beforeCall name raw
  | .serviceAfter => cb.receiver.afterCall name raw (outcome.getD {})
  | .registryAfter => hookAfter hooks name raw (outcome.getD {})

/-- How the act ends that begins with an event, and the run that it leaves. A method is its code,
run on the value that has been bound. -/
def fate (cb : Callback W) (hooks : Hooks W) (s : Surroundings) : Event W → Verdict Unit × Run W
  | .hook place name raw outcome r => (cb.hookAt hooks name raw outcome place).perform r
  | .method cb bound r =>
    match cb.method.call r.call.scope s.now bound.typed r.world with
    | (.ok _, world) =>
      (.returned (), r.leaving world ((r.call.markStart s.begun).markEnd s.finished).store)
    | (.error cause, world) =>
      (.panicked cause, r.leaving world (r.call.markStart s.begun).store)
  | .step _ r | .entered _ _ r | .cut r => (.returned (), r)

def recordPlan (cb : Callback W) (hooks : Hooks W) (s : Surroundings) (name : String)
    (bound : Bound W) : List Act → Option Outcome → Run W → Ending W Json
  | [], outcome, r => .silent ((outcome.getD {}).verdict, r)
  | .hook place :: plan, outcome, r =>
    (recordHook place name bound.raw outcome
      (cb.hookAt hooks name bound.raw outcome place) r).onReturn fun () r =>
    cb.recordPlan hooks s name bound plan outcome r
  | .method :: plan, _, r =>
    (cb.recordMethod s bound r).onReturn fun outcome r =>
    cb.recordPlan hooks s name bound plan (some outcome) r

theorem recordSteps_eq_recordPlan (cb : Callback W) (hooks : Hooks W) (s : Surroundings)
    (name : String) (bound : Bound W) (r : Run W) :
    cb.recordSteps hooks s name bound r = cb.recordPlan hooks s name bound hooks.plan none r := by
  obtain ⟨before, after⟩ := hooks
  simp only [recordSteps, recordEntry, recordExit, recordBefore, recordAfter,
    Recorded.onReturn_assoc]
  cases before <;> cases after <;> rfl

end Callback

def Event.outcome? (s : Surroundings) : Event W → Option Outcome
  | .method cb bound r =>
    (cb.method.call r.call.scope s.now bound.typed r.world).1.toOption
  | _ => none

def lastOutcome (s : Surroundings) (events : List (Event W)) : Option Outcome :=
  (events.filterMap (Event.outcome? s)).getLast?

theorem Callback.fate_method (cb : Callback W) (hooks : Hooks W) (s : Surroundings)
    (bound : Bound W) (r : Run W) :
    cb.fate hooks s (.method cb bound r) =
      ((cb.runMethod s bound r).1.forget, (cb.runMethod s bound r).2) := by
  rw [runMethod_eq, fate]
  rcases cb.method.call r.call.scope s.now bound.typed r.world with ⟨cause | outcome, world⟩
  · rfl
  · rfl

theorem Event.outcome?_method {cb : Callback W} {s : Surroundings} {bound : Bound W} {r m : Run W}
    {outcome : Outcome} (returned : cb.runMethod s bound r = (.returned outcome, m)) :
    (Event.method cb bound r).outcome? s = some outcome := by
  rw [Callback.runMethod_eq] at returned
  rw [outcome?]
  rcases called : cb.method.call r.call.scope s.now bound.typed r.world with
    ⟨cause | left, world⟩
  · simp [called] at returned
  · rw [called] at returned
    cases returned
    rfl

/-- The events with which acts begin follow a plan from a run to an end. `outcome` is what a method
has left behind before. `chained`: the first act begins at the run, every other where the one before
it ends, and the last one ends at the end. -/
structure Follows (cb : Callback W) (hooks : Hooks W) (s : Surroundings) (name : String)
    (bound : Bound W) (plan : List Act) (outcome : Option Outcome) (r : Run W)
    (begun : List (Event W)) (ended : Verdict Json × Run W) : Prop where
  inOrder : begun.filterMap Event.act? <+: plan
  finished :
    (begun.filterMap Event.act? = plan ∧ (∀ e ∈ begun, (cb.fate hooks s e).1 = .returned ()) ∧
      ended.1 = (((lastOutcome s begun).or outcome).getD {}).verdict) ∨
    ∃ before last, begun = before ++ [last] ∧
      (∀ e ∈ before, (cb.fate hooks s e).1 = .returned ()) ∧
      (cb.fate hooks s last).1.SameEnd ended.1
  told : ∀ before place other raw told m after,
    begun = before ++ .hook place other raw told m :: after →
    other = name ∧ raw = bound.raw ∧ told = (lastOutcome s before).or outcome
  called : ∀ other args m, .method other args m ∈ begun → other = cb ∧ args = bound
  chained : begun.map Event.run ++ [ended.2] = r :: begun.map fun e => (cb.fate hooks s e).2

theorem lastOutcome_cons (s : Surroundings) (e : Event W) (events : List (Event W)) :
    lastOutcome s (e :: events) = (lastOutcome s events).or (e.outcome? s) := by
  cases found : e.outcome? s with
  | none => simp [lastOutcome, found]
  | some outcome => simp [lastOutcome, found, List.getLast?_cons, Option.or_some]

/-- An event with which an act begins, in a run and with what the method left behind so far. -/
structure Begins (cb : Callback W) (name : String) (bound : Bound W) (act : Act)
    (outcome : Option Outcome) (r : Run W) (e : Event W) : Prop where
  run : e.run = r
  act : e.act? = some act
  told : ∀ place other raw told m, e = .hook place other raw told m →
    other = name ∧ raw = bound.raw ∧ told = outcome
  called : ∀ other args m, e = .method other args m → other = cb ∧ args = bound

namespace Follows

variable {cb : Callback W} {hooks : Hooks W} {s : Surroundings} {name : String} {bound : Bound W}
variable {act : Act} {plan : List Act} {outcome later : Option Outcome} {r m : Run W} {e : Event W}
variable {begun : List (Event W)}

theorem nil : Follows cb hooks s name bound [] outcome r [] ((outcome.getD {}).verdict, r) where
  inOrder := List.nil_prefix
  finished := .inl ⟨rfl, by simp, by simp [lastOutcome]⟩
  told := by simp
  called := by simp
  chained := rfl

theorem halt {v : Verdict Unit} {w : Verdict Json} (begins : Begins cb name bound act outcome r e)
    (fate : cb.fate hooks s e = (v, m)) (same : v.SameEnd w) :
    Follows cb hooks s name bound (act :: plan) outcome r [e] (w, m) where
  inOrder := by
    rw [List.filterMap_cons_some begins.act]
    exact List.prefix_append [act] plan
  finished := .inr ⟨[], e, rfl, by simp, by rw [fate]; exact same⟩
  told := by
    intro before place other raw told n after split
    cases before with
    | nil =>
      have first := begins.told place other raw told n (List.cons.inj split).1
      simpa [lastOutcome] using first
    | cons f before => simp at split
  called := by
    intro other args n member
    exact begins.called other args n (List.mem_singleton.mp member).symm
  chained := by simp [begins.run, fate]

theorem pass {ended : Verdict Json × Run W} (begins : Begins cb name bound act outcome r e)
    (fate : cb.fate hooks s e = (.returned (), m)) (leaves : later = (e.outcome? s).or outcome)
    (rest : Follows cb hooks s name bound plan later m begun ended) :
    Follows cb hooks s name bound (act :: plan) outcome r (e :: begun) ended where
  inOrder := by
    rw [List.filterMap_cons_some begins.act]
    exact (List.prefix_cons_inj act).mpr rest.inOrder
  finished := by
    rcases rest.finished with ⟨whole, passed, result⟩ | ⟨before, last, split, passed, same⟩
    · refine .inl ⟨?_, ?_, ?_⟩
      · rw [List.filterMap_cons_some begins.act, whole]
      · simpa [fate] using passed
      · rw [result, leaves, lastOutcome_cons, Option.or_assoc]
    · refine .inr ⟨e :: before, last, by rw [split]; rfl, ?_, same⟩
      simpa [fate] using passed
  told := by
    intro before place other raw told n after split
    cases before with
    | nil =>
      have first := begins.told place other raw told n (List.cons.inj split).1
      simpa [lastOutcome] using first
    -- behind this act, its own outcome comes before that of any act before it
    | cons f before =>
      obtain ⟨rfl, behind⟩ := List.cons.inj split
      rw [lastOutcome_cons, Option.or_assoc, ← leaves]
      exact rest.told before place other raw told n after behind
  called := by
    intro other args n member
    rcases List.mem_cons.mp member with first | member
    · exact begins.called other args n first.symm
    · exact rest.called other args n member
  chained := by
    simp only [List.map_cons, List.cons_append, begins.run, rest.chained, fate]

end Follows

namespace Callback

variable {cb : Callback W} {hooks : Hooks W} {s : Surroundings} {name : String} {bound : Bound W}

theorem follows_onReturn {α : Type} {act : Act} {plan : List Act} {outcome : Option Outcome}
    {r : Run W} {e : Event W} {inner : List (Event W)} {ended : Verdict α × Run W}
    {next : α → Run W → Ending W Json} (begins : Begins cb name bound act outcome r e)
    (outer : e.isInner = false) (inside : ∀ i ∈ inner, i.isInner = true)
    (fate : cb.fate hooks s e = (ended.1.forget, ended.2))
    (rest : ∀ a m, ended = (.returned a, m) → ∃ later, later = (e.outcome? s).or outcome ∧
      Follows cb hooks s name bound plan later m (beginnings (next a m).events) (next a m).result) :
    let x := ({ events := e :: inner, result := ended } : Ending W α).onReturn next
    Follows cb hooks s name bound (act :: plan) outcome r (beginnings x.events) x.result := by
  intro x
  have alone : beginnings (e :: inner) = [e] := by
    simpa [beginnings] using beginnings_cons outer inside []
  obtain ⟨verdict, m⟩ := ended
  cases verdict with
  | returned a =>
    obtain ⟨later, leaves, follows⟩ := rest a m rfl
    have begun : beginnings x.events = e :: beginnings (next a m).events :=
      beginnings_cons outer inside _
    rw [begun]
    exact follows.pass begins fate leaves
  | failed fault =>
    have begun : beginnings x.events = [e] := (congrArg _ (List.append_nil _)).trans alone
    rw [begun]
    exact .halt begins fate (.inl ⟨fault, rfl, rfl⟩)
  | panicked cause =>
    have begun : beginnings x.events = [e] := (congrArg _ (List.append_nil _)).trans alone
    rw [begun]
    exact .halt begins fate (.inr ⟨cause, rfl, rfl⟩)

theorem recordPlan_follows (plan : List Act) (outcome : Option Outcome) (r : Run W) :
    Follows cb hooks s name bound plan outcome r
      (beginnings (cb.recordPlan hooks s name bound plan outcome r).events)
      (cb.recordPlan hooks s name bound plan outcome r).result := by
  -- the invariant is `Follows`, with the outcome that a method before this stretch has left
  induction plan generalizing outcome r with
  | nil => exact .nil
  | cons act plan hypothesis =>
    cases act with
    | hook place =>
      have begins : Begins cb name bound (.hook place) outcome r
          (.hook place name bound.raw outcome r) :=
        { run := rfl, act := rfl, told := by simp +contextual, called := by simp }
      have inside := Trail.inner.recordPerform (cb.hookAt hooks name bound.raw outcome place) r
      refine follows_onReturn begins rfl inside ?_ fun u m ended => ⟨outcome, rfl, hypothesis _ m⟩
      rw [Verdict.forget_unit, Program.recordPerform_result]
      rfl
    | method =>
      have begins : Begins cb name bound .method outcome r (.method cb bound r) :=
        { run := rfl, act := rfl, told := by simp, called := by simp +contextual }
      refine follows_onReturn begins rfl (by simp) (cb.fate_method hooks s bound r) ?_
      intro left m ended
      refine ⟨some left, ?_, hypothesis _ m⟩
      rw [Event.outcome?_method ended, Option.some_or]

theorem fate_of_method {e : Event W} (method : e.act? = some .method) (fault : Fault) :
    (cb.fate hooks s e).1 ≠ .failed fault := by
  cases e with
  | method other args r =>
    simp only [fate]
    split <;> simp
  | hook | step | entered | cut => simp [Event.act?] at method

theorem lastOutcome_of_method {begun : List (Event W)}
    (passed : ∀ e ∈ begun, (cb.fate hooks s e).1 = .returned ())
    (called : Act.method ∈ begun.filterMap Event.act?) :
    ∃ outcome, lastOutcome s begun = some outcome := by
  obtain ⟨e, member, method⟩ := List.mem_filterMap.mp called
  have left : ∃ outcome, e.outcome? s = some outcome := by
    have returned := passed e member
    cases e with
    | method other args r =>
      rcases ended : other.method.call r.call.scope s.now args.typed r.world with
        ⟨cause | outcome, world⟩
      · simp [fate, ended] at returned
      · exact ⟨outcome, by simp [Event.outcome?, ended, Except.toOption]⟩
    | hook | step | entered | cut => simp [Event.act?] at method
  obtain ⟨outcome, left⟩ := left
  have somewhere : outcome ∈ begun.filterMap (Event.outcome? s) :=
    List.mem_filterMap.mpr ⟨e, member, left⟩
  exact ⟨_, List.getLast?_eq_some_getLast (List.ne_nil_of_mem somewhere)⟩

/-- What is so of the hooks and the method of an invocation, by the events with which they begin.
`finished`: all of them run and let the invocation go on, and the result is what the method left
behind, or they run up to the first that fails or panics, and the result is its fault, or what
becomes of its panic.
`told`: all hooks are told the same name and arguments, and those behind the method its outcome.
`chained`: each begins in the run that the one before it has left. -/
structure KeepsToPlan (cb : Callback W) (hooks : Hooks W) (s : Surroundings) (name : String)
    (bound : Bound W) (r : Run W) (begun : List (Event W)) (ended : Verdict Json × Run W) :
    Prop where
  inOrder : begun.filterMap Event.act? <+: hooks.plan
  once : (begun.filterMap Event.act?).Nodup
  finished :
    (begun.filterMap Event.act? = hooks.plan ∧
      (∀ e ∈ begun, (cb.fate hooks s e).1 = .returned ()) ∧
      ∃ outcome, lastOutcome s begun = some outcome ∧
        ended.1 = match outcome.fault with
          | some fault => .failed fault
          | none => .returned (outcome.payload.getD .null)) ∨
    ∃ before last, begun = before ++ [last] ∧
      (∀ e ∈ before, (cb.fate hooks s e).1 = .returned ()) ∧
      ((∃ fault, (cb.fate hooks s last).1 = .failed fault ∧ ended.1 = .failed fault) ∨
        ∃ cause, (cb.fate hooks s last).1 = .panicked cause ∧
          cause.Becomes name s.trace ended.1)
  failing : ∀ e ∈ begun, ∀ fault, (cb.fate hooks s e).1 = .failed fault → e.act? ≠ some .method
  told : ∀ before place other raw told m after,
    begun = before ++ .hook place other raw told m :: after →
    other = name ∧ raw = bound.raw ∧ told = lastOutcome s before
  called : ∀ other args m, .method other args m ∈ begun → other = cb ∧ args = bound
  chained : begun.map Event.run ++ [ended.2] = r :: begun.map fun e => (cb.fate hooks s e).2

theorem keepsToPlan_of_follows {r : Run W} {begun : List (Event W)} {ended : Verdict Json × Run W}
    (follows : Follows cb hooks s name bound hooks.plan none r begun ended) :
    KeepsToPlan cb hooks s name bound r begun (ended.1.contain name s.trace, ended.2) where
  inOrder := follows.inOrder
  once := follows.inOrder.sublist.nodup hooks.plan_nodup
  finished := by
    obtain ⟨verdict, m⟩ := ended
    rcases follows.finished with ⟨whole, passed, result⟩ | ⟨before, last, split, passed, same⟩
    · have called : Act.method ∈ begun.filterMap Event.act? := whole ▸ hooks.method_mem_plan
      obtain ⟨outcome, left⟩ := lastOutcome_of_method passed called
      refine .inl ⟨whole, passed, outcome, left, ?_⟩
      obtain rfl : verdict = outcome.verdict := by simpa [left] using result
      cases fails : outcome.fault <;> simp [Outcome.verdict, Outcome.result, fails, Verdict.contain]
    · refine .inr ⟨before, last, split, passed, ?_⟩
      rcases same with ⟨fault, fails, rfl⟩ | ⟨cause, panics, rfl⟩
      · exact .inl ⟨fault, fails, rfl⟩
      · exact .inr ⟨cause, panics, Verdict.contain_becomes cause name s.trace⟩
  failing := fun e _ fault fails method => fate_of_method method fault fails
  told := by simpa using follows.told
  called := follows.called
  chained := follows.chained

/-- An invocation runs its hooks and its method in the order of its plan, up to the first that does
not let it go on. -/
theorem invoke_keepsToPlan (cb : Callback W) (hooks : Hooks W) (s : Surroundings) (name : String)
    (bound : Bound W) (r : Run W) :
    (cb.recordInvoke hooks s name bound r).result = cb.invoke hooks s name bound r ∧
      KeepsToPlan cb hooks s name bound r
        (beginnings (cb.recordInvoke hooks s name bound r).events)
        (cb.invoke hooks s name bound r) := by
  have recorded := recordInvoke_result cb hooks s name bound r
  refine ⟨recorded, ?_⟩
  rw [← recorded]
  have follows : Follows cb hooks s name bound hooks.plan none r
      (beginnings (cb.recordSteps hooks s name bound r).events)
      (cb.recordSteps hooks s name bound r).result := by
    rw [recordSteps_eq_recordPlan]
    exact recordPlan_follows hooks.plan none r
  exact keepsToPlan_of_follows follows

open Server (fallService burstMethod stillness)

def numberMethod (name : String) (f : Int → Int) : Method tallied :=
  Method.of name false (.ofCodec .int64 (0 : Int) : Param tallied .number) .value
    fun _ _ (n : Int) runs => (.ok (.returned (.ofInt64 (.ofInt (f n)))), runs + 1)

def sayMethod : Method tallied :=
  Method.of "say" false (.ofCodec .string "" : Param tallied .text) .value
    fun _ _ (text : String) runs => (.ok (.returned (.string text)), runs + 1)

/-- Arguments that one callback has bound are run by the method of the callback that is invoked, and
are no arguments of a method of another type. -/
theorem invoke_keepsToPlan_crossed :
    let inc : Callback tallied := ⟨numberMethod "inc" (· + 1), fallService⟩
    let double : Callback tallied := ⟨numberMethod "double" (2 * ·), fallService⟩
    let say : Callback tallied := ⟨sayMethod, fallService⟩
    let r : Run tallied := { ctx := {}, world := untouched, now := 0 }
    ∃ bound, inc.bind (some (.array [.ofInt64 21])) = .returned bound ∧
      (inc.invoke {} stillness "demo.inc" bound r).1 = .returned (.ofInt64 22) ∧
      (double.invoke {} stillness "demo.double" bound r).1 = .returned (.ofInt64 42) ∧
      (double.invoke {} stillness "demo.double" bound r).2.world = 1 ∧
      (say.invoke {} stillness "demo.say" bound r).1 =
        .failed (.internal "argument type mismatch") ∧
      KeepsToPlan double {} stillness "demo.double" bound r
        (beginnings (double.recordInvoke {} stillness "demo.double" bound r).events)
        (double.invoke {} stillness "demo.double" bound r) := by
  intro inc double say r
  refine ⟨_, rfl, by decide +kernel, by decide +kernel, by decide +kernel, by decide +kernel, ?_⟩
  exact (invoke_keepsToPlan double {} stillness "demo.double" _ r).2

/-- The panic of the method comes to no fault. -/
theorem invoke_burst :
    let cb : Callback tallied := ⟨burstMethod, fallService⟩
    let r : Run tallied := { ctx := {}, world := untouched, now := 0 }
    ∃ bound, cb.bind none = .returned bound ∧
      (cb.method.call r.call.scope r.now bound.typed r.world).1 = .error (.bomb (.text "dropped")) ∧
      (cb.invoke {} stillness "demo.fall" bound r).1 = .panicked (.text "dropped") := by
  intro cb r
  exact ⟨_, rfl, rfl, by decide +kernel⟩

end Callback

end JsonRpc
