import JsonRpc.Invocation

namespace JsonRpc

inductive HookPlace where
  | registryBefore
  | serviceBefore
  | serviceAfter
  | registryAfter
deriving DecidableEq

/-- `step` is the first step of a program, also of what a program goes on with; `entered` is the
start of the handler at an index of the chain; `cut` stands for a program that lies too deep to be
run. -/
inductive Event (W : World) where
  | step (p : Program W) (r : Run W)
  | entered (index : Nat) (handler : Program W) (r : Run W)
  | cut (r : Run W)
  | hook (place : HookPlace) (name : String) (args : List Json) (outcome : Option Outcome)
      (r : Run W)
  | method (cb : Callback W) (bound : Bound W) (r : Run W)

def Event.run {W : World} : Event W → Run W
  | .step _ r | .entered _ _ r | .cut r | .hook _ _ _ _ r | .method _ _ r => r

structure Recorded (W : World) (α : Type) where
  events : List (Event W)
  result : α

namespace Recorded

variable {W : World} {α β : Type}

def after (event : Event W) (x : Recorded W α) : Recorded W α :=
  { x with events := event :: x.events }

def silent (a : α) : Recorded W α := { events := [], result := a }

def map (f : α → β) (x : Recorded W α) : Recorded W β := { events := x.events, result := f x.result }

def andThen (x : Recorded W α) (next : α → Recorded W β) : Recorded W β :=
  { events := x.events ++ (next x.result).events, result := (next x.result).result }

@[simp] theorem result_after (event : Event W) (x : Recorded W α) :
    (x.after event).result = x.result := rfl

@[simp] theorem events_after (event : Event W) (x : Recorded W α) :
    (x.after event).events = event :: x.events := rfl

@[simp] theorem result_silent (a : α) : (silent a : Recorded W α).result = a := rfl

@[simp] theorem events_silent (a : α) : (silent a : Recorded W α).events = [] := rfl

@[simp] theorem result_map (f : α → β) (x : Recorded W α) : (x.map f).result = f x.result := rfl

@[simp] theorem events_map (f : α → β) (x : Recorded W α) : (x.map f).events = x.events := rfl

@[simp] theorem result_andThen (x : Recorded W α) (next : α → Recorded W β) :
    (x.andThen next).result = (next x.result).result := rfl

@[simp] theorem events_andThen (x : Recorded W α) (next : α → Recorded W β) :
    (x.andThen next).events = x.events ++ (next x.result).events := rfl

end Recorded

abbrev Ending (W : World) (α : Type) := Recorded W (Verdict α × Run W)

def Recorded.onReturn {W : World} {α β : Type} (x : Ending W α) (next : α → Run W → Ending W β) :
    Ending W β :=
  x.andThen fun
    | (.returned a, r) => next a r
    | (.failed fault, r) => .silent (.failed fault, r)
    | (.panicked cause, r) => .silent (.panicked cause, r)

theorem Recorded.events_of_return {W : World} {α β : Type} {x : Ending W α} {a : α} {r : Run W}
    (ended : x.result = (.returned a, r)) (next : α → Run W → Ending W β) :
    (x.onReturn next).events = x.events ++ (next a r).events := by
  rw [onReturn, events_andThen, ended]

theorem Recorded.events_of_no_return {W : World} {α β : Type} {x : Ending W α}
    (ended : ∀ a r, x.result ≠ (.returned a, r)) (next : α → Run W → Ending W β) :
    (x.onReturn next).events = x.events := by
  obtain ⟨events, verdict, r⟩ := x
  cases verdict with
  | returned a => exact absurd rfl (ended a r)
  | failed fault => exact List.append_nil events
  | panicked cause => exact List.append_nil events

theorem Recorded.onReturn_result {W : World} {α β : Type} (x : Ending W α)
    (next : α → Run W → Ending W β) :
    (x.onReturn next).result = Verdict.andThen (fun a r => (next a r).result) x.result := by
  obtain ⟨events, verdict, r⟩ := x
  cases verdict <;> rfl

namespace Run

variable {W : World}

abbrev Recorder (W : World) := Program W → Run W → Ending W Unit

def Recorder.enter (recorder : Recorder W) : Enter W := fun p r => (recorder p r).result

def recordAdvance (recorder : Recorder W) (r : Run W) : Ending W Unit :=
  if r.call.stopped ∨ r.ctx.chain.length ≤ r.call.position then .silent (.returned (), r)
  else
    let moved := r.edit fun call => { call with position := call.position + 1 }
    match r.ctx.chain[r.call.position + 1]? with
    | some handler => (recorder handler moved).after (.entered (r.call.position + 1) handler moved)
    | none => .silent (.returned (), moved)

def recordStart (recorder : Recorder W) (chain : List (Program W)) (r : Run W) : Ending W Unit :=
  match chain with
  | [] => .silent (.returned (), r.install [])
  | first :: _ => (recorder first (r.install chain)).after (.entered 0 first (r.install chain))

theorem recordAdvance_result (recorder : Recorder W) (r : Run W) :
    (r.recordAdvance recorder).result = r.advance recorder.enter := by
  simp only [recordAdvance, advance]
  split
  · rfl
  · cases r.ctx.chain[r.call.position + 1]? <;> rfl

theorem recordStart_result (recorder : Recorder W) (chain : List (Program W)) (r : Run W) :
    (r.recordStart recorder chain).result = r.start recorder.enter chain := by
  cases chain <;> rfl

end Run

namespace Program

variable {W : World}

def recordResume (go : Option Fault → Run W → Ending W Unit) :
    Verdict Unit × Run W → Ending W Unit
  | (.returned (), r) => go none r
  | (.failed fault, r) => go (some fault) r
  | (.panicked cause, r) => .silent (.panicked cause, r)

theorem recordResume_result (go : Option Fault → Run W → Ending W Unit)
    (ended : Verdict Unit × Run W) :
    (recordResume go ended).result = resume (fun fault r => (go fault r).result) ended := by
  obtain ⟨verdict, r⟩ := ended
  cases verdict <;> rfl

/-- Runs a program and records it; entries into the chain are run and recorded by `recorder`. -/
def record (recorder : Run.Recorder W) : Program W → Run W → Ending W Unit
  | .done, r => .after (.step .done r) (.silent (.returned (), r))
  | .fail fault, r => .after (.step (.fail fault) r) (.silent (.failed fault, r))
  | .panic cause, r => .after (.step (.panic cause) r) (.silent (.panicked cause, r))
  | .look rest, r => .after (.step (.look rest) r) ((rest r.call r.now).record recorder r)
  | .world change rest, r =>
    .after (.step (.world change rest) r)
      ((rest r.world).record recorder { r with world := change r.world })
  | .envelope change rest, r =>
    .after (.step (.envelope change rest) r) (rest.record recorder
      (r.edit fun call => { call with envelope := change call.envelope }))
  | .store change rest, r =>
    .after (.step (.store change rest) r) (rest.record recorder
      (r.edit fun call => { call with store := change call.store }))
  | .headers change rest, r =>
    .after (.step (.headers change rest) r) (rest.record recorder (r.edit fun call =>
      { call with sink := { call.sink with headers := change call.sink.headers } }))
  | .write status body rest, r =>
    .after (.step (.write status body rest) r)
      ((rest (r.call.sink.write status body).1).record recorder
        (r.edit fun call => { call with sink := (call.sink.write status body).2 }))
  | .sink change rest, r =>
    .after (.step (.sink change rest) r) (rest.record recorder
      (r.edit fun call => { call with sink := change call.sink }))
  | .stop rest, r =>
    .after (.step (.stop rest) r) (rest.record recorder
      (r.edit fun call => { call with stopped := true }))
  | .begin request rest, r =>
    .after (.step (.begin request rest) r) (rest.record recorder
      (r.edit fun call => call.begin request))
  | .next rest, r =>
    .after (.step (.next rest) r) ((r.recordAdvance recorder).andThen
      (recordResume fun fault r => (rest fault).record recorder r))
  | .run size handler rest, r =>
    .after (.step (.run size handler rest) r) ((r.recordStart recorder (List.ofFn handler)).andThen
      (recordResume fun fault r => (rest fault).record recorder r))

def recordWithin : Nat → Program W → Run W → Ending W Unit
  | 0, _, r => .after (.cut r) (.silent (.panicked .value, r))
  | depth + 1, p, r => p.record (recordWithin depth) r

def recordPerform (p : Program W) (r : Run W) : Ending W Unit :=
  p.recordWithin (spareDepth + r.ctx.chain.length) r

def recordChain (chain : List (Program W)) (r : Run W) : Ending W Unit :=
  r.recordStart (recordWithin (spareDepth + chain.length)) chain

theorem record_result (recorder : Run.Recorder W) (p : Program W) (r : Run W) :
    (p.record recorder r).result = p.exec recorder.enter r := by
  induction p generalizing r with
  | done | fail | panic => rfl
  | look rest hypothesis => exact hypothesis _ _ _
  | world change rest hypothesis => exact hypothesis _ _
  | envelope change rest hypothesis => exact hypothesis _
  | store change rest hypothesis => exact hypothesis _
  | headers change rest hypothesis => exact hypothesis _
  | write status body rest hypothesis => exact hypothesis _ _
  | sink change rest hypothesis => exact hypothesis _
  | stop rest hypothesis => exact hypothesis _
  | begin request rest hypothesis => exact hypothesis _
  | next rest hypothesis =>
    simp only [record, exec, Recorded.result_after, Recorded.result_andThen, recordResume_result,
      hypothesis, Run.recordAdvance_result]
  | run size handler rest _ hypothesis =>
    simp only [record, exec, Recorded.result_after, Recorded.result_andThen, recordResume_result,
      hypothesis, Run.recordStart_result]

theorem enter_recordWithin (depth : Nat) :
    Run.Recorder.enter (recordWithin depth) = execWithin (W := W) depth := by
  induction depth with
  | zero => rfl
  | succ depth hypothesis =>
    funext p r
    have recorded := record_result (recordWithin depth) p r
    rw [hypothesis] at recorded
    exact recorded

theorem recordWithin_result (depth : Nat) (p : Program W) (r : Run W) :
    (p.recordWithin depth r).result = p.execWithin depth r :=
  congrFun (congrFun (enter_recordWithin depth) p) r

theorem recordPerform_result (p : Program W) (r : Run W) :
    (p.recordPerform r).result = p.perform r := recordWithin_result _ p r

theorem recordChain_result (chain : List (Program W)) (r : Run W) :
    (recordChain chain r).result = performChain chain r := by
  rw [recordChain, performChain, Run.recordStart_result, enter_recordWithin]

theorem record_head (recorder : Run.Recorder W) (p : Program W) (r : Run W) :
    ∃ events, (p.record recorder r).events = .step p r :: events := by
  cases p <;> exact ⟨_, rfl⟩

end Program

/-- The run behind the first step of a program. A nested run begins where its step does. -/
def Program.touch {W : World} : Program W → Run W → Run W
  | .done, r | .fail _, r | .panic _, r | .look _, r | .next _, r | .run _ _ _, r => r
  | .world change _, r => { r with world := change r.world }
  | .envelope change _, r => r.edit fun call => { call with envelope := change call.envelope }
  | .store change _, r => r.edit fun call => { call with store := change call.store }
  | .headers change _, r =>
    r.edit fun call =>
      { call with sink := { call.sink with headers := change call.sink.headers } }
  | .write status body _, r =>
    r.edit fun call => { call with sink := (call.sink.write status body).2 }
  | .sink change _, r => r.edit fun call => { call with sink := change call.sink }
  | .stop _, r => r.edit fun call => { call with stopped := true }
  | .begin request _, r => r.edit fun call => call.begin request

/-- No program lay too deep to be run. -/
def Uncut {W : World} (events : List (Event W)) : Prop := ∀ r, Event.cut r ∉ events

/-- A request for the next handler that cannot be met is answered at once, and the run is as it
was. -/
def Settled {W : World} (events : List (Event W)) : Prop :=
  ∀ before rest r after, events = before ++ .step (.next rest) r :: after →
    r.call.stopped = true ∨ r.ctx.chain.length ≤ r.call.position →
    ∃ later, after = .step (rest none) r :: later

variable {W : World}

theorem Uncut.tail {e : Event W} {events : List (Event W)} (uncut : Uncut (e :: events)) :
    Uncut events := fun r member => uncut r (List.mem_cons_of_mem _ member)

theorem Uncut.left {before later : List (Event W)} (uncut : Uncut (before ++ later)) :
    Uncut before := fun r member => uncut r (List.mem_append_left _ member)

theorem Uncut.right {before later : List (Event W)} (uncut : Uncut (before ++ later)) :
    Uncut later := fun r member => uncut r (List.mem_append_right _ member)

namespace Program

def Extends (wide narrow : Run.Recorder W) : Prop :=
  ∀ p r, Uncut (narrow p r).events → wide p r = narrow p r

theorem Extends.advance {wide narrow : Run.Recorder W} (ext : Extends wide narrow) {r : Run W}
    (uncut : Uncut (r.recordAdvance narrow).events) :
    r.recordAdvance wide = r.recordAdvance narrow := by
  simp only [Run.recordAdvance] at uncut ⊢
  split
  · rfl
  · rename_i busy
    rw [if_neg busy] at uncut
    cases found : r.ctx.chain[r.call.position + 1]? with
    | none => rfl
    | some handler =>
      simp only [found, Recorded.events_after] at uncut
      simp only [ext _ _ uncut.tail]

theorem Extends.start {wide narrow : Run.Recorder W} (ext : Extends wide narrow)
    {chain : List (Program W)} {r : Run W} (uncut : Uncut (r.recordStart narrow chain).events) :
    r.recordStart wide chain = r.recordStart narrow chain := by
  cases chain with
  | nil => rfl
  | cons first rest =>
    simp only [Run.recordStart, Recorded.events_after] at uncut ⊢
    rw [ext _ _ uncut.tail]

theorem resume_of_uncut {x : Ending W Unit} {go other : Option Fault → Run W → Ending W Unit}
    (same : ∀ fault r, Uncut (go fault r).events → other fault r = go fault r)
    (uncut : Uncut (x.andThen (recordResume go)).events) :
    x.andThen (recordResume other) = x.andThen (recordResume go) := by
  obtain ⟨events, verdict, r⟩ := x
  simp only [Recorded.andThen] at uncut ⊢
  cases verdict with
  | returned u => simp only [recordResume] at uncut ⊢; rw [same _ _ uncut.right]
  | failed fault => simp only [recordResume] at uncut ⊢; rw [same _ _ uncut.right]
  | panicked cause => rfl

theorem Extends.record {wide narrow : Run.Recorder W} (ext : Extends wide narrow)
    (p : Program W) (r : Run W) (uncut : Uncut (p.record narrow r).events) :
    p.record wide r = p.record narrow r := by
  induction p generalizing r with
  | done | fail | panic => rfl
  | look rest hypothesis => exact congrArg _ (hypothesis _ _ _ uncut.tail)
  | world change rest hypothesis => exact congrArg _ (hypothesis _ _ uncut.tail)
  | envelope change rest hypothesis => exact congrArg _ (hypothesis _ uncut.tail)
  | store change rest hypothesis => exact congrArg _ (hypothesis _ uncut.tail)
  | headers change rest hypothesis => exact congrArg _ (hypothesis _ uncut.tail)
  | write status body rest hypothesis => exact congrArg _ (hypothesis _ _ uncut.tail)
  | sink change rest hypothesis => exact congrArg _ (hypothesis _ uncut.tail)
  | stop rest hypothesis => exact congrArg _ (hypothesis _ uncut.tail)
  | begin request rest hypothesis => exact congrArg _ (hypothesis _ uncut.tail)
  | next rest hypothesis =>
    have inside := ext.advance uncut.tail.left
    simp only [Program.record, inside]
    exact congrArg _ (resume_of_uncut (fun fault r => hypothesis fault r) uncut.tail)
  | run size handler rest _ hypothesis =>
    have inside := ext.start uncut.tail.left
    simp only [Program.record, inside]
    exact congrArg _ (resume_of_uncut (fun fault r => hypothesis fault r) uncut.tail)

/-- A run that needs no more than some depth is the same at every greater depth. -/
theorem extends_recordWithin {depth more : Nat} (deeper : depth ≤ more) :
    Extends (W := W) (recordWithin more) (recordWithin depth) := by
  induction depth generalizing more with
  | zero =>
    intro p r uncut
    exact absurd (List.mem_singleton.mpr rfl) (uncut r)
  | succ depth hypothesis =>
    obtain ⟨more, rfl⟩ := Nat.exists_eq_add_of_lt (Nat.lt_of_succ_le deeper)
    intro p r uncut
    exact (hypothesis (Nat.le_add_right depth more)).record p r uncut

end Program

namespace Settled

theorem nil : Settled (W := W) [] := by
  intro before rest r after split
  simp at split

theorem cons {e : Event W} {events : List (Event W)}
    (calm : ∀ rest r, e = .step (.next rest) r →
      ¬ (r.call.stopped = true ∨ r.ctx.chain.length ≤ r.call.position))
    (settled : Settled events) : Settled (e :: events) := by
  intro before rest r after split idle
  cases before with
  | nil =>
    obtain ⟨rfl, -⟩ := List.cons.inj split
    exact absurd idle (calm rest r rfl)
  | cons first before =>
    obtain ⟨-, split⟩ := List.cons.inj split
    exact settled before rest r after split idle

theorem answered {rest : Option Fault → Program W} {r : Run W} {events : List (Event W)}
    (settled : Settled events) (head : ∃ later, events = .step (rest none) r :: later) :
    Settled (.step (.next rest) r :: events) := by
  intro before other m after split idle
  cases before with
  | nil =>
    obtain ⟨same, rfl⟩ := List.cons.inj split
    cases same
    exact head
  | cons first before =>
    obtain ⟨-, split⟩ := List.cons.inj split
    exact settled before other m after split idle

theorem append {before later : List (Event W)} (first : Settled before)
    (second : Settled later) : Settled (before ++ later) := by
  intro front rest r after split idle
  rcases List.append_eq_append_iff.mp split with ⟨between, -, split⟩ | ⟨between, same, split⟩
  · exact second between rest r after split idle
  · cases between with
    | nil => exact second [] rest r after split.symm idle
    | cons event between =>
      obtain ⟨rfl, rfl⟩ := List.cons.inj split
      obtain ⟨answered, rfl⟩ := first front rest r between same idle
      exact ⟨answered ++ later, rfl⟩

theorem advance {recorder : Run.Recorder W} (inner : ∀ p r, Settled (recorder p r).events)
    (r : Run W) : Settled (r.recordAdvance recorder).events := by
  rw [Run.recordAdvance]
  split
  · exact nil
  · cases r.ctx.chain[r.call.position + 1]? with
    | none => exact nil
    | some handler => exact cons (by simp) (inner _ _)

theorem start {recorder : Run.Recorder W} (inner : ∀ p r, Settled (recorder p r).events)
    (chain : List (Program W)) (r : Run W) : Settled (r.recordStart recorder chain).events := by
  cases chain with
  | nil => exact nil
  | cons first rest => exact cons (by simp) (inner _ _)

theorem andThen {x : Ending W Unit} {go : Option Fault → Run W → Ending W Unit}
    (first : Settled x.events) (second : ∀ fault r, Settled (go fault r).events) :
    Settled (x.andThen (Program.recordResume go)).events := by
  obtain ⟨events, verdict, r⟩ := x
  cases verdict with
  | returned u => exact first.append (second _ _)
  | failed fault => exact first.append (second _ _)
  | panicked cause => exact first.append nil

theorem record {recorder : Run.Recorder W} (inner : ∀ p r, Settled (recorder p r).events)
    (p : Program W) (r : Run W) : Settled (p.record recorder r).events := by
  induction p generalizing r with
  | done | fail | panic => exact cons (by simp) nil
  | look rest hypothesis => exact cons (by simp) (hypothesis _ _ _)
  | world change rest hypothesis => exact cons (by simp) (hypothesis _ _)
  | envelope change rest hypothesis => exact cons (by simp) (hypothesis _)
  | store change rest hypothesis => exact cons (by simp) (hypothesis _)
  | headers change rest hypothesis => exact cons (by simp) (hypothesis _)
  | write status body rest hypothesis => exact cons (by simp) (hypothesis _ _)
  | sink change rest hypothesis => exact cons (by simp) (hypothesis _)
  | stop rest hypothesis => exact cons (by simp) (hypothesis _)
  | begin request rest hypothesis => exact cons (by simp) (hypothesis _)
  | next rest hypothesis =>
    by_cases idle : r.call.stopped = true ∨ r.ctx.chain.length ≤ r.call.position
    · have answered : (r.recordAdvance recorder) = .silent (.returned (), r) := if_pos idle
      rw [Program.record, answered]
      exact (hypothesis none r).answered (Program.record_head recorder (rest none) r)
    · refine cons ?_ (andThen (advance inner r) hypothesis)
      intro other m same
      cases same
      exact idle
  | run size handler rest _ hypothesis =>
    exact cons (by simp) (andThen (start inner _ r) hypothesis)

theorem recordWithin (depth : Nat) (p : Program W) (r : Run W) :
    Settled (p.recordWithin depth r).events := by
  induction depth generalizing p r with
  | zero => exact cons (by simp) nil
  | succ depth hypothesis => exact record hypothesis p r

end Settled

/-- What a stretch of a run may be like: it holds of each single step and of two stretches that
meet, and then it holds of whole runs. -/
structure Trail (R : Run W → List (Event W) → Run W → Prop) : Prop where
  nil : ∀ r, R r [] r
  append : ∀ {r middle final before later},
    R r before middle → R middle later final → R r (before ++ later) final
  step : ∀ p r, R r [.step p r] (p.touch r)
  cut : ∀ r, R r [.cut r] r
  entered : ∀ index handler r, R r [.entered index handler r] r
  move : ∀ r, R r [] (r.edit fun call => { call with position := call.position + 1 })
  install : ∀ chain r, R r [] (r.install chain)

namespace Trail

variable {R : Run W → List (Event W) → Run W → Prop} (trail : Trail R)

include trail

theorem after {α : Type} {e : Event W} {x : Recorded W (α × Run W)} {r middle : Run W}
    (first : R r [e] middle) (rest : R middle x.events x.result.2) :
    R r (x.after e).events (x.after e).result.2 := trail.append first rest

theorem resume {x : Ending W Unit} {go : Option Fault → Run W → Ending W Unit} {r : Run W}
    (first : R r x.events x.result.2)
    (rest : ∀ fault m, R m (go fault m).events (go fault m).result.2) :
    R r (x.andThen (Program.recordResume go)).events
      (x.andThen (Program.recordResume go)).result.2 := by
  obtain ⟨events, verdict, middle⟩ := x
  cases verdict with
  | returned u => exact trail.append first (rest none middle)
  | failed fault => exact trail.append first (rest (some fault) middle)
  | panicked cause => exact trail.append first (trail.nil middle)

theorem onReturn {α β : Type} {x : Ending W α} {next : α → Run W → Ending W β} {r : Run W}
    (first : R r x.events x.result.2)
    (rest : ∀ a m, R m (next a m).events (next a m).result.2) :
    R r (x.onReturn next).events (x.onReturn next).result.2 := by
  obtain ⟨events, verdict, middle⟩ := x
  cases verdict with
  | returned a => exact trail.append first (rest a middle)
  | failed fault => exact trail.append first (trail.nil middle)
  | panicked cause => exact trail.append first (trail.nil middle)

theorem advance {recorder : Run.Recorder W}
    (inner : ∀ p r, R r (recorder p r).events (recorder p r).result.2) (r : Run W) :
    R r (r.recordAdvance recorder).events (r.recordAdvance recorder).result.2 := by
  rw [Run.recordAdvance]
  split
  · exact trail.nil r
  · cases r.ctx.chain[r.call.position + 1]? with
    | none => exact trail.move r
    | some handler =>
      have begun := trail.append (trail.move r) (trail.entered (r.call.position + 1) handler _)
      exact trail.after begun (inner _ _)

theorem start {recorder : Run.Recorder W}
    (inner : ∀ p r, R r (recorder p r).events (recorder p r).result.2)
    (chain : List (Program W)) (r : Run W) :
    R r (r.recordStart recorder chain).events (r.recordStart recorder chain).result.2 := by
  cases chain with
  | nil => exact trail.install [] r
  | cons first rest =>
    have begun := trail.append (trail.install (first :: rest) r) (trail.entered 0 first _)
    exact trail.after begun (inner _ _)

theorem record {recorder : Run.Recorder W}
    (inner : ∀ p r, R r (recorder p r).events (recorder p r).result.2) (p : Program W)
    (r : Run W) : R r (p.record recorder r).events (p.record recorder r).result.2 := by
  induction p generalizing r with
  | done => exact trail.step .done r
  | fail fault => exact trail.step (.fail fault) r
  | panic cause => exact trail.step (.panic cause) r
  | look rest hypothesis => exact trail.after (trail.step (.look rest) r) (hypothesis _ _ _)
  | world change rest hypothesis =>
    exact trail.after (trail.step (.world change rest) r) (hypothesis _ _)
  | envelope change rest hypothesis =>
    exact trail.after (trail.step (.envelope change rest) r) (hypothesis _)
  | store change rest hypothesis =>
    exact trail.after (trail.step (.store change rest) r) (hypothesis _)
  | headers change rest hypothesis =>
    exact trail.after (trail.step (.headers change rest) r) (hypothesis _)
  | write status body rest hypothesis =>
    exact trail.after (trail.step (.write status body rest) r) (hypothesis _ _)
  | sink change rest hypothesis =>
    exact trail.after (trail.step (.sink change rest) r) (hypothesis _)
  | stop rest hypothesis => exact trail.after (trail.step (.stop rest) r) (hypothesis _)
  | begin request rest hypothesis =>
    exact trail.after (trail.step (.begin request rest) r) (hypothesis _)
  | next rest hypothesis =>
    have nested := trail.resume (trail.advance inner r) fun fault m => hypothesis fault m
    exact trail.after (trail.step (.next rest) r) nested
  | run size handler rest _ hypothesis =>
    have nested := trail.resume (trail.start inner (List.ofFn handler) r) fun fault m =>
      hypothesis fault m
    exact trail.after (trail.step (.run size handler rest) r) nested

theorem recordWithin (depth : Nat) (p : Program W) (r : Run W) :
    R r (p.recordWithin depth r).events (p.recordWithin depth r).result.2 := by
  induction depth generalizing p r with
  | zero => exact trail.cut r
  | succ depth hypothesis => exact trail.record hypothesis p r

theorem recordPerform (p : Program W) (r : Run W) :
    R r (p.recordPerform r).events (p.recordPerform r).result.2 := trail.recordWithin _ p r

theorem recordChain (chain : List (Program W)) (r : Run W) :
    R r (Program.recordChain chain r).events (Program.recordChain chain r).result.2 :=
  trail.start (trail.recordWithin _) chain r

end Trail

end JsonRpc
