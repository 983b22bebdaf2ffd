import JsonRpc.Proofs.Program.Chain
import JsonRpc.Proofs.Server.Answer
import JsonRpc.Proofs.Server.Record

namespace JsonRpc

variable {W : World}

namespace Event

/-- An event of a program, not the beginning of a hook or of a method. -/
def isInner : Event W → Bool
  | .hook _ _ _ _ _ | .method _ _ _ => false
  | .step _ _ | .entered _ _ _ | .cut _ => true

def method? : Event W → Option (Callback W × Bound W)
  | .method cb bound _ => some (cb, bound)
  | _ => none

def told? : Event W → Option (String × List Json)
  | .hook _ name args _ _ => some (name, args)
  | _ => none

/-- What an event makes of the world. A method that begins is one run of its code. -/
def work (s : Surroundings) (world : W) : Event W → W
  | .step (.world change _) _ => change world
  | .method cb bound r => (cb.method.call r.call.scope s.now bound.typed world).2
  | _ => world

theorem method?_of_inner {e : Event W} (inner : e.isInner = true) : e.method? = none := by
  cases e <;> first | rfl | cases inner

theorem told?_of_inner {e : Event W} (inner : e.isInner = true) : e.told? = none := by
  cases e <;> first | rfl | cases inner

end Event

def methodRuns (events : List (Event W)) : List (Callback W × Bound W) :=
  events.filterMap Event.method?

def hookCalls (events : List (Event W)) : List (String × List Json) :=
  events.filterMap Event.told?

theorem methodRuns_append (before later : List (Event W)) :
    methodRuns (before ++ later) = methodRuns before ++ methodRuns later := List.filterMap_append

theorem methodRuns_eq_nil {events : List (Event W)} (none_runs : ∀ e ∈ events, e.method? = none) :
    methodRuns events = [] := List.filterMap_eq_nil_iff.mpr none_runs

theorem Passage.works (s : Surroundings) : Passage s fun (r : Run W) events final =>
    Replays Run.world (Event.work s) r.world events final.world where
  nil _ := rfl
  append first second := replays_append.mpr ⟨_, first, second⟩
  step p _ := by cases p <;> exact ⟨rfl, rfl⟩
  cut _ := ⟨rfl, rfl⟩
  entered _ _ _ := ⟨rfl, rfl⟩
  move _ := rfl
  install _ _ := rfl
  hook _ _ _ _ _ := ⟨rfl, rfl⟩
  method := by
    intro cb bound r
    refine ⟨rfl, ?_⟩
    rw [Callback.runMethod_eq, Event.work]
    rcases cb.method.call r.call.scope s.now bound.typed r.world with ⟨cause | outcome, world⟩
    · rfl
    · rfl
  emptied _ := rfl
  settled _ _ := rfl

theorem Trail.inner :
    Trail fun (_ : Run W) (events : List (Event W)) _ => ∀ e ∈ events, e.isInner = true where
  nil := by simp
  append := by
    intro r middle final before later first second e member
    rcases List.mem_append.mp member with early | late
    · exact first e early
    · exact second e late
  step := by simp [Event.isInner]
  cut := by simp [Event.isInner]
  entered := by simp [Event.isInner]
  move := by simp
  install := by simp

theorem Recorded.mem_onReturn {α β : Type} {Q : Event W → Prop} {x : Ending W α}
    {next : α → Run W → Ending W β} (first : ∀ e ∈ x.events, Q e)
    (rest : ∀ a r, ∀ e ∈ (next a r).events, Q e) : ∀ e ∈ (x.onReturn next).events, Q e := by
  obtain ⟨events, verdict, r⟩ := x
  intro e member
  rcases List.mem_append.mp member with early | late
  · exact first e early
  · cases verdict with
    | returned a => exact rest a r e late
    | failed fault => cases late
    | panicked cause => cases late

namespace Callback

variable {cb : Callback W} {hooks : Hooks W} {s : Surroundings} {name : String} {bound : Bound W}

def Approved (cb : Callback W) (hooks : Hooks W) (name : String) (bound : Bound W)
    (r : Run W) : Prop :=
  ∃ passed entered, (hookBefore hooks name bound.raw).perform r = (.returned (), passed) ∧
    (cb.receiver.beforeCall name bound.raw).perform passed = (.returned (), entered)

theorem approved_iff (r : Run W) : cb.Approved hooks name bound r ↔
    ∃ entered, (cb.recordEntry hooks name bound r).result = (.returned (), entered) := by
  rw [recordEntry_result]
  constructor
  · rintro ⟨passed, entered, first, second⟩
    refine ⟨entered, ?_⟩
    rw [first]
    exact second
  · rintro ⟨entered, whole⟩
    revert whole
    rcases before : (hookBefore hooks name bound.raw).perform r with ⟨⟨⟩ | fault | cause, passed⟩
    · intro second
      exact ⟨passed, entered, before, second⟩
    · intro absurd_end
      cases absurd_end
    · intro absurd_end
      cases absurd_end

theorem mem_recordHook {place : HookPlace} {raw : List Json} {outcome : Option Outcome}
    {hook : Program W} {r : Run W} {e : Event W}
    (member : e ∈ (recordHook place name raw outcome hook r).events) :
    e.method? = none ∧ ∀ told, e.told? = some told → told = (name, raw) := by
  rw [recordHook, Recorded.events_after, List.mem_cons] at member
  rcases member with rfl | member
  · refine ⟨rfl, fun told same => ?_⟩
    exact (Option.some.inj same).symm
  · have inner := Trail.inner.recordPerform hook r e member
    refine ⟨Event.method?_of_inner inner, fun told same => ?_⟩
    rw [Event.told?_of_inner inner] at same
    cases same

theorem mem_recordEntry {r : Run W} : ∀ e ∈ (cb.recordEntry hooks name bound r).events,
    e.method? = none ∧ ∀ told, e.told? = some told → told = (name, bound.raw) := by
  refine Recorded.mem_onReturn (fun e member => ?_) fun u m e member => mem_recordHook member
  rw [recordBefore] at member
  split at member
  · exact mem_recordHook member
  · cases member

theorem mem_recordExit {outcome : Outcome} {r : Run W} :
    ∀ e ∈ (cb.recordExit hooks name bound outcome r).events,
      e.method? = none ∧ ∀ told, e.told? = some told → told = (name, bound.raw) := by
  refine Recorded.mem_onReturn (fun e member => mem_recordHook member) fun u m => ?_
  refine Recorded.mem_onReturn (fun e member => ?_) fun u m e member => by cases member
  rw [recordAfter] at member
  split at member
  · exact mem_recordHook member
  · cases member

theorem told_recordInvoke {r : Run W} :
    ∀ e ∈ (cb.recordInvoke hooks s name bound r).events,
      ∀ told, e.told? = some told → told = (name, bound.raw) := by
  rw [recordInvoke, Recorded.events_map]
  refine Recorded.mem_onReturn (fun e member => (mem_recordEntry e member).2) fun u m => ?_
  refine Recorded.mem_onReturn (fun e member => ?_) fun outcome m e member =>
    (mem_recordExit e member).2
  obtain rfl := List.mem_singleton.mp member
  intro told same
  cases same

theorem methodRuns_of_approved {r : Run W} (approved : cb.Approved hooks name bound r) :
    methodRuns (cb.recordInvoke hooks s name bound r).events = [(cb, bound)] := by
  obtain ⟨entered, passed⟩ := (approved_iff r).mp approved
  have before : methodRuns (cb.recordEntry hooks name bound r).events = [] :=
    methodRuns_eq_nil fun e member => (mem_recordEntry e member).1
  have start : methodRuns (cb.recordMethod s bound entered).events = [(cb, bound)] := rfl
  rw [recordInvoke, Recorded.events_map, recordSteps, Recorded.events_of_return passed,
    methodRuns_append, before, List.nil_append]
  by_cases ended : ∃ outcome m, (cb.recordMethod s bound entered).result = (.returned outcome, m)
  · obtain ⟨outcome, m, ended⟩ := ended
    have after : methodRuns (cb.recordExit hooks name bound outcome m).events = [] :=
      methodRuns_eq_nil fun e member => (mem_recordExit e member).1
    rw [Recorded.events_of_return ended, methodRuns_append, start, after, List.append_nil]
  · rw [Recorded.events_of_no_return fun outcome m same => ended ⟨outcome, m, same⟩, start]

theorem methodRuns_of_not_approved {r : Run W} (refused : ¬ cb.Approved hooks name bound r) :
    methodRuns (cb.recordInvoke hooks s name bound r).events = [] := by
  have ended : ∀ u m, (cb.recordEntry hooks name bound r).result ≠ (.returned u, m) :=
    fun u m passed => refused ((approved_iff r).mpr ⟨m, passed⟩)
  rw [recordInvoke, Recorded.events_map, recordSteps, Recorded.events_of_no_return ended]
  exact methodRuns_eq_nil fun e member => (mem_recordEntry e member).1

/-- The callback with its own hooks told a name, whatever the name of the call. -/
def told (cb : Callback W) (name : String) : Callback W :=
  { cb with
    receiver :=
      { cb.receiver with
        beforeCall := fun _ raw => cb.receiver.beforeCall name raw
        afterCall := fun _ raw outcome => cb.receiver.afterCall name raw outcome } }

end Callback

def Hooks.told (hooks : Hooks W) (name : String) : Hooks W where
  before := hooks.before.map fun hook _ raw => hook name raw
  after := hooks.after.map fun hook _ raw outcome => hook name raw outcome

theorem Callback.steps_told (cb : Callback W) (hooks : Hooks W) (s : Surroundings)
    (name other : String) (bound : Bound W) (r : Run W) :
    (cb.told name).steps (hooks.told name) s other bound r = cb.steps hooks s name bound r := by
  obtain ⟨before, after⟩ := hooks
  cases before <;> cases after <;> rfl

namespace Server

/-- What has to be so behind the middleware for the method to run with some arguments. -/
structure Reaches (server : Server W) (cb : Callback W) (passed : Verdict Unit × Run W)
    (bound : Bound W) : Prop where
  returned : passed.1 = .returned ()
  live : passed.2.call.stopped = false
  binds : cb.bind passed.2.call.envelope.params = .returned bound
  approved : cb.Approved server.registry.hooks passed.2.call.envelope.method bound
    (emptied passed.2)

variable {server : Server W} {s : Surroundings} {cb : Callback W}

theorem recordPassed_of_live {r : Run W} (live : r.call.stopped = false) :
    server.recordPassed s cb (.returned (), r) = server.recordCall s cb r := by
  rw [recordPassed, if_neg (by simp [live])]

theorem recordCall_of_bound {r : Run W} {bound : Bound W}
    (binds : cb.bind r.call.envelope.params = .returned bound) :
    server.recordCall s cb r =
      (cb.recordInvoke server.registry.hooks s r.call.envelope.method bound (emptied r)).map
        settle := by
  rw [recordCall, binds]

theorem methodRuns_of_reaches {passed : Verdict Unit × Run W} {bound : Bound W}
    (reaches : server.Reaches cb passed bound) :
    methodRuns (server.recordPassed s cb passed).events = [(cb, bound)] := by
  obtain ⟨returned, r⟩ := passed
  obtain rfl := reaches.returned
  rw [recordPassed_of_live reaches.live, recordCall_of_bound reaches.binds, Recorded.events_map]
  exact Callback.methodRuns_of_approved reaches.approved

theorem methodRuns_of_not_reaches {passed : Verdict Unit × Run W}
    (refused : ∀ bound, ¬ server.Reaches cb passed bound) :
    methodRuns (server.recordPassed s cb passed).events = [] := by
  obtain ⟨⟨⟩ | fault | cause, r⟩ := passed
  rotate_left
  · rfl
  · rfl
  · by_cases stopped : r.call.stopped = true
    · rw [recordPassed, if_pos stopped]
      rfl
    · have live : r.call.stopped = false := by simpa using stopped
      rw [recordPassed_of_live live]
      cases binds : cb.bind r.call.envelope.params with
      | failed fault => rw [recordCall, binds]; rfl
      | panicked cause => rw [recordCall, binds]; rfl
      | returned bound =>
        rw [recordCall_of_bound binds, Recorded.events_map]
        exact Callback.methodRuns_of_not_approved fun approved =>
          refused bound ⟨rfl, live, binds, approved⟩

theorem methodRuns_recordPassed_once (passed : Verdict Unit × Run W) :
    methodRuns (server.recordPassed s cb passed).events = [] ∨
      ∃ bound, methodRuns (server.recordPassed s cb passed).events = [(cb, bound)] := by
  by_cases reached : ∃ bound, server.Reaches cb passed bound
  · obtain ⟨bound, reaches⟩ := reached
    exact .inr ⟨bound, methodRuns_of_reaches reaches⟩
  · exact .inl (methodRuns_of_not_reaches fun bound reaches => reached ⟨bound, reaches⟩)

theorem methodRuns_recordPassed_iff {passed : Verdict Unit × Run W} {bound : Bound W} :
    methodRuns (server.recordPassed s cb passed).events = [(cb, bound)] ↔
      server.Reaches cb passed bound := by
  refine ⟨fun ran => ?_, methodRuns_of_reaches⟩
  by_cases reached : ∃ other, server.Reaches cb passed other
  · obtain ⟨other, reaches⟩ := reached
    rw [methodRuns_of_reaches reaches] at ran
    obtain ⟨-, rfl⟩ := Prod.mk.inj (List.cons.inj ran).1
    exact reaches
  · have none_runs : methodRuns (server.recordPassed s cb passed).events = [] :=
      methodRuns_of_not_reaches fun other reaches => reached ⟨other, reaches⟩
    rw [none_runs] at ran
    cases ran

theorem told_recordPassed {passed : Verdict Unit × Run W} :
    ∀ e ∈ (server.recordPassed s cb passed).events, ∀ told, e.told? = some told →
      ∃ bound, cb.bind passed.2.call.envelope.params = .returned bound ∧
        told = (passed.2.call.envelope.method, bound.raw) := by
  obtain ⟨⟨⟩ | fault | cause, r⟩ := passed
  rotate_left
  · intro e member
    cases member
  · intro e member
    cases member
  · intro e member told same
    by_cases stopped : r.call.stopped = true
    · rw [recordPassed, if_pos stopped] at member
      cases member
    · rw [recordPassed_of_live (by simpa using stopped)] at member
      cases binds : cb.bind r.call.envelope.params with
      | failed fault => rw [recordCall, binds] at member; cases member
      | panicked cause => rw [recordCall, binds] at member; cases member
      | returned bound =>
        rw [recordCall_of_bound binds, Recorded.events_map] at member
        exact ⟨bound, rfl, Callback.told_recordInvoke e member told same⟩

theorem inner_recordMiddleware {r : Run W} :
    ∀ e ∈ (server.recordMiddleware s r).events, e.isInner = true := by
  rw [recordMiddleware]
  split
  · intro e member
    cases member
  · exact Trail.inner.recordChain _ r

theorem stopped_recordMiddleware (plain : ∀ m ∈ server.middleware, m.handler.Plain) {r : Run W}
    {rest : Program W} {m : Run W}
    (stops : Event.step (.stop rest) m ∈ (server.recordMiddleware s r).events) :
    (server.recordMiddleware s r).result.2.call.stopped = true := by
  rw [recordMiddleware] at stops ⊢
  split at stops
  · cases stops
  · rename_i some_middleware
    have handlers : ∀ p ∈ server.middleware.map (·.handler), p.Plain := by
      intro p member
      obtain ⟨m, installed, rfl⟩ := List.mem_map.mp member
      exact plain m installed
    have stop_taken : (Program.recordChain (server.middleware.map (·.handler)) r).events.any
        Event.isStop = true := List.any_eq_true.mpr ⟨_, stops, rfl⟩
    rw [if_neg some_middleware, Recorded.result_map, Program.recordChain_stopped handlers,
      stop_taken, Bool.or_true]

theorem resolveCall_inbound {r m : Run W} (resolved : server.resolveCall s r = (.ok cb, m)) :
    ∃ body e, server.openBody r.call.request.body = .ok body ∧ Envelope.parse body = .ok e ∧
      server.registry.normalizeMethod e.method = .ok m.call.envelope.method ∧
      server.registry.resolve m.call.envelope.method = .ok cb := by
  rw [resolveCall] at resolved
  cases opened : server.openBody r.call.request.body with
  | error fault => simp [opened] at resolved
  | ok body =>
    cases parsed : Envelope.parse body with
    | error fault => simp [opened, parsed] at resolved
    | ok e =>
      simp only [opened, parsed] at resolved
      split at resolved
      · cases resolved
      · split at resolved
        · cases resolved
        · rename_i method normalized
          obtain ⟨found, rfl⟩ := Prod.mk.inj resolved
          exact ⟨body, e, rfl, parsed, normalized, found⟩

theorem resolveCall_apart (r : Run W) :
    (server.resolveCall s r).2.world = r.world ∧
      (server.resolveCall s r).2.call.sink = r.call.sink := by
  simp only [resolveCall]
  split
  · exact ⟨rfl, rfl⟩
  · split
    · exact ⟨rfl, rfl⟩
    · split
      · exact ⟨rfl, rfl⟩
      · split
        · exact ⟨rfl, rfl⟩
        · exact ⟨rfl, rfl⟩

theorem works_recordContext {ctx : Context W} {world : W}
    (admitted : server.declined? ctx.call = none) :
    Replays Run.world (Event.work s) world (server.recordContext s ctx world).events
      (server.handleContext s ctx world).2.2 := by
  have works := (Passage.works s).recordDispatch server (entry s ctx world)
  rw [(resolveCall_apart _).1] at works
  rw [← recordContext_result, recordContext, admitted, Recorded.events_map, Recorded.result_map,
    conclude_released]
  exact works

theorem recordContext_events {ctx : Context W} {world : W} {r : Run W}
    (admitted : server.declined? ctx.call = none)
    (resolved : server.resolveCall s (entry s ctx world) = (.ok cb, r)) :
    (server.recordContext s ctx world).events = (server.recordMiddleware s r).events ++
      (server.recordPassed s cb (server.runMiddleware s r)).events := by
  rw [recordContext, admitted, Recorded.events_map, recordDispatch, resolved,
    Recorded.events_andThen, recordMiddleware_result]

theorem dispatch_of_resolved {r m : Run W} (resolved : server.resolveCall s r = (.ok cb, m)) :
    server.dispatch s r = (server.recordPassed s cb (server.runMiddleware s m)).result := by
  rw [← recordDispatch_result, recordDispatch, resolved, Recorded.result_andThen,
    recordMiddleware_result]

theorem methodRuns_recordContext {ctx : Context W} {world : W} {r : Run W}
    (admitted : server.declined? ctx.call = none)
    (resolved : server.resolveCall s (entry s ctx world) = (.ok cb, r)) :
    methodRuns (server.recordContext s ctx world).events =
      methodRuns (server.recordPassed s cb (server.runMiddleware s r)).events := by
  have silent : methodRuns (server.recordMiddleware s r).events = [] :=
    methodRuns_eq_nil fun e member => Event.method?_of_inner (inner_recordMiddleware e member)
  rw [recordContext_events admitted resolved, methodRuns_append, silent, List.nil_append]

theorem told_recordContext {ctx : Context W} {world : W} {r : Run W}
    (admitted : server.declined? ctx.call = none)
    (resolved : server.resolveCall s (entry s ctx world) = (.ok cb, r)) :
    ∀ call ∈ hookCalls (server.recordContext s ctx world).events, ∃ bound,
      cb.bind (server.runMiddleware s r).2.call.envelope.params = .returned bound ∧
      call = ((server.runMiddleware s r).2.call.envelope.method, bound.raw) := by
  intro call member
  obtain ⟨e, happened, same⟩ := List.mem_filterMap.mp member
  rw [recordContext_events admitted resolved, List.mem_append] at happened
  rcases happened with early | late
  · rw [Event.told?_of_inner (inner_recordMiddleware e early)] at same
    cases same
  · exact told_recordPassed e late call same

theorem reaches_of_method {r : Run W} {e : Event W} {bound : Bound W}
    (runs : e.method? = some (cb, bound)) (member : e ∈ (server.recordDispatch s r).events) :
    ∃ m, server.resolveCall s r = (.ok cb, m) ∧
      server.Reaches cb (server.runMiddleware s m) bound := by
  rcases resolved : server.resolveCall s r with ⟨fault | found, m⟩
  · rw [recordDispatch, resolved] at member
    cases member
  · rw [recordDispatch, resolved] at member
    rcases List.mem_append.mp member with early | late
    · rw [Event.method?_of_inner (inner_recordMiddleware e early)] at runs
      cases runs
    · rw [recordMiddleware_result] at late
      have ran : (cb, bound) ∈ methodRuns
          (server.recordPassed s found (server.runMiddleware s m)).events :=
        List.mem_filterMap.mpr ⟨e, late, runs⟩
      rcases methodRuns_recordPassed_once (server.runMiddleware s m) with silent | ⟨other, once⟩
      · rw [silent] at ran
        cases ran
      · rw [once, List.mem_singleton] at ran
        cases ran
        exact ⟨m, rfl, methodRuns_recordPassed_iff.mp once⟩

theorem reaches_of_handled {request : Http.Request} {world : W} {e : Event W} {bound : Bound W}
    (runs : e.method? = some (cb, bound))
    (member : e ∈ (server.recordHandle s request world).events) :
    ∃ m, server.resolveCall s (entry s (server.pool.acquire.1.begin request) world) = (.ok cb, m) ∧
      server.Reaches cb (server.runMiddleware s m) bound := by
  rw [recordHandle] at member
  split at member
  · cases member
  · split at member
    · cases member
    · dsimp only [recordContext] at member
      split at member
      · cases member
      · rw [Recorded.events_map] at member
        -- the pool has no part in what follows
        obtain ⟨m, resolved, reaches⟩ := reaches_of_method runs member
        exact ⟨m, resolved, reaches.returned, reaches.live, reaches.binds, reaches.approved⟩

theorem recordPassed_told {r : Run W} {bound : Bound W} (live : r.call.stopped = false)
    (binds : cb.bind r.call.envelope.params = .returned bound) (other : String) :
    let name := r.call.envelope.method
    let ended := (cb.told name).steps (server.registry.hooks.told name) s other bound (emptied r)
    (server.recordPassed s cb (.returned (), r)).result =
      settle (ended.1.contain name s.trace, ended.2) := by
  intro name ended
  have steps : ended = cb.steps server.registry.hooks s name bound (emptied r) :=
    Callback.steps_told cb server.registry.hooks s name other bound (emptied r)
  rw [recordPassed_of_live live, recordCall_of_bound binds, Recorded.result_map,
    Callback.recordInvoke_result, Callback.invoke, steps]

/-- What is so of every call whose callback has been resolved in a run `r`. The middleware leaves
the run `left`. -/
structure Executes (server : Server W) (s : Surroundings) (ctx : Context W) (world : W)
    (cb : Callback W) (r : Run W) (left : Verdict Unit × Run W)
    (events : List (Event W)) : Prop where
  inbound : ∃ body e, server.openBody ctx.call.request.body = .ok body ∧
    Envelope.parse body = .ok e ∧
    server.registry.normalizeMethod e.method = .ok r.call.envelope.method ∧
    server.registry.resolve r.call.envelope.method = .ok cb
  /-- The method begins at most once, and where it does its code runs a single time. -/
  once : methodRuns events = [] ∨ ∃ bound, methodRuns events = [(cb, bound)]
  worked : Replays Run.world (Event.work s) world events (server.handleContext s ctx world).2.2
  runs_iff : ∀ bound, methodRuns events = [(cb, bound)] ↔ server.Reaches cb left bound
  halted : (∀ m ∈ server.middleware, m.handler.Plain) → ∀ rest m,
    .step (.stop rest) m ∈ (server.recordMiddleware s r).events → methodRuns events = []
  told : ∀ call ∈ hookCalls events, ∃ bound,
    cb.bind left.2.call.envelope.params = .returned bound ∧
    call = (left.2.call.envelope.method, bound.raw)
  /-- The name that the middleware leaves reaches the hooks and the fault of a panic, and nothing
  else: the steps are those under any other name, with hooks that are told this one. -/
  named : ∀ bound other, left.1 = .returned () → left.2.call.stopped = false →
    cb.bind left.2.call.envelope.params = .returned bound →
    let name := left.2.call.envelope.method
    let ended := (cb.told name).steps (server.registry.hooks.told name) s other bound
      (emptied left.2)
    server.dispatch s (entry s ctx world) = settle (ended.1.contain name s.trace, ended.2)
  answered : left.1 = .returned () → left.2.call.stopped = true →
    ∃ response, (server.handleContext s ctx world).1 = .ok response ∧
      (left.2.call.sink.written = true → response = left.2.call.sink.take.1) ∧
      (left.2.call.sink.written = false →
        server.Enveloped left.2.call.envelope left.2.call.sink.headers response)

/-- The method of a call runs at most once, and exactly when the middleware lets it. -/
theorem handleContext_executes (server : Server W) (s : Surroundings) (ctx : Context W) (world : W)
    (cb : Callback W) (r : Run W) (admitted : server.declined? ctx.call = none)
    (resolved : server.resolveCall s (entry s ctx world) = (.ok cb, r)) :
    (server.recordContext s ctx world).result = server.handleContext s ctx world ∧
      server.Executes s ctx world cb r (server.runMiddleware s r)
        (server.recordContext s ctx world).events := by
  refine ⟨recordContext_result server s ctx world, ?_⟩
  have runs := methodRuns_recordContext admitted resolved
  have told := told_recordContext admitted resolved
  have ended := dispatch_of_resolved resolved
  generalize passed_eq : server.runMiddleware s r = left at runs told ended
  refine
    { inbound := resolveCall_inbound resolved
      once := ?_, worked := works_recordContext admitted, runs_iff := ?_, halted := ?_, told
      named := ?_, answered := ?_ }
  · rw [runs]
    exact methodRuns_recordPassed_once left
  · intro bound
    rw [runs]
    exact methodRuns_recordPassed_iff
  · intro plain rest m stops
    have stopped := stopped_recordMiddleware plain stops
    rw [recordMiddleware_result, passed_eq] at stopped
    rw [runs]
    refine methodRuns_of_not_reaches fun bound reaches => ?_
    have live := reaches.live
    rw [stopped] at live
    cases live
  · intro bound other returned live binds name steps
    obtain ⟨verdict, after⟩ := left
    obtain rfl : verdict = .returned () := returned
    rw [ended]
    exact recordPassed_told live binds other
  · intro returned stopped
    obtain ⟨verdict, after⟩ := left
    obtain rfl : verdict = .returned () := returned
    have halted : server.dispatch s (entry s ctx world) = (.returned (), after) := by
      rw [ended, recordPassed, if_pos stopped]
      rfl
    have outcome : outcome? (server.dispatch s (entry s ctx world)) = some after.call := by
      rw [halted]
      rfl
    rw [handleContext_answer admitted]
    refine ⟨_, conclude_answer outcome, fun written => ?_, fun unwritten => ?_⟩
    · rw [writeEnvelope_of_written written]
    · exact writeEnvelope_of_unwritten unwritten

end Server

inductive ArgKind where
  | nothing
  | number
  | text
  | config
deriving DecidableEq

/-- A world that counts the runs of methods. -/
abbrev tallied : World where
  State := Nat
  ArgType := ArgKind
  Arg
    | .nothing | .config => Unit
    | .number => Int
    | .text => String
  typeName
    | .nothing => none
    | .number => some "i64"
    | .text => some "String"
    | .config => some "Config"

def untouched : tallied := 0

namespace Server

def noArgument : Param tallied .nothing := .ofCodec .unit ()

def fallMethod : Method tallied :=
  Method.of "fall" false noArgument .nothing fun _ _ _ runs =>
    (.error (.text "kaboom"), runs + 1)

def fallService : Service tallied where
  typeName := "Demo"
  ownNamespace := fun world => (.ok none, world)
  construct := fun world => (.ok (), world)
  methods := fun world => (.ok [fallMethod], world)
  excluded := fun world => (.ok [], world)
  beforeCall := fun _ _ => .done
  afterCall := fun _ _ _ => .done

def fallServer (middleware : List (Middleware tallied)) : Server tallied :=
  let methods := [("fall", { method := fallMethod, receiver := fallService })]
  ofRegistry
    { services := [("demo", { receiver := fallService, methods })], style := .verbatim, middleware }
    {}

def burstMethod : Method tallied :=
  { fallMethod with call := fun _ _ _ runs => (.error (.bomb (.text "dropped")), runs + 1) }

def burstServer : Server tallied :=
  let methods := [("fall", { method := burstMethod, receiver := fallService })]
  ofRegistry
    { services := [("demo", { receiver := fallService, methods })], style := .verbatim } {}

def fallRequest : Http.Request :=
  { method := "POST", body := asciiBytes "\x7b\"id\":7,\"method\":\"demo.fall\"\x7d" }

def fallResponse (name : String) : Http.Response where
  status := 200
  headers :=
    [("x-content-type-options", asciiBytes "nosniff"),
      ("content-type", asciiBytes "application/json; charset=utf-8")]
  body := asciiBytes "\x7b\"id\":7,\"jsonrpc\":\"2.0\",\"error\":\x7b\"code\":-32603,\"message\":\""
    ++ asciiBytes (name ++ ": kaboom\",\"data\":\"\"\x7d\x7d")

def relabel : Middleware tallied :=
  { name := "relabel", handler := .envelope (fun e => { e with method := "other.name" }) .done }

/-- An argument type that has no zero value. -/
def brittleParam : Param tallied .config :=
  { decode := fun _ => .ok (.ok ()), zero := .error (.text "no default") }

def brittleServer (middleware : List (Middleware tallied)) : Server tallied :=
  let load := Method.of "load" false brittleParam .nothing fun _ _ _ runs => (.ok .empty, runs + 1)
  let methods := [("load", { method := load, receiver := fallService })]
  ofRegistry
    { services := [("demo", { receiver := fallService, methods })], style := .verbatim, middleware }
    {}

def loadRequest : Http.Request :=
  { method := "POST", body := asciiBytes "\x7b\"id\":7,\"method\":\"demo.load\"\x7d" }

def stillness : Surroundings where
  received := 0
  begun := 0
  finished := 0
  now := 0
  trace := ""
  iv := ⟨⟨0, 0, 0, 0⟩, ⟨0, 0, 0, 0⟩, ⟨0, 0, 0, 0⟩, ⟨0, 0, 0, 0⟩⟩

/-- The name of the call is another one when its method runs, and it is the method found before
that runs, once. -/
theorem handleContext_executes_relabeled :
    let server := fallServer [relabel]
    let ctx : Context tallied := Context.begin {} fallRequest
    let events := (server.recordContext stillness ctx untouched).events
    ∃ cb r, server.declined? ctx.call = none ∧
      server.resolveCall stillness (entry stillness ctx untouched) = (.ok cb, r) ∧
      (methodRuns events).map (fun run => run.1.name) = ["fall"] ∧
      (server.handleContext stillness ctx untouched).2.2 = 1 ∧
      (server.recordContext stillness ctx untouched).result =
        server.handleContext stillness ctx untouched ∧
      server.Executes stillness ctx untouched cb r (server.runMiddleware stillness r) events := by
  intro server ctx events
  have admitted : server.declined? ctx.call = none := by decide +kernel
  have found : (server.resolveCall stillness (entry stillness ctx untouched)).1.toOption.map
      Callback.name = some "fall" := by decide +kernel
  have ran : (methodRuns events).map (fun run => run.1.name) = ["fall"] := by decide +kernel
  have counted : (server.handleContext stillness ctx untouched).2.2 = 1 := by decide +kernel
  rcases resolved : server.resolveCall stillness (entry stillness ctx untouched) with ⟨fault | cb, r⟩
  · rw [resolved] at found
    cases found
  · exact ⟨cb, r, admitted, rfl, ran, counted,
      handleContext_executes server stillness ctx untouched cb r admitted resolved⟩

/-- No hook is told the other name here, and yet the answer is another one: the fault of the panic
states the name. -/
theorem handle_ne_of_relabel :
    (fallServer [relabel]).registry.hooks.before = none ∧
      (fallServer [relabel]).registry.hooks.after = none ∧
      (∀ name raw, fallService.beforeCall name raw = .done) ∧
      (∀ name raw outcome, fallService.afterCall name raw outcome = .done) ∧
      ((fallServer [relabel]).handle stillness fallRequest untouched).1 ≠
        ((fallServer []).handle stillness fallRequest untouched).1 := by
  refine ⟨rfl, rfl, fun _ _ => rfl, fun _ _ _ => rfl, fun same => ?_⟩
  have bodies := congrArg (fun answer : Answer => answer.toOption.map Http.Response.body) same
  revert bodies
  decide +kernel

end Server

end JsonRpc
