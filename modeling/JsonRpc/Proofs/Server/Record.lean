import JsonRpc.Proofs.Program.Record
import JsonRpc.Server.Basic

namespace JsonRpc

variable {W : World}

theorem Program.perform_done (r : Run W) :
    (Program.done : Program W).perform r = (.returned (), r) := by
  have some_depth : 1 ≤ spareDepth + r.ctx.chain.length := Nat.le_add_right_of_le (by decide)
  obtain ⟨depth, enough⟩ := Nat.exists_eq_add_of_le' some_depth
  rw [perform, enough]
  rfl

theorem Verdict.andThen_assoc {α β γ : Type} (first : α → Run W → Verdict β × Run W)
    (second : β → Run W → Verdict γ × Run W) (ended : Verdict α × Run W) :
    andThen second (andThen first ended) = andThen (fun a r => andThen second (first a r)) ended := by
  obtain ⟨verdict, r⟩ := ended
  cases verdict <;> rfl

theorem Call.markStart_eq (time : Int64) (call : Call) :
    call.markStart time = { call with store := (call.markStart time).store } := by
  unfold markStart
  split <;> rfl

/-- The run behind a piece of code that has changed the world and the store alone. -/
def Run.leaving (r : Run W) (world : W) (store : Store) : Run W :=
  ({ r with world } : Run W).edit fun call => { call with store }

namespace Callback

theorem runMethod_eq (cb : Callback W) (s : Surroundings) (bound : Bound W) (r : Run W) :
    cb.runMethod s bound r =
      match cb.method.call r.call.scope s.now bound.typed r.world with
      | (.error cause, world) =>
        (.panicked cause, r.leaving world (r.call.markStart s.begun).store)
      | (.ok outcome, world) =>
        (.returned outcome,
          r.leaving world ((r.call.markStart s.begun).markEnd s.finished).store) := by
  have started : r.edit (Call.markStart s.begun) =
      r.leaving r.world (r.call.markStart s.begun).store := by
    rw [Run.edit, show r.ctx.call = r.call from rfl, Call.markStart_eq]
    rfl
  rw [runMethod, started]
  rfl

def recordHook (place : HookPlace) (name : String) (raw : List Json) (outcome : Option Outcome)
    (hook : Program W) (r : Run W) : Ending W Unit :=
  (hook.recordPerform r).after (.hook place name raw outcome r)

def recordBefore (hooks : Hooks W) (name : String) (raw : List Json) (r : Run W) :
    Ending W Unit :=
  match hooks.before with
  | some hook => recordHook .registryBefore name raw none (hook name raw) r
  | none => .silent (.returned (), r)

def recordAfter (hooks : Hooks W) (name : String) (raw : List Json) (outcome : Outcome)
    (r : Run W) : Ending W Unit :=
  match hooks.after with
  | some hook => recordHook .registryAfter name raw (some outcome) (hook name raw outcome) r
  | none => .silent (.returned (), r)

def recordMethod (cb : Callback W) (s : Surroundings) (bound : Bound W) (r : Run W) :
    Ending W Outcome :=
  { events := [.method cb bound r], result := cb.runMethod s bound r }

def recordEntry (cb : Callback W) (hooks : Hooks W) (name : String) (bound : Bound W)
    (r : Run W) : Ending W Unit :=
  (recordBefore hooks name bound.raw r).onReturn fun () r =>
  recordHook .serviceBefore name bound.raw none (cb.receiver.beforeCall name bound.raw) r

def recordExit (cb : Callback W) (hooks : Hooks W) (name : String) (bound : Bound W)
    (outcome : Outcome) (r : Run W) : Ending W Json :=
  (recordHook .serviceAfter name bound.raw (some outcome)
    (cb.receiver.afterCall name bound.raw outcome) r).onReturn fun () r =>
  (recordAfter hooks name bound.raw outcome r).onReturn fun () r =>
  .silent (outcome.verdict, r)

def recordSteps (cb : Callback W) (hooks : Hooks W) (s : Surroundings) (name : String)
    (bound : Bound W) (r : Run W) : Ending W Json :=
  (cb.recordEntry hooks name bound r).onReturn fun () r =>
  (cb.recordMethod s bound r).onReturn fun outcome r =>
  cb.recordExit hooks name bound outcome r

def recordInvoke (cb : Callback W) (hooks : Hooks W) (s : Surroundings) (name : String)
    (bound : Bound W) (r : Run W) : Ending W Json :=
  (cb.recordSteps hooks s name bound r).map fun ended => (ended.1.contain name s.trace, ended.2)

theorem recordHook_result (place : HookPlace) (name : String) (raw : List Json)
    (outcome : Option Outcome) (hook : Program W) (r : Run W) :
    (recordHook place name raw outcome hook r).result = hook.perform r := by
  rw [recordHook, Recorded.result_after, Program.recordPerform_result]

theorem recordBefore_result (hooks : Hooks W) (name : String) (raw : List Json) (r : Run W) :
    (recordBefore hooks name raw r).result = (hookBefore hooks name raw).perform r := by
  cases before : hooks.before with
  | none => simp only [recordBefore, hookBefore, before, Program.perform_done]; rfl
  | some hook => simp only [recordBefore, hookBefore, before, recordHook_result]

theorem recordAfter_result (hooks : Hooks W) (name : String) (raw : List Json)
    (outcome : Outcome) (r : Run W) :
    (recordAfter hooks name raw outcome r).result =
      (hookAfter hooks name raw outcome).perform r := by
  cases after : hooks.after with
  | none => simp only [recordAfter, hookAfter, after, Program.perform_done]; rfl
  | some hook => simp only [recordAfter, hookAfter, after, recordHook_result]

theorem recordEntry_result (cb : Callback W) (hooks : Hooks W) (name : String) (bound : Bound W)
    (r : Run W) :
    (cb.recordEntry hooks name bound r).result =
      Verdict.andThen (fun () r => (cb.receiver.beforeCall name bound.raw).perform r)
        ((hookBefore hooks name bound.raw).perform r) := by
  rw [recordEntry, Recorded.onReturn_result, recordBefore_result]
  simp only [recordHook_result]

theorem recordExit_result (cb : Callback W) (hooks : Hooks W) (name : String) (bound : Bound W)
    (outcome : Outcome) (r : Run W) :
    (cb.recordExit hooks name bound outcome r).result =
      Verdict.andThen (fun () r =>
        Verdict.andThen (fun () r => (outcome.verdict, r))
        ((hookAfter hooks name bound.raw outcome).perform r))
      ((cb.receiver.afterCall name bound.raw outcome).perform r) := by
  simp only [recordExit, Recorded.onReturn_result, recordHook_result, recordAfter_result,
    Recorded.result_silent]

theorem recordSteps_result (cb : Callback W) (hooks : Hooks W) (s : Surroundings) (name : String)
    (bound : Bound W) (r : Run W) :
    (cb.recordSteps hooks s name bound r).result = cb.steps hooks s name bound r := by
  simp only [recordSteps, Recorded.onReturn_result, recordEntry_result, recordExit_result,
    recordMethod, Verdict.andThen_assoc, steps]

theorem recordInvoke_result (cb : Callback W) (hooks : Hooks W) (s : Surroundings) (name : String)
    (bound : Bound W) (r : Run W) :
    (cb.recordInvoke hooks s name bound r).result = cb.invoke hooks s name bound r := by
  have ended := recordSteps_result cb hooks s name bound r
  rw [recordInvoke, Recorded.result_map, ended]
  unfold invoke
  generalize cb.steps hooks s name bound r = ended
  rfl

end Callback

namespace Server

def recordMiddleware (server : Server W) (s : Surroundings) (r : Run W) :
    Ending W Unit :=
  if server.middleware.isEmpty then .silent (.returned (), r)
  else
    (Program.recordChain (server.middleware.map (·.handler)) r).map fun ended =>
      (ended.1.contain r.call.envelope.method s.trace, ended.2)

def recordCall (server : Server W) (s : Surroundings) (cb : Callback W) (r : Run W) :
    Ending W Unit :=
  match cb.bind r.call.envelope.params with
  | .failed fault => .silent (.failed fault, emptied r)
  | .panicked cause => .silent (.panicked cause, emptied r)
  | .returned bound =>
    (cb.recordInvoke server.registry.hooks s r.call.envelope.method bound (emptied r)).map settle

def recordPassed (server : Server W) (s : Surroundings) (cb : Callback W) :
    Verdict Unit × Run W → Ending W Unit
  | (.failed fault, r) => .silent (.failed fault, r)
  | (.panicked cause, r) => .silent (.panicked cause, r)
  | (.returned (), r) =>
    if r.call.stopped then .silent (.returned (), r) else server.recordCall s cb r

def recordDispatch (server : Server W) (s : Surroundings) (r : Run W) : Ending W Unit :=
  match server.resolveCall s r with
  | (.error fault, r) => .silent (.failed fault, r)
  | (.ok cb, r) => (server.recordMiddleware s r).andThen (server.recordPassed s cb)

def recordContext (server : Server W) (s : Surroundings) (ctx : Context W) (world : W) :
    Recorded W (Answer × Server W × W) :=
  match server.declined? ctx.call with
  | some _ => .silent (server.handleContext s ctx world)
  | none => (server.recordDispatch s (entry s ctx world)).map (server.conclude s)

def recordHandle (server : Server W) (s : Surroundings) (request : Http.Request) (world : W) :
    Recorded W (Answer × Server W × W) :=
  if Admission.isProbe request then .silent (.ok (Http.bare 200), server, world)
  else if !server.running then .silent (.ok (Http.bare 503), server, world)
  else
    let (ctx, pool) := server.pool.acquire
    { server with pool }.recordContext s (ctx.begin request) world

theorem recordMiddleware_result (server : Server W) (s : Surroundings) (r : Run W) :
    (server.recordMiddleware s r).result = server.runMiddleware s r := by
  simp only [recordMiddleware, runMiddleware]
  split
  · rfl
  · rw [Recorded.result_map, Program.recordChain_result]

theorem recordCall_result (server : Server W) (s : Surroundings) (cb : Callback W) (r : Run W) :
    (server.recordCall s cb r).result = server.callMethod s cb r := by
  rw [recordCall, callMethod]
  cases cb.bind r.call.envelope.params with
  | failed fault => rfl
  | panicked cause => rfl
  | returned bound => rw [Recorded.result_map, Callback.recordInvoke_result]

theorem recordDispatch_result (server : Server W) (s : Surroundings) (r : Run W) :
    (server.recordDispatch s r).result = server.dispatch s r := by
  simp only [recordDispatch, dispatch]
  rcases server.resolveCall s r with ⟨fault | cb, r⟩
  · rfl
  · simp only [Recorded.result_andThen, recordMiddleware_result]
    rcases server.runMiddleware s r with ⟨⟨⟩ | fault | cause, r⟩
    rotate_left
    · rfl
    · rfl
    · simp only [recordPassed, Verdict.andThen]
      split
      · rfl
      · exact recordCall_result server s cb r

theorem recordContext_result (server : Server W) (s : Surroundings) (ctx : Context W)
    (world : W) :
    (server.recordContext s ctx world).result = server.handleContext s ctx world := by
  simp only [recordContext]
  cases declined : server.declined? ctx.call with
  | some response => rfl
  | none =>
    simp only [Recorded.result_map, recordDispatch_result, handleContext, declined]

theorem recordHandle_result (server : Server W) (s : Surroundings) (request : Http.Request)
    (world : W) :
    (server.recordHandle s request world).result = server.handle s request world := by
  rw [recordHandle, handle]
  split
  · rfl
  · split
    · rfl
    · exact recordContext_result _ s _ world

end Server

/-- What a stretch of a call may be like behind the resolution of its callback. Besides running
programs, a call begins its hooks and its method, takes the params out and puts the result in. -/
structure Passage (s : Surroundings) (R : Run W → List (Event W) → Run W → Prop) : Prop
    extends Trail R where
  hook : ∀ place name args outcome r, R r [.hook place name args outcome r] r
  method : ∀ cb bound r, R r [.method cb bound r] (cb.runMethod s bound r).2
  emptied : ∀ r, R r [] (Server.emptied r)
  settled : ∀ value r,
    R r [] (r.edit fun call => { call with envelope := call.envelope.setResult value })

namespace Passage

variable {s : Surroundings} {R : Run W → List (Event W) → Run W → Prop} (passage : Passage s R)

include passage

theorem recordHook (place : HookPlace) (name : String) (raw : List Json)
    (outcome : Option Outcome) (hook : Program W) (r : Run W) :
    R r (Callback.recordHook place name raw outcome hook r).events
      (Callback.recordHook place name raw outcome hook r).result.2 :=
  passage.after (passage.hook place name raw outcome r) (passage.recordPerform hook r)

theorem recordEntry (cb : Callback W) (hooks : Hooks W) (name : String) (bound : Bound W)
    (r : Run W) :
    R r (cb.recordEntry hooks name bound r).events
      (cb.recordEntry hooks name bound r).result.2 := by
  have before : R r (Callback.recordBefore hooks name bound.raw r).events
      (Callback.recordBefore hooks name bound.raw r).result.2 := by
    rw [Callback.recordBefore]
    cases hooks.before with
    | none => exact passage.nil r
    | some hook => exact passage.recordHook _ name bound.raw none (hook name bound.raw) r
  exact passage.onReturn before fun u m => passage.recordHook _ name bound.raw none _ m

theorem recordExit (cb : Callback W) (hooks : Hooks W) (name : String) (bound : Bound W)
    (outcome : Outcome) (r : Run W) :
    R r (cb.recordExit hooks name bound outcome r).events
      (cb.recordExit hooks name bound outcome r).result.2 := by
  refine passage.onReturn (passage.recordHook _ name bound.raw (some outcome) _ r) fun u m => ?_
  have after : R m (Callback.recordAfter hooks name bound.raw outcome m).events
      (Callback.recordAfter hooks name bound.raw outcome m).result.2 := by
    rw [Callback.recordAfter]
    cases hooks.after with
    | none => exact passage.nil m
    | some hook =>
      exact passage.recordHook _ name bound.raw (some outcome) (hook name bound.raw outcome) m
  exact passage.onReturn after fun u final => passage.nil final

theorem recordInvoke (cb : Callback W) (hooks : Hooks W) (name : String)
    (bound : Bound W) (r : Run W) :
    R r (cb.recordInvoke hooks s name bound r).events
      (cb.recordInvoke hooks s name bound r).result.2 := by
  refine passage.onReturn (passage.recordEntry cb hooks name bound r) fun u m => ?_
  have called : R m (cb.recordMethod s bound m).events (cb.recordMethod s bound m).result.2 :=
    passage.method cb bound m
  exact passage.onReturn called fun outcome final =>
    passage.recordExit cb hooks name bound outcome final

theorem recordMiddleware (server : Server W) (r : Run W) :
    R r (server.recordMiddleware s r).events (server.recordMiddleware s r).result.2 := by
  rw [Server.recordMiddleware]
  split
  · exact passage.nil r
  · exact passage.recordChain _ r

theorem recordCall (server : Server W) (cb : Callback W) (r : Run W) :
    R r (server.recordCall s cb r).events (server.recordCall s cb r).result.2 := by
  rw [Server.recordCall]
  cases cb.bind r.call.envelope.params with
  | failed fault => exact passage.emptied r
  | panicked cause => exact passage.emptied r
  | returned bound =>
    have invoked := passage.append (passage.emptied r)
      (passage.recordInvoke cb server.registry.hooks r.call.envelope.method bound _)
    simp only [Recorded.events_map, Recorded.result_map]
    generalize cb.recordInvoke server.registry.hooks s _ bound _ = ended at invoked
    obtain ⟨events, value | fault | cause, m⟩ := ended
    rotate_left
    · exact invoked
    · exact invoked
    · have whole := passage.append invoked (passage.settled value m)
      rw [List.nil_append, List.append_nil] at whole
      exact whole

theorem recordPassed (server : Server W) (cb : Callback W)
    (passed : Verdict Unit × Run W) :
    R passed.2 (server.recordPassed s cb passed).events
      (server.recordPassed s cb passed).result.2 := by
  obtain ⟨⟨⟩ | fault | cause, left⟩ := passed
  rotate_left
  · exact passage.nil left
  · exact passage.nil left
  · rw [Server.recordPassed]
    split
    · exact passage.nil left
    · exact passage.recordCall server cb left

theorem recordDispatch (server : Server W) (r : Run W) :
    R (server.resolveCall s r).2 (server.recordDispatch s r).events
      (server.recordDispatch s r).result.2 := by
  rw [Server.recordDispatch]
  rcases server.resolveCall s r with ⟨fault | cb, m⟩
  · exact passage.nil m
  · exact passage.append (passage.recordMiddleware server m) (passage.recordPassed server cb _)

end Passage

/-- The events lead from one state of what `view` shows of a run to another. Each of them meets the
state that those before it have left, and leaves what `turn` makes of it. -/
def Replays {α : Type} (view : Run W → α) (turn : α → Event W → α) : α → List (Event W) → α → Prop
  | a, [], final => final = a
  | a, e :: events, final => view e.run = a ∧ Replays view turn (turn a e) events final

theorem replays_append {α : Type} {view : Run W → α} {turn : α → Event W → α} {a final : α}
    {before later : List (Event W)} :
    Replays view turn a (before ++ later) final ↔
      ∃ middle, Replays view turn a before middle ∧ Replays view turn middle later final := by
  induction before generalizing a with
  | nil => simp [Replays]
  | cons e before hypothesis =>
    simp only [List.cons_append, Replays, hypothesis]
    constructor
    · rintro ⟨met, middle, first, second⟩
      exact ⟨middle, ⟨met, first⟩, second⟩
    · rintro ⟨middle, ⟨met, first⟩, second⟩
      exact ⟨met, middle, first, second⟩

theorem Pool.release_eq (pool : Pool W) (ctx : Context W) : pool.release ctx = pool.release {} := by
  rw [Pool.release, Pool.release, Context.reset_eq, Context.reset_eq]

theorem Server.conclude_released (server : Server W) (s : Surroundings)
    (ended : Verdict Unit × Run W) : (server.conclude s ended).2 =
      ({ server with pool := server.pool.release {} }, ended.2.world) := by
  obtain ⟨verdict, r⟩ := ended
  cases verdict with
  | returned u => rw [conclude, finish, Pool.release_eq]; rfl
  | failed fault => rw [conclude, finish, Pool.release_eq]; rfl
  | panicked cause => rw [conclude, Pool.release_eq]

end JsonRpc
