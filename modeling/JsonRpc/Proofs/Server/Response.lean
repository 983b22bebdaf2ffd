import JsonRpc.Proofs.Json.Grammar
import JsonRpc.Proofs.Server.Edits
import JsonRpc.Proofs.Server.Execution

namespace JsonRpc

variable {W : World}

def Event.writes : Event W → Bool
  | .step (.write _ _ _) _ | .step (.sink _ _) _ => true
  | _ => false

/-- Nothing is written behind a stretch that was not written before it, unless it writes. -/
def Unwriting (r : Run W) (events : List (Event W)) (final : Run W) : Prop :=
  (∀ e ∈ events, e.writes = false) → r.call.sink.written = false → final.call.sink.written = false

theorem Unwriting.step (p : Program W) (r : Run W) : Unwriting r [.step p r] (p.touch r) := by
  intro none_writes unwritten
  have unwriting : (Event.step p r).writes = false := none_writes _ (List.mem_singleton.mpr rfl)
  cases p with
  | write status body rest => cases unwriting
  | sink change rest => cases unwriting
  | begin request rest => rfl
  | _ => exact unwritten

theorem Passage.unwriting (s : Surroundings) : Passage s (Unwriting (W := W)) where
  nil _ _ unwritten := unwritten
  append := by
    intro r middle final before later first second none_writes unwritten
    have early := first (fun e member => none_writes e (List.mem_append_left _ member)) unwritten
    exact second (fun e member => none_writes e (List.mem_append_right _ member)) early
  step := Unwriting.step
  cut _ _ unwritten := unwritten
  entered _ _ _ _ unwritten := unwritten
  move _ _ unwritten := unwritten
  install _ _ _ unwritten := unwritten
  hook _ _ _ _ _ _ unwritten := unwritten
  method := by
    intro cb bound r _ unwritten
    obtain ⟨store, left⟩ := cb.runMethod_call s bound r
    rw [left]
    exact unwritten
  emptied _ _ unwritten := unwritten
  settled _ _ _ unwritten := unwritten

namespace Server

variable {server : Server W} {s : Surroundings}

theorem unwritten_of_admitted {ctx : Context W} (admitted : server.declined? ctx.call = none) :
    ctx.call.sink.written = false := by
  unfold declined? at admitted
  split at admitted
  · cases admitted
  · split at admitted
    · cases admitted
    · split at admitted
      · cases admitted
      · rename_i unwritten
        simpa using unwritten

theorem normalize_keys (e : Envelope) :
    e.normalize.members.map (·.1) = ["id", "jsonrpc", "result"] ∨
      e.normalize.members.map (·.1) = ["id", "jsonrpc", "error"] := by
  obtain ⟨id, version, method, params, result, error⟩ := e
  cases error with
  | none => exact .inl rfl
  | some fault => exact .inr rfl

theorem normalize_states_version (e : Envelope) :
    ("jsonrpc", .string "2.0") ∈ e.normalize.members :=
  List.mem_cons_of_mem _ (List.mem_cons_self ..)

/-- A response in the form of an envelope. Its body, opened where bodies are sealed, is the text of
an object that has these members and no others. -/
structure WellFormed (server : Server W) (response : Http.Response) : Prop where
  status : response.status = 200
  type : response.headers.values "content-type" = [server.envelopeType]
  body : ∃ members text, server.openBody response.body = .ok (Utf8.encodeChars text) ∧
    Json.ObjectText (Json.memberTexts members) text ∧
    (members.map (·.1) = ["id", "jsonrpc", "result"] ∨
      members.map (·.1) = ["id", "jsonrpc", "error"]) ∧
    ("jsonrpc", .string "2.0") ∈ members

theorem Enveloped.wellFormed {e : Envelope} {headers : Http.Headers} {response : Http.Response}
    (enveloped : server.Enveloped e headers response) : server.WellFormed response where
  status := enveloped.status
  type := by rw [enveloped.headers, Http.Headers.values_insert_self]
  body := ⟨e.normalize.members, (Json.object e.normalize.members).write, enveloped.body,
    Json.write_object _, normalize_keys e, normalize_states_version e⟩

/-- The callback of a call is found, and the middleware lets the call pass in a run. -/
structure Passes (server : Server W) (s : Surroundings) (r : Run W) (cb : Callback W)
    (left : Run W) : Prop where
  passed : ∃ m, server.resolveCall s r = (.ok cb, m) ∧
    server.runMiddleware s m = (.returned (), left)
  live : left.call.stopped = false

/-- How a panic gets out of a call. Binding is not guarded. The middleware and the invocation are,
and only a panic that is raised by dropping another one gets out of them. -/
inductive Escapes (server : Server W) (s : Surroundings) (r : Run W) : Panic → Prop
  | middleware {cb : Callback W} {m left : Run W} {raised : Panic}
    (resolved : server.resolveCall s r = (.ok cb, m))
    (panicked : Program.performChain (server.middleware.map (·.handler)) m =
      (.panicked (.bomb raised), left)) : Escapes server s r raised
  | binding {cb : Callback W} {left : Run W} {cause : Panic} (passes : server.Passes s r cb left)
    (panicked : cb.bind left.call.envelope.params = .panicked cause) : Escapes server s r cause
  | invocation {cb : Callback W} {left final : Run W} {bound : Bound W} {raised : Panic}
    (passes : server.Passes s r cb left)
    (binds : cb.bind left.call.envelope.params = .returned bound)
    (panicked : cb.steps server.registry.hooks s left.call.envelope.method bound (emptied left) =
      (.panicked (.bomb raised), final)) : Escapes server s r raised

theorem runMiddleware_eq_panicked {m left : Run W} {raised : Panic} :
    server.runMiddleware s m = (.panicked raised, left) ↔
      Program.performChain (server.middleware.map (·.handler)) m =
        (.panicked (.bomb raised), left) := by
  rw [runMiddleware]
  split
  · rename_i bare
    have none_runs : server.middleware = [] := List.isEmpty_iff.mp bare
    have silent : Program.performChain (server.middleware.map (·.handler)) m =
        (.returned (), m.install []) := by rw [none_runs]; rfl
    rw [silent]
    simp
  · generalize Program.performChain (server.middleware.map (·.handler)) m = ended
    obtain ⟨verdict, final⟩ := ended
    simp [Verdict.contain_eq_panicked]

theorem invoke_eq_panicked {cb : Callback W} {hooks : Hooks W} {name : String} {bound : Bound W}
    {m final : Run W} {raised : Panic} :
    cb.invoke hooks s name bound m = (.panicked raised, final) ↔
      cb.steps hooks s name bound m = (.panicked (.bomb raised), final) := by
  rw [Callback.invoke]
  rcases cb.steps hooks s name bound m with ⟨verdict, left⟩
  simp [Verdict.contain_eq_panicked]

theorem settle_eq_panicked {ended : Verdict Json × Run W} {cause : Panic} {final : Run W} :
    settle ended = (.panicked cause, final) ↔ ended = (.panicked cause, final) := by
  obtain ⟨verdict, m⟩ := ended
  cases verdict <;> simp [settle, Verdict.andThen]

theorem Passes.unique {r left right : Run W} {cb other : Callback W}
    (passes : server.Passes s r cb left) (again : server.Passes s r other right) :
    other = cb ∧ right = left := by
  obtain ⟨m, resolved, passed⟩ := passes.passed
  obtain ⟨n, found, also⟩ := again.passed
  rw [resolved] at found
  cases found
  rw [passed] at also
  cases also
  exact ⟨rfl, rfl⟩

theorem Passes.dispatch {r left : Run W} {cb : Callback W} (passes : server.Passes s r cb left) :
    server.dispatch s r = server.callMethod s cb left := by
  obtain ⟨m, resolved, passed⟩ := passes.passed
  rw [Server.dispatch, resolved]
  simp only [passed, Verdict.andThen, passes.live, Bool.false_eq_true, if_false]

theorem dispatch_panicked_iff {r : Run W} {cause : Panic} :
    (server.dispatch s r).1 = .panicked cause ↔ server.Escapes s r cause := by
  constructor
  · intro panicked
    rcases resolved : server.resolveCall s r with ⟨fault | cb, m⟩
    · simp [dispatch, resolved] at panicked
    · rcases passed : server.runMiddleware s m with ⟨⟨⟩ | fault | other, left⟩
      · by_cases stopped : left.call.stopped = true
        · simp [dispatch, resolved, passed, Verdict.andThen, stopped] at panicked
        · have passes : server.Passes s r cb left :=
            ⟨⟨m, resolved, passed⟩, by simpa using stopped⟩
          rw [passes.dispatch, callMethod] at panicked
          cases binds : cb.bind left.call.envelope.params with
          | failed fault => simp [binds] at panicked
          | panicked other =>
            obtain rfl : other = cause := by simpa [binds] using panicked
            exact .binding passes binds
          | returned bound =>
            simp only [binds] at panicked
            have settled := settle_eq_panicked.mp (Prod.ext panicked rfl)
            exact .invocation passes binds (invoke_eq_panicked.mp settled)
      · simp [dispatch, resolved, passed, Verdict.andThen] at panicked
      · obtain rfl : other = cause := by
          simpa [dispatch, resolved, passed, Verdict.andThen] using panicked
        exact .middleware resolved (runMiddleware_eq_panicked.mp passed)
  · intro escapes
    cases escapes with
    | middleware resolved panicked =>
      rw [dispatch, resolved]
      simp only [runMiddleware_eq_panicked.mpr panicked, Verdict.andThen]
    | binding passes panicked => rw [passes.dispatch, callMethod, panicked]
    | invocation passes binds panicked =>
      rw [passes.dispatch, callMethod, binds]
      simp only [invoke_eq_panicked.mpr panicked]
      rfl

theorem conclude_error_iff {ended : Verdict Unit × Run W} {cause : Panic} :
    (server.conclude s ended).1 = .error cause ↔ ended.1 = .panicked cause := by
  obtain ⟨⟨⟩ | fault | other, final⟩ := ended
  · simp [conclude, finish]
  · simp [conclude, finish]
  · simp [conclude]

theorem handleContext_error_iff {ctx : Context W} {world : W}
    (admitted : server.declined? ctx.call = none) (cause : Panic) :
    (server.handleContext s ctx world).1 = .error cause ↔
      server.Escapes s (entry s ctx world) cause := by
  rw [handleContext_answer admitted, conclude_error_iff, dispatch_panicked_iff]

theorem unwritten_dispatch {ctx : Context W} {world : W}
    (admitted : server.declined? ctx.call = none)
    (unwriting : ∀ e ∈ (server.recordContext s ctx world).events, e.writes = false) :
    (server.dispatch s (entry s ctx world)).2.call.sink.written = false := by
  have events : (server.recordContext s ctx world).events =
      (server.recordDispatch s (entry s ctx world)).events := by
    rw [recordContext, admitted, Recorded.events_map]
  have begun : (server.resolveCall s (entry s ctx world)).2.call.sink.written = false := by
    have unwritten : ctx.call.sink.written = false := unwritten_of_admitted admitted
    rw [(resolveCall_apart _).2]
    exact unwritten
  rw [events] at unwriting
  rw [← recordDispatch_result]
  exact (Passage.unwriting s).recordDispatch server (entry s ctx world) unwriting begun

/-- A dispatched call in which no code writes the sink has a well-formed answer, unless a panic gets
out of it. -/
theorem handleContext_wellFormed (server : Server W) (s : Surroundings) (ctx : Context W)
    (world : W) (admitted : server.declined? ctx.call = none)
    (unwriting : ∀ e ∈ (server.recordContext s ctx world).events, e.writes = false) :
    (server.recordContext s ctx world).result = server.handleContext s ctx world ∧
      (∀ cause, (server.handleContext s ctx world).1 = .error cause ↔
        server.Escapes s (entry s ctx world) cause) ∧
      ((∀ cause, ¬ server.Escapes s (entry s ctx world) cause) →
        ∃ response, (server.handleContext s ctx world).1 = .ok response ∧
          server.WellFormed response) := by
  refine ⟨recordContext_result server s ctx world, handleContext_error_iff admitted, fun kept => ?_⟩
  have unwritten := unwritten_dispatch admitted unwriting
  have unwinds : ∀ cause, (server.handleContext s ctx world).1 = .error cause →
      server.Escapes s (entry s ctx world) cause :=
    fun cause => (handleContext_error_iff admitted cause).mp
  rw [handleContext_answer admitted] at unwinds ⊢
  rcases ended : server.dispatch s (entry s ctx world) with ⟨⟨⟩ | fault | cause, final⟩
  · have outcome : outcome? (.returned (), final) = some final.call := rfl
    rw [ended] at unwritten
    obtain ⟨response, answered, enveloped⟩ := conclude_of_unwritten outcome unwritten
    exact ⟨response, answered, enveloped.wellFormed⟩
  · have outcome : outcome? (.failed fault, final) =
        some { final.call with envelope := final.call.envelope.setFault fault } := rfl
    rw [ended] at unwritten
    obtain ⟨response, answered, enveloped⟩ := conclude_of_unwritten outcome unwritten
    exact ⟨response, answered, enveloped.wellFormed⟩
  · rw [ended] at unwinds
    exact absurd (unwinds cause rfl) (kept cause)

theorem handleContext_wellFormed_fall :
    let server := fallServer [relabel]
    let ctx : Context tallied := Context.begin {} fallRequest
    server.declined? ctx.call = none ∧
      (∀ e ∈ (server.recordContext stillness ctx untouched).events, e.writes = false) ∧
      (∀ cause, ¬ server.Escapes stillness (entry stillness ctx untouched) cause) ∧
      (server.handleContext stillness ctx untouched).1 = .ok (fallResponse "other.name") ∧
      server.WellFormed (fallResponse "other.name") := by
  intro server ctx
  have admitted : server.declined? ctx.call = none := by decide +kernel
  have all_quiet : (server.recordContext stillness ctx untouched).events.all
      (fun e => !e.writes) = true := by decide +kernel
  have unwriting : ∀ e ∈ (server.recordContext stillness ctx untouched).events,
      e.writes = false := by
    intro e member
    simpa using List.all_eq_true.mp all_quiet e member
  have answered : (server.handleContext stillness ctx untouched).1 =
      .ok (fallResponse "other.name") := by decide +kernel
  obtain ⟨-, unwinds, wellFormed⟩ :=
    handleContext_wellFormed server stillness ctx untouched admitted unwriting
  have kept : ∀ cause, ¬ server.Escapes stillness (entry stillness ctx untouched) cause := by
    intro cause escapes
    exact absurd (answered.symm.trans ((unwinds cause).mpr escapes)) nofun
  obtain ⟨response, same, whole⟩ := wellFormed kept
  rw [answered] at same
  exact ⟨admitted, unwriting, kept, answered, Except.ok.inj same ▸ whole⟩

/-- The argument type has no zero value, and the call has no response. -/
theorem handleContext_unanswered :
    let server := brittleServer []
    let ctx : Context tallied := Context.begin {} loadRequest
    server.declined? ctx.call = none ∧
      (server.recordContext stillness ctx untouched).events.length = 0 ∧
      (server.handleContext stillness ctx untouched).1 = .error (.text "no default") := by
  decide +kernel

end Server

end JsonRpc
