import JsonRpc.Proofs.Program.Panic
import JsonRpc.Proofs.Server.Reached
import JsonRpc.Proofs.Server.Response
import JsonRpc.Proofs.Service.Binding

namespace JsonRpc

variable {W : World}

namespace Server

/-- A call reaches binding: its callback is found, and the middleware lets it pass in a run. -/
structure Binds (server : Server W) (s : Surroundings) (request : Http.Request) (world : W)
    (cb : Callback W) (left : Run W) : Prop
    extends server.Passes s (entry s (server.pool.acquire.1.begin request) world) cb left where
  admitted : server.declined? (server.pool.acquire.1.begin request).call = none

variable {server : Server W} {s : Surroundings} {request : Http.Request} {world : W}
variable {cb : Callback W} {left : Run W} {fault : Fault} {cause : Panic}

theorem handle_of_admitted
    (admitted : server.declined? (server.pool.acquire.1.begin request).call = none) :
    server.handle s request world = { server with pool := server.pool.acquire.2 }.conclude s
      (server.dispatch s (entry s (server.pool.acquire.1.begin request) world)) := by
  rw [← recordHandle_result, recordHandle_of_dispatched admitted, Recorded.result_map,
    recordDispatch_result]

theorem answered_of_declined (s : Surroundings) (world : W) {response : Http.Response}
    (declined : server.declined? (server.pool.acquire.1.begin request).call = some response) :
    ∃ answer, (server.handle s request world).1 = .ok answer := by
  rw [handle]
  split
  · exact ⟨_, rfl⟩
  · split
    · exact ⟨_, rfl⟩
    · have here : { server with pool := server.pool.acquire.2 }.declined?
          (server.pool.acquire.1.begin request).call = some response := declined
      simp only [handleContext, here]
      exact ⟨response, rfl⟩

theorem handle_error_iff : (server.handle s request world).1 = .error cause ↔
    server.declined? (server.pool.acquire.1.begin request).call = none ∧
      server.Escapes s (entry s (server.pool.acquire.1.begin request) world) cause := by
  cases declined : server.declined? (server.pool.acquire.1.begin request).call with
  | some response =>
    obtain ⟨answer, answered⟩ := answered_of_declined s world declined
    simp [answered]
  | none =>
    rw [handle_of_admitted declined, conclude_error_iff, dispatch_panicked_iff]
    simp

theorem Binds.refused (binds : server.Binds s request world cb left)
    (unwritten : left.call.sink.written = false)
    (failed : cb.bind left.call.envelope.params = .failed fault) :
    ∃ response, (server.handle s request world).1 = .ok response ∧
      server.Enveloped ((emptied left).call.envelope.setFault fault) left.call.sink.headers
        response := by
  have ended : server.callMethod s cb left = (.failed fault, emptied left) := by
    rw [callMethod, failed]
  rw [handle_of_admitted binds.admitted, binds.dispatch, ended]
  have outcome : outcome? (.failed fault, emptied left) = some
      { (emptied left).call with
        envelope := (emptied left).call.envelope.setFault fault } := rfl
  obtain ⟨response, answered, enveloped⟩ := conclude_of_unwritten outcome unwritten
  -- the pool has no part in the form of a response
  exact ⟨response, answered, enveloped.status, enveloped.headers, enveloped.body⟩

theorem Binds.error_iff (binds : server.Binds s request world cb left) :
    (server.handle s request world).1 = .error cause ↔
      cb.bind left.call.envelope.params = .panicked cause ∨
      ∃ bound final, cb.bind left.call.envelope.params = .returned bound ∧
        cb.steps server.registry.hooks s left.call.envelope.method bound (emptied left) =
          (.panicked (.bomb cause), final) := by
  rw [handle_error_iff]
  constructor
  · rintro ⟨-, escapes⟩
    cases escapes with
    | middleware resolved panicked =>
      obtain ⟨m, found, passed⟩ := binds.passed
      rw [resolved] at found
      cases found
      rw [runMiddleware_eq_panicked.mpr panicked] at passed
      cases passed
    | binding passes panicked =>
      obtain ⟨rfl, rfl⟩ := binds.toPasses.unique passes
      exact .inl panicked
    | invocation passes returned panicked =>
      obtain ⟨rfl, rfl⟩ := binds.toPasses.unique passes
      exact .inr ⟨_, _, returned, panicked⟩
  · rintro (panicked | ⟨bound, final, returned, panicked⟩)
    · exact ⟨binds.admitted, .binding binds.toPasses panicked⟩
    · exact ⟨binds.admitted, .invocation binds.toPasses returned panicked⟩

/-- How a call ends whose arguments cannot be bound. -/
structure Unwinds (server : Server W) (s : Surroundings) (request : Http.Request) (world : W) :
    Prop where
  refused : ∀ cb left fault, server.Binds s request world cb left →
    left.call.sink.written = false → cb.bind left.call.envelope.params = .failed fault →
    fault.code = .badParams ∧ ∃ response, (server.handle s request world).1 = .ok response ∧
      server.Enveloped ((emptied left).call.envelope.setFault fault) left.call.sink.headers response
  /-- No panic that is raised in binding is kept back. -/
  raised : ∀ cb left cause, server.Binds s request world cb left →
    cb.bind left.call.envelope.params = .panicked cause →
    (server.handle s request world).1 = .error cause
  unwound : ∀ cause, (server.handle s request world).1 = .error cause ↔
    server.declined? (server.pool.acquire.1.begin request).call = none ∧
      server.Escapes s (entry s (server.pool.acquire.1.begin request) world) cause
  /-- The code of the argument type alone decides whether one is raised. A panic that comes later has
  been raised by dropping what the invocation panicked with. -/
  broken : ∀ {id : W.ArgType} name leadingScope (param : Param W id) returns body receiver left,
    let cb := Method.callback name leadingScope param returns body receiver
    server.Binds s request world cb left →
    ∀ cause, (server.handle s request world).1 = .error cause ↔
      (∃ args, Positional left.call.envelope.params args ∧ args.length ≤ param.arity ∧
        param.Breaks args cause) ∨
      ∃ bound final, cb.bind left.call.envelope.params = .returned bound ∧
        cb.steps server.registry.hooks s left.call.envelope.method bound (emptied left) =
          (.panicked (.bomb cause), final)
  released : server.declined? (server.pool.acquire.1.begin request).call = none →
    (server.handle s request world).2.1 =
      { server with pool := server.pool.acquire.2.release {} }

/-- A call whose arguments are refused is answered with the fault. A call whose arguments are
neither refused nor read, because the code that reads them panics, is not answered. -/
theorem handle_unwinds (server : Server W) (s : Surroundings) (request : Http.Request)
    (world : W) : server.Unwinds s request world where
  refused := fun cb left fault binds unwritten failed =>
    ⟨Callback.badParams_of_bind failed, binds.refused unwritten failed⟩
  raised := fun cb left cause binds panicked => binds.error_iff.mpr (.inl panicked)
  unwound := fun cause => handle_error_iff
  broken := by
    intro id name leadingScope param returns body receiver left cb binds cause
    rw [← Method.bind_eq_panicked_iff]
    exact binds.error_iff
  released := by
    intro admitted
    rw [handle_of_admitted admitted]
    exact congrArg Prod.fst (conclude_released { server with pool := server.pool.acquire.2 } s _)

/-- Nothing has been written when the zero value is made, and yet there is no response. -/
theorem brittleServer_unwinds :
    ∃ cb left, (brittleServer []).Binds stillness loadRequest untouched cb left ∧
      left.call.sink.written = false ∧
      cb.bind left.call.envelope.params = .panicked (.text "no default") ∧
      ((brittleServer []).handle stillness loadRequest untouched).1 =
        .error (.text "no default") := by
  have unwound : ((brittleServer []).handle stillness loadRequest untouched).1 =
      .error (.text "no default") := by decide +kernel
  obtain ⟨admitted, -⟩ := handle_error_iff.mp unwound
  let r := entry stillness ((brittleServer []).pool.acquire.1.begin loadRequest) untouched
  have live : ((brittleServer []).resolveCall stillness r).2.call.stopped = false := by
    decide +kernel
  have unwritten : ((brittleServer []).resolveCall stillness r).2.call.sink.written = false := by
    decide +kernel
  have breaks : ((brittleServer []).resolveCall stillness r).1.toOption.map (fun cb =>
      (cb.bind ((brittleServer []).resolveCall stillness r).2.call.envelope.params).panic?) =
      some (some (.text "no default")) := by decide +kernel
  rcases resolved : (brittleServer []).resolveCall stillness r with ⟨fault | cb, m⟩
  · rw [resolved] at breaks
    cases breaks
  · rw [resolved] at live unwritten breaks
    -- there is no middleware that could have written
    have binds : (brittleServer []).Binds stillness loadRequest untouched cb m :=
      { passed := ⟨m, resolved, rfl⟩, live, admitted }
    exact ⟨cb, m, binds, unwritten, Verdict.panic?_eq_some.mp (Option.some.inj breaks), unwound⟩

end Server

end JsonRpc
