import JsonRpc.Proofs.Server.Execution
import JsonRpc.Proofs.Service.Binding

namespace JsonRpc

variable {W : World} {id : W.ArgType}

namespace Callback

/-- A method that begins in a run goes as a body does on a value. -/
structure RunsOn {α : Type} (s : Surroundings) (cb : Callback W) (body : Body W α) (a : α)
    (bound : Bound W) (r : Run W) : Prop where
  returned : ∀ outcome, (cb.runMethod s bound r).1 = .returned outcome ↔
    (body r.call.scope s.now a r.world).1 = .ok outcome
  panicked : ∀ cause, (cb.runMethod s bound r).1 = .panicked cause ↔
    (body r.call.scope s.now a r.world).1 = .error cause
  world : (cb.runMethod s bound r).2.world = (body r.call.scope s.now a r.world).2

/-- A method that begins in a run goes as its body does on the value of the arguments in params. -/
def RunsOnParams (s : Surroundings) (cb : Callback W) (param : Param W id)
    (body : Body W (W.Arg id)) (params : Option Json) (bound : Bound W) (r : Run W) : Prop :=
  ∃ args a, Positional params args ∧ param.Reads args a ∧ bound = .of args a ∧
    RunsOn s cb body a bound r

/-- What is so of a callback that has been bound with an argument type and a body. -/
structure Honours (cb : Callback W) (param : Param W id) (body : Body W (W.Arg id)) : Prop where
  arity : cb.arity = if (W.typeName id).isSome then 1 else 0
  returned : ∀ params bound, cb.bind params = .returned bound ↔
    ∃ args a, Positional params args ∧ args.length ≤ cb.arity ∧ param.Reads args a ∧
      bound = .of args a
  refused : ∀ params fault, cb.bind params = .failed fault ↔ param.Refuses params fault
  /-- Nothing but the code of the argument type panics. -/
  panicked : ∀ params cause, cb.bind params = .panicked cause ↔
    ∃ args, Positional params args ∧ args.length ≤ cb.arity ∧ param.Breaks args cause
  settled : param.Calm → ∀ params, (∃ bound, cb.bind params = .returned bound) ∨
    ∃ fault, cb.bind params = .failed fault ∧ fault.code = .badParams
  invoked : ∀ params bound, cb.bind params = .returned bound → ∀ hooks s name r,
    (cb.Approved hooks name bound r →
      methodRuns (cb.recordInvoke hooks s name bound r).events = [(cb, bound)]) ∧
    ∀ other passed m, .method other passed m ∈ (cb.recordInvoke hooks s name bound r).events →
      other = cb ∧ passed = bound ∧ RunsOnParams s cb param body params passed m
  dispatched : ∀ (server : Server W) s r bound m,
    .method cb bound m ∈ (server.recordDispatch s r).events →
      ∃ found, server.resolveCall s r = (.ok cb, found) ∧
        RunsOnParams s cb param body (server.runMiddleware s found).2.call.envelope.params bound m
  handled : ∀ (server : Server W) s request world bound m,
    .method cb bound m ∈ (server.recordHandle s request world).events →
      ∃ found, server.resolveCall s (Server.entry s (server.pool.acquire.1.begin request) world) =
          (.ok cb, found) ∧
        RunsOnParams s cb param body (server.runMiddleware s found).2.call.envelope.params bound m

end Callback

end JsonRpc
