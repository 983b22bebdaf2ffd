import JsonRpc.Registry
import JsonRpc.Cipher.Block

namespace JsonRpc

/-- What one call finds around it: readings of the clock, in nanoseconds, when the call is taken
up, when its method begins and when its method has ended; the reading that scopes are compared
with; the trace of a panic; and the random block that seals the answer. -/
structure Surroundings where
  received : Int64
  begun : Int64
  finished : Int64
  now : Nat
  trace : String
  iv : Block

def Verdict.andThen {W : World} {α β : Type} (next : α → Run W → Verdict β × Run W) :
    Verdict α × Run W → Verdict β × Run W
  | (.returned a, r) => next a r
  | (.failed fault, r) => (.failed fault, r)
  | (.panicked cause, r) => (.panicked cause, r)

def Outcome.verdict (outcome : Outcome) : Verdict Json :=
  match outcome.result with
  | .ok value => .returned value
  | .error fault => .failed fault

namespace Call

def markStart (time : Int64) (call : Call) : Call :=
  if call.store.contains startKey then call
  else { call with store := call.store.insert startKey (.ofInt64 time) }

/-- Marks the end and the time used since the start, in 64-bit arithmetic. A start that is no
signed 64-bit number counts as the end. -/
def markEnd (time : Int64) (call : Call) : Call :=
  let start := (call.store.int? startKey).getD time
  let ended := call.store.insert endKey (.ofInt64 time)
  { call with store := ended.insert usedKey (.ofInt64 (time - start)) }

end Call

namespace Callback

variable {W : World}

def hookBefore (hooks : Hooks W) (name : String) (raw : List Json) : Program W :=
  match hooks.before with
  | some hook => hook name raw
  | none => .done

def hookAfter (hooks : Hooks W) (name : String) (raw : List Json) (outcome : Outcome) :
    Program W :=
  match hooks.after with
  | some hook => hook name raw outcome
  | none => .done

/-- Runs the method of this callback on bound arguments, whichever callback has bound them. -/
def runMethod (cb : Callback W) (s : Surroundings) (bound : Bound W) (r : Run W) :
    Verdict Outcome × Run W :=
  let started := r.edit (Call.markStart s.begun)
  match cb.method.call started.call.scope s.now bound.typed started.world with
  | (.error cause, world) => (.panicked cause, { started with world })
  | (.ok outcome, world) =>
    (.returned outcome, ({ started with world } : Run W).edit (Call.markEnd s.finished))

/-- The steps of an invocation in their order. A fault of a hook ends it; a fault of the method is
its outcome, which the hooks after it see. -/
def steps (cb : Callback W) (hooks : Hooks W) (s : Surroundings) (name : String)
    (bound : Bound W) (r : Run W) : Verdict Json × Run W :=
  (hookBefore hooks name bound.raw).perform r |> Verdict.andThen fun () r =>
  (cb.receiver.beforeCall name bound.raw).perform r |> Verdict.andThen fun () r =>
  cb.runMethod s bound r |> Verdict.andThen fun outcome r =>
  (cb.receiver.afterCall name bound.raw outcome).perform r |> Verdict.andThen fun () r =>
  (hookAfter hooks name bound.raw outcome).perform r |> Verdict.andThen fun () r =>
  (outcome.verdict, r)

/-- Invokes a method under the name that its hooks are told, and contains its panics. -/
def invoke (cb : Callback W) (hooks : Hooks W) (s : Surroundings) (name : String)
    (bound : Bound W) (r : Run W) : Verdict Json × Run W :=
  let (verdict, r) := cb.steps hooks s name bound r
  (verdict.contain name s.trace, r)

end Callback

end JsonRpc
