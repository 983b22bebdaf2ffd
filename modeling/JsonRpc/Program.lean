import JsonRpc.Call.Basic

namespace JsonRpc

/-- What code panics with: a text, a value of another type, or a value that raises another panic when
it is dropped. -/
inductive Panic where
  | text (text : String)
  | value
  | bomb (raised : Panic)
deriving DecidableEq

namespace Panic

instance : Inhabited Panic := ⟨.value⟩

def message : Panic → String
  | .text message => message
  | .value | .bomb _ => "unknown panic"

def raised? : Panic → Option Panic
  | .bomb raised => some raised
  | .text _ | .value => none

def fault (cause : Panic) (method trace : String) : Fault :=
  (Fault.internal s!"{method}: {cause.message}").withData (.string trace)

end Panic

/-- What code lives in: the state that it may change, and the types that the arguments of its methods
may be of. Each type has an identity; one without a name stands for no argument. -/
structure World where
  State : Type
  ArgType : Type
  [sameType : DecidableEq ArgType]
  Arg : ArgType → Type
  typeName : ArgType → Option String

attribute [instance] World.sameType

instance : CoeSort World Type := ⟨World.State⟩

inductive Verdict (α : Type) where
  | returned (a : α)
  | failed (fault : Fault)
  | panicked (cause : Panic)
deriving DecidableEq

abbrev Effect (W : World) (α : Type) := W → Except Panic α × W

/-- Code over a world `W`. Each step is followed by a program, which may depend on what the step
answers: the call and the clock for `look`, the world before the change for `world`, whether
anything was written for `write`, and the fault if there was one for `next` and `run`. -/
inductive Program (W : World) : Type where
  | done
  | fail (fault : Fault)
  | panic (cause : Panic)
  | look (rest : Call → Nat → Program W)
  | world (change : W → W) (rest : W → Program W)
  | envelope (change : Envelope → Envelope) (rest : Program W)
  | store (change : Store → Store) (rest : Program W)
  | headers (change : Http.Headers → Http.Headers) (rest : Program W)
  | write (status : Nat) (body : Bytes) (rest : Bool → Program W)
  | sink (change : Http.Sink → Http.Sink) (rest : Program W)
  | stop (rest : Program W)
  | begin (request : Http.Request) (rest : Program W)
  | next (rest : Option Fault → Program W)
  | run (size : Nat) (handler : Fin size → Program W) (rest : Option Fault → Program W)

instance (W : World) : Inhabited (Program W) := ⟨.done⟩

structure Context (W : World) where
  call : Call := {}
  chain : List (Program W) := []

namespace Context

variable {W : World}

def begin (ctx : Context W) (request : Http.Request) : Context W :=
  { ctx with call := ctx.call.begin request }

def reset (ctx : Context W) : Context W := { call := ctx.call.reset, chain := [] }

@[simp] theorem reset_eq (ctx : Context W) : ctx.reset = {} := rfl

end Context

/-- What a program runs on: a context, a world, and the reading of the clock. -/
structure Run (W : World) where
  ctx : Context W
  world : W
  now : Nat

namespace Run

variable {W : World}

def call (r : Run W) : Call := r.ctx.call

def edit (change : Call → Call) (r : Run W) : Run W :=
  { r with ctx := { r.ctx with call := change r.ctx.call } }

abbrev Enter (W : World) := Program W → Run W → Verdict Unit × Run W

/-- Hands the call on to the next handler. Nothing happens once the call is stopped or the chain is
exhausted. -/
def advance (enter : Enter W) (r : Run W) : Verdict Unit × Run W :=
  if r.call.stopped ∨ r.ctx.chain.length ≤ r.call.position then (.returned (), r)
  else
    let moved := r.edit fun call => { call with position := call.position + 1 }
    match r.ctx.chain[r.call.position + 1]? with
    | some handler => enter handler moved
    | none => (.returned (), moved)

def install (chain : List (Program W)) (r : Run W) : Run W :=
  { r with ctx := { call := { r.ctx.call with position := 0 }, chain } }

def start (enter : Enter W) (chain : List (Program W)) (r : Run W) : Verdict Unit × Run W :=
  match chain with
  | [] => (.returned (), r.install [])
  | first :: _ => enter first (r.install chain)

end Run

namespace Program

variable {W : World}

/-- Goes on after a nested run: its fault is an answer, its panic ends the program. -/
def resume (go : Option Fault → Run W → Verdict Unit × Run W) :
    Verdict Unit × Run W → Verdict Unit × Run W
  | (.returned (), r) => go none r
  | (.failed fault, r) => go (some fault) r
  | (.panicked cause, r) => (.panicked cause, r)

def exec (enter : Run.Enter W) : Program W → Run W → Verdict Unit × Run W
  | .done, r => (.returned (), r)
  | .fail fault, r => (.failed fault, r)
  | .panic cause, r => (.panicked cause, r)
  | .look rest, r => (rest r.call r.now).exec enter r
  | .world change rest, r => (rest r.world).exec enter { r with world := change r.world }
  | .envelope change rest, r =>
    rest.exec enter (r.edit fun call => { call with envelope := change call.envelope })
  | .store change rest, r =>
    rest.exec enter (r.edit fun call => { call with store := change call.store })
  | .headers change rest, r =>
    rest.exec enter (r.edit fun call =>
      { call with sink := { call.sink with headers := change call.sink.headers } })
  | .write status body rest, r =>
    (rest (r.call.sink.write status body).1).exec enter
      (r.edit fun call => { call with sink := (call.sink.write status body).2 })
  | .sink change rest, r =>
    rest.exec enter (r.edit fun call => { call with sink := change call.sink })
  | .stop rest, r => rest.exec enter (r.edit fun call => { call with stopped := true })
  | .begin request rest, r => rest.exec enter (r.edit fun call => call.begin request)
  | .next rest, r => resume (fun fault r => (rest fault).exec enter r) (r.advance enter)
  | .run _ handler rest, r =>
    resume (fun fault r => (rest fault).exec enter r) (r.start enter (List.ofFn handler))

def execWithin : Nat → Program W → Run W → Verdict Unit × Run W
  | 0, _, r => (.panicked .value, r)
  | depth + 1, p, r => p.exec (execWithin depth) r

/-- How deep a program may go beyond the length of the chain it meets. Handlers that neither take
up a request nor run a chain of their own never go deeper than the chain is long. -/
def spareDepth : Nat := 0x100000

def perform (p : Program W) (r : Run W) : Verdict Unit × Run W :=
  p.execWithin (spareDepth + r.ctx.chain.length) r

def performChain (chain : List (Program W)) (r : Run W) : Verdict Unit × Run W :=
  r.start (execWithin (spareDepth + chain.length)) chain

def tell (change : W → W) (rest : Program W) : Program W := .world change fun _ => rest

def writeError (status : Nat) (message : String) (rest : Bool → Program W) : Program W :=
  .look fun call _ =>
    if call.sink.written then rest false
    else
      .headers (·.insert "content-type" (asciiBytes "text/plain; charset=utf-8"))
        (.write status (Utf8.encode message) rest)

def take (rest : Http.Response → Program W) : Program W :=
  .look fun call _ => .sink (fun _ => {}) (rest call.sink.take.1)

def orFail (rest : Program W) : Option Fault → Program W
  | none => rest
  | some fault => .fail fault

end Program

/-- Turns a panic into an internal fault under the name of a method, with a trace of the place. What
the code panicked with is dropped behind the boundary, where a panic that this raises goes on. -/
def Verdict.contain {α : Type} (method trace : String) : Verdict α → Verdict α
  | .returned a => .returned a
  | .failed fault => .failed fault
  | .panicked cause =>
    match cause.raised? with
    | none => .failed (cause.fault method trace)
    | some raised => .panicked raised

namespace Verdict

variable {α : Type} {v : Verdict α} {method trace : String}

theorem contain_eq_panicked {raised : Panic} :
    v.contain method trace = .panicked raised ↔ v = .panicked (.bomb raised) := by
  cases v with
  | returned | failed => simp [contain]
  | panicked cause => cases cause <;> simp [contain, Panic.raised?]

end Verdict

end JsonRpc
