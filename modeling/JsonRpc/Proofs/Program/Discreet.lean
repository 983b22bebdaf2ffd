import JsonRpc.Proofs.Program.Record
import Mathlib.Data.List.Forall2

namespace JsonRpc

variable {W : World}

def Http.Request.veil (request : Http.Request) : Http.Request := { request with body := [] }

/-- All that a call shows but the body of its request. What the body was opened to is still
shown. -/
def Call.veil (call : Call) : Call := { call with request := call.request.veil }

/-- Programs that take the same steps as long as the calls that they look at differ in the body of
the request alone. -/
inductive Program.Alike : Program W → Program W → Prop where
  | done : Alike .done .done
  | fail (fault : Fault) : Alike (.fail fault) (.fail fault)
  | panic (cause : Panic) : Alike (.panic cause) (.panic cause)
  | look {rest other : Call → Nat → Program W}
      (alike : ∀ call seen now, call.veil = seen.veil → Alike (rest call now) (other seen now)) :
      Alike (.look rest) (.look other)
  | world (change : W → W) {rest other : W → Program W} (alike : ∀ w, Alike (rest w) (other w)) :
      Alike (.world change rest) (.world change other)
  | envelope (change : Envelope → Envelope) {rest other : Program W} (alike : Alike rest other) :
      Alike (.envelope change rest) (.envelope change other)
  | store (change : Store → Store) {rest other : Program W} (alike : Alike rest other) :
      Alike (.store change rest) (.store change other)
  | headers (change : Http.Headers → Http.Headers) {rest other : Program W}
      (alike : Alike rest other) : Alike (.headers change rest) (.headers change other)
  | write (status : Nat) (body : Bytes) {rest other : Bool → Program W}
      (alike : ∀ done, Alike (rest done) (other done)) :
      Alike (.write status body rest) (.write status body other)
  | sink (change : Http.Sink → Http.Sink) {rest other : Program W} (alike : Alike rest other) :
      Alike (.sink change rest) (.sink change other)
  | stop {rest other : Program W} (alike : Alike rest other) : Alike (.stop rest) (.stop other)
  | begin {request seen : Http.Request} (same : request.veil = seen.veil) {rest other : Program W}
      (alike : Alike rest other) : Alike (.begin request rest) (.begin seen other)
  | next {rest other : Option Fault → Program W}
      (alike : ∀ fault, Alike (rest fault) (other fault)) : Alike (.next rest) (.next other)
  | run (size : Nat) {handler second : Fin size → Program W} {rest other : Option Fault → Program W}
      (handlers : ∀ i, Alike (handler i) (second i))
      (alike : ∀ fault, Alike (rest fault) (other fault)) :
      Alike (.run size handler rest) (.run size second other)

/-- The code does not read the body of the request. -/
def Program.Discreet (p : Program W) : Prop := p.Alike p

structure Run.Alike (r seen : Run W) : Prop where
  call : r.call.veil = seen.call.veil
  chain : List.Forall₂ Program.Alike r.ctx.chain seen.ctx.chain
  world : r.world = seen.world
  now : r.now = seen.now

/-- The same thing happens in runs that are alike. -/
inductive Event.Alike : Event W → Event W → Prop where
  | step {p q : Program W} {r seen : Run W} (code : p.Alike q) (run : r.Alike seen) :
      Alike (.step p r) (.step q seen)
  | entered (index : Nat) {p q : Program W} {r seen : Run W} (code : p.Alike q)
      (run : r.Alike seen) : Alike (.entered index p r) (.entered index q seen)
  | cut {r seen : Run W} (run : r.Alike seen) : Alike (.cut r) (.cut seen)
  | hook (place : HookPlace) (name : String) (args : List Json) (outcome : Option Outcome)
      {r seen : Run W} (run : r.Alike seen) :
      Alike (.hook place name args outcome r) (.hook place name args outcome seen)
  | method (cb : Callback W) (bound : Bound W) {r seen : Run W} (run : r.Alike seen) :
      Alike (.method cb bound r) (.method cb bound seen)

/-- Two recorded runs in which the same happens, with one result, and which leave runs that are
alike. -/
structure Recorded.Alike {α : Type} (x y : Recorded W (α × Run W)) : Prop where
  events : List.Forall₂ Event.Alike x.events y.events
  result : x.result.1 = y.result.1
  run : x.result.2.Alike y.result.2

namespace Run.Alike

variable {r seen : Run W}

theorem shows {α : Type} (alike : r.Alike seen) (read : Call → α)
    (blind : ∀ call, read call.veil = read call) : read r.call = read seen.call := by
  rw [← blind, alike.call, blind]

theorem edit {change : Call → Call} (blind : ∀ call, (change call).veil = change call.veil)
    (alike : r.Alike seen) : (r.edit change).Alike (seen.edit change) where
  call := by
    show (change r.call).veil = (change seen.call).veil
    rw [blind, blind, alike.call]
  chain := alike.chain
  world := alike.world
  now := alike.now

theorem begin {request other : Http.Request} (same : request.veil = other.veil)
    (alike : r.Alike seen) :
    (r.edit fun call => call.begin request).Alike (seen.edit fun call => call.begin other) where
  call := by
    show r.call.veil.begin request.veil = seen.call.veil.begin other.veil
    rw [alike.call, same]
  chain := alike.chain
  world := alike.world
  now := alike.now

theorem install {chain other : List (Program W)} (code : List.Forall₂ Program.Alike chain other)
    (alike : r.Alike seen) : (r.install chain).Alike (seen.install other) where
  call := congrArg (fun call => { call with position := 0 }) alike.call
  chain := code
  world := alike.world
  now := alike.now

end Run.Alike

namespace Recorded.Alike

variable {α β : Type}

theorem silent {a : α} {r seen : Run W} (alike : r.Alike seen) :
    (Recorded.silent (a, r) : Recorded W (α × Run W)).Alike (.silent (a, seen)) :=
  ⟨.nil, rfl, alike⟩

theorem after {x y : Recorded W (α × Run W)} {e f : Event W} (first : e.Alike f)
    (rest : x.Alike y) : (x.after e).Alike (y.after f) :=
  ⟨.cons first rest.events, rest.result, rest.run⟩

theorem andThen {x y : Recorded W (α × Run W)} {next other : α × Run W → Recorded W (β × Run W)}
    (first : x.Alike y)
    (rest : ∀ a r seen, r.Alike seen → (next (a, r)).Alike (other (a, seen))) :
    (x.andThen next).Alike (y.andThen other) := by
  obtain ⟨events, a, r⟩ := x
  obtain ⟨happened, b, seen⟩ := y
  obtain ⟨same, result, run⟩ := first
  obtain rfl : a = b := result
  have going := rest a r seen run
  exact ⟨List.rel_append same going.events, going.result, going.run⟩

theorem resume {x y : Ending W Unit} {go other : Option Fault → Run W → Ending W Unit}
    (first : x.Alike y)
    (rest : ∀ fault r seen, r.Alike seen → (go fault r).Alike (other fault seen)) :
    (x.andThen (Program.recordResume go)).Alike (y.andThen (Program.recordResume other)) := by
  refine first.andThen fun verdict r seen alike => ?_
  cases verdict with
  | returned u => exact rest none r seen alike
  | failed fault => exact rest (some fault) r seen alike
  | panicked cause => exact silent alike

theorem onReturn {x : Ending W α} {y : Ending W α} {next other : α → Run W → Ending W β}
    (first : x.Alike y) (rest : ∀ a r seen, r.Alike seen → (next a r).Alike (other a seen)) :
    (x.onReturn next).Alike (y.onReturn other) := by
  refine first.andThen fun verdict r seen alike => ?_
  cases verdict with
  | returned a => exact rest a r seen alike
  | failed fault => exact silent alike
  | panicked cause => exact silent alike

end Recorded.Alike

def Run.Recorder.Alike (recorder other : Run.Recorder W) : Prop :=
  ∀ p q, p.Alike q → ∀ r seen, r.Alike seen → (recorder p r).Alike (other q seen)

namespace Program

variable {recorder other : Run.Recorder W}

theorem getElem?_alike {chain second : List (Program W)}
    (code : List.Forall₂ Program.Alike chain second) (index : Nat) :
    (chain[index]? = none ∧ second[index]? = none) ∨
      ∃ p q, chain[index]? = some p ∧ second[index]? = some q ∧ p.Alike q := by
  induction code generalizing index with
  | nil => exact .inl ⟨rfl, rfl⟩
  | cons first rest hypothesis =>
    cases index with
    | zero => exact .inr ⟨_, _, rfl, rfl, first⟩
    | succ index => exact hypothesis index

theorem ofFn_alike {size : Nat} {handler second : Fin size → Program W}
    (code : ∀ i, (handler i).Alike (second i)) :
    List.Forall₂ Program.Alike (List.ofFn handler) (List.ofFn second) := by
  apply List.forall₂_of_length_eq_of_get (by simp)
  intro i inside outside
  simpa using code ⟨i, by simpa using inside⟩

theorem recordAdvance_alike (inner : recorder.Alike other) {r seen : Run W} (alike : r.Alike seen) :
    (r.recordAdvance recorder).Alike (seen.recordAdvance other) := by
  have stopped := alike.shows Call.stopped fun _ => rfl
  have position := alike.shows Call.position fun _ => rfl
  have moved : (r.edit fun call => { call with position := call.position + 1 }).Alike
      (seen.edit fun call => { call with position := call.position + 1 }) :=
    alike.edit fun _ => rfl
  rw [Run.recordAdvance, Run.recordAdvance, stopped, position, alike.chain.length_eq]
  split
  · exact .silent alike
  · have code := getElem?_alike alike.chain (seen.call.position + 1)
    dsimp only
    rcases code with ⟨absent, missing⟩ | ⟨p, q, found, there, code⟩
    · rw [absent, missing]
      exact .silent moved
    · rw [found, there]
      exact .after (.entered _ code moved) (inner p q code _ _ moved)

theorem recordStart_alike (inner : recorder.Alike other) {chain second : List (Program W)}
    (code : List.Forall₂ Program.Alike chain second) {r seen : Run W} (alike : r.Alike seen) :
    (r.recordStart recorder chain).Alike (seen.recordStart other second) := by
  cases code with
  | nil => exact .silent (alike.install .nil)
  | cons first rest =>
    have installed := alike.install (.cons first rest)
    exact .after (.entered 0 first installed) (inner _ _ first _ _ installed)

/-- Programs that are alike do the same in runs that are alike. -/
theorem record_alike (inner : recorder.Alike other) {p q : Program W} (code : p.Alike q)
    {r seen : Run W} (alike : r.Alike seen) :
    (p.record recorder r).Alike (q.record other seen) := by
  induction code generalizing r seen with
  | done => exact .after (.step .done alike) (.silent alike)
  | fail fault => exact .after (.step (.fail fault) alike) (.silent alike)
  | panic cause => exact .after (.step (.panic cause) alike) (.silent alike)
  -- the only step that sees the request: what it goes on with is alike for both calls
  | look rest hypothesis =>
    rw [record, record, ← alike.now]
    exact .after (.step (.look rest) alike) (hypothesis _ _ _ alike.call alike)
  | world change rest hypothesis =>
    rw [record, record, ← alike.world]
    exact .after (.step (.world change rest) alike)
      (hypothesis _ ⟨alike.call, alike.chain, rfl, alike.now⟩)
  | envelope change rest hypothesis =>
    exact .after (.step (.envelope change rest) alike) (hypothesis (alike.edit fun _ => rfl))
  | store change rest hypothesis =>
    exact .after (.step (.store change rest) alike) (hypothesis (alike.edit fun _ => rfl))
  | headers change rest hypothesis =>
    exact .after (.step (.headers change rest) alike) (hypothesis (alike.edit fun _ => rfl))
  | write status body rest hypothesis =>
    have sink := alike.shows Call.sink fun _ => rfl
    -- both are told the same about what was written before
    rw [record, record, ← sink]
    exact .after (.step (.write status body rest) alike) (hypothesis _ (alike.edit fun _ => rfl))
  | sink change rest hypothesis =>
    exact .after (.step (.sink change rest) alike) (hypothesis (alike.edit fun _ => rfl))
  | stop rest hypothesis =>
    exact .after (.step (.stop rest) alike) (hypothesis (alike.edit fun _ => rfl))
  | begin request rest hypothesis =>
    have begun := alike.begin request
    exact .after (.step (.begin request rest) alike) (hypothesis begun)
  | next rest hypothesis =>
    exact .after (.step (.next rest) alike)
      (.resume (recordAdvance_alike inner alike) fun fault _ _ => hypothesis fault)
  | run size handlers rest _ hypothesis =>
    exact .after (.step (.run size handlers rest) alike)
      (.resume (recordStart_alike inner (ofFn_alike handlers) alike) fun fault _ _ =>
        hypothesis fault)

theorem recordWithin_alike (depth : Nat) :
    Run.Recorder.Alike (W := W) (recordWithin depth) (recordWithin depth) := by
  induction depth with
  | zero =>
    intro p q _ r seen alike
    exact .after (.cut alike) (.silent alike)
  | succ depth hypothesis =>
    intro p q code r seen alike
    exact record_alike hypothesis code alike

theorem recordPerform_alike {p q : Program W} (code : p.Alike q) {r seen : Run W}
    (alike : r.Alike seen) : (p.recordPerform r).Alike (q.recordPerform seen) := by
  rw [recordPerform, recordPerform, alike.chain.length_eq]
  exact recordWithin_alike _ p q code r seen alike

theorem recordChain_alike {chain second : List (Program W)}
    (code : List.Forall₂ Program.Alike chain second) {r seen : Run W} (alike : r.Alike seen) :
    (recordChain chain r).Alike (recordChain second seen) := by
  rw [recordChain, recordChain, code.length_eq]
  exact recordStart_alike (recordWithin_alike _) code alike

end Program

end JsonRpc
