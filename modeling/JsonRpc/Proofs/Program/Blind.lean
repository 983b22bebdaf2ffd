import JsonRpc.Proofs.Program.Record

namespace JsonRpc

variable {W : World}

def Envelope.hide (e : Envelope) : Envelope := { e with version := "" }

/-- All that a call shows but the raw request, its body once opened, and the version it states. -/
def Call.hide (call : Call) : Call :=
  { call with request := {}, body := [], envelope := call.envelope.hide }

def Run.hide (r : Run W) : Run W := r.edit Call.hide

@[simp] theorem Run.hide_call (r : Run W) : r.hide.call = r.call.hide := rfl

@[simp] theorem Run.hide_chain (r : Run W) : r.hide.ctx.chain = r.ctx.chain := rfl

@[simp] theorem Run.hide_world (r : Run W) : r.hide.world = r.world := rfl

@[simp] theorem Run.hide_now (r : Run W) : r.hide.now = r.now := rfl

def Event.hide : Event W → Event W
  | .step p r => .step p r.hide
  | .entered index handler r => .entered index handler r.hide
  | .cut r => .cut r.hide
  | .hook place name args outcome r => .hook place name args outcome r.hide
  | .method cb bound r => .method cb bound r.hide

/-- The code goes on alike after a look at two calls that show it the same, and what it makes of the
rest of an envelope does not depend on the version. -/
inductive Program.Blind : Program W → Prop where
  | done : Blind .done
  | fail (fault : Fault) : Blind (.fail fault)
  | panic (cause : Panic) : Blind (.panic cause)
  | look {rest : Call → Nat → Program W} (same : ∀ call now, rest call now = rest call.hide now)
      (blind : ∀ call now, (rest call now).Blind) : Blind (.look rest)
  | world (change : W → W) {rest : W → Program W} (blind : ∀ w, (rest w).Blind) :
      Blind (.world change rest)
  | envelope {change : Envelope → Envelope} (same : ∀ e, (change e).hide = (change e.hide).hide)
      {rest : Program W} (blind : rest.Blind) : Blind (.envelope change rest)
  | store (change : Store → Store) {rest : Program W} (blind : rest.Blind) :
      Blind (.store change rest)
  | headers (change : Http.Headers → Http.Headers) {rest : Program W} (blind : rest.Blind) :
      Blind (.headers change rest)
  | write (status : Nat) (body : Bytes) {rest : Bool → Program W}
      (blind : ∀ done, (rest done).Blind) : Blind (.write status body rest)
  | sink (change : Http.Sink → Http.Sink) {rest : Program W} (blind : rest.Blind) :
      Blind (.sink change rest)
  | stop {rest : Program W} (blind : rest.Blind) : Blind (.stop rest)
  | begin (request : Http.Request) {rest : Program W} (blind : rest.Blind) :
      Blind (.begin request rest)
  | next {rest : Option Fault → Program W} (blind : ∀ fault, (rest fault).Blind) :
      Blind (.next rest)
  | run (size : Nat) {handler : Fin size → Program W} {rest : Option Fault → Program W}
      (handlers : ∀ i, (handler i).Blind) (blind : ∀ fault, (rest fault).Blind) :
      Blind (.run size handler rest)

/-- Runs that show the same to their code, which is blind. -/
structure Run.Like (r seen : Run W) : Prop where
  shown : r.hide = seen.hide
  blind : ∀ p ∈ r.ctx.chain, p.Blind

/-- Recorded runs in which the same happens, but for what is hidden. -/
structure Recorded.Like {α : Type} (x y : Recorded W (α × Run W)) : Prop where
  events : x.events.map Event.hide = y.events.map Event.hide
  result : x.result.1 = y.result.1
  run : x.result.2.Like y.result.2

namespace Run.Like

variable {r seen : Run W}

theorem call (like : r.Like seen) : r.call.hide = seen.call.hide := by
  rw [← hide_call, like.shown, hide_call]

theorem chain (like : r.Like seen) : r.ctx.chain = seen.ctx.chain := by
  rw [← hide_chain, like.shown, hide_chain]

theorem world (like : r.Like seen) : r.world = seen.world := by
  rw [← hide_world, like.shown, hide_world]

theorem now (like : r.Like seen) : r.now = seen.now := by
  rw [← hide_now, like.shown, hide_now]

theorem shows {α : Type} (like : r.Like seen) (read : Call → α)
    (blind : ∀ call, read call = read call.hide) : read r.call = read seen.call := by
  rw [blind, like.call, ← blind]

theorem edit {change : Call → Call} (blind : ∀ call, (change call).hide = (change call.hide).hide)
    (like : r.Like seen) : (r.edit change).Like (seen.edit change) where
  shown := by
    have edited : ∀ m : Run W, (m.edit change).hide = (m.hide.edit change).hide := by
      intro m
      exact congrArg (fun call => { m with ctx := { m.ctx with call } }) (blind m.ctx.call)
    rw [edited, like.shown, ← edited]
  blind := like.blind

theorem install {chain : List (Program W)} (blind : ∀ p ∈ chain, p.Blind) (like : r.Like seen) :
    (r.install chain).Like (seen.install chain) where
  shown := congrArg (Run.install chain) like.shown
  blind := blind

theorem change (like : r.Like seen) (world : W) :
    Run.Like { r with world } { seen with world } where
  shown := congrArg (fun m : Run W => { m with world }) like.shown
  blind := like.blind

end Run.Like

namespace Recorded.Like

variable {α β : Type}

theorem silent {a : α} {r seen : Run W} (like : r.Like seen) :
    (Recorded.silent (a, r) : Recorded W (α × Run W)).Like (.silent (a, seen)) :=
  ⟨rfl, rfl, like⟩

theorem after {x y : Recorded W (α × Run W)} {e f : Event W} (first : e.hide = f.hide)
    (rest : x.Like y) : (x.after e).Like (y.after f) where
  events := by rw [events_after, events_after, List.map_cons, List.map_cons, first, rest.events]
  result := rest.result
  run := rest.run

theorem andThen {x y : Recorded W (α × Run W)} {next other : α × Run W → Recorded W (β × Run W)}
    (first : x.Like y) (rest : ∀ a r seen, r.Like seen → (next (a, r)).Like (other (a, seen))) :
    (x.andThen next).Like (y.andThen other) := by
  obtain ⟨events, a, r⟩ := x
  obtain ⟨happened, b, seen⟩ := y
  obtain ⟨same, result, run⟩ := first
  obtain rfl : a = b := result
  have going := rest a r seen run
  refine ⟨?_, going.result, going.run⟩
  rw [events_andThen, events_andThen, List.map_append, List.map_append, same, going.events]

theorem resume {x y : Ending W Unit} {go other : Option Fault → Run W → Ending W Unit}
    (first : x.Like y)
    (rest : ∀ fault r seen, r.Like seen → (go fault r).Like (other fault seen)) :
    (x.andThen (Program.recordResume go)).Like (y.andThen (Program.recordResume other)) := by
  refine first.andThen fun verdict r seen like => ?_
  cases verdict with
  | returned u => exact rest none r seen like
  | failed fault => exact rest (some fault) r seen like
  | panicked cause => exact silent like

theorem onReturn {x y : Ending W α} {next other : α → Run W → Ending W β} (first : x.Like y)
    (rest : ∀ a r seen, r.Like seen → (next a r).Like (other a seen)) :
    (x.onReturn next).Like (y.onReturn other) := by
  refine first.andThen fun verdict r seen like => ?_
  cases verdict with
  | returned a => exact rest a r seen like
  | failed fault => exact silent like
  | panicked cause => exact silent like

end Recorded.Like

def Run.Recorder.Overlooks (recorder : Run.Recorder W) : Prop :=
  ∀ p, p.Blind → ∀ r seen, r.Like seen → (recorder p r).Like (recorder p seen)

namespace Program

variable {recorder : Run.Recorder W} {r seen : Run W}

theorem recordAdvance_like (inner : recorder.Overlooks) (like : r.Like seen) :
    (r.recordAdvance recorder).Like (seen.recordAdvance recorder) := by
  have stopped := like.shows Call.stopped fun _ => rfl
  have position := like.shows Call.position fun _ => rfl
  have moved : (r.edit fun call => { call with position := call.position + 1 }).Like
      (seen.edit fun call => { call with position := call.position + 1 }) :=
    like.edit fun _ => rfl
  simp only [Run.recordAdvance, stopped, position, ← like.chain]
  split
  · exact .silent like
  · cases found : r.ctx.chain[seen.call.position + 1]? with
    | none => exact .silent moved
    | some handler =>
      have blind : handler.Blind := like.blind handler (List.mem_of_getElem? found)
      have entered := congrArg (Event.entered (seen.call.position + 1) handler) moved.shown
      exact .after entered (inner handler blind _ _ moved)

theorem recordStart_like (inner : recorder.Overlooks) {chain : List (Program W)}
    (blind : ∀ p ∈ chain, p.Blind) (like : r.Like seen) :
    (r.recordStart recorder chain).Like (seen.recordStart recorder chain) := by
  have installed := like.install blind
  cases chain with
  | nil => exact .silent installed
  | cons first rest =>
    have entered := congrArg (Event.entered 0 first) installed.shown
    exact .after entered (inner first (blind first List.mem_cons_self) _ _ installed)

theorem ofFn_blind {size : Nat} {handler : Fin size → Program W}
    (handlers : ∀ i, (handler i).Blind) : ∀ p ∈ List.ofFn handler, p.Blind := by
  intro p member
  obtain ⟨i, rfl⟩ := List.mem_ofFn.mp member
  exact handlers i

/-- Blind code does the same in runs that show it the same. -/
theorem record_like (inner : recorder.Overlooks) {p : Program W} (code : p.Blind)
    (like : r.Like seen) : (p.record recorder r).Like (p.record recorder seen) := by
  have step : ∀ {p : Program W} {r seen : Run W}, r.Like seen →
      (Event.step p r).hide = (Event.step p seen).hide := fun {p} _ _ like =>
    congrArg (Event.step p) like.shown
  induction code generalizing r seen with
  | done => exact .after (step like) (.silent like)
  | fail fault => exact .after (step like) (.silent like)
  | panic cause => exact .after (step like) (.silent like)
  -- the only step that sees the call: both looks lead to the same code
  | @look rest same blind hypothesis =>
    have going : rest r.call r.now = rest seen.call r.now :=
      like.shows (rest · r.now) fun call => same call r.now
    rw [record, record, ← like.now, ← going]
    exact .after (step like) (hypothesis _ _ like)
  | world change blind hypothesis =>
    rw [record, record, ← like.world]
    exact .after (step like) (hypothesis _ (like.change _))
  | envelope same blind hypothesis =>
    refine .after (step like) (hypothesis (like.edit fun call => ?_))
    exact congrArg (fun envelope => { call.hide with envelope }) (same call.envelope)
  | store change blind hypothesis =>
    exact .after (step like) (hypothesis (like.edit fun _ => rfl))
  | headers change blind hypothesis =>
    exact .after (step like) (hypothesis (like.edit fun _ => rfl))
  | write status body blind hypothesis =>
    have sink := like.shows Call.sink fun _ => rfl
    rw [record, record, ← sink]
    exact .after (step like) (hypothesis _ (like.edit fun _ => rfl))
  | sink change blind hypothesis =>
    exact .after (step like) (hypothesis (like.edit fun _ => rfl))
  | stop blind hypothesis =>
    exact .after (step like) (hypothesis (like.edit fun _ => rfl))
  | begin request blind hypothesis =>
    exact .after (step like) (hypothesis (like.edit fun _ => rfl))
  | next blind hypothesis =>
    exact .after (step like)
      (.resume (recordAdvance_like inner like) fun fault _ _ => hypothesis fault)
  | run size handlers blind _ hypothesis =>
    exact .after (step like)
      (.resume (recordStart_like inner (ofFn_blind handlers) like) fun fault _ _ =>
        hypothesis fault)

theorem recordWithin_like (depth : Nat) :
    Run.Recorder.Overlooks (W := W) (recordWithin depth) := by
  induction depth with
  | zero =>
    intro p _ r seen like
    exact .after (congrArg Event.cut like.shown) (.silent like)
  | succ depth hypothesis =>
    intro p code r seen like
    exact record_like hypothesis code like

theorem recordPerform_like {p : Program W} (code : p.Blind) (like : r.Like seen) :
    (p.recordPerform r).Like (p.recordPerform seen) := by
  rw [recordPerform, recordPerform, ← like.chain]
  exact recordWithin_like _ p code r seen like

theorem recordChain_like {chain : List (Program W)} (blind : ∀ p ∈ chain, p.Blind)
    (like : r.Like seen) : (recordChain chain r).Like (recordChain chain seen) :=
  recordStart_like (recordWithin_like _) blind like

end Program

end JsonRpc
