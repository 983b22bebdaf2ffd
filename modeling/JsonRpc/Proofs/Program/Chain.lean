import JsonRpc.Proofs.Program.Record

namespace JsonRpc

variable {W : World}

namespace Program

/-- Code that neither takes up a request nor runs a chain of its own. -/
def Plain : Program W → Prop
  | .done | .fail _ | .panic _ => True
  | .look rest => ∀ call now, (rest call now).Plain
  | .world _ rest => ∀ world, (rest world).Plain
  | .envelope _ rest | .store _ rest | .headers _ rest | .sink _ rest | .stop rest => rest.Plain
  | .write _ _ rest => ∀ accepted, (rest accepted).Plain
  | .next rest => ∀ fault, (rest fault).Plain
  | .begin _ _ | .run _ _ _ => False

end Program

namespace Event

def handsOn : Event W → Bool
  | .step (.next _) r => !r.call.stopped
  | _ => false

def isStop : Event W → Bool
  | .step (.stop _) _ => true
  | _ => false

def stops (e : Event W) : Bool := e.run.call.stopped || e.isStop

def handler? : Event W → Option (Program W × Nat)
  | .entered index handler _ => some (handler, index)
  | _ => none

/-- The order of two events of a chain: the cursor does not move back, and no stop is undone. -/
def Precedes (a b : Event W) : Prop :=
  a.run.call.position ≤ b.run.call.position ∧ (a.stops = true → b.run.call.stopped = true)

end Event

def entered (events : List (Event W)) : List (Program W × Nat) := events.filterMap Event.handler?

def handOns (events : List (Event W)) : Nat := events.countP Event.handsOn

theorem entered_append (before later : List (Event W)) :
    entered (before ++ later) = entered before ++ entered later := List.filterMap_append

theorem handOns_append (before later : List (Event W)) :
    handOns (before ++ later) = handOns before + handOns later := List.countP_append

/-- A stretch of a run of a chain, from one run to another. -/
structure Stretch (chain : List (Program W)) (r : Run W) (events : List (Event W))
    (final : Run W) : Prop where
  chain_eq : final.ctx.chain = chain
  forward : r.call.position ≤ final.call.position
  position : final.call.position = min chain.length (r.call.position + handOns events)
  stopped : final.call.stopped = (r.call.stopped || events.any Event.isStop)
  handlers : entered events =
    (chain.zipIdx.take (final.call.position + 1)).drop (r.call.position + 1)
  from_start : ∀ e ∈ events, r.call.position ≤ e.run.call.position ∧
    (r.call.stopped = true → e.run.call.stopped = true)
  to_end : ∀ e ∈ events, e.run.call.position ≤ final.call.position ∧
    (e.stops = true → final.call.stopped = true)
  ordered : events.Pairwise Event.Precedes
  awake : ∀ index handler m, Event.entered index handler m ∈ events → m.call.stopped = false
  uncut : Uncut events

namespace Stretch

variable {chain : List (Program W)} {r middle final : Run W} {events : List (Event W)}

theorem window_append {α : Type} (l : List α) {a b c : Nat} (ab : a ≤ b) (bc : b ≤ c) :
    (l.take b).drop a ++ (l.take c).drop b = (l.take c).drop a := by
  have front : l.take b = (l.take c).take b := by rw [List.take_take, Nat.min_eq_left bc]
  have back : (l.take c).drop b = ((l.take c).drop a).drop (b - a) := by
    rw [List.drop_drop, Nat.add_sub_cancel' ab]
  rw [front, List.drop_take, back, List.take_append_drop]

theorem append {before later : List (Event W)} (first : Stretch chain r before middle)
    (second : Stretch chain middle later final) : Stretch chain r (before ++ later) final where
  chain_eq := second.chain_eq
  forward := Nat.le_trans first.forward second.forward
  position := by
    have start := first.position
    have rest := second.position
    rw [handOns_append]
    omega
  stopped := by rw [second.stopped, first.stopped, List.any_append, Bool.or_assoc]
  handlers := by
    rw [entered_append, first.handlers, second.handlers]
    exact window_append _ (Nat.succ_le_succ first.forward) (Nat.succ_le_succ second.forward)
  from_start := by
    intro e member
    rcases List.mem_append.mp member with member | member
    · exact first.from_start e member
    · obtain ⟨position, stopped⟩ := second.from_start e member
      refine ⟨Nat.le_trans first.forward position, fun halted => stopped ?_⟩
      rw [first.stopped, halted, Bool.true_or]
  to_end := by
    intro e member
    rcases List.mem_append.mp member with member | member
    · obtain ⟨position, stopped⟩ := first.to_end e member
      refine ⟨Nat.le_trans position second.forward, fun halted => ?_⟩
      rw [second.stopped, stopped halted, Bool.true_or]
    · exact second.to_end e member
  ordered := by
    rw [List.pairwise_append]
    refine ⟨first.ordered, second.ordered, fun a early b late => ?_⟩
    obtain ⟨behind, halted⟩ := first.to_end a early
    obtain ⟨ahead, kept⟩ := second.from_start b late
    exact ⟨Nat.le_trans behind ahead, fun stops => kept (halted stops)⟩
  awake := by
    intro index handler m member
    rcases List.mem_append.mp member with member | member
    · exact first.awake index handler m member
    · exact second.awake index handler m member
  uncut := by
    intro m member
    rcases List.mem_append.mp member with member | member
    · exact first.uncut m member
    · exact second.uncut m member

theorem still {p : Program W} (at_chain : r.ctx.chain = chain)
    (bound : r.call.position ≤ chain.length) (kept : final.ctx.chain = r.ctx.chain)
    (position : final.call.position = r.call.position)
    (stopped : final.call.stopped = (Event.step p r).stops)
    (idle : (Event.step p r).handsOn = true → chain.length ≤ r.call.position) :
    Stretch chain r [.step p r] final where
  chain_eq := kept.trans at_chain
  forward := Nat.le_of_eq position.symm
  position := by
    have one : handOns [Event.step p r] = if (Event.step p r).handsOn then 1 else 0 := by
      simp [handOns]
    rw [one, position]
    split
    · have full := idle ‹_›
      omega
    · omega
  stopped := by simp [stopped, Event.stops, Event.run]
  handlers := by
    rw [position, List.drop_take_self]
    rfl
  from_start := by simp [Event.run]
  to_end := by simp [Event.run, position, stopped]
  ordered := List.pairwise_singleton _ _
  awake := by simp
  uncut := by simp [Uncut]

theorem of_step (p : Program W) (plain : p.Plain) (keeps : (Event.step p r).handsOn = false)
    (at_chain : r.ctx.chain = chain) (bound : r.call.position ≤ chain.length) :
    Stretch chain r [.step p r] (p.touch r) := by
  have idle : (Event.step p r).handsOn = true → chain.length ≤ r.call.position := by
    rw [keeps]
    exact nofun
  cases p with
  | begin | run => exact plain.elim
  | stop rest => exact still at_chain bound rfl rfl (Bool.or_true _).symm idle
  | _ => exact still at_chain bound rfl rfl (Bool.or_false _).symm idle

theorem refl (at_chain : r.ctx.chain = chain) (bound : r.call.position ≤ chain.length) :
    Stretch chain r [] r where
  chain_eq := at_chain
  forward := Nat.le_refl _
  position := by simp [handOns, Nat.min_eq_right bound]
  stopped := by simp
  handlers := by rw [List.drop_take_self]; rfl
  from_start := by simp
  to_end := by simp
  ordered := List.Pairwise.nil
  awake := by simp
  uncut := by simp [Uncut]

theorem enter (rest : Option Fault → Program W) {handler : Program W}
    (at_chain : r.ctx.chain = chain) (live : r.call.stopped = false)
    (found : chain[r.call.position + 1]? = some handler)
    (moved : Run W)
    (moved_eq : moved = r.edit fun call => { call with position := call.position + 1 }) :
    Stretch chain r
      [.step (.next rest) r, .entered (r.call.position + 1) handler moved] moved := by
  obtain ⟨bound, found⟩ := List.getElem?_eq_some_iff.mp found
  have position : moved.call.position = r.call.position + 1 := by rw [moved_eq]; rfl
  have stopped : moved.call.stopped = false := by rw [moved_eq]; exact live
  refine
    { chain_eq := by rw [moved_eq]; exact at_chain
      forward := by omega
      position := ?_
      stopped := by simp [stopped, live, Event.isStop]
      handlers := ?_
      from_start := by simp [Event.run, position, live]
      to_end := by simp [Event.run, Event.stops, Event.isStop, position, live, stopped]
      ordered := by simp [Event.Precedes, Event.run, Event.stops, Event.isStop, position, live]
      awake := by
        intro index handler m member
        simp only [List.mem_cons, List.not_mem_nil, or_false, reduceCtorEq, false_or,
          Event.entered.injEq] at member
        rw [member.2.2, stopped]
      uncut := by simp [Uncut] }
  · simp [handOns, Event.handsOn, live, position]
    omega
  · have one : entered
        [Event.step (.next rest) r, .entered (r.call.position + 1) handler moved] =
        [(handler, r.call.position + 1)] := rfl
    rw [one, position, List.drop_take]
    have size : r.call.position + 1 < chain.zipIdx.length := by simpa using bound
    rw [List.drop_eq_getElem_cons size]
    simp [found]

theorem exhaust {rest : Option Fault → Program W} (at_chain : r.ctx.chain = chain)
    (live : r.call.stopped = false) (bound : r.call.position < chain.length)
    (missing : chain[r.call.position + 1]? = none) :
    Stretch chain r [.step (.next rest) r]
      (r.edit fun call => { call with position := call.position + 1 }) := by
  have full := List.getElem?_eq_none_iff.mp missing
  have position : (r.edit fun call => { call with position := call.position + 1 }).call.position =
    r.call.position + 1 := rfl
  refine
    { chain_eq := at_chain
      forward := by omega
      position := ?_
      stopped := by simp [Event.isStop, Run.edit, Run.call]
      handlers := ?_
      from_start := by simp [Event.run]
      to_end := by simp [Event.run, Event.stops, Event.isStop, Run.edit, Run.call]
      ordered := List.pairwise_singleton _ _
      awake := by simp
      uncut := by simp [Uncut] }
  · simp [handOns, Event.handsOn, live, position]
    omega
  · have none_begin : entered [Event.step (.next rest) r] = [] := rfl
    rw [none_begin, position, eq_comm, List.drop_eq_nil_iff]
    simp
    omega

theorem bound (stretch : Stretch chain r events final) : final.call.position ≤ chain.length := by
  rw [stretch.position]
  exact Nat.min_le_left _ _

theorem of_advance {recorder : Run.Recorder W} {floor : Nat} (rest : Option Fault → Program W)
    (inner : ∀ p ∈ chain, ∀ m : Run W, m.ctx.chain = chain → floor < m.call.position →
      m.call.position < chain.length →
      Stretch chain m (recorder p m).events (recorder p m).result.2)
    (r : Run W) (at_chain : r.ctx.chain = chain) (above : floor ≤ r.call.position)
    (bound : r.call.position ≤ chain.length) :
    Stretch chain r (.step (.next rest) r :: (r.recordAdvance recorder).events)
      (r.recordAdvance recorder).result.2 := by
  rw [Run.recordAdvance, at_chain]
  split
  · rename_i idle
    refine still at_chain bound rfl rfl (Bool.or_false _).symm fun hands => ?_
    have live : r.call.stopped = false := by simpa [Event.handsOn] using hands
    simpa [live] using idle
  · rename_i busy
    simp only [not_or, Bool.not_eq_true, Nat.not_le] at busy
    cases found : chain[r.call.position + 1]? with
    | none => exact exhaust at_chain busy.1 busy.2 found
    | some handler =>
      have first := enter rest at_chain busy.1 found _ rfl
      have member : handler ∈ chain := List.mem_of_getElem? found
      have size : r.call.position + 1 < chain.length := (List.getElem?_eq_some_iff.mp found).1
      exact first.append (inner handler member _ at_chain (Nat.lt_succ_of_le above) size)

theorem of_record {recorder : Run.Recorder W} {floor : Nat}
    (inner : ∀ p ∈ chain, ∀ m : Run W, m.ctx.chain = chain → floor < m.call.position →
      m.call.position < chain.length →
      Stretch chain m (recorder p m).events (recorder p m).result.2)
    (p : Program W) (plain : p.Plain) (r : Run W) (at_chain : r.ctx.chain = chain)
    (above : floor ≤ r.call.position) (bound : r.call.position ≤ chain.length) :
    Stretch chain r (p.record recorder r).events (p.record recorder r).result.2 := by
  induction p generalizing r with
  | done | fail | panic => exact of_step _ plain rfl at_chain bound
  | look rest hypothesis =>
    have first := of_step (.look rest) plain rfl at_chain bound
    exact first.append (hypothesis _ _ (plain _ _) _ at_chain above bound)
  | world change rest hypothesis =>
    have first := of_step (.world change rest) plain rfl at_chain bound
    exact first.append (hypothesis _ (plain _) _ at_chain above bound)
  | envelope change rest hypothesis =>
    have first := of_step (.envelope change rest) plain rfl at_chain bound
    exact first.append (hypothesis plain _ at_chain above bound)
  | store change rest hypothesis =>
    have first := of_step (.store change rest) plain rfl at_chain bound
    exact first.append (hypothesis plain _ at_chain above bound)
  | headers change rest hypothesis =>
    have first := of_step (.headers change rest) plain rfl at_chain bound
    exact first.append (hypothesis plain _ at_chain above bound)
  | write status body rest hypothesis =>
    have first := of_step (.write status body rest) plain rfl at_chain bound
    exact first.append (hypothesis _ (plain _) _ at_chain above bound)
  | sink change rest hypothesis =>
    have first := of_step (.sink change rest) plain rfl at_chain bound
    exact first.append (hypothesis plain _ at_chain above bound)
  | stop rest hypothesis =>
    have first := of_step (.stop rest) plain rfl at_chain bound
    exact first.append (hypothesis plain _ at_chain above bound)
  | begin | run => exact plain.elim
  | next rest hypothesis =>
    have first := of_advance rest inner r at_chain above bound
    have later : floor ≤ (r.recordAdvance recorder).result.2.call.position :=
      Nat.le_trans above first.forward
    have go := fun fault => hypothesis fault (plain fault) _ first.chain_eq later first.bound
    revert first go
    rw [Program.record]
    obtain ⟨events, verdict, middle⟩ := r.recordAdvance recorder
    intro first go
    cases verdict with
    | returned u => exact first.append (go none)
    | failed fault => exact first.append (go (some fault))
    | panicked cause => exact first.append (refl first.chain_eq first.bound)

/-- Handlers of the chain make stretches of it at every depth that the handlers behind them need. -/
theorem of_recordWithin (plain : ∀ p ∈ chain, p.Plain) (depth : Nat) :
    ∀ p ∈ chain, ∀ r : Run W, r.ctx.chain = chain → r.call.position < chain.length →
      chain.length ≤ r.call.position + depth →
      Stretch chain r (p.recordWithin depth r).events (p.recordWithin depth r).result.2 := by
  induction depth with
  | zero =>
    intro p member r at_chain bound deep
    omega
  | succ depth hypothesis =>
    intro p member r at_chain bound deep
    have inner : ∀ p ∈ chain, ∀ m : Run W, m.ctx.chain = chain →
        r.call.position < m.call.position → m.call.position < chain.length →
        Stretch chain m (p.recordWithin depth m).events (p.recordWithin depth m).result.2 := by
      intro p member m at_chain ahead size
      exact hypothesis p member m at_chain size (by omega)
    exact of_record inner p (plain p member) r at_chain (Nat.le_refl _) (Nat.le_of_lt bound)

theorem of_recordChain {first : Program W} {others : List (Program W)}
    (plain : ∀ p ∈ first :: others, p.Plain) (r : Run W) :
    ∃ inside : Ending W Unit,
      Program.recordChain (first :: others) r =
        inside.after (.entered 0 first (r.install (first :: others))) ∧
      Stretch (first :: others) (r.install (first :: others)) inside.events inside.result.2 := by
  have enough : (first :: others).length ≤ Program.spareDepth + (first :: others).length :=
    Nat.le_add_left _ _
  refine ⟨_, rfl, ?_⟩
  exact of_recordWithin plain _ first List.mem_cons_self _ rfl (Nat.succ_pos _)
    (Nat.le_add_left_of_le enough)

theorem silenced (stretch : Stretch chain r events final) {before after : List (Event W)}
    {rest : Program W} {m : Run W} (split : events = before ++ .step (.stop rest) m :: after) :
    entered after = [] := by
  have ordered := stretch.ordered
  rw [split, List.pairwise_append, List.pairwise_cons] at ordered
  rw [entered, List.filterMap_eq_nil_iff]
  intro e member
  have halted : e.run.call.stopped = true :=
    (ordered.2.1.1 e member).2 (Bool.or_true _)
  cases e with
  | entered index handler at_entry =>
    have live := stretch.awake index handler at_entry (by simp [split, member])
    exact absurd live (by simpa [Event.run] using halted)
  | step | cut | hook | method => rfl

end Stretch

/-- What a run of a chain is like. `handlers`: they begin in the order of the chain, each once, and
one more begins for every request for the next one while the call is not stopped. `finished`: no
deeper entries than the chain is long are ever asked for. -/
structure InOrder (chain : List (Program W)) (r : Run W) (x : Ending W Unit) : Prop where
  handlers : entered x.events = chain.zipIdx.take (min chain.length (1 + handOns x.events))
  silenced : ∀ before rest m after, x.events = before ++ .step (.stop rest) m :: after →
    entered after = []
  forward : x.events.Pairwise fun a b => a.run.call.position ≤ b.run.call.position
  bounded : ∀ e ∈ x.events, e.run.call.position ≤ chain.length
  position : x.result.2.call.position = min chain.length (handOns x.events)
  uncut : Uncut x.events
  finished : ∀ depth, chain.length ≤ depth →
    r.recordStart (Program.recordWithin depth) chain = x
  settled : Settled x.events

/-- The first handlers of a chain: the one that begins at once, and one for each hand-on. -/
theorem take_succ_min {α : Type} (l : List α) (n : Nat) :
    l.take (min l.length n + 1) = l.take (min l.length (1 + n)) := by
  by_cases short : n < l.length
  · rw [Nat.min_eq_right (Nat.le_of_lt short), Nat.min_eq_right (by omega), Nat.add_comm]
  · rw [Nat.min_eq_left (by omega), Nat.min_eq_left (by omega), List.take_length,
      List.take_of_length_le (by omega)]

namespace Program

theorem recordChain_stopped {chain : List (Program W)} (plain : ∀ p ∈ chain, p.Plain)
    (r : Run W) :
    (recordChain chain r).result.2.call.stopped =
      (r.call.stopped || (recordChain chain r).events.any Event.isStop) := by
  cases chain with
  | nil => exact (Bool.or_false _).symm
  | cons first rest =>
    obtain ⟨inside, whole, stretch⟩ := Stretch.of_recordChain plain r
    rw [whole]
    exact stretch.stopped

theorem uncut_recordStart {chain : List (Program W)} (plain : ∀ p ∈ chain, p.Plain) (r : Run W)
    {depth : Nat} (enough : chain.length ≤ depth) :
    Uncut (r.recordStart (recordWithin depth) chain).events := by
  cases chain with
  | nil => simp [Run.recordStart, Uncut]
  | cons first rest =>
    have stretch := Stretch.of_recordWithin plain depth first List.mem_cons_self
      (r.install (first :: rest)) rfl (Nat.succ_pos _) (Nat.le_add_left_of_le enough)
    simpa [Run.recordStart, Uncut] using stretch.uncut

theorem recordStart_eq {chain : List (Program W)} (plain : ∀ p ∈ chain, p.Plain) (r : Run W)
    {depth : Nat} (enough : chain.length ≤ depth) :
    r.recordStart (recordWithin depth) chain = r.recordStart (recordWithin chain.length) chain :=
  (extends_recordWithin enough).start (uncut_recordStart plain r (Nat.le_refl _))

/-- The handlers of a chain run in its order, as far as they hand the call on. -/
theorem performChain_inOrder (chain : List (Program W)) (plain : ∀ p ∈ chain, p.Plain)
    (r : Run W) :
    (recordChain chain r).result = performChain chain r ∧
      InOrder chain r (recordChain chain r) := by
  refine ⟨recordChain_result chain r, ?_⟩
  have enough : chain.length ≤ spareDepth + chain.length := Nat.le_add_left _ _
  have settled : Settled (recordChain chain r).events :=
    Settled.start (Settled.recordWithin _) chain r
  have uncut : Uncut (recordChain chain r).events := uncut_recordStart plain r enough
  have finished : ∀ depth, chain.length ≤ depth →
      r.recordStart (recordWithin depth) chain = recordChain chain r := by
    intro depth deep
    rw [recordChain, recordStart_eq plain r deep, recordStart_eq plain r enough]
  cases chain with
  | nil =>
    exact
      { handlers := rfl, silenced := by simp [recordChain, Run.recordStart]
        forward := List.Pairwise.nil, bounded := by simp [recordChain, Run.recordStart]
        position := rfl, uncut, finished, settled }
  | cons first rest =>
    obtain ⟨inside, whole, stretch⟩ := Stretch.of_recordChain plain r
    have hands : handOns (recordChain (first :: rest) r).events = handOns inside.events := by
      simp [whole, handOns, Event.handsOn]
    have position : inside.result.2.call.position =
        min (first :: rest).length (handOns inside.events) := by
      have counted := stretch.position
      rwa [show (r.install (first :: rest)).call.position = 0 from rfl, Nat.zero_add] at counted
    refine
      { handlers := ?_, silenced := ?_, forward := ?_, bounded := ?_
        position := by rw [hands, ← position, whole]; rfl
        uncut, finished, settled }
    · have begun : entered (recordChain (first :: rest) r).events =
          (first, 0) :: entered inside.events := by rw [whole]; rfl
      have size : (first :: rest).zipIdx.length = (first :: rest).length := List.length_zipIdx
      rw [begun, stretch.handlers, hands, position, ← size, ← take_succ_min]
      simp [Run.install, Run.call]
    · intro before stopping m after split
      rw [whole, Recorded.events_after] at split
      cases before with
      | nil => cases split
      | cons e before => exact stretch.silenced (List.cons.inj split).2
    · rw [whole, Recorded.events_after, List.pairwise_cons]
      refine ⟨fun e member => (stretch.from_start e member).1, ?_⟩
      exact stretch.ordered.imp fun precedes => precedes.1
    · intro e member
      rw [whole, Recorded.events_after, List.mem_cons] at member
      rcases member with rfl | member
      · exact Nat.zero_le _
      · exact Nat.le_trans (stretch.to_end e member).1 stretch.bound

abbrev blank : World where
  State := Unit
  ArgType := Empty
  Arg := nofun
  typeName := nofun

/-- The first handler asks for the next one again when the second one has failed and stopped. -/
theorem performChain_inOrder_of_stop :
    let second : Program blank := .next fun _ => .stop (.fail (Fault.server "refused"))
    let chain : List (Program blank) := [.next fun _ => .next fun _ => .done, second, .done, .done]
    let r : Run blank := { ctx := {}, world := (), now := 0 }
    (∀ p ∈ chain, p.Plain) ∧ (recordChain chain r).result = performChain chain r ∧
      InOrder chain r (recordChain chain r) ∧ (entered (recordChain chain r).events).length = 3 := by
  intro second chain r
  have plain : ∀ p ∈ chain, p.Plain := by simp [chain, second, Plain]
  obtain ⟨erased, order⟩ := performChain_inOrder chain plain r
  refine ⟨plain, erased, order, ?_⟩
  rw [← order.finished 4 (Nat.le_refl _)]
  rfl

end Program

end JsonRpc
