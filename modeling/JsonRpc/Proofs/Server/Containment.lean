import JsonRpc.Proofs.Invocation.Plan
import JsonRpc.Proofs.Program.Panic
import JsonRpc.Proofs.Server.Stages

namespace JsonRpc

variable {W : World}

theorem Sounded.alone (s : Surroundings) (e : Event W) : Sounded s [e] (e.panic? s) := by
  cases panics : e.panic? s with
  | none => simpa [Sounded] using panics
  | some cause => exact .last panics

theorem Verdict.becomes_of_panic {α : Type} {v : Verdict α} {cause : Panic}
    (panics : v.panic? = some cause) (method trace : String) :
    cause.Becomes method trace (v.contain method trace) := by
  rw [panic?_eq_some.mp panics]
  exact contain_becomes cause method trace

theorem Panic.Becomes.andThen {α β : Type} {cause : Panic} {method trace : String}
    {ended : Verdict α × Run W} (becomes : cause.Becomes method trace ended.1)
    (next : α → Run W → Verdict β × Run W) :
    cause.Becomes method trace (Verdict.andThen next ended).1 := by
  obtain ⟨verdict, r⟩ := ended
  cases becomes with
  | text text => exact .text text
  | value => exact .value
  | bomb raised => exact .bomb raised

namespace Callback

variable {s : Surroundings}

theorem recordMethod_sounded (cb : Callback W) (bound : Bound W) (r : Run W) :
    (cb.recordMethod s bound r).Sounded s := by
  have panics : (Event.method cb bound r).panic? s = (cb.runMethod s bound r).1.panic? := by
    rw [runMethod_eq]
    simp only [Event.panic?]
    rcases cb.method.call r.call.scope s.now bound.typed r.world with ⟨cause | outcome, world⟩
    · rfl
    · rfl
  have alone := Sounded.alone s (.method cb bound r)
  rw [panics] at alone
  exact alone

theorem recordPlan_sounded (cb : Callback W) {hooks : Hooks W} {name : String} {bound : Bound W}
    (plan : List Act) (outcome : Option Outcome) (r : Run W) :
    (cb.recordPlan hooks s name bound plan outcome r).Sounded s := by
  induction plan generalizing outcome r with
  | nil =>
    have calm : ((outcome.getD {}).verdict).panic? = none := by
      rw [Outcome.verdict]
      cases (outcome.getD {}).result <;> rfl
    show JsonRpc.Sounded s [] ((outcome.getD {}).verdict).panic?
    rw [calm]
    exact .nil
  | cons act plan hypothesis =>
    cases act with
    | hook place =>
      have begun : (recordHook place name bound.raw outcome
          (cb.hookAt hooks name bound.raw outcome place) r).Sounded s :=
        .after rfl (Program.recordPerform_sounded _ r)
      exact begun.onReturn fun u m => hypothesis outcome m
    | method =>
      exact (recordMethod_sounded cb bound r).onReturn fun left m => hypothesis (some left) m

theorem recordSteps_sounded (cb : Callback W) (hooks : Hooks W) (name : String) (bound : Bound W)
    (r : Run W) : (cb.recordSteps hooks s name bound r).Sounded s := by
  rw [recordSteps_eq_recordPlan]
  exact cb.recordPlan_sounded hooks.plan none r

end Callback

namespace Server

variable {server : Server W} {s : Surroundings} {r : Run W}

theorem recordMiddleware_contains (server : Server W) (s : Surroundings) (r : Run W) : ∃ end?,
    Sounded s (server.recordMiddleware s r).events end? ∧
      ∀ cause, end? = some cause → cause.Becomes r.call.envelope.method s.trace
        (server.recordMiddleware s r).result.1 := by
  rw [recordMiddleware]
  split
  · exact ⟨none, .nil, by simp⟩
  · have sounded := Program.recordChain_sounded (s := s) (server.middleware.map (·.handler)) r
    exact ⟨_, sounded, fun cause panics => Verdict.becomes_of_panic panics _ _⟩

theorem recordCall_contains (server : Server W) (s : Surroundings) (cb : Callback W) (r : Run W) :
    ∃ end?, Sounded s (server.recordCall s cb r).events end? ∧
      ∀ cause, end? = some cause → cause.Becomes r.call.envelope.method s.trace
        (server.recordCall s cb r).result.1 := by
  cases binds : cb.bind r.call.envelope.params with
  | failed fault =>
    rw [recordCall, binds]
    exact ⟨none, .nil, by simp⟩
  | panicked cause =>
    rw [recordCall, binds]
    exact ⟨none, .nil, by simp⟩
  | returned bound =>
    rw [recordCall_of_bound binds]
    have sounded := cb.recordSteps_sounded (s := s) server.registry.hooks r.call.envelope.method
      bound (emptied r)
    refine ⟨_, sounded, fun cause panics => ?_⟩
    rw [Recorded.result_map, Callback.recordInvoke, Recorded.result_map]
    have becomes := Verdict.becomes_of_panic panics r.call.envelope.method s.trace
    exact becomes.andThen _

theorem recordPassed_contains (server : Server W) (s : Surroundings) (cb : Callback W)
    (passed : Verdict Unit × Run W) :
    ∃ end?, Sounded s (server.recordPassed s cb passed).events end? ∧
      ∀ cause, end? = some cause → cause.Becomes passed.2.call.envelope.method s.trace
        (server.recordPassed s cb passed).result.1 := by
  obtain ⟨⟨⟩ | fault | cause, left⟩ := passed
  rotate_left
  · exact ⟨none, .nil, by simp⟩
  · exact ⟨none, .nil, by simp⟩
  · rw [recordPassed]
    split
    · exact ⟨none, .nil, by simp⟩
    · exact recordCall_contains server s cb left

theorem recordPassed_of_becomes (server : Server W) (cb : Callback W) {cause : Panic}
    {method : String} {passed : Verdict Unit × Run W}
    (becomes : cause.Becomes method s.trace passed.1) :
    (server.recordPassed s cb passed).events = [] ∧
      cause.Becomes method s.trace (server.recordPassed s cb passed).result.1 := by
  obtain ⟨verdict, left⟩ := passed
  cases becomes with
  | text text => exact ⟨rfl, .text text⟩
  | value => exact ⟨rfl, .value⟩
  | bomb raised => exact ⟨rfl, .bomb raised⟩

theorem recordDispatch_contains {cb : Callback W} {m : Run W}
    (resolved : server.resolveCall s r = (.ok cb, m)) :
    ∃ end?, Sounded s (server.recordDispatch s r).events end? ∧
      ∀ cause, end? = some cause → ∃ name,
        cause.Becomes name s.trace (server.recordDispatch s r).result.1 ∧
        ((∀ e ∈ (server.recordDispatch s r).events, e.edits = false) →
          name = m.call.envelope.method) := by
  obtain ⟨early?, early, becomes⟩ := recordMiddleware_contains server s m
  have dispatched : server.recordDispatch s r =
      (server.recordMiddleware s m).andThen (server.recordPassed s cb) := by
    rw [recordDispatch, resolved]
  rw [dispatched, Recorded.events_andThen, Recorded.result_andThen]
  cases early? with
  -- the middleware has panicked: nothing follows
  | some cause =>
    obtain ⟨silent, ended⟩ := server.recordPassed_of_becomes cb (becomes cause rfl)
    refine ⟨some cause, ?_, fun other same => ?_⟩
    · rw [silent, List.append_nil]
      exact early
    · obtain rfl := Option.some.inj same
      exact ⟨_, ended, fun _ => rfl⟩
  | none =>
    obtain ⟨late?, late, ended⟩ :=
      recordPassed_contains server s cb (server.recordMiddleware s m).result
    refine ⟨late?, early.append late, fun cause panics =>
      ⟨_, ended cause panics, fun unedited => ?_⟩⟩
    -- the invocation reads the name out of the envelope that the middleware has left
    have same := (Passage.sameCall s).recordMiddleware server m fun e member =>
      unedited e (List.mem_append_left _ member)
    exact same.method

theorem named_of_resolved (blank : r.call.envelope = {}) {cb : Callback W} {m : Run W}
    (resolved : server.resolveCall s r = (.ok cb, m)) :
    ∃ id address, server.echoed? r = some id ∧ server.address? r = some address ∧
      m.call.envelope.method = joined address := by
  rcases resolveCall_stages server s blank with
    ⟨fault, other, ended, -⟩ | ⟨found, other, ended, sound, -, prepared, -⟩
  · rw [resolved] at ended
    cases ended
  · rw [resolved] at ended
    cases ended
    obtain ⟨body, -, opened⟩ := Option.bind_eq_some_iff.mp prepared
    obtain ⟨e, read, addressed⟩ := Option.bind_eq_some_iff.mp opened
    obtain ⟨address, located, rfl⟩ := Option.map_eq_some_iff.mp addressed
    have passes := List.findSome?_eq_none_iff.mp sound .identity (by decide)
    have valid : e.hasValidId = true := by simpa [faultAt?, read] using passes
    have echoed := echoed?_of_read read
    rw [if_pos valid] at echoed
    cases named : e.id with
    | none => simp [Envelope.hasValidId, named] at valid
    | some id => exact ⟨id, address, by rw [echoed, named], located, rfl⟩

theorem dispatch_of_panic {before after : List (Event W)} {e : Event W} {cause : Panic}
    (split : (server.recordDispatch s r).events = before ++ e :: after)
    (panics : e.panic? s = some cause) :
    after = [] ∧ (∀ other ∈ before, other.panic? s = none) ∧
      ∃ cb m name, server.resolveCall s r = (.ok cb, m) ∧
        cause.Becomes name s.trace (server.dispatch s r).1 ∧
        ((∀ other ∈ (server.recordDispatch s r).events, other.edits = false) →
          name = m.call.envelope.method) := by
  rcases resolved : server.resolveCall s r with ⟨fault | cb, m⟩
  · rw [recordDispatch, resolved] at split
    cases before <;> cases split
  · obtain ⟨end?, sounded, contains⟩ := recordDispatch_contains resolved
    obtain ⟨last, calm, ended⟩ := sounded.of_split split panics
    obtain ⟨name, becomes, named⟩ := contains cause ended
    rw [recordDispatch_result] at becomes
    exact ⟨last, calm, cb, m, name, rfl, becomes, named⟩

theorem conclude_of_failed {fault : Fault} (blank : r.call.envelope = {})
    (unwritten : r.call.sink.written = false)
    (unedited : ∀ e ∈ (server.recordDispatch s r).events, e.edits = false)
    (unmarked : leavesWritten false (server.recordDispatch s r).events = false)
    (failed : (server.dispatch s r).1 = .failed fault) :
    ∃ response, (server.conclude s (server.dispatch s r)).1 = .ok response ∧
      response.status = 200 ∧ server.openBody response.body = .ok (Envelope.encode
        { id := some ((server.echoed? r).getD Envelope.placeholderId)
          version := protocolVersion
          error := some fault }) := by
  have states := dispatch_stages server s blank
  rw [failed] at states
  have first : server.firstFault? s r = some fault := states
  have kept : ∀ cause, ¬ server.Escapes s r cause := by
    intro cause escapes
    rw [dispatch_panicked_iff.mpr escapes] at failed
    cases failed
  obtain ⟨response, result, answered, status, body, alone⟩ :=
    (judges_of_unedited blank unwritten unedited unmarked).answered kept
  rw [first] at body alone
  rw [alone.mpr rfl] at body
  exact ⟨response, answered, status, body⟩

theorem conclude_ok_of_failed {ended : Verdict Unit × Run W} {fault : Fault}
    (failed : ended.1 = .failed fault) :
    ∃ response, (server.conclude s ended).1 = .ok response := by
  obtain ⟨verdict, final⟩ := ended
  obtain rfl : verdict = .failed fault := failed
  exact ⟨_, rfl⟩

theorem admitted_of_event {request : Http.Request} {world : W} {e : Event W}
    (clean : server.pool.Clean) (happens : e ∈ (server.recordHandle s request world).events) :
    server.declined? (Call.begin {} request) = none := by
  rw [(answersAsNew_of_clean clean s request world).shown, recordContext] at happens
  cases declined : server.declined? (Call.begin {} request) with
  | none => rfl
  | some response =>
    have same : server.declined? (Context.begin {} request : Context W).call = some response :=
      declined
    rw [same] at happens
    cases happens

end Server

/-- What is so of a request in whose call some code panics. -/
structure Site.Contains (site : Site W) (s : Surroundings) (request : Http.Request) (cause : Panic)
    (events : List (Event W)) (ended : Answer × Server W × W) : Prop where
  returns : (∀ raised, cause ≠ .bomb raised) → ∃ response, ended.1 = .ok response
  answered : (∀ e ∈ events, e.edits = false) → leavesWritten false events = false →
    (∀ raised, cause ≠ .bomb raised) →
    let r := Server.entry s (Context.begin {} request) site.world
    ∃ response id address fault, ended.1 = .ok response ∧ response.status = 200 ∧
      site.server.echoed? r = some id ∧ site.server.address? r = some address ∧
      cause.Becomes (Server.joined address) s.trace (.failed fault : Verdict Unit) ∧
      site.server.openBody response.body = .ok (Envelope.encode
        { id := some id, version := protocolVersion, error := some fault })
  /-- Only a panic that dropping another one raises is kept back by nothing. -/
  unwinds : ∀ raised, cause = .bomb raised → ended.1 = .error raised
  /-- One context is taken from the pool, and one that is cleared is put back. -/
  released : ended.2.1 = { site.server with pool := site.server.pool.acquire.2.release {} }
  clean : ∀ ctx ∈ ended.2.1.pool.free, ctx = {}
  /-- All that is done later is answered as by a server that has never had the request, in the world
  that its code has left. -/
  forgotten : ∀ deeds,
    ({ site with server := ended.2.1, world := ended.2.2 } : Site W).replies deeds =
      ({ site with world := ended.2.2 } : Site W).replies deeds

theorem Panic.Becomes.fault_of_ne_bomb {α : Type} {cause : Panic} {method trace : String}
    {v : Verdict α} (becomes : cause.Becomes method trace v)
    (calm : ∀ raised, cause ≠ .bomb raised) :
    ∃ fault, v = .failed fault ∧ cause.Becomes method trace (.failed fault : Verdict Unit) := by
  cases becomes with
  | text text => exact ⟨_, rfl, .text text⟩
  | value => exact ⟨_, rfl, .value⟩
  | bomb raised => exact absurd rfl (calm raised)

namespace Server

theorem contains_of_panic {site : Site W} {s : Surroundings} {request : Http.Request}
    (clean : site.server.pool.Clean) {before after : List (Event W)} {e : Event W} {cause : Panic}
    (split : (site.server.recordHandle s request site.world).events = before ++ e :: after)
    (panics : e.panic? s = some cause) :
    after = [] ∧ (∀ other ∈ before, other.panic? s = none) ∧
      site.Contains s request cause (site.server.recordHandle s request site.world).events
        (site.server.recordHandle s request site.world).result := by
  have happens : e ∈ (site.server.recordHandle s request site.world).events := by simp [split]
  have admitted := admitted_of_event clean happens
  rw [recordHandle_of_admitted clean admitted] at split ⊢
  rw [Recorded.events_map] at split
  obtain ⟨last, calm, cb, m, name, resolved, becomes, named⟩ := dispatch_of_panic split panics
  refine ⟨last, calm, ?_⟩
  rw [Recorded.result_map, Recorded.events_map, recordDispatch_result]
  have behind : (site.server.pool.acquire.2.release {}).Clean := clean.acquire.2.release {}
  have released := conclude_released { site.server with pool := site.server.pool.acquire.2 } s
    (site.server.dispatch s (entry s (Context.begin {} request) site.world))
  refine
    { returns := fun tame => ?_
      answered := fun unedited unmarked tame => ?_
      unwinds := ?_
      released := congrArg Prod.fst released
      clean := ?_
      forgotten := fun deeds => ?_ }
  · obtain ⟨fault, failed, -⟩ := becomes.fault_of_ne_bomb tame
    exact conclude_ok_of_failed failed
  · obtain ⟨fault, failed, stated⟩ := becomes.fault_of_ne_bomb tame
    obtain ⟨response, answered, status, body⟩ :=
      conclude_of_failed rfl rfl unedited unmarked failed
    obtain ⟨id, address, echoed, located, method⟩ := named_of_resolved rfl resolved
    rw [echoed] at body
    rw [named unedited, method] at stated
    refine ⟨response, id, address, fault, ?_, status, echoed, located, stated, body⟩
    rw [(conclude_of_pool ..).1, answered]
  · rintro raised rfl
    rw [conclude_error_iff]
    generalize (site.server.dispatch s _).1 = verdict at becomes
    cases becomes
    rfl
  · rw [released]
    exact behind
  · rw [released]
    exact Site.replies_of_pool clean behind site.held _ deeds

/-- A panic of a handler, a hook or a method ends its call and nothing else. None gets out of the
server but one that is raised by dropping what code panicked with. -/
theorem handle_containsPanic (registry : Registry W) (options : Options) (start : W)
    (deeds : List (Deed W)) (s : Surroundings) (request : Http.Request)
    (before after : List (Event W)) (e : Event W) (cause : Panic) :
    let site := (Site.ofServer (ofRegistry registry options) start).run deeds
    let recorded := site.server.recordHandle s request site.world
    recorded.events = before ++ e :: after → e.panic? s = some cause →
    recorded.result = site.server.handle s request site.world ∧
      after = [] ∧ (∀ other ∈ before, other.panic? s = none) ∧
      site.Contains s request cause recorded.events recorded.result := by
  intro site recorded split panics
  have clean : site.server.pool.Clean := Site.run_ofRegistry_clean registry options start deeds
  exact ⟨recordHandle_result site.server s request site.world,
    contains_of_panic clean split panics⟩

theorem handle_containsPanic_fall :
    let site := (Site.ofServer (ofRegistry (fallServer []).registry {}) untouched).run []
    let recorded := site.server.recordHandle stillness fallRequest site.world
    ∃ before e, recorded.events = before ++ [e] ∧
      e.panic? stillness = some (.text "kaboom") ∧
      recorded.result = site.server.handle stillness fallRequest site.world ∧
      recorded.result.1 = .ok (fallResponse "demo.fall") ∧
      (∀ other ∈ before, other.panic? stillness = none) ∧
      site.Contains stillness fallRequest (.text "kaboom") recorded.events recorded.result := by
  intro site recorded
  have ends : recorded.events.getLast?.bind (Event.panic? stillness) = some (.text "kaboom") := by
    decide +kernel
  have answered : recorded.result.1 = .ok (fallResponse "demo.fall") := by decide +kernel
  obtain ⟨e, last, panics⟩ := Option.bind_eq_some_iff.mp ends
  obtain ⟨before, split⟩ := List.getLast?_eq_some_iff.mp last
  obtain ⟨result, -, calm, contains⟩ := handle_containsPanic (fallServer []).registry {}
    untouched [] stillness fallRequest before [] e _ split panics
  exact ⟨before, e, split, panics, result, answered, calm, contains⟩

/-- The method panics with a value that panics when it is dropped, and there is no response. -/
theorem handle_burst :
    (burstServer.recordHandle stillness fallRequest untouched).events.getLast?.bind
        (Event.panic? stillness) = some (.bomb (.text "dropped")) ∧
      (burstServer.handle stillness fallRequest untouched).1 = .error (.text "dropped") := by
  decide +kernel

end Server

end JsonRpc
