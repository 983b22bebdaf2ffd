import JsonRpc.Proofs.Invocation.Plan
import JsonRpc.Proofs.Program.Discreet
import JsonRpc.Proofs.Server.Stages

namespace JsonRpc

variable {W : World}

structure Hooks.Discreet (hooks : Hooks W) : Prop where
  before : ∀ hook, hooks.before = some hook → ∀ name raw, (hook name raw).Discreet
  after : ∀ hook, hooks.after = some hook → ∀ name raw outcome, (hook name raw outcome).Discreet

structure Service.Discreet (service : Service W) : Prop where
  before : ∀ name raw, (service.beforeCall name raw).Discreet
  after : ∀ name raw outcome, (service.afterCall name raw outcome).Discreet

/-- No code that a server over the registry runs reads the body of a request. Methods cannot. -/
structure Registry.Discreet (registry : Registry W) : Prop where
  middleware : ∀ m ∈ registry.middleware, m.handler.Discreet
  hooks : registry.hooks.Discreet
  services : ∀ service ∈ registry.services, ∀ exposed ∈ service.2.methods,
    exposed.2.receiver.Discreet

theorem Registry.Discreet.receiver {registry : Registry W} (discreet : registry.Discreet)
    {method : String} {cb : Callback W} (resolved : registry.resolve method = .ok cb) :
    cb.receiver.Discreet := by
  obtain ⟨service, member, exposed, bound, rfl⟩ := mem_of_resolve resolved
  exact discreet.services service member exposed bound

namespace Callback

variable {cb : Callback W} {hooks : Hooks W} {s : Surroundings} {r seen : Run W}

theorem hookAt_discreet (surrounded : hooks.Discreet) (served : cb.receiver.Discreet)
    (name : String) (raw : List Json) (outcome : Option Outcome) (place : HookPlace) :
    (cb.hookAt hooks name raw outcome place).Discreet := by
  cases place with
  | registryBefore =>
    rw [hookAt, hookBefore]
    cases set : hooks.before with
    | none => exact .done
    | some hook => exact surrounded.before hook set name raw
  | serviceBefore => exact served.before name raw
  | serviceAfter => exact served.after name raw (outcome.getD {})
  | registryAfter =>
    rw [hookAt, hookAfter]
    cases set : hooks.after with
    | none => exact .done
    | some hook => exact surrounded.after hook set name raw (outcome.getD {})

theorem markStart_alike (time : Int64) (alike : r.Alike seen) :
    (r.edit (Call.markStart time)).Alike (seen.edit (Call.markStart time)) := by
  refine alike.edit fun call => ?_
  have stored : call.veil.store = call.store := rfl
  unfold Call.markStart
  rw [stored]
  split <;> rfl

theorem runMethod_alike (cb : Callback W) (s : Surroundings) (bound : Bound W)
    (alike : r.Alike seen) :
    (cb.runMethod s bound r).1 = (cb.runMethod s bound seen).1 ∧
      (cb.runMethod s bound r).2.Alike (cb.runMethod s bound seen).2 := by
  have started := markStart_alike s.begun alike
  have scope := started.shows Call.scope fun _ => rfl
  simp only [runMethod, scope, started.world]
  rcases cb.method.call (seen.edit (Call.markStart s.begun)).call.scope s.now bound.typed
    (seen.edit (Call.markStart s.begun)).world with ⟨cause | outcome, world⟩
  · exact ⟨rfl, started.call, started.chain, rfl, started.now⟩
  · have left : Run.Alike { r.edit (Call.markStart s.begun) with world }
        { seen.edit (Call.markStart s.begun) with world } :=
      ⟨started.call, started.chain, rfl, started.now⟩
    exact ⟨rfl, left.edit fun _ => rfl⟩

theorem recordMethod_alike (bound : Bound W) (alike : r.Alike seen) :
    (cb.recordMethod s bound r).Alike (cb.recordMethod s bound seen) := by
  obtain ⟨result, left⟩ := cb.runMethod_alike s bound alike
  exact ⟨.cons (.method cb bound alike) .nil, result, left⟩

theorem recordPlan_alike (surrounded : hooks.Discreet) (served : cb.receiver.Discreet)
    {name : String} {bound : Bound W} (plan : List Act) (outcome : Option Outcome)
    (alike : r.Alike seen) :
    (cb.recordPlan hooks s name bound plan outcome r).Alike
      (cb.recordPlan hooks s name bound plan outcome seen) := by
  induction plan generalizing outcome r seen with
  | nil => exact .silent alike
  | cons act plan hypothesis =>
    cases act with
    | hook place =>
      have code := hookAt_discreet surrounded served name bound.raw outcome place
      have begun : (recordHook place name bound.raw outcome _ r).Alike
          (recordHook place name bound.raw outcome _ seen) :=
        .after (.hook place name bound.raw outcome alike) (Program.recordPerform_alike code alike)
      exact begun.onReturn fun u m later alike => hypothesis outcome alike
    | method =>
      exact (recordMethod_alike bound alike).onReturn fun left m later alike =>
        hypothesis (some left) alike

theorem recordInvoke_alike (surrounded : hooks.Discreet) (served : cb.receiver.Discreet)
    (name : String) (bound : Bound W) (alike : r.Alike seen) :
    (cb.recordInvoke hooks s name bound r).Alike (cb.recordInvoke hooks s name bound seen) := by
  have steps :
      (cb.recordSteps hooks s name bound r).Alike (cb.recordSteps hooks s name bound seen) := by
    rw [recordSteps_eq_recordPlan, recordSteps_eq_recordPlan]
    exact recordPlan_alike surrounded served hooks.plan none alike
  exact ⟨steps.events, congrArg (Verdict.contain name s.trace) steps.result, steps.run⟩

end Callback

namespace Server

variable {server other : Server W} {s : Surroundings} {r seen : Run W}

theorem recordMiddleware_alike (same : other.middleware = server.middleware)
    (discreet : ∀ m ∈ server.middleware, m.handler.Discreet) (alike : r.Alike seen) :
    (server.recordMiddleware s r).Alike (other.recordMiddleware s seen) := by
  have name := alike.shows (·.envelope.method) fun _ => rfl
  have code : List.Forall₂ Program.Alike (server.middleware.map (·.handler))
      (server.middleware.map (·.handler)) := by
    rw [List.forall₂_map_left_iff, List.forall₂_map_right_iff, List.forall₂_same]
    exact discreet
  rw [recordMiddleware, recordMiddleware, same, name]
  split
  · exact .silent alike
  · have chain := Program.recordChain_alike code alike
    exact ⟨chain.events, congrArg (Verdict.contain _ s.trace) chain.result, chain.run⟩

theorem settle_alike {x y : Ending W Json} (alike : x.Alike y) :
    (x.map settle).Alike (y.map settle) := by
  obtain ⟨events, verdict, r⟩ := x
  obtain ⟨happened, same, seen⟩ := y
  obtain rfl : verdict = same := alike.result
  cases verdict with
  | failed fault => exact ⟨alike.events, rfl, alike.run⟩
  | panicked cause => exact ⟨alike.events, rfl, alike.run⟩
  | returned value =>
    have left : (r.edit fun call => { call with envelope := call.envelope.setResult value }).Alike
        (seen.edit fun call => { call with envelope := call.envelope.setResult value }) :=
      alike.run.edit fun _ => rfl
    exact ⟨alike.events, rfl, left⟩

theorem recordCall_alike (same : other.registry = server.registry)
    (discreet : server.registry.Discreet) {cb : Callback W} (served : cb.receiver.Discreet)
    (alike : r.Alike seen) :
    (server.recordCall s cb r).Alike (other.recordCall s cb seen) := by
  have envelope := alike.shows Call.envelope fun _ => rfl
  have emptied : (emptied r).Alike (emptied seen) := alike.edit fun _ => rfl
  rw [recordCall, recordCall, same, envelope]
  cases cb.bind seen.call.envelope.params with
  | failed fault => exact .silent emptied
  | panicked cause => exact .silent emptied
  | returned bound =>
    exact settle_alike (Callback.recordInvoke_alike discreet.hooks served
      seen.call.envelope.method bound emptied)

theorem recordPassed_alike (same : other.registry = server.registry)
    (discreet : server.registry.Discreet) {cb : Callback W} (served : cb.receiver.Discreet)
    (verdict : Verdict Unit) (alike : r.Alike seen) :
    (server.recordPassed s cb (verdict, r)).Alike (other.recordPassed s cb (verdict, seen)) := by
  have stopped := alike.shows Call.stopped fun _ => rfl
  cases verdict with
  | failed fault => exact .silent alike
  | panicked cause => exact .silent alike
  | returned u =>
    rw [recordPassed, recordPassed, stopped]
    split
    · exact .silent alike
    · exact recordCall_alike same discreet served alike

theorem resolveCall_alike (same : other.registry = server.registry) {body : Bytes}
    (plain : server.openBody r.call.request.body = .ok body)
    (opened : other.openBody seen.call.request.body = .ok body) (alike : r.Alike seen) :
    (server.resolveCall s r).1 = (other.resolveCall s seen).1 ∧
      (server.resolveCall s r).2.Alike (other.resolveCall s seen).2 := by
  have took : ∀ e, (taken s r body e).Alike (taken s seen body e) := fun e =>
    alike.edit fun _ => rfl
  cases parsed : Envelope.parse body with
  | error fault =>
    simp only [resolveCall, plain, opened, parsed]
    exact ⟨trivial, alike.edit fun _ => rfl⟩
  | ok e =>
    -- behind the opening, neither server looks at the request any more
    rw [resolveCall_of_read plain parsed, resolveCall_of_read opened parsed, same]
    split
    · split
      · exact ⟨rfl, took _⟩
      · exact ⟨rfl, took _⟩
    · exact ⟨rfl, took _⟩

theorem recordDispatch_alike (registry : other.registry = server.registry)
    (middleware : other.middleware = server.middleware) (discreet : server.registry.Discreet)
    (installed : server.middleware = server.registry.middleware) {body : Bytes}
    (plain : server.openBody r.call.request.body = .ok body)
    (opened : other.openBody seen.call.request.body = .ok body) (alike : r.Alike seen) :
    (server.recordDispatch s r).Alike (other.recordDispatch s seen) := by
  obtain ⟨result, left⟩ := resolveCall_alike (s := s) registry plain opened alike
  rcases resolved : server.resolveCall s r with ⟨verdict, m⟩
  rcases elsewhere : other.resolveCall s seen with ⟨outcome, n⟩
  rw [resolved, elsewhere] at result left
  obtain rfl : verdict = outcome := result
  rw [recordDispatch, recordDispatch, resolved, elsewhere]
  cases verdict with
  | error fault => exact .silent left
  | ok cb =>
    obtain ⟨-, -, -, -, -, found⟩ := resolveCall_inbound resolved
    have served := discreet.receiver found
    have passed := recordMiddleware_alike (s := s) middleware (installed ▸ discreet.middleware) left
    exact passed.andThen fun verdict _ _ => recordPassed_alike registry discreet served verdict

/-- What the opened answer of one server is to the answer of the other. -/
structure Unseals (cipher : BodyCipher) (sealed plain : Http.Response) : Prop where
  status : sealed.status = plain.status
  body : cipher.decipher sealed.body = .ok plain.body
  headers : ∃ headers : Http.Headers, plain.headers = headers.insert "content-type" jsonType ∧
    sealed.headers = headers.insert "content-type" sealedType

theorem openBody_ok_iff {cipher : BodyCipher} (sealing : server.cipher = some cipher)
    {text body : Bytes} : server.openBody text = .ok body ↔ cipher.decipher text = .ok body := by
  cases deciphered : cipher.decipher text <;> simp [openBody, sealing, deciphered]

theorem writeEnvelope_unseals {cipher : BodyCipher} (plain : server.cipher = none)
    (sealing : other.cipher = some cipher) {call seen : Call} (sink : call.sink = seen.sink)
    (envelope : call.envelope = seen.envelope) (unwritten : call.sink.written = false) :
    Unseals cipher (other.writeEnvelope s seen).sink.take.1
      (server.writeEnvelope s call).sink.take.1 := by
  have own : server.Enveloped call.envelope call.sink.headers
      (server.writeEnvelope s call).sink.take.1 := writeEnvelope_of_unwritten unwritten
  rw [sink] at unwritten
  have foreign : other.Enveloped seen.envelope seen.sink.headers
      (other.writeEnvelope s seen).sink.take.1 := writeEnvelope_of_unwritten unwritten
  rw [sink, envelope] at own
  refine ⟨by rw [foreign.status, own.status], ?_, seen.sink.headers, ?_, ?_⟩
  · have shown := own.body
    rw [openBody_of_plain plain] at shown
    rw [Except.ok.inj shown]
    exact (openBody_ok_iff sealing).mp foreign.body
  · rw [own.headers, envelopeType, plain]
  · rw [foreign.headers, envelopeType, sealing]

theorem outcome?_alike {ended elsewhere : Verdict Unit × Run W} (verdict : ended.1 = elsewhere.1)
    (alike : ended.2.Alike elsewhere.2) {call : Call} (outcome : outcome? ended = some call) :
    ∃ seen, outcome? elsewhere = some seen ∧ call.sink = seen.sink ∧
      call.envelope = seen.envelope := by
  obtain ⟨own, final⟩ := ended
  obtain ⟨foreign, left⟩ := elsewhere
  obtain rfl : own = foreign := verdict
  have sink : final.call.sink = left.call.sink := alike.shows Call.sink fun _ => rfl
  have envelope : final.call.envelope = left.call.envelope := alike.shows Call.envelope fun _ => rfl
  cases own with
  | returned u =>
    obtain rfl := Option.some.inj outcome
    exact ⟨_, rfl, sink, envelope⟩
  | failed fault =>
    obtain rfl := Option.some.inj outcome
    exact ⟨_, rfl, sink, congrArg (·.setFault fault) envelope⟩
  | panicked cause => cases outcome

/-- Two answers, of which the second is the first one sealed, unless code has written them. -/
def Matches (cipher : BodyCipher) (written : Bool) (plain sealed : Answer) : Prop :=
  (∃ cause, plain = .error cause ∧ sealed = .error cause) ∨
    ∃ response text, plain = .ok response ∧ sealed = .ok text ∧
      (written = true → text = response) ∧ (written = false → Unseals cipher text response)

theorem conclude_matches {cipher : BodyCipher} (plain : server.cipher = none)
    (sealing : other.cipher = some cipher) {ended elsewhere : Verdict Unit × Run W}
    (verdict : ended.1 = elsewhere.1) (alike : ended.2.Alike elsewhere.2) :
    Matches cipher ended.2.call.sink.written (server.conclude s ended).1
      (other.conclude s elsewhere).1 := by
  cases outcome : outcome? ended with
  | none =>
    obtain ⟨⟨⟩ | fault | cause, final⟩ := ended
    · cases outcome
    · cases outcome
    · obtain ⟨foreign, left⟩ := elsewhere
      obtain rfl : .panicked cause = foreign := verdict
      exact .inl ⟨cause, rfl, rfl⟩
  | some call =>
    obtain ⟨seen, found, sink, envelope⟩ := outcome?_alike verdict alike outcome
    rw [conclude_answer outcome, conclude_answer found, ← sink_of_outcome outcome]
    refine .inr ⟨_, _, rfl, rfl, fun written => ?_, fun unwritten => ?_⟩
    · have there : seen.sink.written = true := sink ▸ written
      rw [writeEnvelope_of_written written, writeEnvelope_of_written there, sink]
    · exact writeEnvelope_unseals plain sealing sink envelope unwritten

structure Transparent (cipher : BodyCipher) (plain sealed : Recorded W (Answer × Server W × W)) :
    Prop where
  shown : List.Forall₂ Event.Alike plain.events sealed.events
  left : plain.result.2.2 = sealed.result.2.2
  answers : Matches cipher (leavesWritten false plain.events) plain.result.1 sealed.result.1

theorem transparent_of_alike {cipher : BodyCipher} (plain : server.cipher = none)
    (sealing : other.cipher = some cipher) (unwritten : r.call.sink.written = false)
    (alike : (server.recordDispatch s r).Alike (other.recordDispatch s seen)) (pool rest : Pool W) :
    Transparent cipher
      ((server.recordDispatch s r).map ({ server with pool }.conclude s))
      ((other.recordDispatch s seen).map ({ other with pool := rest }.conclude s)) where
  shown := alike.events
  left := by
    rw [Recorded.result_map, Recorded.result_map, conclude_released, conclude_released]
    exact alike.run.world
  answers := by
    have written := (Passage.leavesWritten s).recordDispatch server r
    rw [(resolveCall_apart _).2, unwritten] at written
    have answers : Matches cipher _ _ _ :=
      conclude_matches (s := s) plain sealing alike.result alike.run
    rw [written] at answers
    rw [Recorded.result_map, Recorded.result_map, (server.conclude_of_pool pool s _).1,
      (other.conclude_of_pool rest s _).1]
    exact answers

theorem transparent_of_opened {cipher : BodyCipher} (clean : server.pool.Clean)
    (unused : other.pool.Clean) (discreet : server.registry.Discreet)
    (installed : server.middleware = server.registry.middleware)
    (registry : other.registry = server.registry)
    (middleware : other.middleware = server.middleware)
    (plain : server.cipher = none) (sealing : other.cipher = some cipher) {request : Http.Request}
    {text : Bytes} (opened : cipher.decipher text = .ok request.body)
    (admitted : server.declined? (Call.begin {} request) = none)
    (passed : other.declined? (Call.begin {} { request with body := text }) = none) (world : W) :
    Transparent cipher (server.recordHandle s request world)
      (other.recordHandle s { request with body := text } world) := by
  have begun : (entry s (Context.begin {} request) world).Alike
      (entry s (Context.begin {} { request with body := text }) world) := ⟨rfl, .nil, rfl, rfl⟩
  rw [recordHandle_of_admitted clean admitted, recordHandle_of_admitted unused passed]
  apply transparent_of_alike plain sealing rfl
  exact recordDispatch_alike registry middleware discreet installed (openBody_of_plain plain _)
    ((openBody_ok_iff sealing).mpr opened) begun

/-- A server that seals treats a sealed request as one that does not treats the request itself. -/
theorem handle_transparent (registry : Registry W) (discreet : registry.Discreet)
    (options : Options) (plainly : BodyCipher.ofOption options.cryptoKey options.encoding = none)
    (key : String) (encoding : CipherEncoding) (cipher : BodyCipher)
    (accepted : BodyCipher.ofKey key encoding = .ok cipher) (start restart : W)
    (deeds others : List (Deed W)) (s : Surroundings) (iv : Block) (request : Http.Request)
    (text : Bytes) (sealing : cipher.encipher iv request.body = .ok text) (world : W) :
    let options' := { options with cryptoKey := some key, encoding }
    let plain := ((Site.ofServer (ofRegistry registry options) start).run deeds).server
    let sealed := ((Site.ofServer (ofRegistry registry options') restart).run others).server
    let own := plain.recordHandle s request world
    let other := sealed.recordHandle s { request with body := text } world
    plain.declined? (Call.begin {} request) = none →
    sealed.declined? (Call.begin {} { request with body := text }) = none →
    own.result = plain.handle s request world ∧
      other.result = sealed.handle s { request with body := text } world ∧
      Transparent cipher own other := by
  intro options' plain sealed own other admitted passed
  refine ⟨recordHandle_result plain s request world, recordHandle_result sealed s _ world, ?_⟩
  obtain ⟨written, enciphered, opened⟩ := cipher.decipher_encipher iv request.body
  obtain rfl : written = text := by simpa [enciphered] using sealing
  have clean := Site.run_ofRegistry_clean registry options start deeds
  have unused := Site.run_ofRegistry_clean registry options' restart others
  obtain ⟨registered, installed, unsealing⟩ := Site.run_ofRegistry registry options start deeds
  obtain ⟨reused, reinstalled, seals⟩ := Site.run_ofRegistry registry options' restart others
  have keyed : BodyCipher.ofOption options'.cryptoKey options'.encoding = some cipher := by
    show BodyCipher.ofOption (some key) encoding = some cipher
    rw [BodyCipher.ofOption, Option.bind_some, accepted]
    rfl
  have discreet_here : plain.registry.Discreet := by
    rw [show plain.registry = registry from registered]
    exact discreet
  exact transparent_of_opened clean unused discreet_here (by rw [installed, registered])
    (by rw [reused, registered]) (by rw [reinstalled, installed]) (by rw [unsealing, plainly])
    (by rw [seals, keyed]) opened admitted passed world

theorem handle_transparent_fall :
    let registry := (fallServer []).registry
    let options : Options := { cryptoKey := some "0123456789abcdef" }
    let plain := ((Site.ofServer (ofRegistry registry {}) untouched).run []).server
    let sealed := ((Site.ofServer (ofRegistry registry options) untouched).run []).server
    ∃ cipher text, BodyCipher.ofKey "0123456789abcdef" .hex = .ok cipher ∧
      cipher.encipher stillness.iv fallRequest.body = .ok text ∧
      plain.declined? (Call.begin {} fallRequest) = none ∧
      sealed.declined? (Call.begin {} { fallRequest with body := text }) = none ∧
      Transparent cipher (plain.recordHandle stillness fallRequest untouched)
        (sealed.recordHandle stillness { fallRequest with body := text } untouched) := by
  intro registry options plain sealed
  let cipher : BodyCipher :=
    { key := keyMaterial "0123456789abcdef", encoding := .hex, sized := length_keyMaterial _ }
  have accepted : BodyCipher.ofKey "0123456789abcdef" .hex = .ok cipher := by
    rw [BodyCipher.ofKey, if_neg (by decide)]
  let text := cipher.encoding.encode
    (BodyCipher.sealedBytes (Aes.cipher cipher.key) stillness.iv fallRequest.body)
  have enciphered : cipher.encipher stillness.iv fallRequest.body = .ok text :=
    cipher.encipher_eq stillness.iv fallRequest.body
  have admitted : plain.declined? (Call.begin {} fallRequest) = none := by decide +kernel
  have passed : sealed.declined? (Call.begin {} { fallRequest with body := text }) = none := by
    decide +kernel
  have discreet : registry.Discreet := by
    have unhooked : registry.hooks = {} := rfl
    refine ⟨by simp [registry, fallServer, ofRegistry],
      ⟨by simp [unhooked], by simp [unhooked]⟩, ?_⟩
    intro service member exposed bound
    obtain rfl := List.mem_singleton.mp member
    obtain rfl := List.mem_singleton.mp bound
    exact ⟨fun _ _ => .done, fun _ _ _ => .done⟩
  obtain ⟨-, -, transparent⟩ := handle_transparent registry discreet {} rfl "0123456789abcdef" .hex
    cipher accepted untouched untouched [] [] stillness stillness.iv fallRequest text enciphered
    untouched admitted passed
  exact ⟨cipher, text, accepted, enciphered, admitted, passed, transparent⟩

end Server

end JsonRpc
