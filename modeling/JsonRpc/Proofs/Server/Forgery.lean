import JsonRpc.Proofs.Envelope.RoundTrip
import JsonRpc.Proofs.Invocation.Plan
import JsonRpc.Proofs.Program.Blind
import JsonRpc.Proofs.Server.Stages

namespace JsonRpc

variable {W : World}

structure Hooks.Blind (hooks : Hooks W) : Prop where
  before : ∀ hook, hooks.before = some hook → ∀ name raw, (hook name raw).Blind
  after : ∀ hook, hooks.after = some hook → ∀ name raw outcome, (hook name raw outcome).Blind

structure Service.Blind (service : Service W) : Prop where
  before : ∀ name raw, (service.beforeCall name raw).Blind
  after : ∀ name raw outcome, (service.afterCall name raw outcome).Blind

/-- No code that a server over the registry runs looks at what is hidden. Methods cannot. -/
structure Registry.Blind (registry : Registry W) : Prop where
  middleware : ∀ m ∈ registry.middleware, m.handler.Blind
  hooks : registry.hooks.Blind
  services : ∀ service ∈ registry.services, ∀ exposed ∈ service.2.methods,
    exposed.2.receiver.Blind

def Envelope.asked (e : Envelope) : Envelope := { e.hide with result := none, error := none }

@[simp] theorem Envelope.asked_id (e : Envelope) : e.asked.id = e.id := rfl

@[simp] theorem Envelope.asked_method (e : Envelope) : e.asked.method = e.method := rfl

theorem Envelope.asked_told {members others : List (String × Json)}
    (same : ∀ key ∈ ["id", "method", "params"], others.lookup key = members.lookup key)
    (method : String) : (told {} others method).asked = (told {} members method).asked := by
  have id := same "id" (by simp)
  have params := same "params" (by simp)
  simp only [asked, hide, told, id, params]

/-- The fault of a body in which a value that is no text stands for the method. -/
def Fault.mistyped (v : Json) (place : Json.Position) : Fault :=
  let refused : Json.Error := { refusal := .wrongType v.found "a string", position := some place }
  .parse s!"parse error: {refused.message}"

namespace Callback

variable {cb : Callback W} {hooks : Hooks W} {s : Surroundings} {r seen : Run W}

theorem hookAt_blind (surrounded : hooks.Blind) (served : cb.receiver.Blind) (name : String)
    (raw : List Json) (outcome : Option Outcome) (place : HookPlace) :
    (cb.hookAt hooks name raw outcome place).Blind := by
  cases place with
  | registryBefore =>
    rw [hookAt, hookBefore]
    cases set : hooks.before with
    | none => exact .done
    | some hook => exact surrounded.before hook set name raw
  | serviceBefore => exact served.before name raw
  | serviceAfter => exact served.after name raw (outcome.getD {})
  | registryAfter =>
    rw [hookAt, hookAfter]
    cases set : hooks.after with
    | none => exact .done
    | some hook => exact surrounded.after hook set name raw (outcome.getD {})

theorem markStart_like (time : Int64) (like : r.Like seen) :
    (r.edit (Call.markStart time)).Like (seen.edit (Call.markStart time)) := by
  apply like.edit
  intro call
  have stored : call.hide.store = call.store := rfl
  unfold Call.markStart
  rw [stored]
  split <;> rfl

theorem runMethod_like (cb : Callback W) (s : Surroundings) (bound : Bound W)
    (like : r.Like seen) :
    (cb.runMethod s bound r).1 = (cb.runMethod s bound seen).1 ∧
      (cb.runMethod s bound r).2.Like (cb.runMethod s bound seen).2 := by
  have started := markStart_like s.begun like
  have scope := started.shows Call.scope fun _ => rfl
  unfold runMethod
  dsimp only
  rw [scope, started.world]
  rcases cb.method.call (seen.edit (Call.markStart s.begun)).call.scope s.now bound.typed
    (seen.edit (Call.markStart s.begun)).world with ⟨cause | outcome, world⟩
  · exact ⟨rfl, started.change world⟩
  · refine ⟨rfl, ?_⟩
    apply (started.change world).edit
    intro call
    rfl

theorem recordPlan_like (surrounded : hooks.Blind) (served : cb.receiver.Blind) {name : String}
    {bound : Bound W} (plan : List Act) (outcome : Option Outcome) (like : r.Like seen) :
    (cb.recordPlan hooks s name bound plan outcome r).Like
      (cb.recordPlan hooks s name bound plan outcome seen) := by
  -- each act of the plan leaves runs that are like each other for the acts behind it
  induction plan generalizing outcome r seen with
  | nil => exact .silent like
  | cons act plan hypothesis =>
    cases act with
    | hook place =>
      have code := hookAt_blind surrounded served name bound.raw outcome place
      have begun : (recordHook place name bound.raw outcome _ r).Like
          (recordHook place name bound.raw outcome _ seen) :=
        .after (congrArg (Event.hook place name bound.raw outcome) like.shown)
          (Program.recordPerform_like code like)
      exact begun.onReturn fun u m later like => hypothesis outcome like
    | method =>
      obtain ⟨verdict, left⟩ := cb.runMethod_like s bound like
      have begun : (cb.recordMethod s bound r).Like (cb.recordMethod s bound seen) :=
        ⟨congrArg (fun m => [Event.method cb bound m]) like.shown, verdict, left⟩
      exact begun.onReturn fun left m later like => hypothesis (some left) like

theorem recordInvoke_like (surrounded : hooks.Blind) (served : cb.receiver.Blind) (name : String)
    (bound : Bound W) (like : r.Like seen) :
    (cb.recordInvoke hooks s name bound r).Like (cb.recordInvoke hooks s name bound seen) := by
  have steps :
      (cb.recordSteps hooks s name bound r).Like (cb.recordSteps hooks s name bound seen) := by
    rw [recordSteps_eq_recordPlan, recordSteps_eq_recordPlan]
    exact recordPlan_like surrounded served hooks.plan none like
  exact ⟨steps.events, congrArg (Verdict.contain name s.trace) steps.result, steps.run⟩

end Callback

namespace Server

variable {server : Server W} {s : Surroundings} {r seen : Run W}

theorem recordMiddleware_like (blind : ∀ m ∈ server.middleware, m.handler.Blind)
    (like : r.Like seen) : (server.recordMiddleware s r).Like (server.recordMiddleware s seen) := by
  have name := like.shows (·.envelope.method) fun _ => rfl
  have code : ∀ p ∈ server.middleware.map (·.handler), p.Blind := by
    intro p member
    obtain ⟨m, installed, rfl⟩ := List.mem_map.mp member
    exact blind m installed
  rw [recordMiddleware, recordMiddleware, name]
  by_cases empty : server.middleware.isEmpty = true
  · rw [if_pos empty, if_pos empty]
    exact .silent like
  · rw [if_neg empty, if_neg empty]
    have chain := Program.recordChain_like code like
    exact ⟨chain.events, congrArg (Verdict.contain _ s.trace) chain.result, chain.run⟩

theorem settle_like {x y : Ending W Json} (like : x.Like y) :
    (x.map settle).Like (y.map settle) := by
  obtain ⟨events, verdict, r⟩ := x
  obtain ⟨happened, same, seen⟩ := y
  obtain rfl : verdict = same := like.result
  cases verdict with
  | failed fault => exact ⟨like.events, rfl, like.run⟩
  | panicked cause => exact ⟨like.events, rfl, like.run⟩
  | returned value =>
    have left : (r.edit fun call => { call with envelope := call.envelope.setResult value }).Like
        (seen.edit fun call => { call with envelope := call.envelope.setResult value }) :=
      like.run.edit fun _ => rfl
    exact ⟨like.events, rfl, left⟩

theorem recordCall_like (blind : server.registry.Blind) {cb : Callback W}
    (served : cb.receiver.Blind) (like : r.Like seen) :
    (server.recordCall s cb r).Like (server.recordCall s cb seen) := by
  have params := like.shows (·.envelope.params) fun _ => rfl
  have name := like.shows (·.envelope.method) fun _ => rfl
  have emptied : (emptied r).Like (emptied seen) := like.edit fun _ => rfl
  rw [recordCall, recordCall, params, name]
  cases cb.bind seen.call.envelope.params with
  | failed fault => exact .silent emptied
  | panicked cause => exact .silent emptied
  | returned bound =>
    exact settle_like (Callback.recordInvoke_like blind.hooks served _ bound emptied)

theorem recordPassed_like (blind : server.registry.Blind) {cb : Callback W}
    (served : cb.receiver.Blind) (verdict : Verdict Unit) (like : r.Like seen) :
    (server.recordPassed s cb (verdict, r)).Like (server.recordPassed s cb (verdict, seen)) := by
  have stopped := like.shows Call.stopped fun _ => rfl
  cases verdict with
  | failed fault => exact .silent like
  | panicked cause => exact .silent like
  | returned u =>
    rw [recordPassed, recordPassed, stopped]
    split
    · exact .silent like
    · exact recordCall_like blind served like

theorem taken_like {e f : Envelope} (same : e.hide = f.hide) (body text : Bytes)
    (like : r.Like seen) : (taken s r body e).Like (taken s seen text f) where
  shown := by
    have hidden : ∀ (m : Run W) body (g : Envelope),
        (taken s m body g).hide = taken s m.hide [] g.hide := fun _ _ _ => rfl
    rw [hidden, hidden, like.shown, same]
  blind := like.blind

theorem resolveCall_like {body text : Bytes} {e f : Envelope}
    (own : server.openBody r.call.request.body = .ok body) (parsed : Envelope.parse body = .ok e)
    (other : server.openBody seen.call.request.body = .ok text)
    (reread : Envelope.parse text = .ok f) (same : f.asked = e.asked) (like : r.Like seen) :
    (server.resolveCall s r).1 = (server.resolveCall s seen).1 ∧
      (server.resolveCall s r).2.Like (server.resolveCall s seen).2 := by
  have id : f.id = e.id := by rw [← Envelope.asked_id, same, Envelope.asked_id]
  have method : f.method = e.method := by rw [← Envelope.asked_method, same, Envelope.asked_method]
  have valid : f.hasValidId = e.hasValidId := by rw [Envelope.hasValidId, Envelope.hasValidId, id]
  have admitted : (admitEnvelope e).hide = (admitEnvelope f).hide := by
    have dropped : ∀ g : Envelope, (admitEnvelope g).hide =
        { g.asked with id := if g.hasValidId then g.id else none } := fun _ => rfl
    rw [dropped, dropped, same, valid, id]
  rw [resolveCall_of_read own parsed, resolveCall_of_read other reread, valid, method]
  cases e.hasValidId with
  | false => exact ⟨rfl, taken_like admitted body text like⟩
  | true =>
    cases server.registry.normalizeMethod e.method with
    | error fault => exact ⟨rfl, taken_like admitted body text like⟩
    | ok name =>
      have renamed : Envelope.hide { e with method := name, result := none, error := none } =
          Envelope.hide { f with method := name, result := none, error := none } := by
        have named : ∀ g : Envelope,
            Envelope.hide { g with method := name, result := none, error := none } =
              { g.asked with method := name } := fun _ => rfl
        rw [named, named, same]
      exact ⟨rfl, taken_like renamed body text like⟩

theorem recordDispatch_like (blind : server.registry.Blind)
    (installed : server.middleware = server.registry.middleware)
    (resolved : (server.resolveCall s r).1 = (server.resolveCall s seen).1)
    (left : (server.resolveCall s r).2.Like (server.resolveCall s seen).2) :
    (server.recordDispatch s r).Like (server.recordDispatch s seen) := by
  rw [recordDispatch, recordDispatch]
  rcases ended : server.resolveCall s r with ⟨verdict, m⟩
  rcases elsewhere : server.resolveCall s seen with ⟨same, n⟩
  rw [ended, elsewhere] at resolved left
  obtain rfl : verdict = same := resolved
  cases verdict with
  | error fault => exact .silent left
  | ok cb =>
    obtain ⟨-, -, -, -, -, found⟩ := resolveCall_inbound ended
    obtain ⟨service, member, exposed, bound, rfl⟩ := Registry.mem_of_resolve found
    have served := blind.services service member exposed bound
    have passed := recordMiddleware_like (s := s) (installed ▸ blind.middleware) left
    exact passed.andThen fun verdict _ _ => recordPassed_like blind served verdict

theorem writeEnvelope_sink (server : Server W) (s : Surroundings) (call : Call) :
    (server.writeEnvelope s call).sink = (server.writeEnvelope s call.hide).sink := by
  have sink : call.hide.sink = call.sink := rfl
  have envelope : call.hide.envelope.normalize = call.envelope.normalize := rfl
  simp only [writeEnvelope, sink, envelope]
  split
  · rfl
  · split <;> rfl

theorem answer_like {call other : Call} (same : call.hide = other.hide) :
    (server.writeEnvelope s call).sink.take.1 = (server.writeEnvelope s other).sink.take.1 := by
  rw [writeEnvelope_sink, same, ← writeEnvelope_sink]

theorem conclude_like {ended elsewhere : Verdict Unit × Run W} (verdict : ended.1 = elsewhere.1)
    (like : ended.2.Like elsewhere.2) : server.conclude s ended = server.conclude s elsewhere := by
  have left : (server.conclude s ended).2 = (server.conclude s elsewhere).2 := by
    rw [conclude_released, conclude_released, like.world]
  refine Prod.ext ?_ left
  obtain ⟨own, r⟩ := ended
  obtain ⟨other, seen⟩ := elsewhere
  obtain rfl : own = other := verdict
  cases own with
  | returned u => exact congrArg Except.ok (answer_like like.call)
  | failed fault =>
    let faulted (call : Call) : Call := { call with envelope := call.envelope.setFault fault }
    have hidden : ∀ call, (faulted call).hide = faulted call.hide := fun _ => rfl
    have same : (faulted r.call).hide = (faulted seen.call).hide := by
      rw [hidden, hidden]
      exact congrArg faulted like.call
    exact congrArg Except.ok (answer_like same)
  | panicked cause => rfl

/-- The answer is the fault that says what stands for the method, and where, under the id of a call
that has none. -/
def RefusesMethod (server : Server W) (v : Json) (answer : Answer) : Prop :=
  ∃ place response, answer = .ok response ∧
    server.Enveloped (Envelope.setFault {} (.mistyped v place))
      (Http.Headers.insert [] "x-content-type-options" (asciiBytes "nosniff")) response

theorem refusesMethod_of_mistyped (clean : server.pool.Clean) {request : Http.Request}
    (admitted : server.declined? (Call.begin {} request) = none) {text : Bytes}
    (opened : server.openBody request.body = .ok text) {members : List (String × Json)}
    (given : Envelope.CallText text members) {v : Json}
    (there : members.lookup "method" = some v) (no_text : ∀ name, v ≠ .string name) (world : W) :
    let recorded := server.recordHandle s request world
    recorded.events = [] ∧ server.RefusesMethod v recorded.result.1 ∧
      recorded.result.2 = ({ server with pool := server.pool.acquire.2.release {} }, world) := by
  intro recorded
  have unnamed : Envelope.textOf "" (members.lookup "method") =
      .error (.wrongType v.found "a string") := by
    rw [there]
    exact Json.Codec.string_refuses no_text
  obtain ⟨place, parsed⟩ := given.parse_of_unnamed unnamed
  let r := entry s (Context.begin {} request) world
  have own : server.openBody r.call.request.body = .ok text := opened
  let ended : Verdict Unit × Run W := (.failed (.mistyped v place), taken s r text r.call.envelope)
  have dispatched : server.recordDispatch s r = .silent ended := by
    simp only [recordDispatch, resolveCall, own, parsed]
    rfl
  have concluded : recorded =
      .silent ({ server with pool := server.pool.acquire.2 }.conclude s ended) := by
    show server.recordHandle s request world = _
    rw [recordHandle_of_admitted clean admitted, dispatched]
    rfl
  have answer : ∃ response, (server.conclude s ended).1 = .ok response ∧ _ :=
    conclude_of_unwritten rfl rfl
  obtain ⟨response, answered, enveloped⟩ := answer
  rw [concluded]
  refine ⟨rfl, ⟨place, response, ?_, enveloped⟩, ?_⟩
  · rw [Recorded.result_silent, (conclude_of_pool ..).1, answered]
  · rw [Recorded.result_silent, conclude_released]
    rfl

/-- What is so of the recorded answers to two calls with the same value for the method. -/
structure Unmoved (server : Server W) (method : Option Json)
    (own other : Recorded W (Answer × Server W × W)) : Prop where
  events : own.events.map Event.hide = other.events.map Event.hide
  left : own.result.2 = other.result.2
  answered : (∀ v, method = some v → ∃ name, v = .string name) → own.result.1 = other.result.1
  /-- A method that is no text is refused, and the fault says where it stands. -/
  refused : ∀ v, method = some v → (∀ name, v ≠ .string name) →
    own.events = [] ∧ server.RefusesMethod v own.result.1 ∧
      server.RefusesMethod v other.result.1

theorem unmoved_of_same (clean : server.pool.Clean) (blind : server.registry.Blind)
    (installed : server.middleware = server.registry.middleware) {request : Http.Request}
    {body : Bytes} (admitted : server.declined? (Call.begin {} request) = none)
    (passed : server.declined? (Call.begin {} { request with body }) = none)
    {text second : Bytes} (opened : server.openBody request.body = .ok text)
    (reopened : server.openBody body = .ok second) {members others : List (String × Json)}
    (given : Envelope.CallText text members) (forged : Envelope.CallText second others)
    (same : ∀ key ∈ ["id", "method", "params"], others.lookup key = members.lookup key)
    (world : W) :
    server.Unmoved (members.lookup "method") (server.recordHandle s request world)
      (server.recordHandle s { request with body } world) := by
  have method : others.lookup "method" = members.lookup "method" := same "method" (by simp)
  rcases Envelope.textOf_cases "" (members.lookup "method") with
    ⟨name, named, text_only⟩ | ⟨v, there, no_text, -⟩
  · let r : Run W := entry s (Context.begin {} request) world
    let m : Run W := entry s (Context.begin {} { request with body }) world
    have begun : r.Like m := ⟨rfl, nofun⟩
    have parsed := given.parse_of_named named
    have reparsed := forged.parse_of_named (by rw [method, named])
    have asked := Envelope.asked_told same name
    obtain ⟨resolved, left⟩ := resolveCall_like (s := s) opened parsed reopened reparsed asked begun
    have like := recordDispatch_like blind installed resolved left
    let pooled : Server W := { server with pool := server.pool.acquire.2 }
    have concluded : pooled.conclude s (server.recordDispatch s r).result =
        pooled.conclude s (server.recordDispatch s m).result := conclude_like like.result like.run
    rw [recordHandle_of_admitted clean admitted, recordHandle_of_admitted clean passed]
    refine ⟨like.events, congrArg Prod.snd concluded, fun _ => congrArg Prod.fst concluded, ?_⟩
    intro v there no_text
    exact absurd (text_only v there) (no_text name)
  · have own := refusesMethod_of_mistyped (s := s) clean admitted opened given there no_text world
    have other := refusesMethod_of_mistyped (s := s) clean passed reopened forged
      (by rw [method, there]) no_text world
    obtain ⟨silent, refused, left⟩ := own
    obtain ⟨quiet, declined, gone⟩ := other
    refine ⟨by rw [silent, quiet], by rw [left, gone], fun text => ?_, ?_⟩
    · obtain ⟨name, rfl⟩ := text v there
      exact absurd rfl (no_text name)
    · intro w found _
      obtain rfl : v = w := Option.some.inj (there.symm.trans found)
      exact ⟨silent, refused, declined⟩

/-- Bodies that agree in the members of a call are answered alike, whatever else they say. -/
theorem handle_of_forged (registry : Registry W) (blind : registry.Blind) (options : Options)
    (start : W) (deeds : List (Deed W)) (s : Surroundings) (request : Http.Request) (body : Bytes)
    (world : W) (text second : Bytes) (members others : List (String × Json))
    (given : Envelope.CallText text members) (forged : Envelope.CallText second others)
    (same : ∀ key ∈ ["id", "method", "params"], others.lookup key = members.lookup key) :
    let server := ((Site.ofServer (ofRegistry registry options) start).run deeds).server
    let own := server.recordHandle s request world
    let other := server.recordHandle s { request with body } world
    server.declined? (Call.begin {} request) = none →
    server.declined? (Call.begin {} { request with body }) = none →
    server.openBody request.body = .ok text → server.openBody body = .ok second →
    own.result = server.handle s request world ∧
      other.result = server.handle s { request with body } world ∧
      server.Unmoved (members.lookup "method") own other := by
  intro server own other admitted passed opened reopened
  refine ⟨recordHandle_result server s request world, recordHandle_result server s _ world, ?_⟩
  have clean := Site.run_ofRegistry_clean registry options start deeds
  obtain ⟨registered, installed, -⟩ := Site.run_ofRegistry registry options start deeds
  have blind_here : server.registry.Blind := by
    rw [show server.registry = registry from registered]
    exact blind
  have installed_here : server.middleware = server.registry.middleware := by
    rw [show server.registry = registry from registered]
    exact installed
  exact unmoved_of_same clean blind_here installed_here admitted passed opened reopened given forged
    same world

theorem blind_fall : (fallServer []).registry.Blind := by
  have unhooked : (fallServer []).registry.hooks = {} := rfl
  refine ⟨by simp [fallServer, ofRegistry], ⟨by simp [unhooked], by simp [unhooked]⟩, ?_⟩
  intro service member exposed bound
  obtain rfl := List.mem_singleton.mp member
  obtain rfl := List.mem_singleton.mp bound
  exact ⟨fun _ _ => .done, fun _ _ _ => .done⟩

def seven : Json := .ofWord ⟨7, by decide, by decide⟩

theorem handle_of_forged_fall :
    let server := ((Site.ofServer (ofRegistry (fallServer []).registry {}) untouched).run []).server
    let request : Http.Request :=
      { method := "POST", body := asciiBytes "\x7b\"method\":\"demo.fall\",\"id\":7\x7d" }
    let body := asciiBytes
      "\x7b\"jsonrpc\":\"1\",\"error\":[null],\"id\":7,\"method\":\"demo.fall\",\"x\":\x7b\x7d\x7d"
    let own := server.recordHandle stillness request untouched
    let other := server.recordHandle stillness { request with body } untouched
    own.result = server.handle stillness request untouched ∧
      other.result = server.handle stillness { request with body } untouched ∧
      own.events.map Event.hide = other.events.map Event.hide ∧ own.result = other.result := by
  intro server request body own other
  let members : List (String × Json) := [("method", .string "demo.fall"), ("id", seven)]
  let others : List (String × Json) :=
    [("jsonrpc", .string "1"), ("error", .array [.null]), ("id", seven),
      ("method", .string "demo.fall"), ("x", .object [])]
  have given : Envelope.CallText (Json.object members).bytes members := by
    refine Envelope.callText_bytes ?_ (by decide) (by decide) ?_
    · simp [members, seven, Json.WholeMembers, Json.IsWhole, Json.ofWord]
    · simp [members, List.lookup_cons]
  have forged : Envelope.CallText (Json.object others).bytes others := by
    refine Envelope.callText_bytes ?_ (by decide) (by decide) ?_
    · simp [others, seven, Json.WholeMembers, Json.WholeItems, Json.IsWhole, Json.ofWord]
    · simp [others]
  have written : request.body = (Json.object members).bytes := by decide +kernel
  have rewritten : body = (Json.object others).bytes := by decide +kernel
  have same : ∀ key ∈ ["id", "method", "params"], others.lookup key = members.lookup key := by
    decide
  obtain ⟨own_result, other_result, unmoved⟩ := handle_of_forged (fallServer []).registry blind_fall
    {} untouched [] stillness request body untouched _ _ members others given forged same (by decide +kernel)
    (by decide +kernel) (by rw [written]; rfl) (by rw [rewritten]; rfl)
  have text : ∀ v, members.lookup "method" = some v → ∃ name, v = .string name := by
    intro v found
    exact ⟨"demo.fall", (Option.some.inj found).symm⟩
  exact ⟨own_result, other_result, unmoved.events, Prod.ext (unmoved.answered text) unmoved.left⟩

/-- A result in front of a method that is no text moves the place that the answer states. -/
theorem handle_ne_of_mistyped :
    let server := fallServer []
    let request : Http.Request :=
      { method := "POST", body := asciiBytes "\x7b\"id\":7,\"method\":7\x7d" }
    let body := asciiBytes "\x7b\"id\":7,\"result\":7,\"method\":7\x7d"
    server.registry.Blind ∧
      (∃ members others, Envelope.CallText request.body members ∧ Envelope.CallText body others ∧
        ∀ key ∈ ["id", "method", "params"], others.lookup key = members.lookup key) ∧
      server.declined? (Call.begin {} request) = none ∧
      server.declined? (Call.begin {} { request with body }) = none ∧
      (server.handle stillness request untouched).1 ≠
        (server.handle stillness { request with body } untouched).1 := by
  intro server request body
  let members : List (String × Json) := [("id", seven), ("method", seven)]
  let others : List (String × Json) := [("id", seven), ("result", seven), ("method", seven)]
  have given : Envelope.CallText (Json.object members).bytes members := by
    refine Envelope.callText_bytes ?_ (by decide) (by decide) ?_
    · simp [members, seven, Json.WholeMembers, Json.IsWhole, Json.ofWord]
    · simp [members, List.lookup_cons]
  have forged : Envelope.CallText (Json.object others).bytes others := by
    refine Envelope.callText_bytes ?_ (by decide) (by decide) ?_
    · simp [others, seven, Json.WholeMembers, Json.IsWhole, Json.ofWord]
    · simp [others, List.lookup_cons]
  have written : request.body = (Json.object members).bytes := by decide +kernel
  have rewritten : body = (Json.object others).bytes := by decide +kernel
  refine ⟨blind_fall, ⟨members, others, ?_, ?_, by decide⟩, by decide +kernel,
    by decide +kernel, ?_⟩
  · rw [written]
    exact given
  · rw [rewritten]
    exact forged
  · intro same
    have bodies := congrArg (fun answer : Answer => answer.toOption.map Http.Response.body) same
    revert bodies
    decide +kernel

end Server

end JsonRpc
