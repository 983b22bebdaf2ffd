import JsonRpc.Proofs.Name.Fold
import JsonRpc.Proofs.Registry.Contents
import JsonRpc.Proofs.Server.Execution
import JsonRpc.Proofs.Server.Stages

namespace JsonRpc

variable {W : World}

/-- A namespace and a name whose method is split and folded back to them. -/
structure NameStyle.Spells (style : NameStyle) (space name : String) : Prop where
  undotted : '.' ∉ space.toList
  filled : space ≠ "" ∧ name ≠ ""
  settled : style.apply space = space ∧ style.apply name = name

theorem NameStyle.Spells.address {style : NameStyle} {space name : String}
    (spells : style.Spells space name) :
    style.address (space ++ "." ++ name) = .ok (space, name) := by
  have parted : splitMethod (space ++ "." ++ name) = .ok (space, name) := by
    rw [splitMethod_join spells.undotted, if_pos spells.filled]
  rw [NameStyle.address, parted]
  simp only [spells.settled, spells.filled, ne_eq, not_false_eq_true, and_self, if_true]

namespace Registry

variable {registry : Registry W} {space name : String}

theorem lookup_of_exposed (settled : registry.style.apply space = space ∧
      registry.style.apply name = name) (exposed : name ∈ registry.methodsOf space) :
    ∃ entry cb, lookup? space registry.services = some entry ∧ (name, cb) ∈ entry.methods ∧
      registry.lookup space name = .ok cb := by
  rw [methodsOf, entry?, settled.1] at exposed
  cases entered : lookup? space registry.services with
  | none => simp [entered] at exposed
  | some entry =>
    simp only [entered] at exposed
    obtain ⟨cb, bound⟩ := Option.isSome_iff_exists.mp (mem_keys_iff.mp exposed)
    refine ⟨entry, cb, rfl, mem_of_lookup? bound, ?_⟩
    rw [lookup, entry?, settled.1, entered]
    simp only [settled.2, bound]

end Registry

namespace Server

section

variable (server : Server W) (s : Surroundings) (request : Http.Request) (world : W)

/-- The run of a request on a new context, as the callback is handed it. -/
def addressed (body : Bytes) (e : Envelope) : Run W :=
  taken s (entry s (Context.begin {} request) world) body { e with result := none, error := none }

/-- A request is dispatched to a callback: what it is answered with is made of a call of that
callback, and nothing but the code of the call finds that there is no such method. -/
structure Dispatches (body : Bytes) (e : Envelope) (cb : Callback W) : Prop where
  resolved : server.resolveCall s (entry s (Context.begin {} request) world) =
    (.ok cb, addressed s request world body e)
  answered : server.handle s request world =
    { server with pool := server.pool.acquire.2 }.conclude s
      (server.callMethod s cb (addressed s request world body e))
  found : ∀ fault left,
    server.callMethod s cb (addressed s request world body e) = (.failed fault, left) →
    fault.code = .noMethod → ∃ bound, cb.bind e.params = .returned bound ∧
      (cb.invoke server.registry.hooks s e.method bound
        (emptied (addressed s request world body e))).1 = .failed fault

end

variable {server : Server W} {s : Surroundings} {request : Http.Request} {world : W}

theorem invoked_of_failed {cb : Callback W} {r left : Run W} {fault : Fault}
    (failed : server.callMethod s cb r = (.failed fault, left)) :
    fault.code = .badParams ∨ ∃ bound, cb.bind r.call.envelope.params = .returned bound ∧
      (cb.invoke server.registry.hooks s r.call.envelope.method bound (emptied r)).1 =
        .failed fault := by
  rw [callMethod] at failed
  cases bound : cb.bind r.call.envelope.params with
  | panicked cause => simp [bound] at failed
  | failed cause =>
    simp only [bound, Prod.mk.injEq, Verdict.failed.injEq] at failed
    obtain ⟨rfl, -⟩ := failed
    exact .inl (Callback.badParams_of_bind bound)
  | returned args =>
    simp only [bound] at failed
    rcases invoked : cb.invoke server.registry.hooks s r.call.envelope.method args (emptied r) with
      ⟨value | cause | thrown, final⟩
    · simp [invoked, settle, Verdict.andThen] at failed
    · obtain ⟨rfl, -⟩ : cause = fault ∧ final = left := by
        simpa [invoked, settle, Verdict.andThen] using failed
      exact .inr ⟨args, rfl, by rw [invoked]⟩
    · simp [invoked, settle, Verdict.andThen] at failed

theorem handle_of_resolved (clean : server.pool.Clean) (bare : server.middleware = [])
    (admitted : server.declined? (Call.begin {} request) = none) {cb : Callback W} {r : Run W}
    (resolved : server.resolveCall s (entry s (Context.begin {} request) world) = (.ok cb, r))
    (live : r.call.stopped = false) :
    server.handle s request world =
      { server with pool := server.pool.acquire.2 }.conclude s (server.callMethod s cb r) := by
  have passed : server.runMiddleware s r = (.returned (), r) := by rw [runMiddleware, bare]; rfl
  have dispatched : server.dispatch s (entry s (Context.begin {} request) world) =
      server.callMethod s cb r := by
    rw [dispatch, resolved]
    simp only [passed, Verdict.andThen, live, Bool.false_eq_true, if_false]
  rw [← recordHandle_result, recordHandle_of_admitted clean admitted, Recorded.result_map,
    recordDispatch_result, dispatched]

theorem dispatches_of_exposed (clean : server.pool.Clean) (bare : server.middleware = [])
    {space name : String} (spells : server.registry.style.Spells space name) {cb : Callback W}
    (located : server.registry.lookup space name = .ok cb)
    (admitted : server.declined? (Call.begin {} request) = none)
    {body : Bytes} {e : Envelope} (opened : server.openBody request.body = .ok body)
    (parsed : Envelope.parse body = .ok e) (valid : e.hasValidId = true)
    (named : e.method = space ++ "." ++ name) :
    server.Dispatches s request world body e cb := by
  have address := spells.address
  rw [← named] at address
  have resolved : server.resolveCall s (entry s (Context.begin {} request) world) =
      (.ok cb, addressed s request world body e) := by
    rw [resolveCall_of_addressed opened parsed valid address, located]
    simp only [joined, ← named]
    rfl
  exact
    { resolved
      answered := handle_of_resolved clean bare admitted resolved rfl
      found := by
        intro fault left failed missing
        rcases invoked_of_failed failed with ill | invoked
        · rw [missing] at ill
          cases ill
        · exact invoked }

end Server

namespace Setup

open Server (noArgument fallMethod fallService fallRequest stillness)

theorem Filled.sole {style : NameStyle} {past : List (Try W)} {barred : List String}
    {setup : Setup W} (filled : setup.Filled style past barred) {space name : String}
    {entry : Entry W} {cb : Callback W}
    (entered : lookup? space setup.registry.services = some entry)
    (bound : (name, cb) ∈ entry.methods) :
    (∀ other, (space, other) ∈ setup.registry.services → other = entry) ∧
      (∀ other, (name, other) ∈ entry.methods → other = cb) ∧
      cb.name = name ∧ cb.receiver = entry.receiver := by
  obtain ⟨-, t, -, -, -, -, founds, -⟩ := filled.held space entry entered
  refine ⟨fun other member => ?_, fun other member => ?_, founds.named name cb bound⟩
  · have there := lookup?_of_mem filled.distinct member
    rw [entered] at there
    exact (Option.some.inj there).symm
  · have there := lookup?_of_mem founds.distinct member
    rw [lookup?_of_mem founds.distinct bound] at there
    exact (Option.some.inj there).symm

/-- Whatever has been done to a registry and to a server over it, a request that spells the
namespace and the name of an exposed method is dispatched to what stands there. -/
theorem run_dispatches {style : NameStyle} {world : W} {changes : List (Change W)}
    {setup : Setup W} (built : setup = (ofStyle style world).run changes)
    (bare : setup.registry.middleware = []) {options : Options} {start : W}
    {deeds : List (Deed W)} {server : Server W}
    (serves : server =
      ((Site.ofServer (Server.ofRegistry setup.registry options) start).run deeds).server)
    {space name : String} (exposed : name ∈ setup.registry.methodsOf space)
    (spells : style.Spells space name) {request : Http.Request}
    (admitted : server.declined? (Call.begin {} request) = none)
    {body : Bytes} {e : Envelope} (opened : server.openBody request.body = .ok body)
    (parsed : Envelope.parse body = .ok e) (valid : e.hasValidId = true)
    (named : e.method = space ++ "." ++ name) :
    ∃ entry cb, (space, entry) ∈ setup.registry.services ∧ (name, cb) ∈ entry.methods ∧
      (∀ other, (space, other) ∈ setup.registry.services → other = entry) ∧
      (∀ other, (name, other) ∈ entry.methods → other = cb) ∧
      cb.name = name ∧ cb.receiver = entry.receiver ∧
      ∀ s now, server.Dispatches s request now body e cb := by
  have filled := (Filled.ofStyle style world).run changes
  rw [← built] at filled
  obtain ⟨same, middleware, -⟩ := Site.run_ofRegistry setup.registry options start deeds
  have clean := Site.run_ofRegistry_clean setup.registry options start deeds
  rw [← serves] at same middleware clean
  have settled := spells.settled
  rw [← filled.styled] at settled spells
  obtain ⟨entry, cb, entered, bound, located⟩ := Registry.lookup_of_exposed settled exposed
  obtain ⟨soleEntry, soleMethod, titled, received⟩ := filled.sole entered bound
  rw [← same] at spells located
  exact ⟨entry, cb, mem_of_lookup? entered, bound, soleEntry, soleMethod, titled, received,
    fun s now => Server.dispatches_of_exposed clean (middleware.trans bare) spells located
      admitted opened parsed valid named⟩

theorem run_dispatches_fall :
    let setup := (ofStyle .snake untouched).run [.register none fallService]
    let server := ((Site.ofServer (Server.ofRegistry setup.registry {}) untouched).run []).server
    ∃ e entry cb, e.method = "demo" ++ "." ++ "fall" ∧ ("demo", entry) ∈ setup.registry.services ∧
      ("fall", cb) ∈ entry.methods ∧
      ∀ s now, server.Dispatches s fallRequest now fallRequest.body e cb := by
  intro setup server
  have parsed : Envelope.parse fallRequest.body =
      .ok { id := some (.number (.whole ⟨7, by decide, by decide⟩)), method := "demo.fall" } := by
    decide +kernel
  have spells : NameStyle.snake.Spells "demo" "fall" :=
    ⟨by decide +kernel, by decide +kernel, by decide +kernel⟩
  have built : setup = (ofStyle .snake untouched).run [.register none fallService] := rfl
  have serves : server =
      ((Site.ofServer (Server.ofRegistry setup.registry {}) untouched).run []).server := rfl
  obtain ⟨entry, cb, entered, bound, -, -, -, -, dispatches⟩ :=
    run_dispatches built (by decide +kernel) serves (by decide +kernel) spells
      (by decide +kernel) rfl parsed (by decide +kernel) rfl
  exact ⟨_, entry, cb, rfl, entered, bound, dispatches⟩

/-- A method is exposed under a namespace and a name, and a call by these names is refused. -/
def Refuses (style : NameStyle) (as : String) (method : Method tallied)
    (space name message : String) : Prop :=
  let service := { fallService with methods := fun world => (.ok [method], world) }
  let setup := (ofStyle style untouched).run [.register (some as) service]
  let server := Server.ofRegistry setup.registry {}
  let text := "\x7b\"id\":7,\"method\":\"" ++ (space ++ "." ++ name) ++ "\"\x7d"
  let refusal := "\x7b\"code\":-32601,\"message\":\"" ++ message ++ "\"\x7d"
  let request : Http.Request := { method := "POST", body := Utf8.encode text }
  setup.registry.middleware = [] ∧ space ∈ setup.registry.namespaces ∧
    name ∈ setup.registry.methodsOf space ∧ server.declined? (Call.begin {} request) = none ∧
    (Envelope.parse request.body).toOption.map Envelope.method = some (space ++ "." ++ name) ∧
    (server.handle stillness request untouched).1.toOption.map Http.Response.body =
      some (Utf8.encode ("\x7b\"id\":7,\"jsonrpc\":\"2.0\",\"error\":" ++ refusal ++ "\x7d"))

def goneMethod : Method tallied :=
  Method.of "fall" false noArgument .nothingOrFault fun _ _ _ runs =>
    (.ok (.failed (.noMethod "gone")), runs + 1)

/-- A namespace with a dot, one that is folded to nothing, a name that is folded to another when it
is folded again, and a method that itself says that there is no such method. -/
theorem exposed_refused :
    Refuses .verbatim "a.b" fallMethod "a.b" "fall" "no namespace" ∧
      Refuses .snake "--" fallMethod "" "fall" "wrong method" ∧
      Refuses .snake "demo" { fallMethod with name := "İx" } "demo" "i\u0307x" "no method" ∧
      Refuses .snake "demo" goneMethod "demo" "fall" "gone" := by
  unfold Refuses
  decide +kernel

end Setup

end JsonRpc
