import JsonRpc.Proofs.Registry.Spelling
import JsonRpc.Proofs.Server.Containment
import JsonRpc.Proofs.Server.Exposure

namespace JsonRpc

variable {W : World}

namespace Registry

/-- All spellings that are folded to one method, and that method itself, are resolved alike, and the
namespace of each is that of the callback that is found. -/
structure Agrees (registry : Registry W) (method folded : String) : Prop where
  normalized : registry.normalizeMethod method = .ok folded
  settled : registry.normalizeMethod folded = .ok folded
  resolved : ∀ other, registry.normalizeMethod other = .ok folded →
    registry.resolve other = registry.resolve method
  received : ∀ cb, registry.resolve method = .ok cb →
    ∀ other, registry.normalizeMethod other = .ok folded →
      registry.namespaceService other = some cb.receiver

structure Meets (registry : Registry W) (method : String) : Prop where
  split_iff : ∀ e : Envelope, e.method = method → ∀ fault,
    e.split = .error fault ↔ Malformed method ∧ fault = .noMethod "wrong method"
  normalized_iff : ∀ fault, registry.normalizeMethod method = .error fault ↔
    Malformed method ∧ fault = .noMethod "wrong method"
  resolved_iff : registry.resolve method = .error (.noMethod "wrong method") ↔ Malformed method
  agrees : ∀ space name, splitMethod method = .ok (space, name) →
    registry.style.apply space ≠ "" → registry.style.apply name ≠ "" →
      ∃ folded, registry.Agrees method folded

end Registry

theorem Setup.Filled.received {style : NameStyle} {past : List (Try W)} {barred : List String}
    {setup : Setup W} (filled : setup.Filled style past barred) {method : String} {cb : Callback W}
    (found : setup.registry.resolve method = .ok cb) :
    setup.registry.namespaceService method = some cb.receiver := by
  obtain ⟨space, name, entry, entered, bound, received⟩ :=
    Registry.namespaceService_of_resolve found
  obtain ⟨-, -, -, same⟩ := filled.sole entered bound
  rw [received, same]

theorem ascii_of_all {method : String}
    (checked : (method.toList.all fun c => decide (c.toNat < 0x80)) = true) :
    ∀ c ∈ method.toList, c.toNat < 0x80 :=
  fun c member => of_decide_eq_true (List.all_eq_true.mp checked c member)

theorem ascii_of_splitMethod {method space name : String}
    (parted : splitMethod method = .ok (space, name))
    (ascii : ∀ c ∈ method.toList, c.toNat < 0x80) :
    (∀ c ∈ space.toList, c.toNat < 0x80) ∧ ∀ c ∈ name.toList, c.toNat < 0x80 := by
  obtain ⟨-, rfl⟩ := splitAtDot?_eq_some_iff.mp (splitMethod_eq_ok_iff.mp parted).1
  simp only [String.toList_append, List.mem_append] at ascii
  exact ⟨fun c member => ascii c (.inl (.inl member)), fun c member => ascii c (.inr member)⟩

namespace Setup

theorem Filled.meets {style : NameStyle} {past : List (Try W)} {barred : List String}
    {setup : Setup W} (filled : setup.Filled style past barred) {method : String}
    (ascii : ∀ c ∈ method.toList, c.toNat < 0x80) : setup.registry.Meets method where
  split_iff e named fault := by rw [Envelope.split, named, splitMethod_eq_error_iff]
  normalized_iff fault := Registry.normalizeMethod_eq_error_iff
  resolved_iff := Registry.resolve_eq_wrong_iff
  agrees space name parted spaced titled := by
    have normalized : setup.registry.normalizeMethod method =
        .ok (setup.registry.style.apply space ++ "." ++ setup.registry.style.apply name) :=
      Registry.normalizeMethod_eq_ok_iff.mpr ⟨space, name, parted, rfl⟩
    obtain ⟨early, late⟩ := ascii_of_splitMethod parted ascii
    have settled := Registry.normalizeMethod_normalized normalized parted ⟨spaced, titled⟩
      ⟨NameStyle.apply_apply_of_ascii _ early, NameStyle.apply_apply_of_ascii _ late⟩
    have resolved : ∀ other, setup.registry.normalizeMethod other = .ok _ →
        setup.registry.resolve other = setup.registry.resolve method :=
      fun other => Registry.resolve_congr normalized
    exact ⟨_,
      { normalized
        settled
        resolved
        received := fun cb found other alike =>
          filled.received ((resolved other alike).trans found) }⟩

end Setup

namespace Server

/-- A request is answered with a fault, and no code is run for it. -/
structure Dismisses (server : Server W) (s : Surroundings) (request : Http.Request) (world : W)
    (id : Option Json) (fault : Fault) : Prop where
  silent : (server.recordHandle s request world).events = []
  unbound : ∃ m, server.resolveCall s (entry s (Context.begin {} request) world) = (.error fault, m)
  answered : ∃ response, (server.handle s request world).1 = .ok response ∧ response.status = 200 ∧
    server.openBody response.body = .ok (Envelope.encode
      { id, version := protocolVersion, error := some fault })

theorem echoed_of_valid {server : Server W} {r : Run W} {body : Bytes} {e : Envelope}
    (opened : server.openBody r.call.request.body = .ok body) (parsed : Envelope.parse body = .ok e)
    (valid : e.hasValidId = true) :
    some ((server.echoed? r).getD Envelope.placeholderId) = e.id := by
  have shown : server.opened? r = some body := by rw [opened?, opened]; rfl
  have read : server.inbound? r = some e := by rw [inbound?, shown, Option.bind_some, parsed]; rfl
  rw [echoed?_of_read read, if_pos valid]
  cases told : e.id with
  | none => simp [Envelope.hasValidId, told] at valid
  | some id => rfl

theorem dismisses_of_misaddressed {server : Server W} (clean : server.pool.Clean)
    {request : Http.Request} (admitted : server.declined? (Call.begin {} request) = none)
    {body : Bytes} {e : Envelope} (opened : server.openBody request.body = .ok body)
    (parsed : Envelope.parse body = .ok e) (valid : e.hasValidId = true) {fault : Fault}
    (refused : server.registry.style.address e.method = .error fault) (s : Surroundings)
    (world : W) : server.Dismisses s request world e.id fault := by
  obtain ⟨m, ended, -⟩ := resolveCall_of_misaddressed (s := s)
    (r := entry s (Context.begin {} request) world) opened parsed valid refused
  have recorded : server.recordDispatch s (entry s (Context.begin {} request) world) =
      .silent (.failed fault, m) := by rw [recordDispatch, ended]
  have failed : (server.dispatch s (entry s (Context.begin {} request) world)).1 =
      .failed fault := by rw [dispatch, ended]
  obtain ⟨response, answered, status, sealed⟩ :=
    conclude_of_failed rfl rfl (by simp [recorded]) (by rw [recorded]; rfl) failed
  have echoed : some ((server.echoed? (entry s (Context.begin {} request) world)).getD
      Envelope.placeholderId) = e.id := echoed_of_valid opened parsed valid
  have handled := recordHandle_of_admitted clean admitted s world
  refine
    { silent := ?_, unbound := ⟨m, ended⟩
      answered := ⟨response, ?_, status, ?_⟩ }
  · rw [handled, Recorded.events_map, recorded]
    rfl
  · rw [← recordHandle_result, handled, Recorded.result_map, recordDispatch_result,
      (conclude_of_pool ..).1, answered]
  · rw [sealed, echoed]

end Server

namespace Setup

open Server (fallService stillness)

/-- Whatever has been registered, all spellings of a method meet the same method, and where nothing
is left of a part of it, every server over the registry says that the method is a wrong one. -/
theorem run_meets (style : NameStyle) (world : W) (changes : List (Change W)) (method : String)
    (ascii : ∀ c ∈ method.toList, c.toNat < 0x80) :
    let registry := ((ofStyle style world).run changes).registry
    registry.Meets method ∧
      ∀ space name, splitMethod method = .ok (space, name) →
        style.apply space = "" ∨ style.apply name = "" →
        ∀ (options : Options) (start : W) (deeds : List (Deed W)),
          let site := (Site.ofServer (Server.ofRegistry registry options) start).run deeds
          ∀ s request body e, site.server.declined? (Call.begin {} request) = none →
            site.server.openBody request.body = .ok body → Envelope.parse body = .ok e →
            e.hasValidId = true → e.method = method →
              site.server.Dismisses s request site.world e.id (.noMethod "wrong method") := by
  intro registry
  have filled := (Filled.ofStyle style world).run changes
  refine ⟨filled.meets ascii, ?_⟩
  rintro space name parted hollow options start deeds site s request body e admitted opened parsed
    valid rfl
  have same : site.server.registry = registry :=
    (Site.run_ofRegistry registry options start deeds).1
  have refused : site.server.registry.style.address e.method =
      .error (.noMethod "wrong method") := by
    rw [same, filled.styled, NameStyle.address, parted]
    exact if_neg (not_and_or.mpr (hollow.imp not_not.mpr not_not.mpr))
  exact Server.dismisses_of_misaddressed (Site.run_ofRegistry_clean registry options start deeds)
    admitted opened parsed valid refused s site.world

def hollowRequest : Http.Request :=
  { method := "POST", body := asciiBytes "\x7b\"id\":7,\"method\":\"--.fall\"\x7d" }

theorem run_meets_fall :
    let registry := ((ofStyle .snake untouched).run [.register none fallService]).registry
    let site := (Site.ofServer (Server.ofRegistry registry {}) untouched).run []
    let seven := Json.number (.whole ⟨7, by decide, by decide⟩)
    (∃ cb, registry.resolve "Demo.FALL" = .ok cb ∧ registry.resolve "demo.fall" = .ok cb ∧
      registry.namespaceService "demo.fall" = some cb.receiver) ∧
    splitMethod "--.fall" = .ok ("--", "fall") ∧
    site.server.Dismisses stillness hollowRequest untouched (some seven) (.noMethod "wrong method") := by
  intro registry site seven
  have normalized : registry.normalizeMethod "Demo.FALL" = .ok "demo.fall" := by decide +kernel
  have found : (registry.resolve "Demo.FALL").toOption.isSome = true := by decide +kernel
  obtain ⟨⟨-, -, -, agrees⟩, -⟩ :=
    run_meets .snake untouched [.register none fallService] "Demo.FALL"
      (ascii_of_all (by decide +kernel))
  obtain ⟨folded, agrees⟩ := agrees "Demo" "FALL" (by decide +kernel) (by decide +kernel)
    (by decide +kernel)
  have same : folded = "demo.fall" := Except.ok.inj (agrees.normalized.symm.trans normalized)
  subst same
  have hollow : splitMethod "--.fall" = .ok ("--", "fall") := by decide +kernel
  have parsed : Envelope.parse hollowRequest.body =
      .ok { id := some seven, method := "--.fall" } := by decide +kernel
  obtain ⟨-, dismisses⟩ :=
    run_meets .snake untouched [.register none fallService] "--.fall"
      (ascii_of_all (by decide +kernel))
  refine ⟨?_, hollow, dismisses "--" "fall" hollow (.inl (by decide +kernel)) {} untouched [] stillness
    hollowRequest hollowRequest.body _ (by decide +kernel) rfl parsed (by decide +kernel) rfl⟩
  cases resolved : registry.resolve "Demo.FALL" with
  | error fault => simp [resolved, Except.toOption] at found
  | ok cb =>
    exact ⟨cb, rfl, (agrees.resolved _ agrees.settled).trans resolved,
      agrees.received cb resolved _ agrees.settled⟩

end Setup

end JsonRpc
