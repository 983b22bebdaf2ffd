import JsonRpc.Proofs.Name.Address
import JsonRpc.Proofs.Server.Edits
import JsonRpc.Proofs.Server.Reached
import JsonRpc.Proofs.Server.Response

namespace JsonRpc

variable {W : World}

inductive Stage where
  | opening
  | reading
  | identity
  | shape
  | space
  | name
  | middleware
  | binding
  | invocation
deriving DecidableEq

namespace Stage

def inbound : List Stage := [.opening, .reading, .identity, .shape, .space, .name]

def order : List Stage := inbound ++ [.middleware, .binding, .invocation]

/-- The code of all faults of a stage. Code may fail in any way. -/
def code? : Stage → Option FaultCode
  | .opening | .reading => some .parse
  | .identity => some .invalidRequest
  | .shape | .space | .name => some .noMethod
  | .binding => some .badParams
  | .middleware | .invocation => none

end Stage

def refusal? {α : Type} : Except Fault α → Option Fault
  | .ok _ => none
  | .error fault => some fault

@[simp] theorem refusal?_ok {α : Type} (a : α) : refusal? (.ok a) = none := rfl

@[simp] theorem refusal?_error {α : Type} (fault : Fault) :
    refusal? (.error fault : Except Fault α) = some fault := rfl

theorem refusal?_eq_some {α : Type} {x : Except Fault α} {fault : Fault} :
    refusal? x = some fault ↔ x = .error fault := by
  cases x <;> simp

def Verdict.fault? {α : Type} : Verdict α → Option Fault
  | .failed fault => some fault
  | .returned _ | .panicked _ => none

theorem Verdict.fault?_eq_some {α : Type} {v : Verdict α} {fault : Fault} :
    v.fault? = some fault ↔ v = .failed fault := by
  cases v <;> simp [Verdict.fault?]

def Verdict.States (found : Option Fault) : Verdict Unit → Prop
  | .failed fault => found = some fault
  | .returned () | .panicked _ => found = none

namespace Server

section

variable (server : Server W) (s : Surroundings) (r : Run W)

def joined (address : String × String) : String := address.1 ++ "." ++ address.2

def taken (body : Bytes) (e : Envelope) : Run W :=
  r.edit fun call =>
    { call with
      store := call.store.insert Call.startKey (.ofInt64 s.received), body, envelope := e }

def opened? : Option Bytes := (server.openBody r.call.request.body).toOption

def inbound? : Option Envelope :=
  (server.opened? r).bind fun body => (Envelope.parse body).toOption

def address? : Option (String × String) :=
  (server.inbound? r).bind fun e => (server.registry.style.address e.method).toOption

def callback? : Option (Callback W) :=
  (server.address? r).bind fun address => (server.registry.lookup address.1 address.2).toOption

/-- What the middleware is given: the call as it came, under the address of its method. -/
def prepared? : Option (Run W) :=
  (server.opened? r).bind fun body =>
  (server.inbound? r).bind fun e =>
  (server.address? r).map fun address =>
    taken s r body { e with method := joined address, result := none, error := none }

/-- The callback of a call that the middleware does not stop, with what the middleware leaves. -/
def reached? : Option (Callback W × Run W) :=
  (server.callback? r).bind fun cb =>
  (server.prepared? s r).bind fun m =>
    match server.runMiddleware s m with
    | (.returned (), left) => if left.call.stopped then none else some (cb, left)
    | _ => none

def faultAt? : Stage → Option Fault
  | .opening => refusal? (server.openBody r.call.request.body)
  | .reading => (server.opened? r).bind fun body => refusal? (Envelope.parse body)
  | .identity =>
    (server.inbound? r).bind fun e =>
      if e.hasValidId then none else some (.invalidRequest "id is invalid")
  | .shape => (server.inbound? r).bind fun e => refusal? (server.registry.style.address e.method)
  | .space =>
    (server.address? r).bind fun address =>
      if server.registry.contains address.1 then none else some (.noMethod "no namespace")
  | .name =>
    (server.address? r).bind fun address =>
    (server.registry.entry? address.1).bind fun entry =>
      match lookup? (server.registry.style.apply address.2) entry.methods with
      | some _ => none
      | none => some (.noMethod "no method")
  | .middleware => (server.prepared? s r).bind fun m => (server.runMiddleware s m).1.fault?
  -- a call that the middleware has stopped is not bound, and what would not bind does no harm
  | .binding =>
    (server.reached? s r).bind fun (cb, left) => (cb.bind left.call.envelope.params).fault?
  | .invocation =>
    (server.reached? s r).bind fun (cb, left) =>
      match cb.bind left.call.envelope.params with
      | .returned bound =>
        (cb.invoke server.registry.hooks s left.call.envelope.method bound (emptied left)).1.fault?
      | _ => none

def firstFault? : Option Fault := Stage.order.findSome? (server.faultAt? s r)

/-- The id of a call, unless it has none or one that is an object or an array. -/
def echoed? : Option Json := ((server.inbound? r).bind (·.id)).filter Json.isScalar

end

variable {server : Server W} {s : Surroundings} {r : Run W}

theorem resolveCall_of_unread (unread : server.inbound? r = none) :
    ∃ fault m, server.resolveCall s r = (.error fault, m) ∧
      Stage.inbound.findSome? (server.faultAt? s r) = some fault ∧
      m.call.envelope = r.call.envelope := by
  cases opened : server.openBody r.call.request.body with
  | error fault =>
    refine ⟨fault, r, by rw [resolveCall, opened], ?_, rfl⟩
    simp [Stage.inbound, faultAt?, opened]
  | ok body =>
    have shown : server.opened? r = some body := by rw [opened?, opened]; rfl
    cases parsed : Envelope.parse body with
    | ok e => simp [inbound?, shown, parsed, Except.toOption] at unread
    | error fault =>
      refine ⟨fault, taken s r body r.call.envelope, ?_, ?_, rfl⟩
      · rw [resolveCall, opened]
        simp only [parsed]
        rfl
      · simp [Stage.inbound, faultAt?, opened, shown, parsed]

theorem resolveCall_of_read {body : Bytes} {e : Envelope}
    (opened : server.openBody r.call.request.body = .ok body)
    (parsed : Envelope.parse body = .ok e) :
    server.resolveCall s r =
      if e.hasValidId then
        match server.registry.normalizeMethod e.method with
        | .error fault => (.error fault, taken s r body (admitEnvelope e))
        | .ok method =>
          (server.registry.resolve method,
            taken s r body { e with method, result := none, error := none })
      else (.error (.invalidRequest "id is invalid"), taken s r body (admitEnvelope e)) := by
  cases valid : e.hasValidId with
  | false =>
    have dropped : (admitEnvelope e).id = none := by simp [admitEnvelope, valid]
    have refused : (admitEnvelope e).validate = .error (.invalidRequest "id is invalid") := by
      simp [Envelope.validate, Envelope.hasValidId, dropped]
    simp only [resolveCall, opened, parsed]
    rw [show (Run.edit (setEnvelope (admitEnvelope e)) _).call.envelope = admitEnvelope e from rfl,
      refused]
    rfl
  | true =>
    have kept : admitEnvelope e = { e with result := none, error := none } := by
      simp [admitEnvelope, valid]
    have checked : (admitEnvelope e).validate = (splitMethod e.method).map fun _ => () := by
      rw [kept]
      exact if_pos valid
    simp only [resolveCall, opened, parsed]
    rw [show (Run.edit (setEnvelope (admitEnvelope e)) _).call.envelope = admitEnvelope e from rfl,
      checked]
    cases parted : splitMethod e.method with
    | error fault => simp [Registry.normalizeMethod, parted, Except.map]; rfl
    | ok parts => simp [Registry.normalizeMethod, parted, Except.map, kept]; rfl

theorem echoed?_of_read {e : Envelope} (read : server.inbound? r = some e) :
    server.echoed? r = if e.hasValidId then e.id else none := by
  rw [echoed?, read, Envelope.hasValidId]
  cases named : e.id with
  | none => simp [named]
  | some id => simp [named, Option.filter]

theorem opened_of_read {e : Envelope} (read : server.inbound? r = some e) :
    ∃ body, server.openBody r.call.request.body = .ok body ∧ Envelope.parse body = .ok e := by
  cases opened : server.openBody r.call.request.body with
  | error fault => simp [inbound?, opened?, opened, Except.toOption] at read
  | ok body =>
    cases parsed : Envelope.parse body with
    | error fault => simp [inbound?, opened?, opened, parsed, Except.toOption] at read
    | ok other =>
      have same : other = e := by
        simpa [inbound?, opened?, opened, parsed, Except.toOption] using read
      exact ⟨body, rfl, by rw [parsed, same]⟩

theorem resolveCall_of_misaddressed {body : Bytes} {e : Envelope} {fault : Fault}
    (opened : server.openBody r.call.request.body = .ok body)
    (parsed : Envelope.parse body = .ok e) (valid : e.hasValidId = true)
    (refused : server.registry.style.address e.method = .error fault) :
    ∃ m, server.resolveCall s r = (.error fault, m) ∧ m.call.envelope.id = e.id := by
  have ended := resolveCall_of_read (s := s) opened parsed
  rw [if_pos valid] at ended
  cases normalized : server.registry.normalizeMethod e.method with
  -- a part of the method may be folded to nothing: then it is the second reading that refuses it
  | ok folded =>
    have resolved := server.registry.resolve_normalized normalized
    rw [refused] at resolved
    simp only [normalized, resolved] at ended
    exact ⟨_, ended, rfl⟩
  | error other =>
    have same : other = fault := by
      cases parted : splitMethod e.method with
      | ok parts => simp [Registry.normalizeMethod, parted] at normalized
      | error cause =>
        have address := server.registry.style.address_of_split_error parted
        rw [address] at refused
        simp only [Registry.normalizeMethod, parted, Except.error.injEq] at normalized refused
        rw [← normalized, refused]
    simp only [normalized, same] at ended
    exact ⟨_, ended, by simp [taken, Run.edit, Run.call, admitEnvelope, valid]⟩

theorem resolveCall_of_addressed {body : Bytes} {e : Envelope} {address : String × String}
    (opened : server.openBody r.call.request.body = .ok body)
    (parsed : Envelope.parse body = .ok e) (valid : e.hasValidId = true)
    (addressed : server.registry.style.address e.method = .ok address) :
    server.resolveCall s r = (server.registry.lookup address.1 address.2,
      taken s r body { e with method := joined address, result := none, error := none }) := by
  have normalized := server.registry.normalizeMethod_of_address addressed
  have resolved := server.registry.resolve_normalized normalized
  rw [addressed] at resolved
  rw [resolveCall_of_read opened parsed, if_pos valid, normalized]
  simp only [resolved]
  rfl

theorem lookup_stages {address : String × String} (found : server.address? r = some address) :
    [Stage.space, .name].findSome? (server.faultAt? s r) =
      refusal? (server.registry.lookup address.1 address.2) := by
  cases entered : server.registry.entry? address.1 with
  | none =>
    have missing : server.faultAt? s r .space = some (.noMethod "no namespace") := by
      simp [faultAt?, found, Registry.contains, entered]
    simp [missing, Registry.lookup, entered]
  | some entry =>
    have known : server.faultAt? s r .space = none := by
      simp [faultAt?, found, Registry.contains, entered]
    cases bound : lookup? (server.registry.style.apply address.2) entry.methods with
    | none =>
      have missing : server.faultAt? s r .name = some (.noMethod "no method") := by
        simp [faultAt?, found, entered, bound]
      simp [known, missing, Registry.lookup, entered, bound]
    | some cb =>
      have there : server.faultAt? s r .name = none := by simp [faultAt?, found, entered, bound]
      simp [known, there, Registry.lookup, entered, bound]

/-- How the stages before any code may end: with the fault of the first that finds one, or with a
callback and a run for the middleware. -/
def Resolves (server : Server W) (s : Surroundings) (r : Run W)
    (ended : Except Fault (Callback W) × Run W) : Prop :=
  (∃ fault m, ended = (.error fault, m) ∧
    Stage.inbound.findSome? (server.faultAt? s r) = some fault ∧
    m.call.envelope.id = server.echoed? r) ∨
  ∃ cb m, ended = (.ok cb, m) ∧
    Stage.inbound.findSome? (server.faultAt? s r) = none ∧
    server.callback? r = some cb ∧ server.prepared? s r = some m ∧
    m.call.envelope.id = server.echoed? r

theorem resolves_of_valid {body : Bytes} {e : Envelope}
    (opened : server.openBody r.call.request.body = .ok body)
    (parsed : Envelope.parse body = .ok e) (valid : e.hasValidId = true) :
    server.Resolves s r (server.resolveCall s r) := by
  have shown : server.opened? r = some body := by rw [opened?, opened]; rfl
  have read : server.inbound? r = some e := by simp [inbound?, shown, parsed, Except.toOption]
  have echoed : server.echoed? r = e.id := by rw [echoed?_of_read read, if_pos valid]
  have readable : server.faultAt? s r .opening = none ∧ server.faultAt? s r .reading = none ∧
      server.faultAt? s r .identity = none := by
    simp [faultAt?, opened, shown, parsed, read, valid]
  cases addressed : server.registry.style.address e.method with
  | error fault =>
    obtain ⟨m, ended, named⟩ := resolveCall_of_misaddressed (s := s) opened parsed valid addressed
    have refused : server.faultAt? s r .shape = some fault := by simp [faultAt?, read, addressed]
    refine .inl ⟨fault, m, ended, ?_, by rw [named, echoed]⟩
    simp [Stage.inbound, readable, refused]
  | ok address =>
    have found : server.address? r = some address := by
      simp [address?, read, addressed, Except.toOption]
    have shaped : server.faultAt? s r .shape = none := by simp [faultAt?, read, addressed]
    have ended := resolveCall_of_addressed (s := s) opened parsed valid addressed
    -- what is left of the stages is the lookup, which finds the same fault as they do
    have judged := lookup_stages (s := s) found
    cases located : server.registry.lookup address.1 address.2 with
    | error fault =>
      rw [located] at ended judged
      refine .inl ⟨fault, _, ended, ?_, by rw [echoed]; rfl⟩
      simp [Stage.inbound, readable, shaped, judged]
    | ok cb =>
      rw [located] at ended judged
      refine .inr ⟨cb, _, ended, ?_, ?_, ?_, by rw [echoed]; rfl⟩
      · simp [Stage.inbound, readable, shaped, judged]
      · simp [callback?, found, located, Except.toOption]
      · simp [prepared?, shown, read, found]

theorem resolveCall_stages (server : Server W) (s : Surroundings) (blank : r.call.envelope = {}) :
    server.Resolves s r (server.resolveCall s r) := by
  cases read : server.inbound? r with
  | none =>
    obtain ⟨fault, m, ended, fails, kept⟩ := resolveCall_of_unread (s := s) read
    refine .inl ⟨fault, m, ended, fails, ?_⟩
    rw [kept, blank, echoed?, read]
    rfl
  | some e =>
    obtain ⟨body, opened, parsed⟩ := opened_of_read read
    cases valid : e.hasValidId with
    | true => exact resolves_of_valid opened parsed valid
    | false =>
      have shown : server.opened? r = some body := by rw [opened?, opened]; rfl
      have ended := resolveCall_of_read (s := s) opened parsed
      rw [valid] at ended
      refine .inl ⟨_, _, ended, ?_, ?_⟩
      · simp [Stage.inbound, faultAt?, opened, shown, parsed, read, valid]
      · rw [echoed?_of_read read]
        simp [taken, Run.edit, Run.call, admitEnvelope, valid]

theorem firstFault?_of_inbound (sound : Stage.inbound.findSome? (server.faultAt? s r) = none) :
    server.firstFault? s r =
      [Stage.middleware, .binding, .invocation].findSome? (server.faultAt? s r) := by
  rw [firstFault?, Stage.order, List.findSome?_append, sound, Option.none_or]

theorem callMethod_stages {cb : Callback W} {left : Run W}
    (reached : server.reached? s r = some (cb, left)) :
    (server.callMethod s cb left).1.States
      ([Stage.binding, .invocation].findSome? (server.faultAt? s r)) := by
  rw [callMethod]
  cases bound : cb.bind left.call.envelope.params with
  | failed fault => simp [faultAt?, reached, bound, Verdict.fault?, Verdict.States]
  | panicked cause => simp [faultAt?, reached, bound, Verdict.fault?, Verdict.States]
  | returned args =>
    have binds : server.faultAt? s r .binding = none := by
      simp [faultAt?, reached, bound, Verdict.fault?]
    have invoked : server.faultAt? s r .invocation = (cb.invoke server.registry.hooks s
        left.call.envelope.method args (emptied left)).1.fault? := by
      simp [faultAt?, reached, bound]
    simp only [List.findSome?_cons, binds, invoked]
    rcases cb.invoke server.registry.hooks s left.call.envelope.method args (emptied left) with
      ⟨value | fault | cause, final⟩
    · rfl
    · rfl
    · rfl

theorem dispatch_stages (server : Server W) (s : Surroundings) (blank : r.call.envelope = {}) :
    (server.dispatch s r).1.States (server.firstFault? s r) := by
  rcases resolveCall_stages server s blank with
    ⟨fault, m, ended, fails, -⟩ | ⟨cb, m, ended, sound, found, prepared, -⟩
  · rw [dispatch, ended, firstFault?, Stage.order, List.findSome?_append, fails, Option.some_or]
    rfl
  · have judged : server.faultAt? s r .middleware = (server.runMiddleware s m).1.fault? := by
      rw [faultAt?, prepared, Option.bind_some]
    have reached : server.reached? s r =
        match server.runMiddleware s m with
        | (.returned (), left) => if left.call.stopped then none else some (cb, left)
        | _ => none := by
      rw [reached?, found, prepared, Option.bind_some, Option.bind_some]
    rw [firstFault?_of_inbound sound, dispatch, ended]
    rcases passed : server.runMiddleware s m with ⟨⟨⟩ | fault | cause, left⟩
    · simp only [passed] at judged reached
      rw [List.findSome?_cons, judged]
      by_cases stopped : left.call.stopped = true
      · rw [if_pos stopped] at reached
        simp [passed, Verdict.andThen, Verdict.fault?, stopped, faultAt?, reached, Verdict.States]
      · rw [if_neg stopped] at reached
        simpa [passed, Verdict.andThen, Verdict.fault?, stopped] using callMethod_stages reached
    · simp [passed, judged, Verdict.andThen, Verdict.fault?, Verdict.States]
    -- nothing is reached behind a panic
    · simp only [passed] at judged reached
      rw [List.findSome?_cons, judged]
      simp [passed, reached, faultAt?, Verdict.andThen, Verdict.fault?, Verdict.States]

theorem code_of_openBody_error {body : Bytes} {fault : Fault}
    (refused : server.openBody body = .error fault) : fault.code = .parse := by
  rw [openBody] at refused
  split at refused
  · cases refused
  · split at refused
    · cases refused
    · cases refused
      rfl

theorem code_of_parse_error {body : Bytes} {fault : Fault}
    (refused : Envelope.parse body = .error fault) : fault.code = .parse := by
  rw [Envelope.parse] at refused
  split at refused
  · cases refused
  · cases refused
    rfl

theorem faultAt?_code {stage : Stage} {fault : Fault} {code : FaultCode}
    (fails : server.faultAt? s r stage = some fault) (known : stage.code? = some code) :
    fault.code = code := by
  cases stage with
  | opening =>
    cases known
    exact code_of_openBody_error (refusal?_eq_some.mp fails)
  | reading =>
    cases known
    obtain ⟨body, -, refused⟩ := Option.bind_eq_some_iff.mp fails
    exact code_of_parse_error (refusal?_eq_some.mp refused)
  | identity =>
    cases known
    obtain ⟨e, -, refused⟩ := Option.bind_eq_some_iff.mp fails
    split at refused <;> cases refused
    rfl
  | shape =>
    cases known
    obtain ⟨e, -, refused⟩ := Option.bind_eq_some_iff.mp fails
    exact NameStyle.code_of_address_error (refusal?_eq_some.mp refused)
  | space =>
    cases known
    obtain ⟨address, -, refused⟩ := Option.bind_eq_some_iff.mp fails
    split at refused <;> cases refused
    rfl
  | name =>
    cases known
    obtain ⟨address, -, missing⟩ := Option.bind_eq_some_iff.mp fails
    obtain ⟨entry, -, refused⟩ := Option.bind_eq_some_iff.mp missing
    split at refused <;> cases refused
    rfl
  | binding =>
    cases known
    obtain ⟨reached, -, refused⟩ := Option.bind_eq_some_iff.mp fails
    exact Callback.badParams_of_bind (Verdict.fault?_eq_some.mp refused)
  | middleware => cases known
  | invocation => cases known

theorem openBody_of_plain (plain : server.cipher = none) (body : Bytes) :
    server.openBody body = .ok body := by
  rw [openBody, plain]

theorem firstFault?_of_decode {fault : Fault} (plain : server.cipher = none)
    (refused : Envelope.decode r.call.request.body = .error fault) :
    server.firstFault? s r = some fault := by
  have opened := openBody_of_plain plain r.call.request.body
  have shown : server.opened? r = some r.call.request.body := by rw [opened?, opened]; rfl
  have readable : server.faultAt? s r .opening = none := by simp [faultAt?, opened]
  rw [Envelope.decode] at refused
  cases parsed : Envelope.parse r.call.request.body with
  | error cause =>
    obtain rfl : cause = fault := by simpa [parsed] using refused
    have fails : server.faultAt? s r .reading = some cause := by simp [faultAt?, shown, parsed]
    simp [firstFault?, Stage.order, Stage.inbound, readable, fails]
  | ok e =>
    have read : server.inbound? r = some e := by simp [inbound?, shown, parsed, Except.toOption]
    have legible : server.faultAt? s r .reading = none := by simp [faultAt?, shown, parsed]
    cases valid : e.hasValidId with
    | false =>
      have fails : server.faultAt? s r .identity = some (.invalidRequest "id is invalid") := by
        simp [faultAt?, read, valid]
      have same : fault = .invalidRequest "id is invalid" := by
        simpa [parsed, Envelope.validate, valid] using refused.symm
      simp [firstFault?, Stage.order, Stage.inbound, readable, legible, fails, same]
    | true =>
      have identified : server.faultAt? s r .identity = none := by simp [faultAt?, read, valid]
      cases parted : splitMethod e.method with
      | ok parts => simp [parsed, Envelope.validate, valid, parted, Except.map] at refused
      | error cause =>
        obtain rfl : cause = fault := by
          simpa [parsed, Envelope.validate, valid, parted, Except.map] using refused
        have fails : server.faultAt? s r .shape = some cause := by
          simp [faultAt?, read, server.registry.style.address_of_split_error parted]
        simp [firstFault?, Stage.order, Stage.inbound, readable, legible, identified, fails]

theorem events_of_inbound_fault (blank : r.call.envelope = {}) {stage : Stage}
    (early : stage ∈ Stage.inbound) {fault : Fault}
    (fails : server.faultAt? s r stage = some fault) : (server.recordDispatch s r).events = [] := by
  rcases resolveCall_stages server s blank with
    ⟨other, m, ended, -⟩ | ⟨cb, m, -, sound, -⟩
  · rw [recordDispatch, ended]
    rfl
  · have passes := List.findSome?_eq_none_iff.mp sound stage early
    rw [fails] at passes
    cases passes

theorem inner_of_fault (blank : r.call.envelope = {}) {stage : Stage} (early : stage ≠ .invocation)
    {fault : Fault} (fails : server.faultAt? s r stage = some fault) :
    ∀ e ∈ (server.recordDispatch s r).events, e.isInner = true := by
  rcases resolveCall_stages server s blank with
    ⟨other, m, ended, -⟩ | ⟨cb, m, ended, sound, found, prepared, -⟩
  · rw [recordDispatch, ended]
    simp
  -- the events of the middleware are its own, so that nothing behind it may happen
  · suffices passed : (server.recordPassed s cb (server.runMiddleware s m)).events = [] by
      simp only [recordDispatch, ended, Recorded.events_andThen, recordMiddleware_result, passed,
        List.append_nil]
      exact inner_recordMiddleware
    cases stage with
    | middleware =>
      rw [faultAt?, prepared, Option.bind_some, Verdict.fault?_eq_some] at fails
      generalize server.runMiddleware s m = passed at fails
      obtain ⟨verdict, left⟩ := passed
      obtain rfl : verdict = .failed fault := fails
      rfl
    | binding =>
      obtain ⟨⟨other, left⟩, reached, refused⟩ := Option.bind_eq_some_iff.mp fails
      rw [reached?, found, prepared, Option.bind_some, Option.bind_some] at reached
      generalize server.runMiddleware s m = passed at reached
      obtain ⟨⟨⟩ | other | cause, final⟩ := passed
      rotate_left
      · rfl
      · rfl
      · dsimp only at reached
        split at reached
        · cases reached
        · rename_i live
          cases reached
          rw [recordPassed, if_neg live, recordCall, Verdict.fault?_eq_some.mp refused]
          rfl
    | invocation => exact absurd rfl early
    | opening | reading | identity | shape | space | name =>
      have passes := List.findSome?_eq_none_iff.mp sound
      simp [Stage.inbound, fails] at passes

theorem echoed_resolveCall (server : Server W) (s : Surroundings) (blank : r.call.envelope = {}) :
    (server.resolveCall s r).2.call.envelope.id = server.echoed? r := by
  rcases resolveCall_stages server s blank with
    ⟨fault, m, ended, -, named⟩ | ⟨cb, m, ended, -, -, -, named⟩
  · rw [ended]
    exact named
  · rw [ended]
    exact named

theorem faultless_of_returned (blank : r.call.envelope = {})
    (returned : (server.dispatch s r).1 = .returned ()) :
    (server.resolveCall s r).2.call.envelope.error = none := by
  rcases resolveCall_stages server s blank with
    ⟨fault, m, ended, -, -⟩ | ⟨cb, m, ended, -, -, prepared, -⟩
  · rw [dispatch, ended] at returned
    cases returned
  · obtain ⟨body, -, opened⟩ := Option.bind_eq_some_iff.mp prepared
    obtain ⟨e, -, read⟩ := Option.bind_eq_some_iff.mp opened
    obtain ⟨address, -, rfl⟩ := Option.map_eq_some_iff.mp read
    rw [ended]
    rfl

theorem outcome_of_unedited {call : Call} (blank : r.call.envelope = {})
    (unedited : ∀ e ∈ (server.recordDispatch s r).events, e.edits = false)
    (outcome : outcome? (server.dispatch s r) = some call) :
    call.envelope.id = server.echoed? r ∧ call.envelope.error = server.firstFault? s r := by
  have states := dispatch_stages server s blank
  have same := (Passage.sameCall s).recordDispatch server r unedited
  rw [recordDispatch_result] at same
  have named := echoed_resolveCall server s blank
  rcases ended : server.dispatch s r with ⟨⟨⟩ | fault | cause, final⟩
  · rw [ended] at states same outcome
    obtain rfl := Option.some.inj outcome
    -- no stage has set a fault, and unedited envelopes keep none
    have faultless := faultless_of_returned blank (congrArg Prod.fst ended)
    refine ⟨by rw [← named, ← same.id], ?_⟩
    rw [show server.firstFault? s r = none from states]
    exact same.faultless faultless
  · rw [ended] at states same outcome
    obtain rfl := Option.some.inj outcome
    refine ⟨by rw [← named, ← same.id]; rfl, ?_⟩
    rw [show server.firstFault? s r = some fault from states]
    rfl
  · rw [ended] at outcome
    cases outcome

/-- What is so of a call that is dispatched in a run `r` and whose code edits neither the envelope
nor the sink. -/
structure Judges (server : Server W) (s : Surroundings) (r : Run W) (events : List (Event W))
    (answer : Answer) : Prop where
  /-- The body holds either a result or the fault of the first stage that finds one. -/
  answered : (∀ cause, ¬ server.Escapes s r cause) →
    ∃ response result, answer = .ok response ∧ response.status = 200 ∧
      server.openBody response.body = .ok (Envelope.encode
        { id := some ((server.echoed? r).getD Envelope.placeholderId)
          version := protocolVersion
          result
          error := server.firstFault? s r }) ∧
      (result = none ↔ (server.firstFault? s r).isSome = true)
  /-- There is no response only if no stage finds fault and a panic gets out. -/
  unwound : ∀ cause, answer = .error cause ↔ server.Escapes s r cause
  faultless : ∀ cause, server.Escapes s r cause → server.firstFault? s r = none
  coded : ∀ stage fault code, server.faultAt? s r stage = some fault → stage.code? = some code →
    fault.code = code
  silent : ∀ stage ∈ Stage.inbound, ∀ fault, server.faultAt? s r stage = some fault → events = []
  uncalled : ∀ stage fault, stage ≠ .invocation → server.faultAt? s r stage = some fault →
    ∀ e ∈ events, e.isInner = true
  decoded : server.cipher = none →
    ∀ fault, Envelope.decode r.call.request.body = .error fault →
      server.firstFault? s r = some fault

theorem sink_of_outcome {ended : Verdict Unit × Run W} {call : Call}
    (outcome : outcome? ended = some call) : call.sink = ended.2.call.sink := by
  obtain ⟨⟨⟩ | fault | cause, final⟩ := ended
  · obtain rfl := Option.some.inj outcome
    rfl
  · obtain rfl := Option.some.inj outcome
    rfl
  · cases outcome

theorem Enveloped.body_of_judged {e : Envelope} {headers : Http.Headers} {response : Http.Response}
    {fault? : Option Fault} (enveloped : server.Enveloped e headers response)
    (errs : e.error = fault?) :
    ∃ result, server.openBody response.body = .ok (Envelope.encode
        { id := some (e.id.getD Envelope.placeholderId)
          version := protocolVersion, result, error := fault? }) ∧
      (result = none ↔ fault?.isSome = true) := by
  subst errs
  refine ⟨if e.error.isSome then none else some (e.result.getD .null), enveloped.body, ?_⟩
  cases e.error <;> simp

theorem judges_of_unedited (blank : r.call.envelope = {}) (unwritten : r.call.sink.written = false)
    (unedited : ∀ e ∈ (server.recordDispatch s r).events, e.edits = false)
    (unmarked : leavesWritten false (server.recordDispatch s r).events = false) :
    server.Judges s r (server.recordDispatch s r).events
      (server.conclude s (server.dispatch s r)).1 where
  answered := by
    intro kept
    have left := (Passage.leavesWritten s).recordDispatch server r
    rw [(resolveCall_apart _).2, unwritten, unmarked, recordDispatch_result] at left
    cases outcome : outcome? (server.dispatch s r) with
    | none =>
      rcases ended : server.dispatch s r with ⟨⟨⟩ | fault | cause, final⟩
      · simp [ended, outcome?] at outcome
      · simp [ended, outcome?] at outcome
      · exact absurd (dispatch_panicked_iff.mp (congrArg Prod.fst ended)) (kept cause)
    | some call =>
      obtain ⟨named, errs⟩ := outcome_of_unedited blank unedited outcome
      rw [← sink_of_outcome outcome] at left
      obtain ⟨response, answered, enveloped⟩ := conclude_of_unwritten outcome left
      obtain ⟨result, body, alone⟩ := enveloped.body_of_judged errs
      rw [named] at body
      exact ⟨response, result, answered, enveloped.status, body, alone⟩
  unwound cause := conclude_error_iff.trans dispatch_panicked_iff
  faultless := by
    intro cause escapes
    have states := dispatch_stages server s blank
    rw [dispatch_panicked_iff.mpr escapes] at states
    exact states
  coded _ _ _ := faultAt?_code
  silent _ early _ := events_of_inbound_fault blank early
  uncalled _ _ early := inner_of_fault blank early
  decoded plain _ := firstFault?_of_decode plain

/-- A request is judged stage by stage, whatever has been done with the server before. -/
theorem handle_firstFault (registry : Registry W) (options : Options) (start : W)
    (deeds : List (Deed W)) (s : Surroundings) (request : Http.Request) :
    let site := (Site.ofServer (ofRegistry registry options) start).run deeds
    let recorded := site.server.recordHandle s request site.world
    site.server.declined? (Call.begin {} request) = none →
    (∀ e ∈ recorded.events, e.edits = false) →
    leavesWritten false recorded.events = false →
    recorded.result = site.server.handle s request site.world ∧
      site.server.Judges s (entry s (Context.begin {} request) site.world) recorded.events
        recorded.result.1 := by
  intro site recorded admitted unedited unmarked
  have clean : site.server.pool.Clean := Site.run_ofRegistry_clean registry options start deeds
  have dispatched : recorded =
      (site.server.recordDispatch s (entry s (Context.begin {} request) site.world)).map
        ({ site.server with pool := site.server.pool.acquire.2 }.conclude s) :=
    recordHandle_of_admitted clean admitted s site.world
  refine ⟨recordHandle_result site.server s request site.world, ?_⟩
  rw [dispatched] at unedited unmarked ⊢
  rw [Recorded.result_map, recordDispatch_result, (conclude_of_pool ..).1]
  exact judges_of_unedited rfl rfl unedited unmarked

theorem handle_firstFault_fall :
    let site := (Site.ofServer (ofRegistry (fallServer []).registry {}) untouched).run []
    let recorded := site.server.recordHandle stillness fallRequest site.world
    let r := entry stillness (Context.begin {} fallRequest) site.world
    let fault := ((Panic.text "kaboom").fault "demo.fall" "")
    site.server.declined? (Call.begin {} fallRequest) = none ∧
      (∀ e ∈ recorded.events, e.edits = false) ∧
      leavesWritten false recorded.events = false ∧
      recorded.result = site.server.handle stillness fallRequest site.world ∧
      recorded.result.1 = .ok (fallResponse "demo.fall") ∧
      fault.code = .internal ∧ fault.message = "demo.fall: kaboom" ∧
      site.server.faultAt? stillness r .invocation = some fault ∧
      site.server.firstFault? stillness r = some fault ∧
      (site.server.echoed? r).map Json.write = some ['7'] ∧
      site.server.Judges stillness r recorded.events recorded.result.1 := by
  intro site recorded r fault
  have admitted : site.server.declined? (Call.begin {} fallRequest) = none := by decide +kernel
  have all_unedited : recorded.events.all (fun e => !e.edits) = true := by decide +kernel
  have unedited : ∀ e ∈ recorded.events, e.edits = false := by
    intro e member
    simpa using List.all_eq_true.mp all_unedited e member
  have unmarked : leavesWritten false recorded.events = false := by decide +kernel
  obtain ⟨same, judges⟩ := handle_firstFault (fallServer []).registry {} untouched [] stillness
    fallRequest admitted unedited unmarked
  have answered : recorded.result.1 = .ok (fallResponse "demo.fall") := by decide +kernel
  exact ⟨admitted, unedited, unmarked, same, answered, rfl, rfl, by decide +kernel,
    by decide +kernel, by decide +kernel, judges⟩

/-- No stage finds fault with the request, and there is no response. -/
theorem handle_unanswered :
    let server := brittleServer []
    let r := entry stillness (Context.begin {} loadRequest) untouched
    server.declined? (Call.begin {} loadRequest) = none ∧
      (server.recordHandle stillness loadRequest untouched).events.length = 0 ∧
      (server.echoed? r).isSome = true ∧ server.firstFault? stillness r = none ∧
      (server.handle stillness loadRequest untouched).1 = .error (.text "no default") := by
  decide +kernel

end Server

end JsonRpc
