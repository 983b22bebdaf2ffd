import JsonRpc.Proofs.Admission.Length
import JsonRpc.Proofs.Pool.Ledger
import JsonRpc.Proofs.Server.Execution
import JsonRpc.Proofs.Server.Reached

namespace JsonRpc

inductive Rule where
  | probe
  | closed
  | answered
  | writing
  | oversized
  | preflight
  | dispatch
deriving DecidableEq

def Rule.order : List Rule :=
  [.probe, .closed, .answered, .writing, .oversized, .preflight, .dispatch]

/-- All of a request and of a server that the rules look at. -/
structure Docket where
  method : String
  query : Option String
  length : Nat
  closed : Bool
  limit : Nat
  sink : Http.Sink

namespace Docket

def ofRequest (closed : Bool) (limit declared : Nat) (request : Http.Request) (sink : Http.Sink) :
    Docket where
  method := request.method
  query := request.target.query
  length := max declared request.body.length
  closed
  limit
  sink

variable (d : Docket)

def applies : Rule → Bool
  | .probe => d.method == "GET" && d.length == 0 && d.query.getD "" == ""
  | .closed => d.closed
  | .answered => d.sink.written
  | .writing => d.method == "PUT" || d.method == "DELETE" || d.method == "PATCH"
  | .oversized => d.limit < d.length
  | .preflight => d.method == "OPTIONS"
  | .dispatch => true

def rule : Rule := (Rule.order.find? d.applies).getD .dispatch

def refusal (status : Nat) (message : String) : Http.Response where
  status
  headers := d.sink.headers.insert "content-type" (asciiBytes "text/plain; charset=utf-8")
  body := Utf8.encode message

/-- What each rule answers. A request that is dispatched is not answered by a rule. -/
def answerBy? : Rule → Option Http.Response
  | .probe => some { status := 200, headers := [], body := [] }
  | .closed => some { status := 503, headers := [], body := [] }
  | .answered =>
    some { status := d.sink.status, headers := d.sink.headers, body := d.sink.body }
  | .writing => some (d.refusal 405 "method not allowed")
  | .oversized => some (d.refusal 413 s!"content length too large ({d.length}>{d.limit})")
  | .preflight => some { status := 200, headers := d.sink.headers, body := [] }
  | .dispatch => none

def answer? : Option Http.Response := d.answerBy? d.rule

theorem applies_rule : d.applies d.rule = true := by
  rw [rule]
  cases found : Rule.order.find? d.applies with
  | none => rfl
  | some rule => exact List.find?_some found

variable {d}

theorem rule_of_closed (closed : d.closed = true) : d.rule = .probe ∨ d.rule = .closed := by
  have shut : d.applies .closed = true := closed
  cases probe : d.applies .probe with
  | true => simp [rule, Rule.order, probe]
  | false => simp [rule, Rule.order, probe, shut]

theorem early_iff : d.rule = .probe ∨ d.rule = .closed ↔
    d.applies .probe = true ∨ d.closed = true := by
  constructor
  · rintro (rule | rule)
    · exact .inl (rule ▸ d.applies_rule)
    · exact .inr (rule ▸ d.applies_rule : d.applies .closed = true)
  · rintro (probe | closed)
    · simp [rule, Rule.order, probe]
    · exact rule_of_closed closed

theorem answer?_of_early (early : d.rule = .probe ∨ d.rule = .closed) : d.answer? ≠ none := by
  rcases early with rule | rule
  · simp [answer?, rule, answerBy?]
  · simp [answer?, rule, answerBy?]

end Docket

namespace Server

variable {W : World} (server : Server W)

def docket (call : Call) (n : Nat) : Docket :=
  .ofRequest (!server.running) server.options.maxBody (Admission.counted n) call.request call.sink

theorem taken_writeError {sink : Http.Sink} (unwritten : sink.written = false) (d : Docket)
    (same : d.sink = sink) (status : Nat) (message : String) :
    (sink.writeError status message).2.take.1 = d.refusal status message := by
  simp [Http.Sink.writeError, Http.Sink.write, Http.Sink.take, unwritten, Docket.refusal, same]

variable {call : Call} {n : Nat} (declared : Admission.Declared call.request n)

include declared

theorem applies_probe : (server.docket call n).applies .probe = Admission.isProbe call.request := by
  have measured := Admission.contentLength_of_declared declared
  simp only [Docket.applies, docket, Docket.ofRequest, Admission.isProbe, measured]

theorem declined?_eq : server.declined? call = (server.docket call n).answer? := by
  have measured := Admission.contentLength_of_declared declared
  have probe := server.applies_probe declared
  have closed : (server.docket call n).applies .closed = !server.running := rfl
  have answered : (server.docket call n).applies .answered = call.sink.written := rfl
  have writing : (server.docket call n).applies .writing =
      Admission.isWriteMethod call.request.method := rfl
  have length : (server.docket call n).length = Admission.contentLength call.request :=
    measured.symm
  have oversized : (server.docket call n).applies .oversized =
      decide (server.options.maxBody < Admission.contentLength call.request) := by
    rw [← length]
    rfl
  have preflight : (server.docket call n).applies .preflight =
      Admission.isPreflight call.request := rfl
  rw [declined?, Docket.answer?, Docket.rule]
  simp only [Rule.order, List.find?_cons, probe, closed, answered, writing, oversized, preflight,
    Admission.rejection?]
  -- both sides stop at the first rule that applies
  cases Admission.isProbe call.request with
  | true => rfl
  | false =>
    cases server.running with
    | false => rfl
    | true =>
      cases written : call.sink.written with
      | true => rfl
      | false =>
        have refused := taken_writeError written (server.docket call n) rfl
        cases Admission.isWriteMethod call.request.method with
        | true => exact congrArg some (refused _ _)
        | false =>
          by_cases large : server.options.maxBody < Admission.contentLength call.request
          · simp only [large, decide_true, if_true, Docket.answerBy?, length]
            exact congrArg some (refused _ _)
          · cases Admission.isPreflight call.request with
            | true => simp [large, Http.Sink.write, Http.Sink.take, written]; rfl
            | false => simp [large]; rfl

end Server

namespace Server

variable {W : World} {server : Server W}

theorem handle_of_early {request : Http.Request}
    (early : Admission.isProbe request = true ∨ server.running = false) (s : Surroundings)
    (world : W) {response : Http.Response}
    (declined : server.declined? (Call.begin {} request) = some response) :
    server.recordHandle s request world = .silent (.ok response, server, world) := by
  have bare := declined?_of_early early ({} : Context W)
  rw [show (Context.begin {} request : Context W).call = Call.begin {} request from rfl,
    declined] at bare
  rw [Option.some.inj bare, recordHandle]
  by_cases probe : Admission.isProbe request = true
  · rw [if_pos probe, if_pos probe]
  · have stopped : server.running = false := early.resolve_left probe
    rw [if_neg probe, if_neg probe, if_pos (by simp [stopped])]

theorem handle_of_declined (clean : server.pool.Clean) {request : Http.Request}
    (late : ¬ (Admission.isProbe request = true ∨ server.running = false)) (s : Surroundings)
    (world : W) {response : Http.Response}
    (declined : server.declined? (Call.begin {} request) = some response) :
    server.recordHandle s request world = .silent (.ok response,
      { server with pool := server.pool.acquire.2.release (Context.begin {} request) }, world) := by
  have here : { server with pool := server.pool.acquire.2 }.declined?
      (Context.begin {} request : Context W).call = some response := declined
  rw [recordHandle_of_late late, clean.acquire.1, recordContext, here, handleContext, here]

end Server

variable {W : World}

namespace Site

variable (site : Site W)

/-- The context on which a deed is answered, if it asks for an answer: a new one that takes up the
request, or one that is held. -/
def asked? : Deed W → Option (Surroundings × Context W)
  | .handle s request => some (s, Context.begin {} request)
  | .handleHeld s index => site.held[index]?.map (s, ·)
  | .take | .use _ _ | .drop _ | .stop => none

def record? : Deed W → Option (Recorded W (Answer × Server W × W))
  | .handle s request => some (site.server.recordHandle s request site.world)
  | .handleHeld s index =>
    site.held[index]?.map fun ctx => site.server.recordContext s ctx site.world
  | .take | .use _ _ | .drop _ | .stop => none

/-- What is left of a site while it lends a context to a deed. New requests that are probes, or that
come after the server has been stopped, are not lent any. -/
def lending (d : Docket) : Deed W → Option (Site W)
  | .handle _ _ =>
    if d.rule = .probe ∨ d.rule = .closed then none
    else some { site with server := { site.server with pool := site.server.pool.acquire.2 } }
  | .handleHeld _ index => some { site with held := site.held.eraseIdx index }
  | .take | .use _ _ | .drop _ | .stop => none

/-- The first rule that applies to a request decides it, where `closed` says whether the server has
been stopped. A rule that answers lets nothing happen in the request: nothing runs, and of the site
only the pool changes, to which the context of the request goes back. -/
structure Admits (closed : Bool) (limit : Nat) (deed : Deed W) : Prop where
  recorded : site.reply? deed = (site.record? deed).map (·.result.1)
  measured : ∀ s ctx, site.asked? deed = some (s, ctx) →
    ∃ n, Admission.Declared ctx.call.request n
  declined : ∀ s ctx n response, site.asked? deed = some (s, ctx) →
    Admission.Declared ctx.call.request n →
    let d := Docket.ofRequest closed limit (Admission.counted n) ctx.call.request ctx.call.sink
    d.answer? = some response →
      site.reply? deed = some (.ok response) ∧
      (∀ record, site.record? deed = some record → record.events = []) ∧
      match site.lending d deed with
      | none => site.act deed = site
      | some rest => ∃ pool, rest.server.pool.Returned pool ∧
        site.act deed = { rest with server := { rest.server with pool } }
  dispatched : ∀ s ctx n, site.asked? deed = some (s, ctx) →
    Admission.Declared ctx.call.request n →
    let d := Docket.ofRequest closed limit (Admission.counted n) ctx.call.request ctx.call.sink
    d.answer? = none → ∃ rest, site.lending d deed = some rest ∧
      site.record? deed = some ((site.server.recordDispatch s
        (Server.entry s ctx site.world)).map (rest.server.conclude s))
  shut : closed = true → ∀ s ctx declared, site.asked? deed = some (s, ctx) →
    (Docket.ofRequest closed limit declared ctx.call.request ctx.call.sink).answer? ≠ none

variable {site}

theorem admits_of_unasked {closed : Bool} {limit : Nat} {deed : Deed W}
    (unasked : site.asked? deed = none)
    (recorded : site.reply? deed = (site.record? deed).map (·.result.1)) :
    site.Admits closed limit deed where
  recorded
  measured := by simp [unasked]
  declined := by simp [unasked]
  dispatched := by simp [unasked]
  shut := by simp [unasked]

theorem admits_of_asked {deed : Deed W} {s : Surroundings} {ctx : Context W}
    {record : Recorded W (Answer × Server W × W)} (asked : site.asked? deed = some (s, ctx))
    (recorded : site.record? deed = some record)
    (replied : site.reply? deed = some record.result.1)
    (declined : ∀ n response, Admission.Declared ctx.call.request n →
      (site.server.docket ctx.call n).answer? = some response →
      record.result.1 = .ok response ∧ record.events = [] ∧
      match site.lending (site.server.docket ctx.call n) deed with
      | none => site.act deed = site
      | some rest => ∃ pool, rest.server.pool.Returned pool ∧
        site.act deed = { rest with server := { rest.server with pool } })
    (dispatched : ∀ n, Admission.Declared ctx.call.request n →
      (site.server.docket ctx.call n).answer? = none →
      ∃ rest, site.lending (site.server.docket ctx.call n) deed = some rest ∧
        record = (site.server.recordDispatch s
          (Server.entry s ctx site.world)).map (rest.server.conclude s)) :
    site.Admits (!site.server.running) site.server.options.maxBody deed where
  recorded := by rw [replied, recorded, Option.map_some]
  measured := fun _ ctx _ => Admission.exists_declared ctx.call.request
  declined := by
    intro s' ctx' n response same declared d answered
    obtain ⟨rfl, rfl⟩ := Prod.mk.inj (Option.some.inj (asked.symm.trans same))
    obtain ⟨answer, silent, left⟩ := declined n response declared answered
    refine ⟨by rw [replied, answer], fun other same => ?_, left⟩
    rw [← Option.some.inj (recorded.symm.trans same), silent]
  dispatched := by
    intro s' ctx' n same declared d unanswered
    obtain ⟨rfl, rfl⟩ := Prod.mk.inj (Option.some.inj (asked.symm.trans same))
    obtain ⟨rest, lent, made⟩ := dispatched n declared unanswered
    exact ⟨rest, lent, by rw [recorded, made]⟩
  shut := by
    intro closed s' ctx' declared same
    exact Docket.answer?_of_early (Docket.rule_of_closed closed)

theorem admits_handle (clean : site.server.pool.Clean) (s : Surroundings)
    (request : Http.Request) :
    site.Admits (!site.server.running) site.server.options.maxBody (.handle s request) := by
  let ctx : Context W := Context.begin {} request
  have handled := site.server.recordHandle_result s request site.world
  have early_iff : ∀ {n}, Admission.Declared request n →
      ((site.server.docket ctx.call n).rule = .probe ∨
        (site.server.docket ctx.call n).rule = .closed ↔
        Admission.isProbe request = true ∨ site.server.running = false) := by
    intro n declared
    rw [Docket.early_iff, Server.applies_probe _ declared]
    exact or_congr Iff.rfl (by rw [Server.docket, Docket.ofRequest, Bool.not_eq_true'])
  refine admits_of_asked rfl rfl (by rw [reply?, handled])
    (fun n response declared answered => ?_) fun n declared unanswered => ?_
  · have declines : site.server.declined? (Call.begin {} request) = some response :=
      (site.server.declined?_eq declared).trans answered
    by_cases early : Admission.isProbe request = true ∨ site.server.running = false
    · have unlent : site.lending (site.server.docket ctx.call n) (.handle s request) = none :=
        if_pos ((early_iff declared).mpr early)
      have recorded := Server.handle_of_early early s site.world declines
      rw [recorded] at handled ⊢
      refine ⟨rfl, rfl, ?_⟩
      rw [unlent, act, ← handled]
      rfl
    · have lent : site.lending (site.server.docket ctx.call n) (.handle s request) =
          some { site with server := { site.server with pool := site.server.pool.acquire.2 } } :=
        if_neg fun rule => early ((early_iff declared).mp rule)
      have recorded := Server.handle_of_declined clean early s site.world declines
      rw [recorded] at handled ⊢
      refine ⟨rfl, rfl, ?_⟩
      rw [lent]
      refine ⟨_, Pool.returned_release _ ctx, ?_⟩
      rw [act, ← handled]
      rfl
  · have admitted : site.server.declined? (Call.begin {} request) = none :=
      (site.server.declined?_eq declared).trans unanswered
    have late : ¬ ((site.server.docket ctx.call n).rule = .probe ∨
        (site.server.docket ctx.call n).rule = .closed) :=
      fun early => Docket.answer?_of_early early unanswered
    exact ⟨_, if_neg late, Server.recordHandle_of_admitted clean admitted s _⟩

theorem admits_handleHeld (s : Surroundings) (index : Nat) :
    site.Admits (!site.server.running) site.server.options.maxBody (.handleHeld s index) := by
  cases held : site.held[index]? with
  | none =>
    exact admits_of_unasked (by rw [asked?, held]; rfl) (by rw [reply?, record?, held]; rfl)
  | some ctx =>
    have replied : site.reply? (.handleHeld s index) =
        some (site.server.recordContext s ctx site.world).result.1 := by
      rw [reply?, held, Option.map_some, Server.recordContext_result]
    refine admits_of_asked (by rw [asked?, held]; rfl) (by rw [record?, held]; rfl) replied
      (fun n response declared answered => ?_) fun n declared unanswered => ?_
    · have declines : site.server.declined? ctx.call = some response :=
        (site.server.declined?_eq declared).trans answered
      have handled : site.server.handleContext s ctx site.world = (.ok response,
          { site.server with pool := site.server.pool.release ctx }, site.world) := by
        rw [Server.handleContext, declines]
      have recorded : site.server.recordContext s ctx site.world =
          .silent (site.server.handleContext s ctx site.world) := by
        rw [Server.recordContext, declines]
      rw [recorded, handled]
      refine ⟨rfl, rfl, _, Pool.returned_release _ ctx, ?_⟩
      simp only [act, held, handled]
    · have admitted : site.server.declined? ctx.call = none :=
        (site.server.declined?_eq declared).trans unanswered
      exact ⟨_, rfl, by rw [Server.recordContext, admitted]⟩

/-- Whatever has been done with a server, each request is decided by the first rule that applies to
it, and once the server has been stopped none is dispatched. -/
theorem run_admits (registry : Registry W) (options : Options) (start : W)
    (earlier : List (Deed W)) (deed : Deed W) :
    ((ofServer (Server.ofRegistry registry options) start).run earlier).Admits
      (earlier.any Deed.stops) options.maxBody deed := by
  have clean := run_ofRegistry_clean registry options start earlier
  obtain ⟨pool, left⟩ := (ofServer (Server.ofRegistry registry options) start).run_server earlier
  generalize (ofServer (Server.ofRegistry registry options) start).run earlier = site at clean left ⊢
  have closed : (!site.server.running) = earlier.any Deed.stops := by
    rw [left]
    exact Bool.not_not _
  have limit : site.server.options.maxBody = options.maxBody := by rw [left]; rfl
  rw [← closed, ← limit]
  cases deed with
  | handle s request => exact admits_handle clean s request
  | handleHeld s index => exact admits_handleHeld s index
  | take | use | drop | stop =>
    exact admits_of_unasked rfl rfl

open Admission (declaring)
open Server (fallServer fallRequest fallResponse stillness)

def smallSite : Site tallied :=
  ofServer (Server.ofRegistry (fallServer []).registry { maxBody := 50 }) untouched

/-- The method of a call that is dispatched runs. Once the server has been stopped only probes are
answered with a 200, and what would have been too large is turned away like all else. -/
theorem run_admits_fall :
    let long := declaring "POST" "\t099 "
    let deeds : List (Deed tallied) :=
      [.handle stillness long, .handle stillness (declaring "PUT" "99"),
        .handle stillness (declaring "OPTIONS" "50"), .handle stillness fallRequest, .stop,
        .handle stillness fallRequest, .handle stillness long,
        .handle stillness (declaring "GET" "0")]
    let typed : Http.Headers := [("content-type", asciiBytes "text/plain; charset=utf-8")]
    Admission.Declared long 99 ∧ (smallSite.run deeds).world = (1 : Nat) ∧
      smallSite.replies deeds =
        [some (.ok ⟨413, typed, asciiBytes "content length too large (99>50)"⟩),
          some (.ok ⟨405, typed, asciiBytes "method not allowed"⟩),
          some (.ok ⟨200, [], []⟩), some (.ok (fallResponse "demo.fall")), none,
          some (.ok ⟨503, [], []⟩), some (.ok ⟨503, [], []⟩), some (.ok ⟨200, [], []⟩)] ∧
      smallSite.Admits false 50 (.handle stillness long) ∧
      (smallSite.run deeds).Admits true 50 (.handle stillness long) := by
  intro long deeds typed
  refine ⟨?_, by decide +kernel, by decide +kernel, run_admits _ _ _ [] _, run_admits _ _ _ deeds _⟩
  have counts : Admission.Counts (asciiBytes "\t099 ") 99 :=
    Admission.counts_of_lengthOf? (by decide +kernel)
  exact .inl ⟨_, [], by decide +kernel, counts⟩

/-- By the length that it declares this request is too large, and yet its body is read. -/
theorem dispatched_of_overlong :
    let request := declaring "POST" "18446744073709551616"
    let d := Docket.ofRequest false 50 (2 ^ 64) request {}
    Admission.Declared request (2 ^ 64) ∧
      d.answer? = some
        { status := 413
          headers := [("content-type", asciiBytes "text/plain; charset=utf-8")]
          body := asciiBytes "content length too large (18446744073709551616>50)" } ∧
      smallSite.reply? (.handle stillness request) = some (.ok
        { status := 200
          headers := (fallResponse "demo.fall").headers
          body := asciiBytes "\x7b\"id\":1,\"jsonrpc\":\"2.0\",\"error\":\x7b\"code\":-32700,"
            ++ asciiBytes "\"message\":\"parse error: EOF while parsing a value at line 1 column 0\""
            ++ asciiBytes "\x7d\x7d" }) := by
  intro request d
  refine ⟨?_, by decide +kernel, by decide +kernel⟩
  exact .inl ⟨_, [], by decide +kernel, Admission.declares_overlong.counts⟩

end Site

end JsonRpc
