import JsonRpc.Proofs.Server.Stages

namespace JsonRpc

variable {W : World}

def Http.Sink.Holds (sink : Http.Sink) : Option (Nat × Bytes) → Prop
  | none => sink.written = false
  | some (status, body) => sink.written = true ∧ sink.status = status ∧ sink.body = body

theorem Http.Sink.Holds.written_iff {sink : Http.Sink} {content : Option (Nat × Bytes)}
    (holds : sink.Holds content) : sink.written = content.isSome := by
  cases content with
  | none => exact holds
  | some content => exact holds.1

theorem Http.Sink.Holds.headers {sink : Http.Sink} {content : Option (Nat × Bytes)}
    (holds : sink.Holds content) (headers : Http.Headers) :
    { sink with headers }.Holds content := by
  cases content <;> exact holds

theorem Http.Sink.Holds.write {sink : Http.Sink} {content : Option (Nat × Bytes)}
    (holds : sink.Holds content) (status : Nat) (body : Bytes) :
    (sink.write status body).2.Holds (content.or (some (status, body))) := by
  cases content with
  | none =>
    have fresh : sink.written = false := holds
    simp [Http.Sink.write, fresh, Http.Sink.Holds]
  | some content =>
    rw [Http.Sink.write_of_written holds.1]
    exact holds

namespace Event

/-- What an event makes of a sink. -/
def deliver (sink : Http.Sink) : Event W → Http.Sink
  | .step (.headers change _) _ => { sink with headers := change sink.headers }
  | .step (.write status body _) _ => (sink.write status body).2
  | .step (.sink change _) _ => change sink
  | .step (.begin _ _) _ => {}
  | _ => sink

def dress (headers : Http.Headers) : Event W → Http.Headers
  | .step (.headers change _) _ => change headers
  | .step (.begin _ _) _ => []
  | _ => headers

def writing? : Event W → Option (Nat × Bytes)
  | .step (.write status body _) _ => some (status, body)
  | _ => none

/-- Code that uses a sink in another way than by writing it and by editing its header fields. To
take up a request anew is such a use if it throws away what is written. -/
def seizes : Event W → Bool
  | .step (.sink _ _) _ => true
  | .step (.begin _ _) r => r.call.sink.written
  | _ => false

end Event

def firstWrite? (events : List (Event W)) : Option (Nat × Bytes) := events.findSome? Event.writing?

def dressed (headers : Http.Headers) (events : List (Event W)) : Http.Headers :=
  events.foldl Event.dress headers

theorem deliver_step (p : Program W) (r : Run W) :
    (Event.step p r).deliver r.call.sink = (p.touch r).call.sink := by
  cases p <;> rfl

theorem Passage.delivers (s : Surroundings) : Passage s fun (r : Run W) events final =>
    Replays (·.call.sink) Event.deliver r.call.sink events final.call.sink where
  nil _ := rfl
  append first second := replays_append.mpr ⟨_, first, second⟩
  step p r := ⟨rfl, (deliver_step p r).symm⟩
  cut _ := ⟨rfl, rfl⟩
  entered _ _ _ := ⟨rfl, rfl⟩
  move _ := rfl
  install _ _ := rfl
  hook _ _ _ _ _ := ⟨rfl, rfl⟩
  method := by
    intro cb bound r
    obtain ⟨store, left⟩ := cb.runMethod_call s bound r
    rw [left]
    exact ⟨rfl, rfl⟩
  emptied _ := rfl
  settled _ _ := rfl

namespace Replays

variable {sink final : Http.Sink} {events : List (Event W)}

theorem holds_deliver {content : Option (Nat × Bytes)} (holds : sink.Holds content) {e : Event W}
    (met : e.run.call.sink = sink) (orderly : e.seizes = false) :
    (e.deliver sink).Holds (content.or e.writing?) := by
  cases e with
  | step p r =>
    have same : r.call.sink = sink := met
    cases p with
    | write status body rest => exact holds.write status body
    | headers change rest => simpa [Event.deliver, Event.writing?] using holds.headers _
    | sink change rest => cases orderly
    | begin request rest =>
      -- what is thrown away is no more than header fields
      have fresh : r.call.sink.written = false := orderly
      rw [same, holds.written_iff, Option.isSome_eq_false_iff, Option.isNone_iff_eq_none] at fresh
      subst fresh
      rfl
    | _ => simpa [Event.deliver, Event.writing?] using holds
  | _ => simpa [Event.deliver, Event.writing?] using holds

theorem holds (replays : Replays (·.call.sink) Event.deliver sink events final)
    {content : Option (Nat × Bytes)} (start : sink.Holds content) (orderly : ∀ e ∈ events, e.seizes = false) :
    final.Holds (content.or (firstWrite? events)) := by
  induction events generalizing sink content with
  | nil =>
    have same : final = sink := replays
    rw [same, firstWrite?, List.findSome?_nil, Option.or_none]
    exact start
  | cons e events hypothesis =>
    rw [List.forall_mem_cons] at orderly
    have next := hypothesis replays.2 (holds_deliver start replays.1 orderly.1) orderly.2
    rw [Option.or_assoc] at next
    have first : firstWrite? (e :: events) = e.writing?.or (firstWrite? events) := by
      rw [firstWrite?, firstWrite?, List.findSome?_cons]
      cases e.writing? <;> rfl
    rw [first]
    exact next

theorem headers (replays : Replays (·.call.sink) Event.deliver sink events final)
    (orderly : ∀ e ∈ events, e.seizes = false) :
    final.headers = dressed sink.headers events := by
  induction events generalizing sink with
  | nil =>
    have same : final = sink := replays
    rw [same]
    rfl
  | cons e events hypothesis =>
    rw [List.forall_mem_cons] at orderly
    rw [hypothesis replays.2 orderly.2, dressed, dressed, List.foldl_cons]
    suffices same : (e.deliver sink).headers = e.dress sink.headers by rw [same]
    cases e with
    | step p r =>
      cases p with
      | sink change rest => cases orderly.1
      | write status body rest =>
        simp only [Event.deliver, Event.dress, Http.Sink.write]
        split <;> rfl
      | _ => rfl
    | _ => rfl

end Replays

theorem Program.touch_sink_of_written {p : Program W} {r : Run W}
    (written : r.call.sink.written = true) (orderly : (Event.step p r).seizes = false)
    (other : ∀ change rest, p ≠ .headers change rest) :
    (p.touch r).call.sink = r.call.sink := by
  cases p with
  | headers change rest => exact absurd rfl (other change rest)
  | write status body rest =>
    exact congrArg Prod.snd (Http.Sink.write_of_written written status body)
  | sink change rest => cases orderly
  | begin request rest =>
    rw [Event.seizes, written] at orderly
    cases orderly
  | _ => rfl

theorem Program.record_writeError_of_written {r : Run W} (written : r.call.sink.written = true)
    (recorder : Run.Recorder W) (status : Nat) (message : String) (rest : Bool → Program W) :
    (writeError status message rest).record recorder r =
      ((rest false).record recorder r).after (.step (writeError status message rest) r) := by
  rw [writeError, record, if_pos written]

theorem Program.record_writeError {r : Run W} {status : Nat} {message : String} {accepted : Bool}
    {sink : Http.Sink} (wrote : r.call.sink.writeError status message = (accepted, sink))
    (recorder : Run.Recorder W) (rest : Bool → Program W) :
    let later := (rest accepted).record recorder (r.edit fun call => { call with sink })
    ∃ own, firstWrite? own = (if accepted then some (status, Utf8.encode message) else none) ∧
      (writeError status message rest).record recorder r =
        { events := own ++ later.events, result := later.result } := by
  cases written : r.call.sink.written with
  | true =>
    rw [Http.Sink.writeError_of_written written] at wrote
    cases wrote
    refine ⟨[.step (writeError status message rest) r], rfl, ?_⟩
    rw [record_writeError_of_written written]
    rfl
  | false =>
    rw [Http.Sink.writeError_of_unwritten written] at wrote
    cases wrote
    -- behind the look at the sink, one step sets the header field and one writes
    let writing := Program.write status (Utf8.encode message) rest
    let titling := Program.headers
      (·.insert "content-type" (asciiBytes "text/plain; charset=utf-8")) writing
    refine ⟨[.step (writeError status message rest) r, .step titling r,
      .step writing (titling.touch r)], rfl, ?_⟩
    rw [writeError, record, if_neg (by simp [written])]
    obtain ⟨⟨⟨_, _, _, _, _, ⟨_, _, _, _⟩, _, _⟩, _⟩, _, _⟩ := r
    obtain rfl := written
    rfl

namespace Server

section

variable (server : Server W) (s : Surroundings) (ctx : Context W) (world : W)

/-- What is so of a dispatched call whose code uses the sink only by writing it and by editing its
header fields. -/
structure Delivers (events : List (Event W)) : Prop where
  /-- All code finds in the sink what was written first, if anything was. -/
  found : ∀ before e after, events = before ++ e :: after →
    e.run.call.sink.Holds (firstWrite? before)
  /-- Behind the first write the sink is left as it is by all steps but edits of header fields. -/
  unmoved : ∀ p r, .step p r ∈ events → r.call.sink.written = true →
    (∀ change rest, p ≠ .headers change rest) → (p.touch r).call.sink = r.call.sink
  refused : ∀ recorder status message rest (r : Run W), r.call.sink.written = true →
    (Program.writeError status message rest).record recorder r =
      ((rest false).record recorder r).after (.step (Program.writeError status message rest) r)
  /-- An error that comes first is a write of its status and its message, as plain text. -/
  erred : ∀ recorder status message rest (r : Run W), r.call.sink.written = false →
    let sink : Http.Sink :=
      { status
        headers := r.call.sink.headers.insert "content-type" (asciiBytes "text/plain; charset=utf-8")
        body := Utf8.encode message
        written := true }
    let later := (rest true).record recorder (r.edit fun call => { call with sink })
    ∃ own, firstWrite? own = some (status, Utf8.encode message) ∧
      (Program.writeError status message rest).record recorder r =
        { events := own ++ later.events, result := later.result }
  /-- The response is what was written first, under the header fields that the code has left. -/
  answered : (∀ cause, ¬ server.Escapes s (entry s ctx world) cause) →
    ∀ status body, firstWrite? events = some (status, body) →
    (server.handleContext s ctx world).1 = .ok
      { status, headers := dressed (entry s ctx world).call.sink.headers events, body }
  enveloped : (∀ cause, ¬ server.Escapes s (entry s ctx world) cause) →
    firstWrite? events = none →
    ∃ response call, (server.handleContext s ctx world).1 = .ok response ∧
      outcome? (server.dispatch s (entry s ctx world)) = some call ∧
      server.Enveloped call.envelope (dressed (entry s ctx world).call.sink.headers events)
        response
  unwound : ∀ cause, (server.handleContext s ctx world).1 = .error cause ↔
    server.Escapes s (entry s ctx world) cause

end

variable {server : Server W} {s : Surroundings} {ctx : Context W} {world : W}

theorem replays_dispatch (admitted : server.declined? ctx.call = none) :
    Replays (·.call.sink) Event.deliver (entry s ctx world).call.sink
      (server.recordContext s ctx world).events
      (server.dispatch s (entry s ctx world)).2.call.sink := by
  have replays := (Passage.delivers s).recordDispatch server (entry s ctx world)
  rw [(resolveCall_apart _).2, recordDispatch_result] at replays
  rw [recordContext, admitted, Recorded.events_map]
  exact replays

theorem answered_of_kept (admitted : server.declined? ctx.call = none)
    (kept : ∀ cause, ¬ server.Escapes s (entry s ctx world) cause) :
    ∃ call, outcome? (server.dispatch s (entry s ctx world)) = some call ∧
      call.sink = (server.dispatch s (entry s ctx world)).2.call.sink ∧
      (server.handleContext s ctx world).1 = .ok (server.writeEnvelope s call).sink.take.1 := by
  rw [handleContext_answer admitted]
  cases outcome : outcome? (server.dispatch s (entry s ctx world)) with
  | some call => exact ⟨call, rfl, sink_of_outcome outcome, conclude_answer outcome⟩
  | none =>
    rcases ended : server.dispatch s (entry s ctx world) with ⟨⟨⟩ | fault | cause, final⟩
    · simp [ended, outcome?] at outcome
    · simp [ended, outcome?] at outcome
    · exact absurd (dispatch_panicked_iff.mp (congrArg Prod.fst ended)) (kept cause)

/-- The first write of a call is its answer, whatever its code does after it, unless a panic gets
out. -/
theorem handleContext_delivers (server : Server W) (s : Surroundings) (ctx : Context W) (world : W)
    (admitted : server.declined? ctx.call = none)
    (orderly : ∀ e ∈ (server.recordContext s ctx world).events, e.seizes = false) :
    (server.recordContext s ctx world).result = server.handleContext s ctx world ∧
      server.Delivers s ctx world (server.recordContext s ctx world).events := by
  refine ⟨recordContext_result server s ctx world, ?_⟩
  have replays : Replays (·.call.sink) Event.deliver (entry s ctx world).call.sink _ _ :=
    replays_dispatch admitted
  generalize (server.recordContext s ctx world).events = events at replays orderly
  have unwritten : ctx.call.sink.written = false := unwritten_of_admitted admitted
  have fresh : (entry s ctx world).call.sink.Holds none := unwritten
  have final := replays.holds fresh orderly
  have headers := replays.headers orderly
  rw [Option.none_or] at final
  refine
    { found := ?_, unmoved := ?_, refused := ?_, erred := ?_, answered := ?_, enveloped := ?_
      unwound := handleContext_error_iff admitted }
  · rintro before e after rfl
    obtain ⟨middle, early, met, -⟩ := replays_append.mp replays
    have held := early.holds fresh fun e member => orderly e (List.mem_append_left _ member)
    rw [Option.none_or, ← met] at held
    exact held
  · intro p r member written other
    exact Program.touch_sink_of_written written (orderly _ member) other
  · intro recorder status message rest r written
    exact Program.record_writeError_of_written written recorder status message rest
  · intro recorder status message rest r fresh
    have wrote := Http.Sink.writeError_of_unwritten fresh status message
    exact Program.record_writeError wrote recorder rest
  · intro kept status body first
    obtain ⟨call, -, sink, answered⟩ := answered_of_kept admitted kept
    rw [first, ← sink] at final
    rw [← sink] at headers
    obtain ⟨written, rfl, rfl⟩ := final
    rw [answered, writeEnvelope_of_written written, ← headers]
    rfl
  · intro kept first
    obtain ⟨call, outcome, sink, answered⟩ := answered_of_kept admitted kept
    rw [first, ← sink] at final
    rw [← sink] at headers
    exact ⟨_, call, answered, outcome, headers ▸ writeEnvelope_of_unwritten final⟩

/-- Writes an error before the call goes on, and tries to write twice behind it. -/
def early : Middleware tallied where
  name := "early"
  handler := .writeError 401 "login first" fun _ =>
    .next fun _ => .write 201 (asciiBytes "made") fun _ => .writeError 500 "late" fun _ => .done

def earlyResponse : Http.Response where
  status := 401
  headers :=
    [("x-content-type-options", asciiBytes "nosniff"),
      ("content-type", asciiBytes "text/plain; charset=utf-8")]
  body := asciiBytes "login first"

theorem handleContext_delivers_early :
    let server := fallServer [early]
    let ctx : Context tallied := Context.begin {} fallRequest
    let events := (server.recordContext stillness ctx untouched).events
    server.declined? ctx.call = none ∧ (∀ e ∈ events, e.seizes = false) ∧
      firstWrite? events = some (401, asciiBytes "login first") ∧
      (methodRuns events).length = 1 ∧
      (server.handleContext stillness ctx untouched).1 = .ok earlyResponse ∧
      (server.recordContext stillness ctx untouched).result =
        server.handleContext stillness ctx untouched ∧
      server.Delivers stillness ctx untouched events := by
  intro server ctx events
  have admitted : server.declined? ctx.call = none := by decide +kernel
  have all_orderly : events.all (fun e => !e.seizes) = true := by decide +kernel
  have orderly : ∀ e ∈ events, e.seizes = false := by
    intro e member
    simpa using List.all_eq_true.mp all_orderly e member
  have first : firstWrite? events = some (401, asciiBytes "login first") := by decide +kernel
  have ran : (methodRuns events).length = 1 := by decide +kernel
  have answered : (server.handleContext stillness ctx untouched).1 = .ok earlyResponse := by
    decide +kernel
  exact ⟨admitted, orderly, first, ran, answered,
    handleContext_delivers server stillness ctx untouched admitted orderly⟩

/-- What is written before the argument has no zero value is lost with the response. -/
theorem handleContext_undelivered :
    let server := brittleServer [early]
    let ctx : Context tallied := Context.begin {} loadRequest
    let events := (server.recordContext stillness ctx untouched).events
    server.declined? ctx.call = none ∧ events.all (fun e => !e.seizes) = true ∧
      firstWrite? events = some (401, asciiBytes "login first") ∧
      (server.handleContext stillness ctx untouched).1 = .error (.text "no default") := by
  decide +kernel

end Server

end JsonRpc
