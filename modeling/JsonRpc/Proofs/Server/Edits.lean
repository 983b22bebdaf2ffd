import JsonRpc.Proofs.Server.Record

namespace JsonRpc

variable {W : World}

namespace Event

def edits : Event W → Bool
  | .step p r => decide ((p.touch r).call.envelope ≠ r.call.envelope)
  | _ => false

def mark? : Event W → Option Bool
  | .step p r => some (p.touch r).call.sink.written
  | _ => none

end Event

/-- Whether a response is written in the sink behind all steps, if `before` says so before them. -/
def leavesWritten (before : Bool) (events : List (Event W)) : Bool :=
  (events.filterMap Event.mark?).getLast?.getD before

theorem leavesWritten_append (start : Bool) (before later : List (Event W)) :
    leavesWritten start (before ++ later) = leavesWritten (leavesWritten start before) later := by
  rw [leavesWritten, List.filterMap_append, List.getLast?_append]
  cases last : (later.filterMap Event.mark?).getLast? <;> simp [leavesWritten, last]

/-- The envelope is that of the same call: it has its id and its method, and no fault unless there
was one. -/
structure Envelope.SameCall (e other : Envelope) : Prop where
  id : other.id = e.id
  method : other.method = e.method
  faultless : e.error = none → other.error = none

theorem Envelope.SameCall.refl (e : Envelope) : e.SameCall e :=
  ⟨rfl, rfl, fun faultless => faultless⟩

theorem Envelope.SameCall.trans {a b c : Envelope} (first : a.SameCall b) (second : b.SameCall c) :
    a.SameCall c :=
  ⟨second.id.trans first.id, second.method.trans first.method,
    fun faultless => second.faultless (first.faultless faultless)⟩

theorem Callback.runMethod_call (cb : Callback W) (s : Surroundings) (bound : Bound W) (r : Run W) :
    ∃ store, (cb.runMethod s bound r).2.call = { r.call with store } := by
  rw [runMethod_eq]
  rcases cb.method.call r.call.scope s.now bound.typed r.world with ⟨cause | outcome, world⟩
  · exact ⟨_, rfl⟩
  · exact ⟨_, rfl⟩

theorem Passage.sameCall (s : Surroundings) : Passage s fun (r : Run W) events final =>
    (∀ e ∈ events, e.edits = false) → r.call.envelope.SameCall final.call.envelope where
  nil _ _ := .refl _
  append := by
    intro r middle final before later first second unedited
    have early := first fun e member => unedited e (List.mem_append_left _ member)
    have late := second fun e member => unedited e (List.mem_append_right _ member)
    exact early.trans late
  step := by
    intro p r unedited
    have kept : (Event.step p r).edits = false := unedited _ (List.mem_singleton.mpr rfl)
    have same : (p.touch r).call.envelope = r.call.envelope := by simpa [Event.edits] using kept
    rw [same]
    exact .refl _
  cut _ _ := .refl _
  entered _ _ _ _ := .refl _
  move _ _ := .refl _
  install _ _ _ := .refl _
  hook _ _ _ _ _ _ := .refl _
  method := by
    intro cb bound r _
    obtain ⟨store, left⟩ := cb.runMethod_call s bound r
    rw [left]
    exact .refl _
  emptied _ _ := ⟨rfl, rfl, id⟩
  settled _ _ _ := ⟨rfl, rfl, fun _ => rfl⟩

theorem Passage.leavesWritten (s : Surroundings) : Passage s fun (r : Run W) events final =>
    final.call.sink.written = JsonRpc.leavesWritten r.call.sink.written events where
  nil _ := rfl
  append := by
    intro r middle final before later first second
    rw [second, first, leavesWritten_append]
  step _ _ := rfl
  cut _ := rfl
  entered _ _ _ := rfl
  move _ := rfl
  install _ _ := rfl
  hook _ _ _ _ _ := rfl
  method := by
    intro cb bound r
    obtain ⟨store, left⟩ := cb.runMethod_call s bound r
    rw [left]
    rfl
  emptied _ := rfl
  settled _ _ := rfl

end JsonRpc
