import JsonRpc.Proofs.Server.Execution
import JsonRpc.Proofs.Service.Binding

namespace JsonRpc

variable {W : World}

theorem Json.toInt64?_bounds {value : Json} {n : Int} (whole : value.toInt64? = some n) :
    -0x8000000000000000 ≤ n ∧ n < 0x8000000000000000 := by
  unfold toInt64? at whole
  split at whole
  · rename_i w
    split at whole
    · obtain rfl := Option.some.inj whole
      have lower := w.lower
      omega
    · cases whole
  · cases whole

namespace Store

variable {store : Store} {key : String}

theorem int?_eq_none_iff : store.int? key = none ↔
    (store.get? key).bind Json.toInt64? = none := Option.map_eq_none_iff

theorem toInt_int? {n : Int} (there : (store.get? key).bind Json.toInt64? = some n) :
    ∃ start : Int64, store.int? key = some start ∧ start.toInt = n := by
  obtain ⟨value, -, whole⟩ := Option.bind_eq_some_iff.mp there
  obtain ⟨lower, upper⟩ := Json.toInt64?_bounds whole
  exact ⟨Int64.ofInt n, by rw [int?, there]; rfl, Int64.toInt_ofInt_of_le lower upper⟩

/-- The marks of a method that has begun and ended at two readings of the clock, over the store as
it was before the method and the one that is left behind it. -/
structure Timed (before after : Store) (begun finished : Int64) : Prop where
  ended : after.get? Call.endKey = some (.ofInt64 finished)
  started : after.get? Call.startKey =
    some ((before.get? Call.startKey).getD (.ofInt64 begun))
  unknown : (after.get? Call.startKey).bind Json.toInt64? = none →
    after.get? Call.usedKey = some (.ofInt64 0)
  known : ∀ start, (after.get? Call.startKey).bind Json.toInt64? = some start →
    ∃ used : Int64, after.get? Call.usedKey = some (.ofInt64 used) ∧
      used.toInt = (finished.toInt - start).bmod 0x10000000000000000 ∧
      (0 ≤ finished.toInt → (used.toInt = finished.toInt - start ↔
        finished.toInt - start < 0x8000000000000000))
  others : ∀ key, key ≠ Call.startKey → key ≠ Call.endKey → key ≠ Call.usedKey →
    after.get? key = before.get? key

end Store

theorem sub_exact_iff {finished start : Int} (past : 0 ≤ finished)
    (late : finished < 0x8000000000000000) (lower : -0x8000000000000000 ≤ start)
    (upper : start < 0x8000000000000000) :
    (finished - start).bmod 0x10000000000000000 = finished - start ↔
      finished - start < 0x8000000000000000 := by
  constructor
  · intro exact_used
    have bounded := @Int.bmod_lt (finished - start) 0x10000000000000000 (by decide)
    rw [exact_used] at bounded
    omega
  · intro fits
    exact Int.bmod_eq_of_le (by omega) (by omega)

namespace Call

theorem markStart_get? (begun : Int64) (call : Call) :
    (call.markStart begun).store.get? startKey =
      some ((call.store.get? startKey).getD (.ofInt64 begun)) := by
  rw [markStart]
  cases found : call.store.get? startKey with
  | some start => simp [Store.contains, found]
  | none => simp [Store.contains, found, Store.get?_insert_self]

theorem markStart_get?_ne {key : String} (other : key ≠ startKey) (begun : Int64) (call : Call) :
    (call.markStart begun).store.get? key = call.store.get? key := by
  rw [markStart]
  split
  · rfl
  · exact Store.get?_insert_ne other _

theorem markEnd_get?_ne {key : String} (ended : key ≠ endKey) (used : key ≠ usedKey)
    (finished : Int64) (call : Call) :
    (call.markEnd finished).store.get? key = call.store.get? key := by
  rw [markEnd]
  exact (Store.get?_insert_ne used _).trans (Store.get?_insert_ne ended _)

theorem markEnd_ended (finished : Int64) (call : Call) :
    (call.markEnd finished).store.get? endKey = some (.ofInt64 finished) := by
  rw [markEnd]
  exact (Store.get?_insert_ne (by decide) _).trans (Store.get?_insert_self ..)

theorem markEnd_used (finished : Int64) (call : Call) :
    (call.markEnd finished).store.get? usedKey =
      some (.ofInt64 (finished - (call.store.int? startKey).getD finished)) :=
  Store.get?_insert_self ..

theorem timed (begun finished : Int64) (call : Call) :
    call.store.Timed ((call.markStart begun).markEnd finished).store begun finished := by
  have started : ((call.markStart begun).markEnd finished).store.get? startKey =
      (call.markStart begun).store.get? startKey :=
    markEnd_get?_ne (by decide) (by decide) finished _
  have used := markEnd_used finished (call.markStart begun)
  refine
    { ended := markEnd_ended finished _
      started := started.trans (markStart_get? begun call)
      unknown := fun missing => ?_
      known := fun start there => ?_
      others := fun key start ended used =>
        (markEnd_get?_ne ended used finished _).trans (markStart_get?_ne start begun call) }
  · rw [started] at missing
    rw [used, Store.int?_eq_none_iff.mpr missing]
    simp
  · rw [started] at there
    obtain ⟨mark, read, rfl⟩ := Store.toInt_int? there
    refine ⟨finished - mark, ?_, Int64.toInt_sub finished mark, fun past => ?_⟩
    · rw [used, read]
      rfl
    · rw [Int64.toInt_sub]
      exact sub_exact_iff past finished.toInt_lt mark.le_toInt mark.toInt_lt

end Call

namespace Callback

variable {cb : Callback W} {hooks : Hooks W} {s : Surroundings} {name : String} {bound : Bound W}
variable {r entered : Run W}

theorem steps_of_entered
    (passed : (cb.recordEntry hooks name bound r).result = (.returned (), entered)) :
    (cb.recordSteps hooks s name bound r).result =
      Verdict.andThen (fun outcome m => (cb.recordExit hooks name bound outcome m).result)
        (cb.runMethod s bound entered) := by
  rw [recordSteps, Recorded.onReturn_result, passed]
  exact Recorded.onReturn_result (cb.recordMethod s bound entered) _

theorem invoke_eq_steps (cb : Callback W) (hooks : Hooks W) (s : Surroundings) (name : String)
    (bound : Bound W) (r : Run W) :
    cb.invoke hooks s name bound r =
      ((cb.recordSteps hooks s name bound r).result.1.contain name s.trace,
        (cb.recordSteps hooks s name bound r).result.2) := by
  rw [← recordInvoke_result]
  rfl

/-- How the marks stand in an invocation. The hooks before the method and those behind it are the
recorded `recordEntry` and `recordExit`. -/
structure Marks (cb : Callback W) (hooks : Hooks W) (s : Surroundings) (name : String)
    (bound : Bound W) (r : Run W) : Prop where
  /-- Once the method has returned the hooks behind it find its marks, and only they or the outcome
  of the method can make the call fail. -/
  marked : ∀ entered outcome world,
    (cb.recordEntry hooks name bound r).result = (.returned (), entered) →
    cb.method.call entered.call.scope s.now bound.typed entered.world = (.ok outcome, world) →
    ∃ store, entered.call.store.Timed store s.begun s.finished ∧
      let exit := cb.recordExit hooks name bound outcome (entered.leaving world store)
      (cb.recordInvoke hooks s name bound r).events =
        (cb.recordEntry hooks name bound r).events ++ .method cb bound entered :: exit.events ∧
      cb.invoke hooks s name bound r = (exit.result.1.contain name s.trace, exit.result.2)
  refused : ∀ v left, (cb.recordEntry hooks name bound r).result = (v, left) → v ≠ .returned () →
    (cb.invoke hooks s name bound r).2 = left
  panicked : ∀ entered cause world,
    (cb.recordEntry hooks name bound r).result = (.returned (), entered) →
    cb.method.call entered.call.scope s.now bound.typed entered.world = (.error cause, world) →
    ∃ store, (cb.invoke hooks s name bound r).2 = entered.leaving world store ∧
      store.get? Call.endKey = entered.call.store.get? Call.endKey ∧
      store.get? Call.usedKey = entered.call.store.get? Call.usedKey

/-- The marks are made between the method and the hooks behind it. -/
theorem invoke_marks (cb : Callback W) (hooks : Hooks W) (s : Surroundings) (name : String)
    (bound : Bound W) (r : Run W) : cb.Marks hooks s name bound r where
  marked := by
    intro entered outcome world passed returned
    refine ⟨_, entered.call.timed s.begun s.finished, ?_⟩
    intro exit
    have ran := cb.runMethod_eq s bound entered
    rw [returned] at ran
    constructor
    · have called : (cb.recordMethod s bound entered).result = _ := ran
      rw [recordInvoke, Recorded.events_map, recordSteps, Recorded.events_of_return passed,
        Recorded.events_of_return called]
      rfl
    · rw [invoke_eq_steps, steps_of_entered passed, ran]
      rfl
  refused := by
    intro v left ended failed
    rw [invoke_eq_steps, recordSteps, Recorded.onReturn_result, ended]
    cases v with
    | returned u => exact absurd rfl failed
    | failed fault => rfl
    | panicked cause => rfl
  panicked := by
    intro entered cause world passed panicked
    have ran := cb.runMethod_eq s bound entered
    rw [panicked] at ran
    refine ⟨(entered.call.markStart s.begun).store, ?_, ?_, ?_⟩
    · rw [invoke_eq_steps, steps_of_entered passed, ran]
      rfl
    · exact Call.markStart_get?_ne (by decide) s.begun entered.call
    · exact Call.markStart_get?_ne (by decide) s.begun entered.call

abbrev keeping : World where
  State := Option Json
  ArgType := Unit
  Arg _ := Unit
  typeName _ := none

/-- A service that marks its calls as begun at a time, and keeps the time used that it is told. -/
def antedating (start : Int64) : Service keeping where
  typeName := "Demo"
  ownNamespace := fun world => (.ok none, world)
  construct := fun world => (.ok (), world)
  methods := fun world => (.ok [], world)
  excluded := fun world => (.ok [], world)
  beforeCall := fun _ _ => .store (·.insert Call.startKey (.ofInt64 start)) .done
  afterCall := fun _ _ _ => .look fun call _ =>
    .tell (fun _ => call.store.get? Call.usedKey) .done

/-- A start that is long enough ago makes the time used negative. -/
theorem invoke_used_wraps :
    let nothing : Param keeping () := .ofCodec .unit ()
    let cb := Method.callback "tick" false nothing .nothing
      (fun _ _ _ world => (.ok .empty, world)) (antedating Int64.minValue)
    let s : Surroundings :=
      { Server.stillness with begun := 1760000000000000000, finished := 1760000000000000000 }
    let r : Run keeping := { ctx := {}, world := none, now := 0 }
    s.finished.toInt - Int64.minValue.toInt = 10983372036854775808 ∧
      ∃ bound, cb.bind none = .returned bound ∧
        (cb.invoke {} s "demo.tick" bound r).2.world = some (.ofInt64 (-7463372036854775808)) := by
  intro nothing cb s r
  refine ⟨by decide, _, rfl, ?_⟩
  decide +kernel

end Callback

end JsonRpc
