import JsonRpc.Service.Basic

namespace JsonRpc

variable {W : World} {id : W.ArgType}

/-- The arguments that params list. Absent and null params list none. -/
inductive Positional : Option Json → List Json → Prop
  | absent : Positional none []
  | null : Positional (some .null) []
  | array (args : List Json) : Positional (some (.array args)) args

theorem positional_of_listed {params : Option Json} {args : List Json}
    (listed : Positional params args) (arity : Nat) :
    positional params arity =
      if arity < args.length then
        .error (.badParams s!"too many arguments, want at most {arity}")
      else .ok args := by
  cases listed <;> rfl

theorem positional_of_unlisted {params : Option Json} (unlisted : ∀ args, ¬ Positional params args)
    (arity : Nat) : positional params arity = .error (.badParams "non-array args") := by
  match params with
  | none => exact absurd .absent (unlisted [])
  | some .null => exact absurd .null (unlisted [])
  | some (.array args) => exact absurd (.array args) (unlisted args)
  | some (.bool _) | some (.number _) | some (.string _) | some (.object _) => rfl

namespace Param

/-- The value of the arguments: the first one decoded, or the zero value if there is none. -/
def Reads (param : Param W id) : List Json → W.Arg id → Prop
  | [], a => param.zero = .ok a
  | value :: _, a => param.decode value = .ok (.ok a)

def Misreads (param : Param W id) : List Json → Json.Refusal → Prop
  | [], _ => False
  | value :: _, refusal => param.decode value = .ok (.error refusal)

/-- The code of the argument type panics over the arguments. -/
def Breaks (param : Param W id) : List Json → Panic → Prop
  | [], cause => param.zero = .error cause
  | value :: _, cause => param.decode value = .error cause

/-- Neither decoding nor making the zero value ever panics. -/
def Calm (param : Param W id) : Prop := ∀ args cause, ¬ param.Breaks args cause

variable {param : Param W id} {args : List Json}

theorem argument_eq_returned_iff {a : W.Arg id} :
    param.argument args 0 = .returned a ↔ param.Reads args a := by
  cases args with
  | nil => rw [argument, Reads]; cases h : param.zero <;> simp
  | cons value rest =>
    rw [argument, Reads]
    rcases h : param.decode value with cause | refusal | b <;> simp [h]

theorem argument_eq_failed_iff {fault : Fault} :
    param.argument args 0 = .failed fault ↔ ∃ refusal, param.Misreads args refusal ∧
      fault = .badParams s!"invalid argument 0: {refusal.message}" := by
  cases args with
  | nil => rw [argument]; cases h : param.zero <;> simp [Misreads]
  | cons value rest =>
    rw [argument]
    rcases h : param.decode value with cause | refusal | b <;> simp [Misreads, h, eq_comm]
    rfl

theorem argument_eq_panicked_iff {cause : Panic} :
    param.argument args 0 = .panicked cause ↔ param.Breaks args cause := by
  cases args with
  | nil => rw [argument, Breaks]; cases h : param.zero <;> simp
  | cons value rest =>
    rw [argument, Breaks]
    rcases h : param.decode value with cause | refusal | b <;> simp [h]

/-- Why params are refused: for their form, then for the number of arguments in them, and only then
for the argument itself. -/
inductive Refuses (param : Param W id) (params : Option Json) : Fault → Prop
  | form (unlisted : ∀ args, ¬ Positional params args) :
    Refuses param params (.badParams "non-array args")
  | number {args : List Json} (listed : Positional params args)
    (long : param.arity < args.length) :
    Refuses param params (.badParams s!"too many arguments, want at most {param.arity}")
  | argument {args : List Json} {refusal : Json.Refusal} (listed : Positional params args)
    (fits : args.length ≤ param.arity) (misread : param.Misreads args refusal) :
    Refuses param params (.badParams s!"invalid argument 0: {refusal.message}")

end Param

def Bound.of (args : List Json) (a : W.Arg id) : Bound W where
  raw := args
  typed := { id, value := a }

namespace Method

abbrev callback (name : String) (leadingScope : Bool) (param : Param W id) (returns : Returns)
    (body : Body W (W.Arg id)) (receiver : Service W) : Callback W where
  method := of name leadingScope param returns body
  receiver

variable {name : String} {leadingScope : Bool} {param : Param W id} {returns : Returns}
variable {body : Body W (W.Arg id)} {receiver : Service W}
variable {params : Option Json} {args : List Json} {fault : Fault} {cause : Panic} {bound : Bound W}

theorem bind_of_unlisted (unlisted : ∀ args, ¬ Positional params args) :
    (callback name leadingScope param returns body receiver).bind params =
      .failed (.badParams "non-array args") := by
  rw [Callback.bind, positional_of_unlisted unlisted]

theorem bind_of_long (listed : Positional params args) (long : param.arity < args.length) :
    (callback name leadingScope param returns body receiver).bind params =
      .failed (.badParams s!"too many arguments, want at most {param.arity}") := by
  have arity : (callback name leadingScope param returns body receiver).arity = param.arity := rfl
  rw [Callback.bind, positional_of_listed listed, arity, if_pos long]

theorem bind_of_fits (listed : Positional params args) (fits : args.length ≤ param.arity) :
    (callback name leadingScope param returns body receiver).bind params =
      match param.argument args 0 with
      | .returned a => .returned (.of args a)
      | .failed fault => .failed fault
      | .panicked cause => .panicked cause := by
  have arity : (callback name leadingScope param returns body receiver).arity = param.arity := rfl
  rw [Callback.bind, positional_of_listed listed, arity, if_neg (Nat.not_lt.mpr fits)]
  simp only [of, Param.erased]
  cases param.argument args 0 <;> rfl

inductive Settles (param : Param W id) (params : Option Json) :
    Verdict (Bound W) → Prop
  | bound {args : List Json} {a : W.Arg id} (listed : Positional params args)
    (fits : args.length ≤ param.arity) (reads : param.Reads args a) :
    Settles param params (.returned (.of args a))
  | refused {fault : Fault} (refuses : param.Refuses params fault) :
    Settles param params (.failed fault)
  | broken {args : List Json} {cause : Panic} (listed : Positional params args)
    (fits : args.length ≤ param.arity) (breaks : param.Breaks args cause) :
    Settles param params (.panicked cause)

theorem bind_settles : Settles param params
    ((callback name leadingScope param returns body receiver).bind params) := by
  by_cases some_listed : ∃ args, Positional params args
  · obtain ⟨args, listed⟩ := some_listed
    rcases Nat.lt_or_ge param.arity args.length with long | fits
    · rw [bind_of_long listed long]
      exact .refused (.number listed long)
    · rw [bind_of_fits listed fits]
      cases read : param.argument args 0 with
      | returned a => exact .bound listed fits (Param.argument_eq_returned_iff.mp read)
      | failed fault =>
        obtain ⟨refusal, misread, rfl⟩ := Param.argument_eq_failed_iff.mp read
        exact .refused (.argument listed fits misread)
      | panicked cause => exact .broken listed fits (Param.argument_eq_panicked_iff.mp read)
  · have unlisted := not_exists.mp some_listed
    rw [bind_of_unlisted unlisted]
    exact .refused (.form unlisted)

theorem Settles.bind_eq {v : Verdict (Bound W)} (settles : Settles param params v) :
    (callback name leadingScope param returns body receiver).bind params = v := by
  cases settles with
  | bound listed fits reads =>
    rw [bind_of_fits listed fits, Param.argument_eq_returned_iff.mpr reads]
  | refused refuses =>
    cases refuses with
    | form unlisted => exact bind_of_unlisted unlisted
    | number listed long => exact bind_of_long listed long
    | argument listed fits misread =>
      rw [bind_of_fits listed fits, Param.argument_eq_failed_iff.mpr ⟨_, misread, rfl⟩]
  | broken listed fits breaks =>
    rw [bind_of_fits listed fits, Param.argument_eq_panicked_iff.mpr breaks]

theorem bind_eq_iff {v : Verdict (Bound W)} :
    (callback name leadingScope param returns body receiver).bind params = v ↔
      Settles param params v := by
  refine ⟨fun binds => ?_, Settles.bind_eq⟩
  rw [← binds]
  exact bind_settles

theorem bind_eq_panicked_iff :
    (callback name leadingScope param returns body receiver).bind params = .panicked cause ↔
      ∃ args, Positional params args ∧ args.length ≤ param.arity ∧ param.Breaks args cause := by
  rw [bind_eq_iff]
  constructor
  · intro settles
    cases settles with
    | broken listed fits breaks => exact ⟨_, listed, fits, breaks⟩
  · rintro ⟨args, listed, fits, breaks⟩
    exact .broken listed fits breaks

end Method

end JsonRpc
