import JsonRpc.Program

namespace JsonRpc

/-- The arguments in `params`: none if they are absent or null, otherwise a list that is no longer
than the method takes. -/
def positional (params : Option Json) (arity : Nat) : Except Fault (List Json) :=
  match params with
  | none | some .null => .ok []
  | some (.array args) =>
    if arity < args.length then
      .error (.badParams s!"too many arguments, want at most {arity}")
    else .ok args
  | some _ => .error (.badParams "non-array args")

theorem badParams_of_positional {params : Option Json} {arity : Nat} {fault : Fault}
    (refused : positional params arity = .error fault) : fault.code = .badParams := by
  unfold positional at refused
  split at refused
  · cases refused
  · cases refused
  · split at refused
    · cases refused
      rfl
    · cases refused
  · cases refused
    rfl

variable {W : World}

/-- A value whose type is known by its identity alone. -/
structure Erased (W : World) where
  id : W.ArgType
  value : W.Arg id

namespace Erased

def downcast? (arg : Erased W) (id : W.ArgType) : Option (W.Arg id) :=
  if same : arg.id = id then some (same ▸ arg.value) else none

end Erased

/-- The argument type of a method. Decoding a value and making the zero value are the type's own
code, which may panic. -/
structure Param (W : World) (id : W.ArgType) where
  decode : Json → Except Panic (Except Json.Refusal (W.Arg id))
  zero : Except Panic (W.Arg id)

namespace Param

variable {id : W.ArgType}

def ofCodec (codec : Json.Codec (W.Arg id)) (zero : W.Arg id) : Param W id :=
  { decode := fun value => .ok (codec.decode value), zero := .ok zero }

def typeNames (_ : Param W id) : List String := (W.typeName id).toList

def arity (p : Param W id) : Nat := p.typeNames.length

def argument (p : Param W id) (args : List Json) (index : Nat) : Verdict (W.Arg id) :=
  match args[index]? with
  | none =>
    match p.zero with
    | .error cause => .panicked cause
    | .ok a => .returned a
  | some value =>
    match p.decode value with
    | .error cause => .panicked cause
    | .ok (.ok a) => .returned a
    | .ok (.error refusal) =>
      .failed (.badParams s!"invalid argument {index}: {refusal.message}")

theorem badParams_of_failed {p : Param W id} {args : List Json} {index : Nat} {fault : Fault}
    (failed : p.argument args index = .failed fault) : fault.code = .badParams := by
  unfold argument at failed
  split at failed
  · split at failed
    · cases failed
    · cases failed
  · split at failed
    · cases failed
    · cases failed
    · cases failed
      rfl

def erased (p : Param W id) (args : List Json) : Verdict (Erased W) :=
  match p.argument args 0 with
  | .returned a => .returned { id, value := a }
  | .failed fault => .failed fault
  | .panicked cause => .panicked cause

theorem badParams_of_erased {p : Param W id} {args : List Json} {fault : Fault}
    (failed : p.erased args = .failed fault) : fault.code = .badParams := by
  unfold erased at failed
  split at failed
  · cases failed
  · rename_i refused
    cases failed
    exact badParams_of_failed refused
  · cases failed

end Param

end JsonRpc
