import JsonRpc.Service.Param
import JsonRpc.Name

namespace JsonRpc

/-- What a method left behind: a payload, a fault, or neither. -/
structure Outcome where
  payload : Option Json := none
  fault : Option Fault := none
deriving DecidableEq, Inhabited

namespace Outcome

def empty : Outcome := {}

def returned (payload : Json) : Outcome := { payload := some payload }

def failed (fault : Fault) : Outcome := { fault := some fault }

def isFailure (outcome : Outcome) : Bool := outcome.fault.isSome

def result (outcome : Outcome) : Except Fault Json :=
  match outcome.fault with
  | some fault => .error fault
  | none => .ok (outcome.payload.getD .null)

end Outcome

inductive Returns where
  | nothing
  | value
  | nothingOrFault
  | valueOrFault
deriving DecidableEq

def Returns.faultIndex : Returns → Int
  | .nothing | .value => -1
  | .nothingOrFault => 0
  | .valueOrFault => 1

abbrev Body (W : World) (α : Type) := Scope → Nat → α → Effect W Outcome

variable {W : World} {id : W.ArgType}

/-- Runs a body on an argument that has lost its type. One of another type is no argument of it. -/
def Body.apply (body : Body W (W.Arg id)) (scope : Scope) (now : Nat) (arg : Erased W) :
    Effect W Outcome :=
  match arg.downcast? id with
  | some a => body scope now a
  | none => fun world => (.ok (.failed (.internal "argument type mismatch")), world)

/-- A bound method. `leadingScope` says whether its body asks for the scope. -/
structure Method (W : World) where
  name : String
  argTypes : List String
  leadingScope : Bool
  faultIndex : Int
  decode : List Json → Verdict (Erased W)
  call : Scope → Nat → Erased W → Effect W Outcome
  badParams_of_failed : ∀ args fault, decode args = .failed fault → fault.code = .badParams

namespace Method

def of (name : String) (leadingScope : Bool) (param : Param W id) (returns : Returns)
    (body : Body W (W.Arg id)) : Method W where
  name
  argTypes := param.typeNames
  leadingScope
  faultIndex := returns.faultIndex
  decode := param.erased
  call := body.apply
  badParams_of_failed _ _ := Param.badParams_of_erased

def arity (m : Method W) : Nat := m.argTypes.length

end Method

structure Service (W : World) where
  /-- The path of its type, which names its namespace unless it names one itself. -/
  typeName : String
  ownNamespace : Effect W (Option String)
  construct : Effect W Unit
  methods : Effect W (List (Method W))
  excluded : Effect W (List String)
  beforeCall : String → List Json → Program W
  afterCall : String → List Json → Outcome → Program W

def lastSegment : List Char → List Char
  | ':' :: ':' :: _ => []
  | c :: rest => c :: lastSegment rest
  | [] => []

def typeNamespace (path : String) : String :=
  String.ofList (lastSegment (path.toList.takeWhile (· != '<')).reverse).reverse

structure Callback (W : World) where
  method : Method W
  receiver : Service W

structure Hooks (W : World) where
  before : Option (String → List Json → Program W) := none
  after : Option (String → List Json → Outcome → Program W) := none

def Hooks.describe {W : World} (hooks : Hooks W) : String :=
  Text.record "CallHooks"
    [("before", toString hooks.before.isSome), ("after", toString hooks.after.isSome)] true

namespace Callback

def name (cb : Callback W) : String := cb.method.name

def arity (cb : Callback W) : Nat := cb.method.arity

def describe (cb : Callback W) : String :=
  Text.record "Callback"
    [("method_name", Text.quoted cb.method.name),
      ("arg_types", Text.listed (cb.method.argTypes.map Text.quoted)),
      ("has_leading_context", toString cb.method.leadingScope),
      ("error_return_index", toString cb.method.faultIndex)] false

end Callback

structure Bound (W : World) where
  raw : List Json
  typed : Erased W

def Bound.describe (bound : Bound W) : String :=
  Text.record "BoundArgs" [("raw", Text.listed (bound.raw.map Json.describe))] false

def Callback.bind (cb : Callback W) (params : Option Json) : Verdict (Bound W) :=
  match positional params cb.arity with
  | .error fault => .failed fault
  | .ok raw =>
    match cb.method.decode raw with
    | .returned typed => .returned { raw, typed }
    | .failed fault => .failed fault
    | .panicked cause => .panicked cause

theorem Callback.badParams_of_bind {cb : Callback W} {params : Option Json}
    {fault : Fault} (failed : cb.bind params = .failed fault) : fault.code = .badParams := by
  unfold bind at failed
  split at failed
  · rename_i refused
    cases failed
    exact badParams_of_positional refused
  · split at failed
    · cases failed
    · rename_i refused
      cases failed
      exact cb.method.badParams_of_failed _ fault refused
    · cases failed

end JsonRpc
