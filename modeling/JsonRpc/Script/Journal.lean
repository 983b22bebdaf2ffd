import JsonRpc.Service.Basic

namespace JsonRpc.Script

structure Memory where
  count : UInt64 := 0
  ready : Bool := false
deriving DecidableEq, Inhabited

inductive View where
  | handler (name : String)
  | remark (tag : String)
  | entry (key : String)
  | state
  | timing
  | description
  | scope
  | request
deriving DecidableEq

inductive Point where
  | registryBefore
  | serviceBefore
  | serviceAfter
  | registryAfter
deriving DecidableEq

/-- A note of what scripted code saw, was told or was answered. -/
inductive Note where
  | constructed (typeName : String)
  | saw (view : View) (call : Call) (now : Nat)
  | hook (point : Point) (method : String) (args : List Json) (outcome : Option Outcome)
      (call : Call)
  | handedOn (fault : Option Fault)
  | removed (value : Option Json) (left : Nat)
  | wrote (accepted : Bool)
  | took (response : Http.Response)

/-- The notes, the latest first, and the memories of services by their numbers. -/
structure Journal where
  latest : List Note := []
  memory : Nat → Memory := fun _ => {}

namespace Journal

def note (n : Note) (journal : Journal) : Journal :=
  { journal with latest := n :: journal.latest }

def notes (journal : Journal) : List Note := journal.latest.reverse

def turned (journal : Journal) : Journal := { journal with latest := [] }

def remember (service : Nat) (memory : Memory) (journal : Journal) : Journal :=
  { journal with memory := fun other => if other = service then memory else journal.memory other }

end Journal

end JsonRpc.Script
