import JsonRpc.SetupError
import JsonRpc.Script.Item
import JsonRpc.Script.Layer

namespace JsonRpc.Script

/-- A method without a name, of the service with a given number. -/
structure Feature where
  method : Nat → String → Method Scripted

namespace Feature

def plain (type : ItemType) (returns : Returns) (outcome : type.Value → Outcome) : Feature where
  method _ name :=
    .of name false type.param returns fun _ _ a journal => (.ok (outcome a), journal)

def withScope (type : ItemType) (returns : Returns)
    (outcome : Scope → Nat → type.Value → Outcome) : Feature where
  method _ name :=
    .of name true type.param returns fun scope now a journal => (.ok (outcome scope now a), journal)

def remembering (type : ItemType) (returns : Returns) (step : type.Value → Memory → Memory)
    (outcome : Memory → Outcome) : Feature where
  method service name :=
    .of name false type.param returns fun _ _ a journal =>
      let memory := step a (journal.memory service)
      (.ok (outcome memory), journal.remember service memory)

def panicking (type : ItemType) (cause : type.Value → Panic) : Feature where
  method _ name :=
    .of name false type.param .value fun _ _ a journal => (.error (cause a), journal)

def ping : Feature := plain .unit .nothing fun () => .empty

def pong : Feature := plain .unit .value fun () => .returned (.string "pong")

def echo (type : ItemType) (returns : Returns) : Feature := plain type returns type.item.payload

def pair : Feature :=
  plain .intString .value fun (a, b) => .returned (.object [("a", ofInt a), ("b", .string b)])

def isBlank : Feature :=
  plain .boxedProfile .valueOrFault fun profile => .returned (.bool (profile == {}))

def inRange (n : Int) : Outcome :=
  if -0x8000000000000000 ≤ n ∧ n < 0x8000000000000000 then .returned (ofInt n)
  else .failed (.server "overflow")

def add : Feature := plain .intPair .valueOrFault fun (a, b) => inRange (a + b)

def divide : Feature :=
  plain .intPair .valueOrFault fun (a, b) =>
    if b = 0 then .failed (.server "division by zero") else inRange (a.tdiv b)

def sum : Feature :=
  plain .operands .valueOrFault fun operands =>
    Item.real.payload (.ofFloat (operands.a.toFloat + operands.b.toFloat))

def quotient : Feature :=
  plain .operands .valueOrFault fun operands =>
    if operands.b.toFloat == 0 then .failed (.server "division by zero")
    else Item.real.payload (.ofFloat (operands.a.toFloat / operands.b.toFloat))

def sqrt : Feature :=
  plain .real .valueOrFault fun x => Item.real.payload (.ofFloat x.toFloat.sqrt)

def counted (memory : Memory) : Outcome := .returned (ofInt memory.count.toNat)

def bump : Feature :=
  remembering .nat32 .valueOrFault
    (fun n memory => { memory with count := memory.count + n.toNat.toUInt64 }) counted

def count : Feature := remembering .unit .valueOrFault (fun () memory => memory) counted

def ready : Feature :=
  remembering .unit .valueOrFault (fun () memory => memory) fun memory =>
    .returned (.bool memory.ready)

def check : Feature :=
  plain .bool .nothingOrFault fun flag =>
    if flag then .empty else .failed (.server "flag unset")

def raise : Feature :=
  plain .value .valueOrFault fun value =>
    match Fault.codec.decode value with
    | .ok fault => .failed fault
    | .error _ => .returned value

def login : Feature :=
  plain .string .valueOrFault fun name =>
    if name = "" then .failed (.ofToken "token required") else .returned (.bool true)

def admin : Feature :=
  plain .unit .nothingOrFault fun () => .failed (.ofForbidden "admins only")

def complain : Feature :=
  plain .string .valueOrFault fun text => .failed (.server text)

def complainOf (text : String) : Feature :=
  plain .unit .valueOrFault fun () => .failed (.server text)

def read : Feature :=
  plain .string .valueOrFault fun text =>
    match Json.parse (Utf8.encode text) with
    | .ok value => .returned value
    | .error error => .failed (.ofJsonError error)

def chain (layers : Json → List Layer) : Feature :=
  plain .value .valueOrFault fun value =>
    .failed (chainOf (layers value)).toFault

def unwritable : Feature :=
  plain .unit .valueOrFault fun () =>
    .failed (.internal (SetupError.json { refusal := .keyNotString, position := none }).message)

def crash (cause : Panic) : Feature := panicking .unit fun () => cause

def crashWith : Feature := panicking .string Panic.text

def isCancelled : Feature :=
  withScope .unit .valueOrFault fun scope now () => .returned (.bool (scope.isCancelled now))

def scopeEcho : Feature :=
  withScope .string .value fun scope now text =>
    .returned (.array
      [.bool (scope.isCancelled now), .bool scope.deadline.isSome, .string text])

def scopeCheck : Feature :=
  withScope .unit .nothingOrFault fun scope now () =>
    if scope.isCancelled now then .failed (.server "cancelled") else .empty

end Feature

end JsonRpc.Script
