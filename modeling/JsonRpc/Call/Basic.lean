import JsonRpc.Call.Scope
import JsonRpc.Call.Store
import JsonRpc.Envelope
import JsonRpc.Http.Sink
import JsonRpc.Text.Record

namespace JsonRpc

/-- `body` is the body of the request after decryption. `position` counts the handlers that have
handed the call on. -/
structure Call where
  stopped : Bool := false
  position : Nat := 0
  envelope : Envelope := {}
  request : Http.Request := {}
  body : Bytes := []
  sink : Http.Sink := {}
  scope : Scope := {}
  store : Store := {}
deriving DecidableEq, Inhabited

namespace Call

def begin (call : Call) (request : Http.Request) : Call :=
  { call with
    stopped := false
    position := 0
    scope := Scope.ofRequest request
    request
    sink := {} }

def reset (call : Call) : Call :=
  { call with
    envelope := {}
    stopped := false
    position := 0
    request := {}
    body := []
    sink := {}
    scope := {}
    store := {} }

@[simp] theorem reset_eq (call : Call) : call.reset = {} := rfl

def describe (call : Call) : String :=
  Text.record "RequestContext"
    [("method", Text.quoted call.envelope.method), ("stopped", toString call.stopped),
      ("position", toString call.position)] false

def startKey : String := "__jrpc_start_time"

def endKey : String := "__jrpc_end_time"

def usedKey : String := "__jrpc_time_used"

end Call

end JsonRpc
