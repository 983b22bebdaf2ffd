import JsonRpc.Http.Request

namespace JsonRpc.Http

structure Sink where
  status : Nat := 200
  headers : Headers := []
  body : Bytes := []
  written : Bool := false
deriving DecidableEq, Inhabited

namespace Sink

def write (sink : Sink) (status : Nat) (body : Bytes) : Bool × Sink :=
  if sink.written then (false, sink) else (true, { sink with status, body, written := true })

def writeError (sink : Sink) (status : Nat) (message : String) : Bool × Sink :=
  if sink.written then (false, sink)
  else
    let headers := sink.headers.insert "content-type" (asciiBytes "text/plain; charset=utf-8")
    { sink with headers }.write status (Utf8.encode message)

def take (sink : Sink) : Response × Sink :=
  ({ status := sink.status, headers := sink.headers, body := sink.body }, {})

theorem write_of_written {sink : Sink} (written : sink.written = true) (status : Nat)
    (body : Bytes) : sink.write status body = (false, sink) := by
  simp [write, written]

theorem writeError_of_written {sink : Sink} (written : sink.written = true) (status : Nat)
    (message : String) : sink.writeError status message = (false, sink) := by
  simp [writeError, written]

theorem writeError_of_unwritten {sink : Sink} (unwritten : sink.written = false) (status : Nat)
    (message : String) :
    sink.writeError status message =
      (true,
        { status
          headers := sink.headers.insert "content-type" (asciiBytes "text/plain; charset=utf-8")
          body := Utf8.encode message
          written := true }) := by
  simp [writeError, write, unwritten]

end Sink

end JsonRpc.Http
