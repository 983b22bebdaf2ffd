import JsonRpc.Admission
import JsonRpc.Invocation
import JsonRpc.Pool
import JsonRpc.SetupError

namespace JsonRpc

structure Options where
  style : NameStyle := .snake
  cryptoKey : Option String := none
  encoding : CipherEncoding := .hex
  maxBody : Nat := Admission.defaultMaxBody
  maxIdle : Nat := Pool.defaultMaxIdle

def Options.describe (options : Options) : String :=
  Text.record "ServerOptions"
    [("name_style", options.style.describe),
      ("crypto_key", Text.optional (options.cryptoKey.map Text.quoted)),
      ("cipher_encoding", options.encoding.describe),
      ("max_body_bytes", toString options.maxBody),
      ("pool_max_idle", toString options.maxIdle)] true

structure Server (W : World) where
  registry : Registry W
  middleware : List (Middleware W)
  options : Options
  cipher : Option BodyCipher
  pool : Pool W
  running : Bool

abbrev Answer := Except Panic Http.Response

namespace Server

variable {W : World}

def ofRegistry (registry : Registry W) (options : Options) : Server W where
  registry
  middleware := registry.middleware
  options
  cipher := BodyCipher.ofOption options.cryptoKey options.encoding
  pool := Pool.ofMaxIdle options.maxIdle
  running := true

def stop (server : Server W) : Server W := { server with running := false }

def jsonType : Bytes := asciiBytes "application/json; charset=utf-8"

def sealedType : Bytes := asciiBytes "text/plain"

def openBody (server : Server W) (body : Bytes) : Except Fault Bytes :=
  match server.cipher with
  | none => .ok body
  | some cipher =>
    match cipher.decipher body with
    | .ok opened => .ok opened
    | .error error => .error (.parse s!"parse error: {(SetupError.cipher error).message}")

/-- What a request may say of a response is dropped, and so is an id that is no scalar. -/
def admitEnvelope (e : Envelope) : Envelope :=
  { e with result := none, error := none, id := if e.hasValidId then e.id else none }

def setEnvelope (e : Envelope) (call : Call) : Call := { call with envelope := e }

def resolveCall (server : Server W) (s : Surroundings) (r : Run W) :
    Except Fault (Callback W) × Run W :=
  match server.openBody r.call.request.body with
  | .error fault => (.error fault, r)
  | .ok body =>
    let r := r.edit fun call =>
      { call with store := call.store.insert Call.startKey (.ofInt64 s.received), body }
    match Envelope.parse body with
    | .error fault => (.error fault, r)
    | .ok e =>
      let r := r.edit (setEnvelope (admitEnvelope e))
      match r.call.envelope.validate with
      | .error fault => (.error fault, r)
      | .ok () =>
        match server.registry.normalizeMethod r.call.envelope.method with
        | .error fault => (.error fault, r)
        | .ok method =>
          let r := r.edit fun call => { call with envelope := { call.envelope with method } }
          (server.registry.resolve method, r)

def runMiddleware (server : Server W) (s : Surroundings) (r : Run W) : Verdict Unit × Run W :=
  if server.middleware.isEmpty then (.returned (), r)
  else
    let method := r.call.envelope.method
    let (verdict, r) := Program.performChain (server.middleware.map (·.handler)) r
    (verdict.contain method s.trace, r)

def emptied (r : Run W) : Run W :=
  r.edit fun call => { call with envelope := { call.envelope with params := none } }

def settle : Verdict Json × Run W → Verdict Unit × Run W :=
  Verdict.andThen fun value r =>
    (.returned (), r.edit fun call => { call with envelope := call.envelope.setResult value })

/-- Takes the params out of the envelope, binds them and invokes the callback. Binding is not
guarded: a panic in it is not turned into a fault. -/
def callMethod (server : Server W) (s : Surroundings) (cb : Callback W) (r : Run W) :
    Verdict Unit × Run W :=
  match cb.bind r.call.envelope.params with
  | .failed fault => (.failed fault, emptied r)
  | .panicked cause => (.panicked cause, emptied r)
  | .returned bound =>
    settle (cb.invoke server.registry.hooks s r.call.envelope.method bound (emptied r))

def dispatch (server : Server W) (s : Surroundings) (r : Run W) : Verdict Unit × Run W :=
  match server.resolveCall s r with
  | (.error fault, r) => (.failed fault, r)
  | (.ok cb, r) =>
    server.runMiddleware s r |> Verdict.andThen fun () r =>
    if r.call.stopped then (.returned (), r) else server.callMethod s cb r

def encodeEnvelope (server : Server W) (s : Surroundings) (e : Envelope) :
    Except CipherError (Bytes × Bytes) :=
  match server.cipher with
  | none => .ok (jsonType, e.encode)
  | some cipher => (cipher.encipher s.iv e.encode).map (sealedType, ·)

/-- Writes the envelope as a response, unless something is written already. An envelope that
cannot be encoded is answered with an error of the transport. -/
def writeEnvelope (server : Server W) (s : Surroundings) (call : Call) : Call :=
  if call.sink.written then call
  else
    let envelope := call.envelope.normalize
    match server.encodeEnvelope s envelope with
    | .error error =>
      let message := (SetupError.cipher error).message
      { call with envelope, sink := (call.sink.writeError 500 message).2 }
    | .ok (type, body) =>
      let sink := { call.sink with headers := call.sink.headers.insert "content-type" type }
      { call with envelope, sink := (sink.write 200 body).2 }

/-- The response to a request that is not dispatched: a probe, any request to a stopped server, one
that is answered already, one that is refused, and a preflight. -/
def declined? (server : Server W) (call : Call) : Option Http.Response :=
  if Admission.isProbe call.request then some (Http.bare 200)
  else if !server.running then some (Http.bare 503)
  else if call.sink.written then some call.sink.take.1
  else
    match Admission.rejection? call.request server.options.maxBody with
    | some rejection => some (call.sink.writeError rejection.status rejection.message).2.take.1
    | none =>
      if Admission.isPreflight call.request then some (call.sink.write 200 []).2.take.1 else none

/-- The run that dispatches the request of a context. Browsers are told not to guess the type of the
response. -/
def entry (s : Surroundings) (ctx : Context W) (world : W) : Run W :=
  ({ ctx, world, now := s.now } : Run W).edit fun call =>
    let headers := call.sink.headers.insert "x-content-type-options" (asciiBytes "nosniff")
    { call with sink := { call.sink with headers } }

def finish (server : Server W) (r : Run W) : Answer × Server W × W :=
  (.ok r.call.sink.take.1, { server with pool := server.pool.release r.ctx }, r.world)

/-- Answers a request that has been dispatched. The envelope carries the fault, if there is one; a
panic takes the context back and goes on. -/
def conclude (server : Server W) (s : Surroundings) :
    Verdict Unit × Run W → Answer × Server W × W
  | (.returned (), r) => server.finish (r.edit (server.writeEnvelope s))
  | (.failed fault, r) =>
    server.finish (r.edit fun call =>
      server.writeEnvelope s { call with envelope := call.envelope.setFault fault })
  | (.panicked cause, r) =>
    (.error cause, { server with pool := server.pool.release r.ctx }, r.world)

def handleContext (server : Server W) (s : Surroundings) (ctx : Context W) (world : W) :
    Answer × Server W × W :=
  match server.declined? ctx.call with
  | some response => (.ok response, { server with pool := server.pool.release ctx }, world)
  | none => server.conclude s (server.dispatch s (entry s ctx world))

def handle (server : Server W) (s : Surroundings) (request : Http.Request) (world : W) :
    Answer × Server W × W :=
  if Admission.isProbe request then (.ok (Http.bare 200), server, world)
  else if !server.running then (.ok (Http.bare 503), server, world)
  else
    let (ctx, pool) := server.pool.acquire
    { server with pool }.handleContext s (ctx.begin request) world

def describe (server : Server W) : String :=
  Text.record "Server"
    [("registry", server.registry.describe), ("options", server.options.describe),
      ("cipher", Text.optional (server.cipher.map BodyCipher.describe)),
      ("running", toString server.running)] true

end Server

end JsonRpc
