import JsonRpc.Proofs.Cipher.Opening
import JsonRpc.Server.Basic

namespace JsonRpc.Server

variable {W : World}

def envelopeType (server : Server W) : Bytes :=
  match server.cipher with
  | none => jsonType
  | some _ => sealedType

theorem encodeEnvelope_opens (server : Server W) (s : Surroundings) (e : Envelope) :
    ∃ body, server.encodeEnvelope s e = .ok (server.envelopeType, body) ∧
      server.openBody body = .ok e.encode := by
  cases sealing : server.cipher with
  | none =>
    refine ⟨e.encode, ?_, ?_⟩
    · simp only [encodeEnvelope, envelopeType, sealing]
    · simp only [openBody, sealing]
  | some cipher =>
    obtain ⟨text, enciphered, opened⟩ := cipher.decipher_encipher s.iv e.encode
    refine ⟨text, ?_, ?_⟩
    · simp only [encodeEnvelope, envelopeType, sealing, enciphered]
      rfl
    · simp only [openBody, sealing, opened]

theorem writeEnvelope_of_written {server : Server W} {s : Surroundings} {call : Call}
    (written : call.sink.written = true) : server.writeEnvelope s call = call := by
  rw [writeEnvelope, if_pos written]

/-- The response that holds an envelope behind some header fields. -/
structure Enveloped (server : Server W) (e : Envelope) (headers : Http.Headers)
    (response : Http.Response) : Prop where
  status : response.status = 200
  headers : response.headers = headers.insert "content-type" server.envelopeType
  body : server.openBody response.body = .ok e.normalize.encode

theorem writeEnvelope_of_unwritten {server : Server W} {s : Surroundings} {call : Call}
    (unwritten : call.sink.written = false) :
    server.Enveloped call.envelope call.sink.headers (server.writeEnvelope s call).sink.take.1 := by
  obtain ⟨body, encoded, opened⟩ := server.encodeEnvelope_opens s call.envelope.normalize
  have answer : (server.writeEnvelope s call).sink.take.1 =
      { status := 200
        headers := call.sink.headers.insert "content-type" server.envelopeType
        body } := by
    rw [writeEnvelope, if_neg (by simp [unwritten])]
    simp only [encoded, Http.Sink.write, unwritten, Http.Sink.take]
    rfl
  rw [answer]
  exact ⟨rfl, rfl, opened⟩

/-- The call that the answer is taken from, unless a panic takes its place. -/
def outcome? : Verdict Unit × Run W → Option Call
  | (.returned (), r) => some r.call
  | (.failed fault, r) => some { r.call with envelope := r.call.envelope.setFault fault }
  | (.panicked _, _) => none

theorem conclude_answer {server : Server W} {s : Surroundings} {ended : Verdict Unit × Run W}
    {call : Call} (outcome : outcome? ended = some call) :
    (server.conclude s ended).1 = .ok (server.writeEnvelope s call).sink.take.1 := by
  obtain ⟨verdict, r⟩ := ended
  cases verdict with
  | returned u =>
    obtain rfl := Option.some.inj outcome
    rfl
  | failed fault =>
    obtain rfl := Option.some.inj outcome
    rfl
  | panicked cause => cases outcome

theorem conclude_of_unwritten {server : Server W} {s : Surroundings}
    {ended : Verdict Unit × Run W} {call : Call} (outcome : outcome? ended = some call)
    (unwritten : call.sink.written = false) :
    ∃ response, (server.conclude s ended).1 = .ok response ∧
      server.Enveloped call.envelope call.sink.headers response :=
  ⟨_, conclude_answer outcome, writeEnvelope_of_unwritten unwritten⟩

theorem handleContext_answer {server : Server W} {s : Surroundings} {ctx : Context W} {world : W}
    (admitted : server.declined? ctx.call = none) :
    (server.handleContext s ctx world).1 =
      (server.conclude s (server.dispatch s (entry s ctx world))).1 := by
  rw [handleContext, admitted]

end JsonRpc.Server
