import JsonRpc.Middleware
import JsonRpc.Script.Item

namespace JsonRpc.Script

abbrev Step := Program Scripted → Program Scripted

def program (script : List Step) : Program Scripted := script.foldr (· ·) .done

namespace Step

def note (n : Note) : Step := Program.tell (Journal.note n)

def see (view : View) : Step := fun rest =>
  .look fun call now => note (.saw view call now) rest

def next : Step := fun rest => .next (Program.orFail rest)

def tryNext : Step := fun rest => .next fun fault => note (.handedOn fault) rest

def run (chain : List (Middleware Scripted)) : Step := fun rest =>
  .run chain.length (fun index => chain[index].handler) (Program.orFail rest)

def stop : Step := Program.stop

def fail (fault : Fault) : Step := fun _ => .fail fault

def throw (message : String) : Step := fun _ => .panic (.text message)

def begin (request : Http.Request) : Step := Program.begin request

def envelope (change : Envelope → Envelope) : Step := Program.envelope change

def store (change : Store → Store) : Step := Program.store change

def headers (change : Http.Headers → Http.Headers) : Step := Program.headers change

def remove (key : String) : Step := fun rest =>
  .look fun call _ =>
    .store (·.erase key)
      (note (.removed (call.store.get? key) (call.store.erase key).size) rest)

def write (status : Nat) (body : Bytes) : Step := fun rest =>
  .write status body fun accepted => note (.wrote accepted) rest

def writeError (status : Nat) (message : String) : Step := fun rest =>
  Program.writeError status message fun accepted => note (.wrote accepted) rest

def take : Step := fun rest => Program.take fun response => note (.took response) rest

def choose (test : Http.Request → Bool) (yes no : List Step) : Step := fun rest =>
  .look fun call _ => (if test call.request then yes else no).foldr (· ·) rest

end Step

def handler (name : String) (script : List Step) : Middleware Scripted :=
  { name, handler := Step.see (.handler name) (program script) }

def hook (point : Point) (only : Option String) (script : List Step) (method : String)
    (args : List Json) (outcome : Option Outcome) : Program Scripted :=
  .look fun call _ =>
    Step.note (.hook point method args outcome call)
      (if only.all (· == method) then program script else .done)

end JsonRpc.Script
