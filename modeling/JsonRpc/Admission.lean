import JsonRpc.Http.Request
import JsonRpc.Text.Blank

namespace JsonRpc.Admission

open Http

def defaultMaxBody : Nat := 5 * 1024 * 1024

def isVisible (b : UInt8) : Bool := (32 ≤ b && b < 127) || b == ascii '\t'

def digits? (cs : List Char) : Option Nat :=
  if cs ≠ [] ∧ cs.all (fun c => 48 ≤ c.toNat && c.toNat ≤ 57) then
    some (cs.foldl (fun n c => n * 10 + (c.toNat - 48)) 0)
  else none

/-- The number below `2 ^ 64` that a text spells in decimal, with or without a plus sign. -/
def nat64? (cs : List Char) : Option Nat :=
  let unsigned := match cs with
    | '+' :: rest => rest
    | cs => cs
  (digits? unsigned).filter (· < 0x10000000000000000)

def lengthOf? (value : Bytes) : Option Nat :=
  if value.all isVisible then
    nat64? (Text.trim (value.map fun b => Char.ofNat b.toNat))
  else none

/-- The declared or the actual length of the body, whichever is larger. A declaration that is no
64-bit number declares nothing. -/
def contentLength (request : Request) : Nat :=
  let declared := (request.headers.get? "content-length").bind lengthOf?
  max (declared.getD 0) request.body.length

inductive Rejection where
  | methodNotAllowed
  | tooLarge (length limit : Nat)
deriving DecidableEq

namespace Rejection

def message : Rejection → String
  | .methodNotAllowed => "method not allowed"
  | .tooLarge length limit => s!"content length too large ({length}>{limit})"

def status : Rejection → Nat
  | .methodNotAllowed => 405
  | .tooLarge _ _ => 413

end Rejection

def isWriteMethod (method : String) : Bool :=
  method == "PUT" || method == "DELETE" || method == "PATCH"

def rejection? (request : Request) (limit : Nat) : Option Rejection :=
  if isWriteMethod request.method then some .methodNotAllowed
  else if limit < contentLength request then some (.tooLarge (contentLength request) limit)
  else none

def isProbe (request : Request) : Bool :=
  request.method == "GET" && contentLength request == 0
    && (request.target.query.getD "" == "")

def isPreflight (request : Request) : Bool := request.method == "OPTIONS"

end JsonRpc.Admission
