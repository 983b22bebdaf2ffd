import JsonRpc.Http.Request

namespace JsonRpc

structure Scope where
  token : Bool := false
  deadline : Option Nat := none
deriving DecidableEq, Inhabited

namespace Scope

def ofRequest (request : Http.Request) : Scope :=
  { token := request.cancelled.getD false, deadline := request.deadline }

def isCancelled (scope : Scope) (now : Nat) : Bool :=
  scope.token || scope.deadline.any (· ≤ now)

def remaining (scope : Scope) (now : Nat) : Option Nat := scope.deadline.map (· - now)

end Scope

end JsonRpc
