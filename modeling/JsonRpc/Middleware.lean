import JsonRpc.Program

namespace JsonRpc

structure Middleware (W : World) where
  name : String
  handler : Program W
deriving Inhabited

namespace Middleware

variable {W : World}

def describe (m : Middleware W) : String := "Middleware(" ++ Text.quoted m.name ++ ")"

def install (installed : List (Middleware W)) : List (Middleware W) → List (Middleware W)
  | [] => installed
  | m :: batch =>
    if installed.any (·.name == m.name) then install installed batch
    else install (installed ++ [m]) batch

theorem install_append (installed first second : List (Middleware W)) :
    install installed (first ++ second) = install (install installed first) second := by
  induction first generalizing installed with
  | nil => rfl
  | cons m batch hypothesis =>
    simp only [List.cons_append, install]
    split <;> exact hypothesis _

end Middleware

end JsonRpc
