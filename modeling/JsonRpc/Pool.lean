import JsonRpc.Program

namespace JsonRpc

/-- `allocated` counts the contexts that are idle or in use. The context that went back last comes
first among the idle ones. -/
structure Pool (W : World) where
  free : List (Context W)
  allocated : Nat
  maxIdle : Nat

namespace Pool

variable {W : World}

def defaultMaxIdle : Nat := 1024

def ofMaxIdle (maxIdle : Nat) : Pool W := { free := [], allocated := 0, maxIdle }

def idle (pool : Pool W) : Nat := pool.free.length

def acquire (pool : Pool W) : Context W × Pool W :=
  match pool.free with
  | ctx :: free => (ctx, { pool with free })
  | [] => ({}, { pool with allocated := pool.allocated + 1 })

def release (pool : Pool W) (ctx : Context W) : Pool W :=
  if pool.idle < pool.maxIdle then { pool with free := ctx.reset :: pool.free }
  else { pool with allocated := pool.allocated - 1 }

def Clean (pool : Pool W) : Prop := ∀ ctx ∈ pool.free, ctx = {}

theorem Clean.ofMaxIdle (maxIdle : Nat) : (Pool.ofMaxIdle maxIdle : Pool W).Clean := by
  intro ctx member
  cases member

theorem Clean.release {pool : Pool W} (clean : pool.Clean) (ctx : Context W) :
    (pool.release ctx).Clean := by
  intro other member
  simp only [Pool.release] at member
  split at member
  · rcases List.mem_cons.mp member with fresh | member
    · exact fresh
    · exact clean _ member
  · exact clean _ member

theorem Clean.acquire {pool : Pool W} (clean : pool.Clean) :
    pool.acquire.1 = {} ∧ pool.acquire.2.Clean := by
  obtain ⟨free, allocated, maxIdle⟩ := pool
  cases free with
  | nil => exact ⟨rfl, clean⟩
  | cons ctx free =>
    exact ⟨clean ctx List.mem_cons_self, fun other member =>
      clean other (List.mem_cons_of_mem _ member)⟩

end Pool

end JsonRpc
