import JsonRpc.Bytes

namespace JsonRpc

structure Column where
  a : UInt8
  b : UInt8
  c : UInt8
  d : UInt8
deriving DecidableEq, Repr

namespace Column

def xor (v w : Column) : Column := ⟨v.a ^^^ w.a, v.b ^^^ w.b, v.c ^^^ w.c, v.d ^^^ w.d⟩

def map (f : UInt8 → UInt8) (w : Column) : Column := ⟨f w.a, f w.b, f w.c, f w.d⟩

def toList (w : Column) : Bytes := [w.a, w.b, w.c, w.d]

theorem xor_xor_cancel (v w : Column) : (v.xor w).xor w = v := by
  cases v; cases w; simp only [xor, UInt8.xor_assoc, UInt8.xor_self, UInt8.xor_zero]

end Column

structure Block where
  p : Column
  q : Column
  r : Column
  s : Column
deriving DecidableEq, Repr

namespace Block

def xor (x y : Block) : Block := ⟨x.p.xor y.p, x.q.xor y.q, x.r.xor y.r, x.s.xor y.s⟩

def map (f : UInt8 → UInt8) (x : Block) : Block := ⟨x.p.map f, x.q.map f, x.r.map f, x.s.map f⟩

def mapColumns (f : Column → Column) (x : Block) : Block := ⟨f x.p, f x.q, f x.r, f x.s⟩

def toList (x : Block) : Bytes := x.p.toList ++ x.q.toList ++ x.r.toList ++ x.s.toList

theorem xor_xor_cancel (x y : Block) : (x.xor y).xor y = x := by
  cases x; cases y; simp [xor, Column.xor_xor_cancel]

theorem length_toList (x : Block) : x.toList.length = 16 := rfl

def join (blocks : List Block) : Bytes := blocks.flatMap toList

def split : Bytes → List Block
  | a₁ :: b₁ :: c₁ :: d₁ :: a₂ :: b₂ :: c₂ :: d₂ :: a₃ :: b₃ :: c₃ :: d₃
      :: a₄ :: b₄ :: c₄ :: d₄ :: rest =>
    ⟨⟨a₁, b₁, c₁, d₁⟩, ⟨a₂, b₂, c₂, d₂⟩, ⟨a₃, b₃, c₃, d₃⟩, ⟨a₄, b₄, c₄, d₄⟩⟩ :: split rest
  | _ => []

theorem split_join (blocks : List Block) : split (join blocks) = blocks := by
  induction blocks with
  | nil => rfl
  | cons block blocks hypothesis =>
    simp only [join, List.flatMap_cons, toList, Column.toList, List.cons_append, List.nil_append,
      split, List.cons.injEq]
    exact ⟨trivial, hypothesis⟩

theorem length_join (blocks : List Block) : (join blocks).length = 16 * blocks.length := by
  induction blocks with
  | nil => rfl
  | cons block blocks hypothesis =>
    simp only [join, List.flatMap_cons, List.length_append, length_toList,
      List.length_cons] at hypothesis ⊢
    omega

end Block

/-- A permutation of blocks and its inverse. -/
structure BlockCipher where
  encrypt : Block → Block
  decrypt : Block → Block

namespace BlockCipher

structure Bijective (c : BlockCipher) : Prop where
  decrypt_encrypt : ∀ x, c.decrypt (c.encrypt x) = x
  encrypt_decrypt : ∀ x, c.encrypt (c.decrypt x) = x

def chain (c : BlockCipher) : Block → List Block → List Block
  | _, [] => []
  | before, x :: rest =>
    let y := c.encrypt (x.xor before)
    y :: c.chain y rest

def unchain (c : BlockCipher) : Block → List Block → List Block
  | _, [] => []
  | before, y :: rest => (c.decrypt y).xor before :: c.unchain y rest

theorem unchain_chain {c : BlockCipher} (inverse : ∀ x, c.decrypt (c.encrypt x) = x)
    (before : Block) (blocks : List Block) : c.unchain before (c.chain before blocks) = blocks := by
  induction blocks generalizing before with
  | nil => rfl
  | cons x rest hypothesis =>
    simp [chain, unchain, inverse, Block.xor_xor_cancel, hypothesis]

theorem chain_unchain {c : BlockCipher} (inverse : ∀ x, c.encrypt (c.decrypt x) = x)
    (before : Block) (blocks : List Block) : c.chain before (c.unchain before blocks) = blocks := by
  induction blocks generalizing before with
  | nil => rfl
  | cons y rest hypothesis =>
    simp [chain, unchain, inverse, Block.xor_xor_cancel, hypothesis]

theorem length_chain (c : BlockCipher) (before : Block) (blocks : List Block) :
    (c.chain before blocks).length = blocks.length := by
  induction blocks generalizing before with
  | nil => rfl
  | cons x rest hypothesis => simp [chain, hypothesis]

end BlockCipher

end JsonRpc
