namespace JsonRpc

/-- A binary64 number. Two numbers are the same when all their bits are. -/
structure Binary64 where
  bits : UInt64
deriving DecidableEq, Repr

namespace Binary64

def ofFloat (x : Float) : Binary64 := ⟨x.toBits⟩

def toFloat (x : Binary64) : Float := Float.ofBits x.bits

def isNegative (x : Binary64) : Bool := x.bits.toNat / 0x8000000000000000 == 1

def exponentField (x : Binary64) : Nat := x.bits.toNat / 0x10000000000000 % 0x800

def fractionField (x : Binary64) : Nat := x.bits.toNat % 0x10000000000000

def isFinite (x : Binary64) : Bool := x.exponentField != 2047

def significand (x : Binary64) : Nat :=
  if x.exponentField = 0 then x.fractionField else 0x10000000000000 + x.fractionField

def exponent (x : Binary64) : Int :=
  if x.exponentField = 0 then -1074 else x.exponentField - 1075

def nearest (n : Nat) : Float := n.toUInt64.toFloat

def powerOfTen (k : Nat) : Float := Float.ofScientific 1 false k

/-- `x` divided by `10 ^ e`, in steps of at most `10 ^ 308` while anything is left. -/
def scaleDown (x : Float) (e : Nat) : Float :=
  if e ≤ 308 then x / powerOfTen e
  else if x == 0 then x
  else scaleDown (x / powerOfTen 308) (e - 308)
termination_by e

/-- `significand * 10 ^ exponent` as the product or quotient of two rounded factors; nothing when
the product is too large. -/
def ofParts (significand : Nat) (exponent : Int) : Option Float :=
  let x := nearest significand
  match exponent with
  | .ofNat e =>
    if e ≤ 308 then
      let scaled := x * powerOfTen e
      if scaled.isInf then none else some scaled
    else if x == 0 then some x
    else none
  | .negSucc e => some (scaleDown x (e + 1))

end Binary64

end JsonRpc
