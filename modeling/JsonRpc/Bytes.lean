namespace JsonRpc

abbrev Bytes := List UInt8

def ascii (c : Char) : UInt8 := c.toUInt8

def asciiBytes (text : String) : Bytes := text.toList.map ascii

def isDigit (b : UInt8) : Bool := ascii '0' ≤ b && b ≤ ascii '9'

def digitValue (b : UInt8) : Nat := b.toNat - 48

def decimal (n : Nat) : List Char := Nat.toDigits 10 n

def signedDecimal : Int → List Char
  | .ofNat n => decimal n
  | .negSucc n => '-' :: decimal (n + 1)

theorem toNat_toUInt8 {n : Nat} (small : n < 256) : n.toUInt8.toNat = n := by
  simp [Nat.mod_eq_of_lt small]

theorem toUInt8_eq {n : Nat} {b : UInt8} (same : n = b.toNat) : n.toUInt8 = b := by
  rw [same, Nat.toUInt8_eq, UInt8.ofNat_toNat]

theorem every_byte {P : UInt8 → Prop} (each : ∀ k : Fin 256, P (UInt8.ofNat k.val)) (b : UInt8) :
    P b := by
  have here := each ⟨b.toNat, b.toNat_lt⟩
  rwa [UInt8.ofNat_toNat] at here

theorem toNat_ascii {c : Char} (low : c.toNat < 0x80) : (ascii c).toNat = c.toNat := by
  have small : c.toNat < 256 := by omega
  exact Nat.mod_eq_of_lt small

def hexValue? (b : UInt8) : Option Nat :=
  if ascii '0' ≤ b ∧ b ≤ ascii '9' then some (b.toNat - 48)
  else if ascii 'a' ≤ b ∧ b ≤ ascii 'f' then some (b.toNat - 87)
  else if ascii 'A' ≤ b ∧ b ≤ ascii 'F' then some (b.toNat - 55)
  else none

theorem hexValue?_lt {b : UInt8} {n : Nat} (value : hexValue? b = some n) : n < 16 := by
  have zero : (ascii '0').toNat = 48 := rfl
  have nine : (ascii '9').toNat = 57 := rfl
  have lowA : (ascii 'a').toNat = 97 := rfl
  have lowF : (ascii 'f').toNat = 102 := rfl
  have upA : (ascii 'A').toNat = 65 := rfl
  have upF : (ascii 'F').toNat = 70 := rfl
  simp only [hexValue?, UInt8.le_iff_toNat_le] at value
  split at value
  · cases value; omega
  · split at value
    · cases value; omega
    · split at value
      · cases value; omega
      · cases value

end JsonRpc
