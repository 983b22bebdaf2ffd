import JsonRpc.Bytes

namespace JsonRpc.Utf8

def encodePoint (n : Nat) : Bytes :=
  if n < 0x80 then [n.toUInt8]
  else if n < 0x800 then [(0xc0 + n / 0x40).toUInt8, (0x80 + n % 0x40).toUInt8]
  else if n < 0x10000 then
    [(0xe0 + n / 0x1000).toUInt8, (0x80 + n / 0x40 % 0x40).toUInt8, (0x80 + n % 0x40).toUInt8]
  else
    [(0xf0 + n / 0x40000).toUInt8, (0x80 + n / 0x1000 % 0x40).toUInt8,
      (0x80 + n / 0x40 % 0x40).toUInt8, (0x80 + n % 0x40).toUInt8]

def encodeChars (cs : List Char) : Bytes := cs.flatMap fun c => encodePoint c.toNat

def encode (s : String) : Bytes := encodeChars s.toList

theorem encodeChars_append (cs ds : List Char) :
    encodeChars (cs ++ ds) = encodeChars cs ++ encodeChars ds := by
  simp [encodeChars]

/-- Where a byte string stops being a text, and how many bytes spoil it there; no count when the
string merely ends inside a character. -/
structure Defect where
  index : Nat
  length : Option Nat
deriving DecidableEq, Repr

def Defect.message (d : Defect) : String :=
  match d.length with
  | some n => s!"invalid utf-8 sequence of {n} bytes from index {d.index}"
  | none => s!"incomplete utf-8 byte sequence from index {d.index}"

def isTail (b : UInt8) : Bool := 0x80 ≤ b && b ≤ 0xbf

def isSecondOfThree (a b : UInt8) : Bool :=
  (if a = 0xe0 then 0xa0 else 0x80) ≤ b && b ≤ (if a = 0xed then 0x9f else 0xbf)

def isSecondOfFour (a b : UInt8) : Bool :=
  (if a = 0xf0 then 0x90 else 0x80) ≤ b && b ≤ (if a = 0xf4 then 0x8f else 0xbf)

def tailBits (b : UInt8) : Nat := b.toNat % 0x40

def decodeFrom (index : Nat) : Bytes → Except Defect (List Char)
  | [] => .ok []
  | a :: rest =>
    if a < 0x80 then (Char.ofNat a.toNat :: ·) <$> decodeFrom (index + 1) rest
    else if 0xc2 ≤ a ∧ a ≤ 0xdf then
      match rest with
      | [] => .error ⟨index, none⟩
      | b :: rest =>
        if !isTail b then .error ⟨index, some 1⟩
        else
          (Char.ofNat ((a.toNat - 0xc0) * 0x40 + tailBits b) :: ·) <$> decodeFrom (index + 2) rest
    else if 0xe0 ≤ a ∧ a ≤ 0xef then
      match rest with
      | [] => .error ⟨index, none⟩
      | b :: rest =>
        if !isSecondOfThree a b then .error ⟨index, some 1⟩ else
        match rest with
        | [] => .error ⟨index, none⟩
        | c :: rest =>
          if !isTail c then .error ⟨index, some 2⟩
          else
            (Char.ofNat ((a.toNat - 0xe0) * 0x1000 + tailBits b * 0x40 + tailBits c) :: ·) <$>
              decodeFrom (index + 3) rest
    else if 0xf0 ≤ a ∧ a ≤ 0xf4 then
      match rest with
      | [] => .error ⟨index, none⟩
      | b :: rest =>
        if !isSecondOfFour a b then .error ⟨index, some 1⟩ else
        match rest with
        | [] => .error ⟨index, none⟩
        | c :: rest =>
          if !isTail c then .error ⟨index, some 2⟩ else
          match rest with
          | [] => .error ⟨index, none⟩
          | d :: rest =>
            if !isTail d then .error ⟨index, some 3⟩
            else
              (Char.ofNat ((a.toNat - 0xf0) * 0x40000 + tailBits b * 0x1000 + tailBits c * 0x40
                + tailBits d) :: ·) <$> decodeFrom (index + 4) rest
    else .error ⟨index, some 1⟩

def decode (bytes : Bytes) : Except Defect (List Char) := decodeFrom 0 bytes

def text? (bytes : Bytes) : Option String :=
  match decode bytes with
  | .ok cs => some (String.ofList cs)
  | .error _ => none

end JsonRpc.Utf8
