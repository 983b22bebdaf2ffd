import JsonRpc.Cipher.Aes
import JsonRpc.Cipher.Padding
import JsonRpc.Cipher.Hex
import JsonRpc.Cipher.Base64
import JsonRpc.Text.Utf8
import JsonRpc.Text.Blank
import JsonRpc.Text.Quoted
import JsonRpc.Text.Record

namespace JsonRpc

/-- How sealed bytes are written. Hexadecimal digits are upper case. -/
inductive CipherEncoding where
  | hex
  | base64
deriving DecidableEq, Repr, Inhabited

inductive CipherError where
  | notText (defect : Utf8.Defect)
  | hex (error : Hex.Error)
  | base64 (error : Base64.Error)
  | partialBlock (length : Nat)
  | badKeySize
  | badPadding

def CipherError.message : CipherError → String
  | .notText defect => defect.message
  | .hex .oddLength => "Odd number of digits"
  | .hex (.badDigit digit index) =>
    s!"Invalid character {Text.quotedChar (Char.ofNat digit.toNat)} at position {index}"
  | .base64 error => error.message
  | .partialBlock length => s!"ciphertext length {length} is not a whole number of blocks"
  | .badKeySize => "Invalid Length"
  | .badPadding => "Unpad Error"

namespace CipherEncoding

def describe : CipherEncoding → String
  | .hex => "Hex"
  | .base64 => "Base64"

def encode : CipherEncoding → Bytes → Bytes
  | .hex, bytes => Hex.encode bytes
  | .base64, bytes => Base64.encode bytes

def isUpperHex (b : UInt8) : Bool := isDigit b || (ascii 'A' ≤ b && b ≤ ascii 'F')

def writes : CipherEncoding → Bytes → Bool
  | .hex, text => text.all isUpperHex
  | .base64, text =>
    text.length % 4 == 0 && text.all fun b => (Base64.value? b).isSome || b == Base64.padSign

def decode : CipherEncoding → Bytes → Except CipherError Bytes
  | .hex, text => (Hex.decode text).mapError .hex
  | .base64, text => (Base64.decode text).mapError .base64

end CipherEncoding

def blockSize : Nat := 16

def minKeyLength : Nat := 16

/-- The key bytes of a configured key: dashes and blanks around it do not count, and what is left
is cut or filled with zeros to the largest key size that it fills, at least the smallest. -/
def keyMaterial (key : String) : Bytes :=
  let bytes := Utf8.encodeChars (Text.trim (key.toList.filter (· != '-')))
  let size := if 32 ≤ bytes.length then 32 else if 24 ≤ bytes.length then 24 else 16
  bytes.take size ++ List.replicate (size - bytes.length) 0

def IsKeySize (size : Nat) : Prop := size = 16 ∨ size = 24 ∨ size = 32

instance : DecidablePred IsKeySize := fun size =>
  inferInstanceAs (Decidable (size = 16 ∨ size = 24 ∨ size = 32))

theorem length_keyMaterial (key : String) : IsKeySize (keyMaterial key).length := by
  simp only [IsKeySize, keyMaterial, List.length_append, List.length_take, List.length_replicate]
  split
  · omega
  · split <;> omega

def blockCipher (key : Bytes) : Except CipherError BlockCipher :=
  if IsKeySize key.length then .ok (Aes.cipher key) else .error .badKeySize

structure BodyCipher where
  key : Bytes
  encoding : CipherEncoding
  sized : IsKeySize key.length
deriving DecidableEq

namespace BodyCipher

def ofKey (key : String) (encoding : CipherEncoding) : Except Nat BodyCipher :=
  let length := (Utf8.encode key).length
  if length < minKeyLength then .error length
  else .ok { key := keyMaterial key, encoding, sized := length_keyMaterial key }

def ofOption (key : Option String) (encoding : CipherEncoding) : Option BodyCipher :=
  key.bind fun key => (ofKey key encoding).toOption

def sealedBytes (cipher : BlockCipher) (iv : Block) (body : Bytes) : Bytes :=
  iv.toList ++ Block.join (cipher.chain iv (Block.split (Padding.pad body)))

def openedBytes (key : Bytes) (bytes : Bytes) : Except CipherError Bytes :=
  if bytes.length < 2 * blockSize ∨ bytes.length % blockSize ≠ 0 then
    .error (.partialBlock bytes.length)
  else
    match Block.split bytes with
    | [] => .error (.partialBlock bytes.length)
    | iv :: rest => do
      let cipher ← blockCipher key
      match Padding.unpad? (Block.join (cipher.unchain iv rest)) with
      | some body => .ok body
      | none => .error .badPadding

def encipher (c : BodyCipher) (iv : Block) (body : Bytes) : Except CipherError Bytes := do
  let cipher ← blockCipher c.key
  .ok (c.encoding.encode (sealedBytes cipher iv body))

def decipher (c : BodyCipher) (text : Bytes) : Except CipherError Bytes := do
  let cs ← (Utf8.decode text).mapError .notText
  let bytes ← c.encoding.decode (Utf8.encodeChars (Text.trim cs))
  openedBytes c.key bytes

def describe (c : BodyCipher) : String :=
  Text.record "PayloadCipher"
    [("key_bits", toString (8 * c.key.length)), ("encoding", c.encoding.describe)] true

end BodyCipher

end JsonRpc
