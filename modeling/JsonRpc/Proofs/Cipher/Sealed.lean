import JsonRpc.Cipher.Sealed
import JsonRpc.Proofs.Cipher.Aes
import JsonRpc.Proofs.Cipher.Base64

namespace JsonRpc

def Visible (text : Bytes) : Prop :=
  ∀ b ∈ text, b < 0x80 ∧ Text.isBlank (Char.ofNat b.toNat) = false

theorem Visible.chars {text : Bytes} (visible : Visible text) :
    ∀ c ∈ text.map fun b => Char.ofNat b.toNat, Text.isBlank c = false := by
  intro c member
  obtain ⟨b, written, rfl⟩ := List.mem_map.mp member
  exact (visible b written).2

theorem Column.exists_toList {bytes : Bytes} (enough : 4 ≤ bytes.length) :
    ∃ (w : Column) (rest : Bytes), bytes = w.toList ++ rest := by
  match bytes, enough with
  | a :: b :: c :: d :: rest, _ => exact ⟨⟨a, b, c, d⟩, rest, rfl⟩

theorem Block.exists_toList {bytes : Bytes} (enough : 16 ≤ bytes.length) :
    ∃ (x : Block) (rest : Bytes), bytes = x.toList ++ rest := by
  obtain ⟨p, bytes, rfl⟩ := Column.exists_toList (Nat.le_trans (by decide) enough)
  have three : 12 ≤ bytes.length := by simp [Column.toList] at enough; omega
  obtain ⟨q, bytes, rfl⟩ := Column.exists_toList (Nat.le_trans (by decide) three)
  have two : 8 ≤ bytes.length := by simp [Column.toList] at three; omega
  obtain ⟨r, bytes, rfl⟩ := Column.exists_toList (Nat.le_trans (by decide) two)
  have one : 4 ≤ bytes.length := by simp [Column.toList] at two; omega
  obtain ⟨s, rest, rfl⟩ := Column.exists_toList one
  exact ⟨⟨p, q, r, s⟩, rest, rfl⟩

theorem Block.join_split {bytes : Bytes} {n : Nat} (whole : bytes.length = 16 * n) :
    Block.join (Block.split bytes) = bytes ∧ (Block.split bytes).length = n := by
  induction n generalizing bytes with
  | zero =>
    have empty : bytes = [] := List.eq_nil_of_length_eq_zero whole
    rw [empty]
    exact ⟨rfl, rfl⟩
  | succ n hypothesis =>
    obtain ⟨x, rest, rfl⟩ := Block.exists_toList (by omega : 16 ≤ bytes.length)
    have shorter : rest.length = 16 * n := by
      rw [List.length_append, Block.length_toList] at whole
      omega
    obtain ⟨joined, count⟩ := hypothesis shorter
    have first : Block.split (x.toList ++ rest) = x :: Block.split rest := rfl
    have front : Block.join (x :: Block.split rest) = x.toList ++ Block.join (Block.split rest) :=
      rfl
    rw [first, front, joined, List.length_cons, count]
    exact ⟨rfl, rfl⟩

namespace CipherEncoding

theorem isUpperHex_upperDigit {n : Nat} (small : n < 16) :
    isUpperHex (Hex.upperDigit n) = true := by
  have every : ∀ k : Fin 16, isUpperHex (Hex.upperDigit k.val) = true := by decide
  exact every ⟨n, small⟩

theorem writes_encode (encoding : CipherEncoding) (bytes : Bytes) :
    encoding.writes (encoding.encode bytes) = true := by
  cases encoding with
  | hex =>
    simp only [writes, encode, List.all_eq_true, Hex.encode, List.mem_flatMap]
    rintro digit ⟨b, -, member⟩
    have bound := b.toNat_lt
    simp only [List.mem_cons, List.not_mem_nil, or_false] at member
    rcases member with rfl | rfl
    · exact isUpperHex_upperDigit (by omega)
    · exact isUpperHex_upperDigit (by omega)
  | base64 =>
    have groups := Base64.length_encode bytes
    simp only [writes, encode, Bool.and_eq_true, beq_iff_eq]
    exact ⟨by omega, Base64.all_encode bytes⟩

theorem visible_of_writes {encoding : CipherEncoding} {text : Bytes}
    (written : encoding.writes text = true) : Visible text := by
  intro b member
  cases encoding with
  | hex =>
    have every : ∀ k : Fin 256, isUpperHex (UInt8.ofNat k.val) = true →
        UInt8.ofNat k.val < 0x80 ∧
          Text.isBlank (Char.ofNat (UInt8.ofNat k.val).toNat) = false := by decide +kernel
    have digit : isUpperHex b = true := List.all_eq_true.mp written b member
    exact every_byte (P := fun b => isUpperHex b = true →
      b < 0x80 ∧ Text.isBlank (Char.ofNat b.toNat) = false) every b digit
  | base64 =>
    have every : ∀ k : Fin 256, ((Base64.value? (UInt8.ofNat k.val)).isSome ||
        UInt8.ofNat k.val == Base64.padSign) = true → UInt8.ofNat k.val < 0x80 ∧
          Text.isBlank (Char.ofNat (UInt8.ofNat k.val).toNat) = false := by decide +kernel
    simp only [writes, Bool.and_eq_true] at written
    have sign := List.all_eq_true.mp written.2 b member
    exact every_byte (P := fun b => ((Base64.value? b).isSome || b == Base64.padSign) = true →
      b < 0x80 ∧ Text.isBlank (Char.ofNat b.toNat) = false) every b sign

end CipherEncoding

namespace BodyCipher

theorem openedBytes_sealedBytes {key : Bytes} (sized : IsKeySize key.length) (iv : Block)
    (body : Bytes) : openedBytes key (sealedBytes (Aes.cipher key) iv body) = .ok body := by
  let chained := (Aes.cipher key).chain iv (Block.split (Padding.pad body))
  have blocks : sealedBytes (Aes.cipher key) iv body = Block.join (iv :: chained) := rfl
  obtain ⟨rejoined, count⟩ := Block.join_split (Padding.length_pad body)
  have size : (Block.join (iv :: chained)).length = 16 * (body.length / 16 + 2) := by
    rw [Block.length_join, List.length_cons, BlockCipher.length_chain, count]
  have whole : ¬ ((Block.join (iv :: chained)).length < 2 * blockSize ∨
      (Block.join (iv :: chained)).length % blockSize ≠ 0) := by
    rw [size, blockSize]
    omega
  have unchained : (Aes.cipher key).unchain iv chained = Block.split (Padding.pad body) :=
    BlockCipher.unchain_chain (Aes.cipher_bijective key).decrypt_encrypt iv _
  rw [blocks, openedBytes, if_neg whole, Block.split_join, blockCipher, if_pos sized]
  simp only [bind, Except.bind, unchained, rejoined, Padding.unpad?_pad]

theorem encipher_eq (c : BodyCipher) (iv : Block) (body : Bytes) :
    c.encipher iv body = .ok (c.encoding.encode (sealedBytes (Aes.cipher c.key) iv body)) := by
  rw [encipher, blockCipher, if_pos c.sized]
  rfl

end BodyCipher

end JsonRpc
