import JsonRpc.Cipher.Block

namespace JsonRpc.Padding

def missing (length : Nat) : Nat := 16 - length % 16

theorem missing_bounds (length : Nat) : 1 ≤ missing length ∧ missing length ≤ 16 := by
  unfold missing; omega

theorem length_add_missing (length : Nat) :
    length + missing length = 16 * (length / 16 + 1) := by
  unfold missing; omega

def pad (bytes : Bytes) : Bytes :=
  bytes ++ List.replicate (missing bytes.length) (missing bytes.length).toUInt8

theorem length_pad (bytes : Bytes) : (pad bytes).length = 16 * (bytes.length / 16 + 1) := by
  simp [pad, length_add_missing]

def unpad? (bytes : Bytes) : Option Bytes :=
  match bytes.getLast? with
  | none => none
  | some last =>
    let n := last.toNat
    let kept := bytes.length - n
    if 1 ≤ n ∧ n ≤ 16 ∧ n ≤ bytes.length ∧ bytes.drop kept = List.replicate n last then
      some (bytes.take kept)
    else none

theorem unpad?_pad (bytes : Bytes) : unpad? (pad bytes) = some bytes := by
  obtain ⟨some_missing, few_missing⟩ := missing_bounds bytes.length
  have size : (missing bytes.length).toUInt8.toNat = missing bytes.length := by
    simp; omega
  have last : (pad bytes).getLast? = some (missing bytes.length).toUInt8 := by
    have nonempty : missing bytes.length ≠ 0 := by omega
    simp [pad, List.getLast?_append, List.getLast?_replicate, nonempty]
  have kept : (pad bytes).length - missing bytes.length = bytes.length := by simp [pad]
  have enough : missing bytes.length ≤ (pad bytes).length := by simp [pad]
  simp only [unpad?, last, size, kept]
  rw [if_pos ⟨some_missing, few_missing, enough, by simp [pad]⟩]
  simp [pad]

theorem pad_of_unpad? {bytes body : Bytes} (whole : bytes.length % 16 = 0)
    (kept : unpad? bytes = some body) : bytes = pad body := by
  cases ending : bytes.getLast? with
  | none => simp [unpad?, ending] at kept
  | some last =>
    simp only [unpad?, ending] at kept
    split at kept
    · rename_i padded
      obtain ⟨some_signs, few, enough, signs⟩ := padded
      obtain rfl := Option.some.inj kept
      -- the length of what is kept tells how many bytes were missing
      have count : missing (bytes.take (bytes.length - last.toNat)).length = last.toNat := by
        rw [List.length_take, missing]
        omega
      rw [pad, count, toUInt8_eq rfl, ← signs, List.take_append_drop]
    · cases kept

end JsonRpc.Padding
