import JsonRpc.Cipher.Aes
import Mathlib.Data.Fintype.EquivFin

namespace JsonRpc

namespace Aes

theorem restore_substitute (b : UInt8) : restore (substitute b) = b := by
  revert b
  exact every_byte (by decide +kernel)

theorem finite_bytes : Finite UInt8 := Finite.of_injective UInt8.toFin fun _ _ => UInt8.toFin_inj.mp

theorem substitute_restore (b : UInt8) : substitute (restore b) = b := by
  have finite := finite_bytes
  have onto : Function.Surjective substitute :=
    Finite.injective_iff_surjective.mp (Function.LeftInverse.injective restore_substitute)
  obtain ⟨c, rfl⟩ := onto b
  rw [restore_substitute]

theorem twice_eq (b : UInt8) : twice b = b <<< 1 ^^^ (0x1b : UInt8) * b >>> 7 := by
  revert b
  exact every_byte (by decide +kernel)

theorem top_bit (b : UInt8) : b >>> 7 = 0 ∨ b >>> 7 = 1 := by
  revert b
  exact every_byte (by decide +kernel)

theorem twice_xor (x y : UInt8) : twice (x ^^^ y) = twice x ^^^ twice y := by
  have carried : (0x1b : UInt8) * (x >>> 7 ^^^ y >>> 7) =
      (0x1b : UInt8) * x >>> 7 ^^^ (0x1b : UInt8) * y >>> 7 := by
    rcases top_bit x with top | top <;> rcases top_bit y with bottom | bottom <;>
      rw [top, bottom] <;> decide
  rw [twice_eq, twice_eq, twice_eq, UInt8.shiftLeft_xor, UInt8.shiftRight_xor, carried]
  ac_rfl

theorem times3_xor (x y : UInt8) : times3 (x ^^^ y) = times3 x ^^^ times3 y := by
  simp only [times3, twice_xor]
  ac_rfl

theorem times4_xor (x y : UInt8) : times4 (x ^^^ y) = times4 x ^^^ times4 y := by
  simp only [times4, twice_xor]

theorem times8_xor (x y : UInt8) : times8 (x ^^^ y) = times8 x ^^^ times8 y := by
  simp only [times8, times4_xor, twice_xor]

theorem times9_xor (x y : UInt8) : times9 (x ^^^ y) = times9 x ^^^ times9 y := by
  simp only [times9, times8_xor]
  ac_rfl

theorem times11_xor (x y : UInt8) : times11 (x ^^^ y) = times11 x ^^^ times11 y := by
  simp only [times11, times8_xor, twice_xor]
  ac_rfl

theorem times13_xor (x y : UInt8) : times13 (x ^^^ y) = times13 x ^^^ times13 y := by
  simp only [times13, times8_xor, times4_xor]
  ac_rfl

theorem times14_xor (x y : UInt8) : times14 (x ^^^ y) = times14 x ^^^ times14 y := by
  simp only [times14, times8_xor, times4_xor, twice_xor]
  ac_rfl

theorem xor_left_comm (a b c : UInt8) : a ^^^ (b ^^^ c) = b ^^^ (a ^^^ c) := by
  rw [← UInt8.xor_assoc, UInt8.xor_comm a b, UInt8.xor_assoc]

theorem xor_cancel_left (a b : UInt8) : a ^^^ (a ^^^ b) = b := by
  rw [← UInt8.xor_assoc, UInt8.xor_self, UInt8.zero_xor]

theorem unmix_products (b : UInt8) :
    times14 (twice b) ^^^ times11 b ^^^ times13 b ^^^ times9 (times3 b) = b ∧
    times14 (times3 b) ^^^ times11 (twice b) ^^^ times13 b ^^^ times9 b = 0 ∧
    times14 b ^^^ times11 (times3 b) ^^^ times13 (twice b) ^^^ times9 b = 0 ∧
    times14 b ^^^ times11 b ^^^ times13 (times3 b) ^^^ times9 (twice b) = 0 := by
  -- all products are sums of the byte doubled again and again, and what is there twice cancels
  simp only [times14, times13, times11, times9, times8, times4, times3, twice_xor]
  refine ⟨?_, ?_, ?_, ?_⟩ <;>
    simp only [UInt8.xor_assoc, UInt8.xor_comm, xor_left_comm, xor_cancel_left, UInt8.xor_self,
      UInt8.xor_zero]

theorem mix_products (b : UInt8) :
    twice (times14 b) ^^^ times3 (times9 b) ^^^ times13 b ^^^ times11 b = b ∧
    twice (times11 b) ^^^ times3 (times14 b) ^^^ times9 b ^^^ times13 b = 0 ∧
    twice (times13 b) ^^^ times3 (times11 b) ^^^ times14 b ^^^ times9 b = 0 ∧
    twice (times9 b) ^^^ times3 (times13 b) ^^^ times11 b ^^^ times14 b = 0 := by
  simp only [times14, times13, times11, times9, times8, times4, times3, twice_xor]
  refine ⟨?_, ?_, ?_, ?_⟩ <;>
    simp only [UInt8.xor_assoc, UInt8.xor_comm, xor_left_comm, xor_cancel_left, UInt8.xor_self,
      UInt8.xor_zero]

theorem unmix_byte (a b c d : UInt8) :
    times14 (twice a ^^^ times3 b ^^^ c ^^^ d) ^^^ times11 (a ^^^ twice b ^^^ times3 c ^^^ d) ^^^
      times13 (a ^^^ b ^^^ twice c ^^^ times3 d) ^^^ times9 (times3 a ^^^ b ^^^ c ^^^ twice d) =
      a := by
  obtain ⟨kept, -, -, -⟩ := unmix_products a
  obtain ⟨-, first, -, -⟩ := unmix_products b
  obtain ⟨-, -, second, -⟩ := unmix_products c
  obtain ⟨-, -, -, third⟩ := unmix_products d
  simp only [times14_xor, times11_xor, times13_xor, times9_xor]
  calc _ = (times14 (twice a) ^^^ times11 a ^^^ times13 a ^^^ times9 (times3 a)) ^^^
        (times14 (times3 b) ^^^ times11 (twice b) ^^^ times13 b ^^^ times9 b) ^^^
        (times14 c ^^^ times11 (times3 c) ^^^ times13 (twice c) ^^^ times9 c) ^^^
        (times14 d ^^^ times11 d ^^^ times13 (times3 d) ^^^ times9 (twice d)) := by ac_rfl
    _ = a := by rw [kept, first, second, third]; simp

theorem mix_byte (a b c d : UInt8) :
    twice (times14 a ^^^ times11 b ^^^ times13 c ^^^ times9 d) ^^^
      times3 (times9 a ^^^ times14 b ^^^ times11 c ^^^ times13 d) ^^^
      (times13 a ^^^ times9 b ^^^ times14 c ^^^ times11 d) ^^^
      (times11 a ^^^ times13 b ^^^ times9 c ^^^ times14 d) = a := by
  obtain ⟨kept, -, -, -⟩ := mix_products a
  obtain ⟨-, first, -, -⟩ := mix_products b
  obtain ⟨-, -, second, -⟩ := mix_products c
  obtain ⟨-, -, -, third⟩ := mix_products d
  simp only [twice_xor, times3_xor]
  calc _ = (twice (times14 a) ^^^ times3 (times9 a) ^^^ times13 a ^^^ times11 a) ^^^
        (twice (times11 b) ^^^ times3 (times14 b) ^^^ times9 b ^^^ times13 b) ^^^
        (twice (times13 c) ^^^ times3 (times11 c) ^^^ times14 c ^^^ times9 c) ^^^
        (twice (times9 d) ^^^ times3 (times13 d) ^^^ times11 d ^^^ times14 d) := by ac_rfl
    _ = a := by rw [kept, first, second, third]; simp

theorem unmixColumn_mixColumn (w : Column) : unmixColumn (mixColumn w) = w := by
  obtain ⟨a, b, c, d⟩ := w
  have first := unmix_byte a b c d
  have second := unmix_byte b c d a
  have third := unmix_byte c d a b
  have fourth := unmix_byte d a b c
  simp only [unmixColumn, mixColumn, Column.mk.injEq]
  refine ⟨first, Eq.trans ?_ second, Eq.trans ?_ third, Eq.trans ?_ fourth⟩ <;> ac_rfl

theorem mixColumn_unmixColumn (w : Column) : mixColumn (unmixColumn w) = w := by
  obtain ⟨a, b, c, d⟩ := w
  have first := mix_byte a b c d
  have second := mix_byte b c d a
  have third := mix_byte c d a b
  have fourth := mix_byte d a b c
  simp only [unmixColumn, mixColumn, Column.mk.injEq]
  refine ⟨first, Eq.trans ?_ second, Eq.trans ?_ third, Eq.trans ?_ fourth⟩ <;> ac_rfl

end Aes

theorem Block.map_map_cancel {f g : UInt8 → UInt8} (cancel : ∀ b, g (f b) = b) (x : Block) :
    (x.map f).map g = x := by
  simp only [Block.map, Column.map, cancel]

theorem Block.mapColumns_cancel {f g : Column → Column} (cancel : ∀ w, g (f w) = w) (x : Block) :
    (x.mapColumns f).mapColumns g = x := by
  simp only [Block.mapColumns, cancel]

namespace Aes

theorem rounds_singleton (key x : Block) :
    rounds [key] x = (shiftRows (x.map substitute)).xor key := rfl

theorem unrounds_singleton (key x : Block) :
    unrounds [key] x = (unshiftRows (x.xor key)).map restore := rfl

theorem rounds_cons (key next : Block) (keys : List Block) (x : Block) :
    rounds (key :: next :: keys) x =
      rounds (next :: keys) (((shiftRows (x.map substitute)).mapColumns mixColumn).xor key) := rfl

theorem unrounds_cons (key next : Block) (keys : List Block) (x : Block) :
    unrounds (key :: next :: keys) x =
      (unshiftRows (((unrounds (next :: keys) x).xor key).mapColumns unmixColumn)).map restore := rfl

theorem unrounds_rounds (keys : List Block) (x : Block) : unrounds keys (rounds keys x) = x := by
  induction keys generalizing x with
  | nil => rfl
  | cons key keys hypothesis =>
    cases keys with
    | nil =>
      rw [rounds_singleton, unrounds_singleton, Block.xor_xor_cancel, unshiftRows_shiftRows,
        Block.map_map_cancel restore_substitute]
    | cons next keys =>
      rw [rounds_cons, unrounds_cons, hypothesis, Block.xor_xor_cancel,
        Block.mapColumns_cancel unmixColumn_mixColumn, unshiftRows_shiftRows,
        Block.map_map_cancel restore_substitute]

theorem rounds_unrounds (keys : List Block) (x : Block) : rounds keys (unrounds keys x) = x := by
  induction keys with
  | nil => rfl
  | cons key keys hypothesis =>
    cases keys with
    | nil =>
      rw [unrounds_singleton, rounds_singleton, Block.map_map_cancel substitute_restore,
        shiftRows_unshiftRows, Block.xor_xor_cancel]
    | cons next keys =>
      rw [unrounds_cons, rounds_cons, Block.map_map_cancel substitute_restore,
        shiftRows_unshiftRows, Block.mapColumns_cancel mixColumn_unmixColumn,
        Block.xor_xor_cancel, hypothesis]

theorem decrypt_encrypt (key : Bytes) (x : Block) : decrypt key (encrypt key x) = x := by
  rw [decrypt, encrypt]
  cases schedule key with
  | nil => rfl
  | cons first keys =>
    show (unrounds keys (rounds keys (x.xor first))).xor first = x
    rw [unrounds_rounds, Block.xor_xor_cancel]

theorem encrypt_decrypt (key : Bytes) (x : Block) : encrypt key (decrypt key x) = x := by
  rw [decrypt, encrypt]
  cases schedule key with
  | nil => rfl
  | cons first keys =>
    show rounds keys (((unrounds keys x).xor first).xor first) = x
    rw [Block.xor_xor_cancel, rounds_unrounds]

theorem cipher_bijective (key : Bytes) : (cipher key).Bijective :=
  ⟨decrypt_encrypt key, encrypt_decrypt key⟩

end Aes

end JsonRpc
