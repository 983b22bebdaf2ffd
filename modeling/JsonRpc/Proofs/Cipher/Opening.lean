import JsonRpc.Proofs.Cipher.Hex
import JsonRpc.Proofs.Cipher.Sealed
import JsonRpc.Proofs.Text.Utf8
import Mathlib.Logic.ExistsUnique

namespace JsonRpc

namespace CipherEncoding

/-- Texts that stand for the same bytes: hexadecimal digits may have either case, base64 symbols
are what they are. -/
def SameText : CipherEncoding → Bytes → Bytes → Prop
  | .hex, text, other => text.map upperLetter = other.map upperLetter
  | .base64, text, other => text = other

/-- Bytes that are a text which, without the white space around it, is the same as another. -/
def Spells (encoding : CipherEncoding) (bytes text : Bytes) : Prop :=
  ∃ cs, bytes = Utf8.encodeChars cs ∧ encoding.SameText (Utf8.encodeChars (Text.trim cs)) text

def textLength : CipherEncoding → Nat → Nat
  | .hex, count => 2 * count
  | .base64, count => (count + 2) / 3 * 4

theorem length_encode (encoding : CipherEncoding) (bytes : Bytes) :
    (encoding.encode bytes).length = encoding.textLength bytes.length := by
  cases encoding with
  | hex => exact Hex.length_encode bytes
  | base64 => exact Base64.length_encode bytes

theorem mapError_eq_ok_iff {α ε δ : Type} {x : Except ε α} {f : ε → δ} {a : α} :
    x.mapError f = .ok a ↔ x = .ok a := by
  constructor
  · intro same
    cases x with
    | error e => cases same
    | ok b => exact congrArg Except.ok (Except.ok.inj same)
  · rintro rfl
    rfl

theorem decode_eq_ok_iff {encoding : CipherEncoding} {text bytes : Bytes} :
    encoding.decode text = .ok bytes ↔ encoding.SameText text (encoding.encode bytes) := by
  cases encoding with
  | hex =>
    have digits : Hex.decode text = .ok bytes ↔ _ := Hex.decode_eq_ok_iff
    rw [SameText, encode, Hex.upperLetter_encode, ← digits, decode]
    exact mapError_eq_ok_iff
  | base64 =>
    have symbols : Base64.decode text = .ok bytes ↔ _ := Base64.decode_eq_ok_iff
    rw [SameText, encode, ← symbols, decode]
    exact mapError_eq_ok_iff

theorem SameText.refl (encoding : CipherEncoding) (text : Bytes) : encoding.SameText text text := by
  cases encoding <;> rfl

theorem raw_of_spells {encoding : CipherEncoding} {bytes raw other : Bytes}
    (spells : encoding.Spells bytes (encoding.encode raw))
    (also : encoding.Spells bytes (encoding.encode other)) : raw = other := by
  obtain ⟨cs, spelled, same⟩ := spells
  obtain ⟨ds, rfl, equal⟩ := also
  have text : Utf8.decode (Utf8.encodeChars ds) = .ok cs := Utf8.decode_eq_ok_iff.mpr spelled
  obtain rfl : ds = cs := by
    rw [Utf8.decode_eq_ok_iff.mpr rfl] at text
    exact Except.ok.inj text
  have decoded := decode_eq_ok_iff.mpr same
  rw [decode_eq_ok_iff.mpr equal] at decoded
  exact (Except.ok.inj decoded).symm

theorem visible_of_sameText {encoding : CipherEncoding} {text other : Bytes}
    (visible : Visible other) (same : encoding.SameText text other) : Visible text := by
  cases encoding with
  | base64 => exact same ▸ visible
  | hex =>
    have every : ∀ k : Fin 256,
        ((upperLetter (UInt8.ofNat k.val) < 0x80 ∧
          Text.isBlank (Char.ofNat (upperLetter (UInt8.ofNat k.val)).toNat) = false) ↔
        (UInt8.ofNat k.val < 0x80 ∧
          Text.isBlank (Char.ofNat (UInt8.ofNat k.val).toNat) = false)) := by decide +kernel
    have cased := every_byte (P := fun b =>
      ((upperLetter b < 0x80 ∧ Text.isBlank (Char.ofNat (upperLetter b).toNat) = false) ↔
        (b < 0x80 ∧ Text.isBlank (Char.ofNat b.toNat) = false))) every
    intro b member
    have raised : upperLetter b ∈ other.map upperLetter := same ▸ List.mem_map_of_mem member
    obtain ⟨d, there, equal⟩ := List.mem_map.mp raised
    rw [← cased b, ← equal, cased d]
    exact visible d there

end CipherEncoding

namespace BodyCipher

variable {c : BodyCipher}

theorem length_sealedBytes (cipher : BlockCipher) (iv : Block) (body : Bytes) :
    (sealedBytes cipher iv body).length = 16 * (2 + body.length / 16) := by
  obtain ⟨-, count⟩ := Block.join_split (Padding.length_pad body)
  rw [sealedBytes, List.length_append, Block.length_toList, Block.length_join,
    BlockCipher.length_chain, count]
  omega

theorem openedBytes_eq_ok_iff {key : Bytes} (sized : IsKeySize key.length) {bytes body : Bytes} :
    openedBytes key bytes = .ok body ↔ ∃ iv, bytes = sealedBytes (Aes.cipher key) iv body := by
  constructor
  · intro opened
    rw [openedBytes] at opened
    split at opened
    · cases opened
    · rename_i blocks
      simp only [blockSize] at blocks
      have whole : bytes.length = 16 * (bytes.length / 16) := by omega
      obtain ⟨joined, count⟩ := Block.join_split whole
      cases parted : Block.split bytes with
      | nil => simp [parted] at opened
      | cons iv rest =>
        simp only [parted, blockCipher, if_pos sized, bind, Except.bind] at opened
        cases kept : Padding.unpad? (Block.join ((Aes.cipher key).unchain iv rest)) with
        | none => simp [kept] at opened
        | some other =>
          obtain rfl : other = body := by simpa [kept] using opened
          have whole : (Block.join ((Aes.cipher key).unchain iv rest)).length % 16 = 0 := by
            rw [Block.length_join]
            omega
          have padded := Padding.pad_of_unpad? whole kept
          have chained := BlockCipher.chain_unchain (Aes.cipher_bijective key).encrypt_decrypt iv rest
          refine ⟨iv, ?_⟩
          rw [sealedBytes, ← padded, Block.split_join, chained, ← joined, parted]
          rfl
  · rintro ⟨iv, rfl⟩
    exact openedBytes_sealedBytes sized iv body

theorem sealedBytes_injective {cipher : BlockCipher} {iv other : Block} {body : Bytes}
    (same : sealedBytes cipher iv body = sealedBytes cipher other body) : iv = other := by
  have blocks : ∀ x, Block.split (sealedBytes cipher x body) =
      x :: cipher.chain x (Block.split (Padding.pad body)) := by
    intro x
    exact Block.split_join (x :: cipher.chain x (Block.split (Padding.pad body)))
  have first := blocks iv
  rw [same, blocks other] at first
  exact (List.cons.inj first).1.symm

theorem decipher_eq_ok_iff {bytes body : Bytes} :
    c.decipher bytes = .ok body ↔
      ∃ iv, c.encoding.Spells bytes (c.encoding.encode (sealedBytes (Aes.cipher c.key) iv body)) := by
  constructor
  · intro deciphered
    rw [decipher] at deciphered
    cases read : Utf8.decode bytes with
    | error defect =>
      rw [read] at deciphered
      cases deciphered
    | ok cs =>
      rw [read] at deciphered
      have opening : (c.encoding.decode (Utf8.encodeChars (Text.trim cs)) >>= openedBytes c.key) =
          .ok body := deciphered
      cases decoded : c.encoding.decode (Utf8.encodeChars (Text.trim cs)) with
      | error e =>
        rw [decoded] at opening
        cases opening
      | ok raw =>
        rw [decoded] at opening
        obtain ⟨iv, rfl⟩ := (openedBytes_eq_ok_iff c.sized).mp opening
        exact ⟨iv, cs, Utf8.decode_eq_ok_iff.mp read, CipherEncoding.decode_eq_ok_iff.mp decoded⟩
  · rintro ⟨iv, cs, spelled, same⟩
    have read := Utf8.decode_eq_ok_iff.mpr spelled
    have decoded := CipherEncoding.decode_eq_ok_iff.mpr same
    rw [decipher, read]
    show (c.encoding.decode (Utf8.encodeChars (Text.trim cs)) >>= openedBytes c.key) = .ok body
    rw [decoded]
    exact openedBytes_sealedBytes c.sized iv body

theorem spells_surrounded {encoding : CipherEncoding} {before after : List Char}
    (leading : ∀ c ∈ before, Text.isBlank c = true) (trailing : ∀ c ∈ after, Text.isBlank c = true)
    {shown text : Bytes} (written : encoding.writes text = true)
    (same : encoding.SameText shown text) :
    encoding.Spells (Utf8.encodeChars before ++ shown ++ Utf8.encodeChars after) text := by
  have visible := CipherEncoding.visible_of_sameText (CipherEncoding.visible_of_writes written) same
  have spelled : Utf8.encodeChars (shown.map fun b => Char.ofNat b.toNat) = shown :=
    Utf8.encodeChars_ascii fun b member => (visible b member).1
  refine ⟨before ++ (shown.map fun b => Char.ofNat b.toNat) ++ after, ?_, ?_⟩
  · rw [Utf8.encodeChars_append, Utf8.encodeChars_append, spelled]
  · rw [Text.trim_surrounded visible.chars leading trailing, spelled]
    exact same

theorem decipher_encipher (c : BodyCipher) (iv : Block) (body : Bytes) :
    ∃ text, c.encipher iv body = .ok text ∧ c.decipher text = .ok body := by
  refine ⟨_, encipher_eq c iv body, decipher_eq_ok_iff.mpr ⟨iv, ?_⟩⟩
  have written := CipherEncoding.writes_encode c.encoding (sealedBytes (Aes.cipher c.key) iv body)
  have no_blank : ∀ c ∈ ([] : List Char), Text.isBlank c = true := nofun
  have alone := spells_surrounded no_blank no_blank written (CipherEncoding.SameText.refl ..)
  simpa [Utf8.encodeChars] using alone

/-- A key for a cipher is as long as the text of the key allows, and 16 bytes long at least. Zeros
stand for what the text lacks. -/
structure Fits (text key : Bytes) : Prop where
  sized : IsKeySize key.length
  largest : ∀ size, IsKeySize size → size ≤ text.length → size ≤ key.length
  least : text.length < key.length → key.length = 16
  filled : ∀ i, i < key.length → key[i]? = some (text[i]?.getD 0)

theorem fits_keyMaterial (key : String) :
    ∃ before core after, key.toList.filter (· != '-') = before ++ core ++ after ∧
      (∀ c ∈ before ++ after, Text.isBlank c = true) ∧
      (∀ c, core.head? = some c ∨ core.getLast? = some c → Text.isBlank c = false) ∧
      Fits (Utf8.encodeChars core) (keyMaterial key) := by
  obtain ⟨before, after, whole, leading, trailing⟩ := Text.trim_split (key.toList.filter (· != '-'))
  refine ⟨before, _, after, whole, fun c member => ?_, fun c => Text.visible_of_trim, ?_⟩
  · exact (List.mem_append.mp member).elim (leading c) (trailing c)
  have sized := length_keyMaterial key
  unfold keyMaterial at sized ⊢
  generalize Utf8.encodeChars (Text.trim (key.toList.filter (· != '-'))) = text at sized ⊢
  have length : ∀ size, (text.take size ++ List.replicate (size - text.length) (0 : UInt8)).length =
      size := by
    intro size
    rw [List.length_append, List.length_take, List.length_replicate]
    omega
  simp only [length] at sized ⊢
  refine { sized := by rwa [length], largest := ?_, least := ?_, filled := ?_ }
  · simp only [length, IsKeySize]
    split
    · omega
    · split <;> omega
  · rw [length]
    split
    · omega
    · split <;> omega
  · intro i inside
    rw [length] at inside
    by_cases there : i < text.length
    · rw [List.getElem?_append_left (by rw [List.length_take]; omega), List.getElem?_take_of_lt inside,
        List.getElem?_eq_getElem there, Option.getD_some]
    · rw [List.getElem?_append_right (by rw [List.length_take]; omega), List.getElem?_replicate,
        List.getElem?_eq_none (by omega), Option.getD_none, if_pos]
      rw [List.length_take]
      omega

theorem eq_of_ofKey {key : String} {encoding : CipherEncoding}
    (accepted : ofKey key encoding = .ok c) : c.key = keyMaterial key ∧ c.encoding = encoding := by
  rw [ofKey] at accepted
  split at accepted
  · cases accepted
  · cases accepted
    exact ⟨rfl, rfl⟩

/-- What one key seals, every key with the same material opens, also with white space around it and
in digits of either case. -/
theorem decipher_sealed (first second : String) (encoding : CipherEncoding) (c d : BodyCipher)
    (accepted : ofKey first encoding = .ok c) (also : ofKey second encoding = .ok d)
    (same : keyMaterial first = keyMaterial second) (iv : Block) (body : Bytes) :
    ∃ text raw, c.encipher iv body = .ok text ∧ raw.length = 16 * (2 + body.length / 16) ∧
      text = encoding.encode raw ∧ encoding.writes text = true ∧
      text.length = encoding.textLength raw.length ∧
      ∀ before after shown, (∀ blank ∈ before, Text.isBlank blank = true) →
        (∀ blank ∈ after, Text.isBlank blank = true) → encoding.SameText shown text →
        d.decipher (Utf8.encodeChars before ++ shown ++ Utf8.encodeChars after) = .ok body := by
  obtain ⟨key, rfl⟩ := eq_of_ofKey accepted
  obtain ⟨other, encoding⟩ := eq_of_ofKey also
  let raw := sealedBytes (Aes.cipher c.key) iv body
  have written : c.encoding.writes (c.encoding.encode raw) = true :=
    CipherEncoding.writes_encode c.encoding raw
  refine ⟨_, raw, encipher_eq c iv body, length_sealedBytes _ iv body, rfl, written,
    CipherEncoding.length_encode c.encoding raw, ?_⟩
  intro before after shown leading trailing recased
  have spells := spells_surrounded leading trailing written recased
  apply decipher_eq_ok_iff.mpr
  rw [encoding, other, ← same, ← key]
  exact ⟨iv, spells⟩

theorem decipher_sealed_dashed :
    ∃ c d, ofKey "0123456789abcdef" .hex = .ok c ∧ ofKey " 01234567-89abcdef" .hex = .ok d ∧
      keyMaterial "0123456789abcdef" = keyMaterial " 01234567-89abcdef" ∧
      ∃ text raw, c.encipher ⟨⟨1, 2, 3, 4⟩, ⟨5, 6, 7, 8⟩, ⟨9, 10, 11, 12⟩, ⟨13, 14, 15, 16⟩⟩
          (asciiBytes "sixteen letters.") = .ok text ∧ raw.length = 16 * (2 + 1) ∧
        text = CipherEncoding.hex.encode raw ∧ CipherEncoding.hex.writes text = true ∧
        text.length = CipherEncoding.hex.textLength raw.length ∧
        ∀ before after shown, (∀ blank ∈ before, Text.isBlank blank = true) →
          (∀ blank ∈ after, Text.isBlank blank = true) → CipherEncoding.hex.SameText shown text →
          d.decipher (Utf8.encodeChars before ++ shown ++ Utf8.encodeChars after) =
            .ok (asciiBytes "sixteen letters.") := by
  have accepted : ofKey "0123456789abcdef" .hex = .ok
      { key := keyMaterial "0123456789abcdef", encoding := .hex, sized := length_keyMaterial _ } := by
    rw [ofKey, if_neg (by decide)]
  have also : ofKey " 01234567-89abcdef" .hex = .ok
      { key := keyMaterial " 01234567-89abcdef", encoding := .hex,
        sized := length_keyMaterial _ } := by
    rw [ofKey, if_neg (by decide)]
  have same : keyMaterial "0123456789abcdef" = keyMaterial " 01234567-89abcdef" := by decide +kernel
  exact ⟨_, _, accepted, also, same, decipher_sealed _ _ .hex _ _ accepted also same _ _⟩

/-- A text opens to a body if the body is sealed to it under exactly one first block, and does not
open at all if no body is sealed to it. -/
theorem decipher_iff_sealed (c : BodyCipher) (bytes : Bytes) :
    (∀ body, c.decipher bytes = .ok body ↔
      ∃! iv, ∃ text, c.encipher iv body = .ok text ∧ c.encoding.Spells bytes text) ∧
    ((∀ iv body text, c.encipher iv body = .ok text → ¬ c.encoding.Spells bytes text) →
      ∃ error, c.decipher bytes = .error error) := by
  have seals : ∀ iv body, (∃ text, c.encipher iv body = .ok text ∧ c.encoding.Spells bytes text) ↔
      c.encoding.Spells bytes (c.encoding.encode (sealedBytes (Aes.cipher c.key) iv body)) := by
    intro iv body
    rw [encipher_eq]
    constructor
    · rintro ⟨text, written, spells⟩
      cases written
      exact spells
    · exact fun spells => ⟨_, rfl, spells⟩
  constructor
  · intro body
    simp only [seals, decipher_eq_ok_iff]
    constructor
    · rintro ⟨iv, spells⟩
      refine ⟨iv, spells, fun other also => ?_⟩
      exact sealedBytes_injective (CipherEncoding.raw_of_spells also spells)
    · exact fun sealing => sealing.exists
  · intro unsealed
    cases opened : c.decipher bytes with
    | error e => exact ⟨e, rfl⟩
    | ok body =>
      obtain ⟨iv, spells⟩ := decipher_eq_ok_iff.mp opened
      exact absurd spells (unsealed iv body _ (encipher_eq c iv body))

end BodyCipher

end JsonRpc
