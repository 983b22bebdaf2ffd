import JsonRpc.Proofs.Json.Reading
import JsonRpc.Proofs.Json.Token
import JsonRpc.Json.Skip

namespace JsonRpc.Json

theorem takeDigits_rest (n : Nat) (bytes : Bytes) :
    (takeDigits n bytes).2.2.dropWhile isDigit = bytes.dropWhile isDigit := by
  induction bytes generalizing n with
  | nil => rfl
  | cons b rest hypothesis =>
    rw [takeDigits]
    split
    · rename_i taken
      have more := hypothesis (n * 10 + digitValue b)
      rw [List.dropWhile_cons, if_pos taken.1]
      exact more
    · rfl

theorem dropWhile_of_no_digit {bytes : Bytes} (none_left : startsWithDigit bytes = false) :
    bytes.dropWhile isDigit = bytes := by
  cases bytes with
  | nil => rfl
  | cons b rest =>
    have other : isDigit b = false := none_left
    rw [List.dropWhile_cons, if_neg (by simp [other])]

theorem startsWithDigit_of_taken {n : Nat} {bytes : Bytes}
    (taken : startsWithDigit (takeDigits n bytes).2.2 = true ∨ (takeDigits n bytes).2.1 ≠ 0) :
    startsWithDigit bytes = true := by
  cases bytes with
  | nil => simp [takeDigits, startsWithDigit] at taken
  | cons b rest =>
    rw [takeDigits] at taken
    split at taken
    · rename_i digit
      exact digit.1
    · simpa using taken

theorem takeExponent_ok {n e : Nat} {bytes rest : Bytes}
    (taken : takeExponent n bytes = .ok (e, rest)) : rest = bytes.dropWhile isDigit := by
  induction bytes generalizing n with
  | nil =>
    cases taken
    rfl
  | cons b bytes hypothesis =>
    rw [takeExponent] at taken
    split at taken
    · rename_i digit
      split at taken
      · rw [List.dropWhile_cons, if_pos digit]
        exact hypothesis taken
      · cases taken
    · rename_i other
      cases taken
      rw [List.dropWhile_cons, if_neg other]

theorem takeExponent_error {n : Nat} {bytes rest : Bytes}
    (large : takeExponent n bytes = .error rest) :
    rest.dropWhile isDigit = bytes.dropWhile isDigit := by
  induction bytes generalizing n with
  | nil => cases large
  | cons b bytes hypothesis =>
    rw [takeExponent] at large
    split at large
    · rename_i digit
      rw [List.dropWhile_cons, if_pos digit]
      split at large
      · exact hypothesis large
      · cases large
        rfl
    · cases large

theorem skipExponent_of_scan {n : Nat} {start : Int} {bytes rest : Bytes} {literal : Literal}
    (scanned : scanExponent n start bytes = .ok (literal, rest)) :
    skipExponent bytes = .ok rest := by
  rw [scanExponent] at scanned
  rw [skipExponent]
  generalize scanSign bytes = signed at scanned
  obtain ⟨negative, bytes⟩ := signed
  cases bytes with
  | nil => cases scanned
  | cons b tail =>
    simp only at scanned ⊢
    cases digit : isDigit b with
    | false => simp only [digit] at scanned; cases scanned
    | true =>
      simp only [digit, Bool.not_true, Bool.false_eq_true, if_false] at scanned
      cases taken : takeExponent (digitValue b) tail with
      | ok pair =>
        obtain ⟨e, left⟩ := pair
        simp only [taken] at scanned
        cases scanned
        simp only [if_true, takeExponent_ok taken]
      | error left =>
        simp only [taken] at scanned
        split at scanned
        · cases scanned
        · cases scanned
          simp only [if_true, takeExponent_error taken]

theorem skipScale_of_scan {n : Nat} {start : Int} {bytes rest : Bytes} {literal : Literal}
    (scanned : scanScale n start bytes = .ok (literal, rest)) : skipScale bytes = .ok rest := by
  cases bytes with
  | nil =>
    cases scanned
    rfl
  | cons b tail =>
    rw [scanScale] at scanned
    rw [skipScale]
    split at scanned
    · rename_i mark
      rw [if_pos mark]
      exact skipExponent_of_scan scanned
    · rename_i other
      cases scanned
      rw [if_neg other]

theorem skipFraction_of_scan {n : Nat} {start : Int} {bytes rest : Bytes} {literal : Literal}
    (scanned : scanFraction n start bytes = .ok (literal, rest)) :
    skipFraction bytes = .ok rest := by
  have left := takeDigits_rest n bytes
  have started : startsWithDigit (takeDigits n bytes).2.2 = true ∨ (takeDigits n bytes).2.1 ≠ 0 →
      startsWithDigit bytes = true := startsWithDigit_of_taken
  rw [scanFraction] at scanned
  generalize takeDigits n bytes = taken at left started scanned
  obtain ⟨m, count, tail⟩ := taken
  simp only at left started scanned
  rw [skipFraction]
  cases surplus : startsWithDigit tail with
  | true =>
    rw [surplus, if_pos rfl] at scanned
    rw [if_pos (started (.inl surplus)), ← left]
    exact skipScale_of_scan scanned
  | false =>
    rw [surplus, if_neg (by simp)] at scanned
    split at scanned
    · cases tail <;> cases scanned
    · rename_i some_digits
      rw [if_pos (started (.inr some_digits)), ← left, dropWhile_of_no_digit surplus]
      exact skipScale_of_scan scanned

theorem skipTail_of_scan {plain literal : Literal} {n : Nat} {start : Int} {bytes rest : Bytes}
    (scanned : scanTail plain n start bytes = .ok (literal, rest)) : skipTail bytes = .ok rest := by
  cases bytes with
  | nil =>
    cases scanned
    rfl
  | cons b tail =>
    rw [scanTail] at scanned
    rw [skipTail]
    split at scanned
    · rename_i point
      rw [if_pos point]
      exact skipFraction_of_scan scanned
    · rename_i no_point
      rw [if_neg no_point, skipScale]
      split at scanned
      · rename_i mark
        rw [if_pos mark]
        exact skipExponent_of_scan scanned
      · rename_i other
        cases scanned
        rw [if_neg other]

theorem skipNumber_of_scan {bytes rest : Bytes} {literal : Literal}
    (scanned : scanLiteral bytes = .ok (literal, rest)) : skipNumber bytes = .ok rest := by
  cases bytes with
  | nil => cases scanned
  | cons b tail =>
    rw [scanLiteral] at scanned
    rw [skipNumber]
    split at scanned
    · rename_i zero
      rw [if_pos zero]
      split at scanned
      · cases scanned
      · rename_i no_digit
        rw [if_neg no_digit]
        exact skipTail_of_scan scanned
    · rename_i other
      rw [if_neg other]
      split at scanned
      · rename_i digit
        rw [if_pos digit]
        have left := takeDigits_rest (digitValue b) tail
        generalize takeDigits (digitValue b) tail = taken at left scanned
        obtain ⟨n, count, after⟩ := taken
        simp only at left scanned
        rw [← left]
        split at scanned
        · rename_i surplus
          have none_left : startsWithDigit after = false := by
            cases after with
            | nil => rfl
            | cons c after =>
              cases more : isDigit c with
              | false => exact more
              | true => simp [more] at surplus
          rw [dropWhile_of_no_digit none_left]
          exact skipTail_of_scan scanned
        · exact skipTail_of_scan scanned
      · cases scanned

theorem skipNumber_of_read {negative : Bool} {bytes rest : Bytes} {n : Number}
    (read : scanNumber negative bytes = .ok (n, rest)) : skipNumber bytes = .ok rest := by
  obtain ⟨⟨literal, left⟩, scanned, ended⟩ := ok_of_bind read
  have same : left = rest := by
    cases number : literal.number? negative with
    | none => simp only [number] at ended; cases ended
    | some m =>
      simp only [number] at ended
      cases ended
      rfl
  exact same ▸ skipNumber_of_scan scanned

theorem length_skipExponent {bytes rest : Bytes} (skipped : skipExponent bytes = .ok rest) :
    rest.length ≤ bytes.length := by
  have signed : (scanSign bytes).2.length ≤ bytes.length := by
    cases bytes with
    | nil => exact Nat.le_refl _
    | cons b bytes =>
      rw [scanSign]
      split
      · exact Nat.le_succ _
      · split
        · exact Nat.le_succ _
        · exact Nat.le_refl _
  rw [skipExponent] at skipped
  cases digits : (scanSign bytes).2 with
  | nil => rw [digits] at skipped; cases skipped
  | cons b tail =>
    rw [digits] at skipped signed
    simp only at skipped
    split at skipped
    · cases skipped
      have dropped := (List.dropWhile_sublist isDigit (l := tail)).length_le
      rw [List.length_cons] at signed
      omega
    · cases skipped

theorem length_skipScale {bytes rest : Bytes} (skipped : skipScale bytes = .ok rest) :
    rest.length ≤ bytes.length := by
  cases bytes with
  | nil =>
    cases skipped
    exact Nat.le_refl _
  | cons b tail =>
    rw [skipScale] at skipped
    split at skipped
    · exact Nat.le_succ_of_le (length_skipExponent skipped)
    · cases skipped
      exact Nat.le_refl _

theorem length_skipTail {bytes rest : Bytes} (skipped : skipTail bytes = .ok rest) :
    rest.length ≤ bytes.length := by
  cases bytes with
  | nil =>
    cases skipped
    exact Nat.le_refl _
  | cons b tail =>
    rw [skipTail] at skipped
    split at skipped
    · rw [skipFraction] at skipped
      split at skipped
      · have scaled := length_skipScale skipped
        have dropped := (List.dropWhile_sublist isDigit (l := tail)).length_le
        rw [List.length_cons]
        omega
      · cases skipped
    · exact length_skipScale skipped

theorem length_skipNumber {bytes rest : Bytes} (skipped : skipNumber bytes = .ok rest) :
    rest.length < bytes.length := by
  cases bytes with
  | nil => cases skipped
  | cons b tail =>
    have dropped := (List.dropWhile_sublist isDigit (l := tail)).length_le
    rw [List.length_cons]
    rw [skipNumber] at skipped
    split at skipped
    · split at skipped
      · cases skipped
      · have left := length_skipTail skipped
        omega
    · split at skipped
      · have left := length_skipTail skipped
        omega
      · cases skipped

theorem skipString_quad {a b c d : UInt8} {n : Nat} (quad : hexQuad? a b c d = some n)
    (rest : Bytes) :
    skipString (ascii '\\' :: ascii 'u' :: a :: b :: c :: d :: rest) = skipString rest := by
  rw [skipString.eq_def]
  simp only [if_neg (show ascii '\\' ≠ ascii '"' by decide), if_true, quad, Option.isSome_some]

theorem skipString_short {e c : UInt8} (other : e ≠ ascii 'u') (short : shortEscaped? e = some c)
    (rest : Bytes) : skipString (ascii '\\' :: e :: rest) = skipString rest := by
  rw [skipString.eq_def]
  simp only [if_neg (show ascii '\\' ≠ ascii '"' by decide), if_true, if_neg other, short,
    Option.isSome_some]

theorem skipString_plain {b : UInt8} (plain : Plain b) (rest : Bytes) :
    skipString (b :: rest) = skipString rest := by
  obtain ⟨quote, slash, visible⟩ := plain
  rw [skipString.eq_def]
  simp only [if_neg quote, if_neg slash, if_neg visible]

theorem content_of_more {front : Bytes → Bytes} {tail content rest : Bytes}
    (scanned : (do
      let (content, rest) ← scanContent tail
      .ok (front content, rest)) = (.ok (content, rest) : Except Failure (Bytes × Bytes))) :
    ∃ content, scanContent tail = .ok (content, rest) := by
  obtain ⟨⟨content, left⟩, more, ended⟩ := ok_of_bind scanned
  cases ended
  exact ⟨content, more⟩

theorem skipString_of_content {bytes content rest : Bytes}
    (scanned : scanContent bytes = .ok (content, rest)) : skipString bytes = .ok rest := by
  fun_induction scanContent bytes generalizing content rest with
  | case2 tail =>
    cases scanned
    rw [skipString.eq_def]
    rfl
  | case12 a b c d n quad _ _ x first y second a' b' c' d' tail m lower _ _ hypothesis =>
    obtain rfl : x = ascii '\\' := by simpa using first
    obtain rfl : y = ascii 'u' := by simpa using second
    obtain ⟨more, scanned⟩ := content_of_more scanned
    rw [skipString_quad quad, skipString_quad lower]
    exact hypothesis scanned
  | case14 a b c d tail n quad _ _ _ hypothesis =>
    obtain ⟨more, scanned⟩ := content_of_more scanned
    rw [skipString_quad quad]
    exact hypothesis scanned
  | case17 e tail other c short _ hypothesis =>
    obtain ⟨more, scanned⟩ := content_of_more scanned
    rw [skipString_short other short]
    exact hypothesis scanned
  | case19 b tail quote slash visible hypothesis =>
    obtain ⟨more, scanned⟩ := content_of_more scanned
    rw [skipString_plain ⟨quote, slash, visible⟩]
    exact hypothesis scanned
  -- the other cases are refused
  | _ => cases scanned

theorem skipString_of_read {bytes rest : Bytes} {s : String}
    (read : scanString bytes = .ok (s, rest)) : skipString bytes = .ok rest := by
  obtain ⟨⟨content, left⟩, scanned, ended⟩ := ok_of_bind read
  have same : left = rest := by
    cases decoded : Utf8.decode content with
    | error defect => simp only [decoded] at ended; cases ended
    | ok cs =>
      simp only [decoded] at ended
      cases ended
      rfl
  exact same ▸ skipString_of_content scanned

theorem length_skipString {bytes rest : Bytes} (skipped : skipString bytes = .ok rest) :
    rest.length < bytes.length := by
  fun_induction skipString bytes generalizing rest with
  | case2 tail =>
    cases skipped
    exact Nat.lt_succ_self _
  | case4 a b c d tail _ _ hypothesis =>
    have shorter := hypothesis skipped
    simp only [List.length_cons]
    omega
  | case7 e tail _ _ _ hypothesis =>
    have shorter := hypothesis skipped
    simp only [List.length_cons]
    omega
  | case10 b tail _ _ _ hypothesis => exact Nat.lt_succ_of_lt (hypothesis skipped)
  | _ => cases skipped

theorem length_scanIdent {expected bytes rest : Bytes}
    (scanned : scanIdent expected bytes = .ok rest) : rest.length ≤ bytes.length := by
  induction expected generalizing bytes with
  | nil =>
    cases scanned
    exact Nat.le_refl _
  | cons e expected hypothesis =>
    cases bytes with
    | nil => cases scanned
    | cons b bytes =>
      rw [scanIdent] at scanned
      split at scanned
      · exact Nat.le_succ_of_le (hypothesis scanned)
      · cases scanned

end JsonRpc.Json
