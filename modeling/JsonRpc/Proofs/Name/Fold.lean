import JsonRpc.Proofs.Name.Address

namespace JsonRpc

namespace Text

/-- A character that folding leaves as it is, and in its word. -/
structure Settled (c : Char) : Prop where
  alphanumeric : isAlphanumeric c = true
  low : isUpper c = false
  fixed : lowerCase c = [c]

instance (c : Char) : Decidable (Settled c) :=
  decidable_of_iff (isAlphanumeric c = true ∧ isUpper c = false ∧ lowerCase c = [c])
    ⟨fun ⟨alphanumeric, low, fixed⟩ => ⟨alphanumeric, low, fixed⟩,
      fun settled => ⟨settled.alphanumeric, settled.low, settled.fixed⟩⟩

/-- A character that is lower-cased to settled ones, where it is part of a word at all. -/
def Settles (c : Char) : Prop := isAlphanumeric c = true → ∀ d ∈ lowerCase c, Settled d

instance (c : Char) : Decidable (Settles c) :=
  decidable_of_iff (isAlphanumeric c = true → (lowerCase c).all fun d => decide (Settled d))
    (by simp [Settles])

theorem settles_of_ascii {c : Char} (ascii : c.toNat < 0x80) : Settles c := by
  have checked : ∀ n < 0x80, Settles (Char.ofNat n) := by decide +kernel
  simpa using checked c.toNat ascii

-- it leaves a dot above behind, which is no part of a word
example : ¬ Settles 'İ' := by decide +kernel

theorem settled_final_sigma : Settled 'ς' := by decide +kernel

theorem lowerCase_ne_nil (c : Char) : lowerCase c ≠ [] := by
  unfold lowerCase
  repeat' split
  all_goals simp

theorem lowerWord_ne_nil {word : List Char} (filled : word ≠ []) : lowerWord word ≠ [] := by
  cases word with
  | nil => contradiction
  | cons c rest =>
    cases rest with
    | nil =>
      rw [lowerWord]
      split
      · simp
      · exact lowerCase_ne_nil c
    | cons d rest =>
      rw [lowerWord, Ne, List.append_eq_nil_iff]
      exact fun empty => lowerCase_ne_nil c empty.1
      simp

theorem settled_of_mem_lowerWord {word : List Char}
    (settles : ∀ c ∈ word, ∀ d ∈ lowerCase c, Settled d) : ∀ d ∈ lowerWord word, Settled d := by
  induction word with
  | nil => simp [lowerWord]
  | cons c rest hypothesis =>
    rw [List.forall_mem_cons] at settles
    cases rest with
    | nil =>
      rw [lowerWord]
      split
      · simpa using settled_final_sigma
      · exact settles.1
    | cons e rest =>
      intro d member
      rw [lowerWord, List.mem_append] at member
      rcases member with first | later
      · exact settles.1 d first
      · exact hypothesis settles.2 d later
      · simp

theorem Settled.ne_sigma {c : Char} (settled : Settled c) : c ≠ 'Σ' := by
  rintro rfl
  exact absurd settled (by decide +kernel)

theorem lowerWord_of_settled {word : List Char} (settled : ∀ c ∈ word, Settled c) :
    lowerWord word = word := by
  induction word with
  | nil => rfl
  | cons c rest hypothesis =>
    rw [List.forall_mem_cons] at settled
    cases rest with
    | nil => rw [lowerWord, if_neg settled.1.ne_sigma, settled.1.fixed]
    | cons d rest =>
      rw [lowerWord, settled.1.fixed, hypothesis settled.2]
      · rfl
      · simp

end Text

namespace Name

open Text

theorem pieces_append_cons {stretch : List Char} (inside : ∀ c ∈ stretch, isAlphanumeric c = true)
    {stop : Char} (outside : isAlphanumeric stop = false) (rest : List Char) :
    pieces (stretch ++ stop :: rest) = stretch :: pieces rest := by
  induction stretch with
  | nil => simp [pieces, outside]
  | cons c stretch hypothesis =>
    rw [List.forall_mem_cons] at inside
    simp [pieces, inside.1, hypothesis inside.2]

theorem pieces_of_alphanumeric {stretch : List Char}
    (inside : ∀ c ∈ stretch, isAlphanumeric c = true) : pieces stretch = [stretch] := by
  induction stretch with
  | nil => rfl
  | cons c stretch hypothesis =>
    rw [List.forall_mem_cons] at inside
    simp [pieces, inside.1, hypothesis inside.2]

theorem alphanumeric_of_mem_pieces (name : List Char) :
    ∀ piece ∈ pieces name, ∀ c ∈ piece, isAlphanumeric c = true ∧ c ∈ name := by
  fun_induction pieces name <;> grind

-- Only letters that have been read make the mode `upper`.
theorem ne_nil_of_mem_wordsFrom (mode : Mode) (word cs : List Char)
    (read : mode = .upper → word ≠ []) : ∀ w ∈ wordsFrom mode word cs, w ≠ [] := by
  fun_induction wordsFrom mode word cs with
  | case1 | case2 => simp
  | case3 mode word c next rest _ hypothesis =>
    rw [List.forall_mem_cons]
    exact ⟨by simp, hypothesis (by simp)⟩
  | case4 mode word c next rest _ capital hypothesis =>
    rw [List.forall_mem_cons]
    exact ⟨by simpa using read capital.1, hypothesis (by simp)⟩
  | case5 mode word c next rest _ _ hypothesis => exact hypothesis (by simp)

theorem wordsFrom_of_low (mode : Mode) (word cs : List Char) (filled : cs ≠ [])
    (low : ∀ c ∈ cs, isUpper c = false) :
    wordsFrom mode word cs = [word.reverse ++ cs] := by
  fun_induction wordsFrom mode word cs with
  | case1 => contradiction
  | case2 => simp
  | case3 | case4 => grind
  | case5 mode word c next rest _ _ hypothesis =>
    rw [hypothesis (by simp) (fun d member => low d (List.mem_cons_of_mem c member))]
    simp

theorem mem_words {name word : List Char} (member : word ∈ words name) :
    word ≠ [] ∧ ∀ c ∈ word, isAlphanumeric c = true ∧ c ∈ name := by
  obtain ⟨piece, cut, inside⟩ := List.mem_flatMap.mp member
  refine ⟨ne_nil_of_mem_wordsFrom .boundary [] piece (by simp) word inside, fun c within => ?_⟩
  rcases mem_of_mem_wordsFrom .boundary [] piece word inside within with early | late
  · cases early
  · exact alphanumeric_of_mem_pieces name piece cut c late

theorem words_join {folded : List (List Char)} (filled : ∀ word ∈ folded, word ≠ [])
    (settled : ∀ word ∈ folded, ∀ c ∈ word, Settled c) :
    words (folded.intersperse ['_']).flatten = folded := by
  induction folded with
  | nil => rfl
  | cons word rest hypothesis =>
    rw [List.forall_mem_cons] at filled settled
    have inside := fun c member => (settled.1 c member).alphanumeric
    have whole : wordsFrom .boundary [] word = [word] :=
      wordsFrom_of_low .boundary [] word filled.1 fun c member => (settled.1 c member).low
    cases rest with
    | nil => simp [words, pieces_of_alphanumeric inside, whole]
    | cons next rest =>
      have remaining := hypothesis filled.2 settled.2
      rw [words] at remaining
      rw [List.intersperse_cons_cons, List.flatten_cons, List.flatten_cons, List.singleton_append,
        words, pieces_append_cons inside (by decide), List.flatMap_cons, whole, remaining]
      rfl

theorem snake_snake {name : List Char} (settles : ∀ c ∈ name, Settles c) :
    snake (snake name) = snake name := by
  have settled : ∀ word ∈ (words name).map lowerWord, ∀ c ∈ word, Settled c := by
    intro lowered member
    obtain ⟨word, cut, rfl⟩ := List.mem_map.mp member
    refine settled_of_mem_lowerWord fun c inside => ?_
    obtain ⟨alphanumeric, there⟩ := (mem_words cut).2 c inside
    exact settles c there alphanumeric
  have filled : ∀ word ∈ (words name).map lowerWord, word ≠ [] := by
    intro lowered member
    obtain ⟨word, cut, rfl⟩ := List.mem_map.mp member
    exact lowerWord_ne_nil (mem_words cut).1
  have kept : ((words name).map lowerWord).map lowerWord = (words name).map lowerWord := by
    rw [List.map_congr_left fun word member => lowerWord_of_settled (settled word member),
      List.map_id']
  calc snake (snake name)
      = (((words (snake name)).map lowerWord).intersperse ['_']).flatten := rfl
    _ = ((((words name).map lowerWord).map lowerWord).intersperse ['_']).flatten := by
        rw [snake, words_join filled settled]
    _ = snake name := by rw [kept, snake]

end Name

/-- Folding a name twice folds it once, if its letters keep their places in lower case. -/
theorem NameStyle.apply_apply (style : NameStyle) {name : String}
    (settles : style = .snake → ∀ c ∈ name.toList, Text.Settles c) :
    style.apply (style.apply name) = style.apply name := by
  cases style with
  | snake => simp only [apply, String.toList_ofList, Name.snake_snake (settles rfl)]
  | verbatim => rfl

theorem NameStyle.apply_apply_of_ascii (style : NameStyle) {name : String}
    (ascii : ∀ c ∈ name.toList, c.toNat < 0x80) :
    style.apply (style.apply name) = style.apply name :=
  style.apply_apply fun _ c member => Text.settles_of_ascii (ascii c member)

end JsonRpc
