namespace JsonRpc.Text

def isBlank (c : Char) : Bool :=
  let n := c.toNat
  (9 ≤ n && n ≤ 13) || n == 32 || n == 0x85 || n == 0xa0 || n == 0x1680
    || (0x2000 ≤ n && n ≤ 0x200a) || n == 0x2028 || n == 0x2029 || n == 0x202f || n == 0x205f
    || n == 0x3000

def trimLeft (cs : List Char) : List Char := cs.dropWhile isBlank

def trim (cs : List Char) : List Char := (trimLeft (trimLeft cs).reverse).reverse

theorem trimLeft_blanks {blanks : List Char} (blank : ∀ c ∈ blanks, isBlank c = true)
    (cs : List Char) : trimLeft (blanks ++ cs) = trimLeft cs :=
  List.dropWhile_append_of_pos blank

theorem trimLeft_visible {cs : List Char} (visible : ∀ c ∈ cs, isBlank c = false)
    (some_chars : cs ≠ []) (rest : List Char) : trimLeft (cs ++ rest) = cs ++ rest := by
  cases cs with
  | nil => exact absurd rfl some_chars
  | cons c cs => simp [trimLeft, visible c List.mem_cons_self]

theorem trim_surrounded {before cs after : List Char} (visible : ∀ c ∈ cs, isBlank c = false)
    (leading : ∀ c ∈ before, isBlank c = true) (trailing : ∀ c ∈ after, isBlank c = true) :
    trim (before ++ cs ++ after) = cs := by
  have backwards : ∀ c ∈ after.reverse, isBlank c = true := by simpa using trailing
  rw [trim, List.append_assoc, trimLeft_blanks leading]
  by_cases empty : cs = []
  · have nothing : trimLeft after = [] := by simpa [trimLeft] using trimLeft_blanks trailing []
    rw [empty, List.nil_append, nothing]
    rfl
  · have turned : ∀ c ∈ cs.reverse, isBlank c = false := by simpa using visible
    have finish := trimLeft_visible turned (by simpa using empty) []
    rw [List.append_nil] at finish
    rw [trimLeft_visible visible empty, List.reverse_append, trimLeft_blanks backwards, finish,
      List.reverse_reverse]

theorem trimLeft_split (cs : List Char) :
    ∃ blanks, cs = blanks ++ trimLeft cs ∧ ∀ c ∈ blanks, isBlank c = true :=
  ⟨cs.takeWhile isBlank, List.takeWhile_append_dropWhile.symm,
    List.all_eq_true.mp List.all_takeWhile⟩

theorem trim_split (cs : List Char) : ∃ before after, cs = before ++ trim cs ++ after ∧
    (∀ c ∈ before, isBlank c = true) ∧ ∀ c ∈ after, isBlank c = true := by
  obtain ⟨before, front, leading⟩ := trimLeft_split cs
  obtain ⟨after, back, trailing⟩ := trimLeft_split (trimLeft cs).reverse
  refine ⟨before, after.reverse, ?_, leading, by simpa using trailing⟩
  have turned := congrArg List.reverse back
  rw [List.reverse_reverse, List.reverse_append] at turned
  rw [trim, List.append_assoc, ← turned, ← front]

theorem visible_of_trimLeft {cs : List Char} {c : Char} (first : (trimLeft cs).head? = some c) :
    isBlank c = false := by
  have stops := List.head?_dropWhile_not isBlank cs
  rw [← trimLeft, first] at stops
  exact stops

theorem visible_of_trim {cs : List Char} {c : Char}
    (outer : (trim cs).head? = some c ∨ (trim cs).getLast? = some c) : isBlank c = false := by
  rcases outer with first | last
  · obtain ⟨after, back, -⟩ := trimLeft_split (trimLeft cs).reverse
    have turned := congrArg List.reverse back
    rw [List.reverse_reverse, List.reverse_append, ← trim] at turned
    refine visible_of_trimLeft (show (trimLeft cs).head? = some c from ?_)
    rw [turned, List.head?_append, first, Option.some_or]
  · rw [trim, List.getLast?_reverse] at last
    exact visible_of_trimLeft last

end JsonRpc.Text
