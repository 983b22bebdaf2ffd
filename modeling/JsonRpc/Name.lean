import JsonRpc.Text.Alphanumeric
import JsonRpc.Text.Case

namespace JsonRpc

inductive NameStyle where
  | snake
  | verbatim
deriving DecidableEq, Repr, Inhabited

namespace Name

def pieces : List Char → List (List Char)
  | [] => [[]]
  | c :: rest =>
    if Text.isAlphanumeric c then
      match pieces rest with
      | piece :: more => (c :: piece) :: more
      | [] => [[c]]
    else [] :: pieces rest

/-- The case of the letters read last: none yet, lower, or upper. -/
inductive Mode where
  | boundary
  | lower
  | upper
deriving DecidableEq

def Mode.after (mode : Mode) (c : Char) : Mode :=
  if Text.isLower c then .lower else if Text.isUpper c then .upper else mode

/-- The words of one stretch. `word` holds the letters of the current word, the last one first. A
word ends before a capital that follows a lower-case letter, and before the last of several
capitals that a lower-case letter follows. -/
def wordsFrom (mode : Mode) (word : List Char) : List Char → List (List Char)
  | [] => []
  | [c] => [(c :: word).reverse]
  | c :: next :: rest =>
    if mode.after c = .lower ∧ Text.isUpper next then
      (c :: word).reverse :: wordsFrom .boundary [] (next :: rest)
    else if mode = .upper ∧ Text.isUpper c ∧ Text.isLower next then
      word.reverse :: wordsFrom .boundary [c] (next :: rest)
    else wordsFrom (mode.after c) (c :: word) (next :: rest)

def words (name : List Char) : List (List Char) :=
  (pieces name).flatMap (wordsFrom .boundary [])

def snake (name : List Char) : List Char :=
  (words name).map Text.lowerWord |>.intersperse ['_'] |>.flatten

end Name

def NameStyle.apply (style : NameStyle) (name : String) : String :=
  match style with
  | .snake => String.ofList (Name.snake name.toList)
  | .verbatim => name

def NameStyle.describe : NameStyle → String
  | .snake => "Snake"
  | .verbatim => "Verbatim"

@[simp] theorem NameStyle.apply_verbatim (name : String) :
    NameStyle.verbatim.apply name = name := rfl

end JsonRpc
