import JsonRpc.Json.Basic

namespace JsonRpc

structure Store where
  entries : List (String × Json) := []
deriving DecidableEq, Inhabited

namespace Store

def get? (store : Store) (key : String) : Option Json :=
  (store.entries.find? (·.1 == key)).map (·.2)

def erase (store : Store) (key : String) : Store :=
  { entries := store.entries.filter (·.1 != key) }

def insert (store : Store) (key : String) (value : Json) : Store :=
  { entries := (key, value) :: (store.erase key).entries }

def contains (store : Store) (key : String) : Bool := (store.get? key).isSome

def size (store : Store) : Nat := store.entries.length

def int? (store : Store) (key : String) : Option Int64 :=
  ((store.get? key).bind Json.toInt64?).map Int64.ofInt

theorem get?_insert_self (store : Store) (key : String) (value : Json) :
    (store.insert key value).get? key = some value := by
  simp [insert, get?]

theorem get?_insert_ne {store : Store} {key other : String} (different : other ≠ key)
    (value : Json) : (store.insert key value).get? other = store.get? other := by
  have skip : (key == other) = false := by simpa using fun same => different same.symm
  have kept : ∀ entries : List (String × Json),
      (entries.filter (·.1 != key)).find? (·.1 == other) = entries.find? (·.1 == other) := by
    intro entries
    induction entries with
    | nil => rfl
    | cons entry entries hypothesis =>
      by_cases same : entry.1 = key
      · have passed : (entry.1 == other) = false := by simpa [same] using skip
        simp [same, hypothesis, skip]
      · by_cases found : entry.1 = other
        · simp [found, different]
        · simp [same, found, hypothesis]
  simp [insert, get?, erase, skip, kept]

end Store

def Json.ofInt64 (n : Int64) : Json :=
  Json.ofWord ⟨n.toInt, by have := n.le_toInt; omega, by have := n.toInt_lt; omega⟩

end JsonRpc
