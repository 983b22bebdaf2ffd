import JsonRpc.Text.Utf8

namespace JsonRpc.Http

def lowerAscii (c : Char) : Char :=
  if 65 ≤ c.toNat ∧ c.toNat ≤ 90 then Char.ofNat (c.toNat + 32) else c

def fieldName (name : String) : String := String.ofList (name.toList.map lowerAscii)

abbrev Headers := List (String × Bytes)

namespace Headers

def append (headers : Headers) (name : String) (value : Bytes) : Headers :=
  headers ++ [(fieldName name, value)]

def insert (headers : Headers) (name : String) (value : Bytes) : Headers :=
  headers.filter (·.1 != fieldName name) ++ [(fieldName name, value)]

def values (headers : Headers) (name : String) : List Bytes :=
  (headers.filter (·.1 == fieldName name)).map (·.2)

def get? (headers : Headers) (name : String) : Option Bytes := (headers.values name).head?

def contains (headers : Headers) (name : String) : Bool := (headers.get? name).isSome

theorem values_insert_self (headers : Headers) (name : String) (value : Bytes) :
    (headers.insert name value).values name = [value] := by
  simp only [values, insert, List.filter_append, List.filter_filter]
  simp

end Headers

end JsonRpc.Http
