import JsonRpc.Json.Reader
import JsonRpc.Json.Skip

namespace JsonRpc.Json

structure Codec (α : Type) where
  /-- Reads an item from a text in which lists and objects may lie so many levels deep. -/
  read : Nat → Reader α
  decode : Json → Except Refusal α

namespace Codec

variable {α β : Type}

def map (f : α → β) (c : Codec α) : Codec β where
  read levels bytes := (c.read levels bytes).map fun (a, rest) => (f a, rest)
  decode value := (c.decode value).map f

/-- Items that a further rule may refuse. The place of such a refusal is told by the record around
the item. -/
def refine (f : α → Except Refusal β) (c : Codec α) : Codec β where
  read levels bytes := do
    let (a, rest) ← c.read levels bytes
    match f a with
    | .ok b => .ok (b, rest)
    | .error refusal => refuseInside refusal rest
  decode value := do
    let a ← c.decode value
    f a

def value : Codec Json where
  read := readValue
  decode := .ok

def readFound (bytes : Bytes) : Except Failure (Found × Bytes) :=
  match skipBlanks bytes with
  | [] => refuse .endOfValue []
  | b :: rest =>
    if b = ascii '[' then .ok (.sequence, b :: rest)
    else if b = ascii '\x7b' then .ok (.map, b :: rest)
    else (readValue 0 (b :: rest)).map fun (value, rest) => (value.found, rest)

def scalar (accept : Found → Except Refusal α) : Codec α where
  read _ bytes :=
    match readFound bytes with
    | .error f => .error f
    | .ok (found, rest) =>
      match accept found with
      | .ok a => .ok (a, rest)
      | .error refusal => refuse refusal rest
  decode value := accept value.found

def unit : Codec Unit :=
  scalar fun
    | .null => .ok ()
    | found => .error (.wrongType found "unit")

def bool : Codec Bool :=
  scalar fun
    | .bool b => .ok b
    | found => .error (.wrongType found "a boolean")

def string : Codec String :=
  scalar fun
    | .string s => .ok s
    | found => .error (.wrongType found "a string")

def int (low high : Int) (name : String) : Codec Int :=
  scalar fun
    | .number (.whole w) =>
      if low ≤ w.val ∧ w.val ≤ high then .ok w.val else .error (.outOfRange w.val name)
    | found => .error (.wrongType found name)

def int32 : Codec Int := int (-0x80000000) 0x7fffffff "i32"

def int64 : Codec Int := int (-0x8000000000000000) 0x7fffffffffffffff "i64"

def byte : Codec Int := int 0 255 "u8"

def nat32 : Codec Int := int 0 0xffffffff "u32"

def nat64 : Codec Int := int 0 0xffffffffffffffff "u64"

def real : Codec Binary64 :=
  scalar fun
    | .number (.real x) => .ok x
    | .number (.whole w) =>
      let magnitude := Binary64.nearest w.val.natAbs
      .ok (.ofFloat (if w.val < 0 then -magnitude else magnitude))
    | found => .error (.wrongType found "f64")

def option (c : Codec α) : Codec (Option α) where
  read levels bytes :=
    match skipBlanks bytes with
    | [] => refuse .endOfValue []
    | b :: rest =>
      if b = ascii 'n' then (scanIdent (asciiBytes "ull") rest).map (none, ·)
      else (c.read levels (b :: rest)).map fun (a, rest) => (some a, rest)
  decode
    | .null => .ok none
    | value => (c.decode value).map some

def refuseFound (expected : String) (bytes : Bytes) : Except Failure α :=
  match readFound bytes with
  | .error f => .error f
  | .ok (found, rest) => refuse (.wrongType found expected) rest

def insideList (expected : String) (levels : Nat) (bytes : Bytes)
    (inside : Nat → Reader α) : Except Failure (α × Bytes) :=
  match skipBlanks bytes with
  | [] => refuse .endOfValue []
  | b :: rest =>
    if b = ascii '[' then
      match levels with
      | 0 => refuse .nestedTooDeep rest
      | levels + 1 => enclosed closeList afterList (inside levels rest)
    else refuseFound expected (b :: rest)

def decodeItems (c : Codec α) : List Json → Except Refusal (List α)
  | [] => .ok []
  | item :: items => do
    let a ← c.decode item
    let more ← decodeItems c items
    .ok (a :: more)

def list (c : Codec α) : Codec (List α) where
  read levels bytes := insideList "a sequence" levels bytes fun levels rest =>
    readItems (c.read levels) (0 :: rest) true rest
  decode
    | .array items => decodeItems c items
    | value => .error (.wrongType value.found "a sequence")

def pair (c : Codec α) (d : Codec β) : Codec (α × β) where
  read levels bytes := insideList "a tuple of size 2" levels bytes fun levels rest => do
    match ← nextItem true rest with
    | none => refuseInside (.wrongLength 0 "a tuple of size 2") rest
    | some start =>
      let (a, rest) ← c.read levels start
      match ← nextItem false rest with
      | none => refuseInside (.wrongLength 1 "a tuple of size 2") rest
      | some start =>
        let (b, rest) ← d.read levels start
        .ok ((a, b), rest)
  decode
    | .array items =>
      match items with
      | [] => .error (.wrongLength 0 "a tuple of size 2")
      | first :: rest => do
        let a ← c.decode first
        match rest with
        | [] => .error (.wrongLength 1 "a tuple of size 2")
        | second :: rest =>
          let b ← d.decode second
          if rest = [] then .ok (a, b)
          else .error (.wrongLength (rest.length + 2) "fewer elements in array")
    | value => .error (.wrongType value.found "a tuple of size 2")

end Codec

/-- A field of a record type: its key, whether it may be left out, and how its value changes a
record. -/
structure Field (α : Type) where
  key : String
  required : Bool
  codec : Codec (α → α)

/-- A record type: its name, its fields in order, and the record before any field is known. -/
structure Layout (α : Type) where
  name : String
  fields : List (Field α)
  blank : α

namespace Layout

variable {α : Type}

def sized (l : Layout α) : String := s!"struct {l.name} with {l.fields.length} elements"

def readFields (l : Layout α) (levels : Nat) :
    List (Field α) → Nat → Bool → α → Bytes → Except Failure (α × Bytes)
  | [], _, _, a, bytes => .ok (a, bytes)
  | field :: fields, index, first, a, bytes => do
    match ← nextItem first bytes with
    | none =>
      if field.required then refuseInside (.wrongLength index l.sized) bytes
      else readFields l levels fields (index + 1) first a bytes
    | some start =>
      let (update, rest) ← field.codec.read levels start
      readFields l levels fields (index + 1) false (update a) rest

def missing? (l : Layout α) (seen : List String) : Option String :=
  (l.fields.find? fun field => field.required && !seen.contains field.key).map (·.key)

/-- Reads members from the inside of an object; the first bytes bound their number. Keys that name
no field are passed over. -/
def readKeys (l : Layout α) (levels : Nat) :
    Bytes → Bool → List String → α → Bytes → Except Failure (α × Bytes)
  | [], _, _, a, bytes => .ok (a, bytes)
  | _ :: spare, first, seen, a, bytes => do
    match ← nextKey first bytes with
    | none =>
      match l.missing? seen with
      | some key => refuseInside (.missingField key) bytes
      | none => .ok (a, bytes)
    | some start =>
      let (key, rest) ← scanString start
      match l.fields.find? (·.key == key) with
      | none =>
        let rest ← scanColon rest
        let rest ← skip rest
        readKeys l levels spare false seen a rest
      | some field =>
        if seen.contains key then refuseInside (.duplicateField key) rest else
        let rest ← scanColon rest
        let (update, rest) ← field.codec.read levels rest
        readKeys l levels spare false (key :: seen) (update a) rest

def read (l : Layout α) (levels : Nat) (bytes : Bytes) : Except Failure (α × Bytes) :=
  match skipBlanks bytes with
  | [] => refuse .endOfValue []
  | b :: rest =>
    if b = ascii '[' then
      match levels with
      | 0 => refuse .nestedTooDeep rest
      | levels + 1 =>
        enclosed closeList afterList (l.readFields levels l.fields 0 true l.blank rest)
    else if b = ascii '\x7b' then
      match levels with
      | 0 => refuse .nestedTooDeep rest
      | levels + 1 =>
        enclosed closeObject afterObject
          (l.readKeys levels (0 :: rest) true [] l.blank rest)
    else Codec.refuseFound s!"struct {l.name}" (b :: rest)

/-- Decodes the fields in order from the elements of a list; what is left over comes with it. -/
def decodeFields (l : Layout α) :
    List (Field α) → Nat → α → List Json → Except Refusal (α × List Json)
  | [], _, a, items => .ok (a, items)
  | field :: fields, index, a, [] =>
    if field.required then .error (.wrongLength index l.sized)
    else decodeFields l fields (index + 1) a []
  | field :: fields, index, a, item :: items => do
    let update ← field.codec.decode item
    decodeFields l fields (index + 1) (update a) items

def decodeMembers (l : Layout α) :
    List (String × Json) → List String → α → Except Refusal α
  | [], seen, a =>
    match l.missing? seen with
    | some key => .error (.missingField key)
    | none => .ok a
  | (key, value) :: members, seen, a =>
    match l.fields.find? (·.key == key) with
    | none => decodeMembers l members seen a
    | some field => do
      let update ← field.codec.decode value
      decodeMembers l members (key :: seen) (update a)

def decode (l : Layout α) : Json → Except Refusal α
  | .array items => do
    let (a, rest) ← l.decodeFields l.fields 0 l.blank items
    if rest = [] then .ok a
    else .error (.wrongLength items.length "fewer elements in array")
  | .object members => l.decodeMembers members [] l.blank
  | value => .error (.wrongType value.found s!"struct {l.name}")

def codec (l : Layout α) : Codec α where
  read := l.read
  decode := l.decode

end Layout

def Codec.parse {α : Type} (c : Codec α) (text : Bytes) : Except Error α :=
  readWhole (c.read maxLevels) text

end JsonRpc.Json
