import JsonRpc.Json.Scan.Number
import JsonRpc.Json.Scan.Content
import JsonRpc.Json.Scan.Separator

namespace JsonRpc.Json

/-- The elements of a list after its opening bracket, each read by `item`. The first argument bounds
their number: every element takes a byte, so one cell more than there are bytes never runs out. -/
def readItems {α : Type} (item : Reader α) :
    Bytes → Bool → Bytes → Except Failure (List α × Bytes)
  | [], _, bytes => .ok ([], bytes)
  | _ :: spare, first, bytes => do
    match ← nextItem first bytes with
    | none => .ok ([], bytes)
    | some start =>
      let (a, rest) ← item start
      let (more, rest) ← readItems item spare false rest
      .ok (a :: more, rest)

/-- The members of an object after its opening brace, each value read by `value`; the first argument
bounds their number. -/
def readMembers {α : Type} (value : Reader α) :
    Bytes → Bool → Bytes → Except Failure (List (String × α) × Bytes)
  | [], _, bytes => .ok ([], bytes)
  | _ :: spare, first, bytes => do
    match ← nextKey first bytes with
    | none => .ok ([], bytes)
    | some start =>
      let (key, rest) ← scanString start
      let rest ← scanColon rest
      let (a, rest) ← value rest
      let (more, rest) ← readMembers value spare false rest
      .ok ((key, a) :: more, rest)

def readList {α : Type} (item : Reader α) (bytes : Bytes) :
    Except Failure (List α × Bytes) :=
  enclosed closeList afterList (readItems item (0 :: bytes) true bytes)

def readObject {α : Type} (value : Reader α) (bytes : Bytes) :
    Except Failure (List (String × α) × Bytes) :=
  enclosed closeObject afterObject (readMembers value (0 :: bytes) true bytes)

def readValue : Nat → Bytes → Except Failure (Json × Bytes)
  | levels, bytes =>
    match skipBlanks bytes with
    | [] => refuse .endOfValue []
    | b :: rest =>
      if b = ascii 'n' then do
        let rest ← scanIdent (asciiBytes "ull") rest
        .ok (.null, rest)
      else if b = ascii 't' then do
        let rest ← scanIdent (asciiBytes "rue") rest
        .ok (.bool true, rest)
      else if b = ascii 'f' then do
        let rest ← scanIdent (asciiBytes "alse") rest
        .ok (.bool false, rest)
      else if b = ascii '-' then do
        let (n, rest) ← scanNumber true rest
        .ok (.number n, rest)
      else if isDigit b then do
        let (n, rest) ← scanNumber false (b :: rest)
        .ok (.number n, rest)
      else if b = ascii '"' then do
        let (s, rest) ← scanString rest
        .ok (.string s, rest)
      else if b = ascii '[' then
        match levels with
        | 0 => refuse .nestedTooDeep rest
        | levels + 1 => do
          let (items, rest) ← readList (readValue levels) rest
          .ok (.array items, rest)
      else if b = ascii '\x7b' then
        match levels with
        | 0 => refuse .nestedTooDeep rest
        | levels + 1 => do
          let (members, rest) ← readObject (readValue levels) rest
          .ok (ofMembers members, rest)
      else refuse .expectedValue rest

def maxLevels : Nat := 127

def readWhole {α : Type} (read : Reader α) (text : Bytes) : Except Error α :=
  match read text with
  | .error f => .error (f.error text)
  | .ok (a, rest) =>
    match skipBlanks rest with
    | [] => .ok a
    | _ :: rest =>
      .error (Failure.error text ⟨.trailingCharacters, rest, 0, true⟩)

def parse (text : Bytes) : Except Error Json := readWhole (readValue maxLevels) text

end JsonRpc.Json
