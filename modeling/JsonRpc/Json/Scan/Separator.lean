import JsonRpc.Json.Scan

namespace JsonRpc.Json

/-- Moves to the next element of a list: the bytes it starts with, or nothing before the closing
bracket. -/
def nextItem (first : Bool) (bytes : Bytes) : Except Failure (Option Bytes) :=
  match skipBlanks bytes with
  | [] => refuse .endOfList []
  | b :: rest =>
    if b = ascii ']' then .ok none
    else if first then .ok (some (b :: rest))
    else if b = ascii ',' then
      match skipBlanks rest with
      | [] => refuse .endOfValue []
      | c :: rest => if c = ascii ']' then refuse .trailingComma rest else .ok (some (c :: rest))
    else refuse .expectedCommaOrBracket rest

def nextKey (first : Bool) (bytes : Bytes) : Except Failure (Option Bytes) :=
  match skipBlanks bytes with
  | [] => refuse .endOfObject []
  | b :: rest =>
    if b = ascii '\x7d' then .ok none
    else if first then
      if b = ascii '"' then .ok (some rest) else refuse .keyNotString rest
    else if b = ascii ',' then
      match skipBlanks rest with
      | [] => refuse .endOfValue []
      | c :: rest =>
        if c = ascii '"' then .ok (some rest)
        else if c = ascii '\x7d' then refuse .trailingComma rest
        else refuse .keyNotString rest
    else refuse .expectedCommaOrBrace rest

def scanColon (bytes : Bytes) : Except Failure Bytes :=
  match skipBlanks bytes with
  | [] => refuse .endOfObject []
  | b :: rest => if b = ascii ':' then .ok rest else refuse .expectedColon rest

def closeList (bytes : Bytes) : Except Failure Bytes :=
  match skipBlanks bytes with
  | [] => refuse .endOfList []
  | b :: rest =>
    if b = ascii ']' then .ok rest
    else if b = ascii ',' then
      match skipBlanks rest with
      | [] => refuse .trailingCharacters []
      | c :: rest =>
        if c = ascii ']' then refuse .trailingComma rest else refuse .trailingCharacters rest
    else refuse .trailingCharacters rest

def afterList (bytes : Bytes) : Bytes :=
  match skipBlanks bytes with
  | [] => []
  | b :: rest =>
    if b = ascii ']' then rest else if b = ascii ',' then skipBlanks rest else b :: rest

def closeObject (bytes : Bytes) : Except Failure Bytes :=
  match skipBlanks bytes with
  | [] => refuse .endOfObject []
  | b :: rest =>
    if b = ascii '\x7d' then .ok rest
    else if b = ascii ',' then refuse .trailingComma rest
    else refuse .trailingCharacters rest

def afterObject (bytes : Bytes) : Bytes :=
  match skipBlanks bytes with
  | [] => []
  | b :: rest => if b = ascii '\x7d' then rest else b :: rest

/-- The inside of a list or object with the end it needs. The place of an unsettled failure is
where the search for the end stops. -/
def enclosed {α : Type} (close : Bytes → Except Failure Bytes) (after : Bytes → Bytes)
    (inside : Except Failure (α × Bytes)) : Except Failure (α × Bytes) :=
  match inside with
  | .ok (a, rest) => do
    let rest ← close rest
    .ok (a, rest)
  | .error f => .error (if f.settled then f else { f with rest := after f.rest, settled := true })

end JsonRpc.Json
