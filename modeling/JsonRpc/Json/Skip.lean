import JsonRpc.Json.Scan.Content
import JsonRpc.Json.Scan.Number

namespace JsonRpc.Json

def skipExponent (bytes : Bytes) : Except Failure Bytes :=
  match (scanSign bytes).2 with
  | [] => refuse .invalidNumber []
  | b :: rest =>
    if isDigit b then .ok (rest.dropWhile isDigit) else refuse .invalidNumber rest

def skipScale : Bytes → Except Failure Bytes
  | [] => .ok []
  | b :: rest => if isExponentMark b then skipExponent rest else .ok (b :: rest)

def skipFraction (bytes : Bytes) : Except Failure Bytes :=
  if startsWithDigit bytes then skipScale (bytes.dropWhile isDigit)
  else refuse .invalidNumber bytes.tail

def skipTail : Bytes → Except Failure Bytes
  | [] => .ok []
  | b :: rest => if b = ascii '.' then skipFraction rest else skipScale (b :: rest)

def skipNumber : Bytes → Except Failure Bytes
  | [] => refuse .invalidNumber []
  | b :: rest =>
    if b = ascii '0' then
      if startsWithDigit rest then refuse .invalidNumber rest.tail else skipTail rest
    else if isDigit b then skipTail (rest.dropWhile isDigit)
    else refuse .invalidNumber rest

def skipString : Bytes → Except Failure Bytes
  | [] => refuse .endOfString []
  | b :: rest =>
    if b = ascii '"' then .ok rest
    else if b = ascii '\\' then
      match rest with
      | [] => refuse .endOfString []
      | e :: rest =>
        if e = ascii 'u' then
          match rest with
          | a :: b :: c :: d :: rest =>
            if (hexQuad? a b c d).isSome then skipString rest else refuse .invalidEscape rest
          | _ => refuse .endOfString []
        else if (shortEscaped? e).isSome then skipString rest
        else refuse .invalidEscape rest
    else if b < 0x20 then refuse .controlCharacter (b :: rest)
    else skipString rest

/-- A skipped value, given how to skip the elements of a list and the members of an object. -/
def skipValue (items members : Bytes → Except Failure Bytes) (bytes : Bytes) :
    Except Failure Bytes :=
  match skipBlanks bytes with
  | [] => refuse .endOfValue []
  | b :: rest =>
    if b = ascii 'n' then scanIdent (asciiBytes "ull") rest
    else if b = ascii 't' then scanIdent (asciiBytes "rue") rest
    else if b = ascii 'f' then scanIdent (asciiBytes "alse") rest
    else if b = ascii '-' then skipNumber rest
    else if isDigit b then skipNumber (b :: rest)
    else if b = ascii '"' then skipString rest
    else if b = ascii '[' then
      match skipBlanks rest with
      | [] => refuse .endOfList []
      | c :: after => if c = ascii ']' then .ok after else items rest
    else if b = ascii '\x7b' then
      match skipBlanks rest with
      | [] => refuse .endOfObject []
      | c :: after => if c = ascii '\x7d' then .ok after else members rest
    else refuse .expectedValue rest

mutual

/-- The elements of a skipped list, of which there is at least one more. The first argument bounds
the parts: a byte stands between any two, so one cell more than there are bytes never runs out. -/
def skipItems : Bytes → Bytes → Except Failure Bytes
  | [], bytes => .ok bytes
  | _ :: spare, bytes => do
    let rest ← skipValue (skipItems spare) (skipMembers spare) bytes
    match skipBlanks rest with
    | [] => refuse .endOfList []
    | b :: rest =>
      if b = ascii ',' then skipItems spare rest
      else if b = ascii ']' then .ok rest
      else refuse .expectedCommaOrBracket rest

def skipMembers : Bytes → Bytes → Except Failure Bytes
  | [], bytes => .ok bytes
  | _ :: spare, bytes =>
    match skipBlanks bytes with
    | [] => refuse .endOfObject []
    | b :: rest => do
      if b ≠ ascii '"' then refuse .keyNotString rest else
      let rest ← skipString rest
      match skipBlanks rest with
      | [] => refuse .endOfObject []
      | c :: rest =>
        if c ≠ ascii ':' then refuse .expectedColon rest else
        let rest ← skipValue (skipItems spare) (skipMembers spare) rest
        match skipBlanks rest with
        | [] => refuse .endOfObject []
        | d :: rest =>
          if d = ascii ',' then skipMembers spare rest
          else if d = ascii '\x7d' then .ok rest
          else refuse .expectedCommaOrBrace rest

end

def skip (bytes : Bytes) : Except Failure Bytes :=
  skipValue (skipItems bytes) (skipMembers bytes) bytes

end JsonRpc.Json
