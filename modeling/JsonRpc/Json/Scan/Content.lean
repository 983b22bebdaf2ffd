import JsonRpc.Json.Scan

namespace JsonRpc.Json

def hexQuad? (a b c d : UInt8) : Option Nat := do
  let a ← hexValue? a
  let b ← hexValue? b
  let c ← hexValue? c
  let d ← hexValue? d
  some (((a * 16 + b) * 16 + c) * 16 + d)

def shortEscaped? (b : UInt8) : Option UInt8 :=
  if b = ascii '"' then some (ascii '"')
  else if b = ascii '\\' then some (ascii '\\')
  else if b = ascii '/' then some (ascii '/')
  else if b = ascii 'b' then some 0x08
  else if b = ascii 'f' then some 0x0c
  else if b = ascii 'n' then some 0x0a
  else if b = ascii 'r' then some 0x0d
  else if b = ascii 't' then some 0x09
  else none

def isHighSurrogate (n : Nat) : Bool := 0xd800 ≤ n && n ≤ 0xdbff

def isLowSurrogate (n : Nat) : Bool := 0xdc00 ≤ n && n ≤ 0xdfff

def pairPoint (high low : Nat) : Nat := 0x10000 + (high - 0xd800) * 0x400 + (low - 0xdc00)

def scanContent : Bytes → Except Failure (Bytes × Bytes)
  | [] => refuse .endOfString []
  | b :: rest =>
    if b = ascii '"' then .ok ([], rest)
    else if b = ascii '\\' then
      match rest with
      | [] => refuse .endOfString []
      | e :: rest =>
        if e = ascii 'u' then
          match rest with
          | a :: b :: c :: d :: rest =>
            match hexQuad? a b c d with
            | none => refuse .invalidEscape rest
            | some n =>
              if isLowSurrogate n then refuse .loneSurrogate rest
              else if isHighSurrogate n then
                match rest with
                | [] => refuse .endOfString []
                | x :: rest =>
                  if x ≠ ascii '\\' then refuse .halfSurrogatePair rest else
                  match rest with
                  | [] => refuse .endOfString []
                  | y :: rest =>
                    if y ≠ ascii 'u' then refuse .halfSurrogatePair rest else
                    match rest with
                    | a :: b :: c :: d :: rest =>
                      match hexQuad? a b c d with
                      | none => refuse .invalidEscape rest
                      | some m =>
                        if !isLowSurrogate m then refuse .loneSurrogate rest
                        else do
                          let (content, rest) ← scanContent rest
                          .ok (Utf8.encodePoint (pairPoint n m) ++ content, rest)
                    | _ => refuse .endOfString []
              else do
                let (content, rest) ← scanContent rest
                .ok (Utf8.encodePoint n ++ content, rest)
          | _ => refuse .endOfString []
        else match shortEscaped? e with
          | none => refuse .invalidEscape rest
          | some c => do
            let (content, rest) ← scanContent rest
            .ok (c :: content, rest)
    else if b < 0x20 then refuse .controlCharacter rest
    else do
      let (content, rest) ← scanContent rest
      .ok (b :: content, rest)

def scanString (bytes : Bytes) : Except Failure (String × Bytes) := do
  let (content, rest) ← scanContent bytes
  match Utf8.decode content with
  | .ok cs => .ok (String.ofList cs, rest)
  | .error defect =>
    .error { refusal := .invalidCodePoint, rest, back := content.length - defect.index,
             settled := true }

end JsonRpc.Json
