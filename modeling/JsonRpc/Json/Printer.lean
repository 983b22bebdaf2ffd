import JsonRpc.Json.Basic
import JsonRpc.Binary64.Shortest
import JsonRpc.Text.Utf8
import JsonRpc.Text.Quoted

namespace JsonRpc

def Number.write : Number → List Char
  | .whole w => signedDecimal w.val
  | .real x => if x.isFinite then x.write else ['n', 'u', 'l', 'l']

namespace Json

def shortEscape? (c : Char) : Option Char :=
  if c = '"' then some '"'
  else if c = '\\' then some '\\'
  else if c = '\x08' then some 'b'
  else if c = '\t' then some 't'
  else if c = '\n' then some 'n'
  else if c = '\x0c' then some 'f'
  else if c = '\r' then some 'r'
  else none

def hexDigit (n : Nat) : Char := Nat.digitChar (n % 16)

def writeChar (c : Char) : List Char :=
  match shortEscape? c with
  | some e => ['\\', e]
  | none =>
    if c.toNat < 0x20 then ['\\', 'u', '0', '0', hexDigit (c.toNat / 16), hexDigit c.toNat]
    else [c]

def writeString (s : String) : List Char := '"' :: s.toList.flatMap writeChar ++ ['"']

mutual

def write : Json → List Char
  | .null => ['n', 'u', 'l', 'l']
  | .bool true => ['t', 'r', 'u', 'e']
  | .bool false => ['f', 'a', 'l', 's', 'e']
  | .number n => n.write
  | .string s => writeString s
  | .array items => '[' :: writeItems items ++ [']']
  | .object members => '\x7b' :: writeMembers members ++ ['\x7d']

def writeItems : List Json → List Char
  | [] => []
  | [item] => item.write
  | item :: items => item.write ++ ',' :: writeItems items

def writeMembers : List (String × Json) → List Char
  | [] => []
  | [(key, value)] => writeString key ++ ':' :: value.write
  | (key, value) :: members =>
    writeString key ++ ':' :: value.write ++ ',' :: writeMembers members

end

def text (value : Json) : String := String.ofList value.write

def bytes (value : Json) : Bytes := Utf8.encodeChars value.write

mutual

def describe : Json → String
  | .null => "Null"
  | .bool b => s!"Bool({b})"
  | .number n => "Number(" ++ String.ofList n.write ++ ")"
  | .string s => "String(" ++ Text.quoted s ++ ")"
  | .array items => "Array [" ++ ", ".intercalate (describeItems items) ++ "]"
  | .object members => "Object \x7b" ++ ", ".intercalate (describeMembers members) ++ "\x7d"

def describeItems : List Json → List String
  | [] => []
  | item :: items => item.describe :: describeItems items

def describeMembers : List (String × Json) → List String
  | [] => []
  | (key, value) :: members =>
    (Text.quoted key ++ ": " ++ value.describe) :: describeMembers members

end

end Json

end JsonRpc
