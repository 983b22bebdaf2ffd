import JsonRpc.Script.Journal

namespace JsonRpc.Script

structure Item (α : Type) where
  codec : Json.Codec α
  encode : α → Json
  zero : α

structure Profile where
  name : String := ""
  age : Int := 0
deriving DecidableEq

def Profile.layout : Json.Layout Profile where
  name := "Profile"
  blank := {}
  fields := [
    { key := "name", required := true,
      codec := Json.Codec.string.map fun name profile => { profile with name } },
    { key := "age", required := true,
      codec := Json.Codec.nat32.map fun age profile => { profile with age } }]

structure Operands where
  a : Binary64 := ⟨0⟩
  b : Binary64 := ⟨0⟩
deriving DecidableEq

def Operands.layout : Json.Layout Operands where
  name := "Operands"
  blank := {}
  fields := [
    { key := "a", required := true,
      codec := Json.Codec.real.map fun a operands => { operands with a } },
    { key := "b", required := true,
      codec := Json.Codec.real.map fun b operands => { operands with b } }]

def ofInt (n : Int) : Json := ((Word.ofInt? n).map Json.ofWord).getD .null

namespace Item

variable {α β : Type}

def value : Item Json := { codec := .value, encode := id, zero := .null }

def unit : Item Unit := { codec := .unit, encode := fun _ => .null, zero := () }

def string : Item String := { codec := .string, encode := .string, zero := "" }

def bool : Item Bool := { codec := .bool, encode := .bool, zero := false }

def int64 : Item Int := { codec := .int64, encode := ofInt, zero := 0 }

def byte : Item Int := { codec := .byte, encode := ofInt, zero := 0 }

def nat32 : Item Int := { codec := .nat32, encode := ofInt, zero := 0 }

def nat64 : Item Int := { codec := .nat64, encode := ofInt, zero := 0 }

def real : Item Binary64 := { codec := .real, encode := Json.ofReal, zero := ⟨0⟩ }

def option (item : Item α) : Item (Option α) where
  codec := .option item.codec
  encode a := (a.map item.encode).getD .null
  zero := none

def list (item : Item α) : Item (List α) where
  codec := .list item.codec
  encode as := .array (as.map item.encode)
  zero := []

def pair (first : Item α) (second : Item β) : Item (α × β) where
  codec := .pair first.codec second.codec
  encode p := .array [first.encode p.1, second.encode p.2]
  zero := (first.zero, second.zero)

def profile : Item Profile where
  codec := Profile.layout.codec
  encode p := .object [("name", .string p.name), ("age", ofInt p.age)]
  zero := {}

def operands : Item Operands where
  codec := Operands.layout.codec
  encode o := .object [("a", Json.ofReal o.a), ("b", Json.ofReal o.b)]
  zero := {}

def payload (item : Item α) (a : α) : Outcome := .returned (item.encode a).sorted

end Item

inductive ItemType where
  | unit
  | value
  | string
  | bool
  | int64
  | byte
  | nat32
  | nat64
  | real
  | optionInt
  | listInt
  | intString
  | intPair
  | profile
  | boxedProfile
  | operands
deriving DecidableEq

namespace ItemType

@[reducible]
def Value : ItemType → Type
  | .unit => Unit
  | .value => Json
  | .string => String
  | .bool => Bool
  | .int64 | .byte | .nat32 | .nat64 => Int
  | .real => Binary64
  | .optionInt => Option Int
  | .listInt => List Int
  | .intString => Int × String
  | .intPair => Int × Int
  | .profile | .boxedProfile => Profile
  | .operands => Operands

def item : (type : ItemType) → Item type.Value
  | .unit => .unit
  | .value => .value
  | .string => .string
  | .bool => .bool
  | .int64 => .int64
  | .byte => .byte
  | .nat32 => .nat32
  | .nat64 => .nat64
  | .real => .real
  | .optionInt => .option .int64
  | .listInt => .list .int64
  | .intString => .pair .int64 .string
  | .intPair => .pair .int64 .int64
  | .profile | .boxedProfile => .profile
  | .operands => .operands

def name? : ItemType → Option String
  | .unit => none
  | .value => some "serde_json::value::Value"
  | .string => some "alloc::string::String"
  | .bool => some "bool"
  | .int64 => some "i64"
  | .byte => some "u8"
  | .nat32 => some "u32"
  | .nat64 => some "u64"
  | .real => some "f64"
  | .optionInt => some "core::option::Option<i64>"
  | .listInt => some "alloc::vec::Vec<i64>"
  | .intString => some "(i64, alloc::string::String)"
  | .intPair => some "(i64, i64)"
  | .profile => some "oracle_driver::svc::Profile"
  | .boxedProfile => some "alloc::boxed::Box<oracle_driver::svc::Profile>"
  | .operands => some "oracle_driver::svc::Operands"

end ItemType

abbrev Scripted : World where
  State := Journal
  ArgType := ItemType
  Arg := ItemType.Value
  typeName := ItemType.name?

def ItemType.param (type : ItemType) : Param Scripted type :=
  .ofCodec type.item.codec type.item.zero

end JsonRpc.Script
