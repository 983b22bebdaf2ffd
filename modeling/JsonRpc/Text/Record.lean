namespace JsonRpc.Text

def record (name : String) (fields : List (String × String)) (complete : Bool) : String :=
  let parts := fields.map fun (label, value) => label ++ ": " ++ value
  let shown := if complete then parts else parts ++ [".."]
  name ++ " \x7b " ++ ", ".intercalate shown ++ " \x7d"

def listed (items : List String) : String := "[" ++ ", ".intercalate items ++ "]"

def optional (value : Option String) : String :=
  match value with
  | none => "None"
  | some text => "Some(" ++ text ++ ")"

end JsonRpc.Text
