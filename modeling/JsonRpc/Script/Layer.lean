import JsonRpc.Fault

namespace JsonRpc.Script

/-- `wrap` adds a text to what lies below it. `cover` shows the error below it but hides what that
error is. The others end a chain. -/
inductive Layer where
  | wrap (text : String)
  | cover (text : String)
  | fault (fault : Fault)
  | token (text : String)
  | forbidden (text : String)

def covered : ErrorChain → ErrorChain
  | .last text _ => .last text .other
  | .caused text _ source => .caused text .other source

def chainOf : List Layer → ErrorChain
  | [] => .last "empty chain" .other
  | .fault fault :: _ => .last fault.message (.fault fault)
  | .token text :: _ => .last text .token
  | .forbidden text :: _ => .last text .forbidden
  | [.wrap text] | [.cover text] => .last text .other
  | .wrap text :: layer :: layers => .caused text .other (chainOf (layer :: layers))
  | .cover _ :: layer :: layers => covered (chainOf (layer :: layers))

end JsonRpc.Script
