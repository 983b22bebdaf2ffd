import JsonRpc.Script.Feature
import JsonRpc.Script.Step

namespace JsonRpc.Script

structure HookScript where
  only : Option String
  script : List Step

def HookScript.before (h : HookScript) (point : Point) (method : String) (args : List Json) :
    Program Scripted :=
  hook point h.only h.script method args none

def HookScript.after (h : HookScript) (point : Point) (method : String) (args : List Json)
    (outcome : Outcome) : Program Scripted :=
  hook point h.only h.script method args (some outcome)

/-- A service in words; `typePath` is the path that its type goes by, `shown` the name under which
its construction is noted. A silent service is constructed without a note. -/
structure Description where
  typePath : String
  shown : Option String
  namespaceName : Option String := none
  excluded : List String := []
  features : List (String × Feature)
  before : Option HookScript := none
  after : Option HookScript := none

def Description.service (d : Description) (number : Nat) : Service Scripted where
  typeName := d.typePath
  ownNamespace journal := (.ok d.namespaceName, journal)
  construct journal :=
    match d.shown with
    | none => (.ok (), journal)
    | some shown =>
      (.ok (), (journal.note (.constructed shown)).remember number
        { journal.memory number with ready := true })
  methods journal :=
    (.ok (d.features.map fun (name, feature) => feature.method number name), journal)
  excluded journal := (.ok d.excluded, journal)
  beforeCall name args :=
    match d.before with
    | none => .done
    | some h => h.before .serviceBefore name args
  afterCall name args outcome :=
    match d.after with
    | none => .done
    | some h => h.after .serviceAfter name args outcome

end JsonRpc.Script
