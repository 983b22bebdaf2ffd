import JsonRpc.Server.Basic

namespace JsonRpc

inductive CallHook (W : World) where
  | before (hook : String → List Json → Program W)
  | after (hook : String → List Json → Outcome → Program W)

def CallHook.set {W : World} (registry : Registry W) : CallHook W → Registry W
  | .before hook => registry.setBefore hook
  | .after hook => registry.setAfter hook

/-- A description of a server; services come with the namespace they are put under, if any. -/
structure Builder (W : World) where
  options : Options := {}
  services : List (Option String × Service W) := []
  excluded : List String := []
  middleware : List (Middleware W) := []
  setup : List (CallHook W) := []

/-- How building ends: in a panic of a service's own code, in a duplicate namespace, or with a
server. -/
abbrev Built (W : World) := Except Panic (Except String (Server W))

namespace Builder

variable {W : World}

def withOptions (b : Builder W) (options : Options) : Builder W := { b with options }

def service (b : Builder W) (service : Service W) : Builder W :=
  { b with services := b.services ++ [(none, service)] }

def serviceAs (b : Builder W) (space : String) (service : Service W) : Builder W :=
  { b with services := b.services ++ [(some space, service)] }

def exclude (b : Builder W) (names : List String) : Builder W :=
  { b with excluded := b.excluded ++ names }

def use (b : Builder W) (handler : Middleware W) : Builder W :=
  { b with middleware := b.middleware ++ [handler] }

def callBefore (b : Builder W) (hook : String → List Json → Program W) : Builder W :=
  { b with setup := b.setup ++ [.before hook] }

def callAfter (b : Builder W) (hook : String → List Json → Outcome → Program W) : Builder W :=
  { b with setup := b.setup ++ [.after hook] }

def nameStyle (b : Builder W) (style : NameStyle) : Builder W :=
  { b with options := { b.options with style } }

def cryptoKey (b : Builder W) (key : String) : Builder W :=
  { b with options := { b.options with cryptoKey := some key } }

def encoding (b : Builder W) (encoding : CipherEncoding) : Builder W :=
  { b with options := { b.options with encoding } }

def maxBody (b : Builder W) (limit : Nat) : Builder W :=
  { b with options := { b.options with maxBody := limit } }

def maxIdle (b : Builder W) (limit : Nat) : Builder W :=
  { b with options := { b.options with maxIdle := limit } }

def bareRegistry (b : Builder W) : Registry W :=
  let excluding := (Registry.ofStyle b.options.style).exclude b.excluded
  b.setup.foldl CallHook.set (excluding.useMiddleware b.middleware)

def registerAll (registry : Registry W) :
    List (Option String × Service W) → W → Except Panic (Except String (Registry W)) × W
  | [], world => (.ok (.ok registry), world)
  | (as, service) :: services, world =>
    match registry.tryRegister as service world with
    | (.error cause, _, world) => (.error cause, world)
    | (.ok (.error space), _, world) => (.ok (.error space), world)
    | (.ok (.ok _), registry, world) => registerAll registry services world

def complete (options : Options) :
    Except Panic (Except String (Registry W)) × W → Built W × W
  | (.error cause, world) => (.error cause, world)
  | (.ok (.error space), world) => (.ok (.error space), world)
  | (.ok (.ok registry), world) => (.ok (.ok (Server.ofRegistry registry options)), world)

def build (b : Builder W) (world : W) : Built W × W :=
  complete b.options (registerAll b.bareRegistry b.services world)

end Builder

end JsonRpc
