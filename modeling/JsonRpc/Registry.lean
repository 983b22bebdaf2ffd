import JsonRpc.Middleware
import JsonRpc.Service.Basic

namespace JsonRpc

structure Entry (W : World) where
  receiver : Service W
  methods : List (String × Callback W)

structure Registry (W : World) where
  services : List (String × Entry W) := []
  style : NameStyle := .snake
  excluded : List String := []
  middleware : List (Middleware W) := []
  hooks : Hooks W := {}

def assign {α : Type} (key : String) (value : α) : List (String × α) → List (String × α)
  | [] => [(key, value)]
  | (k, v) :: rest => if k = key then (key, value) :: rest else (k, v) :: assign key value rest

def lookup? {α : Type} (key : String) (table : List (String × α)) : Option α :=
  (table.find? (·.1 == key)).map (·.2)

theorem lookup?_assign_self {α : Type} (key : String) (value : α) (table : List (String × α)) :
    lookup? key (assign key value table) = some value := by
  induction table with
  | nil => simp [assign, lookup?]
  | cons entry rest hypothesis =>
    obtain ⟨k, v⟩ := entry
    by_cases same : k = key
    · simp [assign, lookup?, same]
    · have skip : (k == key) = false := by simpa using same
      simpa [assign, lookup?, same, skip] using hypothesis

theorem lookup?_assign_of_ne {α : Type} {key other : String} (different : other ≠ key) (value : α)
    (table : List (String × α)) : lookup? other (assign key value table) = lookup? other table := by
  have skip : (key == other) = false := by simpa using fun same => different same.symm
  induction table with
  | nil => simp [assign, lookup?, skip]
  | cons entry rest hypothesis =>
    obtain ⟨k, v⟩ := entry
    by_cases same : k = key
    · simp [assign, lookup?, same, skip]
    · by_cases found : k = other
      · simp [assign, lookup?, found, different]
      · have passed : (k == other) = false := by simpa using found
        simpa [assign, lookup?, same, passed] using hypothesis

theorem mem_of_lookup? {α : Type} {key : String} {value : α} {table : List (String × α)}
    (found : lookup? key table = some value) : (key, value) ∈ table := by
  obtain ⟨entry, atKey, rfl⟩ := Option.map_eq_some_iff.mp found
  have named : entry.1 = key := by simpa using List.find?_some atKey
  exact named ▸ List.mem_of_find?_eq_some atKey

namespace Registry

variable {W : World}

def reserved : List String := ["constructor", "exclude_method", "before_call", "after_call"]

def ofStyle (style : NameStyle) : Registry W := { style }

def entry? (registry : Registry W) (space : String) : Option (Entry W) :=
  lookup? (registry.style.apply space) registry.services

def contains (registry : Registry W) (space : String) : Bool :=
  (registry.entry? space).isSome

def exclude (registry : Registry W) : List String → Registry W
  | [] => registry
  | name :: names =>
    let folded := registry.style.apply name
    if registry.excluded.contains folded then exclude registry names
    else exclude { registry with excluded := registry.excluded ++ [folded] } names

def useMiddleware (registry : Registry W) (batch : List (Middleware W)) : Registry W :=
  { registry with middleware := Middleware.install registry.middleware batch }

def setBefore (registry : Registry W) (hook : String → List Json → Program W) : Registry W :=
  { registry with hooks := { registry.hooks with before := some hook } }

def setAfter (registry : Registry W) (hook : String → List Json → Outcome → Program W) :
    Registry W :=
  { registry with hooks := { registry.hooks with after := some hook } }

def isExcluded (registry : Registry W) (own : List String) (name : String) : Bool :=
  let folded := registry.style.apply name
  reserved.contains (NameStyle.snake.apply folded) || registry.excluded.contains folded
    || own.contains folded

/-- The exposed methods of a service, the last one bound under each name. -/
def table (registry : Registry W) (receiver : Service W) (own : List String) :
    List (Method W) → List (String × Callback W) → List (String × Callback W)
  | [], exposed => exposed
  | method :: methods, exposed =>
    let name := registry.style.apply method.name
    if registry.isExcluded own name then table registry receiver own methods exposed
    else
      table registry receiver own methods
        (assign name { method := { method with name }, receiver } exposed)

/-- How a registration ends: in a panic of the service's own code, in a duplicate namespace, or
with whether anything was exposed. -/
abbrev Registered := Except Panic (Except String Bool)

def spaceOf (as : Option String) (service : Service W) : Effect W String := fun world =>
  match as with
  | some name => (.ok name, world)
  | none =>
    match service.ownNamespace world with
    | (.error cause, world) => (.error cause, world)
    | (.ok own, world) => (.ok (own.getD (typeNamespace service.typeName)), world)

def exposed (registry : Registry W) (service : Service W) :
    Effect W (List (String × Callback W)) := fun world =>
  match service.construct world with
  | (.error cause, world) => (.error cause, world)
  | (.ok (), world) =>
    match service.methods world with
    | (.error cause, world) => (.error cause, world)
    | (.ok methods, world) =>
      match service.excluded world with
      | (.error cause, world) => (.error cause, world)
      | (.ok own, world) =>
        (.ok (registry.table service (own.map registry.style.apply) methods []), world)

/-- Registers a service under `as`, or under its own namespace. A service without a method to
expose is skipped. -/
def tryRegister (registry : Registry W) (as : Option String) (service : Service W) (world : W) :
    Registered × Registry W × W :=
  match spaceOf as service world with
  | (.error cause, world) => (.error cause, registry, world)
  | (.ok raw, world) =>
    let space := registry.style.apply raw
    if (lookup? space registry.services).isSome then (.ok (.error space), registry, world)
    else
      match registry.exposed service world with
      | (.error cause, world) => (.error cause, registry, world)
      | (.ok methods, world) =>
        if methods.isEmpty then (.ok (.ok false), registry, world)
        else
          (.ok (.ok true),
            { registry with
              services := registry.services ++ [(space, { receiver := service, methods })] },
            world)

def duplicateMessage (space : String) : String := s!"namespace [{space}] exists"

def register (registry : Registry W) (as : Option String) (service : Service W) (world : W) :
    Except Panic Unit × Registry W × W :=
  match registry.tryRegister as service world with
  | (.error cause, registry, world) => (.error cause, registry, world)
  | (.ok (.error space), registry, world) =>
    (.error (.text (duplicateMessage space)), registry, world)
  | (.ok (.ok _), registry, world) => (.ok (), registry, world)

def normalizeMethod (registry : Registry W) (method : String) : Except Fault String :=
  match splitMethod method with
  | .error fault => .error fault
  | .ok (space, name) =>
    .ok (registry.style.apply space ++ "." ++ registry.style.apply name)

def lookup (registry : Registry W) (space name : String) : Except Fault (Callback W) :=
  match registry.entry? space with
  | none => .error (.noMethod "no namespace")
  | some entry =>
    match lookup? (registry.style.apply name) entry.methods with
    | none => .error (.noMethod "no method")
    | some cb => .ok cb

def resolve (registry : Registry W) (method : String) : Except Fault (Callback W) :=
  match splitMethod method with
  | .error fault => .error fault
  | .ok (space, name) => registry.lookup space name

theorem mem_of_resolve {registry : Registry W} {method : String} {cb : Callback W}
    (resolved : registry.resolve method = .ok cb) :
    ∃ service ∈ registry.services, ∃ exposed ∈ service.2.methods, exposed.2 = cb := by
  rw [resolve] at resolved
  cases parted : splitMethod method with
  | error fault => simp [parted] at resolved
  | ok parts =>
    simp only [parted, lookup] at resolved
    cases entered : registry.entry? parts.1 with
    | none => simp [entered] at resolved
    | some entry =>
      cases bound : lookup? (registry.style.apply parts.2) entry.methods with
      | none => simp [entered, bound] at resolved
      | some found =>
        have same : found = cb := by simpa [entered, bound] using resolved
        exact ⟨_, mem_of_lookup? entered, _, mem_of_lookup? bound, same⟩

def namespaceService (registry : Registry W) (method : String) : Option (Service W) :=
  let space := match splitAtDot? method with
    | some (space, _) => space
    | none => method
  (registry.entry? space).map (·.receiver)

def namespaces (registry : Registry W) : List String := registry.services.map (·.1)

def methodsOf (registry : Registry W) (space : String) : List String :=
  match registry.entry? space with
  | none => []
  | some entry => entry.methods.map (·.1)

def size (registry : Registry W) : Nat := registry.services.length

def isEmpty (registry : Registry W) : Bool := registry.services.isEmpty

def describe (registry : Registry W) : String :=
  Text.record "Registry"
    [("namespaces", Text.listed (registry.namespaces.map Text.quoted)),
      ("style", registry.style.describe),
      ("middleware", Text.listed (registry.middleware.map Middleware.describe)),
      ("hooks", registry.hooks.describe)] true

end Registry

end JsonRpc
