import JsonRpc.Proofs.Name.Address
import JsonRpc.Proofs.Registry.Contents

namespace JsonRpc

variable {W : World}

namespace Registry

/-- Services have been added behind those that were there, and names are folded as before. -/
structure Grown (registry later : Registry W) : Prop where
  style : later.style = registry.style
  services : ∃ added, later.services = registry.services ++ added

namespace Grown

variable {registry middle later : Registry W}

theorem refl (registry : Registry W) : registry.Grown registry :=
  ⟨rfl, [], (List.append_nil _).symm⟩

theorem trans (first : registry.Grown middle) (second : middle.Grown later) :
    registry.Grown later := by
  obtain ⟨early, before⟩ := first.services
  obtain ⟨late, behind⟩ := second.services
  refine ⟨second.style.trans first.style, early ++ late, ?_⟩
  rw [behind, before, List.append_assoc]

variable (grown : registry.Grown later)

include grown

theorem entry? {space : String} {entry : Entry W} (entered : registry.entry? space = some entry) :
    later.entry? space = some entry := by
  obtain ⟨added, services⟩ := grown.services
  rw [Registry.entry?] at entered ⊢
  rw [grown.style, services, lookup?_append, entered, Option.some_or]

theorem lookup {space name : String} {cb : Callback W}
    (found : registry.lookup space name = .ok cb) : later.lookup space name = .ok cb := by
  rw [Registry.lookup] at found ⊢
  cases entered : registry.entry? space with
  | none => simp [entered] at found
  | some entry =>
    rw [entered] at found
    rw [grown.entry? entered, grown.style]
    exact found

theorem resolve {method : String} {cb : Callback W} (found : registry.resolve method = .ok cb) :
    later.resolve method = .ok cb := by
  rw [Registry.resolve] at found ⊢
  cases parted : splitMethod method with
  | error fault => simp [parted] at found
  | ok parts =>
    rw [parted] at found
    exact grown.lookup found

theorem namespaceService {method : String} {receiver : Service W}
    (received : registry.namespaceService method = some receiver) :
    later.namespaceService method = some receiver := by
  rw [Registry.namespaceService] at received ⊢
  obtain ⟨entry, entered, rfl⟩ := Option.map_eq_some_iff.mp received
  rw [grown.entry? entered]
  rfl

end Grown

/-- The code of a service that a panic came from, in the order in which it is run. -/
def Blames (as : Option String) (service : Service W) (world : W) (cause : Panic) : Prop :=
  (spaceOf as service world).1 = .error cause ∨
    ∃ raw asked, spaceOf as service world = (.ok raw, asked) ∧
      ((service.construct asked).1 = .error cause ∨
        ∃ built, service.construct asked = (.ok (), built) ∧
          ((service.methods built).1 = .error cause ∨
            ∃ methods bound, service.methods built = (.ok methods, bound) ∧
              (service.excluded bound).1 = .error cause))

section

variable {registry : Registry W} {as : Option String} {service : Service W} {world asked : W}
  {raw : String}

theorem tryRegister_of_taken (told : spaceOf as service world = (.ok raw, asked))
    (taken : (lookup? (registry.style.apply raw) registry.services).isSome = true) :
    registry.tryRegister as service world =
      (.ok (.error (registry.style.apply raw)), registry, asked) := by
  simp only [tryRegister, told, taken, if_true]

theorem tryRegister_of_free (told : spaceOf as service world = (.ok raw, asked))
    (free : lookup? (registry.style.apply raw) registry.services = none) :
    registry.tryRegister as service world =
      match registry.exposed service asked with
      | (.error cause, left) => (.error cause, registry, left)
      | (.ok methods, left) =>
        if methods.isEmpty then (.ok (.ok false), registry, left)
        else
          (.ok (.ok true), { registry with
            services :=
              registry.services ++ [(registry.style.apply raw, { receiver := service, methods })] },
            left) := by
  rw [tryRegister, told]
  exact if_neg (by simp [free])

theorem tryRegister_of_filled (told : spaceOf as service world = (.ok raw, asked))
    (free : lookup? (registry.style.apply raw) registry.services = none)
    {methods : List (String × Callback W)} {left : W}
    (shown : registry.exposed service asked = (.ok methods, left)) (filled : methods ≠ []) :
    (registry.tryRegister as service world).1 = .ok (.ok true) := by
  have full : methods.isEmpty = false := by simpa [List.isEmpty_iff] using filled
  simp only [tryRegister_of_free told free, shown, full, Bool.false_eq_true, if_false]

theorem blames_of_exposed (told : spaceOf as service world = (.ok raw, asked)) {cause : Panic}
    {left : W} (panicked : registry.exposed service asked = (.error cause, left)) :
    Blames as service world cause := by
  refine .inr ⟨raw, asked, told, ?_⟩
  rw [exposed] at panicked
  rcases constructed : service.construct asked with ⟨thrown | ⟨⟩, built⟩
  · simp only [constructed, Prod.mk.injEq, Except.error.injEq] at panicked
    exact .inl (by rw [panicked.1])
  rcases listed : service.methods built with ⟨thrown | methods, bound⟩
  · simp only [constructed, listed, Prod.mk.injEq, Except.error.injEq] at panicked
    exact .inr ⟨built, rfl, .inl (by rw [listed, panicked.1])⟩
  rcases kept : service.excluded bound with ⟨thrown | own, final⟩
  · simp only [constructed, listed, kept, Prod.mk.injEq, Except.error.injEq] at panicked
    exact .inr ⟨built, rfl, .inr ⟨methods, bound, listed, by rw [kept, panicked.1]⟩⟩
  · simp [constructed, listed, kept] at panicked

end

/-- What a registration may do: nothing to the registry, or all of it. -/
inductive Attempt (registry : Registry W) (as : Option String) (service : Service W) (world : W) :
    Registered × Registry W × W → Prop
  | panicked {cause left} (blamed : Blames as service world cause) :
    Attempt registry as service world (.error cause, registry, left)
  | refused {raw asked} (told : spaceOf as service world = (.ok raw, asked))
    (taken : (lookup? (registry.style.apply raw) registry.services).isSome = true) :
    Attempt registry as service world
      (.ok (.error (registry.style.apply raw)), registry, asked)
  | skipped {raw asked left} (told : spaceOf as service world = (.ok raw, asked))
    (free : lookup? (registry.style.apply raw) registry.services = none)
    (shown : registry.exposed service asked = (.ok [], left)) :
    Attempt registry as service world (.ok (.ok false), registry, left)
  | entered {raw asked methods left} (told : spaceOf as service world = (.ok raw, asked))
    (free : lookup? (registry.style.apply raw) registry.services = none)
    (shown : registry.exposed service asked = (.ok methods, left)) (filled : methods ≠ []) :
    Attempt registry as service world (.ok (.ok true), { registry with
      services :=
        registry.services ++ [(registry.style.apply raw, { receiver := service, methods })] }, left)

theorem attempt (registry : Registry W) (as : Option String) (service : Service W) (world : W) :
    registry.Attempt as service world (registry.tryRegister as service world) := by
  rcases told : spaceOf as service world with ⟨cause | raw, asked⟩
  · have ended : registry.tryRegister as service world = (.error cause, registry, asked) := by
      simp only [tryRegister, told]
    rw [ended]
    exact .panicked (.inl (by rw [told]))
  cases free : lookup? (registry.style.apply raw) registry.services with
  | some entry =>
    have taken : (lookup? (registry.style.apply raw) registry.services).isSome = true := by
      rw [free]
      rfl
    rw [tryRegister_of_taken told taken]
    exact .refused told taken
  | none =>
    rw [tryRegister_of_free told free]
    rcases shown : registry.exposed service asked with ⟨cause | methods, left⟩
    · exact .panicked (blames_of_exposed told shown)
    · cases methods with
      | nil => exact .skipped told free shown
      | cons first rest => exact .entered told free shown (List.cons_ne_nil first rest)

theorem Attempt.grown {registry : Registry W} {as : Option String} {service : Service W} {world : W}
    {ended : Registered × Registry W × W} (attempt : registry.Attempt as service world ended) :
    registry.Grown ended.2.1 := by
  cases attempt with
  | panicked | refused | skipped => exact .refl registry
  | entered => exact ⟨rfl, _, rfl⟩

end Registry

theorem Setup.grown_act (setup : Setup W) (change : Change W) :
    setup.registry.Grown (setup.act change).registry := by
  cases change with
  | register as service => exact (setup.registry.attempt as service setup.world).grown
  | exclude names =>
    obtain ⟨excluded, same⟩ := setup.registry.exclude_eq names
    simp only [Setup.act, same]
    exact ⟨rfl, [], (List.append_nil _).symm⟩
  | use | before | after => exact ⟨rfl, [], (List.append_nil _).symm⟩

theorem Setup.grown_run (setup : Setup W) (changes : List (Change W)) :
    setup.registry.Grown (setup.run changes).registry := by
  induction changes generalizing setup with
  | nil => exact .refl setup.registry
  | cons change changes hypothesis => exact (setup.grown_act change).trans (hypothesis _)

namespace Registry

def insisted : Registered → Except Panic Unit
  | .error cause => .error cause
  | .ok (.error space) => .error (.text (duplicateMessage space))
  | .ok (.ok _) => .ok ()

theorem register_eq (registry : Registry W) (as : Option String) (service : Service W) (world : W) :
    registry.register as service world =
      (insisted (registry.tryRegister as service world).1,
        (registry.tryRegister as service world).2) := by
  rw [register]
  rcases registry.tryRegister as service world with ⟨cause | space | exposed, after, left⟩ <;> rfl

structure Atomic (registry : Registry W) (as : Option String) (service : Service W) (world : W)
    (reply : Registered) (after : Registry W) (left : W) : Prop where
  entered_iff : reply = .ok (.ok true) ↔ ∃ raw asked methods,
    spaceOf as service world = (.ok raw, asked) ∧
    lookup? (registry.style.apply raw) registry.services = none ∧
    registry.exposed service asked = (.ok methods, left) ∧ methods ≠ [] ∧
    after = { registry with
      services :=
        registry.services ++ [(registry.style.apply raw, { receiver := service, methods })] }
  unchanged : reply ≠ .ok (.ok true) → after = registry
  blamed : ∀ cause, reply = .error cause → Blames as service world cause
  refused_iff : ∀ space, reply = .ok (.error space) ↔
    ∃ raw, (spaceOf as service world).1 = .ok raw ∧ registry.style.apply raw = space ∧
      (lookup? space registry.services).isSome = true
  /-- A service that is refused has been asked for its namespace and for nothing else: all would be
  the same if it were constructed in any other way. -/
  unconstructed : ∀ space, reply = .ok (.error space) → left = (spaceOf as service world).2 ∧
    ∀ construct methods excluded,
      registry.tryRegister as { service with construct, methods, excluded } world =
        (reply, after, left)
  insisted : registry.register as service world = (insisted reply, after, left)
  /-- What was resolved before is resolved behind the registration, and behind all that follows. -/
  resolved : ∀ method cb, registry.resolve method = .ok cb →
    ∃ receiver, registry.namespaceService method = some receiver ∧
      ∀ changes, let later := ((⟨after, left⟩ : Setup W).run changes).registry
        later.resolve method = .ok cb ∧ later.namespaceService method = some receiver

theorem refused_iff_taken (registry : Registry W) (as : Option String) (service : Service W)
    (world : W) (space : String) :
    (registry.tryRegister as service world).1 = .ok (.error space) ↔
      ∃ raw, (spaceOf as service world).1 = .ok raw ∧ registry.style.apply raw = space ∧
        (lookup? space registry.services).isSome = true := by
  constructor
  · intro refused
    generalize ended : registry.tryRegister as service world = attempted at refused
    cases ended ▸ registry.attempt as service world with
    | panicked | skipped | entered => cases refused
    | refused told taken =>
      cases refused
      exact ⟨_, by rw [told], rfl, taken⟩
  · rintro ⟨raw, named, rfl, taken⟩
    have told : spaceOf as service world = (.ok raw, (spaceOf as service world).2) := by
      rw [← named]
    rw [tryRegister_of_taken told taken]

/-- A registration that does not enter its service changes nothing, and none takes away what was
resolved before. -/
theorem tryRegister_atomic (registry : Registry W) (as : Option String) (service : Service W)
    (world : W) :
    let ended := registry.tryRegister as service world
    registry.Atomic as service world ended.1 ended.2.1 ended.2.2 := by
  intro ended
  have attempt : registry.Attempt as service world ended := registry.attempt as service world
  refine
    { entered_iff := ⟨?_, ?_⟩, unchanged := ?_, blamed := ?_
      refused_iff := refused_iff_taken registry as service world
      unconstructed := ?_, insisted := register_eq registry as service world, resolved := ?_ }
  · intro succeeded
    generalize ended = ended at attempt succeeded
    cases attempt with
    | panicked | refused | skipped => cases succeeded
    | entered told free shown filled => exact ⟨_, _, _, told, free, shown, filled, rfl⟩
  · rintro ⟨raw, asked, methods, told, free, shown, filled, -⟩
    exact tryRegister_of_filled told free shown filled
  · intro failed
    generalize ended = ended at attempt failed
    cases attempt with
    | panicked | refused | skipped => rfl
    | entered => exact absurd rfl failed
  · intro cause panicked
    generalize ended = ended at attempt panicked
    cases attempt with
    | panicked blamed =>
      cases panicked
      exact blamed
    | refused | skipped | entered => cases panicked
  · intro space refused
    obtain ⟨raw, named, rfl, taken⟩ :=
      (refused_iff_taken registry as service world space).mp refused
    have told : spaceOf as service world = (.ok raw, (spaceOf as service world).2) := by
      rw [← named]
    have same : ended = _ := tryRegister_of_taken told taken
    rw [same]
    refine ⟨rfl, fun construct methods excluded => ?_⟩
    have other : spaceOf as { service with construct, methods, excluded } world =
        (.ok raw, (spaceOf as service world).2) := told
    exact tryRegister_of_taken other taken
  · intro method cb found
    obtain ⟨_, _, entry, -, -, received⟩ := namespaceService_of_resolve found
    refine ⟨entry.receiver, received, fun changes => ?_⟩
    have grown := attempt.grown.trans (Setup.grown_run ⟨ended.2.1, ended.2.2⟩ changes)
    exact ⟨grown.resolve found, grown.namespaceService received⟩

end Registry

end JsonRpc
