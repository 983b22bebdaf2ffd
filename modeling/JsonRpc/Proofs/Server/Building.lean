import JsonRpc.Proofs.Server.Concealment
import JsonRpc.Server.Builder

namespace JsonRpc

variable {W : World}

/-- A call on a builder. The one that replaces all options, whatever others have set, is left out. -/
inductive BuilderCall (W : World) where
  | service (receiver : Service W)
  | serviceAs (space : String) (receiver : Service W)
  | exclude (names : List String)
  | use (handler : Middleware W)
  | callBefore (hook : String → List Json → Program W)
  | callAfter (hook : String → List Json → Outcome → Program W)
  | nameStyle (style : NameStyle)
  | cryptoKey (key : String)
  | encoding (digits : CipherEncoding)
  | maxBody (limit : Nat)
  | maxIdle (limit : Nat)

namespace BuilderCall

inductive Kind where
  | registration
  | exclusion
  | middleware
  | before
  | after
  | style
  | key
  | encoding
  | maxBody
  | maxIdle
deriving DecidableEq

def kind : BuilderCall W → Kind
  | .service _ | .serviceAs _ _ => .registration
  | .exclude _ => .exclusion
  | .use _ => .middleware
  | .callBefore _ => .before
  | .callAfter _ => .after
  | .nameStyle _ => .style
  | .cryptoKey _ => .key
  | .encoding _ => .encoding
  | .maxBody _ => .maxBody
  | .maxIdle _ => .maxIdle

def registration? : BuilderCall W → Option (Option String × Service W)
  | .service receiver => some (none, receiver)
  | .serviceAs space receiver => some (some space, receiver)
  | .exclude _ | .use _ | .callBefore _ | .callAfter _ | .nameStyle _ | .cryptoKey _ | .encoding _
  | .maxBody _ | .maxIdle _ => none

/-- What a call does to the registry that the services are going to be registered in. -/
def prepare (registry : Registry W) : BuilderCall W → Registry W
  | .exclude names => registry.exclude names
  | .use handler => registry.useMiddleware [handler]
  | .callBefore hook => registry.setBefore hook
  | .callAfter hook => registry.setAfter hook
  | .service _ | .serviceAs _ _ | .nameStyle _ | .cryptoKey _ | .encoding _ | .maxBody _
  | .maxIdle _ => registry

def configure (options : Options) : BuilderCall W → Options
  | .nameStyle style => { options with style }
  | .cryptoKey key => { options with cryptoKey := some key }
  | .encoding digits => { options with encoding := digits }
  | .maxBody limit => { options with maxBody := limit }
  | .maxIdle limit => { options with maxIdle := limit }
  | .service _ | .serviceAs _ _ | .exclude _ | .use _ | .callBefore _ | .callAfter _ => options

def Rearranged (calls others : List (BuilderCall W)) : Prop :=
  ∀ kind, others.filter (·.kind = kind) = calls.filter (·.kind = kind)

end BuilderCall

namespace Registry

/-- A change that has nothing to do with how names are folded and which are excluded. -/
structure Aside (change : Registry W → Registry W) : Prop where
  style : ∀ registry, (change registry).style = registry.style
  excluded : ∀ registry excluded,
    change { registry with excluded } = { change registry with excluded }

theorem Aside.exclude {change : Registry W → Registry W} (aside : Aside change)
    (registry : Registry W) (names : List String) :
    (change registry).exclude names = change (registry.exclude names) := by
  induction names generalizing registry with
  | nil => rfl
  | cons name names hypothesis =>
    have kept : change registry = { change registry with excluded := registry.excluded } :=
      aside.excluded registry registry.excluded
    have known : (change registry).excluded = registry.excluded := by rw [kept]
    have added := hypothesis { registry with
      excluded := registry.excluded ++ [registry.style.apply name] }
    rw [aside.excluded] at added
    simp only [aside.style] at added
    simp only [Registry.exclude, aside.style, known]
    split
    · exact hypothesis registry
    · exact added

theorem exclude_append (registry : Registry W) (first second : List String) :
    registry.exclude (first ++ second) = (registry.exclude first).exclude second := by
  induction first generalizing registry with
  | nil => rfl
  | cons name names hypothesis =>
    simp only [List.cons_append, exclude]
    split <;> exact hypothesis _

theorem useMiddleware_append (registry : Registry W) (first second : List (Middleware W)) :
    registry.useMiddleware (first ++ second) =
      (registry.useMiddleware first).useMiddleware second := by
  simp only [useMiddleware, Middleware.install_append]

theorem exclude_useMiddleware (registry : Registry W) (batch : List (Middleware W))
    (names : List String) :
    (registry.useMiddleware batch).exclude names = (registry.exclude names).useMiddleware batch := by
  have aside : Aside fun registry : Registry W => registry.useMiddleware batch :=
    ⟨fun _ => rfl, fun _ _ => rfl⟩
  exact aside.exclude registry names

theorem exclude_set (registry : Registry W) (hook : CallHook W) (names : List String) :
    (hook.set registry).exclude names = hook.set (registry.exclude names) := by
  have aside : Aside fun registry : Registry W => hook.set registry := by
    cases hook <;> exact ⟨fun _ => rfl, fun _ _ => rfl⟩
  exact aside.exclude registry names

theorem useMiddleware_set (registry : Registry W) (hook : CallHook W) (batch : List (Middleware W)) :
    (hook.set registry).useMiddleware batch = hook.set (registry.useMiddleware batch) := by
  cases hook <;> rfl

theorem tryRegister_eq (registry : Registry W) (as : Option String) (service : Service W)
    (world : W) :
    ∃ services, (registry.tryRegister as service world).2.1 = { registry with services } := by
  generalize ended : registry.tryRegister as service world = attempted
  cases ended ▸ registry.attempt as service world with
  | panicked | refused | skipped | entered => exact ⟨_, rfl⟩

end Registry

namespace BuilderCall

theorem prepare_exclude (registry : Registry W) (names : List String) {x : BuilderCall W}
    (other : x.kind ≠ .exclusion) :
    prepare (registry.exclude names) x = (prepare registry x).exclude names := by
  cases x with
  | exclude => exact absurd rfl other
  | use handler => exact (registry.exclude_useMiddleware [handler] names).symm
  | callBefore hook => exact (registry.exclude_set (.before hook) names).symm
  | callAfter hook => exact (registry.exclude_set (.after hook) names).symm
  | service | serviceAs | nameStyle | cryptoKey | encoding | maxBody | maxIdle => rfl

theorem prepare_swap (registry : Registry W) {x y : BuilderCall W} (different : x.kind ≠ y.kind) :
    prepare (prepare registry x) y = prepare (prepare registry y) x := by
  cases x with
  | exclude names => exact prepare_exclude registry names (Ne.symm different)
  | use | callBefore | callAfter =>
    cases y with
    | exclude names => exact (prepare_exclude registry names different).symm
    | use | callBefore | callAfter => first | rfl | exact absurd rfl different
    | service | serviceAs | nameStyle | cryptoKey | encoding | maxBody | maxIdle => rfl
  | service | serviceAs | nameStyle | cryptoKey | encoding | maxBody | maxIdle => rfl

theorem configure_swap (options : Options) {x y : BuilderCall W} (different : x.kind ≠ y.kind) :
    configure (configure options x) y = configure (configure options y) x := by
  -- no option is set by calls of two kinds
  cases x <;> cases y <;> first | rfl | exact absurd rfl different

theorem foldl_middle {β : Type} {step : β → BuilderCall W → β}
    (swap : ∀ b {x y : BuilderCall W}, x.kind ≠ y.kind → step (step b x) y = step (step b y) x)
    (x : BuilderCall W) {front : List (BuilderCall W)} (passed : ∀ y ∈ front, y.kind ≠ x.kind)
    (back : List (BuilderCall W)) (b : β) :
    (front ++ x :: back).foldl step b = (x :: (front ++ back)).foldl step b := by
  induction front generalizing b with
  | nil => rfl
  | cons y front hypothesis =>
    have others : ∀ z ∈ front, z.kind ≠ x.kind := fun z member =>
      passed z (List.mem_cons_of_mem y member)
    have moved := hypothesis others (step b y)
    rw [List.foldl_cons, swap b (passed y List.mem_cons_self)] at moved
    exact moved

namespace Rearranged

variable {calls others : List (BuilderCall W)}

theorem foldl (rearranged : Rearranged calls others) {β : Type} {step : β → BuilderCall W → β}
    (swap : ∀ b {x y : BuilderCall W}, x.kind ≠ y.kind → step (step b x) y = step (step b y) x)
    (b : β) : others.foldl step b = calls.foldl step b := by
  induction calls generalizing others b with
  | nil =>
    cases others with
    | nil => rfl
    | cons y others => simpa using rearranged y.kind
  | cons x calls hypothesis =>
    have first := rearranged x.kind
    rw [List.filter_cons_of_pos (by simp)] at first
    obtain ⟨front, back, rfl, passed, -, left⟩ := List.filter_eq_cons_iff.mp first
    have skipped : ∀ y ∈ front, y.kind ≠ x.kind := fun y member => by simpa using passed y member
    rw [foldl_middle swap x skipped]
    -- what is left without `x` is a rearrangement again
    refine hypothesis (fun kind => ?_) (step b x)
    by_cases same : x.kind = kind
    · subst same
      rw [List.filter_append, List.filter_eq_nil_iff.mpr passed, List.nil_append, left]
    · simpa [List.filter_append, List.filter_cons, same] using rearranged kind

theorem registrations (rearranged : Rearranged calls others) :
    others.filterMap registration? = calls.filterMap registration? := by
  have those : ∀ all : List (BuilderCall W), all.filterMap registration? =
      (all.filter (·.kind = .registration)).filterMap registration? := by
    intro all
    rw [List.filterMap_filter]
    refine List.filterMap_congr fun x _ => ?_
    cases x <;> rfl
  rw [those, those calls, rearranged]

end Rearranged

end BuilderCall

namespace Builder

open BuilderCall (configure prepare registration? Rearranged)

def take (b : Builder W) : BuilderCall W → Builder W
  | .service receiver => b.service receiver
  | .serviceAs space receiver => b.serviceAs space receiver
  | .exclude names => b.exclude names
  | .use handler => b.use handler
  | .callBefore hook => b.callBefore hook
  | .callAfter hook => b.callAfter hook
  | .nameStyle style => b.nameStyle style
  | .cryptoKey key => b.cryptoKey key
  | .encoding digits => b.encoding digits
  | .maxBody limit => b.maxBody limit
  | .maxIdle limit => b.maxIdle limit

def ofCalls (calls : List (BuilderCall W)) : Builder W := calls.foldl take {}

theorem options_take (b : Builder W) (x : BuilderCall W) :
    (b.take x).options = configure b.options x := by
  cases x <;> rfl

theorem services_take (b : Builder W) (x : BuilderCall W) :
    (b.take x).services = b.services ++ (registration? x).toList := by
  cases x with
  | service | serviceAs => rfl
  | exclude | use | callBefore | callAfter | nameStyle | cryptoKey | encoding | maxBody | maxIdle =>
    exact (List.append_nil _).symm

theorem bareRegistry_take (b : Builder W) (x : BuilderCall W) (style : NameStyle) :
    ((b.take x).nameStyle style).bareRegistry = prepare (b.nameStyle style).bareRegistry x := by
  cases x with
  | exclude names =>
    simp only [take, bareRegistry, exclude, nameStyle, prepare, Registry.exclude_append,
      ← Registry.exclude_useMiddleware]
    refine List.foldl_hom (fun registry : Registry W => registry.exclude names) ?_
    exact fun registry hook => (registry.exclude_set hook names).symm
  | use handler =>
    simp only [take, bareRegistry, use, nameStyle, prepare, Registry.useMiddleware_append]
    refine List.foldl_hom (fun registry : Registry W => registry.useMiddleware [handler]) ?_
    exact fun registry hook => (registry.useMiddleware_set hook [handler]).symm
  | callBefore | callAfter =>
    simp only [take, bareRegistry, callBefore, callAfter, nameStyle, List.foldl_append]
    rfl
  | service | serviceAs | nameStyle | cryptoKey | encoding | maxBody | maxIdle => rfl

theorem options_ofCalls (calls : List (BuilderCall W)) :
    (ofCalls calls).options = calls.foldl configure {} :=
  (List.foldl_hom options fun b x => (options_take b x).symm).symm

theorem services_ofCalls (calls : List (BuilderCall W)) :
    (ofCalls calls).services = calls.filterMap registration? := by
  have behind : ∀ b : Builder W,
      (calls.foldl take b).services = b.services ++ calls.filterMap registration? := by
    induction calls with
    | nil => exact fun b => (List.append_nil _).symm
    | cons x calls hypothesis =>
      intro b
      rw [List.foldl_cons, hypothesis, services_take, List.append_assoc]
      cases told : registration? x <;> simp [told]
  exact behind {}

/-- The registry that a description comes to before any service is in it: what its calls make of a
new one, under the style that was set last. -/
def prepared (calls : List (BuilderCall W)) : Registry W :=
  calls.foldl prepare (.ofStyle (calls.foldl configure {}).style)

theorem bareRegistry_ofCalls (calls : List (BuilderCall W)) :
    (ofCalls calls).bareRegistry = prepared calls := by
  rw [prepared, ← options_ofCalls]
  generalize styled : (ofCalls calls).options.style = style
  have same : (ofCalls calls).bareRegistry = ((ofCalls calls).nameStyle style).bareRegistry := by
    rw [← styled]
    rfl
  rw [same]
  exact (List.foldl_hom (fun b : Builder W => (b.nameStyle style).bareRegistry)
    fun b x => (bareRegistry_take b x style).symm).symm

theorem build_ofCalls (calls : List (BuilderCall W)) (world : W) :
    (ofCalls calls).build world = complete (calls.foldl configure {})
      (registerAll (prepared calls) (calls.filterMap registration?) world) := by
  rw [build, options_ofCalls, services_ofCalls, bareRegistry_ofCalls]

section

variable {registry later : Registry W} {services : List (Option String × Service W)}
  {world left : W}

theorem registerAll_cons (as : Option String) (service : Service W) {exposed : Bool} {middle : W}
    {next : Registry W}
    (tried : registry.tryRegister as service world = (.ok (.ok exposed), next, middle)) :
    registerAll registry ((as, service) :: services) world =
      registerAll next services middle := by
  rw [registerAll, tried]

theorem registerAll_eq (done : registerAll registry services world = (.ok (.ok later), left)) :
    ∃ added, later = { registry with services := added } := by
  induction services generalizing registry world with
  | nil =>
    cases done
    exact ⟨_, rfl⟩
  | cons first services hypothesis =>
    obtain ⟨as, service⟩ := first
    obtain ⟨entered, same⟩ := registry.tryRegister_eq as service world
    rcases tried : registry.tryRegister as service world with ⟨cause | space | exposed, next, middle⟩
    · simp [registerAll, tried] at done
    · simp [registerAll, tried] at done
    · obtain rfl : next = { registry with services := entered } := by rwa [tried] at same
      rw [registerAll_cons as service tried] at done
      obtain ⟨added, same⟩ := hypothesis done
      exact ⟨added, same⟩

theorem registerAll_refused {space : String}
    (refused : registerAll registry services world = (.ok (.error space), left)) :
    ∃ earlier as service rest taken middle, services = earlier ++ (as, service) :: rest ∧
      registerAll registry earlier world = (.ok (.ok taken), middle) ∧
      taken.tryRegister as service middle = (.ok (.error space), taken, left) := by
  induction services generalizing registry world with
  | nil => cases refused
  | cons first services hypothesis =>
    obtain ⟨as, service⟩ := first
    have attempt := registry.attempt as service world
    rcases tried : registry.tryRegister as service world with ⟨cause | other | exposed, next, middle⟩
    · simp [registerAll, tried] at refused
    · have same : other = space ∧ middle = left := by simpa [registerAll, tried] using refused
      obtain ⟨rfl, rfl⟩ := same
      rw [tried] at attempt
      cases attempt
      exact ⟨[], as, service, services, registry, world, rfl, rfl, tried⟩
    · rw [registerAll_cons as service tried] at refused
      obtain ⟨earlier, as', service', rest, taken, final, rfl, before, last⟩ := hypothesis refused
      refine ⟨(as, service) :: earlier, as', service', rest, taken, final, rfl, ?_, last⟩
      rw [registerAll_cons as service tried, before]

end

/-- What is so of building a description: everything in it but the services is in force when the
first of them is registered, and they are registered in the order in which they were given. -/
structure Defers (calls : List (BuilderCall W)) (world : W) : Prop where
  built : (ofCalls calls).build world = complete (calls.foldl configure {})
    (registerAll (prepared calls) (calls.filterMap registration?) world)
  opened : ∀ server left, (ofCalls calls).build world = (.ok (.ok server), left) →
    ∃ services, server = Server.ofRegistry { prepared calls with services }
      (calls.foldl configure {})
  refused : ∀ space left, (ofCalls calls).build world = (.ok (.error space), left) →
    ∃ earlier as service later services middle,
      calls.filterMap registration? = earlier ++ (as, service) :: later ∧
      registerAll (prepared calls) earlier world =
        (.ok (.ok { prepared calls with services }), middle) ∧
      { prepared calls with services }.tryRegister as service middle =
        (.ok (.error space), { prepared calls with services }, left)

theorem defers (calls : List (BuilderCall W)) (world : W) : Defers calls world := by
  have built := build_ofCalls calls world
  refine { built, opened := ?_, refused := ?_ }
  · intro server left opened
    rw [built] at opened
    rcases done : registerAll (prepared calls) (calls.filterMap registration?) world with
      ⟨cause | space | registry, ended⟩
    · simp [complete, done] at opened
    · simp [complete, done] at opened
    · obtain ⟨services, rfl⟩ := registerAll_eq done
      simp only [complete, done, Prod.mk.injEq, Except.ok.injEq] at opened
      exact ⟨services, opened.1.symm⟩
  · intro space left refused
    rw [built] at refused
    rcases done : registerAll (prepared calls) (calls.filterMap registration?) world with
      ⟨cause | other | registry, ended⟩
    · simp [complete, done] at refused
    · simp only [complete, done, Prod.mk.injEq, Except.ok.injEq, Except.error.injEq] at refused
      obtain ⟨rfl, rfl⟩ := refused
      obtain ⟨earlier, as, service, later, taken, middle, whole, before, last⟩ :=
        registerAll_refused done
      obtain ⟨services, rfl⟩ := registerAll_eq before
      exact ⟨earlier, as, service, later, services, middle, whole, before, last⟩
    · simp [complete, done] at refused

/-- What can be seen of a description: how building it ends, and if it ends with a server, what that
answers to all that is done with it. -/
def seen (b : Builder W) (world : W) (deeds : List (Deed W)) :
    Except Panic (Except String (List (Option Answer))) :=
  match b.build world with
  | (.error cause, _) => .error cause
  | (.ok (.error space), _) => .ok (.error space)
  | (.ok (.ok server), left) => .ok (.ok ((Site.ofServer server left).replies deeds))

/-- Calls of different kinds may be given in any order. -/
theorem build_of_rearranged {calls others : List (BuilderCall W)}
    (rearranged : Rearranged calls others) (world : W) :
    (ofCalls others).build world = (ofCalls calls).build world ∧
      (∀ deeds, (ofCalls others).seen world deeds = (ofCalls calls).seen world deeds) ∧
      Defers calls world := by
  have options : others.foldl configure {} = calls.foldl configure {} :=
    rearranged.foldl BuilderCall.configure_swap {}
  have registry : prepared others = prepared calls := by
    rw [prepared, options]
    exact rearranged.foldl BuilderCall.prepare_swap _
  have same : (ofCalls others).build world = (ofCalls calls).build world := by
    rw [build_ofCalls, build_ofCalls, options, registry, rearranged.registrations]
  refine ⟨same, fun deeds => ?_, defers calls world⟩
  rw [seen, seen, same]

open Server (fallService)
open Setup (auditService)

/-- A service, and behind it the style that names are folded in and a name to leave out. -/
def settledLate : List (BuilderCall tallied) :=
  [.nameStyle .verbatim, .service auditService, .exclude ["AUDIT"], .nameStyle .snake]

def settledEarly : List (BuilderCall tallied) :=
  [.exclude ["AUDIT"], .nameStyle .verbatim, .nameStyle .snake, .service auditService]

theorem build_of_rearranged_audit : Rearranged settledEarly settledLate ∧
    (ofCalls settledLate).build untouched = (ofCalls settledEarly).build untouched ∧
    (∀ deeds, (ofCalls settledLate).seen untouched deeds = (ofCalls settledEarly).seen untouched deeds) ∧
    Defers settledEarly untouched ∧
    ((ofCalls settledLate).build untouched).1.toOption.bind (fun built =>
      built.toOption.map (·.registry.methodsOf "Demo")) = some ["fall"] := by
  have rearranged : Rearranged settledEarly settledLate := by
    intro kind
    cases kind <;> rfl
  obtain ⟨same, seen, defers⟩ := build_of_rearranged rearranged untouched
  exact ⟨rearranged, same, seen, defers, by decide +kernel⟩

end Builder

end JsonRpc
