import JsonRpc.Proofs.Registry.Table
import JsonRpc.Proofs.Service.Naming

namespace JsonRpc

variable {W : World}

/-- What may be done to a registry before it serves. -/
inductive Change (W : World) where
  | register (as : Option String) (service : Service W)
  | exclude (names : List String)
  | use (batch : List (Middleware W))
  | before (hook : String → List Json → Program W)
  | after (hook : String → List Json → Outcome → Program W)

def Change.barred : Change W → List String
  | .exclude names => names
  | .register _ _ | .use _ | .before _ | .after _ => []

/-- A registry that is being filled, and the world in which the code of its services runs. -/
structure Setup (W : World) where
  registry : Registry W
  world : W

/-- A try to register a service. `barred` are the names that have been excluded by then. -/
structure Try (W : World) where
  setup : Setup W
  barred : List String
  as : Option String
  service : Service W

namespace Setup

def ofStyle (style : NameStyle) (world : W) : Setup W := { registry := .ofStyle style, world }

def act (setup : Setup W) : Change W → Setup W
  | .register as service =>
    let (_, registry, world) := setup.registry.tryRegister as service setup.world
    { registry, world }
  | .exclude names => { setup with registry := setup.registry.exclude names }
  | .use batch => { setup with registry := setup.registry.useMiddleware batch }
  | .before hook => { setup with registry := setup.registry.setBefore hook }
  | .after hook => { setup with registry := setup.registry.setAfter hook }

def run (setup : Setup W) (changes : List (Change W)) : Setup W := changes.foldl act setup

def attempt? (setup : Setup W) (barred : List String) : Change W → Option (Try W)
  | .register as service => some { setup, barred, as, service }
  | .exclude _ | .use _ | .before _ | .after _ => none

def tries (setup : Setup W) (barred : List String) : List (Change W) → List (Try W)
  | [] => []
  | change :: changes =>
    (setup.attempt? barred change).toList
      ++ (setup.act change).tries (barred ++ change.barred) changes

end Setup

namespace Try

variable (t : Try W)

def reply : Registry.Registered :=
  (t.setup.registry.tryRegister t.as t.service t.setup.world).1

def after : Setup W := t.setup.act (.register t.as t.service)

/-- The namespace that the service is tried under: the one that is given, else the one that the
service names, else the name of its type. Only the service is asked, which leaves the world
`asked`. -/
inductive Asks : String → W → Prop where
  | given {name} (as : t.as = some name) : Asks name t.setup.world
  | own {name asked} (as : t.as = none)
      (named : t.service.ownNamespace t.setup.world = (.ok (some name), asked)) : Asks name asked
  | type {name asked} (as : t.as = none)
      (unnamed : t.service.ownNamespace t.setup.world = (.ok none, asked))
      (called : NamesType t.service.typeName name) : Asks name asked

def Names (space : String) (asked : W) : Prop :=
  ∃ raw, t.Asks raw asked ∧ t.setup.registry.style.apply raw = space

/-- The service is constructed, and then asked for its methods and for the names that it leaves out,
each of it once. -/
def Offers (asked : W) (methods : List (Method W)) (own : List String) (left : W) : Prop :=
  ∃ built bound, t.service.construct asked = (.ok (), built) ∧
    t.service.methods built = (.ok methods, bound) ∧ t.service.excluded bound = (.ok own, left)

def table (methods : List (Method W)) (own : List String) : List (String × Callback W) :=
  t.setup.registry.table t.service (own.map t.setup.registry.style.apply) methods []

/-- What a service offers to the registry has names for which it makes no difference that they are
folded again. -/
def Steady : Prop :=
  ∀ space asked methods own left, t.Names space asked → t.Offers asked methods own left →
    ∀ method ∈ methods, t.setup.registry.style.Steady method.name

section

-- which names are kept out, given a style and the names that are excluded
variable (out : NameStyle → List String → String → Prop)

/-- A service qualifies for a namespace with a method that is not kept out. -/
def Qualifies (space : String) : Prop :=
  ∃ asked methods own left, t.Names space asked ∧ t.Offers asked methods own left ∧
    ∃ method ∈ methods, ¬ out t.setup.registry.style (t.barred ++ own) method.name

/-- What a try leaves in the registry when it succeeds. -/
structure Founds (space : String) (entry : Entry W) : Prop where
  reply : t.reply = .ok (.ok true)
  qualifies : t.Qualifies out space
  receiver : entry.receiver = t.service
  filled : entry.methods ≠ []
  distinct : (entry.methods.map (·.1)).Nodup
  named : ∀ name cb, (name, cb) ∈ entry.methods → cb.name = name ∧ cb.receiver = entry.receiver
  made : ∃ asked methods own, t.Names space asked ∧ t.Offers asked methods own t.after.world ∧
    ∀ name cb, lookup? name entry.methods = some cb ↔ ∃ method,
      t.setup.registry.style.BindsLast (out t.setup.registry.style (t.barred ++ own)) methods name
        method ∧ cb = method.exposed name t.service

end

/-- A try under a namespace that is taken is refused; no more of the service is asked than its
namespace. -/
def Yields (space : String) : Prop :=
  ∀ asked, t.Names space asked →
    t.reply = .ok (.error space) ∧ t.after = { t.setup with world := asked }

end Try

namespace Registry

variable {registry : Registry W} {barred : List String}

theorem exclude_eq (registry : Registry W) (names : List String) :
    ∃ excluded, registry.exclude names = { registry with excluded } := by
  induction names generalizing registry with
  | nil => exact ⟨_, rfl⟩
  | cons name names hypothesis =>
    simp only [exclude]
    split
    · exact hypothesis registry
    · obtain ⟨excluded, same⟩ :=
        hypothesis { registry with excluded := registry.excluded ++ [registry.style.apply name] }
      exact ⟨excluded, same⟩

theorem Bars.ofStyle (style : NameStyle) : (Registry.ofStyle style : Registry W).Bars [] := by
  intro folded
  rfl

theorem Bars.exclude (bars : registry.Bars barred) (names : List String) :
    (registry.exclude names).Bars (barred ++ names) := by
  induction names generalizing registry barred with
  | nil => simpa [Registry.exclude] using bars
  | cons name names hypothesis =>
    rw [List.append_cons]
    simp only [Registry.exclude]
    split
    · rename_i known
      refine hypothesis fun folded => ?_
      have listed : registry.style.apply name ∈ barred.map registry.style.apply :=
        (bars _).mp (by simpa using known)
      rw [bars folded, List.map_append, List.mem_append]
      constructor
      · exact .inl
      · rintro (member | fresh)
        · exact member
        · rw [List.map_singleton, List.mem_singleton] at fresh
          rwa [fresh]
    · have added : Registry.Bars
          { registry with excluded := registry.excluded ++ [registry.style.apply name] }
          (barred ++ [name]) := by
        intro folded
        rw [List.map_append, List.mem_append, List.mem_append, bars folded]
        rfl
      exact hypothesis added

theorem exposed_eq_ok_iff {t : Try W} {asked left : W} {shown : List (String × Callback W)} :
    t.setup.registry.exposed t.service asked = (.ok shown, left) ↔
      ∃ methods own, t.Offers asked methods own left ∧ shown = t.table methods own := by
  rw [exposed]
  constructor
  · intro ended
    rcases constructed : t.service.construct asked with ⟨cause | ⟨⟩, built⟩
    · simp [constructed] at ended
    rcases listed : t.service.methods built with ⟨cause | methods, bound⟩
    · simp [constructed, listed] at ended
    rcases kept : t.service.excluded bound with ⟨cause | own, final⟩
    · simp [constructed, listed, kept] at ended
    · simp only [constructed, listed, kept, Prod.mk.injEq, Except.ok.injEq] at ended
      obtain ⟨rfl, rfl⟩ := ended
      exact ⟨methods, own, ⟨built, bound, constructed, listed, kept⟩, rfl⟩
  · rintro ⟨methods, own, ⟨built, bound, constructed, listed, kept⟩, rfl⟩
    simp only [constructed, listed, kept, Try.table]

end Registry

namespace Try

variable {t : Try W} {space other : String} {asked : W}

theorem asks_iff {raw : String} :
    t.Asks raw asked ↔ Registry.spaceOf t.as t.service t.setup.world = (.ok raw, asked) := by
  constructor
  · intro asks
    cases asks with
    | given as => simp [Registry.spaceOf, as]
    | own as named => simp [Registry.spaceOf, as, named]
    | type as unnamed called => simp [Registry.spaceOf, as, unnamed, namesType_iff.mp called]
  · intro told
    unfold Registry.spaceOf at told
    cases as : t.as with
    | some name =>
      simp only [as, Prod.mk.injEq, Except.ok.injEq] at told
      obtain ⟨rfl, rfl⟩ := told
      exact .given as
    | none =>
      rcases named : t.service.ownNamespace t.setup.world with ⟨cause | name | name, world⟩
      · simp [as, named] at told
      · simp only [as, named, Option.getD_none, Prod.mk.injEq, Except.ok.injEq] at told
        obtain ⟨called, rfl⟩ := told
        exact .type as named (namesType_iff.mpr called)
      · simp only [as, named, Option.getD_some, Prod.mk.injEq, Except.ok.injEq] at told
        obtain ⟨rfl, rfl⟩ := told
        exact .own as named

theorem Names.unique {also : W} (first : t.Names space asked) (second : t.Names other also) :
    other = space ∧ also = asked := by
  obtain ⟨raw, told, rfl⟩ := first
  obtain ⟨again, retold, rfl⟩ := second
  rw [asks_iff] at told retold
  rw [told] at retold
  cases retold
  exact ⟨rfl, rfl⟩

theorem Offers.unique {methods again : List (Method W)} {own other : List String} {left also : W}
    (first : t.Offers asked methods own left) (second : t.Offers asked again other also) :
    again = methods ∧ other = own := by
  obtain ⟨built, bound, constructed, listed, kept⟩ := first
  obtain ⟨rebuilt, rebound, reconstructed, relisted, rekept⟩ := second
  rw [constructed] at reconstructed
  cases reconstructed
  rw [listed] at relisted
  cases relisted
  rw [kept] at rekept
  cases rekept
  exact ⟨rfl, rfl⟩

theorem qualifies_iff_of_steady (steady : t.Steady) :
    t.Qualifies NameStyle.Hides space ↔ t.Qualifies NameStyle.Excludes space := by
  unfold Qualifies
  constructor
  · rintro ⟨asked, methods, own, left, named, offers, method, member, visible⟩
    have same := (steady _ _ _ _ _ named offers method member).hides_iff (t.barred ++ own)
    exact ⟨asked, methods, own, left, named, offers, method, member, mt same.mpr visible⟩
  · rintro ⟨asked, methods, own, left, named, offers, method, member, visible⟩
    have same := (steady _ _ _ _ _ named offers method member).hides_iff (t.barred ++ own)
    exact ⟨asked, methods, own, left, named, offers, method, member, mt same.mp visible⟩

theorem Founds.of_steady {entry : Entry W} (founds : t.Founds NameStyle.Hides space entry)
    (steady : t.Steady) : t.Founds NameStyle.Excludes space entry where
  reply := founds.reply
  qualifies := (qualifies_iff_of_steady steady).mp founds.qualifies
  receiver := founds.receiver
  filled := founds.filled
  distinct := founds.distinct
  named := founds.named
  made := by
    obtain ⟨asked, methods, own, named, offers, made⟩ := founds.made
    refine ⟨asked, methods, own, named, offers, fun name cb => ?_⟩
    rw [made]
    refine exists_congr fun method => and_congr_left' (NameStyle.BindsLast.congr fun m member => ?_)
    exact (steady _ _ _ _ _ named offers m member).hides_iff _

theorem Founds.visible {out : NameStyle → List String → String → Prop} {entry : Entry W}
    (founds : t.Founds out space entry) {name : String} (listed : name ∈ entry.methods.map (·.1)) :
    ∃ asked methods own left, t.Offers asked methods own left ∧ ∃ method ∈ methods,
      t.setup.registry.style.apply method.name = name ∧
        ¬ out t.setup.registry.style (t.barred ++ own) method.name := by
  obtain ⟨asked, methods, own, -, offers, made⟩ := founds.made
  obtain ⟨cb, found⟩ := Option.isSome_iff_exists.mp (mem_keys_iff.mp listed)
  obtain ⟨method, ⟨before, later, rfl, titled, visible, -⟩, -⟩ := (made name cb).mp found
  exact ⟨asked, _, own, _, offers, method, by simp, titled, visible⟩

theorem yields_of_held (held : (lookup? space t.setup.registry.services).isSome = true) :
    t.Yields space := by
  rintro asked ⟨raw, asks, rfl⟩
  have told := asks_iff.mp asks
  simp [reply, after, Setup.act, Registry.tryRegister, told, held]

section

variable (bars : t.setup.registry.Bars t.barred) (methods : List (Method W)) (own : List String)

include bars

theorem lookup?_table_iff (name : String) (cb : Callback W) :
    lookup? name (t.table methods own) = some cb ↔ ∃ method, t.setup.registry.style.BindsLast
      (t.setup.registry.style.Hides (t.barred ++ own)) methods name method ∧
        cb = method.exposed name t.service := by
  rw [table, Registry.lookup?_table bars]
  simp only [lookup?, List.find?_nil, Option.map_none, Option.or_none, Option.map_eq_some_iff,
    NameStyle.lastBound?_eq_some_iff, eq_comm (a := cb)]

theorem exists_visible (full : t.table methods own ≠ []) : ∃ method ∈ methods,
    ¬ t.setup.registry.style.Hides (t.barred ++ own) method.name := by
  by_contra none_visible
  refine full ((Registry.table_eq_nil_iff bars t.service own methods).mpr fun method member => ?_)
  by_contra shown
  exact none_visible ⟨method, member, shown⟩

theorem named_of_mem (distinct : ((t.table methods own).map (·.1)).Nodup) (name : String)
    (cb : Callback W) (member : (name, cb) ∈ t.table methods own) :
    cb.name = name ∧ cb.receiver = t.service := by
  have there := lookup?_of_mem distinct member
  rw [lookup?_table_iff bars] at there
  obtain ⟨method, -, rfl⟩ := there
  exact ⟨rfl, rfl⟩

variable {methods own} {left : W}

theorem founds (named : t.Names space asked)
    (vacant : lookup? space t.setup.registry.services = none)
    (offers : t.Offers asked methods own left) (full : t.table methods own ≠ []) :
    let entry : Entry W := { receiver := t.service, methods := t.table methods own }
    t.after.registry = { t.setup.registry with
        services := t.setup.registry.services ++ [(space, entry)] } ∧
      t.Founds NameStyle.Hides space entry := by
  intro entry
  have ended : t.setup.registry.tryRegister t.as t.service t.setup.world =
      (.ok (.ok true), { t.setup.registry with
        services := t.setup.registry.services ++ [(space, entry)] }, left) := by
    obtain ⟨raw, asks, rfl⟩ := named
    have told := asks_iff.mp asks
    have shown := Registry.exposed_eq_ok_iff.mpr ⟨methods, own, offers, rfl⟩
    have exposes : (t.table methods own).isEmpty = false := by simpa [List.isEmpty_iff] using full
    simp only [Registry.tryRegister, told, vacant, shown, exposes, Option.isSome_none]
    rfl
  have world : t.after.world = left := by rw [after, Setup.act, ended]
  have distinct : ((t.table methods own).map (·.1)).Nodup :=
    Registry.keys_table_nodup t.service _ methods List.nodup_nil
  refine ⟨by rw [after, Setup.act, ended], ?_⟩
  exact
    { reply := by rw [reply, ended]
      qualifies := ⟨asked, methods, own, left, named, offers, exists_visible bars methods own full⟩
      receiver := rfl
      filled := full
      distinct
      named := named_of_mem bars methods own distinct
      made := ⟨asked, methods, own, named, world ▸ offers, lookup?_table_iff bars methods own⟩ }

end

/-- A try either leaves the registry as it was, or puts one entry behind all others. -/
theorem fate (bars : t.setup.registry.Bars t.barred) :
    (t.after.registry = t.setup.registry ∧
      ∀ space, lookup? space t.setup.registry.services = none →
        ¬ t.Qualifies NameStyle.Hides space) ∨
    ∃ space entry, lookup? space t.setup.registry.services = none ∧
      t.after.registry = { t.setup.registry with
        services := t.setup.registry.services ++ [(space, entry)] } ∧
      t.Founds NameStyle.Hides space entry ∧
      ∀ other, t.Qualifies NameStyle.Hides other → other = space := by
  rcases told : Registry.spaceOf t.as t.service t.setup.world with ⟨cause | raw, asked⟩
  · refine .inl ⟨by simp [after, Setup.act, Registry.tryRegister, told], ?_⟩
    rintro space - ⟨_, _, _, _, ⟨raw, named, -⟩, -⟩
    rw [asks_iff, told] at named
    cases named
  have named : t.Names (t.setup.registry.style.apply raw) asked := ⟨raw, asks_iff.mpr told, rfl⟩
  -- the namespace is taken, the service fails on the way, it has nothing to expose, or it founds
  cases vacant : lookup? (t.setup.registry.style.apply raw) t.setup.registry.services with
  | some entry =>
    refine .inl ⟨by simp [after, Setup.act, Registry.tryRegister, told, vacant], ?_⟩
    rintro space free ⟨_, _, _, _, again, -⟩
    rw [(named.unique again).1, vacant] at free
    cases free
  | none =>
    rcases shown : t.setup.registry.exposed t.service asked with ⟨cause | table, left⟩
    · refine .inl ⟨by simp [after, Setup.act, Registry.tryRegister, told, vacant, shown], ?_⟩
      rintro space - ⟨also, methods, own, final, again, offers, -⟩
      obtain ⟨-, rfl⟩ := named.unique again
      rw [Registry.exposed_eq_ok_iff.mpr ⟨methods, own, offers, rfl⟩] at shown
      cases shown
    obtain ⟨methods, own, offers, rfl⟩ := Registry.exposed_eq_ok_iff.mp shown
    by_cases empty : t.table methods own = []
    · refine .inl ⟨by simp [after, Setup.act, Registry.tryRegister, told, vacant, shown, empty], ?_⟩
      rintro space - ⟨also, others, out, final, again, offered, method, member, visible⟩
      obtain ⟨-, rfl⟩ := named.unique again
      obtain ⟨rfl, rfl⟩ := offers.unique offered
      have hidden := (Registry.table_eq_nil_iff bars t.service out others).mp empty
      exact visible (hidden method member)
    · obtain ⟨entered, founds⟩ := founds bars named vacant offers empty
      refine .inr ⟨_, _, vacant, entered, founds, ?_⟩
      rintro other ⟨_, _, _, _, again, -⟩
      exact (named.unique again).1

theorem keeps (bars : t.setup.registry.Bars t.barred) {entry : Entry W}
    (held : lookup? space t.setup.registry.services = some entry) :
    lookup? space t.after.registry.services = some entry := by
  rcases t.fate bars with ⟨same, -⟩ | ⟨other, added, -, entered, -, -⟩
  · rw [same, held]
  · rw [entered, lookup?_append, held, Option.some_or]

/-- A free namespace is taken by a try that qualifies for it, and by no other. -/
theorem settles (bars : t.setup.registry.Bars t.barred)
    (free : lookup? space t.setup.registry.services = none) :
    (lookup? space t.after.registry.services = none ∧ ¬ t.Qualifies NameStyle.Hides space) ∨
      ∃ entry, lookup? space t.after.registry.services = some entry ∧
        t.Founds NameStyle.Hides space entry := by
  rcases t.fate bars with ⟨same, fails⟩ | ⟨other, entry, -, entered, founds, only⟩
  · exact .inl ⟨by rw [same, free], fails space free⟩
  · by_cases named : other = space
    · subst named
      exact .inr ⟨entry, by rw [entered, lookup?_append, free]; simp [lookup?], founds⟩
    · refine .inl ⟨?_, fun qualifies => named (only space qualifies).symm⟩
      rw [entered, lookup?_append, free]
      simp [lookup?, named]

theorem namespaces_nodup (bars : t.setup.registry.Bars t.barred)
    (distinct : t.setup.registry.namespaces.Nodup) : t.after.registry.namespaces.Nodup := by
  rcases t.fate bars with ⟨same, -⟩ | ⟨space, entry, free, entered, -, -⟩
  · rw [same]
    exact distinct
  · have fresh : space ∉ t.setup.registry.namespaces := by
      rw [Registry.namespaces, mem_keys_iff, free]
      exact Bool.false_ne_true
    simp only [entered, Registry.namespaces, List.map_append, List.map_singleton]
    exact List.Nodup.append distinct (List.nodup_singleton space)
      (List.disjoint_singleton.mpr fresh)

theorem after_eq (bars : t.setup.registry.Bars t.barred) :
    ∃ services, t.after.registry = { t.setup.registry with services } := by
  rcases t.fate bars with ⟨same, -⟩ | ⟨space, entry, -, entered, -, -⟩
  · exact ⟨_, same⟩
  · exact ⟨_, entered⟩

end Try

end JsonRpc
