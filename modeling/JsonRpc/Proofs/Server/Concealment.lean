import JsonRpc.Proofs.Registry.Atomicity
import JsonRpc.Proofs.Server.Execution
import JsonRpc.Proofs.Server.Reached

namespace JsonRpc

variable {W : World}

/-- A method is kept out for its name: the name is reserved, or is folded as an excluded one is. A
folded name is folded once more before it is looked for among the excluded ones, so that one that
this changes is missed there. -/
def NameStyle.Bans (style : NameStyle) (barred : List String) (bound : String) : Prop :=
  NameStyle.snake.apply bound ∈ Registry.reserved ∨
    style.apply (style.apply bound) = style.apply bound ∧
      ∃ name ∈ barred, style.apply name = style.apply bound

theorem NameStyle.hides_of_bans {style : NameStyle} {barred : List String} {bound : String}
    (bans : style.Bans barred bound) : style.hides barred bound = true := by
  rcases bans with reserved | ⟨settled, excluded⟩
  · exact hides_of_reserved style reserved barred
  · exact (hides_iff_of_settled settled barred).mpr (.inr excluded)

theorem NameStyle.bans_of_hides {style : NameStyle} {barred : List String} {bound : String}
    (settled : style.apply (style.apply bound) = style.apply bound)
    (hidden : style.hides barred bound = true) : style.Bans barred bound :=
  ((hides_iff_of_settled settled barred).mp hidden).imp_right fun excluded => ⟨settled, excluded⟩

/-- What a registry shows of the methods of a service under a spelling of its namespace, where
`barred` are the names that were excluded for it. -/
structure Registry.Shows (registry : Registry W) (spelling : String) (barred : List String)
    (methods : List (Method W)) : Prop where
  /-- A banned name is not listed, and is found under no spelling of its own. -/
  unlisted : ∀ bound, registry.style.Bans barred bound →
    registry.style.apply bound ∉ registry.methodsOf spelling ∧
      ∀ name, registry.style.apply name = registry.style.apply bound →
        registry.lookup spelling name = .error (.noMethod "no method")
  /-- All other names are listed that folding leaves alone once they are folded. -/
  listed : ∀ method ∈ methods,
    registry.style.apply (registry.style.apply method.name) = registry.style.apply method.name →
    ¬ registry.style.Bans barred method.name →
      registry.style.apply method.name ∈ registry.methodsOf spelling

namespace Try

variable {t : Try W}

theorem founds_of_reply (bars : t.setup.registry.Bars t.barred)
    (succeeded : t.reply = .ok (.ok true)) :
    ∃ space entry, lookup? space t.after.registry.services = some entry ∧
      t.Founds NameStyle.Hides space entry := by
  rcases t.fate bars with ⟨same, -⟩ | ⟨space, entry, free, entered, founds, -⟩
  · have attempt := t.setup.registry.attempt t.as t.service t.setup.world
    have unchanged : (t.setup.registry.tryRegister t.as t.service t.setup.world).2.1 =
        t.setup.registry := same
    rw [reply] at succeeded
    generalize t.setup.registry.tryRegister t.as t.service t.setup.world = ended
      at attempt succeeded unchanged
    cases attempt with
    | panicked | refused | skipped => cases succeeded
    | entered => simpa using congrArg Registry.services unchanged
  · refine ⟨space, entry, ?_, founds⟩
    rw [entered, lookup?_append, free]
    simp [lookup?]

end Try

namespace Setup

theorem style_of_tries {setup : Setup W} {barred : List String} {changes : List (Change W)} :
    ∀ t ∈ setup.tries barred changes, t.setup.registry.style = setup.registry.style := by
  induction changes generalizing setup barred with
  | nil => simp [tries]
  | cons change changes hypothesis =>
    intro t member
    rcases List.mem_append.mp member with first | later
    · cases change with
      | register as service =>
        obtain rfl := List.mem_singleton.mp first
        rfl
      | exclude | use | before | after => cases first
    · rw [hypothesis t later, (setup.grown_act change).style]

theorem Filled.founded {style : NameStyle} {past : List (Try W)} {barred : List String}
    {setup : Setup W} (filled : setup.Filled style past barred) (changes : List (Change W)) :
    ∀ t ∈ setup.tries barred changes, t.reply = .ok (.ok true) →
      ∃ space entry, lookup? space (setup.run changes).registry.services = some entry ∧
        t.Founds NameStyle.Hides space entry := by
  induction changes generalizing setup past barred with
  | nil => simp [tries]
  | cons change changes hypothesis =>
    intro t member succeeded
    rcases List.mem_append.mp member with first | later
    · cases change with
      | register as service =>
        obtain rfl := List.mem_singleton.mp first
        obtain ⟨space, entry, held, founds⟩ := Try.founds_of_reply filled.bars succeeded
        exact ⟨space, entry, (filled.act (.register as service)).keeps_run held changes, founds⟩
      | exclude | use | before | after => cases first
    · exact hypothesis (filled.act change) t later succeeded

theorem shows_of_founds {setup : Setup W} {t : Try W} {space : String} {entry : Entry W}
    (styled : t.setup.registry.style = setup.registry.style)
    (held : lookup? space setup.registry.services = some entry)
    (founds : t.Founds NameStyle.Hides space entry)
    {spelling : String} {asked left : W} {methods : List (Method W)} {own : List String}
    (named : t.Names (setup.registry.style.apply spelling) asked)
    (offers : t.Offers asked methods own left) :
    setup.registry.Shows spelling (t.barred ++ own) methods := by
  obtain ⟨wished, offered, kept, again, reoffered, made⟩ := founds.made
  obtain ⟨rfl, rfl⟩ := named.unique again
  obtain ⟨rfl, rfl⟩ := reoffered.unique offers
  have entered : setup.registry.entry? spelling = some entry := held
  rw [styled] at made
  refine { unlisted := fun bound bans => ?_, listed := fun method offered settled allowed => ?_ }
  · -- a method of another name that is folded alike would be kept out as well
    have vacant : lookup? (setup.registry.style.apply bound) entry.methods = none := by
      rw [Option.eq_none_iff_forall_ne_some]
      intro cb found
      obtain ⟨method, ⟨_, _, -, alike, visible, -⟩, -⟩ := (made _ _).mp found
      exact visible ((NameStyle.hides_congr alike).trans (NameStyle.hides_of_bans bans))
    refine ⟨?_, fun name alike => ?_⟩
    · simp only [Registry.methodsOf, entered, mem_keys_iff, vacant, Option.isSome_none,
        Bool.false_eq_true, not_false_eq_true]
    · simp only [Registry.lookup, entered, alike, vacant]
  · have visible : ¬ setup.registry.style.Hides (t.barred ++ own) method.name :=
      mt (NameStyle.bans_of_hides settled) allowed
    obtain ⟨last, binds⟩ := NameStyle.exists_bindsLast offered visible
    have found := (made _ _).mpr ⟨last, binds, rfl⟩
    simp only [Registry.methodsOf, entered, mem_keys_iff, found, Option.isSome_some]

/-- A callback stands for a method that a registered service has bound under a name that is not
banned. -/
def Exposes (setup : Setup W) (past : List (Try W)) (cb : Callback W) : Prop :=
  ∃ t ∈ past, t.reply = .ok (.ok true) ∧ ∃ space asked methods own left,
    t.Names space asked ∧ t.Offers asked methods own left ∧
    ∃ method ∈ methods, cb = method.exposed (setup.registry.style.apply method.name) t.service ∧
      ¬ setup.registry.style.Bans (t.barred ++ own) method.name

theorem Filled.exposes {style : NameStyle} {past : List (Try W)} {barred : List String}
    {setup : Setup W} (filled : setup.Filled style past barred) {space name : String}
    {cb : Callback W} (found : setup.registry.lookup space name = .ok cb) :
    setup.Exposes past cb := by
  obtain ⟨entry, entered, bound⟩ := Registry.lookup_eq_ok_iff.mp found
  obtain ⟨earlier, t, later, rfl, -, styled, founds, -⟩ := filled.held _ entry entered
  obtain ⟨asked, methods, own, named, offers, made⟩ := founds.made
  obtain ⟨method, ⟨before, after, rfl, titled, visible, -⟩, rfl⟩ := (made _ _).mp bound
  rw [styled, ← filled.styled] at titled visible
  refine ⟨t, by simp, founds.reply, _, asked, _, own, _, named, offers, method, by simp, ?_, ?_⟩
  · rw [titled]
  · exact fun bans => visible (NameStyle.hides_of_bans bans)

end Setup

theorem Server.resolved_of_handled {server : Server W} {s : Surroundings} {request : Http.Request}
    {world : W} {e : Event W} {cb : Callback W} {bound : Bound W}
    (runs : e.method? = some (cb, bound))
    (member : e ∈ (server.recordHandle s request world).events) :
    ∃ method, server.registry.resolve method = .ok cb := by
  obtain ⟨_, resolved, -⟩ := reaches_of_handled runs member
  obtain ⟨_, _, -, -, -, found⟩ := resolveCall_inbound resolved
  exact ⟨_, found⟩

namespace Setup

open Server (fallMethod fallService)

structure Conceals (setup : Setup W) (past : List (Try W)) : Prop where
  shown : ∀ t ∈ past, t.reply = .ok (.ok true) → ∀ spelling asked methods own left,
    t.Names (setup.registry.style.apply spelling) asked → t.Offers asked methods own left →
      setup.registry.Shows spelling (t.barred ++ own) methods
  found : ∀ space name cb, setup.registry.lookup space name = .ok cb → setup.Exposes past cb
  resolved : ∀ method cb, setup.registry.resolve method = .ok cb → setup.Exposes past cb
  /-- Nothing else is run, whatever the middleware makes of a call. -/
  ran : ∀ (options : Options) (start : W) (deeds : List (Deed W)),
    let site := (Site.ofServer (Server.ofRegistry setup.registry options) start).run deeds
    ∀ s request cb bound m,
      .method cb bound m ∈ (site.server.recordHandle s request site.world).events →
        setup.Exposes past cb

/-- Reserved names and excluded ones are never exposed, whatever is registered before or after. -/
theorem run_conceals (style : NameStyle) (world : W) (changes : List (Change W)) :
    ((ofStyle style world).run changes).Conceals ((ofStyle style world).tries [] changes) := by
  have start := Filled.ofStyle style world
  have filled := start.run changes
  rw [List.nil_append, List.nil_append] at filled
  have resolved : ∀ method cb,
      ((ofStyle style world).run changes).registry.resolve method = .ok cb →
      ((ofStyle style world).run changes).Exposes ((ofStyle style world).tries [] changes) cb := by
    intro method cb found
    obtain ⟨space, name, -, found⟩ := Registry.resolve_eq_ok_iff.mp found
    exact filled.exposes found
  refine
    { shown := ?_
      found := fun space name cb => filled.exposes
      resolved
      ran := ?_ }
  · intro t tried succeeded spelling asked methods own left named offers
    obtain ⟨other, entry, held, founds⟩ := start.founded changes t tried succeeded
    have styled : t.setup.registry.style = ((ofStyle style world).run changes).registry.style := by
      rw [style_of_tries t tried, filled.styled]
      rfl
    exact shows_of_founds styled held founds named offers
  · intro options start deeds site s request cb bound m member
    have same : site.server.registry = ((ofStyle style world).run changes).registry :=
      (Site.run_ofRegistry _ options start deeds).1
    obtain ⟨method, found⟩ := Server.resolved_of_handled rfl member
    rw [same] at found
    exact resolved method cb found

def auditMethod : Method tallied := { fallMethod with name := "Audit" }

def auditService : Service tallied :=
  { fallService with methods := fun world => (.ok [auditMethod, fallMethod], world) }

theorem run_conceals_audit :
    let changes : List (Change tallied) := [.exclude ["audit"], .register none auditService]
    let setup := (ofStyle .snake untouched).run changes
    setup.Conceals ((ofStyle .snake untouched).tries [] changes) ∧
      NameStyle.snake.Bans ["audit"] "Audit" ∧ setup.registry.methodsOf "demo" = ["fall"] ∧
      setup.registry.lookup "Demo" "AUDIT" = .error (.noMethod "no method") := by
  intro changes setup
  have conceals := run_conceals .snake untouched changes
  have bans : NameStyle.snake.Bans ["audit"] "Audit" :=
    .inr ⟨by decide +kernel, "audit", by simp, by decide +kernel⟩
  let t : Try tallied :=
    { setup := (ofStyle .snake untouched).act (.exclude ["audit"])
      barred := ["audit"], as := none, service := auditService }
  have named : t.Names (setup.registry.style.apply "Demo") untouched :=
    ⟨"Demo", Try.asks_iff.mpr (by decide +kernel), by decide +kernel⟩
  have offers : t.Offers untouched [auditMethod, fallMethod] [] untouched :=
    ⟨untouched, untouched, rfl, rfl, rfl⟩
  have succeeded : t.reply = .ok (.ok true) := by decide +kernel
  have tried : t ∈ (ofStyle .snake untouched).tries [] changes := List.mem_singleton.mpr rfl
  have shows := conceals.shown t tried succeeded "Demo" untouched _ [] untouched named offers
  obtain ⟨-, absent⟩ := shows.unlisted "Audit" bans
  exact ⟨conceals, bans, by decide +kernel, absent "AUDIT" (by decide +kernel)⟩

/-- A method is listed under what its name is folded to, and found under the name itself. -/
def Leaks (setup : Setup tallied) (space bound : String) : Prop :=
  let folded := setup.registry.style.apply bound
  folded ∈ setup.registry.methodsOf space ∧
    (setup.registry.lookup space bound).toOption.map Callback.name = some folded ∧
    (setup.registry.resolve (space ++ "." ++ bound)).toOption.map Callback.name = some folded

/-- A capital I with a dot loses its dot from the word when it is put in lower case, so that folding
a name with it again changes it. To exclude such a name is of no avail, in the registry or in the
service. -/
theorem excluded_leaks :
    let methods : Effect tallied (List (Method tallied)) :=
      fun world => (.ok [{ fallMethod with name := "İx" }], world)
    let plain := { fallService with methods }
    let shy := { plain with excluded := fun world => (.ok ["İx"], world) }
    Leaks ((ofStyle .snake untouched).run [.exclude ["İx"], .register none plain]) "demo" "İx" ∧
      Leaks ((ofStyle .snake untouched).run [.register none shy]) "demo" "İx" := by
  unfold Leaks
  decide +kernel

end Setup

end JsonRpc
