import JsonRpc.Proofs.Registry.Tries

namespace JsonRpc

variable {W : World}

namespace Setup

/-- How a registry stands after some tries: under each namespace there is what the first of them that
qualifies has left, and all later ones were refused there. -/
structure Filled (style : NameStyle) (past : List (Try W)) (barred : List String)
    (setup : Setup W) : Prop where
  styled : setup.registry.style = style
  bars : setup.registry.Bars barred
  distinct : setup.registry.namespaces.Nodup
  vacant : ∀ space, lookup? space setup.registry.services = none →
    ∀ t ∈ past, ¬ t.Qualifies NameStyle.Hides space
  held : ∀ space entry, lookup? space setup.registry.services = some entry →
    ∃ earlier t later, past = earlier ++ t :: later ∧
      (∀ u ∈ earlier, ¬ u.Qualifies NameStyle.Hides space) ∧
      t.setup.registry.style = style ∧ t.Founds NameStyle.Hides space entry ∧
      ∀ u ∈ later, u.Yields space

theorem Filled.ofStyle (style : NameStyle) (world : W) :
    (Setup.ofStyle style world).Filled style [] [] where
  styled := rfl
  bars := .ofStyle style
  distinct := List.nodup_nil
  vacant := by simp
  held := by simp [Setup.ofStyle, Registry.ofStyle, lookup?]

namespace Filled

variable {style : NameStyle} {past : List (Try W)} {barred : List String} {setup : Setup W}
  (filled : setup.Filled style past barred)

include filled

theorem of_same_services {next : Setup W} {more : List String}
    (services : next.registry.services = setup.registry.services)
    (styles : next.registry.style = setup.registry.style)
    (bars : next.registry.Bars more) : next.Filled style past more where
  styled := styles.trans filled.styled
  bars
  distinct := by
    rw [Registry.namespaces, services]
    exact filled.distinct
  vacant := by
    rw [services]
    exact filled.vacant
  held := by
    rw [services]
    exact filled.held

theorem tried {t : Try W} (here : t.setup = setup) (known : t.barred = barred) :
    t.after.Filled style (past ++ [t]) barred := by
  subst here known
  obtain ⟨services, same⟩ := Try.after_eq filled.bars
  refine
    { styled := by rw [same, filled.styled]
      bars := by rw [same]; exact filled.bars
      distinct := Try.namespaces_nodup filled.bars filled.distinct
      vacant := ?_, held := ?_ }
  · intro space free u member
    cases before : lookup? space t.setup.registry.services with
    | some entry =>
      rw [Try.keeps filled.bars before] at free
      cases free
    | none =>
      rcases Try.settles filled.bars before with ⟨-, fails⟩ | ⟨entry, taken, -⟩
      · rcases List.mem_append.mp member with past | last
        · exact filled.vacant space before u past
        · rwa [List.mem_singleton.mp last]
      · rw [taken] at free
        cases free
  · intro space entry found
    cases before : lookup? space t.setup.registry.services with
    | some other =>
      rw [Try.keeps filled.bars before] at found
      cases found
      obtain ⟨earlier, u, later, rfl, first, styled, founds, refused⟩ :=
        filled.held space entry before
      refine ⟨earlier, u, later ++ [t], by simp, first, styled, founds, fun v member => ?_⟩
      rcases List.mem_append.mp member with past | last
      · exact refused v past
      · rw [List.mem_singleton.mp last]
        exact Try.yields_of_held (by rw [before]; rfl)
    | none =>
      rcases Try.settles filled.bars before with ⟨vacant, -⟩ | ⟨other, taken, founds⟩
      · rw [vacant] at found
        cases found
      · rw [taken] at found
        cases found
        exact ⟨past, t, [], rfl, filled.vacant space before, filled.styled, founds, by simp⟩

theorem act (change : Change W) : (setup.act change).Filled style
    (past ++ (setup.attempt? barred change).toList) (barred ++ change.barred) := by
  cases change with
  | register as service =>
    rw [Change.barred, List.append_nil]
    exact filled.tried (t := { setup, barred, as, service }) rfl rfl
  | exclude names =>
    obtain ⟨excluded, same⟩ := setup.registry.exclude_eq names
    rw [attempt?, Option.toList_none, List.append_nil]
    refine filled.of_same_services ?_ ?_ (filled.bars.exclude names)
    · simp only [Setup.act, same]
    · simp only [Setup.act, same]
  | use | before | after =>
    rw [Change.barred, attempt?, Option.toList_none, List.append_nil, List.append_nil]
    exact filled.of_same_services rfl rfl filled.bars

theorem run (changes : List (Change W)) : (setup.run changes).Filled style
    (past ++ setup.tries barred changes) (barred ++ changes.flatMap Change.barred) := by
  induction changes generalizing setup past barred with
  | nil => simpa [Setup.run, tries] using filled
  | cons change changes hypothesis =>
    have rest := hypothesis (filled.act change)
    rw [List.append_assoc, List.append_assoc] at rest
    rw [List.flatMap_cons]
    exact rest

theorem keeps {space : String} {entry : Entry W}
    (held : lookup? space setup.registry.services = some entry) (change : Change W) :
    lookup? space (setup.act change).registry.services = some entry := by
  cases change with
  | register as service => exact Try.keeps (t := { setup, barred, as, service }) filled.bars held
  | exclude names =>
    obtain ⟨excluded, same⟩ := setup.registry.exclude_eq names
    simpa only [Setup.act, same] using held
  | use | before | after => exact held

theorem keeps_run {space : String} {entry : Entry W}
    (held : lookup? space setup.registry.services = some entry) (more : List (Change W)) :
    lookup? space (setup.run more).registry.services = some entry := by
  induction more generalizing setup past barred with
  | nil => exact held
  | cons change more hypothesis => exact hypothesis (filled.act change) (filled.keeps held change)

end Filled

structure Holds (out : NameStyle → List String → String → Prop) (style : NameStyle) (world : W)
    (changes : List (Change W)) (space : String) : Prop where
  free_iff : lookup? space ((ofStyle style world).run changes).registry.services = none ↔
    ∀ t ∈ (ofStyle style world).tries [] changes, ¬ t.Qualifies out space
  /-- The first try that qualifies for a namespace founds it, those that follow it are refused. -/
  founded : ∀ entry,
    lookup? space ((ofStyle style world).run changes).registry.services = some entry →
    ∃ earlier t later, (ofStyle style world).tries [] changes = earlier ++ t :: later ∧
      (∀ u ∈ earlier, ¬ u.Qualifies out space) ∧ t.setup.registry.style = style ∧
      t.Founds out space entry ∧ ∀ u ∈ later, u.Yields space
  kept : ∀ entry,
    lookup? space ((ofStyle style world).run changes).registry.services = some entry →
    ∀ more, lookup? space ((ofStyle style world).run (changes ++ more)).registry.services =
      some entry

theorem holds_of_filled {style : NameStyle} {world : W} {changes : List (Change W)}
    {barred : List String} (filled : ((ofStyle style world).run changes).Filled style
      ((ofStyle style world).tries [] changes) barred) (space : String) :
    Holds NameStyle.Hides style world changes space where
  free_iff := by
    refine ⟨filled.vacant space, fun fails => ?_⟩
    cases found : lookup? space ((ofStyle style world).run changes).registry.services with
    | none => rfl
    | some entry =>
      obtain ⟨earlier, t, later, whole, -, -, founds, -⟩ := filled.held space entry found
      exact absurd founds.qualifies (fails t (by simp [whole]))
  founded := filled.held space
  kept := fun entry held more => by
    have later := filled.keeps_run held more
    rwa [run, run, ← List.foldl_append] at later

theorem Holds.of_steady {style : NameStyle} {world : W} {changes : List (Change W)}
    {space : String} (steady : ∀ t ∈ (ofStyle style world).tries [] changes, t.Steady)
    (holds : Holds NameStyle.Hides style world changes space) :
    Holds NameStyle.Excludes style world changes space where
  free_iff := by
    rw [holds.free_iff]
    refine forall_congr' fun t => forall_congr' fun tried => not_congr ?_
    exact Try.qualifies_iff_of_steady (steady t tried)
  founded := fun entry held => by
    obtain ⟨earlier, t, later, whole, first, styled, founds, refused⟩ := holds.founded entry held
    refine ⟨earlier, t, later, whole, fun u member => ?_, styled,
      founds.of_steady (steady t (by simp [whole])), refused⟩
    rw [← Try.qualifies_iff_of_steady (steady u (by simp [whole, member]))]
    exact first u member
  kept := holds.kept

/-- Each namespace has what the first service that qualifies for it exposes, and nothing else has
it. The registry folds the names of methods twice when it decides what is kept out; where this makes
no difference, it keeps out what is reserved or has been excluded. -/
theorem run_holds (style : NameStyle) (world : W) (changes : List (Change W)) :
    ((ofStyle style world).run changes).registry.namespaces.Nodup ∧
      (∀ space, Holds NameStyle.Hides style world changes space) ∧
      ((∀ t ∈ (ofStyle style world).tries [] changes, t.Steady) →
        ∀ space, Holds NameStyle.Excludes style world changes space) := by
  have filled := (Filled.ofStyle style world).run changes
  rw [List.nil_append, List.nil_append] at filled
  exact ⟨filled.distinct, holds_of_filled filled,
    fun steady space => (holds_of_filled filled space).of_steady steady⟩

/-- A world that counts the services that have been constructed in it. -/
abbrev counting : World where
  State := Nat
  ArgType := Unit
  Arg := fun _ => Unit
  typeName := fun _ => none

def bookMethod (name : String) : Method counting :=
  Method.of name false (.ofCodec .unit () : Param counting ()) .nothing
    fun _ _ _ built => (.ok .empty, built)

def bookService (own : Option String) (names : List String) : Service counting where
  typeName := "library::Shelf<library::Book>"
  ownNamespace := fun built => (.ok own, built)
  construct := fun built => (.ok (), built + 1)
  methods := fun built => (.ok (names.map bookMethod), built)
  excluded := fun built => (.ok [], built)
  beforeCall := fun _ _ => .done
  afterCall := fun _ _ _ => .done

theorem offers_bookService {t : Try counting} {own : Option String} {names : List String}
    (service : t.service = bookService own names) (asked : counting) :
    t.Offers asked (names.map bookMethod) [] (asked + (1 : Nat)) := by
  rw [Try.Offers, service]
  exact ⟨_, _, rfl, rfl, rfl⟩

theorem steady_bookService {t : Try counting} {own : Option String} {names : List String}
    (service : t.service = bookService own names)
    (steady : ∀ name ∈ names, t.setup.registry.style.Steady name) : t.Steady := by
  intro space asked methods kept left named offers method member
  rw [((offers_bookService service asked).unique offers).1, List.mem_map] at member
  obtain ⟨name, listed, rfl⟩ := member
  exact steady name listed

/-- The first service exposes nothing and leaves its namespace free, and the last one comes too late
for it. What is excluded in between is not taken away. -/
theorem run_holds_books :
    let changes : List (Change counting) :=
      [.register (some "Books") (bookService none ["constructor"]), .exclude ["audit"],
        .register (some "Books") (bookService none ["getBook", "Audit", "get_book"]),
        .register none (bookService (some "ownSpace") ["ping"]),
        .register none (bookService none ["ping"]), .exclude ["ping"],
        .register none (bookService (some "BOOKS") ["list"])]
    let start : Setup counting := ofStyle .snake (0 : Nat)
    let setup := start.run changes
    (∀ space, Holds NameStyle.Excludes .snake (0 : Nat) changes space) ∧
      (start.tries [] changes).map Try.reply =
        [.ok (.ok false), .ok (.ok true), .ok (.ok true), .ok (.ok true),
          .ok (.error "books")] ∧
      setup.registry.services.map (fun entry => (entry.1, entry.2.methods.map (·.1))) =
        [("books", ["get_book"]), ("own_space", ["ping"]), ("shelf", ["ping"])] ∧
      setup.world = (4 : Nat) := by
  intro changes start setup
  refine ⟨(run_holds .snake _ changes).2.2 fun t tried => ?_, ?_, ?_, ?_⟩
  · have five : t ∈ start.tries [] changes := tried
    simp only [start, changes, tries, attempt?, Option.toList_some, Option.toList_none,
      List.nil_append, List.cons_append, List.mem_cons, List.not_mem_nil, or_false] at five
    rcases five with rfl | rfl | rfl | rfl | rfl
    all_goals exact steady_bookService rfl (by decide +kernel)
  all_goals decide +kernel

/-- A capital I with a dot loses its dot from the word when it is put in lower case, so that folding
a name with it again changes it, and such a name is exposed although it has been excluded. -/
theorem not_holds_of_excluded :
    let changes : List (Change counting) :=
      [.exclude ["İx"], .register none (bookService none ["İx", "ping"])]
    ((ofStyle .snake (0 : Nat)).run changes).registry.methodsOf "shelf" = ["i\u0307x", "ping"] ∧
      ¬ Holds NameStyle.Excludes .snake (0 : Nat) changes "shelf" := by
  intro changes
  have shown : ((ofStyle .snake (0 : Nat)).run changes).registry.methodsOf "shelf" =
      ["i\u0307x", "ping"] := by
    decide +kernel
  refine ⟨shown, fun holds => ?_⟩
  rw [Registry.methodsOf, Registry.entry?,
    show NameStyle.apply _ "shelf" = "shelf" by decide +kernel] at shown
  cases held : lookup? "shelf" ((ofStyle .snake (0 : Nat)).run changes).registry.services with
  | none => simp [held] at shown
  | some entry =>
    obtain ⟨earlier, t, later, whole, -, styled, founds, -⟩ := holds.founded entry held
    have only : t ∈ (ofStyle .snake (0 : Nat)).tries [] changes := by simp [whole]
    obtain rfl := List.mem_singleton.mp only
    simp only [held] at shown
    have listed : "i\u0307x" ∈ entry.methods.map (·.1) := by rw [shown]; exact .head _
    obtain ⟨asked, methods, own, left, offers, method, member, titled, visible⟩ :=
      founds.visible listed
    obtain ⟨rfl, rfl⟩ := (offers_bookService rfl asked).unique offers
    rcases List.mem_map.mp member with ⟨name, offered, rfl⟩
    rcases (by simpa using offered : name = "İx" ∨ name = "ping") with rfl | rfl
    · exact visible (.inr ⟨"İx", by simp [Change.barred], rfl⟩)
    · exact absurd titled (by decide +kernel)

end Setup

end JsonRpc
