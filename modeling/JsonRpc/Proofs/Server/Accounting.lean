import JsonRpc.Proofs.Pool.Ledger
import JsonRpc.Proofs.Server.Reached
import Mathlib.Data.List.Perm.Basic

namespace JsonRpc

open Traffic

variable {W : World}

/-- A site with its books. `live` are the guards of the held contexts, each in the place of its
context. -/
structure Tally (W : World) where
  site : Site W
  live : List Nat
  ledger : List Traffic

/-- A call takes a context, takes up its request on it, and is answered on it. -/
def Deed.steps (s : Surroundings) (request : Http.Request) : List (Deed W) :=
  [.take, .use 0 fun ctx world => (ctx.begin request, world), .handleHeld s 0]

def Site.turnsAway (site : Site W) (request : Http.Request) : Bool :=
  Admission.isProbe request || !site.server.running

theorem Site.act_handle (site : Site W) (s : Surroundings) (request : Http.Request) :
    site.act (.handle s request) =
      if site.turnsAway request then site else site.run (Deed.steps s request) := by
  cases away : site.turnsAway request with
  | true =>
    have handled : (site.server.handle s request site.world).2 = (site.server, site.world) := by
      rw [turnsAway, Bool.or_eq_true] at away
      rw [Server.handle]
      split
      · rfl
      · rw [if_pos (away.resolve_left ‹_›)]
    have acted : site.act (.handle s request) =
        { site with
          server := (site.server.handle s request site.world).2.1
          world := (site.server.handle s request site.world).2.2 } := rfl
    rw [if_pos rfl, acted, handled]
  | false =>
    have late : ¬ (Admission.isProbe request = true ∨ site.server.running = false) := by
      simpa [turnsAway] using away
    have handled := congrArg Recorded.result (Server.recordHandle_of_late late s site.world)
    rw [Server.recordHandle_result, Server.recordContext_result] at handled
    rw [if_neg Bool.false_ne_true, act, handled]
    rfl

/-- A site that has got a held context back; without a context in that place it is as it was. -/
structure Site.Gives (site : Site W) (index : Nat) (after : Site W) : Prop where
  vacant : site.held.length ≤ index → after = site
  given : index < site.held.length →
    after.server.pool = site.server.pool.release {} ∧ after.held = site.held.eraseIdx index

theorem Site.gives_drop (site : Site W) (index : Nat) :
    site.Gives index (site.act (.drop index)) := by
  constructor
  · intro outside
    simp only [act, List.getElem?_eq_none outside]
  · intro inside
    simp only [act, List.getElem?_eq_getElem inside]
    exact ⟨Pool.release_eq _ _, trivial⟩

theorem Site.gives_handleHeld (site : Site W) (s : Surroundings) (index : Nat) :
    site.Gives index (site.act (.handleHeld s index)) := by
  constructor
  · intro outside
    simp only [act, List.getElem?_eq_none outside]
  · intro inside
    obtain ⟨left, released⟩ := site.server.handleContext_pool s site.held[index] site.world
    simp only [act, List.getElem?_eq_getElem inside, released]
    exact ⟨Pool.release_eq _ _, trivial⟩

namespace Tally

def ofServer (server : Server W) (world : W) : Tally W :=
  { site := .ofServer server world, live := [], ledger := [] }

variable (t : Tally W)

def next : Nat := (outs t.ledger).length

def give (site : Site W) (index : Nat) : Tally W :=
  match t.live[index]? with
  | none => { t with site }
  | some guard =>
    { site, live := t.live.eraseIdx index, ledger := t.ledger ++ [.back guard] }

def act (deed : Deed W) : Tally W :=
  let site := t.site.act deed
  match deed with
  | .handle _ request =>
    if t.site.turnsAway request then { t with site }
    else { t with site, ledger := t.ledger ++ [.out t.next] ++ [.back t.next] }
  | .take => { site, live := t.next :: t.live, ledger := t.ledger ++ [.out t.next] }
  | .drop index | .handleHeld _ index => t.give site index
  | .use _ _ | .stop => { t with site }

def run (deeds : List (Deed W)) : Tally W := deeds.foldl act t

theorem site_act (deed : Deed W) : (t.act deed).site = t.site.act deed := by
  cases deed <;> simp only [act, give] <;> split <;> rfl

theorem site_run (deeds : List (Deed W)) : (t.run deeds).site = t.site.run deeds := by
  induction deeds generalizing t with
  | nil => rfl
  | cons deed deeds hypothesis =>
    have rest := hypothesis (t.act deed)
    rw [site_act] at rest
    exact rest

theorem act_handle (s : Surroundings) (request : Http.Request) :
    t.act (.handle s request) =
      if t.site.turnsAway request then t else t.run (Deed.steps s request) := by
  have same := t.site.act_handle s request
  cases away : t.site.turnsAway request with
  | true =>
    rw [away, if_pos rfl] at same
    rw [if_pos rfl, act, same, away]
    rfl
  | false =>
    rw [away, if_neg Bool.false_ne_true] at same
    rw [if_neg Bool.false_ne_true, act, same, away]
    rfl

structure Kept (maxIdle : Nat) : Prop where
  sound : Sound t.ledger
  replayed : t.site.server.pool = .replay maxIdle t.ledger
  places : t.live.length = t.site.held.length
  once : (backs t.ledger ++ t.live).Perm (outs t.ledger)

namespace Kept

variable {t} {maxIdle : Nat} (kept : t.Kept maxIdle)

include kept

theorem mem_living {guard : Nat} (lives : guard ∈ t.live) : guard ∈ living t.ledger := by
  have distinct : (backs t.ledger ++ t.live).Nodup := kept.once.nodup_iff.mpr kept.sound.outs_nodup
  have issued : guard ∈ outs t.ledger := kept.once.mem_iff.mp (List.mem_append_right _ lives)
  have kept_back : guard ∉ backs t.ledger := fun gone =>
    List.disjoint_of_nodup_append distinct gone lives
  exact List.mem_filter.mpr ⟨issued, by simpa using kept_back⟩

theorem length_live : t.live.length = (living t.ledger).length := by
  have counted := kept.sound.length_living
  have once := kept.once.length_eq
  rw [List.length_append] at once
  omega

theorem untouched {site : Site W} (pool : site.server.pool = t.site.server.pool)
    (held : site.held.length = t.site.held.length) : Kept { t with site } maxIdle where
  sound := kept.sound
  replayed := pool.trans kept.replayed
  places := kept.places.trans held.symm
  once := kept.once

theorem take : (t.act .take).Kept maxIdle where
  sound := kept.sound.out
  replayed := by
    have taken : (t.act .take).site.server.pool = t.site.server.pool.acquire.2 := rfl
    rw [taken, kept.replayed]
    exact (Pool.replay_concat maxIdle t.ledger (.out t.next)).symm
  places := congrArg (· + 1) kept.places
  once := by
    simp only [act, backs_out, outs_out]
    exact List.perm_middle.trans ((kept.once.cons _).trans (List.perm_append_singleton _ _).symm)

theorem give {site : Site W} {index : Nat} (gives : t.site.Gives index site) :
    (t.give site index).Kept maxIdle := by
  have places := kept.places
  rw [Tally.give]
  cases placed : t.live[index]? with
  | none =>
    have outside : t.site.held.length ≤ index := places ▸ List.getElem?_eq_none_iff.mp placed
    rw [gives.vacant outside]
    exact kept
  | some guard =>
    obtain ⟨inside, rfl⟩ := List.getElem?_eq_some_iff.mp placed
    obtain ⟨pool, held⟩ := gives.given (places ▸ inside)
    have lives := kept.mem_living (List.getElem_mem inside)
    exact
      { sound := kept.sound.back lives
        replayed := by
          rw [pool, kept.replayed]
          exact (Pool.replay_concat maxIdle t.ledger (.back t.live[index])).symm
        places := by
          rw [held, List.length_eraseIdx_of_lt inside, places,
            List.length_eraseIdx_of_lt (places ▸ inside)]
        once := by
          rw [backs_back, outs_back, List.append_assoc, List.singleton_append]
          exact ((List.getElem_cons_eraseIdx_perm inside).append_left _).trans kept.once }

theorem use (index : Nat) (code : Context W → W → Context W × W) :
    (t.act (.use index code)).Kept maxIdle := by
  refine kept.untouched ?_ ?_
  · simp only [Site.act]
    split <;> rfl
  · simp only [Site.act]
    split
    · rfl
    · exact List.length_set

theorem handleHeld (s : Surroundings) (index : Nat) :
    (t.act (.handleHeld s index)).Kept maxIdle :=
  kept.give (t.site.gives_handleHeld s index)

theorem act (deed : Deed W) : (t.act deed).Kept maxIdle := by
  cases deed with
  | handle s request =>
    rw [act_handle]
    split
    · exact kept
    -- the guard of a call is taken and gives its context back within it
    · exact ((kept.take.use 0 _).handleHeld s 0)
  | take => exact kept.take
  | use index code => exact kept.use index code
  | drop index => exact kept.give (t.site.gives_drop index)
  | handleHeld s index => exact kept.handleHeld s index
  | stop => exact kept.untouched rfl rfl

theorem run (deeds : List (Deed W)) : (t.run deeds).Kept maxIdle := by
  induction deeds generalizing t with
  | nil => exact kept
  | cons deed deeds hypothesis => exact hypothesis (kept.act deed)

end Kept

theorem Kept.ofRegistry (registry : Registry W) (options : Options) (start : W) :
    (ofServer (Server.ofRegistry registry options) start).Kept options.maxIdle where
  sound := .nil
  replayed := rfl
  places := rfl
  once := List.Perm.refl _

structure Accounts (maxIdle : Nat) : Prop where
  /-- The contexts that are held are those of the guards that live. -/
  places : t.live.length = t.site.held.length
  allocated : t.site.server.pool.allocated = t.site.server.pool.idle + t.live.length
  idle : t.site.server.pool.idle ≤ maxIdle
  numbered : outs t.ledger = List.range (outs t.ledger).length
  /-- Every guard has given its context back once, or lives. -/
  once : (backs t.ledger ++ t.live).Perm (outs t.ledger)
  /-- The pool is what the traffic of the guards has made of it, and its books are balanced wherever
  that traffic is interrupted, in the middle of calls as well. -/
  replayed : t.site.server.pool = .replay maxIdle t.ledger
  balanced : ∀ earlier, earlier <+: t.ledger →
    (Pool.replay maxIdle earlier : Pool W).Balanced maxIdle earlier
  counted : ∀ earlier guard, earlier ++ [.back guard] <+: t.ledger →
    guard ∈ living earlier ∧ 0 < (Pool.replay maxIdle earlier : Pool W).allocated
  /-- A call is made of its steps, and anything may be done between them. -/
  nested : ∀ s request, t.act (.handle s request) =
    if t.site.turnsAway request then t else t.run (Deed.steps s request)

/-- Whatever is done with a server, its books are in order. -/
theorem run_accounts (registry : Registry W) (options : Options) (start : W)
    (deeds : List (Deed W)) :
    let t := (ofServer (Server.ofRegistry registry options) start).run deeds
    t.site = (Site.ofServer (Server.ofRegistry registry options) start).run deeds ∧
      t.Accounts options.maxIdle := by
  intro t
  have kept : t.Kept options.maxIdle := (Kept.ofRegistry registry options start).run deeds
  have books : t.site.server.pool.Balanced options.maxIdle t.ledger := by
    rw [kept.replayed]
    exact Pool.replay_balanced kept.sound
  refine ⟨site_run _ deeds, ?_⟩
  exact
    { places := kept.places
      allocated := by rw [kept.length_live, books.allocated]
      idle := books.idle
      numbered := kept.sound.outs_eq
      once := kept.once
      replayed := kept.replayed
      balanced := fun earlier before => Pool.replay_balanced (kept.sound.of_prefix before)
      counted := by
        intro earlier guard before
        have lives := kept.sound.lives_of_back before
        have sound := kept.sound.of_prefix ((List.prefix_append _ _).trans before)
        exact ⟨lives, (Pool.replay_balanced sound).allocated_pos lives⟩
      nested := t.act_handle }

end Tally

end JsonRpc
