import JsonRpc.Proofs.Server.History

namespace JsonRpc

variable {W : World}

namespace Server

theorem handle_pool (server : Server W) (s : Surroundings) (request : Http.Request) (world : W) :
    ∃ pool, (server.handle s request world).2.1 = { server with pool } := by
  rw [handle]
  split
  · exact ⟨server.pool, rfl⟩
  · split
    · exact ⟨server.pool, rfl⟩
    · obtain ⟨left, released⟩ := handleContext_pool { server with pool := server.pool.acquire.2 } s
        (server.pool.acquire.1.begin request) world
      exact ⟨_, released⟩

theorem recordHandle_of_late {server : Server W} {request : Http.Request}
    (late : ¬ (Admission.isProbe request = true ∨ server.running = false)) (s : Surroundings)
    (world : W) :
    server.recordHandle s request world =
      { server with pool := server.pool.acquire.2 }.recordContext s
        (server.pool.acquire.1.begin request) world := by
  simp only [not_or, Bool.not_eq_false] at late
  rw [recordHandle, if_neg late.1, if_neg (by simp [late.2])]

theorem recordHandle_of_dispatched {server : Server W} {request : Http.Request}
    (admitted : server.declined? (server.pool.acquire.1.begin request).call = none)
    (s : Surroundings) (world : W) :
    server.recordHandle s request world =
      (server.recordDispatch s (entry s (server.pool.acquire.1.begin request) world)).map
        ({ server with pool := server.pool.acquire.2 }.conclude s) := by
  have late : ¬ (Admission.isProbe request = true ∨ server.running = false) := by
    intro early
    rw [declined?_of_early early] at admitted
    cases admitted
  have here : { server with pool := server.pool.acquire.2 }.declined?
      (server.pool.acquire.1.begin request).call = none := admitted
  rw [recordHandle_of_late late, recordContext, here]
  rfl

theorem recordHandle_of_admitted {server : Server W} (clean : server.pool.Clean)
    {request : Http.Request} (admitted : server.declined? (Call.begin {} request) = none)
    (s : Surroundings) (world : W) :
    server.recordHandle s request world =
      (server.recordDispatch s (entry s (Context.begin {} request) world)).map
        ({ server with pool := server.pool.acquire.2 }.conclude s) := by
  have dispatched := @recordHandle_of_dispatched _ server request
  rw [clean.acquire.1] at dispatched
  exact dispatched admitted s world

end Server

def Deed.stops : Deed W → Bool
  | .stop => true
  | .handle _ _ | .take | .use _ _ | .drop _ | .handleHeld _ _ => false

namespace Site

theorem act_server (site : Site W) (deed : Deed W) :
    ∃ pool, (site.act deed).server =
      { site.server with pool, running := site.server.running && !deed.stops } := by
  cases stops : deed.stops with
  | true =>
    cases deed with
    | stop =>
      rw [Bool.not_true, Bool.and_false]
      exact ⟨_, rfl⟩
    | handle | take | use | drop | handleHeld => cases stops
  | false =>
    rw [Bool.not_false, Bool.and_true]
    cases deed with
    | handle s request => exact site.server.handle_pool s request site.world
    | take => exact ⟨_, rfl⟩
    | use index code =>
      simp only [act]
      cases site.held[index]? with
      | none => exact ⟨_, rfl⟩
      | some ctx => exact ⟨_, rfl⟩
    | drop index =>
      simp only [act]
      cases site.held[index]? with
      | none => exact ⟨_, rfl⟩
      | some ctx => exact ⟨_, rfl⟩
    | handleHeld s index =>
      simp only [act]
      cases site.held[index]? with
      | none => exact ⟨_, rfl⟩
      | some ctx =>
        obtain ⟨left, released⟩ := site.server.handleContext_pool s ctx site.world
        exact ⟨_, released⟩
    | stop => cases stops

theorem run_server (site : Site W) (deeds : List (Deed W)) :
    ∃ pool, (site.run deeds).server =
      { site.server with pool, running := site.server.running && !deeds.any Deed.stops } := by
  induction deeds generalizing site with
  | nil => exact ⟨site.server.pool, by simp [run]⟩
  | cons deed deeds hypothesis =>
    obtain ⟨pool, left⟩ := hypothesis (site.act deed)
    obtain ⟨_, acted⟩ := site.act_server deed
    rw [acted] at left
    refine ⟨pool, ?_⟩
    rw [List.any_cons, Bool.not_or, ← Bool.and_assoc]
    exact left

theorem run_ofRegistry (registry : Registry W) (options : Options) (start : W)
    (deeds : List (Deed W)) :
    let server := ((ofServer (Server.ofRegistry registry options) start).run deeds).server
    server.registry = registry ∧ server.middleware = registry.middleware ∧
      server.cipher = BodyCipher.ofOption options.cryptoKey options.encoding := by
  obtain ⟨pool, left⟩ := (ofServer (Server.ofRegistry registry options) start).run_server deeds
  simp only [left]
  exact ⟨rfl, rfl, rfl⟩

theorem run_ofRegistry_clean (registry : Registry W) (options : Options) (start : W)
    (deeds : List (Deed W)) :
    ((ofServer (Server.ofRegistry registry options) start).run deeds).server.pool.Clean :=
  run_clean (Pool.Clean.ofMaxIdle options.maxIdle) deeds

def reply? (site : Site W) : Deed W → Option Answer
  | .handle s request => some (site.server.handle s request site.world).1
  | .handleHeld s index =>
    site.held[index]?.map fun ctx => (site.server.handleContext s ctx site.world).1
  | .take | .use _ _ | .drop _ | .stop => none

def replies (site : Site W) : List (Deed W) → List (Option Answer)
  | [] => []
  | deed :: deeds => site.reply? deed :: (site.act deed).replies deeds

def Alike (a b : Site W) : Prop :=
  a.server.pool.Clean ∧
    ∃ pool : Pool W, pool.Clean ∧ b = { a with server := { a.server with pool } }

end Site

namespace Server

theorem handleContext_of_pool (server : Server W) (pool : Pool W) (s : Surroundings)
    (ctx : Context W) (world : W) :
    ({ server with pool }.handleContext s ctx world).1 = (server.handleContext s ctx world).1 ∧
      ({ server with pool }.handleContext s ctx world).2.2 =
        (server.handleContext s ctx world).2.2 := by
  have same := server.recordContext_of_pool pool s ctx world
  simp only [recordContext_result] at same
  exact same.2

theorem handle_of_pool {server : Server W} {pool : Pool W} (clean : server.pool.Clean)
    (other : pool.Clean) (s : Surroundings) (request : Http.Request) (world : W) :
    ({ server with pool }.handle s request world).1 = (server.handle s request world).1 ∧
      ({ server with pool }.handle s request world).2.2 = (server.handle s request world).2.2 := by
  have own := answersAsNew_of_clean clean s request world
  have foreign : { server with pool }.AnswersAsNew s request world :=
    answersAsNew_of_clean other s request world
  obtain ⟨answer, left⟩ := server.handleContext_of_pool pool s (Context.begin {} request) world
  exact ⟨by rw [foreign.answer, answer, own.answer], by rw [foreign.left, left, own.left]⟩

end Server

namespace Site.Alike

variable {a b : Site W}

theorem reply (alike : a.Alike b) (deed : Deed W) : b.reply? deed = a.reply? deed := by
  obtain ⟨clean, pool, other, rfl⟩ := alike
  cases deed with
  | handle s request => exact congrArg some (Server.handle_of_pool clean other s request _).1
  | handleHeld s index =>
    simp only [reply?]
    cases a.held[index]? with
    | none => rfl
    | some ctx => exact congrArg some (a.server.handleContext_of_pool pool s ctx _).1
  | take | use | drop | stop => rfl

theorem answered {server : Server W} {pool : Pool W} (clean : server.pool.Clean)
    (other : pool.Clean) (s : Surroundings) (ctx : Context W) (held : List (Context W))
    (world : W) :
    Site.Alike
      { server := (server.handleContext s ctx world).2.1
        held, world := (server.handleContext s ctx world).2.2 }
      { server := ({ server with pool }.handleContext s ctx world).2.1
        held, world := ({ server with pool }.handleContext s ctx world).2.2 } := by
  obtain ⟨left, own⟩ := server.handleContext_pool s ctx world
  obtain ⟨gone, foreign⟩ := Server.handleContext_pool { server with pool } s ctx world
  have same := (server.handleContext_of_pool pool s ctx world).2
  rw [own, foreign, same]
  exact ⟨clean.release left, pool.release gone, other.release gone, rfl⟩

theorem act (alike : a.Alike b) (deed : Deed W) : (a.act deed).Alike (b.act deed) := by
  obtain ⟨clean, pool, other, rfl⟩ := alike
  cases deed with
  | handle s request =>
    obtain ⟨left, own⟩ := a.server.handle_pool s request a.world
    obtain ⟨gone, foreign⟩ := Server.handle_pool { a.server with pool } s request a.world
    have after := Server.handle_clean clean s request a.world
    have behind : ({ a.server with pool }.handle s request a.world).2.1.pool.Clean :=
      Server.handle_clean other s request a.world
    have same := (Server.handle_of_pool clean other s request a.world).2
    simp only [Site.act]
    rw [own] at after ⊢
    rw [foreign] at behind ⊢
    rw [same]
    exact ⟨after, gone, behind, rfl⟩
  | take =>
    simp only [Site.act, clean.acquire.1, other.acquire.1]
    exact ⟨clean.acquire.2, pool.acquire.2, other.acquire.2, rfl⟩
  | use index code =>
    simp only [Site.act]
    cases a.held[index]? with
    | none => exact ⟨clean, pool, other, rfl⟩
    | some ctx => exact ⟨clean, pool, other, rfl⟩
  | drop index =>
    simp only [Site.act]
    cases a.held[index]? with
    | none => exact ⟨clean, pool, other, rfl⟩
    | some ctx => exact ⟨clean.release ctx, pool.release ctx, other.release ctx, rfl⟩
  | handleHeld s index =>
    simp only [Site.act]
    cases a.held[index]? with
    | none => exact ⟨clean, pool, other, rfl⟩
    | some ctx => exact answered clean other s ctx _ a.world
  | stop => exact ⟨clean, pool, other, rfl⟩

theorem run (alike : a.Alike b) (deeds : List (Deed W)) :
    b.replies deeds = a.replies deeds ∧ (a.run deeds).Alike (b.run deeds) := by
  induction deeds generalizing a b with
  | nil => exact ⟨rfl, alike⟩
  | cons deed deeds hypothesis =>
    obtain ⟨same, after⟩ := hypothesis (alike.act deed)
    refine ⟨?_, after⟩
    simp only [replies, alike.reply deed, same]

end Site.Alike

theorem Site.replies_of_pool {server : Server W} {pool : Pool W} (clean : server.pool.Clean)
    (other : pool.Clean) (held : List (Context W)) (world : W) (deeds : List (Deed W)) :
    ({ server := { server with pool }, held, world } : Site W).replies deeds =
      ({ server, held, world } : Site W).replies deeds := by
  have alike : Site.Alike { server, held, world } { server := { server with pool }, held, world } :=
    ⟨clean, pool, other, rfl⟩
  exact (alike.run deeds).1

end JsonRpc
