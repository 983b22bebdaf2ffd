import JsonRpc.Proofs.Server.Record

namespace JsonRpc

variable {W : World}

structure Site (W : World) where
  server : Server W
  held : List (Context W)
  world : W

/-- What may be done with a server. Held contexts are told apart by their place; `use` stands for
all that their owner may do to one. -/
inductive Deed (W : World) where
  | handle (s : Surroundings) (request : Http.Request)
  | take
  | use (index : Nat) (code : Context W → W → Context W × W)
  | drop (index : Nat)
  | handleHeld (s : Surroundings) (index : Nat)
  | stop

namespace Site

def ofServer (server : Server W) (world : W) : Site W := { server, held := [], world }

def act (site : Site W) : Deed W → Site W
  | .handle s request =>
    let (_, server, world) := site.server.handle s request site.world
    { site with server, world }
  | .take =>
    let (ctx, pool) := site.server.pool.acquire
    { site with server := { site.server with pool }, held := ctx :: site.held }
  | .use index code =>
    match site.held[index]? with
    | none => site
    | some ctx =>
      let (ctx, world) := code ctx site.world
      { site with held := site.held.set index ctx, world }
  | .drop index =>
    match site.held[index]? with
    | none => site
    | some ctx =>
      { site with
        server := { site.server with pool := site.server.pool.release ctx }
        held := site.held.eraseIdx index }
  | .handleHeld s index =>
    match site.held[index]? with
    | none => site
    | some ctx =>
      let (_, server, world) := site.server.handleContext s ctx site.world
      { server, held := site.held.eraseIdx index, world }
  | .stop => { site with server := site.server.stop }

def run (site : Site W) (deeds : List (Deed W)) : Site W := deeds.foldl act site

end Site

namespace Server

theorem conclude_pool (server : Server W) (s : Surroundings) (ended : Verdict Unit × Run W) :
    ∃ left, (server.conclude s ended).2.1 =
      { server with pool := server.pool.release left } := by
  obtain ⟨verdict, r⟩ := ended
  cases verdict <;> exact ⟨_, rfl⟩

theorem handleContext_pool (server : Server W) (s : Surroundings) (ctx : Context W) (world : W) :
    ∃ left, (server.handleContext s ctx world).2.1 =
      { server with pool := server.pool.release left } := by
  rw [handleContext]
  cases server.declined? ctx.call with
  | some response => exact ⟨ctx, rfl⟩
  | none => exact server.conclude_pool s _

theorem handleContext_clean {server : Server W} (clean : server.pool.Clean) (s : Surroundings)
    (ctx : Context W) (world : W) : (server.handleContext s ctx world).2.1.pool.Clean := by
  obtain ⟨left, released⟩ := server.handleContext_pool s ctx world
  rw [released]
  exact clean.release left

theorem handle_clean {server : Server W} (clean : server.pool.Clean) (s : Surroundings)
    (request : Http.Request) (world : W) : (server.handle s request world).2.1.pool.Clean := by
  obtain ⟨-, rest⟩ := clean.acquire
  rw [handle]
  split
  · exact clean
  · split
    · exact clean
    · exact handleContext_clean rest s _ world

theorem conclude_of_pool (server : Server W) (pool : Pool W) (s : Surroundings)
    (ended : Verdict Unit × Run W) :
    ({ server with pool }.conclude s ended).1 = (server.conclude s ended).1 ∧
      ({ server with pool }.conclude s ended).2.2 = (server.conclude s ended).2.2 := by
  obtain ⟨verdict, r⟩ := ended
  cases verdict <;> exact ⟨rfl, rfl⟩

theorem recordContext_of_pool (server : Server W) (pool : Pool W) (s : Surroundings)
    (ctx : Context W) (world : W) :
    let other := { server with pool }.recordContext s ctx world
    let own := server.recordContext s ctx world
    other.events = own.events ∧ other.result.1 = own.result.1 ∧ other.result.2.2 = own.result.2.2 := by
  have declined : { server with pool }.declined? ctx.call = server.declined? ctx.call := rfl
  have recorded : { server with pool }.recordDispatch s (entry s ctx world) =
      server.recordDispatch s (entry s ctx world) := rfl
  intro other own
  simp only [other, own, recordContext, declined]
  cases found : server.declined? ctx.call with
  | some response =>
    have here : server.handleContext s ctx world =
        (.ok response, { server with pool := server.pool.release ctx }, world) := by
      rw [handleContext, found]
    have there : { server with pool }.handleContext s ctx world =
        (.ok response, { server with pool := pool.release ctx }, world) := by
      rw [handleContext, declined, found]
    simp only [here, there]
    exact ⟨rfl, rfl, rfl⟩
  | none =>
    rw [recorded]
    exact ⟨rfl, server.conclude_of_pool pool s _⟩

theorem declined?_of_early {server : Server W} {request : Http.Request}
    (early : Admission.isProbe request = true ∨ server.running = false) (ctx : Context W) :
    server.declined? (ctx.begin request).call =
      some (Http.bare (if Admission.isProbe request then 200 else 503)) := by
  have taken : (ctx.begin request).call.request = request := rfl
  rw [declined?, taken]
  by_cases probe : Admission.isProbe request = true
  · rw [if_pos probe, if_pos probe]
  · have stopped : server.running = false := early.resolve_left probe
    rw [if_neg probe, if_neg probe, if_pos (by simp [stopped])]

/-- A request is answered as on a context that is new: with the same response, leaving the same
world, and with the same runs shown to all code on the way. -/
structure AnswersAsNew (server : Server W) (s : Surroundings) (request : Http.Request)
    (world : W) : Prop where
  answer : (server.handle s request world).1 =
    (server.handleContext s (Context.begin {} request) world).1
  left : (server.handle s request world).2.2 =
    (server.handleContext s (Context.begin {} request) world).2.2
  recorded : (server.recordHandle s request world).result = server.handle s request world
  shown : (server.recordHandle s request world).events =
    (server.recordContext s (Context.begin {} request) world).events

theorem answersAsNew_of_clean {server : Server W} (clean : server.pool.Clean) (s : Surroundings)
    (request : Http.Request) (world : W) : server.AnswersAsNew s request world := by
  have recorded := server.recordHandle_result s request world
  have erased := server.recordContext_result s (Context.begin {} request) world
  suffices same : (server.recordHandle s request world).events =
        (server.recordContext s (Context.begin {} request) world).events ∧
      (server.recordHandle s request world).result.1 =
        (server.recordContext s (Context.begin {} request) world).result.1 ∧
      (server.recordHandle s request world).result.2.2 =
        (server.recordContext s (Context.begin {} request) world).result.2.2 by
    obtain ⟨shown, answer, after⟩ := same
    rw [recorded, erased] at answer after
    exact ⟨answer, after, recorded, shown⟩
  by_cases early : Admission.isProbe request = true ∨ server.running = false
  · have declined := declined?_of_early early ({} : Context W)
    rw [recordContext, declined]
    simp only [handleContext, declined, Recorded.result_silent, Recorded.events_silent]
    rw [recordHandle]
    by_cases probe : Admission.isProbe request = true
    · rw [if_pos probe, if_pos probe]
      exact ⟨rfl, rfl, rfl⟩
    · have stopped : server.running = false := early.resolve_left probe
      rw [if_neg probe, if_neg probe, if_pos (by simp [stopped])]
      exact ⟨rfl, rfl, rfl⟩
  · simp only [not_or, Bool.not_eq_false] at early
    rw [recordHandle, if_neg early.1, if_neg (by simp [early.2])]
    have fresh := clean.acquire.1
    simp only [fresh]
    exact server.recordContext_of_pool server.pool.acquire.2 s _ world

end Server

namespace Site

theorem act_clean {site : Site W} (clean : site.server.pool.Clean) (deed : Deed W) :
    (site.act deed).server.pool.Clean := by
  cases deed with
  | handle s request => exact Server.handle_clean clean s request site.world
  | take => exact clean.acquire.2
  | use index code =>
    simp only [act]
    cases site.held[index]? with
    | none => exact clean
    | some ctx => exact clean
  | drop index =>
    simp only [act]
    cases site.held[index]? with
    | none => exact clean
    | some ctx => exact clean.release ctx
  | handleHeld s index =>
    simp only [act]
    cases site.held[index]? with
    | none => exact clean
    | some ctx => exact Server.handleContext_clean clean s ctx site.world
  | stop => exact clean

theorem run_clean {site : Site W} (clean : site.server.pool.Clean) (deeds : List (Deed W)) :
    (site.run deeds).server.pool.Clean := by
  induction deeds generalizing site with
  | nil => exact clean
  | cons deed deeds hypothesis => exact hypothesis (act_clean clean deed)

/-- Nothing that was ever done with a server shows in how it answers a request. -/
theorem run_answersAsNew (registry : Registry W) (options : Options) (start : W)
    (deeds : List (Deed W)) :
    let server := ((ofServer (Server.ofRegistry registry options) start).run deeds).server
    (∀ ctx ∈ server.pool.free, ctx = {}) ∧
      ∀ s request world, server.AnswersAsNew s request world := by
  intro server
  have clean : server.pool.Clean := run_clean (Pool.Clean.ofMaxIdle options.maxIdle) deeds
  exact ⟨clean, fun s request world => Server.answersAsNew_of_clean clean s request world⟩

end Site

end JsonRpc
