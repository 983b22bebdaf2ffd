import JsonRpc.Proofs.Server.Building

namespace JsonRpc

variable {W : World}

namespace Middleware

def named (handlers : List (Middleware W)) (name : String) : Bool := handlers.any (·.name == name)

def firsts (handlers : List (Middleware W)) : List (Middleware W) :=
  (handlers.zipIdx.filter fun entry => !named (handlers.take entry.2) entry.1.name).map (·.1)

theorem named_append (first second : List (Middleware W)) (name : String) :
    named (first ++ second) name = (named first name || named second name) := List.any_append

theorem named_iff {handlers : List (Middleware W)} {name : String} :
    named handlers name = true ↔ name ∈ handlers.map (·.name) := by
  simp [named]

theorem firsts_concat (handlers : List (Middleware W)) (m : Middleware W) :
    firsts (handlers ++ [m]) =
      if named handlers m.name then firsts handlers else firsts handlers ++ [m] := by
  have before : (handlers.zipIdx.filter fun entry =>
        !named ((handlers ++ [m]).take entry.2) entry.1.name) =
      handlers.zipIdx.filter fun entry => !named (handlers.take entry.2) entry.1.name := by
    refine List.filter_congr fun entry member => ?_
    have inside : entry.2 < handlers.length := by
      simpa using List.snd_lt_of_mem_zipIdx member
    rw [List.take_append_of_le_length (Nat.le_of_lt inside)]
  rw [firsts, List.zipIdx_append, List.filter_append, before]
  cases known : named handlers m.name <;> simp [firsts, known]

theorem named_firsts (handlers : List (Middleware W)) (name : String) :
    named (firsts handlers) name = named handlers name := by
  induction handlers using List.reverseRecOn with
  | nil => rfl
  | append_singleton handlers m hypothesis =>
    rw [firsts_concat, named_append]
    split
    · rename_i known
      rw [hypothesis]
      by_cases same : m.name = name
      · simp [← same, known]
      · simp [named, same]
    · rw [named_append, hypothesis]

theorem install_cons (installed : List (Middleware W)) (m : Middleware W)
    (batch : List (Middleware W)) :
    install installed (m :: batch) =
      install (if named installed m.name then installed else installed ++ [m]) batch := by
  rw [install]
  exact (apply_ite (install · batch) _ _ _).symm

theorem install_firsts (handlers batch : List (Middleware W)) :
    install (firsts handlers) batch = firsts (handlers ++ batch) := by
  induction batch generalizing handlers with
  | nil => rw [install, List.append_nil]
  | cons m batch hypothesis =>
    rw [install_cons, named_firsts, ← firsts_concat, hypothesis, List.append_assoc,
      List.singleton_append]

theorem foldl_installs {σ α : Type} (middleware : σ → List (Middleware W)) {step : σ → α → σ}
    {batch : α → List (Middleware W)}
    (each : ∀ s a, middleware (step s a) = install (middleware s) (batch a)) (s : σ) (run : List α) :
    middleware (run.foldl step s) = install (middleware s) (run.flatMap batch) := by
  induction run generalizing s with
  | nil => rfl
  | cons a run hypothesis =>
    rw [List.foldl_cons, hypothesis, each, List.flatMap_cons, install_append]

theorem exists_install (installed batch : List (Middleware W)) :
    ∃ added, install installed batch = installed ++ added := by
  induction batch generalizing installed with
  | nil => exact ⟨[], (List.append_nil installed).symm⟩
  | cons m batch hypothesis =>
    rw [install_cons]
    split
    · exact hypothesis installed
    · obtain ⟨added, whole⟩ := hypothesis (installed ++ [m])
      exact ⟨m :: added, by rw [whole, List.append_assoc, List.singleton_append]⟩

theorem install_of_named {installed batch : List (Middleware W)}
    (known : ∀ m ∈ batch, named installed m.name = true) : install installed batch = installed := by
  induction batch with
  | nil => rfl
  | cons m batch hypothesis =>
    rw [install_cons, if_pos (known m List.mem_cons_self)]
    exact hypothesis fun n member => known n (List.mem_cons_of_mem m member)

theorem firsts_nodup (handlers : List (Middleware W)) :
    ((firsts handlers).map (·.name)).Nodup := by
  induction handlers using List.reverseRecOn with
  | nil => exact List.nodup_nil
  | append_singleton handlers m hypothesis =>
    rw [firsts_concat]
    split
    · exact hypothesis
    · rename_i fresh
      rw [← named_firsts, named_iff] at fresh
      rw [List.map_append]
      exact hypothesis.append (List.nodup_singleton _) (List.disjoint_singleton.mpr fresh)

theorem firsts_split {earlier : List (Middleware W)} {m : Middleware W}
    (fresh : m.name ∉ earlier.map (·.name)) (later : List (Middleware W)) :
    ∃ rest, firsts (earlier ++ m :: later) = firsts earlier ++ m :: rest := by
  obtain ⟨rest, whole⟩ := exists_install (firsts (earlier ++ [m])) later
  rw [install_firsts, firsts_concat, if_neg (mt named_iff.mp fresh)] at whole
  exact ⟨rest, by simpa using whole⟩

/-- What is so of a list that is installed from handlers that came up one after the other. -/
structure Installs (handlers installed : List (Middleware W)) : Prop where
  firsts : installed = firsts handlers
  distinct : (installed.map (·.name)).Nodup
  /-- The first handler of each name is installed, in the order in which the names came up. -/
  placed : ∀ earlier m later, handlers = earlier ++ m :: later →
    m.name ∉ earlier.map (·.name) →
      ∃ rest, installed = Middleware.firsts earlier ++ m :: rest
  regrouped : ∀ batches : List (List (Middleware W)), batches.flatten = handlers →
    batches.foldl install [] = installed
  merged : ∀ first second : List (Middleware W),
    install (install installed first) second = install installed (first ++ second)
  again : ∀ batch, (∀ m ∈ batch, m.name ∈ handlers.map (·.name)) →
    install installed batch = installed

theorem installs (handlers : List (Middleware W)) : Installs handlers (install [] handlers) := by
  have same : install [] handlers = Middleware.firsts handlers := install_firsts [] handlers
  rw [same]
  refine
    { firsts := rfl, distinct := firsts_nodup handlers, placed := ?_, regrouped := ?_
      merged := fun first second => (install_append _ first second).symm, again := ?_ }
  · rintro earlier m later rfl fresh
    exact firsts_split fresh later
  · rintro batches rfl
    have each : ∀ installed batch : List (Middleware W),
        id (install installed batch) = install (id installed) (id batch) := fun _ _ => rfl
    have grouped := foldl_installs id each [] batches
    rw [List.flatMap_id] at grouped
    exact grouped.trans same
  · intro batch known
    refine install_of_named fun m member => ?_
    rw [named_firsts]
    exact named_iff.mpr (known m member)

end Middleware

def Change.handlers : Change W → List (Middleware W)
  | .use batch => batch
  | .register _ _ | .exclude _ | .before _ | .after _ => []

def BuilderCall.handlers : BuilderCall W → List (Middleware W)
  | .use handler => [handler]
  | .service _ | .serviceAs _ _ | .exclude _ | .callBefore _ | .callAfter _ | .nameStyle _
  | .cryptoKey _ | .encoding _ | .maxBody _ | .maxIdle _ => []

theorem Registry.exclude_middleware (registry : Registry W) (names : List String) :
    (registry.exclude names).middleware = registry.middleware := by
  obtain ⟨excluded, same⟩ := registry.exclude_eq names
  rw [same]

namespace Setup

theorem act_middleware (setup : Setup W) (change : Change W) :
    (setup.act change).registry.middleware =
      Middleware.install setup.registry.middleware change.handlers := by
  cases change with
  | register as service =>
    obtain ⟨services, same⟩ := setup.registry.tryRegister_eq as service setup.world
    have acted : (setup.act (.register as service)).registry = { setup.registry with services } :=
      same
    rw [acted]
    rfl
  | exclude names => exact setup.registry.exclude_middleware names
  | use | before | after => rfl

theorem run_middleware (setup : Setup W) (changes : List (Change W)) :
    (setup.run changes).registry.middleware =
      Middleware.install setup.registry.middleware (changes.flatMap Change.handlers) :=
  Middleware.foldl_installs (·.registry.middleware) act_middleware setup changes

end Setup

theorem BuilderCall.prepare_middleware (registry : Registry W) (x : BuilderCall W) :
    (prepare registry x).middleware = Middleware.install registry.middleware x.handlers := by
  cases x with
  | exclude names => exact registry.exclude_middleware names
  | use | callBefore | callAfter | service | serviceAs | nameStyle | cryptoKey | encoding | maxBody
  | maxIdle => rfl

theorem Builder.prepared_middleware (calls : List (BuilderCall W)) :
    (prepared calls).middleware =
      Middleware.install [] (calls.flatMap BuilderCall.handlers) :=
  Middleware.foldl_installs Registry.middleware BuilderCall.prepare_middleware _ calls

namespace Server

theorem events_recordMiddleware (server : Server W) (s : Surroundings) (r : Run W) :
    (server.recordMiddleware s r).events =
      (Program.recordChain (server.middleware.map (·.handler)) r).events := by
  rw [recordMiddleware]
  cases server.middleware with
  | nil => rfl
  | cons m rest => rfl

/-- A server runs the chain of these handlers in each call that it dispatches, once the method of the
call is resolved, and nothing before that. -/
structure Runs (server : Server W) (installed : List (Middleware W)) : Prop where
  kept : server.middleware = installed
  recorded : ∀ s ctx world,
    (server.recordContext s ctx world).result = server.handleContext s ctx world
  resolved : ∀ s ctx world cb r, server.declined? ctx.call = none →
    server.resolveCall s (entry s ctx world) = (.ok cb, r) →
    (server.recordContext s ctx world).events =
      (Program.recordChain (installed.map (·.handler)) r).events ++
        (server.recordPassed s cb (server.runMiddleware s r)).events
  unresolved : ∀ s ctx world fault r, server.resolveCall s (entry s ctx world) = (.error fault, r) →
    (server.recordContext s ctx world).events = []
  passed : ∀ s r, installed ≠ [] →
    let ended := Program.performChain (installed.map (·.handler)) r
    server.runMiddleware s r = (ended.1.contain r.call.envelope.method s.trace, ended.2)

theorem runs_middleware (server : Server W) : server.Runs server.middleware where
  kept := rfl
  recorded := server.recordContext_result
  resolved := by
    intro s ctx world cb r admitted resolved
    rw [recordContext_events admitted resolved, events_recordMiddleware]
  unresolved := by
    intro s ctx world fault r refused
    rw [recordContext]
    split
    · rfl
    · rw [recordDispatch, refused]
      rfl
  passed := by
    intro s r some_handler ended
    have filled : server.middleware.isEmpty = false := by simpa using some_handler
    rw [runMiddleware, filled]
    rfl

theorem runs_after (registry : Registry W) (options : Options) (start : W) (deeds : List (Deed W)) :
    ((Site.ofServer (ofRegistry registry options) start).run deeds).server.Runs
      registry.middleware := by
  rw [← (Site.run_ofRegistry registry options start deeds).2.1]
  exact runs_middleware _

end Server

/-- Of the handlers that come up before a registry serves, or in the description of a server, the
first of each name are installed, and whatever is done with the server, these are what it runs. -/
theorem Setup.run_installs (style : NameStyle) (world : W) (changes : List (Change W)) :
    let registry := ((Setup.ofStyle style world).run changes).registry
    Middleware.Installs (changes.flatMap Change.handlers) registry.middleware ∧
      (∀ options start deeds,
        ((Site.ofServer (Server.ofRegistry registry options) start).run deeds).server.Runs
          registry.middleware) ∧
      ∀ calls server left, (Builder.ofCalls calls).build world = (.ok (.ok server), left) →
        Middleware.Installs (calls.flatMap BuilderCall.handlers) server.middleware ∧
          ∀ start deeds, ((Site.ofServer server start).run deeds).server.Runs server.middleware := by
  intro registry
  have installed : registry.middleware =
      Middleware.install [] (changes.flatMap Change.handlers) := Setup.run_middleware _ changes
  refine ⟨installed ▸ Middleware.installs _, Server.runs_after registry, ?_⟩
  intro calls server left opened
  obtain ⟨services, rfl⟩ := (Builder.defers calls world).opened server left opened
  have described := Middleware.installs (calls.flatMap BuilderCall.handlers)
  rw [← Builder.prepared_middleware] at described
  exact ⟨described, Server.runs_after _ _⟩

end JsonRpc
