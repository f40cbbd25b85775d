import GuardrailsOrchestrator.Clients.Basic

/-!
# Configurations that clients can be built from

Loading a configuration resolves the names of shared TLS entries and checks hostnames,
each by visiting a list of services. Building the clients visits a longer list: it has
the health services and the router too. This module says which configurations the
difference matters for.

## Main results

* `exists_createClients_eq_ok_iff` — the services that clients are built from
* `usable_iff` — when a loaded configuration is usable
-/

namespace GuardrailsOrchestrator

namespace OrchestratorConfig

variable (config : OrchestratorConfig)

/-! ### The services of a configuration

Each with the port that is used when it does not have its own. -/

/-- The services that gRPC clients are built from. -/
def grpcServices : List (ℕ × ServiceConfig) :=
  config.generation.toList.map (fun generation =>
      (generation.provider.defaultPort, generation.service))
    ++ (config.chunkers.elim [] (·.entries)).map (fun e => (8085, e.2.service))

/-- The services of OpenAI and of the detectors. -/
def mainHttpServices : List (ℕ × ServiceConfig) :=
  config.openai.toList.map (fun openai => (8080, openai.service))
    ++ config.detectors.entries.map (fun e => (8080, e.2.service))

/-- The services for health checks. -/
def healthServices : List (ℕ × ServiceConfig) :=
  (config.openai.bind (·.healthService)).toList.map (fun service => (8080, service))
    ++ (config.detectors.entries.filterMap (·.2.healthService)).map (fun service => (8080, service))

/-- The service of the router, if it is switched on. -/
def routerServices : List (ℕ × ServiceConfig) :=
  config.router.toList.flatMap fun router =>
    router.service.toList.map fun service => (router.port, service)

/-- The services that HTTP clients are built from. -/
def httpServices : List (ℕ × ServiceConfig) :=
  config.mainHttpServices ++ config.healthServices ++ config.routerServices

end OrchestratorConfig

section Building

variable {Url : Type} {env : ClientEnv Url} {config : OrchestratorConfig}

theorem exists_createOptional_eq_ok_iff {defaultPort : ℕ} {service : Option ServiceConfig} :
    (∃ client, createOptional env defaultPort service = .ok client) ↔
      ∀ s ∈ service, ∃ client, createHttpClient env defaultPort s = .ok client := by
  rw [createOptional]
  cases service with
  | none => simp [pure, Except.pure]
  | some s =>
    simp only [Option.mapM_some, Option.mem_def, Option.some.injEq, forall_eq']
    cases createHttpClient env defaultPort s <;> simp [Functor.map, Except.map]

/-- All clients can be built exactly when each builder succeeds. -/
theorem exists_createClients_eq_ok_iff_forall :
    (∃ clients, createClients env config = .ok clients) ↔
      ∀ b ∈ clientBuilders env config, ∃ client, b.2 = .ok client := by
  constructor
  · rintro ⟨clients, hclients⟩ b hb
    obtain ⟨built, hbuilt, -⟩ := exists_built_of_createClients hclients
    obtain ⟨e, -, he⟩ := List.exists_forall₂_iff.mp ⟨built, hbuilt⟩ b hb
    exact ⟨e.2, he⟩
  · intro h
    have hbuilt : ∀ b ∈ clientBuilders env config,
        ∃ e : String × Client Url, b.1 = e.1 ∧ b.2 = .ok e.2 := by
      intro b hb
      obtain ⟨client, hclient⟩ := h b hb
      exact ⟨(b.1, client), rfl, hclient⟩
    obtain ⟨built, hforall⟩ := List.exists_forall₂_iff.mpr hbuilt
    exact ⟨_, foldlM_insert_eq_ok_iff.mpr ⟨built, hforall, rfl⟩⟩

/-- A client of OpenAI or of a detector is built from its service, the service for
health checks and that of the router. -/
theorem exists_bind₃_eq_ok_iff {α β γ δ : Type} {x : Except StartFailure α}
    {y : Except StartFailure β} {z : Except StartFailure γ} {f : α → β → γ → δ} :
    (∃ d, (do return f (← x) (← y) (← z)) = Except.ok d) ↔
      (∃ a, x = .ok a) ∧ (∃ b, y = .ok b) ∧ ∃ c, z = .ok c := by
  cases x <;> cases y <;> cases z <;> simp [bind, Except.bind, pure, Except.pure]

theorem exists_newOpenAiClient_eq_ok_iff {openai : OpenAiConfig} {router : Option RouterConfig} :
    (∃ client, newOpenAiClient env openai router = .ok client) ↔
      (∃ client, createHttpClient env 8080 openai.service = .ok client) ∧
        (∃ client, createOptional env 8080 openai.healthService = .ok client) ∧
        ∃ client, createRouterClient env router = .ok client :=
  exists_bind₃_eq_ok_iff

theorem exists_newDetectorClient_eq_ok_iff {detectorId : DetectorId} {detector : DetectorConfig}
    {router : Option RouterConfig} :
    (∃ client, newDetectorClient env detectorId detector router = .ok client) ↔
      (∃ client, createHttpClient env 8080 detector.service = .ok client) ∧
        (∃ client, createOptional env 8080 detector.healthService = .ok client) ∧
        ∃ client, createRouterClient env router = .ok client :=
  exists_bind₃_eq_ok_iff

theorem exists_createRouterClient_eq_ok_iff :
    (∃ client, createRouterClient env config.router = .ok client) ↔
      ∀ s ∈ config.routerServices, ∃ client, createHttpClient env s.1 s.2 = .ok client := by
  rw [createRouterClient, exists_createOptional_eq_ok_iff, OrchestratorConfig.routerServices]
  cases config.router with
  | none => simp
  | some router => cases router.service <;> simp

theorem exists_newGenerationClient_eq_ok_iff {generation : GenerationConfig} :
    (∃ client, newGenerationClient env generation = .ok client) ↔
      ∃ client, createGrpcClient env generation.provider.defaultPort generation.service =
        .ok client := by
  rw [newGenerationClient]
  cases createGrpcClient env generation.provider.defaultPort generation.service <;>
    simp [bind, Except.bind, pure, Except.pure]

theorem exists_newChunkerClient_eq_ok_iff {chunker : ChunkerConfig} :
    (∃ client, newChunkerClient env chunker = .ok client) ↔
      ∃ client, createGrpcClient env 8085 chunker.service = .ok client := by
  rw [newChunkerClient]
  cases createGrpcClient env 8085 chunker.service <;> simp [bind, Except.bind, pure, Except.pure]

/-- The clients are built from the listed services, and from no others: all can be
built exactly when one can be built from each of these. -/
theorem exists_createClients_eq_ok_iff (hdetectors : config.detectors.isEmpty = false) :
    (∃ clients, createClients env config = .ok clients) ↔
      (∀ s ∈ config.grpcServices, ∃ client, createGrpcClient env s.1 s.2 = .ok client) ∧
        ∀ s ∈ config.httpServices, ∃ client, createHttpClient env s.1 s.2 = .ok client := by
  -- there is a detector, so the router's client is built if it is switched on
  have hrouter : (∀ e ∈ config.detectors.entries,
      ∃ client, createRouterClient env config.router = .ok client) ↔
        ∃ client, createRouterClient env config.router = .ok client := by
    rw [IterMap.isEmpty, List.isEmpty_eq_false_iff_exists_mem] at hdetectors
    obtain ⟨e, he⟩ := hdetectors
    exact ⟨fun h => h e he, fun h _ _ => h⟩
  have hopenai : (∀ openai ∈ config.openai.toList,
      ∃ client, createOptional env 8080 openai.healthService = .ok client) ↔
        ∀ s ∈ (config.openai.bind (·.healthService)).toList,
          ∃ client, createHttpClient env 8080 s = .ok client := by
    cases config.openai <;> simp [exists_createOptional_eq_ok_iff]
  have hhealth : (∀ e ∈ config.detectors.entries,
      ∃ client, createOptional env 8080 e.2.healthService = .ok client) ↔
        ∀ s ∈ config.detectors.entries.filterMap (·.2.healthService),
          ∃ client, createHttpClient env 8080 s = .ok client := by
    simp only [exists_createOptional_eq_ok_iff, List.mem_filterMap]
    exact ⟨fun h s ⟨e, he, hs⟩ => h e he s hs, fun h e he s hs => h s ⟨e, he, hs⟩⟩
  rw [exists_createClients_eq_ok_iff_forall]
  simp only [clientBuilders, OrchestratorConfig.grpcServices, OrchestratorConfig.httpServices,
    OrchestratorConfig.mainHttpServices, OrchestratorConfig.healthServices,
    List.forall_mem_append, List.forall_mem_map, exists_newGenerationClient_eq_ok_iff,
    exists_newOpenAiClient_eq_ok_iff, exists_newChunkerClient_eq_ok_iff,
    exists_newDetectorClient_eq_ok_iff, ← hopenai, ← hhealth,
    ← exists_createRouterClient_eq_ok_iff]
  constructor
  · rintro ⟨⟨⟨hgeneration, hopenais⟩, hchunkers⟩, hall⟩
    exact ⟨⟨hgeneration, hchunkers⟩, ⟨⟨fun o ho => (hopenais o ho).1, fun e he => (hall e he).1⟩,
      fun o ho => (hopenais o ho).2.1, fun e he => (hall e he).2.1⟩,
      hrouter.mp fun e he => (hall e he).2.2⟩
  · rintro ⟨⟨hgeneration, hchunkers⟩, ⟨⟨hmain, hmains⟩, hhealths, hhealths'⟩, hclient⟩
    exact ⟨⟨⟨hgeneration, fun o ho => ⟨hmain o ho, hhealths o ho, hclient⟩⟩, hchunkers⟩,
      fun e he => ⟨hmains e he, hhealths' e he, hclient⟩⟩

end Building

/-! ### Loading a configuration -/

section Loading

variable {config config' : OrchestratorConfig}

/-- A service has its TLS entry in place of the name, and is otherwise reached as
before. -/
def Resolved (service service' : ServiceConfig) : Prop :=
  service'.isNamed = false ∧ service'.hostname = service.hostname ∧
    service'.tls.isSome = service.tls.isSome

theorem exists_resolved_of_bind {α : Type} {tlsConfigs : IterMap String TlsConfig}
    {service : ServiceConfig} {update : ServiceConfig → α} {a : α}
    (h : (do return update (← applyNamedTlsConfig tlsConfigs service)) = Except.ok a) :
    ∃ service', a = update service' ∧ Resolved service service' := by
  obtain ⟨service', hservice, h⟩ := Except.bind_eq_ok_iff.mp h
  exact ⟨service', (Except.ok.inj h).symm, applyNamedTlsConfig_spec hservice⟩

/-- With a map of shared entries, the names of all services are resolved, except those
of the services for health checks. -/
structure Applied (config config' : OrchestratorConfig) : Prop where
  generation : List.Forall₂ (fun g g' => Resolved g.service g'.service) config.generation.toList
    config'.generation.toList
  openai : List.Forall₂ (fun o o' => Resolved o.service o'.service ∧
    o'.healthService = o.healthService) config.openai.toList config'.openai.toList
  chunkers : List.Forall₂ (fun e e' => Resolved e.2.service e'.2.service)
    (config.chunkers.elim [] (·.entries)) (config'.chunkers.elim [] (·.entries))
  detectors : List.Forall₂ (fun e e' => Resolved e.2.service e'.2.service ∧
    e'.2.healthService = e.2.healthService) config.detectors.entries config'.detectors.entries
  router : config'.router = config.router

theorem applied_of_applyNamedTlsConfigs {tlsConfigs : IterMap String TlsConfig}
    (htls : config.tls = some tlsConfigs) (h : config.applyNamedTlsConfigs = .ok config') :
    Applied config config' := by
  rw [OrchestratorConfig.applyNamedTlsConfigs, htls] at h
  obtain ⟨generation, hgeneration, h⟩ := Except.bind_eq_ok_iff.mp h
  obtain ⟨openai, hopenai, h⟩ := Except.bind_eq_ok_iff.mp h
  obtain ⟨chunkers, hchunkers, h⟩ := Except.bind_eq_ok_iff.mp h
  obtain ⟨detectors, hdetectors, h⟩ := Except.bind_eq_ok_iff.mp h
  obtain rfl := Except.ok.inj h
  -- one goal for each kind of service; the health services and the router are not touched
  refine ⟨?_, ?_, ?_, ?_, rfl⟩
  · refine (Except.forall₂_toList_of_optionMapM hgeneration).imp ?_
    intro g g' hg
    obtain ⟨service, rfl, hservice⟩ := exists_resolved_of_bind hg
    exact hservice
  · refine (Except.forall₂_toList_of_optionMapM hopenai).imp ?_
    intro o o' ho
    obtain ⟨service, rfl, hservice⟩ := exists_resolved_of_bind ho
    exact ⟨hservice, rfl⟩
  · have hforall := Except.forall₂_toList_of_optionMapM hchunkers
    cases hold : config.chunkers with
    | none =>
      simp only [hold, Option.toList_none, List.forall₂_nil_left_iff, Option.toList_eq_nil_iff]
        at hforall
      simp [hforall]
    | some old =>
      cases hnew : chunkers with
      | none => simp [hold, hnew] at hforall
      | some new =>
        simp only [hold, hnew, Option.toList_some, List.forall₂_cons, List.forall₂_same] at hforall
        refine (IterMap.forall₂_entries_of_mapValuesM hforall.1).imp ?_
        rintro e e' ⟨-, he⟩
        obtain ⟨service, he', hservice⟩ := exists_resolved_of_bind he
        rw [he']
        exact hservice
  · refine (IterMap.forall₂_entries_of_mapValuesM hdetectors).imp ?_
    rintro e e' ⟨-, he⟩
    obtain ⟨service, he', hservice⟩ := exists_resolved_of_bind he
    rw [he']
    exact ⟨hservice, rfl⟩

namespace Applied

variable (h : Applied config config')
include h

theorem forall₂_grpcServices :
    List.Forall₂ (fun s s' => Resolved s.2 s'.2) config.grpcServices config'.grpcServices := by
  apply List.rel_append
  · rw [List.forall₂_map_left_iff, List.forall₂_map_right_iff]
    exact h.generation
  · rw [List.forall₂_map_left_iff, List.forall₂_map_right_iff]
    exact h.chunkers

theorem forall₂_mainHttpServices :
    List.Forall₂ (fun s s' => Resolved s.2 s'.2) config.mainHttpServices
      config'.mainHttpServices := by
  apply List.rel_append
  · rw [List.forall₂_map_left_iff, List.forall₂_map_right_iff]
    exact h.openai.imp fun _ _ ho => ho.1
  · rw [List.forall₂_map_left_iff, List.forall₂_map_right_iff]
    exact h.detectors.imp fun _ _ he => he.1

theorem healthServices_eq : config'.healthServices = config.healthServices := by
  have hopenai : config'.openai.bind (·.healthService) = config.openai.bind (·.healthService) := by
    have hforall := h.openai
    cases hold : config.openai <;> cases hnew : config'.openai <;>
      simp_all [Option.toList]
  have hdetectors : config'.detectors.entries.filterMap (·.2.healthService) =
      config.detectors.entries.filterMap (·.2.healthService) := by
    have hforall := h.detectors
    generalize config.detectors.entries = old at hforall
    generalize config'.detectors.entries = new at hforall
    induction hforall with
    | nil => rfl
    | cons he _ ih => rw [List.filterMap_cons, List.filterMap_cons, he.2, ih]
  rw [OrchestratorConfig.healthServices, hopenai, hdetectors]
  rfl

theorem routerServices_eq : config'.routerServices = config.routerServices := by
  rw [OrchestratorConfig.routerServices, h.router]
  rfl

end Applied

/-- Validation has checked the hostnames of all services but those for health checks
and that of the router. -/
theorem isValidHostname_of_validate (h : config.validate = .ok ()) {s : ℕ × ServiceConfig}
    (hs : s ∈ config.grpcServices ++ config.mainHttpServices) :
    isValidHostname s.2.hostname = true := by
  obtain ⟨-, hgeneration, hopenai, hdetectors, hchunkers⟩ :=
    OrchestratorConfig.validate_eq_ok_iff.mp h
  rw [OrchestratorConfig.validateGenerationConfig_eq_ok_iff] at hgeneration
  rw [OrchestratorConfig.validateOpenaiConfigs_eq_ok_iff] at hopenai
  rw [OrchestratorConfig.validateDetectorConfigs_eq_ok_iff] at hdetectors
  rw [OrchestratorConfig.validateChunkerConfigs_eq_ok_iff] at hchunkers
  simp only [OrchestratorConfig.grpcServices, OrchestratorConfig.mainHttpServices,
    List.mem_append, List.mem_map, Option.mem_toList] at hs
  rcases hs with (⟨g, hg, rfl⟩ | ⟨e, he, rfl⟩) | (⟨o, ho, rfl⟩ | ⟨e, he, rfl⟩)
  · exact hgeneration g hg
  · cases hold : config.chunkers with
    | none => simp [hold] at he
    | some chunkers => exact hchunkers chunkers hold e (by simpa [hold] using he)
  · exact hopenai o ho
  · exact (hdetectors e he).1

end Loading

/-! ### Usable configurations -/

section Usability

variable {Url : Type} (env : ClientEnv Url)

/-- All services that clients are built from have their TLS settings in place and a
valid hostname, and no HTTP client fails for unresolved TLS settings or a base URL that
cannot be parsed. -/
structure Usable (config : OrchestratorConfig) : Prop where
  resolved : ∀ s ∈ config.grpcServices ++ config.httpServices, s.2.isNamed = false
  hostname : ∀ s ∈ config.grpcServices ++ config.httpServices,
    isValidHostname s.2.hostname = true
  http : ∀ s ∈ config.httpServices,
    createHttpClient env s.1 s.2 ≠ .error (.panic .unresolvedTls) ∧
      createHttpClient env s.1 s.2 ≠ .error (.panic .parsingBaseUrl)

/-- What loading a configuration relies on without looking at it. -/
structure Complete (config : OrchestratorConfig) : Prop where
  /-- There is a map of shared TLS entries, or none of the visited services needs it. -/
  tls : config.tls.isSome ∨
    ∀ s ∈ config.grpcServices ++ config.mainHttpServices, s.2.isNamed = false
  health : ∀ s ∈ config.healthServices, s.2.isNamed = false ∧ isValidHostname s.2.hostname = true
  router : ∀ s ∈ config.routerServices, isValidHostname s.2.hostname = true
  /-- A valid hostname need not be one that a URL can have. -/
  baseUrl : ∀ s ∈ config.httpServices, (env.parseUrl s.2.baseUrl).isSome

variable {env} {config config' : OrchestratorConfig}

/-- TLS settings make a builder panic only when they have no path of certificates. -/
theorem buildClientConfig_eq_panic_iff {tls : TlsConfig} {reason : StartPanic} :
    buildClientConfig env tls = .error (.panic reason) ↔
      tls.certPath = none ∧ reason = .missingPath := by
  rw [buildClientConfig]
  cases tls.certPath with
  | none => simp [orPanic, bind, Except.bind, eq_comm]
  | some certPath =>
    simp only [orPanic, bind, Except.bind, reduceCtorEq, false_and, iff_false]
    intro h
    obtain ⟨error, -, herror⟩ := Except.exists_of_mapError_eq_error h
    simp at herror

/-- The panics of a builder, in the order in which they are reached. -/
theorem createHttpClient_eq_panic_iff {port : ℕ} {service : ServiceConfig} {reason : StartPanic} :
    createHttpClient env port service = .error (.panic reason) ↔
      match env.parseUrl service.baseUrl with
      | none => reason = .parsingBaseUrl
      | some baseUrl =>
        match env.setPort baseUrl (service.port.getD port), service.tls with
        | none, _ => reason = .settingPort (service.port.getD port)
        | some _, some (.config tls) => tls.certPath = none ∧ reason = .missingPath
        | some _, some (.name _) => reason = .unresolvedTls
        | some _, none => False := by
  rw [createHttpClient]
  cases env.parseUrl service.baseUrl with
  | none => simp [orPanic, bind, Except.bind, eq_comm]
  | some baseUrl =>
    cases hport : env.setPort baseUrl (service.port.getD port) with
    | none => simp [orPanic, bind, Except.bind, hport, eq_comm]
    | some baseUrl' =>
      cases htls : service.tls with
      | none => simp [orPanic, bind, Except.bind, hport, pure, Except.pure]
      | some tls =>
        cases tls with
        | name name =>
          simp [orPanic, bind, Except.bind, hport, throw, throwThe, MonadExceptOf.throw, eq_comm]
        | config tls =>
          -- building the settings can panic only for a missing path
          have hpanic := @buildClientConfig_eq_panic_iff _ env tls reason
          cases hbuild : buildClientConfig env tls <;>
            simp_all [orPanic, bind, Except.bind, pure, Except.pure]

theorem createHttpClient_eq_parsingBaseUrl_iff {port : ℕ} {service : ServiceConfig} :
    createHttpClient env port service = .error (.panic .parsingBaseUrl) ↔
      env.parseUrl service.baseUrl = none := by
  rw [createHttpClient_eq_panic_iff]
  split
  · simp [*]
  · split <;> simp [*]

theorem createHttpClient_ne_unresolvedTls {port : ℕ} {service : ServiceConfig}
    (h : service.isNamed = false) :
    createHttpClient env port service ≠ .error (.panic .unresolvedTls) := by
  rw [Ne, createHttpClient_eq_panic_iff]
  split
  · simp
  · split
    · simp
    · simp
    · rename_i hname
      simp [ServiceConfig.isNamed, hname] at h
    · simp

theorem isNamed_of_mem_routerServices {s : ℕ × ServiceConfig} (h : s ∈ config.routerServices) :
    s.2.isNamed = false := by
  simp only [OrchestratorConfig.routerServices, RouterConfig.service, List.mem_flatMap] at h
  obtain ⟨router, -, h⟩ := h
  split_ifs at h
  · obtain rfl : (router.port, _) = s := by simpa [eq_comm] using h
    rfl
  · simp at h

/-- What loading does to the services: the names are resolved if there are shared
entries, and the base URLs and the services that are not visited stay. -/
theorem services_of_load (h : config.applyNamedTlsConfigs = .ok config') :
    ((∀ s ∈ config'.grpcServices ++ config'.mainHttpServices, s.2.isNamed = false) ↔
      config.tls.isSome ∨
        ∀ s ∈ config.grpcServices ++ config.mainHttpServices, s.2.isNamed = false) ∧
      config'.healthServices = config.healthServices ∧
      config'.routerServices = config.routerServices ∧
      ((∀ s ∈ config'.mainHttpServices, (env.parseUrl s.2.baseUrl).isSome) ↔
        ∀ s ∈ config.mainHttpServices, (env.parseUrl s.2.baseUrl).isSome) := by
  cases htls : config.tls with
  | none =>
    rw [OrchestratorConfig.applyNamedTlsConfigs, htls] at h
    obtain rfl := Except.ok.inj h
    simp
  | some tlsConfigs =>
    have happlied := applied_of_applyNamedTlsConfigs htls h
    refine ⟨?_, happlied.healthServices_eq, happlied.routerServices_eq, ?_⟩
    · refine iff_of_true ?_ (Or.inl rfl)
      have hall := List.rel_append happlied.forall₂_grpcServices happlied.forall₂_mainHttpServices
      have hiff := hall.forall_mem_iff fun s s' hs => (iff_of_true trivial hs.1 :
        True ↔ s'.2.isNamed = false)
      exact hiff.mp fun _ _ => trivial
    · symm
      apply happlied.forall₂_mainHttpServices.forall_mem_iff
      rintro s s' ⟨-, hhostname, htls⟩
      rw [ServiceConfig.baseUrl, ServiceConfig.baseUrl, hhostname, htls]

/-- The services of a configuration are those whose TLS names are resolved, the health
services and the router. -/
theorem mem_services {s : ℕ × ServiceConfig} :
    s ∈ config.grpcServices ++ config.httpServices ↔
      s ∈ config.grpcServices ++ config.mainHttpServices ∨ s ∈ config.healthServices ∨
        s ∈ config.routerServices := by
  simp [OrchestratorConfig.httpServices, or_assoc]

theorem isSome_parseUrl_iff {port : ℕ} {service : ServiceConfig} :
    (env.parseUrl service.baseUrl).isSome ↔
      createHttpClient env port service ≠ .error (.panic .parsingBaseUrl) := by
  rw [Ne, createHttpClient_eq_parsingBaseUrl_iff, Option.isSome_iff_ne_none]

/-- The clients of a configuration that was loaded are built from the listed services, and
it is usable exactly when it is complete. -/
theorem usable_iff (happly : config.applyNamedTlsConfigs = .ok config')
    (hvalid : config'.validate = .ok ()) :
    ((∃ clients, createClients env config' = .ok clients) ↔
        (∀ s ∈ config'.grpcServices, ∃ client, createGrpcClient env s.1 s.2 = .ok client) ∧
          ∀ s ∈ config'.httpServices, ∃ client, createHttpClient env s.1 s.2 = .ok client) ∧
      (Usable env config' ↔ Complete env config) := by
  refine ⟨exists_createClients_eq_ok_iff
    (OrchestratorConfig.validate_eq_ok_iff.mp hvalid).1, ?_⟩
  obtain ⟨hnamed, hhealth, hrouter, hurl⟩ := @services_of_load _ env _ _ happly
  -- resolving a name does not change the URL of a service
  have hparses : (∀ s ∈ config'.httpServices, (env.parseUrl s.2.baseUrl).isSome) ↔
      ∀ s ∈ config.httpServices, (env.parseUrl s.2.baseUrl).isSome := by
    simp only [OrchestratorConfig.httpServices, List.forall_mem_append, hurl, hhealth, hrouter]
  constructor
  · intro husable
    refine ⟨?_, ?_, ?_, ?_⟩
    · apply hnamed.mp
      intro s hs
      exact husable.resolved s (mem_services.mpr (.inl hs))
    · intro s hs
      have hmem := mem_services.mpr (.inr (.inl (hhealth ▸ hs)))
      exact ⟨husable.resolved s hmem, husable.hostname s hmem⟩
    · intro s hs
      exact husable.hostname s (mem_services.mpr (.inr (.inr (hrouter ▸ hs))))
    · apply hparses.mp
      intro s hs
      exact isSome_parseUrl_iff.mpr (husable.http s hs).2
  · intro hcomplete
    -- the services are those with validated hostnames, the health services and the router
    have hresolved : ∀ s ∈ config'.grpcServices ++ config'.httpServices, s.2.isNamed = false := by
      intro s hs
      rcases mem_services.mp hs with hs | hs | hs
      · exact hnamed.mpr hcomplete.tls s hs
      · exact (hcomplete.health s (hhealth ▸ hs)).1
      · exact isNamed_of_mem_routerServices hs
    refine ⟨hresolved, ?_, ?_⟩
    · intro s hs
      rcases mem_services.mp hs with hs | hs | hs
      · exact isValidHostname_of_validate hvalid hs
      · exact (hcomplete.health s (hhealth ▸ hs)).2
      · exact hcomplete.router s (hrouter ▸ hs)
    · intro s hs
      exact ⟨createHttpClient_ne_unresolvedTls (hresolved s (List.mem_append_right _ hs)),
        isSome_parseUrl_iff.mp (hparses.mpr hcomplete.baseUrl s hs)⟩

/-- A configuration with a detector whose TLS settings are the name of a shared entry. -/
def namedTlsConfig (tls : Option (IterMap String TlsConfig)) : OrchestratorConfig where
  detectors :=
    ⟨[("hap", ⟨{ hostname := "localhost", tls := some (.name "internal") }, none,
      defaultChunkerId, 1, .textContents⟩)], by simp⟩
  tls

/-- A shared entry with a certificate and its key. -/
def internalTls : IterMap String TlsConfig :=
  ⟨[("internal", { certPath := some "tls.crt", keyPath := some "tls.key" })], by simp⟩

theorem usable_iff_namedTls : ∃ config' clients,
    (namedTlsConfig (some internalTls)).applyNamedTlsConfigs = .ok config' ∧
      config'.validate = .ok () ∧ createClients plainEnv config' = .ok clients ∧
      (((∃ clients, createClients plainEnv config' = .ok clients) ↔
          (∀ s ∈ config'.grpcServices, ∃ client,
            createGrpcClient plainEnv s.1 s.2 = .ok client) ∧
          ∀ s ∈ config'.httpServices, ∃ client,
            createHttpClient plainEnv s.1 s.2 = .ok client) ∧
        (Usable plainEnv config' ↔ Complete plainEnv (namedTlsConfig (some internalTls)))) := by
  obtain ⟨config', clients, happly, hvalid, hclients⟩ : ∃ config' clients,
      (namedTlsConfig (some internalTls)).applyNamedTlsConfigs = .ok config' ∧
        config'.validate = .ok () ∧ createClients plainEnv config' = .ok clients :=
    ⟨_, _, rfl, rfl, rfl⟩
  exact ⟨config', clients, happly, hvalid, hclients, usable_iff happly hvalid⟩

/-- Without a map of shared entries the name is not resolved, no check notices it, and
building the detector's client panics. -/
theorem not_usable_namedTls :
    (namedTlsConfig none).applyNamedTlsConfigs = .ok (namedTlsConfig none) ∧
      (namedTlsConfig none).validate = .ok () ∧ ¬ Usable plainEnv (namedTlsConfig none) ∧
      createClients plainEnv (namedTlsConfig none) = .error (.panic .unresolvedTls) := by
  refine ⟨rfl, rfl, ?_, rfl⟩
  intro husable
  have hresolved := husable.resolved
    (8080, { hostname := "localhost", tls := some (.name "internal") }) (by decide)
  revert hresolved
  decide

end Usability

end GuardrailsOrchestrator
