import GuardrailsOrchestrator.Config
import GuardrailsOrchestrator.Lib.Text

/-!
# Clients

The clients an orchestrator builds from its configuration when it starts, and the map
in which it keeps them. All clients are kept under one kind of key: two of them have a
fixed name, the others have the id of their chunker or detector.

What the builders use of other libraries and of the host is a parameter, `ClientEnv`.

## Main results

* `createClients_retrievable_iff` — every client is found under its name with its own
  kind exactly when no two clients share a name
-/

namespace GuardrailsOrchestrator

/-! ### Building a client -/

/-- A certificate or a private key, as it is encoded. -/
abbrev Der := List UInt8

/-- What is used to build clients: URLs, files, the certificates and keys that are in them
and gRPC channels. -/
structure ClientEnv (Url : Type) where
  parseUrl : String → Option Url
  setPort : Url → ℕ → Option Url
  setPath : Url → String → Url
  /-- The certificates in a file, or why it could not be read. -/
  readCerts : String → Except String (List Der)
  /-- The first private key in a file, if there is one. -/
  readPrivateKey : String → Except String (Option Der)
  /-- Checks that a key is that of the certificates. -/
  checkClientAuthCert : List Der → Der → Except String Unit
  isReadable : String → Bool
  channelOpens : String → ℕ → Option TlsConfig → Bool

/-- Reasons why a builder panics. -/
inductive StartPanic where
  | parsingBaseUrl
  | settingPort (port : ℕ)
  | unresolvedTls
  | missingPath
  | readingFile (path : String)
  | creatingGrpcClient
  deriving DecidableEq

/-- A builder panics or returns an error. -/
inductive StartFailure where
  | panic (reason : StartPanic)
  | error (error : ClientError)
  deriving DecidableEq

/-- Errors of the TLS settings of a client. -/
inductive TlsError where
  | failedReadCerts (error : String)
  | failedReadKey (error : String)
  | failedReadCaCerts (error : String)
  | missingTlsKey
  | rustlsError (error : String)

def TlsError.message : TlsError → String
  | .failedReadCerts error => "failed to read TLS certs from file: " ++ error
  | .failedReadKey error => "failed to read TLS private key from file: " ++ error
  | .failedReadCaCerts error => "failed to read TLS CA certs from file: " ++ error
  | .missingTlsKey => "missing TLS private key"
  | .rustlsError error => "TLS configuration error: " ++ error

def TlsError.intoClientError (error : TlsError) : ClientError :=
  .http 500 ("client TLS configuration failed: " ++ error.message)

structure TlsConfigBuilder where
  certPath : String
  keyPath : Option String
  caCertPath : Option String
  insecure : Option Bool

structure ResolvedTlsConfig where
  cert : List Der
  key : Option Der
  caCert : Option (List Der)
  insecure : Bool

/-- How an HTTP client connects. -/
structure TlsClientConfig where
  /-- The certificates that are trusted, if not those of the host. -/
  roots : Option (List Der)
  clientAuth : Option (List Der × Der)
  verifies : Bool

structure HttpClient (Url : Type) where
  baseUrl : Url
  tls : TlsClientConfig

structure GrpcClient where
  hostname : String
  port : ℕ
  tls : Option TlsConfig

/-- The text of the base URL of a service. -/
def ServiceConfig.baseUrl (service : ServiceConfig) : String :=
  (if service.tls.isSome then "https" else "http") ++ "://" ++ service.hostname

/-- The result of a call that panics when there is none. -/
def orPanic {α : Type} (value : Option α) (reason : StartPanic) : Except StartFailure α :=
  match value with
  | some a => .ok a
  | none => .error (.panic reason)

section Builders

variable {Url : Type} (env : ClientEnv Url)

/-- Appends the path prefix of a service, without the slashes around it. -/
def applyPathPrefix (baseUrl : Url) (pathPrefix : Option String) : Url :=
  match pathPrefix with
  | some text =>
    let trimmed := text.toList.trim (· = '/')
    if trimmed.isEmpty then baseUrl else env.setPath baseUrl (String.ofList ('/' :: trimmed))
  | none => baseUrl

def TlsConfigBuilder.build (builder : TlsConfigBuilder) : Except TlsError ResolvedTlsConfig := do
  let cert ← (env.readCerts builder.certPath).mapError .failedReadCerts
  let key ← builder.keyPath.mapM fun path => do
    match ← (env.readPrivateKey path).mapError .failedReadKey with
    | some key => pure key
    | none => throw .missingTlsKey
  let caCert ← builder.caCertPath.mapM fun path =>
    (env.readCerts path).mapError .failedReadCaCerts
  return ⟨cert, key, caCert, builder.insecure.getD false⟩

/-- The connection settings for resolved TLS settings. -/
def ResolvedTlsConfig.clientConfig (tls : ResolvedTlsConfig) :
    Except TlsError TlsClientConfig := do
  let roots := tls.caCert.filter (!·.isEmpty)
  let clientAuth ← match tls.key with
    | some key =>
      if tls.cert.isEmpty then pure none else do
        (env.checkClientAuthCert tls.cert key).mapError .rustlsError
        pure (some (tls.cert, key))
    | none => pure none
  return ⟨roots, clientAuth, !tls.insecure⟩

/-- The connection settings for the TLS settings of a service. There has to be a path of
certificates: without one this panics. -/
def buildClientConfig (tls : TlsConfig) : Except StartFailure TlsClientConfig := do
  let certPath ← orPanic tls.certPath .missingPath
  let builder : TlsConfigBuilder := ⟨certPath, tls.keyPath, tls.clientCaCertPath, tls.insecure⟩
  ((builder.build env).bind fun resolved => resolved.clientConfig env).mapError
    fun error => .error error.intoClientError

/-- The connection settings when there are no TLS settings. -/
def buildInsecureClientConfig : TlsClientConfig := ⟨none, none, false⟩

def createHttpClient (defaultPort : ℕ) (service : ServiceConfig) :
    Except StartFailure (HttpClient Url) := do
  let port := service.port.getD defaultPort
  let baseUrl ← orPanic (env.parseUrl service.baseUrl) .parsingBaseUrl
  let baseUrl ← orPanic (env.setPort baseUrl port) (.settingPort port)
  let baseUrl := applyPathPrefix env baseUrl service.pathPrefix
  match service.tls with
  | some (.config tls) => return ⟨baseUrl, ← buildClientConfig env tls⟩
  | some (.name _) => throw (.panic .unresolvedTls)
  | none => return ⟨baseUrl, buildInsecureClientConfig⟩

/-- Reads a file that must be there. -/
def readFile (path : String) : Except StartFailure Unit :=
  if env.isReadable path then .ok () else .error (.panic (.readingFile path))

def createGrpcClient (defaultPort : ℕ) (service : ServiceConfig) :
    Except StartFailure GrpcClient := do
  let port := service.port.getD defaultPort
  let baseUrl ← orPanic (env.parseUrl service.baseUrl) .parsingBaseUrl
  let _ ← orPanic (env.setPort baseUrl port) (.settingPort port)
  let clientTlsConfig ← match service.tls with
    | some (.config tls) => do
      let certPath ← orPanic tls.certPath .missingPath
      let keyPath ← orPanic tls.keyPath .missingPath
      readFile env certPath
      readFile env keyPath
      match tls.clientCaCertPath with
      | some path => readFile env path
      | none => pure ()
      pure (some tls)
    -- a name that was not resolved is ignored here
    | _ => pure none
  if env.channelOpens service.hostname port clientTlsConfig then
    return ⟨service.hostname, port, clientTlsConfig⟩
  else throw (.panic .creatingGrpcClient)

/-! ### The kinds of clients -/

structure GenerationClient where
  provider : GenerationProvider
  client : GrpcClient

structure ChunkerServiceClient where
  client : GrpcClient
  healthClient : GrpcClient

structure OpenAiClient (Url : Type) where
  client : HttpClient Url
  healthClient : Option (HttpClient Url)
  routerClient : Option (HttpClient Url)

structure DetectorServiceClient (Url : Type) where
  detectorId : DetectorId
  client : HttpClient Url
  healthClient : Option (HttpClient Url)
  routerClient : Option (HttpClient Url)

/-- A client of any kind. -/
inductive Client (Url : Type) where
  | generation (client : GenerationClient)
  | openai (client : OpenAiClient Url)
  | chunker (client : ChunkerServiceClient)
  | detector (client : DetectorServiceClient Url)

inductive ClientKind where
  | generation
  | openai
  | chunker
  | detector
  deriving DecidableEq

def Client.kind {Url : Type} : Client Url → ClientKind
  | .generation _ => .generation
  | .openai _ => .openai
  | .chunker _ => .chunker
  | .detector _ => .detector

/-- The service of a router that is switched on. -/
def RouterConfig.service (router : RouterConfig) : Option ServiceConfig :=
  if router.enabled then some { hostname := router.hostname, port := some router.port } else none

/-- A client that is built if there is a service for it. -/
def createOptional (defaultPort : ℕ) (service : Option ServiceConfig) :
    Except StartFailure (Option (HttpClient Url)) :=
  service.mapM (createHttpClient env defaultPort)

/-- The client for the router. It has no default port: the router's own is set. -/
def createRouterClient (router : Option RouterConfig) :
    Except StartFailure (Option (HttpClient Url)) :=
  createOptional env (router.elim 0 (·.port)) (router.bind RouterConfig.service)

def GenerationProvider.defaultPort : GenerationProvider → ℕ
  | .tgis => 8033
  | .nlp => 8085

/-- The health client of one of the providers is built like the client itself. -/
def newGenerationClient (generation : GenerationConfig) :
    Except StartFailure (Client Url) := do
  let client ← createGrpcClient env generation.provider.defaultPort generation.service
  return .generation ⟨generation.provider, client⟩

def newOpenAiClient (openai : OpenAiConfig) (router : Option RouterConfig) :
    Except StartFailure (Client Url) := do
  let client ← createHttpClient env 8080 openai.service
  let healthClient ← createOptional env 8080 openai.healthService
  let routerClient ← createRouterClient env router
  return .openai ⟨client, healthClient, routerClient⟩

def newChunkerClient (chunker : ChunkerConfig) : Except StartFailure (Client Url) := do
  let client ← createGrpcClient env 8085 chunker.service
  let healthClient ← createGrpcClient env 8085 chunker.service
  return .chunker ⟨client, healthClient⟩

def newDetectorClient (detectorId : DetectorId) (detector : DetectorConfig)
    (router : Option RouterConfig) : Except StartFailure (Client Url) := do
  let client ← createHttpClient env 8080 detector.service
  let healthClient ← createOptional env 8080 detector.healthService
  let routerClient ← createRouterClient env router
  return .detector ⟨detectorId, client, healthClient, routerClient⟩

/-! ### All clients -/

/-- The map of clients: a key has the client that was inserted last. -/
abbrev ClientMap (Url : Type) := IterMap String (Client Url)

/-- The client under a key, if it is of the kind that is asked for. -/
def ClientMap.get (clients : ClientMap Url) (kind : ClientKind) (key : String) :
    Option (Client Url) :=
  (clients.get? key).filter (·.kind = kind)

variable (config : OrchestratorConfig)

/-- The names of the clients and how each is built, in the order of insertion. -/
def clientBuilders : List (String × Except StartFailure (Client Url)) :=
  config.generation.toList.map (fun generation =>
      ("generation", newGenerationClient env generation))
    ++ config.openai.toList.map (fun openai =>
      ("openai", newOpenAiClient env openai config.router))
    ++ (config.chunkers.elim [] (·.entries)).map (fun (chunkerId, chunker) =>
      (chunkerId, newChunkerClient env chunker))
    ++ config.detectors.entries.map (fun (detectorId, detector) =>
      (detectorId, newDetectorClient env detectorId detector config.router))

/-- Builds one client after the other and inserts each under its name. -/
def createClients : Except StartFailure (ClientMap Url) :=
  (clientBuilders env config).foldlM
    (fun clients (key, build) => do return clients.insert key (← build)) IterMap.empty

variable {env config}

/-- The map that is returned holds what was built, and nothing failed. -/
theorem foldlM_insert_eq_ok_iff {builders : List (String × Except StartFailure (Client Url))}
    {clients result : ClientMap Url} :
    builders.foldlM (fun clients (key, build) => do return clients.insert key (← build)) clients =
        .ok result ↔
      ∃ built, List.Forall₂ (fun b e => b.1 = e.1 ∧ b.2 = .ok e.2) builders built ∧
        result = clients.insertAll built := by
  induction builders generalizing clients with
  | nil => simp [pure, Except.pure, eq_comm]
  | cons b builders ih =>
    simp only [List.foldlM_cons, Except.bind_eq_ok_iff, List.forall₂_cons_left_iff]
    constructor
    · rintro ⟨_, ⟨client, hclient, h⟩, hrest⟩
      obtain rfl := Except.ok.inj h
      obtain ⟨built, hbuilt, rfl⟩ := ih.mp hrest
      exact ⟨(b.1, client) :: built, ⟨_, built, ⟨rfl, hclient⟩, hbuilt, rfl⟩, rfl⟩
    · rintro ⟨_, ⟨e, built, ⟨hkey, hclient⟩, hbuilt, rfl⟩, rfl⟩
      exact ⟨_, ⟨e.2, hclient, rfl⟩, ih.mpr ⟨built, hbuilt, by simp [hkey]⟩⟩

/-- The clients that were built, in the order of insertion. -/
theorem exists_built_of_createClients {clients : ClientMap Url}
    (h : createClients env config = .ok clients) :
    ∃ built, List.Forall₂ (fun b e => b.1 = e.1 ∧ b.2 = .ok e.2) (clientBuilders env config) built ∧
      clients = IterMap.empty.insertAll built :=
  foldlM_insert_eq_ok_iff.mp h

end Builders

/-! ### Finding a client -/

section Retrieval

variable {Url : Type} {env : ClientEnv Url} {config : OrchestratorConfig}

/-- The names of the clients and their kinds, in the order of insertion. -/
def clientKinds (config : OrchestratorConfig) : List (String × ClientKind) :=
  config.generation.toList.map (fun _ => ("generation", .generation))
    ++ config.openai.toList.map (fun _ => ("openai", .openai))
    ++ config.chunkerIds.map (fun chunkerId => (chunkerId, .chunker))
    ++ config.detectors.keys.map (fun detectorId => (detectorId, .detector))

theorem kind_of_newGenerationClient {generation : GenerationConfig} {client : Client Url}
    (h : newGenerationClient env generation = .ok client) : client.kind = .generation := by
  obtain ⟨_, -, h⟩ := Except.bind_eq_ok_iff.mp h
  obtain rfl := Except.ok.inj h
  rfl

theorem kind_of_newOpenAiClient {openai : OpenAiConfig} {router : Option RouterConfig}
    {client : Client Url} (h : newOpenAiClient env openai router = .ok client) :
    client.kind = .openai := by
  obtain ⟨_, -, h⟩ := Except.bind_eq_ok_iff.mp h
  obtain ⟨_, -, h⟩ := Except.bind_eq_ok_iff.mp h
  obtain ⟨_, -, h⟩ := Except.bind_eq_ok_iff.mp h
  obtain rfl := Except.ok.inj h
  rfl

theorem kind_of_newChunkerClient {chunker : ChunkerConfig} {client : Client Url}
    (h : newChunkerClient env chunker = .ok client) : client.kind = .chunker := by
  obtain ⟨_, -, h⟩ := Except.bind_eq_ok_iff.mp h
  obtain ⟨_, -, h⟩ := Except.bind_eq_ok_iff.mp h
  obtain rfl := Except.ok.inj h
  rfl

theorem kind_of_newDetectorClient {detectorId : DetectorId} {detector : DetectorConfig}
    {router : Option RouterConfig} {client : Client Url}
    (h : newDetectorClient env detectorId detector router = .ok client) :
    client.kind = .detector := by
  obtain ⟨_, -, h⟩ := Except.bind_eq_ok_iff.mp h
  obtain ⟨_, -, h⟩ := Except.bind_eq_ok_iff.mp h
  obtain ⟨_, -, h⟩ := Except.bind_eq_ok_iff.mp h
  obtain rfl := Except.ok.inj h
  rfl

/-- Each builder builds a client of its kind. -/
theorem forall₂_clientKinds : List.Forall₂
    (fun b k => b.1 = k.1 ∧ ∀ client : Client Url, b.2 = .ok client → client.kind = k.2)
    (clientBuilders env config) (clientKinds config) := by
  have hchunkers : config.chunkerIds = (config.chunkers.elim [] (·.entries)).map (·.1) := by
    rw [OrchestratorConfig.chunkerIds]
    cases config.chunkers <;> rfl
  rw [clientBuilders, clientKinds, hchunkers, IterMap.keys, List.map_map, List.map_map]
  refine List.rel_append (List.rel_append (List.rel_append ?_ ?_) ?_) ?_ <;>
    rw [List.forall₂_map_left_iff, List.forall₂_map_right_iff, List.forall₂_same] <;>
    rintro x -
  · exact ⟨rfl, fun _ => kind_of_newGenerationClient⟩
  · exact ⟨rfl, fun _ => kind_of_newOpenAiClient⟩
  · exact ⟨rfl, fun _ => kind_of_newChunkerClient⟩
  · exact ⟨rfl, fun _ => kind_of_newDetectorClient⟩

/-- What was built has the names and kinds of the configuration. -/
theorem map_kind_eq_of_forall₂ {builders : List (String × Except StartFailure (Client Url))}
    {built : List (String × Client Url)} {kinds : List (String × ClientKind)}
    (hbuilt : List.Forall₂ (fun b e => b.1 = e.1 ∧ b.2 = .ok e.2) builders built)
    (hkinds : List.Forall₂ (fun b k => b.1 = k.1 ∧
      ∀ client : Client Url, b.2 = .ok client → client.kind = k.2) builders kinds) :
    built.map (fun e => (e.1, e.2.kind)) = kinds := by
  induction hbuilt generalizing kinds with
  | nil => cases hkinds; rfl
  | cons he _ ih =>
    cases hkinds with
    | cons hk hrest =>
      rw [List.map_cons, ih hrest, ← he.1, hk.1, hk.2 _ he.2]

/-- The kind of the client under a key: of the clients with that name, the last that
was inserted. -/
theorem map_kind_get? {clients : ClientMap Url} (h : createClients env config = .ok clients)
    (key : String) :
    (clients.get? key).map Client.kind =
      if key ∈ config.detectors.keys then some .detector
      else if key ∈ config.chunkerIds then some .chunker
      else if key = "openai" ∧ config.openai.isSome then some .openai
      else if key = "generation" ∧ config.generation.isSome then some .generation
      else none := by
  obtain ⟨built, hbuilt, rfl⟩ := exists_built_of_createClients h
  rw [IterMap.map_get?_insertAll, map_kind_eq_of_forall₂ hbuilt forall₂_clientKinds, clientKinds,
    IterMap.insertAll_append, IterMap.insertAll_append, IterMap.insertAll_append,
    IterMap.get?_insertAll_map, IterMap.get?_insertAll_map]
  cases config.openai <;> cases config.generation <;> simp

/-- Every configured client is found under its name with its own kind, and the two with
a fixed name only if they are configured. -/
structure Retrievable (config : OrchestratorConfig) (clients : ClientMap Url) : Prop where
  generation : (clients.get .generation "generation").isSome ↔ config.generation.isSome
  openai : (clients.get .openai "openai").isSome ↔ config.openai.isSome
  chunkers : ∀ chunkerId ∈ config.chunkerIds, (clients.get .chunker chunkerId).isSome
  detectors : ∀ detectorId ∈ config.detectors.keys, (clients.get .detector detectorId).isSome
  /-- The chunker of each detector is found, unless it is the one without a client. -/
  detectorChunkers : ∀ e ∈ config.detectors.entries, e.2.chunkerId ≠ defaultChunkerId →
    (clients.get .chunker e.2.chunkerId).isSome

/-- The names of the clients do not clash: the fixed name of a configured client is no
id, and no id is that of a chunker and of a detector. -/
structure NamesDistinct (config : OrchestratorConfig) : Prop where
  generation : config.generation.isSome →
    "generation" ∉ config.chunkerIds ∧ "generation" ∉ config.detectors.keys
  openai : config.openai.isSome →
    "openai" ∉ config.chunkerIds ∧ "openai" ∉ config.detectors.keys
  chunkers : ∀ chunkerId ∈ config.chunkerIds, chunkerId ∉ config.detectors.keys

theorem isSome_get_iff {clients : ClientMap Url} {kind : ClientKind} {key : String} :
    (clients.get kind key).isSome ↔ (clients.get? key).map Client.kind = some kind := by
  rw [ClientMap.get]
  cases clients.get? key <;> simp

section Lookups

variable {clients : ClientMap Url} (h : createClients env config = .ok clients)
include h

theorem isSome_get_generation_iff : (clients.get .generation "generation").isSome ↔
    config.generation.isSome ∧ "generation" ∉ config.chunkerIds ∧
      "generation" ∉ config.detectors.keys := by
  rw [isSome_get_iff, map_kind_get? h]
  split_ifs <;> simp_all

theorem isSome_get_openai_iff : (clients.get .openai "openai").isSome ↔
    config.openai.isSome ∧ "openai" ∉ config.chunkerIds ∧ "openai" ∉ config.detectors.keys := by
  rw [isSome_get_iff, map_kind_get? h]
  split_ifs <;> simp_all

theorem isSome_get_chunker_iff {key : String} : (clients.get .chunker key).isSome ↔
    key ∈ config.chunkerIds ∧ key ∉ config.detectors.keys := by
  rw [isSome_get_iff, map_kind_get? h]
  split_ifs <;> simp_all

theorem isSome_get_detector_iff {key : String} : (clients.get .detector key).isSome ↔
    key ∈ config.detectors.keys := by
  rw [isSome_get_iff, map_kind_get? h]
  split_ifs <;> simp_all

end Lookups

/-- The clients of a validated configuration can all be retrieved exactly when their
names are distinct. -/
theorem createClients_retrievable_iff (hvalid : config.validate = .ok ())
    {clients : ClientMap Url} (hclients : createClients env config = .ok clients) :
    Retrievable config clients ↔ NamesDistinct config := by
  constructor
  · intro hretrievable
    refine ⟨?_, ?_, ?_⟩
    · intro hgeneration
      exact ((isSome_get_generation_iff hclients).mp (hretrievable.generation.mpr hgeneration)).2
    · intro hopenai
      exact ((isSome_get_openai_iff hclients).mp (hretrievable.openai.mpr hopenai)).2
    · intro chunkerId hchunker
      exact ((isSome_get_chunker_iff hclients).mp (hretrievable.chunkers chunkerId hchunker)).2
  · intro hdistinct
    have hchunkers : ∀ chunkerId ∈ config.chunkerIds, (clients.get .chunker chunkerId).isSome := by
      intro chunkerId hchunker
      exact (isSome_get_chunker_iff hclients).mpr ⟨hchunker, hdistinct.chunkers chunkerId hchunker⟩
    refine ⟨?_, ?_, hchunkers, ?_, ?_⟩
    · rw [isSome_get_generation_iff hclients]
      exact and_iff_left_of_imp hdistinct.generation
    · rw [isSome_get_openai_iff hclients]
      exact and_iff_left_of_imp hdistinct.openai
    · intro detectorId hdetector
      exact (isSome_get_detector_iff hclients).mpr hdetector
    · -- validation has found the chunker among those that are configured
      intro e he hchunker
      apply hchunkers
      exact OrchestratorConfig.mem_chunkerIds_of_validate hvalid he hchunker

end Retrieval

/-- A host where every URL parses, every file can be read, with one certificate and its key,
and every channel opens. -/
def plainEnv : ClientEnv String where
  parseUrl text := some text
  setPort url port := some s!"{url}:{port}"
  setPath url path := url ++ path
  readCerts _ := .ok [[48]]
  readPrivateKey _ := .ok (some [48])
  checkClientAuthCert _ _ := .ok ()
  isReadable _ := true
  channelOpens _ _ _ := true

/-- A configuration with one chunker and one detector of the given id. -/
def sentenceConfig (detectorId : DetectorId) : OrchestratorConfig where
  openai := some { service := { hostname := "localhost" } }
  chunkers := some ⟨[("sentence", ⟨{ hostname := "chunker.local" }⟩)], by simp⟩
  detectors :=
    ⟨[(detectorId, ⟨{ hostname := "localhost" }, none, "sentence", 1, .textContents⟩)], by simp⟩

theorem createClients_retrievable_iff_sentence :
    (sentenceConfig "hap").validate = .ok () ∧
      ∃ clients, createClients plainEnv (sentenceConfig "hap") = .ok clients ∧
        (Retrievable (sentenceConfig "hap") clients ↔ NamesDistinct (sentenceConfig "hap")) := by
  have hvalid : (sentenceConfig "hap").validate = .ok () := rfl
  obtain ⟨clients, hclients⟩ : ∃ clients,
      createClients plainEnv (sentenceConfig "hap") = .ok clients := ⟨_, rfl⟩
  exact ⟨hvalid, clients, hclients, createClients_retrievable_iff hvalid hclients⟩

/-- A detector with the id of its chunker: the chunker's client is replaced by that of
the detector. -/
theorem createClients_not_retrievable_sameId :
    (sentenceConfig "sentence").validate = .ok () ∧
      ∃ clients, createClients plainEnv (sentenceConfig "sentence") = .ok clients ∧
        ¬ Retrievable (sentenceConfig "sentence") clients := by
  refine ⟨rfl, _, rfl, ?_⟩
  intro h
  have hchunker := h.chunkers "sentence" (by decide)
  revert hchunker
  decide

end GuardrailsOrchestrator
