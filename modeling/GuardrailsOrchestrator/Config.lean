import GuardrailsOrchestrator.Lib.Collections
import GuardrailsOrchestrator.Types

/-!
# Orchestrator configuration

The services an orchestrator is configured with, the checks a configuration passes
before it is used, and the check of the detectors that a request asks for.

The maps of a configuration are hash maps, so the checks visit them in an order
that the configuration does not fix; which of several errors is reported may
depend on it, but not whether there is one.
-/

namespace GuardrailsOrchestrator

/-- The chunker that treats its whole input as one chunk. -/
def defaultChunkerId : ChunkerId := "whole_doc_chunker"

/-- Client TLS configuration. -/
structure TlsConfig where
  certPath : Option String := none
  keyPath : Option String := none
  clientCaCertPath : Option String := none
  insecure : Option Bool := none
  deriving DecidableEq

/-- TLS settings of a service: given in place, or by the name of a shared entry. -/
inductive Tls where
  | name (name : String)
  | config (config : TlsConfig)
  deriving DecidableEq

/-- How a service is reached. -/
structure ServiceConfig where
  hostname : String
  port : Option ℕ := none
  pathPrefix : Option String := none
  tls : Option Tls := none
  deriving DecidableEq

/-- The server that generates text. -/
inductive GenerationProvider where
  | tgis
  | nlp
  deriving DecidableEq

structure GenerationConfig where
  provider : GenerationProvider := .tgis
  service : ServiceConfig
  deriving DecidableEq

structure OpenAiConfig where
  service : ServiceConfig
  healthService : Option ServiceConfig := none
  deriving DecidableEq

structure ChunkerConfig where
  service : ServiceConfig
  deriving DecidableEq

/-- What a detector examines. -/
inductive DetectorType where
  | textContents
  | textGeneration
  | textChat
  | textContextDoc
  deriving DecidableEq

structure DetectorConfig where
  service : ServiceConfig
  healthService : Option ServiceConfig := none
  chunkerId : ChunkerId
  defaultThreshold : ℚ
  type : DetectorType
  deriving DecidableEq

/-- The router: whether calls go through it, and how it is reached. -/
structure RouterConfig where
  enabled : Bool := false
  hostname : String := "localhost"
  port : ℕ := 19080
  deriving DecidableEq

structure OrchestratorConfig where
  generation : Option GenerationConfig := none
  openai : Option OpenAiConfig := none
  chunkers : Option (IterMap ChunkerId ChunkerConfig) := none
  detectors : IterMap DetectorId DetectorConfig
  tls : Option (IterMap String TlsConfig) := none
  router : Option RouterConfig := none

/-- Errors of loading a configuration. -/
inductive ConfigError where
  | tlsConfigNotFound (name host port : String)
  | noDetectorsConfigured
  | detectorChunkerNotFound (detectorId : DetectorId) (chunkerId : ChunkerId)
  | invalidHostname (message : String)
  deriving DecidableEq

/-! ### Hostnames -/

/-- Letters and digits of ASCII, hyphen and dot. -/
def isValidHostnameChar (c : Char) : Bool := c.isAlphanum || c == '-' || c == '.'

/-- The number of bytes of a text in UTF-8. -/
def byteLength (cs : List Char) : ℕ := (cs.map fun c => c.utf8Size).sum

/-- A hostname is valid if it has only valid characters, at most 253 bytes, and
labels of 1 to 63 bytes that neither start nor end with a hyphen. -/
def isValidHostname (hostname : String) : Bool :=
  !(hostname.toList.any (fun c => !isValidHostnameChar c)
    || (hostname.toList.splitOn '.').any (fun label =>
      label.isEmpty || byteLength label > 63 || label.head? == some '-'
        || label.getLast? == some '-')
    || hostname.toList.isEmpty
    || byteLength hostname.toList > 253)

/-! ### Shared TLS entries -/

/-- Whether the TLS settings of a service are still only a name. -/
def ServiceConfig.isNamed (service : ServiceConfig) : Bool :=
  match service.tls with
  | some (.name _) => true
  | _ => false

/-- Replaces the name of a shared TLS entry by the entry. -/
def applyNamedTlsConfig (tlsConfigs : IterMap String TlsConfig) (service : ServiceConfig) :
    Except ConfigError ServiceConfig :=
  match service.tls with
  | some (.name name) =>
    match tlsConfigs.get? name with
    | some tlsConfig => .ok { service with tls := some (.config tlsConfig) }
    | none =>
      .error (.tlsConfigNotFound name service.hostname (toString (service.port.getD 0)))
  | _ => .ok service

/-- A service has no named entry left, and is otherwise reached as before. -/
theorem applyNamedTlsConfig_spec {tlsConfigs : IterMap String TlsConfig}
    {service service' : ServiceConfig} (h : applyNamedTlsConfig tlsConfigs service = .ok service') :
    service'.isNamed = false ∧ service'.hostname = service.hostname ∧
      service'.tls.isSome = service.tls.isSome := by
  rw [applyNamedTlsConfig] at h
  split at h
  · rename_i name hname
    split at h
    · obtain rfl := Except.ok.inj h
      exact ⟨rfl, rfl, by simp [hname]⟩
    · simp at h
  · rename_i hother
    obtain rfl := Except.ok.inj h
    refine ⟨?_, rfl, rfl⟩
    rw [ServiceConfig.isNamed]
    split
    · rename_i name hname
      exact absurd hname (hother name)
    · rfl

/-- Replaces the names of shared TLS entries. Without a map of shared entries nothing
is replaced; health services and the router are not visited. -/
def OrchestratorConfig.applyNamedTlsConfigs (config : OrchestratorConfig) :
    Except ConfigError OrchestratorConfig :=
  match config.tls with
  | some tlsConfigs => do
    let generation ← config.generation.mapM fun generation => do
      return { generation with service := ← applyNamedTlsConfig tlsConfigs generation.service }
    let openai ← config.openai.mapM fun openai => do
      return { openai with service := ← applyNamedTlsConfig tlsConfigs openai.service }
    let chunkers ← config.chunkers.mapM fun chunkers => chunkers.mapValuesM fun chunker => do
      return { chunker with service := ← applyNamedTlsConfig tlsConfigs chunker.service }
    let detectors ← config.detectors.mapValuesM fun detector => do
      return { detector with service := ← applyNamedTlsConfig tlsConfigs detector.service }
    return { config with generation, openai, chunkers, detectors }
  | none => .ok config

/-! ### Validation of a configuration -/

namespace OrchestratorConfig

variable (config : OrchestratorConfig)

def validateGenerationConfig : Except ConfigError Unit :=
  match config.generation with
  | some generation =>
    if !isValidHostname generation.service.hostname then
      throw (.invalidHostname "`generation` has an invalid hostname")
    else pure ()
  | none => pure ()

def validateOpenaiConfigs : Except ConfigError Unit :=
  match config.openai with
  | some openai =>
    if !isValidHostname openai.service.hostname then
      throw (.invalidHostname "`openai` has an invalid hostname")
    else pure ()
  | none => pure ()

/-- A detector's chunker is the whole-document chunker or a configured one. -/
def validChunker (detector : DetectorConfig) : Bool :=
  detector.chunkerId == defaultChunkerId
    || config.chunkers.any fun chunkers => (chunkers.get? detector.chunkerId).isSome

def validateDetectorConfigs : Except ConfigError Unit :=
  config.detectors.entries.forM fun (detectorId, detector) =>
    if !isValidHostname detector.service.hostname then
      throw (.invalidHostname s!"detector `{detectorId}` has an invalid hostname")
    else if !config.validChunker detector then
      throw (.detectorChunkerNotFound detectorId detector.chunkerId)
    else pure ()

def validateChunkerConfigs : Except ConfigError Unit :=
  match config.chunkers with
  | some chunkers =>
    chunkers.entries.forM fun (chunkerId, chunker) =>
      if !isValidHostname chunker.service.hostname then
        throw (.invalidHostname s!"chunker `{chunkerId}` has an invalid hostname")
      else pure ()
  | none => pure ()

/-- The checks a configuration passes when it is loaded. -/
def validate : Except ConfigError Unit := do
  if config.detectors.isEmpty then
    throw .noDetectorsConfigured
  config.validateGenerationConfig
  config.validateOpenaiConfigs
  config.validateDetectorConfigs
  config.validateChunkerConfigs

variable {config}

theorem validateGenerationConfig_eq_ok_iff : config.validateGenerationConfig = .ok () ↔
    ∀ generation ∈ config.generation, isValidHostname generation.service.hostname = true := by
  rw [validateGenerationConfig]
  cases config.generation with
  | none => simp [pure, Except.pure]
  | some generation =>
    simp only [Except.ite_throw_eq_ok_iff]
    simp [pure, Except.pure]

theorem validateOpenaiConfigs_eq_ok_iff : config.validateOpenaiConfigs = .ok () ↔
    ∀ openai ∈ config.openai, isValidHostname openai.service.hostname = true := by
  rw [validateOpenaiConfigs]
  cases config.openai with
  | none => simp [pure, Except.pure]
  | some openai =>
    simp only [Except.ite_throw_eq_ok_iff]
    simp [pure, Except.pure]

theorem validateDetectorConfigs_eq_ok_iff : config.validateDetectorConfigs = .ok () ↔
    ∀ e ∈ config.detectors.entries,
      isValidHostname e.2.service.hostname = true ∧ config.validChunker e.2 = true := by
  rw [validateDetectorConfigs, Except.forM_eq_ok_iff]
  simp only [Except.ite_throw_eq_ok_iff]
  simp [pure, Except.pure]

theorem validateChunkerConfigs_eq_ok_iff : config.validateChunkerConfigs = .ok () ↔
    ∀ chunkers ∈ config.chunkers, ∀ e ∈ chunkers.entries,
      isValidHostname e.2.service.hostname = true := by
  rw [validateChunkerConfigs]
  cases config.chunkers with
  | none => simp [pure, Except.pure]
  | some chunkers =>
    simp only [Except.forM_eq_ok_iff, Except.ite_throw_eq_ok_iff]
    simp [pure, Except.pure]

/-- A configuration is loaded exactly when it has detectors and each check succeeds. -/
theorem validate_eq_ok_iff : config.validate = .ok () ↔
    config.detectors.isEmpty = false ∧ config.validateGenerationConfig = .ok () ∧
      config.validateOpenaiConfigs = .ok () ∧ config.validateDetectorConfigs = .ok () ∧
      config.validateChunkerConfigs = .ok () := by
  rw [validate]
  cases config.detectors.isEmpty with
  | true => simp [bind, Except.bind, throw, throwThe, MonadExceptOf.throw]
  | false => simp [Except.bind_eq_ok_iff, Unique.exists_iff]

/-- A loaded configuration knows the chunker of each of its detectors. -/
theorem validChunker_of_validate (h : config.validate = .ok ()) {detectorId : DetectorId}
    {detector : DetectorConfig} (hget : config.detectors.get? detectorId = some detector) :
    config.validChunker detector = true := by
  obtain ⟨-, -, -, hdetectors, -⟩ := validate_eq_ok_iff.mp h
  exact (validateDetectorConfigs_eq_ok_iff.mp hdetectors _ (IterMap.get?_eq_some_iff.mp hget)).2

variable (config)

/-- The ids of the configured chunkers. -/
def chunkerIds : List ChunkerId := config.chunkers.elim [] IterMap.keys

variable {config} in
/-- In a loaded configuration, a detector's chunker other than the whole-document one is
configured. -/
theorem mem_chunkerIds_of_validate (h : config.validate = .ok ())
    {e : DetectorId × DetectorConfig} (he : e ∈ config.detectors.entries)
    (hchunker : e.2.chunkerId ≠ defaultChunkerId) : e.2.chunkerId ∈ config.chunkerIds := by
  have hvalid := validChunker_of_validate h (IterMap.get?_eq_some_iff.mpr he)
  rw [validChunker, Bool.or_eq_true, beq_iff_eq] at hvalid
  rcases hvalid with hdefault | hany
  · exact absurd hdefault hchunker
  · rw [chunkerIds]
    cases hchunkers : config.chunkers with
    | none => simp [hchunkers] at hany
    | some chunkers =>
      simp only [hchunkers, Option.any_some, Option.isSome_iff_exists] at hany
      obtain ⟨chunker, hget⟩ := hany
      exact List.mem_map_of_mem (IterMap.get?_eq_some_iff.mp hget)

/-- The configuration of a detector. -/
def detector (detectorId : DetectorId) : Option DetectorConfig := config.detectors.get? detectorId

/-- The chunker a detector uses. -/
def getChunkerId (detectorId : DetectorId) : Option ChunkerId :=
  (config.detectors.get? detectorId).map (·.chunkerId)

end OrchestratorConfig

/-! ### Validation of the requested detectors -/

/-- The parameters of one requested detector. -/
abbrev DetectorParams := OrderedMap String Json

/-- One requested detector is configured, of a supported type, and uses a chunker
the endpoint supports. -/
def validateDetector (orchestratorDetectors : IterMap DetectorId DetectorConfig)
    (supportedDetectorTypes : List DetectorType) (supportsWholeDocChunker : Bool)
    (detectorId : DetectorId) : Except Error Unit :=
  match orchestratorDetectors.get? detectorId with
  | some detectorConfig =>
    if !supportedDetectorTypes.contains detectorConfig.type then
      throw (.validation s!"detector `{detectorId}` is not supported by this endpoint")
    else if !supportsWholeDocChunker && detectorConfig.chunkerId == defaultChunkerId then
      throw (.validation (s!"detector `{detectorId}` uses chunker `whole_doc_chunker`, "
        ++ "which is not supported by this endpoint"))
    else pure ()
  | none => throw (.detectorNotFound detectorId)

/-- Checks the requested detectors one after the other. -/
def validateDetectors (detectors : IterMap DetectorId DetectorParams)
    (orchestratorDetectors : IterMap DetectorId DetectorConfig)
    (supportedDetectorTypes : List DetectorType) (supportsWholeDocChunker : Bool) :
    Except Error Unit :=
  detectors.entries.forM fun (detectorId, _) =>
    validateDetector orchestratorDetectors supportedDetectorTypes supportsWholeDocChunker detectorId

/-- What the check of the requested detectors establishes: each is configured, its
type is supported, and it uses the whole-document chunker only where that is
allowed. Nothing relates the chunkers of two detectors. -/
theorem validateDetectors_eq_ok_iff {detectors : IterMap DetectorId DetectorParams}
    {orchestratorDetectors : IterMap DetectorId DetectorConfig}
    {supportedDetectorTypes : List DetectorType} {supportsWholeDocChunker : Bool} :
    validateDetectors detectors orchestratorDetectors supportedDetectorTypes
        supportsWholeDocChunker = .ok () ↔
      ∀ detectorId ∈ detectors.keys, ∃ detectorConfig,
        orchestratorDetectors.get? detectorId = some detectorConfig ∧
          detectorConfig.type ∈ supportedDetectorTypes ∧
          (supportsWholeDocChunker = true ∨ detectorConfig.chunkerId ≠ defaultChunkerId) := by
  rw [validateDetectors, Except.forM_eq_ok_iff]
  simp only [IterMap.keys, List.mem_map, forall_exists_index, and_imp]
  constructor
  · intro h detectorId e he heq
    subst heq
    have hcheck := h e he
    simp only [validateDetector] at hcheck
    split at hcheck
    · rename_i detectorConfig hget
      refine ⟨detectorConfig, hget, ?_⟩
      -- the last of the three branches is the one that accepts
      split_ifs at hcheck with htype hchunker
      cases supportsWholeDocChunker <;> simp_all
    · simp [throw, throwThe, MonadExceptOf.throw] at hcheck
  · intro h e he
    obtain ⟨detectorConfig, hget, htype, hchunker⟩ := h e.1 e he rfl
    simp only [validateDetector, hget]
    rcases hchunker with hchunker | hchunker <;> simp [htype, hchunker, pure, Except.pure]

/-! ### Detectors by type -/

/-- The requested detectors of each type. A detector that is not configured panics. -/
def groupDetectorsByType (config : OrchestratorConfig)
    (detectors : IterMap DetectorId DetectorParams) :
    Option (IterMap DetectorType (IterMap DetectorId DetectorParams)) :=
  detectors.entries.foldlM (fun groups e => do
    let detector ← config.detector e.1
    let group := (groups.get? detector.type).getD .empty
    pure (groups.insert detector.type (group.insert e.1 e.2))) .empty

/-- If a detector is requested, there is a group. -/
theorem entries_ne_nil_of_groupDetectorsByType {config : OrchestratorConfig}
    {detectors : IterMap DetectorId DetectorParams}
    {groups : IterMap DetectorType (IterMap DetectorId DetectorParams)}
    (h : groupDetectorsByType config detectors = some groups) (hne : detectors.entries ≠ []) :
    groups.entries ≠ [] := by
  rw [groupDetectorsByType] at h
  -- the last detector is added to its group
  obtain ⟨before, e, heq⟩ := List.eq_nil_or_concat' detectors.entries |>.resolve_left hne
  rw [heq, List.foldlM_append, Option.bind_eq_bind, Option.bind_eq_some_iff] at h
  obtain ⟨groups', -, h⟩ := h
  simp only [List.foldlM_cons, List.foldlM_nil, Option.bind_eq_bind, Option.bind_eq_some_iff,
    Option.pure_def] at h
  obtain ⟨groups'', ⟨detector, -, h⟩, hgroups⟩ := h
  rw [← Option.some.inj hgroups, ← Option.some.inj h]
  exact IterMap.entries_insert_ne_nil _ _ _

/-- Configured detectors of the given types have groups of these types. -/
theorem exists_groupDetectorsByType {config : OrchestratorConfig}
    {detectors : IterMap DetectorId DetectorParams} {types : List DetectorType}
    (h : ∀ detectorId ∈ detectors.keys, ∃ detector,
      config.detectors.get? detectorId = some detector ∧ detector.type ∈ types) :
    ∃ groups, groupDetectorsByType config detectors = some groups ∧
      ∀ group ∈ groups.entries, group.1 ∈ types := by
  have hfold : ∀ (l : List (DetectorId × DetectorParams)), l ⊆ detectors.entries →
      ∀ groups : IterMap DetectorType (IterMap DetectorId DetectorParams),
      (∀ type ∈ groups.keys, type ∈ types) →
      ∃ groups', l.foldlM (fun groups e => do
        let detector ← config.detector e.1
        let group := (groups.get? detector.type).getD .empty
        pure (groups.insert detector.type (group.insert e.1 e.2))) groups = some groups' ∧
        ∀ type ∈ groups'.keys, type ∈ types := by
    intro l
    induction l with
    | nil => exact fun _ groups hgroups => ⟨groups, rfl, hgroups⟩
    | cons e l ih =>
      intro hsubset groups hgroups
      obtain ⟨hmem, hrest⟩ := List.cons_subset.mp hsubset
      obtain ⟨detector, hget, htype⟩ := h e.1 (List.mem_map_of_mem hmem)
      rw [List.foldlM_cons]
      simp only [OrchestratorConfig.detector, hget, Option.bind_eq_bind, Option.bind_some,
        Option.pure_def]
      apply ih hrest
      intro type hkey
      -- the only type that may be new is that of the detector
      rcases IterMap.mem_keys_insertEntries.mp hkey with rfl | hkey
      · exact htype
      · exact hgroups type hkey
  obtain ⟨groups, hgroups, hkeys⟩ := hfold detectors.entries (List.Subset.refl _) .empty
    (by simp [IterMap.keys, IterMap.empty])
  exact ⟨groups, hgroups, fun group hgroup => hkeys _ (List.mem_map_of_mem hgroup)⟩

/-- The groups are of the types of the requested detectors. -/
theorem mem_keys_groupDetectorsByType {config : OrchestratorConfig}
    {detectors : IterMap DetectorId DetectorParams}
    {groups : IterMap DetectorType (IterMap DetectorId DetectorParams)}
    (h : groupDetectorsByType config detectors = some groups) {type : DetectorType} :
    type ∈ groups.keys ↔ ∃ detectorId ∈ detectors.keys, ∃ detector,
      config.detector detectorId = some detector ∧ detector.type = type := by
  have hfold : ∀ (l : List (DetectorId × DetectorParams))
      (groups' : IterMap DetectorType (IterMap DetectorId DetectorParams)),
      l.foldlM (fun groups e => do
        let detector ← config.detector e.1
        let group := (groups.get? detector.type).getD .empty
        pure (groups.insert detector.type (group.insert e.1 e.2))) groups' = some groups →
      (type ∈ groups.keys ↔ type ∈ groups'.keys ∨ ∃ detectorId ∈ l.map (·.1), ∃ detector,
        config.detector detectorId = some detector ∧ detector.type = type) := by
    intro l
    induction l with
    | nil =>
      intro groups' heq
      obtain rfl : groups' = groups := by simpa using heq
      simp
    | cons e l ih =>
      intro groups' heq
      rw [List.foldlM_cons, Option.bind_eq_bind, Option.bind_eq_some_iff] at heq
      obtain ⟨groups'', hstep, heq⟩ := heq
      obtain ⟨detector, hdetector, hgroups''⟩ := Option.bind_eq_some_iff.mp hstep
      rw [ih groups'' heq, ← Option.some.inj hgroups'', List.map_cons]
      -- the type of the detector joins the types that are there
      have hkeys : ∀ group : IterMap DetectorId DetectorParams,
          type ∈ (groups'.insert detector.type group).keys ↔
            type = detector.type ∨ type ∈ groups'.keys :=
        fun group => IterMap.mem_keys_insertEntries
      rw [hkeys, List.exists_mem_cons_iff, hdetector]
      simp only [Option.some_inj, exists_eq_left', eq_comm (a := type)]
      tauto
  rw [hfold detectors.entries .empty h]
  simp [IterMap.keys, IterMap.empty]

/-- The groups of detectors that were checked are of supported types. -/
theorem mem_supportedTypes_of_validateDetectors {config : OrchestratorConfig}
    {detectors : IterMap DetectorId DetectorParams} {supportedTypes : List DetectorType}
    {supportsWholeDocChunker : Bool}
    {groups : IterMap DetectorType (IterMap DetectorId DetectorParams)}
    (hvalid : validateDetectors detectors config.detectors supportedTypes
      supportsWholeDocChunker = .ok ())
    (hgroups : groupDetectorsByType config detectors = some groups) :
    ∀ type ∈ groups.keys, type ∈ supportedTypes := by
  intro type htype
  obtain ⟨detectorId, hmem, detector, hdetector, rfl⟩ :=
    (mem_keys_groupDetectorsByType hgroups).mp htype
  obtain ⟨detector', hdetector', htype', -⟩ :=
    validateDetectors_eq_ok_iff.mp hvalid detectorId hmem
  obtain rfl : detector = detector' := Option.some.inj (hdetector.symm.trans hdetector')
  exact htype'

end GuardrailsOrchestrator
