import GuardrailsOrchestrator.OpenAiClient.Requests
import GuardrailsOrchestrator.TextContents.Results

/-!
# Detection without positions

Detection on the messages of a chat, on a generated text or on a document: every requested detector
is sent one request with the whole of it. The requests are sent concurrently, and the answers are
taken in the order in which they arrive. A result is about the whole: it has no position and no
text, and the results are not sorted. The kinds of detection differ only in their clients.

## Main definitions

* `resultsDetections` — the detections of all detectors
* `textChatDetections` — those on a chat

## Main results

* `resultsDetections_spec` — the detections have no start, and those of one detector are together
-/

namespace GuardrailsOrchestrator

/-- A result of a detector that examines more than a span of text. -/
structure DetectionResult where
  detectionType : String := ""
  detection : String := ""
  detectorId : Option String := none
  score : ℚ := 0
  evidence : Option (List EvidenceObj) := none
  metadata : Metadata := []
  deriving DecidableEq

def Detection.ofDetectionResult (value : DetectionResult) : Detection :=
  { start := none
    stop := none
    text := none
    detectorId := value.detectorId
    detectionType := value.detectionType
    detection := value.detection
    score := value.score
    evidence := (value.evidence.getD []).map DetectionEvidence.ofEvidenceObj
    metadata := value.metadata }

/-- The answers of a detector to the requests it gets, by number of the request. -/
abbrev ResultsClient := ℕ → DetectorParams → Except ClientError (List DetectionResult)

/-- Send a request to a detector. -/
def detectResults (client : ResultsClient) (request : ℕ) (detectorId : DetectorId)
    (params : DetectorParams) : Except Error (List Detection) :=
  match client request params with
  | .ok response => .ok (response.map fun result =>
      { Detection.ofDetectionResult result with detectorId := some detectorId })
  | .error error => .error (.detectorRequestFailed detectorId error)

section Detections

variable (config : OrchestratorConfig) (clients : DetectorId → Option ResultsClient)

/-- The detections of one detector that reach its threshold. The configuration and the client are
unwrapped. -/
def resultsTask (request : ℕ) (detector : DetectorId × DetectorParams) :
    Except Failure (List Detection) := do
  let detectorConfig ← Failure.unwrap (config.detector detector.1)
  let (threshold, params) := popThreshold detector.2
  let client ← Failure.unwrap (clients detector.1)
  let detections ← Failure.ofExcept (detectResults client request detector.1 params)
  .ok (detections.filter (threshold.getD detectorConfig.defaultThreshold ≤ ·.score))

/-- The detections of all requested detectors. -/
def resultsDetections (times : ℕ → ℕ) (detectors : IterMap DetectorId DetectorParams) :
    Except Failure (List Detection) := do
  let results ← bufferUnordered times (detectors.entries.zipIdx.map fun (detector, request) =>
    resultsTask config clients request detector)
  .ok results.flatten

variable {config clients}

/-- The detections of a detector have no start, name the detector, and reach its threshold. -/
theorem of_mem_resultsTask {request : ℕ} {detector : DetectorId × DetectorParams}
    {detections : List Detection}
    (h : resultsTask config clients request detector = .ok detections) :
    ∀ d ∈ detections, d.start = none ∧ d.detectorId = some detector.1 ∧ ∃ detectorConfig,
      config.detector detector.1 = some detectorConfig ∧
        (popThreshold detector.2).1.getD detectorConfig.defaultThreshold ≤ d.score := by
  obtain ⟨detectorConfig, hconfig, h⟩ := Except.bind_eq_ok_iff.mp h
  obtain ⟨client, -, h⟩ := Except.bind_eq_ok_iff.mp h
  obtain ⟨found, hfound, h⟩ := Except.bind_eq_ok_iff.mp h
  obtain rfl := Except.ok.inj h
  intro d hd
  obtain ⟨hd, hscore⟩ := List.mem_filter.mp hd
  have hfound := Failure.ofExcept_eq_ok_iff.mp hfound
  rw [detectResults] at hfound
  split at hfound
  · obtain rfl := Except.ok.inj hfound
    obtain ⟨result, -, rfl⟩ := List.mem_map.mp hd
    exact ⟨rfl, rfl, detectorConfig, Failure.unwrap_eq_ok_iff.mp hconfig, of_decide_eq_true hscore⟩
  · simp at hfound

/-- The detections have no start, and those of one detector come one after the other. -/
theorem resultsDetections_spec {times : ℕ → ℕ} {detectors : IterMap DetectorId DetectorParams}
    {detections : List Detection}
    (h : resultsDetections config clients times detectors = .ok detections) :
    (∀ d ∈ detections, d.start = none) ∧ detections.Contiguous (·.detectorId) := by
  obtain ⟨results, hresults, h⟩ := Except.bind_eq_ok_iff.mp h
  obtain rfl := Except.ok.inj h
  obtain ⟨arrived, hperm, harrived⟩ := exists_perm_of_bufferUnordered hresults
  refine ⟨?_, ?_⟩
  · intro d hd
    obtain ⟨row, hrow, hd⟩ := List.mem_flatten.mp hd
    obtain ⟨p, -, hp⟩ := harrived.exists_of_mem_right hrow
    exact (of_mem_resultsTask hp d hd).1
  · -- every row is from one detector, and no detector is asked twice
    have hnodup : (arrived.map fun p => some p.1.1).Nodup := by
      have hids : (detectors.entries.zipIdx.map fun p => p.1.1).Nodup := by
        have hmap : (detectors.entries.zipIdx.map fun p => p.1.1) =
            (detectors.entries.zipIdx.map Prod.fst).map (·.1) := by
          rw [List.map_map]
          rfl
        rw [hmap, List.zipIdx_map_fst]
        exact detectors.nodup
      have harrivedIds := (hperm.map fun p => p.1.1).nodup_iff.mpr hids
      have hsome := harrivedIds.map (Option.some_injective _)
      rw [List.map_map] at hsome
      exact hsome
    refine List.contiguous_flatten hnodup ?_
    rw [List.forall₂_map_left_iff]
    exact harrived.imp fun p row hp d hd => (of_mem_resultsTask hp d hd).2.1

end Detections

/-! ### Detection on a chat -/

/-- The answers of a text chat detector, by number of the request. -/
abbrev ChatDetectorClient :=
  ℕ → List Message → List Tool → DetectorParams → Except ClientError (List DetectionResult)

/-- The detections of all requested detectors on the messages. -/
def textChatDetections (config : OrchestratorConfig)
    (clients : DetectorId → Option ChatDetectorClient) (messages : List Message)
    (tools : List Tool) (times : ℕ → ℕ) (detectors : IterMap DetectorId DetectorParams) :
    Except Failure (List Detection) :=
  resultsDetections config
    (fun id => (clients id).map fun client request => client request messages tools) times
    detectors

end GuardrailsOrchestrator
