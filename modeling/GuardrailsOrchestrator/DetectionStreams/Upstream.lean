import GuardrailsOrchestrator.Config
import GuardrailsOrchestrator.DetectionStreams.Coverage

/-!
# Errors from upstream

A detection input channel carries the text that is to be examined, and the errors of the
stream it comes from. The items are broadcast to one task for each chunker: for the
whole-document chunker it collects them, for the others it turns them into requests of a
chunker service. What is followed here is an error on its way from the input channel to
the detection streams, where nothing is lost because no receiver lags.

The chunker services and the detectors are parameters: they may answer anything.

## Main results

* `chunkerRequests_eq` — what a chunker service receives, and when its request stream
  panics
* `passesUpstreamErrors_iff` — errors reach the detection streams only if there are none
-/

namespace GuardrailsOrchestrator

/-- An item of a detection input channel: a message index with a text, or an error. -/
abbrev DetectionInput := Except Error (ℕ × String)

/-! ### Chunk streams -/

/-- A message of a chunker's request stream. -/
structure ChunkerRequest where
  textStream : String
  inputIndexStream : ℤ
  deriving DecidableEq

/-- What a request stream yields, and whether it panics instead of ending. -/
structure RequestStream where
  requests : List ChunkerRequest := []
  panicked : Bool := false
  deriving DecidableEq

/-- The broadcast items as requests. There is no request for an error: it is unwrapped. -/
def chunkerRequests : List DetectionInput → RequestStream
  | [] => {}
  | .ok (index, text) :: rest =>
    { chunkerRequests rest with
      requests := ⟨text, index⟩ :: (chunkerRequests rest).requests }
  | .error _ :: _ => { panicked := true }

/-- A chunker service: whether the call fails, and what it answers to requests that
end or break off. -/
structure ChunkerService where
  callError : Option ClientError := none
  respond : RequestStream → List (Except ClientError Chunk)

/-- The chunks of a chunker service. Its errors are those of the service. -/
def chunkStream (chunkerId : ChunkerId) (service : ChunkerService) (inputs : List DetectionInput) :
    Except Error (List ChunkItem) :=
  match service.callError with
  | some error => .error (.chunkerRequestFailed chunkerId error)
  | none => .ok ((service.respond (chunkerRequests inputs)).map fun
    | .ok chunk => .ok chunk
    | .error error => .error (.chunkerRequestFailed chunkerId error))

/-- Collects the inputs up to the first error, which is dropped. There is no result if
the channel closes before: the loop unwraps what it receives. -/
def collectInputs : List DetectionInput → List (ℕ × String) → Option (List (ℕ × String))
  | [], _ => none
  | .ok input :: rest, inputs => collectInputs rest (inputs ++ [input])
  | .error _ :: _, inputs => some inputs

/-- The chunks of the whole-document chunker. -/
def wholeDocChunkStream (inputs : List DetectionInput) : List ChunkItem :=
  match collectInputs inputs [] with
  | some inputs =>
    let text := String.join (inputs.map (·.2))
    [.ok { inputStartIndex := 0, inputEndIndex := (inputs.getLast?.map (·.1)).getD 0,
           start := 0, stop := text.length, text }]
  | none => []

/-- The chunk stream of a chunker. -/
def chunkStreamOf (services : ChunkerId → ChunkerService) (inputs : List DetectionInput)
    (chunkerId : ChunkerId) : Except Error (List ChunkItem) :=
  if chunkerId = defaultChunkerId then .ok (wholeDocChunkStream inputs)
  else chunkStream chunkerId (services chunkerId) inputs

/-! ### Detection streams -/

/-- A requested detector: its chunker and its threshold. -/
structure StreamDetector where
  detectorId : DetectorId
  chunkerId : ChunkerId
  threshold : ℚ
  deriving DecidableEq

/-- What the detectors answer. -/
abbrev DetectorAnswers := DetectorId → Chunk → Except ClientError (List Detection)

/-- The item of a detection stream for an item of a chunk stream. -/
def detectionItem (answers : DetectorAnswers) (inputId : ℕ) (detector : StreamDetector) :
    ChunkItem → DetectionItem
  | .ok chunk =>
    match answers detector.detectorId chunk with
    | .ok detections =>
      .ok (inputId, chunk, detections.filter (detector.threshold ≤ ·.score))
    | .error error => .error (.detectorRequestFailed detector.detectorId error)
  | .error error => .error error

/-- The detection streams of the requested detectors, one for each. -/
def textContentsDetectionStreams (services : ChunkerId → ChunkerService)
    (answers : DetectorAnswers) (detectors : List StreamDetector) (inputId : ℕ)
    (inputs : List DetectionInput) : Except Error (List (List DetectionItem)) :=
  detectors.mapM fun detector => do
    return (← chunkStreamOf services inputs detector.chunkerId).map
      (detectionItem answers inputId detector)

variable {services : ChunkerId → ChunkerService} {answers : DetectorAnswers}
  {detectors : List StreamDetector} {inputId : ℕ} {inputs : List DetectionInput}

theorem exists_of_mem_textContentsDetectionStreams {streams : List (List DetectionItem)}
    (h : textContentsDetectionStreams services answers detectors inputId inputs = .ok streams)
    {stream : List DetectionItem} (hstream : stream ∈ streams) :
    ∃ detector ∈ detectors, ∃ items, chunkStreamOf services inputs detector.chunkerId = .ok items ∧
      stream = items.map (detectionItem answers inputId detector) := by
  obtain ⟨detector, hdetector, hitems⟩ := Except.exists_of_mem_mapM h hstream
  obtain ⟨items, hitems, hstream⟩ := Except.bind_eq_ok_iff.mp hitems
  exact ⟨detector, hdetector, items, hitems, (Except.ok.inj hstream).symm⟩

/-! ### Errors on their way -/

/-- The texts before the first error. -/
def okPrefix : List DetectionInput → List (ℕ × String)
  | .ok input :: rest => input :: okPrefix rest
  | _ => []

/-- The first error. -/
def firstError : List DetectionInput → Option Error
  | [] => none
  | .ok _ :: rest => firstError rest
  | .error error :: _ => some error

theorem firstError_eq_none_iff : firstError inputs = none ↔ ∀ error, .error error ∉ inputs := by
  induction inputs with
  | nil => simp [firstError]
  | cons input inputs ih =>
    cases input with
    | ok _ => simp [firstError, ih]
    | error error =>
      simp only [firstError, reduceCtorEq, List.mem_cons, not_or, false_iff, not_forall]
      exact ⟨error, by simp⟩

/-- A chunker service receives the texts before the first error, and the request stream
panics exactly when there is one. -/
theorem chunkerRequests_eq (inputs : List DetectionInput) :
    chunkerRequests inputs =
      ⟨(okPrefix inputs).map fun input => ⟨input.2, input.1⟩, (firstError inputs).isSome⟩ := by
  induction inputs with
  | nil => rfl
  | cons input inputs ih =>
    cases input with
    | ok _ => rw [chunkerRequests, ih, okPrefix, firstError, List.map_cons]
    | error _ => rfl

/-- An upstream error passes through: no request stream panics, each chunker service
receives the texts before the first error, and each detection stream has that error. -/
structure PassesUpstreamErrors (services : ChunkerId → ChunkerService)
    (answers : DetectorAnswers) (detectors : List StreamDetector) (inputId : ℕ)
    (inputs : List DetectionInput) : Prop where
  no_panic : ∀ detector ∈ detectors, detector.chunkerId ≠ defaultChunkerId →
    (chunkerRequests inputs).panicked = false
  received : ∀ detector ∈ detectors, detector.chunkerId ≠ defaultChunkerId →
    (chunkerRequests inputs).requests = (okPrefix inputs).map fun input => ⟨input.2, input.1⟩
  reported : ∀ error, firstError inputs = some error → ∀ streams,
    textContentsDetectionStreams services answers detectors inputId inputs = .ok streams →
      ∀ stream ∈ streams, .error error ∈ stream

theorem exists_textContentsDetectionStreams_eq_ok (h : ∀ id, (services id).callError = none) :
    ∃ streams,
      textContentsDetectionStreams services answers detectors inputId inputs = .ok streams := by
  apply Except.exists_mapM_eq_ok
  intro detector _
  rw [chunkStreamOf]
  split_ifs
  · exact ⟨_, rfl⟩
  · rw [chunkStream, h]
    exact ⟨_, rfl⟩

/-- An error makes the request stream of every chunker service panic, whatever the
services answer. -/
theorem not_passesUpstreamErrors {detector : StreamDetector} (hdetector : detector ∈ detectors)
    (hchunker : detector.chunkerId ≠ defaultChunkerId) {error : Error}
    (herror : firstError inputs = some error) :
    ¬ PassesUpstreamErrors services answers detectors inputId inputs := by
  intro h
  have hpanic := h.no_panic detector hdetector hchunker
  rw [chunkerRequests_eq, herror] at hpanic
  simp at hpanic

/-- The whole-document chunker drops the error: detectors that do not fail have none in
their streams. -/
theorem error_notMem_of_wholeDoc (hchunkers : ∀ d ∈ detectors, d.chunkerId = defaultChunkerId)
    (hanswers : ∀ id chunk, ∃ detections, answers id chunk = .ok detections)
    {streams : List (List DetectionItem)}
    (h : textContentsDetectionStreams services answers detectors inputId inputs = .ok streams)
    {stream : List DetectionItem} (hstream : stream ∈ streams) (error : Error) :
    .error error ∉ stream := by
  obtain ⟨detector, hdetector, items, hitems, rfl⟩ :=
    exists_of_mem_textContentsDetectionStreams h hstream
  rw [chunkStreamOf, if_pos (hchunkers detector hdetector)] at hitems
  obtain rfl := Except.ok.inj hitems
  rw [wholeDocChunkStream]
  split
  · rename_i collected hcollected
    simp only [List.map_cons, List.map_nil, List.mem_singleton, detectionItem]
    obtain ⟨detections, hdetections⟩ := hanswers detector.detectorId _
    rw [hdetections]
    simp
  · simp

/-- Without detectors there is no request stream and no detection stream. -/
theorem passesUpstreamErrors_nil : PassesUpstreamErrors services answers [] inputId inputs := by
  refine ⟨by simp, by simp, ?_⟩
  intro error _ streams hstreams stream hstream
  obtain ⟨detector, hdetector, -⟩ := exists_of_mem_textContentsDetectionStreams hstreams hstream
  exact absurd hdetector List.not_mem_nil

/-- Upstream errors pass through, whatever the services answer, exactly when no detector is
requested or there are no errors. -/
theorem passesUpstreamErrors_iff :
    (∀ services answers, PassesUpstreamErrors services answers detectors inputId inputs) ↔
      detectors = [] ∨ ∀ error, .error error ∉ inputs := by
  rw [← firstError_eq_none_iff]
  constructor
  · intro h
    by_contra hneither
    obtain ⟨hdetectors, hfirst⟩ := not_or.mp hneither
    obtain ⟨error, herror⟩ := Option.ne_none_iff_exists'.mp hfirst
    by_cases hchunkers : ∀ d ∈ detectors, d.chunkerId = defaultChunkerId
    · -- with the whole-document chunker alone, it is enough that no detector fails
      have hpasses := h (fun _ => { respond := fun _ => [] }) fun _ _ => .ok []
      obtain ⟨streams, hstreams⟩ := @exists_textContentsDetectionStreams_eq_ok
        (fun _ => { respond := fun _ => [] }) (fun _ _ => .ok []) detectors inputId inputs
        fun _ => rfl
      have hlength := (Except.mapM_eq_ok_iff.mp hstreams).length_eq
      obtain ⟨stream, hstream⟩ := List.exists_mem_of_length_pos
        (hlength ▸ List.length_pos_iff.mpr hdetectors)
      exact error_notMem_of_wholeDoc hchunkers (fun _ _ => ⟨[], rfl⟩) hstreams hstream error
        (hpasses.reported error herror streams hstreams stream hstream)
    -- for any other chunker the input just ends where the error was
    · push Not at hchunkers
      obtain ⟨detector, hdetector, hchunker⟩ := hchunkers
      exact not_passesUpstreamErrors hdetector hchunker herror
        (h (fun _ => { respond := fun _ => [] }) fun _ _ => .ok [])
  · rintro (rfl | hnone) services answers
    · exact passesUpstreamErrors_nil
    · refine ⟨?_, ?_, ?_⟩
      · intro _ _ _
        rw [chunkerRequests_eq, hnone]
        rfl
      · intro _ _ _
        rw [chunkerRequests_eq]
      · intro error herror
        simp [hnone] at herror

/-- The upstream fails after one message: the request stream of the chunker panics. -/
theorem not_passesUpstreamErrors_upstream :
    ¬ ∀ services answers, PassesUpstreamErrors services answers [⟨"hap", "sentence", 1⟩] 0
      [.ok (0, "Hi"), .error (.client (.http 500 "overloaded"))] := by
  intro h
  have hpanic := (h (fun _ => { respond := fun _ => [] }) fun _ _ => .ok []).no_panic
    ⟨"hap", "sentence", 1⟩ (by simp) (by decide)
  revert hpanic
  decide

end GuardrailsOrchestrator
