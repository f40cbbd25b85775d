import GuardrailsOrchestrator.Config
import GuardrailsOrchestrator.Lib.Occurrence
import Mathlib.Data.List.Sort

/-!
# Text contents detection

Detection on a text that is known as a whole: the masks of a request select parts of the
text, each part is split by the chunkers of the requested detectors, each detector
examines the chunks of its chunker, and the detections are translated back to the text.

Chunker and detector requests are sent concurrently and their answers are taken in the
order in which they arrive. The order is given by arrival times, so what is proved for all
times holds for every order. A service may answer the same request differently each time:
every request has a number.

## Main definitions

* `applyMasks`, `sliceCodepoints` — the parts of a text that are examined
* `chunks` — the chunks of the parts, by chunker
* `detectTextContents` — the detections of one detector
* `textContentsDetections` — the detections of all detectors
-/

namespace GuardrailsOrchestrator

/-! ### Parts of a text -/

/-- The text between two positions, counted in code points. The subtraction underflows if
the end comes before the start. -/
def sliceCodepoints (text : String) (start stop : ℕ) : Except Failure String :=
  if start ≤ stop then .ok (String.ofList (text.toList.slice start stop)) else .error .panic

/-- The parts of a text that masks select, with their offsets; the whole text without
masks. -/
def applyMasks (text : String) (masks : Option (List (ℕ × ℕ))) :
    Except Failure (List (ℕ × String)) :=
  match masks with
  | none => .ok [(0, text)]
  | some [] => .ok [(0, text)]
  | some masks => masks.mapM fun (start, stop) => do
    let maskedText ← sliceCodepoints text start stop
    -- the offset is the start of the mask, also where masks overlap or come in any order
    .ok (start, maskedText)

/-! ### Services -/

/-- A token of a chunker. -/
structure Token where
  start : ℤ
  stop : ℤ
  text : String
  deriving DecidableEq

/-- Keep the low 64 bits. -/
def asUsize (z : ℤ) : ℕ := (z % 2 ^ 64).toNat

def Chunk.ofToken (token : Token) : Chunk :=
  { start := asUsize token.start, stop := asUsize token.stop, text := token.text }

/-- Evidence as a detector reports it. -/
structure EvidenceObj where
  name : String
  value : Option String := none
  score : Option ℚ := none
  evidence : Option (List Evidence) := none
  deriving DecidableEq

/-- A result of a text contents detector. -/
structure ContentAnalysisResponse where
  start : ℕ
  stop : ℕ
  text : String
  detection : String := ""
  detectionType : String := ""
  detectorId : Option String := none
  score : ℚ := 0
  evidence : Option (List EvidenceObj) := none
  metadata : Metadata := []
  deriving DecidableEq

def DetectionEvidence.ofEvidenceObj (value : EvidenceObj) : DetectionEvidence :=
  { name := value.name
    value := value.value
    score := value.score
    evidence := value.evidence.getD [] }

def Detection.ofContentAnalysisResponse (value : ContentAnalysisResponse) : Detection :=
  { start := some value.start
    stop := some value.stop
    text := some value.text
    detectorId := value.detectorId
    detectionType := value.detectionType
    detection := value.detection
    score := value.score
    evidence := (value.evidence.getD []).map DetectionEvidence.ofEvidenceObj
    metadata := value.metadata }

/-- The answers of a chunker to the requests it gets, by number of the request. -/
abbrev ChunkerClient := ℕ × ℕ → String → Except ClientError (List Token)

/-- The answers of a text contents detector. -/
abbrev DetectorClient :=
  ℕ → List String → DetectorParams → Except ClientError (List (List ContentAnalysisResponse))

/-- The configuration and the clients created from it. -/
structure Context where
  config : OrchestratorConfig
  chunkerClient : ChunkerId → Option ChunkerClient
  detectorClient : DetectorId → Option DetectorClient

/-- The results of concurrent tasks in the order of their arrival times, or the first error
to arrive. -/
def bufferUnordered {ε α : Type} (times : ℕ → ℕ) (tasks : List (Except ε α)) :
    Except ε (List α) :=
  ((tasks.zipIdx.insertionSort fun a b => times a.2 ≤ times b.2).map (·.1)).mapM id

/-! ### Chunks -/

/-- Send a request to a chunker. -/
def chunk (client : ChunkerClient) (request : ℕ × ℕ) (chunkerId : ChunkerId) (text : String) :
    Except Error (List Chunk) :=
  match client request text with
  | .ok tokens => .ok (tokens.map Chunk.ofToken)
  | .error error => .error (.chunkerRequestFailed chunkerId error)

/-- The whole part as one chunk. -/
def wholeDocChunk (offset : ℕ) (text : String) : List Chunk :=
  [{ start := offset, stop := text.length + offset, text }]

/-- The chunks of one part of the text, shifted by its offset. -/
def chunkInput (ctx : Context) (chunkerId : ChunkerId) (request : ℕ × ℕ) (input : ℕ × String) :
    Except Error (List Chunk) :=
  if chunkerId = defaultChunkerId then .ok (wholeDocChunk input.1 input.2)
  else match ctx.chunkerClient chunkerId with
    | none => .error (.chunkerNotFound chunkerId)
    | some client => do
      let chunks ← chunk client request chunkerId input.2
      -- the positions of a chunk are relative to the part, and become positions in the text
      .ok (chunks.map fun chunk =>
        { chunk with start := chunk.start + input.1, stop := chunk.stop + input.1 })

/-- The chunks of all parts, in the order in which the chunker answers. -/
def chunkTask (ctx : Context) (times : ℕ → ℕ) (task : ℕ) (chunkerId : ChunkerId)
    (inputs : List (ℕ × String)) : Except Error (ChunkerId × List Chunk) := do
  let chunks ← bufferUnordered times
    (inputs.zipIdx.map fun (input, i) => chunkInput ctx chunkerId (task, i) input)
  .ok (chunkerId, chunks.flatten)

/-- The chunks by chunker. A chunker that is asked twice counts once, with its last
answer. -/
def chunks (ctx : Context) (times : ℕ → ℕ → ℕ) (chunkers : List ChunkerId)
    (inputs : List (ℕ × String)) : Except Error (OrderedMap ChunkerId (List Chunk)) :=
  if inputs.isEmpty then .ok .empty
  else do
    let results ← chunkers.zipIdx.mapM fun (chunkerId, task) =>
      chunkTask ctx (times task) task chunkerId inputs
    .ok (results.foldl (fun chunkMap result => chunkMap.insert result.1 result.2) .empty)

/-! ### Detections -/

def thresholdParam : String := "threshold"

/-- Take the threshold out of the parameters. A threshold that is not a number is taken out
and ignored. -/
def popThreshold (params : DetectorParams) : Option ℚ × DetectorParams :=
  ((params.get? thresholdParam).bind Json.asF64, params.erase thresholdParam)

/-- The chunkers of the requested detectors. -/
def getChunkerIds (ctx : Context) (detectors : IterMap DetectorId DetectorParams) :
    Except Error (List ChunkerId) :=
  detectors.keys.mapM fun detectorId =>
    match ctx.config.getChunkerId detectorId with
    | some chunkerId => .ok chunkerId
    | none => .error (.detectorNotFound detectorId)

/-- A result of a detector, as a detection on the text its chunk comes from. -/
def toDetection (detectorId : DetectorId) (applyChunkOffset : Bool) (chunk : Chunk)
    (result : ContentAnalysisResponse) : Detection :=
  let detection := { Detection.ofContentAnalysisResponse result with detectorId := some detectorId }
  if applyChunkOffset then
    -- a second shift, from the chunk to the text; the result's own text stays as it is
    { detection with
      start := detection.start.map (· + chunk.start)
      stop := detection.stop.map (· + chunk.start) }
  else detection

/-- Send the texts of the chunks to a detector. The lists of the answer belong to the chunks
in order. -/
def detectTextContents (client : DetectorClient) (request : ℕ) (detectorId : DetectorId)
    (params : DetectorParams) (chunks : List Chunk) (applyChunkOffset : Bool) :
    Except Error (List Detection) :=
  if chunks.isEmpty then .ok []
  else match client request (chunks.map (·.text)) params with
    | .ok response => .ok ((chunks.zip response).flatMap fun (chunk, results) =>
        results.map (toDetection detectorId applyChunkOffset chunk))
    | .error error => .error (.detectorRequestFailed detectorId error)

/-- A detector with its parameters and its chunks. The chunks are unwrapped. -/
def detectorInput (ctx : Context) (chunkMap : OrderedMap ChunkerId (List Chunk))
    (detector : DetectorId × DetectorParams) :
    Except Failure (DetectorId × DetectorConfig × DetectorParams × List Chunk) :=
  match ctx.config.detector detector.1 with
  | none => .error (.error (.detectorNotFound detector.1))
  | some config => do
    let chunks ← Failure.unwrap (chunkMap.get? config.chunkerId)
    .ok (detector.1, config, detector.2, chunks)

/-- The detections of one detector that reach its threshold. The client is unwrapped. -/
def detectorTask (ctx : Context) (request : ℕ)
    (input : DetectorId × DetectorConfig × DetectorParams × List Chunk) :
    Except Failure (List Detection) := do
  let (detectorId, config, params, chunks) := input
  let (threshold, params) := popThreshold params
  let client ← Failure.unwrap (ctx.detectorClient detectorId)
  let detections ← Failure.ofExcept
    (detectTextContents client request detectorId params chunks true)
  .ok (detections.filter (threshold.getD config.defaultThreshold ≤ ·.score))

/-- Detections are ordered by where they start; those without a start come first. -/
def startLe (d d' : Detection) : Bool :=
  match d.start, d'.start with
  | none, _ => true
  | some _, none => false
  | some start, some start' => start ≤ start'

/-- The detections of all requested detectors on the parts of a text. -/
def textContentsDetections (ctx : Context) (chunkTimes : ℕ → ℕ → ℕ) (detectTimes : ℕ → ℕ)
    (detectors : IterMap DetectorId DetectorParams) (inputs : List (ℕ × String)) :
    Except Failure (List Detection) := do
  let chunkers ← Failure.ofExcept (getChunkerIds ctx detectors)
  let chunkMap ← Failure.ofExcept (chunks ctx chunkTimes chunkers inputs)
  let tasks ← detectors.entries.mapM (detectorInput ctx chunkMap)
  let results ← bufferUnordered detectTimes
    (tasks.zipIdx.map fun (input, request) => detectorTask ctx request input)
  .ok (results.flatten.insertionSort fun d d' => startLe d d')

end GuardrailsOrchestrator
