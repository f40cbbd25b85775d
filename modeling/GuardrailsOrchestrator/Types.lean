import GuardrailsOrchestrator.Json
import GuardrailsOrchestrator.Lib.OrderedMap
import Mathlib.Data.Prod.Lex

/-!
# Chunks, detections and errors

The values the orchestrator's tasks pass to one another. Indices and counts are
naturals, texts are sequences of code points, and scores are rationals: a score
is read only by comparing it with a threshold.
-/

namespace GuardrailsOrchestrator

abbrev ChunkerId := String

abbrev DetectorId := String

abbrev ChoiceIndex := ℕ

/-! ### Errors -/

/-- Errors of a client request. -/
inductive ClientError where
  | grpc (code : ℕ) (message : String)
  | http (code : ℕ) (message : String)
  | modelNotFound (modelId : String)
  deriving DecidableEq, Repr

/-- Orchestrator errors. -/
inductive Error where
  | client (error : ClientError)
  | detectorNotFound (id : DetectorId)
  | chunkerNotFound (id : ChunkerId)
  | detectorRequestFailed (id : DetectorId) (error : ClientError)
  | chunkerRequestFailed (id : ChunkerId) (error : ClientError)
  | generateRequestFailed (id : String) (error : ClientError)
  | chatCompletionRequestFailed (id : String) (error : ClientError)
  | completionRequestFailed (id : String) (error : ClientError)
  | tokenizeRequestFailed (id : String) (error : ClientError)
  | validation (message : String)
  | other (message : String)
  | cancelled
  | jsonError (message : String)
  deriving DecidableEq, Repr

/-- How a computation can fail. -/
inductive Failure where
  | error (error : Error)
  | panic
  deriving DecidableEq

namespace Failure

variable {α : Type}

/-- An error that is returned. -/
def ofExcept (result : Except Error α) : Except Failure α := result.mapError .error

/-- A value that is unwrapped. -/
def unwrap : Option α → Except Failure α
  | some a => .ok a
  | none => .error .panic

@[simp] theorem ofExcept_eq_ok_iff {result : Except Error α} {a : α} :
    ofExcept result = .ok a ↔ result = .ok a := by
  cases result <;> simp [ofExcept, Except.mapError]

@[simp] theorem unwrap_eq_ok_iff {o : Option α} {a : α} : unwrap o = .ok a ↔ o = some a := by
  cases o <;> simp [unwrap]

end Failure

/-! ### Chunks -/

/-- A chunk: the messages it begins and ends in, the characters it begins and
ends at, and its text. -/
structure Chunk where
  inputStartIndex : ℕ := 0
  inputEndIndex : ℕ := 0
  start : ℕ := 0
  stop : ℕ := 0
  text : String := ""
  deriving DecidableEq, Repr, Inhabited

/-- Chunks are ordered, compared and hashed by their indices; the text is
ignored. -/
instance : OrdKey Chunk (ℕ ×ₗ ℕ ×ₗ ℕ ×ₗ ℕ) where
  key c := toLex (c.inputStartIndex, toLex (c.inputEndIndex, toLex (c.start, c.stop)))

/-- A chunk of one choice, as the completions batcher keys it: the chunk comes
first, because its indices place it among all processed messages. -/
instance : OrdKey (Chunk × ChoiceIndex) ((ℕ ×ₗ ℕ ×ₗ ℕ ×ₗ ℕ) ×ₗ ℕ) where
  key k := toLex (key k.1, k.2)

theorem key_pair (c : Chunk) (i : ChoiceIndex) : key (c, i) = toLex (key c, i) := rfl

@[simp] theorem key_pair_eq_iff {c c' : Chunk} {i i' : ChoiceIndex} :
    key (c, i) = key (c', i') ↔ key c = key c' ∧ i = i' := by
  simp [key_pair]

/-! ### Detections -/

/-- Additional detection evidence. -/
structure Evidence where
  name : String
  value : Option String := none
  score : Option ℚ := none
  deriving DecidableEq

/-- Detection evidence. -/
structure DetectionEvidence where
  name : String
  value : Option String := none
  score : Option ℚ := none
  evidence : List Evidence := []
  deriving DecidableEq

/-- Free-form members attached to a detection. -/
abbrev Metadata := List (String × Json)

/-- A detection. Only detections of text contents carry a span and its text. -/
structure Detection where
  start : Option ℕ := none
  stop : Option ℕ := none
  text : Option String := none
  detectorId : Option String := none
  detectionType : String := ""
  detection : String := ""
  score : ℚ := 0
  evidence : List DetectionEvidence := []
  metadata : Metadata := []
  deriving DecidableEq, Inhabited

/-- A batch: the input it belongs to, its chunk, and the detections of all
detectors on that chunk. -/
abbrev Batch := ℕ × Chunk × List Detection

end GuardrailsOrchestrator
