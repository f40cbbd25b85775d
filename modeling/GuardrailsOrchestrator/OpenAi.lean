import GuardrailsOrchestrator.Lib.Collections
import GuardrailsOrchestrator.Types

/-!
# OpenAI messages

The streamed messages of the two completion endpoints, with the detections and
warnings the orchestrator adds to them. Log probabilities are rationals: they are
carried along and never computed with.
-/

namespace GuardrailsOrchestrator

inductive Role where
  | user
  | developer
  | assistant
  | system
  | tool
  deriving DecidableEq

structure PromptTokenDetails where
  audioTokens : ℕ
  cachedTokens : ℕ
  deriving DecidableEq

structure CompletionTokenDetails where
  audioTokens : ℕ
  reasoningTokens : ℕ
  deriving DecidableEq

/-- Usage statistics of a request. -/
structure Usage where
  promptTokens : ℕ := 0
  totalTokens : ℕ := 0
  completionTokens : ℕ := 0
  promptTokenDetails : Option PromptTokenDetails := none
  completionTokenDetails : Option CompletionTokenDetails := none
  deriving DecidableEq

/-! ### Detections and warnings -/

structure CompletionInputDetections where
  messageIndex : ℕ
  results : List Detection := []
  deriving DecidableEq

structure CompletionOutputDetections where
  choiceIndex : ChoiceIndex
  results : List Detection := []
  deriving DecidableEq

structure CompletionDetections where
  input : List CompletionInputDetections := []
  output : List CompletionOutputDetections := []
  deriving DecidableEq

inductive DetectionWarningReason where
  | unsuitableInput
  | unsuitableOutput
  | emptyOutput
  deriving DecidableEq

structure CompletionDetectionWarning where
  type : DetectionWarningReason
  message : String
  deriving DecidableEq

def unsuitableOutputMessage : String := "Unsuitable output detected."

/-- The detections of one choice, as a message reports them. -/
def CompletionDetections.ofChoice (choiceIndex : ChoiceIndex) (detections : List Detection) :
    CompletionDetections :=
  { output := [{ choiceIndex, results := detections }] }

/-- The string or token that stopped a completion. -/
inductive StopReason where
  | string (value : String)
  | integer (value : ℤ)
  deriving DecidableEq

/-! ### Chat completion chunks -/

structure Function where
  name : String := ""
  arguments : String := ""
  deriving DecidableEq

structure Custom where
  name : String := ""
  input : String := ""
  deriving DecidableEq

structure ToolCall where
  index : Option ℕ := none
  id : String := ""
  type : String := ""
  function : Option Function := none
  custom : Option Custom := none
  deriving DecidableEq

structure ChatCompletionTopLogprob where
  token : String
  logprob : ℚ
  bytes : Option (List UInt8) := none
  deriving DecidableEq

structure ChatCompletionLogprob where
  token : String
  logprob : ℚ
  bytes : Option (List UInt8) := none
  topLogprobs : Option (List ChatCompletionTopLogprob) := none
  deriving DecidableEq

structure ChatCompletionLogprobs where
  content : List ChatCompletionLogprob := []
  refusal : List ChatCompletionLogprob := []
  deriving DecidableEq

structure ChatCompletionDelta where
  role : Option Role := none
  content : Option String := none
  refusal : Option String := none
  toolCalls : List ToolCall := []
  deriving DecidableEq

structure ChatCompletionChunkChoice where
  index : ChoiceIndex := 0
  delta : ChatCompletionDelta := {}
  logprobs : Option ChatCompletionLogprobs := none
  finishReason : Option String := none
  stopReason : Option StopReason := none
  deriving DecidableEq

/-- A streamed chat completion message. -/
structure ChatCompletionChunk where
  id : String := ""
  object : String := "chat.completion.chunk"
  created : ℤ := 0
  model : String := ""
  systemFingerprint : Option String := none
  choices : List ChatCompletionChunkChoice := []
  serviceTier : Option String := none
  usage : Option Usage := none
  detections : Option CompletionDetections := none
  warnings : List CompletionDetectionWarning := []
  deriving DecidableEq

/-! ### Completions -/

structure CompletionLogprobs where
  tokens : List String := []
  tokenLogprobs : List ℚ := []
  topLogprobs : List (IterMap String ℚ) := []
  textOffset : List ℕ := []
  deriving DecidableEq

structure Logprob where
  logprob : ℚ
  rank : Option ℤ := none
  decodedToken : Option String := none
  deriving DecidableEq

structure CompletionChoice where
  index : ChoiceIndex := 0
  text : String := ""
  logprobs : Option CompletionLogprobs := none
  finishReason : Option String := none
  stopReason : Option StopReason := none
  promptLogprobs : Option (List (Option (IterMap String Logprob))) := none
  deriving DecidableEq

/-- A completion message, streamed or not. -/
structure Completion where
  id : String := ""
  object : String := "text_completion"
  created : ℤ := 0
  model : String := ""
  choices : List CompletionChoice := []
  usage : Option Usage := none
  systemFingerprint : Option String := none
  detections : Option CompletionDetections := none
  warnings : List CompletionDetectionWarning := []
  deriving DecidableEq

end GuardrailsOrchestrator
