import GuardrailsOrchestrator.Generation.Streaming
import GuardrailsOrchestrator.Headers
import GuardrailsOrchestrator.Lib.Calls
import GuardrailsOrchestrator.Masks
import GuardrailsOrchestrator.Streaming
import GuardrailsOrchestrator.TextChat
import GuardrailsOrchestrator.UnaryOutput

/-!
# Handlers without streaming

The handlers of the endpoints that answer a request with one response, as programs that call
services: detectors, tokenizers and language models. Nothing is assumed of the answers. A call
stands for one request of `common`; the requests to chunkers and detectors that a detection call is
made of are modelled with text contents detection.

Three of the endpoints have a language model and detectors for its input and its output, and treat
them alike: `guarded` is what they have in common.

## Main definitions

* `Operation`, `Call` — what services are asked for, with the headers of the request
* `guarded` — input detection, generation, output detection
* `UnaryTask.handle` — the handlers
-/

namespace GuardrailsOrchestrator

open Calls ResponseProtocol

/-! ### Text generation -/

structure ExponentialDecayLengthPenalty where
  startIndex : Option ℕ := none
  decayFactor : Option ℚ := none
  deriving DecidableEq

/-- Parameters for text generation, which are passed on to the server. -/
structure GuardrailsTextGenerationParameters where
  maxNewTokens : Option ℕ := none
  minNewTokens : Option ℕ := none
  truncateInputTokens : Option ℕ := none
  decodingMethod : Option String := none
  topK : Option ℕ := none
  topP : Option ℚ := none
  typicalP : Option ℚ := none
  temperature : Option ℚ := none
  repetitionPenalty : Option ℚ := none
  maxTime : Option ℚ := none
  exponentialDecayLengthPenalty : Option ExponentialDecayLengthPenalty := none
  stopSequences : Option (List String) := none
  seed : Option ℕ := none
  preserveInputText : Option Bool := none
  inputTokens : Option Bool := none
  generatedTokens : Option Bool := none
  tokenLogprobs : Option Bool := none
  tokenRanks : Option Bool := none
  includeStopSequence : Option Bool := none
  deriving DecidableEq

/-- A generated text, with what was detected on it or on its input. -/
structure ClassifiedGeneratedTextResult where
  generatedText : Option String := none
  tokenClassificationResults : TextGenTokenClassificationResults := {}
  finishReason : Option FinishReason := none
  generatedTokenCount : Option ℕ := none
  seed : Option ℕ := none
  inputTokenCount : ℕ := 0
  warnings : Option (List DetectionWarning) := none
  tokens : Option (List GeneratedToken) := none
  inputTokens : Option (List GeneratedToken) := none
  deriving DecidableEq

def DetectionWarning.unsuitableInput : DetectionWarning :=
  { id := some .unsuitableInput, message := some unsuitableInputMessage }

def DetectionWarning.unsuitableOutput : DetectionWarning :=
  { id := some .unsuitableOutput, message := some unsuitableOutputMessage }

/-! ### Results of detections -/

def EvidenceObj.ofDetectionEvidence (value : DetectionEvidence) : EvidenceObj :=
  { name := value.name
    value := value.value
    score := value.score
    evidence := if value.evidence.isEmpty then none else some value.evidence }

/-- Evidence as it is reported: none if there is nothing. -/
def evidenceObjs (evidence : List DetectionEvidence) : Option (List EvidenceObj) :=
  if evidence.isEmpty then none else some (evidence.map .ofDetectionEvidence)

/-- A detection on a text. The span and its text are unwrapped. -/
def ContentAnalysisResponse.ofDetection (value : Detection) : Option ContentAnalysisResponse :=
  value.start.bind fun start => value.stop.bind fun stop => value.text.map fun text =>
    { start
      stop
      text
      detection := value.detection
      detectionType := value.detectionType
      detectorId := value.detectorId
      score := value.score
      evidence := evidenceObjs value.evidence
      metadata := value.metadata }

def DetectionResult.ofDetection (value : Detection) : DetectionResult :=
  { detectionType := value.detectionType
    detection := value.detection
    detectorId := value.detectorId
    score := value.score
    evidence := evidenceObjs value.evidence
    metadata := value.metadata }

/-! ### Calls -/

/-- What the context of a text is. -/
inductive ContextType where
  | document
  | url
  deriving DecidableEq

/-- Detection with the given detectors. -/
inductive DetectionCall where
  | textContents (detectors : IterMap DetectorId DetectorParams) (inputs : List (ℕ × String))
  | textGeneration (detectors : IterMap DetectorId DetectorParams) (prompt generatedText : String)
  | textChat (detectors : IterMap DetectorId DetectorParams) (messages : List Message)
    (tools : List Tool)
  | textContext (detectors : IterMap DetectorId DetectorParams) (content : String)
    (contextType : ContextType) (context : List String)

/-- A request of `common`. -/
inductive Operation where
  | detect (call : DetectionCall)
  | tokenize (modelId text : String)
  | generate (modelId text : String) (params : Option GuardrailsTextGenerationParameters)
  | tokenizeOpenai (model prompt : String)
  | chatCompletion (request : ChatCompletionsRequest)
  | completion (request : CompletionsRequest)
  | generateStream (modelId text : String) (params : Option GuardrailsTextGenerationParameters)
  | chatCompletionStream (request : ChatCompletionsRequest)
  | completionStream (request : CompletionsRequest)

/-- What is answered. Detection can panic, the others fail with the error of a client. A stream is
answered with all of its items. -/
def Operation.Answer : Operation → Type
  | .detect _ => Except Failure (List Detection)
  | .tokenize _ _ => Except ClientError (ℕ × List String)
  | .generate _ _ _ => Except ClientError ClassifiedGeneratedTextResult
  | .tokenizeOpenai _ _ => Except ClientError ℕ
  | .chatCompletion _ => Except ClientError ChatCompletion
  | .completion _ => Except ClientError Completion
  | .generateStream _ _ _ =>
    Except ClientError (List (Except ClientError ClassifiedGeneratedTextStreamResult))
  | .chatCompletionStream _ => Except ClientError (List (Item Error ChatCompletionChunk))
  | .completionStream _ => Except ClientError (List (Item Error Completion))

/-- Whether a language model is asked for a text. -/
def Operation.isGeneration : Operation → Bool
  | .generate _ _ _ | .chatCompletion _ | .completion _ | .generateStream _ _ _
  | .chatCompletionStream _ | .completionStream _ => true
  | _ => false

/-- Whether an answer is no failure. -/
def Operation.succeeds : (operation : Operation) → operation.Answer → Bool
  | .detect _ => Except.isOk
  | .tokenize _ _ => Except.isOk
  | .generate _ _ _ => Except.isOk
  | .tokenizeOpenai _ _ => Except.isOk
  | .chatCompletion _ => Except.isOk
  | .completion _ => Except.isOk
  | .generateStream _ _ _ => Except.isOk
  | .chatCompletionStream _ => Except.isOk
  | .completionStream _ => Except.isOk

/-- A request to a service, with the headers that its client is handed. The client adds its own:
the ids of detectors and models, those for a router, an API token of the configuration and the trace
context. -/
structure Call where
  headers : HeaderMap
  operation : Operation

def Call.Answer (call : Call) : Type := call.operation.Answer

/-- A program that calls services. -/
abbrev Handler (α : Type) := Program Call Call.Answer Failure α

/-- A call with its answer. -/
abbrev CallEvent := Exchange Call Call.Answer

/-- The call has not failed. -/
def Succeeded (event : CallEvent) : Prop := event.1.operation.succeeds event.2 = true

/-- Call a service, and go on with what is made of its answer. -/
def ask {α : Type} (call : Call) (read : call.Answer → Except Failure α) : Handler α := do
  let answer ← Program.call call
  .ofExcept (read answer)

/-- Use a client that is unwrapped. -/
def withClient {α : Type} (isPresent : Bool) (handler : Handler α) : Handler α :=
  if isPresent then handler else .ofExcept (.error .panic)

def contentType : HeaderName := ⟨"content-type", by decide⟩

def jsonContentType : HeaderValue :=
  ⟨[97, 112, 112, 108, 105, 99, 97, 116, 105, 111, 110, 47, 106, 115, 111, 110], by decide⟩

/-- The headers of a request to an OpenAI server. -/
def withJsonContentType (headers : HeaderMap) : HeaderMap :=
  headers.append contentType jsonContentType

namespace Handler

variable (headers : HeaderMap)

def detections (call : DetectionCall) : Handler (List Detection) :=
  ask ⟨headers, .detect call⟩ id

/-- An error of a client, as an error of the request. -/
def requestFailed {α : Type} (error : ClientError → Error) (answer : Except ClientError α) :
    Except Failure α :=
  answer.mapError fun e => .error (error e)

def tokenize (modelId text : String) : Handler ℕ :=
  ask ⟨headers, .tokenize modelId text⟩ fun answer =>
    (requestFailed (.tokenizeRequestFailed modelId) answer).map (·.1)

def generate (modelId text : String) (params : Option GuardrailsTextGenerationParameters) :
    Handler ClassifiedGeneratedTextResult :=
  ask ⟨headers, .generate modelId text params⟩ (requestFailed (.generateRequestFailed modelId))

def tokenizeOpenai (model prompt : String) : Handler ℕ :=
  ask ⟨withJsonContentType headers, .tokenizeOpenai model prompt⟩
    (requestFailed (.tokenizeRequestFailed model))

def chatCompletion (request : ChatCompletionsRequest) : Handler ChatCompletion :=
  ask ⟨withJsonContentType headers, .chatCompletion request⟩
    (requestFailed (.chatCompletionRequestFailed request.model))

def completion (request : CompletionsRequest) : Handler Completion :=
  ask ⟨withJsonContentType headers, .completion request⟩
    (requestFailed (.completionRequestFailed request.model))

end Handler

/-! ### Input and output detection -/

/-- What the handlers depend on besides their task. -/
structure GatewayContext where
  config : OrchestratorConfig
  hasGenerationClient : Bool := true
  hasOpenAiClient : Bool := true
  groupOrder : VisitOrder (DetectorType × IterMap DetectorId DetectorParams) := .listed
  choiceOrder : VisitOrder (ChoiceIndex × List Detection) := .listed
  /-- The id and the time of a new completion. -/
  id : String := ""
  created : ℤ := 0
  /-- The text of the error for a task that has panicked. -/
  joinError : String := ""

/-- `handle_input_detection`: the response to an input with detections. The tokens of the input are
counted only if there are any. -/
def handleInputDetection {R : Type} (headers : HeaderMap)
    (detectors : IterMap DetectorId DetectorParams) (inputs : Except Failure (List (ℕ × String)))
    (tokens : Handler ℕ) (respond : List Detection → ℕ → Except Failure R) :
    Handler (Option R) := do
  let inputs ← Program.ofExcept inputs
  let detections ← Handler.detections headers (.textContents detectors inputs)
  if detections.isEmpty then pure none
  else do
    let count ← tokens
    let response ← Program.ofExcept (respond detections count)
    pure (some response)

/-- The results of spawned tasks. A task that has panicked fails before any error is looked at. -/
def joinAll (ctx : GatewayContext) (results : List (Except Failure (List Detection))) :
    Except Failure (List (List Detection)) :=
  if .error .panic ∈ results then .error (.error (.other s!"task panicked: {ctx.joinError}"))
  else results.mapM id

/-- `handle_output_detection` for completions with choices: detection tasks that are spawned, and
the response made from their results. Tasks that cannot be built panic. -/
def handleOutputDetection {T R : Type} (ctx : GatewayContext) (headers : HeaderMap)
    (tasks : Option (List T)) (call : T → DetectionCall)
    (respond : List (T × List Detection) → R) : Handler R := do
  let tasks ← Program.ofExcept (Failure.unwrap tasks)
  let answers ← Program.callAll fun i : Fin tasks.length =>
    (⟨headers, .detect (call (tasks.get i))⟩ : Call)
  let results ← Program.ofExcept
    (joinAll ctx (List.ofFn fun i => (answers i : Except Failure (List Detection))))
  pure (respond (tasks.zip results))

/-- What the handlers with a language model have in common. -/
def guarded {G R : Type} (validated : Except Error Unit)
    (inputDetectors outputDetectors : IterMap DetectorId DetectorParams)
    (inputDetection : Handler (Option R)) (generation : Handler G)
    (outputDetection : G → Handler R) (withoutDetection : G → R) : Handler R := do
  Program.ofExcept (Failure.ofExcept validated)
  let flagged ← if inputDetectors.isEmpty then pure none else inputDetection
  match flagged with
  | some response => pure response
  | none => do
    let generated ← generation
    if outputDetectors.isEmpty then pure (withoutDetection generated)
    else outputDetection generated

/-! ### Classification with generation -/

namespace GuardrailsConfig

variable (config : GuardrailsConfig)

def inputMasks : Option (List (ℕ × ℕ)) := config.input.bind (·.masks)

def inputDetectors : IterMap DetectorId DetectorParams :=
  (config.input.map (·.models)).getD .empty

def outputDetectors : IterMap DetectorId DetectorParams :=
  (config.output.map (·.models)).getD .empty

end GuardrailsConfig

structure ClassificationWithGenTask where
  modelId : String
  inputs : String
  guardrailsConfig : GuardrailsConfig := {}
  textGenParameters : Option GuardrailsTextGenerationParameters := none
  headers : HeaderMap

namespace ClassificationWithGenTask

def new (request : GuardrailsHttpRequest)
    (textGenParameters : Option GuardrailsTextGenerationParameters) (headers : HeaderMap) :
    ClassificationWithGenTask :=
  { modelId := request.modelId
    inputs := request.inputs
    guardrailsConfig := request.guardrailConfig.getD {}
    textGenParameters
    headers }

variable (ctx : GatewayContext) (task : ClassificationWithGenTask)

def validateDetectors : Except Error Unit := do
  GuardrailsOrchestrator.validateDetectors task.guardrailsConfig.inputDetectors
    ctx.config.detectors [.textContents] true
  GuardrailsOrchestrator.validateDetectors task.guardrailsConfig.outputDetectors
    ctx.config.detectors [.textContents] true

/-- The response to an unsuitable input: it has no text. -/
def inputResponse (detections : List Detection) (inputTokenCount : ℕ) :
    Except Failure ClassifiedGeneratedTextResult := do
  let input ← Failure.unwrap (detections.mapM TokenClassificationResult.ofDetection)
  .ok { inputTokenCount
        tokenClassificationResults := { input := some input }
        warnings := some [.unsuitableInput] }

/-- The response to a generation, with what was detected on its text. -/
def outputResponse (generation : ClassifiedGeneratedTextResult) (detections : List Detection) :
    Except Failure ClassifiedGeneratedTextResult :=
  if detections.isEmpty then .ok generation
  else do
    let output ← Failure.unwrap (detections.mapM TokenClassificationResult.ofDetection)
    .ok { generation with
          tokenClassificationResults :=
            { generation.tokenClassificationResults with output := some output }
          warnings := some [.unsuitableOutput] }

def inputDetection : Handler (Option ClassifiedGeneratedTextResult) :=
  handleInputDetection task.headers task.guardrailsConfig.inputDetectors
    (applyMasks task.inputs task.guardrailsConfig.inputMasks)
    (withClient ctx.hasGenerationClient (Handler.tokenize task.headers task.modelId task.inputs))
    inputResponse

def generation : Handler ClassifiedGeneratedTextResult :=
  withClient ctx.hasGenerationClient
    (Handler.generate task.headers task.modelId task.inputs task.textGenParameters)

def outputDetection (generation : ClassifiedGeneratedTextResult) :
    Handler ClassifiedGeneratedTextResult := do
  let detections ← Handler.detections task.headers
    (.textContents task.guardrailsConfig.outputDetectors [(0, generation.generatedText.getD "")])
  .ofExcept (outputResponse generation detections)

def handle : Handler ClassifiedGeneratedTextResult :=
  guarded (task.validateDetectors ctx) task.guardrailsConfig.inputDetectors
    task.guardrailsConfig.outputDetectors (task.inputDetection ctx) (task.generation ctx)
    task.outputDetection id

end ClassificationWithGenTask

/-! ### Chat completions -/

structure ChatCompletionsDetectionTask where
  request : ChatCompletionsRequest
  headers : HeaderMap

namespace ChatCompletionsDetectionTask

variable (ctx : GatewayContext) (task : ChatCompletionsDetectionTask)

def validateDetectors : Except Error Unit := do
  GuardrailsOrchestrator.validateDetectors task.request.detectors.input ctx.config.detectors
    [.textContents] true
  GuardrailsOrchestrator.validateDetectors task.request.detectors.output ctx.config.detectors
    [.textContents, .textChat] true

/-- The index and the text of the last message, which is the only one that input detectors
examine. -/
def lastMessage : Except Failure (ℕ × String) :=
  match task.request.messages.zipIdx.getLast? with
  | none => .error (.error (.validation "No messages provided"))
  | some (message, index) =>
    if message.role ∈ [.user, .assistant, .system] then .ok (asU32 index, message.text.getD "")
    else .error (.error (.validation "Last message role must be user, assistant, or system"))

/-- The response to an unsuitable input: it has no choices, and no type either. -/
def inputResponse (messageIndex : ℕ) (detections : List Detection) (promptTokens : ℕ) :
    ChatCompletion :=
  { id := ctx.id
    object := ""
    model := task.request.model
    created := ctx.created
    detections := some { input := [{ messageIndex, results := detections }] }
    warnings := [⟨.unsuitableInput, unsuitableInputMessage⟩]
    usage := { promptTokens } }

def inputDetection : Handler (Option ChatCompletion) := do
  let (messageIndex, inputText) ← Program.ofExcept task.lastMessage
  handleInputDetection task.headers task.request.detectors.input (.ok [(0, inputText)])
    (withClient ctx.hasOpenAiClient
      (Handler.tokenizeOpenai task.headers task.request.model inputText))
    fun detections promptTokens =>
      .ok (task.inputResponse ctx messageIndex detections promptTokens)

def generation : Handler ChatCompletion :=
  withClient ctx.hasOpenAiClient (Handler.chatCompletion task.headers task.request)

/-- A request for detection on a whole message. -/
def detectionCall : ChatStreaming.WholeDocRequest → DetectionCall
  | .textContents detectors contents => .textContents detectors contents
  | .textChat detectors messages tools => .textChat detectors messages tools

/-- The tasks that are spawned for a chat completion. -/
def outputTasks (chatCompletion : ChatCompletion) : Option (List ChatStreaming.WholeDocTask) := do
  let groups ← groupDetectorsByType ctx.config task.request.detectors.output
  ChatStreaming.tasksOf
    { messages := task.request.messages, tools := task.request.tools, groupOrder := ctx.groupOrder }
    groups (ChatUnary.choicesOf chatCompletion)

/-- The chat completion with the results of the tasks. -/
def outputResponse (chatCompletion : ChatCompletion)
    (detections : List (ChatStreaming.WholeDocTask × List Detection)) : ChatCompletion :=
  ChatUnary.withOutput chatCompletion (addOutputDetections ctx.choiceOrder
    (ChatUnary.resultsOf detections) (chatCompletion.detections, chatCompletion.warnings ++
      ChatStreaming.noContentWarnings (ChatUnary.choicesOf chatCompletion)))

def outputDetection (chatCompletion : ChatCompletion) : Handler ChatCompletion :=
  handleOutputDetection ctx task.headers (task.outputTasks ctx chatCompletion)
    (fun t => detectionCall t.request) (outputResponse ctx chatCompletion)

def handleUnary : Handler ChatCompletion :=
  guarded (task.validateDetectors ctx) task.request.detectors.input task.request.detectors.output
    (task.inputDetection ctx) (task.generation ctx) (task.outputDetection ctx) id

end ChatCompletionsDetectionTask

/-! ### Completions -/

structure CompletionsDetectionTask where
  request : CompletionsRequest
  headers : HeaderMap

namespace CompletionsDetectionTask

variable (ctx : GatewayContext) (task : CompletionsDetectionTask)

def validateDetectors : Except Error Unit := do
  GuardrailsOrchestrator.validateDetectors task.request.detectors.input ctx.config.detectors
    [.textContents] true
  GuardrailsOrchestrator.validateDetectors task.request.detectors.output ctx.config.detectors
    [.textContents, .textGeneration] true

/-- The response to an unsuitable input: it has no choices. -/
def inputResponse (detections : List Detection) (promptTokens : ℕ) : Completion :=
  { id := ctx.id
    created := ctx.created
    model := task.request.model
    detections := some { input := [{ messageIndex := 0, results := detections }] }
    warnings := [⟨.unsuitableInput, unsuitableInputMessage⟩]
    usage := some { promptTokens } }

def inputDetection : Handler (Option Completion) :=
  handleInputDetection task.headers task.request.detectors.input
    (applyMasks task.request.prompt task.request.promptMasks)
    (withClient ctx.hasOpenAiClient
      (Handler.tokenizeOpenai task.headers task.request.model task.request.prompt))
    fun detections promptTokens => .ok (task.inputResponse ctx detections promptTokens)

def generation : Handler Completion :=
  withClient ctx.hasOpenAiClient (Handler.completion task.headers task.request)

/-- A request for detection on a whole text. -/
def detectionCall : CompletionStreaming.WholeDocRequest → DetectionCall
  | .textContents detectors contents => .textContents detectors contents
  | .textGeneration detectors prompt generatedText => .textGeneration detectors prompt generatedText

/-- What output detection depends on. -/
def outputContext : CompletionUnary.UnaryContext :=
  { prompt := task.request.prompt, groupOrder := ctx.groupOrder, choiceOrder := ctx.choiceOrder }

/-- The completion with the results of the tasks. -/
def outputResponse (completion : Completion)
    (detections : List (CompletionStreaming.WholeDocTask × List Detection)) : Completion :=
  CompletionUnary.withOutput completion (addOutputDetections ctx.choiceOrder
    (CompletionStreaming.resultsOf detections)
    (completion.detections, completion.warnings ++ CompletionUnary.noContentWarnings completion))

def outputDetection (completion : Completion) : Handler Completion :=
  handleOutputDetection ctx task.headers
    (CompletionUnary.outputTasks (task.outputContext ctx) ctx.config task.request.detectors.output
      completion)
    (fun t => detectionCall t.request) (outputResponse ctx completion)

def handleUnary : Handler Completion :=
  guarded (task.validateDetectors ctx) task.request.detectors.input task.request.detectors.output
    (task.inputDetection ctx) (task.generation ctx) (task.outputDetection ctx) id

end CompletionsDetectionTask

/-! ### Generation with detection -/

structure GenerationWithDetectionTask where
  modelId : String
  prompt : String
  detectors : IterMap DetectorId DetectorParams
  textGenParameters : Option GuardrailsTextGenerationParameters := none
  headers : HeaderMap

structure GenerationWithDetectionResult where
  generatedText : String
  detections : List DetectionResult
  inputTokenCount : ℕ
  deriving DecidableEq

namespace GenerationWithDetectionTask

def new (request : GenerationWithDetectionHttpRequest)
    (textGenParameters : Option GuardrailsTextGenerationParameters) (headers : HeaderMap) :
    GenerationWithDetectionTask :=
  { modelId := request.modelId
    prompt := request.prompt
    detectors := request.detectors
    textGenParameters
    headers }

/-- Detection on the prompt and the generated text. -/
def outputDetection (task : GenerationWithDetectionTask)
    (generation : ClassifiedGeneratedTextResult) : Handler GenerationWithDetectionResult := do
  let generatedText := generation.generatedText.getD ""
  let detections ← Handler.detections task.headers
    (.textGeneration task.detectors task.prompt generatedText)
  pure
    { generatedText
      inputTokenCount := generation.inputTokenCount
      detections := detections.map .ofDetection }

/-- The prompt is not examined before the model is asked. -/
def handle (ctx : GatewayContext) (task : GenerationWithDetectionTask) :
    Handler GenerationWithDetectionResult := do
  Program.ofExcept (Failure.ofExcept
    (validateDetectors task.detectors ctx.config.detectors [.textGeneration] true))
  let generation ← withClient ctx.hasGenerationClient
    (Handler.generate task.headers task.modelId task.prompt task.textGenParameters)
  task.outputDetection generation

end GenerationWithDetectionTask

/-! ### Detection -/

/-- What the handlers without a language model have in common. -/
def detection {R : Type} (ctx : GatewayContext) (headers : HeaderMap)
    (detectors : IterMap DetectorId DetectorParams) (supportedType : DetectorType)
    (call : DetectionCall) (respond : List Detection → Except Failure R) : Handler R := do
  Program.ofExcept (Failure.ofExcept
    (validateDetectors detectors ctx.config.detectors [supportedType] true))
  let detections ← Handler.detections headers call
  Program.ofExcept (respond detections)

structure TextContentDetectionTask where
  content : String
  detectors : IterMap DetectorId DetectorParams
  headers : HeaderMap

def TextContentDetectionTask.new (request : TextContentDetectionHttpRequest)
    (headers : HeaderMap) : TextContentDetectionTask :=
  { content := request.content, detectors := request.detectors, headers }

def TextContentDetectionTask.handle (ctx : GatewayContext) (task : TextContentDetectionTask) :
    Handler (List ContentAnalysisResponse) :=
  detection ctx task.headers task.detectors .textContents
    (.textContents task.detectors [(0, task.content)])
    fun detections => Failure.unwrap (detections.mapM ContentAnalysisResponse.ofDetection)

structure ChatDetectionTask where
  detectors : IterMap DetectorId DetectorParams
  messages : List Message
  tools : List Tool := []
  headers : HeaderMap

def ChatDetectionTask.new (request : ChatDetectionHttpRequest) (tools : List Tool)
    (headers : HeaderMap) : ChatDetectionTask :=
  { detectors := request.detectors, messages := request.messages, tools, headers }

def ChatDetectionTask.handle (ctx : GatewayContext) (task : ChatDetectionTask) :
    Handler (List DetectionResult) :=
  detection ctx task.headers task.detectors .textChat
    (.textChat task.detectors task.messages task.tools)
    fun detections => .ok (detections.map .ofDetection)

structure ContextDocsDetectionTask where
  content : String
  contextType : ContextType
  context : List String
  detectors : IterMap DetectorId DetectorParams
  headers : HeaderMap

def ContextDocsDetectionTask.new (request : ContextDocsHttpRequest) (contextType : ContextType)
    (headers : HeaderMap) : ContextDocsDetectionTask :=
  { content := request.content
    contextType
    context := request.context
    detectors := request.detectors
    headers }

def ContextDocsDetectionTask.handle (ctx : GatewayContext) (task : ContextDocsDetectionTask) :
    Handler (List DetectionResult) :=
  detection ctx task.headers task.detectors .textContextDoc
    (.textContext task.detectors task.content task.contextType task.context)
    fun detections => .ok (detections.map .ofDetection)

structure DetectionOnGenerationTask where
  prompt : String
  generatedText : String
  detectors : IterMap DetectorId DetectorParams
  headers : HeaderMap

def DetectionOnGenerationTask.new (request : DetectionOnGeneratedHttpRequest)
    (headers : HeaderMap) : DetectionOnGenerationTask :=
  { prompt := request.prompt
    generatedText := request.generatedText
    detectors := request.detectors
    headers }

def DetectionOnGenerationTask.handle (ctx : GatewayContext) (task : DetectionOnGenerationTask) :
    Handler (List DetectionResult) :=
  detection ctx task.headers task.detectors .textGeneration
    (.textGeneration task.detectors task.prompt task.generatedText)
    fun detections => .ok (detections.map .ofDetection)

/-! ### All handlers -/

/-- A task of one of the endpoints. -/
inductive UnaryTask where
  | classificationWithGen (task : ClassificationWithGenTask)
  | chatCompletions (task : ChatCompletionsDetectionTask)
  | completions (task : CompletionsDetectionTask)
  | generationWithDetection (task : GenerationWithDetectionTask)
  | textContent (task : TextContentDetectionTask)
  | chat (task : ChatDetectionTask)
  | contextDocs (task : ContextDocsDetectionTask)
  | detectionOnGeneration (task : DetectionOnGenerationTask)

/-- The response of one of the endpoints. -/
inductive UnaryResponse where
  | classified (result : ClassifiedGeneratedTextResult)
  | chatCompletion (chatCompletion : ChatCompletion)
  | completion (completion : Completion)
  | generation (result : GenerationWithDetectionResult)
  | contents (detections : List ContentAnalysisResponse)
  | detections (detections : List DetectionResult)
  deriving DecidableEq

namespace UnaryTask

def headers : UnaryTask → HeaderMap
  | .classificationWithGen task => task.headers
  | .chatCompletions task => task.headers
  | .completions task => task.headers
  | .generationWithDetection task => task.headers
  | .textContent task => task.headers
  | .chat task => task.headers
  | .contextDocs task => task.headers
  | .detectionOnGeneration task => task.headers

/-- The response of a handler. -/
def respond {R : Type} (response : R → UnaryResponse) (handler : Handler R) :
    Handler UnaryResponse := do
  let r ← handler
  pure (response r)

def handle (ctx : GatewayContext) : UnaryTask → Handler UnaryResponse
  | .classificationWithGen task => respond .classified (task.handle ctx)
  | .chatCompletions task => respond .chatCompletion (task.handleUnary ctx)
  | .completions task => respond .completion (task.handleUnary ctx)
  | .generationWithDetection task => respond .generation (task.handle ctx)
  | .textContent task => respond .contents (task.handle ctx)
  | .chat task => respond .detections (task.handle ctx)
  | .contextDocs task => respond .detections (task.handle ctx)
  | .detectionOnGeneration task => respond .detections (task.handle ctx)

end UnaryTask

end GuardrailsOrchestrator
