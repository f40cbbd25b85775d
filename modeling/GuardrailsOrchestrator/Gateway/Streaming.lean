import GuardrailsOrchestrator.Chat.Streaming
import GuardrailsOrchestrator.Completions.Streaming
import GuardrailsOrchestrator.Gateway.Output

/-!
# Screening of streamed requests

The handlers of the endpoints that stream what a language model generates. Until the stream of the
model is there they call services, one after the other, as the handlers with one response do. What
happens to the stream is what the machines of the three endpoints do with it.

## Main definitions

* `StreamedTask.opening` — the part of a handler before the stream is processed
* `StreamedTask.Run` — what is called for a request, and what the client has received

## Main results

* `streamed_text_screened` — what comes before the first generated text
* `flagged_stream_withheld` — what the client receives for an input with detections
* `streamed_calls_succeeded` — the calls of a request that is answered
* `streamed_refusal_iff` — the same input is refused with and without streaming
-/

namespace GuardrailsOrchestrator

open Calls ResponseProtocol Transition

/-! ### Streams of language models -/

/-- A message that is streamed to a client. -/
inductive StreamedMessage where
  | classified (message : ClassifiedGeneratedTextStreamResult)
  | chatCompletion (message : ChatCompletionChunk)
  | completion (message : Completion)
  deriving DecidableEq

/-- The stream of a language model. -/
inductive ModelStream where
  | classified (items : List (Except Error ClassifiedGeneratedTextStreamResult))
  | chatCompletion (items : List (Item Error ChatCompletionChunk))
  | completion (items : List (Item Error Completion))

/-- What a handler has before it processes output: a message about the input, which ends the
response, or the stream of the model. -/
inductive Opened where
  | flagged (message : StreamedMessage)
  | stream (stream : ModelStream)

namespace Handler

variable (headers : HeaderMap)

/-- The stream of a generation server. Its errors become errors of the request. -/
def generateStream (modelId text : String) (params : Option GuardrailsTextGenerationParameters) :
    Handler ModelStream :=
  ask ⟨headers, .generateStream modelId text params⟩ fun answer =>
    (requestFailed (.generateRequestFailed modelId) answer).map fun stream =>
      .classified (stream.map (·.mapError (.generateRequestFailed modelId)))

def chatCompletionStream (request : ChatCompletionsRequest) : Handler ModelStream :=
  ask ⟨withJsonContentType headers, .chatCompletionStream request⟩ fun answer =>
    (requestFailed (.chatCompletionRequestFailed request.model) answer).map .chatCompletion

def completionStream (request : CompletionsRequest) : Handler ModelStream :=
  ask ⟨withJsonContentType headers, .completionStream request⟩ fun answer =>
    (requestFailed (.completionRequestFailed request.model) answer).map .completion

end Handler

/-- What the streaming handlers have in common: a request whose output is not processed yet. -/
def opening (validated : Except Error Unit) (inputDetectors : IterMap DetectorId DetectorParams)
    (inputDetection : Handler (Option Opened)) (generation : Handler ModelStream) :
    Handler Opened :=
  guarded validated inputDetectors .empty inputDetection generation
    (fun stream => pure (.stream stream)) .stream

/-! ### Classification with generation -/

structure StreamingClassificationWithGenTask where
  modelId : String
  inputs : String
  guardrailsConfig : GuardrailsConfig := {}
  textGenParameters : Option GuardrailsTextGenerationParameters := none
  headers : HeaderMap

namespace StreamingClassificationWithGenTask

def new (request : GuardrailsHttpRequest)
    (textGenParameters : Option GuardrailsTextGenerationParameters) (headers : HeaderMap) :
    StreamingClassificationWithGenTask :=
  { modelId := request.modelId
    inputs := request.inputs
    guardrailsConfig := request.guardrailConfig.getD {}
    textGenParameters
    headers }

variable (ctx : GatewayContext) (task : StreamingClassificationWithGenTask)

/-- Unlike without streaming, output detectors must use a chunker. -/
def validateDetectors : Except Error Unit := do
  GuardrailsOrchestrator.validateDetectors task.guardrailsConfig.inputDetectors
    ctx.config.detectors [.textContents] true
  GuardrailsOrchestrator.validateDetectors task.guardrailsConfig.outputDetectors
    ctx.config.detectors [.textContents] false

/-- The message for an unsuitable input: it has no text. -/
def inputResponse (detections : List Detection) (inputTokenCount : ℕ) :
    Except Failure Opened := do
  let input ← Failure.unwrap (detections.mapM TokenClassificationResult.ofDetection)
  .ok (.flagged (.classified
    { inputTokenCount
      tokenClassificationResults := { input := some input }
      warnings := some [.unsuitableInput] }))

def inputDetection : Handler (Option Opened) :=
  handleInputDetection task.headers task.guardrailsConfig.inputDetectors
    (applyMasks task.inputs task.guardrailsConfig.inputMasks)
    (withClient ctx.hasGenerationClient (Handler.tokenize task.headers task.modelId task.inputs))
    inputResponse

def opening : Handler Opened :=
  GuardrailsOrchestrator.opening (task.validateDetectors ctx) task.guardrailsConfig.inputDetectors
    (task.inputDetection ctx) (withClient ctx.hasGenerationClient
      (Handler.generateStream task.headers task.modelId task.inputs task.textGenParameters))

end StreamingClassificationWithGenTask

/-- Forward the messages of a stream, up to its first error. -/
def forwardGenerationStream {M : Type} : List (Except Error M) → List (Except Error M)
  | [] => []
  | .ok message :: stream => .ok message :: forwardGenerationStream stream
  | .error error :: _ => [.error error]

/-! ### Completions -/

namespace ChatCompletionsDetectionTask

variable (ctx : GatewayContext) (task : ChatCompletionsDetectionTask)

/-- The message for an unsuitable input: it has no choices. -/
def inputChunk (messageIndex : ℕ) (detections : List Detection) (promptTokens : ℕ) :
    ChatCompletionChunk :=
  { id := ctx.id
    model := task.request.model
    created := ctx.created
    detections := some { input := [{ messageIndex, results := detections }] }
    warnings := [⟨.unsuitableInput, unsuitableInputMessage⟩]
    usage := some { promptTokens } }

def streamedInputDetection : Handler (Option Opened) := do
  let (messageIndex, inputText) ← Program.ofExcept task.lastMessage
  handleInputDetection task.headers task.request.detectors.input (.ok [(0, inputText)])
    (withClient ctx.hasOpenAiClient
      (Handler.tokenizeOpenai task.headers task.request.model inputText))
    fun detections promptTokens =>
      .ok (.flagged (.chatCompletion (task.inputChunk ctx messageIndex detections promptTokens)))

def opening : Handler Opened :=
  GuardrailsOrchestrator.opening (task.validateDetectors ctx) task.request.detectors.input
    (task.streamedInputDetection ctx)
    (withClient ctx.hasOpenAiClient (Handler.chatCompletionStream task.headers task.request))

end ChatCompletionsDetectionTask

namespace CompletionsDetectionTask

variable (ctx : GatewayContext) (task : CompletionsDetectionTask)

def streamedInputDetection : Handler (Option Opened) :=
  handleInputDetection task.headers task.request.detectors.input
    (applyMasks task.request.prompt task.request.promptMasks)
    (withClient ctx.hasOpenAiClient
      (Handler.tokenizeOpenai task.headers task.request.model task.request.prompt))
    fun detections promptTokens =>
      .ok (.flagged (.completion (task.inputResponse ctx detections promptTokens)))

def opening : Handler Opened :=
  GuardrailsOrchestrator.opening (task.validateDetectors ctx) task.request.detectors.input
    (task.streamedInputDetection ctx)
    (withClient ctx.hasOpenAiClient (Handler.completionStream task.headers task.request))

end CompletionsDetectionTask

/-! ### Streaming tasks -/

/-- A task of one of the endpoints that stream. -/
inductive StreamedTask where
  | classificationWithGen (task : StreamingClassificationWithGenTask)
  | chatCompletions (task : ChatCompletionsDetectionTask)
  | completions (task : CompletionsDetectionTask)

namespace StreamedTask

/-- The part of a handler before the stream is processed. -/
def opening (ctx : GatewayContext) : StreamedTask → Handler Opened
  | .classificationWithGen task => task.opening ctx
  | .chatCompletions task => task.opening ctx
  | .completions task => task.opening ctx

/-- The completion signal at the end of a response, at the endpoints that have one. -/
def completionSignal : StreamedTask → List (Item Error StreamedMessage)
  | .classificationWithGen _ => []
  | _ => [.ok none]

/-- What is sent for a request that fails. Nothing is, not even the completion signal, if the task
panics. -/
def failureResponse (task : StreamedTask) : Failure → List (Item Error StreamedMessage)
  | .error error => .error error :: task.completionSignal
  | .panic => []

/-- What a streaming request is to the machine of the endpoint: its task, with input that may pass
and the stream of the model. -/
structure Passes {M : Type} (ctx : GatewayContext) (detectors : RequestedDetectors)
    (stream : List (Item Error M)) (request : StreamingRequest M) : Prop where
  config : request.config = ctx.config
  inputDetectors : request.inputDetectors = detectors.input
  outputDetectors : request.outputDetectors = detectors.output
  inputDetection : request.inputDetection = .ok none
  generation : request.generation = .ok stream

/-- What has been sent at some moment while a stream is processed. -/
inductive Processed (ctx : GatewayContext) :
    StreamedTask → ModelStream → List (Item Error StreamedMessage) → Prop
  | forwarded {task : StreamingClassificationWithGenTask}
    {stream sent : List (Except Error ClassifiedGeneratedTextStreamResult)}
    (houtput : task.guardrailsConfig.outputDetectors.isEmpty = true)
    (hsent : sent <+: forwardGenerationStream stream) :
    Processed ctx (.classificationWithGen task) (.classified stream)
      (sent.map (·.map fun m => some (.classified m)))
  -- the detection streams could not be created, and the handler returns
  | undetected {task : StreamingClassificationWithGenTask}
    {stream : List (Except Error ClassifiedGeneratedTextStreamResult)} (error : Error)
    (houtput : task.guardrailsConfig.outputDetectors.isEmpty = false) :
    Processed ctx (.classificationWithGen task) (.classified stream) [.error error]
  | classified {task : StreamingClassificationWithGenTask}
    {stream : List (Except Error ClassifiedGeneratedTextStreamResult)} {s : GenerationStreaming}
    {labels : List GenerationLabel}
    (houtput : task.guardrailsConfig.outputDetectors.isEmpty = false)
    (hexec : exec GenerationStreaming.step (.start stream) labels = some s) :
    Processed ctx (.classificationWithGen task) (.classified stream)
      (s.sent.map (·.map fun m => some (.classified m)))
  | chatCompletion {task : ChatCompletionsDetectionTask}
    {stream : List (Item Error ChatCompletionChunk)}
    {request : StreamingRequest ChatCompletionChunk}
    {batches : List (Except Error Batch)} {s : ChatStreaming} {labels : List ChatLabel}
    (hrequest : Passes ctx task.request.detectors stream request)
    (hexec : exec (ChatStreaming.step request) (.start request batches) labels = some s) :
    Processed ctx (.chatCompletions task) (.chatCompletion stream)
      (s.task.sent.map (·.map (·.map .chatCompletion)))
  | completion {task : CompletionsDetectionTask}
    {stream : List (Item Error Completion)} {request : StreamingRequest Completion}
    {batches : List (Except Error Batch)} {s : CompletionStreaming} {labels : List CompletionLabel}
    (hrequest : Passes ctx task.request.detectors stream request)
    (hexec : exec (CompletionStreaming.step request) (.start request batches) labels = some s) :
    Processed ctx (.completions task) (.completion stream)
      (s.task.sent.map (·.map (·.map .completion)))

/-- For a request these calls have been made, up to the stream of the model, and this has been
sent. -/
inductive Run (ctx : GatewayContext) (task : StreamedTask) :
    List CallEvent → List (Item Error StreamedMessage) → Prop
  | failed {w : List CallEvent} {failure : Failure} {sent : List (Item Error StreamedMessage)}
    (hopening : Runs (task.opening ctx) w (.error failure))
    (hsent : sent <+: task.failureResponse failure) : Run ctx task w sent
  | flagged {w : List CallEvent} {message : StreamedMessage}
    {sent : List (Item Error StreamedMessage)}
    (hopening : Runs (task.opening ctx) w (.ok (.flagged message)))
    (hsent : sent <+: .ok (some message) :: task.completionSignal) : Run ctx task w sent
  | streamed {w : List CallEvent} {stream : ModelStream} {sent : List (Item Error StreamedMessage)}
    (hopening : Runs (task.opening ctx) w (.ok (.stream stream)))
    (hsent : Processed ctx task stream sent) : Run ctx task w sent

end StreamedTask

/-! ### Screening -/

def StreamingClassificationWithGenTask.unary (task : StreamingClassificationWithGenTask) :
    ClassificationWithGenTask :=
  { modelId := task.modelId
    inputs := task.inputs
    guardrailsConfig := task.guardrailsConfig
    textGenParameters := task.textGenParameters
    headers := task.headers }

namespace StreamedTask

/-- The same request without streaming. -/
def unary : StreamedTask → UnaryTask
  | .classificationWithGen task => .classificationWithGen task.unary
  | .chatCompletions task => .chatCompletions task
  | .completions task => .completions task

/-- The call to a language model. -/
def generationCall : StreamedTask → Call
  | .classificationWithGen task =>
    ⟨task.headers, .generateStream task.modelId task.inputs task.textGenParameters⟩
  | .chatCompletions task => ⟨withJsonContentType task.headers, .chatCompletionStream task.request⟩
  | .completions task => ⟨withJsonContentType task.headers, .completionStream task.request⟩

/-- Input is examined as without streaming. -/
def screening (task : StreamedTask) : Screening :=
  { task.unary.screening with generationCall := some task.generationCall }

end StreamedTask

namespace StreamedMessage

/-- The message has a text of a language model. -/
def HasText : StreamedMessage → Prop
  | .classified message => message.generatedText.isSome
  | .chatCompletion message => message.choices ≠ []
  | .completion message => message.choices ≠ []

/-- The message has no text, and reports these detections on the input, with a warning. -/
def Withholds (detections : List Detection) : StreamedMessage → Prop
  | .classified message =>
    message.generatedText = none ∧ message.tokenClassificationResults.input =
        detections.mapM TokenClassificationResult.ofDetection ∧
      message.warnings = some [.unsuitableInput]
  | .chatCompletion message =>
    message.choices = [] ∧
      message.detections.map (·.input.flatMap (·.results)) = some detections ∧
      message.warnings = [⟨.unsuitableInput, unsuitableInputMessage⟩]
  | .completion message =>
    message.choices = [] ∧
      message.detections.map (·.input.flatMap (·.results)) = some detections ∧
      message.warnings = [⟨.unsuitableInput, unsuitableInputMessage⟩]

theorem Withholds.not_hasText {detections : List Detection} {message : StreamedMessage}
    (h : message.Withholds detections) : ¬ message.HasText := by
  cases message with
  | classified message => simp [HasText, h.1]
  | chatCompletion message | completion message => simp [HasText, h.1]

end StreamedMessage

/-- A response to an unsuitable input is a message. -/
def Opened.Withholds (detections : List Detection) (opened : Opened) : Prop :=
  ∃ message, opened = .flagged message ∧ message.Withholds detections

theorem ChatCompletionsDetectionTask.inputRun_of_runs_streamed {ctx : GatewayContext}
    {task : ChatCompletionsDetectionTask} {w : List CallEvent}
    {result : Except Failure (Option Opened)}
    (h : Runs (task.streamedInputDetection ctx) w result) :
    InputRun task.headers task.request.detectors.input
      (task.lastMessage.map fun message => [(0, message.2)])
      (withClient ctx.hasOpenAiClient (Handler.tokenizeOpenai task.headers task.request.model
        (task.lastMessage.toOption.getD default).2))
      (fun detections promptTokens => .ok (.flagged (.chatCompletion (task.inputChunk ctx
        (task.lastMessage.toOption.getD default).1 detections promptTokens)))) w result := by
  rcases runs_bind_iff.mp h with ⟨failure, hfirst, rfl⟩ | ⟨message, w₁, w₂, rfl, hfirst, hrest⟩
  · obtain ⟨rfl, hmessage⟩ := runs_ofExcept_iff.mp hfirst
    rw [← hmessage]
    exact .unasked rfl
  · obtain ⟨rfl, hmessage⟩ := runs_ofExcept_iff.mp hfirst
    rw [← hmessage]
    exact GuardrailsOrchestrator.inputRun_of_runs hrest

namespace StreamedTask

/-- Every streamed request is screened. -/
theorem screenedRun_of_runs {ctx : GatewayContext} {task : StreamedTask} {w : List CallEvent}
    {result : Except Failure Opened} (hrun : Runs (task.opening ctx) w result) :
    ScreenedRun task.screening Opened.Withholds w result := by
  -- opening a stream makes no further call
  have houtput : ∀ stream : ModelStream, Makes NotGeneration
      (if (IterMap.empty : IterMap DetectorId DetectorParams).isEmpty then
        pure (.stream stream) else (pure (.stream stream) : Handler Opened)) := by
    intro stream
    exact makes_pure _
  suffices h : ScreenedRun task.screening Opened.Withholds w (result.map id) by
    simpa [Except.map_id] using h
  cases task with
  | classificationWithGen task =>
    refine screenedRun_of_guardedRun (guardedRun_of_runs hrun) rfl ?_ houtput
    refine fun _ => ⟨_, _, inputRun_of_runs, fun h _ => eq_of_runs_tokens h rfl, ?_⟩
    intro detections n opened hrespond
    obtain ⟨input, hinput, h⟩ := Except.bind_eq_ok_iff.mp hrespond
    obtain rfl := Except.ok.inj h
    exact ⟨_, rfl, rfl, (Failure.unwrap_eq_ok_iff.mp hinput).symm, rfl⟩
  | chatCompletions task =>
    refine screenedRun_of_guardedRun (guardedRun_of_runs hrun) rfl ?_ houtput
    refine fun _ => ⟨_, _, task.inputRun_of_runs_streamed,
      fun h hinputs => eq_of_runs_tokens h (task.tokenCall_of_screened hinputs), ?_⟩
    intro detections n opened hrespond
    obtain rfl := Except.ok.inj hrespond
    exact ⟨_, rfl, by simp [StreamedMessage.Withholds, ChatCompletionsDetectionTask.inputChunk]⟩
  | completions task =>
    refine screenedRun_of_guardedRun (guardedRun_of_runs hrun) rfl ?_ houtput
    refine fun _ => ⟨_, _, inputRun_of_runs, fun h _ => eq_of_runs_tokens h rfl, ?_⟩
    intro detections n opened hrespond
    obtain rfl := Except.ok.inj hrespond
    exact ⟨_, rfl, by simp [StreamedMessage.Withholds, CompletionsDetectionTask.inputResponse]⟩

end StreamedTask

section Screened

variable {ctx : GatewayContext} {task : StreamedTask} {w : List CallEvent}
  {sent : List (Item Error StreamedMessage)}

/-- A message in a response that ends before a stream is opened. -/
theorem StreamedTask.mem_of_prefix {message message' : StreamedMessage}
    (hmem : .ok (some message) ∈ sent)
    (hsent : sent <+: .ok (some message') :: task.completionSignal) :
    message = message' := by
  rcases List.mem_cons.mp (hsent.subset hmem) with heq | hmem
  · simpa using heq
  · cases task <;> simp [completionSignal] at hmem

theorem StreamedTask.notMem_failureResponse {message : StreamedMessage} {failure : Failure}
    (hsent : sent <+: task.failureResponse failure) : .ok (some message) ∉ sent := by
  intro hmem
  have hmem := hsent.subset hmem
  cases failure with
  | panic => simp [failureResponse] at hmem
  | error e => cases task <;> simp [failureResponse, completionSignal] at hmem

/-- A handler that goes on, other than by withholding the input, has asked its model. -/
theorem StreamedTask.exists_generation_of_runs {opened : Opened}
    (hrun : Runs (task.opening ctx) w (.ok opened))
    (hopened : ∀ detections, ¬ opened.Withholds detections) :
    ∃ w₁ answer w₂, w = w₁ ++ ⟨task.generationCall, answer⟩ :: w₂ ∧
      (∀ e ∈ w₁ ++ w₂, NotGeneration e) ∧ task.screening.Cleared w₁ := by
  generalize hresult : (Except.ok opened : Except Failure Opened) = result at hrun
  cases screenedRun_of_runs hrun with
  | rejected _ => simp at hresult
  | failed _ => simp at hresult
  | flagged _ _ _ hresponse => exact absurd (hresponse _ hresult.symm) (hopened _)
  | @passed w₁ w₂ result hcleared hproceeds =>
    rcases hproceeds with ⟨-, hfalse⟩ | ⟨answer, w₂, rfl, hothers⟩
    · simp [← hresult, Except.isOk, Except.toBool] at hfalse
    · refine ⟨w₁, answer, w₂, rfl, ?_, hcleared⟩
      intro e he
      exact (List.mem_append.mp he).elim (Screening.notGeneration_of_cleared _ hcleared e)
        (hothers e)

/-- **Screening of streams.** Whatever the services answer and however the tasks that process the
stream are interleaved, before the client receives a text of a language model the model has been
asked, once and with the request as it came. If there are input detectors, they have been asked
before about the input, and have found nothing. -/
theorem streamed_text_screened {message : StreamedMessage} (hrun : task.Run ctx w sent)
    (hmem : .ok (some message) ∈ sent) (htext : message.HasText) :
    ∃ w₁ answer w₂, w = w₁ ++ ⟨task.generationCall, answer⟩ :: w₂ ∧
      (∀ e ∈ w₁ ++ w₂, NotGeneration e) ∧
      if task.unary.inputDetectors.isEmpty then w₁ = []
      else ∃ inputs, task.unary.screened = .ok inputs ∧
        w₁ = [task.unary.screenEvent inputs []] := by
  cases hrun with
  | failed _ hsent => exact absurd hmem (StreamedTask.notMem_failureResponse hsent)
  -- a message about the input has no generated text
  | flagged hopening hsent =>
    obtain rfl := StreamedTask.mem_of_prefix hmem hsent
    refine StreamedTask.exists_generation_of_runs hopening ?_
    rintro detections ⟨message', heq, hwithholds⟩
    obtain rfl := Opened.flagged.inj heq
    exact hwithholds.not_hasText htext
  | streamed hopening _ =>
    refine StreamedTask.exists_generation_of_runs hopening ?_
    rintro detections ⟨message', heq, -⟩
    cases heq

/-- A request with an input to examine, whose output is not. -/
def regexGeneration : StreamedTask :=
  .classificationWithGen
    { modelId := "granite"
      inputs := "Hi"
      guardrailsConfig :=
        { input := some { models := ⟨[("regex", .empty)], List.nodup_singleton "regex"⟩ } }
      headers := .empty }

/-- What a model says that generates one token. -/
def helloStream : List (Except Error ClassifiedGeneratedTextStreamResult) :=
  [.ok { generatedText := some "Hello" }]

theorem streamed_text_screened_hello :
    ∃ w₁ answer w₂, regexGeneration.Run regexContext
      (w₁ ++ ⟨regexGeneration.generationCall, answer⟩ :: w₂)
      [.ok (some (.classified { generatedText := some "Hello" }))] := by
  have hopening : Runs (regexGeneration.opening regexContext) [_, _]
      (Except.ok (Opened.stream (.classified helloStream))) :=
    runs_respond (servicesFinding []) (regexGeneration.opening regexContext)
  have hsent : StreamedTask.Processed regexContext regexGeneration (.classified helloStream)
      (helloStream.map (·.map fun m => some (.classified m))) :=
    .forwarded rfl (List.prefix_refl helloStream)
  have hrun := StreamedTask.Run.streamed hopening hsent
  obtain ⟨w₁, answer, w₂, heq, -⟩ :=
    streamed_text_screened hrun (List.mem_singleton_self _) rfl
  exact ⟨w₁, answer, w₂, heq ▸ hrun⟩

/-- **Flagged input of streams.** If the input detectors find something, nothing else is called than
the tokenizer, and the client receives one message, without a text and with what was found, or an
error, and then the completion signal. -/
theorem flagged_stream_withheld {inputs : List (ℕ × String)} {detections : List Detection}
    (hrun : task.Run ctx (task.unary.screenEvent inputs detections :: w) sent)
    (hinput : task.unary.inputDetectors.isEmpty = false) (hne : detections ≠ []) :
    task.unary.screened = .ok inputs ∧
      (w = [] ∨ ∃ event, w = [event] ∧ task.unary.tokenCall = some event.1) ∧
      ((∃ message, message.Withholds detections ∧
        sent <+: .ok (some message) :: task.completionSignal) ∨
        ∃ failure, sent <+: task.failureResponse failure) := by
  cases hrun with
  | failed hopening hsent =>
    obtain ⟨hinputs, hcount, -⟩ :=
      (StreamedTask.screenedRun_of_runs hopening).reports rfl hinput hne
    exact ⟨hinputs, hcount, Or.inr ⟨_, hsent⟩⟩
  | flagged hopening hsent =>
    obtain ⟨hinputs, hcount, hreports⟩ :=
      (StreamedTask.screenedRun_of_runs hopening).reports rfl hinput hne
    obtain ⟨message, heq, hwithholds⟩ := hreports _ rfl
    obtain rfl := Opened.flagged.inj heq
    exact ⟨hinputs, hcount, Or.inl ⟨_, hwithholds, hsent⟩⟩
  -- input with detections is never passed on to the model
  | streamed hopening _ =>
    obtain ⟨-, -, hreports⟩ := (StreamedTask.screenedRun_of_runs hopening).reports rfl hinput hne
    obtain ⟨message, heq, -⟩ := hreports _ rfl
    cases heq

/-- A detection in the input. -/
def inputGreeting : Detection :=
  { start := some 0, stop := some 2, text := some "Hi", detection := "Greeting" }

theorem flagged_stream_withheld_regex :
    ∃ event message, regexGeneration.Run regexContext
        (regexGeneration.unary.screenEvent [(0, "Hi")] [inputGreeting] :: [event])
        [.ok (some message)] ∧ regexGeneration.unary.screened = .ok [(0, "Hi")] := by
  have hopening : Runs (regexGeneration.opening regexContext) [_, _]
      (Except.ok (Opened.flagged _)) :=
    runs_respond (servicesFinding [inputGreeting]) (regexGeneration.opening regexContext)
  have hrun : regexGeneration.Run regexContext
      (regexGeneration.unary.screenEvent [(0, "Hi")] [inputGreeting] :: [_]) [.ok (some _)] :=
    .flagged hopening (List.prefix_refl [_])
  exact ⟨_, _, hrun, (flagged_stream_withheld hrun rfl (List.cons_ne_nil _ [])).1⟩

/-- **Failed calls and streams.** The client of a streamed request receives a message only if all
the calls that were made for it, up to the opening of the model's stream, have succeeded. -/
theorem streamed_calls_succeeded {message : StreamedMessage} (hrun : task.Run ctx w sent)
    (hmem : .ok (some message) ∈ sent) : ∀ event ∈ w, Succeeded event := by
  -- a handler that goes on after a call has seen it succeed
  have hstrict : Strict Succeeded (task.opening ctx) := by
    cases task with
    | classificationWithGen task =>
      refine strict_guarded ?_ ?_ fun _ => strict_pure _
      · exact strict_handleInputDetection (strict_withClient (strict_tokenize _ _ _))
      · exact strict_withClient (strict_askMap fun _ h => h)
    | chatCompletions task =>
      refine strict_guarded ?_ ?_ fun _ => strict_pure _
      · exact (strict_ofExcept _).bind fun _ => strict_handleInputDetection
          (strict_withClient (strict_ask fun _ _ => isOk_of_requestFailed))
      · exact strict_withClient (strict_askMap fun _ h => h)
    | completions task =>
      refine strict_guarded ?_ ?_ fun _ => strict_pure _
      · exact strict_handleInputDetection
          (strict_withClient (strict_ask fun _ _ => isOk_of_requestFailed))
      · exact strict_withClient (strict_askMap fun _ h => h)
  cases hrun with
  | failed _ hsent => exact absurd hmem (StreamedTask.notMem_failureResponse hsent)
  | flagged hopening _ | streamed hopening _ => exact hstrict w _ hopening

theorem streamed_calls_succeeded_hello :
    ∃ w, w.length = 2 ∧ regexGeneration.Run regexContext w
      [.ok (some (.classified { generatedText := some "Hello" }))] ∧
        ∀ event ∈ w, Succeeded event := by
  have hopening : Runs (regexGeneration.opening regexContext) [_, _]
      (Except.ok (Opened.stream (.classified helloStream))) :=
    runs_respond (servicesFinding []) (regexGeneration.opening regexContext)
  have hsent : StreamedTask.Processed regexContext regexGeneration (.classified helloStream)
      (helloStream.map (·.map fun m => some (.classified m))) :=
    .forwarded rfl (List.prefix_refl helloStream)
  have hrun := StreamedTask.Run.streamed hopening hsent
  exact ⟨_, rfl, hrun, streamed_calls_succeeded hrun (List.mem_singleton_self _)⟩

end Screened

/-! ### Refusals with and without streaming -/

/-- How a request can end before a language model is asked: it is rejected, or ends with input
detection, or there is no client for the model. -/
inductive WithheldRun {R : Type} (validated : Except Error Unit) (hasInput isPresent : Bool)
    (inputDetection : Handler (Option R)) : List CallEvent → Except Failure R → Prop
  | rejected {failure : Failure} (hrejected : Failure.ofExcept validated = .error failure) :
    WithheldRun validated hasInput isPresent inputDetection [] (.error failure)
  | inputFailed {w : List CallEvent} {failure : Failure} (hvalid : validated = .ok ())
    (hinput : hasInput = true) (hrun : Runs inputDetection w (.error failure)) :
    WithheldRun validated hasInput isPresent inputDetection w (.error failure)
  | flagged {w : List CallEvent} {response : R} (hvalid : validated = .ok ())
    (hinput : hasInput = true) (hrun : Runs inputDetection w (.ok (some response))) :
    WithheldRun validated hasInput isPresent inputDetection w (.ok response)
  | noClient {w : List CallEvent} (hvalid : validated = .ok ()) (hpresent : isPresent = false)
    (hinput : if hasInput then Runs inputDetection w (.ok none) else w = []) :
    WithheldRun validated hasInput isPresent inputDetection w (.error .panic)

section Withheld

variable {G R R' : Type} {validated : Except Error Unit}
  {inputDetectors outputDetectors : IterMap DetectorId DetectorParams}
  {inputDetection : Handler (Option R)} {isPresent : Bool} {call : Call}
  {read : call.Answer → Except Failure G} {outputDetection : G → Handler R}
  {withoutDetection : G → R} {w : List CallEvent} {result : Except Failure R}

/-- A run without a call to a language model ends before one is asked. -/
theorem runs_guarded_iff_withheldRun (hcall : call.operation.isGeneration = true)
    (hw : ∀ e ∈ w, NotGeneration e) :
    Runs (guarded validated inputDetectors outputDetectors inputDetection
        (withClient isPresent (ask call read)) outputDetection withoutDetection) w result ↔
      WithheldRun validated (!inputDetectors.isEmpty) isPresent inputDetection w result := by
  constructor
  · intro h
    -- no call was made to the model, so its answer is not part of the run
    have hasked : ∀ answer, ⟨call, answer⟩ ∉ w := by
      intro answer hmem
      have hnot := hw _ hmem
      rw [NotGeneration, hcall] at hnot
      simp at hnot
    cases guardedRun_of_runs h with
    | rejected hrejected => exact .rejected hrejected
    | inputFailed hinput hrun hvalid => exact .inputFailed hvalid hinput hrun
    | flagged hinput hrun hvalid => exact .flagged hvalid hinput hrun
    | ungenerated hinput hrun hvalid =>
      rcases runs_withClient_ask_iff.mp hrun with ⟨-, answer, rfl, -⟩ | ⟨hpresent, rfl, hpanic⟩
      · exact absurd (by simp) (hasked answer)
      · obtain rfl := Except.error.inj hpanic
        rw [List.append_nil]
        exact .noClient hvalid hpresent hinput
    | generated hinput hrun houtput hvalid =>
      rcases runs_withClient_ask_iff.mp hrun with ⟨-, answer, rfl, -⟩ | ⟨-, -, hfalse⟩
      · exact absurd (by simp) (hasked answer)
      · simp at hfalse
  · intro h
    apply runs_of_guardedRun
    cases h with
    | rejected hrejected => exact .rejected hrejected
    | inputFailed hvalid hinput hrun => exact .inputFailed hinput hrun hvalid
    | flagged hvalid hinput hrun => exact .flagged hinput hrun hvalid
    | noClient hvalid hpresent hinput =>
      rw [← List.append_nil w]
      exact .ungenerated hinput (runs_withClient_iff.mpr (Or.inr ⟨hpresent, rfl, rfl⟩)) hvalid

/-- Input detection that differs in its response only. -/
theorem withheldRun_map_iff {inputDetection' : Handler (Option R')} {f : R → R'} {hasInput : Bool}
    {result' : Except Failure R'}
    (h : ∀ {w r'}, Runs inputDetection' w r' ↔
      ∃ r, Runs inputDetection w r ∧ r' = r.map (Option.map f)) :
    WithheldRun validated hasInput isPresent inputDetection' w result' ↔
      ∃ result, WithheldRun validated hasInput isPresent inputDetection w result ∧
        result' = result.map f := by
  -- nothing is found by the one exactly when nothing is found by the other
  have hnone : ∀ {w}, Runs inputDetection' w (.ok none) ↔ Runs inputDetection w (.ok none) := by
    intro w
    refine h.trans ⟨?_, fun hrun => ⟨_, hrun, rfl⟩⟩
    rintro ⟨failure | (_ | r), hrun, heq⟩
    · simp [Except.map] at heq
    · exact hrun
    · simp [Except.map] at heq
  constructor
  · rintro (hrejected | ⟨hvalid, hinput, hrun⟩ | ⟨hvalid, hinput, hrun⟩ |
      ⟨hvalid, hpresent, hinput⟩)
    · exact ⟨_, .rejected hrejected, rfl⟩
    · obtain ⟨failure | r, hrun, heq⟩ := h.mp hrun
      · obtain rfl := Except.error.inj heq
        exact ⟨_, .inputFailed hvalid hinput hrun, rfl⟩
      · simp [Except.map] at heq
    · obtain ⟨failure | (_ | r), hrun', heq⟩ := h.mp hrun
      · simp [Except.map] at heq
      · simp [Except.map] at heq
      · obtain rfl := Option.some.inj (Except.ok.inj heq)
        exact ⟨_, .flagged hvalid hinput hrun', rfl⟩
    · simp only [hnone] at hinput
      exact ⟨_, .noClient hvalid hpresent hinput, rfl⟩
  · rintro ⟨result, hrun, rfl⟩
    cases hrun with
    | rejected hrejected => exact .rejected hrejected
    | inputFailed hvalid hinput hrun => exact .inputFailed hvalid hinput (h.mpr ⟨_, hrun, rfl⟩)
    | flagged hvalid hinput hrun => exact .flagged hvalid hinput (h.mpr ⟨_, hrun, rfl⟩)
    | noClient hvalid hpresent hinput =>
      simp only [← hnone] at hinput
      exact .noClient hvalid hpresent hinput

/-- Input detection with another response to the same detections. -/
theorem runs_handleInputDetection_map_iff {headers : HeaderMap}
    {detectors : IterMap DetectorId DetectorParams} {inputs : Except Failure (List (ℕ × String))}
    {tokens : Handler ℕ} {respond : List Detection → ℕ → Except Failure R}
    {respond' : List Detection → ℕ → Except Failure R'} {f : R → R'}
    (h : ∀ detections n, respond' detections n = (respond detections n).map f)
    {r' : Except Failure (Option R')} :
    Runs (handleInputDetection headers detectors inputs tokens respond') w r' ↔
      ∃ r, Runs (handleInputDetection headers detectors inputs tokens respond) w r ∧
        r' = r.map (Option.map f) := by
  -- only the last step, the response, differs
  have hresult : ∀ (detections : List Detection) (count : Except Failure ℕ),
      (count.bind fun n => (respond' detections n).map some) =
        (count.bind fun n => (respond detections n).map some).map (Option.map f) := by
    rintro detections (failure | n)
    · rfl
    · simp only [Except.bind, h]
      cases respond detections n <;> rfl
  constructor
  · intro hrun
    cases inputRun_of_runs hrun with
    | unasked hinputs => exact ⟨_, runs_of_inputRun (.unasked hinputs), rfl⟩
    | failed hinputs => exact ⟨_, runs_of_inputRun (.failed hinputs), rfl⟩
    | clear hinputs => exact ⟨_, runs_of_inputRun (.clear hinputs), rfl⟩
    | flagged hinputs hne hcount =>
      exact ⟨_, runs_of_inputRun (.flagged hinputs hne hcount), hresult _ _⟩
  · rintro ⟨r, hrun, rfl⟩
    cases inputRun_of_runs hrun with
    | unasked hinputs => exact runs_of_inputRun (.unasked hinputs)
    | failed hinputs => exact runs_of_inputRun (.failed hinputs)
    | clear hinputs => exact runs_of_inputRun (.clear hinputs)
    | flagged hinputs hne hcount =>
      rw [← hresult]
      exact runs_of_inputRun (.flagged hinputs hne hcount)

end Withheld

/-- Whether whole documents are supported makes no difference without detectors that need them. -/
theorem validateDetectors_eq_of_chunked {detectors : IterMap DetectorId DetectorParams}
    {config : IterMap DetectorId DetectorConfig} {types : List DetectorType}
    (h : ∀ id ∈ detectors.keys, ∀ detector, config.get? id = some detector →
      detector.chunkerId ≠ defaultChunkerId) :
    validateDetectors detectors config types false =
      validateDetectors detectors config types true := by
  apply Except.forM_congr
  intro e he
  simp only [validateDetector]
  cases hget : config.get? e.1 with
  | none => rfl
  | some detector =>
    have hne := h e.1 (List.mem_map_of_mem he) detector hget
    simp [hne]

def streamedResult (response : ClassifiedGeneratedTextResult) :
    ClassifiedGeneratedTextStreamResult :=
  { inputTokenCount := response.inputTokenCount
    tokenClassificationResults := response.tokenClassificationResults
    warnings := response.warnings }

def streamedChunk (response : ChatCompletion) : ChatCompletionChunk :=
  { id := response.id
    model := response.model
    created := response.created
    detections := response.detections
    warnings := response.warnings
    usage := some response.usage }

/-- The message with the contents of a response without text, at the endpoints that stream. -/
def UnaryResponse.streamed : UnaryResponse → Option StreamedMessage
  | .classified response => some (.classified (streamedResult response))
  | .chatCompletion response => some (.chatCompletion (streamedChunk response))
  | .completion response => some (.completion response)
  | _ => none

namespace StreamedTask

/-- Every output detector uses a chunker, at the endpoint where this matters. -/
def OutputIsChunked (ctx : GatewayContext) : StreamedTask → Prop
  | .classificationWithGen task => ∀ id ∈ task.guardrailsConfig.outputDetectors.keys,
    ∀ detector, ctx.config.detectors.get? id = some detector →
      detector.chunkerId ≠ defaultChunkerId
  | _ => True

/-- Handlers of which one makes a message of what the other responds. -/
theorem refusal_iff_of_map {R : Type} {w : List CallEvent} {handler : Handler R}
    {opening : Handler Opened} {response : R → UnaryResponse} {message : R → StreamedMessage}
    (hmessage : ∀ a, (response a).streamed = some (message a))
    (h : ∀ {r'}, Runs opening w r' ↔
      ∃ r, Runs handler w r ∧ r' = r.map fun a => .flagged (message a)) :
    (∀ failure, Runs opening w (.error failure) ↔
      Runs (UnaryTask.respond response handler) w (.error failure)) ∧
    ∀ m, Runs opening w (.ok (.flagged m)) ↔ ∃ response',
      Runs (UnaryTask.respond response handler) w (.ok response') ∧
        response'.streamed = some m := by
  -- a response is made of a result without any call
  have hrespond : ∀ {r}, Runs handler w r →
      Runs (UnaryTask.respond response handler) w (r.map response) := by
    rintro (failure | a) hrun
    · exact runs_bind_iff.mpr (Or.inl ⟨failure, hrun, rfl⟩)
    · exact runs_bind_iff.mpr (Or.inr ⟨a, w, [], by simp, hrun, runs_pure_iff.mpr ⟨rfl, rfl⟩⟩)
  refine ⟨fun failure => h.trans ⟨?_, ?_⟩, fun m => h.trans ⟨?_, ?_⟩⟩
  · rintro ⟨failure | a, hrun, heq⟩
    · obtain rfl := Except.error.inj heq
      exact hrespond hrun
    · simp [Except.map] at heq
  · intro hresponse
    obtain ⟨failure | a, hrun, heq⟩ := exists_runs_of_respond hresponse
    · obtain rfl := Except.error.inj heq
      exact ⟨_, hrun, rfl⟩
    · simp [Except.map] at heq
  · rintro ⟨failure | a, hrun, heq⟩
    · simp [Except.map] at heq
    · obtain rfl := Opened.flagged.inj (Except.ok.inj heq)
      exact ⟨_, hrespond hrun, hmessage a⟩
  · rintro ⟨response', hrun, hstreamed⟩
    obtain ⟨a, hhandler, rfl⟩ := exists_runs_of_respond_ok hrun
    obtain rfl := Option.some.inj ((hmessage a).symm.trans hstreamed)
    exact ⟨_, hhandler, rfl⟩

end StreamedTask

/-- **The same refusals.** As long as no language model is asked, a request does the same with and
without streaming, given the same answers: it fails in the same way, or it is refused with what was
found on its input, and the message has the contents of the response. -/
theorem streamed_refusal_iff {ctx : GatewayContext} {task : StreamedTask} {w : List CallEvent}
    (houtput : task.OutputIsChunked ctx) (hw : ∀ e ∈ w, NotGeneration e) :
    (∀ failure, Runs (task.opening ctx) w (.error failure) ↔
      Runs (task.unary.handle ctx) w (.error failure)) ∧
    ∀ message, Runs (task.opening ctx) w (.ok (.flagged message)) ↔ ∃ response,
      Runs (task.unary.handle ctx) w (.ok response) ∧ response.streamed = some message := by
  -- for each endpoint: its input detection is the same up to the kind of the response
  cases task with
  | classificationWithGen task =>
    refine StreamedTask.refusal_iff_of_map (fun _ => rfl) ?_
    intro r'
    have hvalid : task.validateDetectors ctx = task.unary.validateDetectors ctx :=
      congrArg (fun output => do
        validateDetectors task.guardrailsConfig.inputDetectors ctx.config.detectors
          [.textContents] true
        output) (validateDetectors_eq_of_chunked houtput)
    have hmap : ∀ {w r'}, Runs (task.inputDetection ctx) w r' ↔
        ∃ r, Runs (task.unary.inputDetection ctx) w r ∧
          r' = r.map (Option.map fun a => .flagged (.classified (streamedResult a))) := by
      refine runs_handleInputDetection_map_iff fun detections n => ?_
      rw [StreamingClassificationWithGenTask.inputResponse,
        ClassificationWithGenTask.inputResponse]
      cases Failure.unwrap (detections.mapM TokenClassificationResult.ofDetection) <;> rfl
    refine (runs_guarded_iff_withheldRun rfl hw).trans ?_
    rw [hvalid]
    refine (withheldRun_map_iff hmap).trans (exists_congr fun r => and_congr_left' ?_)
    exact (runs_guarded_iff_withheldRun rfl hw).symm
  | chatCompletions task =>
    refine StreamedTask.refusal_iff_of_map (fun _ => rfl) ?_
    intro r'
    have hmap : ∀ {w r'}, Runs (task.streamedInputDetection ctx) w r' ↔
        ∃ r, Runs (task.inputDetection ctx) w r ∧
          r' = r.map (Option.map fun a => .flagged (.chatCompletion (streamedChunk a))) := by
      intro w r'
      rw [ChatCompletionsDetectionTask.streamedInputDetection,
        ChatCompletionsDetectionTask.inputDetection]
      cases task.lastMessage with
      | error failure => simp [runs_bind_iff, Except.map]
      | ok message => exact runs_handleInputDetection_map_iff (fun _ _ => by rfl)
    refine (runs_guarded_iff_withheldRun rfl hw).trans ?_
    refine (withheldRun_map_iff hmap).trans (exists_congr fun r => and_congr_left' ?_)
    exact (runs_guarded_iff_withheldRun rfl hw).symm
  | completions task =>
    refine StreamedTask.refusal_iff_of_map (fun _ => rfl) ?_
    intro r'
    have hmap : ∀ {w r'}, Runs (task.streamedInputDetection ctx) w r' ↔
        ∃ r, Runs (task.inputDetection ctx) w r ∧
          r' = r.map (Option.map fun a => .flagged (.completion a)) :=
      runs_handleInputDetection_map_iff (fun _ _ => by rfl)
    refine (runs_guarded_iff_withheldRun rfl hw).trans ?_
    refine (withheldRun_map_iff hmap).trans (exists_congr fun r => and_congr_left' ?_)
    exact (runs_guarded_iff_withheldRun rfl hw).symm

theorem streamed_refusal_iff_regex :
    ∃ w message response, Runs (regexGeneration.opening regexContext) w (.ok (.flagged message)) ∧
      Runs (regexGeneration.unary.handle regexContext) w (.ok response) ∧
      response.streamed = some message := by
  have hopening : Runs (regexGeneration.opening regexContext) [_, _]
      (Except.ok (Opened.flagged _)) :=
    runs_respond (servicesFinding [inputGreeting]) (regexGeneration.opening regexContext)
  have houtput : regexGeneration.OutputIsChunked regexContext :=
    fun id hid => absurd hid List.not_mem_nil
  obtain ⟨response, hhandle, hstreamed⟩ :=
    ((streamed_refusal_iff houtput fun e he => by
      rcases List.mem_pair.mp he with rfl | rfl <;> rfl).2 _).mp hopening
  exact ⟨_, _, response, hopening, hhandle, hstreamed⟩

end GuardrailsOrchestrator
