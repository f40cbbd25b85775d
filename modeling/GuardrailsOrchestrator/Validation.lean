import GuardrailsOrchestrator.OpenAiClient.Requests
import GuardrailsOrchestrator.TextContents.Basic

/-!
# Validation of requests

The checks that the endpoints make of a request before they handle it. A detector may be
given a threshold among its parameters, which are arbitrary JSON values; most endpoints
check that it is a number, and where it is used, anything else is taken for the default.

## Main results

* `thresholdsHonoured_iff` — an accepted request has its thresholds honoured exactly when its
  endpoint checks them or they are all numbers
-/

namespace GuardrailsOrchestrator

/-- Why a request is rejected. -/
inductive ValidationError where
  | required (field : String)
  | invalid (message : String)
  deriving DecidableEq

/-- Rejects a request without a required field. -/
def requireField (isMissing : Bool) (field : String) : Except ValidationError Unit :=
  if isMissing then throw (.required field) else pure ()

/-! ### Parameters of detectors -/

/-- Whether a value is a number. -/
def Json.isNumber : Json → Bool
  | .number _ => true
  | _ => false

/-- Checks that a threshold is a number, if there is one. -/
def validateThreshold (modelId : DetectorId) (detectorParams : DetectorParams) :
    Except ValidationError Unit :=
  match detectorParams.get? thresholdParam with
  | some threshold =>
    if !threshold.isNumber then
      throw (.invalid s!"`threshold` parameter specified for model `{modelId}` must be a number")
    else pure ()
  | none => pure ()

/-- Checks the parameters of every detector. -/
def validateDetectorParams (models : IterMap DetectorId DetectorParams) :
    Except ValidationError Unit :=
  models.entries.forM fun (modelId, detectorParams) => validateThreshold modelId detectorParams

/-- Checks the parameters of detectors that a request need not have. -/
def validateOptionalParams (models : Option (IterMap DetectorId DetectorParams)) :
    Except ValidationError Unit :=
  match models with
  | some models => validateDetectorParams models
  | none => pure ()

/-! ### Requests -/

structure GuardrailsConfigInput where
  models : IterMap DetectorId DetectorParams
  masks : Option (List (ℕ × ℕ)) := none

structure GuardrailsConfigOutput where
  models : IterMap DetectorId DetectorParams

structure GuardrailsConfig where
  input : Option GuardrailsConfigInput := none
  output : Option GuardrailsConfigOutput := none

/-- A request for classification with text generation. -/
structure GuardrailsHttpRequest where
  modelId : String
  inputs : String
  guardrailConfig : Option GuardrailsConfig := none

namespace GuardrailsHttpRequest

variable (request : GuardrailsHttpRequest)

/-- The masks must lie in the text, whose length is counted in bytes here, and none may be
empty. -/
def validateMasks : Except ValidationError Unit :=
  match request.guardrailConfig.bind fun config => config.input.bind (·.masks) with
  | some inputMasks =>
    if !inputMasks.all fun (start, stop) =>
        start ≤ request.inputs.utf8ByteSize && stop ≤ request.inputs.utf8ByteSize && start < stop
    then throw (.invalid "invalid masks") else pure ()
  | none => pure ()

def validate : Except ValidationError Unit := do
  requireField request.modelId.isEmpty "model_id"
  requireField request.inputs.isEmpty "inputs"
  request.validateMasks
  validateOptionalParams ((request.guardrailConfig.bind (·.input)).map (·.models))
  validateOptionalParams ((request.guardrailConfig.bind (·.output)).map (·.models))

end GuardrailsHttpRequest

/-- A request for detection on a text. -/
structure TextContentDetectionHttpRequest where
  content : String
  detectors : IterMap DetectorId DetectorParams

def TextContentDetectionHttpRequest.validate (request : TextContentDetectionHttpRequest) :
    Except ValidationError Unit := do
  requireField request.content.isEmpty "content"
  requireField request.detectors.isEmpty "detectors"
  validateDetectorParams request.detectors

/-- A request for text generation with detection. -/
structure GenerationWithDetectionHttpRequest where
  modelId : String
  prompt : String
  detectors : IterMap DetectorId DetectorParams

def GenerationWithDetectionHttpRequest.validate (request : GenerationWithDetectionHttpRequest) :
    Except ValidationError Unit := do
  requireField request.modelId.isEmpty "model_id"
  requireField request.prompt.isEmpty "prompt"
  requireField request.detectors.isEmpty "detectors"
  validateDetectorParams request.detectors

/-- A request for detection on a text with context. -/
structure ContextDocsHttpRequest where
  detectors : IterMap DetectorId DetectorParams
  content : String
  context : List String

def ContextDocsHttpRequest.validate (request : ContextDocsHttpRequest) :
    Except ValidationError Unit := do
  requireField request.detectors.isEmpty "detectors"
  requireField request.content.isEmpty "content"
  requireField request.context.isEmpty "context"
  validateDetectorParams request.detectors

/-- A request for detection on a chat. -/
structure ChatDetectionHttpRequest where
  detectors : IterMap DetectorId DetectorParams
  messages : List Message

namespace ChatDetectionHttpRequest

variable (request : ChatDetectionHttpRequest)

def validate : Except ValidationError Unit := do
  requireField request.detectors.isEmpty "detectors"
  requireField request.messages.isEmpty "messages"

/-- All parts of a content must be texts. -/
def validateContentType : Content → Except ValidationError Unit
  | .array parts => parts.forM fun part =>
    if part.type ≠ .text then throw (.invalid "Only content of type text is allowed") else pure ()
  | .text _ => pure ()

/-- A message may be without content only if it has tool calls. -/
def validateMessages : Except ValidationError Unit :=
  request.messages.forM fun message =>
    match message.content with
    | some content => validateContentType content
    | none =>
      if message.toolCalls.isNone then throw (.invalid "Message content cannot be empty")
      else pure ()

/-- The check of the endpoint. -/
def validateForText : Except ValidationError Unit := do
  request.validate
  request.validateMessages
  validateDetectorParams request.detectors

end ChatDetectionHttpRequest

/-- A request for detection on a generated text. -/
structure DetectionOnGeneratedHttpRequest where
  prompt : String
  generatedText : String
  detectors : IterMap DetectorId DetectorParams

def DetectionOnGeneratedHttpRequest.validate (request : DetectionOnGeneratedHttpRequest) :
    Except ValidationError Unit := do
  requireField request.prompt.isEmpty "prompt"
  requireField request.generatedText.isEmpty "generated_text"
  requireField request.detectors.isEmpty "detectors"
  validateDetectorParams request.detectors

/-- A message of a stream of texts on which detection is requested. -/
structure StreamingContentDetectionRequest where
  detectors : Option (IterMap DetectorId DetectorParams)
  content : String

/-- The parameters of the detectors are not looked at. -/
def StreamingContentDetectionRequest.validate (request : StreamingContentDetectionRequest) :
    Except ValidationError Unit :=
  if request.content.isEmpty then throw (.invalid "`content` cannot be empty") else pure ()

/-- The parameters of the detectors are not looked at. -/
def ChatCompletionsRequest.validate (request : ChatCompletionsRequest) :
    Except ValidationError Unit := do
  if request.model.isEmpty then throw (.invalid "`model` must not be empty")
  if request.messages.isEmpty then throw (.invalid "`messages` must not be empty")
  if !request.detectors.input.isEmpty then
    -- input detectors examine the last message only
    match request.messages.getLast? with
    | some message =>
      match message.content with
      | some (.array _) => throw (.invalid "Detection on array is not supported")
      | content =>
        if content.all (·.isEmpty) then
          throw (.invalid ("if input detectors are provided, `content` must not be empty "
            ++ "on last message"))
    | none => pure ()

/-- The parameters of the detectors are not looked at. -/
def CompletionsRequest.validate (request : CompletionsRequest) :
    Except ValidationError Unit := do
  if request.model.isEmpty then throw (.invalid "`model` must not be empty")
  if !request.detectors.input.isEmpty && request.prompt.isEmpty then
    throw (.invalid "`prompt` must not be empty when input detectors are provided")

/-! ### All endpoints -/

/-- A request of any endpoint with detectors. -/
inductive DetectionRequest where
  | guardrails (request : GuardrailsHttpRequest)
  | textContent (request : TextContentDetectionHttpRequest)
  | generationWithDetection (request : GenerationWithDetectionHttpRequest)
  | contextDocs (request : ContextDocsHttpRequest)
  | chatDetection (request : ChatDetectionHttpRequest)
  | detectionOnGenerated (request : DetectionOnGeneratedHttpRequest)
  | streamingContent (request : StreamingContentDetectionRequest)
  | chatCompletions (request : ChatCompletionsRequest)
  | completions (request : CompletionsRequest)

namespace DetectionRequest

/-- The check of the request's endpoint. -/
def validate : DetectionRequest → Except ValidationError Unit
  | .guardrails request => request.validate
  | .textContent request => request.validate
  | .generationWithDetection request => request.validate
  | .contextDocs request => request.validate
  | .chatDetection request => request.validateForText
  | .detectionOnGenerated request => request.validate
  | .streamingContent request => request.validate
  | .chatCompletions request => request.validate
  | .completions request => request.validate

/-- The detectors of a request, for its input and its output. -/
def detectorMaps : DetectionRequest → List (IterMap DetectorId DetectorParams)
  | .guardrails request =>
    (request.guardrailConfig.bind (·.input)).toList.map (·.models) ++
      (request.guardrailConfig.bind (·.output)).toList.map (·.models)
  | .textContent request => [request.detectors]
  | .generationWithDetection request => [request.detectors]
  | .contextDocs request => [request.detectors]
  | .chatDetection request => [request.detectors]
  | .detectionOnGenerated request => [request.detectors]
  | .streamingContent request => request.detectors.toList
  | .chatCompletions request => [request.detectors.input, request.detectors.output]
  | .completions request => [request.detectors.input, request.detectors.output]

/-- Whether the endpoint of a request checks the parameters of detectors. -/
def checksThresholds : DetectionRequest → Bool
  | .streamingContent _ => false
  | .chatCompletions _ => false
  | .completions _ => false
  | _ => true

/-- The values given for thresholds. -/
def thresholds (request : DetectionRequest) : List Json :=
  request.detectorMaps.flatMap fun detectors =>
    detectors.entries.filterMap fun e => e.2.get? thresholdParam

/-- Wherever a threshold is given, it is the one that is used. -/
def ThresholdsHonoured (request : DetectionRequest) : Prop :=
  ∀ detectors ∈ request.detectorMaps, ∀ e ∈ detectors.entries, ∀ value,
    e.2.get? thresholdParam = some value → (popThreshold e.2).1.map Json.number = some value

end DetectionRequest

/-! ### Thresholds -/

/-- A threshold that is a floating-point number is used, and nothing else is. -/
theorem popThreshold_eq_some_iff {params : DetectorParams} {value : Json}
    (h : params.get? thresholdParam = some value) :
    (popThreshold params).1.map Json.number = some value ↔ value.isF64 = true := by
  rw [popThreshold, h, Option.bind_some]
  exact Json.map_asF64_eq_some_iff

theorem Json.isNumber_of_isF64 {value : Json} (h : value.isF64 = true) : value.isNumber = true := by
  cases value with
  | number q => rfl
  | _ => simp [isF64] at h

theorem validateThreshold_eq_ok_iff {modelId : DetectorId} {detectorParams : DetectorParams} :
    validateThreshold modelId detectorParams = .ok () ↔
      ∀ value, detectorParams.get? thresholdParam = some value → value.isNumber = true := by
  rw [validateThreshold]
  cases detectorParams.get? thresholdParam with
  | none => simp [pure, Except.pure]
  | some threshold =>
    simp only [Except.ite_throw_eq_ok_iff, Option.some_inj, forall_eq']
    simp [pure, Except.pure]

theorem validateDetectorParams_eq_ok_iff {models : IterMap DetectorId DetectorParams} :
    validateDetectorParams models = .ok () ↔ ∀ e ∈ models.entries, ∀ value,
      e.2.get? thresholdParam = some value → value.isNumber = true := by
  rw [validateDetectorParams, Except.forM_eq_ok_iff]
  exact forall₂_congr fun e _ => validateThreshold_eq_ok_iff

namespace DetectionRequest

variable {request : DetectionRequest}

theorem forall_mem_thresholds {p : Json → Prop} : (∀ value ∈ request.thresholds, p value) ↔
    ∀ detectors ∈ request.detectorMaps, ∀ e ∈ detectors.entries, ∀ value,
      e.2.get? thresholdParam = some value → p value := by
  simp only [thresholds, List.mem_flatMap, List.mem_filterMap]
  constructor
  · intro h detectors hdetectors e he value hvalue
    exact h value ⟨detectors, hdetectors, e, he, hvalue⟩
  · rintro h value ⟨detectors, hdetectors, e, he, hvalue⟩
    exact h detectors hdetectors e he value hvalue

theorem thresholdsHonoured_iff_isF64 :
    request.ThresholdsHonoured ↔ ∀ value ∈ request.thresholds, value.isF64 = true := by
  rw [forall_mem_thresholds]
  refine forall₂_congr fun detectors _ => forall₂_congr fun e _ => forall₂_congr fun value h => ?_
  exact popThreshold_eq_some_iff h

/-- Where thresholds are checked, an accepted request passes the check for all its
detectors. -/
theorem validateDetectorParams_of_validate (hchecks : request.checksThresholds = true)
    (h : request.validate = .ok ()) :
    ∀ detectors ∈ request.detectorMaps, validateDetectorParams detectors = .ok () := by
  cases request with
  | guardrails request =>
    obtain ⟨-, -, h⟩ := Except.bind_eq_ok_iff.mp h
    obtain ⟨-, -, h⟩ := Except.bind_eq_ok_iff.mp h
    obtain ⟨-, -, h⟩ := Except.bind_eq_ok_iff.mp h
    obtain ⟨_, hinput, houtput⟩ := Except.bind_eq_ok_iff.mp h
    intro detectors hdetectors
    simp only [detectorMaps, List.mem_append, List.mem_map, Option.mem_toList] at hdetectors
    rcases hdetectors with ⟨input, hsome, rfl⟩ | ⟨output, hsome, rfl⟩
    · rwa [hsome] at hinput
    · rwa [hsome] at houtput
  | textContent request | generationWithDetection request | contextDocs request
  | chatDetection request | detectionOnGenerated request =>
    -- the check of the parameters comes last
    intro detectors hdetectors
    obtain rfl := List.mem_singleton.mp hdetectors
    repeat obtain ⟨-, -, h⟩ := Except.bind_eq_ok_iff.mp h
    exact h
  | streamingContent request | chatCompletions request | completions request =>
    simp [checksThresholds] at hchecks

end DetectionRequest

/-- **Thresholds.** An accepted request has its thresholds honoured exactly when its endpoint
checks them or they are all numbers, and no number among them is an integer that a floating-point
number cannot be. -/
theorem thresholdsHonoured_iff {request : DetectionRequest} (h : request.validate = .ok ()) :
    request.ThresholdsHonoured ↔
      (request.checksThresholds = true ∨ ∀ value ∈ request.thresholds, value.isNumber = true) ∧
        ∀ value ∈ request.thresholds, value.isNumber = true → value.isF64 = true := by
  rw [DetectionRequest.thresholdsHonoured_iff_isF64]
  constructor
  · intro hF64
    exact ⟨Or.inr fun value hvalue => Json.isNumber_of_isF64 (hF64 value hvalue),
      fun value hvalue _ => hF64 value hvalue⟩
  · rintro ⟨hchecks, hF64⟩ value hvalue
    apply hF64 value hvalue
    -- where the thresholds are checked, an accepted request has numbers only
    rcases hchecks with hchecks | hnumbers
    · revert value
      rw [DetectionRequest.forall_mem_thresholds]
      intro detectors hdetectors
      exact validateDetectorParams_eq_ok_iff.mp
        (DetectionRequest.validateDetectorParams_of_validate hchecks h detectors hdetectors)
    · exact hnumbers value hvalue

/-- A chat completions request with a threshold for its output detector. -/
def thresholdRequest (threshold : Json) : DetectionRequest :=
  .chatCompletions
    { model := "granite"
      messages := [{ content := some (.text "Hi") }]
      detectors :=
        { output := ⟨[("hap", OrderedMap.empty.insert thresholdParam threshold)], by simp⟩ } }

theorem thresholdsHonoured_iff_number :
    (thresholdRequest (.number 1)).validate = .ok () ∧
      (thresholdRequest (.number 1)).ThresholdsHonoured := by
  have hvalid : (thresholdRequest (.number 1)).validate = .ok () := rfl
  exact ⟨hvalid, (thresholdsHonoured_iff hvalid).mpr ⟨Or.inr (by decide), by decide⟩⟩

/-- A threshold that is a string is accepted and then ignored. -/
theorem not_thresholdsHonoured_string :
    (thresholdRequest (.string "0.9")).validate = .ok () ∧
      ¬ (thresholdRequest (.string "0.9")).ThresholdsHonoured := by
  refine ⟨rfl, ?_⟩
  intro h
  have hhonoured := h _ (List.mem_cons_of_mem _ List.mem_cons_self) _ List.mem_cons_self
    (.string "0.9") (by decide)
  revert hhonoured
  decide

end GuardrailsOrchestrator
