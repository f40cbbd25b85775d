import GuardrailsOrchestrator.Gateway.Screening
import GuardrailsOrchestrator.Validation

/-!
# The server

What the server makes of a request whose body has been read: the request is checked, the headers
are filtered, and a task is handed to its handler. What a handler fails with is not what the client
is told: only a few errors of services are passed on, the others become a general one.

The endpoints that answer with a stream are not part of this.

## Main definitions

* `ServerError.ofError` — what a client is told
* `UnaryRequest.serve` — a request, from the client's headers to the response
-/

namespace GuardrailsOrchestrator

open Calls

/-! ### Errors -/

/-- The status for an error of a service. That of a gRPC service has been translated. -/
def ClientError.statusCode : ClientError → ℕ
  | .grpc code _ => code
  | .http code _ => code
  | .modelNotFound _ => 404

/-- Codes of gRPC. -/
inductive GrpcCode where
  | ok | cancelled | unknown | invalidArgument | deadlineExceeded | notFound | alreadyExists
  | permissionDenied | resourceExhausted | failedPrecondition | aborted | outOfRange | unimplemented
  | internal | unavailable | dataLoss | unauthenticated
  deriving DecidableEq

def grpcToHttpCode : GrpcCode → ℕ
  | .invalidArgument => 400
  | .internal => 500
  | .notFound => 404
  | .deadlineExceeded => 408
  | .unimplemented => 501
  | .unauthenticated => 401
  | .permissionDenied => 403
  | .unavailable => 503
  | .ok => 200
  | _ => 500

/-- The error for a failed gRPC call. -/
def ClientError.ofStatus (code : GrpcCode) (message : String) : ClientError :=
  .grpc (grpcToHttpCode code) message

def ClientError.display : ClientError → String
  | .grpc _ message => message
  | .http _ message => message
  | .modelNotFound modelId => s!"model not found: {modelId}"

/-- A request to a service has failed. -/
def displayRequestFailed (request id : String) (error : ClientError) : String :=
  let message := error.display
  s!"{request} request failed for `{id}`: {message}"

def Error.display : Error → String
  | .client error => error.display
  | .detectorNotFound id => s!"detector `{id}` not found"
  | .chunkerNotFound id => s!"chunker `{id}` not found"
  | .detectorRequestFailed id error => displayRequestFailed "detector" id error
  | .chunkerRequestFailed id error => displayRequestFailed "chunker" id error
  | .generateRequestFailed id error => displayRequestFailed "generate" id error
  | .chatCompletionRequestFailed id error => displayRequestFailed "chat completion" id error
  | .completionRequestFailed id error => displayRequestFailed "completion" id error
  | .tokenizeRequestFailed id error => displayRequestFailed "tokenize" id error
  | .validation message => s!"validation error: {message}"
  | .other message => message
  | .cancelled => "cancelled"
  | .jsonError message => s!"json deserialization error: {message}"

def ValidationError.display : ValidationError → String
  | .required field => s!"`{field}` is required"
  | .invalid message => message

/-- The error that a client is told. -/
structure ServerError where
  code : ℕ
  details : String
  deriving DecidableEq

namespace ServerError

/-- The general error. -/
def unexpected : ServerError := ⟨500, "unexpected error occurred while processing request"⟩

/-- The statuses of services that are passed on. -/
def passedOn : List ℕ := [400, 422, 404, 503]

/-- An error of a service is passed on, with its text, or becomes the general one. -/
def ofClientError (value : Error) (error : ClientError) : ServerError :=
  if error.statusCode ∈ passedOn then ⟨error.statusCode, value.display⟩ else unexpected

def ofError (value : Error) : ServerError :=
  match value with
  | .detectorNotFound _ | .chunkerNotFound _ => ⟨404, value.display⟩
  | .detectorRequestFailed _ error | .chunkerRequestFailed _ error
  | .generateRequestFailed _ error | .chatCompletionRequestFailed _ error
  | .completionRequestFailed _ error | .tokenizeRequestFailed _ error
  | .client error => ofClientError value error
  | .jsonError message | .validation message => ⟨422, message⟩
  | .other _ | .cancelled => unexpected

def ofValidationError (value : ValidationError) : ServerError := ⟨422, value.display⟩

end ServerError

/-- How a request can fail: with an error for the client, or with a panic, after which the client
gets no response. -/
inductive ServerFailure where
  | error (error : ServerError)
  | panic
  deriving DecidableEq

def ServerFailure.ofFailure : Failure → ServerFailure
  | .error e => .error (.ofError e)
  | .panic => .panic

/-! ### Requests -/

/-- A request to one of the endpoints that answer with one response. -/
inductive UnaryRequest where
  | classificationWithGen (request : GuardrailsHttpRequest)
    (textGenParameters : Option GuardrailsTextGenerationParameters)
  | chatCompletions (request : ChatCompletionsRequest)
  | completions (request : CompletionsRequest)
  | generationWithDetection (request : GenerationWithDetectionHttpRequest)
    (textGenParameters : Option GuardrailsTextGenerationParameters)
  | textContent (request : TextContentDetectionHttpRequest)
  | chat (request : ChatDetectionHttpRequest) (tools : List Tool)
  | contextDocs (request : ContextDocsHttpRequest) (contextType : ContextType)
  | detectionOnGeneration (request : DetectionOnGeneratedHttpRequest)

structure ServerState where
  gateway : GatewayContext
  /-- How letters beyond ASCII are changed to lower case. -/
  unicodeLower : String → ℕ → List Char
  passthroughHeaders : Finset String
  rewriteForwardedAccessHeader : Bool := false

namespace UnaryRequest

def validate : UnaryRequest → Except ValidationError Unit
  | .classificationWithGen request _ => request.validate
  | .chatCompletions request => request.validate
  | .completions request => request.validate
  | .generationWithDetection request _ => request.validate
  | .textContent request => request.validate
  | .chat request _ => request.validateForText
  | .contextDocs request _ => request.validate
  | .detectionOnGeneration request => request.validate

/-- The task for a request. -/
def task (headers : HeaderMap) : UnaryRequest → UnaryTask
  | .classificationWithGen request textGenParameters =>
    .classificationWithGen (.new request textGenParameters headers)
  | .chatCompletions request => .chatCompletions ⟨request, headers⟩
  | .completions request => .completions ⟨request, headers⟩
  | .generationWithDetection request textGenParameters =>
    .generationWithDetection (.new request textGenParameters headers)
  | .textContent request => .textContent (.new request headers)
  | .chat request tools => .chat (.new request tools headers)
  | .contextDocs request contextType => .contextDocs (.new request contextType headers)
  | .detectionOnGeneration request => .detectionOnGeneration (.new request headers)

/-- The headers of a request that are passed on. -/
def passedHeaders (state : ServerState) (headers : HeaderMap) : HeaderMap :=
  filterHeaders state.unicodeLower state.passthroughHeaders headers
    state.rewriteForwardedAccessHeader

/-- Check a request, and hand it to its handler. -/
def serve (state : ServerState) (headers : HeaderMap) (request : UnaryRequest) :
    Program Call Call.Answer ServerFailure UnaryResponse := do
  Program.ofExcept (request.validate.mapError fun e => .error (.ofValidationError e))
  ((request.task (passedHeaders state headers)).handle state.gateway).mapError .ofFailure

end UnaryRequest

/-! ### Runs -/

section Runs

variable {state : ServerState} {headers : HeaderMap} {request : UnaryRequest} {w : List CallEvent}
  {result : Except ServerFailure UnaryResponse}

/-- A request that is valid goes as its task. -/
theorem UnaryRequest.runs_serve_iff (hvalid : request.validate = .ok ()) :
    Runs (request.serve state headers) w result ↔ ∃ result',
      Runs ((request.task (passedHeaders state headers)).handle state.gateway) w result' ∧
        result = result'.mapError .ofFailure := by
  rw [serve, hvalid, runs_bind_iff, ← runs_mapError_iff]
  simp only [Except.mapError, runs_ofExcept_iff]
  constructor
  · rintro (⟨e, ⟨-, hfalse⟩, -⟩ | ⟨-, w₁, w₂, rfl, ⟨rfl, -⟩, hrun⟩)
    · simp at hfalse
    · exact hrun
  · exact fun hrun => Or.inr ⟨(), [], w, rfl, ⟨rfl, trivial⟩, hrun⟩

/-- A request is rejected, or it goes as its task. -/
theorem UnaryRequest.runs_serve (h : Runs (request.serve state headers) w result) :
    (∃ e, request.validate = .error e ∧ w = [] ∧ result = .error (.error (.ofValidationError e))) ∨
      request.validate = .ok () ∧ ∃ result',
        Runs ((request.task (passedHeaders state headers)).handle state.gateway) w result' ∧
        result = result'.mapError .ofFailure := by
  cases hvalid : request.validate with
  | error e =>
    rw [serve, runs_bind_iff, hvalid] at h
    simp only [Except.mapError, runs_ofExcept_iff] at h
    rcases h with ⟨failure, ⟨rfl, hfailure⟩, rfl⟩ | ⟨u, w₁, w₂, -, ⟨-, hfalse⟩, -⟩
    · exact Or.inl ⟨e, rfl, rfl, congrArg _ (Except.error.inj hfailure)⟩
    · simp at hfalse
  | ok _ => exact Or.inr ⟨rfl, (runs_serve_iff hvalid).mp h⟩

end Runs

end GuardrailsOrchestrator
