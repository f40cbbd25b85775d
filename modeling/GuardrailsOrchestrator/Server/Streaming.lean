import GuardrailsOrchestrator.Gateway.Forwarding
import GuardrailsOrchestrator.Server.Exposure

/-!
# The endpoints that stream

What the server makes of the items of a streamed response. A client gets them as server-sent events,
errors among them, after the status of the response has been sent.

## Main definitions

* `StreamedRequest.Served` — a request, from the client's headers to the events received so far

## Main results

* `served_stream_headers_confined` — the headers of the calls up to the stream of the model
* `error_event_traced` — the errors of all streamed responses
-/

namespace GuardrailsOrchestrator

open Calls ResponseProtocol

/-- A request to one of the endpoints that can stream what a language model generates. -/
inductive StreamedRequest where
  | classificationWithGen (request : GuardrailsHttpRequest)
    (textGenParameters : Option GuardrailsTextGenerationParameters)
  | chatCompletions (request : ChatCompletionsRequest)
  | completions (request : CompletionsRequest)

/-- A server-sent event. -/
inductive SseEvent where
  | message (message : StreamedMessage)
  | error (error : ServerError)
  /-- The text `[DONE]`. -/
  | done

def SseEvent.ofItem : Item Error StreamedMessage → SseEvent
  | .ok (some m) => .message m
  | .ok none => .done
  | .error e => .error (.ofError e)

/-- What a client has received: a response with the status of an error, or events. -/
inductive StreamedResponse where
  | failed (error : ServerError)
  | events (events : List SseEvent)

/-- The errors that a client has been told. -/
def StreamedResponse.errors : StreamedResponse → List ServerError
  | .failed e => [e]
  | .events received => received.filterMap fun
    | .error e => some e
    | _ => none

namespace StreamedRequest

def validate : StreamedRequest → Except ValidationError Unit
  | .classificationWithGen request _ => request.validate
  | .chatCompletions request => request.validate
  | .completions request => request.validate

/-- Only one of the endpoints always streams. -/
def isStreamed : StreamedRequest → Bool
  | .classificationWithGen _ _ => true
  | .chatCompletions request => request.stream == some true
  | .completions request => request.stream == some true

/-- The task for a request. -/
def task (headers : HeaderMap) : StreamedRequest → StreamedTask
  | .classificationWithGen request textGenParameters =>
    .classificationWithGen (.new request textGenParameters headers)
  | .chatCompletions request => .chatCompletions ⟨request, headers⟩
  | .completions request => .completions ⟨request, headers⟩

/-- The response to a request that is not valid. The endpoint that always streams has only events
for that. -/
def rejection (error : ServerError) : StreamedRequest → StreamedResponse
  | .classificationWithGen _ _ => .events [.error error]
  | _ => .failed error

/-- For a request these calls have been made, up to the stream of the model, and this has been
received. -/
inductive Served (state : ServerState) (headers : HeaderMap) (request : StreamedRequest) :
    List CallEvent → StreamedResponse → Prop
  | rejected {error : ValidationError} (hvalid : request.validate = .error error) :
    Served state headers request [] (request.rejection (.ofValidationError error))
  | streamed {w : List CallEvent} {sent : List (Item Error StreamedMessage)}
    (hvalid : request.validate = .ok ()) (hstream : request.isStreamed = true)
    (hrun : (request.task (UnaryRequest.passedHeaders state headers)).Run state.gateway w sent) :
    Served state headers request w (.events (sent.map SseEvent.ofItem))

end StreamedRequest

section Served

variable {state : ServerState} {headers : HeaderMap} {request : StreamedRequest}
  {w : List CallEvent} {response : StreamedResponse}

/-- The handlers that stream call with the headers of their tasks, too. -/
theorem StreamedTask.makes_carriesHeaders (ctx : GatewayContext) (task : StreamedTask) :
    Makes (CarriesHeaders task.unary.headers) (task.opening ctx) := by
  cases task with
  | classificationWithGen task =>
    refine makes_guarded ?_ ?_ fun _ => makes_pure _
    · exact makes_handleInputDetection carriesHeaders_detect
        (makes_withClient (makes_ask fun _ => rfl))
    · exact makes_withClient (makes_ask fun _ => rfl)
  | chatCompletions task =>
    refine makes_guarded ?_ ?_ fun _ => makes_pure _
    · exact (makes_ofExcept _).bind fun _ => makes_handleInputDetection carriesHeaders_detect
        (makes_withClient (makes_ask fun _ => rfl))
    · exact makes_withClient (makes_ask fun _ => rfl)
  | completions task =>
    refine makes_guarded ?_ ?_ fun _ => makes_pure _
    · exact makes_handleInputDetection carriesHeaders_detect
        (makes_withClient (makes_ask fun _ => rfl))
    · exact makes_withClient (makes_ask fun _ => rfl)

theorem StreamedTask.Run.exists_runs {ctx : GatewayContext} {task : StreamedTask}
    {sent : List (Item Error StreamedMessage)} (h : task.Run ctx w sent) :
    ∃ result, Runs (task.opening ctx) w result := by
  cases h with
  | failed hopening _ | flagged hopening _ | streamed hopening _ => exact ⟨_, hopening⟩

/-- A prompt to examine, whose completion is streamed. -/
def streamedPrompt : StreamedRequest :=
  .completions { promptMaskRequest (0, 2) with stream := some true }

/-- **Confined headers of streamed requests.** Whatever the services answer, up to the stream of
the model their clients are handed only headers that may pass, with values of the client, apart from
the type of the content for an OpenAI server and the bearer token. If only headers that may not pass
are different, the same calls can be made, with the same events. -/
theorem served_stream_headers_confined (hserved : request.Served state headers w response) :
    (∀ event ∈ w, SentHeaders state headers event.1) ∧
      ∀ headers', AgreeInOrder state.passthroughHeaders headers headers' →
        request.Served state headers' w response := by
  constructor
  · intro event hevent
    cases hserved with
    | rejected _ => simp at hevent
    | streamed _ _ hrun =>
      obtain ⟨result, hopening⟩ := hrun.exists_runs
      have htaskHeaders : (request.task (UnaryRequest.passedHeaders state headers)).unary.headers =
          UnaryRequest.passedHeaders state headers := by
        cases request <;> rfl
      have hcarries := StreamedTask.makes_carriesHeaders _ _ _ _ hopening event hevent
      rw [htaskHeaders] at hcarries
      exact hcarries.sentHeaders
  · intro headers' hagree
    -- the headers of a request have an influence only through those that are kept
    have hsame : UnaryRequest.passedHeaders state headers =
        UnaryRequest.passedHeaders state headers' := hagree.filterHeaders
    cases hserved with
    | rejected hvalid => exact .rejected hvalid
    | streamed hvalid hstream hrun => exact .streamed hvalid hstream (hsame ▸ hrun)

theorem served_stream_headers_confined_token :
    ∃ w response, streamedPrompt.Served tokenServer HeadersExample.headers w response ∧
      w.length = 2 ∧
        ∀ event ∈ w, SentHeaders tokenServer HeadersExample.headers event.1 := by
  have hopening : Runs ((streamedPrompt.task (UnaryRequest.passedHeaders tokenServer
      HeadersExample.headers)).opening tokenServer.gateway) [_, _] (Except.ok (.flagged _)) :=
    runs_respond (servicesFinding [inputGreeting]) _
  have hserved : streamedPrompt.Served tokenServer HeadersExample.headers [_, _] _ :=
    .streamed rfl rfl (.flagged hopening (List.prefix_refl _))
  exact ⟨_, _, hserved, rfl, (served_stream_headers_confined hserved).1⟩

end Served

/-! ### Errors -/

section Traced

variable {ctx : GatewayContext} {w : List CallEvent}

/-- The handler of the task rejects it. -/
def StreamedTask.Rejects (ctx : GatewayContext) (task : StreamedTask) : Error → Prop :=
  RejectedFor ctx.config (task.validateDetectors ctx) task.unary.screened

/-- Every failure before a stream is there is traced. -/
theorem StreamedTask.traced_of_runs {task : StreamedTask} {failure : Failure}
    (hrun : Runs (task.opening ctx) w (.error failure)) :
    Traced (task.Rejects ctx) w failure := by
  -- the detectors are checked before anything is called
  have hvalidated : ∀ e, task.validateDetectors ctx = .error e → task.Rejects ctx e := by
    intro e h
    refine .detectors h ?_
    cases task with
    | classificationWithGen task | chatCompletions task | completions task =>
      exact detectorsError_of_bind detectorsError_of_validateDetectors
        detectorsError_of_validateDetectors h
  -- opening a stream ends where processing it begins
  have houtput : ∀ stream : ModelStream, FailsBy Hidden FailedWith
      (if (IterMap.empty : IterMap DetectorId DetectorParams).isEmpty then
        pure (.stream stream) else (pure (.stream stream) : Handler Opened)) :=
    fun _ => failsBy_ofExcept fun _ he => by cases he
  cases task with
  | classificationWithGen task =>
    refine (guardedRun_of_runs hrun).traced hvalidated ?_ ?_ houtput
    · intro hinput
      refine (inputRun_of_runs hinput).traced ?_ ?_ ?_
      · exact fun e he => Or.inr (hidden_of_applyMasks he)
      · exact failsBy_withClient (failsBy_tokenize _ _ _)
      · exact fun detections n e => hidden_of_unwrap_bind
    · exact failsBy_withClient (failsBy_askMap fun _ _ h => h)
  | chatCompletions task =>
    refine (guardedRun_of_runs hrun).traced hvalidated ?_ ?_ houtput
    · intro hinput
      refine (task.inputRun_of_runs_streamed hinput).traced ?_ ?_ ?_
      · intro e he
        cases hmessage : task.lastMessage with
        | error e' =>
          rw [hmessage] at he
          obtain rfl := Except.error.inj he
          exact Or.inl (task.rejectedFor_lastMessage hmessage)
        | ok message => simp [hmessage, Except.map] at he
      · exact failsBy_withClient (failsBy_ask fun _ _ h => Or.inr (failureOf_of_requestFailed h))
      · exact fun detections n e he => by cases he
    · exact failsBy_withClient (failsBy_askMap fun _ _ h => h)
  | completions task =>
    refine (guardedRun_of_runs hrun).traced hvalidated ?_ ?_ houtput
    · intro hinput
      refine (inputRun_of_runs hinput).traced ?_ ?_ ?_
      · exact fun e he => Or.inr (hidden_of_applyMasks he)
      · exact failsBy_withClient (failsBy_ask fun _ _ h => Or.inr (failureOf_of_requestFailed h))
      · exact fun detections n e he => by cases he
    · exact failsBy_withClient (failsBy_askMap fun _ _ h => h)

/-- The errors that a client is told are those of the items. -/
theorem exists_of_mem_errors {sent : List (Item Error StreamedMessage)} {e : ServerError}
    (h : e ∈ (StreamedResponse.events (sent.map SseEvent.ofItem)).errors) :
    ∃ error, .error error ∈ sent ∧ e = .ofError error := by
  obtain ⟨event, hevent, heq⟩ := List.mem_filterMap.mp h
  obtain ⟨item, hitem, rfl⟩ := List.mem_map.mp hevent
  rcases item with error | (_ | m)
  · exact ⟨error, hitem, (Option.some.inj heq).symm⟩
  · cases heq
  · cases heq

theorem StreamedTask.eq_of_error_mem_failureResponse {task : StreamedTask} {failure : Failure}
    {error : Error} (h : .error error ∈ task.failureResponse failure) : failure = .error error := by
  cases failure with
  | panic => simp [failureResponse] at h
  | error e => cases task <;> simp_all [failureResponse, completionSignal]

/-- **Errors among events.** Whatever the services answer and however the tasks that process the
stream are interleaved, an error that a client is told is the general one, or that of the check that
has rejected the request before anything was called, or it is that of one of the calls, or it comes
after the stream of the model has been opened. It has one of the statuses that are passed on. -/
theorem error_event_traced {state : ServerState} {headers : HeaderMap} {request : StreamedRequest}
    {response : StreamedResponse} {e : ServerError}
    (hserved : request.Served state headers w response) (hmem : e ∈ response.errors) :
    e = .unexpected ∨
      (w = [] ∧ RejectedWith request.validate
        ((request.task (UnaryRequest.passedHeaders state headers)).Rejects state.gateway) e) ∨
      (∃ event ∈ w, ∃ error, FailedWith event (.error error) ∧ e = .ofError error ∧
        e.code ∈ ServerError.passedOn) ∨
      ∃ answer stream, e.code ∈ ServerError.passedOn ∧
        ⟨(request.task (UnaryRequest.passedHeaders state headers)).generationCall, answer⟩ ∈ w ∧
        (request.task (UnaryRequest.passedHeaders state headers)).read answer = .ok stream := by
  cases hserved with
  | @rejected error hvalid =>
    obtain rfl : e = .ofValidationError error := by
      cases request <;> simpa [StreamedRequest.rejection, StreamedResponse.errors] using hmem
    exact Or.inr (Or.inl ⟨rfl, .server hvalid⟩)
  | streamed hvalid _ hrun =>
    obtain ⟨error, hsent, rfl⟩ := exists_of_mem_errors hmem
    cases hrun with
    | failed hopening hbegins =>
      obtain rfl := StreamedTask.eq_of_error_mem_failureResponse (hbegins.subset hsent)
      refine (StreamedTask.traced_of_runs hopening).exposed.imp_right (Or.imp ?_ Or.inl)
      rintro ⟨hnil, hrejects⟩
      exact ⟨hnil, .handler hvalid hrejects hrejects.code_mem⟩
    | flagged _ hbegins =>
      -- a message about the input comes without an error
      have hfalse := hbegins.subset hsent
      cases request <;> simp [StreamedRequest.task, StreamedTask.completionSignal] at hfalse
    | streamed hopening _ =>
      rcases ofError_eq_unexpected_or error with hunexpected | hcode
      · exact Or.inl hunexpected
      obtain ⟨w₁, answer, w₂, hw, -⟩ := StreamedTask.exists_generation_of_runs hopening (by
        rintro detections ⟨message, heq, -⟩
        cases heq)
      have hasked : ⟨(request.task (UnaryRequest.passedHeaders state headers)).generationCall,
          answer⟩ ∈ w := by
        simp [hw]
      have heq := (StreamedTask.eq_of_runs_opening hopening hasked).2
      obtain ⟨stream, hread, -⟩ := Except.map_eq_ok_iff.mp heq.symm
      exact Or.inr (Or.inr (Or.inr ⟨answer, stream, hcode, hasked, hread⟩))

theorem error_event_traced_unavailable :
    ∃ event, streamedPrompt.Served { tokenServer with passthroughHeaders := ∅ } .empty [event]
        (.events [.error ⟨503, "detector request failed for `regex`: busy"⟩, .done]) ∧
      ∃ error, FailedWith event (.error error) := by
  have hopening : Runs ((streamedPrompt.task (UnaryRequest.passedHeaders
      { tokenServer with passthroughHeaders := ∅ } .empty)).opening tokenServer.gateway) [_]
      (Except.error (.error (.detectorRequestFailed "regex" (.http 503 "busy")))) :=
    runs_respond servicesUnavailable _
  have hserved : streamedPrompt.Served { tokenServer with passthroughHeaders := ∅ } .empty [_]
      (.events (List.map SseEvent.ofItem
        [.error (.detectorRequestFailed "regex" (.http 503 "busy")), .ok none])) :=
    .streamed rfl rfl (.failed hopening (List.prefix_refl _))
  refine ⟨_, hserved, ?_⟩
  have hmem : (⟨503, "detector request failed for `regex`: busy"⟩ : ServerError) ∈
      (StreamedResponse.events (List.map SseEvent.ofItem
        [.error (.detectorRequestFailed "regex" (.http 503 "busy")), .ok none])).errors :=
    List.mem_singleton_self _
  rcases error_event_traced hserved hmem with
    hfalse | ⟨hfalse, -⟩ | ⟨event, hevent, error, hfailed, -⟩ | ⟨answer, stream, -, hasked, -⟩
  · simp [ServerError.unexpected] at hfalse
  · simp at hfalse
  · exact ⟨error, List.mem_singleton.mp hevent ▸ hfailed⟩
  · cases List.mem_singleton.mp hasked

end Traced

end GuardrailsOrchestrator
