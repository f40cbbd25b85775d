import GuardrailsOrchestrator.Gateway.Output
import GuardrailsOrchestrator.Server.Basic

/-!
# What passes between clients and services

Of the headers of a client, services get those that are configured, whatever they answer, and
nothing else of the headers has an influence on what is called. Of the errors of services, clients
get those with one of a few statuses.

## Main results

* `served_headers_confined` — the headers of all calls for a request
* `error_response_traced` — the errors of all requests
-/

namespace GuardrailsOrchestrator

open Calls UnaryTask

/-! ### Headers -/

/-- Whether the service is an OpenAI server. -/
def Operation.isOpenai : Operation → Bool
  | .tokenizeOpenai _ _ | .chatCompletion _ | .completion _ | .chatCompletionStream _
  | .completionStream _ => true
  | _ => false

/-- A call has the headers of its task. Calls to OpenAI servers add the type of their content. -/
def CarriesHeaders (headers : HeaderMap) (event : CallEvent) : Prop :=
  event.1.headers =
    if event.1.operation.isOpenai then withJsonContentType headers else headers

section Headers

variable {headers : HeaderMap}

theorem makes_guarded {G R : Type} {P : CallEvent → Prop} {validated : Except Error Unit}
    {inputDetectors outputDetectors : IterMap DetectorId DetectorParams}
    {inputDetection : Handler (Option R)} {generation : Handler G}
    {outputDetection : G → Handler R} {withoutDetection : G → R}
    (hinput : Makes P inputDetection) (hgeneration : Makes P generation)
    (houtput : ∀ g, Makes P (outputDetection g)) :
    Makes P (guarded validated inputDetectors outputDetectors inputDetection generation
      outputDetection withoutDetection) := by
  intro w result hrun event hevent
  -- the calls of a run are those of its parts
  cases guardedRun_of_runs hrun with
  | rejected _ => simp at hevent
  | inputFailed _ hfailed => exact hinput w _ hfailed event hevent
  | flagged _ hflagged => exact hinput w _ hflagged event hevent
  | @ungenerated w₁ w₂ failure hscreen hfailed =>
    rcases List.mem_append.mp hevent with hevent | hevent
    · exact forall_of_screened hinput.strict hscreen event hevent
    · exact hgeneration w₂ _ hfailed event hevent
  | @generated w₁ w₂ w₃ g result hscreen hgenerate hout =>
    rcases List.mem_append.mp hevent with hevent | hevent
    · exact forall_of_screened hinput.strict hscreen event hevent
    rcases List.mem_append.mp hevent with hevent | hevent
    · exact hgeneration w₂ _ hgenerate event hevent
    · split_ifs at hout
      · exact makes_pure _ w₃ _ hout event hevent
      · exact houtput g w₃ _ hout event hevent

theorem carriesHeaders_detect (call : DetectionCall)
    (answer : Call.Answer ⟨headers, .detect call⟩) :
    CarriesHeaders headers ⟨⟨headers, .detect call⟩, answer⟩ :=
  rfl

theorem makes_carriesHeaders (ctx : GatewayContext) (task : UnaryTask) :
    Makes (CarriesHeaders task.headers) (task.handle ctx) := by
  have hrespond : ∀ {R : Type} {response : R → UnaryResponse} {handler : Handler R}
      {P : CallEvent → Prop}, Makes P handler → Makes P (respond response handler) :=
    fun h => h.bind fun _ => makes_pure _
  -- every call of a handler is made with the headers of its task
  cases task with
  | classificationWithGen task =>
    refine hrespond (makes_guarded ?_ ?_ ?_)
    · exact makes_handleInputDetection carriesHeaders_detect
        (makes_withClient (makes_ask fun _ => rfl))
    · exact makes_withClient (makes_ask fun _ => rfl)
    · exact fun g => (makes_ask (carriesHeaders_detect _)).bind fun _ => makes_ofExcept _
  | chatCompletions task =>
    refine hrespond (makes_guarded ?_ ?_ ?_)
    · exact (makes_ofExcept _).bind fun _ => makes_handleInputDetection carriesHeaders_detect
        (makes_withClient (makes_ask fun _ => rfl))
    · exact makes_withClient (makes_ask fun _ => rfl)
    · exact fun g => makes_handleOutputDetection carriesHeaders_detect
  | completions task =>
    refine hrespond (makes_guarded ?_ ?_ ?_)
    · exact makes_handleInputDetection carriesHeaders_detect
        (makes_withClient (makes_ask fun _ => rfl))
    · exact makes_withClient (makes_ask fun _ => rfl)
    · exact fun g => makes_handleOutputDetection carriesHeaders_detect
  | generationWithDetection task =>
    refine hrespond ((makes_ofExcept _).bind fun _ => Makes.bind ?_ fun g => ?_)
    · exact makes_withClient (makes_ask fun _ => rfl)
    · exact (makes_ask (carriesHeaders_detect _)).bind fun _ => makes_pure _
  | textContent task | chat task | contextDocs task | detectionOnGeneration task =>
    exact hrespond (makes_detection carriesHeaders_detect)

end Headers

/-- Where a header of a call may come from, given the headers of the client. -/
inductive HasOrigin (state : ServerState) (headers : HeaderMap) (operation : Operation)
    (name : HeaderName) (value : HeaderValue) : Prop
  /-- The client has sent it, and the name may pass. -/
  | client (hname : name.asStr ∈ state.passthroughHeaders) (hvalue : value ∈ headers.getAll name)
  /-- It is the bearer token made of a token that may pass. -/
  | bearer {token : HeaderValue} (hname : name = authorization)
    (hrewrite : state.rewriteForwardedAccessHeader = true)
    (hpass : xForwardedAccessToken.asStr ∈ state.passthroughHeaders)
    (htoken : (headers.getAll xForwardedAccessToken).head? = some token)
    (hvalue : value.asBytes = bearerScheme ++ token.asBytes)
  /-- It is the type of the content for an OpenAI server. -/
  | contentType (hname : name = contentType) (hvalue : value = jsonContentType)
    (hopenai : operation.isOpenai = true)

/-- What the client for a service is handed of the headers of a request: every value has an origin,
a token that is rewritten is not in its own header, and it replaces every other authorization. -/
structure SentHeaders (state : ServerState) (headers : HeaderMap) (call : Call) : Prop where
  origins : ∀ name, ∀ value ∈ call.headers.getAll name,
    HasOrigin state headers call.operation name value
  removed : state.rewriteForwardedAccessHeader = true → xForwardedAccessToken ∉ call.headers.names
  bearer : state.rewriteForwardedAccessHeader = true →
    xForwardedAccessToken.asStr ∈ state.passthroughHeaders →
    ∀ token ∈ (headers.getAll xForwardedAccessToken).head?, ∃ value,
      call.headers.getAll authorization = [value] ∧ value.asBytes = bearerScheme ++ token.asBytes

section Served

variable {state : ServerState} {headers : HeaderMap}

/-- Filtering adds nothing but a bearer token. -/
theorem hasOrigin_of_mem_passedHeaders {name : HeaderName} {value : HeaderValue}
    (operation : Operation)
    (h : value ∈ (UnaryRequest.passedHeaders state headers).getAll name) :
    HasOrigin state headers operation name value := by
  have hfiltered := fun name =>
    @getAll_collect_filter state.unicodeLower state.passthroughHeaders headers name
  -- a header that is kept is one of the client
  have hclient : value ∈ (HeaderMap.collect (headers.iter.filter fun p =>
      toLowercase state.unicodeLower p.1.asStr ∈ state.passthroughHeaders)).getAll name →
      HasOrigin state headers operation name value := by
    intro hvalue
    rw [hfiltered] at hvalue
    split_ifs at hvalue with hname
    · exact .client hname hvalue
    · simp at hvalue
  rw [UnaryRequest.passedHeaders, filterHeaders] at h
  split_ifs at h with hrewrite
  · rcases getAll_rewriteForwardedAccessHeaders (HeaderMap.collect (headers.iter.filter fun p =>
      toLowercase state.unicodeLower p.1.asStr ∈ state.passthroughHeaders)) with
      ⟨-, hget⟩ | ⟨token, bearer, htoken, hbearer, hget⟩
    · exact hclient (hget name ▸ h)
    · rw [hget] at h
      split_ifs at h with hauth hforwarded
      · -- the authorization is made of the token, which has passed
        obtain rfl := List.mem_singleton.mp h
        rw [hfiltered] at htoken
        split_ifs at htoken with hpass
        · exact .bearer hauth hrewrite hpass htoken hbearer
        · simp at htoken
      · simp at h
      · exact hclient h
  · exact hclient h

/-- The headers of a task that are handed to a client. -/
theorem CarriesHeaders.sentHeaders {event : CallEvent}
    (h : CarriesHeaders (UnaryRequest.passedHeaders state headers) event) :
    SentHeaders state headers event.1 := by
  have hconfines : Confines state.passthroughHeaders state.rewriteForwardedAccessHeader headers
      (UnaryRequest.passedHeaders state headers) := confines_filterHeaders
  have hget : ∀ name, event.1.headers.getAll name =
      (UnaryRequest.passedHeaders state headers).getAll name ++
        if event.1.operation.isOpenai = true ∧ name = contentType then [jsonContentType]
        else [] := by
    intro name
    rw [show event.1.headers = _ from h]
    by_cases hopenai : event.1.operation.isOpenai = true <;> simp [hopenai, withJsonContentType]
  -- the type of the content does not bring other headers with it
  have hother : ∀ name, name ≠ contentType → event.1.headers.getAll name =
      (UnaryRequest.passedHeaders state headers).getAll name := by
    intro name hname
    simp [hget, hname]
  constructor
  case origins =>
    intro name value hvalue
    rw [hget, List.mem_append] at hvalue
    rcases hvalue with hvalue | hvalue
    · exact hasOrigin_of_mem_passedHeaders _ hvalue
    · split_ifs at hvalue with htype
      · exact .contentType htype.2 (List.mem_singleton.mp hvalue) htype.1
      · simp at hvalue
  case removed =>
    intro hrewrite
    rw [HeaderMap.mem_names_iff, hother _ (by decide), ← HeaderMap.mem_names_iff]
    exact hconfines.removed hrewrite
  case bearer =>
    rw [hother _ (by decide)]
    exact hconfines.bearer

/-- **Confined headers.** Whatever the services answer, what their clients are handed has only
headers that may pass, with values of the client, apart from the type of the content for an OpenAI
server and the bearer token. If only headers that may not pass are different, the same calls can be
made, with the same response. -/
theorem served_headers_confined {request : UnaryRequest} {w : List CallEvent}
    {result : Except ServerFailure UnaryResponse}
    (hrun : Runs (request.serve state headers) w result) :
    (∀ event ∈ w, SentHeaders state headers event.1) ∧
      ∀ headers', AgreeInOrder state.passthroughHeaders headers headers' →
        Runs (request.serve state headers') w result := by
  constructor
  · intro event hevent
    rcases UnaryRequest.runs_serve hrun with ⟨e, -, rfl, -⟩ | ⟨-, result', htask, -⟩
    · simp at hevent
    have htaskHeaders : (request.task (UnaryRequest.passedHeaders state headers)).headers =
        UnaryRequest.passedHeaders state headers := by
      cases request <;> rfl
    have hcarries := makes_carriesHeaders _ _ _ _ htask event hevent
    rw [htaskHeaders] at hcarries
    exact hcarries.sentHeaders
  · intro headers' hagree
    have hsame : UnaryRequest.passedHeaders state headers' =
        UnaryRequest.passedHeaders state headers := hagree.filterHeaders.symm
    rw [UnaryRequest.serve, hsame]
    exact hrun

/-- A server that passes forwarded access tokens on as bearer tokens. -/
def tokenServer : ServerState :=
  { gateway := regexContext
    unicodeLower := HeadersExample.noLower
    passthroughHeaders := loadPassthroughHeaders HeadersExample.noLower HeadersExample.configured
    rewriteForwardedAccessHeader := true }

theorem served_headers_confined_token :
    ∃ w result, Runs ((UnaryRequest.completions (promptMaskRequest (0, 2))).serve tokenServer
        HeadersExample.headers) w result ∧ w.length = 2 ∧
      ∀ event ∈ w, SentHeaders tokenServer HeadersExample.headers event.1 := by
  have hrun := runs_respond (servicesFinding [])
    ((UnaryRequest.completions (promptMaskRequest (0, 2))).serve tokenServer HeadersExample.headers)
  exact ⟨_, _, hrun, rfl, (served_headers_confined hrun).1⟩

end Served

/-! ### Errors -/

/-- The failure of a call to a client. -/
def failureOf {α : Type} (error : ClientError → Error) : Except ClientError α → Option Failure
  | .error e => some (.error (error e))
  | .ok _ => none

/-- The failure that an answer stands for. -/
def Operation.failure? : (operation : Operation) → operation.Answer → Option Failure
  | .detect _ => fun answer : Except Failure (List Detection) =>
    match answer with
    | .error failure => some failure
    | .ok _ => none
  | .tokenize modelId _ => failureOf (.tokenizeRequestFailed modelId)
  | .generate modelId _ _ => failureOf (.generateRequestFailed modelId)
  | .tokenizeOpenai model _ => failureOf (.tokenizeRequestFailed model)
  | .chatCompletion request => failureOf (.chatCompletionRequestFailed request.model)
  | .completion request => failureOf (.completionRequestFailed request.model)
  | .generateStream modelId _ _ => failureOf (.generateRequestFailed modelId)
  | .chatCompletionStream request => failureOf (.chatCompletionRequestFailed request.model)
  | .completionStream request => failureOf (.completionRequestFailed request.model)

/-- The call has failed with this failure. -/
def FailedWith (event : CallEvent) (failure : Failure) : Prop :=
  event.1.operation.failure? event.2 = some failure

/-- Failures that a client is not told. -/
def Hidden (failure : Failure) : Prop :=
  failure = .panic ∨ ∃ message, failure = .error (.other message)

/-- What is wrong with the detectors of a request: one is not configured, or not for this
endpoint. -/
def DetectorsError (detectors : IterMap DetectorId DetectorConfig) (e : Error) : Prop :=
  (∃ id, detectors.get? id = none ∧ e = .detectorNotFound id) ∨ ∃ message, e = .validation message

/-- Why a handler rejects a request: for its detectors, or for its input, which is the last message
of a chat. -/
inductive RejectedFor (config : OrchestratorConfig) (validated : Except Error Unit)
    (screened : Except Failure (List (ℕ × String))) : Error → Prop
  | detectors {error : Error} (hvalidated : validated = .error error)
    (hdetectors : DetectorsError config.detectors error) :
    RejectedFor config validated screened error
  | input {message : String} (hscreened : screened = .error (.error (.validation message))) :
    RejectedFor config validated screened (.validation message)

/-- The statuses for requests that are rejected. -/
theorem RejectedFor.code_mem {config : OrchestratorConfig} {validated : Except Error Unit}
    {screened : Except Failure (List (ℕ × String))} {error : Error}
    (h : RejectedFor config validated screened error) :
    (ServerError.ofError error).code ∈ [404, 422] := by
  cases h with
  | detectors _ hdetectors =>
    rcases hdetectors with ⟨id, -, rfl⟩ | ⟨message, rfl⟩ <;> simp [ServerError.ofError]
  | input _ => simp [ServerError.ofError]

namespace UnaryTask

/-- The check of the detectors of a task. -/
def validateDetectors (ctx : GatewayContext) : UnaryTask → Except Error Unit
  | .classificationWithGen task => task.validateDetectors ctx
  | .chatCompletions task => task.validateDetectors ctx
  | .completions task => task.validateDetectors ctx
  | .generationWithDetection task => validated task.detectors .textGeneration
  | .textContent task => validated task.detectors .textContents
  | .chat task => validated task.detectors .textChat
  | .contextDocs task => validated task.detectors .textContextDoc
  | .detectionOnGeneration task => validated task.detectors .textGeneration
where
  validated (detectors : IterMap DetectorId DetectorParams) (supportedType : DetectorType) :
      Except Error Unit :=
    GuardrailsOrchestrator.validateDetectors detectors ctx.config.detectors [supportedType] true

/-- The handler of the task rejects it. -/
def Rejects (ctx : GatewayContext) (task : UnaryTask) : Error → Prop :=
  RejectedFor ctx.config (task.validateDetectors ctx) task.screened

end UnaryTask

section Traced

variable {α R T : Type} {ctx : GatewayContext} {w : List CallEvent} {failure : Failure}
  {rejects : Error → Prop}

theorem failsBy_ask {call : Call} {read : call.Answer → Except Failure α}
    (h : ∀ answer e, read answer = .error e → Hidden e ∨ FailedWith ⟨call, answer⟩ e) :
    FailsBy Hidden FailedWith (ask call read) := by
  intro w e hrun
  obtain ⟨answer, rfl, hread⟩ := runs_ask_iff.mp hrun
  refine (h answer e hread.symm).imp_right fun hfailed => ?_
  exact ⟨⟨call, answer⟩, List.mem_singleton_self _, hfailed⟩

theorem failsBy_withClient {isPresent : Bool} {handler : Handler α}
    (h : FailsBy Hidden FailedWith handler) :
    FailsBy Hidden FailedWith (withClient isPresent handler) := by
  cases isPresent
  · refine failsBy_ofExcept fun e he => ?_
    exact Or.inl (Except.error.inj he).symm
  · exact h

/-- An error of a client is that of its answer. -/
theorem failureOf_of_requestFailed {error : ClientError → Error} {answer : Except ClientError α}
    {e : Failure} (h : Handler.requestFailed error answer = .error e) :
    failureOf error answer = some e := by
  cases answer with
  | error e' =>
    obtain rfl := Except.error.inj h
    rfl
  | ok a => simp [Handler.requestFailed, Except.mapError] at h

theorem failsBy_detections (headers : HeaderMap) (call : DetectionCall) :
    FailsBy Hidden FailedWith (Handler.detections headers call) := by
  intro w e hrun
  obtain rfl := runs_detections_iff.mp hrun
  exact Or.inr ⟨_, List.mem_singleton_self _, rfl⟩

/-- A value made of an answer. -/
theorem failsBy_askMap {A : Type} {call : Call} {answered : call.Answer → Except ClientError A}
    {error : ClientError → Error} {f : A → α}
    (h : ∀ answer e, failureOf error (answered answer) = some e → FailedWith ⟨call, answer⟩ e) :
    FailsBy Hidden FailedWith (ask call fun answer =>
      (Handler.requestFailed error (answered answer)).map f) := by
  refine failsBy_ask fun answer e hread => Or.inr (h answer e (failureOf_of_requestFailed ?_))
  cases hanswer : Handler.requestFailed error (answered answer) with
  | error e' => simpa [hanswer, Except.map] using hread
  | ok a => simp [hanswer, Except.map] at hread

theorem failsBy_tokenize (headers : HeaderMap) (modelId text : String) :
    FailsBy Hidden FailedWith (Handler.tokenize headers modelId text) :=
  failsBy_askMap fun _ _ h => h

theorem hidden_of_unwrap {o : Option α} {e : Failure} (h : Failure.unwrap o = .error e) :
    Hidden e := by
  cases o with
  | none => exact Or.inl (Except.error.inj h).symm
  | some a => simp [Failure.unwrap] at h

/-- Detections whose spans are unwrapped, after which nothing fails. -/
theorem hidden_of_unwrap_bind {o : Option α} {f : α → R} {e : Failure}
    (h : (do let a ← Failure.unwrap o; .ok (f a)) = .error e) : Hidden e := by
  cases o with
  | none => exact Or.inl (Except.error.inj h).symm
  | some a => cases h

theorem failsBy_handleOutputDetection {headers : HeaderMap} {tasks : Option (List T)}
    {call : T → DetectionCall} {respond : List (T × List Detection) → R} :
    FailsBy Hidden FailedWith (handleOutputDetection ctx headers tasks call respond) := by
  refine (failsBy_ofExcept fun _ => hidden_of_unwrap).bind fun ts => ?_
  intro w e hrun
  rcases runs_bind_iff.mp hrun with ⟨e', hcalls, -⟩ | ⟨answers, w₁, w₂, rfl, hcalls, hjoin⟩
  · obtain ⟨answers, hfalse, -⟩ := runs_callAll_iff.mp hcalls
    simp at hfalse
  obtain ⟨answers', hanswers, order⟩ := runs_callAll_iff.mp hcalls
  obtain rfl := Except.ok.inj hanswers
  rcases runs_bind_iff.mp hjoin with ⟨e', hfails, he⟩ | ⟨results, w₃, w₄, rfl, -, hrespond⟩
  · obtain rfl := Except.error.inj he
    obtain ⟨-, hfails⟩ := runs_ofExcept_iff.mp hfails
    rw [joinAll] at hfails
    split_ifs at hfails with hpanic
    · exact Or.inl (Or.inr ⟨_, Except.error.inj hfails⟩)
    · -- the first failure of a task
      obtain ⟨answer, hanswer, hanswerFails⟩ := Except.exists_of_mapM_eq_error hfails.symm
      obtain ⟨i, rfl⟩ := (List.mem_ofFn' _ _).mp hanswer
      refine Or.inr ⟨_, List.mem_append_left _ (order.mem_iff.mpr ((List.mem_ofFn' _ _).mpr
        ⟨i, rfl⟩)), ?_⟩
      change Operation.failure? (.detect _) (answers i) = some e
      rw [show answers i = .error e from hanswerFails]
      rfl
  · simp at hrespond

/-- A failure is one of the request itself, before anything was called, or one that the client is
not told, or one of a call. -/
def Traced (rejects : Error → Prop) (w : List CallEvent) (failure : Failure) : Prop :=
  (w = [] ∧ ∃ error, failure = .error error ∧ rejects error) ∨ Hidden failure ∨
    ∃ event ∈ w, FailedWith event failure

theorem Traced.of_failsBy {handler : Handler α} (h : FailsBy Hidden FailedWith handler)
    (w₁ : List CallEvent) {w₂ : List CallEvent} (hrun : Runs handler w₂ (.error failure)) :
    Traced rejects (w₁ ++ w₂) failure :=
  Or.inr ((h w₂ failure hrun).imp_right fun ⟨event, hevent, hfails⟩ =>
    ⟨event, List.mem_append_right w₁ hevent, hfails⟩)

theorem detectorsError_of_validateDetectors {detectors : IterMap DetectorId DetectorParams}
    {config : IterMap DetectorId DetectorConfig} {types : List DetectorType} {wholeDoc : Bool}
    {e : Error} (h : validateDetectors detectors config types wholeDoc = .error e) :
    DetectorsError config e := by
  obtain ⟨detector, -, hfails⟩ := Except.exists_of_forM_eq_error h
  simp only [validateDetector] at hfails
  split at hfails
  · split_ifs at hfails
    · exact Or.inr ⟨_, (Except.error.inj hfails).symm⟩
    · exact Or.inr ⟨_, (Except.error.inj hfails).symm⟩
    · simp [pure, Except.pure] at hfails
  · rename_i hget
    exact Or.inl ⟨_, hget, (Except.error.inj hfails).symm⟩

/-- Two checks, one after the other. -/
theorem detectorsError_of_bind {config : IterMap DetectorId DetectorConfig}
    {first second : Except Error Unit} {e : Error}
    (hfirst : first = .error e → DetectorsError config e)
    (hsecond : second = .error e → DetectorsError config e)
    (h : (do first; second) = .error e) : DetectorsError config e := by
  cases first with
  | error e' => exact hfirst h
  | ok _ => exact hsecond h

theorem GuardedRun.traced {G : Type} {validated : Except Error Unit} {hasInput : Bool}
    {inputDetection : Handler (Option R)} {generation : Handler G} {output : G → Handler R}
    (h : GuardedRun validated hasInput inputDetection generation output w (.error failure))
    (hvalidated : ∀ e, validated = .error e → rejects e)
    (hinput : Runs inputDetection w (.error failure) → Traced rejects w failure)
    (hgeneration : FailsBy Hidden FailedWith generation)
    (houtput : ∀ g, FailsBy Hidden FailedWith (output g)) : Traced rejects w failure := by
  cases h with
  -- the check comes before any call
  | rejected hrejected =>
    cases validated with
    | error e =>
      obtain rfl := Except.error.inj hrejected
      exact Or.inl ⟨rfl, e, rfl, hvalidated e rfl⟩
    | ok _ => simp [Failure.ofExcept, Except.mapError] at hrejected
  | inputFailed _ hrun => exact hinput hrun
  | ungenerated _ hrun => exact .of_failsBy hgeneration _ hrun
  | @generated w₁ w₂ w₃ g _ _ _ hrun =>
    rw [← List.append_assoc]
    exact .of_failsBy (houtput g) _ hrun

theorem InputRun.traced {headers : HeaderMap} {detectors : IterMap DetectorId DetectorParams}
    {inputs : Except Failure (List (ℕ × String))} {tokens : Handler ℕ}
    {respond : List Detection → ℕ → Except Failure R}
    (h : InputRun headers detectors inputs tokens respond w (.error failure))
    (hinputs : ∀ e, inputs = .error e → (∃ error, e = .error error ∧ rejects error) ∨ Hidden e)
    (htokens : FailsBy Hidden FailedWith tokens)
    (hrespond : ∀ detections n e, respond detections n = .error e → Hidden e) :
    Traced rejects w failure := by
  generalize hresult : (.error failure : Except Failure (Option R)) = result at h
  cases h with
  -- the input could not be read, so nothing was called
  | unasked herror =>
    obtain rfl := Except.error.inj hresult
    rcases hinputs failure herror with hrejected | hhidden
    · exact Or.inl ⟨rfl, hrejected⟩
    · exact Or.inr (Or.inl hhidden)
  | failed _ =>
    obtain rfl := Except.error.inj hresult
    exact Or.inr (Or.inr ⟨_, List.mem_singleton_self _, rfl⟩)
  | clear _ => simp at hresult
  | @flagged parts detections w count _ _ hcount =>
    cases count with
    | error e =>
      obtain rfl := Except.error.inj hresult
      exact .of_failsBy htokens [_] hcount
    | ok n =>
      cases hrespond' : respond detections n with
      | error e =>
        obtain rfl : failure = e := by simpa [Except.bind, hrespond', Except.map] using hresult
        exact Or.inr (Or.inl (hrespond detections n failure hrespond'))
      | ok r => simp [Except.bind, hrespond', Except.map] at hresult

theorem hidden_of_applyMasks {text : String} {masks : Option (List (ℕ × ℕ))} {e : Failure}
    (h : applyMasks text masks = .error e) : Hidden e := by
  rcases masks with _ | _ | ⟨mask, masks⟩
  · simp [applyMasks] at h
  · simp [applyMasks] at h
  · obtain ⟨⟨start, stop⟩, -, hfails⟩ := Except.exists_of_mapM_eq_error h
    simp only [sliceCodepoints] at hfails
    split_ifs at hfails
    · cases hfails
    · exact Or.inl (Except.error.inj hfails).symm

theorem ChatCompletionsDetectionTask.rejectedFor_lastMessage
    {task : ChatCompletionsDetectionTask} {config : OrchestratorConfig}
    {validated : Except Error Unit} {e : Failure} (h : task.lastMessage = .error e) :
    ∃ error, e = .error error ∧
      RejectedFor config validated (UnaryTask.chatCompletions task).screened error := by
  have hmessage : ∃ message, e = .error (.validation message) := by
    rw [ChatCompletionsDetectionTask.lastMessage] at h
    split at h
    · exact ⟨_, (Except.error.inj h).symm⟩
    · split_ifs at h
      exact ⟨_, (Except.error.inj h).symm⟩
  obtain ⟨message, rfl⟩ := hmessage
  exact ⟨_, rfl, .input (by simp [screened, h, Except.map])⟩

/-- A check, then a handler that does not fail by itself. -/
theorem traced_of_validated {validated : Except Error Unit} {handler : Handler α}
    (h : Runs (do Program.ofExcept (Failure.ofExcept validated); handler) w (.error failure))
    (hvalidated : ∀ e, validated = .error e → rejects e)
    (hhandler : FailsBy Hidden FailedWith handler) : Traced rejects w failure := by
  rcases runs_bind_iff.mp h with ⟨e, hfirst, he⟩ | ⟨_, w₁, w₂, rfl, -, hrun⟩
  · obtain rfl := Except.error.inj he
    obtain ⟨rfl, hrejected⟩ := runs_ofExcept_iff.mp hfirst
    cases validated with
    | error e =>
      obtain rfl := Except.error.inj hrejected
      exact Or.inl ⟨rfl, e, rfl, hvalidated e rfl⟩
    | ok _ => simp [Failure.ofExcept, Except.mapError] at hrejected
  · exact .of_failsBy hhandler w₁ hrun

/-- Every failure of a handler is traced. -/
theorem traced_of_runs {task : UnaryTask} (hrun : Runs (task.handle ctx) w (.error failure)) :
    Traced (task.Rejects ctx) w failure := by
  -- the detectors are checked by all handlers before anything else
  have hvalidated : ∀ e, task.validateDetectors ctx = .error e → task.Rejects ctx e := by
    intro e h
    refine .detectors h ?_
    cases task with
    | classificationWithGen task | chatCompletions task | completions task =>
      exact detectorsError_of_bind detectorsError_of_validateDetectors
        detectorsError_of_validateDetectors h
    | generationWithDetection task | textContent task | chat task | contextDocs task
    | detectionOnGeneration task => exact detectorsError_of_validateDetectors h
  -- making a response of a result does not fail
  have hrespond : ∀ {R : Type} {response : R → UnaryResponse} {handler : Handler R},
      Runs (respond response handler) w (.error failure) → Runs handler w (.error failure) := by
    intro R response handler h
    obtain ⟨result, hrun, heq⟩ := exists_runs_of_respond h
    cases result with
    | error e => rwa [Except.error.inj heq]
    | ok r => simp [Except.map] at heq
  cases task with
  | classificationWithGen task =>
    refine (guardedRun_of_runs (hrespond hrun)).traced hvalidated ?_ ?_ ?_
    · intro hinput
      refine (inputRun_of_runs hinput).traced ?_ ?_ ?_
      · exact fun e he => Or.inr (hidden_of_applyMasks he)
      · exact failsBy_withClient (failsBy_tokenize _ _ _)
      · exact fun detections n e => hidden_of_unwrap_bind
    · exact failsBy_withClient (failsBy_ask fun _ _ h => Or.inr (failureOf_of_requestFailed h))
    · intro g
      split_ifs
      · exact failsBy_ofExcept fun _ he => by cases he
      · refine (failsBy_detections _ _).bind fun detections => failsBy_ofExcept fun e he => ?_
        rw [ClassificationWithGenTask.outputResponse] at he
        split_ifs at he
        exact hidden_of_unwrap_bind he
  | chatCompletions task =>
    refine (guardedRun_of_runs (hrespond hrun)).traced hvalidated ?_ ?_ ?_
    · intro hinput
      refine (task.inputRun_of_runs hinput).traced ?_ ?_ ?_
      · intro e he
        cases hmessage : task.lastMessage with
        | error e' =>
          rw [hmessage] at he
          obtain rfl := Except.error.inj he
          exact Or.inl (task.rejectedFor_lastMessage hmessage)
        | ok message => simp [hmessage, Except.map] at he
      · exact failsBy_withClient (failsBy_ask fun _ _ h => Or.inr (failureOf_of_requestFailed h))
      · exact fun detections n e he => by cases he
    · exact failsBy_withClient (failsBy_ask fun _ _ h => Or.inr (failureOf_of_requestFailed h))
    · intro g
      split_ifs
      · exact failsBy_ofExcept fun _ he => by cases he
      · exact failsBy_handleOutputDetection
  | completions task =>
    refine (guardedRun_of_runs (hrespond hrun)).traced hvalidated ?_ ?_ ?_
    · intro hinput
      refine (inputRun_of_runs hinput).traced ?_ ?_ ?_
      · exact fun e he => Or.inr (hidden_of_applyMasks he)
      · exact failsBy_withClient (failsBy_ask fun _ _ h => Or.inr (failureOf_of_requestFailed h))
      · exact fun detections n e he => by cases he
    · exact failsBy_withClient (failsBy_ask fun _ _ h => Or.inr (failureOf_of_requestFailed h))
    · intro g
      split_ifs
      · exact failsBy_ofExcept fun _ he => by cases he
      · exact failsBy_handleOutputDetection
  | generationWithDetection task =>
    refine traced_of_validated (hrespond hrun) hvalidated ?_
    refine FailsBy.bind ?_ fun g => (failsBy_detections _ _).bind fun _ => ?_
    · exact failsBy_withClient (failsBy_ask fun _ _ h => Or.inr (failureOf_of_requestFailed h))
    · exact failsBy_ofExcept fun _ he => by cases he
  | textContent task =>
    refine traced_of_validated (hrespond hrun) hvalidated ?_
    exact (failsBy_detections _ _).bind fun _ => failsBy_ofExcept fun _ => hidden_of_unwrap
  | chat task | contextDocs task | detectionOnGeneration task =>
    refine traced_of_validated (hrespond hrun) hvalidated ?_
    exact (failsBy_detections _ _).bind fun _ => failsBy_ofExcept fun _ he => by cases he

/-- What a client is told of an error is general, or has one of the statuses that are passed on. -/
theorem ofError_eq_unexpected_or (e : Error) :
    ServerError.ofError e = .unexpected ∨ (ServerError.ofError e).code ∈ ServerError.passedOn := by
  have hclient : ∀ error, ServerError.ofClientError e error = .unexpected ∨
      (ServerError.ofClientError e error).code ∈ ServerError.passedOn := by
    intro error
    rw [ServerError.ofClientError]
    split_ifs with hcode
    · exact Or.inr hcode
    · exact Or.inl rfl
  cases e with
  | detectorNotFound _ | chunkerNotFound _ | jsonError _ | validation _ =>
    exact Or.inr (by simp [ServerError.ofError, ServerError.passedOn])
  | other _ | cancelled => exact Or.inl rfl
  | client error => exact hclient error
  | detectorRequestFailed _ error | chunkerRequestFailed _ error | generateRequestFailed _ error
  | chatCompletionRequestFailed _ error | completionRequestFailed _ error
  | tokenizeRequestFailed _ error => exact hclient error

/-- What a client is told of an error that is traced. -/
theorem Traced.exposed {error : Error} (h : Traced rejects w (.error error)) :
    ServerError.ofError error = .unexpected ∨ (w = [] ∧ rejects error) ∨
      ∃ event ∈ w, ∃ error', FailedWith event (.error error') ∧
        ServerError.ofError error = .ofError error' ∧
        (ServerError.ofError error).code ∈ ServerError.passedOn := by
  rcases h with ⟨hnil, error', heq, hrejects⟩ | hhidden | ⟨event, hevent, hfailed⟩
  · obtain rfl := Failure.error.inj heq
    exact Or.inr (Or.inl ⟨hnil, hrejects⟩)
  · rcases hhidden with hpanic | ⟨message, heq⟩
    · cases hpanic
    · obtain rfl := Failure.error.inj heq
      exact Or.inl rfl
  · rcases ofError_eq_unexpected_or error with hunexpected | hcode
    · exact Or.inl hunexpected
    · exact Or.inr (Or.inr ⟨event, hevent, error, hfailed, rfl, hcode⟩)

/-- What a client is told of a request that is rejected, by the server or by a handler. -/
inductive RejectedWith (validated : Except ValidationError Unit) (rejects : Error → Prop) :
    ServerError → Prop
  | server {error : ValidationError} (hvalidated : validated = .error error) :
    RejectedWith validated rejects (.ofValidationError error)
  | handler {error : Error} (hvalidated : validated = .ok ()) (hrejects : rejects error)
    (hcode : (ServerError.ofError error).code ∈ [404, 422]) :
    RejectedWith validated rejects (.ofError error)

/-- **Exposed errors.** Whatever the services answer, an error that a client is told is the general
one, or that of the check that has rejected the request before anything was called, or it is that of
one of the calls, with one of the statuses that are passed on. -/
theorem error_response_traced {state : ServerState} {headers : HeaderMap} {request : UnaryRequest}
    {e : ServerError} (hrun : Runs (request.serve state headers) w (.error (.error e))) :
    e = .unexpected ∨
      (w = [] ∧ RejectedWith request.validate
        ((request.task (UnaryRequest.passedHeaders state headers)).Rejects state.gateway) e) ∨
      ∃ event ∈ w, ∃ error, FailedWith event (.error error) ∧ e = .ofError error ∧
        e.code ∈ ServerError.passedOn := by
  rcases UnaryRequest.runs_serve hrun with ⟨error, hvalid, rfl, he⟩ | ⟨hvalid, result, htask, he⟩
  · obtain rfl : e = .ofValidationError error := by simpa using he
    exact Or.inr (Or.inl ⟨rfl, .server hvalid⟩)
  cases result with
  | ok r => simp [Except.mapError] at he
  | error failure =>
    have he : ServerFailure.error e = .ofFailure failure := Except.error.inj he
    cases failure with
    | panic => simp [ServerFailure.ofFailure] at he
    | error error =>
      obtain rfl := ServerFailure.error.inj he
      exact (traced_of_runs htask).exposed.imp_right (Or.imp_left fun ⟨hnil, hrejects⟩ =>
        ⟨hnil, .handler hvalid hrejects hrejects.code_mem⟩)

/-- Services whose detectors are not available. -/
def servicesUnavailable (call : Call) : call.Answer :=
  match call with
  | ⟨_, .detect _⟩ => .error (.error (.detectorRequestFailed "regex" (.http 503 "busy")))
  | call => servicesFinding [] call

theorem error_response_traced_unavailable :
    ∃ event, Runs ((UnaryRequest.completions (promptMaskRequest (0, 2))).serve
        { tokenServer with passthroughHeaders := ∅ } .empty) [event]
        (.error (.error ⟨503, "detector request failed for `regex`: busy"⟩)) ∧
      ∃ error, FailedWith event (.error error) := by
  have hrun : Runs _ [_] (Except.error
      (ServerFailure.error ⟨503, "detector request failed for `regex`: busy"⟩)) :=
    runs_respond servicesUnavailable ((UnaryRequest.completions (promptMaskRequest (0, 2))).serve
      { tokenServer with passthroughHeaders := ∅ } .empty)
  refine ⟨_, hrun, ?_⟩
  rcases error_response_traced hrun with hfalse | ⟨hfalse, -⟩ | ⟨event, hevent, error, hfailed, -⟩
  · simp [ServerError.unexpected] at hfalse
  · simp at hfalse
  · exact ⟨error, List.mem_singleton.mp hevent ▸ hfailed⟩

end Traced

end GuardrailsOrchestrator
