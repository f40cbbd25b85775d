import GuardrailsOrchestrator.Server.Basic

/-!
# Text generation servers

The client of a text generation server. There are two kinds of servers, with messages of their own;
the client translates them. Requests to one of them are repeated, with pauses that get longer, while
the server is not available. The conversion of the parameters of a request is left out: they are
sent as they are.

A request is a call over gRPC, and so is a pause here. Nothing is assumed of the answers.

## Main results

* `GenerationClient.runs_perform_iff` — the runs of a request: how often the server is asked, when
  the client gives up, and what is made of the last answer
-/

namespace GuardrailsOrchestrator

namespace TextGeneration

open Calls

/-! ### Messages of the servers -/

/-- A failed call. -/
structure GrpcStatus where
  code : GrpcCode
  message : String
  deriving DecidableEq

/-- The low 32 bits of a signed number. -/
def i64AsU32 (n : ℤ) : ℕ := (n % 2 ^ 32).toNat

structure TokenInfo where
  text : String
  logprob : ℚ
  rank : ℕ

/-- A response of the first kind of server. -/
structure GenerationResponse where
  inputTokenCount : ℕ
  generatedTokenCount : ℕ
  text : String
  stopReason : FinishReason
  seed : ℕ
  tokens : List TokenInfo := []
  inputTokens : List TokenInfo := []

structure TokenizeResponse where
  tokenCount : ℕ
  tokens : List String := []

/-- A token of the second kind of server. -/
structure NlpToken where
  text : String
  logprob : ℚ
  rank : ℤ

/-- A response of the second kind of server. -/
structure GeneratedTextResult where
  generatedText : String
  generatedTokens : ℤ
  finishReason : FinishReason
  inputTokenCount : ℤ
  seed : ℕ
  tokens : List NlpToken := []
  inputTokens : List NlpToken := []

structure TokenStreamDetails where
  finishReason : FinishReason
  generatedTokens : ℕ
  seed : ℕ
  inputTokenCount : ℤ

structure GeneratedTextStreamResult where
  generatedText : String
  tokens : List NlpToken := []
  details : Option TokenStreamDetails := none
  inputTokens : List NlpToken := []

structure TokenizationResults where
  /-- The texts of the tokens. -/
  results : List String
  tokenCount : ℤ

def TokenInfo.toGeneratedToken (value : TokenInfo) : GeneratedToken :=
  { text := value.text, logprob := some value.logprob, rank := some value.rank }

def NlpToken.toGeneratedToken (value : NlpToken) : GeneratedToken :=
  { text := value.text, logprob := some value.logprob, rank := some (i64AsU32 value.rank) }

/-- Tokens as they are reported: none if there are none. -/
def reportedTokens {T : Type} (convert : T → GeneratedToken) (tokens : List T) :
    Option (List GeneratedToken) :=
  if tokens.isEmpty then none else some (tokens.map convert)

/-- The first response; there must be one. -/
def resultOfResponses (responses : List GenerationResponse) :
    Option ClassifiedGeneratedTextResult :=
  responses.head?.map fun value =>
    { generatedText := some value.text
      finishReason := some value.stopReason
      generatedTokenCount := some value.generatedTokenCount
      seed := some (asU32 value.seed)
      inputTokenCount := value.inputTokenCount
      tokens := reportedTokens TokenInfo.toGeneratedToken value.tokens
      inputTokens := reportedTokens TokenInfo.toGeneratedToken value.inputTokens }

def resultOfGeneratedText (value : GeneratedTextResult) : ClassifiedGeneratedTextResult :=
  { generatedText := some value.generatedText
    finishReason := some value.finishReason
    generatedTokenCount := some (i64AsU32 value.generatedTokens)
    seed := some (asU32 value.seed)
    inputTokenCount := i64AsU32 value.inputTokenCount
    tokens := reportedTokens NlpToken.toGeneratedToken value.tokens
    inputTokens := reportedTokens NlpToken.toGeneratedToken value.inputTokens }

def streamResultOfResponse (value : GenerationResponse) : ClassifiedGeneratedTextStreamResult :=
  { generatedText := some value.text
    finishReason := some value.stopReason
    generatedTokenCount := some value.generatedTokenCount
    seed := some (asU32 value.seed)
    inputTokenCount := value.inputTokenCount
    tokens := reportedTokens TokenInfo.toGeneratedToken value.tokens
    inputTokens := reportedTokens TokenInfo.toGeneratedToken value.inputTokens
    startIndex := some 0 }

def streamResultOfGeneratedText (value : GeneratedTextStreamResult) :
    ClassifiedGeneratedTextStreamResult :=
  { generatedText := some value.generatedText
    finishReason := value.details.map (·.finishReason)
    generatedTokenCount := value.details.map (·.generatedTokens)
    seed := value.details.map (asU32 ·.seed)
    inputTokenCount := (value.details.map (i64AsU32 ·.inputTokenCount)).getD 0
    tokens := reportedTokens NlpToken.toGeneratedToken value.tokens
    inputTokens := reportedTokens NlpToken.toGeneratedToken value.inputTokens }

/-! ### Requests -/

inductive GenerationOperation where
  | tokenize (text : String)
  | generate (text : String) (params : Option GuardrailsTextGenerationParameters)
  | generateStream (text : String) (params : Option GuardrailsTextGenerationParameters)

namespace GenerationOperation

/-- What a server replies. A stream is the list of its messages. -/
def Reply : GenerationProvider → GenerationOperation → Type
  | .tgis, .tokenize _ => List TokenizeResponse
  | .tgis, .generate _ _ => List GenerationResponse
  | .tgis, .generateStream _ _ => List (Except GrpcStatus GenerationResponse)
  | .nlp, .tokenize _ => TokenizationResults
  | .nlp, .generate _ _ => GeneratedTextResult
  | .nlp, .generateStream _ _ => List (Except GrpcStatus GeneratedTextStreamResult)

/-- What is made of a reply. A tokenization is the number of tokens, and the tokens. -/
def Result : GenerationOperation → Type
  | .tokenize _ => ℕ × List String
  | .generate _ _ => ClassifiedGeneratedTextResult
  | .generateStream _ _ => List (ℕ × Except Error ClassifiedGeneratedTextStreamResult)

/-- The error of the orchestrator for an error of the client. -/
def requestFailed (modelId : String) : GenerationOperation → ClientError → Error
  | .tokenize _ => .tokenizeRequestFailed modelId
  | .generate _ _ | .generateStream _ _ => .generateRequestFailed modelId

/-- The items of a stream, with their positions. -/
def streamResult {T : Type} (modelId : String) (convert : T → ClassifiedGeneratedTextStreamResult)
    (items : List (Except GrpcStatus T)) :
    List (ℕ × Except Error ClassifiedGeneratedTextStreamResult) :=
  (items.map fun item => match item with
    | .ok value => .ok (convert value)
    | .error status =>
      .error (.generateRequestFailed modelId (.ofStatus status.code status.message))).zipIdx.map
    Prod.swap

/-- What is made of a reply; `none` if it panics. -/
def read (modelId : String) :
    (provider : GenerationProvider) → (operation : GenerationOperation) →
      operation.Reply provider → Option operation.Result
  | .tgis, .tokenize _, responses =>
    List.head? responses |>.map fun response : TokenizeResponse =>
      (response.tokenCount, response.tokens)
  | .tgis, .generate _ _, responses => resultOfResponses responses
  | .tgis, .generateStream _ _, items => some (streamResult modelId streamResultOfResponse items)
  | .nlp, .tokenize _, response =>
    some (i64AsU32 (TokenizationResults.tokenCount response), TokenizationResults.results response)
  | .nlp, .generate _ _, response => some (resultOfGeneratedText response)
  | .nlp, .generateStream _ _, items =>
    some (streamResult modelId streamResultOfGeneratedText items)

end GenerationOperation

/-- A request to a server, or a pause. -/
inductive Rpc where
  | request (provider : GenerationProvider) (headers : HeaderMap) (modelId : String)
    (operation : GenerationOperation)
  | sleep (millis : ℕ)

def Rpc.Answer : Rpc → Type
  | .request provider _ _ operation => Except GrpcStatus (operation.Reply provider)
  | .sleep _ => Unit

/-- The pauses have nothing to answer. -/
instance (millis : ℕ) : Unique (Rpc.Answer (.sleep millis)) := inferInstanceAs (Unique Unit)

/-! ### The client -/

def allowedRetryCodes : List ℕ := [502, 503, 504, 505, 506]

/-- The pause after an attempt, in milliseconds. The exponent has 32 bits, the power 64. -/
def backoff (attempt : ℕ) : ℕ := 2 ^ ((attempt - 1) % 2 ^ 32) % 2 ^ 64

/-- The reply of a server, or the error of the client. -/
def Rpc.reply (provider : GenerationProvider) (headers : HeaderMap) (modelId : String)
    (operation : GenerationOperation)
    (answer : (request provider headers modelId operation).Answer) :
    Except ClientError (operation.Reply provider) :=
  Except.mapError (fun status : GrpcStatus => .ofStatus status.code status.message) answer

/-- Make a request. -/
def requestOnce {α : Type} (rpc : Rpc) (func : rpc.Answer → Except ClientError α) :
    Program Rpc Rpc.Answer ClientError α := do
  let answer ← Program.call rpc
  .ofExcept (func answer)

def retryFunction {α : Type} (maxRetries : ℕ) (rpc : Rpc)
    (func : rpc.Answer → Except ClientError α) : Program Rpc Rpc.Answer ClientError α :=
  retry rpc func (fun attempt => .sleep (backoff attempt))
    (fun e => decide (e.statusCode ∈ allowedRetryCodes)) maxRetries 1

/-- A client, if text generation is configured. -/
structure GenerationClient where
  provider : Option GenerationProvider
  maxRetries : ℕ

/-- The text can be the value of a header. -/
def isHeaderText (text : String) : Bool :=
  (HeaderValue.fromMaybeShared text.toUTF8.toList).isSome

namespace GenerationClient

/-- Ask a server. For the second kind, the name of the model becomes a header, which must be
possible. -/
def perform (client : GenerationClient) (headers : HeaderMap) (modelId : String)
    (operation : GenerationOperation) :
    Program Rpc Rpc.Answer Failure operation.Result :=
  let failed (e : ClientError) : Failure := .error (operation.requestFailed modelId e)
  let finish (provider : GenerationProvider) (reply : operation.Reply provider) :=
    Program.ofExcept (match operation.read modelId provider reply with
      | some result => .ok result
      | none => .error .panic)
  match client.provider with
  | none => .ofExcept (.error (failed (.modelNotFound modelId)))
  | some .tgis => do
    let reply ← (requestOnce (.request .tgis headers modelId operation)
      (Rpc.reply .tgis headers modelId operation)).mapError failed
    finish .tgis reply
  | some .nlp =>
    if isHeaderText modelId then do
      let reply ← (retryFunction client.maxRetries (.request .nlp headers modelId operation)
        (Rpc.reply .nlp headers modelId operation)).mapError failed
      finish .nlp reply
    else .ofExcept (.error .panic)

variable (client : GenerationClient) (headers : HeaderMap) (modelId : String)

def tokenize (text : String) : Program Rpc Rpc.Answer Failure (ℕ × List String) :=
  client.perform headers modelId (.tokenize text)

def generate (text : String) (params : Option GuardrailsTextGenerationParameters) :
    Program Rpc Rpc.Answer Failure ClassifiedGeneratedTextResult :=
  client.perform headers modelId (.generate text params)

def generateStream (text : String) (params : Option GuardrailsTextGenerationParameters) :
    Program Rpc Rpc.Answer Failure
      (List (ℕ × Except Error ClassifiedGeneratedTextStreamResult)) :=
  client.perform headers modelId (.generateStream text params)

/-! ### Runs -/

/-- How often a request is made again. -/
def retries : ℕ :=
  match client.provider with
  | some .nlp => client.maxRetries
  | _ => 0

end GenerationClient

section Runs

variable {provider : GenerationProvider} {headers : HeaderMap} {modelId : String}
  {operation : GenerationOperation}

/-- The answer of a server that is not available. -/
def unavailable (provider : GenerationProvider) (headers : HeaderMap) (modelId : String)
    (operation : GenerationOperation) (message : String) :
    (Rpc.request provider headers modelId operation).Answer :=
  Except.error (⟨.unavailable, message⟩ : GrpcStatus)

/-- Attempts that find the server not available, with the pauses after them. -/
def attempts (provider : GenerationProvider) (headers : HeaderMap) (modelId : String)
    (operation : GenerationOperation) (messages : List String) : List (Exchange Rpc Rpc.Answer) :=
  failedAttempts (.request provider headers modelId operation)
    (fun attempt => .sleep (backoff attempt)) 1
    (messages.map (unavailable provider headers modelId operation))

/-- The time that is spent with pauses, in milliseconds. -/
def pausedFor (w : List (Exchange Rpc Rpc.Answer)) : ℕ :=
  (w.map fun event => match event.1 with
    | .sleep millis => millis
    | .request .. => 0).sum

/-- What is made of a reply or an error of the client. -/
def conclude (modelId : String) (operation : GenerationOperation) (provider : GenerationProvider) :
    Except ClientError (operation.Reply provider) → Except Failure operation.Result
  | .error e => .error (.error (operation.requestFailed modelId e))
  | .ok reply =>
    match operation.read modelId provider reply with
    | some result => .ok result
    | none => .error .panic

/-- What a request ends with after its last answer. -/
def outcome (provider : GenerationProvider) (headers : HeaderMap) (modelId : String)
    (operation : GenerationOperation)
    (answer : (Rpc.request provider headers modelId operation).Answer) :
    Except Failure operation.Result :=
  conclude modelId operation provider (Rpc.reply provider headers modelId operation answer)

/-- Of the errors of gRPC, only that of a server that is not available lets a request be made
again. -/
theorem statusCode_ofStatus_mem_iff {code : GrpcCode} {message : String} :
    (ClientError.ofStatus code message).statusCode ∈ allowedRetryCodes ↔ code = .unavailable := by
  cases code <;> simp [ClientError.ofStatus, ClientError.statusCode, grpcToHttpCode,
    allowedRetryCodes]

theorem failsForATime_iff {answer : (Rpc.request provider headers modelId operation).Answer} :
    FailsForATime (Rpc.reply provider headers modelId operation)
      (fun e => decide (e.statusCode ∈ allowedRetryCodes)) answer ↔
      ∃ message, answer = unavailable provider headers modelId operation message := by
  simp only [FailsForATime, decide_eq_true_eq]
  constructor
  · rintro ⟨e, hreply, hcode⟩
    obtain ⟨⟨code, message⟩, hanswer, rfl⟩ := Except.exists_of_mapError_eq_error hreply
    obtain rfl : code = .unavailable := statusCode_ofStatus_mem_iff.mp hcode
    exact ⟨message, hanswer⟩
  · rintro ⟨message, rfl⟩
    exact ⟨_, rfl, statusCode_ofStatus_mem_iff.mpr rfl⟩

theorem exists_map_unavailable
    {failed : List (Rpc.request provider headers modelId operation).Answer}
    (h : ∀ answer ∈ failed,
      ∃ message, answer = unavailable provider headers modelId operation message) :
    ∃ messages : List String,
      failed = messages.map (unavailable provider headers modelId operation) := by
  induction failed with
  | nil => exact ⟨[], rfl⟩
  | cons answer rest ih =>
    obtain ⟨message, rfl⟩ := h answer (by simp)
    obtain ⟨messages, rfl⟩ := ih fun a ha => h a (List.mem_cons_of_mem _ ha)
    exact ⟨message :: messages, rfl⟩

/-- The pauses get longer, but together they are less than the next one would be. -/
theorem pausedFor_failedAttempts_le
    (failed : List (Rpc.request provider headers modelId operation).Answer) (k : ℕ) :
    2 ^ k + pausedFor (failedAttempts (.request provider headers modelId operation)
      (fun attempt => .sleep (backoff attempt)) (k + 1) failed) ≤ 2 ^ (k + failed.length) := by
  induction failed generalizing k with
  | nil => simp [failedAttempts, pausedFor]
  | cons answer rest ih =>
    have hrest := ih (k + 1)
    have hbackoff : backoff (k + 1) ≤ 2 ^ k := by
      rw [backoff, Nat.add_sub_cancel]
      exact (Nat.mod_le _ _).trans (Nat.pow_le_pow_right (by decide) (Nat.mod_le _ _))
    simp only [failedAttempts, pausedFor, List.map_cons, List.sum_cons, List.length_cons,
      Nat.zero_add, Nat.pow_succ, Nat.add_assoc, Nat.add_comm 1] at hrest ⊢
    omega

theorem pausedFor_lt {messages : List String} {retries : ℕ} (h : messages.length ≤ retries)
    (answer : (Rpc.request provider headers modelId operation).Answer) :
    pausedFor (attempts provider headers modelId operation messages ++ [⟨_, answer⟩]) <
      2 ^ retries := by
  have hpaused := pausedFor_failedAttempts_le
    (messages.map (unavailable provider headers modelId operation)) 0
  rw [List.length_map, Nat.zero_add, Nat.zero_add, Nat.pow_zero, ← attempts] at hpaused
  have hpow : 2 ^ messages.length ≤ 2 ^ retries := Nat.pow_le_pow_right (by decide) h
  have hlast : pausedFor (attempts provider headers modelId operation messages ++
      [⟨_, answer⟩]) = pausedFor (attempts provider headers modelId operation messages) := by
    simp [pausedFor]
  omega

/-- The runs of `retry_function` for a request. -/
theorem runs_retryFunction_iff {maxRetries : ℕ} {w : List (Exchange Rpc Rpc.Answer)}
    {result : Except ClientError (operation.Reply provider)} :
    Runs (retryFunction maxRetries (.request provider headers modelId operation)
      (Rpc.reply provider headers modelId operation)) w result ↔
      ∃ messages answer, messages.length ≤ maxRetries ∧
        w = attempts provider headers modelId operation messages ++
          [⟨.request provider headers modelId operation, answer⟩] ∧
        ((∃ message, answer = unavailable provider headers modelId operation message) →
          messages.length = maxRetries) ∧
        result = Rpc.reply provider headers modelId operation answer := by
  rw [retryFunction, runs_retry_iff]
  simp only [failsForATime_iff, Nat.add_sub_cancel]
  constructor
  · rintro ⟨failed, answer, rfl, hresult, hfailed, hlength, hlast⟩
    obtain ⟨messages, rfl⟩ := exists_map_unavailable hfailed
    rw [List.length_map] at hlength hlast
    exact ⟨messages, answer, hlength, rfl, hlast, hresult⟩
  · rintro ⟨messages, answer, hlength, rfl, hlast, hresult⟩
    refine ⟨_, answer, rfl, hresult, ?_, by rwa [List.length_map], by rwa [List.length_map]⟩
    simp

/-- A program for a reply, followed by what is made of it. -/
theorem runs_conclude_iff {p : Program Rpc Rpc.Answer ClientError (operation.Reply provider)}
    {w : List (Exchange Rpc Rpc.Answer)} {result : Except Failure operation.Result} :
    Runs (p.mapError (fun e => .error (operation.requestFailed modelId e)) >>= fun reply =>
      Program.ofExcept (match operation.read modelId provider reply with
        | some result => .ok result
        | none => .error .panic)) w result ↔
      ∃ reply, Runs p w reply ∧ result = conclude modelId operation provider reply := by
  rw [runs_bind_iff]
  simp only [runs_mapError_iff, runs_ofExcept_iff]
  constructor
  · rintro (⟨e, ⟨reply, hrun, hreply⟩, rfl⟩ | ⟨a, w₁, w₂, rfl, ⟨reply, hrun, hreply⟩, rfl, rfl⟩)
    · cases reply with
      | ok a => cases hreply
      | error e' => exact ⟨_, hrun, congrArg _ (Except.error.inj hreply)⟩
    · cases reply with
      | ok a' =>
        obtain rfl := Except.ok.inj hreply
        exact ⟨_, by rwa [List.append_nil], rfl⟩
      | error e' => cases hreply
  · rintro ⟨reply, hrun, rfl⟩
    cases reply with
    | ok a => exact Or.inr ⟨a, w, [], (List.append_nil w).symm, ⟨_, hrun, rfl⟩, rfl, rfl⟩
    | error e => exact Or.inl ⟨_, ⟨_, hrun, rfl⟩, rfl⟩

/-- **How a text generation server is asked.** A request is made again only if the server was not
available, at most as often as configured, and each time it is the same request; the pauses are
bounded. What comes of it depends on the last answer alone, and that is the failure of a server that
was not available only after all attempts. -/
theorem GenerationClient.runs_perform_iff {client : GenerationClient}
    {w : List (Exchange Rpc Rpc.Answer)} {result : Except Failure operation.Result} :
    Runs (client.perform headers modelId operation) w result ↔
      (client.provider = none ∧ w = [] ∧
        result = .error (.error (operation.requestFailed modelId (.modelNotFound modelId)))) ∨
      (client.provider = some .nlp ∧ isHeaderText modelId = false ∧ w = [] ∧
        result = .error .panic) ∨
      ∃ provider, client.provider = some provider ∧
        (provider = .nlp → isHeaderText modelId = true) ∧
        ∃ messages answer, messages.length ≤ client.retries ∧
          w = attempts provider headers modelId operation messages ++
            [⟨.request provider headers modelId operation, answer⟩] ∧
          ((∃ message, answer = unavailable provider headers modelId operation message) →
            messages.length = client.retries) ∧
          result = outcome provider headers modelId operation answer ∧
          pausedFor w < 2 ^ client.retries := by
  rw [perform, retries]
  cases hprovider : client.provider with
  | none => simp
  | some provider =>
    cases provider with
    -- this provider is asked once
    | tgis =>
      simp only [runs_conclude_iff, requestOnce, runs_call_bind_iff, runs_ofExcept_iff]
      constructor
      · rintro ⟨reply, ⟨answer, w', rfl, rfl, rfl⟩, rfl⟩
        refine Or.inr (Or.inr ⟨.tgis, rfl, by simp, [], answer, le_rfl, rfl, fun _ => rfl, rfl, ?_⟩)
        exact @pausedFor_lt .tgis headers modelId operation [] 0 le_rfl answer
      · rintro (⟨hfalse, -⟩ | ⟨hfalse, -⟩ | ⟨provider, hprovider, -, messages, answer, hlength, rfl,
          -, rfl, -⟩)
        · cases hfalse
        · cases hfalse
        · obtain rfl := Option.some.inj hprovider
          obtain rfl := List.length_eq_zero_iff.mp (Nat.le_zero.mp hlength)
          exact ⟨_, ⟨answer, [], rfl, rfl, rfl⟩, rfl⟩
    -- this one is asked again while it is unavailable
    | nlp =>
      cases htext : isHeaderText modelId with
      | false => simp
      | true =>
        simp only [if_true, runs_conclude_iff, runs_retryFunction_iff]
        constructor
        · rintro ⟨reply, ⟨messages, answer, hlength, rfl, hlast, rfl⟩, rfl⟩
          exact Or.inr (Or.inr ⟨.nlp, rfl, fun _ => trivial, messages, answer, hlength, rfl, hlast,
            rfl, pausedFor_lt hlength answer⟩)
        · rintro (⟨hfalse, -⟩ | ⟨-, hfalse, -⟩ | ⟨provider, hprovider, -, messages, answer, hlength,
            rfl, hlast, rfl, -⟩)
          · cases hfalse
          · cases hfalse
          · obtain rfl := Option.some.inj hprovider
            exact ⟨_, ⟨messages, answer, hlength, rfl, hlast, rfl⟩, rfl⟩

end Runs

end TextGeneration

end GuardrailsOrchestrator
