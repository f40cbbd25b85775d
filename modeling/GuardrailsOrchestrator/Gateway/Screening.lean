import GuardrailsOrchestrator.Gateway.Basic

/-!
# Screening the input of language models

Whatever the services answer: a language model is asked at most once for a request, with the request
as it came, and only after the input detectors have been asked and have found nothing. If they find
something, the model is not asked, the tokens of the input are counted, and the response reports
what was found and has no text.

## Main definitions

* `GuardedRun` — how a request to a language model can go

## Main results

* `model_asked_after_screening` — before a model is asked
* `flagged_input_withheld` — when the input detectors find something
-/

namespace GuardrailsOrchestrator

open Calls

/-! ### Runs of the parts -/

section Parts

variable {α : Type} {w : List CallEvent} {result : Except Failure α}

@[simp] theorem runs_ask_iff {call : Call} {read : call.Answer → Except Failure α} :
    Runs (ask call read) w result ↔ ∃ answer, w = [⟨call, answer⟩] ∧ result = read answer := by
  rw [ask, runs_bind_iff]
  constructor
  · rintro (⟨e, hcall, rfl⟩ | ⟨answer, w₁, w₂, rfl, hcall, hread⟩)
    · obtain ⟨answer, -, hfalse⟩ := runs_call_iff.mp hcall
      simp at hfalse
    · obtain ⟨answer', rfl, heq⟩ := runs_call_iff.mp hcall
      obtain rfl := Except.ok.inj heq
      obtain ⟨rfl, rfl⟩ := runs_ofExcept_iff.mp hread
      exact ⟨answer, by simp, rfl⟩
  · rintro ⟨answer, rfl, rfl⟩
    exact Or.inr ⟨answer, [⟨call, answer⟩], [], by simp, by simp, by simp⟩

theorem runs_detections_iff {headers : HeaderMap} {call : DetectionCall}
    {result : Except Failure (List Detection)} :
    Runs (Handler.detections headers call) w result ↔
      w = [⟨⟨headers, .detect call⟩, result⟩] := by
  constructor
  · intro h
    obtain ⟨answer, rfl, rfl⟩ := runs_ask_iff.mp h
    rfl
  · rintro rfl
    exact runs_ask_iff.mpr ⟨result, rfl, rfl⟩

theorem runs_withClient_iff {isPresent : Bool} {handler : Handler α} :
    Runs (withClient isPresent handler) w result ↔
      isPresent = true ∧ Runs handler w result ∨
        isPresent = false ∧ w = [] ∧ result = .error .panic := by
  cases isPresent <;> simp [withClient]

/-- A request to a language model or a tokenizer, if there is a client for it. -/
theorem runs_withClient_ask_iff {isPresent : Bool} {call : Call}
    {read : call.Answer → Except Failure α} :
    Runs (withClient isPresent (ask call read)) w result ↔
      (isPresent = true ∧ ∃ answer, w = [⟨call, answer⟩] ∧ result = read answer) ∨
        isPresent = false ∧ w = [] ∧ result = .error .panic := by
  rw [runs_withClient_iff, runs_ask_iff]

/-- One call, or none without a client. -/
theorem eq_of_runs_withClient_ask {isPresent : Bool} {call : Call}
    {read : call.Answer → Except Failure α}
    (h : Runs (withClient isPresent (ask call read)) w result) :
    w = [] ∨ ∃ answer, w = [⟨call, answer⟩] := by
  rcases runs_withClient_ask_iff.mp h with ⟨-, answer, rfl, -⟩ | ⟨-, rfl, -⟩
  · exact Or.inr ⟨answer, rfl⟩
  · exact Or.inl rfl

end Parts

/-! ### Calls of the parts -/

section Makes

variable {α R T : Type} {P : CallEvent → Prop}

theorem makes_pure (a : α) : Makes P (pure a : Handler α) := makes_ofExcept (.ok a)

theorem makes_ask {call : Call} {read : call.Answer → Except Failure α}
    (h : ∀ answer, P ⟨call, answer⟩) : Makes P (ask call read) :=
  (makes_call h).bind fun _ => makes_ofExcept _

theorem makes_withClient {isPresent : Bool} {handler : Handler α} (h : Makes P handler) :
    Makes P (withClient isPresent handler) := by
  cases isPresent
  · exact makes_ofExcept _
  · exact h

theorem makes_handleInputDetection {headers : HeaderMap}
    {detectors : IterMap DetectorId DetectorParams} {inputs : Except Failure (List (ℕ × String))}
    {tokens : Handler ℕ} {respond : List Detection → ℕ → Except Failure R}
    (hdetect : ∀ call answer, P ⟨⟨headers, .detect call⟩, answer⟩) (htokens : Makes P tokens) :
    Makes P (handleInputDetection headers detectors inputs tokens respond) := by
  refine (makes_ofExcept _).bind fun parts => (makes_ask (hdetect _)).bind fun detections => ?_
  split_ifs
  · exact makes_pure _
  · exact htokens.bind fun _ => (makes_ofExcept _).bind fun _ => makes_pure _

theorem makes_handleOutputDetection {ctx : GatewayContext} {headers : HeaderMap}
    {tasks : Option (List T)} {call : T → DetectionCall}
    {respond : List (T × List Detection) → R}
    (hdetect : ∀ call answer, P ⟨⟨headers, .detect call⟩, answer⟩) :
    Makes P (handleOutputDetection ctx headers tasks call respond) :=
  (makes_ofExcept _).bind fun _ => (makes_callAll fun _ => hdetect _).bind fun _ =>
    (makes_ofExcept _).bind fun _ => makes_pure _

end Makes

/-! ### Input detection -/

/-- How input detection can go: nothing is asked, the detectors fail, they find nothing, or they
find something and the tokens are counted. -/
inductive InputRun {R : Type} (headers : HeaderMap) (detectors : IterMap DetectorId DetectorParams)
    (inputs : Except Failure (List (ℕ × String))) (tokens : Handler ℕ)
    (respond : List Detection → ℕ → Except Failure R) :
    List CallEvent → Except Failure (Option R) → Prop
  | unasked {failure : Failure} (hinputs : inputs = .error failure) :
    InputRun headers detectors inputs tokens respond [] (.error failure)
  | failed {parts : List (ℕ × String)} {failure : Failure} (hinputs : inputs = .ok parts) :
    InputRun headers detectors inputs tokens respond
      [⟨⟨headers, .detect (.textContents detectors parts)⟩, .error failure⟩] (.error failure)
  | clear {parts : List (ℕ × String)} (hinputs : inputs = .ok parts) :
    InputRun headers detectors inputs tokens respond
      [⟨⟨headers, .detect (.textContents detectors parts)⟩, .ok []⟩] (.ok none)
  | flagged {parts : List (ℕ × String)} {detections : List Detection} {w : List CallEvent}
    {count : Except Failure ℕ} (hinputs : inputs = .ok parts) (hne : detections ≠ [])
    (hcount : Runs tokens w count) :
    InputRun headers detectors inputs tokens respond
      (⟨⟨headers, .detect (.textContents detectors parts)⟩, .ok detections⟩ :: w)
      (count.bind fun n => (respond detections n).map some)

theorem inputRun_of_runs {R : Type} {headers : HeaderMap}
    {detectors : IterMap DetectorId DetectorParams} {inputs : Except Failure (List (ℕ × String))}
    {tokens : Handler ℕ} {respond : List Detection → ℕ → Except Failure R} {w : List CallEvent}
    {result : Except Failure (Option R)}
    (h : Runs (handleInputDetection headers detectors inputs tokens respond) w result) :
    InputRun headers detectors inputs tokens respond w result := by
  rw [handleInputDetection, runs_bind_iff] at h
  simp only [runs_ofExcept_iff] at h
  rcases h with ⟨failure, ⟨rfl, hinputs⟩, rfl⟩ | ⟨parts, -, w, rfl, ⟨rfl, hinputs⟩, h⟩
  · exact .unasked hinputs.symm
  rw [runs_bind_iff] at h
  simp only [runs_detections_iff] at h
  rcases h with ⟨failure, rfl, rfl⟩ | ⟨detections, -, w₂, rfl, rfl, h⟩
  · exact .failed hinputs.symm
  split_ifs at h with hempty
  · obtain ⟨rfl, rfl⟩ := runs_pure_iff.mp h
    obtain rfl := List.isEmpty_iff.mp hempty
    exact .clear hinputs.symm
  -- the result is that of counting the tokens, and then of building the response
  have hne : detections ≠ [] := by simpa using hempty
  rw [runs_bind_iff] at h
  rcases h with ⟨failure, hcount, rfl⟩ | ⟨n, w₁, w₃, rfl, hcount, h⟩
  · exact .flagged hinputs.symm hne hcount
  · rw [runs_bind_iff] at h
    simp only [runs_ofExcept_iff, runs_pure_iff] at h
    have hrun : InputRun headers detectors inputs tokens respond _ _ :=
      .flagged hinputs.symm hne hcount
    rcases h with ⟨failure, ⟨rfl, hrespond⟩, rfl⟩ | ⟨r, -, -, rfl, ⟨rfl, hrespond⟩, rfl, rfl⟩
    · simpa [Except.bind, ← hrespond, Except.map] using hrun
    · simpa [Except.bind, ← hrespond, Except.map] using hrun

theorem runs_of_inputRun {R : Type} {headers : HeaderMap}
    {detectors : IterMap DetectorId DetectorParams} {inputs : Except Failure (List (ℕ × String))}
    {tokens : Handler ℕ} {respond : List Detection → ℕ → Except Failure R} {w : List CallEvent}
    {result : Except Failure (Option R)}
    (h : InputRun headers detectors inputs tokens respond w result) :
    Runs (handleInputDetection headers detectors inputs tokens respond) w result := by
  rw [handleInputDetection, runs_bind_iff]
  simp only [runs_ofExcept_iff]
  -- the binds of input detection, one after the other
  cases h with
  | unasked hinputs => exact Or.inl ⟨_, ⟨rfl, hinputs.symm⟩, rfl⟩
  | failed hinputs =>
    refine Or.inr ⟨_, [], _, rfl, ⟨rfl, hinputs.symm⟩, runs_bind_iff.mpr (Or.inl ⟨_, ?_, rfl⟩)⟩
    exact runs_detections_iff.mpr rfl
  | clear hinputs =>
    refine Or.inr ⟨_, [], _, rfl, ⟨rfl, hinputs.symm⟩, ?_⟩
    refine runs_bind_iff.mpr (Or.inr ⟨_, [_], [], rfl, runs_detections_iff.mpr rfl, ?_⟩)
    exact runs_pure_iff.mpr ⟨rfl, rfl⟩
  | @flagged parts detections w count hinputs hne hcount =>
    refine Or.inr ⟨_, [], _, rfl, ⟨rfl, hinputs.symm⟩, ?_⟩
    refine runs_bind_iff.mpr (Or.inr ⟨_, [_], w, rfl, runs_detections_iff.mpr rfl, ?_⟩)
    rw [if_neg (by simpa using hne)]
    cases count with
    | error failure => exact runs_bind_iff.mpr (Or.inl ⟨failure, hcount, rfl⟩)
    | ok n =>
      refine runs_bind_iff.mpr (Or.inr ⟨n, w, [], by simp, hcount, runs_bind_iff.mpr ?_⟩)
      cases hrespond : respond detections n with
      | error failure => exact Or.inl ⟨failure, by simp, by simp [Except.bind, hrespond, Except.map]⟩
      | ok r =>
        exact Or.inr ⟨r, [], [], rfl, by simp, by simp [Except.bind, hrespond, Except.map]⟩

/-! ### Requests to language models -/

/-- How a request to a language model can go: it is rejected, it ends with input detection, it ends
with generation, or the output is processed. -/
inductive GuardedRun {G R : Type} (validated : Except Error Unit) (hasInput : Bool)
    (inputDetection : Handler (Option R)) (generation : Handler G) (output : G → Handler R) :
    List CallEvent → Except Failure R → Prop
  | rejected {failure : Failure} (hrejected : Failure.ofExcept validated = .error failure) :
    GuardedRun validated hasInput inputDetection generation output [] (.error failure)
  | inputFailed {w : List CallEvent} {failure : Failure} (hinput : hasInput = true)
    (hrun : Runs inputDetection w (.error failure)) (hvalid : validated = .ok ()) :
    GuardedRun validated hasInput inputDetection generation output w (.error failure)
  | flagged {w : List CallEvent} {response : R} (hinput : hasInput = true)
    (hrun : Runs inputDetection w (.ok (some response))) (hvalid : validated = .ok ()) :
    GuardedRun validated hasInput inputDetection generation output w (.ok response)
  | ungenerated {w₁ w₂ : List CallEvent} {failure : Failure}
    (hinput : if hasInput then Runs inputDetection w₁ (.ok none) else w₁ = [])
    (hrun : Runs generation w₂ (.error failure)) (hvalid : validated = .ok ()) :
    GuardedRun validated hasInput inputDetection generation output (w₁ ++ w₂) (.error failure)
  | generated {w₁ w₂ w₃ : List CallEvent} {g : G} {result : Except Failure R}
    (hinput : if hasInput then Runs inputDetection w₁ (.ok none) else w₁ = [])
    (hrun : Runs generation w₂ (.ok g)) (houtput : Runs (output g) w₃ result)
    (hvalid : validated = .ok ()) :
    GuardedRun validated hasInput inputDetection generation output (w₁ ++ (w₂ ++ w₃)) result

section Guarded

variable {G R : Type} {validated : Except Error Unit}
  {inputDetectors outputDetectors : IterMap DetectorId DetectorParams}
  {inputDetection : Handler (Option R)} {generation : Handler G} {outputDetection : G → Handler R}
  {withoutDetection : G → R} {w : List CallEvent} {result : Except Failure R}

/-- What holds of the calls of an input detection that finds nothing, if there is one. -/
theorem forall_of_screened {P : CallEvent → Prop} {hasInput : Bool}
    (hinput : Strict P inputDetection)
    (h : if hasInput then Runs inputDetection w (.ok none) else w = []) : ∀ e ∈ w, P e := by
  split_ifs at h
  · exact hinput w _ h
  · simp [h]

theorem guardedRun_of_runs (h : Runs (guarded validated inputDetectors outputDetectors
      inputDetection generation outputDetection withoutDetection) w result) :
    GuardedRun validated (!inputDetectors.isEmpty) inputDetection generation
      (fun g => if outputDetectors.isEmpty then pure (withoutDetection g) else outputDetection g)
      w result := by
  rw [guarded, runs_bind_iff] at h
  simp only [runs_ofExcept_iff] at h
  rcases h with ⟨failure, ⟨rfl, hrejected⟩, rfl⟩ | ⟨u, -, w, rfl, ⟨rfl, hvalid⟩, h⟩
  · exact .rejected hrejected.symm
  have hvalid : validated = .ok () := Failure.ofExcept_eq_ok_iff.mp hvalid.symm
  -- the rest is the same for a skipped input detection and for one that finds nothing
  have hrest : ∀ w₁ w₂, (if (!inputDetectors.isEmpty) = true then
      Runs inputDetection w₁ (.ok none) else w₁ = []) →
      Runs (generation >>= fun g => if outputDetectors.isEmpty then pure (withoutDetection g)
        else outputDetection g) w₂ result →
      GuardedRun validated (!inputDetectors.isEmpty) inputDetection generation
        (fun g => if outputDetectors.isEmpty then pure (withoutDetection g) else outputDetection g)
        (w₁ ++ w₂) result := by
    intro w₁ w₂ hinput hgeneration
    rcases runs_bind_iff.mp hgeneration with ⟨failure, hrun, rfl⟩ | ⟨g, w₂, w₃, rfl, hrun, houtput⟩
    · exact .ungenerated hinput hrun hvalid
    · exact .generated hinput hrun houtput hvalid
  rw [List.nil_append]
  by_cases hempty : inputDetectors.isEmpty = true
  · rw [if_pos hempty] at h
    rcases runs_bind_iff.mp h with ⟨failure, hfirst, -⟩ | ⟨flagged, w₁, w₂, rfl, hfirst, h⟩
    · simp at hfirst
    · obtain ⟨rfl, hflagged⟩ := runs_pure_iff.mp hfirst
      obtain rfl := Except.ok.inj hflagged
      exact hrest [] w₂ (by simp [hempty]) h
  · rw [if_neg hempty] at h
    rcases runs_bind_iff.mp h with ⟨failure, hfirst, rfl⟩ | ⟨flagged, w₁, w₂, rfl, hfirst, h⟩
    · exact .inputFailed (by simpa using hempty) hfirst hvalid
    · cases flagged with
      | none => exact hrest w₁ w₂ (by simpa [hempty] using hfirst) h
      | some response =>
        obtain ⟨rfl, rfl⟩ := runs_pure_iff.mp h
        rw [List.append_nil]
        exact .flagged (by simpa using hempty) hfirst hvalid

theorem runs_of_guardedRun (h : GuardedRun validated (!inputDetectors.isEmpty) inputDetection
      generation
      (fun g => if outputDetectors.isEmpty then pure (withoutDetection g) else outputDetection g)
      w result) :
    Runs (guarded validated inputDetectors outputDetectors inputDetection generation
      outputDetection withoutDetection) w result := by
  rw [guarded, runs_bind_iff]
  simp only [runs_ofExcept_iff]
  have hvalidated : validated = .ok () → .ok () = Failure.ofExcept validated :=
    fun hvalid => (Failure.ofExcept_eq_ok_iff.mpr hvalid).symm
  -- the runs of a sequence of binds, put together from behind
  cases h with
  | rejected hrejected => exact Or.inl ⟨_, ⟨rfl, hrejected.symm⟩, rfl⟩
  | inputFailed hinput hrun hvalid =>
    refine Or.inr ⟨(), [], w, rfl, ⟨rfl, hvalidated hvalid⟩, ?_⟩
    rw [if_neg (by simpa using hinput)]
    exact runs_bind_iff.mpr (Or.inl ⟨_, hrun, rfl⟩)
  | flagged hinput hrun hvalid =>
    refine Or.inr ⟨(), [], w, rfl, ⟨rfl, hvalidated hvalid⟩, ?_⟩
    rw [if_neg (by simpa using hinput)]
    refine runs_bind_iff.mpr (Or.inr ⟨_, w, [], by simp, hrun, ?_⟩)
    exact runs_pure_iff.mpr ⟨rfl, rfl⟩
  | @ungenerated w₁ w₂ failure hinput hrun hvalid =>
    refine Or.inr ⟨(), [], _, rfl, ⟨rfl, hvalidated hvalid⟩, ?_⟩
    have hrest : Runs (generation >>= fun g => if outputDetectors.isEmpty then
        pure (withoutDetection g) else outputDetection g) w₂ (.error failure) :=
      runs_bind_iff.mpr (Or.inl ⟨failure, hrun, rfl⟩)
    by_cases hempty : inputDetectors.isEmpty = true
    · obtain rfl : w₁ = [] := by simpa [hempty] using hinput
      rw [if_pos hempty]
      exact runs_bind_iff.mpr (Or.inr ⟨none, [], w₂, rfl, runs_pure_iff.mpr ⟨rfl, rfl⟩, hrest⟩)
    · rw [if_neg hempty]
      exact runs_bind_iff.mpr (Or.inr ⟨none, w₁, w₂, rfl, by simpa [hempty] using hinput, hrest⟩)
  | @generated w₁ w₂ w₃ g result hinput hrun houtput hvalid =>
    refine Or.inr ⟨(), [], _, rfl, ⟨rfl, hvalidated hvalid⟩, ?_⟩
    have hrest : Runs (generation >>= fun g => if outputDetectors.isEmpty then
        pure (withoutDetection g) else outputDetection g) (w₂ ++ w₃) result :=
      runs_bind_iff.mpr (Or.inr ⟨g, w₂, w₃, rfl, hrun, houtput⟩)
    by_cases hempty : inputDetectors.isEmpty = true
    · obtain rfl : w₁ = [] := by simpa [hempty] using hinput
      rw [if_pos hempty]
      exact runs_bind_iff.mpr
        (Or.inr ⟨none, [], w₂ ++ w₃, rfl, runs_pure_iff.mpr ⟨rfl, rfl⟩, hrest⟩)
    · rw [if_neg hempty]
      exact runs_bind_iff.mpr
        (Or.inr ⟨none, w₁, w₂ ++ w₃, rfl, by simpa [hempty] using hinput, hrest⟩)

end Guarded

/-- The call is not one to a language model. -/
def NotGeneration (event : CallEvent) : Prop := event.1.operation.isGeneration = false

/-! ### Tasks -/

namespace UnaryTask

/-- The detectors of the input. -/
def inputDetectors : UnaryTask → IterMap DetectorId DetectorParams
  | .classificationWithGen task => task.guardrailsConfig.inputDetectors
  | .chatCompletions task => task.request.detectors.input
  | .completions task => task.request.detectors.input
  | _ => .empty

/-- What the detectors of the input are to examine. -/
def screened : UnaryTask → Except Failure (List (ℕ × String))
  | .classificationWithGen task => applyMasks task.inputs task.guardrailsConfig.inputMasks
  | .chatCompletions task => task.lastMessage.map fun message => [(0, message.2)]
  | .completions task => applyMasks task.request.prompt task.request.promptMasks
  | _ => .ok []

/-- The call to a language model. -/
def generationCall : UnaryTask → Option Call
  | .classificationWithGen task =>
    some ⟨task.headers, .generate task.modelId task.inputs task.textGenParameters⟩
  | .chatCompletions task => some ⟨withJsonContentType task.headers, .chatCompletion task.request⟩
  | .completions task => some ⟨withJsonContentType task.headers, .completion task.request⟩
  | .generationWithDetection task =>
    some ⟨task.headers, .generate task.modelId task.prompt task.textGenParameters⟩
  | _ => none

/-- The call that counts the tokens of an input with detections. -/
def tokenCall : UnaryTask → Option Call
  | .classificationWithGen task => some ⟨task.headers, .tokenize task.modelId task.inputs⟩
  | .chatCompletions task => task.lastMessage.toOption.map fun message =>
    ⟨withJsonContentType task.headers, .tokenizeOpenai task.request.model message.2⟩
  | .completions task =>
    some ⟨withJsonContentType task.headers, .tokenizeOpenai task.request.model task.request.prompt⟩
  | _ => none

/-- The input detectors have been asked about the input. -/
def screenEvent (task : UnaryTask) (inputs : List (ℕ × String)) (detections : List Detection) :
    CallEvent :=
  ⟨⟨task.headers, .detect (.textContents task.inputDetectors inputs)⟩, .ok detections⟩

end UnaryTask

namespace UnaryResponse

/-- The texts of a language model. -/
def texts : UnaryResponse → List String
  | .classified result => result.generatedText.toList
  | .chatCompletion response => response.choices.flatMap (·.message.texts)
  | .completion response => response.choices.map (·.text)
  | .generation result => [result.generatedText]
  | _ => []

/-- The response has these detections on the input, and a warning. -/
def ReportsInput (detections : List Detection) : UnaryResponse → Prop
  | .classified result =>
    result.tokenClassificationResults.input =
        detections.mapM TokenClassificationResult.ofDetection ∧
      result.warnings = some [.unsuitableInput]
  | .chatCompletion response =>
    response.detections.map (·.input.flatMap (·.results)) = some detections ∧
      response.warnings = [⟨.unsuitableInput, unsuitableInputMessage⟩]
  | .completion response =>
    response.detections.map (·.input.flatMap (·.results)) = some detections ∧
      response.warnings = [⟨.unsuitableInput, unsuitableInputMessage⟩]
  | _ => False

end UnaryResponse

open UnaryTask

/-- Input detection that has found nothing has asked its detectors and nothing else. -/
theorem InputRun.eq_of_none {R : Type} {headers : HeaderMap}
    {detectors : IterMap DetectorId DetectorParams} {inputs : Except Failure (List (ℕ × String))}
    {tokens : Handler ℕ} {respond : List Detection → ℕ → Except Failure R} {w : List CallEvent}
    (h : InputRun headers detectors inputs tokens respond w (.ok none)) :
    ∃ parts, inputs = .ok parts ∧
      w = [⟨⟨headers, .detect (.textContents detectors parts)⟩, .ok []⟩] := by
  generalize hresult : (.ok none : Except Failure (Option R)) = result at h
  cases h with
  | unasked _ => simp at hresult
  | failed _ => simp at hresult
  | clear hinputs => exact ⟨_, hinputs, rfl⟩
  | @flagged parts detections w count hinputs hne hcount =>
    cases count with
    | error failure => simp [Except.bind] at hresult
    | ok n =>
      cases hrespond : respond detections n with
      | error failure => simp [Except.bind, hrespond, Except.map] at hresult
      | ok r => simp [Except.bind, hrespond, Except.map] at hresult

/-- A response does not change the calls of its handler. -/
theorem exists_runs_of_respond {R : Type} {response : R → UnaryResponse} {handler : Handler R}
    {w : List CallEvent} {result : Except Failure UnaryResponse}
    (h : Runs (respond response handler) w result) :
    ∃ result', Runs handler w result' ∧ result = result'.map response := by
  rcases runs_bind_iff.mp h with ⟨failure, hrun, rfl⟩ | ⟨r, w₁, w₂, rfl, hrun, h⟩
  · exact ⟨_, hrun, rfl⟩
  · obtain ⟨rfl, rfl⟩ := runs_pure_iff.mp h
    rw [List.append_nil]
    exact ⟨_, hrun, rfl⟩

theorem exists_runs_of_respond_ok {R : Type} {response : R → UnaryResponse} {handler : Handler R}
    {w : List CallEvent} {r : UnaryResponse} (h : Runs (respond response handler) w (.ok r)) :
    ∃ r', Runs handler w (.ok r') ∧ r = response r' := by
  obtain ⟨result, hrun, heq⟩ := exists_runs_of_respond h
  cases result with
  | error failure => simp [Except.map] at heq
  | ok r' => exact ⟨r', hrun, Except.ok.inj heq⟩

/-- Detection is not a call to a language model. -/
theorem notGeneration_detect (headers : HeaderMap) (call : DetectionCall)
    (answer : Call.Answer ⟨headers, .detect call⟩) :
    NotGeneration ⟨⟨headers, .detect call⟩, answer⟩ :=
  rfl

/-- The handlers without a language model ask none. -/
theorem makes_detection {R : Type} {ctx : GatewayContext} {headers : HeaderMap}
    {detectors : IterMap DetectorId DetectorParams} {supportedType : DetectorType}
    {call : DetectionCall} {respond : List Detection → Except Failure R} {P : CallEvent → Prop}
    (hdetect : ∀ call answer, P ⟨⟨headers, .detect call⟩, answer⟩) :
    Makes P (detection ctx headers detectors supportedType call respond) :=
  (makes_ofExcept _).bind fun _ => (makes_ask (hdetect _)).bind fun _ => makes_ofExcept _

namespace ClassificationWithGenTask

variable {ctx : GatewayContext} {task : ClassificationWithGenTask}

theorem makes_output (generation : ClassifiedGeneratedTextResult) :
    Makes NotGeneration (if task.guardrailsConfig.outputDetectors.isEmpty then pure (id generation)
      else task.outputDetection generation) := by
  split_ifs
  · exact makes_pure _
  · exact (makes_ask (notGeneration_detect _ _)).bind fun _ => makes_ofExcept _

end ClassificationWithGenTask

namespace ChatCompletionsDetectionTask

variable {ctx : GatewayContext} {task : ChatCompletionsDetectionTask}

theorem makes_output (chatCompletion : ChatCompletion) :
    Makes NotGeneration (if task.request.detectors.output.isEmpty then pure (id chatCompletion)
      else task.outputDetection ctx chatCompletion) := by
  split_ifs
  · exact makes_pure _
  · exact makes_handleOutputDetection (notGeneration_detect _)

/-- Input detection is about the last message. -/
theorem inputRun_of_runs {w : List CallEvent} {result : Except Failure (Option ChatCompletion)}
    (h : Runs (task.inputDetection ctx) w result) :
    InputRun task.headers task.request.detectors.input
      (task.lastMessage.map fun message => [(0, message.2)])
      (withClient ctx.hasOpenAiClient (Handler.tokenizeOpenai task.headers task.request.model
        (task.lastMessage.toOption.getD default).2))
      (fun detections promptTokens => .ok (task.inputResponse ctx
        (task.lastMessage.toOption.getD default).1 detections promptTokens)) w result := by
  rcases runs_bind_iff.mp h with ⟨failure, hfirst, rfl⟩ | ⟨message, w₁, w₂, rfl, hfirst, hrest⟩
  · obtain ⟨rfl, hmessage⟩ := runs_ofExcept_iff.mp hfirst
    rw [← hmessage]
    exact .unasked rfl
  · obtain ⟨rfl, hmessage⟩ := runs_ofExcept_iff.mp hfirst
    rw [← hmessage]
    exact GuardrailsOrchestrator.inputRun_of_runs hrest

/-- If there is something to examine, its tokens can be counted. -/
theorem tokenCall_of_screened {inputs : List (ℕ × String)}
    (h : (UnaryTask.chatCompletions task).screened = .ok inputs) :
    (UnaryTask.chatCompletions task).tokenCall = some ⟨withJsonContentType task.headers,
      .tokenizeOpenai task.request.model (task.lastMessage.toOption.getD default).2⟩ := by
  cases hmessage : task.lastMessage with
  | error failure => simp [screened, hmessage, Except.map] at h
  | ok message => simp [tokenCall, hmessage, Except.toOption]

end ChatCompletionsDetectionTask

namespace GenerationWithDetectionTask

variable {ctx : GatewayContext} {task : GenerationWithDetectionTask}

/-- There is no input detection. -/
theorem guardedRun_of_runs {w : List CallEvent}
    {result : Except Failure GenerationWithDetectionResult} (h : Runs (task.handle ctx) w result) :
    GuardedRun (validateDetectors task.detectors ctx.config.detectors [.textGeneration] true) false
      (pure none) (withClient ctx.hasGenerationClient
      (Handler.generate task.headers task.modelId task.prompt task.textGenParameters))
      task.outputDetection w result := by
  rw [handle, runs_bind_iff] at h
  simp only [runs_ofExcept_iff] at h
  rcases h with ⟨failure, ⟨rfl, hrejected⟩, rfl⟩ | ⟨u, -, w, rfl, ⟨rfl, hvalid⟩, h⟩
  · exact .rejected hrejected.symm
  have hvalid := Failure.ofExcept_eq_ok_iff.mp hvalid.symm
  rcases runs_bind_iff.mp h with ⟨failure, hrun, rfl⟩ | ⟨g, w₂, w₃, rfl, hrun, houtput⟩
  · exact .ungenerated rfl hrun hvalid
  · exact .generated rfl hrun houtput hvalid

theorem makes_outputDetection (generation : ClassifiedGeneratedTextResult) :
    Makes NotGeneration (task.outputDetection generation) :=
  (makes_ask (notGeneration_detect _ _)).bind fun _ => makes_pure _

end GenerationWithDetectionTask

namespace CompletionsDetectionTask

variable {ctx : GatewayContext} {task : CompletionsDetectionTask}

theorem makes_output (completion : Completion) :
    Makes NotGeneration (if task.request.detectors.output.isEmpty then pure (id completion)
      else task.outputDetection ctx completion) := by
  split_ifs
  · exact makes_pure _
  · exact makes_handleOutputDetection (notGeneration_detect _)

end CompletionsDetectionTask

theorem ClassificationWithGenTask.reportsInput_of_inputResponse {detections : List Detection}
    {n : ℕ} {response : ClassifiedGeneratedTextResult}
    (h : inputResponse detections n = .ok response) :
    (UnaryResponse.classified response).texts = [] ∧
      (UnaryResponse.classified response).ReportsInput detections := by
  obtain ⟨input, hinput, h⟩ := Except.bind_eq_ok_iff.mp h
  obtain rfl := Except.ok.inj h
  exact ⟨rfl, (Failure.unwrap_eq_ok_iff.mp hinput).symm, rfl⟩

/-! ### Screened requests -/

/-- What is examined of a request, and what is called for it besides. -/
structure Screening where
  headers : HeaderMap
  inputDetectors : IterMap DetectorId DetectorParams
  /-- What the detectors of the input are to examine. -/
  screened : Except Failure (List (ℕ × String))
  /-- The call that counts the tokens of an input with detections. -/
  tokenCall : Option Call
  /-- The call to a language model. -/
  generationCall : Option Call
  isGeneration_tokenCall : ∀ call, tokenCall = some call → call.operation.isGeneration = false

namespace Screening

variable (s : Screening)

/-- The input detectors have been asked about the input. -/
def event (inputs : List (ℕ × String)) (detections : List Detection) : CallEvent :=
  ⟨⟨s.headers, .detect (.textContents s.inputDetectors inputs)⟩, .ok detections⟩

/-- The input detectors, if there are any, have been asked about the input, and have found
nothing. -/
def Cleared (w : List CallEvent) : Prop :=
  if s.inputDetectors.isEmpty then w = []
  else ∃ inputs, s.screened = .ok inputs ∧ w = [s.event inputs []]

/-- What is called once the input may pass: the language model, if there is one and a client for it,
and no language model after that. -/
def Proceeds (w : List CallEvent) (isOk : Bool) : Prop :=
  match s.generationCall with
  | none => ∀ e ∈ w, NotGeneration e
  | some call => (w = [] ∧ isOk = false) ∨
    ∃ answer w', w = ⟨call, answer⟩ :: w' ∧ ∀ e ∈ w', NotGeneration e

theorem notGeneration_of_cleared {w : List CallEvent} (h : s.Cleared w) :
    ∀ e ∈ w, NotGeneration e := by
  rw [Cleared] at h
  split_ifs at h
  · simp [h]
  · obtain ⟨inputs, -, rfl⟩ := h
    simp [event, NotGeneration, Operation.isGeneration]

end Screening

/-- How a request can go: it is rejected, the input detectors fail, they find something and it is
reported, or the input may pass. -/
inductive ScreenedRun {α : Type} (s : Screening) (Reports : List Detection → α → Prop) :
    List CallEvent → Except Failure α → Prop
  | rejected (failure : Failure) : ScreenedRun s Reports [] (.error failure)
  | failed {inputs : List (ℕ × String)} {failure : Failure} (hinputs : s.screened = .ok inputs) :
    ScreenedRun s Reports
      [⟨⟨s.headers, .detect (.textContents s.inputDetectors inputs)⟩, .error failure⟩]
      (.error failure)
  | flagged {inputs : List (ℕ × String)} {detections : List Detection} {w : List CallEvent}
    {result : Except Failure α} (hinputs : s.screened = .ok inputs)
    (hne : detections ≠ []) (hcount : w = [] ∨ ∃ event, w = [event] ∧ s.tokenCall = some event.1)
    (hresponse : ∀ response, result = .ok response → Reports detections response) :
    ScreenedRun s Reports (s.event inputs detections :: w) result
  | passed {w₁ w₂ : List CallEvent} {result : Except Failure α}
    (hcleared : s.Cleared w₁) (hproceeds : s.Proceeds w₂ result.isOk) :
    ScreenedRun s Reports (w₁ ++ w₂) result

/-- A handler is the input detection of a request: it counts the tokens of the input if something is
found, and its response reports what was. -/
structure Screens {R α : Type} (s : Screening) (Reports : List Detection → α → Prop)
    (inputDetection : Handler (Option R)) (response : R → α) (tokens : Handler ℕ)
    (respond : List Detection → ℕ → Except Failure R) : Prop where
  inputRun : ∀ {w r}, Runs inputDetection w r →
    InputRun s.headers s.inputDetectors s.screened tokens respond w r
  count : ∀ {w n inputs}, Runs tokens w n → s.screened = .ok inputs →
    w = [] ∨ ∃ event, w = [event] ∧ s.tokenCall = some event.1
  reports : ∀ {detections n a}, respond detections n = .ok a → Reports detections (response a)

section Screened

variable {R α : Type} {s : Screening} {Reports : List Detection → α → Prop} {w : List CallEvent}
  {inputDetection : Handler (Option R)} {response : R → α}

/-- Counting tokens is one call to the tokenizer, or none without a client. -/
theorem eq_of_runs_tokens {isPresent : Bool} {call : Call} {read : call.Answer → Except Failure ℕ}
    {n : Except Failure ℕ} (h : Runs (withClient isPresent (ask call read)) w n)
    (hcall : s.tokenCall = some call) :
    w = [] ∨ ∃ event, w = [event] ∧ s.tokenCall = some event.1 := by
  rcases eq_of_runs_withClient_ask h with rfl | ⟨answer, rfl⟩
  · exact Or.inl rfl
  · exact Or.inr ⟨_, rfl, hcall⟩

/-- Input detection that does not end with nothing found. -/
theorem Screens.screenedRun {tokens : Handler ℕ} {respond : List Detection → ℕ → Except Failure R}
    (h : Screens s Reports inputDetection response tokens respond) {r : Except Failure (Option R)}
    {result : Except Failure α} (hrun : Runs inputDetection w r) (hnone : r ≠ .ok none)
    (herror : ∀ failure, r = .error failure → result = .error failure)
    (hok : ∀ a, r = .ok (some a) → result = .ok (response a)) :
    ScreenedRun s Reports w result := by
  cases h.inputRun hrun with
  | unasked _ =>
    rw [herror _ rfl]
    exact .rejected _
  | failed hinputs =>
    rw [herror _ rfl]
    exact .failed hinputs
  | clear _ => exact absurd rfl hnone
  -- the response is made only if counting the tokens has succeeded
  | @flagged parts detections w count hinputs hne hcount =>
    refine .flagged hinputs hne (h.count hcount hinputs) ?_
    intro response' hresult
    cases count with
    | error failure => simp [herror failure rfl] at hresult
    | ok n =>
      cases ha : respond detections n with
      | error failure =>
        rw [herror failure (by simp [Except.bind, ha, Except.map])] at hresult
        simp at hresult
      | ok a =>
        rw [hok a (by simp [Except.bind, ha, Except.map])] at hresult
        obtain rfl := Except.ok.inj hresult
        exact h.reports ha

/-- A request to a language model is screened. -/
theorem screenedRun_of_guardedRun {G : Type} {validated : Except Error Unit} {isPresent : Bool}
    {call : Call} {read : call.Answer → Except Failure G} {output : G → Handler R}
    {r : Except Failure R}
    (h : GuardedRun validated (!s.inputDetectors.isEmpty) inputDetection
      (withClient isPresent (ask call read)) output w r)
    (hcall : s.generationCall = some call)
    (hscreens : s.inputDetectors.isEmpty = false →
      ∃ tokens respond, Screens s Reports inputDetection response tokens respond)
    (houtput : ∀ g, Makes NotGeneration (output g)) :
    ScreenedRun s Reports w (r.map response) := by
  -- input detection that finds nothing is its one call
  have hcleared : ∀ {w₁}, (if (!s.inputDetectors.isEmpty) = true then
      Runs inputDetection w₁ (.ok none) else w₁ = []) → s.Cleared w₁ := by
    intro w₁ hrun
    cases hempty : s.inputDetectors.isEmpty with
    | true => simpa [Screening.Cleared, hempty] using hrun
    | false =>
      have hrun : Runs inputDetection w₁ (.ok none) := by simpa [hempty] using hrun
      obtain ⟨tokens, respond, hscreens⟩ := hscreens hempty
      simpa [Screening.Cleared, hempty, Screening.event] using (hscreens.inputRun hrun).eq_of_none
  cases h with
  | rejected _ => exact .rejected _
  | inputFailed hinput hrun =>
    obtain ⟨tokens, respond, hscreens⟩ := hscreens (by simpa using hinput)
    refine hscreens.screenedRun hrun (by simp) ?_ (by simp)
    intro failure heq
    rw [Except.error.inj heq]
    rfl
  | flagged hinput hrun =>
    obtain ⟨tokens, respond, hscreens⟩ := hscreens (by simpa using hinput)
    refine hscreens.screenedRun hrun (by simp) (by simp) ?_
    intro a heq
    rw [Option.some.inj (Except.ok.inj heq)]
    rfl
  -- the client for the model may be missing, in which case nothing is called
  | @ungenerated w₁ w₂ failure hscreen hgenerate =>
    refine .passed (hcleared hscreen) ?_
    rw [Screening.Proceeds, hcall]
    rcases eq_of_runs_withClient_ask hgenerate with rfl | ⟨answer, rfl⟩
    · exact Or.inl ⟨rfl, rfl⟩
    · exact Or.inr ⟨answer, [], rfl, by simp⟩
  | @generated w₁ w₂ w₃ g r hscreen hgenerate hout =>
    refine .passed (hcleared hscreen) ?_
    rw [Screening.Proceeds, hcall]
    rcases runs_withClient_ask_iff.mp hgenerate with ⟨-, answer, rfl, -⟩ | ⟨-, -, hfalse⟩
    · exact Or.inr ⟨answer, w₃, rfl, houtput g w₃ r hout⟩
    · simp at hfalse

/-- A call to a language model is the one for the request, and the only one. The input has been
cleared before. -/
theorem ScreenedRun.generationCall_eq {w₁ w₂ : List CallEvent} {event : CallEvent}
    {result : Except Failure α} (h : ScreenedRun s Reports w result) (hw : w₁ ++ event :: w₂ = w)
    (hevent : event.1.operation.isGeneration = true) :
    s.generationCall = some event.1 ∧ (∀ e ∈ w₁ ++ w₂, NotGeneration e) ∧ s.Cleared w₁ := by
  have hne : ∀ {events : List CallEvent}, (∀ e ∈ events, NotGeneration e) → event ∉ events := by
    intro events h hmem
    have hfalse := h event hmem
    rw [NotGeneration, hevent] at hfalse
    simp at hfalse
  have hmem : event ∈ w := by simp [← hw]
  -- only a run that has passed the screening asks the model
  cases h with
  | rejected _ => simp at hmem
  | failed _ =>
    obtain rfl := List.mem_singleton.mp hmem
    simp [Operation.isGeneration] at hevent
  | flagged _ _ hcount _ =>
    rcases List.mem_cons.mp hmem with rfl | hmem
    · simp [Screening.event, Operation.isGeneration] at hevent
    · rcases hcount with rfl | ⟨event', rfl, hcall⟩
      · simp at hmem
      · obtain rfl := List.mem_singleton.mp hmem
        simp [s.isGeneration_tokenCall _ hcall] at hevent
  | @passed screen rest result hcleared hproceeds =>
    have hscreen := s.notGeneration_of_cleared hcleared
    have hrest := (List.mem_append.mp hmem).resolve_left (hne hscreen)
    rw [Screening.Proceeds] at hproceeds
    cases hcall : s.generationCall with
    | none =>
      rw [hcall] at hproceeds
      exact absurd hrest (hne hproceeds)
    | some call =>
      rw [hcall] at hproceeds
      rcases hproceeds with ⟨rfl, -⟩ | ⟨answer, rest, rfl, hothers⟩
      · simp at hrest
      · obtain ⟨rfl, rfl, rfl⟩ :=
          (List.append_cons_inj_of_notMem (hne hscreen) (hne hothers)).mp hw.symm
        refine ⟨rfl, ?_, hcleared⟩
        intro e he
        exact (List.mem_append.mp he).elim (hscreen e) (hothers e)

/-- If the input detectors find something, only the tokens of the input are counted, and what was
found is reported. -/
theorem ScreenedRun.reports {inputs : List (ℕ × String)} {detections : List Detection}
    {rest : List CallEvent} {result : Except Failure α} (h : ScreenedRun s Reports w result)
    (hw : s.event inputs detections :: rest = w) (hinput : s.inputDetectors.isEmpty = false)
    (hne : detections ≠ []) :
    s.screened = .ok inputs ∧
      (rest = [] ∨ ∃ event, rest = [event] ∧ s.tokenCall = some event.1) ∧
      ∀ response, result = .ok response → Reports detections response := by
  cases h with
  | rejected _ => simp at hw
  | failed _ => cases hw
  | flagged hinputs _ hcount hresponse =>
    cases hw
    exact ⟨hinputs, hcount, hresponse⟩
  | @passed screen w₂ result hcleared _ =>
    rw [Screening.Cleared, if_neg (by simp [hinput])] at hcleared
    obtain ⟨inputs', -, rfl⟩ := hcleared
    cases hw
    exact absurd rfl hne

end Screened

namespace UnaryTask

/-- Counting tokens is not a call to a language model. -/
theorem isGeneration_tokenCall (task : UnaryTask) (call : Call) (h : task.tokenCall = some call) :
    call.operation.isGeneration = false := by
  cases task with
  | classificationWithGen task | completions task =>
    rw [← Option.some.inj h]
    rfl
  | chatCompletions task =>
    obtain ⟨message, -, rfl⟩ := Option.map_eq_some_iff.mp h
    rfl
  | generationWithDetection task | textContent task | chat task | contextDocs task
  | detectionOnGeneration task => simp [tokenCall] at h

def screening (task : UnaryTask) : Screening :=
  { headers := task.headers
    inputDetectors := task.inputDetectors
    screened := task.screened
    tokenCall := task.tokenCall
    generationCall := task.generationCall
    isGeneration_tokenCall := task.isGeneration_tokenCall }

/-- What a response to an unsuitable input is. -/
def Withholds (detections : List Detection) (response : UnaryResponse) : Prop :=
  response.texts = [] ∧ response.ReportsInput detections

/-- Every request is screened. -/
theorem screenedRun_of_runs {ctx : GatewayContext} {task : UnaryTask} {w : List CallEvent}
    {result : Except Failure UnaryResponse} (hrun : Runs (task.handle ctx) w result) :
    ScreenedRun task.screening Withholds w result := by
  cases task with
  | classificationWithGen task =>
    obtain ⟨r, hhandle, rfl⟩ := exists_runs_of_respond hrun
    refine screenedRun_of_guardedRun (guardedRun_of_runs hhandle) rfl ?_ task.makes_output
    exact fun _ => ⟨_, _, inputRun_of_runs, fun h _ => eq_of_runs_tokens h rfl,
      ClassificationWithGenTask.reportsInput_of_inputResponse⟩
  | chatCompletions task =>
    obtain ⟨r, hhandle, rfl⟩ := exists_runs_of_respond hrun
    refine screenedRun_of_guardedRun (guardedRun_of_runs hhandle) rfl ?_ task.makes_output
    refine fun _ => ⟨_, _, task.inputRun_of_runs,
      fun h hinputs => eq_of_runs_tokens h (task.tokenCall_of_screened hinputs), ?_⟩
    intro detections n a ha
    obtain rfl := Except.ok.inj ha
    simp [Withholds, UnaryResponse.texts, UnaryResponse.ReportsInput,
      ChatCompletionsDetectionTask.inputResponse]
  | completions task =>
    obtain ⟨r, hhandle, rfl⟩ := exists_runs_of_respond hrun
    refine screenedRun_of_guardedRun (guardedRun_of_runs hhandle) rfl ?_ task.makes_output
    refine fun _ => ⟨_, _, inputRun_of_runs, fun h _ => eq_of_runs_tokens h rfl, ?_⟩
    intro detections n a ha
    obtain rfl := Except.ok.inj ha
    simp [Withholds, UnaryResponse.texts, UnaryResponse.ReportsInput,
      CompletionsDetectionTask.inputResponse]
  -- the other endpoints do not examine their input
  | generationWithDetection task =>
    obtain ⟨r, hhandle, rfl⟩ := exists_runs_of_respond hrun
    refine screenedRun_of_guardedRun (task.guardedRun_of_runs hhandle) rfl ?_
      task.makes_outputDetection
    exact fun hinput => absurd hinput
      (by simp [screening, inputDetectors, IterMap.isEmpty, IterMap.empty])
  | textContent task | chat task | contextDocs task | detectionOnGeneration task =>
    obtain ⟨r, hhandle, rfl⟩ := exists_runs_of_respond hrun
    have hnone := makes_detection (notGeneration_detect _) w r hhandle
    rw [← List.nil_append w]
    exact .passed rfl hnone

end UnaryTask

/-- **Screening.** Whatever the services answer, a language model is asked once at most for a
request, and with the request as it came. If there are input detectors, they have been asked before
about the input, and have found nothing. -/
theorem model_asked_after_screening {ctx : GatewayContext} {task : UnaryTask}
    {w₁ w₂ : List CallEvent} {event : CallEvent} {result : Except Failure UnaryResponse}
    (hrun : Runs (task.handle ctx) (w₁ ++ event :: w₂) result)
    (hevent : event.1.operation.isGeneration = true) :
    task.generationCall = some event.1 ∧ (∀ e ∈ w₁ ++ w₂, NotGeneration e) ∧
      if task.inputDetectors.isEmpty then w₁ = []
      else ∃ inputs, task.screened = .ok inputs ∧ w₁ = [task.screenEvent inputs []] := by
  exact (screenedRun_of_runs hrun).generationCall_eq rfl hevent

/-- One detector, of text contents. -/
def regexContext : GatewayContext :=
  { config :=
    { detectors := ⟨[("regex",
      { service := { hostname := "regex" }
        chunkerId := "sentence"
        defaultThreshold := 0
        type := .textContents })], by simp⟩ } }

/-- Services whose detectors always find the same. -/
def servicesFinding (detections : List Detection) (call : Call) : call.Answer :=
  match call with
  | ⟨_, .detect _⟩ => .ok detections
  | ⟨_, .tokenize _ _⟩ => .ok (1, ["Hi"])
  | ⟨_, .generate _ _ _⟩ => .ok { generatedText := some "Hello" }
  | ⟨_, .tokenizeOpenai _ _⟩ => .ok 1
  | ⟨_, .chatCompletion _⟩ => .ok {}
  | ⟨_, .completion _⟩ => .ok { choices := [{ text := "Hello" }] }
  | ⟨_, .generateStream _ _ _⟩ => .ok [.ok { generatedText := some "Hello" }]
  | ⟨_, .chatCompletionStream _⟩ => .ok []
  | ⟨_, .completionStream _⟩ => .ok []

/-- A request with a prompt to examine. -/
def regexTask : UnaryTask := .completions ⟨promptMaskRequest (0, 2), .empty⟩

theorem model_asked_after_screening_clear :
    ∃ event result, Runs (regexTask.handle regexContext)
        ([regexTask.screenEvent [(0, "Hi")] []] ++ event :: []) result ∧
      event.1.operation.isGeneration = true ∧ regexTask.generationCall = some event.1 := by
  have hrun : Runs _ ([regexTask.screenEvent [(0, "Hi")] []] ++ _ :: []) _ :=
    runs_respond (servicesFinding []) (regexTask.handle regexContext)
  exact ⟨_, _, hrun, rfl, (model_asked_after_screening hrun rfl).1⟩

/-- **Flagged input.** If the input detectors find something, nothing else is called than the
tokenizer, and the response has no text of a model: it reports what was found, with a warning. -/
theorem flagged_input_withheld {ctx : GatewayContext} {task : UnaryTask} {w : List CallEvent}
    {inputs : List (ℕ × String)} {detections : List Detection}
    {result : Except Failure UnaryResponse}
    (hrun : Runs (task.handle ctx) (task.screenEvent inputs detections :: w) result)
    (hinput : task.inputDetectors.isEmpty = false) (hne : detections ≠ []) :
    task.screened = .ok inputs ∧
      (w = [] ∨ ∃ event, w = [event] ∧ task.tokenCall = some event.1) ∧
      ∀ response, result = .ok response →
        response.texts = [] ∧ response.ReportsInput detections := by
  exact (screenedRun_of_runs hrun).reports rfl hinput hne

theorem flagged_input_withheld_regex :
    ∃ event result, Runs (regexTask.handle regexContext)
        (regexTask.screenEvent [(0, "Hi")] [{ detection := "EmailAddress" }] :: [event]) result ∧
      regexTask.screened = .ok [(0, "Hi")] := by
  have hrun := runs_respond (servicesFinding [{ detection := "EmailAddress" }])
    (regexTask.handle regexContext)
  refine ⟨_, _, hrun, ?_⟩
  exact (flagged_input_withheld hrun rfl (by simp)).1

end GuardrailsOrchestrator
