import GuardrailsOrchestrator.Gateway.Output

/-!
# The answers of detection services

A detection call stands for requests to several detectors, which are sent concurrently. Three of the
four kinds of detection send one request to each detector and report on a text or a chat as a
whole: they are one definition, for different clients. The answers arrive in any order.

With services that answer each text on its own, what screening decides does not depend on the order
either: a language model is asked exactly if no detector of the input reports anything, on any
chunk, that reaches its threshold.

## Main definitions

* `textGenerationDetections`, `textContextDetections` — detection without positions
* `Services.answer` — the answer to a detection call

## Main results

* `answer_perm` — the order in which answers arrive makes no difference
* `model_asked_iff_nothing_reported` — when a language model is asked
-/

namespace GuardrailsOrchestrator

open Calls UnaryTask

/-! ### Detection without positions -/

/-- The answers of a text generation detector. -/
abbrev GenerationDetectorClient :=
  ℕ → String → String → DetectorParams → Except ClientError (List DetectionResult)

def textGenerationDetections (config : OrchestratorConfig)
    (clients : DetectorId → Option GenerationDetectorClient) (prompt generatedText : String)
    (times : ℕ → ℕ) (detectors : IterMap DetectorId DetectorParams) :
    Except Failure (List Detection) :=
  resultsDetections config
    (fun id => (clients id).map fun client request => client request prompt generatedText) times
    detectors

/-- The answers of a text context detector. -/
abbrev ContextDetectorClient :=
  ℕ → String → ContextType → List String → DetectorParams →
    Except ClientError (List DetectionResult)

def textContextDetections (config : OrchestratorConfig)
    (clients : DetectorId → Option ContextDetectorClient) (content : String)
    (contextType : ContextType) (context : List String) (times : ℕ → ℕ)
    (detectors : IterMap DetectorId DetectorParams) : Except Failure (List Detection) :=
  resultsDetections config
    (fun id => (clients id).map fun client request => client request content contextType context)
    times detectors

/-! ### All services -/

/-- The configuration and the clients of all kinds of detectors. -/
structure Services where
  context : Context
  chatClient : DetectorId → Option ChatDetectorClient
  generationClient : DetectorId → Option GenerationDetectorClient
  contextClient : DetectorId → Option ContextDetectorClient

/-- When answers arrive. -/
structure ArrivalTimes where
  chunk : ℕ → ℕ → ℕ
  detect : ℕ → ℕ

/-- The answer to a detection call. -/
def Services.answer (services : Services) (times : ArrivalTimes) :
    DetectionCall → Except Failure (List Detection)
  | .textContents detectors inputs =>
    textContentsDetections services.context times.chunk times.detect detectors inputs
  | .textGeneration detectors prompt generatedText =>
    textGenerationDetections services.context.config services.generationClient prompt generatedText
      times.detect detectors
  | .textChat detectors messages tools =>
    textChatDetections services.context.config services.chatClient messages tools times.detect
      detectors
  | .textContext detectors content contextType context =>
    textContextDetections services.context.config services.contextClient content contextType context
      times.detect detectors

/-- A detection call is answered by the services. -/
def Services.Answers (services : Services) (event : CallEvent) : Prop :=
  ∀ headers call answer, event = ⟨⟨headers, .detect call⟩, answer⟩ →
    ∃ times, answer = services.answer times call

/-! ### Orders of arrival -/

/-- Results among which there is no error. -/
theorem eq_map_ok_of_notMem {ε α : Type} {tasks : List (Except ε α)}
    (h : ∀ e, .error e ∉ tasks) : tasks = (tasks.filterMap Except.toOption).map .ok := by
  induction tasks with
  | nil => rfl
  | cons task tasks ih =>
    cases task with
    | error e => exact absurd List.mem_cons_self (h e)
    | ok a =>
      have hrest := ih fun e he => h e (List.mem_cons_of_mem _ he)
      rw [List.filterMap_cons_some (f := Except.toOption) rfl, List.map_cons, ← hrest]

/-- Results of concurrent tasks are the same in every order of arrival, or they are errors. -/
theorem bufferUnordered_perm {ε α : Type} (times times' : ℕ → ℕ) (tasks : List (Except ε α)) :
    (∃ e e', bufferUnordered times tasks = .error e ∧ bufferUnordered times' tasks = .error e') ∨
      ∃ results results', bufferUnordered times tasks = .ok results ∧
        bufferUnordered times' tasks = .ok results' ∧ results.Perm results' := by
  by_cases hfails : ∃ e, .error e ∈ tasks
  · obtain ⟨e, he⟩ := hfails
    -- the error is among what arrives
    have harrives : ∀ times, ∃ e', bufferUnordered times tasks = .error e' := by
      intro times
      have hperm := (List.perm_insertionSort (fun a b => times a.2 ≤ times b.2) tasks.zipIdx).map
        Prod.fst
      rw [List.zipIdx_map_fst] at hperm
      exact Except.exists_mapM_eq_error (hperm.mem_iff.mpr he) rfl
    obtain ⟨e₁, h₁⟩ := harrives times
    obtain ⟨e₂, h₂⟩ := harrives times'
    exact Or.inl ⟨e₁, e₂, h₁, h₂⟩
  · have htasks : tasks = (tasks.filterMap Except.toOption).map .ok :=
      eq_map_ok_of_notMem (not_exists.mp hfails)
    obtain ⟨results, hresults, hperm⟩ :=
      exists_bufferUnordered_perm (ε := ε) times (tasks.filterMap Except.toOption)
    obtain ⟨results', hresults', hperm'⟩ :=
      exists_bufferUnordered_perm (ε := ε) times' (tasks.filterMap Except.toOption)
    rw [← htasks] at hresults hresults'
    exact Or.inr ⟨results, results', hresults, hresults', hperm.trans hperm'.symm⟩

/-- A detection of one of the requested detectors, about a text or a chat as a whole, that reaches
the threshold of the detector. -/
def IsResult (config : OrchestratorConfig) (detectors : IterMap DetectorId DetectorParams)
    (d : Detection) : Prop :=
  ∃ id params detectorConfig, detectors.get? id = some params ∧
    config.detector id = some detectorConfig ∧ d.detectorId = some id ∧ d.start = none ∧
    (popThreshold params).1.getD detectorConfig.defaultThreshold ≤ d.score

section Results

variable {config : OrchestratorConfig} {clients : DetectorId → Option ResultsClient}
  {detectors : IterMap DetectorId DetectorParams}

theorem isResult_of_resultsTask {request : ℕ} {detector : DetectorId × DetectorParams}
    (hdetector : detector ∈ detectors.entries) {detections : List Detection}
    (h : resultsTask config clients request detector = .ok detections) :
    ∀ d ∈ detections, IsResult config detectors d := by
  intro d hd
  obtain ⟨hstart, hid, detectorConfig, hconfig, hscore⟩ := of_mem_resultsTask h d hd
  exact ⟨detector.1, detector.2, detectorConfig, IterMap.get?_eq_some_iff.mpr hdetector, hconfig,
    hid, hstart, hscore⟩

/-- The order of arrival makes no difference to which detections are reported. -/
theorem resultsDetections_perm (times times' : ℕ → ℕ) :
    (∃ failure failure', resultsDetections config clients times detectors = .error failure ∧
      resultsDetections config clients times' detectors = .error failure') ∨
    ∃ detections detections', resultsDetections config clients times detectors = .ok detections ∧
      resultsDetections config clients times' detectors = .ok detections' ∧
      detections.Perm detections' ∧ ∀ d ∈ detections, IsResult config detectors d := by
  rcases bufferUnordered_perm times times' (detectors.entries.zipIdx.map fun p =>
    resultsTask config clients p.2 p.1) with ⟨e, e', h, h'⟩ | ⟨rows, rows', h, h', hperm⟩
  · exact Or.inl ⟨e, e', by rw [resultsDetections, h]; rfl, by rw [resultsDetections, h']; rfl⟩
  · refine Or.inr ⟨rows.flatten, rows'.flatten, by rw [resultsDetections, h]; rfl,
      by rw [resultsDetections, h']; rfl, hperm.flatten, ?_⟩
    obtain ⟨arrived, horder, harrived⟩ := exists_perm_of_bufferUnordered h
    intro d hd
    obtain ⟨row, hrow, hd⟩ := List.mem_flatten.mp hd
    obtain ⟨p, hp, htask⟩ := harrived.exists_of_mem_right hrow
    exact isResult_of_resultsTask (List.fst_mem_of_mem_zipIdx (horder.mem_iff.mp hp)) htask d hd

end Results

/-- **Order of arrival.** Except for text contents, a detection call fails whenever the answers
arrive, or it returns the same detections whenever they arrive: of the requested detectors, about
the whole, and reaching the thresholds. -/
theorem answer_perm (services : Services) (call : DetectionCall)
    (hcall : ∀ detectors inputs, call ≠ .textContents detectors inputs)
    (times times' : ArrivalTimes) :
    (∃ failure failure', services.answer times call = .error failure ∧
      services.answer times' call = .error failure') ∨
    ∃ detections detections', services.answer times call = .ok detections ∧
      services.answer times' call = .ok detections' ∧ detections.Perm detections' ∧
      ∀ d ∈ detections, IsResult services.context.config call.detectors d := by
  cases call with
  | textContents detectors inputs => exact absurd rfl (hcall detectors inputs)
  | textGeneration detectors prompt generatedText => exact resultsDetections_perm _ _
  | textChat detectors messages tools => exact resultsDetections_perm _ _
  | textContext detectors content contextType context => exact resultsDetections_perm _ _

/-- Two detectors, of generated texts, that report the same. -/
def greetingServices : Services where
  context := sharedContext
  chatClient _ := none
  generationClient _ := some fun _ _ _ _ => .ok [{ detection := "greeting", score := 1 }]
  contextClient _ := none

theorem answer_perm_greeting :
    ∃ detections detections',
      greetingServices.answer ⟨fun _ i => i, id⟩ (.textGeneration
        ⟨[("hap", .empty), ("pii", .empty)], by decide⟩ "Hi" "Hello") = .ok detections ∧
      greetingServices.answer ⟨fun _ i => i, (1 - ·)⟩ (.textGeneration
        ⟨[("hap", .empty), ("pii", .empty)], by decide⟩ "Hi" "Hello") = .ok detections' ∧
      detections.Perm detections' := by
  rcases answer_perm greetingServices (.textGeneration
      ⟨[("hap", .empty), ("pii", .empty)], by decide⟩ "Hi" "Hello") (by simp)
      ⟨fun _ i => i, id⟩ ⟨fun _ i => i, (1 - ·)⟩ with ⟨_, _, hfalse, -⟩ | ⟨ds, ds', h, h', hperm, -⟩
  · cases hfalse
  · exact ⟨ds, ds', h, h', hperm⟩

/-! ### The decision -/

section Decision

variable {services : Services} {task : UnaryTask} {tokens : ChunkerId → String → List Token}
  {results : DetectorId → DetectorParams → String → List ContentAnalysisResponse}
  {inputs : List (ℕ × String)} {w : List CallEvent}

/-- There is always a part of the input to examine. -/
theorem screened_ne_nil (hinput : task.inputDetectors.isEmpty = false)
    (h : task.screened = .ok inputs) : inputs ≠ [] := by
  -- without masks the whole text is examined, and otherwise one part for each mask
  have hmasks : ∀ {text masks}, applyMasks text masks = .ok inputs → inputs ≠ [] := by
    intro text masks happly
    rcases masks with _ | _ | ⟨mask, masks⟩
    · obtain rfl := Except.ok.inj happly
      simp
    · obtain rfl := Except.ok.inj happly
      simp
    · have hlength := (Except.mapM_eq_ok_iff.mp happly).length_eq
      rintro rfl
      simp at hlength
  cases task with
  | classificationWithGen task | completions task => exact hmasks h
  | chatCompletions task =>
    cases hmessage : task.lastMessage with
    | error failure => simp [screened, hmessage, Except.map] at h
    | ok message =>
      obtain rfl : [(0, message.2)] = inputs := by simpa [screened, hmessage, Except.map] using h
      simp
  | generationWithDetection task | textContent task | chat task | contextDocs task
  | detectionOnGeneration task => simp [inputDetectors, IterMap.isEmpty, IterMap.empty] at hinput

/-- What was found on the input is what the services report. -/
theorem perm_of_screenEvent (hservices : ServicesAnswer services.context task.inputDetectors tokens
      results) (hinput : task.inputDetectors.isEmpty = false) (hinputs : task.screened = .ok inputs)
    {detections : List Detection}
    (hanswers : services.Answers (task.screenEvent inputs detections)) :
    detections.Perm (reportedDetections tokens results services.context inputs
      task.inputDetectors) := by
  obtain ⟨times, hanswer⟩ := hanswers _ _ _ rfl
  obtain ⟨detections', hrun, -, hperm⟩ := exists_textContentsDetections hservices
    (screened_ne_nil hinput hinputs) times.chunk times.detect
  have heq : (.ok detections : Except Failure (List Detection)) = .ok detections' :=
    hanswer.trans hrun
  rwa [Except.ok.inj heq]

theorem isSome_generationCall (hinput : task.inputDetectors.isEmpty = false) :
    ∃ call, task.generationCall = some call := by
  cases task with
  | classificationWithGen task | chatCompletions task | completions task => exact ⟨_, rfl⟩
  | generationWithDetection task => exact ⟨_, rfl⟩
  | textContent task | chat task | contextDocs task | detectionOnGeneration task =>
    simp [inputDetectors, IterMap.isEmpty, IterMap.empty] at hinput

/-- **The decision of screening.** With services that answer each text on its own, in whatever order
the answers arrive: a language model is not asked if an input detector reports something on a chunk
of the input that reaches its threshold. If a request is answered, the model was asked exactly if
nothing was reported; otherwise the response reports what was, and has no text. -/
theorem model_asked_iff_nothing_reported {ctx : GatewayContext}
    {result : Except Failure UnaryResponse}
    (hservices : ServicesAnswer services.context task.inputDetectors tokens results)
    (hinput : task.inputDetectors.isEmpty = false) (hinputs : task.screened = .ok inputs)
    (hrun : Runs (task.handle ctx) w result) (hanswers : ∀ event ∈ w, services.Answers event) :
    ((∃ event ∈ w, event.1.operation.isGeneration = true) →
      reportedDetections tokens results services.context inputs task.inputDetectors = []) ∧
    ∀ response, result = .ok response →
      if reportedDetections tokens results services.context inputs task.inputDetectors = [] then
        ∃ event ∈ w, task.generationCall = some event.1
      else ∃ detections, detections.Perm (reportedDetections tokens results services.context inputs
          task.inputDetectors) ∧ response.texts = [] ∧ response.ReportsInput detections := by
  cases screenedRun_of_runs hrun with
  | rejected failure => simp
  | failed _ =>
    refine ⟨?_, by simp⟩
    rintro ⟨event, hevent, hgeneration⟩
    obtain rfl := List.mem_singleton.mp hevent
    simp [Operation.isGeneration] at hgeneration
  -- something was found, which is what the services report up to its order
  | @flagged inputs' detections w result hinputs' hne hcount hresponse =>
    obtain rfl : inputs = inputs' := Except.ok.inj (hinputs.symm.trans hinputs')
    have hperm := perm_of_screenEvent hservices hinput hinputs (hanswers _ List.mem_cons_self)
    have hreported : reportedDetections tokens results services.context inputs
        task.inputDetectors ≠ [] := fun hnil => hne (hnil ▸ hperm).eq_nil
    refine ⟨?_, ?_⟩
    · rintro ⟨event, hevent, hgeneration⟩
      exfalso
      rcases List.mem_cons.mp hevent with rfl | hevent
      · simp [Screening.event, Operation.isGeneration] at hgeneration
      · rcases hcount with rfl | ⟨event', rfl, hcall⟩
        · simp at hevent
        · obtain rfl := List.mem_singleton.mp hevent
          simp [task.isGeneration_tokenCall _ hcall] at hgeneration
    · intro response hresult
      rw [if_neg hreported]
      exact ⟨detections, hperm, hresponse response hresult⟩
  -- nothing was found, so nothing is reported, and an answer needs the model
  | @passed screen rest result hcleared hproceeds =>
    rw [Screening.Cleared, if_neg (by simp [screening, hinput])] at hcleared
    obtain ⟨inputs', hinputs', rfl⟩ := hcleared
    obtain rfl : inputs = inputs' := Except.ok.inj (hinputs.symm.trans hinputs')
    have hperm := perm_of_screenEvent hservices hinput hinputs (hanswers _ List.mem_cons_self)
    have hreported := hperm.symm.eq_nil
    refine ⟨fun _ => hreported, ?_⟩
    rintro response rfl
    rw [if_pos hreported]
    obtain ⟨call, hcall⟩ := isSome_generationCall hinput
    rw [Screening.Proceeds, show task.screening.generationCall = some call from hcall] at hproceeds
    rcases hproceeds with ⟨-, hfalse⟩ | ⟨answer, rest, rfl, -⟩
    · simp [Except.isOk, Except.toBool] at hfalse
    · exact ⟨⟨call, answer⟩, by simp, hcall⟩

/-- Services that report every text. -/
def reportingServices : Services where
  context :=
    { config := regexContext.config
      chunkerClient _ := some fun _ text => .ok [⟨0, text.length, text⟩]
      detectorClient _ := some fun _ contents _ => .ok (contents.map fun text =>
        [{ start := 0, stop := 1, text, score := 1 }]) }
  chatClient _ := none
  generationClient _ := none
  contextClient _ := none

/-- What they report for the prompt. -/
def reportedGreeting : Detection :=
  { start := some 0, stop := some 1, text := some "Hi", detectorId := some "regex", score := 1 }

theorem model_asked_iff_nothing_reported_regex :
    ∃ w response, Runs (regexTask.handle regexContext) w (.ok response) ∧
      (∀ event ∈ w, reportingServices.Answers event) ∧ response.texts = [] := by
  have hservices : ServicesAnswer reportingServices.context regexTask.inputDetectors
      (fun _ text => [⟨0, text.length, text⟩])
      (fun _ _ text => [{ start := 0, stop := 1, text, score := 1 }]) := by
    refine ⟨?_, ?_, ?_⟩
    · intro id hid
      obtain rfl := List.mem_singleton.mp hid
      exact ⟨_, rfl⟩
    · exact fun id hid config hconfig hdefault => ⟨_, rfl, fun _ _ => rfl⟩
    · exact fun id hid => ⟨_, rfl, fun _ _ _ => rfl⟩
  have hrun : Runs _ [_, _] (.ok (UnaryResponse.completion _)) := runs_respond
    (servicesFinding [reportedGreeting]) (regexTask.handle regexContext)
  refine ⟨_, _, hrun, (and_iff_left_of_imp fun hanswers => ?_).mpr ?_⟩
  · have hdecision := (model_asked_iff_nothing_reported hservices rfl rfl hrun hanswers).2 _ rfl
    split_ifs at hdecision with hnil
    · exact absurd hnil (List.cons_ne_nil reportedGreeting [])
    · obtain ⟨detections, -, htexts, -⟩ := hdecision
      exact htexts
  · intro event hevent
    rcases List.mem_pair.mp hevent with rfl | rfl
    · intro headers call answer heq
      cases heq
      exact ⟨⟨fun _ i => i, id⟩, rfl⟩
    · intro headers call answer heq
      cases heq

end Decision

end GuardrailsOrchestrator
