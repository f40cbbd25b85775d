import GuardrailsOrchestrator.Chat.Unary
import GuardrailsOrchestrator.Completions.Unary

/-!
# Assembling the output of completions without streaming

Both completion endpoints spawn a task for each choice and each type of detectors, leaving out
what there is no text for. The results of the tasks are collected in the order in which the tasks
were spawned, and then grouped by choice. The hash map of the detector groups and that of the
detections by choice may be visited in any order.

## Main definitions

* `UnaryOutput` — a completion of either endpoint, with what its tasks depend on
* `UnaryOutput.tasks` — the tasks that are spawned, in their order
* `UnaryOutput.handleOutputDetection` — what is made of the results of the tasks

## Main results

* `unaryOutput_conserves` — nothing is lost and nothing is reported twice
-/

namespace GuardrailsOrchestrator

/-! ### Either endpoint -/

/-- A completion of one of the two endpoints, with what its detection tasks depend on. -/
inductive UnaryOutput where
  | chat (ctx : ChatStreaming.WholeDocContext) (order : VisitOrder (ChoiceIndex × List Detection))
    (chatCompletion : ChatCompletion)
  | completions (ctx : CompletionUnary.UnaryContext) (completion : Completion)

namespace UnaryOutput

/-- The types of output detectors that the endpoint supports. -/
def supportedTypes : UnaryOutput → List DetectorType
  | .chat _ _ _ => [.textContents, .textChat]
  | .completions _ _ => [.textContents, .textGeneration]

/-- The detections that the completion comes with. -/
def detections : UnaryOutput → Option CompletionDetections
  | .chat _ _ chatCompletion => chatCompletion.detections
  | .completions _ completion => completion.detections

/-- The warnings that the completion comes with. -/
def warnings : UnaryOutput → List CompletionDetectionWarning
  | .chat _ _ chatCompletion => chatCompletion.warnings
  | .completions _ completion => completion.warnings

/-- The order in which the detections by choice are visited. -/
def choiceOrder : UnaryOutput → VisitOrder (ChoiceIndex × List Detection)
  | .chat _ order _ => order
  | .completions ctx _ => ctx.choiceOrder

/-- One warning for each choice without content, in the order of the choices. -/
def emptyOutputWarnings : UnaryOutput → List CompletionDetectionWarning
  | .chat _ _ chatCompletion =>
    (chatCompletion.choices.filter (!·.message.hasContent)).map fun choice =>
      ⟨.emptyOutput, s!"Choice of index {choice.index} has no content"⟩
  | .completions _ completion =>
    (completion.choices.filter (·.text.isEmpty)).map fun choice =>
      ⟨.emptyOutput, s!"Choice of index {choice.index} has no content. " ++
        "Output detection was not executed"⟩

/-- The tasks that are spawned, choice by choice and for each choice group by group. -/
def tasks (groups : IterMap DetectorType (IterMap DetectorId DetectorParams)) :
    UnaryOutput → List (ChoiceIndex × DetectorType)
  | .chat ctx _ chatCompletion =>
    chatCompletion.choices.flatMap fun choice =>
      ((ctx.groupOrder.visit groups.entries).filter fun group =>
        -- text contents detectors need a text
        group.1 ≠ .textContents || choice.message.text.isSome).map fun group =>
          (choice.index, group.1)
  | .completions ctx completion =>
    (completion.choices.filter (!·.text.isEmpty)).flatMap fun choice =>
      (ctx.groupOrder.visit groups.entries).map fun group => (choice.index, group.1)

/-- The detections and warnings of the response, with what the tasks return. -/
def handleOutputDetection (config : OrchestratorConfig)
    (detectors : IterMap DetectorId DetectorParams)
    (answer : ChoiceIndex → DetectorType → Except Error (List Detection)) :
    UnaryOutput →
      Option (Except Error (Option CompletionDetections × List CompletionDetectionWarning))
  | .chat ctx order chatCompletion =>
    (ChatUnary.handleOutputTasks ctx order config detectors
      (fun task => answer task.choiceIndex task.detectorType) chatCompletion).map
        (·.map fun response => (response.detections, response.warnings))
  | .completions ctx completion =>
    (CompletionUnary.handleOutputTasks ctx config detectors
      (fun task => answer task.choiceIndex task.detectorType) completion).map
        (·.map fun response => (response.detections, response.warnings))

/-- What the tasks return for a choice, in the order of the tasks. -/
def returned (tasks : List (ChoiceIndex × DetectorType))
    (answer : ChoiceIndex → DetectorType → List Detection) (c : ChoiceIndex) : List Detection :=
  (tasks.filter (·.1 = c)).flatMap fun task => answer task.1 task.2

/-- The response has what the tasks returned, once: an entry for each choice for which there is
something, no detections at all if there is nothing, and the warnings for choices without content
before that for text contents. -/
structure Conserves (output : UnaryOutput) (tasks : List (ChoiceIndex × DetectorType))
    (answer : ChoiceIndex → DetectorType → List Detection)
    (response : Option CompletionDetections × List CompletionDetectionWarning) : Prop where
  entries : ∀ c, (response.1.getD {}).output.filter (·.choiceIndex = c) =
    if returned tasks answer c = [] then []
    else [{ choiceIndex := c, results := returned tasks answer c }]
  detections : response.1 = none ↔ ∀ task ∈ tasks, answer task.1 task.2 = []
  warnings : response.2 = output.emptyOutputWarnings ++
    if ∃ task ∈ tasks, task.2 = .textContents ∧ answer task.1 task.2 ≠ [] then
      [⟨.unsuitableOutput, unsuitableOutputMessage⟩] else []

section Assembly

variable {answer : ChoiceIndex → DetectorType → List Detection}

/-- The results of tasks that all return something. -/
theorem answered_eq_ok {T : Type} (choiceOf : T → ChoiceIndex) (typeOf : T → DetectorType)
    (answer : ChoiceIndex → DetectorType → List Detection) (tasks : List T) :
    answered (fun task => .ok (answer (choiceOf task) (typeOf task))) tasks =
      .ok (tasks.map fun task => (task, answer (choiceOf task) (typeOf task))) :=
  Except.mapM_eq_ok_map fun _ _ => rfl

/-- The results of tasks, with the choice and the type of each. -/
def results (answer : ChoiceIndex → DetectorType → List Detection)
    (tasks : List (ChoiceIndex × DetectorType)) : List ChoiceDetections :=
  tasks.map fun task => (task.1, task.2, answer task.1 task.2)

theorem detectedOn_results (tasks : List (ChoiceIndex × DetectorType)) (c : ChoiceIndex) :
    detectedOn c (results answer tasks) = returned tasks answer c := by
  rw [detectedOn, results, List.filter_map, List.flatMap_map, returned]
  rfl

/-- Results that are added to a completion without detections are conserved. -/
theorem conserves_addOutputDetections {output : UnaryOutput}
    (order : VisitOrder (ChoiceIndex × List Detection))
    (tasks : List (ChoiceIndex × DetectorType)) :
    output.Conserves tasks answer
      (addOutputDetections order (results answer tasks) (none, output.emptyOutputWarnings)) where
  entries c := by
    rw [filter_output_addOutputDetections, detectedOn_results]
  detections := by
    rw [addOutputDetections_eq_none_iff, results, List.forall_mem_map]
  warnings := by
    rw [warnings_addOutputDetections, unsuitableOutputWarnings]
    congr 1
    apply if_congr _ rfl rfl
    simp [unsuitableOutput, results]

end Assembly

section Tasks

variable {config : OrchestratorConfig} {detectors : IterMap DetectorId DetectorParams}
  {groups : IterMap DetectorType (IterMap DetectorId DetectorParams)}

/-- The tasks of a chat completion. -/
theorem exists_tasks_chat (ctx : ChatStreaming.WholeDocContext)
    (order : VisitOrder (ChoiceIndex × List Detection)) (chatCompletion : ChatCompletion)
    (h : ∀ type ∈ groups.keys, type ∈ [.textContents, .textChat]) :
    ∃ tasks, ChatStreaming.tasksOf ctx groups (ChatUnary.choicesOf chatCompletion) = some tasks ∧
      tasks.map (fun task => (task.choiceIndex, task.detectorType)) =
        (chat ctx order chatCompletion).tasks groups := by
  refine ⟨_, ChatUnary.tasksOf_eq_some h _, ?_⟩
  rw [ChatUnary.choicesOf, UnaryOutput.tasks, List.flatMap_map, List.map_flatMap]
  congr 1
  funext choice
  -- group by group, there is a task of the group's type or none
  have hgroups : ∀ group ∈ ctx.groupOrder.visit groups.entries,
      group.1 ∈ [DetectorType.textContents, .textChat] :=
    fun group hgroup => h _ (List.mem_map_of_mem ((ctx.groupOrder.perm _).mem_iff.mp hgroup))
  generalize ctx.groupOrder.visit groups.entries = visited at hgroups
  induction visited with
  | nil => rfl
  | cons group visited ih =>
    have ih := ih fun group' hgroup' => hgroups group' (List.mem_cons_of_mem _ hgroup')
    obtain ⟨type, detectors⟩ := group
    rcases List.mem_pair.mp (hgroups _ List.mem_cons_self) with rfl | rfl
    · cases htext : choice.message.text with
      | none =>
        rw [List.filterMap_cons_none (by simp [ChatStreaming.wholeDocTask, htext]),
          List.filter_cons_of_neg (by simp)]
        simpa [htext] using ih
      | some text =>
        rw [List.filterMap_cons_some (by simp [ChatStreaming.wholeDocTask, htext]; rfl),
          List.filter_cons_of_pos (by simp)]
        simpa [htext] using ih
    · rw [List.filterMap_cons_some (by simp [ChatStreaming.wholeDocTask]; rfl),
        List.filter_cons_of_pos (by simp)]
      simpa using ih

/-- The tasks of a completion. -/
theorem exists_tasks_completions (ctx : CompletionUnary.UnaryContext) (completion : Completion)
    (hgroups : groupDetectorsByType config detectors = some groups)
    (h : ∀ type ∈ groups.keys, type ∈ [.textContents, .textGeneration]) :
    ∃ tasks, CompletionUnary.outputTasks ctx config detectors completion = some tasks ∧
      tasks.map (fun task => (task.choiceIndex, task.detectorType)) =
        (completions ctx completion).tasks groups := by
  have hsupported : CompletionStreaming.Supported (ctx.groupOrder.visit groups.entries) :=
    fun group hgroup => h _ (List.mem_map_of_mem ((ctx.groupOrder.perm _).mem_iff.mp hgroup))
  refine ⟨(CompletionUnary.examinedChoices completion).flatMap fun choice =>
    (ctx.groupOrder.visit groups.entries).filterMap
      (CompletionStreaming.wholeDocTask ctx.prompt choice), ?_, ?_⟩
  · rw [CompletionUnary.outputTasks, hgroups]
    exact hsupported.tasksOf_eq
  · have hfilter : completion.choices.filter (·.text ≠ "") =
        completion.choices.filter (!·.text.isEmpty) := by
      apply List.filter_congr
      intro choice _
      rw [Bool.eq_iff_iff]
      simp
    rw [CompletionUnary.examinedChoices, UnaryOutput.tasks, List.flatMap_map, List.map_flatMap,
      hfilter]
    congr 1
    funext choice
    generalize ctx.groupOrder.visit groups.entries = visited at hsupported
    -- each group that is visited adds one task, of its own type
    induction visited with
    | nil => rfl
    | cons group visited ih =>
      have ih := ih fun group' hgroup' => hsupported group' (List.mem_cons_of_mem _ hgroup')
      obtain ⟨type, detectors⟩ := group
      rcases List.mem_pair.mp (hsupported _ List.mem_cons_self) with rfl | rfl
      · rw [List.filterMap_cons_some (by rw [CompletionStreaming.wholeDocTask]), List.map_cons,
          List.map_cons, ih]
      · rw [List.filterMap_cons_some (by rw [CompletionStreaming.wholeDocTask]), List.map_cons,
          List.map_cons, ih]

/-- The results of the tasks are added to the completion, after the warnings for choices without
content. -/
theorem handleOutputDetection_eq_some {output : UnaryOutput}
    (hgroups : groupDetectorsByType config detectors = some groups)
    (h : ∀ type ∈ groups.keys, type ∈ output.supportedTypes)
    (answer : ChoiceIndex → DetectorType → List Detection) :
    output.handleOutputDetection config detectors (fun c type => .ok (answer c type)) =
      some (.ok (addOutputDetections output.choiceOrder (results answer (output.tasks groups))
        (output.detections, output.warnings ++ output.emptyOutputWarnings))) := by
  -- for both endpoints: the tasks, the warnings and the results are those of the common description
  cases output with
  | chat ctx order chatCompletion =>
    obtain ⟨tasks, htasks, hmap⟩ := exists_tasks_chat ctx order chatCompletion h
    have hwarnings : ChatStreaming.noContentWarnings (ChatUnary.choicesOf chatCompletion) =
        (chat ctx order chatCompletion).emptyOutputWarnings := by
      rw [ChatStreaming.noContentWarnings, ChatUnary.choicesOf, List.filter_map, List.map_map]
      rfl
    have hresults : ChatUnary.resultsOf (tasks.map fun task =>
        (task, answer task.choiceIndex task.detectorType)) =
          results answer ((chat ctx order chatCompletion).tasks groups) := by
      rw [← hmap, results, ChatUnary.resultsOf, List.map_map, List.map_map]
      rfl
    rw [← hresults, ← hwarnings, handleOutputDetection, ChatUnary.handleOutputTasks, hgroups]
    simp only [Option.bind_eq_bind, Option.bind_some, htasks, answered_eq_ok]
    rfl
  | completions ctx completion =>
    obtain ⟨tasks, htasks, hmap⟩ := exists_tasks_completions ctx completion hgroups h
    have hwarnings : CompletionUnary.noContentWarnings completion =
        (completions ctx completion).emptyOutputWarnings := by
      rw [CompletionUnary.noContentWarnings, emptyOutputWarnings]
      congr 1
      apply List.filter_congr
      intro choice _
      rw [Bool.eq_iff_iff]
      simp
    have hresults : CompletionStreaming.resultsOf (tasks.map fun task =>
        (task, answer task.choiceIndex task.detectorType)) =
          results answer ((completions ctx completion).tasks groups) := by
      rw [← hmap, results, CompletionStreaming.resultsOf, List.map_map, List.map_map]
      rfl
    rw [← hresults, ← hwarnings, handleOutputDetection, CompletionUnary.handleOutputTasks, htasks]
    simp only [Option.bind_eq_bind, Option.bind_some, answered_eq_ok]
    rfl

end Tasks

end UnaryOutput

/-- **Output without streaming.** Take a completion of either endpoint that comes without
detections and warnings, and checked output detectors. Whatever the tasks return, in whatever order
hash maps are visited, there is a response, and it has what the tasks returned, once. -/
theorem unaryOutput_conserves {output : UnaryOutput} {config : OrchestratorConfig}
    {detectors : IterMap DetectorId DetectorParams}
    (hvalid : validateDetectors detectors config.detectors output.supportedTypes true = .ok ())
    (hdetections : output.detections = none) (hwarnings : output.warnings = [])
    (answer : ChoiceIndex → DetectorType → List Detection) :
    ∃ groups response, groupDetectorsByType config detectors = some groups ∧
      output.handleOutputDetection config detectors (fun c type => .ok (answer c type)) =
        some (.ok response) ∧
      output.Conserves (output.tasks groups) answer response := by
  obtain ⟨groups, hgroups, -⟩ := exists_groupDetectorsByType fun detectorId hmem => by
    obtain ⟨detector, hget, htype, -⟩ := validateDetectors_eq_ok_iff.mp hvalid detectorId hmem
    exact ⟨detector, hget, htype⟩
  have hresponse := UnaryOutput.handleOutputDetection_eq_some hgroups
    (mem_supportedTypes_of_validateDetectors hvalid hgroups) answer
  rw [hdetections, hwarnings, List.nil_append] at hresponse
  exact ⟨groups, _, hgroups, hresponse, UnaryOutput.conserves_addOutputDetections _ _⟩

/-- Something is detected on the first of two choices. -/
def detectedOnFirst (c : ChoiceIndex) (_ : DetectorType) : List Detection :=
  if c = 0 then [{ detectionType := "greeting", detection := "greeting", score := 1 }] else []

theorem unaryOutput_conserves_twoMessages :
    ∃ groups response,
      groupDetectorsByType (documentRequest []).config (documentRequest []).outputDetectors =
        some groups ∧
      (UnaryOutput.chat {} .listed twoMessagesCompletion).handleOutputDetection
        (documentRequest []).config (documentRequest []).outputDetectors
          (fun c type => .ok (detectedOnFirst c type)) = some (.ok response) ∧
      (UnaryOutput.chat {} .listed twoMessagesCompletion).Conserves
        ((UnaryOutput.chat {} .listed twoMessagesCompletion).tasks groups) detectedOnFirst
          response := by
  have hvalid : validateDetectors (documentRequest []).outputDetectors
      (documentRequest []).config.detectors
        (UnaryOutput.chat {} .listed twoMessagesCompletion).supportedTypes true = .ok () := by
    decide
  exact unaryOutput_conserves hvalid rfl rfl detectedOnFirst

end GuardrailsOrchestrator
