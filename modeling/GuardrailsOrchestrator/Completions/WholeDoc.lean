import GuardrailsOrchestrator.Completions.FinishReason
import GuardrailsOrchestrator.OutputDetections

/-!
# Whole-document detection of streamed completions

When the generation stream has ended, the detectors without a chunker examine the recorded text of
each choice. Every choice with a message is examined, also one without text.

## Main definitions

* `tasksOf` — the tasks for given texts, which detection without streaming shares
* `handleWholeDocDetection` — what is submitted to the detectors, and what is made of their answers

## Main results

* `wholeDocChoices_perm` — the texts that are examined at the end of a run
-/

namespace GuardrailsOrchestrator

namespace CompletionStreaming

open ResponseProtocol Transition

/-! ### The detection tasks -/

/-- What is submitted to the detectors of one type. -/
inductive WholeDocRequest where
  | textContents (detectors : IterMap DetectorId DetectorParams) (contents : List (ℕ × String))
  | textGeneration (detectors : IterMap DetectorId DetectorParams) (prompt generatedText : String)

structure WholeDocTask where
  choiceIndex : ChoiceIndex
  detectorType : DetectorType
  request : WholeDocRequest

/-- The detectors of one type. -/
abbrev DetectorGroup := DetectorType × IterMap DetectorId DetectorParams

/-- The task for a choice and a group of detectors. A type that the endpoint does not support is
not implemented. -/
def wholeDocTask (prompt : String) (choice : ChoiceIndex × String) (group : DetectorGroup) :
    Option WholeDocTask :=
  match group.1 with
  | .textContents => some ⟨choice.1, .textContents, .textContents group.2 [(0, choice.2)]⟩
  | .textGeneration => some ⟨choice.1, .textGeneration, .textGeneration group.2 prompt choice.2⟩
  | _ => none

/-- The tasks for the texts of the given choices, with the groups as they are visited. -/
def tasksOf (prompt : String) (groups : List DetectorGroup)
    (choices : List (ChoiceIndex × String)) : Option (List WholeDocTask) := do
  let tasks ← choices.mapM fun choice => groups.mapM (wholeDocTask prompt choice)
  pure tasks.flatten

/-- The results of the tasks, by choice. -/
def resultsOf (detections : List (WholeDocTask × List Detection)) : List ChoiceDetections :=
  detections.map fun (task, results) => (task.choiceIndex, task.detectorType, results)

/-- What detection depends on besides the completion state: the prompt of the request, and the
orders in which hash maps are visited. -/
structure WholeDocContext where
  prompt : String := ""
  choiceOrder : VisitOrder (ChoiceIndex × OrderedMap ℕ Completion) := .listed
  groupOrder : VisitOrder DetectorGroup := .listed

section Tasks

variable (ctx : WholeDocContext)

/-- The texts of the choices. -/
def wholeDocChoices (state : CompletionState Completion) : List (ChoiceIndex × String) :=
  (ctx.choiceOrder.visit state.completions.entries).map fun (choiceIndex, completions) =>
    (choiceIndex, String.join (completions.entries.map fun e => e.2.text))

/-- The tasks that are spawned for a completion state. -/
def wholeDocTasks (config : OrchestratorConfig) (detectors : IterMap DetectorId DetectorParams)
    (state : CompletionState Completion) : Option (List WholeDocTask) := do
  let groups ← groupDetectorsByType config detectors
  tasksOf ctx.prompt (ctx.groupOrder.visit groups.entries) (wholeDocChoices ctx state)

/-- The detections and warnings for the results of the tasks. -/
def wholeDocResult (detections : List (WholeDocTask × List Detection)) :
    CompletionDetections × List CompletionDetectionWarning :=
  ({ output := detections.map fun (task, results) => { choiceIndex := task.choiceIndex, results } },
    unsuitableOutputWarnings (resultsOf detections))

/-- `handle_whole_doc_detection`, with what the detectors answer. -/
def handleWholeDocDetection (config : OrchestratorConfig)
    (detectors : IterMap DetectorId DetectorParams)
    (answer : WholeDocRequest → Except Error (List Detection))
    (state : CompletionState Completion) :
    Option (Except Error (CompletionDetections × List CompletionDetectionWarning)) := do
  let tasks ← wholeDocTasks ctx config detectors state
  pure ((answered (fun task => answer task.request) tasks).map wholeDocResult)

end Tasks

/-! ### Warnings -/

/-- A warning of the given type is among those of the message. -/
def HasWarning (type : DetectionWarningReason) (m : Completion) : Prop :=
  type ∈ m.warnings.map (·.type)

instance (type : DetectionWarningReason) (m : Completion) : Decidable (HasWarning type m) :=
  inferInstanceAs (Decidable (_ ∈ _))

theorem emptyOutput_notMem_unsuitableOutputWarnings (detections : List ChoiceDetections) :
    DetectionWarningReason.emptyOutput ∉ (unsuitableOutputWarnings detections).map (·.type) := by
  rw [unsuitableOutputWarnings]
  split_ifs <;> simp

/-- Whole-document detection does not warn of empty output. -/
theorem emptyOutput_notMem_of_handleWholeDocDetection {ctx : WholeDocContext}
    {config : OrchestratorConfig} {detectors : IterMap DetectorId DetectorParams}
    {answer : WholeDocRequest → Except Error (List Detection)} {state : CompletionState Completion}
    {detections : CompletionDetections} {warnings : List CompletionDetectionWarning}
    (h : handleWholeDocDetection ctx config detectors answer state =
      some (.ok (detections, warnings))) :
    DetectionWarningReason.emptyOutput ∉ warnings.map (·.type) := by
  obtain ⟨tasks, -, h⟩ := Option.bind_eq_some_iff.mp h
  cases hresults : answered (fun task => answer task.request) tasks with
  | error error => simp [hresults, Except.map] at h
  | ok results =>
    obtain ⟨-, rfl⟩ : (wholeDocResult results).1 = detections ∧
        (wholeDocResult results).2 = warnings := by
      simpa [hresults, Except.map, Prod.ext_iff] using h
    exact emptyOutput_notMem_unsuitableOutputWarnings _

/-! ### Tasks of supported types -/

section Supported

variable {prompt : String} {groups groups' : List DetectorGroup}
  {choices choices' : List (ChoiceIndex × String)}

/-- The types of detectors that the endpoint supports. -/
def Supported (groups : List DetectorGroup) : Prop :=
  ∀ group ∈ groups, group.1 ∈ [DetectorType.textContents, .textGeneration]

theorem Supported.perm (h : Supported groups) (hgroups : groups'.Perm groups) :
    Supported groups' :=
  fun group hgroup => h group (hgroups.mem_iff.mp hgroup)

theorem Supported.exists_wholeDocTask (h : Supported groups) {group : DetectorGroup}
    (hgroup : group ∈ groups) (prompt : String) (choice : ChoiceIndex × String) :
    ∃ task, wholeDocTask prompt choice group = some task := by
  rcases List.mem_pair.mp (h group hgroup) with htype | htype
  · exact ⟨_, by rw [wholeDocTask, htype]⟩
  · exact ⟨_, by rw [wholeDocTask, htype]⟩

/-- There is one task for each choice and each group. -/
theorem Supported.tasksOf_eq (h : Supported groups) :
    tasksOf prompt groups choices =
      some (choices.flatMap fun choice => groups.filterMap (wholeDocTask prompt choice)) := by
  have hrow : ∀ choice ∈ choices, groups.mapM (wholeDocTask prompt choice) =
      some (groups.filterMap (wholeDocTask prompt choice)) := by
    intro choice _
    apply Option.mapM_eq_some_iff.mpr
    induction groups with
    | nil => exact .nil
    | cons group groups ih =>
      obtain ⟨task, htask⟩ := h.exists_wholeDocTask List.mem_cons_self prompt choice
      rw [List.filterMap_cons_some htask]
      exact .cons htask (ih fun group' hgroup' => h group' (List.mem_cons_of_mem _ hgroup'))
  rw [tasksOf, Option.mapM_eq_some_map hrow]
  rfl

/-- The tasks for the same choices, in any order of the choices and groups. -/
theorem Supported.exists_tasksOf_perm (h : Supported groups) (prompt : String)
    (hgroups : groups.Perm groups') (hchoices : choices.Perm choices') :
    ∃ tasks tasks', tasksOf prompt groups choices = some tasks ∧
      tasksOf prompt groups' choices' = some tasks' ∧ tasks.Perm tasks' := by
  refine ⟨_, _, h.tasksOf_eq, (h.perm hgroups.symm).tasksOf_eq, ?_⟩
  exact hchoices.flatMap fun choice _ => hgroups.filterMap _

/-- The text that is examined. -/
def WholeDocRequest.examinedText : WholeDocRequest → String
  | .textContents _ contents => String.join (contents.map (·.2))
  | .textGeneration _ _ generatedText => generatedText

/-- The choice of a task and the text that is examined for it. -/
def WholeDocTask.submission (task : WholeDocTask) : ChoiceIndex × String :=
  (task.choiceIndex, task.request.examinedText)

theorem submission_of_wholeDocTask {choice : ChoiceIndex × String} {group : DetectorGroup}
    {task : WholeDocTask} (h : wholeDocTask prompt choice group = some task) :
    task.submission = choice := by
  rw [wholeDocTask] at h
  split at h
  · obtain rfl := Option.some.inj h
    simp [WholeDocTask.submission, WholeDocRequest.examinedText, String.join]
  · obtain rfl := Option.some.inj h
    rfl
  · simp at h

/-- With a detector, the choices that are given are those that are submitted. -/
theorem Supported.mem_submission_iff (h : Supported groups) (hne : groups ≠ [])
    {tasks : List WholeDocTask} (htasks : tasksOf prompt groups choices = some tasks)
    {choice : ChoiceIndex × String} :
    choice ∈ tasks.map WholeDocTask.submission ↔ choice ∈ choices := by
  obtain rfl := Option.some.inj (h.tasksOf_eq.symm.trans htasks)
  rw [List.mem_map]
  constructor
  · rintro ⟨task, htask, rfl⟩
    obtain ⟨choice, hchoice, htask⟩ := List.mem_flatMap.mp htask
    obtain ⟨group, -, htask⟩ := List.mem_filterMap.mp htask
    rwa [submission_of_wholeDocTask htask]
  · intro hchoice
    obtain ⟨group, hgroup⟩ := List.exists_mem_of_ne_nil _ hne
    obtain ⟨task, htask⟩ := h.exists_wholeDocTask hgroup prompt choice
    refine ⟨task, ?_, submission_of_wholeDocTask htask⟩
    exact List.mem_flatMap.mpr ⟨choice, hchoice, List.mem_filterMap.mpr ⟨group, hgroup, htask⟩⟩

end Supported

/-! ### Runs that forward messages -/

/-- The consumer records the messages of the stream before anything is detected. -/
structure Forwards (stream : List (Item Error Completion)) (s : CompletionStreaming) : Prop where
  stores : Stores stream s
  inhabits : s.task.completionState.Inhabits
  consumed : s.stage = .forwarding true ∨ s.consumer = []

namespace Forwards

variable {request : StreamingRequest Completion} {stream : List (Item Error Completion)}
  {s t : CompletionStreaming}

theorem start (batches : List (Except Error Batch))
    (hprepare : request.prepare [.textContents, .textGeneration] = .ok stream)
    (houtput : request.outputDetectors.isEmpty = false)
    (hchunk : request.chunkDetectors.isEmpty = true) : Forwards stream (start request batches) := by
  have hstart : CompletionStreaming.start request batches =
      { consumer := processCompletionStream true [] true true stream
        stage := .forwarding true } := by
    simp only [CompletionStreaming.start, hprepare, houtput, hchunk]
    rfl
  rw [hstart]
  exact ⟨fun _ => inserts_processCompletionStream [] true true,
    by simp [CompletionState.Inhabits], Or.inl rfl⟩

theorem stepMain (h : Forwards stream s) (hstep : s.stepMain request = some t) :
    Forwards stream t := by
  have hstores : Stores stream t := h.stores.step (a := .main) hstep
  -- the main task waits for the consumer
  have hconsumed : s.consumer = [] := by
    rcases h.consumed with hstage | hconsumed
    · cases mainStep_of_stepMain hstep with
      | forwarded _ hconsumer => exact hconsumer
      | _ => simp_all
    · exact hconsumed
  refine ⟨hstores, ?_, Or.inr ?_⟩
  · cases mainStep_of_stepMain hstep <;> exact h.inhabits
  · cases mainStep_of_stepMain hstep <;> exact hconsumed

theorem step {a : CompletionLabel} (h : Forwards stream s) (hstep : s.step request a = some t) :
    Forwards stream t := by
  cases a with
  | consumer =>
    have hstores := h.stores.stepConsumer hstep
    obtain ⟨action, consumer, hconsumer, -, rfl⟩ := exists_of_stepConsumer hstep
    refine ⟨hstores, StreamingTask.inhabits_perform h.inhabits action, ?_⟩
    exact Or.inl (h.consumed.resolve_right (by simp [hconsumer]))
  | main => exact h.stepMain hstep
  | last choiceIndex =>
    have hstores := h.stores.step hstep
    obtain ⟨choices, indices, hstage, -, ht⟩ := exists_of_stepLast hstep
    have hconsumed := h.consumed.resolve_left (by simp [hstage])
    rcases ht with ⟨-, rfl⟩ | ⟨last, endIndex, -, -, rfl⟩
    · exact ⟨hstores, h.inhabits, Or.inr hconsumed⟩
    · exact ⟨hstores, h.inhabits, Or.inr hconsumed⟩

/-- Every choice with a message is examined, with the texts of its messages put together. -/
theorem wholeDocChoices_perm (h : Forwards stream s) (hconsumed : s.consumer = [])
    (ctx : WholeDocContext) {choices : List ChoiceIndex} (hnodup : choices.Nodup)
    (hchoices : ∀ c, c ∈ choices ↔ messagesFor c stream ≠ []) :
    (wholeDocChoices ctx s.task.completionState).Perm
      (choices.map fun c => (c, choiceText c stream)) := by
  have hstored : ∀ c, (s.task.completionState.messages c).entries = choiceMessages c stream := by
    have hstores := h.stores
    rw [Stores, hconsumed] at hstores
    exact hstores.entries_eq
  have hvisited := ctx.choiceOrder.perm s.task.completionState.completions.entries
  -- the text of a stored choice is the text of its messages
  have htexts : wholeDocChoices ctx s.task.completionState =
      ((ctx.choiceOrder.visit s.task.completionState.completions.entries).map (·.1)).map
        fun c => (c, choiceText c stream) := by
    rw [wholeDocChoices, List.map_map]
    apply List.map_congr_left
    rintro ⟨c, completions⟩ he
    obtain ⟨rfl, -⟩ := h.inhabits.mem_entries_iff.mp (hvisited.mem_iff.mp he)
    simp only [Function.comp_apply, hstored, choiceText, ← map_snd_choiceMessages, List.map_map]
    rfl
  rw [htexts]
  refine (((hvisited.map _).trans ?_).map _)
  apply (List.perm_ext_iff_of_nodup s.task.completionState.completions.nodup_keys hnodup).mpr
  intro c
  rw [hchoices, ← map_snd_choiceMessages, ← hstored, Ne, List.map_eq_nil_iff]
  exact h.inhabits.mem_keys_iff

end Forwards

end CompletionStreaming

end GuardrailsOrchestrator
