import GuardrailsOrchestrator.Completions.WholeDoc

/-!
# Completions without streaming

Output detection on a completion that is returned as a whole, and its relation to whole-document
detection of a streamed one. Without streaming, a choice without text is not examined, and a
warning says so. With streaming it is examined like any other choice, and no warning is given: the
consumer flags empty output only for choices that have an input channel, and the warnings of
whole-document detection replace the one for the flag anyway.

## Main results

* `completion_wholeDoc_agrees_iff` — when both report the same
-/

namespace GuardrailsOrchestrator

open ResponseProtocol Transition CompletionStreaming

/-! ### Output detection -/

namespace CompletionUnary

/-- What detection depends on besides the completion: the prompt of the request, and the orders
in which hash maps are visited. -/
structure UnaryContext where
  prompt : String := ""
  groupOrder : VisitOrder DetectorGroup := .listed
  choiceOrder : VisitOrder (ChoiceIndex × List Detection) := .listed

section Detection

variable (ctx : UnaryContext) (config : OrchestratorConfig)
  (detectors : IterMap DetectorId DetectorParams)

/-- The choices that are examined, with their texts. -/
def examinedChoices (completion : Completion) : List (ChoiceIndex × String) :=
  (completion.choices.filter (·.text ≠ "")).map fun choice => (choice.index, choice.text)

/-- The warnings for the choices that are not examined. -/
def noContentWarnings (completion : Completion) : List CompletionDetectionWarning :=
  (completion.choices.filter (·.text = "")).map fun choice =>
    ⟨.emptyOutput, s!"Choice of index {choice.index} has no content. " ++
      "Output detection was not executed"⟩

/-- The tasks that are spawned for a completion. -/
def outputTasks (completion : Completion) : Option (List WholeDocTask) := do
  let groups ← groupDetectorsByType config detectors
  tasksOf ctx.prompt (ctx.groupOrder.visit groups.entries) (examinedChoices completion)

/-- The completion with other detections and warnings. -/
def withOutput (completion : Completion)
    (output : Option CompletionDetections × List CompletionDetectionWarning) : Completion :=
  { completion with detections := output.1, warnings := output.2 }

/-- `handle_output_detection`, with what the detectors answer. Each task has an answer of its own:
the detectors are called anew, so the same request may be answered differently for two choices. -/
def handleOutputTasks (answer : WholeDocTask → Except Error (List Detection))
    (completion : Completion) : Option (Except Error Completion) := do
  let tasks ← outputTasks ctx config detectors completion
  pure ((answered answer tasks).map fun detections =>
    withOutput completion (addOutputDetections ctx.choiceOrder (resultsOf detections)
      (completion.detections, completion.warnings ++ noContentWarnings completion)))

/-- The same with detectors that answer equal requests in the same way. -/
def handleOutputDetection (answer : WholeDocRequest → Except Error (List Detection))
    (completion : Completion) : Option (Except Error Completion) :=
  handleOutputTasks ctx config detectors (fun task => answer task.request) completion

end Detection

/-! ### Splitting texts into messages -/

/-- The stream has the texts of the choices in parts: every message has one choice at most, which
is one of the given ones, and the text of a choice is that of its messages, put together. -/
structure IsSplit (choices : List CompletionChoice) (stream : List (Item Error Completion)) :
    Prop where
  nodup : (choices.map (·.index)).Nodup
  single : ∀ item ∈ stream, item = .ok none ∨ ∃ m, item = .ok (some m) ∧ m.choices.length ≤ 1 ∧
    ∀ part ∈ m.choices, part.index ∈ choices.map (·.index)
  text : ∀ choice ∈ choices, choice.text = choiceText choice.index stream

namespace IsSplit

variable {completion : Completion} {stream : List (Item Error Completion)}
  {s : CompletionStreaming}

/-- A choice with text has a message. -/
theorem messagesFor_ne_nil (h : IsSplit completion.choices stream) {choice : CompletionChoice}
    (hchoice : choice ∈ completion.choices) (htext : choice.text ≠ "") :
    messagesFor choice.index stream ≠ [] := by
  intro hnil
  apply htext
  rw [h.text choice hchoice, choiceText, hnil]
  rfl

theorem mem_of_messagesFor_ne_nil {choices : List CompletionChoice} (h : IsSplit choices stream)
    {c : ChoiceIndex} (hc : messagesFor c stream ≠ []) : c ∈ choices.map (·.index) := by
  obtain ⟨m, hm⟩ := List.exists_mem_of_ne_nil _ hc
  obtain ⟨hitem, hchoice⟩ := mem_messagesFor_iff.mp hm
  obtain ⟨part, hpart, rfl⟩ := Option.map_eq_some_iff.mp hchoice
  rcases h.single _ hitem with hnone | ⟨m', heq, -, hparts⟩
  · simp at hnone
  · obtain rfl : m = m' := by simpa using heq
    exact hparts part (List.mem_of_head? hpart)

/-- The texts that are examined with streaming. -/
theorem wholeDocChoices_perm (h : IsSplit completion.choices stream) (hforwards : Forwards stream s)
    (hconsumed : s.consumer = []) (ctx : WholeDocContext) :
    (wholeDocChoices ctx s.task.completionState).Perm
      ((completion.choices.filter fun choice => messagesFor choice.index stream ≠ []).map
        fun choice => (choice.index, choice.text)) := by
  -- choices have distinct indices, and so have those that were stored
  have hindices : ((completion.choices.filter fun choice =>
      messagesFor choice.index stream ≠ []).map (·.index)).Nodup :=
    h.nodup.sublist (List.filter_sublist.map _)
  have hperm := hforwards.wholeDocChoices_perm hconsumed ctx hindices (by
    intro c
    rw [List.mem_map]
    constructor
    · rintro ⟨choice, hchoice, rfl⟩
      exact of_decide_eq_true (List.mem_filter.mp hchoice).2
    · intro hc
      obtain ⟨choice, hchoice, rfl⟩ := List.mem_map.mp (h.mem_of_messagesFor_ne_nil hc)
      exact ⟨choice, List.mem_filter.mpr ⟨hchoice, decide_eq_true hc⟩, rfl⟩)
  have htexts : ((completion.choices.filter fun choice =>
      messagesFor choice.index stream ≠ []).map fun choice => (choice.index, choice.text)) =
        ((completion.choices.filter fun choice =>
          messagesFor choice.index stream ≠ []).map (·.index)).map
            fun c => (c, choiceText c stream) := by
    rw [List.map_map]
    apply List.map_congr_left
    intro choice hchoice
    rw [h.text choice (List.mem_filter.mp hchoice).1]
    rfl
  rw [htexts]
  exact hperm

/-- A choice with a message is examined with streaming. -/
theorem mem_wholeDocChoices (h : IsSplit completion.choices stream) (hforwards : Forwards stream s)
    (hconsumed : s.consumer = []) (ctx : WholeDocContext) {choice : CompletionChoice}
    (hchoice : choice ∈ completion.choices) (hmessages : messagesFor choice.index stream ≠ []) :
    (choice.index, choice.text) ∈ wholeDocChoices ctx s.task.completionState := by
  rw [(h.wholeDocChoices_perm hforwards hconsumed ctx).mem_iff]
  apply List.mem_map_of_mem (f := fun choice : CompletionChoice => (choice.index, choice.text))
  exact List.mem_filter.mpr ⟨hchoice, decide_eq_true hmessages⟩

/-- If no choice without text has a message, the same texts are examined with and without
streaming. -/
theorem wholeDocChoices_perm_examinedChoices (h : IsSplit completion.choices stream)
    (hforwards : Forwards stream s) (hconsumed : s.consumer = []) (ctx : WholeDocContext)
    (hsilent : ∀ choice ∈ completion.choices, choice.text = "" →
      messagesFor choice.index stream = []) :
    (wholeDocChoices ctx s.task.completionState).Perm (examinedChoices completion) := by
  have hfilter : (completion.choices.filter fun choice =>
      messagesFor choice.index stream ≠ []) = completion.choices.filter (·.text ≠ "") := by
    apply List.filter_congr
    intro choice hchoice
    rw [decide_eq_decide]
    exact ⟨fun hne htext => hne (hsilent choice hchoice htext), h.messagesFor_ne_nil hchoice⟩
  rw [examinedChoices, ← hfilter]
  exact h.wholeDocChoices_perm hforwards hconsumed ctx

end IsSplit

/-! ### Agreement -/

/-- The detections that a message reports for a choice. -/
def outputOf (c : ChoiceIndex) (m : Completion) : List Detection :=
  (m.detections.getD {}).outputOf c

/-- The final message of a stream and a completion report the same detections for every choice
and have warnings of the same types for the output. -/
structure ReportsLike (final completion : Completion) : Prop where
  detections : ∀ c, (outputOf c final).Perm (outputOf c completion)
  emptyOutput : HasWarning .emptyOutput final ↔ HasWarning .emptyOutput completion
  unsuitableOutput : HasWarning .unsuitableOutput final ↔ HasWarning .unsuitableOutput completion

/-- The last item of a stream is like the answer without streaming: both are errors, or both
report the same. -/
def AnswersLike : Option (Item Error Completion) → Option (Except Error Completion) → Prop
  | some (.error _), some (.error _) => True
  | some (.ok (some final)), some (.ok completion) => ReportsLike final completion
  | _, _ => False

/-- The same texts are submitted for the same choices. -/
def SubmitsLike (streamed unary : Option (List WholeDocTask)) : Prop :=
  ∃ tasks tasks', streamed = some tasks ∧ unary = some tasks' ∧
    (tasks.map WholeDocTask.submission).Perm (tasks'.map WholeDocTask.submission)

/-- Some task fails. -/
def Fails (answer : WholeDocRequest → Except Error (List Detection))
    (tasks : Option (List WholeDocTask)) : Prop :=
  ∃ l ∈ tasks, ∃ task ∈ l, ∃ error, answer task.request = .error error

section Agreement

variable {tasks tasks' : List WholeDocTask}
  {answer answer' : WholeDocRequest → Except Error (List Detection)} {completion m : Completion}

theorem outputOf_wholeDocResult (detections : List (WholeDocTask × List Detection))
    (c : ChoiceIndex) :
    (wholeDocResult detections).1.outputOf c = detectedOn c (resultsOf detections) := by
  rw [wholeDocResult, CompletionDetections.outputOf, detectedOn, resultsOf, List.filter_map,
    List.filter_map, List.flatMap_map, List.flatMap_map]
  rfl

theorem unsuitableOutput_notMem_noContentWarnings (completion : Completion) :
    DetectionWarningReason.unsuitableOutput ∉ (noContentWarnings completion).map (·.type) := by
  simp [noContentWarnings]

theorem emptyOutput_mem_noContentWarnings_iff :
    DetectionWarningReason.emptyOutput ∈ (noContentWarnings completion).map (·.type) ↔
      ∃ choice ∈ completion.choices, choice.text = "" := by
  simp [noContentWarnings]

/-- Results that agree by choice are reported alike, unless a choice without text is missing from
the warnings of the stream. -/
theorem reportsLike_iff {detections detections' : List (WholeDocTask × List Detection)}
    (hdetected : ∀ c, (detectedOn c (resultsOf detections)).Perm
      (detectedOn c (resultsOf detections')))
    (hunsuitable : unsuitableOutputWarnings (resultsOf detections) =
      unsuitableOutputWarnings (resultsOf detections'))
    (order : VisitOrder (ChoiceIndex × List Detection)) (m completion : Completion) :
    ReportsLike
        { m with
          detections := some (wholeDocResult detections).1
          warnings := (wholeDocResult detections).2 }
        (withOutput completion (addOutputDetections order (resultsOf detections')
          (none, [] ++ noContentWarnings completion))) ↔
      ∀ choice ∈ completion.choices, choice.text ≠ "" := by
  have hstreamed : ∀ type, HasWarning type
      { m with
        detections := some (wholeDocResult detections).1
        warnings := (wholeDocResult detections).2 } ↔
      type ∈ (unsuitableOutputWarnings (resultsOf detections')).map (·.type) := by
    intro type
    rw [← hunsuitable]
    rfl
  have hunary : ∀ type, HasWarning type (withOutput completion (addOutputDetections order
      (resultsOf detections') (none, [] ++ noContentWarnings completion))) ↔
      type ∈ (noContentWarnings completion).map (·.type) ∨
        type ∈ (unsuitableOutputWarnings (resultsOf detections')).map (·.type) := by
    intro type
    rw [HasWarning, withOutput, warnings_addOutputDetections, List.nil_append, List.map_append,
      List.mem_append]
  have hempty := emptyOutput_notMem_unsuitableOutputWarnings (resultsOf detections')
  constructor
  · intro hreports choice hchoice htext
    -- the completion has a warning for the choice, and the final message has none
    have hwarning := (hunary .emptyOutput).mpr
      (Or.inl (emptyOutput_mem_noContentWarnings_iff.mpr ⟨choice, hchoice, htext⟩))
    exact hempty ((hstreamed _).mp (hreports.emptyOutput.mpr hwarning))
  · intro htexts
    refine ⟨?_, ?_, ?_⟩
    · intro c
      change (CompletionDetections.outputOf c _).Perm
        (((addOutputDetections order _ (none, _)).1.getD {}).outputOf c)
      rw [Option.getD_some, outputOf_wholeDocResult, outputOf_addOutputDetections]
      exact hdetected c
    · have hnone : DetectionWarningReason.emptyOutput ∉
          (noContentWarnings completion).map (·.type) := by
        rw [emptyOutput_mem_noContentWarnings_iff]
        rintro ⟨choice, hchoice, htext⟩
        exact htexts choice hchoice htext
      rw [hstreamed, hunary, or_iff_right hnone]
    · rw [hstreamed, hunary, or_iff_right (unsuitableOutput_notMem_noContentWarnings completion)]

/-- The same tasks are answered alike exactly if every choice has text, or if one of the tasks
fails. -/
theorem answersLike_iff (hperm : tasks.Perm tasks')
    (hanswer : ∀ request, SameAnswer (answer request) (answer' request))
    (order : VisitOrder (ChoiceIndex × List Detection)) (m completion : Completion) :
    AnswersLike
        (some (((answered (fun task => answer task.request) tasks).map wholeDocResult).map
          fun result => some { m with detections := some result.1, warnings := result.2 }))
        (some ((answered (fun task => answer' task.request) tasks').map fun detections =>
          withOutput completion (addOutputDetections order (resultsOf detections)
            (none, [] ++ noContentWarnings completion)))) ↔
      (∀ choice ∈ completion.choices, choice.text ≠ "") ∨
        ∃ task ∈ tasks', ∃ error, answer' task.request = .error error := by
  rcases answered_perm hperm fun task => hanswer task.request with
    ⟨error, error', herror, herror'⟩ | ⟨results, results', hresults, hresults', hsame⟩
  · -- both are errors, so some task fails
    have hfails : ∃ task ∈ tasks', ∃ error, answer' task.request = .error error := by
      by_contra hnone
      obtain ⟨results, hok⟩ := Except.exists_mapM_eq_ok (l := tasks')
        (f := fun task => (answer' task.request).map fun results => (task, results)) (by
          intro task htask
          cases htask' : answer' task.request with
          | error error => exact absurd ⟨task, htask, error, htask'⟩ hnone
          | ok results => exact ⟨_, rfl⟩)
      rw [answered, hok] at herror'
      simp at herror'
    rw [herror, herror']
    exact iff_of_true trivial (Or.inr hfails)
  -- no task fails, so that both report what was found
  · have hok : ¬ ∃ task ∈ tasks', ∃ error, answer' task.request = .error error := by
      rintro ⟨task, htask, error, herror⟩
      obtain ⟨e, he⟩ := Except.exists_mapM_eq_error htask
        (f := fun task => (answer' task.request).map fun results => (task, results))
        (by rw [herror]; rfl)
      rw [answered, he] at hresults'
      simp at hresults'
    rw [hresults, hresults', or_iff_left hok]
    apply reportsLike_iff
    · intro c
      rw [resultsOf, resultsOf, List.map_map, List.map_map]
      exact detectedOn_perm _ _ hperm hsame
    · rw [resultsOf, resultsOf, List.map_map, List.map_map]
      exact unsuitableOutputWarnings_eq WholeDocTask.choiceIndex WholeDocTask.detectorType hperm
        hsame

end Agreement

/-! ### Runs -/

section Run

variable {request : StreamingRequest Completion} {stream : List (Item Error Completion)}
  {s t : CompletionStreaming} {ctx : WholeDocContext} {m completion : Completion}
  {answer answer' : WholeDocRequest → Except Error (List Detection)}

/-- The output detectors of a request have groups of supported types. -/
theorem exists_groups (hprepare : request.prepare [.textContents, .textGeneration] = .ok stream)
    (houtput : request.outputDetectors.isEmpty = false) :
    ∃ groups, groupDetectorsByType request.config request.outputDetectors = some groups ∧
      Supported groups.entries ∧ groups.entries ≠ [] := by
  have hvalid := validateDetectors_eq_ok_iff.mp
    (StreamingRequest.validateDetectors_of_prepare hprepare)
  obtain ⟨groups, hgroups, htypes⟩ := exists_groupDetectorsByType fun detectorId hmem => by
    obtain ⟨detector, hget, htype, -⟩ := hvalid detectorId hmem
    exact ⟨detector, hget, htype⟩
  refine ⟨groups, hgroups, htypes, ?_⟩
  apply entries_ne_nil_of_groupDetectorsByType hgroups
  intro hnil
  simp [IterMap.isEmpty, hnil] at houtput

/-- With and without streaming, the tasks are those for the same groups of detectors, in some
order. -/
theorem exists_tasksOf (hprepare : request.prepare [.textContents, .textGeneration] = .ok stream)
    (houtput : request.outputDetectors.isEmpty = false)
    (hchunk : request.chunkDetectors.isEmpty = true) (ctx : WholeDocContext) {unary : UnaryContext}
    (hprompt : unary.prompt = ctx.prompt) (state : CompletionState Completion)
    (completion : Completion) :
    ∃ groups groups', Supported groups ∧ groups ≠ [] ∧ groups.Perm groups' ∧
      wholeDocTasks ctx request.config request.wholeDocDetectors state =
        tasksOf ctx.prompt groups (wholeDocChoices ctx state) ∧
      outputTasks unary request.config request.outputDetectors completion =
        tasksOf ctx.prompt groups' (examinedChoices completion) := by
  obtain ⟨groups, hgroups, hsupported, hne⟩ := exists_groups hprepare houtput
  have hvisited := ctx.groupOrder.perm groups.entries
  refine ⟨ctx.groupOrder.visit groups.entries, unary.groupOrder.visit groups.entries,
    hsupported.perm hvisited, ?_, ?_, ?_, ?_⟩
  · intro hnil
    rw [hnil] at hvisited
    exact hne hvisited.symm.eq_nil
  · exact hvisited.trans (unary.groupOrder.perm groups.entries).symm
  · rw [wholeDocTasks, request.wholeDocDetectors_eq hchunk, hgroups]
    rfl
  · rw [outputTasks, hgroups, ← hprompt]
    rfl

/-- The last item that is sent after whole-document detection is the message with its result, or
its error. -/
theorem getLast?_sent_of_stepMain (hstage : s.stage = .detectingWholeDoc m)
    (hstep : s.stepMain request = some t)
    {result : Except Error (CompletionDetections × List CompletionDetectionWarning)}
    (hresult : request.wholeDocDetection s.task.completionState = some result) :
    t.task.sent.getLast? = some (result.map fun result =>
      some { m with detections := some result.1, warnings := result.2 }) := by
  simp only [stepMain, hstage, hresult] at hstep
  rcases result with error | ⟨detections, warnings⟩
  · obtain rfl := Option.some.inj hstep
    simp [send, goto, Except.map]
  · obtain rfl := Option.some.inj hstep
    simp [send, goto, Except.map]

/-- A choice without text is submitted if it has a message, but not without streaming. -/
theorem not_submitsLike {groups groups' : List DetectorGroup} {prompt : String}
    {choices : List (ChoiceIndex × String)} (hsupported : Supported groups) (hne : groups ≠ [])
    (hgroups : groups.Perm groups') {c : ChoiceIndex} (hempty : (c, "") ∈ choices) :
    ¬ SubmitsLike (tasksOf prompt groups choices)
      (tasksOf prompt groups' (examinedChoices completion)) := by
  rintro ⟨tasks, tasks', htasks, htasks', hperm⟩
  have hne' : groups' ≠ [] := by
    intro hnil
    rw [hnil] at hgroups
    exact hne hgroups.eq_nil
  have hmem := hperm.mem_iff.mp ((hsupported.mem_submission_iff hne htasks).mpr hempty)
  rw [(hsupported.perm hgroups.symm).mem_submission_iff hne' htasks', examinedChoices,
    List.mem_map] at hmem
  obtain ⟨choice, hchoice, heq⟩ := hmem
  have htext := of_decide_eq_true (List.mem_filter.mp hchoice).2
  exact htext (Prod.mk.inj heq).2

end Run

end CompletionUnary

open CompletionUnary

/-- **Whole documents and completions.** Take a completion as the generation server returns it and
a stream that splits its texts, in any way and in any order of the choices, and consider the step
of the main task that answers after whole-document detection. The step answers like output
detection on the completion does, for the same texts of the same choices, exactly if every choice
has text, or else if no choice without text has a message and a detector fails on another choice. -/
theorem completion_wholeDoc_agrees_iff {request : StreamingRequest Completion}
    {stream : List (Item Error Completion)} {batches : List (Except Error Batch)}
    {w : List CompletionLabel} {s t : CompletionStreaming} {ctx : WholeDocContext}
    {answer answer' : WholeDocRequest → Except Error (List Detection)} {m completion : Completion}
    (hprepare : request.prepare [.textContents, .textGeneration] = .ok stream)
    (houtput : request.outputDetectors.isEmpty = false)
    (hchunk : request.chunkDetectors.isEmpty = true)
    (hwholeDoc : request.wholeDocDetection =
      handleWholeDocDetection ctx request.config request.wholeDocDetectors answer)
    (hrun : exec (step request) (start request batches) w = some s)
    (hstage : s.stage = .detectingWholeDoc m) (hstep : s.step request .main = some t)
    (hsplit : IsSplit completion.choices stream) (hdetections : completion.detections = none)
    (hwarnings : completion.warnings = [])
    (hanswer : ∀ request, SameAnswer (answer request) (answer' request))
    {unary : UnaryContext} (hprompt : unary.prompt = ctx.prompt) :
    (SubmitsLike
        (wholeDocTasks ctx request.config request.wholeDocDetectors s.task.completionState)
        (outputTasks unary request.config request.outputDetectors completion) ∧
      AnswersLike t.task.sent.getLast? (handleOutputDetection unary request.config
        request.outputDetectors answer' completion)) ↔
      (∀ choice ∈ completion.choices, choice.text ≠ "") ∨
        ((∀ choice ∈ completion.choices, choice.text = "" →
          messagesFor choice.index stream = []) ∧
        Fails answer' (outputTasks unary request.config request.outputDetectors completion)) := by
  -- at the end of the stream every message has been stored
  have hforwards : Forwards stream s := exec_invariant_all (fun _ _ _ h => h.step)
    (Forwards.start batches hprepare houtput hchunk) hrun
  have hconsumed : s.consumer = [] := hforwards.consumed.resolve_left (by simp [hstage])
  obtain ⟨groups, groups', hsupported, hne, hgroups, hstreamed, hunary⟩ :=
    exists_tasksOf hprepare houtput hchunk ctx hprompt s.task.completionState completion
  by_cases hsilent : ∀ choice ∈ completion.choices, choice.text = "" →
      messagesFor choice.index stream = []
  -- the same texts are examined, in another order, so that the same tasks are spawned
  · have hchoices := hsplit.wholeDocChoices_perm_examinedChoices hforwards hconsumed ctx hsilent
    obtain ⟨tasks, tasks', htasks, htasks', hperm⟩ :=
      hsupported.exists_tasksOf_perm ctx.prompt hgroups hchoices
    have hsubmits : SubmitsLike (some tasks) (some tasks') :=
      ⟨tasks, tasks', rfl, rfl, hperm.map _⟩
    have hresult : request.wholeDocDetection s.task.completionState =
        some ((answered (fun task => answer task.request) tasks).map wholeDocResult) := by
      rw [hwholeDoc, handleWholeDocDetection, hstreamed, htasks]
      rfl
    have hanswered : handleOutputDetection unary request.config request.outputDetectors answer'
        completion = some ((answered (fun task => answer' task.request) tasks').map
          fun detections => withOutput completion (addOutputDetections unary.choiceOrder
            (resultsOf detections) (none, [] ++ noContentWarnings completion))) := by
      rw [handleOutputDetection, handleOutputTasks, hunary, htasks', hdetections, hwarnings]
      rfl
    have hfails : Fails answer' (some tasks') ↔
        ∃ task ∈ tasks', ∃ error, answer' task.request = .error error := by
      simp [Fails]
    rw [hstreamed, hunary, htasks, htasks', getLast?_sent_of_stepMain hstage hstep hresult,
      hanswered, and_iff_right hsubmits, answersLike_iff hperm hanswer, hfails,
      and_iff_right hsilent]
  · -- a choice without text and with a message is examined only with streaming
    obtain ⟨choice, hchoice, htext, hmessages⟩ : ∃ choice ∈ completion.choices,
        choice.text = "" ∧ messagesFor choice.index stream ≠ [] := by
      simpa using hsilent
    have hexamined := hsplit.mem_wholeDocChoices hforwards hconsumed ctx hchoice hmessages
    rw [htext] at hexamined
    rw [hstreamed, hunary]
    refine iff_of_false ?_ ?_
    · intro hagrees
      exact not_submitsLike hsupported hne hgroups hexamined hagrees.1
    · rintro (htexts | ⟨hnone, -⟩)
      · exact htexts choice hchoice htext
      · exact hsilent hnone

/-- A request for a detector that examines the prompt and the full text. -/
def relevanceRequest (generation : List (Item Error Completion))
    (answer : WholeDocRequest → Except Error (List Detection)) : StreamingRequest Completion :=
  let request : StreamingRequest Completion :=
    { sentenceRequest generation with
      config :=
        { openai := some ⟨{ hostname := "localhost" }, none⟩
          detectors := ⟨[("relevance", ⟨{ hostname := "localhost" }, none, defaultChunkerId, 1,
            .textGeneration⟩)], by decide⟩ }
      outputDetectors := ⟨[("relevance", .empty)], by decide⟩ }
  { request with
    wholeDocDetection :=
      handleWholeDocDetection {} request.config request.wholeDocDetectors answer }

/-- A detector that finds nothing irrelevant but a greeting. -/
def reportsIrrelevant (request : WholeDocRequest) : Except Error (List Detection) :=
  .ok (if request.examinedText = "Hello." then
    [{ start := some 0, stop := some 6, text := some "Hello.", detectionType := "risk",
       detection := "irrelevant", score := 1 }] else [])

/-- A completion with two choices. -/
def twoTextsCompletion (text text' : String) : Completion :=
  { id := "cmpl", choices := [{ index := 0, text }, { index := 1, text := text' }] }

/-- The stream of two choices, of which the first has its text in two messages. -/
def threeParts (part part' text' : String) : List (Item Error Completion) :=
  [.ok (some { id := "cmpl", choices := [{ index := 0, text := part }] }),
    .ok (some { id := "cmpl", choices := [{ index := 1, text := text' }] }),
    .ok (some { id := "cmpl", choices := [{ index := 0, text := part' }] })]

theorem isSplit_threeParts (part part' text' : String) :
    IsSplit (twoTextsCompletion (part ++ part') text').choices (threeParts part part' text') where
  nodup := by simp [twoTextsCompletion]
  single := by
    intro item hitem
    refine Or.inr ?_
    simp only [threeParts, List.mem_cons, List.not_mem_nil, or_false] at hitem
    rcases hitem with rfl | rfl | rfl <;>
      exact ⟨_, rfl, le_refl _, by simp [twoTextsCompletion]⟩
  text := by
    intro choice hchoice
    rcases List.mem_pair.mp hchoice with rfl | rfl
    · simp [choiceText, messagesFor, threeParts, choiceOf, Completion.text, String.join]
    · simp [choiceText, messagesFor, threeParts, choiceOf, Completion.text, String.join]

/-- The consumer performs its seven effects, and the main task goes on to detection. -/
def detectionRun : List CompletionLabel := List.replicate 7 .consumer ++ [.main, .main]

theorem completion_wholeDoc_agrees_iff_threeParts :
    ∃ s t, exec (step (relevanceRequest (threeParts "Hel" "lo." "No.") reportsIrrelevant))
        (start (relevanceRequest (threeParts "Hel" "lo." "No.") reportsIrrelevant) [])
          detectionRun = some s ∧
      s.step (relevanceRequest (threeParts "Hel" "lo." "No.") reportsIrrelevant) .main = some t ∧
      AnswersLike t.task.sent.getLast? (handleOutputDetection {}
        (relevanceRequest (threeParts "Hel" "lo." "No.") reportsIrrelevant).config
        (relevanceRequest (threeParts "Hel" "lo." "No.") reportsIrrelevant).outputDetectors
        reportsIrrelevant (twoTextsCompletion "Hello." "No.")) := by
  have hrun := exec_eq_some_get (by decide :
    (exec (step (relevanceRequest (threeParts "Hel" "lo." "No.") reportsIrrelevant))
      (start (relevanceRequest (threeParts "Hel" "lo." "No.") reportsIrrelevant) [])
        detectionRun).isSome = true)
  refine ⟨_, _, hrun, rfl, ?_⟩
  exact ((completion_wholeDoc_agrees_iff rfl (by decide) (by decide) rfl hrun rfl rfl
    (isSplit_threeParts "Hel" "lo." "No.") rfl rfl (fun _ => .ok (.refl _)) rfl).mpr
      (Or.inl (by decide))).2

/-- The choice without text is examined with streaming and not without, and only without streaming
there is a warning. -/
theorem completion_wholeDoc_not_agrees_emptyChoice :
    ∃ s t, exec (step (relevanceRequest (threeParts "Hel" "lo." "") reportsIrrelevant))
        (start (relevanceRequest (threeParts "Hel" "lo." "") reportsIrrelevant) [])
          detectionRun = some s ∧
      s.step (relevanceRequest (threeParts "Hel" "lo." "") reportsIrrelevant) .main = some t ∧
      IsSplit (twoTextsCompletion "Hello." "").choices (threeParts "Hel" "lo." "") ∧
      ¬ SubmitsLike
        (wholeDocTasks {} (relevanceRequest (threeParts "Hel" "lo." "") reportsIrrelevant).config
          (relevanceRequest (threeParts "Hel" "lo." "") reportsIrrelevant).wholeDocDetectors
          s.task.completionState)
        (outputTasks {} (relevanceRequest (threeParts "Hel" "lo." "") reportsIrrelevant).config
          (relevanceRequest (threeParts "Hel" "lo." "") reportsIrrelevant).outputDetectors
          (twoTextsCompletion "Hello." "")) ∧
      ¬ AnswersLike t.task.sent.getLast? (handleOutputDetection {}
        (relevanceRequest (threeParts "Hel" "lo." "") reportsIrrelevant).config
        (relevanceRequest (threeParts "Hel" "lo." "") reportsIrrelevant).outputDetectors
        reportsIrrelevant (twoTextsCompletion "Hello." "")) := by
  have hrun := exec_eq_some_get (by decide :
    (exec (step (relevanceRequest (threeParts "Hel" "lo." "") reportsIrrelevant))
      (start (relevanceRequest (threeParts "Hel" "lo." "") reportsIrrelevant) [])
        detectionRun).isSome = true)
  refine ⟨_, _, hrun, rfl, isSplit_threeParts "Hel" "lo." "", ?_, ?_⟩
  · rintro ⟨tasks, tasks', htasks, htasks', hperm⟩
    obtain rfl := Option.some.inj htasks
    obtain rfl := Option.some.inj htasks'
    exact absurd hperm (by decide)
  · intro hanswers
    exact absurd (hanswers.emptyOutput.mpr (by decide)) (by decide)

end GuardrailsOrchestrator
