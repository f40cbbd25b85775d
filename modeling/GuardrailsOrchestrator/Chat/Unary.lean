import GuardrailsOrchestrator.Chat.WholeDoc
import GuardrailsOrchestrator.OutputDetections

/-!
# Chat completions without streaming

Output detection on a chat completion that is returned as a whole, and its relation to
whole-document detection of a streamed one. Streaming rebuilds the message of each choice from
the chunks that were recorded for it, and reports one entry for each choice and type of detectors;
without streaming the messages are there, and detections are grouped by choice.

## Main results

* `chat_wholeDoc_agrees` — both report the same, however the messages are split
-/

namespace GuardrailsOrchestrator

open ResponseProtocol Transition ChatStreaming

/-! ### Output detection -/

structure ChatCompletionChoice where
  index : ChoiceIndex := 0
  message : Message := {}
  logprobs : Option ChatCompletionLogprobs := none
  finishReason : String := ""
  stopReason : Option StopReason := none
  deriving DecidableEq

/-- A chat completion that is not streamed. -/
structure ChatCompletion where
  id : String := ""
  object : String := "chat.completion"
  created : ℤ := 0
  model : String := ""
  choices : List ChatCompletionChoice := []
  usage : Usage := {}
  promptLogprobs : Option (List (Option (IterMap String Logprob))) := none
  systemFingerprint : Option String := none
  serviceTier : Option String := none
  detections : Option CompletionDetections := none
  warnings : List CompletionDetectionWarning := []
  deriving DecidableEq

namespace ChatUnary

/-- The choices of a chat completion with their messages. -/
def choicesOf (chatCompletion : ChatCompletion) : List (ChoiceIndex × Message) :=
  chatCompletion.choices.map fun choice => (choice.index, choice.message)

/-- The results of the tasks, by choice. -/
def resultsOf (detections : List (WholeDocTask × List Detection)) : List ChoiceDetections :=
  detections.map fun (task, results) => (task.choiceIndex, task.detectorType, results)

/-- The chat completion with other detections and warnings. -/
def withOutput (chatCompletion : ChatCompletion)
    (output : Option CompletionDetections × List CompletionDetectionWarning) : ChatCompletion :=
  { chatCompletion with detections := output.1, warnings := output.2 }

/-- `handle_output_detection`, with what the detectors answer. The tasks are those of
whole-document detection, for the messages of the chat completion. Each has an answer of its own:
the detectors are called anew, so the same request may be answered differently for two choices. -/
def handleOutputTasks (ctx : WholeDocContext) (order : VisitOrder (ChoiceIndex × List Detection))
    (config : OrchestratorConfig) (detectors : IterMap DetectorId DetectorParams)
    (answer : WholeDocTask → Except Error (List Detection)) (chatCompletion : ChatCompletion) :
    Option (Except Error ChatCompletion) := do
  let groups ← groupDetectorsByType config detectors
  let tasks ← tasksOf ctx groups (choicesOf chatCompletion)
  pure ((answered answer tasks).map fun detections =>
    withOutput chatCompletion (addOutputDetections order (resultsOf detections)
      (chatCompletion.detections,
        chatCompletion.warnings ++ noContentWarnings (choicesOf chatCompletion))))

/-- The same with detectors that answer equal requests in the same way. -/
def handleOutputDetection (ctx : WholeDocContext)
    (order : VisitOrder (ChoiceIndex × List Detection)) (config : OrchestratorConfig)
    (detectors : IterMap DetectorId DetectorParams)
    (answer : WholeDocRequest → Except Error (List Detection)) (chatCompletion : ChatCompletion) :
    Option (Except Error ChatCompletion) :=
  handleOutputTasks ctx order config detectors (fun task => answer task.request) chatCompletion

/-! ### Splitting messages into chunks -/

/-- A message of the assistant with a text and nothing else; without content if the text is
empty. -/
def assistantMessage (text : String) : Message :=
  { role := .assistant, content := if text = "" then none else some (.text text) }

/-- The stream has the messages of the choices in parts: every chunk belongs to one choice, every
choice occurs, and the text of its message is the contents of its chunks, put together. -/
structure IsSplit (choices : List ChatCompletionChoice)
    (stream : List (Item Error ChatCompletionChunk)) : Prop where
  nodup : (choices.map (·.index)).Nodup
  single : ∀ item ∈ stream, item = .ok none ∨ ∃ m part, item = .ok (some m) ∧ m.choices = [part] ∧
    part.delta.toolCalls = [] ∧ part.index ∈ choices.map (·.index)
  occurs : ∀ choice ∈ choices, ∃ m, .ok (some m) ∈ stream ∧ choiceOf m = some choice.index
  message : ∀ choice ∈ choices,
    choice.message = assistantMessage (forwardedText choice.index stream)

section Split

variable {choices : List ChatCompletionChoice} {stream : List (Item Error ChatCompletionChunk)}
  {ctx : WholeDocContext} {c : ChoiceIndex}

/-- Chunks without tool calls are merged into a message without tool calls. -/
theorem wholeDocMessage_eq_some {chunks : List ChatCompletionChunk}
    (h : ∀ m ∈ chunks, ∀ part ∈ m.choices.head?, part.delta.toolCalls = []) :
    wholeDocMessage ctx chunks = some (assistantMessage
      (String.join (chunks.map ChatCompletionChunk.content))) := by
  have hdeltas : (chunks.flatMap fun chunk =>
      (chunk.choices.head?.map (·.delta.toolCalls)).getD []) = [] := by
    rw [List.flatMap_eq_nil_iff]
    intro m hm
    cases hpart : m.choices.head? with
    | none => rfl
    | some part => simpa [hpart] using h m hm part hpart
  have hcalls : mergeToolCalls ctx.callOrder chunks = some none := by
    have hnil : ctx.callOrder.visit [] = [] := List.perm_nil.mp (ctx.callOrder.perm [])
    simp only [mergeToolCalls, hdeltas]
    simp [IterMap.empty, hnil]
  have hcontent : String.join (chunks.filterMap fun chunk =>
      chunk.choices.head?.bind (·.delta.content)) =
        String.join (chunks.map ChatCompletionChunk.content) := String.join_filterMap _ _
  rw [wholeDocMessage, hcalls, mergeContent, hcontent]
  simp [assistantMessage, String.isEmpty_iff]

/-- Where every message has one choice, the text of a choice is what is recorded for it. -/
theorem IsSplit.join_content (h : IsSplit choices stream) (c : ChoiceIndex) :
    String.join ((choiceMessages c stream).map (·.2.content)) = forwardedText c stream := by
  refine (forwardedText_eq_iff.mpr ?_ c).symm
  intro m hm choice hchoice
  rcases h.single _ hm with hnone | ⟨m', part, heq, hpart, -⟩
  · simp at hnone
  · obtain rfl : m = m' := by simpa using heq
    simp [hpart] at hchoice

/-- The chunks of a choice have no tool calls. -/
theorem IsSplit.toolCalls_eq_nil (h : IsSplit choices stream) {e : ℕ × ChatCompletionChunk}
    (he : e ∈ choiceMessages c stream) : ∀ part ∈ e.2.choices.head?, part.delta.toolCalls = [] := by
  obtain ⟨p, hp, hmessage⟩ := List.mem_filterMap.mp he
  obtain ⟨rfl, -⟩ := StreamingTask.messageOf_eq_some_iff.mp hmessage
  rcases h.single _ (List.fst_mem_of_mem_zipIdx hp) with hnone | ⟨m, part, heq, hpart, hcalls, -⟩
  · simp at hnone
  · obtain rfl : e.2 = m := by simpa using heq
    intro part' hpart'
    obtain rfl : part = part' := by simpa [hpart] using hpart'
    exact hcalls

/-- The choices with recorded messages are the choices of the split. -/
theorem IsSplit.choiceMessages_ne_nil_iff (h : IsSplit choices stream) :
    choiceMessages c stream ≠ [] ↔ c ∈ choices.map (·.index) := by
  constructor
  · intro hne
    obtain ⟨e, he⟩ := List.exists_mem_of_ne_nil _ hne
    obtain ⟨p, hp, hmessage⟩ := List.mem_filterMap.mp he
    obtain ⟨rfl, hc⟩ := StreamingTask.messageOf_eq_some_iff.mp hmessage
    rcases h.single _ (List.fst_mem_of_mem_zipIdx hp) with hnone | ⟨m, part, heq, hpart, -, hmem⟩
    · simp at hnone
    · obtain rfl : e.2 = m := by simpa using heq
      obtain rfl : part.index = c := by simpa [choiceOf, hpart] using hc
      exact hmem
  · intro hmem
    obtain ⟨choice, hchoice, rfl⟩ := List.mem_map.mp hmem
    obtain ⟨m, hm, hc⟩ := h.occurs choice hchoice
    obtain ⟨i, hitem⟩ := List.exists_mem_zipIdx_of_mem hm
    apply List.ne_nil_of_mem (a := (i, m))
    exact List.mem_filterMap.mpr ⟨_, hitem, StreamingTask.messageOf_eq_some_iff.mpr ⟨rfl, hc⟩⟩

/-- The messages that streaming rebuilds are those of the choices. -/
theorem IsSplit.exists_wholeDocChoices_perm (h : IsSplit choices stream)
    {state : CompletionState ChatCompletionChunk} (hinhabits : state.Inhabits)
    (hstored : ∀ c, (state.messages c).entries = choiceMessages c stream) :
    ∃ rebuilt, wholeDocChoices ctx state = some rebuilt ∧
      rebuilt.Perm (choices.map fun choice => (choice.index, choice.message)) := by
  have hmessage : ∀ e ∈ ctx.choiceOrder.visit state.completions.entries,
      (do let message ← wholeDocMessage ctx (e.2.entries.map (·.2))
          pure (e.1, message)) = some (e.1, assistantMessage (forwardedText e.1 stream)) := by
    rintro ⟨c, completions⟩ he
    obtain ⟨rfl, -⟩ := hinhabits.mem_entries_iff.mp ((ctx.choiceOrder.perm _).mem_iff.mp he)
    rw [hstored, wholeDocMessage_eq_some, List.map_map, ← h.join_content]
    · rfl
    · intro m hm
      obtain ⟨e, he, rfl⟩ := List.mem_map.mp hm
      exact h.toolCalls_eq_nil he
  refine ⟨_, Option.mapM_eq_some_map hmessage, ?_⟩
  have hvisited := ctx.choiceOrder.perm state.completions.entries
  -- a choice determines its message, and both sides have the same choices
  have hchoices : (choices.map fun choice => (choice.index, choice.message)) =
      (choices.map (·.index)).map fun c => (c, assistantMessage (forwardedText c stream)) := by
    rw [List.map_map]
    apply List.map_congr_left
    intro choice hchoice
    rw [h.message choice hchoice]
    rfl
  have hindices : ((ctx.choiceOrder.visit state.completions.entries).map (·.1)).Perm
      (choices.map (·.index)) := by
    refine (hvisited.map _).trans ?_
    apply (List.perm_ext_iff_of_nodup state.completions.nodup_keys h.nodup).mpr
    intro c
    rw [← h.choiceMessages_ne_nil_iff, ← hstored]
    exact hinhabits.mem_keys_iff
  have hmessages := hindices.map fun c => (c, assistantMessage (forwardedText c stream))
  rw [List.map_map] at hmessages
  rw [hchoices]
  exact hmessages

end Split

/-! ### Agreement -/

/-- The two ways of detection agree: they fail in the same way, or they report the same
detections for every choice and the same warnings. -/
def Agrees : Option (Except Error (CompletionDetections × List CompletionDetectionWarning)) →
    Option (Except Error ChatCompletion) → Prop
  | none, none => True
  | some (.error _), some (.error _) => True
  | some (.ok final), some (.ok chatCompletion) =>
    (∀ c, (final.1.outputOf c).Perm ((chatCompletion.detections.getD {}).outputOf c)) ∧
      final.2.Perm chatCompletion.warnings
  | _, _ => False

section Agreement

variable {ctx : WholeDocContext} {config : OrchestratorConfig}
  {detectors : IterMap DetectorId DetectorParams}
  {answer answer' : WholeDocRequest → Except Error (List Detection)}

/-- The tasks for the same choices, in any order of the choices and groups. -/
theorem tasksOf_perm (ctx : WholeDocContext)
    (groups : IterMap DetectorType (IterMap DetectorId DetectorParams))
    {choices choices' : List (ChoiceIndex × Message)} (h : choices.Perm choices')
    (groupOrder : VisitOrder (DetectorType × IterMap DetectorId DetectorParams)) :
    (tasksOf ctx groups choices = none ∧ tasksOf { ctx with groupOrder } groups choices' = none) ∨
      ∃ tasks tasks', tasksOf ctx groups choices = some tasks ∧
        tasksOf { ctx with groupOrder } groups choices' = some tasks' ∧ tasks.Perm tasks' :=
  Option.mapPairs_perm h ((ctx.groupOrder.perm _).trans (groupOrder.perm _).symm)

/-- Detectors of the types that the endpoint supports have tasks. -/
theorem tasksOf_eq_some {groups : IterMap DetectorType (IterMap DetectorId DetectorParams)}
    (h : ∀ type ∈ groups.keys, type ∈ [.textContents, .textChat])
    (choices : List (ChoiceIndex × Message)) :
    tasksOf ctx groups choices = some (choices.flatMap fun choice =>
      (ctx.groupOrder.visit groups.entries).filterMap fun group =>
        (wholeDocTask ctx choice group).join) := by
  apply Option.mapPairs_eq_some
  intro choice _ group hgroup
  have hkey : group.1 ∈ groups.keys :=
    List.mem_map_of_mem ((ctx.groupOrder.perm _).mem_iff.mp hgroup)
  rw [wholeDocTask]
  rcases List.mem_pair.mp (h _ hkey) with htype | htype
  · rw [htype]
    rfl
  · rw [htype]
    rfl

/-- What streaming reports, by choice. -/
theorem outputOf_wholeDocResult (warnings : List CompletionDetectionWarning)
    (detections : List (WholeDocTask × List Detection)) (c : ChoiceIndex) :
    (wholeDocResult warnings detections).1.outputOf c = detectedOn c (resultsOf detections) := by
  rw [wholeDocResult, CompletionDetections.outputOf, detectedOn, resultsOf, List.filter_map,
    List.filter_map, List.flatMap_map, List.flatMap_map]
  rfl

theorem warnings_wholeDocResult (warnings : List CompletionDetectionWarning)
    (detections : List (WholeDocTask × List Detection)) :
    (wholeDocResult warnings detections).2 =
      warnings ++ unsuitableOutputWarnings (resultsOf detections) := by
  rw [wholeDocResult, unsuitableOutputWarnings, unsuitableOutput, resultsOf, List.any_map]
  rfl

/-- Detection on the same choices agrees. -/
theorem agrees_of_perm {state : CompletionState ChatCompletionChunk}
    {chatCompletion : ChatCompletion} {rebuilt : List (ChoiceIndex × Message)}
    (hrebuilt : wholeDocChoices ctx state = some rebuilt)
    (hperm : rebuilt.Perm (choicesOf chatCompletion))
    (hdetections : chatCompletion.detections = none) (hwarnings : chatCompletion.warnings = [])
    (hanswer : ∀ request, SameAnswer (answer request) (answer' request))
    (groupOrder : VisitOrder (DetectorType × IterMap DetectorId DetectorParams))
    (order : VisitOrder (ChoiceIndex × List Detection)) :
    Agrees (handleWholeDocDetection ctx config detectors answer state)
      (handleOutputDetection { ctx with groupOrder } order config detectors answer'
        chatCompletion) := by
  rw [handleWholeDocDetection, handleOutputDetection, handleOutputTasks]
  cases groupDetectorsByType config detectors with
  | none => trivial
  | some groups =>
    simp only [Option.bind_eq_bind, Option.bind_some, hrebuilt]
    -- both endpoints spawn the same tasks up to their order
    rcases tasksOf_perm ctx groups hperm groupOrder with
      ⟨htasks, htasks'⟩ | ⟨tasks, tasks', htasks, htasks', hperm'⟩
    · rw [htasks, htasks']
      trivial
    · rw [htasks, htasks', Option.bind_some, Option.bind_some]
      -- the tasks have the same answers up to the order of what was found
      rcases answered_perm hperm' fun task => hanswer task.request with
        ⟨error, error', herror, herror'⟩ | ⟨results, results', hresults, hresults', hsame⟩
      · rw [answered] at herror
        rw [herror, herror']
        trivial
      · rw [answered] at hresults
        rw [hresults, hresults', hdetections, hwarnings]
        refine ⟨?_, ?_⟩
        · intro c
          change (CompletionDetections.outputOf c _).Perm
            (((addOutputDetections order _ (none, _)).1.getD {}).outputOf c)
          rw [outputOf_wholeDocResult, outputOf_addOutputDetections, resultsOf, resultsOf,
            List.map_map, List.map_map]
          exact detectedOn_perm _ _ hperm' hsame
        · change (wholeDocResult _ _).2.Perm (addOutputDetections order _ _).2
          rw [warnings_wholeDocResult, warnings_addOutputDetections, resultsOf, resultsOf,
            List.map_map, List.map_map]
          have hempty : (noContentWarnings rebuilt).Perm
              (noContentWarnings (choicesOf chatCompletion)) := (hperm.filter _).map _
          have hunsuitable := unsuitableOutputWarnings_eq WholeDocTask.choiceIndex
            WholeDocTask.detectorType hperm' hsame
          rw [List.nil_append]
          exact hempty.append (List.Perm.of_eq hunsuitable)

end Agreement

/-! ### Runs -/

/-- While output is detected, the stored messages of a consumed stream are its messages. -/
theorem stored_of_exec {request : StreamingRequest ChatCompletionChunk}
    {stream : List (Item Error ChatCompletionChunk)} {batches : List (Except Error Batch)}
    {w : List ChatLabel} {s : ChatStreaming}
    (hprepare : request.prepare [.textContents, .textChat] = .ok stream)
    (houtput : request.outputDetectors.isEmpty = false)
    (hrun : exec (step request) (start request batches) w = some s) (hconsumed : s.consumer = []) :
    s.task.completionState.Inhabits ∧
      ∀ c, (s.task.completionState.messages c).entries = choiceMessages c stream := by
  have hstart : Follows stream (start request batches) ∧
      (start request batches).task.completionState.Inhabits := by
    cases hchunk : request.chunkDetectors.isEmpty with
    | true =>
      rw [start_eq_forwarding batches hprepare houtput hchunk]
      exact ⟨(Forwards.start stream).follows, by simp [CompletionState.Inhabits]⟩
    | false =>
      have heq : start request batches = startDetection request stream batches := by
        simp only [start, hprepare, houtput, hchunk]
        rfl
      rw [heq]
      exact ⟨Follows.startDetection request stream batches, by
        simp [CompletionState.Inhabits, startDetection]⟩
  -- only the consumer stores messages, and stores some for each choice it makes an entry for
  have hinvariant : Follows stream s ∧ s.task.completionState.Inhabits := by
    refine exec_invariant_all (I := fun s : ChatStreaming => Follows stream s ∧
      s.task.completionState.Inhabits) ?_ hstart hrun
    rintro s a t ⟨hfollows, hinhabits⟩ hstep
    refine ⟨hfollows.step hstep, ?_⟩
    cases a with
    | consumer =>
      obtain ⟨action, consumer, -, -, rfl⟩ := exists_of_stepConsumer hstep
      exact StreamingTask.inhabits_perform hinhabits action
    | main => cases mainStep_of_stepMain hstep <;> exact hinhabits
    | timeout =>
      obtain ⟨batch, -, ⟨-, error, rfl⟩ | ⟨-, rfl⟩⟩ := exists_of_stepTimeout hstep
      · exact hinhabits
      · exact hinhabits
  have hstored := hinvariant.1.stored
  rw [hconsumed] at hstored
  exact ⟨hinvariant.2, hstored.entries_eq⟩

end ChatUnary

open ChatUnary

/-- **Whole documents and chat completions.** Take a chat completion as the generation server
returns it and a stream that splits its messages, in any way and in any order of the choices.
Whenever the consumer has come to the end of the stream, whole-document detection agrees with
output detection on the chat completion: both fail, or they report the same detections for every
choice and the same warnings. Hash maps may be visited in other orders, and detectors may report
detections in another order the second time. -/
theorem chat_wholeDoc_agrees {request : StreamingRequest ChatCompletionChunk}
    {stream : List (Item Error ChatCompletionChunk)} {batches : List (Except Error Batch)}
    {w : List ChatLabel} {s : ChatStreaming} {ctx : WholeDocContext}
    {answer answer' : WholeDocRequest → Except Error (List Detection)}
    {chatCompletion : ChatCompletion}
    (hprepare : request.prepare [.textContents, .textChat] = .ok stream)
    (houtput : request.outputDetectors.isEmpty = false)
    (hrun : exec (step request) (start request batches) w = some s) (hconsumed : s.consumer = [])
    (hsplit : IsSplit chatCompletion.choices stream)
    (hdetections : chatCompletion.detections = none) (hwarnings : chatCompletion.warnings = [])
    (hanswer : ∀ request, SameAnswer (answer request) (answer' request))
    (detectors : IterMap DetectorId DetectorParams)
    (groupOrder : VisitOrder (DetectorType × IterMap DetectorId DetectorParams))
    (order : VisitOrder (ChoiceIndex × List Detection)) :
    Agrees
      (handleWholeDocDetection ctx request.config detectors answer s.task.completionState)
      (handleOutputDetection { ctx with groupOrder } order request.config detectors answer'
        chatCompletion) := by
  obtain ⟨hinhabits, hstored⟩ := stored_of_exec hprepare houtput hrun hconsumed
  obtain ⟨rebuilt, hrebuilt, hperm⟩ := hsplit.exists_wholeDocChoices_perm hinhabits hstored
  exact agrees_of_perm hrebuilt hperm hdetections hwarnings hanswer groupOrder order

/-- The chat completion of the two messages. -/
def twoMessagesCompletion : ChatCompletion :=
  { choices := [{ index := 0, message := assistantMessage "Hi" },
      { index := 1, message := assistantMessage "Yo" }] }

/-- A detector that reports a greeting. -/
def reportsGreeting (request : WholeDocRequest) : Except Error (List Detection) :=
  .ok (if request.contentText = "Hi" then
    [{ start := some 0, stop := some 2, text := some "Hi", detectionType := "greeting",
       detection := "greeting", score := 1 }] else [])

theorem isSplit_twoMessages : IsSplit twoMessagesCompletion.choices twoMessages where
  nodup := by decide
  single := by
    intro item hitem
    rcases List.mem_pair.mp hitem with rfl | rfl
    · exact Or.inr ⟨_, _, rfl, rfl, rfl, by decide⟩
    · exact Or.inr ⟨_, _, rfl, rfl, rfl, by decide⟩
  occurs := by
    intro choice hchoice
    rcases List.mem_pair.mp hchoice with rfl | rfl
    · exact ⟨_, List.mem_cons_self, rfl⟩
    · exact ⟨_, List.mem_cons_of_mem _ List.mem_cons_self, rfl⟩
  message := by
    intro choice hchoice
    rcases List.mem_pair.mp hchoice with rfl | rfl
    · decide
    · decide

theorem chat_wholeDoc_agrees_twoMessages :
    ∃ s, exec (step (documentRequest twoMessages)) (start (documentRequest twoMessages) [])
        (List.replicate 5 .consumer) = some s ∧
      Agrees
        (handleWholeDocDetection {} (documentRequest twoMessages).config
          (documentRequest twoMessages).wholeDocDetectors reportsGreeting s.task.completionState)
        (handleOutputDetection {} .listed (documentRequest twoMessages).config
          (documentRequest twoMessages).wholeDocDetectors reportsGreeting
            twoMessagesCompletion) := by
  have hrun := exec_eq_some_get (by decide :
    (exec (step (documentRequest twoMessages)) (start (documentRequest twoMessages) [])
      (List.replicate 5 .consumer)).isSome = true)
  exact ⟨_, hrun, chat_wholeDoc_agrees rfl (by decide) hrun rfl isSplit_twoMessages rfl rfl
    (fun _ => .ok (.refl _)) _ .listed .listed⟩

end GuardrailsOrchestrator
