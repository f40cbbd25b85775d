import GuardrailsOrchestrator.Chat.Consumer
import GuardrailsOrchestrator.Lib.Execution
import GuardrailsOrchestrator.Lib.Text
import GuardrailsOrchestrator.OpenAiClient.Requests

/-!
# Whole-document detection of streamed chat completions

When no requested detector uses a chunker, messages are forwarded to the client as they
arrive, and the detectors examine the recorded content of each choice when the generation
stream has ended. Messages are forwarded with all their choices, but they are recorded
under their first choice, and only its content is merged. A message of the generation
server is supposed to have one choice; the main result says what is examined if it has
more.

## Main definitions

* `mergeToolCalls`, `mergeContent` — the message of a choice
* `wholeDocTasks`, `handleWholeDocDetection` — what is submitted to the detectors

## Main results

* `chat_wholeDoc_screens_iff` — when the text that is forwarded is the text that is examined
-/

namespace GuardrailsOrchestrator

open ResponseProtocol Transition

/-! ### Tool calls -/

namespace ToolCall

/-- Add a part of a function call. -/
def addFunction (call : ToolCall) (function : Function) : ToolCall :=
  let f := call.function.getD {}
  { call with
    type := if function.name.isEmpty then call.type else "function"
    function := some
      { name := if function.name.isEmpty then f.name else function.name
        arguments := f.arguments ++ function.arguments } }

/-- Add a part of a call of a custom tool. -/
def addCustom (call : ToolCall) (custom : Custom) : ToolCall :=
  let c := call.custom.getD {}
  { call with
    type := if custom.name.isEmpty then call.type else "custom"
    custom := some
      { name := if custom.name.isEmpty then c.name else custom.name
        input := c.input ++ custom.input } }

/-- Add a part of a tool call to the parts merged so far. -/
def addDelta (call delta : ToolCall) : ToolCall :=
  let call := if delta.id.isEmpty then call else { call with id := delta.id }
  let call := delta.function.elim call call.addFunction
  delta.custom.elim call call.addCustom

end ToolCall

/-- The content of a choice. -/
def ChatCompletionChunkChoice.content (choice : ChatCompletionChunkChoice) : String :=
  choice.delta.content.getD ""

namespace ChatStreaming

/-! ### The message of a choice -/

/-- The tool calls of the first choices, merged by index. A part without index panics. -/
def mergeToolCalls (order : VisitOrder (ℕ × ToolCall)) (chunks : List ChatCompletionChunk) :
    Option (Option (List ToolCall)) := do
  let deltas := chunks.flatMap fun chunk => (chunk.choices.head?.map (·.delta.toolCalls)).getD []
  let calls ← deltas.foldlM (fun (calls : IterMap ℕ ToolCall) delta => do
    let index ← delta.index
    let call := (calls.get? index).getD { index := some index }
    pure (calls.insert index (call.addDelta delta))) .empty
  let toolCalls := (order.visit calls.entries).map (·.2)
  pure (if toolCalls.isEmpty then none else some toolCalls)

/-- The contents of the first choices, put together. -/
def mergeContent (chunks : List ChatCompletionChunk) : Option Content :=
  let contentText := String.join (chunks.filterMap fun chunk =>
    chunk.choices.head?.bind (·.delta.content))
  if contentText.isEmpty then none else some (.text contentText)

/-! ### The detection tasks -/

/-- What is submitted to the detectors of one type. -/
inductive WholeDocRequest where
  | textContents (detectors : IterMap DetectorId DetectorParams) (contents : List (ℕ × String))
  | textChat (detectors : IterMap DetectorId DetectorParams) (messages : List Message)
    (tools : List Tool)

structure WholeDocTask where
  choiceIndex : ChoiceIndex
  detectorType : DetectorType
  request : WholeDocRequest

/-- What detection depends on besides the completion state: the messages and the tools of
the request, and the orders in which hash maps are visited. -/
structure WholeDocContext where
  messages : List Message := []
  tools : Option (List Tool) := none
  choiceOrder : VisitOrder (ChoiceIndex × OrderedMap ℕ ChatCompletionChunk) := .listed
  groupOrder : VisitOrder (DetectorType × IterMap DetectorId DetectorParams) := .listed
  callOrder : VisitOrder (ℕ × ToolCall) := .listed

section Tasks

variable (ctx : WholeDocContext)

/-- The message built from the chunks of a choice. -/
def wholeDocMessage (chunks : List ChatCompletionChunk) : Option Message := do
  let toolCalls ← mergeToolCalls ctx.callOrder chunks
  pure { role := .assistant, content := mergeContent chunks, toolCalls }

/-- The messages of the choices. -/
def wholeDocChoices (state : CompletionState ChatCompletionChunk) :
    Option (List (ChoiceIndex × Message)) :=
  (ctx.choiceOrder.visit state.completions.entries).mapM fun (choiceIndex, completions) => do
    let message ← wholeDocMessage ctx (completions.entries.map (·.2))
    pure (choiceIndex, message)

/-- The task for a choice and a group of detectors, if there is one. A type that the
endpoint does not support is not implemented. -/
def wholeDocTask (choice : ChoiceIndex × Message)
    (group : DetectorType × IterMap DetectorId DetectorParams) : Option (Option WholeDocTask) :=
  match group.1 with
  | .textContents =>
    -- without content there is nothing to examine
    some (choice.2.text.map fun contentText =>
      ⟨choice.1, .textContents, .textContents group.2 [(0, contentText)]⟩)
  | .textChat =>
    some (some ⟨choice.1, .textChat,
      .textChat group.2 (ctx.messages ++ [choice.2]) (ctx.tools.getD [])⟩)
  | _ => none

/-- The tasks for the given choices. -/
def tasksOf (groups : IterMap DetectorType (IterMap DetectorId DetectorParams))
    (choices : List (ChoiceIndex × Message)) : Option (List WholeDocTask) := do
  let tasks ← choices.mapM fun choice =>
    (ctx.groupOrder.visit groups.entries).mapM (wholeDocTask ctx choice)
  pure (tasks.flatten.filterMap id)

/-- The tasks that are spawned for a completion state. -/
def wholeDocTasks (config : OrchestratorConfig) (detectors : IterMap DetectorId DetectorParams)
    (state : CompletionState ChatCompletionChunk) : Option (List WholeDocTask) := do
  let groups ← groupDetectorsByType config detectors
  let choices ← wholeDocChoices ctx state
  tasksOf ctx groups choices

/-- The warnings for choices without content. -/
def noContentWarnings (choices : List (ChoiceIndex × Message)) : List CompletionDetectionWarning :=
  (choices.filter (!·.2.hasContent)).map fun choice =>
    ⟨.emptyOutput, s!"Choice of index {choice.1} has no content"⟩

/-- The detections and warnings for the results of the tasks. -/
def wholeDocResult (warnings : List CompletionDetectionWarning)
    (detections : List (WholeDocTask × List Detection)) :
    CompletionDetections × List CompletionDetectionWarning :=
  ({ output := detections.map fun (task, results) => { choiceIndex := task.choiceIndex, results } },
    -- only the detections of text contents detectors count
    warnings ++ if detections.any fun (task, results) =>
        task.detectorType == .textContents && !results.isEmpty
      then [⟨.unsuitableOutput, unsuitableOutputMessage⟩] else [])

/-- `handle_whole_doc_detection`, with what the detectors answer. -/
def handleWholeDocDetection (config : OrchestratorConfig)
    (detectors : IterMap DetectorId DetectorParams)
    (answer : WholeDocRequest → Except Error (List Detection))
    (state : CompletionState ChatCompletionChunk) :
    Option (Except Error (CompletionDetections × List CompletionDetectionWarning)) := do
  let groups ← groupDetectorsByType config detectors
  let choices ← wholeDocChoices ctx state
  let tasks ← tasksOf ctx groups choices
  pure ((tasks.mapM fun task => (answer task.request).map fun results => (task, results)).map
    (wholeDocResult (noContentWarnings choices)))

end Tasks

/-! ### What is submitted -/

/-- The content of the examined message. -/
def WholeDocRequest.contentText : WholeDocRequest → String
  | .textContents _ contents => String.join (contents.map (·.2))
  | .textChat _ messages _ => (messages.getLast?.bind Message.text).getD ""

/-- The content texts that are submitted for a choice. -/
def submittedTexts (c : ChoiceIndex) (tasks : List WholeDocTask) : List String :=
  (tasks.filter (·.choiceIndex = c)).map (·.request.contentText)

/-- The recorded content of a choice. -/
def recordedText (c : ChoiceIndex) (state : CompletionState ChatCompletionChunk) : String :=
  String.join ((state.messages c).entries.map (·.2.content))

section Submitted

variable {ctx : WholeDocContext} {config : OrchestratorConfig}
  {detectors : IterMap DetectorId DetectorParams} {state : CompletionState ChatCompletionChunk}
  {tasks : List WholeDocTask} {c : ChoiceIndex}

/-- The text of the message of a choice is the content of its chunks. -/
theorem text_of_wholeDocMessage {chunks : List ChatCompletionChunk} {message : Message}
    (h : wholeDocMessage ctx chunks = some message) :
    message.text = if String.join (chunks.map ChatCompletionChunk.content) = "" then none
      else some (String.join (chunks.map ChatCompletionChunk.content)) := by
  obtain ⟨toolCalls, -, h⟩ := Option.bind_eq_some_iff.mp h
  obtain rfl := Option.some.inj h
  have hcontent : String.join (chunks.filterMap fun chunk =>
      chunk.choices.head?.bind (·.delta.content)) =
        String.join (chunks.map ChatCompletionChunk.content) := String.join_filterMap _ _
  rw [Message.text, mergeContent, hcontent]
  by_cases hempty : String.join (chunks.map ChatCompletionChunk.content) = ""
  · simp [hempty]
  · simp [hempty, String.isEmpty_iff]

/-- Each choice with an entry has a message with the recorded text. -/
theorem mem_wholeDocChoices {choices : List (ChoiceIndex × Message)}
    (h : wholeDocChoices ctx state = some choices) {choice : ChoiceIndex × Message}
    (hmem : choice ∈ choices) : choice.2.text =
      if recordedText choice.1 state = "" then none else some (recordedText choice.1 state) := by
  obtain ⟨⟨c, completions⟩, hentry, hchoice⟩ := (Option.mem_mapM_iff h).mp hmem
  obtain ⟨message, hmessage, heq⟩ := Option.bind_eq_some_iff.mp hchoice
  obtain rfl := Option.some.inj heq
  have hget := OrderedMap.get?_eq_some_of_mem ((ctx.choiceOrder.perm _).mem_iff.mp hentry)
  have hrecorded : recordedText c state =
      String.join ((completions.entries.map (·.2)).map ChatCompletionChunk.content) := by
    rw [recordedText, CompletionState.messages_of_get? hget, List.map_map]
    rfl
  rw [hrecorded]
  exact text_of_wholeDocMessage hmessage

/-- A choice with recorded text has an entry. -/
theorem exists_mem_wholeDocChoices {choices : List (ChoiceIndex × Message)}
    (h : wholeDocChoices ctx state = some choices) (htext : recordedText c state ≠ "") :
    ∃ choice ∈ choices, choice.1 = c := by
  obtain ⟨completions, hget⟩ : ∃ completions, state.completions.get? c = some completions := by
    by_contra hnone
    apply htext
    have hvacant : state.completions.get? c = none :=
      Option.eq_none_iff_forall_ne_some.mpr (not_exists.mp hnone)
    simp [recordedText, CompletionState.messages, hvacant]
  obtain ⟨c', hkey, hmem⟩ := OrderedMap.get?_eq_some_iff.mp hget
  obtain rfl : c' = c := hkey
  obtain ⟨choice, hchoice, hmessage⟩ :=
    Option.exists_of_mapM_eq_some h ((ctx.choiceOrder.perm _).mem_iff.mpr hmem)
  obtain ⟨message, -, heq⟩ := Option.bind_eq_some_iff.mp hmessage
  exact ⟨choice, hchoice, by rw [← Option.some.inj heq]⟩

/-- A task is for its choice and examines the choice's text. -/
theorem contentText_of_wholeDocTask {choice : ChoiceIndex × Message}
    {group : DetectorType × IterMap DetectorId DetectorParams} {task : WholeDocTask}
    (h : wholeDocTask ctx choice group = some (some task)) :
    task.choiceIndex = choice.1 ∧ task.request.contentText = choice.2.text.getD "" := by
  rw [wholeDocTask] at h
  split at h
  · obtain ⟨contentText, htext, rfl⟩ := Option.map_eq_some_iff.mp (Option.some.inj h)
    exact ⟨rfl, by simp [WholeDocRequest.contentText, htext]⟩
  · obtain rfl := Option.some.inj (Option.some.inj h)
    exact ⟨rfl, by simp [WholeDocRequest.contentText]⟩
  · simp at h

/-- The tasks are made for every choice and every group of detectors. -/
theorem mem_tasksOf {groups : IterMap DetectorType (IterMap DetectorId DetectorParams)}
    {choices : List (ChoiceIndex × Message)} (h : tasksOf ctx groups choices = some tasks) :
    (∀ task ∈ tasks, ∃ choice ∈ choices, ∃ group, wholeDocTask ctx choice group =
      some (some task)) ∧
    ∀ choice ∈ choices, ∀ group ∈ groups.entries, ∃ task,
      wholeDocTask ctx choice group = some task ∧ ∀ t ∈ task, t ∈ tasks := by
  obtain ⟨rows, hrows, heq⟩ := Option.bind_eq_some_iff.mp h
  obtain rfl := Option.some.inj heq
  refine ⟨?_, ?_⟩
  · intro task htask
    -- a row for each choice, and in it a place for each group, which may be empty
    obtain ⟨row, hrow, htask⟩ : ∃ row ∈ rows, some task ∈ row := by
      simpa [List.mem_filterMap] using htask
    obtain ⟨choice, hchoice, hrow'⟩ := (Option.mem_mapM_iff hrows).mp hrow
    obtain ⟨group, -, hgroup⟩ := (Option.mem_mapM_iff hrow').mp htask
    exact ⟨choice, hchoice, group, hgroup⟩
  · intro choice hchoice group hgroup
    obtain ⟨row, hrow, hrow'⟩ := Option.exists_of_mapM_eq_some hrows hchoice
    obtain ⟨task, htask, hgroup'⟩ :=
      Option.exists_of_mapM_eq_some hrow' ((ctx.groupOrder.perm _).mem_iff.mpr hgroup)
    refine ⟨task, hgroup', ?_⟩
    intro t ht
    rw [Option.mem_def.mp ht] at htask
    exact List.mem_filterMap.mpr ⟨some t, List.mem_flatten.mpr ⟨row, hrow, htask⟩, rfl⟩

/-- What is submitted for a choice is its recorded text. -/
theorem eq_recordedText_of_mem_submittedTexts
    (h : wholeDocTasks ctx config detectors state = some tasks) {text : String}
    (hmem : text ∈ submittedTexts c tasks) : text = recordedText c state := by
  obtain ⟨groups, -, h⟩ := Option.bind_eq_some_iff.mp h
  obtain ⟨choices, hchoices, h⟩ := Option.bind_eq_some_iff.mp h
  obtain ⟨task, htask, rfl⟩ := List.mem_map.mp hmem
  obtain ⟨htask, hc⟩ := List.mem_filter.mp htask
  obtain ⟨choice, hchoice, group, hgroup⟩ := (mem_tasksOf h).1 task htask
  obtain ⟨hindex, htext⟩ := contentText_of_wholeDocTask hgroup
  obtain rfl : choice.1 = c := hindex.symm.trans (of_decide_eq_true hc)
  rw [htext, mem_wholeDocChoices hchoices hchoice]
  split_ifs with hempty
  · simp [hempty]
  · rfl

/-- Recorded text is submitted. -/
theorem submittedTexts_ne_nil (h : wholeDocTasks ctx config detectors state = some tasks)
    (hdetectors : detectors.entries ≠ []) (htext : recordedText c state ≠ "") :
    submittedTexts c tasks ≠ [] := by
  obtain ⟨groups, hgroups, h⟩ := Option.bind_eq_some_iff.mp h
  obtain ⟨choices, hchoices, h⟩ := Option.bind_eq_some_iff.mp h
  obtain ⟨choice, hchoice, rfl⟩ := exists_mem_wholeDocChoices hchoices htext
  obtain ⟨group, hgroup⟩ := List.exists_mem_of_ne_nil _
    (entries_ne_nil_of_groupDetectorsByType hgroups hdetectors)
  obtain ⟨task, htask, hspawned⟩ := (mem_tasksOf h).2 choice hchoice group hgroup
  have hmessage := mem_wholeDocChoices hchoices hchoice
  rw [if_neg htext] at hmessage
  -- with text, a task is made for either type of detectors
  obtain ⟨t, rfl⟩ : ∃ t, task = some t := by
    rw [wholeDocTask, hmessage] at htask
    split at htask
    · exact ⟨_, (Option.some.inj htask).symm⟩
    · exact ⟨_, (Option.some.inj htask).symm⟩
    · simp at htask
  obtain ⟨hindex, -⟩ := contentText_of_wholeDocTask htask
  apply List.ne_nil_of_mem
  exact List.mem_map_of_mem (List.mem_filter.mpr ⟨hspawned t rfl, decide_eq_true hindex⟩)

end Submitted

/-! ### What is forwarded -/

/-- The content of the choices with a given index. -/
def contentOf (c : ChoiceIndex) (choices : List ChatCompletionChunkChoice) : String :=
  String.join ((choices.filter (·.index = c)).map ChatCompletionChunkChoice.content)

/-- A function of messages, for all items. -/
def ofMessage (f : ChatCompletionChunk → String) : Item Error ChatCompletionChunk → String
  | .ok (some m) => f m
  | _ => ""

/-- The text that a list of items has for a choice. -/
def forwardedText (c : ChoiceIndex) (items : List (Item Error ChatCompletionChunk)) : String :=
  String.join (items.map (ofMessage fun m => contentOf c m.choices))

section Text

variable {c : ChoiceIndex} {stream : List (Item Error ChatCompletionChunk)}

theorem forwardedText_append (items items' : List (Item Error ChatCompletionChunk)) :
    forwardedText c (items ++ items') = forwardedText c items ++ forwardedText c items' := by
  rw [forwardedText, List.map_append, String.join_append, forwardedText, forwardedText]

/-- The content of a message for a choice: that of its first choice if it belongs to the
choice, and that of its other choices. -/
theorem contentOf_choices (c : ChoiceIndex) (m : ChatCompletionChunk) :
    contentOf c m.choices =
      (if choiceOf m = some c then m.content else "") ++ contentOf c m.choices.tail := by
  cases hchoices : m.choices with
  | nil => simp [contentOf, choiceOf, hchoices]
  | cons choice choices =>
    by_cases hc : choice.index = c
    · simp [contentOf, choiceOf, ChatCompletionChunk.content, ChatCompletionChunkChoice.content,
        hchoices, hc]
    · simp [contentOf, choiceOf, hchoices, hc]

/-- The content recorded for a choice, as a function of the stream. -/
theorem join_content_choiceMessages (c : ChoiceIndex)
    (stream : List (Item Error ChatCompletionChunk)) :
    String.join ((choiceMessages c stream).map (·.2.content)) =
      String.join (stream.map (ofMessage fun m =>
        if choiceOf m = some c then m.content else "")) := by
  rw [choiceMessages, StreamingTask.choiceMessages, List.map_filterMap, String.join_filterMap]
  conv_rhs => rw [← List.zipIdx_map_fst 0 stream, List.map_map]
  congr 1
  apply List.map_congr_left
  rintro ⟨error | (_ | m), i⟩ -
  · rfl
  · rfl
  · by_cases hc : choiceOf m = some c <;> simp [StreamingTask.messageOf, ofMessage, hc]

theorem contentOf_eq_empty_iff {choices : List ChatCompletionChunkChoice} :
    contentOf c choices = "" ↔ ∀ choice ∈ choices, choice.index = c → choice.content = "" := by
  simp only [contentOf, String.join_eq_empty_iff, List.forall_mem_map, List.mem_filter,
    decide_eq_true_eq, and_imp]

/-- The stream has the recorded texts and no others exactly when no choice of a message
but the first has content. -/
theorem forwardedText_eq_iff :
    (∀ c, forwardedText c stream = String.join ((choiceMessages c stream).map (·.2.content))) ↔
      ∀ m, .ok (some m) ∈ stream → ∀ choice ∈ m.choices.tail, choice.content = "" := by
  have hsplit : ∀ c, forwardedText c stream = String.join (stream.map fun item =>
      ofMessage (fun m => if choiceOf m = some c then m.content else "") item ++
        ofMessage (fun m => contentOf c m.choices.tail) item) := by
    intro c
    rw [forwardedText]
    congr 1
    apply List.map_congr_left
    rintro (error | (_ | m)) -
    · rfl
    · rfl
    · exact contentOf_choices c m
  simp only [hsplit, join_content_choiceMessages, String.join_map_append_eq_iff]
  constructor
  · intro h m hm choice hchoice
    exact contentOf_eq_empty_iff.mp (h choice.index _ hm) choice hchoice rfl
  · rintro h c (error | (_ | m)) hm
    · rfl
    · rfl
    · exact contentOf_eq_empty_iff.mpr fun choice hchoice _ => h m hm choice hchoice

end Text

/-! ### Runs that forward messages -/

/-- The items that a list of effects sends to the client. -/
def responds (actions : List (ConsumerAction ChatCompletionChunk)) :
    List (Item Error ChatCompletionChunk) :=
  actions.filterMap fun
    | .respond item => some item
    | _ => none

theorem responds_append (actions actions' : List (ConsumerAction ChatCompletionChunk)) :
    responds (actions ++ actions') = responds actions ++ responds actions' :=
  List.filterMap_append

theorem responds_recordActions (i : ℕ) (m : ChatCompletionChunk) :
    responds (recordActions true [] i m) = [] := by
  rw [recordActions, responds_append]
  cases m.choices.head? <;> by_cases hi : i = 0 <;> simp [responds, hi]

/-- The consumer forwards the text of each item. -/
theorem forwardedText_messageActions (c : ChoiceIndex) (p : Item Error ChatCompletionChunk × ℕ) :
    forwardedText c (responds (messageActions true [] true p.2 p.1)) =
      ofMessage (fun m => contentOf c m.choices) p.1 := by
  rcases p with ⟨error | (_ | m), i⟩
  · rfl
  · rfl
  · simp only [messageActions, responds_append, if_true]
    -- recording a message sends nothing
    split
    · simp [responds, forwardedText]
    · rw [responds_recordActions]
      simp [responds, forwardedText]

theorem forwardedText_processChatCompletionStream (c : ChoiceIndex)
    (stream : List (Item Error ChatCompletionChunk)) :
    forwardedText c (responds (processChatCompletionStream true [] true stream)) =
      forwardedText c stream := by
  have hitems : ∀ l : List (Item Error ChatCompletionChunk × ℕ),
      forwardedText c (responds (l.flatMap fun p => messageActions true [] true p.2 p.1)) =
        forwardedText c (l.map (·.1)) := by
    intro l
    induction l with
    | nil => rfl
    | cons p l ih =>
      rw [List.flatMap_cons, responds_append, forwardedText_append, ih,
        forwardedText_messageActions, List.map_cons, forwardedText, forwardedText, List.map_cons,
        String.join_cons]
  rw [processChatCompletionStream, hitems, List.zipIdx_map_fst]

/-- The stages of a request without detectors that use a chunker. -/
def withoutBatches : ChatStage → Bool
  | .forwarding detecting => detecting
  | .finalizing => true
  | .detectingWholeDoc _ => true
  | .completing => true
  | .finished => true
  | .panicked => true
  | _ => false

/-- The consumer records and forwards the messages of the stream, and the main task adds no
text. -/
structure Forwards (stream : List (Item Error ChatCompletionChunk)) (s : ChatStreaming) : Prop where
  follows : Follows stream s
  sent : ∀ c, forwardedText c s.task.sent ++ forwardedText c (responds s.consumer) =
    forwardedText c stream
  stage : withoutBatches s.stage = true
  wholeDoc : ∀ m, s.stage = .detectingWholeDoc m → m.choices = []
  consumed : s.stage ≠ .forwarding true → s.consumer = []

namespace Forwards

variable {request : StreamingRequest ChatCompletionChunk}
  {stream : List (Item Error ChatCompletionChunk)} {s t : ChatStreaming}

theorem start (stream : List (Item Error ChatCompletionChunk)) :
    Forwards stream
      { consumer := processChatCompletionStream true [] true stream
        stage := .forwarding true } where
  follows :=
    { stored := fun _ => inserts_processChatCompletionStream [] true
      received := by simp
      covered := fun _ => covered_processChatCompletionStream _ [] true }
  sent c := by
    change "" ++ _ = _
    rw [String.empty_append]
    exact forwardedText_processChatCompletionStream c stream
  stage := rfl
  wholeDoc := by simp
  consumed h := absurd rfl h

theorem stepConsumer (h : Forwards stream s) (hstep : s.stepConsumer = some t) :
    Forwards stream t := by
  have hfollows := h.follows.stepConsumer hstep
  obtain ⟨action, consumer, hconsumer, -, rfl⟩ := exists_of_stepConsumer hstep
  refine ⟨hfollows, ?_, h.stage, h.wholeDoc, ?_⟩
  · intro c
    have hc := h.sent c
    rw [hconsumer] at hc
    rw [← hc]
    -- a response moves from what is to be sent to what is sent
    cases action with
    | respond item =>
      change forwardedText c (s.task.sent ++ [item]) ++ _ =
        _ ++ forwardedText c ([item] ++ responds consumer)
      rw [forwardedText_append, forwardedText_append, String.append_assoc]
    | _ => rfl
  · intro hstage
    have hnil := h.consumed hstage
    simp [hconsumer] at hnil

/-- A step of the main task that adds no text. -/
theorem of_text (h : Forwards stream s) (hconsumer : t.consumer = s.consumer)
    (hnil : s.consumer = []) (hstate : t.task.completionState = s.task.completionState)
    (hinputs : t.task.inputs = s.task.inputs) {items : List (Item Error ChatCompletionChunk)}
    (hsent : t.task.sent = s.task.sent ++ items) (hitems : ∀ c, forwardedText c items = "")
    (hstage : withoutBatches t.stage = true)
    (hwholeDoc : ∀ m, t.stage = .detectingWholeDoc m → m.choices = []) : Forwards stream t where
  follows := h.follows.of_eq hconsumer hstate hinputs
  sent c := by
    rw [hsent, hconsumer, forwardedText_append, hitems, String.append_empty, h.sent c]
  stage := hstage
  wholeDoc := hwholeDoc
  consumed _ := hconsumer.trans hnil

theorem stepMain (h : Forwards stream s) (hstep : MainStep request s t) : Forwards stream t := by
  have hstage := h.stage
  -- a message without choices has no text
  have hempty : ∀ m : ChatCompletionChunk, m.choices = [] → ∀ c,
      forwardedText c [.ok (some m)] = "" := by
    intro m hm c
    simp [forwardedText, ofMessage, contentOf, hm]
  cases hstep with
  | @forwarded detecting hforwarding hconsumer =>
    refine h.of_text rfl hconsumer rfl rfl (List.append_nil _).symm (fun _ => rfl) ?_ ?_
    · cases detecting <;> rfl
    · cases detecting <;> simp [goto]
  | finalSkipped hs | metadataMissing hs | wholeDocPanicked hs =>
    exact h.of_text rfl (h.consumed (by simp [hs])) rfl rfl (List.append_nil _).symm (fun _ => rfl)
      rfl (by simp [goto])
  | wholeDocStarted hs =>
    refine h.of_text rfl (h.consumed (by simp [hs])) rfl rfl (List.append_nil _).symm
      (fun _ => rfl) rfl ?_
    intro m heq
    obtain rfl := ChatStage.detectingWholeDoc.inj heq
    rfl
  | finalSent hs =>
    exact h.of_text rfl (h.consumed (by simp [hs])) rfl rfl rfl (hempty _ rfl) rfl
      (by simp [goto])
  | @wholeDocSent m _ _ hs =>
    exact h.of_text rfl (h.consumed (by simp [hs])) rfl rfl rfl (hempty _ (h.wholeDoc m hs)) rfl
      (by simp [goto])
  | wholeDocFailed hs | completed hs =>
    exact h.of_text rfl (h.consumed (by simp [hs])) rfl rfl rfl (fun _ => rfl) rfl
      (by simp [goto])
  | streamsCreated hs | streamCreated hs | streamFailed hs | streamPanicked hs | batchesEnded hs
  | batchFailed hs | batchReceived hs | responsePanicked hs | responseSent hs | responseFailed hs
  | finishChecked hs => simp [hs, withoutBatches] at hstage

theorem step {a : ChatLabel} (h : Forwards stream s) (hstep : s.step request a = some t) :
    Forwards stream t := by
  cases a with
  | consumer => exact h.stepConsumer hstep
  | main => exact h.stepMain (mainStep_of_stepMain hstep)
  | timeout =>
    have hstage := h.stage
    obtain ⟨batch, -, ⟨hs, -⟩ | ⟨hs, -⟩⟩ := exists_of_stepTimeout hstep
    · simp [hs, withoutBatches] at hstage
    · simp [hs, withoutBatches] at hstage

/-- When the stream is consumed, its messages are recorded and its text is forwarded. -/
theorem recordedText_eq (h : Forwards stream s) (hconsumer : s.consumer = []) (c : ChoiceIndex) :
    forwardedText c s.task.sent = forwardedText c stream ∧
      recordedText c s.task.completionState =
        String.join ((choiceMessages c stream).map (·.2.content)) := by
  have hsent := h.sent c
  have hstored := h.follows.stored
  rw [hconsumer] at hsent hstored
  refine ⟨by simpa [responds, forwardedText] using hsent, ?_⟩
  rw [recordedText, hstored.entries_eq]
  rfl

end Forwards

/-! ### Screening -/

/-- What is submitted for a choice is what is forwarded for it, and if nothing is submitted,
then nothing is forwarded. -/
structure SubmitsForwarded (c : ChoiceIndex) (sent : List (Item Error ChatCompletionChunk))
    (tasks : List WholeDocTask) : Prop where
  examined : ∀ text ∈ submittedTexts c tasks, text = forwardedText c sent
  submitted : submittedTexts c tasks = [] → forwardedText c sent = ""

theorem submitsForwarded_iff {ctx : WholeDocContext} {config : OrchestratorConfig}
    {detectors : IterMap DetectorId DetectorParams} {state : CompletionState ChatCompletionChunk}
    {tasks : List WholeDocTask} (h : wholeDocTasks ctx config detectors state = some tasks)
    (hdetectors : detectors.entries ≠ []) (c : ChoiceIndex)
    (sent : List (Item Error ChatCompletionChunk)) :
    SubmitsForwarded c sent tasks ↔ forwardedText c sent = recordedText c state := by
  constructor
  · intro hsubmits
    -- a choice without tasks has no recorded text, as there is a detector for every text
    cases htexts : submittedTexts c tasks with
    | nil =>
      rw [hsubmits.submitted htexts]
      by_contra hne
      exact submittedTexts_ne_nil h hdetectors (Ne.symm hne) htexts
    | cons text texts =>
      have hmem : text ∈ submittedTexts c tasks := by simp [htexts]
      rw [← hsubmits.examined text hmem, eq_recordedText_of_mem_submittedTexts h hmem]
  · intro heq
    refine ⟨?_, ?_⟩
    · intro text hmem
      rw [heq, eq_recordedText_of_mem_submittedTexts h hmem]
    · intro hnil
      rw [heq]
      by_contra hne
      exact submittedTexts_ne_nil h hdetectors hne hnil

/-- Without detectors that use a chunker, the main task consumes the stream itself. -/
theorem start_eq_forwarding {request : StreamingRequest ChatCompletionChunk}
    {stream : List (Item Error ChatCompletionChunk)} (batches : List (Except Error Batch))
    (hprepare : request.prepare [.textContents, .textChat] = .ok stream)
    (houtput : request.outputDetectors.isEmpty = false)
    (hchunk : request.chunkDetectors.isEmpty = true) :
    start request batches =
      { consumer := processChatCompletionStream true [] true stream
        stage := .forwarding true } := by
  simp only [start, hprepare, houtput, hchunk]
  rfl

end ChatStreaming

open ChatStreaming

/-- **Screening of whole documents.** Take a request whose output detectors all examine the
full text, and any state after the generation stream is consumed. If whole-document
detection gets to submit anything, then it submits for every choice the text that was
forwarded for it exactly when no choice of a message but the first has content. -/
theorem chat_wholeDoc_screens_iff {request : StreamingRequest ChatCompletionChunk}
    {stream : List (Item Error ChatCompletionChunk)} {batches : List (Except Error Batch)}
    {w : List ChatLabel} {s : ChatStreaming} {ctx : WholeDocContext} {tasks : List WholeDocTask}
    (hprepare : request.prepare [.textContents, .textChat] = .ok stream)
    (houtput : request.outputDetectors.isEmpty = false)
    (hchunk : request.chunkDetectors.isEmpty = true)
    (hrun : exec (step request) (start request batches) w = some s)
    (hconsumed : s.stage ≠ .forwarding true)
    (htasks : wholeDocTasks ctx request.config request.wholeDocDetectors s.task.completionState =
      some tasks) :
    (∀ c, SubmitsForwarded c s.task.sent tasks) ↔
      ∀ m, .ok (some m) ∈ stream → ∀ choice ∈ m.choices.tail, choice.content = "" := by
  have hforwards : Forwards stream s := by
    rw [start_eq_forwarding batches hprepare houtput hchunk] at hrun
    exact exec_invariant_all (fun _ _ _ h hstep => h.step hstep) (Forwards.start stream) hrun
  have hdetectors := request.entries_wholeDocDetectors_ne_nil houtput hchunk
  rw [← forwardedText_eq_iff]
  refine forall_congr' fun c => ?_
  obtain ⟨hsent, hrecorded⟩ := hforwards.recordedText_eq (hforwards.consumed hconsumed) c
  rw [submitsForwarded_iff htasks hdetectors, hsent, hrecorded]

/-- A request for one detector that examines the full text. -/
def documentRequest (generation : List (Item Error ChatCompletionChunk)) :
    StreamingRequest ChatCompletionChunk :=
  { sentenceRequest generation with
    config :=
      { openai := some ⟨{ hostname := "localhost" }, none⟩
        detectors := ⟨[("hap", ⟨{ hostname := "localhost" }, none, defaultChunkerId, 1,
          .textContents⟩)], by decide⟩ } }

/-- The content of a choice. -/
def contentChoice (index : ChoiceIndex) (content : String) : ChatCompletionChunkChoice :=
  { index, delta := { content := some content } }

/-- Two messages of two choices. -/
def twoMessages : List (Item Error ChatCompletionChunk) :=
  [.ok (some { choices := [contentChoice 0 "Hi"] }),
    .ok (some { choices := [contentChoice 1 "Yo"] })]

/-- One message with two choices. -/
def sharedMessage : List (Item Error ChatCompletionChunk) :=
  [.ok (some { choices := [contentChoice 0 "Hi", contentChoice 1 "Yo"] })]

/-- The state in which the two messages are consumed. -/
def twoMessagesState : ChatStreaming :=
  (exec (step (documentRequest twoMessages)) (start (documentRequest twoMessages) [])
    (List.replicate 5 .consumer ++ [.main])).get (by decide)

theorem chat_wholeDoc_screens_iff_twoMessages :
    ∃ tasks, exec (step (documentRequest twoMessages)) (start (documentRequest twoMessages) [])
        (List.replicate 5 .consumer ++ [.main]) = some twoMessagesState ∧
      wholeDocTasks {} (documentRequest twoMessages).config
        (documentRequest twoMessages).wholeDocDetectors twoMessagesState.task.completionState =
          some tasks ∧
      tasks.length = 2 ∧ ∀ c, SubmitsForwarded c twoMessagesState.task.sent tasks := by
  have hrun : exec (step (documentRequest twoMessages)) (start (documentRequest twoMessages) [])
      (List.replicate 5 .consumer ++ [.main]) = some twoMessagesState := exec_eq_some_get _
  have htasks := (Option.some_get (by decide :
    (wholeDocTasks {} (documentRequest twoMessages).config
      (documentRequest twoMessages).wholeDocDetectors
        twoMessagesState.task.completionState).isSome = true)).symm
  refine ⟨_, hrun, htasks, by decide, ?_⟩
  refine (chat_wholeDoc_screens_iff rfl (by decide) (by decide) hrun (by decide) htasks).mpr ?_
  simp [twoMessages]

/-- The content of the second choice of a message is forwarded and not examined. -/
theorem chat_wholeDoc_forwards_unscreened_sharedMessage :
    ∃ s tasks, exec (step (documentRequest sharedMessage))
        (start (documentRequest sharedMessage) [])
          (List.replicate 3 .consumer ++ [.main]) = some s ∧
      wholeDocTasks {} (documentRequest sharedMessage).config
        (documentRequest sharedMessage).wholeDocDetectors s.task.completionState = some tasks ∧
      ¬ SubmitsForwarded 1 s.task.sent tasks := by
  have hrun := exec_eq_some_get (by decide :
    (exec (step (documentRequest sharedMessage)) (start (documentRequest sharedMessage) [])
      (List.replicate 3 .consumer ++ [.main])).isSome = true)
  refine ⟨_, _, hrun, rfl, ?_⟩
  intro hsubmits
  have hforwarded := hsubmits.submitted rfl
  revert hforwarded
  decide

end GuardrailsOrchestrator
