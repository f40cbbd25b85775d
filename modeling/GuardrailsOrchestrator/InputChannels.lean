import GuardrailsOrchestrator.Chat.Consumer
import GuardrailsOrchestrator.Completions.Consumer
import GuardrailsOrchestrator.Lib.Execution

/-!
# The input channels of the choices

Every choice of a request has an input channel to the detection pipeline, whether the
generation server says anything for the choice or not. A chunker fails on a channel that is
closed before it has received a text. The completions endpoint sends a placeholder to a channel
without texts at the end of the generation stream; the chat endpoint does not.

## Main results

* `StreamingTask.Feeds` — what the channels have received and will receive
* `inputsReceived_iff` — when every channel receives an input
-/

namespace GuardrailsOrchestrator

open ResponseProtocol Transition

/-! ### What the consumer sends -/

namespace StreamingTask

variable {M : Type}

/-- The input that an effect sends. -/
def inputOf : ConsumerAction M → Option InputItem
  | .sendInput input => some input
  | _ => none

/-- The inputs that a list of effects sends. -/
def inputsOf (actions : List (ConsumerAction M)) : List InputItem := actions.filterMap inputOf

theorem mem_inputsOf {input : InputItem} {actions : List (ConsumerAction M)} :
    input ∈ inputsOf actions ↔ .sendInput input ∈ actions := by
  rw [inputsOf, List.mem_filterMap]
  constructor
  · rintro ⟨action, hmem, haction⟩
    cases action with
    | sendInput input' =>
      obtain rfl := Option.some.inj haction
      exact hmem
    | _ => simp [inputOf] at haction
  · intro hmem
    exact ⟨_, hmem, rfl⟩

theorem inputs_perform (task : StreamingTask M) (action : ConsumerAction M) :
    (task.perform action).inputs = task.inputs ++ (inputOf action).toList := by
  cases action <;> simp [perform, inputOf]

/-- The inputs that were sent and those that will be are the ones of all effects. -/
def Feeds (actions : List (ConsumerAction M)) (task : StreamingTask M)
    (consumer : List (ConsumerAction M)) : Prop :=
  task.inputs ++ inputsOf consumer = inputsOf actions

theorem Feeds.perform {actions consumer : List (ConsumerAction M)} {task : StreamingTask M}
    {action : ConsumerAction M} (h : Feeds actions task (action :: consumer)) :
    Feeds actions (task.perform action) consumer := by
  rw [Feeds, inputs_perform, ← h]
  cases haction : inputOf action <;> simp [inputsOf, haction]

/-- When the consumer is done, all inputs were sent. -/
theorem Feeds.inputs_eq {actions : List (ConsumerAction M)} {task : StreamingTask M}
    (h : Feeds actions task []) : task.inputs = inputsOf actions := by
  rw [← h]
  exact (List.append_nil _).symm

/-- Every channel has received a text, if only an empty one. -/
def AllReceive (choices : List ChoiceIndex) (task : StreamingTask M) : Prop :=
  ∀ c ∈ choices, ∃ input, (c, .ok input) ∈ task.inputs

end StreamingTask

open StreamingTask

/-! ### Chat completions -/

namespace ChatStreaming

variable {request : StreamingRequest ChatCompletionChunk}
  {stream : List (Item Error ChatCompletionChunk)} {batches : List (Except Error Batch)}
  {s t : ChatStreaming}

/-- A message with a text, as a message of the given choice. -/
def SaysText (c : ChoiceIndex) (m : ChatCompletionChunk) : Prop :=
  choiceOf m = some c ∧ m.content ≠ ""

theorem feeds_step {actions : List (ConsumerAction ChatCompletionChunk)} {a : ChatLabel}
    (h : Feeds actions s.task s.consumer) (hstep : s.step request a = some t) :
    Feeds actions t.task t.consumer := by
  cases a with
  | consumer =>
    obtain ⟨action, consumer, hconsumer, -, rfl⟩ := exists_of_stepConsumer hstep
    rw [hconsumer] at h
    exact h.perform
  | main => cases mainStep_of_stepMain hstep <;> exact h
  | timeout =>
    obtain ⟨batch, -, ⟨-, error, rfl⟩ | ⟨-, rfl⟩⟩ := exists_of_stepTimeout hstep
    · exact h
    · exact h

/-- The text of a message is sent to the channel of its choice. -/
theorem sendInput_mem_recordActions_iff {hasState : Bool} {inputTxs : List ChoiceIndex} {i j : ℕ}
    {m : ChatCompletionChunk} {c : ChoiceIndex} {text : String} :
    .sendInput (c, .ok (j, text)) ∈ recordActions hasState inputTxs i m ↔
      c ∈ inputTxs ∧ j = i ∧ SaysText c m ∧ text = m.content := by
  rw [recordActions]
  cases hchoices : m.choices with
  | nil => simp [SaysText, choiceOf, hchoices]
  | cons choice choices =>
    have hcontent : m.content = choice.delta.content.getD "" := by
      simp [ChatCompletionChunk.content, hchoices]
    simp only [SaysText, choiceOf, hcontent, hchoices, List.head?_cons, Option.map_some,
      Option.some.injEq]
    -- a text is sent if the choice has a channel and the text is not empty
    by_cases hsent : choice.index ∈ inputTxs ∧ choice.delta.content.getD "" ≠ ""
    · rw [if_pos hsent]
      simp only [List.mem_append, List.mem_ite_nil_right, List.mem_singleton, reduceCtorEq,
        and_false, false_or, ConsumerAction.sendInput.injEq, Prod.mk.injEq, Except.ok.injEq]
      constructor
      · rintro ⟨rfl, rfl, rfl⟩
        exact ⟨hsent.1, rfl, ⟨rfl, hsent.2⟩, rfl⟩
      · rintro ⟨-, rfl, ⟨rfl, -⟩, rfl⟩
        exact ⟨rfl, rfl, rfl⟩
    · rw [if_neg hsent]
      simp only [List.append_nil, List.mem_append, List.mem_ite_nil_right, List.mem_singleton,
        reduceCtorEq, and_false, or_false, false_iff]
      rintro ⟨hc, -, ⟨rfl, htext⟩, -⟩
      exact hsent ⟨hc, htext⟩

theorem sendInput_mem_messageActions_iff {hasState : Bool} {inputTxs : List ChoiceIndex}
    {hasResponseTx : Bool} {p : Item Error ChatCompletionChunk × ℕ} {c : ChoiceIndex} {j : ℕ}
    {text : String} :
    .sendInput (c, .ok (j, text)) ∈ messageActions hasState inputTxs hasResponseTx p.2 p.1 ↔
      c ∈ inputTxs ∧ ∃ m, p = (.ok (some m), j) ∧ SaysText c m ∧ text = m.content := by
  rcases p with ⟨error | (_ | m), i⟩
  · simp [messageActions]
  · simp [messageActions]
  · simp only [messageActions, List.mem_append]
    have hrespond : (.sendInput (c, .ok (j, text)) : ConsumerAction ChatCompletionChunk) ∉
        (if hasResponseTx then [.respond (.ok (some m))] else []) := by simp
    rw [or_iff_right hrespond]
    split
    · -- a message that only sets the usage has no text
      rename_i hchoices
      simp [SaysText, choiceOf, hchoices]
    · rw [sendInput_mem_recordActions_iff]
      simp [eq_comm]

/-- The inputs of the channels: the texts of the messages of their choices. -/
theorem mem_inputsOf_processChatCompletionStream_iff {hasState : Bool}
    {inputTxs : List ChoiceIndex} {hasResponseTx : Bool} {c : ChoiceIndex} {j : ℕ}
    {text : String} :
    (c, .ok (j, text)) ∈
        inputsOf (processChatCompletionStream hasState inputTxs hasResponseTx stream) ↔
      c ∈ inputTxs ∧ ∃ m, (.ok (some m), j) ∈ stream.zipIdx ∧ SaysText c m ∧ text = m.content := by
  rw [mem_inputsOf, processChatCompletionStream, List.mem_flatMap]
  simp only [sendInput_mem_messageActions_iff]
  constructor
  · rintro ⟨p, hp, hc, m, rfl, hm⟩
    exact ⟨hc, m, hp, hm⟩
  · rintro ⟨hc, m, hp, hm⟩
    exact ⟨_, hp, hc, m, rfl, hm⟩

theorem feeds_of_exec {w : List ChatLabel}
    (hrun : exec (step request) (startDetection request stream batches) w = some t) :
    Feeds (processChatCompletionStream true request.choices false stream) t.task t.consumer := by
  have hstart : Feeds (processChatCompletionStream true request.choices false stream)
      (startDetection request stream batches).task
      (startDetection request stream batches).consumer := List.nil_append _
  exact exec_invariant_all (I := fun s : ChatStreaming => Feeds _ s.task s.consumer)
    (fun _ _ _ => feeds_step) hstart hrun

/-- Nothing is sent to the channel of a choice without text. -/
theorem allReceive_iff {w : List ChatLabel}
    (hrun : exec (step request) (startDetection request stream batches) w = some t)
    (hclosed : t.consumer = []) :
    AllReceive request.choices t.task ↔
      ∀ c ∈ request.choices, ∃ m, .ok (some m) ∈ stream ∧ SaysText c m := by
  have hfeeds := feeds_of_exec hrun
  rw [hclosed] at hfeeds
  rw [AllReceive, hfeeds.inputs_eq]
  refine forall₂_congr fun c hc => ?_
  constructor
  · rintro ⟨⟨j, text⟩, hinput⟩
    obtain ⟨-, m, hm, htext, -⟩ := mem_inputsOf_processChatCompletionStream_iff.mp hinput
    exact ⟨m, List.fst_mem_of_mem_zipIdx hm, htext⟩
  · rintro ⟨m, hm, htext⟩
    obtain ⟨j, hj⟩ := List.exists_mem_zipIdx_of_mem hm
    exact ⟨(j, m.content), mem_inputsOf_processChatCompletionStream_iff.mpr
      ⟨hc, m, hj, htext, rfl⟩⟩

end ChatStreaming

/-! ### Completions -/

namespace CompletionStreaming

variable {request : StreamingRequest Completion} {stream : List (Item Error Completion)}
  {batches : List (Except Error Batch)} {s t : CompletionStreaming}

/-- A message with a text, as a message of the given choice. -/
def SaysText (c : ChoiceIndex) (m : Completion) : Prop := choiceOf m = some c ∧ m.text ≠ ""

theorem feeds_step {actions : List (ConsumerAction Completion)} {a : CompletionLabel}
    (h : Feeds actions s.task s.consumer) (hstep : s.step request a = some t) :
    Feeds actions t.task t.consumer := by
  cases a with
  | consumer =>
    obtain ⟨action, consumer, hconsumer, -, rfl⟩ := exists_of_stepConsumer hstep
    rw [hconsumer] at h
    exact h.perform
  | main => cases mainStep_of_stepMain hstep <;> exact h
  | last choiceIndex =>
    obtain ⟨choices, indices, -, -, ⟨-, rfl⟩ | ⟨last, endIndex, -, -, rfl⟩⟩ :=
      exists_of_stepLast hstep
    · exact h
    · exact h

theorem sendInput_mem_recordActions_iff {hasState : Bool} {inputTxs : List ChoiceIndex}
    {hasFlag : Bool} {i j : ℕ} {m : Completion} {c : ChoiceIndex} {text : String} :
    .sendInput (c, .ok (j, text)) ∈ recordActions hasState inputTxs hasFlag i m ↔
      c ∈ inputTxs ∧ j = i ∧ SaysText c m ∧ text = m.text := by
  rw [recordActions]
  cases hchoices : m.choices with
  | nil => simp [SaysText, choiceOf, hchoices]
  | cons choice choices =>
    have htext : m.text = choice.text := by simp [Completion.text, hchoices]
    simp only [SaysText, choiceOf, htext, hchoices, List.head?_cons, Option.map_some,
      Option.some.injEq, inputActions]
    by_cases hsent : choice.index ∈ inputTxs ∧ choice.text ≠ ""
    · rw [if_pos hsent.1, if_pos hsent.2]
      simp only [List.mem_append, List.mem_ite_nil_right, List.mem_singleton, reduceCtorEq,
        and_false, false_or, ConsumerAction.sendInput.injEq, Prod.mk.injEq, Except.ok.injEq]
      constructor
      · rintro ⟨rfl, rfl, rfl⟩
        exact ⟨hsent.1, rfl, ⟨rfl, hsent.2⟩, rfl⟩
      · rintro ⟨-, rfl, ⟨rfl, -⟩, rfl⟩
        exact ⟨rfl, rfl, rfl⟩
    · -- an empty text can only set the flag
      constructor
      · intro hmem
        exfalso
        split_ifs at hmem with h1 h2 h3 h4 h5 <;> simp_all
      · rintro ⟨hc, -, ⟨rfl, htext⟩, -⟩
        exact absurd ⟨hc, htext⟩ hsent

theorem sendInput_mem_messageActions_iff {hasState : Bool} {inputTxs : List ChoiceIndex}
    {hasResponseTx hasFlag : Bool} {p : Item Error Completion × ℕ} {c : ChoiceIndex} {j : ℕ}
    {text : String} :
    .sendInput (c, .ok (j, text)) ∈
        messageActions hasState inputTxs hasResponseTx hasFlag p.2 p.1 ↔
      c ∈ inputTxs ∧ ∃ m, p = (.ok (some m), j) ∧ SaysText c m ∧ text = m.text := by
  rcases p with ⟨error | (_ | m), i⟩
  · simp [messageActions]
  · simp [messageActions]
  · simp only [messageActions, List.mem_append]
    have hrespond : (.sendInput (c, .ok (j, text)) : ConsumerAction Completion) ∉
        (if hasResponseTx then [.respond (.ok (some m))] else []) := by simp
    rw [or_iff_right hrespond]
    split
    · rename_i hchoices
      simp [SaysText, choiceOf, hchoices]
    · rw [sendInput_mem_recordActions_iff]
      simp [eq_comm]

theorem mem_choicesWithData_iff {c : ChoiceIndex} :
    c ∈ choicesWithData stream ↔ ∃ m, .ok (some m) ∈ stream ∧ SaysText c m := by
  rw [choicesWithData, List.mem_filterMap]
  constructor
  · rintro ⟨item, hitem, hc⟩
    split at hc
    · rename_i m
      obtain ⟨choice, hhead, hc⟩ := Option.bind_eq_some_iff.mp hc
      split_ifs at hc with htext
      refine ⟨m, hitem, ?_, ?_⟩
      · rw [choiceOf, hhead]
        exact hc
      · rwa [Completion.text, hhead]
    · simp at hc
  · rintro ⟨m, hm, hc, htext⟩
    refine ⟨_, hm, ?_⟩
    obtain ⟨choice, hhead, rfl⟩ := Option.map_eq_some_iff.mp hc
    rw [Completion.text, hhead] at htext
    simp only [hhead, Option.bind_some]
    exact if_pos htext

/-- The inputs of the channels: the texts of the messages of their choices, and a placeholder
where there are none. -/
theorem mem_inputsOf_processCompletionStream_iff {hasState : Bool} {inputTxs : List ChoiceIndex}
    {hasResponseTx hasFlag : Bool} {c : ChoiceIndex} {j : ℕ} {text : String} :
    (c, .ok (j, text)) ∈
        inputsOf (processCompletionStream hasState inputTxs hasResponseTx hasFlag stream) ↔
      c ∈ inputTxs ∧ ((∃ m, (.ok (some m), j) ∈ stream.zipIdx ∧ SaysText c m ∧ text = m.text) ∨
        (c ∉ choicesWithData stream ∧ j = 0 ∧ text = "")) := by
  rw [mem_inputsOf, processCompletionStream, List.mem_append, List.mem_flatMap, List.mem_map]
  simp only [sendInput_mem_messageActions_iff, List.mem_filter, decide_eq_true_eq,
    ConsumerAction.sendInput.injEq, Prod.mk.injEq, Except.ok.injEq]
  constructor
  · rintro (⟨p, hp, hc, m, rfl, hm⟩ | ⟨c', ⟨hc, hdata⟩, rfl, rfl, rfl⟩)
    · exact ⟨hc, Or.inl ⟨m, hp, hm⟩⟩
    · exact ⟨hc, Or.inr ⟨hdata, rfl, rfl⟩⟩
  · rintro ⟨hc, ⟨m, hp, hm⟩ | ⟨hdata, rfl, rfl⟩⟩
    · exact Or.inl ⟨_, hp, hc, m, rfl, hm⟩
    · exact Or.inr ⟨c, ⟨hc, hdata⟩, rfl, rfl, rfl⟩

theorem feeds_of_exec {w : List CompletionLabel}
    (hrun : exec (step request) (startDetection request stream batches) w = some t) :
    Feeds (processCompletionStream true request.choices false true stream) t.task t.consumer := by
  have hstart : Feeds (processCompletionStream true request.choices false true stream)
      (startDetection request stream batches).task
      (startDetection request stream batches).consumer := List.nil_append _
  exact exec_invariant_all (I := fun s : CompletionStreaming => Feeds _ s.task s.consumer)
    (fun _ _ _ => feeds_step) hstart hrun

/-- A choice without text gets the placeholder. -/
theorem allReceive {w : List CompletionLabel}
    (hrun : exec (step request) (startDetection request stream batches) w = some t)
    (hclosed : t.consumer = []) : AllReceive request.choices t.task := by
  intro c hc
  have hfeeds := feeds_of_exec hrun
  rw [hclosed] at hfeeds
  rw [hfeeds.inputs_eq]
  by_cases hdata : c ∈ choicesWithData stream
  · obtain ⟨m, hm, htext⟩ := mem_choicesWithData_iff.mp hdata
    obtain ⟨j, hj⟩ := List.exists_mem_zipIdx_of_mem hm
    exact ⟨(j, m.text), mem_inputsOf_processCompletionStream_iff.mpr
      ⟨hc, Or.inl ⟨m, hj, htext, rfl⟩⟩⟩
  · exact ⟨(0, ""), mem_inputsOf_processCompletionStream_iff.mpr
      ⟨hc, Or.inr ⟨hdata, rfl, rfl⟩⟩⟩

end CompletionStreaming

/-! ### Both endpoints -/

/-- **Input channels.** On the chat endpoint, when the channels are closed, each of them has
received an input exactly if the generation server sent a text for every choice. On the
completions endpoint each of them has. -/
theorem inputsReceived_iff (request : StreamingRequest ChatCompletionChunk)
    (stream : List (Item Error ChatCompletionChunk)) (request' : StreamingRequest Completion)
    (stream' : List (Item Error Completion)) (batches : List (Except Error Batch)) :
    (∀ w t, exec (ChatStreaming.step request)
        (ChatStreaming.startDetection request stream batches) w = some t → t.consumer = [] →
      (AllReceive request.choices t.task ↔ ∀ c ∈ request.choices,
        ∃ m, .ok (some m) ∈ stream ∧ ChatStreaming.SaysText c m)) ∧
    ∀ w t, exec (CompletionStreaming.step request')
        (CompletionStreaming.startDetection request' stream' batches) w = some t →
      t.consumer = [] → AllReceive request'.choices t.task := by
  constructor
  · intro w t hrun hclosed
    exact ChatStreaming.allReceive_iff hrun hclosed
  · intro w t hrun hclosed
    exact CompletionStreaming.allReceive hrun hclosed

/-- The messages of a choice that calls a tool and says nothing. -/
def toolCallStream : List (Item Error ChatCompletionChunk) :=
  [.ok (some { id := "chat", choices := [{ delta := { role := some .assistant } }] }),
    .ok (some { id := "chat", choices := [{ finishReason := some "tool_calls" }] }), .ok none]

/-- A schedule in which the consumer takes all its steps. -/
def consumeAll : List ChatLabel :=
  [.main, .main, .consumer, .consumer, .consumer]

/-- The only channel is closed without an input. -/
theorem not_allReceive_toolCall :
    ∃ t, exec (ChatStreaming.step (sentenceRequest toolCallStream))
        (ChatStreaming.startDetection (sentenceRequest toolCallStream) toolCallStream [])
          consumeAll = some t ∧ t.consumer = [] ∧
      ¬ AllReceive (sentenceRequest toolCallStream).choices t.task := by
  refine ⟨_, rfl, rfl, ?_⟩
  intro h
  obtain ⟨input, hinput⟩ := h 0 (List.mem_singleton_self 0)
  exact absurd hinput (List.not_mem_nil)

/-- One message with a text. -/
def greetingStream : List (Item Error ChatCompletionChunk) := [ChatStreaming.textMessage "Hi" none]

/-- With a text, the channel has an input on the chat endpoint; on the completions endpoint it
has one without. -/
theorem inputsReceived_iff_text :
    (∃ t, exec (ChatStreaming.step (sentenceRequest greetingStream))
        (ChatStreaming.startDetection (sentenceRequest greetingStream) greetingStream [])
          consumeAll = some t ∧ AllReceive [0] t.task) ∧
    ∃ t, exec (CompletionStreaming.step (sentenceRequest []))
        (CompletionStreaming.startDetection (sentenceRequest []) [] [])
          [.main, .main, .consumer] = some t ∧ AllReceive [0] t.task := by
  constructor
  · have hrun := exec_eq_some_get (by decide :
      (exec (ChatStreaming.step (sentenceRequest greetingStream))
        (ChatStreaming.startDetection (sentenceRequest greetingStream) greetingStream [])
          consumeAll).isSome = true)
    refine ⟨_, hrun, ((inputsReceived_iff _ _ (sentenceRequest []) [] []).1 _ _ hrun rfl).mpr ?_⟩
    intro c hc
    obtain rfl := List.mem_singleton.mp hc
    exact ⟨_, List.mem_singleton_self _, rfl, by decide⟩
  · have hrun := exec_eq_some_get (by decide :
      (exec (CompletionStreaming.step (sentenceRequest []))
        (CompletionStreaming.startDetection (sentenceRequest []) [] [])
          [.main, .main, .consumer]).isSome = true)
    exact ⟨_, hrun, (inputsReceived_iff (sentenceRequest []) [] _ _ []).2 _ _ hrun rfl⟩

end GuardrailsOrchestrator
