import GuardrailsOrchestrator.Completions.Streaming

/-!
# What the consumer of completions records

The consumer stores each message for the choice the message belongs to, in the order of
the stream. So at any moment the stored messages of a choice, followed by those the
consumer has yet to store, are the messages the generation server streams for it.
-/

namespace GuardrailsOrchestrator

namespace CompletionStreaming

open ResponseProtocol

/-- The choice a message belongs to: that of its first choice. -/
def choiceOf (m : Completion) : Option ChoiceIndex := m.choices.head?.map (·.index)

theorem choiceOf_withDetections (m : Completion) (logprobs : Option CompletionLogprobs)
    (choiceIndex : ChoiceIndex) (chunk : Chunk) (detections : List Detection) :
    choiceOf (withDetections m logprobs choiceIndex chunk detections) = choiceOf m := by
  cases hchoices : m.choices <;>
    simp [choiceOf, withDetections, Completion.modifyChoice, hchoices]

/-- The messages the generation server streams for a choice, with their indices. -/
def choiceMessages (c : ChoiceIndex) (stream : List (Item Error Completion)) :
    List (ℕ × Completion) :=
  StreamingTask.choiceMessages choiceOf c stream

variable {c : ChoiceIndex} {stream : List (Item Error Completion)}

theorem choiceMessages_ascending (c : ChoiceIndex) (stream : List (Item Error Completion)) :
    (choiceMessages c stream).Pairwise fun x y => x.1 < y.1 :=
  StreamingTask.choiceMessages_ascending choiceOf c stream

theorem choiceOf_of_mem_choiceMessages {e : ℕ × Completion} (h : e ∈ choiceMessages c stream) :
    choiceOf e.2 = some c :=
  StreamingTask.choiceOf_of_mem_choiceMessages h

/-! ### The effects of the consumer -/

theorem inserts_inputActions (hasFlag : Bool) (i : ℕ) (choice : CompletionChoice) :
    StreamingTask.inserts c (inputActions hasFlag i choice) = [] := by
  rw [inputActions]
  split_ifs <;> rfl

theorem inserts_recordActions (inputTxs : List ChoiceIndex) (hasFlag : Bool) (i : ℕ)
    (m : Completion) :
    StreamingTask.inserts c (recordActions true inputTxs hasFlag i m) =
      (StreamingTask.messageOf choiceOf c (.ok (some m), i)).toList := by
  -- metadata are not stored as a message, and neither is what is sent to a detector
  have hmetadata : ∀ metadata, StreamingTask.inserts c (if i = 0 ∧ true = true then
      [(.setMetadata metadata : ConsumerAction Completion)] else []) = [] := by
    intro metadata
    split_ifs <;> rfl
  rw [recordActions, StreamingTask.inserts_append, hmetadata, List.nil_append]
  cases hchoices : m.choices with
  | nil => simp [StreamingTask.messageOf, choiceOf, hchoices, StreamingTask.inserts]
  | cons choice choices =>
    have hinput : StreamingTask.inserts c (if choice.index ∈ inputTxs then
        inputActions hasFlag i choice else []) = [] := by
      split_ifs
      · exact inserts_inputActions hasFlag i choice
      · rfl
    simp only [List.head?_cons, StreamingTask.inserts_append, hinput, List.append_nil, if_true]
    by_cases hc : choice.index = c <;>
      simp [StreamingTask.inserts, StreamingTask.insertOf, StreamingTask.messageOf, choiceOf,
        hchoices, hc]

/-- The effects of one item store the message of that item. -/
theorem inserts_messageActions (inputTxs : List ChoiceIndex) (hasResponseTx hasFlag : Bool)
    (p : Item Error Completion × ℕ) :
    StreamingTask.inserts c (messageActions true inputTxs hasResponseTx hasFlag p.2 p.1) =
      (StreamingTask.messageOf choiceOf c p).toList := by
  have hrespond : ∀ item, StreamingTask.inserts c (if hasResponseTx then
      [(.respond item : ConsumerAction Completion)] else []) = [] := by
    intro item
    cases hasResponseTx <;> rfl
  rcases p with ⟨error | (_ | m), i⟩
  · simp only [messageActions, StreamingTask.inserts_append, hrespond, List.nil_append]
    simp [StreamingTask.inserts, StreamingTask.messageOf, StreamingTask.insertOf,
      List.filterMap_map, Function.comp_def]
  · rfl
  · simp only [messageActions, StreamingTask.inserts_append, hrespond, List.nil_append]
    split
    · rename_i hchoices
      simp [StreamingTask.messageOf, choiceOf, hchoices, StreamingTask.inserts,
        StreamingTask.insertOf]
    · exact inserts_recordActions inputTxs hasFlag i m

/-- The effects of all items store exactly the messages of the stream. -/
theorem inserts_flatMap_messageActions (inputTxs : List ChoiceIndex)
    (hasResponseTx hasFlag : Bool) :
    StreamingTask.inserts c (stream.zipIdx.flatMap fun (item, messageIndex) =>
        messageActions true inputTxs hasResponseTx hasFlag messageIndex item) =
      choiceMessages c stream :=
  StreamingTask.inserts_flatMap (inserts_messageActions inputTxs hasResponseTx hasFlag) stream

/-- The consumer stores exactly the messages of the stream. -/
theorem inserts_processCompletionStream (inputTxs : List ChoiceIndex)
    (hasResponseTx hasFlag : Bool) :
    StreamingTask.inserts c (processCompletionStream true inputTxs hasResponseTx hasFlag stream) =
      choiceMessages c stream := by
  -- the placeholders for choices without text are not stored
  have hplaceholders : ∀ choices : List ChoiceIndex, StreamingTask.inserts c (choices.map
      fun choiceIndex => (.sendInput (choiceIndex, .ok (0, "")) : ConsumerAction Completion)) =
        [] := by
    intro choices
    simp [StreamingTask.inserts, StreamingTask.insertOf, List.filterMap_map, Function.comp_def]
  rw [processCompletionStream, StreamingTask.inserts_append, hplaceholders, List.append_nil]
  exact inserts_flatMap_messageActions inputTxs hasResponseTx hasFlag

/-! ### The consumer in a run -/

/-- The stored messages of every choice followed by those still to be stored are the
messages of the stream. -/
def Stores (stream : List (Item Error Completion)) (s : CompletionStreaming) : Prop :=
  s.task.Stores choiceOf stream s.consumer

namespace Stores

variable {s t : CompletionStreaming}

theorem stored (h : Stores stream s) (c : ChoiceIndex) :
    (s.task.completionState.messages c).entries ++ StreamingTask.inserts c s.consumer =
      choiceMessages c stream :=
  h c

theorem startDetection (request : StreamingRequest Completion)
    (stream : List (Item Error Completion)) (batches : List (Except Error Batch)) :
    Stores stream (startDetection request stream batches) := fun _ =>
  inserts_processCompletionStream request.choices false true

theorem of_eq (h : Stores stream s) (hconsumer : t.consumer = s.consumer)
    (hstate : t.task.completionState = s.task.completionState) : Stores stream t := by
  intro c
  rw [hstate, hconsumer, h c]

theorem stepConsumer (h : Stores stream s) (hstep : s.stepConsumer = some t) :
    Stores stream t := by
  obtain ⟨action, consumer, hconsumer, -, rfl⟩ := exists_of_stepConsumer hstep
  rw [Stores, hconsumer] at h
  exact h.perform

theorem step {request : StreamingRequest Completion} {a : CompletionLabel}
    (h : Stores stream s) (hstep : s.step request a = some t) : Stores stream t := by
  cases a with
  | consumer => exact h.stepConsumer hstep
  | main => cases mainStep_of_stepMain hstep <;> exact h.of_eq rfl rfl
  | last choiceIndex =>
    obtain ⟨choices, indices, -, -, ⟨-, rfl⟩ | ⟨last, endIndex, -, -, rfl⟩⟩ :=
      exists_of_stepLast hstep
    · exact h.of_eq rfl rfl
    · exact h.of_eq rfl rfl

end Stores

end CompletionStreaming

end GuardrailsOrchestrator
