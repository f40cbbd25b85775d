import GuardrailsOrchestrator.Chat.Streaming

/-!
# What the consumer of chat completions records

The consumer stores the messages of each choice in the order of the stream and sends the
text of a message to the detection pipeline only after it has stored the message. So at
any moment the stored messages of a choice are an initial part of the messages the
generation server streams for it, and every text in the pipeline belongs to a stored
message.
-/

namespace GuardrailsOrchestrator

namespace ChatStreaming

open ResponseProtocol
open StreamingTask (insertOf inserts inserts_append messageOf)

/-- The choice a message belongs to: that of its first choice. -/
def choiceOf (m : ChatCompletionChunk) : Option ChoiceIndex := m.choices.head?.map (·.index)

theorem choiceOf_withRole (m : ChatCompletionChunk) : choiceOf (withRole m) = choiceOf m := by
  cases hchoices : m.choices <;>
    simp [choiceOf, withRole, ChatCompletionChunk.modifyChoice, hchoices]

theorem choiceOf_withDetections (m : ChatCompletionChunk) (logprobs : Option ChatCompletionLogprobs)
    (choiceIndex : ChoiceIndex) (chunk : Chunk) (detections : List Detection) :
    choiceOf (withDetections m logprobs choiceIndex chunk detections) = choiceOf m := by
  cases hchoices : m.choices <;>
    simp [choiceOf, withDetections, ChatCompletionChunk.modifyChoice, hchoices]

/-- The messages the generation server streams for a choice, with their indices. -/
def choiceMessages (c : ChoiceIndex) (stream : List (Item Error ChatCompletionChunk)) :
    List (ℕ × ChatCompletionChunk) :=
  StreamingTask.choiceMessages choiceOf c stream

/-- Every text that is sent belongs to a message stored before, be it among `keys` or by
one of the effects. -/
def Covered (c : ChoiceIndex) : List ℕ → List (ConsumerAction ChatCompletionChunk) → Prop
  | _, [] => True
  | keys, .sendInput (c', .ok (i, _)) :: actions => (c' = c → i ∈ keys) ∧ Covered c keys actions
  | keys, action :: actions => Covered c (keys ++ ((insertOf c action).toList.map (·.1))) actions

variable {c : ChoiceIndex} {stream : List (Item Error ChatCompletionChunk)}

/-! ### The stored messages -/

theorem choiceMessages_ascending (c : ChoiceIndex)
    (stream : List (Item Error ChatCompletionChunk)) :
    (choiceMessages c stream).Pairwise fun x y => x.1 < y.1 :=
  StreamingTask.choiceMessages_ascending choiceOf c stream

theorem choiceOf_of_mem_choiceMessages {e : ℕ × ChatCompletionChunk}
    (h : e ∈ choiceMessages c stream) : choiceOf e.2 = some c :=
  StreamingTask.choiceOf_of_mem_choiceMessages h

theorem inserts_recordActions (inputTxs : List ChoiceIndex) (i : ℕ) (m : ChatCompletionChunk) :
    inserts c (recordActions true inputTxs i m) =
      (messageOf choiceOf c (.ok (some m), i)).toList := by
  -- neither the metadata nor the input for the pipeline is stored as a message
  have hmetadata : ∀ metadata, inserts c (if i = 0 ∧ true = true then
      [(.setMetadata metadata : ConsumerAction ChatCompletionChunk)] else []) = [] := by
    intro metadata
    split_ifs <;> rfl
  rw [recordActions, inserts_append, hmetadata, List.nil_append]
  cases hchoices : m.choices with
  | nil => simp [messageOf, choiceOf, hchoices, inserts]
  | cons choice choices =>
    have hinput : ∀ input, inserts c (if choice.index ∈ inputTxs ∧
        choice.delta.content.getD "" ≠ "" then
          [(.sendInput input : ConsumerAction ChatCompletionChunk)] else []) = [] := by
      intro input
      split_ifs <;> rfl
    simp only [List.head?_cons, inserts_append, hinput, List.append_nil, if_true]
    by_cases hc : choice.index = c <;>
      simp [inserts, insertOf, messageOf, choiceOf, hchoices, hc]

/-- The effects of one item store the message of that item. -/
theorem inserts_messageActions (inputTxs : List ChoiceIndex) (hasResponseTx : Bool)
    (p : Item Error ChatCompletionChunk × ℕ) :
    inserts c (messageActions true inputTxs hasResponseTx p.2 p.1) =
      (messageOf choiceOf c p).toList := by
  have hrespond : ∀ item, inserts c (if hasResponseTx then
      [(.respond item : ConsumerAction ChatCompletionChunk)] else []) = [] := by
    intro item
    cases hasResponseTx <;> rfl
  rcases p with ⟨error | (_ | m), i⟩
  · simp only [messageActions, inserts_append, hrespond, List.nil_append]
    simp [inserts, messageOf, insertOf, List.filterMap_map, Function.comp_def]
  · rfl
  · simp only [messageActions, inserts_append, hrespond, List.nil_append]
    split
    · rename_i hchoices
      simp [messageOf, choiceOf, hchoices, inserts, insertOf]
    · exact inserts_recordActions inputTxs i m

/-- The consumer stores exactly the messages of the stream. -/
theorem inserts_processChatCompletionStream (inputTxs : List ChoiceIndex) (hasResponseTx : Bool) :
    inserts c (processChatCompletionStream true inputTxs hasResponseTx stream) =
      choiceMessages c stream :=
  StreamingTask.inserts_flatMap (inserts_messageActions inputTxs hasResponseTx) stream

/-! ### The texts in the pipeline -/

theorem Covered.mono {keys keys' : List ℕ} {actions : List (ConsumerAction ChatCompletionChunk)}
    (h : Covered c keys actions) (hsub : keys ⊆ keys') : Covered c keys' actions := by
  induction actions generalizing keys keys' with
  | nil => trivial
  | cons action actions ih =>
    have hother : Covered c (keys ++ (insertOf c action).toList.map (·.1)) actions →
        Covered c (keys' ++ (insertOf c action).toList.map (·.1)) actions := fun h =>
      ih h (List.append_subset.mpr ⟨List.subset_append_of_subset_left _ hsub,
        List.subset_append_right _ _⟩)
    rcases action with _ | _ | _ | _ | ⟨c', error | ⟨i, text⟩⟩ | _
    case sendInput.ok => exact ⟨fun hc => hsub (h.1 hc), ih h.2 hsub⟩
    all_goals exact hother h

theorem Covered.append {keys : List ℕ}
    {actions actions' : List (ConsumerAction ChatCompletionChunk)}
    (h : Covered c keys actions) (h' : Covered c keys actions') :
    Covered c keys (actions ++ actions') := by
  induction actions generalizing keys with
  | nil => exact h'
  | cons action actions ih =>
    rcases action with _ | _ | _ | _ | ⟨c', error | ⟨i, text⟩⟩ | _
    case sendInput.ok => exact ⟨h.1, ih h.2 h'⟩
    all_goals exact ih h (h'.mono (List.subset_append_left _ _))

theorem Covered.tail {keys : List ℕ} {action : ConsumerAction ChatCompletionChunk}
    {actions : List (ConsumerAction ChatCompletionChunk)} (h : Covered c keys (action :: actions)) :
    Covered c (keys ++ (insertOf c action).toList.map (·.1)) actions := by
  rcases action with _ | _ | _ | _ | ⟨c', error | ⟨i, text⟩⟩ | _
  case sendInput.ok => exact h.2.mono (List.subset_append_left _ _)
  all_goals exact h

theorem covered_recordActions (keys : List ℕ) (inputTxs : List ChoiceIndex) (i : ℕ)
    (m : ChatCompletionChunk) : Covered c keys (recordActions true inputTxs i m) := by
  rw [recordActions]
  apply Covered.append
  · split_ifs <;> trivial
  · cases m.choices.head? with
    | none => trivial
    | some choice =>
      simp only [if_true, List.singleton_append, Covered]
      -- the text is sent right after its message was stored
      split_ifs
      · refine ⟨?_, trivial⟩
        intro hc
        simp [insertOf, hc]
      · trivial

theorem covered_messageActions (keys : List ℕ) (inputTxs : List ChoiceIndex) (hasResponseTx : Bool)
    (p : Item Error ChatCompletionChunk × ℕ) :
    Covered c keys (messageActions true inputTxs hasResponseTx p.2 p.1) := by
  have hrespond : ∀ item, Covered c keys (if hasResponseTx then [.respond item] else []) := by
    intro item
    cases hasResponseTx <;> trivial
  rcases p with ⟨error | (_ | m), i⟩
  · refine (hrespond _).append ?_
    -- an error is sent to the pipeline of every choice and stores nothing
    induction inputTxs generalizing keys with
    | nil => trivial
    | cons c' inputTxs ih => exact ih _ fun item => by cases hasResponseTx <;> trivial
  · trivial
  · apply (hrespond _).append
    split
    · trivial
    · exact covered_recordActions keys inputTxs i m

theorem covered_processChatCompletionStream (keys : List ℕ) (inputTxs : List ChoiceIndex)
    (hasResponseTx : Bool) :
    Covered c keys (processChatCompletionStream true inputTxs hasResponseTx stream) := by
  rw [processChatCompletionStream]
  induction stream.zipIdx with
  | nil => trivial
  | cons p l ih =>
    rw [List.flatMap_cons]
    exact (covered_messageActions keys inputTxs hasResponseTx p).append ih

/-! ### The consumer in a run -/

/-- The stored messages of every choice followed by those still to be stored are the
messages of the stream, and every text in the pipeline belongs to a stored message. -/
structure Follows (stream : List (Item Error ChatCompletionChunk)) (s : ChatStreaming) : Prop where
  stored : s.task.Stores choiceOf stream s.consumer
  received : ∀ c i text, (c, .ok (i, text)) ∈ s.task.inputs →
    i ∈ (s.task.completionState.messages c).keys
  covered : ∀ c, Covered c (s.task.completionState.messages c).keys s.consumer

namespace Follows

variable {s t : ChatStreaming}

theorem startDetection (request : StreamingRequest ChatCompletionChunk)
    (stream : List (Item Error ChatCompletionChunk)) (batches : List (Except Error Batch)) :
    Follows stream (startDetection request stream batches) where
  stored _ := inserts_processChatCompletionStream request.choices false
  received := by simp [ChatStreaming.startDetection]
  covered _ := covered_processChatCompletionStream _ request.choices false

theorem stepConsumer (h : Follows stream s) (hstep : s.stepConsumer = some t) :
    Follows stream t := by
  obtain ⟨action, consumer, hconsumer, -, rfl⟩ := exists_of_stepConsumer hstep
  have hstored := h.stored
  have hcovered := h.covered
  rw [hconsumer] at hstored hcovered
  -- indices ascend, so a stored message is added at the end of its choice
  have hentries : ∀ c, ((s.task.perform action).completionState.messages c).entries =
      (s.task.completionState.messages c).entries ++ (insertOf c action).toList :=
    hstored.entries_perform
  have hkeys : ∀ c, ((s.task.perform action).completionState.messages c).keys =
      (s.task.completionState.messages c).keys ++ (insertOf c action).toList.map (·.1) := by
    intro c
    rw [OrderedMap.keys, hentries, List.map_append, OrderedMap.keys]
  refine ⟨hstored.perform, ?_, ?_⟩
  · intro c i text hmem
    rw [hkeys]
    apply List.mem_append_left
    -- only an input extends what the pipeline has received
    rcases action with _ | _ | _ | _ | input | _
    case sendInput =>
      rcases List.mem_append.mp hmem with hmem | hmem
      · exact h.received c i text hmem
      · obtain rfl := List.mem_singleton.mp hmem
        exact (hcovered c).1 rfl
    all_goals exact h.received c i text hmem
  · intro c
    rw [hkeys]
    exact (hcovered c).tail

theorem of_eq (h : Follows stream s) (hconsumer : t.consumer = s.consumer)
    (hstate : t.task.completionState = s.task.completionState)
    (hinputs : t.task.inputs = s.task.inputs) : Follows stream t where
  stored c := by rw [hstate, hconsumer, h.stored c]
  received c i text hmem := by
    rw [hinputs] at hmem
    rw [hstate]
    exact h.received c i text hmem
  covered c := by
    rw [hstate, hconsumer]
    exact h.covered c

theorem step {request : StreamingRequest ChatCompletionChunk} {a : ChatLabel}
    (h : Follows stream s) (hstep : s.step request a = some t) : Follows stream t := by
  cases a with
  | consumer => exact h.stepConsumer hstep
  | main => cases mainStep_of_stepMain hstep <;> exact h.of_eq rfl rfl rfl
  | timeout =>
    obtain ⟨batch, -, ⟨-, error, rfl⟩ | ⟨-, rfl⟩⟩ := exists_of_stepTimeout hstep
    · exact h.of_eq rfl rfl rfl
    · exact h.of_eq rfl rfl rfl

/-- The stored messages of a choice come first among its messages. -/
theorem entries_initial (h : Follows stream s) (c : ChoiceIndex) :
    (s.task.completionState.messages c).entries <+: choiceMessages c stream :=
  ⟨_, h.stored c⟩

end Follows

end ChatStreaming

end GuardrailsOrchestrator
