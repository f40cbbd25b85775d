import GuardrailsOrchestrator.Streaming

/-!
# Streaming chat completions

The chat completions endpoint with streaming. With output detectors that use a
chunker, one task consumes the messages of the generation server, records them in the
completion state and sends their texts to the detection pipeline, while the main task
turns the batches that come out of the pipeline into messages for the client, looking
up in the completion state what the generation server sent. Otherwise the main task
consumes the messages itself and forwards them.

## Main definitions

* `processChatCompletionStream` — the effects of the consumer
* `outputDetectionResponse`, `finishMessage` — the messages made from a batch
* `ChatStreaming.step` — one step of the consumer or of the main task
* `ChatStreaming.start` — the task of a request
-/

namespace GuardrailsOrchestrator

open ResponseProtocol

/-! ### Consuming the generation stream -/

namespace ChatStreaming

/-- The effects of a message on the completion state and the input channels. Only the first
choice of a message counts. -/
def recordActions (hasState : Bool) (inputTxs : List ChoiceIndex) (messageIndex : ℕ)
    (chatCompletion : ChatCompletionChunk) : List (ConsumerAction ChatCompletionChunk) :=
  (if messageIndex = 0 ∧ hasState then
    [.setMetadata ⟨chatCompletion.id, chatCompletion.created, chatCompletion.model⟩] else []) ++
  match chatCompletion.choices.head? with
  | some choice =>
    (if hasState then [.insertCompletion choice.index messageIndex chatCompletion] else []) ++
    -- a choice without text is not sent to the detection pipeline
    (if choice.index ∈ inputTxs ∧ choice.delta.content.getD "" ≠ "" then
      [.sendInput (choice.index, .ok (messageIndex, choice.delta.content.getD ""))] else [])
  | none => []

/-- The effects of receiving the item of index `messageIndex`. -/
def messageActions (hasState : Bool) (inputTxs : List ChoiceIndex) (hasResponseTx : Bool)
    (messageIndex : ℕ) :
    Item Error ChatCompletionChunk → List (ConsumerAction ChatCompletionChunk)
  | .ok (some chatCompletion) =>
    (if hasResponseTx then [.respond (.ok (some chatCompletion))] else []) ++
      match chatCompletion.usage, chatCompletion.choices with
      -- a message with usage and without choices only sets the usage
      | some usage, [] => if hasState then [.setUsage usage] else []
      | _, _ => recordActions hasState inputTxs messageIndex chatCompletion
  | .ok none => []
  -- an error is passed on, and the loop goes on
  | .error error =>
    (if hasResponseTx then [.respond (.error error)] else []) ++
      inputTxs.map fun choiceIndex => .sendInput (choiceIndex, .error error)

/-- The effects of `process_chat_completion_stream` on a stream. -/
def processChatCompletionStream (hasState : Bool) (inputTxs : List ChoiceIndex)
    (hasResponseTx : Bool) (stream : List (Item Error ChatCompletionChunk)) :
    List (ConsumerAction ChatCompletionChunk) :=
  stream.zipIdx.flatMap fun (item, messageIndex) =>
    messageActions hasState inputTxs hasResponseTx messageIndex item

end ChatStreaming

/-! ### Messages made from a batch -/

/-- The text of a message. -/
def ChatCompletionChunk.content (chatCompletion : ChatCompletionChunk) : String :=
  (chatCompletion.choices.head?.bind (·.delta.content)).getD ""

/-- Whether a message has a finish reason. -/
def ChatCompletionChunk.finishes (chatCompletion : ChatCompletionChunk) : Bool :=
  chatCompletion.choices.head?.any (·.finishReason.isSome)

/-- The message with its first choice changed. -/
def ChatCompletionChunk.modifyChoice (chatCompletion : ChatCompletionChunk)
    (f : ChatCompletionChunkChoice → ChatCompletionChunkChoice) : ChatCompletionChunk :=
  { chatCompletion with choices := chatCompletion.choices.modifyHead f }

namespace ChatStreaming

/-- The log probabilities of the first choices, put together. -/
def mergeLogprobs (chunks : List ChatCompletionChunk) : Option ChatCompletionLogprobs :=
  let logprobs := chunks.filterMap fun chunk => chunk.choices.head?.bind (·.logprobs)
  let content := logprobs.flatMap (·.content)
  let refusal := logprobs.flatMap (·.refusal)
  if !content.isEmpty || !refusal.isEmpty then some { content, refusal } else none

/-- The messages of a choice in the range of a chunk. -/
def chatCompletionsOf (completions : OrderedMap ℕ ChatCompletionChunk) (chunk : Chunk) :
    List ChatCompletionChunk :=
  (completions.range chunk.inputStartIndex chunk.inputEndIndex).map (·.2)

/-- The last message of a chunk with the text of the chunk, the log probabilities of all
its messages, and the detections on it. -/
def withDetections (chatCompletion : ChatCompletionChunk)
    (logprobs : Option ChatCompletionLogprobs) (choiceIndex : ChoiceIndex) (chunk : Chunk)
    (detections : List Detection) : ChatCompletionChunk :=
  { chatCompletion.modifyChoice fun choice =>
      { choice with
        delta := { choice.delta with role := some .assistant, content := some chunk.text }
        logprobs } with
    warnings := if detections.isEmpty then chatCompletion.warnings
      else [⟨.unsuitableOutput, unsuitableOutputMessage⟩]
    detections := some (.ofChoice choiceIndex detections) }

/-- The message for a batch, made from the last message of the choice in the chunk's
range. A range that ends before it starts panics. -/
def outputDetectionResponse (completions : OrderedMap ℕ ChatCompletionChunk)
    (choiceIndex : ChoiceIndex) (chunk : Chunk) (detections : List Detection) :
    Option (Except Error ChatCompletionChunk) :=
  -- the panic of `BTreeMap::range`
  if chunk.inputEndIndex < chunk.inputStartIndex then none
  else match (chatCompletionsOf completions chunk).getLast? with
    | some chatCompletion =>
      some (.ok (withDetections chatCompletion
        (mergeLogprobs (chatCompletionsOf completions chunk)) choiceIndex chunk detections))
    | none => some (.error (.other "no chat completions found for chunk"))

/-- The message with the role of the assistant. -/
def withRole (chatCompletion : ChatCompletionChunk) : ChatCompletionChunk :=
  chatCompletion.modifyChoice fun choice =>
    { choice with delta := { choice.delta with role := some .assistant } }

/-- The additional message for the finish reason: if the batch ends in the last but one
message of the choice so far and the last one has a finish reason, the last one. -/
def finishMessage (completions : OrderedMap ℕ ChatCompletionChunk) (inputEndIndex : ℕ) :
    Option ChatCompletionChunk :=
  -- `keys().rev().nth(1)`: the choice must have a later message than the one the batch ends in
  if completions.keys.reverse[1]? = some inputEndIndex then
    (completions.lastKeyValue.map (·.2)).bind fun chatCompletion =>
      if chatCompletion.finishes then some (withRole chatCompletion) else none
  else none

section Messages

variable {completions : OrderedMap ℕ ChatCompletionChunk} {choiceIndex : ChoiceIndex}
  {chunk : Chunk} {detections : List Detection} {m : ChatCompletionChunk}

/-- A response is made from the last stored message in the chunk's range. -/
theorem exists_of_outputDetectionResponse
    (h : outputDetectionResponse completions choiceIndex chunk detections = some (.ok m)) :
    chunk.inputStartIndex ≤ chunk.inputEndIndex ∧
      ∃ stored logprobs, (chatCompletionsOf completions chunk).getLast? = some stored ∧
        m = withDetections stored logprobs choiceIndex chunk detections := by
  rw [outputDetectionResponse] at h
  split_ifs at h with hrange
  split at h
  · rename_i stored hlast
    obtain rfl := Except.ok.inj (Option.some.inj h)
    exact ⟨Nat.le_of_not_lt hrange, stored, _, hlast, rfl⟩
  · simp at h

theorem finishMessage_eq_some_iff {inputEndIndex : ℕ} :
    finishMessage completions inputEndIndex = some m ↔
      completions.keys.reverse[1]? = some inputEndIndex ∧
        ∃ last, completions.lastKeyValue = some last ∧ last.2.finishes = true ∧
          m = withRole last.2 := by
  rw [finishMessage]
  split_ifs with hend
  · simp only [hend, true_and, Option.bind_eq_some_iff, Option.map_eq_some_iff]
    constructor
    · rintro ⟨stored, ⟨last, hlast, rfl⟩, hm⟩
      split_ifs at hm with hfinishes
      exact ⟨last, hlast, hfinishes, (Option.some.inj hm).symm⟩
    · rintro ⟨last, hlast, hfinishes, rfl⟩
      exact ⟨last.2, ⟨last, hlast, rfl⟩, by rw [if_pos hfinishes]⟩
  · simp [hend]

theorem content_withRole (m : ChatCompletionChunk) : (withRole m).content = m.content := by
  cases hchoices : m.choices <;>
    simp [ChatCompletionChunk.content, withRole, ChatCompletionChunk.modifyChoice, hchoices]

theorem finishes_withRole (m : ChatCompletionChunk) : (withRole m).finishes = m.finishes := by
  cases hchoices : m.choices <;>
    simp [ChatCompletionChunk.finishes, withRole, ChatCompletionChunk.modifyChoice, hchoices]

theorem finishes_withDetections (logprobs : Option ChatCompletionLogprobs) :
    (withDetections m logprobs choiceIndex chunk detections).finishes = m.finishes := by
  cases hchoices : m.choices <;>
    simp [ChatCompletionChunk.finishes, withDetections, ChatCompletionChunk.modifyChoice, hchoices]

theorem content_withDetections (logprobs : Option ChatCompletionLogprobs) (h : m.choices ≠ []) :
    (withDetections m logprobs choiceIndex chunk detections).content = chunk.text := by
  cases hchoices : m.choices with
  | nil => exact absurd hchoices h
  | cons choice choices =>
    simp [ChatCompletionChunk.content, withDetections, ChatCompletionChunk.modifyChoice, hchoices]

end Messages

end ChatStreaming

/-! ### The task -/

/-- Where the main task is. -/
inductive ChatStage where
  /-- Creating the detection streams of the remaining choices. -/
  | creatingStreams (choices : List ChoiceIndex)
  /-- In `detection_batch_stream.next().await`. -/
  | awaitingBatch
  /-- In `output_detection_response`, waiting for the entry of the choice. -/
  | building (batch : Batch)
  /-- After the message for a batch was sent, before the finish reason is checked. -/
  | checkingFinish (batch : Batch)
  /-- Consuming the generation stream itself; output is detected afterwards or not. -/
  | forwarding (detecting : Bool)
  /-- At the end of `handle_output_detection`. -/
  | finalizing
  /-- In `handle_whole_doc_detection`, with the message to be completed. -/
  | detectingWholeDoc (chatCompletion : ChatCompletionChunk)
  /-- Back in `handle_streaming`. -/
  | completing
  | finished
  | panicked
  /-- Panicked before the consumer is spawned. -/
  | aborted
  deriving DecidableEq

/-- Both tasks. `processed` records, for every batch whose message was sent, the indices
of the messages of its choice that were stored when the finish reason was checked. -/
structure ChatStreaming where
  task : StreamingTask ChatCompletionChunk := {}
  /-- What the consumer has yet to do. -/
  consumer : List (ConsumerAction ChatCompletionChunk) := []
  /-- What the batch stream has yet to yield. -/
  batches : List (Except Error Batch) := []
  stage : ChatStage
  processed : List (Batch × List ℕ) := []

/-- Who moves next. -/
inductive ChatLabel where
  | consumer
  | main
  /-- The main task gives up waiting for the entry of a choice. -/
  | timeout
  deriving DecidableEq

namespace ChatStreaming

/-- The messages of a choice, if it has an entry. -/
def completions (s : ChatStreaming) (choiceIndex : ChoiceIndex) :
    Option (OrderedMap ℕ ChatCompletionChunk) :=
  s.task.completionState.completions.get? choiceIndex

/-- Send items to the response channel. -/
def send (s : ChatStreaming) (items : List (Item Error ChatCompletionChunk)) : ChatStreaming :=
  { s with task := { s.task with sent := s.task.sent ++ items } }

/-- Go on at another stage. -/
def goto (s : ChatStreaming) (stage : ChatStage) : ChatStreaming := { s with stage }

/-- The error branches of `process_detection_batch_stream` send the error and the
completion signal and return. -/
def fail (s : ChatStreaming) (error : Error) : ChatStreaming :=
  (s.send [.error error, .ok none]).goto .finalizing

/-- The message at the end of `handle_output_detection`, before whole-document detections
are added. -/
def finalMessage (completionState : CompletionState ChatCompletionChunk)
    (metadata : CompletionMetadata) : ChatCompletionChunk :=
  { id := metadata.id
    created := metadata.created
    model := metadata.model
    usage := completionState.usage }

section Step

variable (request : StreamingRequest ChatCompletionChunk)

/-- A step of the main task. -/
def stepMain (s : ChatStreaming) : Option ChatStreaming :=
  match s.stage with
  | .creatingStreams [] => some (s.goto .awaitingBatch)
  | .creatingStreams (choiceIndex :: choices) =>
    match request.detectionStreams choiceIndex with
    | .ok () => some (s.goto (.creatingStreams choices))
    -- the error is sent, and the task goes on with the other choices
    | .error (.error error) => some ((s.send [.error error]).goto (.creatingStreams choices))
    | .error .panic => some (s.goto .aborted)
  | .awaitingBatch =>
    match s.batches with
    | [] => some (s.goto .finalizing)
    | .error error :: batches => some ({ s with batches }.fail error)
    | .ok batch :: batches => some ({ s with batches }.goto (.building batch))
  | .building batch =>
    (s.completions batch.1).map fun completions =>
      match outputDetectionResponse completions batch.1 batch.2.1 batch.2.2 with
      | none => s.goto .panicked
      | some (.ok chatCompletion) =>
        (s.send [.ok (some chatCompletion)]).goto (.checkingFinish batch)
      | some (.error error) => s.fail error
  | .checkingFinish batch =>
    (s.completions batch.1).map fun completions =>
      { (s.send ((finishMessage completions batch.2.1.inputEndIndex).toList.map fun m =>
            .ok (some m))).goto .awaitingBatch with
        processed := s.processed ++ [(batch, completions.keys)] }
  | .forwarding detecting =>
    match s.consumer with
    | [] => some (s.goto (if detecting then .finalizing else .completing))
    | _ :: _ => none
  | .finalizing =>
    if !request.wholeDocDetectors.isEmpty || s.task.completionState.usage.isSome then
      match s.task.completionState.metadata with
      -- the id, the creation time and the model are unwrapped
      | none => some (s.goto .panicked)
      | some metadata =>
        let chatCompletion := finalMessage s.task.completionState metadata
        if !request.wholeDocDetectors.isEmpty then
          some (s.goto (.detectingWholeDoc chatCompletion))
        else some ((s.send [.ok (some chatCompletion)]).goto .completing)
    else some (s.goto .completing)
  | .detectingWholeDoc chatCompletion =>
    match request.wholeDocDetection s.task.completionState with
    | none => some (s.goto .panicked)
    | some (.ok (detections, warnings)) =>
      some ((s.send [.ok (some { chatCompletion with
        detections := some detections, warnings })]).goto .completing)
    -- this branch returns to `handle_streaming`, which sends the completion signal once more
    | some (.error error) => some ((s.send [.error error, .ok none]).goto .completing)
  | .completing => some ((s.send [.ok none]).goto .finished)
  | .finished | .panicked | .aborted => none

/-- A step of the consumer. It is spawned once the detection streams are created. -/
def stepConsumer (s : ChatStreaming) : Option ChatStreaming :=
  match s.stage, s.consumer with
  | .creatingStreams _, _ | .aborted, _ => none
  | _, [] => none
  | _, action :: consumer => some { s with consumer, task := s.task.perform action }

/-- The main task waits for an entry that does not exist and gives up: an error while a
message is built, a silent return while the finish reason is checked. -/
def stepTimeout (s : ChatStreaming) : Option ChatStreaming :=
  match s.stage with
  | .building (choiceIndex, _, _) =>
    if (s.completions choiceIndex).isSome then none
    else some (s.fail (.other (s!"completion entry for choice_index {choiceIndex} " ++
      "not ready after 30s timeout")))
  | .checkingFinish (choiceIndex, _, _) =>
    if (s.completions choiceIndex).isSome then none else some (s.goto .finalizing)
  | _ => none

/-- One step. -/
def step (s : ChatStreaming) : ChatLabel → Option ChatStreaming
  | .consumer => s.stepConsumer
  | .main => s.stepMain request
  | .timeout => s.stepTimeout

end Step

/-! ### What a step can do -/

section Cases

variable {request : StreamingRequest ChatCompletionChunk} {s t : ChatStreaming}

/-- Whether a final message is sent. -/
def sendsFinal (request : StreamingRequest ChatCompletionChunk) (s : ChatStreaming) : Bool :=
  !request.wholeDocDetectors.isEmpty || s.task.completionState.usage.isSome

/-- The steps of the main task, with what each requires. -/
inductive MainStep (request : StreamingRequest ChatCompletionChunk) (s : ChatStreaming) :
    ChatStreaming → Prop
  | streamsCreated (hstage : s.stage = .creatingStreams []) :
    MainStep request s (s.goto .awaitingBatch)
  | streamCreated {choiceIndex choices}
      (hstage : s.stage = .creatingStreams (choiceIndex :: choices))
    (hcreated : request.detectionStreams choiceIndex = .ok ()) :
    MainStep request s (s.goto (.creatingStreams choices))
  -- an error is sent, and the next detection stream is created all the same
  | streamFailed {choiceIndex choices error}
    (hstage : s.stage = .creatingStreams (choiceIndex :: choices))
    (hfailed : request.detectionStreams choiceIndex = .error (.error error)) :
    MainStep request s ((s.send [.error error]).goto (.creatingStreams choices))
  | streamPanicked {choiceIndex choices}
    (hstage : s.stage = .creatingStreams (choiceIndex :: choices))
    (hpanicked : request.detectionStreams choiceIndex = .error .panic) :
    MainStep request s (s.goto .aborted)
  | batchesEnded (hstage : s.stage = .awaitingBatch) (hbatches : s.batches = []) :
    MainStep request s (s.goto .finalizing)
  | batchFailed {error batches} (hstage : s.stage = .awaitingBatch)
    (hbatches : s.batches = .error error :: batches) :
    MainStep request s ({ s with batches }.fail error)
  | batchReceived {batch batches} (hstage : s.stage = .awaitingBatch)
    (hbatches : s.batches = .ok batch :: batches) :
    MainStep request s ({ s with batches }.goto (.building batch))
  | responsePanicked {batch completions} (hstage : s.stage = .building batch)
    (hentry : s.completions batch.1 = some completions)
    (hresponse : outputDetectionResponse completions batch.1 batch.2.1 batch.2.2 = none) :
    MainStep request s (s.goto .panicked)
  | responseSent {batch completions m} (hstage : s.stage = .building batch)
    (hentry : s.completions batch.1 = some completions)
    (hresponse :
      outputDetectionResponse completions batch.1 batch.2.1 batch.2.2 = some (.ok m)) :
    MainStep request s ((s.send [.ok (some m)]).goto (.checkingFinish batch))
  | responseFailed {batch completions error} (hstage : s.stage = .building batch)
    (hentry : s.completions batch.1 = some completions)
    (hresponse :
      outputDetectionResponse completions batch.1 batch.2.1 batch.2.2 = some (.error error)) :
    MainStep request s (s.fail error)
  | finishChecked {batch completions} (hstage : s.stage = .checkingFinish batch)
    (hentry : s.completions batch.1 = some completions) :
    MainStep request s
      { (s.send ((finishMessage completions batch.2.1.inputEndIndex).toList.map fun m =>
          .ok (some m))).goto .awaitingBatch with
        processed := s.processed ++ [(batch, completions.keys)] }
  | forwarded {detecting} (hstage : s.stage = .forwarding detecting) (hconsumer : s.consumer = []) :
    MainStep request s (s.goto (if detecting then .finalizing else .completing))
  | finalSkipped (hstage : s.stage = .finalizing) (hfinal : s.sendsFinal request = false) :
    MainStep request s (s.goto .completing)
  | metadataMissing (hstage : s.stage = .finalizing) (hfinal : s.sendsFinal request = true)
    (hmetadata : s.task.completionState.metadata = none) :
    MainStep request s (s.goto .panicked)
  | wholeDocStarted {metadata} (hstage : s.stage = .finalizing)
    (hfinal : s.sendsFinal request = true)
    (hmetadata : s.task.completionState.metadata = some metadata) :
    MainStep request s (s.goto (.detectingWholeDoc (finalMessage s.task.completionState metadata)))
  | finalSent {metadata} (hstage : s.stage = .finalizing) (hfinal : s.sendsFinal request = true)
    (hmetadata : s.task.completionState.metadata = some metadata) :
    MainStep request s
      ((s.send [.ok (some (finalMessage s.task.completionState metadata))]).goto .completing)
  | wholeDocPanicked {m} (hstage : s.stage = .detectingWholeDoc m)
    (hresult : request.wholeDocDetection s.task.completionState = none) :
    MainStep request s (s.goto .panicked)
  | wholeDocSent {m detections warnings} (hstage : s.stage = .detectingWholeDoc m)
    (hresult : request.wholeDocDetection s.task.completionState =
      some (.ok (detections, warnings))) :
    MainStep request s
      ((s.send [.ok (some { m with detections := some detections, warnings })]).goto .completing)
  | wholeDocFailed {m error} (hstage : s.stage = .detectingWholeDoc m)
    (hresult : request.wholeDocDetection s.task.completionState = some (.error error)) :
    MainStep request s ((s.send [.error error, .ok none]).goto .completing)
  | completed (hstage : s.stage = .completing) :
    MainStep request s ((s.send [.ok none]).goto .finished)

theorem mainStep_of_building {batch : Batch} (hstage : s.stage = .building batch)
    (h : s.stepMain request = some t) : MainStep request s t := by
  simp only [stepMain, hstage] at h
  obtain ⟨completions, hentry, rfl⟩ := Option.map_eq_some_iff.mp h
  split
  · exact .responsePanicked hstage hentry ‹_›
  · exact .responseSent hstage hentry ‹_›
  · exact .responseFailed hstage hentry ‹_›

theorem mainStep_of_finalizing (hstage : s.stage = .finalizing)
    (h : s.stepMain request = some t) : MainStep request s t := by
  simp only [stepMain, hstage] at h
  rw [← sendsFinal] at h
  split at h
  · rename_i hfinal
    split at h
    · exact Option.some.inj h ▸ .metadataMissing hstage hfinal ‹_›
    · split at h
      · exact Option.some.inj h ▸ .wholeDocStarted hstage hfinal ‹_›
      · exact Option.some.inj h ▸ .finalSent hstage hfinal ‹_›
  · rename_i hfinal
    exact Option.some.inj h ▸ .finalSkipped hstage (by simpa using hfinal)

theorem mainStep_of_stepMain (h : s.stepMain request = some t) : MainStep request s t := by
  cases hstage : s.stage with
  | creatingStreams choices =>
    cases choices with
    | nil =>
      simp only [stepMain, hstage] at h
      exact Option.some.inj h ▸ .streamsCreated hstage
    | cons choiceIndex choices =>
      simp only [stepMain, hstage] at h
      split at h
      · exact Option.some.inj h ▸ .streamCreated hstage ‹_›
      · exact Option.some.inj h ▸ .streamFailed hstage ‹_›
      · exact Option.some.inj h ▸ .streamPanicked hstage ‹_›
  | awaitingBatch =>
    simp only [stepMain, hstage] at h
    split at h
    · exact Option.some.inj h ▸ .batchesEnded hstage ‹_›
    · exact Option.some.inj h ▸ .batchFailed hstage ‹_›
    · exact Option.some.inj h ▸ .batchReceived hstage ‹_›
  | building batch => exact mainStep_of_building hstage h
  | checkingFinish batch =>
    simp only [stepMain, hstage] at h
    obtain ⟨completions, hentry, rfl⟩ := Option.map_eq_some_iff.mp h
    exact .finishChecked hstage hentry
  | forwarding detecting =>
    simp only [stepMain, hstage] at h
    split at h
    · exact Option.some.inj h ▸ .forwarded hstage ‹_›
    · simp at h
  | finalizing => exact mainStep_of_finalizing hstage h
  | detectingWholeDoc m =>
    simp only [stepMain, hstage] at h
    split at h
    · exact Option.some.inj h ▸ .wholeDocPanicked hstage ‹_›
    · exact Option.some.inj h ▸ .wholeDocSent hstage ‹_›
    · exact Option.some.inj h ▸ .wholeDocFailed hstage ‹_›
  | completing =>
    simp only [stepMain, hstage] at h
    exact Option.some.inj h ▸ .completed hstage
  | finished | panicked | aborted => simp [stepMain, hstage] at h

theorem exists_of_stepConsumer (h : s.stepConsumer = some t) :
    ∃ action consumer, s.consumer = action :: consumer ∧
      ((∀ choices, s.stage ≠ .creatingStreams choices) ∧ s.stage ≠ .aborted) ∧
        t = { s with consumer, task := s.task.perform action } := by
  rw [stepConsumer] at h
  split at h
  · simp at h
  · simp at h
  · simp at h
  · rename_i action consumer hconsumer hspawned haborted
    exact ⟨action, consumer, hconsumer, ⟨hspawned, haborted⟩, (Option.some.inj h).symm⟩

theorem exists_of_stepTimeout (h : s.stepTimeout = some t) :
    ∃ batch, s.completions batch.1 = none ∧
      ((s.stage = .building batch ∧ ∃ error, t = s.fail error) ∨
        (s.stage = .checkingFinish batch ∧ t = s.goto .finalizing)) := by
  rw [stepTimeout] at h
  split at h
  · rename_i choiceIndex chunk detections hstage
    split_ifs at h with hentry
    exact ⟨_, by simpa using hentry, Or.inl ⟨hstage, _, (Option.some.inj h).symm⟩⟩
  · rename_i choiceIndex chunk detections hstage
    split_ifs at h with hentry
    exact ⟨_, by simpa using hentry, Or.inr ⟨hstage, (Option.some.inj h).symm⟩⟩
  · simp at h

end Cases

/-- `handle_output_detection` with detectors that use a chunker. -/
def startDetection (request : StreamingRequest ChatCompletionChunk)
    (stream : List (Item Error ChatCompletionChunk)) (batches : List (Except Error Batch)) :
    ChatStreaming :=
  { consumer := processChatCompletionStream true request.choices false stream
    batches
    stage := .creatingStreams request.choices }

/-! ### While output is detected -/

/-- Only the first of the effects of a message is a response. -/
theorem respond_mem_messageActions {hasState : Bool} {inputTxs : List ChoiceIndex}
    {hasResponseTx : Bool} {messageIndex : ℕ} {item received : Item Error ChatCompletionChunk}
    (h : .respond item ∈ messageActions hasState inputTxs hasResponseTx messageIndex received) :
    hasResponseTx = true ∧ item = received ∧ item ≠ .ok none := by
  rcases received with error | (_ | m)
  · obtain ⟨hresponse, rfl⟩ : hasResponseTx = true ∧ item = .error error := by
      simpa [messageActions] using h
    exact ⟨hresponse, rfl, by simp⟩
  · simp [messageActions] at h
  · have hrecord : .respond item ∉ recordActions hasState inputTxs messageIndex m := by
      rw [recordActions]
      cases m.choices.head? <;> simp
    have hitem : hasResponseTx = true ∧ item = .ok (some m) := by
      simp only [messageActions, List.mem_append] at h
      rcases h with h | h
      · simpa using h
      · split at h
        · simp at h
        · exact absurd h hrecord
    obtain ⟨hresponse, rfl⟩ := hitem
    exact ⟨hresponse, rfl, by simp⟩

/-- The consumer responds with what it receives, except for the completion signal, and
only if it has a response channel. -/
theorem received_of_respond {hasState : Bool} {inputTxs : List ChoiceIndex} {hasResponseTx : Bool}
    {stream : List (Item Error ChatCompletionChunk)} {item : Item Error ChatCompletionChunk}
    (h : .respond item ∈ processChatCompletionStream hasState inputTxs hasResponseTx stream) :
    hasResponseTx = true ∧ item ∈ stream ∧ item ≠ .ok none :=
  received_of_respond_mem_flatMap (fun _ => respond_mem_messageActions) h

/-- While output is detected, only the main task responds, and the message completed by
whole-document detection has no choice. -/
structure Detects (s : ChatStreaming) : Prop where
  silent : ∀ item, .respond item ∉ s.consumer
  wholeDoc : ∀ m, s.stage = .detectingWholeDoc m → m.choices = []

namespace Detects

variable {request : StreamingRequest ChatCompletionChunk} {s t : ChatStreaming}

theorem startDetection (request : StreamingRequest ChatCompletionChunk)
    (stream : List (Item Error ChatCompletionChunk)) (batches : List (Except Error Batch)) :
    Detects (startDetection request stream batches) where
  silent item hitem := by simpa using (received_of_respond hitem).1
  wholeDoc := by simp [ChatStreaming.startDetection]

theorem sent_perform (h : Detects s) {action : ConsumerAction ChatCompletionChunk}
    {consumer : List (ConsumerAction ChatCompletionChunk)}
    (hconsumer : s.consumer = action :: consumer) :
    (s.task.perform action).sent = s.task.sent :=
  s.task.sent_perform_of_silent (hconsumer ▸ h.silent)

theorem of_stage (h : Detects s) (hconsumer : t.consumer = s.consumer)
    (hstage : ∀ m, t.stage ≠ .detectingWholeDoc m) : Detects t where
  silent := hconsumer ▸ h.silent
  wholeDoc m hm := absurd hm (hstage m)

theorem stepMain (h : Detects s) (hstep : MainStep request s t) : Detects t := by
  cases hstep with
  | @forwarded detecting =>
    refine h.of_stage rfl ?_
    cases detecting <;> simp [goto]
  | wholeDocStarted =>
    refine ⟨h.silent, ?_⟩
    intro m heq
    obtain rfl := ChatStage.detectingWholeDoc.inj heq
    rfl
  | _ => exact h.of_stage rfl (by simp [goto, fail])

theorem step {a : ChatLabel} (h : Detects s) (hstep : s.step request a = some t) : Detects t := by
  cases a with
  | consumer =>
    obtain ⟨action, consumer, hconsumer, -, rfl⟩ := exists_of_stepConsumer hstep
    exact ⟨fun item hitem => h.silent item (by simp [hconsumer, hitem]), h.wholeDoc⟩
  | main => exact h.stepMain (mainStep_of_stepMain hstep)
  | timeout =>
    obtain ⟨batch, -, ⟨-, error, rfl⟩ | ⟨-, rfl⟩⟩ := exists_of_stepTimeout hstep
    · exact h.of_stage rfl (by simp [goto, fail])
    · exact h.of_stage rfl (by simp [goto])

end Detects

/-! ### Requests -/

/-- `handle_streaming`, with the batches that the batch stream will yield. -/
def start (request : StreamingRequest ChatCompletionChunk) (batches : List (Except Error Batch)) :
    ChatStreaming :=
  match request.prepare [.textContents, .textChat] with
  | .error (.responded response) => { task := { sent := response }, stage := .finished }
  | .error .panicked => { stage := .panicked }
  | .ok stream =>
    if request.outputDetectors.isEmpty then
      { consumer := processChatCompletionStream false [] true stream, stage := .forwarding false }
    else if request.chunkDetectors.isEmpty then
      { consumer := processChatCompletionStream true [] true stream, stage := .forwarding true }
    else startDetection request stream batches

/-- A message of choice 0. -/
def textMessage (content : Option String) (finishReason : Option String) :
    Item Error ChatCompletionChunk :=
  .ok (some { id := "chat", choices := [{ delta := { content }, finishReason }] })

end ChatStreaming

end GuardrailsOrchestrator
