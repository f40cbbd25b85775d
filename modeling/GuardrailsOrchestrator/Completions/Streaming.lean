import GuardrailsOrchestrator.Streaming

/-!
# Streaming completions

The (legacy) completions endpoint with streaming. It is built like the chat endpoint, with
these differences: a choice that never had text gets a placeholder on its input channel
when the generation stream has ended; a choice that finishes without text sets a flag,
which adds a warning to the final message; the main task does not wait for the entry of a
choice; the finish reason is looked for once, after the last batch; and the error branches
leave the completion signal to the caller.

## Main definitions

* `processCompletionStream` — the effects of the consumer
* `outputDetectionResponse`, `lastMessage` — the messages made from batches
* `CompletionStreaming.step` — one step of the consumer or of the main task
* `CompletionStreaming.start` — the task of a request
-/

namespace GuardrailsOrchestrator

open ResponseProtocol

/-! ### Consuming the generation stream -/

namespace CompletionStreaming

/-- What is done with the text of a choice that has an input channel: a choice without text
is not sent to the detection pipeline, and is flagged if it finishes. -/
def inputActions (hasFlag : Bool) (messageIndex : ℕ) (choice : CompletionChoice) :
    List (ConsumerAction Completion) :=
  if choice.text ≠ "" then [.sendInput (choice.index, .ok (messageIndex, choice.text))]
  else if choice.finishReason.isSome ∧ hasFlag then [.setEmptyOutputDetected]
  else []

/-- The effects of a message on the completion state, the input channels and the flag. Only
the first choice of a message counts. -/
def recordActions (hasState : Bool) (inputTxs : List ChoiceIndex) (hasFlag : Bool)
    (messageIndex : ℕ) (completion : Completion) : List (ConsumerAction Completion) :=
  (if messageIndex = 0 ∧ hasState then
    [.setMetadata ⟨completion.id, completion.created, completion.model⟩] else []) ++
  match completion.choices.head? with
  | some choice =>
    (if hasState then [.insertCompletion choice.index messageIndex completion] else []) ++
    (if choice.index ∈ inputTxs then inputActions hasFlag messageIndex choice else [])
  | none => []

/-- The effects of receiving the item of index `messageIndex`. -/
def messageActions (hasState : Bool) (inputTxs : List ChoiceIndex) (hasResponseTx hasFlag : Bool)
    (messageIndex : ℕ) : Item Error Completion → List (ConsumerAction Completion)
  | .ok (some completion) =>
    (if hasResponseTx then [.respond (.ok (some completion))] else []) ++
      match completion.usage, completion.choices with
      -- a message with usage and without choices only sets the usage
      | some usage, [] => if hasState then [.setUsage usage] else []
      | _, _ => recordActions hasState inputTxs hasFlag messageIndex completion
  | .ok none => []
  -- an error is passed on, and the loop goes on
  | .error error =>
    (if hasResponseTx then [.respond (.error error)] else []) ++
      inputTxs.map fun choiceIndex => .sendInput (choiceIndex, .error error)

/-- The choices whose input channels have received text. -/
def choicesWithData (stream : List (Item Error Completion)) : List ChoiceIndex :=
  stream.filterMap fun
    | .ok (some completion) => completion.choices.head?.bind fun choice =>
      if choice.text ≠ "" then some choice.index else none
    | _ => none

/-- The effects of `process_completion_stream` on a stream: those of its items, and then a
placeholder for every input channel that has received no text. -/
def processCompletionStream (hasState : Bool) (inputTxs : List ChoiceIndex)
    (hasResponseTx hasFlag : Bool) (stream : List (Item Error Completion)) :
    List (ConsumerAction Completion) :=
  (stream.zipIdx.flatMap fun (item, messageIndex) =>
    messageActions hasState inputTxs hasResponseTx hasFlag messageIndex item) ++
  (inputTxs.filter (· ∉ choicesWithData stream)).map fun choiceIndex =>
    .sendInput (choiceIndex, .ok (0, ""))

/-- Only the first of the effects of a message is a response. -/
theorem respond_mem_messageActions {hasState : Bool} {inputTxs : List ChoiceIndex}
    {hasResponseTx hasFlag : Bool} {messageIndex : ℕ} {item received : Item Error Completion}
    (h : .respond item ∈
      messageActions hasState inputTxs hasResponseTx hasFlag messageIndex received) :
    hasResponseTx = true ∧ item = received ∧ item ≠ .ok none := by
  rcases received with error | (_ | m)
  · obtain ⟨hresponse, rfl⟩ : hasResponseTx = true ∧ item = .error error := by
      simpa [messageActions] using h
    exact ⟨hresponse, rfl, by simp⟩
  · simp [messageActions] at h
  · have hrecord : .respond item ∉ recordActions hasState inputTxs hasFlag messageIndex m := by
      rw [recordActions]
      cases m.choices.head? with
      | none => simp
      | some choice =>
        simp only [inputActions]
        split_ifs <;> simp
    have hitem : hasResponseTx = true ∧ item = .ok (some m) := by
      simp only [messageActions, List.mem_append] at h
      rcases h with h | h
      · simpa using h
      · -- the usage is set without a response, and so is everything that is recorded
        split at h
        · simp at h
        · exact absurd h hrecord
    obtain ⟨hresponse, rfl⟩ := hitem
    exact ⟨hresponse, rfl, by simp⟩

/-- The consumer responds with what it receives, except for the completion signal, and
only if it has a response channel. -/
theorem received_of_respond {hasState : Bool} {inputTxs : List ChoiceIndex}
    {hasResponseTx hasFlag : Bool} {stream : List (Item Error Completion)}
    {item : Item Error Completion}
    (h : .respond item ∈ processCompletionStream hasState inputTxs hasResponseTx hasFlag stream) :
    hasResponseTx = true ∧ item ∈ stream ∧ item ≠ .ok none := by
  rw [processCompletionStream, List.mem_append] at h
  -- the placeholders go to the input channels
  rcases h with h | h
  · exact received_of_respond_mem_flatMap (fun _ => respond_mem_messageActions) h
  · simp at h

end CompletionStreaming

/-! ### Messages made from batches -/

/-- The text of a message. -/
def Completion.text (completion : Completion) : String :=
  (completion.choices.head?.map (·.text)).getD ""

/-- The finish reason of a message. -/
def Completion.finishReason (completion : Completion) : Option String :=
  completion.choices.head?.bind (·.finishReason)

/-- The message with its first choice changed. -/
def Completion.modifyChoice (completion : Completion) (f : CompletionChoice → CompletionChoice) :
    Completion :=
  { completion with choices := completion.choices.modifyHead f }

namespace CompletionStreaming

/-- The log probabilities of the first choices, put together. -/
def mergeLogprobs (completions : List Completion) : Option CompletionLogprobs :=
  let logprobs := completions.filterMap fun completion =>
    completion.choices.head?.bind (·.logprobs)
  let merged : CompletionLogprobs :=
    { tokens := logprobs.flatMap (·.tokens)
      tokenLogprobs := logprobs.flatMap (·.tokenLogprobs)
      topLogprobs := logprobs.flatMap (·.topLogprobs)
      textOffset := logprobs.flatMap (·.textOffset) }
  if !merged.tokens.isEmpty || !merged.tokenLogprobs.isEmpty || !merged.topLogprobs.isEmpty ||
      !merged.textOffset.isEmpty then some merged else none

/-- The messages of a choice in the range of a chunk. -/
def completionsOf (completions : OrderedMap ℕ Completion) (chunk : Chunk) : List Completion :=
  (completions.range chunk.inputStartIndex chunk.inputEndIndex).map (·.2)

/-- The last message of a chunk with the text of the chunk, the log probabilities of all
its messages, and the detections on it. -/
def withDetections (completion : Completion) (logprobs : Option CompletionLogprobs)
    (choiceIndex : ChoiceIndex) (chunk : Chunk) (detections : List Detection) : Completion :=
  { completion.modifyChoice fun choice => { choice with text := chunk.text, logprobs } with
    warnings := if detections.isEmpty then completion.warnings
      else [⟨.unsuitableOutput, unsuitableOutputMessage⟩]
    detections := some (.ofChoice choiceIndex detections) }

/-- The message for a batch, made from the last message of the choice in the chunk's
range. A range that ends before it starts panics. -/
def outputDetectionResponse (completions : OrderedMap ℕ Completion) (choiceIndex : ChoiceIndex)
    (chunk : Chunk) (detections : List Detection) : Option (Except Error Completion) :=
  if chunk.inputEndIndex < chunk.inputStartIndex then none
  else match (completionsOf completions chunk).getLast? with
    | some completion =>
      some (.ok (withDetections completion (mergeLogprobs (completionsOf completions chunk))
        choiceIndex chunk detections))
    | none => some (.error (.other "no completions found for chunk"))

/-- The last message of a choice, if the last batch did not end in it. -/
def lastMessage (last : ℕ × Completion) (endIndex : ℕ) : Option Completion :=
  -- a message without text is stored but not sent to the pipeline, so no batch ends in it
  if last.1 ≠ endIndex then some last.2 else none

section Messages

variable {completions : OrderedMap ℕ Completion} {choiceIndex : ChoiceIndex} {chunk : Chunk}
  {detections : List Detection} {m : Completion}

/-- A response is made from the last message in the chunk's range. -/
theorem exists_of_outputDetectionResponse
    (h : outputDetectionResponse completions choiceIndex chunk detections = some (.ok m)) :
    ∃ stored, (completionsOf completions chunk).getLast? = some stored ∧
      m = withDetections stored (mergeLogprobs (completionsOf completions chunk)) choiceIndex chunk
        detections := by
  rw [outputDetectionResponse] at h
  split_ifs at h
  split at h
  · rename_i stored hlast
    exact ⟨stored, hlast, (Except.ok.inj (Option.some.inj h)).symm⟩
  · simp at h

/-- Some message of the choice is stored if a message for a batch can be built. -/
theorem entries_ne_nil_of_outputDetectionResponse
    (h : outputDetectionResponse completions choiceIndex chunk detections = some (.ok m)) :
    completions.entries ≠ [] := by
  obtain ⟨stored, hlast, -⟩ := exists_of_outputDetectionResponse h
  obtain ⟨e, he, -⟩ := List.mem_map.mp (List.mem_of_getLast? hlast)
  exact List.ne_nil_of_mem (OrderedMap.mem_range.mp he).1

end Messages

end CompletionStreaming

/-! ### The task -/

/-- The indices of the batches that were answered, by choice. -/
abbrev BatchTracker := OrderedMap ChoiceIndex (List (ℕ × ℕ))

/-- Where the main task is. -/
inductive CompletionStage where
  /-- Creating the detection streams of the remaining choices. -/
  | creatingStreams (choices : List ChoiceIndex)
  /-- In `detection_batch_stream.next().await`. -/
  | awaitingBatch
  /-- In `output_detection_response`. -/
  | building (batch : Batch)
  /-- After the batch loop, with the choices whose last message has yet to be looked up. -/
  | sendingLast (choices : List (ChoiceIndex × List (ℕ × ℕ)))
  /-- Consuming the generation stream itself; output is detected afterwards or not. -/
  | forwarding (detecting : Bool)
  /-- At the end of `handle_output_detection`. -/
  | finalizing
  /-- In `handle_whole_doc_detection`, with the message to be completed. -/
  | detectingWholeDoc (completion : Completion)
  /-- Back in `handle_streaming`. -/
  | completing
  | finished
  | panicked
  /-- Panicked before the consumer is spawned. -/
  | aborted
  deriving DecidableEq

/-- Both tasks. -/
structure CompletionStreaming where
  task : StreamingTask Completion := {}
  /-- What the consumer has yet to do. -/
  consumer : List (ConsumerAction Completion) := []
  /-- What the batch stream has yet to yield. -/
  batches : List (Except Error Batch) := []
  batchTracker : BatchTracker := .empty
  stage : CompletionStage

/-- Who moves next. -/
inductive CompletionLabel where
  | consumer
  | main
  /-- The main task looks up the last message of a choice. The choices are tracked in a hash
  map, so they come in any order. -/
  | last (choiceIndex : ChoiceIndex)
  deriving DecidableEq

namespace CompletionStreaming

/-- The messages of a choice, if it has an entry. -/
def completions (s : CompletionStreaming) (choiceIndex : ChoiceIndex) :
    Option (OrderedMap ℕ Completion) :=
  s.task.completionState.completions.get? choiceIndex

/-- Send items to the response channel. -/
def send (s : CompletionStreaming) (items : List (Item Error Completion)) : CompletionStreaming :=
  { s with task := { s.task with sent := s.task.sent ++ items } }

/-- Go on at another stage. -/
def goto (s : CompletionStreaming) (stage : CompletionStage) : CompletionStreaming :=
  { s with stage }

/-- Record the indices of an answered batch. -/
def track (s : CompletionStreaming) (batch : Batch) : CompletionStreaming :=
  { s with
    batchTracker := s.batchTracker.alter batch.1 fun entry =>
      entry.getD [] ++ [(batch.2.1.inputStartIndex, batch.2.1.inputEndIndex)] }

def emptyOutputWarning : CompletionDetectionWarning :=
  ⟨.emptyOutput, "One or more choices have no content. " ++
    "Output detection was not executed for those choices"⟩

/-- The message at the end of `handle_output_detection`, before whole-document detections
are added. -/
def finalMessage (task : StreamingTask Completion) (metadata : CompletionMetadata) : Completion :=
  { id := metadata.id
    created := metadata.created
    model := metadata.model
    usage := task.completionState.usage
    warnings := if task.emptyOutputDetected then [emptyOutputWarning] else [] }

section Step

variable (request : StreamingRequest Completion)

/-- Whether a final message is sent. -/
def sendsFinal (s : CompletionStreaming) : Bool :=
  !request.wholeDocDetectors.isEmpty || s.task.completionState.usage.isSome ||
    s.task.emptyOutputDetected

/-- A step of the main task, apart from looking up last messages. -/
def stepMain (s : CompletionStreaming) : Option CompletionStreaming :=
  match s.stage with
  | .creatingStreams [] => some (s.goto .awaitingBatch)
  | .creatingStreams (choiceIndex :: choices) =>
    match request.detectionStreams choiceIndex with
    | .ok () => some (s.goto (.creatingStreams choices))
    -- the error is sent, and the task goes on with the other choices
    | .error (.error error) => some ((s.send [.error error]).goto (.creatingStreams choices))
    | .error .panic => some (s.goto .aborted)
  | .awaitingBatch =>
    match s.batches with
    | [] => some (s.goto (.sendingLast s.batchTracker.entries))
    -- the loop returns at once, and no last message is looked up
    | .error error :: batches => some (({ s with batches }.send [.error error]).goto .finalizing)
    | .ok batch :: batches => some ({ s with batches }.goto (.building batch))
  | .building batch =>
    -- an entry that does not exist is unwrapped
    match (s.completions batch.1).bind fun completions =>
      outputDetectionResponse completions batch.1 batch.2.1 batch.2.2 with
    | none => some (s.goto .panicked)
    | some (.ok completion) =>
      some (((s.track batch).send [.ok (some completion)]).goto .awaitingBatch)
    | some (.error error) => some ((s.send [.error error]).goto .finalizing)
  | .sendingLast [] => some (s.goto .finalizing)
  | .sendingLast (_ :: _) => none
  | .forwarding detecting =>
    match s.consumer with
    | [] => some (s.goto (if detecting then .finalizing else .completing))
    | _ :: _ => none
  | .finalizing =>
    if s.sendsFinal request then
      match s.task.completionState.metadata with
      | none => some (s.goto .panicked)
      | some metadata =>
        let completion := finalMessage s.task metadata
        if !request.wholeDocDetectors.isEmpty then
          some (s.goto (.detectingWholeDoc completion))
        else some ((s.send [.ok (some completion)]).goto .completing)
    else some (s.goto .completing)
  | .detectingWholeDoc completion =>
    match request.wholeDocDetection s.task.completionState with
    | none => some (s.goto .panicked)
    -- the warnings of whole-document detection replace the one for empty output
    | some (.ok (detections, warnings)) =>
      some ((s.send [.ok (some { completion with
        detections := some detections, warnings })]).goto .completing)
    | some (.error error) => some ((s.send [.error error]).goto .completing)
  | .completing => some ((s.send [.ok none]).goto .finished)
  | .finished | .panicked | .aborted => none

/-- Look up the last message of a tracked choice and the end of its last batch. All three
are unwrapped. -/
def stepLast (s : CompletionStreaming) (choiceIndex : ChoiceIndex) : Option CompletionStreaming :=
  match s.stage with
  | .sendingLast choices =>
    (choices.lookup choiceIndex).map fun indices =>
      match (s.completions choiceIndex).bind (·.lastKeyValue), indices.getLast? with
      | some last, some (_, endIndex) =>
        (s.send ((lastMessage last endIndex).toList.map fun m => .ok (some m))).goto
          (.sendingLast (choices.filter (·.1 ≠ choiceIndex)))
      | _, _ => s.goto .panicked
  | _ => none

/-- A step of the consumer. It is spawned once the detection streams are created. -/
def stepConsumer (s : CompletionStreaming) : Option CompletionStreaming :=
  match s.stage, s.consumer with
  | .creatingStreams _, _ | .aborted, _ => none
  | _, [] => none
  | _, action :: consumer => some { s with consumer, task := s.task.perform action }

/-- One step. -/
def step (s : CompletionStreaming) : CompletionLabel → Option CompletionStreaming
  | .consumer => s.stepConsumer
  | .main => s.stepMain request
  | .last choiceIndex => s.stepLast choiceIndex

end Step

/-! ### What a step can do -/

section Cases

variable {request : StreamingRequest Completion} {s t : CompletionStreaming}

/-- What `output_detection_response` returns for a batch, or `none` if it panics. -/
def response (s : CompletionStreaming) (batch : Batch) : Option (Except Error Completion) :=
  (s.completions batch.1).bind fun completions =>
    outputDetectionResponse completions batch.1 batch.2.1 batch.2.2

/-- The steps of the main task, with what each requires. -/
inductive MainStep (request : StreamingRequest Completion) (s : CompletionStreaming) :
    CompletionStreaming → Prop
  | streamsCreated (hstage : s.stage = .creatingStreams []) :
    MainStep request s (s.goto .awaitingBatch)
  | streamCreated {choiceIndex choices}
      (hstage : s.stage = .creatingStreams (choiceIndex :: choices))
    (hcreated : request.detectionStreams choiceIndex = .ok ()) :
    MainStep request s (s.goto (.creatingStreams choices))
  -- an error is sent, and the next detection stream is created all the same
  | streamFailed {choiceIndex choices error}
    (hstage : s.stage = .creatingStreams (choiceIndex :: choices))
    (hfailed : request.detectionStreams choiceIndex = .error (.error error)) :
    MainStep request s ((s.send [.error error]).goto (.creatingStreams choices))
  | streamPanicked {choiceIndex choices}
    (hstage : s.stage = .creatingStreams (choiceIndex :: choices))
    (hpanicked : request.detectionStreams choiceIndex = .error .panic) :
    MainStep request s (s.goto .aborted)
  | batchesEnded (hstage : s.stage = .awaitingBatch) (hbatches : s.batches = []) :
    MainStep request s (s.goto (.sendingLast s.batchTracker.entries))
  -- the function returns, and its caller goes on
  | batchFailed {error batches} (hstage : s.stage = .awaitingBatch)
    (hbatches : s.batches = .error error :: batches) :
    MainStep request s (({ s with batches }.send [.error error]).goto .finalizing)
  | batchReceived {batch batches} (hstage : s.stage = .awaitingBatch)
    (hbatches : s.batches = .ok batch :: batches) :
    MainStep request s ({ s with batches }.goto (.building batch))
  | responsePanicked {batch} (hstage : s.stage = .building batch)
    (hresponse : s.response batch = none) : MainStep request s (s.goto .panicked)
  | responseSent {batch m} (hstage : s.stage = .building batch)
    (hresponse : s.response batch = some (.ok m)) :
    MainStep request s (((s.track batch).send [.ok (some m)]).goto .awaitingBatch)
  | responseFailed {batch error} (hstage : s.stage = .building batch)
    (hresponse : s.response batch = some (.error error)) :
    MainStep request s ((s.send [.error error]).goto .finalizing)
  -- the source visits the tracked choices in the order of a hash map
  | lastSent (hstage : s.stage = .sendingLast []) : MainStep request s (s.goto .finalizing)
  | forwarded {detecting} (hstage : s.stage = .forwarding detecting) (hconsumer : s.consumer = []) :
    MainStep request s (s.goto (if detecting then .finalizing else .completing))
  | finalSkipped (hstage : s.stage = .finalizing) (hfinal : s.sendsFinal request = false) :
    MainStep request s (s.goto .completing)
  | metadataMissing (hstage : s.stage = .finalizing) (hfinal : s.sendsFinal request = true)
    (hmetadata : s.task.completionState.metadata = none) : MainStep request s (s.goto .panicked)
  | wholeDocStarted {metadata} (hstage : s.stage = .finalizing)
    (hfinal : s.sendsFinal request = true)
    (hmetadata : s.task.completionState.metadata = some metadata) :
    MainStep request s (s.goto (.detectingWholeDoc (finalMessage s.task metadata)))
  | finalSent {metadata} (hstage : s.stage = .finalizing) (hfinal : s.sendsFinal request = true)
    (hmetadata : s.task.completionState.metadata = some metadata) :
    MainStep request s ((s.send [.ok (some (finalMessage s.task metadata))]).goto .completing)
  | wholeDocPanicked {m} (hstage : s.stage = .detectingWholeDoc m)
    (hresult : request.wholeDocDetection s.task.completionState = none) :
    MainStep request s (s.goto .panicked)
  | wholeDocSent {m detections warnings} (hstage : s.stage = .detectingWholeDoc m)
    (hresult : request.wholeDocDetection s.task.completionState =
      some (.ok (detections, warnings))) :
    MainStep request s
      ((s.send [.ok (some { m with detections := some detections, warnings })]).goto .completing)
  | wholeDocFailed {m error} (hstage : s.stage = .detectingWholeDoc m)
    (hresult : request.wholeDocDetection s.task.completionState = some (.error error)) :
    MainStep request s ((s.send [.error error]).goto .completing)
  | completed (hstage : s.stage = .completing) :
    MainStep request s ((s.send [.ok none]).goto .finished)

theorem mainStep_of_finalizing (hstage : s.stage = .finalizing)
    (h : s.stepMain request = some t) : MainStep request s t := by
  simp only [stepMain, hstage] at h
  split at h
  · rename_i hfinal
    split at h
    · exact Option.some.inj h ▸ .metadataMissing hstage hfinal ‹_›
    · split at h
      · exact Option.some.inj h ▸ .wholeDocStarted hstage hfinal ‹_›
      · exact Option.some.inj h ▸ .finalSent hstage hfinal ‹_›
  · rename_i hfinal
    exact Option.some.inj h ▸ .finalSkipped hstage (by simpa using hfinal)

theorem mainStep_of_stepMain (h : s.stepMain request = some t) : MainStep request s t := by
  cases hstage : s.stage with
  | creatingStreams choices =>
    cases choices with
    | nil =>
      simp only [stepMain, hstage] at h
      exact Option.some.inj h ▸ .streamsCreated hstage
    | cons choiceIndex choices =>
      simp only [stepMain, hstage] at h
      split at h
      · exact Option.some.inj h ▸ .streamCreated hstage ‹_›
      · exact Option.some.inj h ▸ .streamFailed hstage ‹_›
      · exact Option.some.inj h ▸ .streamPanicked hstage ‹_›
  | awaitingBatch =>
    simp only [stepMain, hstage] at h
    split at h
    · exact Option.some.inj h ▸ .batchesEnded hstage ‹_›
    · exact Option.some.inj h ▸ .batchFailed hstage ‹_›
    · exact Option.some.inj h ▸ .batchReceived hstage ‹_›
  | building batch =>
    simp only [stepMain, hstage] at h
    split at h
    · exact Option.some.inj h ▸ .responsePanicked hstage ‹_›
    · exact Option.some.inj h ▸ .responseSent hstage ‹_›
    · exact Option.some.inj h ▸ .responseFailed hstage ‹_›
  | sendingLast choices =>
    cases choices with
    | nil =>
      simp only [stepMain, hstage] at h
      exact Option.some.inj h ▸ .lastSent hstage
    | cons choice choices => simp [stepMain, hstage] at h
  | forwarding detecting =>
    simp only [stepMain, hstage] at h
    split at h
    · exact Option.some.inj h ▸ .forwarded hstage ‹_›
    · simp at h
  | finalizing => exact mainStep_of_finalizing hstage h
  | detectingWholeDoc m =>
    simp only [stepMain, hstage] at h
    split at h
    · exact Option.some.inj h ▸ .wholeDocPanicked hstage ‹_›
    · exact Option.some.inj h ▸ .wholeDocSent hstage ‹_›
    · exact Option.some.inj h ▸ .wholeDocFailed hstage ‹_›
  | completing =>
    simp only [stepMain, hstage] at h
    exact Option.some.inj h ▸ .completed hstage
  | finished | panicked | aborted => simp [stepMain, hstage] at h

theorem exists_of_stepConsumer (h : s.stepConsumer = some t) :
    ∃ action consumer, s.consumer = action :: consumer ∧
      ((∀ choices, s.stage ≠ .creatingStreams choices) ∧ s.stage ≠ .aborted) ∧
        t = { s with consumer, task := s.task.perform action } := by
  rw [stepConsumer] at h
  split at h
  · simp at h
  · simp at h
  · simp at h
  · rename_i action consumer hconsumer hspawned haborted
    exact ⟨action, consumer, hconsumer, ⟨hspawned, haborted⟩, (Option.some.inj h).symm⟩

/-- Looking up a last message sends it or not, unless something is missing. -/
theorem exists_of_stepLast {choiceIndex : ChoiceIndex} (h : s.stepLast choiceIndex = some t) :
    ∃ choices indices, s.stage = .sendingLast choices ∧
      choices.lookup choiceIndex = some indices ∧
      (((s.completions choiceIndex).bind (·.lastKeyValue) = none ∨ indices = []) ∧
          t = s.goto .panicked ∨
        ∃ last endIndex, (s.completions choiceIndex).bind (·.lastKeyValue) = some last ∧
          indices.getLast?.map (·.2) = some endIndex ∧
          t = (s.send ((lastMessage last endIndex).toList.map fun m => .ok (some m))).goto
            (.sendingLast (choices.filter (·.1 ≠ choiceIndex)))) := by
  rw [stepLast] at h
  split at h
  · rename_i choices hstage
    obtain ⟨indices, hlookup, rfl⟩ := Option.map_eq_some_iff.mp h
    refine ⟨choices, indices, hstage, hlookup, ?_⟩
    split
    · rename_i last _ endIndex hlast hindices
      exact Or.inr ⟨last, endIndex, hlast, by rw [hindices, Option.map_some], rfl⟩
    · rename_i hnone
      refine Or.inl ⟨?_, rfl⟩
      by_contra hne
      obtain ⟨hfound, hindices⟩ := not_or.mp hne
      obtain ⟨last, hlast⟩ := Option.ne_none_iff_exists'.mp hfound
      exact hnone last _ (indices.getLast hindices).2 hlast (List.getLast?_eq_some_getLast hindices)
  · simp at h

end Cases

/-! ### While output is detected -/

/-- `handle_output_detection` with detectors that use a chunker. -/
def startDetection (request : StreamingRequest Completion)
    (stream : List (Item Error Completion)) (batches : List (Except Error Batch)) :
    CompletionStreaming :=
  { consumer := processCompletionStream true request.choices false true stream
    batches
    stage := .creatingStreams request.choices }

/-- While output is detected, only the main task responds, and the message completed by
whole-document detection has no choice. -/
structure Detects (s : CompletionStreaming) : Prop where
  silent : ∀ item, .respond item ∉ s.consumer
  wholeDoc : ∀ m, s.stage = .detectingWholeDoc m → m.choices = []

namespace Detects

variable {request : StreamingRequest Completion} {s t : CompletionStreaming}

theorem startDetection (request : StreamingRequest Completion)
    (stream : List (Item Error Completion)) (batches : List (Except Error Batch)) :
    Detects (startDetection request stream batches) where
  silent item hitem := by simpa using (received_of_respond hitem).1
  wholeDoc := by simp [CompletionStreaming.startDetection]

theorem sent_perform (h : Detects s) {action : ConsumerAction Completion}
    {consumer : List (ConsumerAction Completion)} (hconsumer : s.consumer = action :: consumer) :
    (s.task.perform action).sent = s.task.sent :=
  s.task.sent_perform_of_silent (hconsumer ▸ h.silent)

theorem of_stage (h : Detects s) (hconsumer : t.consumer = s.consumer)
    (hstage : ∀ m, t.stage ≠ .detectingWholeDoc m) : Detects t where
  silent := hconsumer ▸ h.silent
  wholeDoc m hm := absurd hm (hstage m)

theorem stepMain (h : Detects s) (hstep : MainStep request s t) : Detects t := by
  cases hstep with
  | @forwarded detecting =>
    refine h.of_stage rfl ?_
    cases detecting <;> simp [goto]
  | wholeDocStarted =>
    refine ⟨h.silent, ?_⟩
    intro m heq
    obtain rfl := CompletionStage.detectingWholeDoc.inj heq
    rfl
  | _ => exact h.of_stage rfl (by simp [goto])

theorem step {a : CompletionLabel} (h : Detects s) (hstep : s.step request a = some t) :
    Detects t := by
  cases a with
  | consumer =>
    obtain ⟨action, consumer, hconsumer, -, rfl⟩ := exists_of_stepConsumer hstep
    exact ⟨fun item hitem => h.silent item (by simp [hconsumer, hitem]), h.wholeDoc⟩
  | main => exact h.stepMain (mainStep_of_stepMain hstep)
  | last choiceIndex =>
    obtain ⟨choices, indices, -, -, ⟨-, rfl⟩ | ⟨last, endIndex, -, -, rfl⟩⟩ :=
      exists_of_stepLast hstep
    · exact h.of_stage rfl (by simp [goto])
    · exact h.of_stage rfl (by simp [goto])

end Detects

/-- The consumer is spawned once the detection streams of all choices are created. Before that,
nothing is sent to the input channels. -/
def Spawns (request : StreamingRequest Completion) (s : CompletionStreaming) : Prop :=
  match s.stage with
  | .creatingStreams choices => s.task.inputs = [] ∧ choices ⊆ request.choices ∧
    ∀ choiceIndex ∈ request.choices, choiceIndex ∉ choices →
      request.detectionStreams choiceIndex ≠ .error .panic
  | .aborted => s.task.inputs = [] ∧ ¬ request.CreatesStreams
  | _ => request.CreatesStreams

namespace Spawns

variable {request : StreamingRequest Completion} {s t : CompletionStreaming}

theorem startDetection (request : StreamingRequest Completion)
    (stream : List (Item Error Completion)) (batches : List (Except Error Batch)) :
    Spawns request (startDetection request stream batches) :=
  ⟨rfl, List.Subset.refl _, fun _ h hnot => absurd h hnot⟩

/-- Once the streams are created, nothing undoes it. -/
theorem of_createsStreams (h : request.CreatesStreams)
    (hstage : ∀ choices, s.stage ≠ .creatingStreams choices) (haborted : s.stage ≠ .aborted) :
    Spawns request s := by
  rw [Spawns]
  split
  · exact absurd ‹_› (hstage _)
  · exact absurd ‹_› haborted
  · exact h

theorem createsStreams (h : Spawns request s)
    (hstage : ∀ choices, s.stage ≠ .creatingStreams choices) (haborted : s.stage ≠ .aborted) :
    request.CreatesStreams := by
  rw [Spawns] at h
  split at h
  · exact absurd ‹_› (hstage _)
  · exact absurd ‹_› haborted
  · exact h

/-- The streams of one more choice are created, or an error is sent. -/
theorem next {choiceIndex : ChoiceIndex} {choices : List ChoiceIndex} (h : Spawns request s)
    (hstage : s.stage = .creatingStreams (choiceIndex :: choices))
    (hcreated : request.detectionStreams choiceIndex ≠ .error .panic)
    (ht : t.stage = .creatingStreams choices) (hinputs : t.task.inputs = s.task.inputs) :
    Spawns request t := by
  rw [Spawns, hstage] at h
  rw [Spawns, ht, hinputs]
  refine ⟨h.1, List.subset_of_cons_subset h.2.1, ?_⟩
  intro c hc hnot
  by_cases heq : c = choiceIndex
  · exact heq ▸ hcreated
  · exact h.2.2 c hc (by simp [heq, hnot])

theorem stepMain (h : Spawns request s) (hstep : MainStep request s t) : Spawns request t := by
  cases hstep with
  | streamsCreated hstage =>
    rw [Spawns, hstage] at h
    exact fun c hc => h.2.2 c hc List.not_mem_nil
  | streamCreated hstage hcreated => exact h.next hstage (by simp [hcreated]) rfl rfl
  | streamFailed hstage hfailed => exact h.next hstage (by simp [hfailed]) rfl rfl
  | streamPanicked hstage hpanicked =>
    rw [Spawns, hstage] at h
    exact ⟨h.1, fun hcreates => hcreates _ (h.2.1 List.mem_cons_self) hpanicked⟩
  | @forwarded detecting hstage =>
    refine of_createsStreams (h.createsStreams (by simp [hstage]) (by simp [hstage])) ?_ ?_
    · cases detecting <;> simp [goto]
    · cases detecting <;> simp [goto]
  | batchesEnded hstage | batchFailed hstage | batchReceived hstage | responsePanicked hstage
  | responseSent hstage | responseFailed hstage | lastSent hstage | finalSkipped hstage
  | metadataMissing hstage | wholeDocStarted hstage | finalSent hstage | wholeDocPanicked hstage
  | wholeDocSent hstage | wholeDocFailed hstage | completed hstage =>
    exact of_createsStreams (h.createsStreams (by simp [hstage]) (by simp [hstage]))
      (by simp [goto]) (by simp [goto])

theorem step {a : CompletionLabel} (h : Spawns request s) (hstep : s.step request a = some t) :
    Spawns request t := by
  cases a with
  | consumer =>
    obtain ⟨action, consumer, -, ⟨hstage, haborted⟩, rfl⟩ := exists_of_stepConsumer hstep
    exact of_createsStreams (h.createsStreams hstage haborted) hstage haborted
  | main => exact h.stepMain (mainStep_of_stepMain hstep)
  | last choiceIndex =>
    obtain ⟨choices, indices, hstage, -, ⟨-, rfl⟩ | ⟨last, endIndex, -, -, rfl⟩⟩ :=
      exists_of_stepLast hstep
    · exact of_createsStreams (h.createsStreams (by simp [hstage]) (by simp [hstage]))
        (by simp [goto]) (by simp [goto])
    · exact of_createsStreams (h.createsStreams (by simp [hstage]) (by simp [hstage]))
        (by simp [goto]) (by simp [goto])

/-- Something was sent to an input channel only if the consumer was spawned. -/
theorem createsStreams_of_mem_inputs (h : Spawns request s) {input : InputItem}
    (hinput : input ∈ s.task.inputs) : request.CreatesStreams := by
  rw [Spawns] at h
  split at h
  · simp [h.1] at hinput
  · simp [h.1] at hinput
  · exact h

theorem stage_ne_aborted (h : Spawns request s) (hcreates : request.CreatesStreams) :
    s.stage ≠ .aborted := by
  intro haborted
  rw [Spawns, haborted] at h
  exact h.2 hcreates

end Spawns

/-! ### Requests -/

/-- `handle_streaming`, with the batches that the batch stream will yield. -/
def start (request : StreamingRequest Completion) (batches : List (Except Error Batch)) :
    CompletionStreaming :=
  match request.prepare [.textContents, .textGeneration] with
  | .error (.responded response) => { task := { sent := response }, stage := .finished }
  | .error .panicked => { stage := .panicked }
  | .ok stream =>
    if request.outputDetectors.isEmpty then
      { consumer := processCompletionStream false [] true false stream
        stage := .forwarding false }
    else if request.chunkDetectors.isEmpty then
      { consumer := processCompletionStream true [] true true stream
        stage := .forwarding true }
    else
      { consumer := processCompletionStream true request.choices false true stream
        batches
        stage := .creatingStreams request.choices }

/-- With a detector that uses a chunker, output is detected while it is generated. -/
theorem start_eq_startDetection {request : StreamingRequest Completion}
    {stream : List (Item Error Completion)} (batches : List (Except Error Batch))
    (hprepare : request.prepare [.textContents, .textGeneration] = .ok stream)
    (hchunk : request.chunkDetectors.isEmpty = false) :
    start request batches = startDetection request stream batches := by
  have houtput : request.outputDetectors.isEmpty = false := by
    by_contra hempty
    have hnone := request.chunkDetectors_isEmpty (by simpa using hempty)
    simp [hchunk] at hnone
  simp only [start, hprepare, houtput, hchunk]
  rfl

end CompletionStreaming

end GuardrailsOrchestrator
