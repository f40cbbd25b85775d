import GuardrailsOrchestrator.Chat.Streaming

/-!
# Termination of the chat response

A response is messages, at most one error, and one completion signal at the end. The
error branches of the chat handler do not keep to this: those of the batch loop and of
whole-document detection send the completion signal themselves, and then return to a
caller that sends it again; those that only send an error return to a caller that may
send more messages. `Orderly` says of a step that it takes no such branch, and the main
result is that a task that has ended has terminated its response exactly when all its
steps were orderly.
-/

namespace GuardrailsOrchestrator

open ResponseProtocol Transition

namespace ChatStreaming

/-! ### Orderly steps -/

/-- The condition on a step of the main task. -/
def OrderlyMain (request : StreamingRequest ChatCompletionChunk) (s : ChatStreaming) :
    ChatStage → Prop
  -- creating detection streams fails at most once, and does not panic
  | .creatingStreams (choiceIndex :: _) => request.detectionStreams choiceIndex ≠ .error .panic ∧
    ((request.detectionStreams choiceIndex).isOk = false → hasError s.task.sent = false)
  -- the batch stream yields no error
  | .awaitingBatch => ∀ result ∈ s.batches.head?, result.isOk = true
  -- a message for the batch can be built, and no error has been sent before it
  | .building batch => hasError s.task.sent = false ∧
    ∀ completions ∈ s.completions batch.1, batch.2.1.inputStartIndex ≤ batch.2.1.inputEndIndex ∧
      chatCompletionsOf completions batch.2.1 ≠ []
  -- if a final message is due, the metadata are known and no error has been sent before it
  | .finalizing => s.sendsFinal request = true →
    s.task.completionState.metadata.isSome ∧ hasError s.task.sent = false
  -- whole-document detection succeeds
  | .detectingWholeDoc _ =>
    ∃ result ∈ request.wholeDocDetection s.task.completionState, result.isOk = true
  | _ => True

/-- Whether the main task builds the message for a batch. -/
def isBuilding : ChatStage → Bool
  | .building _ => true
  | _ => false

/-- The condition on a step: no branch is taken that breaks the response. -/
def Orderly (request : StreamingRequest ChatCompletionChunk) (s : ChatStreaming) :
    ChatLabel → Prop
  -- nothing is forwarded after an error
  | .consumer => (nextResponse s.consumer).isSome → hasError s.task.sent = false
  | .main => s.OrderlyMain request s.stage
  -- the entry of a choice appears in time
  | .timeout => isBuilding s.stage = false

instance (request : StreamingRequest ChatCompletionChunk) (s : ChatStreaming) :
    ∀ stage, Decidable (s.OrderlyMain request stage)
  | .creatingStreams [] => inferInstanceAs (Decidable True)
  | .creatingStreams (_ :: _) => inferInstanceAs (Decidable (_ ∧ (_ → _)))
  | .awaitingBatch => inferInstanceAs (Decidable (∀ result ∈ s.batches.head?, _))
  | .building _ => inferInstanceAs (Decidable (_ ∧ ∀ completions ∈ s.completions _, _))
  | .checkingFinish _ => inferInstanceAs (Decidable True)
  | .forwarding _ => inferInstanceAs (Decidable True)
  | .finalizing => inferInstanceAs (Decidable (_ → _))
  | .detectingWholeDoc _ => inferInstanceAs (Decidable (∃ result ∈ _, _))
  | .completing => inferInstanceAs (Decidable True)
  | .finished => inferInstanceAs (Decidable True)
  | .panicked | .aborted => inferInstanceAs (Decidable True)

instance (request : StreamingRequest ChatCompletionChunk) (s : ChatStreaming) :
    ∀ a, Decidable (s.Orderly request a)
  | .consumer => inferInstanceAs (Decidable (_ → _))
  | .main => inferInstanceAs (Decidable (s.OrderlyMain request s.stage))
  | .timeout => inferInstanceAs (Decidable (_ = _))

/-! ### Where the task stands -/

/-- What the task has yet to send, by stage. After the message for a batch, another one
may follow, so an error must not come first. -/
def outlook : ChatStage → Outlook
  | .checkingFinish _ => .committed
  | .detectingWholeDoc _ => .committed
  | .finished => .done
  | .panicked | .aborted => .lost
  | _ => .running

/-- The two tasks as a machine that sends a response. -/
def responder (request : StreamingRequest ChatCompletionChunk) :
    Responder ChatStreaming ChatLabel Error ChatCompletionChunk where
  step := step request
  outlook s := outlook s.stage
  sent s := s.task.sent

/-- What holds in orderly and other runs: the consumer responds only while the main task
waits for it, and never with the completion signal; and no error comes between the message
for a batch and the check of the finish reason. -/
structure Consistent (s : ChatStreaming) : Prop where
  silent : ∀ item, .respond item ∈ s.consumer →
    item ≠ .ok none ∧ ∃ detecting, s.stage = .forwarding detecting
  checking : ∀ batch, s.stage = .checkingFinish batch → phase s.task.sent ≠ .failed

section Steps

variable {request : StreamingRequest ChatCompletionChunk} {s t : ChatStreaming}

/-- After an error and the completion signal, the main task sends the signal again. -/
theorem not_inOrder_fail (s : ChatStreaming) (error : Error) :
    ¬ (responder request).InOrder (s.fail error) :=
  Responder.not_inOrder_of_closed
    (List.append_assoc s.task.sent [.error error] [.ok none]).symm rfl

/-- The message for a batch can be built exactly when the range of the chunk is not
inverted and some message in it is stored. -/
theorem exists_outputDetectionResponse_iff {completions : OrderedMap ℕ ChatCompletionChunk}
    {choiceIndex : ChoiceIndex} {chunk : Chunk} {detections : List Detection} :
    (∃ m, outputDetectionResponse completions choiceIndex chunk detections = some (.ok m)) ↔
      chunk.inputStartIndex ≤ chunk.inputEndIndex ∧ chatCompletionsOf completions chunk ≠ [] := by
  constructor
  · rintro ⟨m, hm⟩
    obtain ⟨hrange, stored, -, hlast, -⟩ := exists_of_outputDetectionResponse hm
    refine ⟨hrange, ?_⟩
    intro hnil
    simp [hnil] at hlast
  · rintro ⟨hrange, hne⟩
    rw [outputDetectionResponse, if_neg (Nat.not_lt.mpr hrange),
      List.getLast?_eq_some_getLast hne]
    exact ⟨_, rfl⟩

/-- While the message for a batch is built, a step is orderly exactly when it sends one and
no error has been sent. -/
theorem orderlyMain_building_iff {batch : Batch} {completions : OrderedMap ℕ ChatCompletionChunk}
    (hstage : s.stage = .building batch) (hentry : s.completions batch.1 = some completions) :
    s.OrderlyMain request s.stage ↔ hasError s.task.sent = false ∧
      ∃ m, outputDetectionResponse completions batch.1 batch.2.1 batch.2.2 = some (.ok m) := by
  rw [hstage, OrderlyMain, exists_outputDetectionResponse_iff]
  simp [hentry]

theorem inOrder_iff_of_mainStep (hconsistent : Consistent s) (hstep : MainStep request s t) :
    (responder request).InOrder t ↔
      (responder request).InOrder s ∧ s.OrderlyMain request s.stage := by
  cases hstep with
  | streamsCreated hstage =>
    refine Iff.trans (Responder.inOrder_iff_of_sent_eq (congrArg outlook hstage) rfl rfl) ?_
    simp [OrderlyMain, hstage]
  | streamCreated hstage hcreated =>
    refine Iff.trans (Responder.inOrder_iff_of_sent_eq (congrArg outlook hstage) rfl rfl) ?_
    simp [OrderlyMain, hstage, hcreated, Except.toBool]
  | streamFailed hstage hfailed =>
    refine Iff.trans (Responder.inOrder_iff_of_send rfl (by simp) (congrArg outlook hstage) rfl) ?_
    simp [OrderlyMain, responder, hstage, hfailed, Except.toBool]
  | streamPanicked hstage hpanicked =>
    refine iff_of_false (Responder.not_inOrder_of_lost rfl) ?_
    simp [OrderlyMain, hstage, hpanicked]
  | batchesEnded hstage hbatches =>
    refine Iff.trans (Responder.inOrder_iff_of_sent_eq (congrArg outlook hstage) rfl rfl) ?_
    simp [OrderlyMain, hstage, hbatches]
  | batchFailed hstage hbatches =>
    refine iff_of_false (not_inOrder_fail _ _) ?_
    simp [OrderlyMain, hstage, hbatches, Except.toBool]
  | batchReceived hstage hbatches =>
    refine Iff.trans (Responder.inOrder_iff_of_sent_eq (congrArg outlook hstage) rfl rfl) ?_
    simp [OrderlyMain, hstage, hbatches, Except.toBool]
  | responsePanicked hstage hentry hresponse =>
    refine iff_of_false (Responder.not_inOrder_of_lost rfl) ?_
    rw [orderlyMain_building_iff hstage hentry, hresponse]
    simp
  | responseSent hstage hentry hresponse =>
    -- another message may follow the message for a batch
    refine Iff.trans (Responder.inOrder_iff_of_send_commit rfl (congrArg outlook hstage) rfl) ?_
    rw [orderlyMain_building_iff hstage hentry, hresponse]
    simp [responder]
  | responseFailed hstage hentry hresponse =>
    refine iff_of_false (not_inOrder_fail _ _) ?_
    rw [orderlyMain_building_iff hstage hentry, hresponse]
    simp
  | finishChecked hstage hentry =>
    refine Iff.trans (Responder.inOrder_iff_of_optional _ (Or.inr (congrArg outlook hstage)) rfl
      rfl (hconsistent.checking _ hstage)) ?_
    simp [OrderlyMain, hstage]
  | @forwarded detecting hstage =>
    refine Iff.trans (Responder.inOrder_iff_of_sent_eq (congrArg outlook hstage)
      (by cases detecting <;> rfl) rfl) ?_
    simp [OrderlyMain, hstage]
  | finalSkipped hstage hfinal =>
    refine Iff.trans (Responder.inOrder_iff_of_sent_eq (congrArg outlook hstage) rfl rfl) ?_
    simp [OrderlyMain, hstage, hfinal]
  | metadataMissing hstage hfinal hmetadata =>
    refine iff_of_false (Responder.not_inOrder_of_lost rfl) ?_
    simp [OrderlyMain, hstage, hfinal, hmetadata]
  | wholeDocStarted hstage hfinal hmetadata =>
    refine Iff.trans (Responder.inOrder_iff_of_commit (congrArg outlook hstage) rfl rfl) ?_
    simp [OrderlyMain, responder, hstage, hfinal, hmetadata]
  | finalSent hstage hfinal hmetadata =>
    refine Iff.trans (Responder.inOrder_iff_of_send rfl (by simp) (congrArg outlook hstage) rfl) ?_
    simp [OrderlyMain, responder, hstage, hfinal, hmetadata]
  | wholeDocPanicked hstage hresult =>
    refine iff_of_false (Responder.not_inOrder_of_lost rfl) ?_
    simp [OrderlyMain, hstage, hresult]
  | wholeDocSent hstage hresult =>
    refine Iff.trans (Responder.inOrder_iff_of_committed rfl (by simp)
      (congrArg outlook hstage) rfl) ?_
    simp [OrderlyMain, hstage, hresult, Except.toBool]
  | @wholeDocFailed m error hstage hresult =>
    refine iff_of_false (Responder.not_inOrder_of_closed
      (List.append_assoc s.task.sent [.error error] [.ok none]).symm rfl) ?_
    simp [OrderlyMain, hstage, hresult, Except.toBool]
  | completed hstage =>
    refine Iff.trans (Responder.inOrder_iff_of_done rfl (congrArg outlook hstage) rfl) ?_
    simp [OrderlyMain, hstage]

/-- One step of the run. -/
theorem inOrder_iff_of_step {a : ChatLabel} (hconsistent : Consistent s)
    (hstep : s.step request a = some t) : (responder request).InOrder t ↔
      (responder request).InOrder s ∧ s.Orderly request a := by
  cases a with
  | consumer =>
    obtain ⟨action, consumer, hconsumer, -, rfl⟩ := exists_of_stepConsumer hstep
    have hnext : nextResponse s.consumer = action.response := by rw [hconsumer]; rfl
    rw [Orderly, hnext]
    refine inOrder_iff_of_perform s.task rfl rfl rfl ?_
    intro item hitem
    obtain rfl := ConsumerAction.response_eq_some_iff.mp hitem
    obtain ⟨hsome, detecting, hstage⟩ := hconsistent.silent item (by simp [hconsumer])
    exact ⟨hsome, congrArg outlook hstage⟩
  | main => exact inOrder_iff_of_mainStep hconsistent (mainStep_of_stepMain hstep)
  | timeout =>
    obtain ⟨batch, -, ⟨hstage, error, rfl⟩ | ⟨hstage, rfl⟩⟩ := exists_of_stepTimeout hstep
    · simp [not_inOrder_fail, Orderly, hstage, isBuilding]
    · refine Iff.trans (Responder.inOrder_iff_of_optional none
        (Or.inr (congrArg outlook hstage)) rfl (List.append_nil _).symm
        (hconsistent.checking batch hstage)) ?_
      simp [Orderly, hstage, isBuilding]

end Steps

/-! ### Runs -/

namespace Consistent

variable {request : StreamingRequest ChatCompletionChunk} {s t : ChatStreaming}

theorem start (request : StreamingRequest ChatCompletionChunk)
    (batches : List (Except Error Batch)) : Consistent (start request batches) := by
  rw [ChatStreaming.start]
  split
  · exact ⟨by simp, by simp⟩
  · exact ⟨by simp, by simp⟩
  split_ifs
  · exact ⟨fun item h => ⟨(received_of_respond h).2.2, false, rfl⟩, by simp⟩
  · exact ⟨fun item h => ⟨(received_of_respond h).2.2, true, rfl⟩, by simp⟩
  · exact ⟨fun item h => by simpa using (received_of_respond h).1, by simp [startDetection]⟩

/-- A step of the main task other than sending the message for a batch. -/
theorem of_stage (h : Consistent s) (hconsumer : t.consumer = s.consumer)
    (hbefore : ∀ detecting, s.stage ≠ .forwarding detecting)
    (hafter : ∀ batch, t.stage ≠ .checkingFinish batch) : Consistent t where
  silent item hitem := by
    obtain ⟨-, detecting, hstage⟩ := h.silent item (hconsumer ▸ hitem)
    exact absurd hstage (hbefore detecting)
  checking batch hbatch := absurd hbatch (hafter batch)

theorem stepMain (h : Consistent s) (hstep : MainStep request s t) : Consistent t := by
  cases hstep with
  | @forwarded detecting hstage hconsumer =>
    refine ⟨?_, ?_⟩
    · simp [goto, hconsumer]
    · cases detecting <;> simp [goto]
  -- a message has just been sent, so the last item is not an error
  | @responseSent batch completions m hstage =>
    refine ⟨?_, ?_⟩
    · intro item hitem
      obtain ⟨-, detecting, hforwarding⟩ := h.silent item hitem
      simp [hstage] at hforwarding
    · intro batch' _
      change phase (s.task.sent ++ _) ≠ .failed
      rw [phase_append_singleton]
      cases phase s.task.sent <;> simp [Phase.send]
  | streamsCreated hstage | streamCreated hstage | streamFailed hstage | streamPanicked hstage
  | batchesEnded hstage | batchFailed hstage | batchReceived hstage | responsePanicked hstage
  | responseFailed hstage | finishChecked hstage | finalSkipped hstage | metadataMissing hstage
  | wholeDocStarted hstage | finalSent hstage | wholeDocPanicked hstage | wholeDocSent hstage
  | wholeDocFailed hstage | completed hstage =>
    exact h.of_stage rfl (by simp [hstage]) (by simp [goto, fail])

theorem step {a : ChatLabel} (h : Consistent s) (hstep : s.step request a = some t) :
    Consistent t := by
  cases a with
  | consumer =>
    obtain ⟨action, consumer, hconsumer, -, rfl⟩ := exists_of_stepConsumer hstep
    refine ⟨fun item hitem => h.silent item (by simp [hconsumer, hitem]), ?_⟩
    intro batch hstage
    cases action with
    | respond item =>
      obtain ⟨-, detecting, hforwarding⟩ := h.silent item (by simp [hconsumer])
      simp [show s.stage = _ from hstage] at hforwarding
    | _ => exact h.checking batch hstage
  | main => exact h.stepMain (mainStep_of_stepMain hstep)
  | timeout =>
    obtain ⟨batch, -, ⟨hstage, error, rfl⟩ | ⟨hstage, rfl⟩⟩ := exists_of_stepTimeout hstep
    · exact h.of_stage rfl (by simp [hstage]) (by simp [goto, fail])
    · exact h.of_stage rfl (by simp [hstage]) (by simp [goto])

end Consistent

/-- A request ends in order before its output is processed, or starts in order, unless something
panics early. -/
theorem inOrder_start_iff (request : StreamingRequest ChatCompletionChunk)
    (batches : List (Except Error Batch)) :
    (responder request).InOrder (start request batches) ↔
      ¬ request.PanicsEarly [.textContents, .textChat] := by
  refine StreamingRequest.inOrder_iff_of_prepare ?_ ?_ ?_
  · intro response hprepare
    rw [start, hprepare]
    exact ⟨rfl, rfl⟩
  · intro hprepare
    rw [start, hprepare]
    rfl
  · intro stream hprepare
    rw [start, hprepare]
    dsimp only
    split_ifs <;> exact ⟨rfl, rfl⟩

/-- The number of steps a stage takes at most, with the given number of batches to come. -/
def stageBudget (batches : ℕ) : ChatStage → ℕ
  | .creatingStreams choices => choices.length + 3 * batches + 5
  | .awaitingBatch => 3 * batches + 4
  | .building _ => 3 * batches + 6
  | .checkingFinish _ => 3 * batches + 5
  | .forwarding _ => 4
  | .finalizing => 3
  | .detectingWholeDoc _ => 2
  | .completing => 1
  | .finished | .panicked | .aborted => 0

/-- The number of steps the two tasks take at most. -/
def budget (s : ChatStreaming) : ℕ := s.consumer.length + stageBudget s.batches.length s.stage

theorem budget_lt_of_mainStep {request : StreamingRequest ChatCompletionChunk}
    {s t : ChatStreaming} (hstep : MainStep request s t) : t.budget < s.budget := by
  cases hstep with
  | @forwarded detecting hstage =>
    cases detecting <;> simp [budget, goto, hstage, stageBudget]
  -- taking an item from the batch stream pays for all that is done with it
  | batchFailed hstage hbatches | batchReceived hstage hbatches =>
    simp only [budget, goto, fail, send, hstage, hbatches, stageBudget, List.length_cons]
    omega
  | streamsCreated hstage | streamCreated hstage | streamFailed hstage | streamPanicked hstage
  | batchesEnded hstage | responsePanicked hstage | responseSent hstage | responseFailed hstage
  | finishChecked hstage | finalSkipped hstage | metadataMissing hstage | wholeDocStarted hstage
  | finalSent hstage | wholeDocPanicked hstage | wholeDocSent hstage | wholeDocFailed hstage
  | completed hstage =>
    simp [budget, goto, fail, send, hstage, stageBudget]

theorem budget_lt_of_step {request : StreamingRequest ChatCompletionChunk} {s t : ChatStreaming}
    {a : ChatLabel} (hstep : s.step request a = some t) : t.budget < s.budget := by
  cases a with
  | consumer =>
    obtain ⟨action, consumer, hconsumer, -, rfl⟩ := exists_of_stepConsumer hstep
    simp [budget, hconsumer]
  | main => exact budget_lt_of_mainStep (mainStep_of_stepMain hstep)
  | timeout =>
    obtain ⟨batch, -, ⟨hstage, error, rfl⟩ | ⟨hstage, rfl⟩⟩ := exists_of_stepTimeout hstep
    · simp only [budget, goto, fail, send, hstage, stageBudget]
      omega
    · simp only [budget, goto, hstage, stageBudget]
      omega

/-- The main task can move unless it waits for the entry of a choice or for the consumer. -/
theorem isSome_stepMain (request : StreamingRequest ChatCompletionChunk) {s : ChatStreaming}
    (hended : ¬ (responder request).Ended s) (hentry : ∀ batch, s.stage = .building batch ∨
      s.stage = .checkingFinish batch → (s.completions batch.1).isSome = true)
    (hconsumer : ∀ detecting, s.stage = .forwarding detecting → s.consumer = []) :
    (s.stepMain request).isSome = true := by
  cases hstage : s.stage with
  | creatingStreams choices =>
    cases choices with
    | nil => simp [stepMain, hstage]
    | cons choiceIndex choices =>
      simp only [stepMain, hstage]
      split <;> rfl
  -- every outcome of these has a branch
  | awaitingBatch | detectingWholeDoc =>
    simp only [stepMain, hstage]
    split <;> rfl
  | building batch => simpa [stepMain, hstage] using hentry batch (Or.inl hstage)
  | checkingFinish batch => simpa [stepMain, hstage] using hentry batch (Or.inr hstage)
  | forwarding detecting => simp [stepMain, hstage, hconsumer detecting hstage]
  | finalizing =>
    simp only [stepMain, hstage]
    repeat' split
    all_goals rfl
  | completing => simp [stepMain, hstage]
  | finished => exact absurd (Or.inl (congrArg outlook hstage)) hended
  | panicked | aborted => exact absurd (Or.inr (congrArg outlook hstage)) hended

/-- A task that has not ended can move, or waits for another, which can. -/
theorem exists_step_of_not_ended (request : StreamingRequest ChatCompletionChunk)
    {s : ChatStreaming} (h : ¬ (responder request).Ended s) : ∃ a t, s.step request a = some t := by
  simp only [← Option.isSome_iff_exists]
  by_cases hmain : (s.stepMain request).isSome = true
  · exact ⟨.main, hmain⟩
  · cases hstage : s.stage with
    | building batch | checkingFinish batch =>
      cases hentry : s.completions batch.1 with
      -- without an entry the main task can only give up
      | none => exact ⟨.timeout, by simp [step, stepTimeout, hstage, hentry]⟩
      | some completions => exact absurd (isSome_stepMain request h (by simp [hstage, hentry])
          (by simp [hstage])) hmain
    | forwarding detecting =>
      cases hconsumer : s.consumer with
      | nil =>
        exact absurd (isSome_stepMain request h (by simp [hstage]) (by simp [hconsumer])) hmain
      | cons action consumer => exact ⟨.consumer, by simp [step, stepConsumer, hstage, hconsumer]⟩
    | _ => exact absurd (isSome_stepMain request h (by simp [hstage]) (by simp [hstage])) hmain

end ChatStreaming

open ChatStreaming

/-- **Termination of the response.** Every run can be continued until the task has ended,
and is not longer than its budget. Unless something panics before the output is processed, the task
responds properly in every state reached by orderly steps; and a task that has ended and responds
properly has taken orderly steps only, and nothing has panicked before. -/
theorem chat_respondsProperly_iff {request : StreamingRequest ChatCompletionChunk}
    {batches : List (Except Error Batch)} {w : List ChatLabel} {s : ChatStreaming}
    (hrun : exec (step request) (start request batches) w = some s) :
    (¬ request.PanicsEarly [.textContents, .textChat] ∧
        Meets (step request) (Orderly request) (start request batches) w →
          (responder request).RespondsProperly s) ∧
      ((responder request).Ended s → (responder request).RespondsProperly s →
        ¬ request.PanicsEarly [.textContents, .textChat] ∧
          Meets (step request) (Orderly request) (start request batches) w) ∧
      (¬ (responder request).Ended s → ∃ a t, s.step request a = some t) ∧
      w.length ≤ (start request batches).budget := by
  rw [← inOrder_start_iff request batches]
  -- every step keeps the response in order exactly when it is orderly
  obtain ⟨hproper, horderly⟩ := Responder.respondsProperly_iff (r := responder request)
    (fun _ _ _ h hstep => Consistent.step h hstep)
    (fun _ _ _ h hstep => inOrder_iff_of_step h hstep) (Consistent.start request batches) hrun
  refine ⟨hproper, horderly, exists_step_of_not_ended request, ?_⟩
  have hlength := exec_length_add_le (fun _ _ _ hstep => budget_lt_of_step hstep) hrun
  omega

/-- One message, which is one chunk. -/
def oneMessage : List (Item Error ChatCompletionChunk) := [textMessage (some "Hi.") (some "stop")]

/-- The message is consumed, its batch is answered, and the task finishes. -/
def oneMessageRun : List ChatLabel := List.replicate 2 .main ++ List.replicate 3 .consumer ++
  List.replicate 6 .main

theorem chat_respondsProperly_iff_oneMessage :
    ∃ s, exec (step (sentenceRequest oneMessage))
        (start (sentenceRequest oneMessage) [.ok (0, { stop := 3, text := "Hi." }, [])])
          oneMessageRun = some s ∧ (responder (sentenceRequest oneMessage)).Ended s ∧
      s.task.sent.length = 2 ∧
      Meets (step (sentenceRequest oneMessage)) (Orderly (sentenceRequest oneMessage))
        (start (sentenceRequest oneMessage) [.ok (0, { stop := 3, text := "Hi." }, [])])
          oneMessageRun ∧ (responder (sentenceRequest oneMessage)).RespondsProperly s := by
  have hrun := exec_eq_some_get (by decide : (exec (step (sentenceRequest oneMessage))
    (start (sentenceRequest oneMessage) [.ok (0, { stop := 3, text := "Hi." }, [])])
      oneMessageRun).isSome = true)
  have hmeets : Meets (step (sentenceRequest oneMessage)) (Orderly (sentenceRequest oneMessage))
      (start (sentenceRequest oneMessage) [.ok (0, { stop := 3, text := "Hi." }, [])])
        oneMessageRun := by decide
  have hearly := (inOrder_start_iff (sentenceRequest oneMessage) []).mp (Or.inl rfl)
  exact ⟨_, hrun, Or.inl (by decide), by decide, hmeets,
    (chat_respondsProperly_iff hrun).1 ⟨hearly, hmeets⟩⟩

/-- A detector fails: the completion signal is sent twice. -/
theorem chat_not_terminated_batchError :
    ∃ s, exec (step (sentenceRequest oneMessage))
        (start (sentenceRequest oneMessage) [.error (.other "detector failed")])
          (List.replicate 5 .main) = some s ∧ s.stage = .finished ∧
      ¬ Terminated s.task.sent := by
  have hrun := exec_eq_some_get (by decide : (exec (step (sentenceRequest oneMessage))
    (start (sentenceRequest oneMessage) [.error (.other "detector failed")])
      (List.replicate 5 .main)).isSome = true)
  refine ⟨_, hrun, by decide, ?_⟩
  rw [← phase_eq_closed_iff]
  decide

end GuardrailsOrchestrator
