import GuardrailsOrchestrator.Completions.Streaming
import GuardrailsOrchestrator.Lib.Execution

/-!
# Termination of the completions response

The error branches of the completions handler send an error and return, and leave the
completion signal to the outermost task. Their callers go on, though: after an error the
final message may still be due, with the metadata that the error may have kept from being
set, and more batches or forwarded items may follow. `Orderly` says of a step that it does
not do this, and the main result is that a task that has ended has terminated its response
exactly when all its steps were orderly.
-/

namespace GuardrailsOrchestrator

open ResponseProtocol Transition

namespace CompletionStreaming

/-! ### Orderly steps -/

/-- The condition on a step of the main task. -/
def OrderlyMain (request : StreamingRequest Completion) (s : CompletionStreaming) :
    CompletionStage → Prop
  -- creating detection streams fails at most once, and does not panic
  | .creatingStreams (choiceIndex :: _) => request.detectionStreams choiceIndex ≠ .error .panic ∧
    ((request.detectionStreams choiceIndex).isOk = false → hasError s.task.sent = false)
  -- the batch stream yields no error after an error
  | .awaitingBatch => ∀ result ∈ s.batches.head?, result.isOk = false → hasError s.task.sent = false
  -- the choice of a batch has an entry, the range of its chunk is not inverted, and no error
  -- has been sent before it
  | .building batch => hasError s.task.sent = false ∧ (s.completions batch.1).isSome ∧
    batch.2.1.inputStartIndex ≤ batch.2.1.inputEndIndex
  -- if a final message is due, the metadata are known and no error has been sent before it
  | .finalizing => s.sendsFinal request = true →
    s.task.completionState.metadata.isSome ∧ hasError s.task.sent = false
  -- whole-document detection does not panic
  | .detectingWholeDoc _ => (request.wholeDocDetection s.task.completionState).isSome
  | _ => True

/-- The condition on a step: nothing is sent after an error but the completion signal, and
nothing missing is unwrapped. -/
def Orderly (request : StreamingRequest Completion) (s : CompletionStreaming) :
    CompletionLabel → Prop
  | .consumer => (nextResponse s.consumer).isSome → hasError s.task.sent = false
  | .main => s.OrderlyMain request s.stage
  | .last _ => True

instance (request : StreamingRequest Completion) (s : CompletionStreaming) :
    ∀ stage, Decidable (s.OrderlyMain request stage)
  | .creatingStreams [] => inferInstanceAs (Decidable True)
  | .creatingStreams (_ :: _) => inferInstanceAs (Decidable (_ ∧ (_ → _)))
  | .awaitingBatch => inferInstanceAs (Decidable (∀ result ∈ s.batches.head?, _))
  | .building _ => inferInstanceAs (Decidable (_ ∧ _))
  | .sendingLast _ => inferInstanceAs (Decidable True)
  | .forwarding _ => inferInstanceAs (Decidable True)
  | .finalizing => inferInstanceAs (Decidable (_ → _))
  | .detectingWholeDoc _ => inferInstanceAs (Decidable (_ = true))
  | .completing => inferInstanceAs (Decidable True)
  | .finished => inferInstanceAs (Decidable True)
  | .panicked | .aborted => inferInstanceAs (Decidable True)

instance (request : StreamingRequest Completion) (s : CompletionStreaming) :
    ∀ a, Decidable (s.Orderly request a)
  | .consumer => inferInstanceAs (Decidable (_ → _))
  | .main => inferInstanceAs (Decidable (s.OrderlyMain request s.stage))
  | .last _ => inferInstanceAs (Decidable True)

/-! ### Where the task stands -/

/-- What the task has yet to send, by stage. -/
def outlook : CompletionStage → Outlook
  | .detectingWholeDoc _ => .committed
  | .finished => .done
  | .panicked | .aborted => .lost
  | _ => .running

/-- The two tasks as a machine that sends a response. -/
def responder (request : StreamingRequest Completion) :
    Responder CompletionStreaming CompletionLabel Error Completion where
  step := step request
  outlook s := outlook s.stage
  sent s := s.task.sent

/-- The choices whose last message may yet be sent, with the batches answered for them. -/
def pendingLast (s : CompletionStreaming) : List (ChoiceIndex × List (ℕ × ℕ)) :=
  match s.stage with
  | .creatingStreams _ => s.batchTracker.entries
  | .awaitingBatch => s.batchTracker.entries
  | .building _ => s.batchTracker.entries
  | .sendingLast choices => choices
  | _ => []

/-- What holds in orderly and other runs. -/
structure Consistent (s : CompletionStreaming) : Prop where
  /-- The consumer responds only while the main task waits for it, and never with the
  completion signal. -/
  silent : ∀ item, .respond item ∈ s.consumer →
    item ≠ .ok none ∧ ∃ detecting, s.stage = .forwarding detecting
  /-- No batch is answered before the detection streams are created. -/
  creating : ∀ choices, s.stage = .creatingStreams choices → s.batchTracker.entries = []
  /-- A tracked choice has a batch and a stored message. -/
  tracked : ∀ e ∈ s.pendingLast, e.2 ≠ [] ∧
    (s.task.completionState.messages e.1).entries ≠ []
  /-- After a batch was answered, an error ends the loop. -/
  unfailed : s.pendingLast ≠ [] → phase s.task.sent ≠ .failed

section Steps

variable {request : StreamingRequest Completion} {s t : CompletionStreaming}

/-- A batch can be answered, by a message or an error, exactly when its choice has an entry
and the range of its chunk is not inverted. -/
theorem isSome_response_iff {batch : Batch} :
    (s.response batch).isSome ↔ (s.completions batch.1).isSome ∧
      batch.2.1.inputStartIndex ≤ batch.2.1.inputEndIndex := by
  rw [response]
  cases s.completions batch.1 with
  | none => simp
  | some completions =>
    rw [Option.bind_some, outputDetectionResponse]
    split_ifs with hrange
    · simp [hrange]
    · have hle := Nat.not_lt.mp hrange
      cases (completionsOf completions batch.2.1).getLast? <;> simp [hle]

theorem orderlyMain_building_iff {batch : Batch} (hstage : s.stage = .building batch) :
    s.OrderlyMain request s.stage ↔
      hasError s.task.sent = false ∧ (s.response batch).isSome := by
  rw [hstage, OrderlyMain, isSome_response_iff]

theorem inOrder_iff_of_mainStep (hstep : MainStep request s t) :
    (responder request).InOrder t ↔
      (responder request).InOrder s ∧ s.OrderlyMain request s.stage := by
  cases hstep with
  | streamsCreated hstage | lastSent hstage =>
    refine Iff.trans (Responder.inOrder_iff_of_sent_eq (congrArg outlook hstage) rfl rfl) ?_
    simp [OrderlyMain, hstage]
  | streamCreated hstage hcreated =>
    refine Iff.trans (Responder.inOrder_iff_of_sent_eq (congrArg outlook hstage) rfl rfl) ?_
    simp [OrderlyMain, hstage, hcreated, Except.toBool]
  | streamFailed hstage hfailed =>
    refine Iff.trans (Responder.inOrder_iff_of_send rfl (by simp) (congrArg outlook hstage) rfl) ?_
    simp [OrderlyMain, responder, hstage, hfailed, Except.toBool]
  | streamPanicked hstage hpanicked =>
    refine iff_of_false (Responder.not_inOrder_of_lost rfl) ?_
    simp [OrderlyMain, hstage, hpanicked]
  | batchesEnded hstage hbatches =>
    refine Iff.trans (Responder.inOrder_iff_of_sent_eq (congrArg outlook hstage) rfl rfl) ?_
    simp [OrderlyMain, hstage, hbatches]
  | batchFailed hstage hbatches =>
    refine Iff.trans (Responder.inOrder_iff_of_send (s := s) rfl (by simp)
      (congrArg outlook hstage) rfl) ?_
    simp [OrderlyMain, responder, hstage, hbatches, Except.toBool]
  | batchReceived hstage hbatches =>
    refine Iff.trans (Responder.inOrder_iff_of_sent_eq (congrArg outlook hstage) rfl rfl) ?_
    simp [OrderlyMain, hstage, hbatches, Except.toBool]
  | responsePanicked hstage hresponse =>
    refine iff_of_false (Responder.not_inOrder_of_lost rfl) ?_
    simp [orderlyMain_building_iff hstage, hresponse]
  | responseSent hstage hresponse | responseFailed hstage hresponse =>
    refine Iff.trans (Responder.inOrder_iff_of_send (s := s) rfl (by simp)
      (congrArg outlook hstage) rfl) ?_
    simp [orderlyMain_building_iff hstage, responder, hresponse]
  | @forwarded detecting hstage =>
    refine Iff.trans (Responder.inOrder_iff_of_sent_eq (congrArg outlook hstage)
      (by cases detecting <;> rfl) rfl) ?_
    simp [OrderlyMain, hstage]
  | finalSkipped hstage hfinal =>
    refine Iff.trans (Responder.inOrder_iff_of_sent_eq (congrArg outlook hstage) rfl rfl) ?_
    simp [OrderlyMain, hstage, hfinal]
  | metadataMissing hstage hfinal hmetadata =>
    refine iff_of_false (Responder.not_inOrder_of_lost rfl) ?_
    simp [OrderlyMain, hstage, hfinal, hmetadata]
  | wholeDocStarted hstage hfinal hmetadata =>
    refine Iff.trans (Responder.inOrder_iff_of_commit (congrArg outlook hstage) rfl rfl) ?_
    simp [OrderlyMain, responder, hstage, hfinal, hmetadata]
  | finalSent hstage hfinal hmetadata =>
    refine Iff.trans (Responder.inOrder_iff_of_send rfl (by simp) (congrArg outlook hstage) rfl) ?_
    simp [OrderlyMain, responder, hstage, hfinal, hmetadata]
  | wholeDocPanicked hstage hresult =>
    refine iff_of_false (Responder.not_inOrder_of_lost rfl) ?_
    simp [OrderlyMain, hstage, hresult]
  -- the message of a detected document, or an error, ends the output
  | wholeDocSent hstage hresult | wholeDocFailed hstage hresult =>
    refine Iff.trans (Responder.inOrder_iff_of_committed rfl (by simp)
      (congrArg outlook hstage) rfl) ?_
    simp [OrderlyMain, hstage, hresult]
  | completed hstage =>
    refine Iff.trans (Responder.inOrder_iff_of_done rfl (congrArg outlook hstage) rfl) ?_
    simp [OrderlyMain, hstage]

/-- The choices to look up are tracked, so nothing is missing; and no error was sent. -/
theorem inOrder_iff_of_stepLast {choiceIndex : ChoiceIndex} (hconsistent : Consistent s)
    (hstep : s.stepLast choiceIndex = some t) :
    (responder request).InOrder t ↔ (responder request).InOrder s := by
  obtain ⟨choices, indices, hstage, hlookup, hcases⟩ := exists_of_stepLast hstep
  have hpending : (choiceIndex, indices) ∈ s.pendingLast := by
    rw [pendingLast, hstage]
    exact List.mem_of_lookup_eq_some hlookup
  obtain ⟨hindices, hstored⟩ := hconsistent.tracked _ hpending
  rcases hcases with ⟨hmissing, -⟩ | ⟨last, endIndex, -, -, rfl⟩
  · exfalso
    -- a tracked choice has a stored message and a batch, so neither lookup can fail
    rcases hmissing with hmissing | hmissing
    · rw [completions, CompletionState.bind_lastKeyValue, OrderedMap.lastKeyValue,
        List.getLast?_eq_none_iff] at hmissing
      exact hstored hmissing
    · exact hindices hmissing
  · exact Responder.inOrder_iff_of_optional (lastMessage last endIndex)
      (Or.inl (congrArg outlook hstage)) rfl rfl
      (hconsistent.unfailed (List.ne_nil_of_mem hpending))

/-- One step of the run. -/
theorem inOrder_iff_of_step {a : CompletionLabel} (hconsistent : Consistent s)
    (hstep : s.step request a = some t) : (responder request).InOrder t ↔
      (responder request).InOrder s ∧ s.Orderly request a := by
  cases a with
  | consumer =>
    obtain ⟨action, consumer, hconsumer, -, rfl⟩ := exists_of_stepConsumer hstep
    have hnext : nextResponse s.consumer = action.response := by rw [hconsumer]; rfl
    rw [Orderly, hnext]
    refine inOrder_iff_of_perform s.task rfl rfl rfl ?_
    intro item hitem
    obtain rfl := ConsumerAction.response_eq_some_iff.mp hitem
    obtain ⟨hsome, detecting, hstage⟩ := hconsistent.silent item (by simp [hconsumer])
    exact ⟨hsome, congrArg outlook hstage⟩
  | main => exact inOrder_iff_of_mainStep (mainStep_of_stepMain hstep)
  | last choiceIndex =>
    rw [inOrder_iff_of_stepLast hconsistent hstep]
    simp [Orderly]

end Steps

/-! ### Runs -/

namespace Consistent

variable {request : StreamingRequest Completion} {s t : CompletionStreaming}

theorem start (request : StreamingRequest Completion) (batches : List (Except Error Batch)) :
    Consistent (start request batches) := by
  rw [CompletionStreaming.start]
  split
  · exact ⟨by simp, by simp, by simp [pendingLast], by simp [pendingLast]⟩
  · exact ⟨by simp, by simp, by simp [pendingLast], by simp [pendingLast]⟩
  split_ifs
  · exact ⟨fun item h => ⟨(received_of_respond h).2.2, false, rfl⟩, by simp,
      by simp [pendingLast], by simp [pendingLast]⟩
  · exact ⟨fun item h => ⟨(received_of_respond h).2.2, true, rfl⟩, by simp,
      by simp [pendingLast], by simp [pendingLast]⟩
  · exact ⟨fun item h => by simpa using (received_of_respond h).1, fun _ _ => rfl,
      by simp [pendingLast], by simp [pendingLast]⟩

theorem silent_of_stage (h : Consistent s) (hconsumer : t.consumer = s.consumer)
    (hbefore : ∀ detecting, s.stage ≠ .forwarding detecting) (item : Item Error Completion)
    (hitem : .respond item ∈ t.consumer) :
    item ≠ .ok none ∧ ∃ detecting, t.stage = .forwarding detecting := by
  obtain ⟨-, detecting, hstage⟩ := h.silent item (hconsumer ▸ hitem)
  exact absurd hstage (hbefore detecting)

/-- A step to a stage after which no last message is looked up. -/
theorem of_pendingLast_eq_nil (h : Consistent s) (hconsumer : t.consumer = s.consumer)
    (hbefore : ∀ detecting, s.stage ≠ .forwarding detecting)
    (hcreating : ∀ choices, t.stage = .creatingStreams choices → t.batchTracker.entries = [])
    (hpending : t.pendingLast = []) : Consistent t :=
  ⟨h.silent_of_stage hconsumer hbefore, hcreating, by simp [hpending], by simp [hpending]⟩

/-- A step that sends nothing and leaves the tracked choices as they are. -/
theorem of_pendingLast_eq (h : Consistent s) (hconsumer : t.consumer = s.consumer)
    (hbefore : ∀ detecting, s.stage ≠ .forwarding detecting) (htask : t.task = s.task)
    (hcreating : ∀ choices, t.stage = .creatingStreams choices → t.batchTracker.entries = [])
    (hpending : t.pendingLast = s.pendingLast) : Consistent t :=
  ⟨h.silent_of_stage hconsumer hbefore, hcreating, by rw [hpending, htask]; exact h.tracked,
    by rw [hpending, htask]; exact h.unfailed⟩

/-- An answered batch is tracked. -/
theorem responseSent (h : Consistent s) {batch : Batch} {m : Completion}
    (hstage : s.stage = .building batch) (hresponse : s.response batch = some (.ok m)) :
    Consistent (((s.track batch).send [.ok (some m)]).goto .awaitingBatch) := by
  refine ⟨h.silent_of_stage rfl (by simp [hstage]), by simp [goto], ?_, fun _ => ?_⟩
  · intro e he
    obtain ⟨completions, hentry, hbuilt⟩ := Option.bind_eq_some_iff.mp hresponse
    have hget := OrderedMap.get?_eq_some_of_mem
      (show (e.1, e.2) ∈ (s.track batch).batchTracker.entries from he)
    rw [track, OrderedMap.get?_alter] at hget
    split_ifs at hget with hkey
    · -- the choice of the batch has an entry, and the list of its batches is not empty
      refine ⟨by simp [← Option.some.inj hget], ?_⟩
      change (s.task.completionState.messages e.1).entries ≠ []
      rw [show e.1 = batch.1 from hkey, CompletionState.messages_of_get? hentry]
      exact entries_ne_nil_of_outputDetectionResponse hbuilt
    · obtain ⟨c, hc, hmem⟩ := OrderedMap.get?_eq_some_iff.mp hget
      obtain rfl : c = e.1 := hc
      exact h.tracked e (by rwa [pendingLast, hstage])
  · change phase (s.task.sent ++ _) ≠ .failed
    rw [phase_append_singleton]
    cases phase s.task.sent <;> simp [Phase.send]

theorem stepMain (h : Consistent s) (hstep : MainStep request s t) : Consistent t := by
  cases hstep with
  | @forwarded detecting hstage hconsumer =>
    refine ⟨by simp [goto, hconsumer], ?_, ?_, ?_⟩
    · cases detecting <;> simp [goto]
    · cases detecting <;> simp [goto, pendingLast]
    · cases detecting <;> simp [goto, pendingLast]
  | responseSent hstage hresponse => exact h.responseSent hstage hresponse
  | streamsCreated hstage | batchesEnded hstage | batchReceived hstage =>
    exact h.of_pendingLast_eq rfl (by simp [hstage]) rfl (by simp [goto])
      (by simp [pendingLast, goto, hstage])
  | streamCreated hstage =>
    exact h.of_pendingLast_eq rfl (by simp [hstage]) rfl (fun _ _ => h.creating _ hstage)
      (by simp [pendingLast, goto, hstage])
  -- no batch has been answered yet, so nothing is tracked that the error could follow
  | streamFailed hstage =>
    exact h.of_pendingLast_eq_nil rfl (by simp [hstage]) (fun _ _ => h.creating _ hstage)
      (h.creating _ hstage)
  | streamPanicked hstage | batchFailed hstage | responsePanicked hstage | responseFailed hstage
  | lastSent hstage | finalSkipped hstage | metadataMissing hstage | wholeDocStarted hstage
  | finalSent hstage | wholeDocPanicked hstage | wholeDocSent hstage | wholeDocFailed hstage
  | completed hstage =>
    exact h.of_pendingLast_eq_nil rfl (by simp [hstage]) (by simp [goto]) rfl

theorem stepLast {choiceIndex : ChoiceIndex} (h : Consistent s)
    (hstep : s.stepLast choiceIndex = some t) : Consistent t := by
  obtain ⟨choices, indices, hstage, hlookup, hcases⟩ := exists_of_stepLast hstep
  have hpending : s.pendingLast = choices := by rw [pendingLast, hstage]
  have hphase := h.unfailed (hpending ▸ List.ne_nil_of_mem (List.mem_of_lookup_eq_some hlookup))
  rcases hcases with ⟨-, rfl⟩ | ⟨last, endIndex, -, -, rfl⟩
  · exact h.of_pendingLast_eq_nil rfl (by simp [hstage]) (by simp [goto]) rfl
  · refine ⟨h.silent_of_stage rfl (by simp [hstage]), by simp [goto], ?_, fun _ => ?_⟩
    · intro e he
      exact h.tracked e (hpending ▸ List.mem_of_mem_filter he)
    · change phase (s.task.sent ++ _) ≠ .failed
      rw [phase_append]
      cases lastMessage last endIndex <;>
        cases hcases : phase s.task.sent <;> simp_all [Phase.send]

theorem step {a : CompletionLabel} (h : Consistent s) (hstep : s.step request a = some t) :
    Consistent t := by
  cases a with
  | consumer =>
    obtain ⟨action, consumer, hconsumer, -, rfl⟩ := exists_of_stepConsumer hstep
    refine ⟨fun item hitem => h.silent item (by simp [hconsumer, hitem]), h.creating, ?_, ?_⟩
    · intro e he
      obtain ⟨hindices, hstored⟩ := h.tracked e he
      exact ⟨hindices, StreamingTask.entries_messages_perform_ne_nil hstored action⟩
    · intro hpending
      cases action with
      | respond item =>
        -- while the consumer responds, no choice is tracked
        obtain ⟨-, detecting, hforwarding⟩ := h.silent item (by simp [hconsumer])
        simp [pendingLast, hforwarding] at hpending
      | _ => exact h.unfailed hpending
  | main => exact h.stepMain (mainStep_of_stepMain hstep)
  | last choiceIndex => exact h.stepLast hstep

end Consistent

/-- A request ends in order before its output is processed, or starts in order, unless something
panics early. -/
theorem inOrder_start_iff (request : StreamingRequest Completion)
    (batches : List (Except Error Batch)) :
    (responder request).InOrder (start request batches) ↔
      ¬ request.PanicsEarly [.textContents, .textGeneration] := by
  refine StreamingRequest.inOrder_iff_of_prepare ?_ ?_ ?_
  · intro response hprepare
    rw [start, hprepare]
    exact ⟨rfl, rfl⟩
  · intro hprepare
    rw [start, hprepare]
    rfl
  · intro stream hprepare
    rw [start, hprepare]
    dsimp only
    split_ifs <;> exact ⟨rfl, rfl⟩

/-- The number of steps a stage takes at most, with the given numbers of batches to come and
of tracked choices. -/
def stageBudget (batches tracked : ℕ) : CompletionStage → ℕ
  | .creatingStreams choices => choices.length + 3 * batches + tracked + 6
  | .awaitingBatch => 3 * batches + tracked + 5
  | .building _ => 3 * batches + tracked + 7
  | .sendingLast choices => choices.length + 4
  | .forwarding _ => 4
  | .finalizing => 3
  | .detectingWholeDoc _ => 2
  | .completing => 1
  | .finished | .panicked | .aborted => 0

/-- The number of steps the two tasks take at most. -/
def budget (s : CompletionStreaming) : ℕ :=
  s.consumer.length + stageBudget s.batches.length s.batchTracker.entries.length s.stage

theorem budget_lt_of_mainStep {request : StreamingRequest Completion} {s t : CompletionStreaming}
    (hstep : MainStep request s t) : t.budget < s.budget := by
  cases hstep with
  | @forwarded detecting hstage =>
    cases detecting <;> simp [budget, goto, hstage, stageBudget]
  | batchesEnded hstage =>
    simp only [budget, goto, hstage, stageBudget]
    omega
  | batchFailed hstage hbatches | batchReceived hstage hbatches =>
    simp only [budget, goto, send, hstage, hbatches, stageBudget, List.length_cons]
    omega
  -- a choice that is tracked for the first time has its last message looked up later
  | @responseSent batch m hstage =>
    have htracked := s.batchTracker.length_entries_alter_le batch.1 fun entry =>
      entry.getD [] ++ [(batch.2.1.inputStartIndex, batch.2.1.inputEndIndex)]
    simp only [budget, goto, send, track, hstage, stageBudget]
    omega
  | responsePanicked hstage | responseFailed hstage =>
    simp only [budget, goto, send, hstage, stageBudget]
    omega
  | streamsCreated hstage | streamCreated hstage | streamFailed hstage | streamPanicked hstage
  | lastSent hstage | finalSkipped hstage | metadataMissing hstage | wholeDocStarted hstage
  | finalSent hstage | wholeDocPanicked hstage | wholeDocSent hstage | wholeDocFailed hstage
  | completed hstage =>
    simp [budget, goto, send, hstage, stageBudget]

theorem budget_lt_of_step {request : StreamingRequest Completion} {s t : CompletionStreaming}
    {a : CompletionLabel} (hstep : s.step request a = some t) : t.budget < s.budget := by
  cases a with
  | consumer =>
    obtain ⟨action, consumer, hconsumer, -, rfl⟩ := exists_of_stepConsumer hstep
    simp [budget, hconsumer]
  | main => exact budget_lt_of_mainStep (mainStep_of_stepMain hstep)
  | last choiceIndex =>
    obtain ⟨choices, indices, hstage, hlookup, ⟨-, rfl⟩ | ⟨last, endIndex, -, -, rfl⟩⟩ :=
      exists_of_stepLast hstep
    · simp [budget, goto, hstage, stageBudget]
    · -- the choice that was looked up does not remain
      have hfewer : (choices.filter (·.1 ≠ choiceIndex)).length < choices.length :=
        List.length_filter_lt_length_iff_exists.mpr
          ⟨_, List.mem_of_lookup_eq_some hlookup, by simp⟩
      simp only [budget, goto, send, hstage, stageBudget]
      omega

/-- The main task can move unless it looks up last messages or waits for the consumer. -/
theorem isSome_stepMain (request : StreamingRequest Completion) {s : CompletionStreaming}
    (hended : ¬ (responder request).Ended s)
    (hlast : ∀ choices, s.stage = .sendingLast choices → choices = [])
    (hconsumer : ∀ detecting, s.stage = .forwarding detecting → s.consumer = []) :
    (s.stepMain request).isSome = true := by
  cases hstage : s.stage with
  | creatingStreams choices =>
    cases choices with
    | nil => simp [stepMain, hstage]
    | cons choiceIndex choices =>
      simp only [stepMain, hstage]
      split <;> rfl
  -- every outcome of these has a branch
  | awaitingBatch | building | detectingWholeDoc =>
    simp only [stepMain, hstage]
    split <;> rfl
  | sendingLast choices => simp [stepMain, hstage, hlast choices hstage]
  | forwarding detecting => simp [stepMain, hstage, hconsumer detecting hstage]
  | finalizing =>
    simp only [stepMain, hstage]
    repeat' split
    all_goals rfl
  | completing => simp [stepMain, hstage]
  | finished => exact absurd (Or.inl (congrArg outlook hstage)) hended
  | panicked | aborted => exact absurd (Or.inr (congrArg outlook hstage)) hended

/-- A task that has not ended can move, or waits for the consumer, which can. -/
theorem exists_step_of_not_ended (request : StreamingRequest Completion)
    {s : CompletionStreaming} (h : ¬ (responder request).Ended s) :
    ∃ a t, s.step request a = some t := by
  simp only [← Option.isSome_iff_exists]
  by_cases hmain : (s.stepMain request).isSome = true
  · exact ⟨.main, hmain⟩
  · cases hstage : s.stage with
    | sendingLast choices =>
      cases choices with
      | nil => exact absurd (isSome_stepMain request h (by simp [hstage]) (by simp [hstage])) hmain
      -- any choice that is left can be looked up next
      | cons choice choices => exact ⟨.last choice.1, by simp [step, stepLast, hstage]⟩
    | forwarding detecting =>
      cases hconsumer : s.consumer with
      | nil =>
        exact absurd (isSome_stepMain request h (by simp [hstage]) (by simp [hconsumer])) hmain
      | cons action consumer => exact ⟨.consumer, by simp [step, stepConsumer, hstage, hconsumer]⟩
    | _ => exact absurd (isSome_stepMain request h (by simp [hstage]) (by simp [hstage])) hmain

end CompletionStreaming

open CompletionStreaming

/-- **Termination of the response.** Every run can be continued until the task has ended,
and is not longer than its budget. Unless something panics before the output is processed, the task
responds properly in every state reached by orderly steps; and a task that has ended and responds
properly has taken orderly steps only, and nothing has panicked before. -/
theorem completion_respondsProperly_iff {request : StreamingRequest Completion}
    {batches : List (Except Error Batch)} {w : List CompletionLabel} {s : CompletionStreaming}
    (hrun : exec (step request) (start request batches) w = some s) :
    (¬ request.PanicsEarly [.textContents, .textGeneration] ∧
        Meets (step request) (Orderly request) (start request batches) w →
          (responder request).RespondsProperly s) ∧
      ((responder request).Ended s → (responder request).RespondsProperly s →
        ¬ request.PanicsEarly [.textContents, .textGeneration] ∧
          Meets (step request) (Orderly request) (start request batches) w) ∧
      (¬ (responder request).Ended s → ∃ a t, s.step request a = some t) ∧
      w.length ≤ (start request batches).budget := by
  rw [← inOrder_start_iff request batches]
  -- every step keeps the response in order exactly when it is orderly
  obtain ⟨hproper, horderly⟩ := Responder.respondsProperly_iff (r := responder request)
    (fun _ _ _ h hstep => Consistent.step h hstep)
    (fun _ _ _ h hstep => inOrder_iff_of_step h hstep) (Consistent.start request batches) hrun
  refine ⟨hproper, horderly, exists_step_of_not_ended request, ?_⟩
  have hlength := exec_length_add_le (fun _ _ _ hstep => budget_lt_of_step hstep) hrun
  omega

/-- One message, which is one chunk, and a message with the usage. -/
def oneCompletion : List (Item Error Completion) :=
  [.ok (some { id := "cmpl", choices := [{ text := "Hi.", finishReason := some "stop" }] }),
    .ok (some { id := "cmpl", usage := some { totalTokens := 2 } })]

/-- The messages are consumed, the batch is answered, and the task finishes. -/
def oneCompletionRun : List CompletionLabel :=
  List.replicate 2 .main ++ List.replicate 4 .consumer ++ List.replicate 3 .main ++ [.last 0] ++
    List.replicate 3 .main

theorem completion_respondsProperly_iff_oneCompletion :
    ∃ s, exec (step (sentenceRequest oneCompletion))
        (start (sentenceRequest oneCompletion) [.ok (0, { stop := 3, text := "Hi." }, [])])
          oneCompletionRun = some s ∧ (responder (sentenceRequest oneCompletion)).Ended s ∧
      s.task.sent.length = 3 ∧
      Meets (step (sentenceRequest oneCompletion)) (Orderly (sentenceRequest oneCompletion))
        (start (sentenceRequest oneCompletion) [.ok (0, { stop := 3, text := "Hi." }, [])])
          oneCompletionRun ∧ (responder (sentenceRequest oneCompletion)).RespondsProperly s := by
  have hrun := exec_eq_some_get (by decide : (exec (step (sentenceRequest oneCompletion))
    (start (sentenceRequest oneCompletion) [.ok (0, { stop := 3, text := "Hi." }, [])])
      oneCompletionRun).isSome = true)
  have hmeets : Meets (step (sentenceRequest oneCompletion))
      (Orderly (sentenceRequest oneCompletion))
      (start (sentenceRequest oneCompletion) [.ok (0, { stop := 3, text := "Hi." }, [])])
        oneCompletionRun := by decide
  have hearly := (inOrder_start_iff (sentenceRequest oneCompletion) []).mp (Or.inl rfl)
  exact ⟨_, hrun, Or.inl (by decide), by decide, hmeets,
    (completion_respondsProperly_iff hrun).1 ⟨hearly, hmeets⟩⟩

/-- A detector fails after the usage is known: a message follows the error. -/
theorem completion_not_terminated_batchError :
    ∃ s, exec (step (sentenceRequest oneCompletion))
        (start (sentenceRequest oneCompletion) [.error (.other "detector failed")])
          (List.replicate 2 .main ++ List.replicate 4 .consumer ++ List.replicate 3 .main) =
            some s ∧ s.stage = .finished ∧ ¬ Terminated s.task.sent := by
  have hrun := exec_eq_some_get (by decide : (exec (step (sentenceRequest oneCompletion))
    (start (sentenceRequest oneCompletion) [.error (.other "detector failed")])
      (List.replicate 2 .main ++ List.replicate 4 .consumer ++
        List.replicate 3 .main)).isSome = true)
  refine ⟨_, hrun, by decide, ?_⟩
  rw [← phase_eq_closed_iff]
  decide

end GuardrailsOrchestrator
