import GuardrailsOrchestrator.Chat.Consumer
import GuardrailsOrchestrator.Lib.Execution

/-!
# What the client of a chat receives for a choice

The text of a message is in the pipeline only after the message was stored. So when a batch is
answered, all messages of its choice up to its end are stored, and the response is made from the
messages of the generation stream, whatever the consumer does meanwhile. Only the additional
message with the finish reason depends on how much is stored when it is looked for.

## Main definitions

* `Causal` — the pipeline yields chunks of what it has received
* `responseTo`, `finishMessageOf` — the messages for a batch as a function of the stream
* `Answers` — what has been sent for each choice

## Main results

* `answers_of_exec` — in every state of a run, the messages sent for a choice are the answers to
  its processed batches, and the response to the batch that is being processed
-/

namespace GuardrailsOrchestrator

open ResponseProtocol Transition

namespace ChatStreaming

/-- The pipeline yields chunks that end in a message it has received: when a batch is
received, the text of the message it ends in has been sent to the input channel of its
choice. -/
def Causal (s : ChatStreaming) (a : ChatLabel) : Prop :=
  a = .main → s.stage = .awaitingBatch → ∀ batch ∈ s.batches.head?.bind Except.toOption,
    ∃ input ∈ s.task.inputs, input.1 = batch.1 ∧
      input.2.toOption.map (·.1) = some batch.2.1.inputEndIndex

instance (s : ChatStreaming) (a : ChatLabel) : Decidable (Causal s a) :=
  inferInstanceAs (Decidable (_ → _))

/-- The message of an item, if it belongs to the choice. -/
def messageFor (c : ChoiceIndex) : Item Error ChatCompletionChunk → Option ChatCompletionChunk
  | .ok (some m) => if choiceOf m = some c then some m else none
  | _ => none

/-- The messages sent for a choice. -/
def sentFor (c : ChoiceIndex) (s : ChatStreaming) : List ChatCompletionChunk :=
  s.task.sent.filterMap (messageFor c)

/-- The batches of a choice that have been processed, with the indices of the messages
that were stored when the finish reason was checked. -/
def processedFor (c : ChoiceIndex) (s : ChatStreaming) : List (Batch × List ℕ) :=
  s.processed.filter (·.1.1 = c)

/-- The indices of a choice's messages in the stream. -/
def indicesOf (c : ChoiceIndex) (stream : List (Item Error ChatCompletionChunk)) : List ℕ :=
  (choiceMessages c stream).map (·.1)

theorem indicesOf_ascending (c : ChoiceIndex) (stream : List (Item Error ChatCompletionChunk)) :
    (indicesOf c stream).Pairwise (· < ·) :=
  List.pairwise_map.mpr (choiceMessages_ascending c stream)

/-! ### The messages made from a batch -/

section Messages

variable {c : ChoiceIndex} {stream : List (Item Error ChatCompletionChunk)}
  {completions : OrderedMap ℕ ChatCompletionChunk} {batch : Batch} {m : ChatCompletionChunk}

/-- The first messages of a choice as they are stored. -/
def storedMessages (c : ChoiceIndex) (stream : List (Item Error ChatCompletionChunk)) (n : ℕ) :
    OrderedMap ℕ ChatCompletionChunk :=
  ⟨(choiceMessages c stream).take n,
    (choiceMessages_ascending c stream).sublist (List.take_sublist _ _)⟩

/-- The messages of its choice in the range of a batch. -/
def coveredMessages (stream : List (Item Error ChatCompletionChunk)) (batch : Batch) :
    List (ℕ × ChatCompletionChunk) :=
  (choiceMessages batch.1 stream).filter fun e =>
    batch.2.1.inputStartIndex ≤ e.1 ∧ e.1 ≤ batch.2.1.inputEndIndex

/-- The response to a batch when the messages in its range are stored. -/
def responseTo (stream : List (Item Error ChatCompletionChunk)) (batch : Batch) :
    ChatCompletionChunk :=
  withDetections (((coveredMessages stream batch).getLast?.map (·.2)).getD {})
    (mergeLogprobs ((coveredMessages stream batch).map (·.2))) batch.1 batch.2.1 batch.2.2

/-- The additional message with the finish reason, by what was stored when it was looked for. -/
def finishMessageOf (stream : List (Item Error ChatCompletionChunk)) (p : Batch × List ℕ) :
    Option ChatCompletionChunk :=
  finishMessage (storedMessages p.1.1 stream p.2.length) p.1.2.1.inputEndIndex

/-- The messages for a processed batch. -/
def answersTo (stream : List (Item Error ChatCompletionChunk)) (p : Batch × List ℕ) :
    List ChatCompletionChunk :=
  responseTo stream p.1 :: (finishMessageOf stream p).toList

/-- Stored messages are the first ones of their choice. -/
theorem eq_storedMessages (hstored : completions.entries <+: choiceMessages c stream) :
    completions = storedMessages c stream completions.keys.length := by
  apply OrderedMap.ext
  rw [storedMessages, OrderedMap.keys, List.length_map]
  exact List.prefix_iff_eq_take.mp hstored

/-- Once the message a batch ends in is stored, so are all messages in its range. -/
theorem range_eq_coveredMessages (hstored : completions.entries <+: choiceMessages batch.1 stream)
    (hend : batch.2.1.inputEndIndex ∈ completions.keys) :
    completions.range batch.2.1.inputStartIndex batch.2.1.inputEndIndex =
      coveredMessages stream batch := by
  obtain ⟨rest, hrest⟩ := hstored
  obtain ⟨e, he, hkey⟩ := List.mem_map.mp hend
  have hascending := choiceMessages_ascending batch.1 stream
  rw [← hrest, List.pairwise_append] at hascending
  have hlater : rest.filter (fun e => batch.2.1.inputStartIndex ≤ e.1 ∧
      e.1 ≤ batch.2.1.inputEndIndex) = [] := by
    rw [List.filter_eq_nil_iff]
    intro e' he'
    have hlt := hascending.2.2 e he e' he'
    simp only [decide_eq_true_eq, not_and, not_le]
    omega
  rw [coveredMessages, ← hrest, List.filter_append, hlater, List.append_nil]
  rfl

/-- A response is that to its batch, of the batch's choice. -/
theorem eq_responseTo (hstored : completions.entries <+: choiceMessages batch.1 stream)
    (hend : batch.2.1.inputEndIndex ∈ completions.keys)
    (h : outputDetectionResponse completions batch.1 batch.2.1 batch.2.2 = some (.ok m)) :
    m = responseTo stream batch ∧ choiceOf m = some batch.1 ∧
      batch.2.1.inputStartIndex ≤ batch.2.1.inputEndIndex := by
  have hrange := range_eq_coveredMessages hstored hend
  obtain ⟨hle, stored, logprobs, hlast, rfl⟩ := exists_of_outputDetectionResponse h
  obtain ⟨e, he, rfl⟩ := List.mem_map.mp (List.mem_of_getLast? hlast)
  rw [choiceOf_withDetections]
  refine ⟨?_, ?_, hle⟩
  · rw [outputDetectionResponse, if_neg (Nat.not_lt.mpr hle), hlast] at h
    have hm := Except.ok.inj (Option.some.inj h)
    rw [chatCompletionsOf, hrange] at hlast hm
    rw [← hm, responseTo, ← List.getLast?_map, hlast, Option.getD_some]
  · rw [hrange, coveredMessages] at he
    exact choiceOf_of_mem_choiceMessages (List.mem_of_mem_filter he)

end Messages

/-! ### The messages of a choice in a run -/

/-- The batch that is being processed. -/
def currentBatch : ChatStage → Option Batch
  | .building batch => some batch
  | .checkingFinish batch => some batch
  | _ => none

/-- The response that has been sent for a choice while its batch is not yet processed. -/
def pendingFor (stream : List (Item Error ChatCompletionChunk)) (c : ChoiceIndex) :
    ChatStage → List ChatCompletionChunk
  | .checkingFinish batch => if batch.1 = c then [responseTo stream batch] else []
  | _ => []

/-- The message a batch ends in was among the first ones of its choice that were stored. -/
structure LookedUp (stream : List (Item Error ChatCompletionChunk)) (p : Batch × List ℕ) :
    Prop where
  ordered : p.1.2.1.inputStartIndex ≤ p.1.2.1.inputEndIndex
  ends : p.1.2.1.inputEndIndex ∈ p.2
  first : p.2 <+: indicesOf p.1.1 stream

/-- What was stored for a batch, by its indices. -/
theorem LookedUp.keys_storedMessages {stream : List (Item Error ChatCompletionChunk)}
    {p : Batch × List ℕ} (h : LookedUp stream p) :
    (storedMessages p.1.1 stream p.2.length).keys = p.2 := by
  rw [OrderedMap.keys, storedMessages, List.map_take]
  exact (List.prefix_iff_eq_take.mp h.first).symm

/-- The messages sent for a choice are the answers to its processed batches, followed by the
response to the batch being processed; and that batch ends in a stored message. -/
structure Answers (stream : List (Item Error ChatCompletionChunk)) (s : ChatStreaming) :
    Prop where
  sent : ∀ c, sentFor c s =
    (processedFor c s).flatMap (answersTo stream) ++ pendingFor stream c s.stage
  processed : ∀ p ∈ s.processed, LookedUp stream p
  ends : ∀ batch, currentBatch s.stage = some batch →
    batch.2.1.inputEndIndex ∈ (s.task.completionState.messages batch.1).keys
  ordered : ∀ batch, s.stage = .checkingFinish batch →
    batch.2.1.inputStartIndex ≤ batch.2.1.inputEndIndex

theorem sentFor_send (c : ChoiceIndex) (s : ChatStreaming)
    (items : List (Item Error ChatCompletionChunk)) :
    sentFor c (s.send items) = sentFor c s ++ items.filterMap (messageFor c) := by
  simp [sentFor, send]

theorem filterMap_messageFor_eq_nil {c : ChoiceIndex}
    {items : List (Item Error ChatCompletionChunk)}
    (h : ∀ m, .ok (some m) ∈ items → choiceOf m ≠ some c) :
    items.filterMap (messageFor c) = [] := by
  rw [List.filterMap_eq_nil_iff]
  rintro (error | (_ | m)) hm
  · rfl
  · rfl
  · simp [messageFor, h m hm]

/-- Messages of one choice count for that choice only. -/
theorem filterMap_messageFor_map {c c' : ChoiceIndex} {messages : List ChatCompletionChunk}
    (h : ∀ m ∈ messages, choiceOf m = some c') :
    (messages.map fun m => .ok (some m)).filterMap (messageFor c) =
      if c' = c then messages else [] := by
  induction messages with
  | nil => simp
  | cons m messages ih =>
    have hm := h m List.mem_cons_self
    rw [List.map_cons, List.filterMap_cons, ih fun m' hm' => h m' (List.mem_cons_of_mem m hm')]
    by_cases hc : c' = c <;> simp [messageFor, hm, hc]

namespace Answers

variable {stream : List (Item Error ChatCompletionChunk)} {s t : ChatStreaming}

theorem startDetection (request : StreamingRequest ChatCompletionChunk)
    (stream : List (Item Error ChatCompletionChunk)) (batches : List (Except Error Batch)) :
    Answers stream (startDetection request stream batches) where
  sent _ := rfl
  processed := by simp [ChatStreaming.startDetection]
  ends := by simp [ChatStreaming.startDetection, currentBatch]
  ordered := by simp [ChatStreaming.startDetection]

/-- A step that sends nothing for a choice and does not look up messages. -/
theorem of_sentFor_eq (h : Answers stream s) (hsent : ∀ c, sentFor c t = sentFor c s)
    (hprocessed : t.processed = s.processed)
    (hbefore : ∀ batch, s.stage ≠ .checkingFinish batch)
    (hafter : ∀ batch, t.stage ≠ .checkingFinish batch)
    (hends : ∀ batch, currentBatch t.stage = some batch →
      batch.2.1.inputEndIndex ∈ (t.task.completionState.messages batch.1).keys) :
    Answers stream t where
  sent c := by
    have hpending : ∀ stage : ChatStage, (∀ batch, stage ≠ .checkingFinish batch) →
        pendingFor stream c stage = [] := by
      intro stage hstage
      cases stage with
      | checkingFinish batch => exact absurd rfl (hstage batch)
      | _ => rfl
    rw [hsent, h.sent, hpending _ hbefore, hpending _ hafter, processedFor, processedFor,
      hprocessed]
  processed := hprocessed ▸ h.processed
  ends := hends
  ordered batch hstage := absurd hstage (hafter batch)

theorem goto (h : Answers stream s) (stage : ChatStage)
    (hbefore : ∀ batch, s.stage ≠ .checkingFinish batch) (hafter : currentBatch stage = none) :
    Answers stream (s.goto stage) := by
  refine h.of_sentFor_eq (fun _ => rfl) rfl hbefore ?_ ?_
  · rintro batch (rfl : stage = .checkingFinish batch)
    simp [currentBatch] at hafter
  · intro batch hbatch
    exact absurd (hafter.symm.trans hbatch) (by simp)

/-- Messages that belong to no choice. -/
theorem send (h : Answers stream s) (items : List (Item Error ChatCompletionChunk))
    (hitems : ∀ c m, .ok (some m) ∈ items → choiceOf m ≠ some c)
    (hbefore : ∀ batch, s.stage ≠ .checkingFinish batch) : Answers stream (s.send items) := by
  refine h.of_sentFor_eq ?_ rfl hbefore hbefore h.ends
  intro c
  rw [sentFor_send, filterMap_messageFor_eq_nil (hitems c), List.append_nil]

theorem fail (h : Answers stream s) (error : Error)
    (hbefore : ∀ batch, s.stage ≠ .checkingFinish batch) : Answers stream (s.fail error) :=
  (h.send _ (by simp) hbefore).goto _ hbefore rfl

theorem stepConsumer (h : Answers stream s) (hdetects : Detects s) (hfollows : Follows stream s)
    (hstep : s.stepConsumer = some t) : Answers stream t := by
  obtain ⟨action, consumer, hconsumer, -, rfl⟩ := exists_of_stepConsumer hstep
  refine ⟨?_, h.processed, ?_, h.ordered⟩
  · intro c
    rw [sentFor, hdetects.sent_perform hconsumer]
    exact h.sent c
  · intro batch hstage
    have hstored := hfollows.stored
    rw [hconsumer] at hstored
    rw [OrderedMap.keys, hstored.entries_perform, List.map_append]
    exact List.mem_append_left _ (h.ends batch hstage)

/-- Sending the response to a batch. -/
theorem responseSent (h : Answers stream s) (hfollows : Follows stream s) {batch : Batch}
    {completions : OrderedMap ℕ ChatCompletionChunk} {m : ChatCompletionChunk}
    (hstage : s.stage = .building batch) (hentry : s.completions batch.1 = some completions)
    (hresponse : outputDetectionResponse completions batch.1 batch.2.1 batch.2.2 = some (.ok m)) :
    Answers stream ((s.send [.ok (some m)]).goto (.checkingFinish batch)) := by
  have hend := h.ends batch (by rw [hstage]; rfl)
  have hstored := hfollows.entries_initial batch.1
  rw [CompletionState.messages_of_get? hentry] at hend hstored
  obtain ⟨rfl, hchoice, hordered⟩ := eq_responseTo hstored hend hresponse
  refine ⟨?_, h.processed, ?_, ?_⟩
  · intro c
    have hpending : pendingFor stream c s.stage = [] := by rw [hstage]; rfl
    change sentFor c (s.send ([responseTo stream batch].map fun m => .ok (some m))) = _
    rw [sentFor_send, h.sent, filterMap_messageFor_map (by simpa using hchoice), hpending,
      List.append_nil]
    rfl
  · intro batch' hbatch
    obtain rfl := Option.some.inj hbatch
    exact h.ends batch (by rw [hstage]; rfl)
  · intro batch' hbatch
    obtain rfl := ChatStage.checkingFinish.inj hbatch
    exact hordered

/-- Checking the finish reason after a response. -/
theorem finishChecked (h : Answers stream s) (hfollows : Follows stream s) {batch : Batch}
    {completions : OrderedMap ℕ ChatCompletionChunk} (hstage : s.stage = .checkingFinish batch)
    (hentry : s.completions batch.1 = some completions) :
    Answers stream
      { (s.send ((finishMessage completions batch.2.1.inputEndIndex).toList.map fun m =>
          .ok (some m))).goto .awaitingBatch with
        processed := s.processed ++ [(batch, completions.keys)] } := by
  have hend := h.ends batch (by rw [hstage]; rfl)
  have hstored := hfollows.entries_initial batch.1
  rw [CompletionState.messages_of_get? hentry] at hend hstored
  have hchoice : ∀ m ∈ (finishMessage completions batch.2.1.inputEndIndex).toList,
      choiceOf m = some batch.1 := by
    intro m hm
    obtain ⟨-, last, hlast, -, rfl⟩ := finishMessage_eq_some_iff.mp (Option.mem_toList.mp hm)
    rw [choiceOf_withRole]
    exact choiceOf_of_mem_choiceMessages (hstored.subset (List.mem_of_getLast? hlast))
  have hfinish : finishMessageOf stream (batch, completions.keys) =
      finishMessage completions batch.2.1.inputEndIndex := by
    rw [finishMessageOf, ← eq_storedMessages hstored]
  refine ⟨?_, ?_, by simp [ChatStreaming.goto, currentBatch], by simp [ChatStreaming.goto]⟩
  · intro c
    change sentFor c (s.send _) = ((s.processed ++ [(batch, completions.keys)]).filter _).flatMap _
      ++ []
    rw [sentFor_send, h.sent, hstage, filterMap_messageFor_map hchoice, List.filter_append,
      List.flatMap_append, ← processedFor, pendingFor, List.append_nil, List.append_assoc]
    -- the response and the additional message are the answers to this batch
    by_cases hc : batch.1 = c <;> simp [hc, answersTo, hfinish]
  · intro p hp
    rcases List.mem_append.mp hp with hp | hp
    · exact h.processed p hp
    · obtain rfl := List.mem_singleton.mp hp
      exact ⟨h.ordered batch hstage, hend, hstored.map _⟩

/-- One step of the main task. -/
theorem stepMain {request : StreamingRequest ChatCompletionChunk} (h : Answers stream s)
    (hdetects : Detects s) (hfollows : Follows stream s) (hcausal : Causal s .main)
    (hstep : MainStep request s t) : Answers stream t := by
  cases hstep with
  | streamsCreated hstage | streamCreated hstage | streamPanicked hstage | batchesEnded hstage
  | responsePanicked hstage | finalSkipped hstage | metadataMissing hstage | wholeDocStarted hstage
  | wholeDocPanicked hstage => exact h.goto _ (by simp [hstage]) rfl
  | @forwarded detecting hstage =>
    exact h.goto _ (by simp [hstage]) (by cases detecting <;> rfl)
  | streamFailed hstage | wholeDocFailed hstage | completed hstage =>
    refine (h.send _ (by simp) (by simp [hstage])).goto _ ?_ rfl
    simp [ChatStreaming.send, hstage]
  | responseFailed hstage => exact h.fail _ (by simp [hstage])
  | @batchFailed error batches hstage =>
    have hrest : Answers stream { s with batches } := ⟨h.sent, h.processed, h.ends, h.ordered⟩
    exact hrest.fail _ (by simp [hstage])
  | @batchReceived batch batches hstage hbatches =>
    refine h.of_sentFor_eq (fun _ => rfl) rfl (by simp [hstage]) (by simp [ChatStreaming.goto]) ?_
    intro batch' heq
    obtain rfl := Option.some.inj heq
    -- the message the batch ends in was stored before its text went to the pipeline
    obtain ⟨⟨c', input⟩, hmem, rfl, hindex⟩ :=
      hcausal rfl hstage batch (by simp [hbatches, Except.toOption])
    rcases input with error | ⟨i, text⟩
    · simp [Except.toOption] at hindex
    · obtain rfl : i = batch.2.1.inputEndIndex := by simpa [Except.toOption] using hindex
      exact hfollows.received _ _ text hmem
  | responseSent hstage hentry hresponse => exact h.responseSent hfollows hstage hentry hresponse
  | finishChecked hstage hentry => exact h.finishChecked hfollows hstage hentry
  | finalSent hstage =>
    refine (h.send _ ?_ (by simp [hstage])).goto _ ?_ rfl
    · simp [choiceOf, finalMessage]
    · simp [ChatStreaming.send, hstage]
  | wholeDocSent hstage =>
    refine (h.send _ ?_ (by simp [hstage])).goto _ ?_ rfl
    · simp [choiceOf, hdetects.wholeDoc _ hstage]
    · simp [ChatStreaming.send, hstage]

theorem step {request : StreamingRequest ChatCompletionChunk} {a : ChatLabel}
    (h : Answers stream s) (hdetects : Detects s) (hfollows : Follows stream s)
    (hcausal : Causal s a) (hstep : s.step request a = some t) : Answers stream t := by
  cases a with
  | consumer => exact h.stepConsumer hdetects hfollows hstep
  | main => exact h.stepMain hdetects hfollows hcausal (mainStep_of_stepMain hstep)
  | timeout =>
    obtain ⟨batch, hentry, ⟨hstage, error, rfl⟩ | ⟨hstage, rfl⟩⟩ := exists_of_stepTimeout hstep
    · exact h.fail error (by simp [hstage])
    · -- the entry exists, since the batch ends in a stored message
      have hend := h.ends batch (by rw [hstage]; rfl)
      rw [completions, CompletionState.get?_of_mem_keys hend] at hentry
      simp at hentry

end Answers

/-- **The messages for a choice.** In every state of a run in which no batch is half processed,
the messages sent for a choice are the answers to its processed batches. -/
theorem answers_of_exec {request : StreamingRequest ChatCompletionChunk}
    {stream : List (Item Error ChatCompletionChunk)} {batches : List (Except Error Batch)}
    {w : List ChatLabel} {s : ChatStreaming}
    (hcausal : Meets (ChatStreaming.step request) Causal (startDetection request stream batches) w)
    (hrun : exec (ChatStreaming.step request) (startDetection request stream batches) w = some s) :
    Answers stream s := by
  have hinvariant : Detects s ∧ Follows stream s ∧ Answers stream s := by
    refine exec_invariant (I := fun s => Detects s ∧ Follows stream s ∧ Answers stream s) ?_
      ⟨Detects.startDetection request stream batches, Follows.startDetection request stream batches,
        Answers.startDetection request stream batches⟩ hcausal hrun
    intro s a t ⟨hdetects, hfollows, hanswers⟩ hok hstep
    exact ⟨hdetects.step hstep, hfollows.step hstep, hanswers.step hdetects hfollows hok hstep⟩
  exact hinvariant.2.2

/-- Outside of the finish check, no batch is half processed. -/
theorem Answers.sentFor_eq {stream : List (Item Error ChatCompletionChunk)} {s : ChatStreaming}
    (h : Answers stream s) (hstage : ∀ batch, s.stage ≠ .checkingFinish batch) (c : ChoiceIndex) :
    sentFor c s = (processedFor c s).flatMap (answersTo stream) := by
  rw [h.sent]
  cases hcases : s.stage with
  | checkingFinish batch => exact absurd hcases (hstage batch)
  | _ => exact List.append_nil _

end ChatStreaming

end GuardrailsOrchestrator
