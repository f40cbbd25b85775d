import GuardrailsOrchestrator.Completions.Responses
import GuardrailsOrchestrator.Completions.Screening
import GuardrailsOrchestrator.Completions.Termination

/-!
# Texts and finish reasons of streamed completions

The text of a response is that of its batch, but everything else, the finish reason
included, is copied from the last message in the batch's range. If the batches of a choice
hold its text and end in its last message with text, the client receives the text and, in
the last message, the finish reason. But each response whose range contains the finishing
message has the finish reason, so it is not set in the last message alone when the chunker
cuts the text of the finishing message.

## Main results

* `completion_text_finishReason` — the text and the final finish reason are kept
* `completion_finishesAtEnd_iff` — when the finish reason is set in the last message alone
-/

namespace GuardrailsOrchestrator

open ResponseProtocol Transition

namespace CompletionStreaming

variable {c : ChoiceIndex} {stream : List (Item Error Completion)} {batches : List Batch}

/-! ### Runs that process all batches -/

/-- Before the batches are processed, one of the tasks can take a settled step: the consumer
goes on, or it has stored everything. -/
theorem exists_settled_step (request : StreamingRequest Completion) {s : CompletionStreaming}
    (h : ¬ (s.hasAnswered = true ∨ s.stage = .aborted)) :
    ∃ a t, Settled s a ∧ s.step request a = some t := by
  have hended : ¬ (responder request).Ended s := by
    cases hstage : s.stage <;>
      simp_all [hasAnswered, Responder.Ended, responder, outlook]
  -- once everything is stored each step is settled; before that the consumer can move
  cases hconsumer : s.consumer with
  | nil =>
    obtain ⟨a, t, hstep⟩ := exists_step_of_not_ended request hended
    exact ⟨a, t, settled_of_consumed hconsumer a, hstep⟩
  | cons action consumer =>
    cases hstage : s.stage with
    | creatingStreams choices =>
      have hmain := isSome_stepMain request hended (by simp [hstage]) (by simp [hstage])
      obtain ⟨t, hstep⟩ := Option.isSome_iff_exists.mp hmain
      exact ⟨.main, t, by simp [Settled, builtBatch, hstage], hstep⟩
    | awaitingBatch | building | sendingLast =>
      have hmove : s.stepConsumer.isSome = true := by simp [stepConsumer, hstage, hconsumer]
      obtain ⟨t, hstep⟩ := Option.isSome_iff_exists.mp hmove
      exact ⟨.consumer, t, trivial, hstep⟩
    | _ => simp [hasAnswered, hstage] at h

/-- A run can be continued until the batches are processed, or creating the detection streams
panics. -/
theorem exists_hasAnswered (request : StreamingRequest Completion) (s : CompletionStreaming) :
    ∃ w t, Meets (step request) Settled s w ∧ exec (step request) s w = some t ∧
      (t.hasAnswered = true ∨ t.stage = .aborted) :=
  exists_exec_of_progress (fun _ _ _ hstep => budget_lt_of_step hstep)
    (fun _ h => exists_settled_step request h) s

/-- What is sent stays sent. -/
theorem sent_initial_of_exec {request : StreamingRequest Completion} {s t : CompletionStreaming}
    {w : List CompletionLabel} (hdetects : Detects s) (hrun : exec (step request) s w = some t) :
    s.task.sent <+: t.task.sent := by
  have hinvariant : Detects t ∧ s.task.sent <+: t.task.sent := by
    refine exec_invariant_all (I := fun t => Detects t ∧ s.task.sent <+: t.task.sent) ?_
      ⟨hdetects, List.prefix_refl _⟩ hrun
    rintro u a u' ⟨hu, hinitial⟩ hstep
    exact ⟨hu.step hstep, hinitial.trans ⟨_, sent_append_messagesSent hu hstep⟩⟩
  exact hinvariant.2

/-! ### Text -/

/-- The text of a choice: that of its messages. -/
def choiceText (c : ChoiceIndex) (items : List (Item Error Completion)) : String :=
  String.join ((messagesFor c items).map Completion.text)

/-- The last message of a choice that has text. -/
def lastWithText (c : ChoiceIndex) (stream : List (Item Error Completion)) :
    Option (ℕ × Completion) :=
  ((choiceMessages c stream).filter (·.2.text ≠ "")).getLast?

/-- The batches of a choice hold its text, and the last one ends in the last message with
text. -/
structure HoldsText (stream : List (Item Error Completion)) (c : ChoiceIndex)
    (batches : List Batch) : Prop where
  text : String.join ((batchesOf c batches).map (·.2.1.text)) = choiceText c stream
  last : ∃ e, lastWithText c stream = some e ∧
    (batchesOf c batches).getLast?.map (·.2.1.inputEndIndex) = some e.1

theorem text_responseTo {batch : Batch} (h : CoversOwn stream batch) :
    (responseTo stream batch).text = batch.2.1.text := by
  obtain ⟨e, he, -, hlast, -⟩ := exists_lastCovered h
  rw [responseTo, hlast, Option.getD_some]
  apply text_withDetections
  intro hnil
  have hchoice := choiceOf_of_mem_choiceMessages he
  simp [choiceOf, hnil] at hchoice

theorem finishReason_responseTo (stream : List (Item Error Completion)) (batch : Batch) :
    (responseTo stream batch).finishReason =
      ((lastCovered stream batch).getD {}).finishReason := by
  cases hchoices : ((lastCovered stream batch).getD {}).choices <;>
    simp [responseTo, Completion.finishReason, withDetections, Completion.modifyChoice, hchoices]

theorem map_text_responses (hcovers : ∀ batch ∈ batches, CoversOwn stream batch) :
    (responses stream c batches).map Completion.text = (batchesOf c batches).map (·.2.1.text) := by
  rw [responses, List.map_map]
  apply List.map_congr_left
  intro batch hbatch
  exact text_responseTo (hcovers batch (List.mem_of_mem_filter hbatch))

/-! ### The last message of a choice -/

section Last

variable {last : ℕ × Completion}

/-- The last message of a choice has the greatest index. -/
theorem le_of_getLast? (hlast : (choiceMessages c stream).getLast? = some last)
    {e : ℕ × Completion} (he : e ∈ choiceMessages c stream) : e = last ∨ e.1 < last.1 := by
  obtain ⟨before, hmessages⟩ := List.getLast?_eq_some_iff.mp hlast
  have hascending := choiceMessages_ascending c stream
  rw [hmessages] at he hascending
  rcases List.mem_append.mp he with he | he
  · exact Or.inr ((List.pairwise_append.mp hascending).2.2 e he last (by simp))
  · exact Or.inl (List.mem_singleton.mp he)

/-- A batch whose range contains the last message of its choice is answered with it. -/
theorem lastCovered_eq_last {batch : Batch}
    (hlast : (choiceMessages batch.1 stream).getLast? = some last)
    (hcovers : Covers batch last.1) : lastCovered stream batch = some last.2 := by
  have hmem := List.mem_of_getLast? hlast
  obtain ⟨e, he, hcovered, heq, hgreatest⟩ := exists_lastCovered ⟨last, hmem, hcovers⟩
  rcases le_of_getLast? hlast he with rfl | hlt
  · exact heq
  · exact absurd (hgreatest last hmem hcovers) (Nat.not_le.mpr hlt)

theorem getLast?_messagesFor (hlast : (choiceMessages c stream).getLast? = some last) :
    (messagesFor c stream).getLast? = some last.2 := by
  rw [← map_snd_choiceMessages, List.getLast?_map, hlast, Option.map_some]

/-- If the last message of a choice has text, it is the last one with text. -/
theorem eq_last_of_lastWithText {e : ℕ × Completion} (he : lastWithText c stream = some e)
    (hlast : (choiceMessages c stream).getLast? = some last) (htext : last.2.text ≠ "") :
    e = last := by
  obtain ⟨before, hmessages⟩ := List.getLast?_eq_some_iff.mp hlast
  rw [lastWithText, hmessages, List.filter_append] at he
  simp [htext] at he
  exact he.symm

end Last

/-- The messages of a choice whose batches hold its text. -/
theorem text_finishReason_of_messagesFor {sent : List (Item Error Completion)}
    (hcovers : ∀ batch ∈ batches, CoversOwn stream batch) (hholds : HoldsText stream c batches)
    (hsent : messagesFor c sent =
      responses stream c batches ++ (lastResponse stream c batches).toList) :
    choiceText c sent = choiceText c stream ∧
      ∃ m last, (messagesFor c sent).getLast? = some m ∧
        (messagesFor c stream).getLast? = some last ∧ m.finishReason = last.finishReason := by
  obtain ⟨e, he, hend⟩ := hholds.last
  -- the last batch decides what the last message sent is
  obtain ⟨batch, hbatch, hendIndex⟩ := Option.map_eq_some_iff.mp hend
  obtain ⟨last, hlast⟩ := exists_getLast?_choiceMessages hcovers (List.mem_of_getLast? hbatch)
  obtain ⟨hmem, rfl⟩ := mem_batchesOf.mp (List.mem_of_getLast? hbatch)
  have hresponse := lastResponse_of_getLast? hlast hbatch
  by_cases heq : last.1 = batch.2.1.inputEndIndex
  · -- the last batch ends in the last message and nothing follows it
    have hnone : lastResponse stream batch.1 batches = none := by
      simp [hresponse, lastMessage, heq]
    rw [hnone, Option.toList_none, List.append_nil] at hsent
    obtain ⟨e', -, hstart, hstop⟩ := hcovers batch hmem
    have hcoversLast : Covers batch last.1 := ⟨(hstart.trans hstop).trans heq.ge, heq.le⟩
    refine ⟨?_, responseTo stream batch, last.2, ?_, getLast?_messagesFor hlast, ?_⟩
    · rw [choiceText, hsent, map_text_responses hcovers, hholds.text]
    · rw [hsent, responses, List.getLast?_map, hbatch, Option.map_some]
    · rw [finishReason_responseTo, lastCovered_eq_last hlast hcoversLast, Option.getD_some]
  · -- the last message comes after the last one with text
    have hsome : lastResponse stream batch.1 batches = some last.2 := by
      simp [hresponse, lastMessage, heq]
    have hempty : last.2.text = "" := by
      by_contra htext
      rw [eq_last_of_lastWithText he hlast htext] at hendIndex
      exact heq hendIndex.symm
    rw [hsome, Option.toList_some] at hsent
    refine ⟨?_, last.2, last.2, ?_, getLast?_messagesFor hlast, rfl⟩
    · rw [choiceText, hsent, List.map_append, String.join_append, map_text_responses hcovers,
        hholds.text]
      simp [hempty]
    · rw [hsent, List.getLast?_append, List.getLast?_singleton, Option.some_or]

/-! ### Finish reasons -/

/-- Of the messages of a choice, only the last one may have a finish reason. -/
def FinishesAtEnd (c : ChoiceIndex) (items : List (Item Error Completion)) : Prop :=
  ∀ m ∈ (messagesFor c items).dropLast, m.finishReason = none

/-- If the last message of a choice has a finish reason, none of its batches but the last
has that message in its range, and the last one only if it ends in it. -/
def FinishesUncut (stream : List (Item Error Completion)) (c : ChoiceIndex)
    (batches : List Batch) : Prop :=
  ∀ last ∈ (choiceMessages c stream).getLast?, last.2.finishReason ≠ none →
    (∀ batch ∈ (batchesOf c batches).dropLast, ¬ Covers batch last.1) ∧
      ∀ batch ∈ (batchesOf c batches).getLast?, Covers batch last.1 →
        batch.2.1.inputEndIndex = last.1

instance (c : ChoiceIndex) (items : List (Item Error Completion)) :
    Decidable (FinishesAtEnd c items) :=
  inferInstanceAs (Decidable (∀ m ∈ _, _))

instance : Decidable (FinishesUncut stream c batches) :=
  inferInstanceAs (Decidable (∀ last ∈ _, _))

/-- What holds of all messages holds of the first ones. -/
theorem FinishesAtEnd.of_initial {items items' : List (Item Error Completion)}
    (h : FinishesAtEnd c items') (hinitial : items <+: items') : FinishesAtEnd c items := by
  obtain ⟨rest, rfl⟩ := hinitial
  intro m hm
  apply h m
  rw [messagesFor_append]
  cases hrest : messagesFor c rest with
  | nil => rwa [List.append_nil]
  | cons m' l =>
    rw [List.dropLast_append_of_ne_nil (by simp)]
    exact List.mem_append_left _ (List.mem_of_mem_dropLast hm)

/-- A response has no finish reason unless it is made from the finishing message. -/
theorem finishReason_responseTo_eq_none_iff {batch : Batch} {last : ℕ × Completion}
    (hstream : FinishesAtEnd batch.1 stream) (hown : CoversOwn stream batch)
    (hlast : (choiceMessages batch.1 stream).getLast? = some last) :
    (responseTo stream batch).finishReason = none ↔
      (last.2.finishReason ≠ none → ¬ Covers batch last.1) := by
  rw [finishReason_responseTo]
  by_cases hcovers : Covers batch last.1
  · rw [lastCovered_eq_last hlast hcovers]
    simp [hcovers]
  · obtain ⟨e, he, hcovered, heq, -⟩ := exists_lastCovered hown
    rw [heq, Option.getD_some]
    refine iff_of_true (hstream e.2 ?_) fun _ => hcovers
    -- it is one of the messages before the last
    obtain ⟨before, hmessages⟩ := List.getLast?_eq_some_iff.mp hlast
    rw [← map_snd_choiceMessages, hmessages, List.map_append]
    rw [hmessages] at he
    rcases List.mem_append.mp he with he | he
    · simpa using ⟨e.1, he⟩
    · rw [List.mem_singleton.mp he] at hcovered
      exact absurd hcovered hcovers

/-- None of the responses to some batches of a choice has a finish reason exactly when none
of the batches has the finishing message in its range. -/
theorem finishReason_responses_eq_none_iff {last : ℕ × Completion} {l : List Batch}
    (hcovers : ∀ batch ∈ batches, CoversOwn stream batch) (hstream : FinishesAtEnd c stream)
    (hlast : (choiceMessages c stream).getLast? = some last) (hl : l ⊆ batchesOf c batches) :
    (∀ m ∈ l.map (responseTo stream), m.finishReason = none) ↔
      (last.2.finishReason ≠ none → ∀ batch ∈ l, ¬ Covers batch last.1) := by
  have hnone : ∀ batch ∈ l, ((responseTo stream batch).finishReason = none ↔
      (last.2.finishReason ≠ none → ¬ Covers batch last.1)) := by
    intro batch hbatch
    obtain ⟨hmem, rfl⟩ := mem_batchesOf.mp (hl hbatch)
    exact finishReason_responseTo_eq_none_iff hstream (hcovers batch hmem) hlast
  rw [List.forall_mem_map]
  constructor
  · intro h hfinish batch hbatch
    exact (hnone batch hbatch).mp (h batch hbatch) hfinish
  · intro h batch hbatch
    exact (hnone batch hbatch).mpr fun hfinish => h hfinish batch hbatch

theorem finishesAtEnd_iff_of_messagesFor {sent : List (Item Error Completion)}
    (hcovers : ∀ batch ∈ batches, CoversOwn stream batch) (hstream : FinishesAtEnd c stream)
    (hsent : messagesFor c sent =
      responses stream c batches ++ (lastResponse stream c batches).toList) :
    FinishesAtEnd c sent ↔ FinishesUncut stream c batches := by
  rw [FinishesAtEnd, FinishesUncut, hsent, responses]
  cases hbatch : (batchesOf c batches).getLast? with
  | none =>
    have hempty := List.getLast?_eq_none_iff.mp hbatch
    simp [hempty, lastResponse_eq_none hempty]
  | some batch =>
    obtain ⟨before, hbatches⟩ := List.getLast?_eq_some_iff.mp hbatch
    obtain ⟨last, hlast⟩ := exists_getLast?_choiceMessages hcovers (List.mem_of_getLast? hbatch)
    have hbefore := finishReason_responses_eq_none_iff (l := before) hcovers hstream hlast
      (by simp [hbatches])
    have hend := finishReason_responses_eq_none_iff (l := [batch]) hcovers hstream hlast
      (by simp [hbatches])
    rw [List.map_singleton, List.forall_mem_singleton, List.forall_mem_singleton] at hend
    rw [lastResponse_of_getLast? hlast hbatch, hlast, hbatches, List.map_append]
    simp only [Option.mem_some_iff, forall_eq', List.dropLast_concat, List.map_singleton]
    by_cases heq : last.1 = batch.2.1.inputEndIndex
    · -- the last response is the last message
      rw [lastMessage, if_neg (not_not.mpr heq), Option.toList_none, List.append_nil,
        List.dropLast_concat, hbefore]
      simp [heq]
    · rw [lastMessage, if_pos heq, Option.toList_some, List.dropLast_concat,
        List.forall_mem_append, hbefore, List.forall_mem_singleton, hend]
      simp only [Ne.symm heq, imp_false]
      exact forall_and.symm

end CompletionStreaming

open CompletionStreaming

section Results

variable {request : StreamingRequest Completion} {stream : List (Item Error Completion)}
  {batches : List Batch} {w : List CompletionLabel} {s : CompletionStreaming}

/-- **Text and finish reason.** Unless creating the detection streams panics, every run with
settled steps can be continued until the batches are processed. Then the messages sent for a choice
whose batches hold its text have the text of the choice, and the last of them has the finish reason
of the choice's last message. -/
theorem completion_text_finishReason (hcovers : ∀ batch ∈ batches, CoversOwn stream batch)
    (hsettled : Meets (step request) Settled
      (startDetection request stream (batches.map .ok)) w)
    (hrun : exec (step request) (startDetection request stream (batches.map .ok)) w = some s) :
    (request.CreatesStreams → ∃ w' t, Meets (step request) Settled s w' ∧
      exec (step request) s w' = some t ∧ t.hasAnswered = true) ∧
    (s.hasAnswered = true → ∀ c, HoldsText stream c batches →
      choiceText c s.task.sent = choiceText c stream ∧
        ∃ m last, (messagesFor c s.task.sent).getLast? = some m ∧
          (messagesFor c stream).getLast? = some last ∧ m.finishReason = last.finishReason) := by
  refine ⟨?_, ?_⟩
  · intro hcreates
    obtain ⟨w', t, hsettled', hrun', hend⟩ := exists_hasAnswered request s
    refine ⟨w', t, hsettled', hrun', hend.resolve_right ?_⟩
    -- no choice aborts the run
    have hs : Spawns request s := exec_invariant_all (fun _ _ _ h hstep => h.step hstep)
      (Spawns.startDetection request stream _) hrun
    have ht : Spawns request t := exec_invariant_all (fun _ _ _ h hstep => h.step hstep) hs hrun'
    exact ht.stage_ne_aborted hcreates
  · intro hanswered c hholds
    exact text_finishReason_of_messagesFor hcovers hholds
      (messagesFor_eq_of_settled hcovers hsettled hrun hanswered c)

/-- Two messages with text, and one without that finishes the choice. -/
def threeMessages : List (Item Error Completion) :=
  [textCompletion "Hi." none, textCompletion " Bye." none, textCompletion "" (some "stop")]

/-- A batch of choice 0 whose chunk is in one message. -/
def messageBatch (index : ℕ) (text : String) : Batch :=
  (0, { inputStartIndex := index, inputEndIndex := index, text }, [])

/-- All messages are consumed, the batches are answered and the last message is looked up. -/
def consumedRun (effects batches : ℕ) : List CompletionLabel :=
  List.replicate 2 .main ++ List.replicate effects .consumer ++
    List.replicate (2 * batches + 1) .main ++ [.last 0, .main]

theorem completion_text_finishReason_threeMessages :
    ∃ s m, exec (step (sentenceRequest threeMessages))
        (startDetection (sentenceRequest threeMessages) threeMessages
          ([messageBatch 0 "Hi.", messageBatch 1 " Bye."].map .ok)) (consumedRun 7 2) = some s ∧
      s.hasAnswered = true ∧ choiceText 0 s.task.sent = choiceText 0 threeMessages ∧
      (messagesFor 0 s.task.sent).getLast? = some m ∧ m.finishReason = some "stop" := by
  have hrun := exec_eq_some_get (by decide :
    (exec (step (sentenceRequest threeMessages))
      (startDetection (sentenceRequest threeMessages) threeMessages
        ([messageBatch 0 "Hi.", messageBatch 1 " Bye."].map .ok)) (consumedRun 7 2)).isSome = true)
  have hanswered : ((exec (step (sentenceRequest threeMessages))
      (startDetection (sentenceRequest threeMessages) threeMessages
        ([messageBatch 0 "Hi.", messageBatch 1 " Bye."].map .ok)) (consumedRun 7 2)).get
          (by decide)).hasAnswered = true := by decide
  have hholds : HoldsText threeMessages 0 [messageBatch 0 "Hi.", messageBatch 1 " Bye."] :=
    ⟨by decide, _, rfl, rfl⟩
  obtain ⟨htext, m, last, hm, hlast, hfinish⟩ :=
    (completion_text_finishReason (by decide) (by decide) hrun).2 hanswered 0 hholds
  obtain rfl : _ = last := Option.some.inj hlast
  exact ⟨_, m, hrun, hanswered, htext, hm, hfinish⟩

/-- **Finish reason.** If the generation server sets the finish reason of a choice in its
last message alone and no batch cuts that message, then so do the messages sent for the
choice, in every state of a run with settled steps; and when the batches are processed, only
then. -/
theorem completion_finishesAtEnd_iff {c : ChoiceIndex}
    (hcovers : ∀ batch ∈ batches, CoversOwn stream batch) (hstream : FinishesAtEnd c stream)
    (hsettled : Meets (step request) Settled
      (startDetection request stream (batches.map .ok)) w)
    (hrun : exec (step request) (startDetection request stream (batches.map .ok)) w = some s) :
    (FinishesUncut stream c batches → FinishesAtEnd c s.task.sent) ∧
    (s.hasAnswered = true → FinishesAtEnd c s.task.sent → FinishesUncut stream c batches) := by
  refine ⟨?_, ?_⟩
  · intro huncut
    -- continue the run until the batches are processed
    obtain ⟨w', t, hsettled', hrun', hanswered⟩ := exists_hasAnswered request s
    have hall : exec (step request) (startDetection request stream (batches.map .ok)) (w ++ w') =
        some t := by rw [exec_append, hrun, Option.bind_some, hrun']
    have hmeets := meets_append hsettled hrun hsettled'
    have hend : FinishesAtEnd c t.task.sent := by
      rcases hanswered with hanswered | haborted
      · exact (finishesAtEnd_iff_of_messagesFor hcovers hstream
          (messagesFor_eq_of_settled hcovers hmeets hall hanswered c)).mpr huncut
      · simp [FinishesAtEnd, messagesFor_eq_nil_of_aborted hcovers hmeets hall haborted c]
    have hdetects : Detects s := exec_invariant_all (fun _ _ _ h hstep => h.step hstep)
      (Detects.startDetection request stream _) hrun
    exact hend.of_initial (sent_initial_of_exec hdetects hrun')
  · intro hanswered hend
    exact (finishesAtEnd_iff_of_messagesFor hcovers hstream
      (messagesFor_eq_of_settled hcovers hsettled hrun hanswered c)).mp hend

/-- Each message is a chunk. -/
theorem completion_finishesAtEnd_iff_chunkPerMessage :
    ∃ s, exec (step (sentenceRequest (twoTexts "Hi." " Bye.")))
        (startDetection (sentenceRequest (twoTexts "Hi." " Bye.")) (twoTexts "Hi." " Bye.")
          ([messageBatch 0 "Hi.", messageBatch 1 " Bye."].map .ok)) (consumedRun 5 2) = some s ∧
      s.hasAnswered = true ∧ (messagesFor 0 s.task.sent).length = 2 ∧
      FinishesUncut (twoTexts "Hi." " Bye.") 0 [messageBatch 0 "Hi.", messageBatch 1 " Bye."] ∧
      FinishesAtEnd 0 s.task.sent := by
  have hrun := exec_eq_some_get (by decide :
    (exec (step (sentenceRequest (twoTexts "Hi." " Bye.")))
      (startDetection (sentenceRequest (twoTexts "Hi." " Bye.")) (twoTexts "Hi." " Bye.")
        ([messageBatch 0 "Hi.", messageBatch 1 " Bye."].map .ok)) (consumedRun 5 2)).isSome = true)
  have huncut : FinishesUncut (twoTexts "Hi." " Bye.") 0
      [messageBatch 0 "Hi.", messageBatch 1 " Bye."] := by decide
  exact ⟨_, hrun, by decide, by decide, huncut,
    (completion_finishesAtEnd_iff (by decide) (by decide) (by decide) hrun).1 huncut⟩

/-- Two chunks in the finishing message: both responses have its finish reason. -/
theorem completion_not_finishesAtEnd_twoChunks :
    ∃ s, exec (step (sentenceRequest [textCompletion "Hi. Bye." (some "stop")]))
        (startDetection (sentenceRequest [textCompletion "Hi. Bye." (some "stop")])
          [textCompletion "Hi. Bye." (some "stop")]
          ([messageBatch 0 "Hi.", messageBatch 0 " Bye."].map .ok)) (consumedRun 3 2) = some s ∧
      s.hasAnswered = true ∧
      (∀ batch ∈ [messageBatch 0 "Hi.", messageBatch 0 " Bye."],
        CoversOwn [textCompletion "Hi. Bye." (some "stop")] batch) ∧
      HoldsText [textCompletion "Hi. Bye." (some "stop")] 0
        [messageBatch 0 "Hi.", messageBatch 0 " Bye."] ∧
      FinishesAtEnd 0 [textCompletion "Hi. Bye." (some "stop")] ∧
      ¬ FinishesAtEnd 0 s.task.sent := by
  have hrun := exec_eq_some_get (by decide :
    (exec (step (sentenceRequest [textCompletion "Hi. Bye." (some "stop")]))
      (startDetection (sentenceRequest [textCompletion "Hi. Bye." (some "stop")])
        [textCompletion "Hi. Bye." (some "stop")]
        ([messageBatch 0 "Hi.", messageBatch 0 " Bye."].map .ok)) (consumedRun 3 2)).isSome = true)
  exact ⟨_, hrun, by decide, by decide, ⟨by decide, _, rfl, rfl⟩, by decide, by decide⟩

end Results

end GuardrailsOrchestrator
