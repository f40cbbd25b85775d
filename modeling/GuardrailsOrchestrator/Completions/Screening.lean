import GuardrailsOrchestrator.Completions.Streaming
import GuardrailsOrchestrator.Lib.Execution

/-!
# Screening of streamed completions

With detectors that use a chunker, every message with text is to be the response made
from a batch. After the last batch the handler also sends the last stored message of each
choice, unless the choice's last batch ended in it. That message is meant to have no text,
but only its index is looked at: if the batches stopped before the end of the generated
text, it has text that no detector has examined. The result is that a run sends screened
text only exactly when this does not happen in it.
-/

namespace GuardrailsOrchestrator

open ResponseProtocol Transition

namespace CompletionStreaming

/-! ### The text and the detections of a response -/

section Response

variable {completions : OrderedMap ℕ Completion} {choiceIndex : ChoiceIndex} {chunk : Chunk}
  {detections : List Detection} {m : Completion}

theorem text_withDetections {stored : Completion} (hchoices : stored.choices ≠ [])
    (logprobs : Option CompletionLogprobs) :
    (withDetections stored logprobs choiceIndex chunk detections).text = chunk.text := by
  obtain ⟨choice, choices, heq⟩ := List.exists_cons_of_ne_nil hchoices
  simp [withDetections, Completion.text, Completion.modifyChoice, heq]

theorem text_of_outputDetectionResponse
    (h : outputDetectionResponse completions choiceIndex chunk detections = some (.ok m))
    (htext : m.text ≠ "") : m.text = chunk.text := by
  obtain ⟨stored, -, rfl⟩ := exists_of_outputDetectionResponse h
  apply text_withDetections
  intro hchoices
  simp [Completion.text, withDetections, Completion.modifyChoice, hchoices] at htext

theorem detections_of_outputDetectionResponse
    (h : outputDetectionResponse completions choiceIndex chunk detections = some (.ok m)) :
    m.detections = some (.ofChoice choiceIndex detections) := by
  obtain ⟨stored, -, rfl⟩ := exists_of_outputDetectionResponse h
  rfl

end Response

/-! ### Screened steps -/

/-- The messages a step from `s` to `t` sends. -/
def messagesSent (s t : CompletionStreaming) : List (Item Error Completion) :=
  t.task.sent.drop s.task.sent.length

/-- A message is the response to a batch, with the text and the detections of the batch. -/
structure RespondsTo (completions : OrderedMap ℕ Completion) (batch : Batch) (m : Completion) :
    Prop where
  built : outputDetectionResponse completions batch.1 batch.2.1 batch.2.2 = some (.ok m)
  text : m.text = batch.2.1.text
  detections : m.detections = some (.ofChoice batch.1 batch.2.2)

/-- Every message with text that the step sends is the response to a delivered batch. -/
def Screened (request : StreamingRequest Completion) (batches : List (Except Error Batch))
    (s : CompletionStreaming) (a : CompletionLabel) : Prop :=
  ∀ t, s.step request a = some t → ∀ m, .ok (some m) ∈ messagesSent s t → m.text ≠ "" →
    ∃ batch completions, .ok batch ∈ batches ∧ s.stage = .building batch ∧
      s.completions batch.1 = some completions ∧ RespondsTo completions batch m

/-- The end of the last batch of a choice, when the choice's last message is looked up. -/
def lastBatchEnd (s : CompletionStreaming) (choiceIndex : ChoiceIndex) : Option ℕ :=
  match s.stage with
  | .sendingLast choices =>
    (choices.lookup choiceIndex).bind fun indices => indices.getLast?.map (·.2)
  | _ => none

/-- When the last message of a choice is looked up, the choice's last batch ends in it or it
has no text. -/
def LastWithoutText (s : CompletionStreaming) : CompletionLabel → Prop
  | .last choiceIndex =>
    ∀ last ∈ (s.completions choiceIndex).bind (·.lastKeyValue),
      ∀ endIndex ∈ s.lastBatchEnd choiceIndex, last.1 = endIndex ∨ last.2.text = ""
  | _ => True

instance (s : CompletionStreaming) : ∀ a, Decidable (LastWithoutText s a)
  | .last _ => inferInstanceAs (Decidable (∀ last ∈ _, _))
  | .consumer => inferInstanceAs (Decidable True)
  | .main => inferInstanceAs (Decidable True)

/-- What remains to be answered comes from the given batches. -/
structure Draws (batches : List (Except Error Batch)) (s : CompletionStreaming) : Prop where
  remaining : s.batches ⊆ batches
  building : ∀ batch, s.stage = .building batch → .ok batch ∈ batches

namespace Draws

variable {request : StreamingRequest Completion} {batches : List (Except Error Batch)}
  {s t : CompletionStreaming}

theorem of_stage (h : Draws batches s) (hbatches : t.batches ⊆ s.batches)
    (hstage : ∀ batch, t.stage ≠ .building batch) : Draws batches t where
  remaining := List.Subset.trans hbatches h.remaining
  building batch hbuilding := absurd hbuilding (hstage batch)

theorem stepMain (h : Draws batches s) (hstep : MainStep request s t) : Draws batches t := by
  cases hstep with
  | batchFailed _ hbatches =>
    apply h.of_stage
    · simp [goto, send, hbatches]
    · simp [goto]
  | batchReceived _ hbatches =>
    refine ⟨?_, ?_⟩
    · intro result hresult
      exact h.remaining (by simp_all [goto])
    · intro batch heq
      obtain rfl := CompletionStage.building.inj heq
      exact h.remaining (by simp [hbatches])
  | @forwarded detecting =>
    apply h.of_stage
    · exact List.Subset.refl _
    · cases detecting <;> simp [goto]
  | _ => exact h.of_stage (List.Subset.refl _) (by simp [goto])

theorem step {a : CompletionLabel} (h : Draws batches s) (hstep : s.step request a = some t) :
    Draws batches t := by
  cases a with
  | consumer =>
    obtain ⟨action, consumer, -, -, rfl⟩ := exists_of_stepConsumer hstep
    exact ⟨h.remaining, h.building⟩
  | main => exact h.stepMain (mainStep_of_stepMain hstep)
  | last choiceIndex =>
    obtain ⟨choices, indices, -, -, ⟨-, rfl⟩ | ⟨last, endIndex, -, -, rfl⟩⟩ :=
      exists_of_stepLast hstep
    · exact h.of_stage (List.Subset.refl _) (by simp [goto])
    · exact h.of_stage (List.Subset.refl _) (by simp [goto])

end Draws

section Steps

variable {request : StreamingRequest Completion} {batches : List (Except Error Batch)}
  {s t : CompletionStreaming}

theorem messagesSent_eq {items : List (Item Error Completion)}
    (h : t.task.sent = s.task.sent ++ items) : messagesSent s t = items := by
  rw [messagesSent, h, List.drop_left]

/-- The main task sends text only in a response to a batch. -/
theorem building_of_messagesSent {m : Completion} (hdetects : Detects s)
    (hstep : MainStep request s t) (hm : .ok (some m) ∈ messagesSent s t) (htext : m.text ≠ "") :
    ∃ batch, s.stage = .building batch ∧ s.response batch = some (.ok m) := by
  cases hstep with
  | @responseSent batch m' hstage hresponse =>
    rw [messagesSent_eq rfl] at hm
    obtain rfl : m = m' := by simpa using hm
    exact ⟨batch, hstage, hresponse⟩
  | finalSent =>
    rw [messagesSent_eq rfl] at hm
    obtain rfl : m = _ := by simpa using hm
    simp [Completion.text, finalMessage] at htext
  | @wholeDocSent completion _ _ hstage =>
    rw [messagesSent_eq rfl] at hm
    obtain rfl : m = _ := by simpa using hm
    simp [Completion.text, hdetects.wholeDoc completion hstage] at htext
  | streamFailed | batchFailed | responseFailed | wholeDocFailed | completed =>
    rw [messagesSent_eq rfl] at hm
    simp at hm
  | _ => simp [messagesSent, goto] at hm

theorem screened_main (hdetects : Detects s) (hdraws : Draws batches s) :
    Screened request batches s .main := by
  intro t hstep m hm htext
  obtain ⟨batch, hstage, hresponse⟩ :=
    building_of_messagesSent hdetects (mainStep_of_stepMain hstep) hm htext
  obtain ⟨completions, hentry, hbuilt⟩ := Option.bind_eq_some_iff.mp hresponse
  exact ⟨batch, completions, hdraws.building batch hstage, hstage, hentry, hbuilt,
    text_of_outputDetectionResponse hbuilt htext, detections_of_outputDetectionResponse hbuilt⟩

theorem screened_consumer (hdetects : Detects s) : Screened request batches s .consumer := by
  intro t hstep m hm
  obtain ⟨action, consumer, hconsumer, -, rfl⟩ := exists_of_stepConsumer hstep
  have hsent : (s.task.perform action).sent = s.task.sent ++ [] := by
    rw [hdetects.sent_perform hconsumer, List.append_nil]
  rw [messagesSent_eq hsent] at hm
  simp at hm

/-- The last message of a choice is not the response to a batch, so it must not have text. -/
theorem screened_last_iff {choiceIndex : ChoiceIndex} (hstep : s.stepLast choiceIndex = some t) :
    Screened request batches s (.last choiceIndex) ↔ LastWithoutText s (.last choiceIndex) := by
  obtain ⟨choices, indices, hstage, hlookup, hcases⟩ := exists_of_stepLast hstep
  have hend : s.lastBatchEnd choiceIndex = indices.getLast?.map (·.2) := by
    rw [lastBatchEnd, hstage]
    simp only [hlookup, Option.bind_some]
  -- no batch is built in this step, so nothing with text may be sent
  have hscreened : Screened request batches s (.last choiceIndex) ↔
      ∀ m, .ok (some m) ∈ messagesSent s t → m.text = "" := by
    constructor
    · intro h m hm
      by_contra htext
      obtain ⟨batch, -, -, hbuilding, -⟩ := h t hstep m hm htext
      simp [hstage] at hbuilding
    · intro h t' hstep' m hm htext
      obtain rfl : t = t' := Option.some.inj (hstep.symm.trans hstep')
      exact absurd (h m hm) htext
  rw [hscreened, LastWithoutText, hend]
  rcases hcases with ⟨hmissing, rfl⟩ | ⟨last, endIndex, hlast, hindices, rfl⟩
  · -- a lookup panics, and nothing is sent
    have hnothing : messagesSent s (s.goto .panicked) = [] := List.drop_length
    rw [hnothing]
    rcases hmissing with hmissing | hmissing
    · simp [hmissing]
    · simp [hmissing]
  · rw [messagesSent_eq rfl, hlast, hindices]
    by_cases hne : last.1 = endIndex
    · simp [lastMessage, hne]
    · simp [lastMessage, hne]

/-- A step is screened exactly when it sends no last message with text. -/
theorem screened_iff {a : CompletionLabel} (hdetects : Detects s) (hdraws : Draws batches s)
    (hstep : s.step request a = some t) : Screened request batches s a ↔ LastWithoutText s a := by
  cases a with
  | consumer => exact iff_of_true (screened_consumer hdetects) trivial
  | main => exact iff_of_true (screened_main hdetects hdraws) trivial
  | last choiceIndex => exact screened_last_iff hstep

/-- What is sent stays sent. -/
theorem sent_append_messagesSent {a : CompletionLabel} (hdetects : Detects s)
    (hstep : s.step request a = some t) : s.task.sent ++ messagesSent s t = t.task.sent := by
  rw [messagesSent]
  cases a with
  | consumer =>
    obtain ⟨action, consumer, hconsumer, -, rfl⟩ := exists_of_stepConsumer hstep
    simp [hdetects.sent_perform hconsumer]
  | main => cases mainStep_of_stepMain hstep <;> simp [goto, send, track]
  | last choiceIndex =>
    obtain ⟨choices, indices, -, -, ⟨-, rfl⟩ | ⟨last, endIndex, -, -, rfl⟩⟩ :=
      exists_of_stepLast hstep
    · simp [goto]
    · simp [goto, send]

end Steps

/-- A message is the response to one of the batches. -/
def MadeFrom (batches : List (Except Error Batch)) (m : Completion) : Prop :=
  ∃ batch completions, .ok batch ∈ batches ∧ RespondsTo completions batch m

/-- Every message sent so far with text is made from a batch. -/
def Screens (batches : List (Except Error Batch)) (s : CompletionStreaming) : Prop :=
  ∀ m, .ok (some m) ∈ s.task.sent → m.text ≠ "" → MadeFrom batches m

theorem Screens.step {request : StreamingRequest Completion}
    {batches : List (Except Error Batch)} {s t : CompletionStreaming} {a : CompletionLabel}
    (h : Screens batches s) (hdetects : Detects s) (hscreened : Screened request batches s a)
    (hstep : s.step request a = some t) : Screens batches t := by
  intro m hm htext
  rw [← sent_append_messagesSent hdetects hstep] at hm
  rcases List.mem_append.mp hm with hm | hm
  · exact h m hm htext
  · obtain ⟨batch, completions, hmem, -, -, hresponds⟩ := hscreened t hstep m hm htext
    exact ⟨batch, completions, hmem, hresponds⟩

end CompletionStreaming

open CompletionStreaming

/-- **Screening.** A run sends messages with text only in response to the delivered batches
exactly when each last message it looks up after the last batch is one the choice's last
batch ends in, or has no text. Then every message with text is made from a batch. -/
theorem completion_messages_screened_iff {request : StreamingRequest Completion}
    {stream : List (Item Error Completion)} {batches : List (Except Error Batch)}
    {w : List CompletionLabel} {s : CompletionStreaming}
    (hrun : exec (step request) (startDetection request stream batches) w = some s) :
    (Meets (step request) (Screened request batches) (startDetection request stream batches) w ↔
      Meets (step request) LastWithoutText (startDetection request stream batches) w) ∧
    (Meets (step request) LastWithoutText (startDetection request stream batches) w →
      Screens batches s) := by
  have hdraws : Draws batches (startDetection request stream batches) :=
    ⟨List.Subset.refl _, by simp [startDetection]⟩
  -- step by step, the condition on last messages is the only one that can fail
  have hiff : Meets (step request) (Screened request batches)
      (startDetection request stream batches) w ↔
        Meets (step request) LastWithoutText (startDetection request stream batches) w :=
    meets_congr (J := fun s => Detects s ∧ Draws batches s)
      (fun _ _ _ h hstep => ⟨h.1.step hstep, h.2.step hstep⟩)
      (fun _ _ _ h hstep => screened_iff h.1 h.2 hstep)
      ⟨Detects.startDetection request stream batches, hdraws⟩ hrun
  refine ⟨hiff, ?_⟩
  intro hlast
  have hscreens : Detects s ∧ Screens batches s := by
    refine exec_invariant (I := fun s => Detects s ∧ Screens batches s) ?_
      ⟨Detects.startDetection request stream batches, by simp [Screens, startDetection]⟩
      (hiff.mpr hlast) hrun
    rintro s a t ⟨hdetects, hscreens⟩ hok hstep
    exact ⟨hdetects.step hstep, hscreens.step hdetects hok hstep⟩
  exact hscreens.2

/-- A message of choice 0. -/
def textCompletion (text : String) (finishReason : Option String) : Item Error Completion :=
  .ok (some { id := "cmpl", choices := [{ text, finishReason }] })

/-- Two messages, the second of which finishes the choice. -/
def twoTexts (text text' : String) : List (Item Error Completion) :=
  [textCompletion text none, textCompletion text' (some "stop")]

/-- The batch of the first message. -/
def firstBatch : List (Except Error Batch) := [.ok (0, { stop := 3, text := "Hi." }, [])]

/-- The messages are consumed, the batch is answered, and the last message is looked up. -/
def firstBatchRun : List CompletionLabel :=
  List.replicate 2 .main ++ List.replicate 5 .consumer ++ List.replicate 3 .main ++ [.last 0]

/-- The last message has no text, and the batch is all there is to examine. -/
theorem completion_messages_screened_iff_emptyLast :
    ∃ s, exec (step (sentenceRequest (twoTexts "Hi." "")))
        (startDetection (sentenceRequest (twoTexts "Hi." "")) (twoTexts "Hi." "") firstBatch)
          firstBatchRun = some s ∧
      s.task.sent.length = 2 ∧
      Meets (step (sentenceRequest (twoTexts "Hi." ""))) LastWithoutText
        (startDetection (sentenceRequest (twoTexts "Hi." "")) (twoTexts "Hi." "") firstBatch)
          firstBatchRun ∧
      Screens firstBatch s := by
  have hrun := exec_eq_some_get (by decide :
    (exec (step (sentenceRequest (twoTexts "Hi." "")))
      (startDetection (sentenceRequest (twoTexts "Hi." "")) (twoTexts "Hi." "") firstBatch)
        firstBatchRun).isSome = true)
  have hlast : Meets (step (sentenceRequest (twoTexts "Hi." ""))) LastWithoutText
      (startDetection (sentenceRequest (twoTexts "Hi." "")) (twoTexts "Hi." "") firstBatch)
        firstBatchRun := by decide
  exact ⟨_, hrun, by decide, hlast, (completion_messages_screened_iff hrun).2 hlast⟩

/-- The chunker closes after the first message: the text of the second one is sent although
no batch has it. -/
theorem completion_sends_unscreened_text :
    ∃ s, exec (step (sentenceRequest (twoTexts "Hi." " Bye.")))
        (startDetection (sentenceRequest (twoTexts "Hi." " Bye.")) (twoTexts "Hi." " Bye.")
          firstBatch) firstBatchRun = some s ∧ ¬ Screens firstBatch s := by
  have hrun := exec_eq_some_get (by decide :
    (exec (step (sentenceRequest (twoTexts "Hi." " Bye.")))
      (startDetection (sentenceRequest (twoTexts "Hi." " Bye.")) (twoTexts "Hi." " Bye.")
        firstBatch) firstBatchRun).isSome = true)
  refine ⟨_, hrun, ?_⟩
  intro hscreens
  have hmade := hscreens
    { id := "cmpl", choices := [{ text := " Bye.", finishReason := some "stop" }] }
    (by decide) (by decide)
  obtain ⟨batch, completions, hmem, -, htext, -⟩ := hmade
  obtain rfl : batch = (0, { stop := 3, text := "Hi." }, []) := by simpa [firstBatch] using hmem
  revert htext
  decide

end GuardrailsOrchestrator
