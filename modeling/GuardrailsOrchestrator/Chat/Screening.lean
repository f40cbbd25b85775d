import GuardrailsOrchestrator.Chat.Streaming
import GuardrailsOrchestrator.Lib.Execution

/-!
# Screening of streamed chat completions

With detectors that use a chunker, the client is to see only text that the detectors
have examined: every message with text is made from a batch. The one exception is the
additional message for the finish reason, which is a copy of the choice's last stored
message with whatever text that message has.
-/

namespace GuardrailsOrchestrator

open ResponseProtocol Transition

/-! ### The text and the detections of a response -/

namespace ChatStreaming

variable {completions : OrderedMap ℕ ChatCompletionChunk} {choiceIndex : ChoiceIndex}
  {chunk : Chunk} {detections : List Detection} {m : ChatCompletionChunk}

theorem content_of_outputDetectionResponse
    (h : outputDetectionResponse completions choiceIndex chunk detections = some (.ok m))
    (hcontent : m.content ≠ "") : m.content = chunk.text := by
  obtain ⟨-, stored, logprobs, -, rfl⟩ := exists_of_outputDetectionResponse h
  apply content_withDetections
  intro hchoices
  simp [ChatCompletionChunk.content, withDetections, ChatCompletionChunk.modifyChoice, hchoices]
    at hcontent

theorem detections_of_outputDetectionResponse
    (h : outputDetectionResponse completions choiceIndex chunk detections = some (.ok m)) :
    m.detections = some (.ofChoice choiceIndex detections) := by
  obtain ⟨-, stored, logprobs, -, rfl⟩ := exists_of_outputDetectionResponse h
  rfl

/-! ### Steps that send no unscreened text -/

/-- The batch whose finish reason is about to be checked. -/
def checkedBatch (s : ChatStreaming) : Option Batch :=
  match s.stage with
  | .checkingFinish batch => some batch
  | _ => none

/-- When the finish reason is checked and the last stored message of the choice is about
to be sent for it, that message has no text. -/
def FinishesWithoutText (s : ChatStreaming) (a : ChatLabel) : Prop :=
  a = .main → ∀ batch ∈ s.checkedBatch, ∀ completions ∈ s.completions batch.1,
    completions.keys.reverse[1]? = some batch.2.1.inputEndIndex →
      ∀ last ∈ completions.lastKeyValue, last.2.finishes = true → last.2.content = ""

instance (s : ChatStreaming) (a : ChatLabel) : Decidable (FinishesWithoutText s a) :=
  inferInstanceAs (Decidable (_ → _))

/-- A message is made from a batch. -/
def MadeFrom (batches : List (Except Error Batch)) (m : ChatCompletionChunk) : Prop :=
  ∃ choiceIndex chunk detections completions, .ok (choiceIndex, chunk, detections) ∈ batches ∧
    outputDetectionResponse completions choiceIndex chunk detections = some (.ok m) ∧
      m.content = chunk.text ∧ m.detections = some (.ofChoice choiceIndex detections)

/-- Every message sent so far without a batch has no text, and what remains to be
processed comes from the given batches. -/
structure Screens (batches : List (Except Error Batch)) (s : ChatStreaming) : Prop where
  sent : ∀ m, .ok (some m) ∈ s.task.sent → m.content ≠ "" → MadeFrom batches m
  remaining : s.batches ⊆ batches
  building : ∀ batch, s.stage = .building batch → .ok batch ∈ batches

namespace Screens

variable {batches : List (Except Error Batch)} {s t : ChatStreaming}

theorem send (h : Screens batches s) (items : List (Item Error ChatCompletionChunk))
    (hitems : ∀ m, .ok (some m) ∈ items → m.content ≠ "" → MadeFrom batches m) :
    Screens batches (s.send items) where
  sent m hm hcontent := by
    rcases List.mem_append.mp hm with hm | hm
    · exact h.sent m hm hcontent
    · exact hitems m hm hcontent
  remaining := h.remaining
  building := h.building

theorem goto (h : Screens batches s) (stage : ChatStage)
    (hbuilding : ∀ batch, stage = .building batch → .ok batch ∈ batches) :
    Screens batches (s.goto stage) where
  sent := h.sent
  remaining := h.remaining
  building := hbuilding

theorem fail (h : Screens batches s) (error : Error) : Screens batches (s.fail error) :=
  (h.send _ (by simp)).goto _ (by simp)

theorem dropBatch (h : Screens batches s) {result : Except Error Batch}
    {rest : List (Except Error Batch)} (hbatches : s.batches = result :: rest) :
    Screens batches { s with batches := rest } where
  sent := h.sent
  remaining r hr := h.remaining (by simp [hbatches, hr])
  building := h.building

theorem stepMain {request : StreamingRequest ChatCompletionChunk} (h : Screens batches s)
    (hdetects : Detects s) (hfinish : FinishesWithoutText s .main)
    (hstep : MainStep request s t) : Screens batches t := by
  cases hstep with
  | streamsCreated | streamCreated | streamPanicked | batchesEnded | responsePanicked
  | finalSkipped | metadataMissing | wholeDocStarted | wholeDocPanicked =>
    exact h.goto _ (by simp)
  | streamFailed | wholeDocFailed | completed => exact (h.send _ (by simp)).goto _ (by simp)
  | batchFailed _ hbatches => exact (h.dropBatch hbatches).fail _
  | responseFailed => exact h.fail _
  | @forwarded detecting =>
    apply h.goto
    cases detecting <;> simp
  | batchReceived _ hbatches =>
    apply (h.dropBatch hbatches).goto
    intro batch heq
    obtain rfl := ChatStage.building.inj heq
    exact h.remaining (by simp [hbatches])
  | @responseSent batch completions m hstage _ hresponse =>
    refine (h.send _ ?_).goto _ (by simp)
    intro m' hm' hcontent
    obtain rfl : m' = m := by simpa using hm'
    exact ⟨_, _, _, completions, h.building batch hstage, hresponse,
      content_of_outputDetectionResponse hresponse hcontent,
      detections_of_outputDetectionResponse hresponse⟩
  | @finishChecked batch completions hstage hentry =>
    have hsend := h.send ((finishMessage completions batch.2.1.inputEndIndex).toList.map
      fun m => .ok (some m)) (by
        intro m hm hcontent
        obtain ⟨m', hm', heq⟩ := List.mem_map.mp hm
        obtain rfl : m' = m := by simpa using heq
        -- a copy of the last stored message, which has no text here
        obtain ⟨hend, last, hlast, hfinishes, rfl⟩ :=
          finishMessage_eq_some_iff.mp (Option.mem_toList.mp hm')
        rw [content_withRole] at hcontent
        exact absurd (hfinish rfl batch (by rw [checkedBatch, hstage]; rfl) completions hentry hend
          last hlast hfinishes) hcontent)
    exact ⟨hsend.sent, h.remaining, by simp [ChatStreaming.goto]⟩
  | finalSent =>
    refine (h.send _ ?_).goto _ (by simp)
    intro m hm hcontent
    obtain rfl : m = _ := by simpa using hm
    simp [ChatCompletionChunk.content, finalMessage] at hcontent
  | @wholeDocSent m _ _ hstage =>
    refine (h.send _ ?_).goto _ (by simp)
    intro m' hm' hcontent
    obtain rfl : m' = _ := by simpa using hm'
    simp [ChatCompletionChunk.content, hdetects.wholeDoc m hstage] at hcontent

theorem step {request : StreamingRequest ChatCompletionChunk} {a : ChatLabel}
    (h : Screens batches s) (hdetects : Detects s) (hfinish : FinishesWithoutText s a)
    (hstep : s.step request a = some t) : Screens batches t := by
  cases a with
  | consumer =>
    obtain ⟨action, consumer, hconsumer, -, rfl⟩ := exists_of_stepConsumer hstep
    exact ⟨hdetects.sent_perform hconsumer ▸ h.sent, h.remaining, h.building⟩
  | main => exact h.stepMain hdetects hfinish (mainStep_of_stepMain hstep)
  | timeout =>
    obtain ⟨batch, -, ⟨-, error, rfl⟩ | ⟨-, rfl⟩⟩ := exists_of_stepTimeout hstep
    · exact h.fail error
    · exact h.goto _ (by simp)

end Screens

theorem screens_startDetection (request : StreamingRequest ChatCompletionChunk)
    (stream : List (Item Error ChatCompletionChunk)) (batches : List (Except Error Batch)) :
    Screens batches (startDetection request stream batches) where
  sent := by simp [startDetection]
  remaining := List.Subset.refl batches
  building := by simp [startDetection]

end ChatStreaming

open ChatStreaming

/-- **Screening.** In every run in which a message sent for a finish reason has no text,
every message with text is the response made from a batch, and it carries the text of
the batch's chunk and the batch's detections. -/
theorem chat_messages_madeFrom_batches {request : StreamingRequest ChatCompletionChunk}
    {stream : List (Item Error ChatCompletionChunk)} {batches : List (Except Error Batch)}
    {w : List ChatLabel} {s : ChatStreaming}
    (hfinish : Meets (step request) FinishesWithoutText (startDetection request stream batches) w)
    (hrun : exec (step request) (startDetection request stream batches) w = some s) :
    ∀ m, .ok (some m) ∈ s.task.sent → m.content ≠ "" → MadeFrom batches m := by
  have hscreens : Detects s ∧ Screens batches s := by
    refine exec_invariant (I := fun s => Detects s ∧ Screens batches s) ?_
      ⟨Detects.startDetection request stream batches, screens_startDetection request stream batches⟩
      hfinish hrun
    intro s a t ⟨hdetects, hscreens⟩ hok hstep
    exact ⟨hdetects.step hstep, hscreens.step hdetects hok hstep⟩
  exact hscreens.2.sent

/-- The usual stream: the last message has a finish reason and no text. -/
def greeting : List (Item Error ChatCompletionChunk) :=
  [textMessage (some "Hi.") none, textMessage none (some "stop")]

/-- A stream whose last message has both a finish reason and text. -/
def hurriedGreeting : List (Item Error ChatCompletionChunk) :=
  [textMessage (some "Hi.") none, textMessage (some " Bye.") (some "stop")]

/-- The batch of the first message. -/
def greetingBatches : List (Except Error Batch) := [.ok (0, { stop := 3, text := "Hi." }, [])]

/-- The messages are consumed before the batch of the first one is processed. -/
def greetingRun : List ChatLabel :=
  [.main, .main, .consumer, .consumer, .consumer, .consumer, .main, .main, .main]

theorem chat_messages_madeFrom_batches_greeting :
    ∃ s, exec (step (sentenceRequest greeting))
        (startDetection (sentenceRequest greeting) greeting greetingBatches) greetingRun = some s ∧
      s.task.sent.length = 2 ∧
      ∀ m, .ok (some m) ∈ s.task.sent → m.content ≠ "" → MadeFrom greetingBatches m := by
  have hrun := exec_eq_some_get (by decide :
    (exec (step (sentenceRequest greeting))
      (startDetection (sentenceRequest greeting) greeting greetingBatches)
        greetingRun).isSome = true)
  exact ⟨_, hrun, by decide, chat_messages_madeFrom_batches (by decide) hrun⟩

/-- The copy of the second message that is sent for its finish reason. -/
def hurriedFinish : ChatCompletionChunk :=
  { id := "chat"
    choices := [{ delta := { role := some .assistant, content := some " Bye." }
                  finishReason := some "stop" }] }

/-- The text of the second message is sent although no batch has it. -/
theorem chat_sends_unscreened_text :
    ∃ s, exec (step (sentenceRequest hurriedGreeting))
        (startDetection (sentenceRequest hurriedGreeting) hurriedGreeting greetingBatches)
          greetingRun = some s ∧
      .ok (some hurriedFinish) ∈ s.task.sent ∧ hurriedFinish.content = " Bye." ∧
        ¬ MadeFrom greetingBatches hurriedFinish := by
  have hrun := exec_eq_some_get (by decide :
    (exec (step (sentenceRequest hurriedGreeting))
      (startDetection (sentenceRequest hurriedGreeting) hurriedGreeting greetingBatches)
        greetingRun).isSome = true)
  refine ⟨_, hrun, by decide, by decide, ?_⟩
  rintro ⟨choiceIndex, chunk, detections, completions, hmem, -, hcontent, -⟩
  obtain ⟨-, rfl, -⟩ : choiceIndex = 0 ∧ chunk = { stop := 3, text := "Hi." } ∧
      detections = [] := by simpa [greetingBatches] using hmem
  revert hcontent
  decide

end GuardrailsOrchestrator
