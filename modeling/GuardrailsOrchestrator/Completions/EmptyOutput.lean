import GuardrailsOrchestrator.Completions.WholeDoc
import GuardrailsOrchestrator.Lib.Text

/-!
# The warning for empty output

A stream of completions should warn of empty output if a choice has no text. The consumer decides
this for each message: it sets a flag for a message that finishes its choice and has no text, also
if earlier messages of the choice have. The flag adds a warning to the final message, and the
warnings of whole-document detection replace it.

## Main results

* `warnsEmptyOutput_iff` — what the client is told at the end of a run
* `emptyOutput_reported_iff` — when that is what it should be told
-/

namespace GuardrailsOrchestrator

open ResponseProtocol Transition

namespace CompletionStreaming

variable {request : StreamingRequest Completion} {stream : List (Item Error Completion)}
  {batches : List (Except Error Batch)} {s t : CompletionStreaming}

/-! ### Messages without text -/

/-- A warning of empty output is among the items. -/
def WarnsEmptyOutput (items : List (Item Error Completion)) : Prop :=
  ∃ m, .ok (some m) ∈ items ∧ HasWarning .emptyOutput m

/-- The message finishes one of the given choices and has no text. -/
def FinishesWithoutText (choices : List ChoiceIndex) (m : Completion) : Prop :=
  (∃ c ∈ choices, choiceOf m = some c) ∧ m.text = "" ∧ m.finishReason ≠ none

/-- One of the given choices has messages and no text. -/
def HasEmptyChoice (choices : List ChoiceIndex) (stream : List (Item Error Completion)) : Prop :=
  ∃ c ∈ choices, messagesFor c stream ≠ [] ∧ choiceText c stream = ""

theorem setEmptyOutputDetected_mem_recordActions_iff {inputTxs : List ChoiceIndex} {i : ℕ}
    {m : Completion} :
    .setEmptyOutputDetected ∈ recordActions true inputTxs true i m ↔
      FinishesWithoutText inputTxs m := by
  rw [recordActions, FinishesWithoutText]
  cases hchoices : m.choices with
  | nil => simp [choiceOf, hchoices]
  | cons choice choices =>
    have htext : m.text = choice.text := by simp [Completion.text, hchoices]
    have hfinish : m.finishReason = choice.finishReason := by
      simp [Completion.finishReason, hchoices]
    rw [htext, hfinish]
    by_cases hmem : choice.index ∈ inputTxs
    · by_cases hempty : choice.text = ""
      · cases hreason : choice.finishReason <;>
          simp [choiceOf, hchoices, hmem, inputActions, hempty, hreason]
      · simp [hmem, inputActions, hempty]
    · simp [choiceOf, hchoices, hmem]

/-- The consumer sets the flag for messages that finish a choice without text. -/
theorem setEmptyOutputDetected_mem_iff {inputTxs : List ChoiceIndex} :
    .setEmptyOutputDetected ∈ processCompletionStream true inputTxs false true stream ↔
      ∃ m, .ok (some m) ∈ stream ∧ FinishesWithoutText inputTxs m := by
  -- only a message with a choice can set the flag
  have hmessage : ∀ (i : ℕ) (m : Completion),
      .setEmptyOutputDetected ∈ messageActions true inputTxs false true i (.ok (some m)) ↔
        FinishesWithoutText inputTxs m := by
    intro i m
    simp only [messageActions, Bool.false_eq_true, if_false, List.nil_append]
    split
    · rename_i hchoices
      simp [FinishesWithoutText, choiceOf, hchoices]
    · exact setEmptyOutputDetected_mem_recordActions_iff
  simp only [processCompletionStream, List.mem_append, List.mem_map, reduceCtorEq, and_false,
    exists_false, or_false, List.mem_flatMap]
  constructor
  · rintro ⟨⟨item, i⟩, hitem, hmem⟩
    have hstream := List.fst_mem_of_mem_zipIdx hitem
    rcases item with error | (_ | m)
    · simp [messageActions] at hmem
    · simp [messageActions] at hmem
    · exact ⟨m, hstream, (hmessage i m).mp hmem⟩
  · rintro ⟨m, hm, hfinishes⟩
    obtain ⟨i, hitem⟩ := List.exists_mem_zipIdx_of_mem hm
    exact ⟨_, hitem, (hmessage i m).mpr hfinishes⟩

/-! ### Messages of the stream -/

/-- What is stored for a choice was streamed. -/
theorem Stores.mem_stream (h : Stores stream s) {c : ChoiceIndex} {e : ℕ × Completion}
    (he : e ∈ (s.task.completionState.messages c).entries) : .ok (some e.2) ∈ stream := by
  have hmem : e ∈ choiceMessages c stream := by
    rw [← h.stored c]
    exact List.mem_append_left _ he
  obtain ⟨p, hp, hmessage⟩ := List.mem_filterMap.mp hmem
  obtain ⟨rfl, -⟩ := StreamingTask.messageOf_eq_some_iff.mp hmessage
  exact List.fst_mem_of_mem_zipIdx hp

/-- A response to a batch warns of empty output only if a message of the stream does. -/
theorem Stores.warnsEmptyOutput_of_response (h : Stores stream s) {batch : Batch} {m : Completion}
    (hresponse : s.response batch = some (.ok m)) (hwarning : HasWarning .emptyOutput m) :
    WarnsEmptyOutput stream := by
  obtain ⟨completions, hentry, hresponse⟩ := Option.bind_eq_some_iff.mp hresponse
  obtain ⟨stored, hlast, rfl⟩ := exists_of_outputDetectionResponse hresponse
  obtain ⟨e, he, rfl⟩ := List.mem_map.mp (List.mem_of_getLast? hlast)
  rw [← CompletionState.messages_of_get? hentry] at he
  refine ⟨e.2, h.mem_stream (OrderedMap.mem_range.mp he).1, ?_⟩
  -- a batch with detections has a warning of its own
  cases hdetections : batch.2.2.isEmpty with
  | true => simpa [HasWarning, withDetections, hdetections] using hwarning
  | false => simp [HasWarning, withDetections, hdetections] at hwarning

/-- The last message of a choice is one of the stream. -/
theorem Stores.warnsEmptyOutput_of_last (h : Stores stream s) {c : ChoiceIndex}
    {last : ℕ × Completion}
    (hlast : (s.completions c).bind (·.lastKeyValue) = some last)
    (hwarning : HasWarning .emptyOutput last.2) : WarnsEmptyOutput stream := by
  rw [completions, CompletionState.bind_lastKeyValue] at hlast
  exact ⟨last.2, h.mem_stream (List.mem_of_getLast? hlast), hwarning⟩

/-! ### Runs -/

/-- The batch stream ends after the generation stream: the detection streams wait for input until
the consumer closes their channels. -/
def EndsConsumed (s : CompletionStreaming) : CompletionLabel → Prop
  | .main => s.stage = .awaitingBatch → s.batches = [] → s.consumer = []
  | _ => True

instance (s : CompletionStreaming) : ∀ a, Decidable (EndsConsumed s a)
  | .consumer => inferInstanceAs (Decidable True)
  | .main => inferInstanceAs (Decidable (_ → _ → _))
  | .last _ => inferInstanceAs (Decidable True)

/-- No error was sent. -/
def ErrorFree (s : CompletionStreaming) : Prop := ∀ error, .error error ∉ s.task.sent

instance (s : CompletionStreaming) : Decidable (ErrorFree s) :=
  decidable_of_iff (∀ item ∈ s.task.sent, item.toOption ≠ none) (by
    constructor
    · intro h error hmem
      exact h _ hmem rfl
    · rintro h (error | m) hmem
      · exact absurd hmem (h error)
      · simp [Except.toOption])

/-- What the client has been told of empty output when the main task is at a stage. -/
def ToldAt (request : StreamingRequest Completion) (s : CompletionStreaming) :
    CompletionStage → Prop
  | .creatingStreams _ | .awaitingBatch | .building _ => ¬ WarnsEmptyOutput s.task.sent
  | .sendingLast _ | .finalizing => s.consumer = [] ∧ ¬ WarnsEmptyOutput s.task.sent
  | .detectingWholeDoc _ =>
    s.consumer = [] ∧ ¬ WarnsEmptyOutput s.task.sent ∧ request.wholeDocDetectors.isEmpty = false
  | .completing | .finished => s.consumer = [] ∧ (WarnsEmptyOutput s.task.sent ↔
    request.wholeDocDetectors.isEmpty = true ∧ s.task.emptyOutputDetected = true)
  | .forwarding _ => False
  | .panicked | .aborted => True

/-- The flag is set or will be exactly if a message finishes a choice without text, and as long as
there was no error, the client is told what the flag says at the end. -/
structure Tells (request : StreamingRequest Completion) (stream : List (Item Error Completion))
    (s : CompletionStreaming) : Prop where
  stores : Stores stream s
  detects : Detects s
  flag : (s.task.emptyOutputDetected = true ∨ .setEmptyOutputDetected ∈ s.consumer) ↔
    ∃ m, .ok (some m) ∈ stream ∧ FinishesWithoutText request.choices m
  told : ErrorFree s → ToldAt request s s.stage

theorem warnsEmptyOutput_append {items items' : List (Item Error Completion)} :
    WarnsEmptyOutput (items ++ items') ↔ WarnsEmptyOutput items ∨ WarnsEmptyOutput items' := by
  simp only [WarnsEmptyOutput, List.mem_append, or_and_right, exists_or]

theorem warnsEmptyOutput_some {m : Completion} :
    WarnsEmptyOutput [.ok (some m)] ↔ HasWarning .emptyOutput m := by
  simp [WarnsEmptyOutput]

/-- The final message warns of empty output if the flag is set. -/
theorem hasWarning_finalMessage (task : StreamingTask Completion) (metadata : CompletionMetadata) :
    HasWarning .emptyOutput (finalMessage task metadata) ↔ task.emptyOutputDetected = true := by
  cases hflag : task.emptyOutputDetected <;>
    simp [HasWarning, finalMessage, hflag, emptyOutputWarning]

namespace Tells

theorem startDetection (request : StreamingRequest Completion)
    (stream : List (Item Error Completion)) (batches : List (Except Error Batch)) :
    Tells request stream (startDetection request stream batches) where
  stores := Stores.startDetection request stream batches
  detects := Detects.startDetection request stream batches
  flag := by
    rw [← setEmptyOutputDetected_mem_iff]
    simp [CompletionStreaming.startDetection]
  told _ := by simp [CompletionStreaming.startDetection, ToldAt, WarnsEmptyOutput]

theorem stepConsumer (h : Tells request stream s) (hstep : s.stepConsumer = some t) :
    Tells request stream t := by
  have hstores := h.stores.stepConsumer hstep
  have hdetects : Detects t := h.detects.step (show s.step request .consumer = some t from hstep)
  obtain ⟨action, consumer, hconsumer, hspawned, rfl⟩ := exists_of_stepConsumer hstep
  have hsent := h.detects.sent_perform hconsumer
  refine ⟨hstores, hdetects, ?_, ?_⟩
  · rw [← h.flag, hconsumer, List.mem_cons]
    cases action <;> simp [StreamingTask.perform]
  · intro hfree
    have htold := h.told (by rwa [ErrorFree, ← hsent])
    change ToldAt request _ s.stage
    -- later stages have no consumer left
    cases hstage : s.stage <;> simp_all [ToldAt]

/-- A step of the main task, which leaves the consumer, the state and the flag as they are. -/
theorem of_told (h : Tells request stream s) (hdetects : Detects t)
    (hconsumer : t.consumer = s.consumer)
    (hstate : t.task.completionState = s.task.completionState)
    (hflag : t.task.emptyOutputDetected = s.task.emptyOutputDetected)
    (htold : ErrorFree t → ToldAt request t t.stage) : Tells request stream t where
  stores := h.stores.of_eq hconsumer hstate
  detects := hdetects
  flag := by rw [hconsumer, hflag, h.flag]
  told := htold

/-- At the end of `handle_output_detection`, the flag decides unless whole-document detection
follows. -/
theorem exists_of_finalizing (hstage : s.stage = .finalizing)
    (hstep : s.stepMain request = some t) :
    t = s.goto .panicked ∨
      (request.wholeDocDetectors.isEmpty = false ∧ ∃ m, t = s.goto (.detectingWholeDoc m)) ∨
      (request.wholeDocDetectors.isEmpty = true ∧ ∃ metadata,
        t = (s.send [.ok (some (finalMessage s.task metadata))]).goto .completing) ∨
      (s.task.emptyOutputDetected = false ∧ t = s.goto .completing) := by
  simp only [stepMain, hstage] at hstep
  split at hstep
  · split at hstep
    · exact Or.inl (Option.some.inj hstep).symm
    · cases hempty : request.wholeDocDetectors.isEmpty with
      | true =>
        simp only [hempty, Bool.not_true, Bool.false_eq_true, if_false] at hstep
        exact Or.inr (Or.inr (Or.inl ⟨rfl, _, (Option.some.inj hstep).symm⟩))
      | false =>
        simp only [hempty, Bool.not_false, if_true] at hstep
        exact Or.inr (Or.inl ⟨rfl, _, (Option.some.inj hstep).symm⟩)
  · rename_i hfinal
    refine Or.inr (Or.inr (Or.inr ⟨?_, (Option.some.inj hstep).symm⟩))
    simp only [sendsFinal, Bool.not_eq_true, Bool.or_eq_false_iff] at hfinal
    exact hfinal.2

theorem finalizing (h : Tells request stream s) (hstage : s.stage = .finalizing)
    (hstep : s.stepMain request = some t) : Tells request stream t := by
  have hdetects := h.detects.step (show s.step request .main = some t from hstep)
  have htold := h.told
  simp only [hstage, ToldAt] at htold
  -- the final message has the warning exactly if the flag was set
  rcases exists_of_finalizing hstage hstep with
    rfl | ⟨hwholeDoc, m, rfl⟩ | ⟨hwholeDoc, metadata, rfl⟩ | ⟨hflag, rfl⟩
  · exact h.of_told hdetects rfl rfl rfl fun _ => trivial
  · refine h.of_told hdetects rfl rfl rfl ?_
    intro hfree
    obtain ⟨hconsumed, hsilent⟩ := htold hfree
    exact ⟨hconsumed, hsilent, hwholeDoc⟩
  · refine h.of_told hdetects rfl rfl rfl ?_
    intro hfree
    obtain ⟨hconsumed, hsilent⟩ := htold fun error hmem =>
      hfree error (List.mem_append_left _ hmem)
    refine ⟨hconsumed, ?_⟩
    change WarnsEmptyOutput (s.task.sent ++ _) ↔ _
    rw [warnsEmptyOutput_append, or_iff_right hsilent, warnsEmptyOutput_some,
      hasWarning_finalMessage]
    exact (and_iff_right hwholeDoc).symm
  · refine h.of_told hdetects rfl rfl rfl ?_
    intro hfree
    obtain ⟨hconsumed, hsilent⟩ := htold hfree
    refine ⟨hconsumed, iff_of_false hsilent ?_⟩
    rintro ⟨-, htrue⟩
    exact Bool.false_ne_true (hflag.symm.trans htrue)

/-- What is sent before the final message does not warn of empty output. -/
theorem not_warnsEmptyOutput_send (hsilent : ¬ WarnsEmptyOutput s.task.sent) {m : Completion}
    (hm : ¬ HasWarning .emptyOutput m) : ¬ WarnsEmptyOutput (s.send [.ok (some m)]).task.sent := by
  change ¬ WarnsEmptyOutput (s.task.sent ++ _)
  rw [warnsEmptyOutput_append, warnsEmptyOutput_some]
  exact not_or.mpr ⟨hsilent, hm⟩

theorem stepMain {ctx : WholeDocContext}
    {answer : WholeDocRequest → Except Error (List Detection)}
    (hwholeDoc : request.wholeDocDetection =
      handleWholeDocDetection ctx request.config request.wholeDocDetectors answer)
    (hunwarned : ¬ WarnsEmptyOutput stream) (h : Tells request stream s)
    (hends : EndsConsumed s .main) (hstep : s.stepMain request = some t) :
    Tells request stream t := by
  by_cases hfinalizing : s.stage = .finalizing
  · exact h.finalizing hfinalizing hstep
  have hdetects := h.detects.step (show s.step request .main = some t from hstep)
  have htold := h.told
  -- an item that is sent may be an error
  have hfailed : ∀ {u : CompletionStreaming} {error : Error},
      u.task.sent = s.task.sent ++ [.error error] → ErrorFree u → False := by
    intro u error hsent hfree
    exact hfree error (by simp [hsent])
  have hearlier : ∀ {u : CompletionStreaming} {item : Item Error Completion},
      u.task.sent = s.task.sent ++ [item] → ErrorFree u → ErrorFree s := by
    intro u item hsent hfree error hmem
    exact hfree error (by simp [hsent, hmem])
  cases mainStep_of_stepMain hstep with
  | streamsCreated hstage | streamCreated hstage | batchReceived hstage =>
    rw [hstage] at htold
    exact h.of_told hdetects rfl rfl rfl htold
  | streamFailed | batchFailed | responseFailed | wholeDocFailed =>
    exact h.of_told hdetects rfl rfl rfl fun hfree => (hfailed rfl hfree).elim
  | batchesEnded hstage hbatches =>
    rw [hstage] at htold
    exact h.of_told hdetects rfl rfl rfl fun hfree => ⟨hends hstage hbatches, htold hfree⟩
  | streamPanicked | responsePanicked | wholeDocPanicked =>
    exact h.of_told hdetects rfl rfl rfl fun _ => trivial
  | responseSent hstage hresponse =>
    rw [hstage] at htold
    refine h.of_told hdetects rfl rfl rfl ?_
    intro hfree
    apply not_warnsEmptyOutput_send (s := s) (htold (hearlier rfl hfree))
    exact fun hwarning => hunwarned (h.stores.warnsEmptyOutput_of_response hresponse hwarning)
  | lastSent hstage =>
    rw [hstage] at htold
    exact h.of_told hdetects rfl rfl rfl htold
  | forwarded hstage =>
    rw [hstage] at htold
    exact h.of_told hdetects rfl rfl rfl fun hfree => (htold hfree).elim
  | finalSkipped hstage | metadataMissing hstage | wholeDocStarted hstage | finalSent hstage =>
    exact absurd hstage hfinalizing
  | wholeDocSent hstage hresult =>
    rw [hstage] at htold
    refine h.of_told hdetects rfl rfl rfl ?_
    intro hfree
    obtain ⟨hconsumed, hsilent, hrequested⟩ := htold (hearlier rfl hfree)
    rw [hwholeDoc] at hresult
    refine ⟨hconsumed, iff_of_false ?_ ?_⟩
    · exact not_warnsEmptyOutput_send hsilent
        (emptyOutput_notMem_of_handleWholeDocDetection hresult)
    · rintro ⟨hempty, -⟩
      exact Bool.false_ne_true (hrequested.symm.trans hempty)
  | completed hstage =>
    rw [hstage] at htold
    refine h.of_told hdetects rfl rfl rfl ?_
    intro hfree
    obtain ⟨hconsumed, hiff⟩ := htold (hearlier rfl hfree)
    refine ⟨hconsumed, ?_⟩
    change WarnsEmptyOutput (s.task.sent ++ _) ↔ _
    rw [warnsEmptyOutput_append, or_iff_left (by simp [WarnsEmptyOutput])]
    exact hiff

theorem stepLast (hunwarned : ¬ WarnsEmptyOutput stream) {choiceIndex : ChoiceIndex}
    (h : Tells request stream s) (hstep : s.stepLast choiceIndex = some t) :
    Tells request stream t := by
  have hdetects := h.detects.step
    (show s.step request (.last choiceIndex) = some t from hstep)
  have htold := h.told
  obtain ⟨choices, indices, hstage, -, ⟨-, rfl⟩ | ⟨last, endIndex, hlast, -, rfl⟩⟩ :=
    exists_of_stepLast hstep
  · exact h.of_told hdetects rfl rfl rfl fun _ => trivial
  · rw [hstage] at htold
    refine h.of_told hdetects rfl rfl rfl ?_
    intro hfree
    obtain ⟨hconsumed, hsilent⟩ := htold fun error hmem =>
      hfree error (List.mem_append_left _ hmem)
    refine ⟨hconsumed, ?_⟩
    rw [lastMessage]
    split_ifs
    · exact not_warnsEmptyOutput_send hsilent fun hwarning =>
        hunwarned (h.stores.warnsEmptyOutput_of_last hlast hwarning)
    · simpa [send, goto] using hsilent

theorem step {ctx : WholeDocContext} {answer : WholeDocRequest → Except Error (List Detection)}
    (hwholeDoc : request.wholeDocDetection =
      handleWholeDocDetection ctx request.config request.wholeDocDetectors answer)
    (hunwarned : ¬ WarnsEmptyOutput stream) {a : CompletionLabel} (h : Tells request stream s)
    (hends : EndsConsumed s a) (hstep : s.step request a = some t) : Tells request stream t := by
  cases a with
  | consumer => exact h.stepConsumer hstep
  | main => exact h.stepMain hwholeDoc hunwarned hends hstep
  | last choiceIndex => exact h.stepLast hunwarned hstep

end Tells

/-! ### What the client is told -/

/-- The last message of a choice without text finishes it without text. -/
theorem exists_finishesWithoutText {choices : List ChoiceIndex}
    (hfinished : ∀ c ∈ choices, ∀ last ∈ (messagesFor c stream).getLast?,
      last.finishReason ≠ none) (h : HasEmptyChoice choices stream) :
    ∃ m, .ok (some m) ∈ stream ∧ FinishesWithoutText choices m := by
  obtain ⟨c, hc, hne, htext⟩ := h
  have hlast := List.getLast?_eq_some_getLast hne
  obtain ⟨hstream, hchoice⟩ := mem_messagesFor_iff.mp (List.mem_of_getLast? hlast)
  refine ⟨_, hstream, ⟨c, hc, hchoice⟩, ?_, hfinished c hc _ hlast⟩
  rw [choiceText, String.join_eq_empty_iff] at htext
  exact htext _ (List.mem_map_of_mem (List.mem_of_getLast? hlast))

variable {ctx : WholeDocContext} {answer : WholeDocRequest → Except Error (List Detection)}
  {w : List CompletionLabel}

/-- At the end of a run without errors, the client has been warned of empty output if a message
finishes a choice without text and no detector examines the full text. -/
theorem warnsEmptyOutput_iff
    (hwholeDoc : request.wholeDocDetection =
      handleWholeDocDetection ctx request.config request.wholeDocDetectors answer)
    (hunwarned : ¬ WarnsEmptyOutput stream)
    (hends : Meets (step request) EndsConsumed (startDetection request stream batches) w)
    (hrun : exec (step request) (startDetection request stream batches) w = some s)
    (hfinished : s.stage = .finished) (hfree : ErrorFree s) :
    WarnsEmptyOutput s.task.sent ↔ request.wholeDocDetectors.isEmpty = true ∧
      ∃ m, .ok (some m) ∈ stream ∧ FinishesWithoutText request.choices m := by
  have htells : Tells request stream s := exec_invariant
    (fun _ _ _ h => h.step hwholeDoc hunwarned) (Tells.startDetection request stream batches)
    hends hrun
  have htold := htells.told hfree
  rw [hfinished] at htold
  rw [htold.2, ← htells.flag, htold.1]
  simp

end CompletionStreaming

open CompletionStreaming

/-- **Empty output.** Take a request with a detector that uses a chunker, and a stream in which
every choice that has messages is finished by its last one. At the end of a run without errors,
the client has been warned of empty output if and only if some choice has no text, exactly in
these cases: if detectors examine the full text, every choice has text; otherwise some choice has
no text, or no message finishes a choice without text. -/
theorem emptyOutput_reported_iff {request : StreamingRequest Completion}
    {stream : List (Item Error Completion)} {batches : List (Except Error Batch)}
    {w : List CompletionLabel} {s : CompletionStreaming} {ctx : WholeDocContext}
    {answer : WholeDocRequest → Except Error (List Detection)}
    (hprepare : request.prepare [.textContents, .textGeneration] = .ok stream)
    (hchunk : request.chunkDetectors.isEmpty = false)
    (hwholeDoc : request.wholeDocDetection =
      handleWholeDocDetection ctx request.config request.wholeDocDetectors answer)
    (hstream : ∀ c ∈ request.choices, ∀ last ∈ (messagesFor c stream).getLast?,
      last.finishReason ≠ none)
    (hunwarned : ¬ WarnsEmptyOutput stream)
    (hends : Meets (step request) EndsConsumed (start request batches) w)
    (hrun : exec (step request) (start request batches) w = some s)
    (hfinished : s.stage = .finished) (hfree : ErrorFree s) :
    (WarnsEmptyOutput s.task.sent ↔ HasEmptyChoice request.choices stream) ↔
      (request.wholeDocDetectors.isEmpty = false → ¬ HasEmptyChoice request.choices stream) ∧
      (request.wholeDocDetectors.isEmpty = true → HasEmptyChoice request.choices stream ∨
        ∀ m, .ok (some m) ∈ stream → ¬ FinishesWithoutText request.choices m) := by
  rw [start_eq_startDetection batches hprepare hchunk] at hends hrun
  rw [warnsEmptyOutput_iff hwholeDoc hunwarned hends hrun hfinished hfree]
  -- a choice that is empty finishes with a message without text, which sets the flag
  have hflagged := exists_finishesWithoutText hstream
  cases request.wholeDocDetectors.isEmpty with
  | false => simp
  | true =>
    simp only [true_and, reduceCtorEq, false_implies, true_implies]
    constructor
    · intro hiff
      rw [or_iff_not_imp_left]
      intro hnone m hm hfinishes
      exact hnone (hiff.mp ⟨m, hm, hfinishes⟩)
    · rintro (hempty | hnone)
      · exact iff_of_true (hflagged hempty) hempty
      · exact ⟨fun ⟨m, hm, hfinishes⟩ => (hnone m hm hfinishes).elim, hflagged⟩

/-- The request for sentences, with whole-document detection by detectors that find nothing. -/
def unsuspiciousRequest (generation : List (Item Error Completion)) : StreamingRequest Completion :=
  let request : StreamingRequest Completion := sentenceRequest generation
  { request with
    wholeDocDetection := handleWholeDocDetection {} request.config request.wholeDocDetectors
      fun _ => .ok [] }

/-- The stream of a choice without text. -/
def noText : List (Item Error Completion) := [textCompletion "" (some "stop")]

theorem emptyOutput_reported_iff_noText :
    ∃ s, exec (step (unsuspiciousRequest noText))
        (start (unsuspiciousRequest noText) [.ok (0, {}, [])])
          (List.replicate 2 .main ++ List.replicate 4 .consumer ++ List.replicate 3 .main ++
            .last 0 :: List.replicate 3 .main) = some s ∧
      s.stage = .finished ∧ ErrorFree s ∧
      (WarnsEmptyOutput s.task.sent ↔ HasEmptyChoice [0] noText) := by
  have hrun := exec_eq_some_get (by decide :
    (exec (step (unsuspiciousRequest noText))
      (start (unsuspiciousRequest noText) [.ok (0, {}, [])])
        (List.replicate 2 .main ++ List.replicate 4 .consumer ++ List.replicate 3 .main ++
          .last 0 :: List.replicate 3 .main)).isSome = true)
  have hempty : HasEmptyChoice [0] noText := ⟨0, by simp, by decide, by decide⟩
  have hunwarned : ¬ WarnsEmptyOutput noText := by
    rintro ⟨m, hm, hwarning⟩
    obtain rfl : m = _ := by simpa [noText, textCompletion] using hm
    simp [HasWarning] at hwarning
  have hwholeDoc : (unsuspiciousRequest noText).wholeDocDetection =
      handleWholeDocDetection {} (unsuspiciousRequest noText).config
        (unsuspiciousRequest noText).wholeDocDetectors fun _ => .ok [] := rfl
  refine ⟨_, hrun, by decide, by decide, ?_⟩
  refine (emptyOutput_reported_iff rfl (by decide) hwholeDoc (by decide) hunwarned (by decide) hrun
    (by decide) (by decide)).mpr ⟨fun hrequested => ?_, fun _ => Or.inl hempty⟩
  exact absurd hrequested (by decide)

/-- The choice has text, and its last message has none: the client is warned of empty output. -/
theorem not_emptyOutput_reported_emptyLast :
    ∃ s, exec (step (unsuspiciousRequest (twoTexts "Hi." "")))
        (start (unsuspiciousRequest (twoTexts "Hi." "")) firstBatch)
          (firstBatchRun ++ List.replicate 3 .main) = some s ∧
      Meets (step (unsuspiciousRequest (twoTexts "Hi." ""))) EndsConsumed
        (start (unsuspiciousRequest (twoTexts "Hi." "")) firstBatch)
          (firstBatchRun ++ List.replicate 3 .main) ∧
      s.stage = .finished ∧ ErrorFree s ∧
      ¬ (WarnsEmptyOutput s.task.sent ↔ HasEmptyChoice [0] (twoTexts "Hi." "")) := by
  have hrun := exec_eq_some_get (by decide :
    (exec (step (unsuspiciousRequest (twoTexts "Hi." "")))
      (start (unsuspiciousRequest (twoTexts "Hi." "")) firstBatch)
        (firstBatchRun ++ List.replicate 3 .main)).isSome = true)
  refine ⟨_, hrun, by decide, by decide, by decide, ?_⟩
  intro hiff
  have hwarns : HasEmptyChoice [0] (twoTexts "Hi." "") := by
    refine hiff.mp ⟨finalMessage { emptyOutputDetected := true } ⟨"cmpl", 0, ""⟩, ?_, by decide⟩
    decide
  obtain ⟨c, hc, -, htext⟩ := hwarns
  obtain rfl : c = 0 := by simpa using hc
  revert htext
  decide

end GuardrailsOrchestrator
