import GuardrailsOrchestrator.Chat.Responses

/-!
# The finish reason of a streamed choice

A client expects one message with a finish reason for every choice, and no text of the
choice after it. The finish reason reaches the client in one of two ways: a batch ends in
the last message of the choice, and its response is made from that message; or a batch
ends in the last message but one, and the last one has already been stored when the main
task looks. `Finishing` says of a processed batch that it does one of the two, and the
main result is that the client gets what it expects exactly when one batch of the choice
is finishing and no later one has text.
-/

namespace GuardrailsOrchestrator

open ResponseProtocol Transition

namespace ChatStreaming

/-- The batch ends in the last message of the choice, or it ends in the last but one and
the last one was stored when the finish reason was checked. -/
def Finishing (indices : List ℕ) (p : Batch × List ℕ) : Prop :=
  indices.getLast? = some p.1.2.1.inputEndIndex ∨
    indices.reverse[1]? = some p.1.2.1.inputEndIndex ∧ ∃ last ∈ indices.getLast?, last ∈ p.2

/-- The batch has text. -/
def HasText (p : Batch × List ℕ) : Prop := p.1.2.1.text ≠ ""

/-- A message with a finish reason. -/
def Finishes (m : ChatCompletionChunk) : Prop := m.finishes = true

instance : DecidablePred Finishes := fun _ => inferInstanceAs (Decidable (_ = _))

/-- The finish reason is set once for a choice, on its last message. -/
def FinishesLast (messages : List (ℕ × ChatCompletionChunk)) : Prop :=
  ∀ e ∈ messages, e.2.finishes = true ↔ messages.getLast? = some e

instance (messages : List (ℕ × ChatCompletionChunk)) : Decidable (FinishesLast messages) :=
  inferInstanceAs (Decidable (∀ e ∈ messages, _))

/-! ### The messages made from a batch -/

section Messages

variable {c : ChoiceIndex} {stream : List (Item Error ChatCompletionChunk)}
  {completions : OrderedMap ℕ ChatCompletionChunk}

/-- The response to a batch: it has the text of the batch, and a finish reason if the
batch ends in the last message of the choice. -/
structure IsResponse (indices : List ℕ) (batch : Batch) (m : ChatCompletionChunk) : Prop where
  finishes : Finishes m ↔ indices.getLast? = some batch.2.1.inputEndIndex
  content : m.content = batch.2.1.text

theorem getLast?_indicesOf_iff {e : ℕ × ChatCompletionChunk} (he : e ∈ choiceMessages c stream) :
    (indicesOf c stream).getLast? = some e.1 ↔ (choiceMessages c stream).getLast? = some e := by
  rw [indicesOf, List.getLast?_map, Option.map_eq_some_iff]
  constructor
  · rintro ⟨e', hlast, heq⟩
    have hnodup : ((choiceMessages c stream).map (·.1)).Nodup :=
      (indicesOf_ascending c stream).imp fun h => h.ne
    rw [hlast, List.inj_on_of_nodup_map hnodup (List.mem_of_getLast? hlast) he heq]
  · intro hlast
    exact ⟨e, hlast, rfl⟩

/-- The message a batch ends in is the last one in its range. -/
theorem getLast?_coveredMessages {batch : Batch} {e : ℕ × ChatCompletionChunk}
    (he : e ∈ choiceMessages batch.1 stream) (hend : e.1 = batch.2.1.inputEndIndex)
    (hordered : batch.2.1.inputStartIndex ≤ batch.2.1.inputEndIndex) :
    (coveredMessages stream batch).getLast? = some e := by
  have hlast := OrderedMap.getLast?_range
    (m := ⟨choiceMessages batch.1 stream, choiceMessages_ascending batch.1 stream⟩) he
    (hordered.trans hend.ge)
  rw [key_nat, hend] at hlast
  exact hlast

/-- A batch that ends in a message of its choice is answered by a response to it. -/
theorem isResponse_responseTo {batch : Batch}
    (hfinish : FinishesLast (choiceMessages batch.1 stream))
    (hordered : batch.2.1.inputStartIndex ≤ batch.2.1.inputEndIndex)
    (hend : batch.2.1.inputEndIndex ∈ indicesOf batch.1 stream) :
    IsResponse (indicesOf batch.1 stream) batch (responseTo stream batch) := by
  obtain ⟨e, he, hkey⟩ := List.mem_map.mp hend
  have hchoice := choiceOf_of_mem_choiceMessages he
  rw [responseTo, getLast?_coveredMessages he hkey hordered, Option.map_some, Option.getD_some]
  constructor
  · rw [Finishes, finishes_withDetections, hfinish e he, ← getLast?_indicesOf_iff he, hkey]
  · apply content_withDetections
    intro hnil
    simp [choiceOf, hnil] at hchoice

/-- Once the last message of a choice is stored, all of them are. -/
theorem entries_eq_of_last_mem {last : ℕ}
    (hstored : completions.entries <+: choiceMessages c stream)
    (hlast : (indicesOf c stream).getLast? = some last) (hmem : last ∈ completions.keys) :
    completions.entries = choiceMessages c stream := by
  obtain ⟨rest, hrest⟩ := hstored
  cases hcases : rest.getLast? with
  | none =>
    rw [List.getLast?_eq_none_iff] at hcases
    simpa [hcases] using hrest
  | some e =>
    -- the last message would come after itself
    exfalso
    have hlast' : (indicesOf c stream).getLast? = some e.1 := by
      rw [indicesOf, ← hrest, List.getLast?_map, List.getLast?_append, hcases]
      rfl
    obtain rfl : e.1 = last := Option.some.inj (hlast'.symm.trans hlast)
    obtain ⟨e', he', hkey⟩ := List.mem_map.mp hmem
    have hascending := choiceMessages_ascending c stream
    rw [← hrest, List.pairwise_append] at hascending
    exact absurd hkey (hascending.2.2 e' he' e (List.mem_of_getLast? hcases)).ne

theorem le_of_getLast? {l : List ℕ} {last x : ℕ} (ascending : l.Pairwise (· < ·))
    (hlast : l.getLast? = some last) (hx : x ∈ l) : x ≤ last := by
  obtain ⟨l', rfl⟩ := List.getLast?_eq_some_iff.mp hlast
  rcases List.mem_append.mp hx with hx | hx
  · exact ((List.pairwise_append.mp ascending).2.2 x hx last (by simp)).le
  · exact (List.mem_singleton.mp hx).le

theorem exists_lt_of_reverse_getElem? {l : List ℕ} {x : ℕ} (ascending : l.Pairwise (· < ·))
    (hx : l.reverse[1]? = some x) : ∃ y ∈ l, x < y := by
  have hdescending := List.pairwise_reverse.mpr ascending
  rcases hreverse : l.reverse with _ | ⟨y, _ | ⟨z, rest⟩⟩
  · simp [hreverse] at hx
  · simp [hreverse] at hx
  · obtain rfl : z = x := by simpa [hreverse] using hx
    rw [hreverse] at hdescending
    exact ⟨y, List.mem_reverse.mp (by simp [hreverse]),
      (List.pairwise_cons.mp hdescending).1 z (by simp)⟩

/-- A batch that ends in the last message gets no additional message: nothing is stored
after the last message. -/
theorem finishMessage_eq_none_of_last {inputEndIndex : ℕ}
    (hstored : completions.entries <+: choiceMessages c stream)
    (hlast : (indicesOf c stream).getLast? = some inputEndIndex) :
    finishMessage completions inputEndIndex = none := by
  by_contra hne
  obtain ⟨m, hm⟩ := Option.ne_none_iff_exists'.mp hne
  obtain ⟨hend, -⟩ := finishMessage_eq_some_iff.mp hm
  have hsub : completions.keys <+: indicesOf c stream := hstored.map _
  obtain ⟨y, hy, hlt⟩ := exists_lt_of_reverse_getElem?
    ((indicesOf_ascending c stream).sublist hsub.sublist) hend
  exact absurd (le_of_getLast? (indicesOf_ascending c stream) hlast (hsub.subset hy)) hlt.not_ge

/-- An additional message is sent exactly when the batch ends in the last message but one
and the last one is stored. -/
theorem exists_finishMessage_iff (hfinish : FinishesLast (choiceMessages c stream))
    (hstored : completions.entries <+: choiceMessages c stream) (inputEndIndex : ℕ) :
    (∃ m, finishMessage completions inputEndIndex = some m) ↔
      (indicesOf c stream).reverse[1]? = some inputEndIndex ∧
        ∃ last ∈ (indicesOf c stream).getLast?, last ∈ completions.keys := by
  constructor
  · rintro ⟨m, hm⟩
    obtain ⟨hend, last, hlast, hfinishes, -⟩ := finishMessage_eq_some_iff.mp hm
    have hmem := List.mem_of_getLast? hlast
    -- a stored message with a finish reason is the last one of its choice
    have hlast' : (indicesOf c stream).getLast? = some last.1 := by
      rw [getLast?_indicesOf_iff (hstored.subset hmem)]
      exact (hfinish last (hstored.subset hmem)).mp hfinishes
    have hkeys : last.1 ∈ completions.keys := List.mem_map_of_mem hmem
    have hall := entries_eq_of_last_mem hstored hlast' hkeys
    exact ⟨by rwa [indicesOf, ← hall], last.1, hlast', hkeys⟩
  · rintro ⟨hend, last, hlast, hkeys⟩
    have hall := entries_eq_of_last_mem hstored hlast hkeys
    rw [indicesOf, List.getLast?_map, Option.mem_def, Option.map_eq_some_iff] at hlast
    obtain ⟨e, he, -⟩ := hlast
    refine ⟨_, finishMessage_eq_some_iff.mpr ⟨?_, e, ?_, ?_, rfl⟩⟩
    · rwa [OrderedMap.keys, hall]
    · rwa [OrderedMap.lastKeyValue, hall]
    · exact (hfinish e (List.mem_of_getLast? he)).mpr he

/-- What a processed batch contributes to the messages of its choice. -/
theorem contributes_answersTo {p : Batch × List ℕ}
    (hfinish : FinishesLast (choiceMessages p.1.1 stream)) (hlooked : LookedUp stream p) :
    List.Contributes (Finishing (indicesOf p.1.1 stream)) HasText Finishes
      (fun m => m.content ≠ "") p (answersTo stream p) := by
  have hresponse := isResponse_responseTo hfinish hlooked.ordered
    (hlooked.first.subset hlooked.ends)
  have hstored : (storedMessages p.1.1 stream p.2.length).entries <+:
      choiceMessages p.1.1 stream := List.take_prefix _ _
  rw [answersTo, finishMessageOf]
  -- a batch that ends in the last message carries the finish reason itself
  by_cases hlast : (indicesOf p.1.1 stream).getLast? = some p.1.2.1.inputEndIndex
  · rw [finishMessage_eq_none_of_last hstored hlast]
    exact .closing (Or.inl hlast) (hresponse.finishes.mpr hlast)
  · have hnot : ¬ Finishes (responseTo stream p.1) := fun h => hlast (hresponse.finishes.mp h)
    have hiff := exists_finishMessage_iff hfinish hstored p.1.2.1.inputEndIndex
    rw [hlooked.keys_storedMessages] at hiff
    cases hm : finishMessage (storedMessages p.1.1 stream p.2.length) p.1.2.1.inputEndIndex with
    | none =>
      refine .ordinary ?_ hnot (by rw [hresponse.content, HasText])
      rintro (h | h)
      · exact hlast h
      · simp [hm] at hiff
        obtain ⟨hend, last, hlast, hkeys⟩ := h
        exact hiff hend last hlast hkeys
    | some m' =>
      -- the copy of the last message follows the message for the batch
      refine .closingAfter (Or.inr (hiff.mp ⟨m', hm⟩)) hnot ?_
      obtain ⟨-, last, -, hfinishes, rfl⟩ := finishMessage_eq_some_iff.mp hm
      rw [Finishes, finishes_withRole, hfinishes]

end Messages

end ChatStreaming

open ChatStreaming

/-- **Finish reason of a choice.** Suppose the generation server sets the finish reason of
a choice once, on its last message. Then in every run, whenever no batch is being
processed: among the messages sent for the choice exactly one has a finish reason and no
message with text follows it, if and only if among the processed batches of the choice
exactly one is finishing and no batch with text follows it. -/
theorem chat_closesOnce_iff {request : StreamingRequest ChatCompletionChunk}
    {stream : List (Item Error ChatCompletionChunk)} {batches : List (Except Error Batch)}
    {c : ChoiceIndex} {w : List ChatLabel} {s : ChatStreaming}
    (hfinish : FinishesLast (choiceMessages c stream))
    (hcausal : Meets (step request) Causal (startDetection request stream batches) w)
    (hrun : exec (step request) (startDetection request stream batches) w = some s)
    (hstage : ∀ batch, s.stage ≠ .checkingFinish batch) :
    List.ClosesOnce Finishes (fun m => m.content ≠ "") (sentFor c s) ↔
      List.ClosesOnce (Finishing (indicesOf c stream)) HasText (processedFor c s) := by
  have hanswers := answers_of_exec hcausal hrun
  rw [hanswers.sentFor_eq hstage, List.flatMap_def]
  apply List.closesOnce_flatten_iff
  rw [List.forall₂_map_right_iff, List.forall₂_same]
  intro p hp
  obtain ⟨hprocessed, hc⟩ := List.mem_filter.mp hp
  obtain rfl := of_decide_eq_true hc
  exact contributes_answersTo hfinish (hanswers.processed p hprocessed)

/-- One message with two sentences, and a last message without text. -/
def twoSentences : List (Item Error ChatCompletionChunk) :=
  [textMessage (some "Hi. Bye.") none, textMessage none (some "stop")]

/-- The whole text is one chunk. -/
def oneBatch : List (Except Error Batch) := [.ok (0, { stop := 8, text := "Hi. Bye." }, [])]

/-- Two chunks end in the first message. -/
def twoBatches : List (Except Error Batch) :=
  [.ok (0, { stop := 3, text := "Hi." }, []),
    .ok (0, { start := 3, stop := 8, text := " Bye." }, [])]

/-- Both messages are consumed before the batches are processed. -/
def sentenceRun (n : ℕ) : List ChatLabel :=
  [.main, .main, .consumer, .consumer, .consumer, .consumer] ++ List.replicate n .main

theorem chat_closesOnce_iff_oneBatch :
    ∃ s, exec (step (sentenceRequest twoSentences))
        (startDetection (sentenceRequest twoSentences) twoSentences oneBatch) (sentenceRun 3) =
          some s ∧ (sentFor 0 s).length = 2 ∧
      (List.ClosesOnce Finishes (fun m => m.content ≠ "") (sentFor 0 s) ↔
        List.ClosesOnce (Finishing (indicesOf 0 twoSentences)) HasText (processedFor 0 s)) := by
  have hrun := exec_eq_some_get (by decide : (exec (step (sentenceRequest twoSentences))
    (startDetection (sentenceRequest twoSentences) twoSentences oneBatch)
      (sentenceRun 3)).isSome = true)
  have hstage : (Option.get _ (by decide : (exec (step (sentenceRequest twoSentences))
    (startDetection (sentenceRequest twoSentences) twoSentences oneBatch)
      (sentenceRun 3)).isSome = true)).stage = .awaitingBatch := by decide
  exact ⟨_, hrun, by decide, chat_closesOnce_iff (by decide) (by decide) hrun (by simp [hstage])⟩

/-- The finish reason is sent after each of the two chunks, the first time before text. -/
theorem chat_not_closesOnce_twoBatches :
    FinishesLast (choiceMessages 0 twoSentences) ∧
      Meets (step (sentenceRequest twoSentences)) Causal
        (startDetection (sentenceRequest twoSentences) twoSentences twoBatches) (sentenceRun 9) ∧
      ∃ s, exec (step (sentenceRequest twoSentences))
          (startDetection (sentenceRequest twoSentences) twoSentences twoBatches) (sentenceRun 9) =
            some s ∧ s.stage = .finished ∧
        ¬ List.ClosesOnce Finishes (fun m => m.content ≠ "") (sentFor 0 s) := by
  have hrun := exec_eq_some_get (by decide : (exec (step (sentenceRequest twoSentences))
    (startDetection (sentenceRequest twoSentences) twoSentences twoBatches)
      (sentenceRun 9)).isSome = true)
  exact ⟨by decide, by decide, _, hrun, by decide, by decide⟩

end GuardrailsOrchestrator
