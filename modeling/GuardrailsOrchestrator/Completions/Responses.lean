import GuardrailsOrchestrator.Completions.Consumer
import GuardrailsOrchestrator.Lib.Execution

/-!
# What the client receives for a choice

The main task looks up stored messages while the consumer stores them. When each lookup
finds what it needs, the outcome does not depend on the order of the two tasks: the client
receives for each choice a response to each of its batches, in their order, and then the
choice's last message unless the last batch ends in it. The responses are made from the
messages of the generation stream as if all of them were stored.

## Main definitions

* `responses`, `lastResponse` — the messages for a choice as a function of the stream and
  the batches
* `Settled` — a step that looks up messages finds all that it looks for
* `Answering` — how far the client has received the messages

## Main results

* `messagesFor_eq_of_settled` — a run with settled steps sends exactly these messages
-/

namespace GuardrailsOrchestrator

open ResponseProtocol Transition

namespace CompletionStreaming

/-! ### The messages of a choice -/

/-- The messages of a choice among the given items. -/
def messagesFor (c : ChoiceIndex) (items : List (Item Error Completion)) : List Completion :=
  items.filterMap fun
    | .ok (some m) => if choiceOf m = some c then some m else none
    | _ => none

variable {c : ChoiceIndex} {stream : List (Item Error Completion)}

theorem mem_messagesFor_iff {items : List (Item Error Completion)} {m : Completion} :
    m ∈ messagesFor c items ↔ .ok (some m) ∈ items ∧ choiceOf m = some c := by
  rw [messagesFor, List.mem_filterMap]
  constructor
  · rintro ⟨error | (_ | m'), hitem, hmessage⟩
    · simp at hmessage
    · simp at hmessage
    · obtain ⟨hc, rfl⟩ : choiceOf m' = some c ∧ m' = m := by simpa using hmessage
      exact ⟨hitem, hc⟩
  · rintro ⟨hitem, hc⟩
    exact ⟨_, hitem, by simp [hc]⟩

theorem messagesFor_append (items items' : List (Item Error Completion)) :
    messagesFor c (items ++ items') = messagesFor c items ++ messagesFor c items' :=
  List.filterMap_append

@[simp] theorem messagesFor_nil : messagesFor c [] = [] := rfl

@[simp] theorem messagesFor_error (error : Error) : messagesFor c [.error error] = [] := rfl

@[simp] theorem messagesFor_none : messagesFor c [.ok none] = [] := rfl

theorem messagesFor_some (m : Completion) :
    messagesFor c [.ok (some m)] = if choiceOf m = some c then [m] else [] := by
  by_cases h : choiceOf m = some c <;> simp [messagesFor, h]

/-- An optional message of one choice counts for that choice only. -/
theorem messagesFor_toList {o : Option Completion} {c' : ChoiceIndex}
    (h : ∀ m ∈ o, choiceOf m = some c') :
    messagesFor c (o.toList.map fun m => .ok (some m)) = if c' = c then o.toList else [] := by
  cases o with
  | none => simp
  | some m =>
    have hm : choiceOf m = some c' := h m rfl
    simp [messagesFor_some, hm]

/-- A message without choices belongs to no choice. -/
theorem messagesFor_of_choices_eq_nil {m : Completion} (h : m.choices = []) :
    messagesFor c [.ok (some m)] = [] := by
  simp [messagesFor_some, choiceOf, h]

theorem map_snd_choiceMessages (c : ChoiceIndex) (stream : List (Item Error Completion)) :
    (choiceMessages c stream).map (·.2) = messagesFor c stream := by
  rw [choiceMessages, StreamingTask.choiceMessages, List.map_filterMap, messagesFor]
  conv_rhs => rw [← List.zipIdx_map_fst 0 stream, List.filterMap_map]
  apply List.filterMap_congr
  rintro ⟨error | (_ | m), i⟩ -
  · rfl
  · rfl
  · by_cases h : choiceOf m = some c <;> simp [StreamingTask.messageOf, h]

/-- The messages of a choice as they are stored once the stream is consumed. -/
def finalMessages (c : ChoiceIndex) (stream : List (Item Error Completion)) :
    OrderedMap ℕ Completion :=
  ⟨choiceMessages c stream, choiceMessages_ascending c stream⟩

/-! ### The responses to batches -/

/-- The batches of a choice. -/
def batchesOf (c : ChoiceIndex) (batches : List Batch) : List Batch :=
  batches.filter (·.1 = c)

/-- Whether the message of index `i` is in the range of a batch. -/
def Covers (batch : Batch) (i : ℕ) : Prop :=
  batch.2.1.inputStartIndex ≤ i ∧ i ≤ batch.2.1.inputEndIndex

instance (batch : Batch) (i : ℕ) : Decidable (Covers batch i) :=
  inferInstanceAs (Decidable (_ ∧ _))

/-- The range of a batch contains a message of the batch's choice. -/
def CoversOwn (stream : List (Item Error Completion)) (batch : Batch) : Prop :=
  ∃ e ∈ choiceMessages batch.1 stream, Covers batch e.1

instance (batch : Batch) : Decidable (CoversOwn stream batch) :=
  inferInstanceAs (Decidable (∃ e ∈ _, _))

/-- The last message of its choice in the range of a batch. -/
def lastCovered (stream : List (Item Error Completion)) (batch : Batch) : Option Completion :=
  (completionsOf (finalMessages batch.1 stream) batch.2.1).getLast?

/-- The response to a batch when the messages in its range are stored. -/
def responseTo (stream : List (Item Error Completion)) (batch : Batch) : Completion :=
  withDetections ((lastCovered stream batch).getD {})
    (mergeLogprobs (completionsOf (finalMessages batch.1 stream) batch.2.1)) batch.1 batch.2.1
    batch.2.2

/-- The responses to the batches of a choice. -/
def responses (stream : List (Item Error Completion)) (c : ChoiceIndex) (batches : List Batch) :
    List Completion :=
  (batchesOf c batches).map (responseTo stream)

/-- The message that is sent for a choice after the batches. -/
def lastResponse (stream : List (Item Error Completion)) (c : ChoiceIndex)
    (batches : List Batch) : Option Completion :=
  match (choiceMessages c stream).getLast?, (batchesOf c batches).getLast? with
  | some last, some batch => lastMessage last batch.2.1.inputEndIndex
  | _, _ => none

theorem mem_batchesOf {batch : Batch} {batches : List Batch} :
    batch ∈ batchesOf c batches ↔ batch ∈ batches ∧ batch.1 = c := by
  rw [batchesOf, List.mem_filter, decide_eq_true_eq]

theorem batchesOf_append (batches batches' : List Batch) :
    batchesOf c (batches ++ batches') = batchesOf c batches ++ batchesOf c batches' :=
  List.filter_append batches batches'

theorem batchesOf_singleton (c : ChoiceIndex) (batch : Batch) :
    batchesOf c [batch] = if batch.1 = c then [batch] else [] := by
  by_cases h : batch.1 = c <;> simp [batchesOf, h]

theorem responses_append (batches batches' : List Batch) :
    responses stream c (batches ++ batches') =
      responses stream c batches ++ responses stream c batches' := by
  rw [responses, batchesOf_append, List.map_append, responses, responses]

theorem lastResponse_of_getLast? {last : ℕ × Completion} {batch : Batch} {batches : List Batch}
    (hlast : (choiceMessages c stream).getLast? = some last)
    (hbatch : (batchesOf c batches).getLast? = some batch) :
    lastResponse stream c batches = lastMessage last batch.2.1.inputEndIndex := by
  simp [lastResponse, hlast, hbatch]

/-- A choice without batches has no last response. -/
theorem lastResponse_eq_none {batches : List Batch} (h : batchesOf c batches = []) :
    lastResponse stream c batches = none := by
  rw [lastResponse, h]
  cases (choiceMessages c stream).getLast? <;> rfl

/-- A choice with a batch whose range has one of its messages has a last message. -/
theorem exists_getLast?_choiceMessages {batch : Batch} {batches : List Batch}
    (hcovers : ∀ batch ∈ batches, CoversOwn stream batch) (hbatch : batch ∈ batchesOf c batches) :
    ∃ last, (choiceMessages c stream).getLast? = some last := by
  obtain ⟨hmem, rfl⟩ := mem_batchesOf.mp hbatch
  obtain ⟨e, he, -⟩ := hcovers batch hmem
  exact ⟨_, List.getLast?_eq_some_getLast (List.ne_nil_of_mem he)⟩

/-- The last message that is sent for a choice is one of the choice. -/
theorem choiceOf_of_mem_lastMessage {last : ℕ × Completion} {endIndex : ℕ} {m : Completion}
    (hlast : last ∈ choiceMessages c stream) (hm : m ∈ lastMessage last endIndex) :
    choiceOf m = some c := by
  rw [lastMessage] at hm
  split_ifs at hm
  · obtain rfl : last.2 = m := by simpa using hm
    exact choiceOf_of_mem_choiceMessages hlast
  · simp at hm

/-- A batch whose range has a message of its choice is answered with the last of them. -/
theorem exists_lastCovered {batch : Batch} (h : CoversOwn stream batch) :
    ∃ e ∈ choiceMessages batch.1 stream, Covers batch e.1 ∧ lastCovered stream batch = some e.2 ∧
      ∀ e' ∈ choiceMessages batch.1 stream, Covers batch e'.1 → e'.1 ≤ e.1 := by
  obtain ⟨e, he, hcovers⟩ := h
  have hrange : ∀ e', e' ∈ (finalMessages batch.1 stream).range batch.2.1.inputStartIndex
      batch.2.1.inputEndIndex ↔ e' ∈ choiceMessages batch.1 stream ∧ Covers batch e'.1 :=
    fun e' => OrderedMap.mem_range
  have hne := List.ne_nil_of_mem ((hrange e).mpr ⟨he, hcovers⟩)
  have hlast := List.getLast?_eq_some_getLast hne
  obtain ⟨hmem, hlastCovers⟩ := (hrange _).mp (List.getLast_mem hne)
  refine ⟨_, hmem, hlastCovers, ?_, ?_⟩
  · rw [lastCovered, completionsOf, List.getLast?_map, hlast, Option.map_some]
  · intro e' he' hcovers'
    exact OrderedMap.le_of_getLast?_range hlast ((hrange e').mpr ⟨he', hcovers'⟩)

theorem choiceOf_responseTo {batch : Batch} (h : CoversOwn stream batch) :
    choiceOf (responseTo stream batch) = some batch.1 := by
  obtain ⟨e, he, -, hlast, -⟩ := exists_lastCovered h
  rw [responseTo, choiceOf_withDetections, hlast, Option.getD_some]
  exact choiceOf_of_mem_choiceMessages he

/-! ### Lookups that find everything -/

/-- The batch that is about to be answered. -/
def builtBatch (s : CompletionStreaming) : Option Batch :=
  match s.stage with
  | .building batch => some batch
  | _ => none

/-- When a batch is answered, the messages of its choice up to its end are stored, and when
the last message of a choice is looked up, all of them are. This holds in particular once
the generation stream is consumed. -/
def Settled (s : CompletionStreaming) : CompletionLabel → Prop
  | .consumer => True
  | .main => ∀ batch ∈ s.builtBatch, ∀ e ∈ StreamingTask.inserts batch.1 s.consumer,
    batch.2.1.inputEndIndex < e.1
  | .last choiceIndex => StreamingTask.inserts choiceIndex s.consumer = []

instance (s : CompletionStreaming) : ∀ a, Decidable (Settled s a)
  | .consumer => inferInstanceAs (Decidable True)
  | .last _ => inferInstanceAs (Decidable (_ = _))
  | .main => inferInstanceAs (Decidable (∀ batch ∈ s.builtBatch, _))

/-- A step is settled once the generation stream is consumed. -/
theorem settled_of_consumed {s : CompletionStreaming} (h : s.consumer = [])
    (a : CompletionLabel) : Settled s a := by
  cases a with
  | consumer => trivial
  | main => simp [Settled, h, StreamingTask.inserts]
  | last choiceIndex => simp [Settled, h, StreamingTask.inserts]

section Lookups

variable {s : CompletionStreaming}

/-- A settled response is made from the messages of the stream. -/
theorem response_eq_of_settled {batch : Batch} (hstores : Stores stream s)
    (hcovers : CoversOwn stream batch)
    (hsettled : ∀ e ∈ StreamingTask.inserts batch.1 s.consumer, batch.2.1.inputEndIndex < e.1) :
    s.response batch = some (.ok (responseTo stream batch)) := by
  have hchoice := hstores.stored batch.1
  obtain ⟨e, he, hcov⟩ := id hcovers
  -- the message is in range, so it is not among those still to be stored
  have hstored : e ∈ (s.task.completionState.messages batch.1).entries := by
    rw [← hchoice] at he
    rcases List.mem_append.mp he with he | he
    · exact he
    · exact absurd (hsettled e he) (Nat.not_lt.mpr hcov.2)
  have hentry : s.completions batch.1 = some (s.task.completionState.messages batch.1) :=
    CompletionState.get?_of_mem_keys (List.mem_map_of_mem hstored)
  have hrange : completionsOf (s.task.completionState.messages batch.1) batch.2.1 =
      completionsOf (finalMessages batch.1 stream) batch.2.1 := by
    have hpending : (StreamingTask.inserts batch.1 s.consumer).filter (fun e =>
        batch.2.1.inputStartIndex ≤ key e.1 ∧ key e.1 ≤ batch.2.1.inputEndIndex) = [] := by
      rw [List.filter_eq_nil_iff]
      intro e he
      have := hsettled e he
      simp only [key_nat, decide_eq_true_eq, not_and, not_le]
      omega
    have hfinal : (finalMessages batch.1 stream).entries =
        (s.task.completionState.messages batch.1).entries ++
          StreamingTask.inserts batch.1 s.consumer := hchoice.symm
    rw [completionsOf, completionsOf, OrderedMap.range, OrderedMap.range, hfinal,
      List.filter_append, hpending, List.append_nil]
  obtain ⟨e', -, -, hlast, -⟩ := exists_lastCovered hcovers
  have hordered : ¬ batch.2.1.inputEndIndex < batch.2.1.inputStartIndex :=
    Nat.not_lt.mpr (hcov.1.trans hcov.2)
  rw [response, hentry, Option.bind_some, outputDetectionResponse, if_neg hordered, hrange,
    responseTo, hlast]
  rw [lastCovered] at hlast
  simp [hlast]

/-- A settled lookup finds the last message of the stream. -/
theorem lastKeyValue_eq_of_settled (hstores : Stores stream s)
    (hsettled : StreamingTask.inserts c s.consumer = []) :
    (s.completions c).bind (·.lastKeyValue) = (choiceMessages c stream).getLast? := by
  have hchoice := hstores.stored c
  rw [hsettled, List.append_nil] at hchoice
  rw [completions, CompletionState.bind_lastKeyValue, OrderedMap.lastKeyValue, hchoice]

end Lookups

/-! ### How far the client has received the messages -/

/-- The indices that are tracked for a choice after the given batches. -/
def trackedIndices (c : ChoiceIndex) (batches : List Batch) : Option (List (ℕ × ℕ)) :=
  if batchesOf c batches = [] then none
  else some ((batchesOf c batches).map fun batch =>
    (batch.2.1.inputStartIndex, batch.2.1.inputEndIndex))

theorem getD_trackedIndices (c : ChoiceIndex) (batches : List Batch) :
    (trackedIndices c batches).getD [] = (batchesOf c batches).map fun batch =>
      (batch.2.1.inputStartIndex, batch.2.1.inputEndIndex) := by
  rw [trackedIndices]
  split_ifs with h
  · simp [h]
  · rfl

theorem batchesOf_ne_nil_of_trackedIndices {batches : List Batch} {indices : List (ℕ × ℕ)}
    (h : trackedIndices c batches = some indices) : batchesOf c batches ≠ [] := by
  intro hnil
  simp [trackedIndices, hnil] at h

/-- The given batches are answered and tracked, and nothing else has been sent. -/
structure AnsweredUpTo (stream : List (Item Error Completion)) (answered : List Batch)
    (s : CompletionStreaming) : Prop where
  sent : ∀ c, messagesFor c s.task.sent = responses stream c answered
  tracked : ∀ c, s.batchTracker.get? c = trackedIndices c answered

/-- Answering one more batch. -/
theorem AnsweredUpTo.responseSent {answered : List Batch} {s : CompletionStreaming} {batch : Batch}
    (h : AnsweredUpTo stream answered s) (hcovers : CoversOwn stream batch) :
    AnsweredUpTo stream (answered ++ [batch])
      (((s.track batch).send [.ok (some (responseTo stream batch))]).goto .awaitingBatch) where
  sent c := by
    change messagesFor c (s.task.sent ++ _) = _
    rw [messagesFor_append, h.sent, responses_append, messagesFor_some,
      choiceOf_responseTo hcovers, responses, responses, batchesOf_singleton]
    by_cases hc : batch.1 = c <;> simp [hc]
  tracked c := by
    change (s.batchTracker.alter _ _).get? c = _
    rw [OrderedMap.get?_alter, h.tracked, h.tracked, key_nat, key_nat, getD_trackedIndices]
    by_cases hc : c = batch.1
    · subst hc
      simp [trackedIndices, batchesOf_append, batchesOf_singleton]
    · simp [trackedIndices, batchesOf_append, batchesOf_singleton, hc, Ne.symm hc]

/-- What has been sent for each choice, by stage. -/
def Answering (stream : List (Item Error Completion)) (batches : List Batch)
    (s : CompletionStreaming) : Prop :=
  match s.stage with
  | .creatingStreams _ | .aborted => s.batches = batches.map .ok ∧ AnsweredUpTo stream [] s
  | .awaitingBatch => ∃ answered rest, batches = answered ++ rest ∧ s.batches = rest.map .ok ∧
    AnsweredUpTo stream answered s
  | .building batch => ∃ answered rest, batches = answered ++ batch :: rest ∧
    s.batches = rest.map .ok ∧ AnsweredUpTo stream answered s
  | .sendingLast choices => (∀ e ∈ choices, trackedIndices e.1 batches = some e.2) ∧
    ∀ c, messagesFor c s.task.sent = responses stream c batches ++
      if c ∈ choices.map (·.1) then [] else (lastResponse stream c batches).toList
  | _ => ∀ c, messagesFor c s.task.sent =
    responses stream c batches ++ (lastResponse stream c batches).toList

/-- The batches have been processed: `process_detection_batch_stream` has returned. -/
def hasAnswered (s : CompletionStreaming) : Bool :=
  match s.stage with
  | .creatingStreams _ => false
  | .awaitingBatch => false
  | .building _ => false
  | .sendingLast _ => false
  | .aborted => false
  | _ => true

namespace Answering

variable {request : StreamingRequest Completion} {batches : List Batch}
  {s t : CompletionStreaming}

theorem startDetection (request : StreamingRequest Completion)
    (stream : List (Item Error Completion)) (batches : List Batch) :
    Answering stream batches (startDetection request stream (batches.map .ok)) :=
  ⟨rfl, fun _ => rfl, fun _ => rfl⟩

theorem iff_of_hasAnswered (h : s.hasAnswered = true) : Answering stream batches s ↔
    ∀ c, messagesFor c s.task.sent =
      responses stream c batches ++ (lastResponse stream c batches).toList := by
  cases hstage : s.stage <;> simp_all [hasAnswered, Answering]

/-- Only the stage, the batches, what is tracked and what is sent matter. -/
theorem of_eq (h : Answering stream batches s) (hstage : t.stage = s.stage)
    (hbatches : t.batches = s.batches) (htracker : t.batchTracker = s.batchTracker)
    (hsent : t.task.sent = s.task.sent) : Answering stream batches t := by
  have hupTo : ∀ answered, AnsweredUpTo stream answered s → AnsweredUpTo stream answered t :=
    fun answered h => ⟨by rw [hsent]; exact h.sent, by rw [htracker]; exact h.tracked⟩
  rw [Answering] at h ⊢
  rw [hstage, hbatches, hsent]
  split at h
  · exact ⟨h.1, hupTo _ h.2⟩
  · exact ⟨h.1, hupTo _ h.2⟩
  · obtain ⟨answered, rest, hrest, hremaining, hanswered⟩ := h
    exact ⟨answered, rest, hrest, hremaining, hupTo _ hanswered⟩
  · obtain ⟨answered, rest, hrest, hremaining, hanswered⟩ := h
    exact ⟨answered, rest, hrest, hremaining, hupTo _ hanswered⟩
  · exact h
  · exact h

/-- After the last batch, exactly the choices with a batch are tracked. -/
theorem batchesEnded (h : AnsweredUpTo stream batches s) :
    Answering stream batches (s.goto (.sendingLast s.batchTracker.entries)) := by
  refine ⟨?_, ?_⟩
  · intro e he
    rw [← h.tracked, OrderedMap.get?_eq_some_of_mem (show (e.1, e.2) ∈ _ from he)]
  · intro c
    change messagesFor c s.task.sent = _
    rw [h.sent]
    split_ifs with hc
    · rw [List.append_nil]
    · -- a choice that is not tracked has no batch, so nothing more is sent for it
      have hvacant : s.batchTracker.get? c = none := by
        by_contra hsome
        obtain ⟨indices, hindices⟩ := Option.ne_none_iff_exists'.mp hsome
        obtain ⟨c', hkey, hmem⟩ := OrderedMap.get?_eq_some_iff.mp hindices
        obtain rfl : c' = c := hkey
        exact hc (List.mem_map_of_mem hmem)
      have hnone : batchesOf c batches = [] := by
        by_contra hne
        rw [h.tracked, trackedIndices, if_neg hne] at hvacant
        simp at hvacant
      rw [lastResponse_eq_none hnone, Option.toList_none, List.append_nil]

/-- A step after the batches that sends no message of a choice. -/
theorem of_hasAnswered (h : Answering stream batches s) (hs : s.hasAnswered = true)
    (ht : t.hasAnswered = true) {items : List (Item Error Completion)}
    (hsent : t.task.sent = s.task.sent ++ items) (hitems : ∀ c, messagesFor c items = []) :
    Answering stream batches t := by
  rw [iff_of_hasAnswered ht]
  intro c
  rw [hsent, messagesFor_append, hitems, List.append_nil]
  exact (iff_of_hasAnswered hs).mp h c

theorem stepMain (h : Answering stream batches s) (hdetects : Detects s)
    (hstores : Stores stream s) (hcovers : ∀ batch ∈ batches, CoversOwn stream batch)
    (hsettled : Settled s .main) (hstep : MainStep request s t) : Answering stream batches t := by
  -- the batch that is built has its response, so building it neither fails nor panics
  have hresponse : ∀ batch, s.stage = .building batch →
      s.response batch = some (.ok (responseTo stream batch)) := by
    intro batch hstage
    rw [Answering, hstage] at h
    obtain ⟨answered, rest, rfl, -, -⟩ := h
    apply response_eq_of_settled hstores (hcovers batch (by simp))
    exact hsettled batch (by rw [builtBatch, hstage]; rfl)
  cases hstep with
  | streamsCreated hstage =>
    rw [Answering, hstage] at h
    exact ⟨[], batches, rfl, h.1, h.2.sent, h.2.tracked⟩
  | streamCreated hstage | streamPanicked hstage =>
    rw [Answering, hstage] at h
    exact ⟨h.1, h.2.sent, h.2.tracked⟩
  | streamFailed hstage =>
    rw [Answering, hstage] at h
    refine ⟨h.1, ?_, h.2.tracked⟩
    intro c
    change messagesFor c (s.task.sent ++ _) = _
    rw [messagesFor_append, messagesFor_error, List.append_nil, h.2.sent]
  | batchesEnded hstage hbatches =>
    rw [Answering, hstage] at h
    obtain ⟨answered, rest, rfl, hrest, hanswered⟩ := h
    obtain rfl : rest = [] := by simpa [hbatches] using hrest.symm
    rw [List.append_nil]
    exact Answering.batchesEnded hanswered
  -- the batches have no errors among them
  | batchFailed hstage hbatches =>
    rw [Answering, hstage] at h
    obtain ⟨answered, rest, rfl, hrest, -⟩ := h
    rw [hbatches] at hrest
    cases rest <;> simp at hrest
  | batchReceived hstage hbatches =>
    rw [Answering, hstage] at h
    obtain ⟨answered, rest, rfl, hrest, hanswered⟩ := h
    rw [hbatches] at hrest
    cases rest with
    | nil => simp at hrest
    | cons batch' rest =>
      obtain ⟨rfl, rfl⟩ : _ = batch' ∧ _ = rest.map Except.ok := by simpa using hrest
      exact ⟨answered, rest, rfl, rfl, hanswered.sent, hanswered.tracked⟩
  | responsePanicked hstage hpanicked =>
    rw [hresponse _ hstage] at hpanicked
    simp at hpanicked
  | responseFailed hstage hfailed =>
    rw [hresponse _ hstage] at hfailed
    simp at hfailed
  | @responseSent batch m hstage hsent =>
    rw [hresponse _ hstage] at hsent
    obtain rfl : responseTo stream batch = m := by simpa using hsent
    rw [Answering, hstage] at h
    obtain ⟨answered, rest, rfl, hrest, hanswered⟩ := h
    exact ⟨answered ++ [batch], rest, by simp, hrest,
      hanswered.responseSent (hcovers batch (by simp))⟩
  | lastSent hstage =>
    rw [Answering, hstage] at h
    intro c
    change messagesFor c s.task.sent = _
    simpa using h.2 c
  -- what is sent after the batches has no text of a choice
  | @forwarded detecting hstage =>
    refine h.of_hasAnswered (by simp [hasAnswered, hstage]) ?_ (List.append_nil _).symm (by simp)
    cases detecting <;> simp [hasAnswered, goto]
  | finalSkipped hstage | metadataMissing hstage | wholeDocStarted hstage
  | wholeDocPanicked hstage =>
    exact h.of_hasAnswered (by simp [hasAnswered, hstage]) (by simp [hasAnswered, goto])
      (List.append_nil _).symm (by simp)
  | wholeDocFailed hstage | completed hstage =>
    exact h.of_hasAnswered (by simp [hasAnswered, hstage]) (by simp [hasAnswered, goto]) rfl
      (by simp)
  | finalSent hstage =>
    exact h.of_hasAnswered (by simp [hasAnswered, hstage]) (by simp [hasAnswered, goto]) rfl
      fun _ => messagesFor_of_choices_eq_nil rfl
  | @wholeDocSent m _ _ hstage =>
    exact h.of_hasAnswered (by simp [hasAnswered, hstage]) (by simp [hasAnswered, goto]) rfl
      fun _ => messagesFor_of_choices_eq_nil (hdetects.wholeDoc m hstage)

/-- What a settled lookup of a last message finds is the choice's last response. -/
theorem lastResponse_eq {indices : List (ℕ × ℕ)} {last : ℕ × Completion} {endIndex : ℕ}
    (htracked : trackedIndices c batches = some indices)
    (hlast : (choiceMessages c stream).getLast? = some last)
    (hend : indices.getLast?.map (·.2) = some endIndex) :
    lastResponse stream c batches = lastMessage last endIndex := by
  have hindices := getD_trackedIndices c batches
  rw [htracked, Option.getD_some] at hindices
  rw [hindices, List.getLast?_map, Option.map_map] at hend
  obtain ⟨batch, hbatch, rfl⟩ := Option.map_eq_some_iff.mp hend
  exact lastResponse_of_getLast? hlast hbatch

theorem stepLast {choiceIndex : ChoiceIndex} (h : Answering stream batches s)
    (hstores : Stores stream s) (hcovers : ∀ batch ∈ batches, CoversOwn stream batch)
    (hsettled : Settled s (.last choiceIndex)) (hstep : s.stepLast choiceIndex = some t) :
    Answering stream batches t := by
  obtain ⟨choices, indices, hstage, hlookup, hcases⟩ := exists_of_stepLast hstep
  rw [Answering, hstage] at h
  -- what the task has tracked is what the batches say
  have htracked : trackedIndices choiceIndex batches = some indices :=
    h.1 _ (List.mem_of_lookup_eq_some hlookup)
  have hne := batchesOf_ne_nil_of_trackedIndices htracked
  rw [lastKeyValue_eq_of_settled hstores hsettled] at hcases
  rcases hcases with ⟨hmissing, -⟩ | ⟨last, endIndex, hlast, hend, rfl⟩
  · -- the choice has a batch, and with it a message and tracked indices
    exfalso
    rcases hmissing with hmissing | hmissing
    · obtain ⟨batch, hbatch⟩ := List.exists_mem_of_ne_nil _ hne
      obtain ⟨last, hlast⟩ := exists_getLast?_choiceMessages hcovers hbatch
      simp [hmissing] at hlast
    · have hindices := getD_trackedIndices choiceIndex batches
      rw [htracked, hmissing] at hindices
      exact hne (by simpa using hindices.symm)
  · have hresponse : lastResponse stream choiceIndex batches = lastMessage last endIndex :=
      lastResponse_eq htracked hlast hend
    have hown : ∀ m ∈ lastMessage last endIndex, choiceOf m = some choiceIndex :=
      fun _ hm => choiceOf_of_mem_lastMessage (List.mem_of_getLast? hlast) hm
    refine ⟨?_, ?_⟩
    · intro e' he'
      exact h.1 e' (List.mem_of_mem_filter he')
    · intro c
      change messagesFor c (s.task.sent ++ _) = _
      rw [messagesFor_append, h.2, messagesFor_toList hown]
      by_cases hc : choiceIndex = c
      · subst hc
        have hfound : choiceIndex ∈ choices.map (·.1) :=
          List.mem_map_of_mem (List.mem_of_lookup_eq_some hlookup)
        simp [hfound, hresponse]
      · -- the other choices remain as they are
        have hkeep : c ∈ (choices.filter (·.1 ≠ choiceIndex)).map (·.1) ↔
            c ∈ choices.map (·.1) := by
          simp only [List.mem_map, List.mem_filter]
          constructor
          · rintro ⟨e, ⟨he, -⟩, rfl⟩
            exact ⟨e, he, rfl⟩
          · rintro ⟨e, he, rfl⟩
            exact ⟨e, ⟨he, by simpa using Ne.symm hc⟩, rfl⟩
        simp only [hc, hkeep, if_false, List.append_nil]

theorem step {a : CompletionLabel} (h : Answering stream batches s) (hdetects : Detects s)
    (hstores : Stores stream s) (hcovers : ∀ batch ∈ batches, CoversOwn stream batch)
    (hsettled : Settled s a) (hstep : s.step request a = some t) : Answering stream batches t := by
  cases a with
  | consumer =>
    obtain ⟨action, consumer, hconsumer, -, rfl⟩ := exists_of_stepConsumer hstep
    exact h.of_eq rfl rfl rfl (hdetects.sent_perform hconsumer)
  | main => exact h.stepMain hdetects hstores hcovers hsettled (mainStep_of_stepMain hstep)
  | last choiceIndex => exact h.stepLast hstores hcovers hsettled hstep

end Answering

theorem answering_of_settled {request : StreamingRequest Completion} {batches : List Batch}
    {w : List CompletionLabel} {s : CompletionStreaming}
    (hcovers : ∀ batch ∈ batches, CoversOwn stream batch)
    (hsettled : Meets (step request) Settled
      (startDetection request stream (batches.map .ok)) w)
    (hrun : exec (step request) (startDetection request stream (batches.map .ok)) w = some s) :
    Answering stream batches s := by
  have hinvariant : Detects s ∧ Stores stream s ∧ Answering stream batches s := by
    refine exec_invariant
      (I := fun s => Detects s ∧ Stores stream s ∧ Answering stream batches s) ?_
      ⟨Detects.startDetection request stream _, Stores.startDetection request stream _,
        Answering.startDetection request stream batches⟩ hsettled hrun
    rintro s a t ⟨hdetects, hstores, hanswering⟩ hok hstep
    exact ⟨hdetects.step hstep, hstores.step hstep,
      hanswering.step hdetects hstores hcovers hok hstep⟩
  exact hinvariant.2.2

section Runs

variable {request : StreamingRequest Completion} {batches : List Batch}
  {w : List CompletionLabel} {s : CompletionStreaming}

/-- **The messages for a choice.** A run with settled steps sends for every choice the
responses to the choice's batches and then its last response. -/
theorem messagesFor_eq_of_settled (hcovers : ∀ batch ∈ batches, CoversOwn stream batch)
    (hsettled : Meets (step request) Settled
      (startDetection request stream (batches.map .ok)) w)
    (hrun : exec (step request) (startDetection request stream (batches.map .ok)) w = some s)
    (hanswered : s.hasAnswered = true) (c : ChoiceIndex) :
    messagesFor c s.task.sent =
      responses stream c batches ++ (lastResponse stream c batches).toList :=
  (Answering.iff_of_hasAnswered hanswered).mp (answering_of_settled hcovers hsettled hrun) c

/-- If creating the detection streams panics, no message has been sent. -/
theorem messagesFor_eq_nil_of_aborted (hcovers : ∀ batch ∈ batches, CoversOwn stream batch)
    (hsettled : Meets (step request) Settled
      (startDetection request stream (batches.map .ok)) w)
    (hrun : exec (step request) (startDetection request stream (batches.map .ok)) w = some s)
    (haborted : s.stage = .aborted) (c : ChoiceIndex) : messagesFor c s.task.sent = [] := by
  have hanswering := answering_of_settled hcovers hsettled hrun
  rw [Answering, haborted] at hanswering
  exact hanswering.2.sent c

end Runs

end CompletionStreaming

end GuardrailsOrchestrator
