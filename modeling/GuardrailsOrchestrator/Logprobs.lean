import GuardrailsOrchestrator.Chat.FinishReason
import GuardrailsOrchestrator.Completions.FinishReason
import GuardrailsOrchestrator.Lib.Ranges

/-!
# Log probabilities of streamed completions

A response has the log probabilities of all messages in the range of its batch. The chunker cuts
the text without regard to messages, so two ranges can share a message, and its log probabilities
are sent twice. A message without text need not be in any range, and its log probabilities are lost
unless it is the message that is sent separately. Otherwise log probabilities are kept.

## Main definitions

* `ListRecord` — records of lists, like log probabilities
* `SentOnce` — each message with log probabilities is in one of the ranges that are sent
* `CompletionStreaming.sentRanges`, `ChatStreaming.sentRanges` — the ranges of the messages whose
  log probabilities are sent

## Main results

* `logprobs_conserved_iff` — log probabilities are kept exactly when each message with log
  probabilities is in one of the ranges
-/

namespace GuardrailsOrchestrator

open ResponseProtocol Transition

/-! ### Records of lists -/

/-- A record whose columns are lists, and that is concatenated column by column. -/
class ListRecord (L : Type) where
  Column : Type
  Entry : Column → Type
  get : (column : Column) → L → List (Entry column)
  ext : ∀ {x y : L}, (∀ column, get column x = get column y) → x = y
  concat : List L → L
  get_concat : ∀ column l, get column (concat l) = l.flatMap (get column)

section Sent

open ListRecord

variable {T L : Type} [ListRecord L] (logprobsOf : T → L) (ranges : List (ℕ × ℕ))
  (messages : List (ℕ × T))

/-- Each message with log probabilities is in one of the ranges. -/
def SentOnce : Prop :=
  ∀ e ∈ messages, logprobsOf e.2 ≠ concat [] → Ranges.times ranges e.1 = 1

instance [DecidableEq L] : Decidable (SentOnce logprobsOf ranges messages) :=
  inferInstanceAs (Decidable (∀ e ∈ messages, _))

/-- Each message with log probabilities is in a range. -/
def Reached : Prop :=
  ∀ e ∈ messages, logprobsOf e.2 ≠ concat [] → 0 < Ranges.times ranges e.1

/-- The log probabilities of a list of messages. -/
def logprobsOfAll (messages : List T) : L := concat (messages.map logprobsOf)

/-- No entry occurs twice in the same column. -/
def DistinctEntries : Prop :=
  ∀ column, (get column (logprobsOfAll logprobsOf (messages.map (·.2)))).Nodup

variable {logprobsOf ranges messages}

theorem get_logprobsOfAll (column : Column L) (l : List T) :
    get column (logprobsOfAll logprobsOf l) = l.flatMap fun m => get column (logprobsOf m) := by
  rw [logprobsOfAll, get_concat, List.flatMap_map]

theorem get_nil (column : Column L) : get column (concat [] : L) = [] := get_concat column []

/-- A record with something in it has a column with something in it. -/
theorem exists_get_ne_nil {x : L} (h : x ≠ concat []) : ∃ column, get column x ≠ [] := by
  by_contra hnone
  apply h
  apply ext
  intro column
  rw [get_nil]
  by_contra hne
  exact hnone ⟨column, hne⟩

/-- If log probabilities are read range by range, they are kept exactly when each message with log
probabilities is in one range. -/
theorem kept_iff_sentOnce {sent : List T}
    (hsent : ∀ column, get column (logprobsOfAll logprobsOf sent) =
      Ranges.read (fun e => get column (logprobsOf e.2)) ranges messages)
    (ascending : messages.Pairwise fun x y => x.1 < y.1)
    (hranges : ranges.Pairwise fun range range' => range.1 ≤ range'.1) :
    (SentOnce logprobsOf ranges messages →
      logprobsOfAll logprobsOf sent = logprobsOfAll logprobsOf (messages.map (·.2))) ∧
    (logprobsOfAll logprobsOf sent = logprobsOfAll logprobsOf (messages.map (·.2)) →
      Reached logprobsOf ranges messages ∨ DistinctEntries logprobsOf messages →
        SentOnce logprobsOf ranges messages) := by
  have hall : ∀ column, get column (logprobsOfAll logprobsOf (messages.map (·.2))) =
      messages.flatMap fun e => get column (logprobsOf e.2) := by
    intro column
    rw [get_logprobsOfAll, List.flatMap_map]
  have hentries : ∀ (e : ℕ × T) (column : Column L), get column (logprobsOf e.2) ≠ [] →
      logprobsOf e.2 ≠ concat [] := by
    intro e column hne hnil
    exact hne (by rw [hnil, get_nil])
  constructor
  · intro honce
    apply ext
    intro column
    rw [hsent, hall]
    exact Ranges.read_eq ascending hranges fun e he hne => honce e he (hentries e column hne)
  · intro hkept hcase e he hne
    obtain ⟨column, hcolumn⟩ := exists_get_ne_nil hne
    have hread : Ranges.read (fun e => get column (logprobsOf e.2)) ranges messages =
        messages.flatMap fun e => get column (logprobsOf e.2) := by
      rw [← hsent, hkept, hall]
    -- what is read is the same list, so nothing in it is read twice
    rcases hcase with hreached | hdistinct
    · exact Ranges.times_eq_one_of_read_eq hread
        (fun e he hne => hreached e he (hentries e column hne)) e he hcolumn
    · exact Ranges.times_eq_one_of_nodup hread (hall column ▸ hdistinct column) e he hcolumn

end Sent

/-- The columns of the log probabilities of a completion. -/
inductive CompletionLogprobs.Column where
  | tokens
  | tokenLogprobs
  | topLogprobs
  | textOffset

/-- What the lists of log probabilities of a completion contain. -/
def CompletionLogprobs.Entry : Column → Type
  | .tokens => String
  | .tokenLogprobs => ℚ
  | .topLogprobs => IterMap String ℚ
  | .textOffset => ℕ

def CompletionLogprobs.get : (column : Column) → CompletionLogprobs → List (Entry column)
  | .tokens, logprobs => logprobs.tokens
  | .tokenLogprobs, logprobs => logprobs.tokenLogprobs
  | .topLogprobs, logprobs => logprobs.topLogprobs
  | .textOffset, logprobs => logprobs.textOffset

instance : ListRecord CompletionLogprobs where
  Column := CompletionLogprobs.Column
  Entry := CompletionLogprobs.Entry
  get := CompletionLogprobs.get
  ext {x y} h := by
    obtain ⟨tokens, tokenLogprobs, topLogprobs, textOffset⟩ := x
    obtain rfl : tokens = _ := h .tokens
    obtain rfl : tokenLogprobs = _ := h .tokenLogprobs
    obtain rfl : topLogprobs = _ := h .topLogprobs
    obtain rfl : textOffset = _ := h .textOffset
    rfl
  concat l :=
    { tokens := l.flatMap (·.tokens)
      tokenLogprobs := l.flatMap (·.tokenLogprobs)
      topLogprobs := l.flatMap (·.topLogprobs)
      textOffset := l.flatMap (·.textOffset) }
  get_concat column l := by cases column <;> rfl

/-- The columns of the log probabilities of a chat completion. -/
inductive ChatCompletionLogprobs.Column where
  | content
  | refusal

def ChatCompletionLogprobs.get :
    Column → ChatCompletionLogprobs → List ChatCompletionLogprob
  | .content, logprobs => logprobs.content
  | .refusal, logprobs => logprobs.refusal

instance : ListRecord ChatCompletionLogprobs where
  Column := ChatCompletionLogprobs.Column
  Entry _ := ChatCompletionLogprob
  get := ChatCompletionLogprobs.get
  ext {x y} h := by
    obtain ⟨content, refusal⟩ := x
    obtain rfl : content = _ := h .content
    obtain rfl : refusal = _ := h .refusal
    rfl
  concat l := { content := l.flatMap (·.content), refusal := l.flatMap (·.refusal) }
  get_concat column l := by cases column <;> rfl

section Merge

open ListRecord

/-- Messages without log probabilities may be left out. -/
theorem concat_filterMap {T L : Type} [ListRecord L] (logprobs : T → Option L) (l : List T) :
    concat (l.filterMap logprobs) = logprobsOfAll (fun m => (logprobs m).getD (concat [])) l := by
  apply ext
  intro column
  rw [get_concat, get_logprobsOfAll]
  induction l with
  | nil => rfl
  | cons m l ih =>
    cases hlogprobs : logprobs m with
    | none => simpa [hlogprobs, get_nil] using ih
    | some x => simp [hlogprobs, ih]

end Merge

/-- Chunks are in the order of the messages they start in. -/
theorem inputStartIndex_le_of_key_le {chunk chunk' : Chunk} (h : key chunk ≤ key chunk') :
    chunk.inputStartIndex ≤ chunk'.inputStartIndex :=
  (Prod.Lex.toLex_le_toLex.mp h).elim le_of_lt fun h => h.1.le

/-! ### Completions -/

namespace CompletionStreaming

open ListRecord

/-- The log probabilities of a message: those of its first choice. -/
def logprobsOf (m : Completion) : CompletionLogprobs :=
  (m.choices.head?.bind (·.logprobs)).getD {}

/-- Merging concatenates the log probabilities, unless there are none. -/
theorem getD_mergeLogprobs (completions : List Completion) :
    (mergeLogprobs completions).getD {} = logprobsOfAll logprobsOf completions := by
  have hconcat := concat_filterMap (fun m : Completion => m.choices.head?.bind (·.logprobs))
    completions
  refine Eq.trans ?_ hconcat
  simp only [mergeLogprobs]
  split_ifs with h
  · rfl
  · simp only [Bool.or_eq_true, Bool.not_eq_true', not_or, Bool.not_eq_false,
      List.isEmpty_iff] at h
    obtain ⟨⟨⟨htokens, htokenLogprobs⟩, htopLogprobs⟩, htextOffset⟩ := h
    simp [concat, htokens, htokenLogprobs, htopLogprobs, htextOffset]

/-- The range of a batch. -/
def rangeOf (batch : Batch) : ℕ × ℕ := (batch.2.1.inputStartIndex, batch.2.1.inputEndIndex)

/-- The last message of a choice is sent separately unless the last batch ends in it. -/
def lastRange (stream : List (Item Error Completion)) (c : ChoiceIndex) (batches : List Batch) :
    Option (ℕ × ℕ) :=
  match (choiceMessages c stream).getLast?, (batchesOf c batches).getLast? with
  | some last, some batch =>
    if last.1 ≠ batch.2.1.inputEndIndex then some (last.1, last.1) else none
  | _, _ => none

/-- The ranges of the messages of a choice whose log probabilities are sent. -/
def sentRanges (stream : List (Item Error Completion)) (c : ChoiceIndex) (batches : List Batch) :
    List (ℕ × ℕ) :=
  (batchesOf c batches).map rangeOf ++ (lastRange stream c batches).toList

/-- The messages sent for a choice have the log probabilities of its messages in the stream: each
of them once, and in their order. -/
def KeepsLogprobs (c : ChoiceIndex) (stream sent : List (Item Error Completion)) : Prop :=
  logprobsOfAll logprobsOf (messagesFor c sent) = logprobsOfAll logprobsOf (messagesFor c stream)

instance (c : ChoiceIndex) (stream sent : List (Item Error Completion)) :
    Decidable (KeepsLogprobs c stream sent) :=
  inferInstanceAs (Decidable (_ = _))

/-- The batches of a choice are in the order of their chunks. -/
def Ascending (c : ChoiceIndex) (batches : List Batch) : Prop :=
  (batchesOf c batches).Pairwise fun batch batch' => key batch.2.1 ≤ key batch'.2.1

instance (c : ChoiceIndex) (batches : List Batch) : Decidable (Ascending c batches) :=
  inferInstanceAs (Decidable (List.Pairwise _ _))

section Ranges

variable {stream : List (Item Error Completion)} {c : ChoiceIndex} {batches : List Batch}

theorem logprobsOf_withDetections {m : Completion} (h : m.choices ≠ [])
    (logprobs : Option CompletionLogprobs) (choiceIndex : ChoiceIndex) (chunk : Chunk)
    (detections : List Detection) :
    logprobsOf (withDetections m logprobs choiceIndex chunk detections) = logprobs.getD {} := by
  cases hchoices : m.choices with
  | nil => exact absurd hchoices h
  | cons choice choices =>
    simp [logprobsOf, withDetections, Completion.modifyChoice, hchoices]

/-- A response has the log probabilities of the messages in the range of its batch. -/
theorem logprobsOf_responseTo {batch : Batch} (h : CoversOwn stream batch) :
    logprobsOf (responseTo stream batch) = logprobsOfAll logprobsOf
      ((Ranges.within (rangeOf batch) (choiceMessages batch.1 stream)).map (·.2)) := by
  obtain ⟨e, he, -, hlast, -⟩ := exists_lastCovered h
  have hchoices : e.2.choices ≠ [] := by
    intro hnil
    have hchoice := choiceOf_of_mem_choiceMessages he
    simp [choiceOf, hnil] at hchoice
  rw [responseTo, hlast, Option.getD_some, logprobsOf_withDetections hchoices, getD_mergeLogprobs]
  rfl

/-- The responses have the log probabilities of the ranges of their batches. -/
theorem get_responses (hcovers : ∀ batch ∈ batches, CoversOwn stream batch)
    (column : Column CompletionLogprobs) :
    get column (logprobsOfAll logprobsOf (responses stream c batches)) =
      Ranges.read (fun e => get column (logprobsOf e.2)) ((batchesOf c batches).map rangeOf)
        (choiceMessages c stream) := by
  rw [get_logprobsOfAll, responses, List.flatMap_map, Ranges.read, List.flatMap_map]
  apply List.flatMap_congr
  intro batch hbatch
  obtain ⟨hmem, rfl⟩ := mem_batchesOf.mp hbatch
  rw [logprobsOf_responseTo (hcovers batch hmem), get_logprobsOfAll, List.flatMap_map]

/-- The last response has the log probabilities of its message. -/
theorem get_lastResponse (column : Column CompletionLogprobs) :
    get column (logprobsOfAll logprobsOf (lastResponse stream c batches).toList) =
      Ranges.read (fun e => get column (logprobsOf e.2)) (lastRange stream c batches).toList
        (choiceMessages c stream) := by
  rw [get_logprobsOfAll, lastResponse, lastRange]
  cases hlast : (choiceMessages c stream).getLast? with
  | none => rfl
  | some last =>
    cases (batchesOf c batches).getLast? with
    | none => rfl
    | some batch =>
      have hself := Ranges.within_self (choiceMessages_ascending c stream)
        (List.mem_of_getLast? hlast)
      simp only [lastMessage]
      split_ifs with hend
      · simp [Ranges.read, hself]
      · rfl

theorem sentRanges_ascending (hcovers : ∀ batch ∈ batches, CoversOwn stream batch)
    (hascending : Ascending c batches) :
    (sentRanges stream c batches).Pairwise fun range range' => range.1 ≤ range'.1 := by
  rw [sentRanges, List.pairwise_append]
  refine ⟨List.pairwise_map.mpr (hascending.imp inputStartIndex_le_of_key_le), ?_, ?_⟩
  · cases lastRange stream c batches <;> simp
  · intro range hrange range' hrange'
    obtain ⟨batch, hbatch, rfl⟩ := List.mem_map.mp hrange
    obtain ⟨hmem, rfl⟩ := mem_batchesOf.mp hbatch
    -- the range of a batch has a message, and the last message comes after it
    obtain ⟨e, he, hcoversStart, -⟩ := hcovers batch hmem
    rw [Option.mem_toList, lastRange] at hrange'
    cases hlast : (choiceMessages batch.1 stream).getLast? with
    | none => simp [hlast] at hrange'
    | some last =>
      have hle : e.1 ≤ last.1 :=
        (le_of_getLast? hlast he).elim (fun h => h ▸ le_rfl) le_of_lt
      cases hlastBatch : (batchesOf batch.1 batches).getLast? with
      | none => simp [hlast, hlastBatch] at hrange'
      | some lastBatch =>
        simp only [hlast, hlastBatch] at hrange'
        split_ifs at hrange'
        · obtain rfl : (last.1, last.1) = range' := by simpa using hrange'
          exact hcoversStart.trans hle

end Ranges

/-- A run with settled steps in which all batches are processed. -/
structure Processes (request : StreamingRequest Completion) (stream : List (Item Error Completion))
    (batches : List Batch) (w : List CompletionLabel) (s : CompletionStreaming) : Prop where
  covers : ∀ batch ∈ batches, CoversOwn stream batch
  settled : Meets (step request) Settled (startDetection request stream (batches.map .ok)) w
  run : exec (step request) (startDetection request stream (batches.map .ok)) w = some s
  answered : s.hasAnswered = true

theorem keepsLogprobs_iff {request : StreamingRequest Completion}
    {stream : List (Item Error Completion)} {batches : List Batch} {w : List CompletionLabel}
    {s : CompletionStreaming} (h : Processes request stream batches w s) {c : ChoiceIndex}
    (hascending : Ascending c batches) :
    (SentOnce logprobsOf (sentRanges stream c batches) (choiceMessages c stream) →
      KeepsLogprobs c stream s.task.sent) ∧
    (KeepsLogprobs c stream s.task.sent →
      Reached logprobsOf (sentRanges stream c batches) (choiceMessages c stream) ∨
        DistinctEntries logprobsOf (choiceMessages c stream) →
      SentOnce logprobsOf (sentRanges stream c batches) (choiceMessages c stream)) := by
  have hsent := messagesFor_eq_of_settled h.covers h.settled h.run h.answered c
  rw [KeepsLogprobs, ← map_snd_choiceMessages c stream]
  refine kept_iff_sentOnce (L := CompletionLogprobs) ?_ (choiceMessages_ascending c stream)
    (sentRanges_ascending h.covers hascending)
  intro column
  rw [hsent, get_logprobsOfAll, List.flatMap_append, ← get_logprobsOfAll, ← get_logprobsOfAll,
    get_responses h.covers, get_lastResponse, ← Ranges.read_append, sentRanges]

end CompletionStreaming

/-! ### Chat completions -/

namespace ChatStreaming

open ListRecord

/-- The log probabilities of a message: those of its first choice. -/
def logprobsOf (m : ChatCompletionChunk) : ChatCompletionLogprobs :=
  (m.choices.head?.bind (·.logprobs)).getD {}

/-- Merging concatenates the log probabilities, unless there are none. -/
theorem getD_mergeLogprobs (chunks : List ChatCompletionChunk) :
    (mergeLogprobs chunks).getD {} = logprobsOfAll logprobsOf chunks := by
  have hconcat := concat_filterMap (fun m : ChatCompletionChunk =>
    m.choices.head?.bind (·.logprobs)) chunks
  refine Eq.trans ?_ hconcat
  simp only [mergeLogprobs]
  split_ifs with h
  · rfl
  · simp only [Bool.or_eq_true, Bool.not_eq_true', not_or, Bool.not_eq_false,
      List.isEmpty_iff] at h
    simp [concat, h.1, h.2]

/-- The message that is sent in addition after a batch: the last stored one, if the batch ends in
the one before it and it has a finish reason. -/
def finishIndex (stream : List (Item Error ChatCompletionChunk)) (p : Batch × List ℕ) : Option ℕ :=
  if p.2.reverse[1]? = some p.1.2.1.inputEndIndex then
    p.2.getLast?.filter fun i => ∃ e ∈ choiceMessages p.1.1 stream, e.1 = i ∧ e.2.finishes = true
  else none

/-- The range of the messages whose log probabilities are sent for a batch: that of the batch, with
the message that is sent in addition. -/
def sentRange (stream : List (Item Error ChatCompletionChunk)) (p : Batch × List ℕ) : ℕ × ℕ :=
  (p.1.2.1.inputStartIndex, (finishIndex stream p).getD p.1.2.1.inputEndIndex)

/-- The ranges of the messages whose log probabilities are sent for some batches. -/
def sentRanges (stream : List (Item Error ChatCompletionChunk))
    (processed : List (Batch × List ℕ)) : List (ℕ × ℕ) :=
  processed.map (sentRange stream)

/-- The messages sent for a choice have the log probabilities of its messages in the stream: each
of them once, and in their order. -/
def KeepsLogprobs (c : ChoiceIndex) (stream : List (Item Error ChatCompletionChunk))
    (s : ChatStreaming) : Prop :=
  logprobsOfAll logprobsOf (sentFor c s) =
    logprobsOfAll logprobsOf ((choiceMessages c stream).map (·.2))

instance (c : ChoiceIndex) (stream : List (Item Error ChatCompletionChunk)) (s : ChatStreaming) :
    Decidable (KeepsLogprobs c stream s) :=
  inferInstanceAs (Decidable (_ = _))

/-- The batches are in the order of their chunks. -/
def Ascending (processed : List (Batch × List ℕ)) : Prop :=
  processed.Pairwise fun p p' => key p.1.2.1 ≤ key p'.1.2.1

instance (processed : List (Batch × List ℕ)) : Decidable (Ascending processed) :=
  inferInstanceAs (Decidable (List.Pairwise _ _))

section Ranges

variable {stream : List (Item Error ChatCompletionChunk)} {p : Batch × List ℕ}

theorem logprobsOf_withRole (m : ChatCompletionChunk) :
    logprobsOf (withRole m) = logprobsOf m := by
  cases hchoices : m.choices <;>
    simp [logprobsOf, withRole, ChatCompletionChunk.modifyChoice, hchoices]

theorem logprobsOf_withDetections {m : ChatCompletionChunk} (h : m.choices ≠ [])
    (logprobs : Option ChatCompletionLogprobs) (choiceIndex : ChoiceIndex) (chunk : Chunk)
    (detections : List Detection) :
    logprobsOf (withDetections m logprobs choiceIndex chunk detections) = logprobs.getD {} := by
  cases hchoices : m.choices with
  | nil => exact absurd hchoices h
  | cons choice choices =>
    simp [logprobsOf, withDetections, ChatCompletionChunk.modifyChoice, hchoices]

/-- A response has the log probabilities of the messages in the range of its batch. -/
theorem logprobsOf_responseTo (h : LookedUp stream p) :
    logprobsOf (responseTo stream p.1) = logprobsOfAll logprobsOf
      ((Ranges.within (p.1.2.1.inputStartIndex, p.1.2.1.inputEndIndex)
        (choiceMessages p.1.1 stream)).map (·.2)) := by
  obtain ⟨e, he, hkey⟩ := List.mem_map.mp (h.first.subset h.ends)
  have hchoices : e.2.choices ≠ [] := by
    intro hnil
    have hchoice := choiceOf_of_mem_choiceMessages he
    simp [choiceOf, hnil] at hchoice
  rw [responseTo, getLast?_coveredMessages he hkey h.ordered, Option.map_some, Option.getD_some,
    logprobsOf_withDetections hchoices, getD_mergeLogprobs]
  rfl

theorem finishIndex_eq_some_iff {i : ℕ} :
    finishIndex stream p = some i ↔
      p.2.reverse[1]? = some p.1.2.1.inputEndIndex ∧ p.2.getLast? = some i ∧
        ∃ e ∈ choiceMessages p.1.1 stream, e.1 = i ∧ e.2.finishes = true := by
  rw [finishIndex]
  split_ifs with hend
  · simp only [hend, true_and, Option.filter_eq_some_iff, decide_eq_true_eq]
  · simp [hend]

/-- Without an additional message there is no index of one. -/
theorem finishIndex_eq_none_of_finishMessageOf (h : LookedUp stream p)
    (hnone : finishMessageOf stream p = none) : finishIndex stream p = none := by
  by_contra hne
  obtain ⟨i, hi⟩ := Option.ne_none_iff_exists'.mp hne
  obtain ⟨hend, hlast, e, he, rfl, hfinishes⟩ := finishIndex_eq_some_iff.mp hi
  rw [← h.keys_storedMessages, OrderedMap.keys, List.getLast?_map,
    Option.map_eq_some_iff] at hlast
  obtain ⟨last, hlast, hkey⟩ := hlast
  have hnodup : ((choiceMessages p.1.1 stream).map (·.1)).Nodup :=
    (indicesOf_ascending p.1.1 stream).imp fun h => h.ne
  obtain rfl : last = e := List.inj_on_of_nodup_map hnodup
    ((List.take_sublist _ _).subset (List.mem_of_getLast? hlast)) he hkey
  have hsome : finishMessageOf stream p = some (withRole last.2) := by
    rw [finishMessageOf, finishMessage_eq_some_iff, h.keys_storedMessages]
    exact ⟨hend, last, hlast, hfinishes, rfl⟩
  rw [hnone] at hsome
  simp at hsome

/-- If there is an additional message, it is the first one after the range of the batch. -/
theorem exists_next_of_finishMessageOf {m : ChatCompletionChunk} (h : LookedUp stream p)
    (hm : finishMessageOf stream p = some m) :
    ∃ before last after, choiceMessages p.1.1 stream = before ++ last :: after ∧
      (∀ x ∈ before, x.1 ≤ p.1.2.1.inputEndIndex) ∧ p.1.2.1.inputEndIndex < last.1 ∧
      finishIndex stream p = some last.1 ∧ m = withRole last.2 := by
  obtain ⟨hend, last, hlast, hfinishes, rfl⟩ := finishMessage_eq_some_iff.mp hm
  rw [h.keys_storedMessages] at hend
  obtain ⟨before, hstored⟩ := List.getLast?_eq_some_iff.mp hlast
  have hmessages : choiceMessages p.1.1 stream =
      before ++ last :: (choiceMessages p.1.1 stream).drop p.2.length := by
    conv_lhs => rw [← List.take_append_drop p.2.length (choiceMessages p.1.1 stream)]
    change (storedMessages p.1.1 stream p.2.length).entries ++ _ = _
    rw [hstored, List.append_assoc, List.singleton_append]
  have hascending := choiceMessages_ascending p.1.1 stream
  rw [hmessages, List.pairwise_append] at hascending
  have hkeys : p.2 = before.map (·.1) ++ [last.1] := by
    rw [← h.keys_storedMessages, OrderedMap.keys, hstored, List.map_append, List.map_singleton]
  -- the batch ends in the last of the messages before it
  have hend' : (before.map (·.1)).getLast? = some p.1.2.1.inputEndIndex := by
    rw [hkeys, List.reverse_append, List.reverse_singleton, List.singleton_append,
      List.getElem?_cons_succ] at hend
    rw [← List.head?_reverse, List.head?_eq_getElem?]
    exact hend
  refine ⟨before, last, _, hmessages, ?_, ?_, ?_, rfl⟩
  · intro x hx
    exact le_of_getLast? (List.pairwise_map.mpr hascending.1) hend' (List.mem_map_of_mem hx)
  · rw [List.getLast?_map, Option.map_eq_some_iff] at hend'
    obtain ⟨e, he, hkey⟩ := hend'
    rw [← hkey]
    exact hascending.2.2 e (List.mem_of_getLast? he) last List.mem_cons_self
  · refine finishIndex_eq_some_iff.mpr ⟨hend, ?_, last, ?_, rfl, hfinishes⟩
    · rw [hkeys, List.getLast?_append, List.getLast?_singleton, Option.some_or]
    · rw [hmessages]
      exact List.mem_append_right _ List.mem_cons_self

/-- The answers to a batch have the log probabilities of the range that is sent. -/
theorem get_answersTo (h : LookedUp stream p) (column : Column ChatCompletionLogprobs) :
    ((answersTo stream p).flatMap fun m => get column (logprobsOf m)) =
      (Ranges.within (sentRange stream p) (choiceMessages p.1.1 stream)).flatMap fun e =>
        get column (logprobsOf e.2) := by
  rw [answersTo, List.flatMap_cons, logprobsOf_responseTo h, get_logprobsOfAll, List.flatMap_map,
    sentRange]
  cases hm : finishMessageOf stream p with
  | none =>
    rw [finishIndex_eq_none_of_finishMessageOf h hm, Option.toList_none, List.flatMap_nil,
      List.append_nil, Option.getD_none]
  | some m =>
    -- the message with the finish reason comes right after those of the batch
    obtain ⟨before, last, after, hmessages, hbefore, hlt, hindex, rfl⟩ :=
      exists_next_of_finishMessageOf h hm
    have hascending := choiceMessages_ascending p.1.1 stream
    rw [hmessages] at hascending ⊢
    rw [hindex, Option.getD_some, Ranges.within_next hascending hbefore hlt h.ordered,
      List.flatMap_append, Option.toList_some, List.flatMap_singleton, List.flatMap_singleton,
      logprobsOf_withRole]

/-- The messages sent for a choice have the log probabilities of the ranges that are sent. -/
theorem get_sentFor {s : ChatStreaming} (h : Answers stream s)
    (hstage : ∀ batch, s.stage ≠ .checkingFinish batch) (c : ChoiceIndex)
    (column : Column ChatCompletionLogprobs) :
    get column (logprobsOfAll logprobsOf (sentFor c s)) =
      Ranges.read (fun e => get column (logprobsOf e.2)) (sentRanges stream (processedFor c s))
        (choiceMessages c stream) := by
  rw [get_logprobsOfAll, h.sentFor_eq hstage, List.flatMap_assoc, sentRanges, Ranges.read,
    List.flatMap_map]
  apply List.flatMap_congr
  intro p hp
  obtain ⟨hprocessed, hc⟩ := List.mem_filter.mp hp
  obtain rfl := of_decide_eq_true hc
  exact get_answersTo (h.processed p hprocessed) column

end Ranges

/-- A run in which no batch is half processed. -/
structure Processes (request : StreamingRequest ChatCompletionChunk)
    (stream : List (Item Error ChatCompletionChunk)) (batches : List (Except Error Batch))
    (w : List ChatLabel) (s : ChatStreaming) : Prop where
  causal : Meets (step request) Causal (startDetection request stream batches) w
  run : exec (step request) (startDetection request stream batches) w = some s
  stage : ∀ batch, s.stage ≠ .checkingFinish batch

theorem keepsLogprobs_iff {request : StreamingRequest ChatCompletionChunk}
    {stream : List (Item Error ChatCompletionChunk)} {batches : List (Except Error Batch)}
    {w : List ChatLabel} {s : ChatStreaming} (h : Processes request stream batches w s)
    {c : ChoiceIndex} (hascending : Ascending (processedFor c s)) :
    (SentOnce logprobsOf (sentRanges stream (processedFor c s)) (choiceMessages c stream) →
      KeepsLogprobs c stream s) ∧
    (KeepsLogprobs c stream s →
      Reached logprobsOf (sentRanges stream (processedFor c s)) (choiceMessages c stream) ∨
        DistinctEntries logprobsOf (choiceMessages c stream) →
      SentOnce logprobsOf (sentRanges stream (processedFor c s)) (choiceMessages c stream)) := by
  refine kept_iff_sentOnce (get_sentFor (answers_of_exec h.causal h.run) h.stage c)
    (choiceMessages_ascending c stream) ?_
  exact List.pairwise_map.mpr (hascending.imp inputStartIndex_le_of_key_le)

end ChatStreaming

/-! ### Both endpoints -/

/-- **Log probabilities.** In a run of one of the two endpoints, the log probabilities of a choice
are kept if each message with log probabilities is in one of the ranges that are sent. If no message
with log probabilities is left out, or if no entry occurs twice, they are kept only then. -/
theorem logprobs_conserved_iff (c : ChoiceIndex) :
    (∀ {request : StreamingRequest Completion} {stream : List (Item Error Completion)}
      {batches : List Batch} {w : List CompletionLabel} {s : CompletionStreaming},
      CompletionStreaming.Processes request stream batches w s →
      CompletionStreaming.Ascending c batches →
      (SentOnce CompletionStreaming.logprobsOf (CompletionStreaming.sentRanges stream c batches)
          (CompletionStreaming.choiceMessages c stream) →
        CompletionStreaming.KeepsLogprobs c stream s.task.sent) ∧
      (CompletionStreaming.KeepsLogprobs c stream s.task.sent →
        Reached CompletionStreaming.logprobsOf (CompletionStreaming.sentRanges stream c batches)
            (CompletionStreaming.choiceMessages c stream) ∨
          DistinctEntries CompletionStreaming.logprobsOf
            (CompletionStreaming.choiceMessages c stream) →
        SentOnce CompletionStreaming.logprobsOf (CompletionStreaming.sentRanges stream c batches)
          (CompletionStreaming.choiceMessages c stream))) ∧
    (∀ {request : StreamingRequest ChatCompletionChunk}
      {stream : List (Item Error ChatCompletionChunk)} {batches : List (Except Error Batch)}
      {w : List ChatLabel} {s : ChatStreaming},
      ChatStreaming.Processes request stream batches w s →
      ChatStreaming.Ascending (ChatStreaming.processedFor c s) →
      (SentOnce ChatStreaming.logprobsOf
          (ChatStreaming.sentRanges stream (ChatStreaming.processedFor c s))
          (ChatStreaming.choiceMessages c stream) →
        ChatStreaming.KeepsLogprobs c stream s) ∧
      (ChatStreaming.KeepsLogprobs c stream s →
        Reached ChatStreaming.logprobsOf
            (ChatStreaming.sentRanges stream (ChatStreaming.processedFor c s))
            (ChatStreaming.choiceMessages c stream) ∨
          DistinctEntries ChatStreaming.logprobsOf (ChatStreaming.choiceMessages c stream) →
        SentOnce ChatStreaming.logprobsOf
          (ChatStreaming.sentRanges stream (ChatStreaming.processedFor c s))
          (ChatStreaming.choiceMessages c stream))) := by
  refine ⟨?_, ?_⟩
  · intro request stream batches w s hprocesses hascending
    exact CompletionStreaming.keepsLogprobs_iff hprocesses hascending
  · intro request stream batches w s hprocesses hascending
    exact ChatStreaming.keepsLogprobs_iff hprocesses hascending

/-- A message of choice 0 with a token for each of the given texts. -/
def tokenCompletion (text : String) (tokens : List String) : Item Error Completion :=
  .ok (some { id := "cmpl", choices := [{ text, logprobs := some { tokens } }] })

/-- One message with two sentences. -/
def twoSentenceTokens : List (Item Error Completion) :=
  [tokenCompletion "Hi. Bye." ["Hi.", " Bye."]]

/-- The batches of the two sentences: both are in the first message. -/
def sentenceBatches : List Batch :=
  [(0, { stop := 3, text := "Hi." }, []), (0, { start := 3, stop := 8, text := " Bye." }, [])]

/-- The two sentences in a message each. -/
def messagePerSentence : List (Item Error Completion) :=
  [tokenCompletion "Hi." ["Hi."], tokenCompletion " Bye." [" Bye."]]

theorem logprobs_conserved_iff_messagePerSentence :
    ∃ s, CompletionStreaming.Processes (sentenceRequest messagePerSentence) messagePerSentence
        [messageBatch 0 "Hi.", messageBatch 1 " Bye."] (consumedRun 5 2) s ∧
      CompletionStreaming.KeepsLogprobs 0 messagePerSentence s.task.sent := by
  have hrun := exec_eq_some_get (by decide :
    (exec (CompletionStreaming.step (sentenceRequest messagePerSentence))
      (CompletionStreaming.startDetection (sentenceRequest messagePerSentence) messagePerSentence
        ([messageBatch 0 "Hi.", messageBatch 1 " Bye."].map .ok)) (consumedRun 5 2)).isSome = true)
  have hprocesses : CompletionStreaming.Processes (sentenceRequest messagePerSentence)
      messagePerSentence [messageBatch 0 "Hi.", messageBatch 1 " Bye."] (consumedRun 5 2) _ :=
    ⟨by decide, by decide, hrun, by decide⟩
  exact ⟨_, hprocesses, ((logprobs_conserved_iff 0).1 hprocesses (by decide)).1 (by decide)⟩

/-- The first choice of a chat message with two sentences. -/
def twoSentenceChoice : ChatCompletionChunkChoice :=
  { delta := { content := some "Hi. Bye." }
    logprobs := some { content := [⟨"Hi. Bye.", 0, none, none⟩] } }

/-- A chat message with two sentences, and a last message without text. -/
def twoSentenceEntries : List (Item Error ChatCompletionChunk) :=
  [.ok (some { id := "chat", choices := [twoSentenceChoice] }),
    ChatStreaming.textMessage none (some "stop")]

/-- On both endpoints, the entries of a message with two chunks are sent twice. -/
theorem not_keepsLogprobs_twoChunks :
    (∃ s, CompletionStreaming.Processes (sentenceRequest twoSentenceTokens) twoSentenceTokens
        sentenceBatches (consumedRun 3 2) s ∧
      CompletionStreaming.Ascending 0 sentenceBatches ∧
      (∀ e ∈ CompletionStreaming.choiceMessages 0 twoSentenceTokens, e.2.text ≠ "" →
        ∃ batch ∈ sentenceBatches, CompletionStreaming.Covers batch e.1) ∧
      ¬ CompletionStreaming.KeepsLogprobs 0 twoSentenceTokens s.task.sent) ∧
    ∃ s, ChatStreaming.Processes (sentenceRequest twoSentenceEntries) twoSentenceEntries twoBatches
        (sentenceRun 6) s ∧
      ChatStreaming.Ascending (ChatStreaming.processedFor 0 s) ∧
      (∀ e ∈ ChatStreaming.choiceMessages 0 twoSentenceEntries, e.2.content ≠ "" →
        ∃ p ∈ ChatStreaming.processedFor 0 s,
          p.1.2.1.inputStartIndex ≤ e.1 ∧ e.1 ≤ p.1.2.1.inputEndIndex) ∧
      ¬ ChatStreaming.KeepsLogprobs 0 twoSentenceEntries s := by
  have hrun := exec_eq_some_get (by decide :
    (exec (CompletionStreaming.step (sentenceRequest twoSentenceTokens))
      (CompletionStreaming.startDetection (sentenceRequest twoSentenceTokens) twoSentenceTokens
        (sentenceBatches.map .ok)) (consumedRun 3 2)).isSome = true)
  have hchat := exec_eq_some_get (by decide :
    (exec (ChatStreaming.step (sentenceRequest twoSentenceEntries))
      (ChatStreaming.startDetection (sentenceRequest twoSentenceEntries) twoSentenceEntries
        twoBatches) (sentenceRun 6)).isSome = true)
  have hstage : (Option.get _ (by decide :
    (exec (ChatStreaming.step (sentenceRequest twoSentenceEntries))
      (ChatStreaming.startDetection (sentenceRequest twoSentenceEntries) twoSentenceEntries
        twoBatches) (sentenceRun 6)).isSome = true)).stage = .awaitingBatch := by decide
  exact ⟨⟨_, ⟨by decide, by decide, hrun, by decide⟩, by decide, by decide, by decide⟩,
    _, ⟨by decide, hchat, by simp [hstage]⟩, by decide, by decide, by decide⟩

end GuardrailsOrchestrator
