import GuardrailsOrchestrator.CompletionState
import GuardrailsOrchestrator.Config
import GuardrailsOrchestrator.Lib.Responder

/-!
# Streaming completion tasks

What the two streaming completion endpoints share: the request with the answers of
the services it depends on, the checks made before anything is generated, and the
task that consumes the messages of the generation server.

The consumer is sequential, and what it does is determined by the messages it
receives. It is therefore modelled by the list of its effects on the state it shares
with other tasks; a step of a machine performs one of them. The client is connected
throughout, so no send to the response channel fails.
-/

namespace GuardrailsOrchestrator

open ResponseProtocol

/-- What is sent to the input channel of a choice: a message index and a text. -/
abbrev InputItem := ChoiceIndex × Except Error (ℕ × String)

/-! ### The consumer's effects -/

/-- One effect of the task that consumes the messages of the generation server. -/
inductive ConsumerAction (M : Type) where
  | respond (item : Item Error M)
  | setUsage (usage : Usage)
  | setMetadata (metadata : CompletionMetadata)
  | insertCompletion (choiceIndex : ChoiceIndex) (messageIndex : ℕ) (completion : M)
  | sendInput (input : InputItem)
  | setEmptyOutputDetected

/-- What the consumer works on: the completion state, the input channels of the
choices, the response channel and the flag for choices without text. -/
structure StreamingTask (M : Type) where
  completionState : CompletionState M := {}
  inputs : List InputItem := []
  sent : List (Item Error M) := []
  emptyOutputDetected : Bool := false

/-- Perform one effect. -/
def StreamingTask.perform {M : Type} (s : StreamingTask M) : ConsumerAction M → StreamingTask M
  | .respond item => { s with sent := s.sent ++ [item] }
  | .setUsage usage => { s with completionState := s.completionState.setUsage usage }
  | .setMetadata metadata =>
    { s with completionState := s.completionState.setMetadata metadata }
  | .insertCompletion choiceIndex messageIndex completion =>
    { s with
      completionState :=
        s.completionState.insertCompletion choiceIndex messageIndex completion }
  | .sendInput input => { s with inputs := s.inputs ++ [input] }
  | .setEmptyOutputDetected => { s with emptyOutputDetected := true }

/-- What an effect sends to the response channel. -/
def ConsumerAction.response {M : Type} : ConsumerAction M → Option (Item Error M)
  | .respond item => some item
  | _ => none

/-- What a consumer sends to the response channel next, if its next effect does. -/
def nextResponse {M : Type} (consumer : List (ConsumerAction M)) : Option (Item Error M) :=
  consumer.head?.bind ConsumerAction.response

theorem ConsumerAction.response_eq_some_iff {M : Type} {action : ConsumerAction M}
    {item : Item Error M} : action.response = some item ↔ action = .respond item := by
  cases action <;> simp [response]

theorem StreamingTask.sent_perform {M : Type} (s : StreamingTask M) (action : ConsumerAction M) :
    (s.perform action).sent = s.sent ++ action.response.toList := by
  cases action <;> simp [perform, ConsumerAction.response]

/-- While the consumer does not respond, only the main task does. -/
theorem StreamingTask.sent_perform_of_silent {M : Type} {action : ConsumerAction M}
    {consumer : List (ConsumerAction M)} (hsilent : ∀ item, .respond item ∉ action :: consumer)
    (s : StreamingTask M) : (s.perform action).sent = s.sent := by
  rw [sent_perform]
  cases action with
  | respond item => exact absurd List.mem_cons_self (hsilent item)
  | _ => exact List.append_nil _

/-- If all that the effects of an item respond with is the item, a consumer responds with what it
receives. -/
theorem received_of_respond_mem_flatMap {M : Type} {responds : Bool}
    {actions : Item Error M × ℕ → List (ConsumerAction M)} {item : Item Error M}
    (hactions : ∀ p, .respond item ∈ actions p → responds = true ∧ item = p.1 ∧ item ≠ .ok none)
    {stream : List (Item Error M)} (h : .respond item ∈ stream.zipIdx.flatMap actions) :
    responds = true ∧ item ∈ stream ∧ item ≠ .ok none := by
  obtain ⟨p, hp, hmem⟩ := List.mem_flatMap.mp h
  obtain ⟨hresponds, rfl, hsome⟩ := hactions p hmem
  exact ⟨hresponds, (List.mem_zipIdx hp).2.2 ▸ List.getElem_mem _, hsome⟩

/-- An effect of the consumer keeps the response in order if it sends nothing after an error. It
sends no completion signal, and only while the main task goes on. -/
theorem inOrder_iff_of_perform {M σ α : Type} {r : Responder σ α Error M} {s t : σ}
    (task : StreamingTask M) {action : ConsumerAction M} (hs : r.sent s = task.sent)
    (ht : r.sent t = (task.perform action).sent) (houtlook : r.outlook t = r.outlook s)
    (hresponse : ∀ item, action.response = some item →
      item ≠ .ok none ∧ r.outlook s = .running) :
    r.InOrder t ↔ r.InOrder s ∧ (action.response.isSome → hasError (r.sent s) = false) := by
  rw [StreamingTask.sent_perform, ← hs] at ht
  cases haction : action.response with
  | none =>
    rw [Responder.InOrder, Responder.InOrder, ht, houtlook, haction]
    simp
  | some item =>
    obtain ⟨hsome, hrunning⟩ := hresponse item haction
    rw [haction] at ht
    rw [Responder.inOrder_iff_of_send ht hsome hrunning (houtlook.trans hrunning)]
    simp

/-- No effect takes a stored message away. -/
theorem StreamingTask.entries_messages_perform_ne_nil {M : Type} {s : StreamingTask M}
    {choiceIndex : ChoiceIndex} (h : (s.completionState.messages choiceIndex).entries ≠ [])
    (action : ConsumerAction M) :
    ((s.perform action).completionState.messages choiceIndex).entries ≠ [] := by
  cases action with
  | insertCompletion choiceIndex' messageIndex completion =>
    exact CompletionState.entries_messages_insertCompletion_ne_nil h _ _ _
  | _ => exact h

/-- No effect leaves a choice with an entry and without messages. -/
theorem StreamingTask.inhabits_perform {M : Type} {s : StreamingTask M}
    (h : s.completionState.Inhabits) (action : ConsumerAction M) :
    (s.perform action).completionState.Inhabits := by
  cases action with
  | insertCompletion choiceIndex messageIndex completion =>
    exact CompletionState.inhabits_insertCompletion h choiceIndex messageIndex completion
  | _ => exact h

/-! ### What the consumer stores -/

namespace StreamingTask

variable {M : Type}

section Messages

variable (choiceOf : M → Option ChoiceIndex)

/-- The message of an item, if it is one of the given choice. -/
def messageOf (c : ChoiceIndex) (p : Item Error M × ℕ) : Option (ℕ × M) :=
  match p.1 with
  | .ok (some m) => if choiceOf m = some c then some (p.2, m) else none
  | _ => none

/-- The messages the generation server streams for a choice, with their indices. -/
def choiceMessages (c : ChoiceIndex) (stream : List (Item Error M)) : List (ℕ × M) :=
  stream.zipIdx.filterMap (messageOf choiceOf c)

variable {choiceOf} {c : ChoiceIndex}

theorem messageOf_eq_some_iff {p : Item Error M × ℕ} {e : ℕ × M} :
    messageOf choiceOf c p = some e ↔ p = (.ok (some e.2), e.1) ∧ choiceOf e.2 = some c := by
  obtain ⟨i, m⟩ := e
  rcases p with ⟨error | (_ | m'), i'⟩
  · simp [messageOf]
  · simp [messageOf]
  · by_cases h : choiceOf m' = some c
    · simp only [messageOf, h, if_true, Option.some_inj, Prod.mk.injEq, Except.ok.injEq]
      constructor
      · rintro ⟨rfl, rfl⟩
        exact ⟨⟨rfl, rfl⟩, h⟩
      · rintro ⟨⟨rfl, rfl⟩, -⟩
        exact ⟨rfl, rfl⟩
    · simp only [messageOf, h, if_false, Prod.mk.injEq, Except.ok.injEq, Option.some_inj]
      constructor
      · simp
      · rintro ⟨⟨rfl, -⟩, hc⟩
        exact absurd hc h

theorem choiceOf_of_mem_choiceMessages {stream : List (Item Error M)} {e : ℕ × M}
    (h : e ∈ choiceMessages choiceOf c stream) : choiceOf e.2 = some c := by
  obtain ⟨p, -, he⟩ := List.mem_filterMap.mp h
  exact (messageOf_eq_some_iff.mp he).2

variable (choiceOf) in
/-- The messages of a choice are numbered in ascending order. -/
theorem choiceMessages_ascending (c : ChoiceIndex) (stream : List (Item Error M)) :
    (choiceMessages choiceOf c stream).Pairwise fun x y => x.1 < y.1 := by
  have hindices : stream.zipIdx.Pairwise fun x y => x.2 < y.2 := by
    rw [← List.pairwise_map (f := Prod.snd) (R := (· < ·)), List.zipIdx_map_snd]
    exact List.pairwise_lt_range'
  refine hindices.filterMap _ ?_
  intro p q hlt x hx y hy
  obtain ⟨rfl, -⟩ := messageOf_eq_some_iff.mp hx
  obtain ⟨rfl, -⟩ := messageOf_eq_some_iff.mp hy
  exact hlt

end Messages

/-- The message an effect stores for a choice. -/
def insertOf (c : ChoiceIndex) : ConsumerAction M → Option (ℕ × M)
  | .insertCompletion c' i m => if c' = c then some (i, m) else none
  | _ => none

/-- The messages that a list of effects stores for a choice. -/
def inserts (c : ChoiceIndex) (actions : List (ConsumerAction M)) : List (ℕ × M) :=
  actions.filterMap (insertOf c)

theorem inserts_append (c : ChoiceIndex) (actions actions' : List (ConsumerAction M)) :
    inserts c (actions ++ actions') = inserts c actions ++ inserts c actions' :=
  List.filterMap_append

/-- If messages are stored in ascending order, an effect adds its message to the stored
ones. -/
theorem entries_perform {task : StreamingTask M} {c : ChoiceIndex} {action : ConsumerAction M}
    {actions : List (ConsumerAction M)}
    (h : ((task.completionState.messages c).entries ++ inserts c (action :: actions)).Pairwise
      fun x y => x.1 < y.1) :
    ((task.perform action).completionState.messages c).entries =
      (task.completionState.messages c).entries ++ (insertOf c action).toList := by
  cases action with
  | insertCompletion c' i m =>
    simp only [perform, CompletionState.messages_insertCompletion, insertOf]
    by_cases hc : c = c'
    · subst hc
      simp only [if_true, Option.toList_some]
      apply OrderedMap.entries_insert_of_forall_lt
      intro e he
      -- the stored messages come before this one
      exact (List.pairwise_append.mp h).2.2 e he (i, m) (by simp [inserts, insertOf])
    · simp [hc, Ne.symm hc]
  | _ => simp [perform, insertOf]

/-- If the effects of every item store its message, those of all items store the messages of the
stream. -/
theorem inserts_flatMap {choiceOf : M → Option ChoiceIndex} {c : ChoiceIndex}
    {actions : Item Error M × ℕ → List (ConsumerAction M)}
    (hactions : ∀ p, inserts c (actions p) = (messageOf choiceOf c p).toList)
    (stream : List (Item Error M)) :
    inserts c (stream.zipIdx.flatMap actions) = choiceMessages choiceOf c stream := by
  rw [choiceMessages]
  induction stream.zipIdx with
  | nil => rfl
  | cons p l ih =>
    rw [List.flatMap_cons, inserts_append, ih, hactions]
    cases hp : messageOf choiceOf c p <;> simp [hp]

/-- The stored messages of every choice, followed by those that the consumer has yet to store, are
the messages of the stream. -/
def Stores (choiceOf : M → Option ChoiceIndex) (stream : List (Item Error M))
    (task : StreamingTask M) (consumer : List (ConsumerAction M)) : Prop :=
  ∀ c, (task.completionState.messages c).entries ++ inserts c consumer =
    choiceMessages choiceOf c stream

namespace Stores

variable {choiceOf : M → Option ChoiceIndex} {stream : List (Item Error M)}
  {task : StreamingTask M} {action : ConsumerAction M} {consumer : List (ConsumerAction M)}

/-- Messages come with ascending indices, so an effect adds its message to the stored ones. -/
theorem entries_perform (h : Stores choiceOf stream task (action :: consumer)) (c : ChoiceIndex) :
    ((task.perform action).completionState.messages c).entries =
      (task.completionState.messages c).entries ++ (insertOf c action).toList := by
  have hascending := choiceMessages_ascending choiceOf c stream
  rw [← h c] at hascending
  exact StreamingTask.entries_perform hascending

theorem perform (h : Stores choiceOf stream task (action :: consumer)) :
    Stores choiceOf stream (task.perform action) consumer := by
  intro c
  rw [h.entries_perform, ← h c]
  cases haction : insertOf c action <;> simp [inserts, haction]

/-- When nothing is left to be done, all messages are stored. -/
theorem entries_eq (h : Stores choiceOf stream task []) (c : ChoiceIndex) :
    (task.completionState.messages c).entries = choiceMessages choiceOf c stream := by
  simpa [inserts] using h c

end Stores

end StreamingTask

/-! ### The request -/

/-- A streaming completion request, with the answers of the services that are asked
before the first message is generated or after the last one. The task asks the first ones
itself, so that it panics where they do. -/
structure StreamingRequest (M : Type) where
  config : OrchestratorConfig
  inputDetectors : IterMap DetectorId DetectorParams
  outputDetectors : IterMap DetectorId DetectorParams
  /-- The choices, in the order in which the map of their input channels is iterated. -/
  choices : List ChoiceIndex
  /-- Whether the maps of the input channels can be made. A number of choices below zero is a
  capacity that no map has. -/
  hasCapacity : Bool
  /-- What `handle_input_detection` returns. -/
  inputDetection : Except Failure (Option M)
  /-- The stream of the generation server. Without a client for the server this panics. -/
  generation : Except Failure (List (Item Error M))
  /-- Whether the detection streams of a choice can be created. -/
  detectionStreams : ChoiceIndex → Except Failure Unit
  /-- What `handle_whole_doc_detection` returns, given the completion state it reads;
  `none` if it panics. -/
  wholeDocDetection :
    CompletionState M →
      Option (Except Error (CompletionDetections × List CompletionDetectionWarning))

/-- How a request ends before its output is processed. -/
inductive EarlyEnd (M : Type) where
  /-- With a response. -/
  | responded (response : List (Item Error M))
  /-- The task panics, and nothing is sent. -/
  | panicked

namespace StreamingRequest

variable {M : Type} (request : StreamingRequest M)

/-- Whether a detector is applied to chunks of the generated text. -/
def isChunkDetector (detectorId : DetectorId) : Bool :=
  (request.config.detector detectorId).any fun detector =>
    detector.type == .textContents && detector.chunkerId != defaultChunkerId

/-- The output detectors applied to chunks of the generated text. -/
def chunkDetectors : IterMap DetectorId DetectorParams :=
  request.outputDetectors.filter fun e => request.isChunkDetector e.1

/-- The output detectors applied to the full generated text. -/
def wholeDocDetectors : IterMap DetectorId DetectorParams :=
  request.outputDetectors.filter fun e => !request.isChunkDetector e.1

/-- Output detectors of which none is applied to chunks are applied to the full text. -/
theorem entries_wholeDocDetectors_ne_nil (houtput : request.outputDetectors.isEmpty = false)
    (hchunk : request.chunkDetectors.isEmpty = true) :
    request.wholeDocDetectors.entries ≠ [] := by
  have hne : request.outputDetectors.entries ≠ [] := by
    intro hnil
    simp [IterMap.isEmpty, hnil] at houtput
  obtain ⟨e, he⟩ := List.exists_mem_of_ne_nil _ hne
  have hnone : request.outputDetectors.entries.filter (fun e => request.isChunkDetector e.1) = [] :=
    List.isEmpty_iff.mp hchunk
  apply List.ne_nil_of_mem (a := e)
  refine List.mem_filter.mpr ⟨he, ?_⟩
  simpa using List.filter_eq_nil_iff.mp hnone e he

/-- Without detectors that are applied to chunks, all output detectors are applied to the full
text. -/
theorem wholeDocDetectors_eq (hchunk : request.chunkDetectors.isEmpty = true) :
    request.wholeDocDetectors = request.outputDetectors := by
  have hnone : request.outputDetectors.entries.filter (fun e => request.isChunkDetector e.1) = [] :=
    List.isEmpty_iff.mp hchunk
  have hentries : request.wholeDocDetectors.entries = request.outputDetectors.entries := by
    apply List.filter_eq_self.mpr
    intro e he
    simpa using List.filter_eq_nil_iff.mp hnone e he
  exact IterMap.eq_of_entries_eq hentries

/-- Without output detectors, none is applied to chunks. -/
theorem chunkDetectors_isEmpty (h : request.outputDetectors.isEmpty = true) :
    request.chunkDetectors.isEmpty = true := by
  simp_all [chunkDetectors, IterMap.isEmpty, IterMap.filter]

/-- The result of input detection, which is skipped without input detectors. -/
def inputAnswer : Except Failure (Option M) :=
  if request.inputDetectors.isEmpty then .ok none else request.inputDetection

/-- The part of `handle_streaming` before the output is processed: either the request ends here, or
there is the stream of the generation server. -/
def prepare (supportedOutputTypes : List DetectorType) :
    Except (EarlyEnd M) (List (Item Error M)) :=
  match validateDetectors request.inputDetectors request.config.detectors [.textContents] true with
  | .error error => .error (.responded [.error error, .ok none])
  | .ok () =>
  match validateDetectors request.outputDetectors request.config.detectors
      supportedOutputTypes true with
  | .error error => .error (.responded [.error error, .ok none])
  | .ok () =>
  match request.inputAnswer with
  | .ok (some completion) => .error (.responded [.ok (some completion), .ok none])
  | .error (.error error) => .error (.responded [.error error, .ok none])
  | .error .panic => .error .panicked
  | .ok none =>
  match request.generation with
  | .error (.error error) => .error (.responded [.error error, .ok none])
  | .error .panic => .error .panicked
  | .ok stream =>
    -- the input channels are made for detectors that are applied to chunks
    if !request.chunkDetectors.isEmpty && !request.hasCapacity then .error .panicked
    else .ok stream

/-- Something panics before the output is processed: input detection, the lookup of the generation
client, or making the input channels. -/
def PanicsEarly (supportedOutputTypes : List DetectorType) : Prop :=
  validateDetectors request.inputDetectors request.config.detectors [.textContents] true = .ok () ∧
    validateDetectors request.outputDetectors request.config.detectors supportedOutputTypes true =
      .ok () ∧
    (request.inputAnswer = .error .panic ∨ request.inputAnswer = .ok none ∧
      (request.generation = .error .panic ∨ (∃ stream, request.generation = .ok stream) ∧
        request.chunkDetectors.isEmpty = false ∧ request.hasCapacity = false))

/-- Creating the detection streams of the choices does not panic. -/
def CreatesStreams : Prop :=
  ∀ choiceIndex ∈ request.choices, request.detectionStreams choiceIndex ≠ .error .panic

variable {request}

theorem prepare_eq_panicked_iff {supportedOutputTypes : List DetectorType} :
    request.prepare supportedOutputTypes = .error .panicked ↔
      request.PanicsEarly supportedOutputTypes := by
  rw [prepare, PanicsEarly]
  split
  · simp [*]
  split
  · simp [*]
  split
  · simp [*]
  · simp [*]
  · simp [*]
  split
  · simp [*]
  · simp [*]
  · simp [*]

/-- A request that ends before its output is processed has a terminated response, unless the task
panics. -/
theorem terminated_of_prepare {supportedOutputTypes : List DetectorType}
    {response : List (Item Error M)}
    (h : request.prepare supportedOutputTypes = .error (.responded response)) :
    phase response = .closed := by
  have hexit : ∀ item : Item Error M, item ≠ .ok none →
      (Except.error (.responded [item, .ok none]) : Except (EarlyEnd M) (List (Item Error M))) =
        .error (.responded response) → phase response = .closed := by
    rintro (error | (_ | m)) hitem heq
    · obtain rfl := EarlyEnd.responded.inj (Except.error.inj heq)
      rfl
    · exact absurd rfl hitem
    · obtain rfl := EarlyEnd.responded.inj (Except.error.inj heq)
      rfl
  rw [prepare] at h
  -- every early exit sends one item and then the completion signal
  split at h
  · exact hexit _ (by simp) h
  split at h
  · exact hexit _ (by simp) h
  split at h
  · exact hexit _ (by simp) h
  · exact hexit _ (by simp) h
  · simp at h
  split at h
  · exact hexit _ (by simp) h
  · simp at h
  · split_ifs at h
    simp at h

/-- A task that is started as `prepare` tells is in order, unless something panics before the output
is processed. -/
theorem inOrder_iff_of_prepare {σ α : Type} {r : Responder σ α Error M} {start : σ}
    {supportedOutputTypes : List DetectorType}
    (hresponded : ∀ response, request.prepare supportedOutputTypes = .error (.responded response) →
      r.outlook start = .done ∧ r.sent start = response)
    (hpanicked : request.prepare supportedOutputTypes = .error .panicked →
      r.outlook start = .lost)
    (hok : ∀ stream, request.prepare supportedOutputTypes = .ok stream →
      r.outlook start = .running ∧ r.sent start = []) :
    r.InOrder start ↔ ¬ request.PanicsEarly supportedOutputTypes := by
  rw [← prepare_eq_panicked_iff]
  -- an early end has sent its response, a panic nothing, and otherwise nothing was sent yet
  match hprepare : request.prepare supportedOutputTypes with
  | .error (.responded response) =>
    obtain ⟨hdone, hsent⟩ := hresponded response hprepare
    refine iff_of_true ?_ (by simp)
    rw [Responder.InOrder, hdone, hsent]
    exact terminated_of_prepare hprepare
  | .error .panicked =>
    exact iff_of_false (Responder.not_inOrder_of_lost (hpanicked hprepare)) (by simp)
  | .ok stream =>
    obtain ⟨hrunning, hsent⟩ := hok stream hprepare
    refine iff_of_true ?_ (by simp)
    rw [Responder.InOrder, hrunning, hsent]
    exact Or.inl rfl

/-- The output detectors of a request whose output is processed are configured and of supported
types. -/
theorem validateDetectors_of_prepare {supportedOutputTypes : List DetectorType}
    {stream : List (Item Error M)} (h : request.prepare supportedOutputTypes = .ok stream) :
    validateDetectors request.outputDetectors request.config.detectors supportedOutputTypes true =
      .ok () := by
  rw [prepare] at h
  split at h
  · simp at h
  split at h
  · simp at h
  · assumption

end StreamingRequest

/-- A request for one choice and one detector that examines sentences. -/
def sentenceRequest {M : Type} (generation : List (Item Error M)) : StreamingRequest M where
  config :=
    { openai := some ⟨{ hostname := "localhost" }, none⟩
      chunkers := some ⟨[("sentence", ⟨{ hostname := "localhost" }⟩)], by decide⟩
      detectors :=
        ⟨[("hap", ⟨{ hostname := "localhost" }, none, "sentence", 1, .textContents⟩)], by decide⟩ }
  inputDetectors := .empty
  outputDetectors := ⟨[("hap", .empty)], by decide⟩
  choices := [0]
  hasCapacity := true
  inputDetection := .ok none
  generation := .ok generation
  detectionStreams _ := .ok ()
  wholeDocDetection _ := some (.ok ({}, []))

end GuardrailsOrchestrator
