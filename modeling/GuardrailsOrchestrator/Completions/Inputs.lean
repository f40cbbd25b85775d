import GuardrailsOrchestrator.Completions.Termination
import GuardrailsOrchestrator.InputChannels

/-!
# Chunks of the inputs of a choice

A chunker is given the texts of a choice with the indices of their messages, and the chunks that
it gives back carry such indices. The message for a chunk is looked up among the stored messages
of the choice. A choice without text has the placeholder as its only input, whose index is 0,
whatever choice the message of index 0 belongs to.

## Main results

* `responds_iff` — when a response can be built for every chunk
-/

namespace GuardrailsOrchestrator

namespace CompletionStreaming

open ResponseProtocol Transition StreamingTask

variable {request : StreamingRequest Completion} {stream : List (Item Error Completion)}
  {batches : List (Except Error Batch)} {s t : CompletionStreaming}

/-! ### Inputs and stored messages -/

/-- Whenever an input was sent, a message of its index is stored for its choice. -/
def SendsStored (actions : List (ConsumerAction Completion)) : Prop :=
  ∀ performed, performed <+: actions → ∀ c i text,
    .sendInput (c, .ok (i, text)) ∈ performed → i ∈ (inserts c performed).map (·.1)

theorem SendsStored.append {actions actions' : List (ConsumerAction Completion)}
    (h : SendsStored actions) (h' : SendsStored actions') : SendsStored (actions ++ actions') := by
  rintro performed ⟨rest, hrest⟩ c i text hmem
  rcases List.append_eq_append_iff.mp hrest with ⟨pending, rfl, -⟩ | ⟨performed', rfl, rfl⟩
  · exact h performed (List.prefix_append _ _) c i text hmem
  · rw [inserts_append, List.map_append, List.mem_append]
    rcases List.mem_append.mp hmem with hmem | hmem
    · exact Or.inl (h actions (List.prefix_refl _) c i text hmem)
    · exact Or.inr (h' performed' (List.prefix_append _ _) c i text hmem)

/-- Effects that send no text. -/
theorem sendsStored_of_forall_notMem {actions : List (ConsumerAction Completion)}
    (h : ∀ c i text, .sendInput (c, .ok (i, text)) ∉ actions) : SendsStored actions := by
  intro performed hperformed c i text hmem
  exact absurd (hperformed.subset hmem) (h c i text)

/-- The text of a message is sent right after the message was stored. -/
theorem sendsStored_recordActions (inputTxs : List ChoiceIndex) (hasFlag : Bool) (i : ℕ)
    (m : Completion) : SendsStored (recordActions true inputTxs hasFlag i m) := by
  rw [recordActions]
  apply SendsStored.append
  · apply sendsStored_of_forall_notMem
    simp
  cases m.choices.head? with
  | none => exact sendsStored_of_forall_notMem (by simp)
  | some choice =>
    simp only [if_true, List.singleton_append]
    intro performed hperformed c j text hmem
    -- a first effect that was performed is the one that stores the message
    cases performed with
    | nil => simp at hmem
    | cons action performed =>
      obtain ⟨rfl, hrest⟩ := List.cons_prefix_cons.mp hperformed
      have hinput : .sendInput (c, .ok (j, text)) ∈ inputActions hasFlag i choice := by
        have := hrest.subset ((List.mem_cons.mp hmem).resolve_left (by simp))
        split_ifs at this
        · exact this
        · simp at this
      rw [inputActions] at hinput
      split_ifs at hinput
      · obtain ⟨rfl, rfl, rfl⟩ : c = choice.index ∧ j = i ∧ text = choice.text := by
          simpa using hinput
        simp [inserts, insertOf]
      · simp at hinput
      · simp at hinput

theorem sendsStored_messageActions (inputTxs : List ChoiceIndex) (hasFlag : Bool)
    (p : Item Error Completion × ℕ) :
    SendsStored (messageActions true inputTxs false hasFlag p.2 p.1) := by
  rcases p with ⟨error | (_ | m), i⟩
  · exact sendsStored_of_forall_notMem (by simp [messageActions])
  · exact sendsStored_of_forall_notMem (by simp [messageActions])
  · simp only [messageActions, Bool.false_eq_true, if_false, List.nil_append]
    split
    · exact sendsStored_of_forall_notMem (by simp)
    · exact sendsStored_recordActions inputTxs hasFlag i m

theorem sendsStored_flatMap (inputTxs : List ChoiceIndex) (hasFlag : Bool)
    (l : List (Item Error Completion × ℕ)) :
    SendsStored (l.flatMap fun p => messageActions true inputTxs false hasFlag p.2 p.1) := by
  induction l with
  | nil => exact sendsStored_of_forall_notMem (by simp)
  | cons p l ih =>
    rw [List.flatMap_cons]
    exact (sendsStored_messageActions inputTxs hasFlag p).append ih

/-- The choice has a text, or else a message that has the index of the placeholder. -/
def IsLookedUp (stream : List (Item Error Completion)) (c : ChoiceIndex) : Prop :=
  (∃ m, .ok (some m) ∈ stream ∧ SaysText c m) ∨
    ∃ m rest, stream = .ok (some m) :: rest ∧ choiceOf m = some c

/-- The first item of the stream has the index 0. -/
theorem zero_mem_choiceMessages_iff {c : ChoiceIndex} :
    0 ∈ (choiceMessages c stream).map (·.1) ↔
      ∃ m rest, stream = .ok (some m) :: rest ∧ choiceOf m = some c := by
  rw [choiceMessages, StreamingTask.choiceMessages, List.mem_map]
  constructor
  · rintro ⟨⟨i, m⟩, hmem, rfl⟩
    obtain ⟨p, hp, hmessage⟩ := List.mem_filterMap.mp hmem
    obtain ⟨rfl, hc⟩ := messageOf_eq_some_iff.mp hmessage
    have hhead := List.mem_zipIdx_iff_getElem?.mp hp
    cases stream with
    | nil => simp at hhead
    | cons item rest =>
      obtain rfl : item = .ok (some m) := by simpa using hhead
      exact ⟨m, rest, rfl, hc⟩
  · rintro ⟨m, rest, rfl, hc⟩
    refine ⟨(0, m), List.mem_filterMap.mpr ⟨(.ok (some m), 0), by simp, ?_⟩, rfl⟩
    exact messageOf_eq_some_iff.mpr ⟨rfl, hc⟩

/-- With a message for every placeholder, all inputs belong to stored messages. -/
theorem sendsStored_processCompletionStream {inputTxs : List ChoiceIndex} (hasFlag : Bool)
    (h : ∀ c ∈ inputTxs, IsLookedUp stream c) :
    SendsStored (processCompletionStream true inputTxs false hasFlag stream) := by
  rintro performed ⟨rest, hrest⟩ c i text hmem
  have hmessages := sendsStored_flatMap inputTxs hasFlag stream.zipIdx
  rw [processCompletionStream] at hrest
  rcases List.append_eq_append_iff.mp hrest with ⟨pending, hpending, -⟩ |
    ⟨placeholders, rfl, hplaceholders⟩
  · exact hmessages performed ⟨pending, hpending.symm⟩ c i text hmem
  · rw [inserts_append, List.map_append, List.mem_append]
    refine Or.inl ?_
    rcases List.mem_append.mp hmem with hmem | hmem
    · exact hmessages _ (List.prefix_refl _) c i text hmem
    · -- a placeholder is sent when all messages are stored
      have hsent := List.mem_append_left rest hmem
      rw [← hplaceholders] at hsent
      simp only [List.mem_map, List.mem_filter, decide_eq_true_eq, ConsumerAction.sendInput.injEq,
        Prod.mk.injEq, Except.ok.injEq] at hsent
      obtain ⟨c, ⟨hc, hdata⟩, rfl, rfl, rfl⟩ := hsent
      rw [inserts_flatMap_messageActions]
      apply zero_mem_choiceMessages_iff.mpr
      exact (h c hc).resolve_left fun hsays => hdata (mem_choicesWithData_iff.mpr hsays)

/-! ### In a run -/

/-- The consumer performs its effects one after the other. -/
theorem suffix_of_exec {w : List CompletionLabel}
    (hrun : exec (step request) (startDetection request stream batches) w = some s) :
    s.consumer <:+ processCompletionStream true request.choices false true stream := by
  refine exec_invariant_all (I := fun s : CompletionStreaming => s.consumer <:+ _) ?_
    (List.suffix_refl _) hrun
  intro s a t h hstep
  cases a with
  | consumer =>
    obtain ⟨action, consumer, hconsumer, -, rfl⟩ := exists_of_stepConsumer hstep
    rw [hconsumer] at h
    exact (List.suffix_cons _ _).trans h
  | main => cases mainStep_of_stepMain hstep <;> exact h
  | last choiceIndex =>
    obtain ⟨choices, indices, -, -, ⟨-, rfl⟩ | ⟨last, endIndex, -, -, rfl⟩⟩ :=
      exists_of_stepLast hstep
    · exact h
    · exact h

/-- What was sent and what is stored in a state of a run are the work of the effects that were
performed. -/
theorem exists_performed {w : List CompletionLabel}
    (hrun : exec (step request) (startDetection request stream batches) w = some s) :
    ∃ performed, performed ++ s.consumer =
        processCompletionStream true request.choices false true stream ∧
      s.task.inputs = inputsOf performed ∧
      ∀ c, (s.task.completionState.messages c).entries = inserts c performed := by
  obtain ⟨performed, hperformed⟩ := suffix_of_exec hrun
  have hfeeds := feeds_of_exec hrun
  have hstores := exec_invariant_all (fun _ _ _ => Stores.step)
    (Stores.startDetection request stream batches) hrun
  refine ⟨performed, hperformed, ?_, ?_⟩
  · rw [Feeds, ← hperformed, inputsOf, inputsOf, List.filterMap_append] at hfeeds
    exact List.append_cancel_right hfeeds
  · intro c
    have hc := hstores.stored c
    rw [← inserts_processCompletionStream request.choices false true, ← hperformed,
      inserts_append] at hc
    exact List.append_cancel_right hc

/-- A batch of a choice as a chunker can give it: it starts and ends in inputs that the chunker
received. -/
structure IsObtained (task : StreamingTask Completion) (batch : Batch) : Prop where
  ordered : batch.2.1.inputStartIndex ≤ batch.2.1.inputEndIndex
  starts : ∃ text, (batch.1, .ok (batch.2.1.inputStartIndex, text)) ∈ task.inputs
  ends : ∃ text, (batch.1, .ok (batch.2.1.inputEndIndex, text)) ∈ task.inputs

/-- A response is built exactly if a message of the choice is stored in the chunk's range. -/
theorem exists_response_iff {batch : Batch}
    (h : batch.2.1.inputStartIndex ≤ batch.2.1.inputEndIndex) :
    (∃ m, s.response batch = some (.ok m)) ↔ ∃ i ∈ (s.task.completionState.messages batch.1).keys,
      batch.2.1.inputStartIndex ≤ i ∧ i ≤ batch.2.1.inputEndIndex := by
  constructor
  · rintro ⟨m, hm⟩
    obtain ⟨completions, hentry, hresponse⟩ := Option.bind_eq_some_iff.mp hm
    obtain ⟨stored, hlast, -⟩ := exists_of_outputDetectionResponse hresponse
    obtain ⟨e, he, -⟩ := List.mem_map.mp (List.mem_of_getLast? hlast)
    rw [CompletionState.messages_of_get? hentry]
    obtain ⟨hmem, hstart, hend⟩ := OrderedMap.mem_range.mp he
    exact ⟨e.1, List.mem_map_of_mem hmem, hstart, hend⟩
  · rintro ⟨i, hi, hstart, hend⟩
    -- the choice has an entry, since a message is stored for it
    have hentry : s.completions batch.1 = some (s.task.completionState.messages batch.1) :=
      CompletionState.get?_of_mem_keys hi
    obtain ⟨e, hmem, rfl⟩ := List.mem_map.mp hi
    have hrange : e.2 ∈ completionsOf (s.task.completionState.messages batch.1) batch.2.1 :=
      List.mem_map_of_mem (OrderedMap.mem_range.mpr ⟨hmem, hstart, hend⟩)
    obtain ⟨stored, hstored⟩ := Option.isSome_iff_exists.mp
      (List.getLast?_isSome.mpr (List.ne_nil_of_mem hrange))
    rw [response, hentry, Option.bind_some, outputDetectionResponse, if_neg (Nat.not_lt.mpr h),
      hstored]
    exact ⟨_, rfl⟩

theorem spawns_of_exec {w : List CompletionLabel}
    (hrun : exec (step request) (startDetection request stream batches) w = some s) :
    Spawns request s :=
  exec_invariant_all (fun _ _ _ h hstep => h.step hstep)
    (Spawns.startDetection request stream batches) hrun

/-- There is a run in which the consumer does all its work, if it is spawned. -/
theorem exists_exec_consumed (hcreates : request.CreatesStreams)
    (stream : List (Item Error Completion)) (batches : List (Except Error Batch)) :
    ∃ w s, exec (step request) (startDetection request stream batches) w = some s ∧
      s.consumer = [] := by
  -- while the consumer has something to do, a task can move
  have hprogress : ∀ s : CompletionStreaming, ¬ (s.consumer = [] ∨ s.stage = .aborted) →
      ∃ a t, True ∧ s.step request a = some t := by
    intro s hs
    obtain ⟨hconsumer, haborted⟩ := not_or.mp hs
    by_cases hended : (responder request).Ended s
    · -- the consumer goes on after the main task has ended
      obtain ⟨action, consumer, hcons⟩ := List.exists_cons_of_ne_nil hconsumer
      refine ⟨.consumer, { s with consumer, task := s.task.perform action }, trivial, ?_⟩
      cases hstage : s.stage with
      | creatingStreams choices =>
        simp [Responder.Ended, responder, hstage, outlook] at hended
      | aborted => exact absurd hstage haborted
      | _ => simp [step, stepConsumer, hcons, hstage]
    · obtain ⟨a, t, hstep⟩ := exists_step_of_not_ended request hended
      exact ⟨a, t, trivial, hstep⟩
  obtain ⟨w, s, -, hrun, hend⟩ := exists_exec_of_progress (fun _ _ _ => budget_lt_of_step)
    hprogress (startDetection request stream batches)
  exact ⟨w, s, hrun, hend.resolve_right ((spawns_of_exec hrun).stage_ne_aborted hcreates)⟩

/-- **Responses for chunks.** In every state of every run, a response can be built for every
batch that starts and ends in inputs that its chunker received, exactly if each choice has a text
or the first message of the stream, or else creating the detection streams panics and no chunker
receives anything. -/
theorem responds_iff :
    (∀ batches w s, exec (step request) (startDetection request stream batches) w = some s →
      ∀ batch, IsObtained s.task batch → ∃ m, s.response batch = some (.ok m)) ↔
      (request.CreatesStreams → ∀ c ∈ request.choices, IsLookedUp stream c) := by
  constructor
  · intro hresponds hcreates c hc
    rw [IsLookedUp, or_iff_not_imp_left]
    intro hsilent
    obtain ⟨w, s, hrun, hconsumed⟩ := exists_exec_consumed hcreates stream []
    obtain ⟨performed, hperformed, hinputs, hentries⟩ := exists_performed hrun
    rw [hconsumed, List.append_nil] at hperformed
    -- at the end the chunker can give a chunk for the placeholder
    have hplaceholder : (c, .ok (0, "")) ∈ s.task.inputs := by
      rw [hinputs, hperformed]
      apply mem_inputsOf_processCompletionStream_iff.mpr
      exact ⟨hc, Or.inr ⟨fun hdata => hsilent (mem_choicesWithData_iff.mp hdata), rfl, rfl⟩⟩
    have hbatch : IsObtained s.task (c, {}, []) := ⟨le_refl _, ⟨_, hplaceholder⟩, ⟨_, hplaceholder⟩⟩
    obtain ⟨i, hi, -, hle⟩ :=
      (exists_response_iff hbatch.ordered).mp (hresponds [] w s hrun _ hbatch)
    obtain rfl : i = 0 := Nat.le_zero.mp hle
    rw [OrderedMap.keys, hentries, hperformed, inserts_processCompletionStream] at hi
    exact zero_mem_choiceMessages_iff.mp hi
  · intro hlooked batches w s hrun batch hbatch
    obtain ⟨performed, hperformed, hinputs, hentries⟩ := exists_performed hrun
    obtain ⟨text, hstarts⟩ := hbatch.starts
    have hcreates := (spawns_of_exec hrun).createsStreams_of_mem_inputs hstarts
    rw [hinputs, mem_inputsOf] at hstarts
    have hstored := sendsStored_processCompletionStream true (hlooked hcreates) performed
      ⟨_, hperformed⟩ _ _ _ hstarts
    rw [← hentries] at hstored
    exact (exists_response_iff hbatch.ordered).mpr ⟨_, hstored, le_refl _, hbatch.ordered⟩

/-- Two choices, of which the second has no text. -/
def silentChoice : List (Item Error Completion) :=
  [.ok (some { id := "cmpl", choices := [{ index := 0, text := "Hi." }] }),
    .ok (some { id := "cmpl", choices := [{ index := 1, finishReason := some "stop" }] })]

/-- A request for two choices. -/
def twoChoices (generation : List (Item Error Completion)) : StreamingRequest Completion :=
  { sentenceRequest generation with choices := [0, 1] }

/-- The chunk of the placeholder of choice 1 has no message, as message 0 belongs to choice 0. -/
theorem not_responds_silentChoice :
    ∃ w s, exec (step (twoChoices silentChoice))
        (startDetection (twoChoices silentChoice) silentChoice []) w = some s ∧
      IsObtained s.task (1, {}, []) ∧
      s.response (1, {}, []) = some (.error (.other "no completions found for chunk")) := by
  have hrun := exec_eq_some_get (by decide :
    (exec (step (twoChoices silentChoice))
      (startDetection (twoChoices silentChoice) silentChoice [])
      ([.main, .main, .main] ++ List.replicate 6 .consumer)).isSome = true)
  refine ⟨_, _, hrun, ⟨le_refl _, ⟨"", by decide⟩, ⟨"", by decide⟩⟩, by decide⟩

end CompletionStreaming

end GuardrailsOrchestrator
