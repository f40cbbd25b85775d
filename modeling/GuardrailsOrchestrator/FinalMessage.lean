import GuardrailsOrchestrator.Chat.WholeDoc
import GuardrailsOrchestrator.Completions.Streaming

/-!
# The metadata of the final message

The final message of a stream has the id, the creation time and the model that the consumer
records, which are unwrapped. They are recorded once, from the item of index 0, and only if it is
a message that does not just set the usage. Nothing else that makes a final message due waits for
them: neither the detectors of the request, nor a batch that fails early.

## Main results

* `buildsFinal_iff` — when the metadata is there for the final message
-/

namespace GuardrailsOrchestrator

open ResponseProtocol Transition

/-! ### Metadata is recorded once -/

namespace StreamingTask

variable {M : Type}

/-- The metadata that an effect sets. -/
def metadataOf : ConsumerAction M → Option CompletionMetadata
  | .setMetadata metadata => some metadata
  | _ => none

/-- The metadata that effects set. -/
def metadatasOf (actions : List (ConsumerAction M)) : List CompletionMetadata :=
  actions.filterMap metadataOf

theorem metadatasOf_append (actions actions' : List (ConsumerAction M)) :
    metadatasOf (actions ++ actions') = metadatasOf actions ++ metadatasOf actions' :=
  List.filterMap_append

/-- The metadata that is set and the one that will be set are together the given one. -/
def Records (metadata : Option CompletionMetadata) (task : StreamingTask M)
    (consumer : List (ConsumerAction M)) : Prop :=
  task.completionState.metadata.toList ++ metadatasOf consumer = metadata.toList

variable {metadata : Option CompletionMetadata} {task : StreamingTask M}
  {action : ConsumerAction M} {consumer : List (ConsumerAction M)}

theorem Records.perform (h : Records metadata task (action :: consumer)) :
    Records metadata (task.perform action) consumer := by
  cases action with
  | setMetadata metadata' =>
    -- there is one metadata at most, so none was set before
    have hlength := congrArg List.length h
    cases hset : task.completionState.metadata with
    | none =>
      rw [Records, hset] at h
      rw [Records, StreamingTask.perform, CompletionState.setMetadata]
      simpa [hset, metadatasOf, metadataOf] using h
    | some metadata'' =>
      rw [hset] at hlength
      cases metadata <;> simp [metadatasOf, metadataOf] at hlength
  | _ => exact h

/-- Metadata is there if it is recorded at all and not still to be recorded. -/
theorem Records.metadata_ne_none_iff (h : Records metadata task consumer) :
    task.completionState.metadata ≠ none ↔ metadata ≠ none ∧ metadatasOf consumer = [] := by
  rw [Records] at h
  cases hset : task.completionState.metadata with
  | none =>
    rw [hset, Option.toList_none, List.nil_append] at h
    rw [h]
    cases metadata <;> simp
  | some metadata' =>
    rw [hset] at h
    cases metadata with
    | none => simp at h
    | some metadata'' => simpa using (List.cons.inj h).2

/-- If only the item of index 0 sets metadata, then a stream sets that of its first item. -/
theorem metadatasOf_flatMap_zipIdx {I : Type} {actions : ℕ → I → List (ConsumerAction M)}
    {first : I → Option CompletionMetadata}
    (h : ∀ i item, metadatasOf (actions i item) = if i = 0 then (first item).toList else [])
    (stream : List I) :
    metadatasOf (stream.zipIdx.flatMap fun p => actions p.2 p.1) =
      (stream.head?.bind first).toList := by
  have htail : ∀ (l : List I) (n : ℕ),
      metadatasOf ((l.zipIdx (n + 1)).flatMap fun p => actions p.2 p.1) = [] := by
    intro l
    induction l with
    | nil => exact fun _ => rfl
    | cons item l ih =>
      intro n
      rw [List.zipIdx_cons, List.flatMap_cons, metadatasOf_append, ih, h]
      simp
  cases stream with
  | nil => rfl
  | cons item stream =>
    rw [List.zipIdx_cons, List.flatMap_cons, metadatasOf_append, htail, h]
    simp

theorem metadatasOf_eq_nil_iff {actions : List (ConsumerAction M)} :
    metadatasOf actions = [] ↔ ∀ metadata, .setMetadata metadata ∉ actions := by
  rw [metadatasOf, List.filterMap_eq_nil_iff]
  constructor
  · intro h metadata hmem
    simpa [metadataOf] using h _ hmem
  · intro h action hmem
    cases action with
    | setMetadata metadata => exact absurd hmem (h metadata)
    | _ => rfl

end StreamingTask

open StreamingTask

/-- The stream of a request that is not answered before its output is processed. -/
theorem StreamingRequest.generation_of_prepare {M : Type} {request : StreamingRequest M}
    {supportedOutputTypes : List DetectorType} {stream : List (Item Error M)}
    (h : request.prepare supportedOutputTypes = .ok stream) : request.generation = .ok stream := by
  rw [prepare] at h
  split at h
  · simp at h
  split at h
  · simp at h
  split at h
  · simp at h
  · simp at h
  · simp at h
  split at h
  · simp at h
  · simp at h
  · rename_i hgeneration
    split_ifs at h
    rw [hgeneration, Except.ok.inj h]

/-! ### Chat completions -/

namespace ChatStreaming

variable {request : StreamingRequest ChatCompletionChunk}
  {stream : List (Item Error ChatCompletionChunk)} {s t : ChatStreaming}

/-- The metadata that the consumer records: that of the first item, if it is a message that does
not only set the usage. -/
def firstMetadata (stream : List (Item Error ChatCompletionChunk)) : Option CompletionMetadata :=
  match stream.head? with
  | some (.ok (some m)) =>
    if m.usage.isSome ∧ m.choices = [] then none else some ⟨m.id, m.created, m.model⟩
  | _ => none

theorem metadatasOf_recordActions (inputTxs : List ChoiceIndex) (i : ℕ) (m : ChatCompletionChunk) :
    metadatasOf (recordActions true inputTxs i m) =
      if i = 0 then [⟨m.id, m.created, m.model⟩] else [] := by
  have hmetadata : ∀ metadata, metadatasOf (if i = 0 ∧ true = true then
      [(.setMetadata metadata : ConsumerAction ChatCompletionChunk)] else []) =
        if i = 0 then [metadata] else [] := by
    intro metadata
    by_cases hi : i = 0 <;> simp [hi, metadatasOf, metadataOf]
  rw [recordActions, metadatasOf_append, hmetadata]
  cases m.choices.head? with
  | none => exact List.append_nil _
  | some choice =>
    simp only [if_true, metadatasOf_append]
    split_ifs <;> rfl

theorem metadatasOf_messageActions (inputTxs : List ChoiceIndex) (hasResponseTx : Bool) (i : ℕ)
    (item : Item Error ChatCompletionChunk) :
    metadatasOf (messageActions true inputTxs hasResponseTx i item) =
      if i = 0 then (firstMetadata [item]).toList else [] := by
  -- what is forwarded sets nothing
  have hrespond : ∀ item, metadatasOf (if hasResponseTx then
      [(.respond item : ConsumerAction ChatCompletionChunk)] else []) = [] := by
    intro item
    cases hasResponseTx <;> rfl
  rcases item with error | (_ | m)
  · simp only [messageActions, metadatasOf_append, hrespond, List.nil_append]
    simp [metadatasOf, metadataOf, firstMetadata, List.filterMap_map, Function.comp_def]
  · simp [messageActions, metadatasOf, firstMetadata]
  · simp only [messageActions, metadatasOf_append, hrespond, List.nil_append]
    split
    · rename_i husage hchoices
      simp [firstMetadata, husage, hchoices, metadatasOf, metadataOf]
    · rename_i hother
      -- any other message is recorded, and its metadata are set if it is the first one
      have hnot : ¬ (m.usage.isSome ∧ m.choices = []) := by
        rintro ⟨husage, hchoices⟩
        obtain ⟨usage, husage⟩ := Option.isSome_iff_exists.mp husage
        exact hother usage husage hchoices
      rw [metadatasOf_recordActions]
      simp [firstMetadata, hnot]

/-- The consumer records the metadata of the item of index 0 and of no other. -/
theorem metadatasOf_processChatCompletionStream (inputTxs : List ChoiceIndex)
    (hasResponseTx : Bool) :
    metadatasOf (processChatCompletionStream true inputTxs hasResponseTx stream) =
      (firstMetadata stream).toList := by
  refine (metadatasOf_flatMap_zipIdx (metadatasOf_messageActions inputTxs hasResponseTx)
    stream).trans ?_
  cases stream <;> rfl

/-- Whether no final message is built at a stage or after it. -/
def isPastFinal : ChatStage → Bool
  | .forwarding detecting => !detecting
  | .completing | .finished | .panicked | .aborted => true
  | _ => false

theorem isPastFinal_of_mainStep (h : isPastFinal s.stage = true) (hstep : MainStep request s t) :
    isPastFinal t.stage = true := by
  cases hstep with
  | @forwarded detecting hstage => cases detecting <;> simp_all [isPastFinal, goto]
  | completed => rfl
  | _ => simp_all [isPastFinal]

/-- As long as a final message may be built, the metadata of the stream is set or will be. -/
def RecordsMetadata (request : StreamingRequest ChatCompletionChunk) (s : ChatStreaming) : Prop :=
  isPastFinal s.stage = true ∨ ∃ stream, request.generation = .ok stream ∧
    Records (firstMetadata stream) s.task s.consumer

theorem recordsMetadata_start (request : StreamingRequest ChatCompletionChunk)
    (batches : List (Except Error Batch)) : RecordsMetadata request (start request batches) := by
  rw [start]
  split
  · exact Or.inl rfl
  · exact Or.inl rfl
  · rename_i stream hprepare
    have hgeneration := StreamingRequest.generation_of_prepare hprepare
    split_ifs
    · exact Or.inl rfl
    · exact Or.inr ⟨stream, hgeneration, metadatasOf_processChatCompletionStream [] true⟩
    · exact Or.inr ⟨stream, hgeneration,
        metadatasOf_processChatCompletionStream request.choices false⟩

theorem recordsMetadata_stepMain (h : RecordsMetadata request s) (hstep : MainStep request s t) :
    RecordsMetadata request t := by
  rcases h with hpast | ⟨stream, hgeneration, hrecords⟩
  · exact Or.inl (isPastFinal_of_mainStep hpast hstep)
  · refine Or.inr ⟨stream, hgeneration, ?_⟩
    cases hstep <;> exact hrecords

theorem recordsMetadata_step {a : ChatLabel} (h : RecordsMetadata request s)
    (hstep : s.step request a = some t) : RecordsMetadata request t := by
  cases a with
  | consumer =>
    obtain ⟨action, consumer, hconsumer, -, rfl⟩ := exists_of_stepConsumer hstep
    rcases h with hpast | ⟨stream, hgeneration, hrecords⟩
    · exact Or.inl hpast
    · rw [hconsumer] at hrecords
      exact Or.inr ⟨stream, hgeneration, hrecords.perform⟩
  | main => exact recordsMetadata_stepMain h (mainStep_of_stepMain hstep)
  | timeout =>
    obtain ⟨batch, -, hstage⟩ := exists_of_stepTimeout hstep
    rcases h with hpast | ⟨stream, hgeneration, hrecords⟩
    · rcases hstage with ⟨hstage, -⟩ | ⟨hstage, -⟩ <;> simp [hstage, isPastFinal] at hpast
    · refine Or.inr ⟨stream, hgeneration, ?_⟩
      rcases hstage with ⟨-, error, rfl⟩ | ⟨-, rfl⟩
      · exact hrecords
      · exact hrecords

/-- If a final message is due, the metadata that it needs is set, and nothing is unwrapped that
is missing. -/
def BuildsFinal (request : StreamingRequest ChatCompletionChunk) (s : ChatStreaming) : Prop :=
  s.stage = .finalizing → s.sendsFinal request = true →
    s.task.completionState.metadata ≠ none ∧ s.stepMain request ≠ some (s.goto .panicked)

/-- If a final message is due, the stream of the generation server starts with a message that
has choices or no usage, and the consumer has recorded its metadata. -/
def HasStarted (request : StreamingRequest ChatCompletionChunk) (s : ChatStreaming) : Prop :=
  s.stage = .finalizing → s.sendsFinal request = true →
    (∃ m rest, request.generation = .ok (.ok (some m) :: rest) ∧
      (m.choices ≠ [] ∨ m.usage = none)) ∧ ∀ metadata, .setMetadata metadata ∉ s.consumer

theorem firstMetadata_ne_none_iff :
    firstMetadata stream ≠ none ↔
      ∃ m rest, stream = .ok (some m) :: rest ∧ (m.choices ≠ [] ∨ m.usage = none) := by
  rw [firstMetadata]
  rcases stream with _ | ⟨error | (_ | m), rest⟩
  · simp
  · simp
  · simp
  · have hiff : ¬ (m.usage.isSome ∧ m.choices = []) ↔ m.choices ≠ [] ∨ m.usage = none := by
      rw [not_and_or, Option.not_isSome_iff_eq_none, or_comm]
    simp [← hiff]

/-- The final message is built without a panic exactly if the metadata is set. -/
theorem stepMain_ne_panicked_iff (hstage : s.stage = .finalizing)
    (hfinal : s.sendsFinal request = true) :
    s.stepMain request ≠ some (s.goto .panicked) ↔ s.task.completionState.metadata ≠ none := by
  rw [sendsFinal] at hfinal
  simp only [stepMain, hstage, hfinal, if_true]
  cases s.task.completionState.metadata with
  | none => simp
  | some metadata =>
    simp only [ne_eq, reduceCtorEq, not_false_eq_true, iff_true]
    split_ifs <;> simp [goto, send]

theorem buildsFinal_iff_hasStarted {batches : List (Except Error Batch)} {w : List ChatLabel}
    (hrun : exec (step request) (start request batches) w = some s) :
    BuildsFinal request s ↔ HasStarted request s := by
  refine forall₂_congr fun hstage hfinal => ?_
  rw [stepMain_ne_panicked_iff hstage hfinal, and_self]
  have hrecords := exec_invariant_all (fun _ _ _ => recordsMetadata_step)
    (recordsMetadata_start request batches) hrun
  obtain ⟨stream, hgeneration, hrecords⟩ : ∃ stream, request.generation = .ok stream ∧
      Records (firstMetadata stream) s.task s.consumer := by
    refine hrecords.resolve_left ?_
    simp [hstage, isPastFinal]
  rw [hrecords.metadata_ne_none_iff, firstMetadata_ne_none_iff, metadatasOf_eq_nil_iff]
  simp [hgeneration]

end ChatStreaming

/-! ### Completions -/

namespace CompletionStreaming

variable {request : StreamingRequest Completion} {stream : List (Item Error Completion)}
  {s t : CompletionStreaming}

/-- The metadata that the consumer records: that of the first item, if it is a message that does
not only set the usage. -/
def firstMetadata (stream : List (Item Error Completion)) : Option CompletionMetadata :=
  match stream.head? with
  | some (.ok (some m)) =>
    if m.usage.isSome ∧ m.choices = [] then none else some ⟨m.id, m.created, m.model⟩
  | _ => none

theorem metadatasOf_recordActions (inputTxs : List ChoiceIndex) (hasFlag : Bool) (i : ℕ)
    (m : Completion) :
    metadatasOf (recordActions true inputTxs hasFlag i m) =
      if i = 0 then [⟨m.id, m.created, m.model⟩] else [] := by
  have hmetadata : ∀ metadata, metadatasOf (if i = 0 ∧ true = true then
      [(.setMetadata metadata : ConsumerAction Completion)] else []) =
        if i = 0 then [metadata] else [] := by
    intro metadata
    by_cases hi : i = 0 <;> simp [hi, metadatasOf, metadataOf]
  rw [recordActions, metadatasOf_append, hmetadata]
  cases m.choices.head? with
  | none => exact List.append_nil _
  | some choice =>
    simp only [if_true, metadatasOf_append, inputActions]
    split_ifs <;> rfl

theorem metadatasOf_messageActions (inputTxs : List ChoiceIndex) (hasResponseTx hasFlag : Bool)
    (i : ℕ) (item : Item Error Completion) :
    metadatasOf (messageActions true inputTxs hasResponseTx hasFlag i item) =
      if i = 0 then (firstMetadata [item]).toList else [] := by
  have hrespond : ∀ item, metadatasOf (if hasResponseTx then
      [(.respond item : ConsumerAction Completion)] else []) = [] := by
    intro item
    cases hasResponseTx <;> rfl
  rcases item with error | (_ | m)
  · simp only [messageActions, metadatasOf_append, hrespond, List.nil_append]
    simp [metadatasOf, metadataOf, firstMetadata, List.filterMap_map, Function.comp_def]
  · simp [messageActions, metadatasOf, firstMetadata]
  · simp only [messageActions, metadatasOf_append, hrespond, List.nil_append]
    split
    · rename_i husage hchoices
      simp [firstMetadata, husage, hchoices, metadatasOf, metadataOf]
    · rename_i hother
      have hnot : ¬ (m.usage.isSome ∧ m.choices = []) := by
        rintro ⟨husage, hchoices⟩
        obtain ⟨usage, husage⟩ := Option.isSome_iff_exists.mp husage
        exact hother usage husage hchoices
      rw [metadatasOf_recordActions]
      simp [firstMetadata, hnot]

/-- The consumer records the metadata of the item of index 0 and of no other. -/
theorem metadatasOf_processCompletionStream (inputTxs : List ChoiceIndex)
    (hasResponseTx hasFlag : Bool) :
    metadatasOf (processCompletionStream true inputTxs hasResponseTx hasFlag stream) =
      (firstMetadata stream).toList := by
  have hplaceholders : ∀ choices : List ChoiceIndex, metadatasOf (choices.map fun choiceIndex =>
      (.sendInput (choiceIndex, .ok (0, "")) : ConsumerAction Completion)) = [] := by
    intro choices
    simp [metadatasOf, metadataOf, List.filterMap_map, Function.comp_def]
  rw [processCompletionStream, metadatasOf_append, hplaceholders, List.append_nil]
  refine (metadatasOf_flatMap_zipIdx
    (metadatasOf_messageActions inputTxs hasResponseTx hasFlag) stream).trans ?_
  cases stream <;> rfl

/-- Whether no final message is built at a stage or after it. -/
def isPastFinal : CompletionStage → Bool
  | .forwarding detecting => !detecting
  | .completing | .finished | .panicked | .aborted => true
  | _ => false

theorem isPastFinal_of_mainStep (h : isPastFinal s.stage = true) (hstep : MainStep request s t) :
    isPastFinal t.stage = true := by
  cases hstep with
  | @forwarded detecting hstage => cases detecting <;> simp_all [isPastFinal, goto]
  | completed => rfl
  | _ => simp_all [isPastFinal]

/-- As long as a final message may be built, the metadata of the stream is set or will be. -/
def RecordsMetadata (request : StreamingRequest Completion) (s : CompletionStreaming) : Prop :=
  isPastFinal s.stage = true ∨ ∃ stream, request.generation = .ok stream ∧
    Records (firstMetadata stream) s.task s.consumer

theorem recordsMetadata_start (request : StreamingRequest Completion)
    (batches : List (Except Error Batch)) : RecordsMetadata request (start request batches) := by
  rw [start]
  split
  · exact Or.inl rfl
  · exact Or.inl rfl
  · rename_i stream hprepare
    have hgeneration := StreamingRequest.generation_of_prepare hprepare
    split_ifs
    · exact Or.inl rfl
    · exact Or.inr ⟨stream, hgeneration, metadatasOf_processCompletionStream [] true true⟩
    · exact Or.inr ⟨stream, hgeneration,
        metadatasOf_processCompletionStream request.choices false true⟩

theorem recordsMetadata_stepMain (h : RecordsMetadata request s) (hstep : MainStep request s t) :
    RecordsMetadata request t := by
  rcases h with hpast | ⟨stream, hgeneration, hrecords⟩
  · exact Or.inl (isPastFinal_of_mainStep hpast hstep)
  · refine Or.inr ⟨stream, hgeneration, ?_⟩
    cases hstep <;> exact hrecords

theorem recordsMetadata_step {a : CompletionLabel} (h : RecordsMetadata request s)
    (hstep : s.step request a = some t) : RecordsMetadata request t := by
  cases a with
  | consumer =>
    obtain ⟨action, consumer, hconsumer, -, rfl⟩ := exists_of_stepConsumer hstep
    rcases h with hpast | ⟨stream, hgeneration, hrecords⟩
    · exact Or.inl hpast
    · rw [hconsumer] at hrecords
      exact Or.inr ⟨stream, hgeneration, hrecords.perform⟩
  | main => exact recordsMetadata_stepMain h (mainStep_of_stepMain hstep)
  | last choiceIndex =>
    obtain ⟨choices, indices, hlast, -, hcases⟩ := exists_of_stepLast hstep
    rcases h with hpast | ⟨stream, hgeneration, hrecords⟩
    · simp [hlast, isPastFinal] at hpast
    · refine Or.inr ⟨stream, hgeneration, ?_⟩
      rcases hcases with ⟨-, rfl⟩ | ⟨last, endIndex, -, -, rfl⟩
      · exact hrecords
      · exact hrecords

/-- If a final message is due, the metadata that it needs is set, and nothing is unwrapped that
is missing. -/
def BuildsFinal (request : StreamingRequest Completion) (s : CompletionStreaming) : Prop :=
  s.stage = .finalizing → s.sendsFinal request = true →
    s.task.completionState.metadata ≠ none ∧ s.stepMain request ≠ some (s.goto .panicked)

/-- If a final message is due, the stream of the generation server starts with a message that
has choices or no usage, and the consumer has recorded its metadata. -/
def HasStarted (request : StreamingRequest Completion) (s : CompletionStreaming) : Prop :=
  s.stage = .finalizing → s.sendsFinal request = true →
    (∃ m rest, request.generation = .ok (.ok (some m) :: rest) ∧
      (m.choices ≠ [] ∨ m.usage = none)) ∧ ∀ metadata, .setMetadata metadata ∉ s.consumer

theorem firstMetadata_ne_none_iff :
    firstMetadata stream ≠ none ↔
      ∃ m rest, stream = .ok (some m) :: rest ∧ (m.choices ≠ [] ∨ m.usage = none) := by
  rw [firstMetadata]
  rcases stream with _ | ⟨error | (_ | m), rest⟩
  · simp
  · simp
  · simp
  · have hiff : ¬ (m.usage.isSome ∧ m.choices = []) ↔ m.choices ≠ [] ∨ m.usage = none := by
      rw [not_and_or, Option.not_isSome_iff_eq_none, or_comm]
    simp [← hiff]

/-- The final message is built without a panic exactly if the metadata is set. -/
theorem stepMain_ne_panicked_iff (hstage : s.stage = .finalizing)
    (hfinal : s.sendsFinal request = true) :
    s.stepMain request ≠ some (s.goto .panicked) ↔ s.task.completionState.metadata ≠ none := by
  simp only [stepMain, hstage, hfinal, if_true]
  cases s.task.completionState.metadata with
  | none => simp
  | some metadata =>
    simp only [ne_eq, reduceCtorEq, not_false_eq_true, iff_true]
    split_ifs <;> simp [goto, send]

theorem buildsFinal_iff_hasStarted {batches : List (Except Error Batch)} {w : List CompletionLabel}
    (hrun : exec (step request) (start request batches) w = some s) :
    BuildsFinal request s ↔ HasStarted request s := by
  refine forall₂_congr fun hstage hfinal => ?_
  rw [stepMain_ne_panicked_iff hstage hfinal, and_self]
  have hrecords := exec_invariant_all (fun _ _ _ => recordsMetadata_step)
    (recordsMetadata_start request batches) hrun
  obtain ⟨stream, hgeneration, hrecords⟩ : ∃ stream, request.generation = .ok stream ∧
      Records (firstMetadata stream) s.task s.consumer := by
    refine hrecords.resolve_left ?_
    simp [hstage, isPastFinal]
  rw [hrecords.metadata_ne_none_iff, firstMetadata_ne_none_iff, metadatasOf_eq_nil_iff]
  simp [hgeneration]

end CompletionStreaming

/-! ### Both endpoints -/

/-- **The final message.** In every state that a request reaches on either endpoint, if a final
message is due, its metadata is set exactly when the generation server's stream starts with a
message that has choices or no usage, and the consumer has come past this message. -/
theorem buildsFinal_iff (request : StreamingRequest ChatCompletionChunk)
    (request' : StreamingRequest Completion) (batches : List (Except Error Batch)) :
    (∀ w s, exec (ChatStreaming.step request) (ChatStreaming.start request batches) w = some s →
      (ChatStreaming.BuildsFinal request s ↔ ChatStreaming.HasStarted request s)) ∧
    ∀ w s, exec (CompletionStreaming.step request') (CompletionStreaming.start request' batches) w =
        some s →
      (CompletionStreaming.BuildsFinal request' s ↔ CompletionStreaming.HasStarted request' s) :=
  ⟨fun _ _ hrun => ChatStreaming.buildsFinal_iff_hasStarted hrun,
    fun _ _ hrun => CompletionStreaming.buildsFinal_iff_hasStarted hrun⟩

/-- A stream that starts with an error. -/
def failedStream : List (Item Error ChatCompletionChunk) :=
  [.error (.client (.http 503 "overloaded")), .ok none]

/-- The task panics after the error was forwarded. -/
theorem not_buildsFinal_failedStream :
    ∃ s, exec (ChatStreaming.step (documentRequest failedStream))
        (ChatStreaming.start (documentRequest failedStream) []) [.consumer, .main] =
          some s ∧
      s.stage = .finalizing ∧ ¬ ChatStreaming.BuildsFinal
        (documentRequest failedStream) s := by
  have hrun := exec_eq_some_get (by decide :
    (exec (ChatStreaming.step (documentRequest failedStream))
      (ChatStreaming.start (documentRequest failedStream) [])
        [.consumer, .main]).isSome = true)
  refine ⟨_, hrun, by decide, ?_⟩
  intro hbuilds
  obtain ⟨hmetadata, -⟩ := hbuilds (by decide) (by decide)
  exact hmetadata (by decide)

/-- A message, and the usage. -/
def countedStream : List (Item Error Completion) :=
  [.ok (some { id := "cmpl", choices := [{ text := "Hi" }] }),
    .ok (some { id := "cmpl", usage := some {} })]

/-- All messages are consumed before the main task finds no batch. -/
def countedRun : List CompletionLabel :=
  [.main, .main, .consumer, .consumer, .consumer, .consumer, .main, .main]

/-- The final message has the metadata of the first message, on either endpoint. -/
theorem buildsFinal_iff_started :
    (∃ s, exec (ChatStreaming.step (documentRequest twoMessages))
        (ChatStreaming.start (documentRequest twoMessages) [])
          (List.replicate 5 .consumer ++ [.main]) = some s ∧ s.stage = .finalizing ∧
      ChatStreaming.BuildsFinal (documentRequest twoMessages) s) ∧
    ∃ s, exec (CompletionStreaming.step (sentenceRequest countedStream))
        (CompletionStreaming.start (sentenceRequest countedStream) []) countedRun = some s ∧
      s.stage = .finalizing ∧ s.sendsFinal (sentenceRequest countedStream) = true ∧
      CompletionStreaming.BuildsFinal (sentenceRequest countedStream) s := by
  constructor
  · have hrun := exec_eq_some_get (by decide :
      (exec (ChatStreaming.step (documentRequest twoMessages))
        (ChatStreaming.start (documentRequest twoMessages) [])
          (List.replicate 5 .consumer ++ [.main])).isSome = true)
    refine ⟨_, hrun, by decide, ((buildsFinal_iff _ (sentenceRequest []) []).1 _ _ hrun).mpr ?_⟩
    intro _ _
    exact ⟨⟨_, _, rfl, Or.inl (List.cons_ne_nil _ _)⟩, fun _ => List.not_mem_nil⟩
  · have hrun := exec_eq_some_get (by decide :
      (exec (CompletionStreaming.step (sentenceRequest countedStream))
        (CompletionStreaming.start (sentenceRequest countedStream) []) countedRun).isSome = true)
    refine ⟨_, hrun, by decide, by decide,
      ((buildsFinal_iff (documentRequest []) _ []).2 _ _ hrun).mpr ?_⟩
    intro _ _
    exact ⟨⟨_, _, rfl, Or.inl (List.cons_ne_nil _ _)⟩, fun _ => List.not_mem_nil⟩

end GuardrailsOrchestrator
