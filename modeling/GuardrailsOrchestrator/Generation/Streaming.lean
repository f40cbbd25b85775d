import GuardrailsOrchestrator.OpenAi
import GuardrailsOrchestrator.Lib.Execution
import Mathlib.Data.List.Forall2

/-!
# Streaming classification with generation

The text generation endpoint with output detection. One task consumes the messages of the
generation server: it sends the text of each message to the detection pipeline and then
adds the message to the shared generations. Another task receives the batches of the
pipeline and answers each with a message made from the generations its chunk spans.

Sending and adding are two steps, and nothing makes a batch wait for the second. The main
result is that every batch is answered from exactly the messages of its chunk if and only
if none is answered between the two steps for its last message.
-/

namespace GuardrailsOrchestrator

open Transition

/-! ### Messages -/

/-- Why text generation stopped. -/
inductive FinishReason where
  | notFinished
  | maxTokens
  | eosToken
  | cancelled
  | timeLimit
  | stopSequence
  | tokenLimit
  | error
  deriving DecidableEq

structure GeneratedToken where
  text : String
  logprob : Option ℚ := none
  rank : Option ℕ := none
  deriving DecidableEq

/-- A classified span of the text. -/
structure TokenClassificationResult where
  start : ℕ
  stop : ℕ
  word : String
  entity : String
  entityGroup : String
  detectorId : Option String := none
  score : ℚ
  tokenCount : Option ℕ := none
  deriving DecidableEq

structure TextGenTokenClassificationResults where
  input : Option (List TokenClassificationResult) := none
  output : Option (List TokenClassificationResult) := none
  deriving DecidableEq

structure DetectionWarning where
  id : Option DetectionWarningReason := none
  message : Option String := none
  deriving DecidableEq

/-- A streamed message of the text generation endpoint. -/
structure ClassifiedGeneratedTextStreamResult where
  generatedText : Option String := none
  tokenClassificationResults : TextGenTokenClassificationResults := {}
  finishReason : Option FinishReason := none
  generatedTokenCount : Option ℕ := none
  seed : Option ℕ := none
  inputTokenCount : ℕ := 0
  warnings : Option (List DetectionWarning) := none
  tokens : Option (List GeneratedToken) := none
  inputTokens : Option (List GeneratedToken) := none
  processedIndex : Option ℕ := none
  startIndex : Option ℕ := none
  deriving DecidableEq

/-- Keep the low 32 bits. -/
def asU32 (n : ℕ) : ℕ := n % 2 ^ 32

/-- A detection as a classified span. The span is unwrapped, so a detection without one
panics. -/
def TokenClassificationResult.ofDetection (detection : Detection) :
    Option TokenClassificationResult :=
  detection.start.bind fun start => detection.stop.map fun stop =>
    { start := asU32 start
      stop := asU32 stop
      word := detection.text.getD ""
      entity := detection.detection
      entityGroup := detection.detectionType
      detectorId := detection.detectorId
      score := detection.score }

namespace GenerationStreaming

variable {generations : List ClassifiedGeneratedTextStreamResult} {chunk : Chunk}
  {detections : List Detection} {r : ClassifiedGeneratedTextStreamResult}

/-- The generations from the first to the last message of a chunk, or none if the last one
is not there. -/
def generationsSlice (generations : List ClassifiedGeneratedTextStreamResult) (chunk : Chunk) :
    List ClassifiedGeneratedTextStreamResult :=
  if chunk.inputStartIndex ≤ chunk.inputEndIndex + 1 ∧
      chunk.inputEndIndex + 1 ≤ generations.length then
    (generations.drop chunk.inputStartIndex).take (chunk.inputEndIndex + 1 - chunk.inputStartIndex)
  else []

/-- The message for a batch; `none` if it panics. -/
def outputDetectionResponse (generations : List ClassifiedGeneratedTextStreamResult)
    (chunk : Chunk) (detections : List Detection) :
    Option ClassifiedGeneratedTextStreamResult :=
  let slice := generationsSlice generations chunk
  let last := slice.getLast?.getD {}
  (detections.mapM TokenClassificationResult.ofDetection).bind fun output =>
    let response : ClassifiedGeneratedTextStreamResult :=
      { last with
        generatedText := some chunk.text
        startIndex := some (asU32 chunk.start)
        processedIndex := some (asU32 chunk.stop)
        tokens := some (slice.flatMap (·.tokens.getD []))
        tokenClassificationResults :=
          { last.tokenClassificationResults with output := some output } }
    if chunk.inputStartIndex = 0 then
      -- the first message has the input token count and the seed, the second one the input
      -- tokens; the first one is unwrapped
      slice.head?.map fun first =>
        { response with
          inputTokenCount := first.inputTokenCount
          seed := first.seed
          inputTokens := match slice[1]? with
            | some second => second.inputTokens
            | none => some [] }
    else some response

/-- The message for a chunk, made from the given messages. -/
structure IsResponse (messages : List ClassifiedGeneratedTextStreamResult) (chunk : Chunk)
    (r : ClassifiedGeneratedTextStreamResult) : Prop where
  text : r.generatedText = some chunk.text
  tokens : r.tokens = some (messages.flatMap (·.tokens.getD []))
  last : ∃ last, messages.getLast? = some last ∧ r.finishReason = last.finishReason ∧
    r.generatedTokenCount = last.generatedTokenCount
  first : chunk.inputStartIndex = 0 → ∃ first, messages.head? = some first ∧
    r.inputTokenCount = first.inputTokenCount ∧ r.seed = first.seed

theorem isResponse_of_outputDetectionResponse (hslice : generationsSlice generations chunk ≠ [])
    (h : outputDetectionResponse generations chunk detections = some r) :
    IsResponse (generationsSlice generations chunk) chunk r := by
  simp only [outputDetectionResponse] at h
  obtain ⟨output, -, h⟩ := Option.bind_eq_some_iff.mp h
  have hlast := List.getLast?_eq_some_getLast hslice
  split_ifs at h with hstart
  · obtain ⟨first, hfirst, rfl⟩ := Option.map_eq_some_iff.mp h
    exact ⟨rfl, rfl, ⟨_, hlast, by simp [hlast], by simp [hlast]⟩,
      fun _ => ⟨first, hfirst, rfl, rfl⟩⟩
  · obtain rfl := Option.some.inj h
    exact ⟨rfl, rfl, ⟨_, hlast, by simp [hlast], by simp [hlast]⟩, fun h => absurd h hstart⟩

/-- A detection with a span can be converted. -/
theorem isSome_mapM_ofDetection (h : ∀ d ∈ detections, d.start.isSome ∧ d.stop.isSome) :
    (detections.mapM TokenClassificationResult.ofDetection).isSome := by
  induction detections with
  | nil => rfl
  | cons d detections ih =>
    obtain ⟨start, hstart⟩ := Option.isSome_iff_exists.mp (h d (by simp)).1
    obtain ⟨stop, hstop⟩ := Option.isSome_iff_exists.mp (h d (by simp)).2
    obtain ⟨output, houtput⟩ := Option.isSome_iff_exists.mp (ih fun d' hd' => h d' (by simp [hd']))
    rw [List.mapM_cons, houtput]
    simp [TokenClassificationResult.ofDetection, hstart, hstop]

/-- The message can be built if there is a generation to build it from. -/
theorem isSome_outputDetectionResponse
    (hspans : ∀ d ∈ detections, d.start.isSome ∧ d.stop.isSome)
    (hslice : generationsSlice generations chunk ≠ []) :
    (outputDetectionResponse generations chunk detections).isSome := by
  obtain ⟨output, houtput⟩ := Option.isSome_iff_exists.mp (isSome_mapM_ofDetection hspans)
  simp only [outputDetectionResponse, houtput, Option.bind_some]
  split_ifs
  · rw [Option.isSome_map, List.isSome_head?]
    simpa using hslice
  · rfl

end GenerationStreaming

/-! ### The tasks -/

/-- Where the task that answers batches is. -/
inductive GenerationStage where
  | receiving
  | returned
  | panicked
  deriving DecidableEq

/-- Both tasks. `answered` records, for every batch, the generations that were read for it
and the message made from them. -/
structure GenerationStreaming where
  /-- The index of the next message. -/
  index : ℕ := 0
  /-- What the generation server has yet to send. -/
  stream : List (Except Error ClassifiedGeneratedTextStreamResult)
  /-- A message whose text is sent and that is not added to the generations yet. -/
  sending : Option ClassifiedGeneratedTextStreamResult := none
  /-- What was sent to the input channel of the detection pipeline. -/
  inputs : List (Except Error (ℕ × String)) := []
  generations : List ClassifiedGeneratedTextStreamResult := []
  stage : GenerationStage := .receiving
  answered : List (Chunk × List ClassifiedGeneratedTextStreamResult ×
    Option ClassifiedGeneratedTextStreamResult) := []
  /-- What was sent to the response channel. -/
  sent : List (Except Error ClassifiedGeneratedTextStreamResult) := []

/-- Who moves next, with what the pipeline yields. -/
inductive GenerationLabel where
  | consume
  | batch (chunk : Chunk) (detections : List Detection)
  | batchError (error : Error)
  | batchesEnded
  deriving DecidableEq

namespace GenerationStreaming

/-- The indices of the messages whose texts were sent to the pipeline. -/
def receivedIndices (s : GenerationStreaming) : List ℕ :=
  s.inputs.filterMap fun input => input.toOption.map (·.1)

/-- The pipeline yields a batch only for messages it has received, and detections with
spans. -/
def Yields (s : GenerationStreaming) (chunk : Chunk) (detections : List Detection) : Prop :=
  chunk.inputStartIndex ≤ chunk.inputEndIndex ∧ chunk.inputStartIndex ∈ s.receivedIndices ∧
    chunk.inputEndIndex ∈ s.receivedIndices ∧ ∀ d ∈ detections, d.start.isSome ∧ d.stop.isSome

instance (s : GenerationStreaming) (chunk : Chunk) (detections : List Detection) :
    Decidable (s.Yields chunk detections) :=
  inferInstanceAs (Decidable (_ ∧ _))

/-- A step of the task that consumes the generation stream. -/
def consume (s : GenerationStreaming) : Option GenerationStreaming :=
  match s.sending, s.stream with
  | some generation, _ =>
    some { s with sending := none, generations := s.generations ++ [generation] }
  | none, .ok generation :: stream =>
    some { s with
      index := s.index + 1
      stream
      sending := some generation
      inputs := s.inputs ++ [.ok (s.index, generation.generatedText.getD "")] }
  -- an error is passed on, and its index is not used again
  | none, .error error :: stream =>
    some { s with index := s.index + 1, stream, inputs := s.inputs ++ [.error error] }
  | none, [] => none

/-- Answer a batch. -/
def answer (s : GenerationStreaming) (chunk : Chunk) (detections : List Detection) :
    GenerationStreaming :=
  let response := outputDetectionResponse s.generations chunk detections
  { s with
    stage := if response.isSome then .receiving else .panicked
    answered := s.answered ++ [(chunk, generationsSlice s.generations chunk, response)]
    sent := s.sent ++ response.toList.map .ok }

/-- One step. -/
def step (s : GenerationStreaming) : GenerationLabel → Option GenerationStreaming
  | .consume => s.consume
  | .batch chunk detections =>
    if s.stage = .receiving ∧ s.Yields chunk detections then some (s.answer chunk detections)
    else none
  | .batchError error =>
    if s.stage = .receiving then
      some { s with stage := .returned, sent := s.sent ++ [.error error] }
    else none
  | .batchesEnded => if s.stage = .receiving then some { s with stage := .returned } else none

/-- `handle_output_detection` with a generation stream. -/
def start (stream : List (Except Error ClassifiedGeneratedTextStreamResult)) :
    GenerationStreaming :=
  { stream }

/-- No batch is answered while its last message is sent and not added yet. -/
def Recorded (s : GenerationStreaming) : GenerationLabel → Prop
  | .batch chunk _ => s.sending.isSome → chunk.inputEndIndex + 1 ≠ s.index
  | _ => True

instance (s : GenerationStreaming) : ∀ a, Decidable (s.Recorded a)
  | .batch _ _ => inferInstanceAs (Decidable (_ → _))
  | .consume => inferInstanceAs (Decidable True)
  | .batchError _ => inferInstanceAs (Decidable True)
  | .batchesEnded => inferInstanceAs (Decidable True)

/-! ### What batches are answered from -/

/-- The messages of a chunk. -/
def messagesOf (messages : List ClassifiedGeneratedTextStreamResult) (chunk : Chunk) :
    List ClassifiedGeneratedTextStreamResult :=
  (messages.drop chunk.inputStartIndex).take (chunk.inputEndIndex + 1 - chunk.inputStartIndex)

/-- Every batch was answered from the messages of its chunk. -/
def Answers (messages : List ClassifiedGeneratedTextStreamResult) (s : GenerationStreaming) :
    Prop :=
  ∀ chunk slice response, (chunk, slice, response) ∈ s.answered →
    slice = messagesOf messages chunk ∧
      ∃ r, response = some r ∧ IsResponse (messagesOf messages chunk) chunk r

/-- The two tasks' view of the messages: those added, the one being sent, and those to come
are all of them, in order, and the pipeline has received the first ones. -/
structure Tracks (messages : List ClassifiedGeneratedTextStreamResult) (s : GenerationStreaming) :
    Prop where
  inOrder : ∃ rest, s.stream = rest.map .ok ∧
    messages = s.generations ++ s.sending.toList ++ rest
  index : s.index = s.generations.length + s.sending.toList.length
  received : s.receivedIndices = List.range s.index
  panicked : s.stage = .panicked → ∃ chunk slice, (chunk, slice, none) ∈ s.answered

section Runs

variable {messages : List ClassifiedGeneratedTextStreamResult} {s t : GenerationStreaming}
  {chunk : Chunk} {detections : List Detection}

theorem messagesOf_ne_nil (hrange : chunk.inputStartIndex ≤ chunk.inputEndIndex)
    (hend : chunk.inputEndIndex < messages.length) : messagesOf messages chunk ≠ [] := by
  rw [messagesOf, ← List.length_pos_iff, List.length_take, List.length_drop]
  omega

/-- The generations are enough once the last message of the chunk is added. -/
theorem generationsSlice_of_lt {generations more : List ClassifiedGeneratedTextStreamResult}
    (hrange : chunk.inputStartIndex ≤ chunk.inputEndIndex)
    (hend : chunk.inputEndIndex < generations.length) :
    generationsSlice generations chunk = messagesOf (generations ++ more) chunk := by
  rw [generationsSlice, if_pos ⟨by omega, hend⟩, messagesOf,
    List.drop_append_of_le_length (by omega),
    List.take_append_of_le_length (by rw [List.length_drop]; omega)]

theorem generationsSlice_of_le {generations : List ClassifiedGeneratedTextStreamResult}
    (hend : generations.length ≤ chunk.inputEndIndex) :
    generationsSlice generations chunk = [] := by
  rw [generationsSlice, if_neg]
  rintro ⟨-, hlt⟩
  omega

theorem Tracks.start (messages : List ClassifiedGeneratedTextStreamResult) :
    Tracks messages (start (messages.map .ok)) :=
  ⟨⟨messages, rfl, rfl⟩, rfl, rfl, by simp [GenerationStreaming.start]⟩

theorem Tracks.consume (h : Tracks messages s) (hstep : s.consume = some t) :
    Tracks messages t ∧ t.answered = s.answered := by
  obtain ⟨rest, hstream, hmessages⟩ := h.inOrder
  rw [GenerationStreaming.consume] at hstep
  split at hstep
  · rename_i generation hsending
    obtain rfl := Option.some.inj hstep
    refine ⟨⟨⟨rest, hstream, ?_⟩, ?_, h.received, h.panicked⟩, rfl⟩
    · simpa [hsending] using hmessages
    · simpa [hsending] using h.index
  · rename_i generation stream hsending hcons
    obtain rfl := Option.some.inj hstep
    cases rest with
    | nil => simp [hstream] at hcons
    | cons next rest =>
      rw [hstream, List.map_cons, List.cons.injEq] at hcons
      obtain ⟨hnext, rfl⟩ := hcons
      obtain rfl := Except.ok.inj hnext
      refine ⟨⟨⟨rest, rfl, ?_⟩, ?_, ?_, h.panicked⟩, rfl⟩
      · simpa [hsending] using hmessages
      · simpa [hsending] using h.index
      · rw [receivedIndices, List.filterMap_append, ← receivedIndices, h.received, List.range_succ]
        rfl
  · rename_i error stream hsending hcons
    -- all messages are there, so there is no error
    rw [hstream] at hcons
    cases rest <;> simp at hcons
  · simp at hstep

/-- A batch is answered from the messages of its chunk exactly if the last one was added. -/
theorem answers_answer_iff (h : Tracks messages s) (hyields : s.Yields chunk detections) :
    (s.answer chunk detections).Answers messages ↔
      s.Answers messages ∧ s.Recorded (.batch chunk detections) := by
  obtain ⟨hrange, -, hreceived, hspans⟩ := hyields
  obtain ⟨rest, -, hmessages⟩ := h.inOrder
  rw [h.received, List.mem_range] at hreceived
  have hlength : s.index ≤ messages.length := by
    rw [h.index, hmessages, List.length_append, List.length_append]
    omega
  -- the chunk spans messages that the pipeline has received, so there is at least one
  have hne := messagesOf_ne_nil hrange (lt_of_lt_of_le hreceived hlength)
  -- the last message of the chunk is added or being sent
  have hrecorded : s.Recorded (.batch chunk detections) ↔
      chunk.inputEndIndex < s.generations.length := by
    have hindex := h.index
    cases hsending : s.sending with
    | none =>
      simp only [hsending, Option.toList_none, List.length_nil, Nat.add_zero] at hindex
      simp [Recorded, hsending]
      omega
    | some generation =>
      simp only [hsending, Option.toList_some, List.length_singleton] at hindex
      simp [Recorded, hsending]
      omega
  have hsplit : (s.answer chunk detections).Answers messages ↔ s.Answers messages ∧
      (generationsSlice s.generations chunk = messagesOf messages chunk ∧
        ∃ r, outputDetectionResponse s.generations chunk detections = some r ∧
          IsResponse (messagesOf messages chunk) chunk r) := by
    simp only [Answers, answer, List.mem_append, List.mem_singleton, Prod.mk.injEq]
    constructor
    · intro hall
      exact ⟨fun c slice response hmem => hall c slice response (Or.inl hmem),
        hall _ _ _ (Or.inr ⟨rfl, rfl, rfl⟩)⟩
    · rintro ⟨hbefore, hnow⟩ c slice response (hmem | ⟨rfl, rfl, rfl⟩)
      · exact hbefore c slice response hmem
      · exact hnow
  rw [hsplit, hrecorded]
  refine and_congr_right fun _ => ⟨?_, ?_⟩
  · rintro ⟨hslice, -⟩
    by_contra hmissing
    -- the slice is out of range, so the batch would be answered from nothing
    rw [generationsSlice_of_le (Nat.not_lt.mp hmissing)] at hslice
    exact hne hslice.symm
  · intro hend
    have hslice : generationsSlice s.generations chunk = messagesOf messages chunk := by
      rw [hmessages, List.append_assoc]
      exact generationsSlice_of_lt hrange hend
    obtain ⟨r, hr⟩ := Option.isSome_iff_exists.mp
      (isSome_outputDetectionResponse hspans (hslice ▸ hne))
    exact ⟨hslice, r, hr, hslice ▸ isResponse_of_outputDetectionResponse (hslice ▸ hne) hr⟩

/-- One step of the run. -/
theorem Tracks.step {a : GenerationLabel} (h : Tracks messages s) (hstep : s.step a = some t) :
    Tracks messages t ∧ (t.Answers messages ↔ s.Answers messages ∧ s.Recorded a) := by
  cases a with
  | consume =>
    obtain ⟨htracks, hanswered⟩ := h.consume hstep
    exact ⟨htracks, by simp [Answers, hanswered, Recorded]⟩
  | batch chunk detections =>
    rw [GenerationStreaming.step] at hstep
    split_ifs at hstep with henabled
    obtain rfl := Option.some.inj hstep
    refine ⟨⟨h.inOrder, h.index, h.received, ?_⟩, answers_answer_iff h henabled.2⟩
    intro hpanicked
    -- a message that cannot be built panics, and leaves no answer for the batch
    cases hresponse : outputDetectionResponse s.generations chunk detections with
    | none => exact ⟨chunk, generationsSlice s.generations chunk, by simp [answer, hresponse]⟩
    | some r => simp [answer, hresponse] at hpanicked
  | batchError error =>
    rw [GenerationStreaming.step] at hstep
    split_ifs at hstep
    obtain rfl := Option.some.inj hstep
    exact ⟨⟨h.inOrder, h.index, h.received, by simp⟩, by simp [Answers, Recorded]⟩
  | batchesEnded =>
    rw [GenerationStreaming.step] at hstep
    split_ifs at hstep
    obtain rfl := Option.some.inj hstep
    exact ⟨⟨h.inOrder, h.index, h.received, by simp⟩, by simp [Answers, Recorded]⟩

end Runs

end GenerationStreaming

open GenerationStreaming

/-- **The record is complete.** For every stream of messages and every run, every batch is
answered from exactly the messages of its chunk, and the answering task does not panic, if
and only if no batch is answered while its last message is sent to the pipeline and not
added to the generations yet. -/
theorem generation_answers_iff {messages : List ClassifiedGeneratedTextStreamResult}
    {w : List GenerationLabel} {s : GenerationStreaming}
    (hrun : exec step (start (messages.map .ok)) w = some s) :
    (s.Answers messages ∧ s.stage ≠ .panicked) ↔
      Meets step Recorded (start (messages.map .ok)) w := by
  have hiff : s.Answers messages ↔ (start (messages.map .ok)).Answers messages ∧
      Meets step Recorded (start (messages.map .ok)) w :=
    exec_iff_meets (J := Tracks messages) (fun _ _ _ h hstep => (h.step hstep).1)
      (fun _ _ _ h hstep => (h.step hstep).2) (Tracks.start messages) hrun
  have htracks : Tracks messages s :=
    exec_invariant_all (fun _ _ _ h hstep => (h.step hstep).1) (Tracks.start messages) hrun
  have hstart : (start (messages.map .ok)).Answers messages := by simp [Answers, start]
  rw [hiff, and_iff_right hstart]
  apply and_iff_left_of_imp
  intro hmeets hpanicked
  -- a panic leaves a batch without an answer
  obtain ⟨chunk, slice, hmem⟩ := htracks.panicked hpanicked
  obtain ⟨-, r, hr, -⟩ := hiff.mpr ⟨hstart, hmeets⟩ chunk slice none hmem
  simp at hr

/-- Two messages of the generation server. -/
def twoGenerations : List ClassifiedGeneratedTextStreamResult :=
  [{ generatedText := some "Hi", inputTokenCount := 3 },
    { generatedText := some ".", finishReason := some .eosToken, generatedTokenCount := some 2 }]

/-- A chunk of both messages. -/
def bothGenerations : Chunk := { inputEndIndex := 1, stop := 3, text := "Hi." }

theorem generation_answers_iff_bothAdded :
    ∃ s, exec step (start (twoGenerations.map .ok))
        (List.replicate 4 .consume ++ [.batch bothGenerations []]) = some s ∧
      s.answered.length = 1 ∧ s.Answers twoGenerations ∧ s.stage ≠ .panicked := by
  have hrun := exec_eq_some_get (by decide : (exec step (start (twoGenerations.map .ok))
    (List.replicate 4 .consume ++ [.batch bothGenerations []])).isSome = true)
  exact ⟨_, hrun, by decide, (generation_answers_iff hrun).mpr (by decide)⟩

/-- The text of the first message is sent, its batch comes back, and the message is not
added yet. -/
theorem generation_panics_notAdded :
    ∃ s, exec step (start (twoGenerations.map .ok))
        [.consume, .batch { stop := 2, text := "Hi" } []] = some s ∧ s.stage = .panicked := by
  have hrun := exec_eq_some_get (by decide : (exec step (start (twoGenerations.map .ok))
    [.consume, .batch { stop := 2, text := "Hi" } []]).isSome = true)
  exact ⟨_, hrun, by decide⟩

end GuardrailsOrchestrator
