import GuardrailsOrchestrator.Gateway.Streaming
import GuardrailsOrchestrator.Lib.Sequences

/-!
# Streams that are not examined

Without output detectors a streaming handler passes on what the language model generates. What the
client of such a request has received at some moment is known exactly.

## Main definitions

* `Forwarding` — a task that forwards items
* `StreamedTask.forwarded` — the whole response to a stream that is forwarded

## Main results

* `undetected_stream_forwarded` — what the client has received, given the answer of the model
-/

namespace GuardrailsOrchestrator

open Calls ResponseProtocol Transition

/-! ### Forwarding a stream -/

/-- The items of a stream without its completion signals. -/
def withoutSignal {M : Type} (stream : List (Item Error M)) : List (Item Error M) :=
  stream.filter fun
    | .ok none => false
    | _ => true

/-- Where a task is that forwards a stream. -/
inductive ForwardingStage where
  | forwarding
  | completing
  | finished

/-- A task that forwards a stream: its consumer sends the items, and then the main task sends the
completion signal. -/
structure Forwarding (M : Type) where
  task : StreamingTask M := {}
  consumer : List (ConsumerAction M)
  stage : ForwardingStage := .forwarding

/-- Who moves next. -/
inductive ForwardingLabel where
  | consumer
  | main

section Forwarding

variable {M : Type} {items : List (Item Error M)} {s t : Forwarding M}

theorem StreamingTask.sent_foldl_perform (task : StreamingTask M)
    (actions : List (ConsumerAction M)) :
    (actions.foldl StreamingTask.perform task).sent =
      task.sent ++ actions.filterMap ConsumerAction.response := by
  induction actions generalizing task with
  | nil => simp
  | cons action actions ih =>
    rw [List.foldl_cons, ih, sent_perform, List.append_assoc]
    cases h : action.response <;> simp [h]

/-- A consumer that forwards every item of a stream but the completion signals. -/
theorem filterMap_response_flatMap_zipIdx {f : Item Error M → ℕ → List (ConsumerAction M)}
    (hitem : ∀ item i, (f item i).filterMap ConsumerAction.response = withoutSignal [item])
    (stream : List (Item Error M)) (n : ℕ) :
    ((stream.zipIdx n).flatMap fun p => f p.1 p.2).filterMap ConsumerAction.response =
      withoutSignal stream := by
  induction stream generalizing n with
  | nil => simp [withoutSignal]
  | cons item stream ih =>
    rw [List.zipIdx_cons, List.flatMap_cons, List.filterMap_append, hitem, ih, withoutSignal,
      withoutSignal, withoutSignal, ← List.filter_append]
    rfl

namespace Forwarding

/-- One step. The main task waits until the consumer is done. -/
def step (s : Forwarding M) : ForwardingLabel → Option (Forwarding M)
  | .consumer =>
    match s.consumer with
    | [] => none
    | action :: consumer => some { s with consumer, task := s.task.perform action }
  | .main =>
    match s.stage, s.consumer with
    | .forwarding, [] => some { s with stage := .completing }
    | .completing, _ =>
      some { s with task := { s.task with sent := s.task.sent ++ [.ok none] }, stage := .finished }
    | _, _ => none

/-- How far the task is with the given items. -/
inductive PassesOn (items : List (Item Error M)) (s : Forwarding M) : Prop
  | forwarding (hstage : s.stage = .forwarding)
    (hsent : s.task.sent ++ s.consumer.filterMap ConsumerAction.response = items)
  | completing (hstage : s.stage = .completing) (hconsumer : s.consumer = [])
    (hsent : s.task.sent = items)
  | finished (hstage : s.stage = .finished) (hconsumer : s.consumer = [])
    (hsent : s.task.sent = items ++ [.ok none])

theorem PassesOn.step {a : ForwardingLabel} (h : PassesOn items s) (hstep : s.step a = some t) :
    PassesOn items t := by
  cases a with
  | consumer =>
    rw [Forwarding.step] at hstep
    split at hstep
    · simp at hstep
    · rename_i action consumer hconsumer
      obtain rfl := Option.some.inj hstep
      -- what the consumer sends moves from what is left to what was sent
      cases h with
      | forwarding hstage hsent =>
        refine .forwarding hstage ?_
        rw [StreamingTask.sent_perform, List.append_assoc, ← hsent, hconsumer]
        cases h : action.response <;> simp [h]
      | completing _ hnil | finished _ hnil => simp [hnil] at hconsumer
  | main =>
    rw [Forwarding.step] at hstep
    split at hstep
    · rename_i hstage hconsumer
      obtain rfl := Option.some.inj hstep
      cases h with
      | forwarding _ hsent => exact .completing rfl hconsumer (by simpa [hconsumer] using hsent)
      | completing hother | finished hother => simp [hstage] at hother
    · rename_i hstage
      obtain rfl := Option.some.inj hstep
      cases h with
      | completing _ hconsumer hsent => exact .finished rfl hconsumer (congrArg (· ++ _) hsent)
      | forwarding hother | finished hother => simp [hstage] at hother
    · simp at hstep

theorem PassesOn.sent_prefix (h : PassesOn items s) : s.task.sent <+: items ++ [.ok none] := by
  cases h with
  | forwarding _ hsent => exact hsent ▸ ⟨_, (List.append_assoc ..).symm⟩
  | completing _ _ hsent => exact hsent ▸ List.prefix_append _ _
  | finished _ _ hsent => exact hsent ▸ List.prefix_refl _

/-- The consumer can do any part of what it has yet to do. -/
theorem exec_consumer {done rest : List (ConsumerAction M)}
    (hconsumer : s.consumer = done ++ rest) :
    exec step s (List.replicate done.length .consumer) =
      some { s with consumer := rest, task := done.foldl StreamingTask.perform s.task } := by
  induction done generalizing s with
  | nil =>
    obtain ⟨task, consumer, stage⟩ := s
    obtain rfl := hconsumer
    rfl
  | cons action done ih =>
    have hstep : s.step .consumer =
        some { s with consumer := done ++ rest, task := s.task.perform action } := by
      rw [step, hconsumer]
      rfl
    rw [List.length_cons, List.replicate_succ, exec, hstep, Option.bind_some, List.foldl_cons]
    exact ih (s := { s with consumer := done ++ rest, task := s.task.perform action }) rfl

/-- What a task can have sent that forwards the items its consumer sends. -/
theorem exists_exec_iff {consumer : List (ConsumerAction M)} {sent : List (Item Error M)}
    (hconsumer : consumer.filterMap ConsumerAction.response = items) :
    (∃ labels s, exec step { consumer } labels = some s ∧ s.task.sent = sent) ↔
      sent <+: items ++ [.ok none] := by
  constructor
  · rintro ⟨labels, s, hexec, rfl⟩
    have hstart : PassesOn items ({ consumer } : Forwarding M) := .forwarding rfl hconsumer
    have hpasses := exec_invariant_all (fun _ _ _ h hstep => PassesOn.step h hstep) hstart hexec
    exact hpasses.sent_prefix
  · intro hsent
    -- either the whole response, or what the consumer has sent after some of its effects
    rcases List.prefix_concat_iff.mp hsent with rfl | ⟨rest, heq⟩
    · have hrun : exec step ({ consumer } : Forwarding M)
          (List.replicate consumer.length .consumer ++ [.main, .main]) =
            exec step ⟨consumer.foldl StreamingTask.perform {}, [], .forwarding⟩ [.main, .main] := by
        rw [exec_append, exec_consumer (List.append_nil _).symm, Option.bind_some]
      refine ⟨_, _, hrun.trans rfl, ?_⟩
      simp [StreamingTask.sent_foldl_perform, hconsumer]
    · rw [← hconsumer] at heq
      obtain ⟨done, rest, hparts, rfl, -⟩ := List.append_eq_filterMap_iff.mp heq
      refine ⟨_, _, exec_consumer hparts, ?_⟩
      simp [StreamingTask.sent_foldl_perform]

/-- So can a machine that simulates the task and is simulated by it. -/
theorem exists_exec_iff_of_simulations {σ α : Type} {step' : σ → α → Option σ} {start : σ}
    {task : σ → StreamingTask M} {R : σ → Forwarding M → Prop}
    (simulated : ∀ s v a t, R s v → step' s a = some t → ∃ b u, v.step b = some u ∧ R t u)
    (simulates : ∀ v s b u, R s v → v.step b = some u → ∃ a t, step' s a = some t ∧ R t u)
    (htask : ∀ s v, R s v → task s = v.task) {consumer : List (ConsumerAction M)}
    (hstart : R start { consumer }) (hconsumer : consumer.filterMap ConsumerAction.response = items)
    {sent : List (Item Error M)} :
    (∃ labels s, exec step' start labels = some s ∧ (task s).sent = sent) ↔
      sent <+: items ++ [.ok none] := by
  rw [← exists_exec_iff hconsumer]
  constructor
  · rintro ⟨labels, s, hexec, rfl⟩
    obtain ⟨labels', v, hexec', hrelated⟩ := exists_exec_of_simulation simulated hstart hexec
    exact ⟨labels', v, hexec', by rw [htask s v hrelated]⟩
  · rintro ⟨labels, v, hexec, rfl⟩
    obtain ⟨labels', s, hexec', hrelated⟩ :=
      exists_exec_of_simulation (R := fun v s => R s v) simulates hstart hexec
    exact ⟨labels', s, hexec', by rw [htask s v hrelated]⟩

end Forwarding

end Forwarding

/-- The machine of an endpoint goes on with the stream if the request may pass. -/
theorem StreamedTask.Passes.prepare_eq {M : Type} {ctx : GatewayContext}
    {detectors : RequestedDetectors} {stream : List (Item Error M)} {request : StreamingRequest M}
    (h : StreamedTask.Passes ctx detectors stream request) {types : List DetectorType}
    (hvalid : (do
      validateDetectors detectors.input ctx.config.detectors [.textContents] true
      validateDetectors detectors.output ctx.config.detectors types true) = .ok ())
    (hempty : detectors.output.isEmpty = true) : request.prepare types = .ok stream := by
  obtain ⟨⟨⟩, hinput, houtput⟩ := Except.bind_eq_ok_iff.mp hvalid
  have hanswer : request.inputAnswer = .ok none := by
    rw [StreamingRequest.inputAnswer, h.inputDetection, ite_self]
  have hchunk : request.chunkDetectors.isEmpty = true :=
    request.chunkDetectors_isEmpty (h.outputDetectors ▸ hempty)
  rw [StreamingRequest.prepare, h.config, h.inputDetectors, h.outputDetectors, hanswer,
    h.generation, hinput, houtput, hchunk]
  rfl

namespace ChatStreaming

variable {request : StreamingRequest ChatCompletionChunk}
  {stream : List (Item Error ChatCompletionChunk)}

theorem response_processChatCompletionStream (stream : List (Item Error ChatCompletionChunk)) :
    (processChatCompletionStream false [] true stream).filterMap ConsumerAction.response =
      withoutSignal stream := by
  refine filterMap_response_flatMap_zipIdx (f := fun item i => messageActions false [] true i item)
    ?_ stream 0
  rintro (error | (_ | m)) i
  · rfl
  · rfl
  · have hrecord : (recordActions false [] i m).filterMap ConsumerAction.response = [] := by
      rw [recordActions]
      cases m.choices.head? <;> simp
    simp only [messageActions, if_true, Bool.false_eq_true, if_false, List.filterMap_append]
    split
    · rfl
    · rw [hrecord]
      rfl

/-- The stages of a task that forwards a stream. -/
def forwardingStage : ForwardingStage → ChatStage
  | .forwarding => .forwarding false
  | .completing => .completing
  | .finished => .finished

/-- The task is one that forwards a stream. -/
def ForwardsAs (s : ChatStreaming) (v : Forwarding ChatCompletionChunk) : Prop :=
  s.task = v.task ∧ s.consumer = v.consumer ∧ s.stage = forwardingStage v.stage

theorem ForwardsAs.step {s t : ChatStreaming} {v : Forwarding ChatCompletionChunk} {a : ChatLabel}
    (h : s.ForwardsAs v) (hstep : s.step request a = some t) :
    ∃ b u, v.step b = some u ∧ t.ForwardsAs u := by
  obtain ⟨task, consumer, stage⟩ := v
  obtain ⟨rfl, rfl, hstage⟩ := h
  cases a with
  | consumer =>
    obtain ⟨action, consumer, hconsumer, -, rfl⟩ := exists_of_stepConsumer hstep
    exact ⟨.consumer, ⟨s.task.perform action, consumer, stage⟩,
      by simp [Forwarding.step, hconsumer], rfl, rfl, hstage⟩
  | main =>
    cases stage with
    | forwarding =>
      cases mainStep_of_stepMain hstep with
      | forwarded hforwarding hconsumer =>
        obtain rfl := ChatStage.forwarding.inj (hforwarding.symm.trans hstage)
        exact ⟨.main, ⟨s.task, [], .completing⟩, by simp [Forwarding.step, hconsumer], rfl,
          hconsumer, rfl⟩
      | _ => simp_all [forwardingStage]
    | completing =>
      cases mainStep_of_stepMain hstep with
      | completed _ => exact ⟨.main, _, rfl, rfl, rfl, rfl⟩
      | _ => simp_all [forwardingStage]
    | finished => cases mainStep_of_stepMain hstep <;> simp_all [forwardingStage]
  -- without chunk detectors nothing is waited for
  | timeout =>
    obtain ⟨batch, -, ⟨htimeout, -⟩ | ⟨htimeout, -⟩⟩ := exists_of_stepTimeout hstep
    · cases stage <;> simp_all [forwardingStage]
    · cases stage <;> simp_all [forwardingStage]

theorem ForwardsAs.exists_step {s : ChatStreaming} {v u : Forwarding ChatCompletionChunk}
    {b : ForwardingLabel} (h : s.ForwardsAs v) (hstep : v.step b = some u) :
    ∃ a t, s.step request a = some t ∧ t.ForwardsAs u := by
  obtain ⟨task, consumer, stage⟩ := v
  obtain ⟨rfl, rfl, hstage⟩ := h
  cases b with
  | consumer =>
    rw [Forwarding.step] at hstep
    split at hstep
    · simp at hstep
    · rename_i action consumer hconsumer
      obtain rfl := Option.some.inj hstep
      refine ⟨.consumer, { s with consumer, task := s.task.perform action }, ?_, rfl, rfl, hstage⟩
      -- the consumer may go on at any of the three stages
      have hspawned : s.stage = forwardingStage stage := hstage
      cases stage <;> simp_all [ChatStreaming.step, stepConsumer, forwardingStage]
  | main =>
    rw [Forwarding.step] at hstep
    split at hstep
    · rename_i hforwarding hconsumer
      obtain rfl := Option.some.inj hstep
      refine ⟨.main, s.goto .completing, ?_, rfl, rfl, rfl⟩
      simp_all [ChatStreaming.step, stepMain, forwardingStage]
    · rename_i hcompleting
      obtain rfl := Option.some.inj hstep
      refine ⟨.main, (s.send [.ok none]).goto .finished, ?_, rfl, rfl, rfl⟩
      simp_all [ChatStreaming.step, stepMain, forwardingStage]
    · simp at hstep

/-- What a task that forwards a stream can have sent. -/
theorem exists_exec_iff (hprepare : request.prepare [.textContents, .textChat] = .ok stream)
    (houtput : request.outputDetectors.isEmpty = true) (batches : List (Except Error Batch))
    {sent : List (Item Error ChatCompletionChunk)} :
    (∃ labels s, exec (step request) (start request batches) labels = some s ∧
      s.task.sent = sent) ↔ sent <+: withoutSignal stream ++ [.ok none] := by
  have hstart : start request batches =
      { consumer := processChatCompletionStream false [] true stream
        stage := .forwarding false } := by
    rw [start, hprepare]
    simp [houtput]
  refine Forwarding.exists_exec_iff_of_simulations (R := ForwardsAs)
    (fun _ _ _ _ h hstep => h.step hstep) (fun _ _ _ _ h hstep => h.exists_step hstep)
    (fun _ _ h => h.1) (hstart ▸ ⟨rfl, rfl, rfl⟩) (response_processChatCompletionStream stream)

end ChatStreaming

namespace CompletionStreaming

variable {request : StreamingRequest Completion} {stream : List (Item Error Completion)}

theorem response_processCompletionStream (stream : List (Item Error Completion)) :
    (processCompletionStream false [] true false stream).filterMap ConsumerAction.response =
      withoutSignal stream := by
  have hmessages := filterMap_response_flatMap_zipIdx
    (f := fun item i => messageActions false [] true false i item) ?_ stream 0
  · simpa [processCompletionStream] using hmessages
  rintro (error | (_ | m)) i
  · rfl
  · rfl
  · have hrecord : (recordActions false [] false i m).filterMap ConsumerAction.response = [] := by
      rw [recordActions]
      cases m.choices.head? <;> simp
    simp only [messageActions, if_true, Bool.false_eq_true, if_false, List.filterMap_append]
    split
    · rfl
    · rw [hrecord]
      rfl

/-- The stages of a task that forwards a stream. -/
def forwardingStage : ForwardingStage → CompletionStage
  | .forwarding => .forwarding false
  | .completing => .completing
  | .finished => .finished

/-- The task is one that forwards a stream. -/
def ForwardsAs (s : CompletionStreaming) (v : Forwarding Completion) : Prop :=
  s.task = v.task ∧ s.consumer = v.consumer ∧ s.stage = forwardingStage v.stage

theorem ForwardsAs.step {s t : CompletionStreaming} {v : Forwarding Completion}
    {a : CompletionLabel} (h : s.ForwardsAs v) (hstep : s.step request a = some t) :
    ∃ b u, v.step b = some u ∧ t.ForwardsAs u := by
  obtain ⟨task, consumer, stage⟩ := v
  obtain ⟨rfl, rfl, hstage⟩ := h
  cases a with
  | consumer =>
    obtain ⟨action, consumer, hconsumer, -, rfl⟩ := exists_of_stepConsumer hstep
    exact ⟨.consumer, ⟨s.task.perform action, consumer, stage⟩,
      by simp [Forwarding.step, hconsumer], rfl, rfl, hstage⟩
  | main =>
    cases stage with
    | forwarding =>
      cases mainStep_of_stepMain hstep with
      | forwarded hforwarding hconsumer =>
        obtain rfl := CompletionStage.forwarding.inj (hforwarding.symm.trans hstage)
        exact ⟨.main, ⟨s.task, [], .completing⟩, by simp [Forwarding.step, hconsumer], rfl,
          hconsumer, rfl⟩
      | _ => simp_all [forwardingStage]
    | completing =>
      cases mainStep_of_stepMain hstep with
      | completed _ => exact ⟨.main, _, rfl, rfl, rfl, rfl⟩
      | _ => simp_all [forwardingStage]
    | finished => cases mainStep_of_stepMain hstep <;> simp_all [forwardingStage]
  | last choiceIndex =>
    obtain ⟨choices, indices, hlast, -⟩ := exists_of_stepLast hstep
    cases stage <;> simp_all [forwardingStage]

theorem ForwardsAs.exists_step {s : CompletionStreaming} {v u : Forwarding Completion}
    {b : ForwardingLabel} (h : s.ForwardsAs v) (hstep : v.step b = some u) :
    ∃ a t, s.step request a = some t ∧ t.ForwardsAs u := by
  obtain ⟨task, consumer, stage⟩ := v
  obtain ⟨rfl, rfl, hstage⟩ := h
  cases b with
  | consumer =>
    rw [Forwarding.step] at hstep
    split at hstep
    · simp at hstep
    · rename_i action consumer hconsumer
      obtain rfl := Option.some.inj hstep
      refine ⟨.consumer, { s with consumer, task := s.task.perform action }, ?_, rfl, rfl, hstage⟩
      have hspawned : s.stage = forwardingStage stage := hstage
      cases stage <;> simp_all [CompletionStreaming.step, stepConsumer, forwardingStage]
  | main =>
    rw [Forwarding.step] at hstep
    split at hstep
    · rename_i hforwarding hconsumer
      obtain rfl := Option.some.inj hstep
      refine ⟨.main, s.goto .completing, ?_, rfl, rfl, rfl⟩
      simp_all [CompletionStreaming.step, stepMain, forwardingStage]
    · rename_i hcompleting
      obtain rfl := Option.some.inj hstep
      refine ⟨.main, (s.send [.ok none]).goto .finished, ?_, rfl, rfl, rfl⟩
      simp_all [CompletionStreaming.step, stepMain, forwardingStage]
    · simp at hstep

/-- What a task that forwards a stream can have sent. -/
theorem exists_exec_iff (hprepare : request.prepare [.textContents, .textGeneration] = .ok stream)
    (houtput : request.outputDetectors.isEmpty = true) (batches : List (Except Error Batch))
    {sent : List (Item Error Completion)} :
    (∃ labels s, exec (step request) (start request batches) labels = some s ∧
      s.task.sent = sent) ↔ sent <+: withoutSignal stream ++ [.ok none] := by
  have hstart : start request batches =
      { consumer := processCompletionStream false [] true false stream
        stage := .forwarding false } := by
    rw [start, hprepare]
    simp [houtput]
  refine Forwarding.exists_exec_iff_of_simulations (R := ForwardsAs)
    (fun _ _ _ _ h hstep => h.step hstep) (fun _ _ _ _ h hstep => h.exists_step hstep)
    (fun _ _ h => h.1) (hstart ▸ ⟨rfl, rfl, rfl⟩) (response_processCompletionStream stream)

end CompletionStreaming

/-! ### Requests without output detectors -/

/-- Once a language model is asked, the result is made of its answer. -/
theorem eq_of_runs_opening {validated : Except Error Unit}
    {inputDetectors : IterMap DetectorId DetectorParams} {inputDetection : Handler (Option Opened)}
    {isPresent : Bool} {call : Call} {read : call.Answer → Except Failure ModelStream}
    {w : List CallEvent} {result : Except Failure Opened} {answer : call.Answer}
    (h : Runs (opening validated inputDetectors inputDetection
      (withClient isPresent (ask call read))) w result)
    (hcall : call.operation.isGeneration = true) (hinput : Makes NotGeneration inputDetection)
    (hmem : ⟨call, answer⟩ ∈ w) :
    validated = .ok () ∧ result = (read answer).map .stream := by
  have hnot : ∀ {w : List CallEvent}, (∀ e ∈ w, NotGeneration e) → ⟨call, answer⟩ ∉ w := by
    intro w hw hmem
    have hfalse := hw _ hmem
    rw [NotGeneration, hcall] at hfalse
    simp at hfalse
  -- of the parts of a run, only the one that asks the model can have its answer
  have hgeneration : ∀ {w} {generated : Except Failure ModelStream}, ⟨call, answer⟩ ∈ w →
      Runs (withClient isPresent (ask call read)) w generated → generated = read answer := by
    intro w generated hmem hrun
    rcases runs_withClient_ask_iff.mp hrun with ⟨-, answer', rfl, rfl⟩ | ⟨-, rfl, -⟩
    · obtain rfl : answer = answer' := by simpa using hmem
      rfl
    · simp at hmem
  cases guardedRun_of_runs h with
  | rejected _ => simp at hmem
  | inputFailed _ hrun => exact absurd hmem (hnot (hinput w _ hrun))
  | flagged _ hrun => exact absurd hmem (hnot (hinput w _ hrun))
  | ungenerated hscreen hrun hvalid =>
    have hmem := (List.mem_append.mp hmem).resolve_left
      (hnot (forall_of_screened hinput.strict hscreen))
    rw [← hgeneration hmem hrun]
    exact ⟨hvalid, rfl⟩
  | generated hscreen hrun houtput hvalid =>
    obtain ⟨rfl, rfl⟩ := runs_pure_iff.mp houtput
    rw [List.append_nil] at hmem
    have hmem := (List.mem_append.mp hmem).resolve_left
      (hnot (forall_of_screened hinput.strict hscreen))
    rw [← hgeneration hmem hrun]
    exact ⟨hvalid, rfl⟩

namespace StreamedTask

def outputDetectors : StreamedTask → IterMap DetectorId DetectorParams
  | .classificationWithGen task => task.guardrailsConfig.outputDetectors
  | .chatCompletions task => task.request.detectors.output
  | .completions task => task.request.detectors.output

/-- What is read from the answer of a language model. -/
def read : (task : StreamedTask) → task.generationCall.Answer → Except Failure ModelStream
  | .classificationWithGen task =>
    fun answer : Except ClientError (List (Except ClientError
        ClassifiedGeneratedTextStreamResult)) =>
      (Handler.requestFailed (.generateRequestFailed task.modelId) answer).map fun stream =>
        .classified (stream.map (·.mapError (.generateRequestFailed task.modelId)))
  | .chatCompletions task =>
    fun answer : Except ClientError (List (Item Error ChatCompletionChunk)) =>
      (Handler.requestFailed (.chatCompletionRequestFailed task.request.model) answer).map
        .chatCompletion
  | .completions task => fun answer : Except ClientError (List (Item Error Completion)) =>
    (Handler.requestFailed (.completionRequestFailed task.request.model) answer).map .completion

/-- The whole response to a stream that is forwarded. -/
def forwarded : ModelStream → List (Item Error StreamedMessage)
  | .classified stream =>
    (forwardGenerationStream stream).map (·.map fun m => some (.classified m))
  | .chatCompletion stream =>
    (withoutSignal stream ++ [.ok none] : List (Item Error ChatCompletionChunk)).map
      (·.map (·.map .chatCompletion))
  | .completion stream =>
    (withoutSignal stream ++ [.ok none] : List (Item Error Completion)).map
      (·.map (·.map .completion))

/-- The whole response to an answer of the model, without output detectors. -/
def undetected (task : StreamedTask) (answer : task.generationCall.Answer) :
    List (Item Error StreamedMessage) :=
  match task.read answer with
  | .ok stream => forwarded stream
  | .error failure => task.failureResponse failure

def validateDetectors (ctx : GatewayContext) : StreamedTask → Except Error Unit
  | .classificationWithGen task => task.validateDetectors ctx
  | .chatCompletions task => task.validateDetectors ctx
  | .completions task => task.validateDetectors ctx

/-- What the machine of an endpoint has to know of a request whose output is not examined. -/
def unexaminedRequest {M : Type} (ctx : GatewayContext) (detectors : RequestedDetectors)
    (stream : List (Item Error M)) : StreamingRequest M :=
  { config := ctx.config
    inputDetectors := detectors.input
    outputDetectors := detectors.output
    choices := []
    hasCapacity := true
    inputDetection := .ok none
    generation := .ok stream
    detectionStreams := fun _ => .ok ()
    wholeDocDetection := fun _ => none }

theorem passes_unexaminedRequest {M : Type} (ctx : GatewayContext) (detectors : RequestedDetectors)
    (stream : List (Item Error M)) :
    Passes ctx detectors stream (unexaminedRequest ctx detectors stream) :=
  ⟨rfl, rfl, rfl, rfl, rfl⟩

section Undetected

variable {ctx : GatewayContext} {task : StreamedTask} {w : List CallEvent}
  {answer : task.generationCall.Answer} {sent : List (Item Error StreamedMessage)}

theorem eq_of_runs_opening {result : Except Failure Opened}
    (hrun : Runs (task.opening ctx) w result) (hmem : ⟨task.generationCall, answer⟩ ∈ w) :
    task.validateDetectors ctx = .ok () ∧ result = (task.read answer).map .stream := by
  cases task with
  | classificationWithGen task =>
    refine GuardrailsOrchestrator.eq_of_runs_opening hrun rfl ?_ hmem
    exact makes_handleInputDetection (notGeneration_detect _)
      (makes_withClient (makes_ask fun _ => rfl))
  | chatCompletions task =>
    refine GuardrailsOrchestrator.eq_of_runs_opening hrun rfl ?_ hmem
    exact (makes_ofExcept _).bind fun _ => makes_handleInputDetection (notGeneration_detect _)
      (makes_withClient (makes_ask fun _ => rfl))
  | completions task =>
    refine GuardrailsOrchestrator.eq_of_runs_opening hrun rfl ?_ hmem
    exact makes_handleInputDetection (notGeneration_detect _)
      (makes_withClient (makes_ask fun _ => rfl))

theorem processed_iff {stream : ModelStream} (hvalid : task.validateDetectors ctx = .ok ())
    (houtput : task.outputDetectors.isEmpty = true) (hread : task.read answer = .ok stream) :
    Processed ctx task stream sent ↔ sent <+: forwarded stream := by
  -- the two machines forward as `Forwarding` does, and classification forwards up to an error
  cases task with
  | classificationWithGen task =>
    obtain ⟨items, -, rfl⟩ := Except.map_eq_ok_iff.mp hread
    constructor
    · intro h
      cases h with
      | forwarded _ hsent => exact hsent.map _
      | undetected _ hne | classified hne _ => cases houtput.symm.trans hne
    · intro h
      obtain ⟨received, hreceived, rfl⟩ := List.exists_of_prefix_map h
      exact .forwarded houtput hreceived
  | chatCompletions task =>
    obtain ⟨items, -, rfl⟩ := Except.map_eq_ok_iff.mp hread
    constructor
    · intro h
      cases h with
      | chatCompletion hrequest hexec =>
        refine List.IsPrefix.map _ ?_
        exact (ChatStreaming.exists_exec_iff (hrequest.prepare_eq hvalid houtput)
          (hrequest.outputDetectors ▸ houtput) _).mp ⟨_, _, hexec, rfl⟩
    · intro h
      obtain ⟨received, hreceived, rfl⟩ := List.exists_of_prefix_map h
      have hpasses := passes_unexaminedRequest ctx task.request.detectors items
      obtain ⟨labels, s, hexec, rfl⟩ := (ChatStreaming.exists_exec_iff
        (hpasses.prepare_eq hvalid houtput) houtput []).mpr hreceived
      exact .chatCompletion hpasses hexec
  | completions task =>
    obtain ⟨items, -, rfl⟩ := Except.map_eq_ok_iff.mp hread
    constructor
    · intro h
      cases h with
      | completion hrequest hexec =>
        refine List.IsPrefix.map _ ?_
        exact (CompletionStreaming.exists_exec_iff (hrequest.prepare_eq hvalid houtput)
          (hrequest.outputDetectors ▸ houtput) _).mp ⟨_, _, hexec, rfl⟩
    · intro h
      obtain ⟨received, hreceived, rfl⟩ := List.exists_of_prefix_map h
      have hpasses := passes_unexaminedRequest ctx task.request.detectors items
      obtain ⟨labels, s, hexec, rfl⟩ := (CompletionStreaming.exists_exec_iff
        (hpasses.prepare_eq hvalid houtput) houtput []).mpr hreceived
      exact .completion hpasses hexec

end Undetected

end StreamedTask

/-- **Streams that are not examined.** Once the model has been asked for a request without output
detectors, what the client has received at some moment is a beginning of the response made of the
answer, and every beginning can be that: all messages of the model up to its first error, at the
endpoints for completions past it and with a completion signal at the end. -/
theorem undetected_stream_forwarded {ctx : GatewayContext} {task : StreamedTask}
    {w : List CallEvent} {result : Except Failure Opened} {answer : task.generationCall.Answer}
    {sent : List (Item Error StreamedMessage)} (hopening : Runs (task.opening ctx) w result)
    (hmem : ⟨task.generationCall, answer⟩ ∈ w) (houtput : task.outputDetectors.isEmpty = true) :
    task.Run ctx w sent ↔ sent <+: task.undetected answer := by
  -- the answer decides between an error and a stream, in this run and in every other
  obtain ⟨hvalid, rfl⟩ := StreamedTask.eq_of_runs_opening hopening hmem
  rw [StreamedTask.undetected]
  cases hread : task.read answer with
  | error failure =>
    rw [hread] at hopening
    constructor
    · intro hrun
      cases hrun with
      | failed hfailed hsent =>
        have heq := (StreamedTask.eq_of_runs_opening hfailed hmem).2
        rw [hread] at heq
        exact Except.error.inj heq ▸ hsent
      | flagged hopened _ | streamed hopened _ =>
        have heq := (StreamedTask.eq_of_runs_opening hopened hmem).2
        rw [hread] at heq
        cases heq
    · exact .failed hopening
  | ok stream =>
    rw [hread] at hopening
    refine Iff.trans ⟨?_, .streamed hopening⟩ (StreamedTask.processed_iff hvalid houtput hread)
    intro hrun
    cases hrun with
    | streamed hopened hsent =>
      have heq := (StreamedTask.eq_of_runs_opening hopened hmem).2
      rw [hread] at heq
      obtain rfl := Opened.stream.inj (Except.ok.inj heq)
      exact hsent
    | failed hopened _ | flagged hopened _ =>
      have heq := (StreamedTask.eq_of_runs_opening hopened hmem).2
      rw [hread] at heq
      cases heq

theorem undetected_stream_forwarded_hello : ∃ w, regexGeneration.Run regexContext w
    [.ok (some (.classified { generatedText := some "Hello" }))] := by
  have hopening : Runs (regexGeneration.opening regexContext) [_, _]
      (Except.ok (Opened.stream (.classified helloStream))) :=
    runs_respond (servicesFinding []) (regexGeneration.opening regexContext)
  exact ⟨_, (@undetected_stream_forwarded _ _ _ _
    (servicesFinding [] regexGeneration.generationCall) _ hopening
    (List.mem_cons_of_mem _ (List.mem_singleton_self _)) rfl).mpr (List.prefix_refl _)⟩

end GuardrailsOrchestrator
