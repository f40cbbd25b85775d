import GuardrailsOrchestrator.Batcher.Sources
import GuardrailsOrchestrator.BatchStream.Relay
import GuardrailsOrchestrator.DetectionStreams.Coverage
import GuardrailsOrchestrator.Lib.Sequences

/-!
# The detection pipeline of streamed contents

From the chunk streams to the batches: a broadcasting task for each chunk stream, a task for each
detector, the merged detection streams, the loop that selects and the actor that owns the batcher.
Every task moves at its own pace. A single detection stream is passed on without a batcher.

Items can be lost on the way: a detector misses what is broadcast before it is subscribed or while
it is a full channel behind, and a batch is lost if the loop turns to something else while the
actor answers. Whatever is lost, the batches that are sent are right: they ascend, and each has
the detections of every detector on its chunk, none twice and none of another chunk.

## Main definitions

* `BatchTask` — the task that turns detection streams into batches
* `ContentPipeline` — all tasks, with a step for each of them

## Main results

* `pipeline_sent_sound` — what was sent, in every run
-/

namespace GuardrailsOrchestrator

open Transition

/-! ### Batches -/

/-- The task that `DetectionBatchStream::new` spawns. Without other streams to wait for, a
detection stream is passed on until its first error. -/
inductive BatchTask where
  | forwarding (stopped : Bool) (sent : List (Except Error Batch))
  | batching (state : BatchStreamState MaxProcessedIndexBatcher)

namespace BatchTask

def new (nDetectors : ℕ) : BatchTask :=
  if nDetectors = 1 then .forwarding false []
  else .batching (.start (KeyedBatcher.new nDetectors) [])

/-- What was sent to the batch channel. -/
def sent : BatchTask → List (Except Error Batch)
  | .forwarding _ sent => sent
  | .batching state => state.sent

/-- The batches among what was sent. -/
def sentBatches (b : BatchTask) : List Batch := b.sent.filterMap Except.toOption

/-- An item leaves its detection stream. -/
def arrive (item : DetectionItem) : BatchTask → Option BatchTask
  | .forwarding stopped sent =>
    if stopped then none else some (.forwarding (!item.isOk) (sent ++ [item]))
  | .batching state => some (.batching { state with merged := state.merged ++ [item] })

/-- The last detection stream ends. -/
def close : BatchTask → Option BatchTask
  | .forwarding stopped sent => if stopped then none else some (.forwarding true sent)
  | .batching state => some (.batching { state with closed := true })

/-- A step of the loop, of the actor or of the receiver of the batches. A single stream needs
none of them. -/
def run (f : BatchStreamState MaxProcessedIndexBatcher →
    Option (BatchStreamState MaxProcessedIndexBatcher)) : BatchTask → Option BatchTask
  | .forwarding _ _ => none
  | .batching state => (f state).map .batching

end BatchTask

/-! ### All tasks -/

/-- A detector: the chunk stream it reads, and its number among the detectors of that stream. -/
abbrev Source := ℕ × ℕ

/-- The tasks of each chunk stream, and the task that makes batches. -/
structure ContentPipeline where
  groups : List DetectionStreams
  /-- What has left the detection streams, and which. -/
  arrivals : List (Source × DetectionItem) := []
  batchTask : BatchTask

/-- Who moves next. -/
inductive PipelineLabel where
  /-- A task of a chunk stream. -/
  | detection (group : ℕ) (label : DetectionStreamsLabel)
  /-- An item leaves the stream of a detector. -/
  | arrive (source : Source)
  /-- All detection streams have ended. -/
  | close
  /-- The loop polls one future. -/
  | poll
  /-- The actor handles one message. -/
  | actor
  /-- A batch is received. -/
  | receive
  deriving DecidableEq

namespace ContentPipeline

/-- The task of a detector. -/
def detector (s : ContentPipeline) (source : Source) : Option DetectorTask :=
  s.groups[source.1]?.bind (·.detectors[source.2]?)

/-- What a detector has sent. -/
def stream (s : ContentPipeline) (source : Source) : List DetectionItem :=
  ((s.detector source).map (·.detections)).getD []

/-- What has left the stream of a detector. -/
def taken (s : ContentPipeline) (source : Source) : List DetectionItem :=
  (s.arrivals.filter (·.1 = source)).map (·.2)

/-- The batch stream is created once all detectors are subscribed. -/
def subscribed (s : ContentPipeline) : Bool := s.groups.all fun group => !group.subscribing

/-- The streams have ended, and everything in them has been taken. -/
def exhausted (s : ContentPipeline) : Bool :=
  s.groups.zipIdx.all fun (group, g) => group.detectors.zipIdx.all fun (d, i) =>
    d.stage = .ended && (s.taken (g, i)).length = d.detections.length

/-- A step of the tasks of a chunk stream. -/
def detect (s : ContentPipeline) (g : ℕ) (a : DetectionStreamsLabel) : Option ContentPipeline :=
  (s.groups[g]?.bind (·.step 0 a)).map fun group => { s with groups := s.groups.set g group }

/-- The next item of a detection stream is taken. -/
def arrive (s : ContentPipeline) (source : Source) : Option ContentPipeline :=
  (s.stream source)[(s.taken source).length]?.bind fun item =>
    (s.batchTask.arrive item).map fun batchTask =>
      { s with batchTask, arrivals := s.arrivals ++ [(source, item)] }

/-- A step of the task that makes batches. -/
def runBatches (s : ContentPipeline) (next : Option BatchTask) : Option ContentPipeline :=
  next.map fun batchTask => { s with batchTask }

/-- One step. -/
def step (s : ContentPipeline) : PipelineLabel → Option ContentPipeline
  | .detection g a => s.detect g a
  | .arrive source => if s.subscribed then s.arrive source else none
  | .close => if s.subscribed && s.exhausted then s.runBatches s.batchTask.close else none
  | .poll => if s.subscribed then s.runBatches (s.batchTask.run (·.step .poll)) else none
  | .actor => if s.subscribed then s.runBatches (s.batchTask.run (·.step .actor)) else none
  | .receive => if s.subscribed then s.runBatches (s.batchTask.run (·.step .receive)) else none

/-- Chunk streams with the thresholds of their detectors. -/
abbrev Streams := List (List ChunkItem × List ℚ)

/-- The number of detectors. -/
def nDetectors (streams : Streams) : ℕ := (streams.map (·.2.length)).sum

/-- The detectors. -/
def sources (streams : Streams) : List Source :=
  streams.zipIdx.flatMap fun (stream, g) => (List.range stream.2.length).map fun i => (g, i)

/-- The tasks have been spawned, and no detector is subscribed. -/
def start (streams : Streams) : ContentPipeline :=
  { groups := streams.map fun (items, thresholds) => DetectionStreams.start items thresholds
    batchTask := .new (nDetectors streams) }

end ContentPipeline

/-! ### What detectors send -/

/-- The chunks of a chunk stream. -/
def chunksOf (items : List ChunkItem) : List Chunk := items.filterMap Except.toOption

/-- A detector has sent answers to some chunks of its stream, in order, with its own detections
that reach its threshold. -/
structure DetectorTask.Reports (items : List ChunkItem) (d : DetectorTask) : Prop where
  chunks : ((d.detections.filterMap Except.toOption).map (·.2.1)).Sublist (chunksOf items)
  inputId : ∀ batch ∈ d.detections.filterMap Except.toOption, batch.1 = 0
  threshold : ∀ batch ∈ d.detections.filterMap Except.toOption,
    ∀ x ∈ batch.2.2, d.threshold ≤ x.score

/-- Answers to the items that a detector has seen are answers to chunks among them. -/
theorem sublist_chunksOf_of_examines {seen : List ChunkItem} {detections : List DetectionItem}
    (h : List.Forall₂ (Examines 0) seen detections) :
    ((detections.filterMap Except.toOption).map (·.2.1)).Sublist (chunksOf seen) ∧
      ∀ batch ∈ detections.filterMap Except.toOption, batch.1 = 0 := by
  induction h with
  | nil => exact ⟨.refl _, by simp⟩
  | cons hexamines hrest ih =>
    cases hexamines with
    | detected chunk found =>
      refine ⟨ih.1.cons_cons chunk, ?_⟩
      intro batch hbatch
      rcases List.mem_cons.mp hbatch with rfl | hbatch
      · rfl
      · exact ih.2 batch hbatch
    | requestFailed chunk error => exact ⟨ih.1.cons chunk, ih.2⟩
    | streamFailed error => exact ih

namespace DetectionStreams

/-- The tasks of a chunk stream, with the thresholds of its detectors. -/
structure Follows (stream : List ChunkItem × List ℚ) (group : DetectionStreams) : Prop where
  tracks : ∀ i, group.Tracks 0 stream.1 i
  thresholds : group.detectors.map (·.threshold) ++ group.unsubscribed = stream.2
  unsubscribed : group.subscribing = false → group.unsubscribed = []
  filters : ∀ d ∈ group.detectors, ∀ batch ∈ d.detections.filterMap Except.toOption,
    ∀ x ∈ batch.2.2, d.threshold ≤ x.score

/-- A step of a task keeps its detector, which sends more at most. -/
structure Extends (d d' : DetectorTask) : Prop where
  threshold : d'.threshold = d.threshold
  detections : d.detections <+: d'.detections
  filters : (∀ batch ∈ d.detections.filterMap Except.toOption,
      ∀ x ∈ batch.2.2, d.threshold ≤ x.score) →
    ∀ batch ∈ d'.detections.filterMap Except.toOption, ∀ x ∈ batch.2.2, d'.threshold ≤ x.score

variable {stream : List ChunkItem × List ℚ} {group group' : DetectionStreams} {d d' : DetectorTask}

theorem Extends.of_eq (hthreshold : d'.threshold = d.threshold)
    (hdetections : d'.detections = d.detections) : Extends d d' :=
  ⟨hthreshold, by rw [hdetections], by rw [hthreshold, hdetections]; exact id⟩

/-- Broadcasting an item changes nothing about what a detector has sent. -/
theorem offer_eq (d : DetectorTask) (item : ChunkItem) :
    (d.offer item).threshold = d.threshold ∧ (d.offer item).detections = d.detections := by
  by_cases hended : d.stage = .ended
  · rw [DetectorTask.offer_of_ended hended]
    exact ⟨rfl, rfl⟩
  · rw [DetectorTask.offer_of_not_ended hended]
    exact ⟨rfl, rfl⟩

theorem extends_offer (d : DetectorTask) (item : ChunkItem) : Extends d (d.offer item) :=
  .of_eq (offer_eq d item).1 (offer_eq d item).2

theorem extends_receive {hasSenders : Bool} (h : d.receive hasSenders = some d') :
    Extends d d' := by
  rw [DetectorTask.receive] at h
  split at h
  swap
  · simp at h
  obtain ⟨⟨result, rx⟩, -, rfl⟩ := Option.map_eq_some_iff.mp h
  rcases result with error | (error | chunk)
  · exact .of_eq rfl rfl
  · -- an error of the chunk stream is passed on, and has no detections
    have hsame : (d.detections ++ [Except.error error]).filterMap Except.toOption =
        d.detections.filterMap Except.toOption := by
      rw [List.filterMap_append]
      exact List.append_nil _
    refine ⟨rfl, List.prefix_append _ _, fun hfilters => ?_⟩
    change ∀ batch ∈ (d.detections ++ [Except.error error]).filterMap Except.toOption, _
    rw [hsame]
    exact hfilters
  · exact .of_eq rfl rfl

theorem extends_answer {result : Except Error (List Detection)}
    (h : d.answer 0 result = some d') : Extends d d' := by
  rw [DetectorTask.answer] at h
  split at h
  swap
  · simp at h
  obtain rfl := Option.some.inj h
  refine ⟨rfl, List.prefix_append _ _, ?_⟩
  intro hfilters batch hbatch
  rw [List.filterMap_append, List.mem_append] at hbatch
  rcases hbatch with hbatch | hbatch
  · exact hfilters batch hbatch
  · cases result with
    | error error => simp [Except.map, Except.toOption] at hbatch
    | ok detections =>
      obtain rfl : batch = _ := by simpa [Except.map, Except.toOption] using hbatch
      intro x hx
      simpa using (List.mem_filter.mp hx).2

/-- A task that panics has sent what it had sent before. -/
theorem panic_eq (h : d.panic = some d') :
    d'.threshold = d.threshold ∧ d'.detections = d.detections := by
  rw [DetectorTask.panic] at h
  split at h
  swap
  · simp at h
  obtain rfl := Option.some.inj h
  exact ⟨rfl, rfl⟩

/-- A step of one task. -/
theorem forall₂_extends_set {i : ℕ} (detectors : List DetectorTask) (hd : detectors[i]? = some d)
    (h : Extends d d') : List.Forall₂ Extends detectors (detectors.set i d') := by
  induction detectors generalizing i with
  | nil => simp at hd
  | cons e detectors ih =>
    cases i with
    | zero =>
      obtain rfl : e = d := by simpa using hd
      exact .cons h (List.forall₂_same.mpr fun _ _ => .of_eq rfl rfl)
    | succ i => exact .cons (.of_eq rfl rfl) (ih (by simpa using hd))

/-- A step moves the tasks of the detectors, or subscribes the next detector. -/
theorem step_detectors {a : DetectionStreamsLabel} (h : group.step 0 a = some group') :
    (List.Forall₂ Extends group.detectors group'.detectors ∧
        group'.unsubscribed = group.unsubscribed ∧
        (group'.subscribing = group.subscribing ∨ group.unsubscribed = [])) ∨
      ∃ threshold : ℚ, group.unsubscribed = threshold :: group'.unsubscribed ∧
        group'.detectors = group.detectors ++ [{ threshold := threshold }] ∧
        group'.subscribing = group.subscribing := by
  have hsame : ∀ detectors : List DetectorTask, List.Forall₂ Extends detectors detectors :=
    fun _ => List.forall₂_same.mpr fun _ _ => .of_eq rfl rfl
  -- a step of one detector leaves the others as they are
  have htask : ∀ j f, group.stepDetector j f = some group' →
      (∀ d d', f d = some d' → Extends d d') →
        List.Forall₂ Extends group.detectors group'.detectors ∧
          group'.unsubscribed = group.unsubscribed ∧ group'.subscribing = group.subscribing := by
    intro j f hj hf
    obtain ⟨d, d', hd, hfd, rfl⟩ := exists_of_stepDetector hj
    exact ⟨forall₂_extends_set _ hd (hf d d' hfd), rfl, rfl⟩
  cases a with
  | broadcast =>
    rcases cases_of_broadcast h with ⟨item, rest, -, rfl⟩ | ⟨-, -, rfl⟩
    · refine Or.inl ⟨?_, rfl, Or.inl rfl⟩
      rw [List.forall₂_map_right_iff, List.forall₂_same]
      exact fun d _ => extends_offer d item
    · exact Or.inl ⟨hsame _, rfl, Or.inl rfl⟩
  | subscribe =>
    rcases cases_of_subscribe h with ⟨threshold, unsubscribed, hnext, rfl⟩ | ⟨hnone, -, rfl⟩
    · exact Or.inr ⟨threshold, hnext, rfl, rfl⟩
    · exact Or.inl ⟨hsame _, rfl, Or.inr hnone⟩
  | receive j =>
    obtain ⟨hdetectors, hrest, hsubscribing⟩ := htask j _ h fun _ _ => extends_receive
    exact Or.inl ⟨hdetectors, hrest, Or.inl hsubscribing⟩
  | answer j result =>
    obtain ⟨hdetectors, hrest, hsubscribing⟩ := htask j _ h fun _ _ => extends_answer
    exact Or.inl ⟨hdetectors, hrest, Or.inl hsubscribing⟩
  | panic j =>
    obtain ⟨hdetectors, hrest, hsubscribing⟩ := htask j _ h fun _ _ hpanic =>
      .of_eq (panic_eq hpanic).1 (panic_eq hpanic).2
    exact Or.inl ⟨hdetectors, hrest, Or.inl hsubscribing⟩

/-- What a task has sent after a step, it had sent before, or it is the answer to its request. -/
theorem mem_detections_of_step (h : group.step 0 a = some group') {i : ℕ}
    (hd' : group'.detectors[i]? = some d') {batch : Batch} (hbatch : .ok batch ∈ d'.detections) :
    ∃ d, group.detectors[i]? = some d ∧ d.threshold = d'.threshold ∧
      (.ok batch ∈ d.detections ∨ ∃ chunk found, a = .answer i (.ok found) ∧
        d.stage = .detecting chunk ∧ batch = (0, chunk, found.filter (d.threshold ≤ ·.score))) := by
  -- a step of one task; the others are as they were
  have htask : ∀ j f, group.stepDetector j f = some group' →
      (∀ d d', f d = some d' → d.threshold = d'.threshold ∧ (.ok batch ∈ d'.detections →
        .ok batch ∈ d.detections ∨ ∃ chunk found, a = .answer j (.ok found) ∧
          d.stage = .detecting chunk ∧ batch = (0, chunk, found.filter (d.threshold ≤ ·.score)))) →
      ∃ d, group.detectors[i]? = some d ∧ d.threshold = d'.threshold ∧
        (.ok batch ∈ d.detections ∨ ∃ chunk found, a = .answer i (.ok found) ∧
          d.stage = .detecting chunk ∧
          batch = (0, chunk, found.filter (d.threshold ≤ ·.score))) := by
    intro j f hj hf
    obtain ⟨e, e', he, hfe, rfl⟩ := exists_of_stepDetector hj
    by_cases hij : j = i
    · subst hij
      obtain rfl : e' = d' := by
        simpa [List.getElem?_set_self (List.getElem?_eq_some_iff.mp he).1] using hd'
      exact ⟨e, he, (hf e e' hfe).1, (hf e e' hfe).2 hbatch⟩
    · rw [List.getElem?_set_ne hij] at hd'
      exact ⟨d', hd', rfl, Or.inl hbatch⟩
  cases a with
  | broadcast =>
    rcases cases_of_broadcast h with ⟨item, rest, -, rfl⟩ | ⟨-, -, rfl⟩
    · rw [List.getElem?_map, Option.map_eq_some_iff] at hd'
      obtain ⟨d, hd, rfl⟩ := hd'
      obtain ⟨hthreshold, hdetections⟩ := offer_eq d item
      exact ⟨d, hd, hthreshold.symm, Or.inl (hdetections ▸ hbatch)⟩
    · exact ⟨d', hd', rfl, Or.inl hbatch⟩
  | subscribe =>
    rcases cases_of_subscribe h with ⟨threshold, unsubscribed, -, rfl⟩ | ⟨-, -, rfl⟩
    · by_cases hi : i < group.detectors.length
      · rw [List.getElem?_append_left hi] at hd'
        exact ⟨d', hd', rfl, Or.inl hbatch⟩
      · -- a new task has sent nothing
        rw [List.getElem?_append_right (Nat.not_lt.mp hi)] at hd'
        obtain rfl := List.mem_singleton.mp (List.mem_of_getElem? hd')
        simp at hbatch
    · exact ⟨d', hd', rfl, Or.inl hbatch⟩
  | receive j =>
    refine htask j _ h fun d d' hreceive => ?_
    rw [DetectorTask.receive] at hreceive
    split at hreceive
    swap
    · simp at hreceive
    obtain ⟨⟨result, rx⟩, -, rfl⟩ := Option.map_eq_some_iff.mp hreceive
    rcases result with error | (error | chunk)
    · exact ⟨rfl, Or.inl⟩
    · exact ⟨rfl, fun hbatch => Or.inl (by simpa using hbatch)⟩
    · exact ⟨rfl, Or.inl⟩
  | answer j result =>
    refine htask j _ h fun d d' hanswer => ?_
    rw [DetectorTask.answer] at hanswer
    split at hanswer
    swap
    · simp at hanswer
    rename_i chunk hstage
    obtain rfl := Option.some.inj hanswer
    refine ⟨rfl, fun hbatch => ?_⟩
    rcases List.mem_append.mp hbatch with hbatch | hbatch
    · exact Or.inl hbatch
    · cases result with
      | error error => simp [Except.map] at hbatch
      | ok found => exact Or.inr ⟨chunk, found, rfl, hstage, by simpa [Except.map] using hbatch⟩
  | panic j =>
    refine htask j _ h fun d d' hpanic => ?_
    obtain ⟨hthreshold, hdetections⟩ := panic_eq hpanic
    exact ⟨hthreshold.symm, fun hbatch => Or.inl (hdetections ▸ hbatch)⟩

/-- The answer of a task that examines a chunk is sent. -/
theorem exists_mem_of_step_answer {i : ℕ} {answer : List Detection} {chunk : Chunk}
    (h : group.step 0 (.answer i (.ok answer)) = some group') (hd : group.detectors[i]? = some d)
    (hstage : d.stage = .detecting chunk) :
    ∃ d', group'.detectors[i]? = some d' ∧
      .ok (0, chunk, answer.filter (d'.threshold ≤ ·.score)) ∈ d'.detections := by
  obtain ⟨e, d', he, hanswer, rfl⟩ := exists_of_stepDetector h
  obtain rfl := Option.some.inj (hd.symm.trans he)
  rw [DetectorTask.answer, hstage] at hanswer
  obtain rfl := Option.some.inj hanswer
  have hlt := (List.getElem?_eq_some_iff.mp hd).1
  exact ⟨_, List.getElem?_set_self hlt, List.mem_append_right _ (List.mem_singleton_self _)⟩

theorem map_threshold_of_extends {detectors detectors' : List DetectorTask}
    (h : List.Forall₂ Extends detectors detectors') :
    detectors'.map (·.threshold) = detectors.map (·.threshold) := by
  induction h with
  | nil => rfl
  | cons hextends _ ih => rw [List.map_cons, List.map_cons, hextends.threshold, ih]

/-- A detector is still there after a step. -/
theorem exists_extends_of_step {a : DetectionStreamsLabel} (h : group.step 0 a = some group')
    {i : ℕ} (hd : group.detectors[i]? = some d) :
    ∃ d', group'.detectors[i]? = some d' ∧ Extends d d' := by
  obtain ⟨hlt, rfl⟩ := List.getElem?_eq_some_iff.mp hd
  rcases step_detectors h with ⟨hdetectors, -, -⟩ | ⟨threshold, -, hdetectors, -⟩
  · have hlt' : i < group'.detectors.length := hdetectors.length_eq ▸ hlt
    exact ⟨group'.detectors[i], List.getElem?_eq_getElem hlt', hdetectors.get hlt hlt'⟩
  · exact ⟨_, by rw [hdetectors, List.getElem?_append_left hlt, hd], .of_eq rfl rfl⟩

theorem Follows.start (stream : List ChunkItem × List ℚ) :
    Follows stream (DetectionStreams.start stream.1 stream.2) :=
  ⟨Tracks.start 0 stream.1 stream.2, rfl, by simp [DetectionStreams.start],
    by simp [DetectionStreams.start]⟩

theorem Follows.step {a : DetectionStreamsLabel} (h : Follows stream group)
    (hstep : group.step 0 a = some group') : Follows stream group' := by
  have htracks : ∀ i, group'.Tracks 0 stream.1 i := fun i => ((h.tracks i).step hstep).1
  -- either the same detectors go on, or one more is subscribed
  rcases step_detectors hstep with ⟨hdetectors, hrest, hsubscribing⟩ |
    ⟨threshold, hnext, hdetectors, hsubscribing⟩
  · refine ⟨htracks, ?_, ?_, ?_⟩
    · rw [map_threshold_of_extends hdetectors, hrest, h.thresholds]
    · intro hsubscribed
      rw [hrest]
      rcases hsubscribing with hsame | hnone
      · exact h.unsubscribed (hsame ▸ hsubscribed)
      · exact hnone
    · intro d' hd'
      obtain ⟨d, hd, hextends⟩ := hdetectors.exists_of_mem_right hd'
      exact hextends.filters (h.filters d hd)
  · refine ⟨htracks, ?_, ?_, ?_⟩
    · rw [hdetectors, ← h.thresholds, hnext]
      simp
    · intro hsubscribed
      have hnone := h.unsubscribed (hsubscribing ▸ hsubscribed)
      rw [hnext] at hnone
      simp at hnone
    · intro d hd
      rw [hdetectors, List.mem_append] at hd
      rcases hd with hd | hd
      · exact h.filters d hd
      · obtain rfl := List.mem_singleton.mp hd
        simp

theorem Follows.length_eq (h : Follows stream group) :
    group.detectors.length + group.unsubscribed.length = stream.2.length := by
  rw [← h.thresholds, List.length_append, List.length_map]

theorem Follows.lt_length (h : Follows stream group) {i : ℕ} (hd : group.detectors[i]? = some d) :
    i < stream.2.length := by
  have hlt := (List.getElem?_eq_some_iff.mp hd).1
  have hlength := h.length_eq
  omega

/-- What a detector has sent. -/
theorem Follows.reports (h : Follows stream group) {i : ℕ} (hd : group.detectors[i]? = some d) :
    d.Reports stream.1 := by
  obtain ⟨seen, hseen, hsublist⟩ := ((h.tracks i).detector d hd).1.inOrder
  obtain ⟨hchunks, hinput⟩ := sublist_chunksOf_of_examines hseen
  have hstream : seen.Sublist stream.1 :=
    ((List.sublist_append_left _ _).trans (List.sublist_append_left _ _)).trans hsublist
  exact ⟨hchunks.trans (hstream.filterMap _), hinput, h.filters d (List.mem_of_getElem? hd)⟩

end DetectionStreams

/-! ### Steps -/

namespace ContentPipeline

/-- What one step does. -/
inductive Steps (s : ContentPipeline) : PipelineLabel → ContentPipeline → Prop
  | detection {g : ℕ} {a : DetectionStreamsLabel} {group group' : DetectionStreams}
    (hgroup : s.groups[g]? = some group) (hstep : group.step 0 a = some group') :
    Steps s (.detection g a) { s with groups := s.groups.set g group' }
  | arrive {source : Source} {item : DetectionItem} {batchTask : BatchTask}
    (hsubscribed : s.subscribed = true)
    (hitem : (s.stream source)[(s.taken source).length]? = some item)
    (hstep : s.batchTask.arrive item = some batchTask) :
    Steps s (.arrive source) { s with batchTask, arrivals := s.arrivals ++ [(source, item)] }
  | close {batchTask : BatchTask} (hsubscribed : s.subscribed = true)
    (hexhausted : s.exhausted = true) (hstep : s.batchTask.close = some batchTask) :
    Steps s .close { s with batchTask }
  | batch {label : PipelineLabel} {a : BatchStreamLabel}
    {state state' : BatchStreamState MaxProcessedIndexBatcher}
    (hlabel : (label, a) ∈ [(.poll, .poll), (.actor, .actor), (.receive, .receive)])
    (hsubscribed : s.subscribed = true) (hstate : s.batchTask = .batching state)
    (hstep : state.step a = some state') :
    Steps s label { s with batchTask := .batching state' }

variable {s t : ContentPipeline} {label : PipelineLabel}

theorem steps_of_runBatches {a : BatchStreamLabel}
    (hlabel : (label, a) ∈ [(PipelineLabel.poll, BatchStreamLabel.poll), (.actor, .actor),
      (.receive, .receive)])
    (h : (if s.subscribed then s.runBatches (s.batchTask.run (·.step a)) else none) = some t) :
    Steps s label t := by
  rw [Option.ite_none_right_eq_some] at h
  obtain ⟨batchTask, hrun, rfl⟩ := Option.map_eq_some_iff.mp h.2
  cases hstate : s.batchTask with
  | forwarding stopped sent => simp [hstate, BatchTask.run] at hrun
  | batching state =>
    rw [hstate, BatchTask.run] at hrun
    obtain ⟨state', hstep, rfl⟩ := Option.map_eq_some_iff.mp hrun
    exact .batch hlabel h.1 hstate hstep

theorem steps_of_step (h : s.step label = some t) : Steps s label t := by
  cases label with
  | detection g a =>
    obtain ⟨group', hbind, rfl⟩ := Option.map_eq_some_iff.mp h
    obtain ⟨group, hgroup, hstep⟩ := Option.bind_eq_some_iff.mp hbind
    exact .detection hgroup hstep
  | arrive source =>
    rw [step, Option.ite_none_right_eq_some] at h
    obtain ⟨item, hitem, hmap⟩ := Option.bind_eq_some_iff.mp h.2
    obtain ⟨batchTask, hstep, rfl⟩ := Option.map_eq_some_iff.mp hmap
    exact .arrive h.1 hitem hstep
  | close =>
    rw [step, Option.ite_none_right_eq_some, Bool.and_eq_true] at h
    obtain ⟨batchTask, hstep, rfl⟩ := Option.map_eq_some_iff.mp h.2
    exact .close h.1.1 h.1.2 hstep
  | poll => exact steps_of_runBatches (a := .poll) (by simp) h
  | actor => exact steps_of_runBatches (a := .actor) (by simp) h
  | receive => exact steps_of_runBatches (a := .receive) (by simp) h

/-! ### What holds in every run -/

/-- The tasks of the chunk streams, and what has been taken from the streams of the detectors. -/
structure Feeds (streams : Streams) (s : ContentPipeline) : Prop where
  groups : List.Forall₂ DetectionStreams.Follows streams s.groups
  taken : ∀ source, s.taken source <+: s.stream source

variable {streams : Streams}

theorem Feeds.start (streams : Streams) : Feeds streams (start streams) := by
  refine ⟨?_, fun source => List.nil_prefix⟩
  rw [ContentPipeline.start, List.forall₂_map_right_iff, List.forall₂_same]
  exact fun stream _ => .start stream

theorem detector_eq_of_set {g : ℕ} {group' : DetectionStreams} {source : Source}
    (hne : source.1 ≠ g) :
    ({ s with groups := s.groups.set g group' } : ContentPipeline).detector source =
      s.detector source := by
  rw [detector, detector]
  simp only [List.getElem?_set_ne hne.symm]

/-- The streams of the detectors grow. -/
theorem stream_prefix_of_step {g : ℕ} {a : DetectionStreamsLabel} {group group' : DetectionStreams}
    (hgroup : s.groups[g]? = some group) (hstep : group.step 0 a = some group') (source : Source) :
    s.stream source <+:
      ({ s with groups := s.groups.set g group' } : ContentPipeline).stream source := by
  by_cases hsource : source.1 = g
  · subst hsource
    have hlt := (List.getElem?_eq_some_iff.mp hgroup).1
    cases hd : s.detector source with
    | none => simp [stream, hd]
    | some d =>
      have hdetector : group.detectors[source.2]? = some d := by
        simpa [detector, hgroup] using hd
      obtain ⟨d', hd', hextends⟩ := DetectionStreams.exists_extends_of_step hstep hdetector
      have hdetector' : ({ s with groups := s.groups.set source.1 group' } :
          ContentPipeline).detector source = some d' := by
        simp [detector, List.getElem?_set_self hlt, hd']
      rw [stream, stream, hd, hdetector']
      exact hextends.detections
  · rw [stream, stream, detector_eq_of_set hsource]

theorem taken_append (s : ContentPipeline) (source source' : Source) (item : DetectionItem)
    (batchTask : BatchTask) :
    ({ s with batchTask, arrivals := s.arrivals ++ [(source, item)] } : ContentPipeline).taken
      source' = s.taken source' ++ if source = source' then [item] else [] := by
  by_cases h : source = source' <;> simp [taken, h]

theorem Feeds.step (h : Feeds streams s) (hstep : s.step label = some t) : Feeds streams t := by
  cases steps_of_step hstep with
  | detection hgroup hgroupStep =>
    refine ⟨h.groups.set_right hgroup fun stream _ hfollows => hfollows.step hgroupStep, ?_⟩
    intro source
    exact (h.taken source).trans (stream_prefix_of_step hgroup hgroupStep source)
  | @arrive source item batchTask hsubscribed hitem harrive =>
    refine ⟨h.groups, ?_⟩
    intro source'
    rw [taken_append]
    change _ <+: s.stream source'
    -- the item that arrives is the next one of its source
    split_ifs with hsource
    · subst hsource
      exact List.IsPrefix.append_singleton (h.taken source) hitem
    · rw [List.append_nil]
      exact h.taken source'
  | close hsubscribed hexhausted hclose => exact ⟨h.groups, h.taken⟩
  | batch hlabel hsubscribed hstate hbatch => exact ⟨h.groups, h.taken⟩

/-! ### The task that makes batches -/

/-- Only batches are sent, or an error is sent last. -/
def EndsAtError (sent : List (Except Error Batch)) : Prop :=
  (∃ batches : List Batch, sent = batches.map .ok) ∨
    ∃ (batches : List Batch) (error : Error), sent = batches.map .ok ++ [.error error]

/-- What the task has done with what has arrived from `n` detectors. -/
inductive Serves (n : ℕ) (arrived : List DetectionItem) : BatchTask → Prop
  | forwarding {stopped : Bool} (single : n = 1) (ends : EndsAtError arrived)
    (running : stopped = false → ∃ batches : List Batch, arrived = batches.map .ok) :
    Serves n arrived (.forwarding stopped arrived)
  | batching {state : BatchStreamState MaxProcessedIndexBatcher}
    (tracks : state.Tracks n) (relays : state.Relays) (ends : state.EndsWithError)
    (consumes : state.Consumes arrived) : Serves n arrived (.batching state)

variable {n : ℕ} {arrived : List DetectionItem} {b b' : BatchTask} {item : DetectionItem}

theorem Serves.new (n : ℕ) : Serves n [] (.new n) := by
  rw [BatchTask.new]
  split_ifs with hn
  · exact .forwarding hn (Or.inl ⟨[], rfl⟩) fun _ => ⟨[], rfl⟩
  · exact .batching (.start n []) (List.Sublist.refl _) (Or.inl ⟨[], rfl⟩) ⟨[], rfl, rfl⟩

theorem Serves.arrive (h : Serves n arrived b) (hstep : b.arrive item = some b') :
    Serves n (arrived ++ [item]) b' := by
  cases h with
  | @forwarding stopped single ends running =>
    rw [BatchTask.arrive] at hstep
    split_ifs at hstep with hstopped
    obtain rfl := Option.some.inj hstep
    obtain ⟨batches, hbatches⟩ := running (by simpa using hstopped)
    cases item with
    | ok batch =>
      have hsent : arrived ++ [.ok batch] = (batches ++ [batch]).map .ok := by simp [hbatches]
      exact .forwarding single (Or.inl ⟨_, hsent⟩) fun _ => ⟨_, hsent⟩
    | error error =>
      refine .forwarding single (Or.inr ⟨batches, error, by rw [hbatches]⟩) ?_
      simp [Except.isOk, Except.toBool]
  | @batching state tracks relays ends consumes =>
    obtain rfl := Option.some.inj hstep
    obtain ⟨consumed, harrived, hreceived⟩ := consumes
    refine .batching ⟨tracks.run, tracks.received, tracks.behind, tracks.live, tracks.empty⟩ relays
      ends ⟨consumed, ?_, hreceived⟩
    simp [harrived]

theorem Serves.close (h : Serves n arrived b) (hstep : b.close = some b') :
    Serves n arrived b' := by
  cases h with
  | forwarding single ends running =>
    rw [BatchTask.close] at hstep
    split_ifs at hstep
    obtain rfl := Option.some.inj hstep
    exact .forwarding single ends (by simp)
  | batching tracks relays ends consumes =>
    obtain rfl := Option.some.inj hstep
    exact .batching ⟨tracks.run, tracks.received, tracks.behind, tracks.live, tracks.empty⟩ relays
      ends consumes

theorem Serves.batch {state state' : BatchStreamState MaxProcessedIndexBatcher}
    {a : BatchStreamLabel} (h : Serves n arrived (.batching state))
    (ha : a ∈ [.poll, .actor, .receive]) (hstep : state.step a = some state') :
    Serves n arrived (.batching state') := by
  cases h with
  | batching tracks relays ends consumes =>
    have htracks := tracks.step hstep
    simp only [List.mem_cons, List.not_mem_nil, or_false] at ha
    rcases ha with rfl | rfl | rfl
    · exact .batching htracks (relays.poll hstep) (ends.poll hstep) (consumes.poll hstep)
    · exact .batching htracks (relays.runActor hstep) (ends.runActor hstep)
        (consumes.runActor hstep)
    · simp only [BatchStreamState.step] at hstep
      split at hstep
      · simp at hstep
      · obtain rfl := Option.some.inj hstep
        exact .batching htracks relays ends consumes

/-- What holds of the pipeline in every run. -/
structure Sound (streams : Streams) (s : ContentPipeline) : Prop where
  feeds : Feeds streams s
  serves : Serves (nDetectors streams) (s.arrivals.map (·.2)) s.batchTask

theorem Sound.step (h : Sound streams s) (hstep : s.step label = some t) : Sound streams t := by
  refine ⟨h.feeds.step hstep, ?_⟩
  cases steps_of_step hstep with
  | detection hgroup hgroupStep => exact h.serves
  | arrive hsubscribed hitem harrive =>
    rw [List.map_append]
    exact h.serves.arrive harrive
  | close hsubscribed hexhausted hclose => exact h.serves.close hclose
  | @batch _ a state state' hlabel hsubscribed hstate hbatch =>
    have hserves := h.serves
    rw [hstate] at hserves
    refine hserves.batch ?_ hbatch
    simp only [List.mem_cons, Prod.mk.injEq, List.not_mem_nil, or_false] at hlabel ⊢
    exact hlabel.imp And.right (Or.imp And.right And.right)

theorem sound_of_exec {w : List PipelineLabel} (h : exec step (start streams) w = some s) :
    Sound streams s :=
  exec_invariant_all (fun _ _ _ hsound => hsound.step) ⟨.start streams, .new _⟩ h

/-! ### The detectors -/

theorem mem_sources_iff {source : Source} :
    source ∈ sources streams ↔
      ∃ stream, streams[source.1]? = some stream ∧ source.2 < stream.2.length := by
  obtain ⟨g, i⟩ := source
  simp only [sources, List.mem_flatMap, List.mem_map, List.mem_range, Prod.mk.injEq]
  constructor
  · rintro ⟨⟨stream, g'⟩, hmem, i', hlt, rfl, rfl⟩
    exact ⟨stream, List.mem_zipIdx_iff_getElem?.mp hmem, hlt⟩
  · rintro ⟨stream, hstream, hlt⟩
    exact ⟨(stream, g), List.mem_zipIdx_iff_getElem?.mpr hstream, i, hlt, rfl, rfl⟩

theorem nodup_sources (streams : Streams) : (sources streams).Nodup := by
  rw [sources, List.nodup_flatMap]
  refine ⟨?_, ?_⟩
  · rintro ⟨stream, g⟩ -
    exact List.nodup_range.map fun i j hij => (Prod.mk.inj hij).2
  · -- detectors of different streams differ in the number of the stream
    have hnodup : (streams.zipIdx.map (·.2)).Nodup := by
      rw [List.zipIdx_map_snd]
      exact List.nodup_range'
    rw [List.Nodup, List.pairwise_map] at hnodup
    refine hnodup.imp ?_
    rintro ⟨stream, g⟩ ⟨stream', g'⟩ hne source hsource hsource'
    obtain ⟨i, -, rfl⟩ := List.mem_map.mp hsource
    obtain ⟨i', -, heq⟩ := List.mem_map.mp hsource'
    exact hne (Prod.mk.inj heq).1.symm

theorem length_sources (streams : Streams) : (sources streams).length = nDetectors streams := by
  have hlengths : (streams.zipIdx.map fun p => ((List.range p.1.2.length).map
      fun i => (p.2, i)).length) = (streams.zipIdx.map (·.1)).map (·.2.length) := by
    rw [List.map_map]
    exact List.map_congr_left fun p _ => by simp
  rw [sources, List.length_flatMap, nDetectors, hlengths, List.zipIdx_map_fst]

/-- The tasks of a chunk stream. -/
theorem Feeds.follows (h : Feeds streams s) {g : ℕ} {stream : List ChunkItem × List ℚ}
    {group : DetectionStreams} (hstream : streams[g]? = some stream)
    (hgroup : s.groups[g]? = some group) : group.Follows stream := by
  obtain ⟨hlt, rfl⟩ := List.getElem?_eq_some_iff.mp hstream
  obtain ⟨hlt', rfl⟩ := List.getElem?_eq_some_iff.mp hgroup
  exact h.groups.get hlt hlt'

/-- A detector that has sent something is among the requested ones, and what it has sent are
answers to chunks of its stream. -/
theorem Feeds.exists_reports (h : Feeds streams s) {source : Source}
    (hne : s.stream source ≠ []) :
    ∃ stream d, streams[source.1]? = some stream ∧ source ∈ sources streams ∧
      s.detector source = some d ∧ d.Reports stream.1 := by
  cases hd : s.detector source with
  | none => simp [stream, hd] at hne
  | some d =>
    obtain ⟨group, hgroup, hdetector⟩ := Option.bind_eq_some_iff.mp hd
    have hlt : source.1 < streams.length :=
      h.groups.length_eq ▸ (List.getElem?_eq_some_iff.mp hgroup).1
    have hstream := List.getElem?_eq_getElem hlt
    have hfollows := h.follows hstream hgroup
    refine ⟨streams[source.1], d, hstream, ?_, rfl, hfollows.reports hdetector⟩
    exact mem_sources_iff.mpr ⟨_, hstream, hfollows.lt_length hdetector⟩

/-! ### What the detectors have answered -/

/-- The threshold of a detector. -/
def thresholdAt (streams : Streams) (source : Source) : Option ℚ :=
  streams[source.1]?.bind (·.2[source.2]?)

/-- In the run, the detector answers with these detections while it examines the chunk. -/
def Answered (streams : Streams) (w : List PipelineLabel) (source : Source) (chunk : Chunk)
    (answer : List Detection) : Prop :=
  ∃ (before after : List PipelineLabel) (u : ContentPipeline) (d : DetectorTask),
    w = before ++ .detection source.1 (.answer source.2 (.ok answer)) :: after ∧
      exec step (start streams) before = some u ∧ u.detector source = some d ∧
      d.stage = .detecting chunk

variable {w : List PipelineLabel} {source : Source} {d : DetectorTask} {chunk : Chunk}
  {found answer : List Detection}

theorem Answered.append (h : Answered streams w source chunk answer) (w' : List PipelineLabel) :
    Answered streams (w ++ w') source chunk answer := by
  obtain ⟨before, after, u, d, rfl, hrun, hd, hstage⟩ := h
  exact ⟨before, after ++ w', u, d, by simp, hrun, hd, hstage⟩

theorem Feeds.thresholdAt_eq (h : Feeds streams s) (hd : s.detector source = some d) :
    thresholdAt streams source = some d.threshold := by
  obtain ⟨group, hgroup, hdetector⟩ := Option.bind_eq_some_iff.mp hd
  have hlt : source.1 < streams.length :=
    h.groups.length_eq ▸ (List.getElem?_eq_some_iff.mp hgroup).1
  have hstream := List.getElem?_eq_getElem hlt
  have hlt' := (List.getElem?_eq_some_iff.mp hdetector).1
  rw [thresholdAt, hstream, Option.bind_some, ← (h.follows hstream hgroup).thresholds,
    List.getElem?_append_left (by simpa using hlt'), List.getElem?_map, hdetector]
  rfl

/-- What a detector has sent is what it has answered, without what is below its threshold. -/
theorem exists_answered_of_mem (hrun : exec step (start streams) w = some s)
    (hd : s.detector source = some d) (hmem : .ok (0, chunk, found) ∈ d.detections) :
    ∃ answer, Answered streams w source chunk answer ∧
      found = answer.filter (d.threshold ≤ ·.score) := by
  induction w using List.reverseRecOn generalizing s d with
  | nil =>
    obtain rfl := Option.some.inj hrun
    obtain ⟨group, hgroup, hdetector⟩ := Option.bind_eq_some_iff.mp hd
    obtain ⟨stream, -, rfl⟩ := List.mem_map.mp (List.mem_of_getElem? hgroup)
    simp [DetectionStreams.start] at hdetector
  | append_singleton w label ih =>
    obtain ⟨u, hbefore, hstep⟩ := exec_append_singleton_eq_some.mp hrun
    -- a step of other tasks leaves the detector as it is
    have hsame : u.detector source = some d → ∃ answer,
        Answered streams (w ++ [label]) source chunk answer ∧
          found = answer.filter (d.threshold ≤ ·.score) := by
      intro hd
      obtain ⟨answer, hanswered, hfound⟩ := ih hbefore hd hmem
      exact ⟨answer, hanswered.append _, hfound⟩
    cases steps_of_step hstep with
    | @detection g a group group' hgroup hgroupStep =>
      by_cases hsource : source.1 = g
      · subst hsource
        have hlt := (List.getElem?_eq_some_iff.mp hgroup).1
        have hd' : group'.detectors[source.2]? = some d := by
          simpa [detector, List.getElem?_set_self hlt] using hd
        obtain ⟨e, he, hthreshold, hcase⟩ :=
          DetectionStreams.mem_detections_of_step hgroupStep hd' hmem
        have hbefore' : u.detector source = some e := by simp [detector, hgroup, he]
        rw [← hthreshold]
        -- the item was there before, or this step is the answer
        rcases hcase with hearlier | ⟨chunk', answer, rfl, hstage, hbatch⟩
        · obtain ⟨answer, hanswered, hfound⟩ := ih hbefore hbefore' hearlier
          exact ⟨answer, hanswered.append _, hfound⟩
        · obtain ⟨rfl, rfl⟩ : chunk = chunk' ∧ found = _ := by simpa using hbatch
          exact ⟨answer, ⟨w, [], u, e, rfl, hbefore, hbefore', hstage⟩, rfl⟩
      · exact hsame (detector_eq_of_set hsource ▸ hd)
    | arrive hsubscribed hitem harrive => exact hsame hd
    | close hsubscribed hexhausted hclose => exact hsame hd
    | batch hlabel hsubscribed hstate hbatch => exact hsame hd

/-- A step of the pipeline keeps what a detector has sent. -/
theorem exists_extends_of_step (hstep : s.step label = some t) (hd : s.detector source = some d) :
    ∃ d', t.detector source = some d' ∧ DetectionStreams.Extends d d' := by
  cases steps_of_step hstep with
  | @detection g a group group' hgroup hgroupStep =>
    by_cases hsource : source.1 = g
    · subst hsource
      have hlt := (List.getElem?_eq_some_iff.mp hgroup).1
      have hdetector : group.detectors[source.2]? = some d := by
        simpa [detector, hgroup] using hd
      obtain ⟨d', hd', hextends⟩ := DetectionStreams.exists_extends_of_step hgroupStep hdetector
      exact ⟨d', by simp [detector, List.getElem?_set_self hlt, hd'], hextends⟩
    · exact ⟨d, (detector_eq_of_set hsource).trans hd, .of_eq rfl rfl⟩
  | arrive hsubscribed hitem harrive => exact ⟨d, hd, .of_eq rfl rfl⟩
  | close hsubscribed hexhausted hclose => exact ⟨d, hd, .of_eq rfl rfl⟩
  | batch hlabel hsubscribed hstate hbatch => exact ⟨d, hd, .of_eq rfl rfl⟩

/-- What a detector has answered it has sent, without what is below its threshold. -/
theorem exists_mem_of_answered (hrun : exec step (start streams) w = some s)
    (h : Answered streams w source chunk answer) :
    ∃ d, s.detector source = some d ∧
      .ok (0, chunk, answer.filter (d.threshold ≤ ·.score)) ∈ d.detections := by
  obtain ⟨before, after, u, d, rfl, hbefore, hd, hstage⟩ := h
  rw [exec_append, hbefore, Option.bind_some, exec_cons_eq_some] at hrun
  obtain ⟨v, hstep, hafter⟩ := hrun
  refine exec_invariant_all (I := fun s => ∃ d, s.detector source = some d ∧
    .ok (0, chunk, answer.filter (d.threshold ≤ ·.score)) ∈ d.detections) ?_ ?_ hafter
  · rintro s a t ⟨d, hd, hmem⟩ hstep
    obtain ⟨d', hd', hextends⟩ := exists_extends_of_step hstep hd
    exact ⟨d', hd', hextends.threshold ▸ hextends.detections.subset hmem⟩
  · cases steps_of_step hstep with
    | @detection g a group group' hgroup hgroupStep =>
      have hlt := (List.getElem?_eq_some_iff.mp hgroup).1
      have hdetector : group.detectors[source.2]? = some d := by
        simpa [detector, hgroup] using hd
      obtain ⟨d', hd', hmem⟩ :=
        DetectionStreams.exists_mem_of_step_answer hgroupStep hdetector hstage
      exact ⟨d', by simp [detector, List.getElem?_set_self hlt, hd'], hmem⟩
    | batch hlabel => simp at hlabel

/-- A batch has the detections of every detector on its chunk: those among its answer to the chunk
that reach the threshold that was asked for. -/
def IsComplete (streams : Streams) (w : List PipelineLabel) (batch : Batch) : Prop :=
  ∃ found : Source → List Detection,
    (∀ source ∈ sources streams, ∃ threshold, thresholdAt streams source = some threshold ∧
      (∃ chunk answer, Answered streams w source chunk answer ∧ key chunk = key batch.2.1) ∧
      ∀ chunk answer, Answered streams w source chunk answer → key chunk = key batch.2.1 →
        found source = answer.filter (threshold ≤ ·.score)) ∧
    batch.2.2.Perm ((sources streams).flatMap found)

/-! ### What was sent -/

/-- A batch has what every detector has sent on its chunk. -/
def Gathers (streams : Streams) (s : ContentPipeline) (batch : Batch) : Prop :=
  ∃ found : Source → List Detection,
    (∀ source ∈ sources streams, ∃ d chunk, s.detector source = some d ∧
      .ok (0, chunk, found source) ∈ d.detections ∧ key chunk = key batch.2.1 ∧
      ∀ x ∈ found source, d.threshold ≤ x.score) ∧
    batch.2.2.Perm ((sources streams).flatMap found)

/-- The chunks of every stream ascend. -/
def Ascending (streams : Streams) : Prop :=
  ∀ stream ∈ streams, (chunksOf stream.1).Pairwise fun c c' => key c < key c'

/-- The items that have arrived, without errors. -/
def okArrivals (s : ContentPipeline) : List (Source × StreamItem) :=
  s.arrivals.filterMap fun p => p.2.toOption.map fun x => (p.1, x)

theorem map_okArrivals (s : ContentPipeline) :
    s.okArrivals.map (·.2) = (s.arrivals.map (·.2)).filterMap Except.toOption := by
  rw [okArrivals, List.map_filterMap, List.filterMap_map]
  refine List.filterMap_congr fun p _ => ?_
  obtain ⟨source, item⟩ := p
  cases item <;> rfl

theorem filter_okArrivals (s : ContentPipeline) (source : Source) :
    (s.okArrivals.filter (·.1 = source)).map (·.2) =
      (s.taken source).filterMap Except.toOption := by
  rw [okArrivals, taken, List.filter_filterMap, List.map_filterMap, List.filterMap_map,
    List.filterMap_filter]
  refine List.filterMap_congr fun p _ => ?_
  obtain ⟨source', item⟩ := p
  by_cases hsource : source' = source <;> cases item <;> simp [hsource]

/-- What has arrived from a detector, in ascending order. -/
theorem Feeds.pairwise_okArrivals (h : Feeds streams s) (hascending : Ascending streams)
    (source : Source) : ((s.okArrivals.filter (·.1 = source)).map (·.2)).Pairwise
      fun x y => key x.2.1 < key y.2.1 := by
  rw [filter_okArrivals]
  by_cases hne : s.stream source = []
  · have hnil : s.taken source = [] := List.prefix_nil.mp (hne ▸ h.taken source)
    simp [hnil]
  · obtain ⟨stream, d, hstream, -, hd, hreports⟩ := h.exists_reports hne
    have hchunks := (hascending stream (List.mem_of_getElem? hstream)).sublist hreports.chunks
    rw [List.pairwise_map] at hchunks
    refine hchunks.sublist ((h.taken source).sublist.filterMap _ |>.trans ?_)
    simp [ContentPipeline.stream, hd]

/-- What a detector has sent about a chunk that has arrived. -/
theorem Feeds.of_mem_okArrivals (h : Feeds streams s) {source : Source} {x : StreamItem}
    (hx : (source, x) ∈ s.okArrivals) :
    source ∈ sources streams ∧ ∃ d, s.detector source = some d ∧ .ok x ∈ d.detections ∧ x.1 = 0 ∧
      ∀ y ∈ x.2.2, d.threshold ≤ y.score := by
  -- what has arrived was taken from the stream of its source
  have htaken : x ∈ (s.taken source).filterMap Except.toOption := by
    rw [← filter_okArrivals]
    exact List.mem_map.mpr ⟨_, List.mem_filter.mpr ⟨hx, by simp⟩, rfl⟩
  have hstream : x ∈ (s.stream source).filterMap Except.toOption :=
    ((h.taken source).sublist.filterMap _).subset htaken
  have hne : s.stream source ≠ [] := by
    rintro hnil
    simp [hnil] at hstream
  obtain ⟨stream, d, -, hsource, hd, hreports⟩ := h.exists_reports hne
  have hdetections : s.stream source = d.detections := by simp [ContentPipeline.stream, hd]
  rw [hdetections] at hstream
  obtain ⟨item, hitem, hok⟩ := List.mem_filterMap.mp hstream
  rw [Except.toOption_eq_some_iff] at hok
  exact ⟨hsource, d, hd, hok ▸ hitem, hreports.inputId x hstream, hreports.threshold x hstream⟩

/-- Everything that has arrived comes from the one detector. -/
theorem Feeds.filter_okArrivals_of_single (h : Feeds streams s) {source : Source}
    (hsource : sources streams = [source]) :
    s.okArrivals.filter (·.1 = source) = s.okArrivals := by
  rw [List.filter_eq_self]
  rintro ⟨source', x⟩ hx
  simpa [hsource] using (h.of_mem_okArrivals hx).1

open BatcherEvent KeyedBatcher

variable {state : BatchStreamState MaxProcessedIndexBatcher}

/-- The calls of the actor, with the detectors that the pushed items come from. -/
theorem Sound.exists_fromSources (h : Sound streams s) (hascending : Ascending streams)
    (hstate : s.batchTask = .batching state) :
    ∃ items : List (Source × StreamItem), (pushes state.calls).map (·.2) = items.map (·.2) ∧
      items.Sublist s.okArrivals ∧ FromSources Chunk (sources streams) (tag state.calls items) := by
  have hserves := h.serves
  rw [hstate] at hserves
  cases hserves with
  | batching tracks relays ends consumes =>
    obtain ⟨consumed, harrived, hreceived⟩ := consumes
    -- the pushed items are the first ones of those that have arrived
    have hprefix : (pushes state.calls).map (·.2) <+: s.okArrivals.map (·.2) := by
      rw [map_okArrivals, harrived, List.filterMap_append, ← hreceived, tracks.received]
      simp only [List.append_assoc]
      exact List.prefix_append _ _
    set items := s.okArrivals.take ((pushes state.calls).map (·.2)).length with hitems
    have hpushes : (pushes state.calls).map (·.2) = items.map (·.2) := by
      rw [hitems, List.map_take]
      exact List.prefix_iff_eq_take.mp hprefix
    have hsublist : items.Sublist s.okArrivals := List.take_sublist _ _
    refine ⟨items, hpushes, hsublist, nodup_sources streams, ?_, ?_⟩
    · intro p hp
      rw [pushes_tag hpushes] at hp
      exact (h.feeds.of_mem_okArrivals (hsublist.subset hp)).1
    · intro source
      rw [delivered, pushes_tag hpushes]
      exact (h.feeds.pairwise_okArrivals hascending source).sublist
        ((hsublist.filter _).map _)

/-- The lists of a group, by the detectors they come from. -/
theorem exists_found {items : List (Source × StreamItem)} {calls : List (BatcherEvent Unit)}
    (hpushes : (pushes calls).map (·.2) = items.map (·.2))
    (hfrom : FromSources Chunk (sources streams) (tag calls items))
    {g : Chunk × List (List Detection)} (hg : g.2 = pushedUnder g.1 (tag calls items))
    (hlength : g.2.length = nDetectors streams) :
    ∃ found : Source → List Detection,
      (∀ source ∈ sources streams, ∃ chunk inputId, (source, inputId, chunk, found source) ∈ items ∧
        key chunk = key g.1) ∧
      g.2.flatten.Perm ((sources streams).flatMap found) := by
  have hperm := hfrom.sourcesOf_perm (k := g.1)
    (by rw [← hg, hlength, length_sources])
  set filed := items.filter fun p => Under g.1 p.2 with hfiled
  have hsources : sourcesOf g.1 (tag calls items) = filed.map (·.1) := by
    rw [sourcesOf, pushes_tag hpushes]
  have hlists : g.2 = filed.map (·.2.2.2) := by
    rw [hg, pushedUnder, pushes_tag hpushes]
  rw [hsources] at hperm
  have hnodup : (filed.map (·.1)).Nodup := hperm.nodup_iff.mpr hfrom.nodup
  -- each detector has one item under the key
  let found (source : Source) : List Detection :=
    (((⟨filed, hnodup⟩ : IterMap Source StreamItem).get? source).map (·.2.2)).getD []
  have hfound : ∀ p ∈ filed, found p.1 = p.2.2.2 := by
    intro p hp
    have hget : (⟨filed, hnodup⟩ : IterMap Source StreamItem).get? p.1 = some p.2 :=
      IterMap.get?_eq_some_iff.mpr hp
    simp [found, hget]
  refine ⟨found, ?_, ?_⟩
  · intro source hsource
    obtain ⟨p, hp, rfl⟩ := List.mem_map.mp (hperm.mem_iff.mpr hsource)
    have hmem := List.mem_filter.mp hp
    refine ⟨p.2.2.1, p.2.1, ?_, of_decide_eq_true hmem.2⟩
    rw [hfound p hp]
    exact hmem.1
  · have hflatten : g.2.flatten = (filed.map (·.1)).flatMap found := by
      rw [hlists, List.flatMap_map, List.flatMap_def]
      congr 1
      exact List.map_congr_left fun p hp => (hfound p hp).symm
    rw [hflatten]
    exact hperm.flatMap_right found

/-- What was sent when a batcher makes the batches. -/
theorem Sound.batching (h : Sound streams s) (hascending : Ascending streams)
    (hne : sources streams ≠ []) (hstate : s.batchTask = .batching state) :
    (state.sentBatches.map (·.2.1)).Pairwise (fun c c' => key c < key c') ∧
      ∀ batch ∈ state.sentBatches, batch.1 = 0 ∧ Gathers streams s batch := by
  obtain ⟨items, hpushes, hsublist, hfrom⟩ := h.exists_fromSources hascending hstate
  have hserves := h.serves
  rw [hstate] at hserves
  cases hserves with
  | batching tracks relays ends consumes =>
    have hrun := tracks.run
    rw [runEvents_eq, Prod.mk.injEq] at hrun
    have hgroups : (runGroups (new (sources streams).length : MaxProcessedIndexBatcher)
        (tag state.calls items)).2 =
          (runGroups (new (nDetectors streams) : MaxProcessedIndexBatcher) state.calls).2 := by
      rw [length_sources, runGroups, foldl_callGroup_tag hpushes]
      rfl
    -- what was sent was popped, so it is among the groups of the batcher
    have hsent : state.sentBatches.Sublist state.popped :=
      (List.sublist_append_left _ _).trans relays
    rw [← hrun.2, ← hgroups] at hsent
    obtain ⟨sentGroups, hsentGroups, hbatches⟩ := List.sublist_map_iff.mp hsent
    rw [hbatches]
    refine ⟨?_, ?_⟩
    · rw [List.map_map, List.pairwise_map]
      exact hfrom.ascends.popped.sublist hsentGroups
    · intro batch hbatch
      obtain ⟨g, hg, rfl⟩ := List.mem_map.mp hbatch
      have hmem := hsentGroups.subset hg
      -- every popped group has an entry of each source
      have hlength := (accounts (K := Chunk) (sources streams).length
        (tag state.calls items)).complete g hmem
      rw [length_sources] at hlength
      obtain ⟨found, hfound, hperm⟩ :=
        exists_found hpushes hfrom (hfrom.group_eq hne hmem) hlength
      refine ⟨rfl, found, ?_, hperm⟩
      intro source hsource
      obtain ⟨chunk, inputId, hitem, hkey⟩ := hfound source hsource
      obtain ⟨-, d, hd, hok, rfl, hthreshold⟩ :=
        h.feeds.of_mem_okArrivals (hsublist.subset hitem)
      exact ⟨d, chunk, hd, hok, hkey, hthreshold⟩

/-- What was sent when there is a single detector. -/
theorem Sound.forwarding (h : Sound streams s) (hascending : Ascending streams) {stopped : Bool}
    {sent : List (Except Error Batch)} (htask : s.batchTask = .forwarding stopped sent) :
    ((sent.filterMap Except.toOption).map (·.2.1)).Pairwise (fun c c' => key c < key c') ∧
      ∀ batch ∈ sent.filterMap Except.toOption, batch.1 = 0 ∧ Gathers streams s batch := by
  have hserves := h.serves
  rw [htask] at hserves
  cases hserves with
  | forwarding single ends running =>
    -- a stream is only passed on when there is no other
    obtain ⟨source, hsource⟩ : ∃ source, sources streams = [source] :=
      List.length_eq_one_iff.mp (by rw [length_sources, single])
    have hpairwise := h.feeds.pairwise_okArrivals hascending source
    rw [h.feeds.filter_okArrivals_of_single hsource, map_okArrivals] at hpairwise
    refine ⟨List.pairwise_map.mpr hpairwise, ?_⟩
    intro batch hbatch
    rw [← map_okArrivals] at hbatch
    obtain ⟨⟨source', x⟩, hx, rfl⟩ := List.mem_map.mp hbatch
    obtain ⟨hmem, d, hd, hok, hinput, hthreshold⟩ := h.feeds.of_mem_okArrivals hx
    obtain rfl : source' = source := by simpa [hsource] using hmem
    refine ⟨hinput, fun _ => x.2.2, ?_, by simp [hsource]⟩
    intro source'' hsource''
    obtain rfl : source'' = source' := by simpa [hsource] using hsource''
    exact ⟨d, x.2.1, hd, by rw [← hinput]; exact hok, rfl, hthreshold⟩

/-- What was sent. -/
theorem Sound.sent (h : Sound streams s) (hascending : Ascending streams)
    (hne : sources streams ≠ []) :
    (s.batchTask.sentBatches.map (·.2.1)).Pairwise (fun c c' => key c < key c') ∧
      (∀ batch ∈ s.batchTask.sentBatches, batch.1 = 0 ∧ Gathers streams s batch) ∧
      EndsAtError s.batchTask.sent := by
  have hserves := h.serves
  cases htask : s.batchTask with
  | forwarding stopped sent =>
    rw [htask] at hserves
    obtain ⟨hsorted, hcomplete⟩ := h.forwarding hascending htask
    cases hserves with
    | forwarding single ends running => exact ⟨hsorted, hcomplete, ends⟩
  | batching state =>
    rw [htask] at hserves
    obtain ⟨hsorted, hcomplete⟩ := h.batching hascending hne htask
    cases hserves with
    | batching tracks relays ends consumes =>
      exact ⟨hsorted, hcomplete, ends.imp_right And.right⟩

/-- No detector answers twice to chunks of one span, so what it has sent is its one answer. -/
theorem Gathers.isComplete (hascending : Ascending streams)
    (hrun : exec step (start streams) w = some s) {batch : Batch}
    (h : Gathers streams s batch) : IsComplete streams w batch := by
  have hfeeds := (sound_of_exec hrun).feeds
  obtain ⟨found, hfound, hperm⟩ := h
  refine ⟨found, ?_, hperm⟩
  intro source hsource
  obtain ⟨d, chunk, hd, hmem, hkey, -⟩ := hfound source hsource
  obtain ⟨answer, hanswered, -⟩ := exists_answered_of_mem hrun hd hmem
  refine ⟨d.threshold, hfeeds.thresholdAt_eq hd, ⟨chunk, answer, hanswered, hkey⟩, ?_⟩
  intro chunk' answer' hanswered' hkey'
  obtain ⟨d', hd', hmem'⟩ := exists_mem_of_answered hrun hanswered'
  obtain rfl := Option.some.inj (hd.symm.trans hd')
  have hne : s.stream source ≠ [] := by
    simpa [stream, hd] using List.ne_nil_of_mem hmem
  obtain ⟨items, e, hstream, -, he, hreports⟩ := hfeeds.exists_reports hne
  obtain rfl := Option.some.inj (hd.symm.trans he)
  -- the chunks of a stream ascend, so a detector has answered on each of them once
  have hkeys : ((d.detections.filterMap Except.toOption).map fun x => key x.2.1).Nodup := by
    have hchunks := (hascending items (List.mem_of_getElem? hstream)).sublist hreports.chunks
    rw [List.pairwise_map] at hchunks
    exact List.pairwise_map.mpr (hchunks.imp fun hlt => hlt.ne)
  have heq := List.inj_on_of_nodup_map hkeys (List.mem_filterMap.mpr ⟨_, hmem, rfl⟩)
    (List.mem_filterMap.mpr ⟨_, hmem', rfl⟩) (hkey.trans hkey'.symm)
  exact (Prod.mk.inj (Prod.mk.inj heq).2).2

end ContentPipeline

open ContentPipeline

/-- **Batches of streamed contents.** In every run, whatever is lost on the way and whichever
detector tasks panic: the batches that were sent ascend, each has what every detector answered on
its chunk that reaches the threshold asked for and nothing else, and an error is the last thing
that is sent. -/
theorem pipeline_sent_sound {streams : Streams} (hascending : Ascending streams)
    (hne : sources streams ≠ []) {w : List PipelineLabel} {s : ContentPipeline}
    (hrun : exec step (start streams) w = some s) :
    (s.batchTask.sentBatches.map (·.2.1)).Pairwise (fun c c' => key c < key c') ∧
      (∀ batch ∈ s.batchTask.sentBatches, batch.1 = 0 ∧ IsComplete streams w batch) ∧
      EndsAtError s.batchTask.sent := by
  obtain ⟨hsorted, hgathers, hends⟩ := (sound_of_exec hrun).sent hascending hne
  refine ⟨hsorted, ?_, hends⟩
  intro batch hbatch
  exact ⟨(hgathers batch hbatch).1, (hgathers batch hbatch).2.isComplete hascending hrun⟩

/-- Two detectors on a stream with two chunks. -/
def twoChunks : Streams :=
  [([.ok { stop := 3, text := "Yes" }, .ok { start := 3, stop := 7, text := " No." }], [1, 1])]

/-- Both detectors examine both chunks, and the batches are sent. The first one finds something
below its threshold, and the items of the second one arrive first. -/
def twoChunksRun : List PipelineLabel :=
  [.detection 0 .subscribe, .detection 0 .subscribe, .detection 0 .subscribe,
    .detection 0 .broadcast, .detection 0 .broadcast, .detection 0 (.receive 1),
    .detection 0 (.receive 0), .detection 0 (.answer 1 (.ok [])), .detection 0 (.receive 1),
    .detection 0 (.answer 0 (.ok [{ score := 1 }, { score := 0 }])),
    .detection 0 (.answer 1 (.ok [{ score := 2 }])), .detection 0 (.receive 0),
    .detection 0 (.answer 0 (.ok [])), .arrive (0, 1), .arrive (0, 1), .poll, .poll, .poll, .poll,
    .arrive (0, 0), .poll, .poll, .arrive (0, 0), .poll, .poll, .poll, .poll, .actor, .actor,
    .actor, .actor, .actor, .poll, .poll, .poll, .poll, .actor, .poll, .poll]

theorem ascending_twoChunks : Ascending twoChunks := by
  intro stream hstream
  obtain rfl := List.mem_singleton.mp hstream
  decide

theorem pipeline_sent_sound_twoChunks :
    ∃ s, exec step (start twoChunks) twoChunksRun = some s ∧
      s.batchTask.sentBatches = [(0, { stop := 3, text := "Yes" }, [{ score := 1 }]),
        (0, { start := 3, stop := 7, text := " No." }, [{ score := 2 }])] ∧
      ∀ batch ∈ s.batchTask.sentBatches, batch.1 = 0 ∧ IsComplete twoChunks twoChunksRun batch := by
  have hrun :=
    exec_eq_some_get (by decide : (exec step (start twoChunks) twoChunksRun).isSome = true)
  exact ⟨_, hrun, by decide, (pipeline_sent_sound ascending_twoChunks (by decide) hrun).2.1⟩

end GuardrailsOrchestrator
