import GuardrailsOrchestrator.StreamContent.Pipeline

/-!
# Runs that lose nothing

Where every detector is subscribed in time and keeps up, no detector fails and the loop never
abandons a batch, the pipeline sends a batch for every chunk, in the order of the chunks, before it
ends. The streams may be of several chunkers, as long as these agree on the chunks.

## Main definitions

* `ContentPipeline.Spares` — the step loses nothing
* `ContentPipeline.Ended` — the task that makes batches has ended

## Main results

* `pipeline_sends_every_chunk` — what was sent in such a run
-/

namespace GuardrailsOrchestrator

open Transition BatcherEvent KeyedBatcher

namespace DetectionStreams

variable {stream : List ChunkItem × List ℚ} {group group' : DetectionStreams} {d d' : DetectorTask}

/-- Every item has reached every detector or is yet to be broadcast, and no detector has failed. -/
structure Keeps (stream : List ChunkItem × List ℚ) (group : DetectionStreams) : Prop where
  accounted : ∀ i < stream.2.length, group.accounted i = stream.1.length
  answered : ∀ d ∈ group.detectors, ∀ error, .error error ∉ d.detections

theorem Keeps.start (stream : List ChunkItem × List ℚ) :
    Keeps stream (DetectionStreams.start stream.1 stream.2) :=
  ⟨fun i _ => by simp [DetectionStreams.accounted, DetectionStreams.start],
    by simp [DetectionStreams.start]⟩

/-- Where the chunk stream has no errors, receiving reports none. -/
theorem detections_of_receive {hasSenders : Bool} (h : d.receive hasSenders = some d')
    (hok : ∀ error, .error error ∉ d.chunkRx.unread) : d'.detections = d.detections := by
  rw [DetectorTask.receive] at h
  split at h
  swap
  · simp at h
  obtain ⟨⟨result, rx⟩, hrecv, rfl⟩ := Option.map_eq_some_iff.mp h
  rcases Broadcast.Receiver.cases_of_recv hrecv with
    ⟨-, rfl⟩ | ⟨item, -, hunread, -, rfl⟩ | ⟨-, -, -, rfl⟩
  · rfl
  · cases item with
    | ok chunk => rfl
    | error error => exact absurd (by simp [hunread]) (hok error)
  · rfl

theorem detections_of_answer {result : Except Error (List Detection)}
    (h : d.answer 0 result = some d') (hok : result.isOk = true) :
    ∃ batch, d'.detections = d.detections ++ [.ok batch] := by
  rw [DetectorTask.answer] at h
  split at h
  swap
  · simp at h
  obtain rfl := Option.some.inj h
  cases result with
  | error error => simp [Except.isOk, Except.toBool] at hok
  | ok detections => exact ⟨_, rfl⟩

theorem Keeps.step {a : DetectionStreamsLabel} (h : Keeps stream group)
    (hfollows : Follows stream group) (hok : ∀ error, .error error ∉ stream.1)
    (hdelivered : ∀ i < stream.2.length, group.Delivered i a)
    (hanswer : ∀ i result, a = .answer i result → result.isOk = true)
    (hstep : group.step 0 a = some group') : Keeps stream group' := by
  refine ⟨?_, ?_⟩
  · intro i hi
    exact ((hfollows.tracks i).step hstep).2.mpr ⟨h.accounted i hi, hdelivered i hi⟩
  · have htask : ∀ j f, group.stepDetector j f = some group' →
        (∀ d d', group.detectors[j]? = some d → f d = some d' →
          ∀ error, .error error ∈ d'.detections → .error error ∈ d.detections) →
        ∀ d ∈ group'.detectors, ∀ error, .error error ∉ d.detections := by
      intro j f hj hf d hd error herror
      obtain ⟨e, e', he, hfe, rfl⟩ := exists_of_stepDetector hj
      rcases List.mem_or_eq_of_mem_set hd with hd | rfl
      · exact h.answered d hd error herror
      · exact h.answered e (List.mem_of_getElem? he) error (hf e d he hfe error herror)
    cases a with
    | broadcast =>
      rcases cases_of_broadcast hstep with ⟨item, rest, -, rfl⟩ | ⟨-, -, rfl⟩
      · intro d hd
        obtain ⟨e, he, rfl⟩ := List.mem_map.mp hd
        rw [(offer_eq e item).2]
        exact h.answered e he
      · exact h.answered
    | subscribe =>
      rcases cases_of_subscribe hstep with ⟨threshold, unsubscribed, -, rfl⟩ | ⟨-, -, rfl⟩
      · intro d hd
        rcases List.mem_append.mp hd with hd | hd
        · exact h.answered d hd
        · obtain rfl := List.mem_singleton.mp hd
          simp
      · exact h.answered
    | receive j =>
      refine htask j _ hstep ?_
      intro d d' hd hreceive error herror
      -- whatever the detector has not read yet is an item of the chunk stream
      obtain ⟨seen, -, hsublist⟩ := ((hfollows.tracks j).detector d hd).1.inOrder
      have hunread : ∀ error, .error error ∉ d.chunkRx.unread := by
        intro error herror
        apply hok error
        apply hsublist.subset
        simp [DetectorTask.pending, herror]
      rwa [detections_of_receive hreceive hunread] at herror
    | answer j result =>
      refine htask j _ hstep ?_
      intro d d' hd hstep' error herror
      obtain ⟨batch, hbatch⟩ := detections_of_answer hstep' (hanswer j result rfl)
      rw [hbatch] at herror
      simpa using herror
    | panic j =>
      refine htask j _ hstep ?_
      intro d d' hd hpanic error herror
      exact (panic_eq hpanic).2 ▸ herror

/-- Answers that are no errors are about the chunks of the stream, one by one. -/
theorem chunks_eq_of_examines {items : List ChunkItem} {detections : List DetectionItem}
    (h : List.Forall₂ (Examines 0) items detections)
    (hanswered : ∀ error, .error error ∉ detections) :
    (detections.filterMap Except.toOption).map (·.2.1) = chunksOf items := by
  induction h with
  | nil => rfl
  | cons hexamines hrest ih =>
    have ih := ih fun error herror => hanswered error (List.mem_cons_of_mem _ herror)
    cases hexamines with
    | detected chunk found => exact congrArg (chunk :: ·) ih
    | requestFailed chunk error => exact absurd List.mem_cons_self (hanswered error)
    | streamFailed error => exact absurd List.mem_cons_self (hanswered error)

/-- A detector whose task has ended has answered for every chunk, in order. -/
theorem Keeps.chunks_eq (h : Keeps stream group) (hfollows : Follows stream group) {i : ℕ}
    (hd : group.detectors[i]? = some d) (hended : d.stage = .ended) :
    (d.detections.filterMap Except.toOption).map (·.2.1) = chunksOf stream.1 := by
  have hexamined := ((hfollows.tracks i).examined_iff hd hended).mpr
    (h.accounted i (hfollows.lt_length hd))
  have hanswered := h.answered d (List.mem_of_getElem? hd)
  exact chunks_eq_of_examines hexamined hanswered

end DetectionStreams

namespace ContentPipeline

variable {streams : Streams} {s t : ContentPipeline} {label : PipelineLabel} {chunks : List Chunk}

/-- The step delivers what it broadcasts to all detectors of the stream, its answer is no error and
no panic, and it does not abandon a request that yields a batch. -/
def Spares (s : ContentPipeline) : PipelineLabel → Prop
  | .detection g a =>
    (∀ group ∈ s.groups[g]?, ∀ i < group.detectors.length + group.unsubscribed.length,
        group.Delivered i a) ∧
      match a with
      | .answer _ result => result.isOk = true
      | _ => True
  | .poll =>
    match s.batchTask with
    | .batching state => state.Spares .poll
    | _ => True
  | _ => True

instance (s : ContentPipeline) : ∀ label, Decidable (s.Spares label)
  | .detection _ (.answer _ _) => inferInstanceAs (Decidable (_ ∧ _))
  | .detection _ .broadcast | .detection _ .subscribe | .detection _ (.receive _)
  | .detection _ (.panic _) => inferInstanceAs (Decidable (_ ∧ True))
  | .poll =>
    match h : s.batchTask with
    | .batching state => decidable_of_iff (state.Spares .poll) (by simp [Spares, h])
    | .forwarding _ _ => isTrue (by simp [Spares, h])
  | .arrive _ | .close | .actor | .receive => isTrue trivial

/-- The task that makes batches has ended, and not with an error. -/
def Ended : BatchTask → Prop
  | .forwarding stopped _ => stopped = true
  | .batching state => state.loop = .exited true

instance : ∀ batchTask, Decidable (Ended batchTask)
  | .forwarding stopped _ => inferInstanceAs (Decidable (stopped = true))
  | .batching state => inferInstanceAs (Decidable (state.loop = .exited true))

/-! ### Exhausted streams -/

theorem exhausted_iff (h : Feeds streams s) :
    s.exhausted = true ↔ ∀ source d, s.detector source = some d →
      d.stage = .ended ∧ s.taken source = d.detections := by
  -- what was taken comes first among the detections, so the lengths decide
  have htaken : ∀ source d, s.detector source = some d →
      ((s.taken source).length = d.detections.length ↔ s.taken source = d.detections) := by
    intro source d hd
    have hinitial := h.taken source
    simp only [stream, hd, Option.map_some, Option.getD_some] at hinitial
    exact ⟨hinitial.eq_of_length, congrArg List.length⟩
  simp only [exhausted, List.all_eq_true, Bool.and_eq_true, decide_eq_true_eq]
  constructor
  · intro hall source d hd
    obtain ⟨group, hgroup, hdetector⟩ := Option.bind_eq_some_iff.mp hd
    have hd' := hall (group, source.1) (List.mem_zipIdx_iff_getElem?.mpr hgroup)
      (d, source.2) (List.mem_zipIdx_iff_getElem?.mpr hdetector)
    exact ⟨hd'.1, (htaken source d hd).mp hd'.2⟩
  · rintro hall ⟨group, g⟩ hgroup ⟨d, i⟩ hd
    have hdetector : s.detector (g, i) = some d := by
      rw [detector, List.mem_zipIdx_iff_getElem?.mp hgroup]
      exact List.mem_zipIdx_iff_getElem?.mp hd
    obtain ⟨hended, heq⟩ := hall (g, i) d hdetector
    exact ⟨hended, (htaken _ d hdetector).mpr heq⟩

/-- Once all detectors are subscribed, none is added. -/
theorem subscribed_iff : s.subscribed = true ↔ ∀ group ∈ s.groups, group.subscribing = false := by
  simp [subscribed]

/-- All detectors are subscribed, and their streams are used up. -/
def Settled (s : ContentPipeline) : Prop := s.subscribed = true ∧ s.exhausted = true

/-- Nothing is taken from streams that are used up. -/
theorem Settled.stream_eq (h : Settled s) (hfeeds : Feeds streams s) (source : Source) :
    (s.stream source)[(s.taken source).length]? = none := by
  cases hd : s.detector source with
  | none => simp [stream, hd]
  | some d =>
    have htaken := ((exhausted_iff hfeeds).mp h.2 source d hd).2
    simp [stream, hd, htaken]

/-- The tasks of a chunk stream whose detectors have ended leave them alone. -/
theorem detectors_of_ended {group group' : DetectionStreams} {stream : List ChunkItem × List ℚ}
    {a : DetectionStreamsLabel} (hfollows : group.Follows stream)
    (hsubscribing : group.subscribing = false) (hended : ∀ d ∈ group.detectors, d.stage = .ended)
    (hstep : group.step 0 a = some group') :
    group'.detectors = group.detectors ∧ group'.subscribing = false := by
  -- a task that has ended does not move
  have htask : ∀ j f, group.stepDetector j f = some group' →
      (∀ d : DetectorTask, d.stage = .ended → f d = none) → False := by
    intro j f hj hf
    obtain ⟨d, d', hd, hfd, -⟩ := DetectionStreams.exists_of_stepDetector hj
    rw [hf d (hended d (List.mem_of_getElem? hd))] at hfd
    simp at hfd
  cases a with
  | broadcast =>
    rcases DetectionStreams.cases_of_broadcast hstep with ⟨item, rest, -, rfl⟩ | ⟨-, -, rfl⟩
    · refine ⟨?_, hsubscribing⟩
      have hsame : ∀ d ∈ group.detectors, d.offer item = id d := fun d hd =>
        DetectorTask.offer_of_ended (hended d hd) item
      rw [List.map_congr_left hsame, List.map_id]
    · exact ⟨rfl, hsubscribing⟩
  | subscribe =>
    rcases DetectionStreams.cases_of_subscribe hstep with ⟨threshold, rest, hnext, rfl⟩ |
      ⟨-, hsubscribing', -⟩
    · rw [hfollows.unsubscribed hsubscribing] at hnext
      simp at hnext
    · rw [hsubscribing] at hsubscribing'
      simp at hsubscribing'
  | receive j =>
    exact (htask j _ hstep fun d hd => by simp [DetectorTask.receive, hd]).elim
  | answer j result =>
    exact (htask j _ hstep fun d hd => by simp [DetectorTask.answer, hd]).elim
  | panic j =>
    exact (htask j _ hstep fun d hd => by simp [DetectorTask.panic, hd]).elim

/-- Streams that are used up stay so. -/
theorem Settled.detection {g : ℕ} {a : DetectionStreamsLabel} {group group' : DetectionStreams}
    (h : Settled s) (hfeeds : Feeds streams s)
    (hfeeds' : Feeds streams { s with groups := s.groups.set g group' })
    (hgroup : s.groups[g]? = some group) (hstep : group.step 0 a = some group') :
    Settled { s with groups := s.groups.set g group' } := by
  have hmem := List.mem_of_getElem? hgroup
  obtain ⟨stream, -, hfollows⟩ := hfeeds.groups.exists_of_mem_right hmem
  have hexhausted := (exhausted_iff hfeeds).mp h.2
  -- the pipeline has settled, so every detector task has ended
  have hended : ∀ d ∈ group.detectors, d.stage = .ended := by
    intro d hd
    obtain ⟨i, hi⟩ := List.mem_iff_getElem?.mp hd
    exact (hexhausted (g, i) d (by simp [detector, hgroup, hi])).1
  obtain ⟨hdetectors, hsubscribing⟩ :=
    detectors_of_ended hfollows (subscribed_iff.mp h.1 group hmem) hended hstep
  refine ⟨?_, ?_⟩
  · rw [subscribed_iff]
    intro group'' hgroup''
    rcases List.mem_or_eq_of_mem_set hgroup'' with hgroup'' | rfl
    · exact subscribed_iff.mp h.1 group'' hgroup''
    · exact hsubscribing
  · rw [exhausted_iff hfeeds']
    intro source d hd
    apply hexhausted source d
    rw [← hd]
    by_cases hsource : source.1 = g
    · subst hsource
      have hlt := (List.getElem?_eq_some_iff.mp hgroup).1
      simp [detector, hgroup, List.getElem?_set_self hlt, hdetectors]
    · exact (detector_eq_of_set hsource).symm

/-! ### Invariant -/

/-- What holds as long as nothing is lost. -/
structure Lossless (streams : Streams) (s : ContentPipeline) : Prop where
  groups : List.Forall₂ DetectionStreams.Keeps streams s.groups
  batching : ∀ state, s.batchTask = .batching state →
    state.Delivers ∧ state.Completes ∧ (state.closed = true → Settled s)
  forwarding : ∀ stopped sent, s.batchTask = .forwarding stopped sent →
    stopped = true → Settled s

theorem Lossless.start (streams : Streams) : Lossless streams (start streams) := by
  refine ⟨?_, ?_, ?_⟩
  · rw [ContentPipeline.start, List.forall₂_map_right_iff, List.forall₂_same]
    exact fun stream _ => .start stream
  · intro state hstate
    simp only [ContentPipeline.start, BatchTask.new] at hstate
    split_ifs at hstate
    obtain rfl := BatchTask.batching.inj hstate
    refine ⟨.start _ _, ⟨?_, ?_, ?_, ?_⟩, ?_⟩ <;> simp [BatchStreamState.start]
  · intro stopped sent htask hstopped
    simp only [ContentPipeline.start, BatchTask.new] at htask
    split_ifs at htask
    obtain ⟨rfl, -⟩ := BatchTask.forwarding.inj htask
    simp at hstopped

/-- What a detector sends is no error. -/
theorem Lossless.notMem_stream (h : Lossless streams s) (source : Source) (error : Error) :
    .error error ∉ s.stream source := by
  cases hd : s.detector source with
  | none => simp [stream, hd]
  | some d =>
    obtain ⟨group, hgroup, hdetector⟩ := Option.bind_eq_some_iff.mp hd
    obtain ⟨stream', -, hkeeps⟩ := h.groups.exists_of_mem_right (List.mem_of_getElem? hgroup)
    simpa [stream, hd] using hkeeps.answered d (List.mem_of_getElem? hdetector) error

theorem Lossless.detection {g : ℕ} {a : DetectionStreamsLabel} {group group' : DetectionStreams}
    (h : Lossless streams s) (hfeeds : Feeds streams s)
    (hfeeds' : Feeds streams { s with groups := s.groups.set g group' })
    (hok : ∀ stream ∈ streams, ∀ error, .error error ∉ stream.1)
    (hspares : s.Spares (.detection g a)) (hgroup : s.groups[g]? = some group)
    (hstep : group.step 0 a = some group') :
    Lossless streams { s with groups := s.groups.set g group' } := by
  -- nothing more arrives once the pipeline has settled
  have hsettled : Settled s → Settled { s with groups := s.groups.set g group' } :=
    fun hsettled => hsettled.detection hfeeds hfeeds' hgroup hstep
  refine ⟨?_, ?_, ?_⟩
  · refine h.groups.set_right hgroup fun stream hstream hkeeps => ?_
    have hfollows := hfeeds.follows hstream hgroup
    refine hkeeps.step hfollows (hok stream (List.mem_of_getElem? hstream)) ?_ ?_ hstep
    · intro i hi
      exact hspares.1 group hgroup i (by rwa [hfollows.length_eq])
    · rintro i result rfl
      exact hspares.2
  · intro state hstate
    obtain ⟨hdelivers, hcompletes, hclosed⟩ := h.batching state hstate
    exact ⟨hdelivers, hcompletes, fun hc => hsettled (hclosed hc)⟩
  · intro stopped sent htask hstopped
    exact hsettled (h.forwarding stopped sent htask hstopped)

theorem Lossless.arrive {source : Source} {item : DetectionItem} {batchTask : BatchTask}
    (h : Lossless streams s) (hfeeds : Feeds streams s)
    (hitem : (s.stream source)[(s.taken source).length]? = some item)
    (hstep : s.batchTask.arrive item = some batchTask) :
    Lossless streams { s with batchTask, arrivals := s.arrivals ++ [(source, item)] } := by
  -- something was taken, so the streams were not used up
  have hunsettled : ¬ Settled s := by
    intro hsettled
    rw [hsettled.stream_eq hfeeds source] at hitem
    simp at hitem
  cases htask : s.batchTask with
  | forwarding stopped sent =>
    rw [htask, BatchTask.arrive] at hstep
    split_ifs at hstep
    obtain rfl := Option.some.inj hstep
    refine ⟨h.groups, by simp, ?_⟩
    intro stopped' sent' heq hstopped
    obtain ⟨rfl, -⟩ := BatchTask.forwarding.inj heq
    cases item with
    | ok batch => simp [Except.isOk, Except.toBool] at hstopped
    | error error => exact absurd (List.mem_of_getElem? hitem) (h.notMem_stream source error)
  | batching state =>
    rw [htask] at hstep
    obtain rfl := Option.some.inj hstep
    refine ⟨h.groups, ?_, by simp⟩
    intro state' heq
    obtain rfl := BatchTask.batching.inj heq
    obtain ⟨hdelivers, hcompletes, hclosed⟩ := h.batching state htask
    have hopen : state.closed ≠ true := fun hc => hunsettled (hclosed hc)
    refine ⟨⟨hdelivers.sent, hdelivers.live, hdelivers.quiet⟩,
      ⟨hcompletes.asks, hcompletes.asked, hcompletes.exited, ?_⟩, fun hc => absurd hc hopen⟩
    intro hcompleted
    exact absurd (hcompletes.completed hcompleted).1 hopen

theorem Lossless.close {batchTask : BatchTask} (h : Lossless streams s) (hsettled : Settled s)
    (hstep : s.batchTask.close = some batchTask) : Lossless streams { s with batchTask } := by
  refine ⟨h.groups, ?_, fun _ _ _ _ => hsettled⟩
  rintro state rfl
  cases htask : s.batchTask with
  | forwarding stopped sent =>
    rw [htask, BatchTask.close] at hstep
    split_ifs at hstep
    simp at hstep
  | batching state' =>
    rw [htask] at hstep
    obtain rfl := BatchTask.batching.inj (Option.some.inj hstep)
    obtain ⟨hdelivers, hcompletes, -⟩ := h.batching state' htask
    exact ⟨⟨hdelivers.sent, hdelivers.live, hdelivers.quiet⟩,
      ⟨hcompletes.asks, hcompletes.asked, hcompletes.exited,
        fun hcompleted => ⟨rfl, (hcompletes.completed hcompleted).2⟩⟩, fun _ => hsettled⟩

theorem Lossless.batch {a : BatchStreamLabel}
    {state state' : BatchStreamState MaxProcessedIndexBatcher} (h : Lossless streams s)
    (hlabel : (label, a) ∈ [(.poll, .poll), (.actor, .actor), (.receive, .receive)])
    (hspares : s.Spares label) (hstate : s.batchTask = .batching state)
    (hstep : state.step a = some state') :
    Lossless streams { s with batchTask := .batching state' } := by
  obtain ⟨hdelivers, hcompletes, hclosed⟩ := h.batching state hstate
  refine ⟨h.groups, ?_, by simp⟩
  intro state'' heq
  obtain rfl := BatchTask.batching.inj heq
  simp only [List.mem_cons, Prod.mk.injEq, List.not_mem_nil, or_false] at hlabel
  -- only polling can lose a batch; the actor and the receiver cannot
  rcases hlabel with ⟨rfl, rfl⟩ | ⟨rfl, rfl⟩ | ⟨rfl, rfl⟩
  · simp only [Spares, hstate] at hspares
    refine ⟨hdelivers.step hspares hstep, hcompletes.poll hstep, ?_⟩
    rw [BatchStreamState.closed_poll hstep]
    exact hclosed
  · refine ⟨hdelivers.step (by simp [BatchStreamState.Spares]) hstep,
      hcompletes.runActor hstep, ?_⟩
    rw [(BatchStreamState.sent_runActor hstep).2.2.2]
    exact hclosed
  · have hdelivers' := hdelivers.step (a := .receive) (by simp [BatchStreamState.Spares]) hstep
    simp only [BatchStreamState.step] at hstep
    split at hstep
    · simp at hstep
    · obtain rfl := Option.some.inj hstep
      exact ⟨hdelivers', ⟨hcompletes.asks, hcompletes.asked, hcompletes.exited,
        hcompletes.completed⟩, hclosed⟩

theorem Lossless.step (h : Lossless streams s) (hsound : Sound streams s)
    (hok : ∀ stream ∈ streams, ∀ error, .error error ∉ stream.1)
    (hspares : s.Spares label) (hstep : s.step label = some t) : Lossless streams t := by
  have hfeeds' := hsound.feeds.step hstep
  cases steps_of_step hstep with
  | detection hgroup hgroupStep =>
    exact h.detection hsound.feeds hfeeds' hok hspares hgroup hgroupStep
  | arrive hsubscribed hitem harrive => exact h.arrive hsound.feeds hitem harrive
  | close hsubscribed hexhausted hclose => exact h.close ⟨hsubscribed, hexhausted⟩ hclose
  | batch hlabel hsubscribed hstate hbatch => exact h.batch hlabel hspares hstate hbatch

/-! ### What was sent -/

/-- Everything that a detector had to say about the chunks of its stream has been taken. -/
theorem Lossless.taken_eq (h : Lossless streams s) (hfeeds : Feeds streams s)
    (hsettled : Settled s) (hchunks : ∀ stream ∈ streams, stream.1 = chunks.map .ok)
    {source : Source} (hsource : source ∈ sources streams) :
    ((s.taken source).filterMap Except.toOption).map (·.2.1) = chunks := by
  obtain ⟨stream, hstream, hlt⟩ := mem_sources_iff.mp hsource
  obtain ⟨group, hgroup⟩ : ∃ group, s.groups[source.1]? = some group := by
    have hlength := hfeeds.groups.length_eq
    exact ⟨_, List.getElem?_eq_getElem (hlength ▸ (List.getElem?_eq_some_iff.mp hstream).1)⟩
  have hfollows := hfeeds.follows hstream hgroup
  -- the detector is subscribed, and its task has ended
  obtain ⟨d, hd⟩ : ∃ d, group.detectors[source.2]? = some d := by
    have hnone := hfollows.unsubscribed
      (subscribed_iff.mp hsettled.1 group (List.mem_of_getElem? hgroup))
    have hlength := hfollows.length_eq
    rw [hnone, List.length_nil, Nat.add_zero] at hlength
    exact ⟨_, List.getElem?_eq_getElem (hlength ▸ hlt)⟩
  obtain ⟨hended, htaken⟩ := (exhausted_iff hfeeds).mp hsettled.2 source d
    (by simp [detector, hgroup, hd])
  have hkeeps : group.Keeps stream := by
    obtain ⟨hltStream, rfl⟩ := List.getElem?_eq_some_iff.mp hstream
    obtain ⟨hltGroup, rfl⟩ := List.getElem?_eq_some_iff.mp hgroup
    exact h.groups.get hltStream hltGroup
  rw [htaken, hkeeps.chunks_eq hfollows hd hended, hchunks stream (List.mem_of_getElem? hstream),
    chunksOf, List.filterMap_map]
  exact List.filterMap_some

/-- With a single detector, its stream is passed on as it is. -/
theorem Lossless.forwarding_eq (h : Lossless streams s) (hsound : Sound streams s)
    (hchunks : ∀ stream ∈ streams, stream.1 = chunks.map .ok)
    {sent : List (Except Error Batch)} (htask : s.batchTask = .forwarding true sent) :
    (sent.filterMap Except.toOption).map (·.2.1) = chunks := by
  have hsettled := h.forwarding true sent htask rfl
  have hserves := hsound.serves
  rw [htask] at hserves
  cases hserves with
  | forwarding single ends running =>
    obtain ⟨source, hsource⟩ : ∃ source, sources streams = [source] :=
      List.length_eq_one_iff.mp (by rw [length_sources, single])
    rw [← map_okArrivals, ← hsound.feeds.filter_okArrivals_of_single hsource, filter_okArrivals]
    exact h.taken_eq hsound.feeds hsettled hchunks (by simp [hsource])

theorem ascending_of_chunks (hchunks : ∀ stream ∈ streams, stream.1 = chunks.map .ok)
    (hascending : chunks.Pairwise fun c c' => key c < key c') : Ascending streams := by
  intro stream hstream
  rwa [hchunks stream hstream, chunksOf, List.filterMap_map,
    show Except.toOption ∘ Except.ok = (some : Chunk → Option Chunk) from rfl, List.filterMap_some]

/-- What a batcher has popped by the time it is empty: the chunks in order. -/
theorem groups_eq_chunks {items : List (Source × StreamItem)} {calls : List (BatcherEvent Unit)}
    (hpushes : (pushes calls).map (·.2) = items.map (·.2))
    (hfrom : FromSources Chunk (sources streams) (tag calls items))
    (hascending : chunks.Pairwise fun c c' => key c < key c') (hne : sources streams ≠ [])
    (hitems : ∀ source ∈ sources streams,
      ((items.filter (·.1 = source)).map (·.2)).map (·.2.1) = chunks)
    (hempty : DetectionBatcher.isEmpty
      (runGroups (new (sources streams).length : MaxProcessedIndexBatcher) (tag calls items)).1 =
        true) :
    (runGroups (new (sources streams).length : MaxProcessedIndexBatcher)
      (tag calls items)).2.map (·.1) = chunks := by
  have haccounts := accounts (K := Chunk) (sources streams).length (tag calls items)
  have hpopped : ((runGroups (new (sources streams).length : MaxProcessedIndexBatcher)
      (tag calls items)).2.map (·.1)).Pairwise fun c c' => key c < key c' :=
    List.pairwise_map.mpr hfrom.ascends.popped
  have hnodup : ∀ {l : List Chunk}, l.Pairwise (fun c c' => key c < key c') → l.Nodup :=
    fun h => h.imp fun hlt heq => hlt.ne (congrArg key heq)
  -- a chunk that was pushed is one of the chunks of its source
  have hpushed : ∀ p ∈ items, p.2.2.1 ∈ chunks := by
    intro p hp
    have hsource := hfrom.source p (by rwa [pushes_tag hpushes])
    rw [← hitems p.1 hsource]
    exact List.mem_map_of_mem (List.mem_map_of_mem (List.mem_filter.mpr ⟨hp, by simp⟩))
  have horigin : ∀ g ∈ (runGroups (new (sources streams).length : MaxProcessedIndexBatcher)
      (tag calls items)).2, g.1 ∈ chunks := by
    intro g hg
    obtain ⟨p, hp, heq⟩ := haccounts.origin g hg
    rw [pushes_tag hpushes] at hp
    rw [heq]
    exact hpushed p hp
  refine List.Perm.eq_of_pairwise (fun _ _ _ _ hlt hlt' => absurd hlt hlt'.asymm) hpopped hascending
    ((List.perm_ext_iff_of_nodup (hnodup hpopped) (hnodup hascending)).mpr fun c => ⟨?_, ?_⟩)
  · intro hc
    obtain ⟨g, hg, rfl⟩ := List.mem_map.mp hc
    exact horigin g hg
  · intro hc
    -- some source has pushed the chunk, and nothing is left, so it was popped
    obtain ⟨source, hsource⟩ := List.exists_mem_of_ne_nil _ hne
    rw [← hitems source hsource] at hc
    obtain ⟨x, hx, rfl⟩ := List.mem_map.mp hc
    obtain ⟨p, hp, rfl⟩ := List.mem_map.mp hx
    have hpush : p.2.2.2 ∈ pushedUnder p.2.2.1 (tag calls items) := by
      rw [pushedUnder, pushes_tag hpushes]
      exact List.mem_map.mpr ⟨p, List.mem_filter.mpr ⟨(List.mem_filter.mp hp).1,
        decide_eq_true rfl⟩, rfl⟩
    rw [haccounts.place, isEmpty_iff_lists.mp hempty, List.append_nil, poppedUnder] at hpush
    obtain ⟨lists, hlists, -⟩ := List.mem_flatten.mp hpush
    obtain ⟨g, hg, rfl⟩ := List.mem_map.mp hlists
    have hg := List.mem_filter.mp hg
    have hkey : key g.1 = key p.2.2.1 := of_decide_eq_true hg.2
    have hkeys : (chunks.map key).Nodup := List.pairwise_map.mpr (hascending.imp fun hlt => hlt.ne)
    have heq : g.1 = p.2.2.1 := List.inj_on_of_nodup_map hkeys (horigin g hg.1)
      (hpushed p (List.mem_filter.mp hp).1) hkey
    exact List.mem_map.mpr ⟨g, hg.1, heq⟩

/-- With several detectors, the batcher is empty in the end, and all batches were sent. -/
theorem Lossless.batching_eq (h : Lossless streams s) (hsound : Sound streams s)
    (hchunks : ∀ stream ∈ streams, stream.1 = chunks.map .ok)
    (hascending : chunks.Pairwise fun c c' => key c < key c') (hne : sources streams ≠ [])
    {state : BatchStreamState MaxProcessedIndexBatcher} (hstate : s.batchTask = .batching state)
    (hexited : state.loop = .exited true) : state.sentBatches.map (·.2.1) = chunks := by
  obtain ⟨hdelivers, hcompletes, hclosed⟩ := h.batching state hstate
  obtain ⟨hdone, hmerged⟩ := hcompletes.completed (hcompletes.exited hexited)
  have hsettled := hclosed hdone
  obtain ⟨items, hpushes, hsublist, hfrom⟩ :=
    hsound.exists_fromSources (ascending_of_chunks hchunks hascending) hstate
  have hserves := hsound.serves
  rw [hstate] at hserves
  cases hserves with
  | batching tracks relays ends consumes =>
    obtain ⟨hempty, hmailbox⟩ := tracks.empty (by rw [hexited]; rfl)
    -- everything that has arrived was pushed
    have hall : items = s.okArrivals := by
      apply hsublist.eq_of_length
      obtain ⟨consumed, harrived, hreceived⟩ := consumes
      have hlength := congrArg List.length (map_okArrivals s)
      rw [harrived, hmerged, List.append_nil, ← hreceived, tracks.received, hexited,
        List.filterMap_eq_nil_iff.mpr hmailbox, hpushes] at hlength
      simpa [BatchLoop.inHand] using hlength.symm
    have hrun := tracks.run
    rw [runEvents_eq, Prod.mk.injEq] at hrun
    have hgroups : runGroups (new (sources streams).length : MaxProcessedIndexBatcher)
        (tag state.calls items) = runGroups (new (nDetectors streams)) state.calls := by
      rw [length_sources, runGroups, foldl_callGroup_tag hpushes]
      rfl
    have heq := groups_eq_chunks hpushes hfrom hascending hne (by
      intro source hsource
      rw [hall, filter_okArrivals]
      exact h.taken_eq hsound.feeds hsettled hchunks hsource)
      (by rw [hgroups, hrun.1]; exact hempty)
    have hsent : state.popped = state.sentBatches := by
      rw [hdelivers.sent, hexited]
      simp [BatchLoop.inFlight]
    rw [← hsent, ← hrun.2, List.map_map, ← heq, hgroups]
    rfl

/-- A run that loses nothing. -/
theorem lossless_of_exec (hchunks : ∀ stream ∈ streams, stream.1 = chunks.map .ok)
    {w : List PipelineLabel} (hspares : Meets step Spares (ContentPipeline.start streams) w)
    (hrun : exec step (ContentPipeline.start streams) w = some s) : Lossless streams s := by
  have hok : ∀ stream ∈ streams, ∀ error, .error error ∉ stream.1 := by
    intro stream hstream error herror
    rw [hchunks stream hstream] at herror
    simp at herror
  exact (exec_invariant (I := fun s => Sound streams s ∧ Lossless streams s)
    (fun _ _ _ h hspares hstep => ⟨h.1.step hstep, h.2.step h.1 hok hspares hstep⟩)
    ⟨⟨.start streams, .new _⟩, .start streams⟩ hspares hrun).2

/-- There is a batch for every chunk in the end. -/
theorem Lossless.sentChunks_eq (h : Lossless streams s) (hsound : Sound streams s)
    (hchunks : ∀ stream ∈ streams, stream.1 = chunks.map .ok)
    (hascending : chunks.Pairwise fun c c' => key c < key c') (hne : sources streams ≠ [])
    (hended : Ended s.batchTask) : s.batchTask.sentBatches.map (·.2.1) = chunks := by
  cases htask : s.batchTask with
  | forwarding stopped sent =>
    rw [htask] at hended
    obtain rfl : stopped = true := hended
    exact h.forwarding_eq hsound hchunks htask
  | batching state =>
    rw [htask] at hended
    exact h.batching_eq hsound hchunks hascending hne htask hended

end ContentPipeline

open ContentPipeline

/-- **Every chunk is answered for.** In every run that loses nothing, over chunk streams that agree
on their chunks: when the task that makes batches has ended, it has sent one batch for every chunk,
in the order of the chunks. -/
theorem pipeline_sends_every_chunk {streams : Streams} {chunks : List Chunk}
    (hchunks : ∀ stream ∈ streams, stream.1 = chunks.map .ok)
    (hascending : chunks.Pairwise fun c c' => key c < key c') (hne : sources streams ≠ [])
    {w : List PipelineLabel} {s : ContentPipeline}
    (hspares : Meets step Spares (start streams) w) (hrun : exec step (start streams) w = some s)
    (hended : Ended s.batchTask) : s.batchTask.sentBatches.map (·.2.1) = chunks :=
  (lossless_of_exec hchunks hspares hrun).sentChunks_eq (sound_of_exec hrun) hchunks hascending hne
    hended

/-- After the batches, the streams end and the loop finds the batcher empty. -/
def twoChunksToTheEnd : List PipelineLabel :=
  twoChunksRun ++ [.detection 0 .broadcast, .detection 0 (.receive 0), .detection 0 (.receive 1),
    .close, .poll, .poll, .poll, .poll, .poll, .actor, .actor, .poll]

theorem pipeline_sends_every_chunk_twoChunks :
    ∃ s, exec step (start twoChunks) twoChunksToTheEnd = some s ∧ Ended s.batchTask ∧
      s.batchTask.sentBatches.map (·.2.1) =
        [{ stop := 3, text := "Yes" }, { start := 3, stop := 7, text := " No." }] := by
  have hrun := exec_eq_some_get
    (by decide : (exec step (start twoChunks) twoChunksToTheEnd).isSome = true)
  refine ⟨_, hrun, by decide, pipeline_sends_every_chunk ?_ (by decide) (by decide) (by decide)
    hrun (by decide)⟩
  intro stream hstream
  obtain rfl := List.mem_singleton.mp hstream
  rfl

end GuardrailsOrchestrator
