import GuardrailsOrchestrator.Batcher.History
import GuardrailsOrchestrator.Config

/-!
# Draining the batcher of a streaming text request

The streaming text endpoints push the items of all requested detectors to one
`MaxProcessedIndexBatcher` that expects one list per detector on every chunk. A
detector is sent the chunks of its own configured chunker, so the batcher gets
that many lists on a chunk only if the chunkers agree.

`drains_iff` determines for which chunk sequences the batcher can be drained in
every interleaving. The request's validation does not look at this: it accepts
detectors with different chunkers, and then entries stay behind for good.
-/

namespace GuardrailsOrchestrator

open BatcherEvent KeyedBatcher

/-! ### When draining empties a batcher -/

namespace KeyedBatcher

variable {K κ ι : Type} [LinearOrder κ] [OrdKey K κ] [BatchKey K]

theorem isEmpty_drain_iff {fuel : ℕ} {b : KeyedBatcher K} (h : b.state.entries.length ≤ fuel) :
    DetectionBatcher.isEmpty (drain fuel b).2 = true ↔
      ∀ e ∈ b.state.entries, e.2.length = b.nDetectors := by
  induction fuel generalizing b with
  | zero =>
    have hnil : b.state.entries = [] := List.eq_nil_of_length_eq_zero (Nat.le_zero.mp h)
    simp [drain, DetectionBatcher.isEmpty, hnil]
  | succ fuel ih =>
    cases hready : b.readyGroup with
    | none =>
      -- the least entry is not ready, so it stays, and it is not complete either
      have hstop : (drain (fuel + 1) b).2 = b := by
        simp [drain, popBatch_of_readyGroup_none hready]
      rw [hstop, isEmpty_iff_entries]
      constructor
      · intro hnil
        simp [hnil]
      · intro hall
        cases hfirst : b.state.firstKeyValue with
        | none => simpa [OrderedMap.firstKeyValue] using hfirst
        | some g =>
          have hlen := hall g (by simp [OrderedMap.entries_eq_cons_of_firstKeyValue hfirst])
          rw [readyGroup_eq_some_iff.mpr ⟨hfirst, hlen⟩] at hready
          simp at hready
    | some g =>
      obtain ⟨hfirst, hlen⟩ := readyGroup_eq_some_iff.mp hready
      have hentries := OrderedMap.entries_eq_cons_of_firstKeyValue hfirst
      have hfuel : b.dropFirst.state.entries.length ≤ fuel := by
        rw [hentries] at h
        exact Nat.le_of_succ_le_succ h
      have hpop : (drain (fuel + 1) b).2 = (drain fuel b.dropFirst).2 := by
        simp [drain, popBatch_of_readyGroup hready]
      rw [hpop, ih hfuel, hentries]
      simp [hlen, dropFirst]

/-- Draining empties a batcher exactly when every key has one list per detector. -/
theorem isEmpty_drainAll_iff (b : KeyedBatcher K) :
    DetectionBatcher.isEmpty b.drainAll.2 = true ↔
      ∀ k, b.lists k = [] ∨ (b.lists k).length = b.nDetectors := by
  rw [drainAll, isEmpty_drain_iff le_rfl]
  constructor
  · intro h k
    by_cases hk : b.lists k = []
    · exact Or.inl hk
    · obtain ⟨k', -, hmem⟩ := exists_mem_of_lists_ne_nil hk
      exact Or.inr (h _ hmem)
  · intro h e he
    have hlists := lists_eq_of_mem (k := e.1) (b := b) he
    rcases h e.1 with hnil | hlen
    · exact absurd (hlists ▸ hnil) (b.occupied e he)
    · rw [← hlists, hlen]

/-- A history in which every key gets no list or one per detector can be drained,
whenever batches are popped in between. -/
theorem isEmpty_drainAll_of_pushedUnder {n : ℕ} {events : List (BatcherEvent ι)}
    (h : ∀ k : K, pushedUnder k events = [] ∨ (pushedUnder k events).length = n) :
    DetectionBatcher.isEmpty (runEvents (new n : KeyedBatcher K) events).1.drainAll.2 = true := by
  have haccounts := accounts (K := K) n events
  rw [runEvents_eq, isEmpty_drainAll_iff, haccounts.nDetectors]
  intro k
  by_cases hpopped : ∃ g ∈ (runGroups (new n : KeyedBatcher K) events).2, key g.1 = key k
  · obtain ⟨g, hg, hk⟩ := hpopped
    rcases Nat.eq_zero_or_pos n with rfl | hn
    · -- without detectors a group is empty, and so is everything pushed
      left
      have hnil : pushedUnder k events = [] :=
        (h k).elim id List.eq_nil_of_length_eq_zero
      have hplace := haccounts.place k
      rw [hnil, eq_comm, List.append_eq_nil_iff] at hplace
      exact hplace.2
    -- a key that was popped got all its detections, and none comes later
    · have hle : (pushedUnder k events).length ≤ n := by
        rcases h k with hnil | hlen
        · simp [hnil]
        · exact hlen.le
      exact Or.inl (haccounts.of_mem_groups hn hle hg hk).1
  · rw [haccounts.lists_eq_of_forall_ne fun g hg hk => hpopped ⟨g, hg, hk⟩]
    exact h k

theorem runGroups_map_push (b : KeyedBatcher K) (items : List (ι × StreamItem)) :
    (runGroups b (items.map fun p => BatcherEvent.push p.1 p.2)).2 = [] := by
  induction items using List.reverseRecOn with
  | nil => rfl
  | append_singleton items p ih =>
    rw [List.map_append, List.map_singleton, runGroups_append_singleton]
    exact ih

/-- A history without pops can be drained only if every key gets no list or one
per detector. -/
theorem pushedUnder_of_isEmpty_drainAll {n : ℕ} {items : List (ι × StreamItem)}
    (h : DetectionBatcher.isEmpty (runEvents (new n : KeyedBatcher K)
      (items.map fun p => BatcherEvent.push p.1 p.2)).1.drainAll.2 = true) (k : K) :
    pushedUnder k (items.map fun p => BatcherEvent.push p.1 p.2) = [] ∨
      (pushedUnder k (items.map fun p => BatcherEvent.push p.1 p.2)).length = n := by
  have haccounts := accounts (K := K) n (items.map fun p => BatcherEvent.push p.1 p.2)
  rw [runEvents_eq, isEmpty_drainAll_iff, haccounts.nDetectors] at h
  rw [← haccounts.lists_eq_of_forall_ne (k := k) (by simp [runGroups_map_push])]
  exact h k

end KeyedBatcher

/-! ### The request -/

/-- What a streaming text request for some detectors gives the batcher: every
requested detector sends one item per chunk of its own chunker, in order. -/
structure DetectorStreams (config : OrchestratorConfig)
    (detectors : IterMap DetectorId DetectorParams) (chunks : ChunkerId → List Chunk) where
  /-- What each detector sends. -/
  stream : DetectorId → List StreamItem
  /-- One item per chunk of the detector's chunker. -/
  items : ∀ d ∈ detectors.keys,
    (stream d).map (·.2.1) = ((config.getChunkerId d).map chunks).getD []
  /-- Other detectors send nothing. -/
  silent : ∀ d ∉ detectors.keys, stream d = []

section Request

variable (config : OrchestratorConfig) (detectors : IterMap DetectorId DetectorParams)
  (chunks : ChunkerId → List Chunk)

/-- Whatever the detectors find and however their items and the pops interleave, the
batcher can be drained once all streams have completed. -/
def Drains : Prop :=
  ∀ (S : DetectorStreams config detectors chunks) (events : List (BatcherEvent DetectorId)),
    Interleaves S.stream events →
      DetectionBatcher.isEmpty
        (runEvents (new detectors.size : MaxProcessedIndexBatcher) events).1.drainAll.2 = true

/-- How often a chunk is produced, over all requested detectors. Chunks are counted
as the batcher compares them. -/
def occurrences (chunk : Chunk) : ℕ :=
  (detectors.keys.map fun d =>
    (((config.getChunkerId d).map chunks).getD []).countP fun c => key c = key chunk).sum

/-- The detectors' items without detections. -/
def silentStreams : DetectorStreams config detectors chunks where
  stream d := if d ∈ detectors.keys then
    (((config.getChunkerId d).map chunks).getD []).map fun chunk => (0, chunk, []) else []
  items d hd := by simp [hd, Function.comp_def]
  silent d hd := by simp [hd]

variable {config detectors chunks}

/-- However the streams interleave, a chunk gets as many lists as it occurs. -/
theorem length_pushedUnder_eq_occurrences (S : DetectorStreams config detectors chunks)
    {events : List (BatcherEvent DetectorId)} (h : Interleaves S.stream events) (chunk : Chunk) :
    (pushedUnder chunk events).length = occurrences config detectors chunks chunk := by
  have hsource : ∀ p ∈ pushes events, p.1 ∈ detectors.keys := by
    rintro ⟨d, x⟩ hp
    by_contra hd
    -- whoever pushes was requested: the other detectors send nothing
    have hx := mem_pushes_iff.mp hp
    rw [h d, S.silent d hd] at hx
    simp at hx
  rw [pushedUnder, List.length_map, ← List.countP_eq_length_filter,
    List.countP_snd_eq_sum detectors.nodup_keys hsource, occurrences]
  refine congrArg List.sum (List.map_congr_left ?_)
  intro d hd
  rw [← S.items d hd, ← h d, delivered, List.countP_map, List.countP_map, List.countP_map]
  rfl

/-- **Draining.** A request's batcher can be drained in every interleaving exactly
when every chunk that occurs occurs once per requested detector. -/
theorem drains_iff :
    Drains config detectors chunks ↔
      ∀ chunk, occurrences config detectors chunks chunk = 0 ∨
        occurrences config detectors chunks chunk = detectors.size := by
  constructor
  · intro h chunk
    set S := silentStreams config detectors chunks
    set items := detectors.keys.flatMap fun d => (S.stream d).map fun x => (d, x) with hitems
    -- push everything first and pop only afterwards
    have hinterleaves : Interleaves S.stream (items.map fun p => BatcherEvent.push p.1 p.2) := by
      intro d
      rw [delivered, pushes_map_push, hitems, List.map_snd_filter_flatMap detectors.nodup_keys]
      split_ifs with hd
      · rfl
      · exact (S.silent d hd).symm
    have hpushed := pushedUnder_of_isEmpty_drainAll (h S _ hinterleaves) chunk
    rw [← length_pushedUnder_eq_occurrences S hinterleaves]
    exact hpushed.imp_left fun hnil => by rw [hnil, List.length_nil]
  · intro h S events hevents
    apply isEmpty_drainAll_of_pushedUnder
    intro chunk
    rw [← List.length_eq_zero_iff, length_pushedUnder_eq_occurrences S hevents]
    exact h chunk

end Request

/-- A request that the stream content endpoint accepts: the configuration was loaded,
and the requested detectors examine text contents of a chunker. -/
structure StreamContentRequest where
  config : OrchestratorConfig
  valid : config.validate = .ok ()
  detectors : IterMap DetectorId DetectorParams
  supported :
    validateDetectors detectors config.detectors [.textContents] false = .ok ()

/-- **Draining an accepted request.** Acceptance is not enough: the batcher of an
accepted request can be drained in every interleaving exactly when every chunk that
its detectors' chunkers produce occurs once per detector. -/
theorem acceptedRequest_drains_iff (r : StreamContentRequest) (chunks : ChunkerId → List Chunk) :
    Drains r.config r.detectors chunks ↔
      ∀ chunk, occurrences r.config r.detectors chunks chunk = 0 ∨
        occurrences r.config r.detectors chunks chunk = r.detectors.size :=
  drains_iff

/-- Two detectors on the same text, one per sentence and one per clause. -/
def twoChunkers : StreamContentRequest where
  config :=
    { chunkers := some
        ⟨[("sentence", ⟨{ hostname := "localhost" }⟩), ("clause", ⟨{ hostname := "localhost" }⟩)],
          by decide⟩
      detectors :=
        ⟨[("hap", ⟨{ hostname := "localhost" }, none, "sentence", 1, .textContents⟩),
          ("pii", ⟨{ hostname := "localhost" }, none, "clause", 1, .textContents⟩)], by decide⟩ }
  valid := by decide
  detectors := ⟨[("hap", .empty), ("pii", .empty)], by decide⟩
  supported := by decide

/-- The sentence chunker finds one chunk where the clause chunker finds two. -/
def twoChunkersChunks (chunkerId : ChunkerId) : List Chunk :=
  if chunkerId = "sentence" then [{ stop := 9, text := "Yes, but." }]
  else [{ stop := 4, text := "Yes," }, { start := 4, stop := 9, text := " but." }]

/-- Accepted, but the sentence waits for the detector that only sees clauses. -/
theorem acceptedRequest_not_drains_twoChunkers :
    ¬ ∀ (r : StreamContentRequest) (chunks : ChunkerId → List Chunk),
      Drains r.config r.detectors chunks := by
  intro h
  have hsentence := drains_iff.mp (h twoChunkers twoChunkersChunks) { stop := 9 }
  revert hsentence
  decide

end GuardrailsOrchestrator
