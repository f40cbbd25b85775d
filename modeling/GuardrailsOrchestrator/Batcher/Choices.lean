import GuardrailsOrchestrator.Batcher.History
import GuardrailsOrchestrator.Lib.Collections
import Mathlib.Data.Fintype.Card
import Mathlib.Data.List.FinRange

/-!
# Batches of several choices

`n` detectors examine the chunks of any number of choices. Each detector sees the
chunks of a choice in ascending order, and all these streams are pushed to one
`CompletionBatcher` in some interleaving, with pops at any point in between.

The batcher only counts lists under its least key. That a choice's batches
nevertheless come out in order, each once and each with one list from every
detector, follows from the order within each stream: when the last detector has
reached a chunk, every detector has already delivered all earlier chunks of that
choice, and those have smaller keys.
-/

namespace GuardrailsOrchestrator

open BatcherEvent KeyedBatcher

/-- The streams of `n` detectors over the chunk sequences of all choices: each
(detector, choice) stream has one item per chunk of the choice, in order. -/
structure ChoiceStreams (n : ℕ) where
  /-- The chunk sequence of every choice. -/
  chunks : ChoiceIndex → List Chunk
  /-- The chunks of a choice ascend strictly. -/
  ascending : ∀ c, (chunks c).Pairwise fun x y => key x < key y
  /-- What each detector sends for each choice. -/
  stream : Fin n × ChoiceIndex → List StreamItem
  /-- One item per chunk of the choice, in the order of the chunks. -/
  items : ∀ i, (stream i).map (fun x => (x.1, x.2.1)) = (chunks i.2).map fun chunk => (i.2, chunk)

namespace ChoiceStreams

variable {n : ℕ} (S : ChoiceStreams n)

/-- The history has delivered part of every stream. -/
def Delivers (events : List (BatcherEvent (Fin n × ChoiceIndex))) : Prop :=
  ∀ i, delivered i events <+: S.stream i

/-- The detectors that have pushed a list on a chunk of a choice, in push order. -/
def detectorsOf (c : ChoiceIndex) (chunk : Chunk)
    (events : List (BatcherEvent (Fin n × ChoiceIndex))) : List (Fin n) :=
  ((pushes events).filter fun p => Under (chunk, c) p.2).map (·.1.1)

variable {S} {events : List (BatcherEvent (Fin n × ChoiceIndex))} {i : Fin n × ChoiceIndex}
  {x : StreamItem} {c : ChoiceIndex} {chunk chunk' : Chunk} {d : Fin n}

theorem under_iff : Under (chunk, c) x ↔ key x.2.1 = key chunk ∧ x.1 = c :=
  key_pair_eq_iff

theorem Delivers.of_append {rest : List (BatcherEvent (Fin n × ChoiceIndex))}
    (h : S.Delivers (events ++ rest)) : S.Delivers events := fun i => by
  refine List.IsPrefix.trans ?_ (h i)
  rw [delivered_append]
  exact List.prefix_append _ _

theorem delivers_of_interleaves (h : Interleaves S.stream events) : S.Delivers events :=
  fun i => h i ▸ List.prefix_refl _

theorem nodup_keys (c : ChoiceIndex) : ((S.chunks c).map key).Nodup :=
  List.pairwise_map.mpr ((S.ascending c).imp fun h => h.ne)

theorem eq_of_key_eq (hchunk : chunk ∈ S.chunks c) (hchunk' : chunk' ∈ S.chunks c)
    (h : key chunk = key chunk') : chunk = chunk' :=
  List.inj_on_of_nodup_map (nodup_keys c) hchunk hchunk' h

theorem mem_stream (hx : x ∈ S.stream i) : x.1 = i.2 ∧ x.2.1 ∈ S.chunks i.2 := by
  have hmem : (x.1, x.2.1) ∈ (S.stream i).map fun x => (x.1, x.2.1) :=
    List.mem_map_of_mem hx
  rw [S.items] at hmem
  obtain ⟨chunk, hchunk, heq⟩ := List.mem_map.mp hmem
  simp only [Prod.mk.injEq] at heq
  exact ⟨heq.1.symm, heq.2 ▸ hchunk⟩

/-- Items pushed by a source are on chunks of its choice. -/
theorem Delivers.mem_pushes (h : S.Delivers events) (hx : (i, x) ∈ pushes events) :
    x.1 = i.2 ∧ x.2.1 ∈ S.chunks i.2 :=
  mem_stream ((h i).subset (mem_pushes_iff.mp hx))

/-- A stream visits the chunks of its choice in ascending order. -/
theorem pairwise_stream (i : Fin n × ChoiceIndex) :
    (S.stream i).Pairwise fun x y => key x.2.1 < key y.2.1 := by
  have hmap : (S.stream i).map (fun x => x.2.1) = S.chunks i.2 := by
    simpa [Function.comp_def] using congrArg (List.map Prod.snd) (S.items i)
  have hascending := S.ascending i.2
  rw [← hmap, List.pairwise_map] at hascending
  exact hascending

theorem mem_detectorsOf (h : S.Delivers events) :
    d ∈ detectorsOf c chunk events ↔ ∃ x ∈ delivered (d, c) events, key x.2.1 = key chunk := by
  constructor
  · intro hd
    obtain ⟨⟨⟨d', c'⟩, x⟩, hp, rfl⟩ := List.mem_map.mp hd
    simp only [List.mem_filter, decide_eq_true_eq, under_iff] at hp
    obtain rfl : c = c' := hp.2.2.symm.trans (h.mem_pushes hp.1).1
    exact ⟨x, mem_pushes_iff.mp hp.1, hp.2.1⟩
  · rintro ⟨x, hx, hkey⟩
    have hp := mem_pushes_iff.mpr hx
    exact List.mem_map.mpr ⟨((d, c), x), by
      simp [hp, under_iff, hkey, (h.mem_pushes hp).1], rfl⟩

/-- No detector pushes two lists on one chunk of a choice. -/
theorem nodup_detectorsOf (h : S.Delivers events) : (detectorsOf c chunk events).Nodup := by
  -- a source sends ascending chunks, so no source has two items under one key
  have hsources : (((pushes events).filter fun p => Under (chunk, c) p.2).map (·.1)).Nodup := by
    apply List.nodup_map_fst_filter
    intro i
    refine ((pairwise_stream i).sublist (h i).sublist).imp fun hlt hunder => hlt.ne ?_
    exact (under_iff.mp hunder.1).1.trans (under_iff.mp hunder.2).1.symm
  have hfst : detectorsOf c chunk events =
      (((pushes events).filter fun p => Under (chunk, c) p.2).map (·.1)).map (·.1) := by
    simp [detectorsOf]
  rw [hfst]
  refine hsources.map_on fun i hi j hj hij => Prod.ext hij ?_
  -- two sources of the same detector under this key are the same: the key fixes the choice
  have hchoice : ∀ i' ∈ ((pushes events).filter fun p => Under (chunk, c) p.2).map (·.1),
      i'.2 = c := by
    intro i' hi'
    obtain ⟨⟨i', x⟩, hp, rfl⟩ := List.mem_map.mp hi'
    simp only [List.mem_filter, decide_eq_true_eq, under_iff] at hp
    exact (h.mem_pushes hp.1).1.symm.trans hp.2.2
  rw [hchoice i hi, hchoice j hj]

theorem length_pushedUnder :
    (pushedUnder (chunk, c) events).length = (detectorsOf c chunk events).length := by
  simp [pushedUnder, detectorsOf]

theorem length_pushedUnder_le (h : S.Delivers events) :
    (pushedUnder (chunk, c) events).length ≤ n := by
  rw [length_pushedUnder]
  simpa using (nodup_detectorsOf h).length_le_card

/-- Once there are `n` lists on a chunk, every detector has pushed one. -/
theorem mem_detectorsOf_of_length (h : S.Delivers events)
    (hlen : (pushedUnder (chunk, c) events).length = n) (d : Fin n) :
    d ∈ detectorsOf c chunk events := by
  have hcard : (detectorsOf c chunk events).toFinset = Finset.univ := by
    refine Finset.eq_univ_of_card _ ?_
    rw [List.toFinset_card_of_nodup (nodup_detectorsOf h), ← length_pushedUnder, hlen,
      Fintype.card_fin]
  exact List.mem_toFinset.mp (hcard ▸ Finset.mem_univ d)

/-- A detector that has reached a chunk has pushed all earlier chunks of the choice. -/
theorem mem_detectorsOf_of_lt (h : S.Delivers events) (hd : d ∈ detectorsOf c chunk events)
    (hchunk' : chunk' ∈ S.chunks c) (hlt : key chunk' < key chunk) :
    d ∈ detectorsOf c chunk' events := by
  obtain ⟨x, hx, hkey⟩ := (mem_detectorsOf h).mp hd
  have hmem : (c, chunk') ∈ (S.stream (d, c)).map fun x => (x.1, x.2.1) := by
    rw [S.items]
    exact List.mem_map_of_mem hchunk'
  obtain ⟨y, hy, heq⟩ := List.mem_map.mp hmem
  simp only [Prod.mk.injEq] at heq
  refine (mem_detectorsOf h).mpr ⟨y, ?_, by rw [heq.2]⟩
  obtain ⟨rest, hrest⟩ := h (d, c)
  rw [← hrest, List.mem_append] at hy
  -- had `y` not been delivered yet, it would come after `x` in the stream
  apply hy.resolve_right
  intro hy
  have hpair := pairwise_stream (S := S) (d, c)
  rw [← hrest, List.pairwise_append] at hpair
  have hle := hpair.2.2 x hx y hy
  rw [hkey, heq.2] at hle
  exact hle.not_gt hlt

/-! ### The order of a choice's batches -/

/-- The chunks of a choice that have been popped, in the order of the pops. -/
def poppedChunks (c : ChoiceIndex)
    (groups : List ((Chunk × ChoiceIndex) × List (List Detection))) : List Chunk :=
  (groups.filter (·.1.2 = c)).map (·.1.1)

/-- The groups popped from the batcher of `n` detectors in a history. -/
abbrev groupsOf (events : List (BatcherEvent (Fin n × ChoiceIndex))) :
    List ((Chunk × ChoiceIndex) × List (List Detection)) :=
  (runGroups (new n : CompletionBatcher) events).2

theorem mem_poppedChunks {groups : List ((Chunk × ChoiceIndex) × List (List Detection))} :
    chunk ∈ poppedChunks c groups ↔ ∃ ls, ((chunk, c), ls) ∈ groups := by
  simp [poppedChunks]

/-- Everything filed or popped is on a chunk of its choice. -/
theorem mem_chunks_of_push (h : S.Delivers events)
    (hpush : ∃ p ∈ pushes events, (chunk, c) = BatchKey.ofInput p.2.1 p.2.2.1) :
    chunk ∈ S.chunks c := by
  obtain ⟨⟨i, x⟩, hp, heq⟩ := hpush
  obtain ⟨hchoice, hchunk⟩ := h.mem_pushes hp
  obtain ⟨rfl, rfl⟩ : chunk = x.2.1 ∧ c = x.1 := by simpa [BatchKey.ofInput] using heq
  exact hchoice ▸ hchunk

/-- A chunk of a choice that is not among the popped ones is under no popped key. -/
theorem key_ne_of_not_mem_poppedChunks (h : S.Delivers events) (hchunk : chunk ∈ S.chunks c)
    (hnot : chunk ∉ poppedChunks c (groupsOf events)) :
    ∀ g ∈ groupsOf events, key g.1 ≠ key (chunk, c) := by
  rintro ⟨⟨chunk', c'⟩, ls⟩ hg hkey
  obtain ⟨hkey', rfl⟩ := key_pair_eq_iff.mp hkey
  have hchunk' := mem_chunks_of_push h ((accounts n events).origin _ hg)
  obtain rfl := eq_of_key_eq hchunk' hchunk hkey'
  exact hnot (mem_poppedChunks.mpr ⟨ls, hg⟩)

/-- A chunk whose group is ready has `n` lists on it and was not popped before. -/
theorem ready_chunk (hn : 0 < n) (h : S.Delivers events) {ls : List (List Detection)}
    (hready : (runGroups (new n : CompletionBatcher) events).1.readyGroup = some ((chunk, c), ls)) :
    chunk ∈ S.chunks c ∧ chunk ∉ poppedChunks c (groupsOf events) ∧
      (pushedUnder (chunk, c) events).length = n := by
  have haccounts := accounts (K := Chunk × ChoiceIndex) n events
  obtain ⟨hfirst, hlen⟩ := readyGroup_eq_some_iff.mp hready
  have hmem : ((chunk, c), ls) ∈
      (runGroups (new n : CompletionBatcher) events).1.state.entries := by
    simp [OrderedMap.entries_eq_cons_of_firstKeyValue hfirst]
  have hlists := lists_eq_of_mem hmem
  have hls : ls.length = n := hlen.trans haccounts.nDetectors
  have hchunk := mem_chunks_of_push h (haccounts.filed _ hmem)
  have hfresh : chunk ∉ poppedChunks c (groupsOf events) := by
    intro hpopped
    obtain ⟨ls', hg⟩ := mem_poppedChunks.mp hpopped
    -- a popped chunk has no list left to be ready with
    have hnil := (haccounts.of_mem_groups hn (length_pushedUnder_le h) hg rfl).1
    rw [hlists] at hnil
    simp [hnil] at hls
    omega
  refine ⟨hchunk, hfresh, ?_⟩
  rw [← haccounts.lists_eq_of_forall_ne (key_ne_of_not_mem_poppedChunks h hchunk hfresh),
    hlists, hls]

/-- The ready chunk is the next one of its choice. Otherwise every detector would
already have pushed the next one, whose key is smaller and still filed. -/
theorem poppedChunks_append_ready (hn : 0 < n) (h : S.Delivers events)
    (hold : poppedChunks c (groupsOf events) <+: S.chunks c) {ls : List (List Detection)}
    (hready : (runGroups (new n : CompletionBatcher) events).1.readyGroup = some ((chunk, c), ls)) :
    poppedChunks c (groupsOf events) ++ [chunk] <+: S.chunks c := by
  have haccounts := accounts (K := Chunk × ChoiceIndex) n events
  obtain ⟨hchunk, hfresh, hpushed⟩ := ready_chunk hn h hready
  obtain ⟨rest, hrest⟩ := hold
  have hinrest : chunk ∈ rest := by
    rw [← hrest, List.mem_append] at hchunk
    exact hchunk.resolve_left hfresh
  cases rest with
  | nil => simp at hinrest
  | cons next rest =>
    rcases List.mem_cons.mp hinrest with rfl | hlater
    · exact ⟨rest, by simp [hrest]⟩
    · exfalso
      have hascending := S.ascending c
      rw [← hrest, List.pairwise_append, List.pairwise_cons] at hascending
      have hlt : key next < key chunk := hascending.2.1.1 chunk hlater
      have hnext : next ∈ S.chunks c := by simp [← hrest]
      have hnotpopped : next ∉ poppedChunks c (groupsOf events) := fun hpopped =>
        (hascending.2.2 next hpopped next (by simp)).false
      -- some detector has pushed the later chunk, hence also the next one
      have hdetector := mem_detectorsOf_of_lt h
        (mem_detectorsOf_of_length h hpushed ⟨0, hn⟩) hnext hlt
      have hne : (runGroups (new n : CompletionBatcher) events).1.lists (next, c) ≠ [] := by
        rw [haccounts.lists_eq_of_forall_ne (key_ne_of_not_mem_poppedChunks h hnext hnotpopped),
          ← List.length_pos_iff, length_pushedUnder]
        exact List.length_pos_of_mem hdetector
      -- so the next chunk has an entry, and the first key of the map cannot be that of a later one
      obtain ⟨k, hkey, hentry⟩ := exists_mem_of_lists_ne_nil hne
      have hle := OrderedMap.firstKeyValue_le (readyGroup_eq_some_iff.mp hready).1 hentry
      rw [hkey, key_pair, key_pair] at hle
      exact hle.not_gt (Prod.Lex.toLex_lt_toLex.mpr (Or.inl hlt))

/-- The popped chunks of a choice are an initial part of its chunk sequence. -/
theorem poppedChunks_prefix (hn : 0 < n) (h : S.Delivers events) (c : ChoiceIndex) :
    poppedChunks c (groupsOf events) <+: S.chunks c := by
  induction events using List.reverseRecOn with
  | nil => exact List.nil_prefix
  | append_singleton events e ih =>
    have hold := ih h.of_append
    rw [groupsOf, runGroups_append_singleton]
    cases e with
    | push source x => exact hold
    | popBatch =>
      cases hready : (runGroups (new n : CompletionBatcher) events).1.readyGroup with
      | none => simpa [callGroup, hready] using hold
      | some g =>
        obtain ⟨⟨chunk, c'⟩, ls⟩ := g
        by_cases hc : c' = c
        · subst hc
          simpa [callGroup, hready, poppedChunks] using
            poppedChunks_append_ready hn h.of_append hold hready
        · simpa [callGroup, hready, poppedChunks, hc] using hold

/-! ### Complete histories -/

/-- Once all streams are delivered, there are exactly `n` lists on every chunk. -/
theorem detectorsOf_perm (h : Interleaves S.stream events) (hchunk : chunk ∈ S.chunks c) :
    (detectorsOf c chunk events).Perm (List.finRange n) := by
  have hdelivers := delivers_of_interleaves h
  refine (List.perm_ext_iff_of_nodup (nodup_detectorsOf hdelivers) (List.nodup_finRange n)).mpr
    fun d => ⟨fun _ => List.mem_finRange d, fun _ => ?_⟩
  have hmem : (c, chunk) ∈ (S.stream (d, c)).map fun x => (x.1, x.2.1) := by
    rw [S.items]
    exact List.mem_map_of_mem hchunk
  obtain ⟨x, hx, heq⟩ := List.mem_map.mp hmem
  simp only [Prod.mk.injEq] at heq
  exact (mem_detectorsOf hdelivers).mpr ⟨x, h (d, c) ▸ hx, by rw [heq.2]⟩

theorem length_pushedUnder_of_interleaves (h : Interleaves S.stream events)
    (hchunk : chunk ∈ S.chunks c) : (pushedUnder (chunk, c) events).length = n := by
  rw [length_pushedUnder, (detectorsOf_perm h hchunk).length_eq, List.length_finRange]

/-- If all streams are delivered and no batch is ready, the batcher is empty. -/
theorem isEmpty_of_not_ready (hn : 0 < n) (h : Interleaves S.stream events)
    (hready : (runGroups (new n : CompletionBatcher) events).1.readyGroup = none) :
    DetectionBatcher.isEmpty (runGroups (new n : CompletionBatcher) events).1 = true := by
  have haccounts := accounts (K := Chunk × ChoiceIndex) n events
  have hdelivers := delivers_of_interleaves h
  refine isEmpty_iff_entries.mpr ?_
  cases hfirst : (runGroups (new n : CompletionBatcher) events).1.state.firstKeyValue with
  | none => simpa [OrderedMap.firstKeyValue] using hfirst
  | some e =>
    exfalso
    obtain ⟨⟨chunk, c⟩, ls⟩ := e
    have hmem : ((chunk, c), ls) ∈
        (runGroups (new n : CompletionBatcher) events).1.state.entries := by
      simp [OrderedMap.entries_eq_cons_of_firstKeyValue hfirst]
    have hlists := lists_eq_of_mem hmem
    have hchunk := mem_chunks_of_push hdelivers (haccounts.filed _ hmem)
    have hfresh : ∀ g ∈ groupsOf events, key g.1 ≠ key (chunk, c) := by
      intro g hg hkey
      have hnil := (haccounts.of_mem_groups hn (length_pushedUnder_le hdelivers) hg hkey).1
      exact KeyedBatcher.occupied _ _ hmem (hlists ▸ hnil)
    -- nothing on the chunk was popped, so all its lists are in the entry
    have hlen : ls.length = n := by
      rw [← hlists, haccounts.lists_eq_of_forall_ne hfresh,
        length_pushedUnder_of_interleaves h hchunk]
    rw [readyGroup_eq_some_iff.mpr ⟨hfirst, hlen.trans haccounts.nDetectors.symm⟩] at hready
    simp at hready

/-- If all streams are delivered and the batcher is empty, every chunk was popped. -/
theorem poppedChunks_eq (hn : 0 < n) (h : Interleaves S.stream events)
    (hempty : DetectionBatcher.isEmpty (runGroups (new n : CompletionBatcher) events).1 = true)
    (c : ChoiceIndex) : poppedChunks c (groupsOf events) = S.chunks c := by
  have haccounts := accounts (K := Chunk × ChoiceIndex) n events
  have hdelivers := delivers_of_interleaves h
  obtain ⟨rest, hrest⟩ := poppedChunks_prefix hn hdelivers c
  cases rest with
  | nil => simpa using hrest
  | cons next rest =>
    exfalso
    have hnext : next ∈ S.chunks c := by simp [← hrest]
    have hnodup := nodup_keys (S := S) c
    rw [← hrest, List.map_append, List.map_cons, List.nodup_append] at hnodup
    have hnot : next ∉ poppedChunks c (groupsOf events) := fun hpopped =>
      hnodup.2.2 _ (List.mem_map_of_mem hpopped) _ (by simp) rfl
    -- a chunk that was not popped would still have its `n` lists filed
    have hlists := haccounts.lists_eq_of_forall_ne
      (key_ne_of_not_mem_poppedChunks hdelivers hnext hnot)
    have hlen := length_pushedUnder_of_interleaves h hnext
    rw [← hlists, isEmpty_iff_lists.mp hempty, List.length_nil] at hlen
    omega

/-- The batches of a choice, with the lists pushed on their chunks. -/
theorem filter_batches (hn : 0 < n) (h : S.Delivers events) (c : ChoiceIndex) :
    ((groupsOf events).map batchOf).filter (·.1 = c) =
      (poppedChunks c (groupsOf events)).map fun chunk =>
        (c, chunk, (pushedUnder (chunk, c) events).flatten) := by
  have haccounts := accounts (K := Chunk × ChoiceIndex) n events
  rw [List.filter_map, poppedChunks, List.map_map]
  change ((groupsOf events).filter fun g => g.1.2 = c).map batchOf = _
  apply List.map_congr_left
  intro g hg
  obtain ⟨⟨chunk, c'⟩, ls⟩ := g
  simp only [List.mem_filter, decide_eq_true_eq] at hg
  obtain ⟨hmem, rfl⟩ := hg
  have hls := (haccounts.of_mem_groups hn (length_pushedUnder_le h) hmem rfl).2
  simp only [Function.comp_apply, batchOf, BatchKey.toBatch, ← hls]

end ChoiceStreams

open ChoiceStreams in
/-- **Batches of several choices.** For every interleaving of the streams of `n`
detectors over any number of choices, with any pops in between and popping on until
nothing is ready: the batcher ends empty, the batches of each choice are its chunks
in order, each once, and the detections of a batch are the lists pushed on its
chunk, in push order, one from every detector. -/
theorem completionBatcher_batches {n : ℕ} (hn : 0 < n) (S : ChoiceStreams n)
    {events : List (BatcherEvent (Fin n × ChoiceIndex))} (h : Interleaves S.stream events) :
    DetectionBatcher.isEmpty
        (runEvents (new n : CompletionBatcher) events).1.drainAll.2 = true ∧
      ∀ c, ((runEvents (new n : CompletionBatcher) events).2 ++
            (runEvents (new n : CompletionBatcher) events).1.drainAll.1).filter (·.1 = c) =
          (S.chunks c).map (fun chunk => (c, chunk, (pushedUnder (chunk, c) events).flatten)) ∧
        ∀ chunk ∈ S.chunks c, (detectorsOf c chunk events).Perm (List.finRange n) := by
  -- the closing pops are part of one longer history, which delivers the same streams
  set pops := List.replicate (runEvents (new n : CompletionBatcher) events).1.state.entries.length
    (BatcherEvent.popBatch : BatcherEvent (Fin n × ChoiceIndex)) with hpops
  have hpushes : pushes (events ++ pops) = pushes events := by simp [hpops]
  have hall : Interleaves S.stream (events ++ pops) := fun i => by
    rw [delivered, hpushes]
    exact h i
  have hrun := runEvents_append_drainAll (new n : CompletionBatcher) events
  rw [← hpops, runEvents_eq, Prod.mk.injEq] at hrun
  obtain ⟨hbatcher, hbatches⟩ := hrun
  have hready : (runGroups (new n : CompletionBatcher) (events ++ pops)).1.readyGroup = none := by
    rw [hbatcher, ← popBatch_fst_eq_none_iff]
    exact popBatch_drainAll _
  have hempty := isEmpty_of_not_ready hn hall hready
  refine ⟨hbatcher ▸ hempty, fun c => ⟨?_, fun chunk hchunk => detectorsOf_perm h hchunk⟩⟩
  rw [← hbatches, filter_batches hn (delivers_of_interleaves hall), poppedChunks_eq hn hall hempty]
  simp only [pushedUnder, hpushes]

/-- Two detectors over two choices, whose second detector lags behind. -/
def twoChoices : ChoiceStreams 2 where
  chunks
    | 0 => [{ stop := 3, text := "Hi." },
        { inputStartIndex := 1, inputEndIndex := 2, start := 3, stop := 7 }]
    | 1 => [{ inputEndIndex := 1, stop := 5 }]
    | _ => []
  ascending
    | 0 => by decide
    | 1 => by decide
    | _ + 2 => by simp
  stream i :=
    match i.2 with
    | 0 => [(0, { stop := 3, text := "Hi." }, []),
        (0, { inputStartIndex := 1, inputEndIndex := 2, start := 3, stop := 7 }, [])]
    | 1 => [(1, { inputEndIndex := 1, stop := 5 }, [])]
    | _ => []
  items
    | (_, 0) => rfl
    | (_, 1) => rfl
    | (_, _ + 2) => rfl

/-- The first detector runs ahead, a pop comes too early, and the second catches up. -/
def twoChoicesHistory : List (BatcherEvent (Fin 2 × ChoiceIndex)) :=
  [.push (0, 0) (0, { stop := 3, text := "Hi." }, []),
    .push (0, 0) (0, { inputStartIndex := 1, inputEndIndex := 2, start := 3, stop := 7 }, []),
    .popBatch,
    .push (1, 0) (0, { stop := 3, text := "Hi." }, []),
    .push (0, 1) (1, { inputEndIndex := 1, stop := 5 }, []),
    .popBatch,
    .push (1, 0) (0, { inputStartIndex := 1, inputEndIndex := 2, start := 3, stop := 7 }, []),
    .push (1, 1) (1, { inputEndIndex := 1, stop := 5 }, [])]

theorem twoChoicesHistory_interleaves : Interleaves twoChoices.stream twoChoicesHistory
  | (0, 0) => by decide
  | (1, 0) => by decide
  | (0, 1) => by decide
  | (1, 1) => by decide
  | (0, c + 2) => by simp [delivered, pushes, twoChoicesHistory, twoChoices]
  | (1, c + 2) => by simp [delivered, pushes, twoChoicesHistory, twoChoices]

theorem completionBatcher_batches_twoChoices :
    DetectionBatcher.isEmpty
        (runEvents (new 2 : CompletionBatcher) twoChoicesHistory).1.drainAll.2 = true ∧
      ∀ c, ((runEvents (new 2 : CompletionBatcher) twoChoicesHistory).2 ++
            (runEvents (new 2 : CompletionBatcher) twoChoicesHistory).1.drainAll.1).filter
            (·.1 = c) =
          (twoChoices.chunks c).map (fun chunk =>
            (c, chunk, (pushedUnder (chunk, c) twoChoicesHistory).flatten)) ∧
        ∀ chunk ∈ twoChoices.chunks c,
          (ChoiceStreams.detectorsOf c chunk twoChoicesHistory).Perm (List.finRange 2) :=
  completionBatcher_batches (by decide) twoChoices twoChoicesHistory_interleaves

end GuardrailsOrchestrator
