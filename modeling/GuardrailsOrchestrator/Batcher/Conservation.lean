import GuardrailsOrchestrator.Batcher.History

/-!
# Batchers lose nothing

What holds of a batcher after any history of calls, whatever is pushed and whenever a batch is
popped. This includes histories that no batch stream makes: more lists under a key than there are
detectors, or a key that is pushed again after its batch has been popped.

## Main definitions

* `KeyedBatcher.detections` — the detections a batcher still has
* `KeyedBatcher.Conserves` — where the detections of a history are, and what can be popped next

## Main results

* `batchers_conserve` — both batchers conserve detections in every history
-/

namespace GuardrailsOrchestrator

open BatcherEvent

/-- Detections are filed under the key of a batch by the label of the batch. -/
class LawfulBatchKey (K : Type) [BatchKey K] : Prop where
  ofInput_toBatch : ∀ k : K, BatchKey.ofInput (BatchKey.toBatch k).1 (BatchKey.toBatch k).2 = k

instance : LawfulBatchKey Chunk := ⟨fun _ => rfl⟩

instance : LawfulBatchKey (Chunk × ChoiceIndex) := ⟨fun _ => rfl⟩

/-- The detections pushed in a history. -/
def BatcherEvent.pushedDetections {ι : Type} (events : List (BatcherEvent ι)) : List Detection :=
  (pushes events).flatMap fun p => p.2.2.2

/-- The detections of some batches. -/
def poppedDetections (batches : List Batch) : List Detection := batches.flatMap (·.2.2)

namespace KeyedBatcher

section Detections

variable {K κ : Type} [LinearOrder κ] [OrdKey K κ]

/-- The detections of some entries. -/
def entryDetections (entries : List (K × List (List Detection))) : List Detection :=
  entries.flatMap fun e => e.2.flatten

/-- The detections a batcher still has. -/
def detections (b : KeyedBatcher K) : List Detection := entryDetections b.state.entries

variable {b : KeyedBatcher K}

/-- Entries in another order have the same detections. -/
theorem entryDetections_perm {l l' : List (K × List (List Detection))} (h : l.Perm l') :
    (entryDetections l).Perm (entryDetections l') :=
  h.flatMap_right _

theorem entryDetections_cons (k : K) (lists : List (List Detection))
    (rest : List (K × List (List Detection))) :
    entryDetections ((k, lists) :: rest) = lists.flatten ++ entryDetections rest := rfl

/-- A push adds its detections. -/
theorem detections_file (k : K) (detections : List Detection) :
    (b.file k detections).detections.Perm (b.detections ++ detections) := by
  rcases OrderedMap.alter_perm b.state k (addList detections) with
    ⟨-, hnew⟩ | ⟨k', lists, rest, -, hold, hnew⟩
  · have hentries := entryDetections_perm hnew
    rw [entryDetections_cons, addList, List.flatten_singleton] at hentries
    exact hentries.trans List.perm_append_comm
  · -- the entry that is extended is moved to the front and back
    have hbefore := entryDetections_perm hold
    have hafter := entryDetections_perm hnew
    rw [entryDetections_cons] at hbefore hafter
    rw [addList, List.flatten_append, List.flatten_singleton] at hafter
    calc (b.file k detections).detections
      _ |>.Perm (lists.flatten ++ detections ++ entryDetections rest) := hafter
      _ |>.Perm (lists.flatten ++ (entryDetections rest ++ detections)) := by
        rw [List.append_assoc]
        exact List.perm_append_comm.append_left _
      _ |>.Perm (b.detections ++ detections) := by
        rw [← List.append_assoc]
        exact hbefore.symm.append_right _

/-- A pop takes the detections of the least entry. -/
theorem detections_dropFirst {e : K × List (List Detection)}
    (h : b.state.firstKeyValue = some e) :
    b.detections = e.2.flatten ++ b.dropFirst.detections := by
  rw [detections, OrderedMap.entries_eq_cons_of_firstKeyValue h]
  rfl

end Detections

section Conservation

variable {K κ ι : Type} [LinearOrder κ] [OrdKey K κ] [BatchKey K] {n : ℕ}
  {events : List (BatcherEvent ι)} {b : KeyedBatcher K}

/-- One call moves detections into the batcher or out of it. -/
theorem callEvent_detections (s : KeyedBatcher K × List Batch) (e : BatcherEvent ι) :
    (poppedDetections (callEvent s e).2 ++ (callEvent s e).1.detections).Perm
      (poppedDetections s.2 ++ s.1.detections ++ pushedDetections [e]) := by
  cases e with
  | push source item =>
    have hpushed : pushedDetections [BatcherEvent.push source item] = item.2.2 := by
      simp [pushedDetections, pushes]
    rw [hpushed, List.append_assoc]
    exact (detections_file _ _).append_left _
  | popBatch =>
    have hpushed : pushedDetections [(.popBatch : BatcherEvent ι)] = [] := rfl
    rw [hpushed, List.append_nil]
    cases hready : s.1.readyGroup with
    | none => simp [callEvent, popBatch_of_readyGroup_none hready]
    | some g =>
      have hfirst := (readyGroup_eq_some_iff.mp hready).1
      rw [detections_dropFirst hfirst]
      simp [callEvent, popBatch_of_readyGroup hready, poppedDetections, batchOf]

/-- The detections of a history are in its batches or in the batcher. -/
theorem runEvents_detections (n : ℕ) (events : List (BatcherEvent ι)) :
    (pushedDetections events).Perm
      (poppedDetections (runEvents (new n : KeyedBatcher K) events).2 ++
        (runEvents (new n : KeyedBatcher K) events).1.detections) := by
  induction events using List.reverseRecOn with
  | nil => exact .refl _
  | append_singleton events e ih =>
    have happend : pushedDetections (events ++ [e]) =
        pushedDetections events ++ pushedDetections [e] := by
      simp [pushedDetections]
    rw [runEvents_append_singleton, happend]
    exact (ih.append_right _).trans (callEvent_detections _ e).symm

omit [BatchKey K] in
/-- The group a batch is made from is that of the least key. -/
theorem lists_of_readyGroup {g : K × List (List Detection)} (h : b.readyGroup = some g) :
    g.1 ∈ b.state.keys ∧ (∀ k ∈ b.state.keys, key g.1 ≤ key k) ∧ b.lists g.1 = g.2 ∧
      g.2.length = b.nDetectors := by
  obtain ⟨hfirst, hlen⟩ := readyGroup_eq_some_iff.mp h
  have hmem : g ∈ b.state.entries := by
    rw [OrderedMap.entries_eq_cons_of_firstKeyValue hfirst]
    exact List.mem_cons_self
  refine ⟨List.mem_map_of_mem hmem, ?_, lists_eq_of_mem hmem, hlen⟩
  intro k hk
  obtain ⟨e, he, rfl⟩ := List.mem_map.mp hk
  exact OrderedMap.firstKeyValue_le hfirst he

/-- A key with more lists than detectors keeps them. -/
theorem lt_length_lists_callEvent {s : KeyedBatcher K × List Batch} {k : K}
    (hn : s.1.nDetectors = n) (h : n < (s.1.lists k).length) (e : BatcherEvent ι) :
    n < ((callEvent s e).1.lists k).length := by
  cases e with
  | push source item =>
    change n < ((push s.1 item.1 item.2.1 item.2.2).lists k).length
    -- a push can only make a list longer
    rw [lists_push]
    split_ifs with hk
    · rw [← lists_congr hk, List.length_append]
      omega
    · exact h
  | popBatch =>
    cases hready : s.1.readyGroup with
    | none => simpa [callEvent, popBatch_of_readyGroup_none hready] using h
    | some g =>
      obtain ⟨-, -, hlists, hlen⟩ := lists_of_readyGroup hready
      have hstep : (callEvent s (.popBatch : BatcherEvent ι)).1 = s.1.dropFirst := by
        simp [callEvent, popBatch_of_readyGroup hready]
      rw [hstep, lists_dropFirst (readyGroup_eq_some_iff.mp hready).1]
      split_ifs with hk
      · -- the key that is popped has a list of every detector, and no more
        rw [lists_congr hk, hlists, hlen, hn] at h
        exact absurd h (lt_irrefl n)
      · exact h

theorem nDetectors_callEvent (s : KeyedBatcher K × List Batch) (e : BatcherEvent ι) :
    (callEvent s e).1.nDetectors = s.1.nDetectors := by
  cases e with
  | push source item => rfl
  | popBatch =>
    cases hready : s.1.readyGroup with
    | none => simp [callEvent, popBatch_of_readyGroup_none hready]
    | some g =>
      simp only [callEvent, popBatch_of_readyGroup hready]
      rfl

theorem lt_length_lists_runEvents {k : K} (hn : b.nDetectors = n) (h : n < (b.lists k).length)
    (later : List (BatcherEvent ι)) :
    (runEvents b later).1.nDetectors = n ∧ n < ((runEvents b later).1.lists k).length := by
  induction later using List.reverseRecOn with
  | nil => exact ⟨hn, h⟩
  | append_singleton later e ih =>
    rw [runEvents_append_singleton]
    exact ⟨(nDetectors_callEvent _ e).trans ih.1, lt_length_lists_callEvent ih.1 ih.2 e⟩

/-- What holds of a batcher after a history. -/
structure Conserves (K : Type) {κ : Type} [LinearOrder κ] [OrdKey K κ] [BatchKey K] (n : ℕ)
    (events : List (BatcherEvent ι)) (b : KeyedBatcher K) (popped : List Batch) : Prop where
  /-- Every detection pushed is in a batch or in the batcher, and only once. -/
  detections : (pushedDetections events).Perm (poppedDetections popped ++ b.detections)
  /-- The next batch is that of the least key, if it has one list per detector. -/
  batch : ∀ batch, (popBatch b).1 = some batch → ∃ k ∈ b.state.keys,
    (∀ k' ∈ b.state.keys, key k ≤ key k') ∧ (batch.1, batch.2.1) = BatchKey.toBatch k ∧
      ∃ lists, lists.length = n ∧ b.lists k = lists ∧ lists <:+ pushedUnder k events ∧
        batch.2.2 = lists.flatten
  /-- A key with more lists than that is not popped any more. -/
  overfull : ∀ k, n < (b.lists k).length → ∀ later : List (BatcherEvent ι), ∀ batch,
    (popBatch (runEvents b later).1).1 = some batch →
      key (BatchKey.ofInput batch.1 batch.2.1 : K) ≠ key k
  /-- If there is no next batch, looking for one changes nothing. -/
  unchanged : (popBatch b).1 = none → (popBatch b).2 = b

variable [LawfulBatchKey K]

/-- A key with more lists than detectors is never popped. -/
theorem key_ne_of_lt_length_lists {k : K} (hn : b.nDetectors = n) (h : n < (b.lists k).length)
    {later : List (BatcherEvent ι)} {batch : Batch}
    (hbatch : (popBatch (runEvents b later).1).1 = some batch) :
    key (BatchKey.ofInput batch.1 batch.2.1 : K) ≠ key k := by
  intro hk
  rw [popBatch_fst, Option.map_eq_some_iff] at hbatch
  obtain ⟨g, hready, rfl⟩ := hbatch
  obtain ⟨-, -, hlists, hlen⟩ := lists_of_readyGroup hready
  obtain ⟨hn', hlater⟩ := lt_length_lists_runEvents hn h later
  have hg : key g.1 = key k := by
    rwa [batchOf, LawfulBatchKey.ofInput_toBatch] at hk
  rw [← lists_congr hg, hlists, hlen, hn'] at hlater
  exact lt_irrefl n hlater

theorem conserves_runEvents (n : ℕ) (events : List (BatcherEvent ι)) :
    Conserves K n events (runEvents (new n : KeyedBatcher K) events).1
      (runEvents (new n : KeyedBatcher K) events).2 := by
  have haccounts := accounts (K := K) n events
  have hrun := runEvents_eq (new n : KeyedBatcher K) events
  have hn : (runEvents (new n : KeyedBatcher K) events).1.nDetectors = n := by
    rw [hrun]
    exact haccounts.nDetectors
  constructor
  case detections => exact runEvents_detections n events
  case batch =>
    intro batch hbatch
    rw [popBatch_fst, Option.map_eq_some_iff] at hbatch
    obtain ⟨g, hready, rfl⟩ := hbatch
    obtain ⟨hmem, hleast, hlists, hlen⟩ := lists_of_readyGroup hready
    refine ⟨g.1, hmem, hleast, rfl, g.2, hlen.trans hn, hlists, ?_, rfl⟩
    -- what was popped before under this key was pushed before
    rw [haccounts.place g.1, ← hlists, hrun]
    exact List.suffix_append _ _
  case overfull =>
    intro k hk later batch hbatch
    exact key_ne_of_lt_length_lists hn hk hbatch
  case unchanged =>
    intro hnone
    rw [popBatch_of_readyGroup_none (popBatch_fst_eq_none_iff.mp hnone)]

end Conservation

end KeyedBatcher

open KeyedBatcher in
/-- Both batchers conserve detections, in every history and for every number of detectors. -/
theorem batchers_conserve {ι : Type} (n : ℕ) (events : List (BatcherEvent ι)) :
    Conserves Chunk n events (runEvents (new n : MaxProcessedIndexBatcher) events).1
      (runEvents (new n : MaxProcessedIndexBatcher) events).2 ∧
    Conserves (Chunk × ChoiceIndex) n events (runEvents (new n : CompletionBatcher) events).1
      (runEvents (new n : CompletionBatcher) events).2 :=
  ⟨conserves_runEvents n events, conserves_runEvents n events⟩

end GuardrailsOrchestrator
