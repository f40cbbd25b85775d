import GuardrailsOrchestrator.Types

/-!
# Detection batchers

A batcher collects the detection lists of all detectors under a key and hands
out the least key once as many lists as there are detectors have arrived. The
two batchers of the orchestrator run the same code on different keys, so the code
is written once, over a key that says how an input is filed and how a batch is
labelled.

## Main definitions

* `DetectionBatcher` — the operations a batch stream needs
* `KeyedBatcher` — lists of detections filed under an ordered key
* `MaxProcessedIndexBatcher`, `CompletionBatcher` — the two instances
* `drain` — popping until nothing is ready

## Main results

* `lists_push`, `lists_dropFirst` — what is filed under every key after a step
* `popBatch_drainAll` — draining stops with nothing ready
-/

namespace GuardrailsOrchestrator

/-- A detection batcher: pluggable batching logic for a batch stream. -/
class DetectionBatcher (B : Type) where
  /-- Pushes new detections. -/
  push : B → ℕ → Chunk → List Detection → B
  /-- Removes the next batch of detections, if ready. -/
  popBatch : B → Option Batch × B
  /-- Whether the batcher state is empty. -/
  isEmpty : B → Bool

export DetectionBatcher (push popBatch)

/-- How a batcher files its inputs and labels its batches. -/
class BatchKey (K : Type) where
  /-- The key detections on a chunk of an input are filed under. -/
  ofInput : ℕ → Chunk → K
  /-- The input and the chunk of the batch popped from under a key. -/
  toBatch : K → ℕ × Chunk

/-- Detection lists filed under an ordered key. An entry exists only once a list
has been pushed, so no entry is empty. -/
structure KeyedBatcher (K : Type) {ι : Type} [LinearOrder ι] [OrdKey K ι] where
  nDetectors : ℕ
  state : OrderedMap K (List (List Detection))
  occupied : ∀ e ∈ state.entries, e.2 ≠ []

/-- The batcher of the streaming text endpoints: one batch per chunk. The input id
is dropped, and every batch is labelled `0`. -/
abbrev MaxProcessedIndexBatcher := KeyedBatcher Chunk

instance : BatchKey Chunk where
  ofInput _ chunk := chunk
  toBatch chunk := (0, chunk)

/-- The batcher of the completions endpoints: one batch per chunk of a choice. -/
abbrev CompletionBatcher := KeyedBatcher (Chunk × ChoiceIndex)

instance : BatchKey (Chunk × ChoiceIndex) where
  ofInput choiceIndex chunk := (chunk, choiceIndex)
  toBatch k := (k.2, k.1)

namespace KeyedBatcher

variable {K ι : Type} [LinearOrder ι] [OrdKey K ι]

/-- A batcher for `nDetectors` detectors, without detections. -/
def new (nDetectors : ℕ) : KeyedBatcher K := ⟨nDetectors, .empty, by simp⟩

/-- The entry after one more list: a new chunk gets an entry, an existing one a
further list. -/
def addList (detections : List Detection) : Option (List (List Detection)) → List (List Detection)
  | none => [detections]
  | some lists => lists ++ [detections]

theorem addList_eq (detections : List Detection) (o : Option (List (List Detection))) :
    addList detections o = o.getD [] ++ [detections] := by
  cases o <;> rfl

theorem addList_ne_nil (detections : List Detection) (o : Option (List (List Detection))) :
    addList detections o ≠ [] := by
  simp [addList_eq]

/-- File one more list of detections under a key. -/
def file (b : KeyedBatcher K) (k : K) (detections : List Detection) : KeyedBatcher K where
  nDetectors := b.nDetectors
  state := b.state.alter k (addList detections)
  occupied e he := by
    have hvalue := OrderedMap.get?_eq_some_of_mem (k := e.1) (v := e.2) he
    rw [OrderedMap.get?_alter] at hvalue
    split_ifs at hvalue
    · rw [Option.some_inj] at hvalue
      exact hvalue ▸ addList_ne_nil _ _
    · obtain ⟨k', -, hmem⟩ := OrderedMap.get?_eq_some_iff.mp hvalue
      exact b.occupied (k', e.2) hmem

/-- The batcher without its least entry. -/
def dropFirst (b : KeyedBatcher K) : KeyedBatcher K where
  nDetectors := b.nDetectors
  state := b.state.tail
  occupied e he := b.occupied e (List.mem_of_mem_tail he)

/-! ### What is filed under a key -/

/-- The lists filed under a key, in the order in which they were pushed. -/
def lists (b : KeyedBatcher K) (k : K) : List (List Detection) := (b.state.get? k).getD []

variable {b b' : KeyedBatcher K} {k k' : K}

theorem lists_congr (h : key k = key k') : b.lists k = b.lists k' := by
  have hget : b.state.get? k = b.state.get? k' := by
    cases hk : b.state.get? k with
    | some v =>
      obtain ⟨k₀, hkey, hmem⟩ := OrderedMap.get?_eq_some_iff.mp hk
      exact (OrderedMap.get?_eq_some_iff.mpr ⟨k₀, hkey.trans h, hmem⟩).symm
    | none =>
      cases hk' : b.state.get? k' with
      | none => rfl
      | some v =>
        obtain ⟨k₀, hkey, hmem⟩ := OrderedMap.get?_eq_some_iff.mp hk'
        rw [OrderedMap.get?_eq_some_iff.mpr ⟨k₀, hkey.trans h.symm, hmem⟩] at hk
        simp at hk
  rw [lists, lists, hget]

theorem lists_eq_of_mem {ls : List (List Detection)} (h : (k, ls) ∈ b.state.entries) :
    b.lists k = ls := by
  rw [lists, OrderedMap.get?_eq_some_of_mem h, Option.getD_some]

theorem exists_mem_of_lists_ne_nil (h : b.lists k ≠ []) :
    ∃ k', key k' = key k ∧ (k', b.lists k) ∈ b.state.entries := by
  cases hk : b.state.get? k with
  | none => simp [lists, hk] at h
  | some ls =>
    obtain ⟨k', hkey, hmem⟩ := OrderedMap.get?_eq_some_iff.mp hk
    exact ⟨k', hkey, by simpa [lists, hk] using hmem⟩

/-- What is filed under every key after a batch is popped. -/
theorem lists_dropFirst {e : K × List (List Detection)} (h : b.state.firstKeyValue = some e)
    (k' : K) : b.dropFirst.lists k' = if key k' = key e.1 then [] else b.lists k' := by
  change (b.state.tail.get? k').getD [] = _
  rw [OrderedMap.get?_tail h]
  split_ifs <;> rfl

/-- The least entry, if it has exactly one list per detector. -/
def readyGroup (b : KeyedBatcher K) : Option (K × List (List Detection)) :=
  b.state.firstKeyValue.filter fun g => g.2.length = b.nDetectors

/-! ### The batcher operations -/

variable [BatchKey K]

/-- The operations of the two batchers. A batch is ready when the least key has
exactly as many lists as there are detectors. -/
instance : DetectionBatcher (KeyedBatcher K) where
  push b inputId chunk detections := b.file (BatchKey.ofInput inputId chunk) detections
  popBatch b :=
    match b.state.firstKeyValue with
    -- `first_key_value` finds no entry: nothing has been pushed since the last batch
    | none => (none, b)
    | some (k, lists) =>
      -- with more lists than detectors the entry is never ready again
      if lists.length = b.nDetectors then
        (some ((BatchKey.toBatch k).1, (BatchKey.toBatch k).2, lists.flatten), b.dropFirst)
      else (none, b)
  isEmpty b := b.state.isEmpty

variable {inputId : ℕ} {chunk : Chunk} {detections : List Detection} {batch : Batch}

/-- A push adds its list under its own key and leaves every other key alone. -/
theorem lists_push (k' : K) :
    (push b inputId chunk detections).lists k' =
      if key k' = key (BatchKey.ofInput inputId chunk : K) then
        b.lists (BatchKey.ofInput inputId chunk) ++ [detections]
      else b.lists k' := by
  change ((b.state.alter _ _).get? k').getD [] = _
  rw [OrderedMap.get?_alter]
  split_ifs
  · simp [addList_eq, lists]
  · rfl

theorem isEmpty_iff_entries : DetectionBatcher.isEmpty b = true ↔ b.state.entries = [] :=
  OrderedMap.isEmpty_iff

/-- The batcher is empty exactly when nothing is filed under any key. -/
theorem isEmpty_iff_lists :
    DetectionBatcher.isEmpty b = true ↔ ∀ k, b.lists k = [] := by
  rw [isEmpty_iff_entries]
  constructor
  · intro h k
    simp [lists, OrderedMap.get?, h, OrderedMap.find]
  · intro h
    refine List.eq_nil_iff_forall_not_mem.mpr fun e he => b.occupied e he ?_
    rw [← lists_eq_of_mem (k := e.1) (b := b) he, h]

/-- There is nothing to pop from an empty batcher. -/
theorem popBatch_of_isEmpty (h : DetectionBatcher.isEmpty b = true) : popBatch b = (none, b) := by
  simp [popBatch, OrderedMap.firstKeyValue, isEmpty_iff_entries.mp h]

/-- The batch made from the lists filed under a key. -/
def batchOf (g : K × List (List Detection)) : Batch :=
  ((BatchKey.toBatch g.1).1, (BatchKey.toBatch g.1).2, g.2.flatten)

omit [BatchKey K] in
theorem readyGroup_eq_some_iff {g : K × List (List Detection)} :
    b.readyGroup = some g ↔
      b.state.firstKeyValue = some g ∧ g.2.length = b.nDetectors := by
  simp [readyGroup, Option.filter_eq_some_iff]

/-- When the least key has a list from every detector, its batch is popped. -/
theorem popBatch_of_readyGroup {g : K × List (List Detection)} (h : b.readyGroup = some g) :
    popBatch b = (some (batchOf g), b.dropFirst) := by
  obtain ⟨hfirst, hlen⟩ := readyGroup_eq_some_iff.mp h
  simp only [popBatch, hfirst, hlen, if_true, batchOf]

/-- Otherwise nothing is popped and the batcher stays as it is. -/
theorem popBatch_of_readyGroup_none (h : b.readyGroup = none) : popBatch b = (none, b) := by
  simp only [popBatch]
  split
  · rfl
  · rename_i k ls hfirst
    rw [if_neg]
    intro hlen
    rw [readyGroup_eq_some_iff.mpr ⟨hfirst, hlen⟩] at h
    simp at h

theorem popBatch_fst : (popBatch b).1 = b.readyGroup.map batchOf := by
  cases h : b.readyGroup with
  | none => simp [popBatch_of_readyGroup_none h]
  | some g => simp [popBatch_of_readyGroup h]

theorem popBatch_fst_eq_none_iff : (popBatch b).1 = none ↔ b.readyGroup = none := by
  simp [popBatch_fst]

end KeyedBatcher

/-! ### Draining -/

section Drain

variable {B : Type} [DetectionBatcher B]

/-- Pops up to `fuel` batches, stopping as soon as none is ready. -/
def drain : ℕ → B → List Batch × B
  | 0, b => ([], b)
  | fuel + 1, b =>
    match popBatch b with
    | (none, b') => ([], b')
    | (some batch, b') => (batch :: (drain fuel b').1, (drain fuel b').2)

end Drain

namespace KeyedBatcher

variable {K ι : Type} [LinearOrder ι] [OrdKey K ι] [BatchKey K]

/-- Pops until no batch is ready. There are at most as many batches as entries. -/
def drainAll (b : KeyedBatcher K) : List Batch × KeyedBatcher K :=
  drain b.state.entries.length b

theorem popBatch_drain {fuel : ℕ} {b : KeyedBatcher K} (h : b.state.entries.length ≤ fuel) :
    (popBatch (drain fuel b).2).1 = none := by
  induction fuel generalizing b with
  | zero =>
    have hnil : b.state.entries = [] := List.eq_nil_of_length_eq_zero (Nat.le_zero.mp h)
    simp [drain, popBatch, OrderedMap.firstKeyValue, hnil]
  | succ fuel ih =>
    cases hready : b.readyGroup with
    -- draining stops here, and popping once more finds nothing either
    | none => simp [drain, popBatch_of_readyGroup_none hready]
    | some g =>
      obtain ⟨hfirst, -⟩ := readyGroup_eq_some_iff.mp hready
      -- one entry is gone, so one unit less of fuel is enough
      have hlen : b.dropFirst.state.entries.length ≤ fuel := by
        rw [OrderedMap.entries_eq_cons_of_firstKeyValue hfirst] at h
        exact Nat.le_of_succ_le_succ h
      simpa [drain, popBatch_of_readyGroup hready] using ih hlen

/-- Draining stops with no batch ready. -/
theorem popBatch_drainAll (b : KeyedBatcher K) : (popBatch b.drainAll.2).1 = none :=
  popBatch_drain le_rfl

end KeyedBatcher

end GuardrailsOrchestrator
