import GuardrailsOrchestrator.Batcher.Conservation
import Mathlib.Data.List.Perm.Subperm

/-!
# Sources that push in ascending order

A batcher gets one list per key from every source, and every source reaches its keys in ascending
order. A source may leave out keys, and the sources need not agree on which. However the sources
interleave and whenever batches are popped, the batches then come out in ascending order, and each
of them has exactly one list from every source: once every source has reached a key, whatever a
source pushes later has a greater one.

`tag` relates a history of the actor, which does not know where its items come from, to one that
does.

## Main results

* `FromSources.ascends` — the batches of a history ascend
* `FromSources.sourcesOf_perm` — a batch has one list of every source
-/

namespace GuardrailsOrchestrator

open BatcherEvent KeyedBatcher

/-! ### Tagged histories -/

namespace BatcherEvent

variable {ι : Type}

/-- A history with the sources of its pushes. -/
def tag : List (BatcherEvent Unit) → List (ι × StreamItem) → List (BatcherEvent ι)
  | .popBatch :: events, items => .popBatch :: tag events items
  | .push _ _ :: events, item :: items => .push item.1 item.2 :: tag events items
  | _, _ => []

variable {events : List (BatcherEvent Unit)} {items : List (ι × StreamItem)}

/-- The pushes of a tagged history are the tagged items. -/
theorem pushes_tag (h : (pushes events).map (·.2) = items.map (·.2)) :
    pushes (tag events items) = items := by
  induction events generalizing items with
  | nil =>
    obtain rfl : items = [] := by simpa [pushes] using h.symm
    rfl
  | cons e events ih =>
    cases e with
    | popBatch => exact ih h
    | push _ x =>
      cases items with
      | nil => simp [pushes] at h
      | cons item items =>
        simp only [pushes, List.map_cons, List.cons.injEq] at h
        rw [tag, pushes, ih h.2]

/-- A tagged history does the same to a batcher. -/
theorem foldl_callGroup_tag {K κ : Type} [LinearOrder κ] [OrdKey K κ] [BatchKey K]
    (h : (pushes events).map (·.2) = items.map (·.2))
    (s : KeyedBatcher K × List (K × List (List Detection))) :
    (tag events items).foldl callGroup s = events.foldl callGroup s := by
  induction events generalizing items s with
  | nil =>
    obtain rfl : items = [] := by simpa [pushes] using h.symm
    rfl
  | cons e events ih =>
    cases e with
    | popBatch => exact ih h _
    | push _ x =>
      cases items with
      | nil => simp [pushes] at h
      | cons item items =>
        simp only [pushes, List.map_cons, List.cons.injEq] at h
        rw [tag, List.foldl_cons, List.foldl_cons, ih h.2]
        simp only [callGroup, ← h.1]

end BatcherEvent

/-! ### One list from every source -/

section Sources

variable {K κ ι : Type} [LinearOrder κ] [OrdKey K κ] [BatchKey K] [DecidableEq ι]

/-- The key an item is filed under. -/
def itemKey (K : Type) {κ : Type} [LinearOrder κ] [OrdKey K κ] [BatchKey K] (x : StreamItem) : κ :=
  key (BatchKey.ofInput x.1 x.2.1 : K)

variable (K) in
/-- Only the given sources push, and each of them in ascending order. -/
structure FromSources (sources : List ι) (events : List (BatcherEvent ι)) : Prop where
  nodup : sources.Nodup
  source : ∀ p ∈ pushes events, p.1 ∈ sources
  ascending : ∀ i, (delivered i events).Pairwise fun x y => itemKey K x < itemKey K y

/-- The sources that have pushed under a key, in push order. -/
def sourcesOf (k : K) (events : List (BatcherEvent ι)) : List ι :=
  ((pushes events).filter fun p => Under k p.2).map (·.1)

/-- What holds of the groups that were popped and of the keys that are still filed. -/
structure Ascends (s : KeyedBatcher K × List (K × List (List Detection))) : Prop where
  popped : s.2.Pairwise fun g g' => key g.1 < key g'.1
  filed : ∀ g ∈ s.2, ∀ k, s.1.lists k ≠ [] → key g.1 < key k

variable {sources : List ι} {events : List (BatcherEvent ι)} {k : K} {i : ι} {x : StreamItem}

omit [DecidableEq ι] in
theorem length_sourcesOf : (sourcesOf k events).length = (pushedUnder k events).length := by
  simp [sourcesOf, pushedUnder]

omit [DecidableEq ι] in
theorem mem_sourcesOf_iff : i ∈ sourcesOf k events ↔ ∃ x, (i, x) ∈ pushes events ∧ Under k x := by
  simp [sourcesOf]

namespace FromSources

theorem of_append {rest : List (BatcherEvent ι)} (h : FromSources K sources (events ++ rest)) :
    FromSources K sources events := by
  refine ⟨h.nodup, ?_, ?_⟩
  · intro p hp
    exact h.source p (by simp [hp])
  · intro i
    have hall := h.ascending i
    rw [delivered_append] at hall
    exact (List.pairwise_append.mp hall).1

/-- A source pushes under a key once at most. -/
theorem nodup_sourcesOf (h : FromSources K sources events) (k : K) :
    (sourcesOf k events).Nodup := by
  apply List.nodup_map_fst_filter
  intro i
  refine (h.ascending i).imp ?_
  rintro x y hlt ⟨hx, hy⟩
  exact hlt.ne (Eq.trans hx (Eq.symm hy))

theorem subset_sources (h : FromSources K sources events) (k : K) :
    sourcesOf k events ⊆ sources := by
  intro i hi
  obtain ⟨x, hx, -⟩ := mem_sourcesOf_iff.mp hi
  exact h.source _ hx

theorem length_pushedUnder_le (h : FromSources K sources events) (k : K) :
    (pushedUnder k events).length ≤ sources.length := by
  rw [← length_sourcesOf]
  exact (List.subperm_of_subset (h.nodup_sourcesOf k) (h.subset_sources k)).length_le

/-- A key with as many lists as there are sources has one of each. -/
theorem sourcesOf_perm (h : FromSources K sources events)
    (hlength : sources.length ≤ (pushedUnder k events).length) :
    (sourcesOf k events).Perm sources := by
  rw [← length_sourcesOf] at hlength
  exact (List.subperm_of_subset (h.nodup_sourcesOf k) (h.subset_sources k)).perm_of_length_le
    hlength

/-- The lists of a popped group are those pushed under its key. -/
theorem group_eq (h : FromSources K sources events) (hne : sources ≠ [])
    {g : K × List (List Detection)}
    (hg : g ∈ (runGroups (new sources.length : KeyedBatcher K) events).2) :
    g.2 = pushedUnder g.1 events :=
  ((accounts (K := K) sources.length events).of_mem_groups (List.length_pos_iff.mpr hne)
    (h.length_pushedUnder_le g.1) hg rfl).2

/-- Once a group has been popped, whatever comes next has a greater key. -/
theorem lt_itemKey (h : FromSources K sources (events ++ [.push i x]))
    {g : K × List (List Detection)}
    (hg : g ∈ (runGroups (new sources.length : KeyedBatcher K) events).2) :
    key g.1 < itemKey K x := by
  have hbefore := h.of_append
  have haccounts := accounts (K := K) sources.length events
  -- every source has pushed under the key of the group, the one that pushes now among them
  have hperm : (sourcesOf g.1 events).Perm sources := by
    apply hbefore.sourcesOf_perm
    have hmem : g ∈ (runGroups (new sources.length : KeyedBatcher K) events).2.filter
        fun g' => key g'.1 = key g.1 := by simp [hg]
    rw [haccounts.place g.1, List.length_append, poppedUnder]
    have hle := (List.sublist_flatten_of_mem (List.mem_map_of_mem (f := Prod.snd) hmem)).length_le
    rw [haccounts.complete g hg] at hle
    exact hle.trans (Nat.le_add_right _ _)
  have hsource : i ∈ sourcesOf g.1 events :=
    hperm.mem_iff.mpr (h.source (i, x) (by simp [pushes]))
  obtain ⟨y, hy, hunder⟩ := mem_sourcesOf_iff.mp hsource
  have hall := h.ascending i
  have hlast : delivered i [BatcherEvent.push i x] = [x] := by simp [delivered, pushes]
  rw [delivered_append, hlast, List.pairwise_append] at hall
  have hlt := hall.2.2 y (mem_pushes_iff.mp hy) x (by simp)
  rwa [itemKey, hunder] at hlt

/-- **Ascending batches.** However the sources interleave, batches are popped in ascending order,
and what is still filed comes after them. -/
theorem ascends (h : FromSources K sources events) :
    Ascends (runGroups (new sources.length : KeyedBatcher K) events) := by
  induction events using List.reverseRecOn with
  | nil => exact ⟨List.Pairwise.nil, by simp [runGroups]⟩
  | append_singleton events e ih =>
    have hbefore := ih h.of_append
    rw [runGroups_append_singleton]
    cases e with
    -- an item that is pushed is after all that were popped, as its sources ascend
    | push i x =>
      refine ⟨hbefore.popped, ?_⟩
      intro g hg k hk
      change (push _ x.1 x.2.1 x.2.2 : KeyedBatcher K).lists k ≠ [] at hk
      rw [lists_push] at hk
      split_ifs at hk with hkey
      · rw [hkey]
        exact h.lt_itemKey hg
      · exact hbefore.filed g hg k hk
    | popBatch =>
      cases hready : (runGroups (new sources.length : KeyedBatcher K) events).1.readyGroup with
      | none =>
        have hsame : callGroup (runGroups (new sources.length : KeyedBatcher K) events)
            (.popBatch : BatcherEvent ι) = runGroups (new sources.length) events := by
          simp [callGroup, hready, popBatch_of_readyGroup_none hready]
        rwa [hsame]
      | some g =>
        have hfirst := (readyGroup_eq_some_iff.mp hready).1
        have hstep : callGroup (runGroups (new sources.length : KeyedBatcher K) events)
            (.popBatch : BatcherEvent ι) =
              ((runGroups (new sources.length : KeyedBatcher K) events).1.dropFirst,
                (runGroups (new sources.length : KeyedBatcher K) events).2 ++ [g]) := by
          simp [callGroup, hready, popBatch_of_readyGroup hready]
        obtain ⟨-, hleast, hlists, -⟩ := lists_of_readyGroup hready
        have hne : (runGroups (new sources.length : KeyedBatcher K) events).1.lists g.1 ≠ [] := by
          rw [hlists]
          exact (runGroups (new sources.length : KeyedBatcher K) events).1.occupied g
            (by simp [OrderedMap.entries_eq_cons_of_firstKeyValue hfirst])
        rw [hstep]
        refine ⟨?_, ?_⟩
        -- the popped key was filed, so it is after those popped before
        · rw [List.pairwise_append]
          refine ⟨hbefore.popped, List.pairwise_singleton _ _, ?_⟩
          intro g' hg' g'' hg''
          obtain rfl := List.mem_singleton.mp hg''
          exact hbefore.filed g' hg' _ hne
        · intro g' hg' k hk
          change (runGroups (new sources.length : KeyedBatcher K) events).1.dropFirst.lists k ≠ []
            at hk
          rw [lists_dropFirst hfirst] at hk
          split_ifs at hk with hkey
          · exact absurd rfl hk
          rcases List.mem_append.mp hg' with hg' | hg'
          · exact hbefore.filed g' hg' k hk
          · -- the popped key was the least one, and no other key is equal to it
            obtain rfl := List.mem_singleton.mp hg'
            obtain ⟨k', hk', hmem⟩ := exists_mem_of_lists_ne_nil hk
            have hle := hleast k' (List.mem_map_of_mem (f := Prod.fst) hmem)
            rw [hk'] at hle
            exact lt_of_le_of_ne hle (Ne.symm hkey)

end FromSources

end Sources

end GuardrailsOrchestrator
