import GuardrailsOrchestrator.Batcher.Basic
import GuardrailsOrchestrator.Lib.Collections
import Mathlib.Data.List.Induction

/-!
# Histories of a batcher

Any number of sources push to one batcher, with pops at any point in between.
The history is the list of these calls; the restriction of a history to one
source is what that source delivered, so a history *interleaves* the streams of
its sources when every restriction is the source's stream.

`Accounts` says where every pushed list is: in a popped batch or still filed,
key by key and in push order. It holds of every history, with no assumption on
what is pushed or when a batch is popped.
-/

namespace GuardrailsOrchestrator

/-- What a detection stream delivers: an input id, a chunk, and the detections of
one detector on it. -/
abbrev StreamItem := ℕ × Chunk × List Detection

/-- One call on a batcher. A push says which source it comes from. -/
inductive BatcherEvent (ι : Type) where
  | push (source : ι) (item : StreamItem)
  | popBatch
  deriving DecidableEq

namespace BatcherEvent

variable {ι : Type}

/-- The pushes of a history, in order. -/
def pushes : List (BatcherEvent ι) → List (ι × StreamItem)
  | [] => []
  | .push source item :: events => (source, item) :: pushes events
  | .popBatch :: events => pushes events

@[simp] theorem pushes_append (v w : List (BatcherEvent ι)) :
    pushes (v ++ w) = pushes v ++ pushes w := by
  induction v with
  | nil => rfl
  | cons e v ih => cases e <;> simp [pushes, ih]

@[simp] theorem pushes_replicate_popBatch (m : ℕ) :
    pushes (List.replicate m (popBatch : BatcherEvent ι)) = [] := by
  induction m with
  | zero => rfl
  | succ m ih => simpa [List.replicate_succ, pushes] using ih

@[simp] theorem pushes_map_push (l : List (ι × StreamItem)) :
    pushes (l.map fun p => BatcherEvent.push p.1 p.2) = l := by
  induction l with
  | nil => rfl
  | cons p l ih => simp [pushes, ih]

variable [DecidableEq ι]

/-- What one source has delivered. -/
def delivered (i : ι) (events : List (BatcherEvent ι)) : List StreamItem :=
  ((pushes events).filter (·.1 = i)).map (·.2)

/-- The history delivers every stream completely, each in its own order. -/
def Interleaves (streams : ι → List StreamItem) (events : List (BatcherEvent ι)) : Prop :=
  ∀ i, delivered i events = streams i

theorem delivered_append (i : ι) (v w : List (BatcherEvent ι)) :
    delivered i (v ++ w) = delivered i v ++ delivered i w := by
  simp [delivered]

theorem mem_pushes_iff {i : ι} {x : StreamItem} {events : List (BatcherEvent ι)} :
    (i, x) ∈ pushes events ↔ x ∈ delivered i events := by
  simp [delivered]

end BatcherEvent

open BatcherEvent

/-! ### Running a history -/

section Run

variable {B ι : Type} [DetectionBatcher B]

/-- One call, on the batcher and the batches popped so far. -/
def callEvent (s : B × List Batch) : BatcherEvent ι → B × List Batch
  | .push _ item => (push s.1 item.1 item.2.1 item.2.2, s.2)
  | .popBatch => ((popBatch s.1).2, s.2 ++ (popBatch s.1).1.toList)

/-- The batcher after a history, and the batches popped in it, in order. -/
def runEvents (b : B) (events : List (BatcherEvent ι)) : B × List Batch :=
  events.foldl callEvent (b, [])

theorem runEvents_append_singleton (b : B) (events : List (BatcherEvent ι)) (e : BatcherEvent ι) :
    runEvents b (events ++ [e]) = callEvent (runEvents b events) e := by
  simp [runEvents]

theorem foldl_callEvent_replicate_popBatch (s : B × List Batch) (m : ℕ)
    (h : (popBatch s.1).1 = none) (hb : (popBatch s.1).2 = s.1) :
    (List.replicate m (BatcherEvent.popBatch : BatcherEvent ι)).foldl callEvent s = s := by
  induction m with
  | zero => rfl
  | succ m ih =>
    have hs : callEvent s (BatcherEvent.popBatch : BatcherEvent ι) = s := by
      simp [callEvent, h, hb]
    rw [List.replicate_succ, List.foldl_cons, hs, ih]

end Run

namespace KeyedBatcher

variable {K κ ι : Type} [LinearOrder κ] [OrdKey K κ] [BatchKey K]

/-- Draining is a history of pops. -/
theorem drain_eq_foldl (fuel : ℕ) (b : KeyedBatcher K) (popped : List Batch) :
    (List.replicate fuel (BatcherEvent.popBatch : BatcherEvent ι)).foldl callEvent (b, popped) =
      ((drain fuel b).2, popped ++ (drain fuel b).1) := by
  induction fuel generalizing b popped with
  | zero => simp [drain]
  | succ fuel ih =>
    cases hready : b.readyGroup with
    | none =>
      have hpop := popBatch_of_readyGroup_none hready
      -- the remaining pops of the history find nothing and change nothing
      rw [foldl_callEvent_replicate_popBatch (b, popped) _ (by simp [hpop]) (by simp [hpop])]
      simp [drain, hpop]
    | some g =>
      have hpop := popBatch_of_readyGroup hready
      have hstep : callEvent (b, popped) (BatcherEvent.popBatch : BatcherEvent ι) =
          (b.dropFirst, popped ++ [batchOf g]) := by simp [callEvent, hpop]
      rw [List.replicate_succ, List.foldl_cons, hstep, ih]
      simp [drain, hpop]

/-- Draining after a history continues the history by pops. -/
theorem runEvents_append_drainAll (b : KeyedBatcher K) (events : List (BatcherEvent ι)) :
    runEvents b (events ++ List.replicate (runEvents b events).1.state.entries.length
        BatcherEvent.popBatch) =
      ((runEvents b events).1.drainAll.2,
        (runEvents b events).2 ++ (runEvents b events).1.drainAll.1) := by
  rw [runEvents, List.foldl_append]
  exact drain_eq_foldl _ _ _

/-! ### Where every pushed list is -/

/-- Whether an item is filed under a key. -/
def Under (k : K) (x : StreamItem) : Prop := key (BatchKey.ofInput x.1 x.2.1 : K) = key k

instance (k : K) : DecidablePred (Under k) := fun _ => inferInstanceAs (Decidable (_ = _))

/-- The lists pushed under a key, in push order. -/
def pushedUnder (k : K) (events : List (BatcherEvent ι)) : List (List Detection) :=
  ((pushes events).filter fun p => Under k p.2).map fun p => p.2.2.2

/-- The lists of the popped groups filed under a key. -/
def poppedUnder (k : K) (groups : List (K × List (List Detection))) : List (List Detection) :=
  ((groups.filter fun g => key g.1 = key k).map (·.2)).flatten

/-- One call, on the batcher and the groups of lists popped so far. -/
def callGroup (s : KeyedBatcher K × List (K × List (List Detection))) :
    BatcherEvent ι → KeyedBatcher K × List (K × List (List Detection))
  | .push _ item => (push s.1 item.1 item.2.1 item.2.2, s.2)
  | .popBatch => ((popBatch s.1).2, s.2 ++ s.1.readyGroup.toList)

/-- The batcher after a history, and the groups of lists its batches were made from. -/
def runGroups (b : KeyedBatcher K) (events : List (BatcherEvent ι)) :
    KeyedBatcher K × List (K × List (List Detection)) :=
  events.foldl callGroup (b, [])

theorem runGroups_append_singleton (b : KeyedBatcher K) (events : List (BatcherEvent ι))
    (e : BatcherEvent ι) : runGroups b (events ++ [e]) = callGroup (runGroups b events) e := by
  simp [runGroups]

/-- The batches of a history are made from its groups. -/
theorem runEvents_eq (b : KeyedBatcher K) (events : List (BatcherEvent ι)) :
    runEvents b events = ((runGroups b events).1, (runGroups b events).2.map batchOf) := by
  induction events using List.reverseRecOn with
  | nil => rfl
  | append_singleton events e ih =>
    rw [runEvents_append_singleton, runGroups_append_singleton, ih]
    cases e with
    | push source x => rfl
    | popBatch => simp [callEvent, callGroup, popBatch_fst, Option.toList_map]

/-- Every pushed list is in exactly one place: in one popped group or still filed,
key by key and in push order. Every popped group has one list per detector, and
every key in use is the key of something pushed. -/
structure Accounts (n : ℕ) (events : List (BatcherEvent ι))
    (s : KeyedBatcher K × List (K × List (List Detection))) : Prop where
  nDetectors : s.1.nDetectors = n
  complete : ∀ g ∈ s.2, g.2.length = n
  place : ∀ k, pushedUnder k events = poppedUnder k s.2 ++ s.1.lists k
  filed : ∀ e ∈ s.1.state.entries, ∃ p ∈ pushes events, e.1 = BatchKey.ofInput p.2.1 p.2.2.1
  origin : ∀ g ∈ s.2, ∃ p ∈ pushes events, g.1 = BatchKey.ofInput p.2.1 p.2.2.1

variable {n : ℕ} {events : List (BatcherEvent ι)}
  {s : KeyedBatcher K × List (K × List (List Detection))}

theorem pushedUnder_append_push (k : K) (source : ι) (x : StreamItem) :
    pushedUnder k (events ++ [.push source x]) =
      if Under k x then pushedUnder k events ++ [x.2.2] else pushedUnder k events := by
  by_cases h : Under k x <;> simp [pushedUnder, pushes, h]

theorem pushedUnder_append_popBatch (k : K) :
    pushedUnder k (events ++ [.popBatch]) = pushedUnder k events := by
  simp [pushedUnder, pushes]

omit [BatchKey K] in
theorem poppedUnder_append (k : K) (groups : List (K × List (List Detection)))
    (g : K × List (List Detection)) :
    poppedUnder k (groups ++ [g]) =
      if key k = key g.1 then poppedUnder k groups ++ g.2 else poppedUnder k groups := by
  by_cases h : key k = key g.1
  · simp [poppedUnder, h]
  · simp [poppedUnder, h, Ne.symm h]

theorem accounts_new (n : ℕ) :
    Accounts n ([] : List (BatcherEvent ι)) ((new n : KeyedBatcher K), []) where
  nDetectors := rfl
  complete := by simp
  place k := rfl
  filed := by simp [new]
  origin := by simp

theorem Accounts.push (h : Accounts n events s) (source : ι) (x : StreamItem) :
    Accounts n (events ++ [.push source x]) (callGroup s (.push source x)) where
  nDetectors := h.nDetectors
  complete := h.complete
  place k := by
    change _ = poppedUnder k s.2 ++ (GuardrailsOrchestrator.push s.1 x.1 x.2.1 x.2.2).lists k
    rw [pushedUnder_append_push, lists_push, h.place k]
    -- under its own key the list is added at the end of those still filed
    by_cases hk : Under k x
    · have hsame : s.1.lists k = s.1.lists (BatchKey.ofInput x.1 x.2.1) :=
        lists_congr hk.symm
      rw [if_pos hk, if_pos hk.symm, hsame, List.append_assoc]
    · rw [if_neg hk, if_neg (Ne.symm hk)]
  filed e he := by
    obtain ⟨k, ls⟩ := e
    -- a push opens an entry under its own key or extends an entry that is there
    rcases OrderedMap.alter_perm s.1.state (BatchKey.ofInput x.1 x.2.1)
        (addList x.2.2) with ⟨-, hnew⟩ | ⟨k', v, rest, -, hold, hnew⟩
    · rcases List.mem_cons.mp (hnew.mem_iff.mp he) with heq | he
      · exact ⟨(source, x), by simp [pushes], congrArg Prod.fst heq⟩
      · obtain ⟨p, hp, hk⟩ := h.filed _ he
        exact ⟨p, by simp [hp], hk⟩
    · have hold' : ∃ v', (k, v') ∈ s.1.state.entries := by
        rcases List.mem_cons.mp (hnew.mem_iff.mp he) with heq | he
        · obtain rfl : k = k' := congrArg Prod.fst heq
          exact ⟨v, hold.mem_iff.mpr (by simp)⟩
        · exact ⟨ls, hold.mem_iff.mpr (by simp [he])⟩
      obtain ⟨v', hv'⟩ := hold'
      obtain ⟨p, hp, hk⟩ := h.filed _ hv'
      exact ⟨p, by simp [hp], hk⟩
  origin g hg := by
    obtain ⟨p, hp, hk⟩ := h.origin g hg
    exact ⟨p, by simp [hp], hk⟩

theorem Accounts.popBatch_none (h : Accounts n events s) (hready : s.1.readyGroup = none) :
    Accounts n (events ++ [.popBatch]) (callGroup s (.popBatch : BatcherEvent ι)) := by
  have hs : callGroup s (.popBatch : BatcherEvent ι) = s := by
    simp [callGroup, hready, popBatch_of_readyGroup_none hready]
  rw [hs]
  exact
    { nDetectors := h.nDetectors
      complete := h.complete
      place := fun k => by rw [pushedUnder_append_popBatch, h.place]
      filed := fun e he => by simpa [pushes] using h.filed e he
      origin := fun g hg => by simpa [pushes] using h.origin g hg }

theorem Accounts.popBatch_some (h : Accounts n events s) {k : K} {ls : List (List Detection)}
    (hready : s.1.readyGroup = some (k, ls)) :
    Accounts n (events ++ [.popBatch]) (callGroup s (.popBatch : BatcherEvent ι)) := by
  have hs : callGroup s (.popBatch : BatcherEvent ι) = (s.1.dropFirst, s.2 ++ [(k, ls)]) := by
    simp [callGroup, hready, popBatch_of_readyGroup hready]
  obtain ⟨hfirst, hlen⟩ := readyGroup_eq_some_iff.mp hready
  have hentries := OrderedMap.entries_eq_cons_of_firstKeyValue hfirst
  have hmem : (k, ls) ∈ s.1.state.entries := by simp [hentries]
  rw [hs]
  exact
    { nDetectors := h.nDetectors
      complete := fun g hg => by
        rcases List.mem_append.mp hg with hg | hg
        · exact h.complete g hg
        · obtain rfl : g = (k, ls) := by simpa using hg
          exact hlen.trans h.nDetectors
      place := fun k' => by
        -- the lists of the popped key move from the batcher to the groups
        rw [pushedUnder_append_popBatch, h.place, poppedUnder_append, lists_dropFirst hfirst]
        by_cases hk : key k' = key k
        · simp [hk, lists_congr hk, lists_eq_of_mem hmem]
        · simp [hk]
      filed := fun e he => by
        simpa [pushes] using h.filed e (by rw [hentries]; exact List.mem_cons_of_mem _ he)
      origin := fun g hg => by
        rcases List.mem_append.mp hg with hg | hg
        · simpa [pushes] using h.origin g hg
        · obtain rfl : g = (k, ls) := by simpa using hg
          simpa [pushes] using h.filed (k, ls) hmem }

/-- Every history accounts for all lists pushed in it. -/
theorem accounts (n : ℕ) (events : List (BatcherEvent ι)) :
    Accounts n events (runGroups (new n : KeyedBatcher K) events) := by
  induction events using List.reverseRecOn with
  | nil => exact accounts_new n
  | append_singleton events e ih =>
    rw [runGroups_append_singleton]
    cases e with
    | push source x => exact ih.push source x
    | popBatch =>
      cases hready : (runGroups (new n : KeyedBatcher K) events).1.readyGroup with
      | none => exact ih.popBatch_none hready
      | some g => exact ih.popBatch_some hready

/-! ### Everything pushed is in a popped batch -/

/-- The lists of some groups, each with the key it was filed under. -/
def keyedLists (groups : List (K × List (List Detection))) : List (κ × List Detection) :=
  groups.flatMap fun g => g.2.map fun detections => (key g.1, detections)

/-- Pushed items as the batcher files them: a key and a list of detections. -/
def keyedItems (K : Type) [OrdKey K κ] [BatchKey K] (items : List StreamItem) :
    List (κ × List Detection) :=
  items.map fun x => (key (BatchKey.ofInput x.1 x.2.1 : K), x.2.2)

omit [BatchKey K] in
theorem filter_keyedLists (groups : List (K × List (List Detection))) (k : K) :
    ((keyedLists groups).filter (·.1 = key k)).map (·.2) = poppedUnder k groups := by
  induction groups with
  | nil => rfl
  | cons g groups ih =>
    rw [keyedLists, List.flatMap_cons, List.filter_append, List.map_append, ← keyedLists, ih]
    by_cases h : key g.1 = key k <;>
      simp [poppedUnder, h, List.filter_map, Function.comp_def]

theorem filter_keyedItems (events : List (BatcherEvent ι)) (k : K) :
    ((keyedItems K ((pushes events).map (·.2))).filter (·.1 = key k)).map (·.2) =
      pushedUnder k events := by
  simp only [keyedItems, pushedUnder, List.filter_map, List.map_map, Function.comp_def]
  rfl

/-- Once the batcher is empty, the pushed lists are exactly those of the popped groups,
each with its key. -/
theorem Accounts.perm_of_isEmpty (h : Accounts n events s)
    (hempty : DetectionBatcher.isEmpty s.1 = true) :
    (keyedItems K ((pushes events).map (·.2))).Perm (keyedLists s.2) := by
  apply List.perm_of_forall_filter_eq
  intro v
  by_cases hv : ∃ k : K, key k = v
  · obtain ⟨k, rfl⟩ := hv
    rw [filter_keyedItems, filter_keyedLists, h.place k, isEmpty_iff_lists.mp hempty,
      List.append_nil]
  · have hne : ∀ k : K, key k ≠ v := fun k hk => hv ⟨k, hk⟩
    simp [keyedItems, keyedLists, List.filter_map, List.filter_flatMap, Function.comp_def, hne]

/-! ### Keys with at most one list per detector -/

omit [LinearOrder κ] [OrdKey K κ] [BatchKey K] in
theorem flatten_map_snd_eq_of_mem {groups : List (K × List (List Detection))}
    {g : K × List (List Detection)} (hn : 0 < n) (complete : ∀ g ∈ groups, g.2.length = n)
    (hle : (groups.map (·.2)).flatten.length ≤ n) (hg : g ∈ groups) :
    (groups.map (·.2)).flatten = g.2 := by
  rcases groups with _ | ⟨g₁, _ | ⟨g₂, rest⟩⟩
  · simp at hg
  · obtain rfl : g = g₁ := by simpa using hg
    simp
  · have h₁ := complete g₁ (by simp)
    have h₂ := complete g₂ (by simp)
    simp only [List.map_cons, List.flatten_cons, List.length_append] at hle
    omega

variable {k : K} {g : K × List (List Detection)}

/-- With at most one list per detector under a key, popping the key takes all of
them at once. -/
theorem Accounts.of_mem_groups (h : Accounts n events s) (hn : 0 < n)
    (hle : (pushedUnder k events).length ≤ n) (hg : g ∈ s.2) (hk : key g.1 = key k) :
    s.1.lists k = [] ∧ g.2 = pushedUnder k events := by
  have hmem : g ∈ s.2.filter fun g => key g.1 = key k := by simp [hg, hk]
  have hcomplete : ∀ g ∈ s.2.filter fun g => key g.1 = key k, g.2.length = n :=
    fun g hg => h.complete g (List.mem_of_mem_filter hg)
  -- the popped groups take a multiple of `n` lists, so there is only one group and no rest
  have hlen := congrArg List.length (h.place k)
  rw [List.length_append] at hlen
  have hpopped : poppedUnder k s.2 = g.2 :=
    flatten_map_snd_eq_of_mem hn hcomplete (by rw [poppedUnder] at hlen; omega) hmem
  have hnil : s.1.lists k = [] := by
    rw [hpopped, h.complete g hg] at hlen
    exact List.eq_nil_of_length_eq_zero (by omega)
  exact ⟨hnil, by rw [h.place k, hpopped, hnil, List.append_nil]⟩

/-- A key with a list on it that was never popped still has all its lists filed. -/
theorem Accounts.lists_eq_of_forall_ne (h : Accounts n events s)
    (hne : ∀ g ∈ s.2, key g.1 ≠ key k) : s.1.lists k = pushedUnder k events := by
  have hnil : s.2.filter (fun g => key g.1 = key k) = [] :=
    List.filter_eq_nil_iff.mpr fun g hg => by simpa using hne g hg
  simp [h.place k, poppedUnder, hnil]

end KeyedBatcher

end GuardrailsOrchestrator
