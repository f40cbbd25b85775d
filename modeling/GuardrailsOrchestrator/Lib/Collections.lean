import Mathlib.Data.List.Nodup
import Mathlib.Algebra.BigOperators.Group.Finset.Piecewise
import Mathlib.Algebra.GroupWithZero.Nat

/-!
# Maps in iteration order, checked loops and lists from several sources

An `IterMap` is a finite map together with the order in which it is iterated. A
hash map fixes no such order, so what is proved for every `IterMap` holds whatever
order the hash map happens to use.

The other sections collect facts about loops that stop at the first error, about
lists whose items carry the source they come from, and about lists in which the items
of one kind stand together.
-/

/-- A finite map with the order in which its entries are visited. -/
structure IterMap (K V : Type*) where
  /-- The entries in the order in which they are visited. -/
  entries : List (K × V)
  /-- No key occurs twice. -/
  nodup : (entries.map (·.1)).Nodup

namespace IterMap

variable {K V : Type*}

instance [DecidableEq K] [DecidableEq V] : DecidableEq (IterMap K V) := fun m m' =>
  decidable_of_iff (m.entries = m'.entries) (by cases m; cases m'; simp)

theorem eq_of_entries_eq {m m' : IterMap K V} (h : m.entries = m'.entries) : m = m' := by
  cases m
  cases m'
  simpa using h

/-- The map without entries. -/
def empty : IterMap K V := ⟨[], .nil⟩

instance : Inhabited (IterMap K V) := ⟨empty⟩

/-- The keys in iteration order. -/
def keys (m : IterMap K V) : List K := m.entries.map (·.1)

theorem nodup_keys (m : IterMap K V) : m.keys.Nodup := m.nodup

/-- The number of entries. -/
def size (m : IterMap K V) : ℕ := m.entries.length

/-- Whether there is no entry. -/
def isEmpty (m : IterMap K V) : Bool := m.entries.isEmpty

@[simp] theorem length_keys (m : IterMap K V) : m.keys.length = m.size := by
  simp [keys, size]

variable [DecidableEq K]

/-- The value stored under a key. -/
def get? (m : IterMap K V) (k : K) : Option V := (m.entries.find? (·.1 = k)).map (·.2)

/-- A lookup finds exactly the entry of the key. -/
theorem get?_eq_some_iff {m : IterMap K V} {k : K} {v : V} :
    m.get? k = some v ↔ (k, v) ∈ m.entries := by
  rw [get?, Option.map_eq_some_iff]
  constructor
  · rintro ⟨⟨k', v'⟩, hfind, rfl⟩
    have hk : k' = k := by simpa using List.find?_some hfind
    exact hk ▸ List.mem_of_find?_eq_some hfind
  · intro hmem
    obtain ⟨e, hfind⟩ : ∃ e, m.entries.find? (·.1 = k) = some e := by
      rw [← Option.isSome_iff_exists, List.find?_isSome]
      exact ⟨(k, v), hmem, by simp⟩
    have hk : e.1 = k := by simpa using List.find?_some hfind
    have heq : e = (k, v) :=
      List.inj_on_of_nodup_map m.nodup (List.mem_of_find?_eq_some hfind) hmem hk
    exact ⟨e, hfind, by rw [heq]⟩

/-- A lookup succeeds exactly for the keys. -/
theorem isSome_get?_iff {m : IterMap K V} {k : K} : (m.get? k).isSome ↔ k ∈ m.keys := by
  rw [Option.isSome_iff_exists, keys, List.mem_map]
  constructor
  · rintro ⟨v, hv⟩
    exact ⟨(k, v), get?_eq_some_iff.mp hv, rfl⟩
  · rintro ⟨⟨k, v⟩, hmem, rfl⟩
    exact ⟨v, get?_eq_some_iff.mpr hmem⟩

omit [DecidableEq K] in
/-- A map has one entry at most exactly when it has no two keys. -/
theorem length_entries_le_one_iff {m : IterMap K V} :
    m.entries.length ≤ 1 ↔ ∀ k ∈ m.keys, ∀ k' ∈ m.keys, k = k' := by
  rw [keys]
  match hentries : m.entries with
  | [] => simp
  | [e] => simp
  | e :: e' :: rest =>
    refine iff_of_false (by simp) ?_
    intro h
    have hnodup := m.nodup
    simp [hentries, h e.1 (by simp) e'.1 (by simp)] at hnodup

/-- The entries that satisfy a condition. -/
def filter (m : IterMap K V) (p : K × V → Bool) : IterMap K V :=
  ⟨m.entries.filter p, m.nodup.sublist ((List.filter_sublist).map _)⟩

theorem get?_filter (m : IterMap K V) (p : K × V → Bool) (k : K) :
    (m.filter p).get? k = (m.get? k).filter fun v => p (k, v) := by
  ext v
  rw [get?_eq_some_iff, Option.filter_eq_some_iff, get?_eq_some_iff]
  exact List.mem_filter

/-! ### Insertion -/

/-- Replace the value of a key where it stands, or add the entry at the end. -/
def insertEntries (k : K) (v : V) : List (K × V) → List (K × V)
  | [] => [(k, v)]
  | e :: rest => if e.1 = k then (k, v) :: rest else e :: insertEntries k v rest

theorem mem_keys_insertEntries {k k' : K} {v : V} {l : List (K × V)} :
    k' ∈ (insertEntries k v l).map (·.1) ↔ k' = k ∨ k' ∈ l.map (·.1) := by
  induction l with
  | nil => simp [insertEntries]
  | cons e l ih =>
    rw [insertEntries]
    split_ifs with hk
    · simp [hk]
    · simp only [List.map_cons, List.mem_cons, ih]
      tauto

theorem nodup_insertEntries {k : K} {v : V} {l : List (K × V)} (h : (l.map (·.1)).Nodup) :
    ((insertEntries k v l).map (·.1)).Nodup := by
  induction l with
  | nil => simp [insertEntries]
  | cons e l ih =>
    obtain ⟨he, hl⟩ := List.nodup_cons.mp h
    rw [insertEntries]
    split_ifs with hk
    · simpa [hk] using h
    · rw [List.map_cons, List.nodup_cons, mem_keys_insertEntries]
      exact ⟨by simp [hk, he], ih hl⟩

/-- Store a value, replacing the one that is there. -/
def insert (m : IterMap K V) (k : K) (v : V) : IterMap K V :=
  ⟨insertEntries k v m.entries, nodup_insertEntries m.nodup⟩

theorem find?_insertEntries {k k' : K} {v : V} {l : List (K × V)} :
    ((insertEntries k v l).find? (·.1 = k')).map (·.2) =
      if k' = k then some v else (l.find? (·.1 = k')).map (·.2) := by
  induction l with
  | nil => by_cases hk : k' = k <;> simp [insertEntries, hk, eq_comm]
  | cons e l ih =>
    rw [insertEntries]
    by_cases he : e.1 = k
    · by_cases hk : k' = k <;> simp [he, hk, eq_comm]
    · rw [if_neg he, List.find?_cons, List.find?_cons]
      by_cases hk : e.1 = k'
      · subst hk
        simp [he]
      · simpa [hk] using ih

/-- What every lookup returns after an insertion. -/
@[simp] theorem get?_insert (m : IterMap K V) (k k' : K) (v : V) :
    (m.insert k v).get? k' = if k' = k then some v else m.get? k' :=
  find?_insertEntries

@[simp] theorem get?_empty (k : K) : (empty : IterMap K V).get? k = none := rfl

theorem entries_insert_ne_nil (m : IterMap K V) (k : K) (v : V) : (m.insert k v).entries ≠ [] := by
  intro h
  have hmem : k ∈ (insertEntries k v m.entries).map (·.1) :=
    mem_keys_insertEntries.mpr (Or.inl rfl)
  rw [show insertEntries k v m.entries = [] from h] at hmem
  simp at hmem

/-- Insert entries one after the other. -/
def insertAll (m : IterMap K V) (l : List (K × V)) : IterMap K V :=
  l.foldl (fun m e => m.insert e.1 e.2) m

@[simp] theorem insertAll_nil (m : IterMap K V) : m.insertAll [] = m := rfl

@[simp] theorem insertAll_cons (m : IterMap K V) (e : K × V) (l : List (K × V)) :
    m.insertAll (e :: l) = (m.insert e.1 e.2).insertAll l := rfl

theorem insertAll_append (m : IterMap K V) (l l' : List (K × V)) :
    m.insertAll (l ++ l') = (m.insertAll l).insertAll l' :=
  List.foldl_append

/-- Inserting entries with distinct keys adds them to what is there, and they take
precedence over it. -/
theorem get?_insertAll_of_nodup {m : IterMap K V} {l : List (K × V)} (h : (l.map (·.1)).Nodup)
    (k : K) : (m.insertAll l).get? k = ((l.find? (·.1 = k)).map (·.2)).or (m.get? k) := by
  induction l generalizing m with
  | nil => simp
  | cons e l ih =>
    obtain ⟨he, hl⟩ := List.nodup_cons.mp h
    rw [insertAll_cons, ih hl, get?_insert, List.find?_cons]
    by_cases hk : k = e.1
    · -- the key does not occur again, so its value stays
      have hnone : l.find? (·.1 = k) = none := by
        rw [List.find?_eq_none]
        intro e' he' heq
        exact he (List.mem_map.mpr ⟨e', he', by simpa [hk] using heq⟩)
      simp [hnone, ← hk]
    · simp [hk, Ne.symm hk]

theorem get?_insertAll_entries (m m' : IterMap K V) (k : K) :
    (m.insertAll m'.entries).get? k = (m'.get? k).or (m.get? k) :=
  get?_insertAll_of_nodup m'.nodup k

theorem get?_insertAll_of_notMem {m : IterMap K V} {l : List (K × V)} {k : K}
    (h : k ∉ l.map (·.1)) : (m.insertAll l).get? k = m.get? k := by
  induction l generalizing m with
  | nil => rfl
  | cons e l ih =>
    rw [List.map_cons, List.mem_cons, not_or] at h
    rw [insertAll_cons, ih h.2, get?_insert, if_neg h.1]

/-- Inserting one value under several keys. -/
theorem get?_insertAll_map (m : IterMap K V) (keys : List K) (v : V) (k : K) :
    (m.insertAll (keys.map fun key => (key, v))).get? k =
      if k ∈ keys then some v else m.get? k := by
  induction keys generalizing m with
  | nil => simp
  | cons key keys ih =>
    rw [List.map_cons, insertAll_cons, ih, get?_insert]
    by_cases hk : k ∈ keys <;> simp [hk]

/-- A function of the values can be applied before or after the insertions. -/
theorem map_get?_insertAll {W : Type*} (f : V → W) (l : List (K × V)) (k : K) :
    ((empty.insertAll l).get? k).map f =
      (empty.insertAll (l.map fun e => (e.1, f e.2))).get? k := by
  induction l using List.reverseRecOn with
  | nil => rfl
  | append_singleton l e ih =>
    rw [List.map_append, insertAll_append, insertAll_append]
    simp only [List.map_cons, List.map_nil, insertAll_cons, insertAll_nil, get?_insert]
    split_ifs with hk
    · rfl
    · exact ih

end IterMap

/-- An order in which the entries of a hash map are visited: any reordering of them. -/
structure VisitOrder (α : Type*) where
  /-- The entries in the order in which they are visited. -/
  visit : List α → List α
  /-- Every entry is visited once. -/
  perm : ∀ l, (visit l).Perm l

/-- Visit the entries as they are listed. -/
def VisitOrder.listed {α : Type*} : VisitOrder α := ⟨id, List.Perm.refl⟩

/-- There is one order only to visit one entry. -/
theorem VisitOrder.visit_of_length_le_one {α : Type*} (order : VisitOrder α) {l : List α}
    (h : l.length ≤ 1) : order.visit l = l := by
  match l with
  | [] => exact List.perm_nil.mp (order.perm [])
  | [a] => exact List.perm_singleton.mp (order.perm [a])

/-- Visit the entries from the last to the first. -/
def VisitOrder.reversed {α : Type*} : VisitOrder α := ⟨List.reverse, List.reverse_perm⟩

/-! ### Loops that stop at the first error -/

namespace List

variable {α β : Type*} {R : α → β → Prop} {l : List α} {l' : List β}

theorem Forall₂.exists_of_mem_left (h : Forall₂ R l l') {a : α} (ha : a ∈ l) :
    ∃ b ∈ l', R a b := by
  induction h with
  | nil => simp at ha
  | cons hab _ ih =>
    rcases mem_cons.mp ha with rfl | ha
    · exact ⟨_, by simp, hab⟩
    · obtain ⟨b, hb, hrel⟩ := ih ha
      exact ⟨b, by simp [hb], hrel⟩

theorem Forall₂.exists_of_mem_right (h : Forall₂ R l l') {b : β} (hb : b ∈ l') :
    ∃ a ∈ l, R a b :=
  h.flip.exists_of_mem_left hb

end List

/-- A changed error comes from an error. -/
theorem Except.exists_of_mapError_eq_error {ε ε' α : Type} {f : ε → ε'} {result : Except ε α}
    {e : ε'} (h : result.mapError f = .error e) : ∃ e', result = .error e' ∧ f e' = e := by
  cases result with
  | ok a => cases h
  | error e' => exact ⟨e', rfl, Except.error.inj h⟩

/-- Lists with the same images have the same results, where these depend on the images only. -/
theorem List.flatMap_eq_of_map_eq {α β γ δ : Type} {f : α → γ} {f' : β → γ} {g : α → List δ}
    {g' : β → List δ} {l : List α} {l' : List β} (h : l.map f = l'.map f')
    (heq : ∀ a b, f a = f' b → g a = g' b) : l.flatMap g = l'.flatMap g' := by
  induction l generalizing l' with
  | nil =>
    obtain rfl := List.map_eq_nil_iff.mp h.symm
    rfl
  | cons a l ih =>
    obtain ⟨b, k, rfl, hb, hk⟩ := List.map_eq_cons_iff.mp h.symm
    rw [List.flatMap_cons, List.flatMap_cons, heq a b hb.symm, ih hk.symm]

/-- Two nested traversals can be exchanged. -/
theorem List.flatMap_flatMap_perm {α β γ : Type} (l : List α) (k : List β) (f : α → β → List γ) :
    (l.flatMap fun a => k.flatMap (f a)).Perm (k.flatMap fun b => l.flatMap (f · b)) := by
  induction l with
  | nil => simp
  | cons a l ih =>
    simp only [List.flatMap_cons]
    exact (ih.append_left _).trans (List.flatMap_append_perm k (f a) fun b => l.flatMap (f · b))

/-- A traversal that may panic succeeds with the results of its items, in their order. -/
theorem Option.mapM_eq_some_iff {α β : Type} {l : List α} {f : α → Option β} {results : List β} :
    l.mapM f = some results ↔ List.Forall₂ (fun a b => f a = some b) l results := by
  induction l generalizing results with
  | nil => cases results <;> simp
  | cons a l ih =>
    rw [List.mapM_cons, List.forall₂_cons_left_iff]
    simp only [Option.bind_eq_bind, Option.bind_eq_some_iff, ih, Option.pure_def, Option.some_inj]
    constructor
    · rintro ⟨b, hb, rest, hrest, rfl⟩
      exact ⟨b, rest, hb, hrest, rfl⟩
    · rintro ⟨b, rest, hb, hrest, rfl⟩
      exact ⟨b, hb, rest, hrest, rfl⟩

/-- The results of a traversal are those of its items. -/
theorem Option.mem_mapM_iff {α β : Type} {l : List α} {f : α → Option β} {results : List β}
    (h : l.mapM f = some results) {b : β} : b ∈ results ↔ ∃ a ∈ l, f a = some b := by
  constructor
  · exact (Option.mapM_eq_some_iff.mp h).exists_of_mem_right
  · rintro ⟨a, ha, hab⟩
    obtain ⟨b', hb', hab'⟩ := (Option.mapM_eq_some_iff.mp h).exists_of_mem_left ha
    obtain rfl : b = b' := Option.some.inj (hab.symm.trans hab')
    exact hb'

/-- A traversal that succeeds does so at every item. -/
theorem Option.exists_of_mapM_eq_some {α β : Type} {l : List α} {f : α → Option β}
    {results : List β} (h : l.mapM f = some results) {a : α} (ha : a ∈ l) :
    ∃ b ∈ results, f a = some b :=
  (Option.mapM_eq_some_iff.mp h).exists_of_mem_left ha

/-- A traversal whose items all have a result has these results. -/
theorem Option.mapM_eq_some_map {α β : Type} {l : List α} {f : α → Option β} {g : α → β}
    (h : ∀ a ∈ l, f a = some (g a)) : l.mapM f = some (l.map g) := by
  apply Option.mapM_eq_some_iff.mpr
  rw [List.forall₂_map_right_iff, List.forall₂_same]
  exact h

theorem Option.mapM_eq_some_filterMap {α β : Type} {l : List α} {f : α → Option β}
    (h : ∀ a ∈ l, ∃ b, f a = some b) : l.mapM f = some (l.filterMap f) := by
  induction l with
  | nil => rfl
  | cons a l ih =>
    obtain ⟨b, hb⟩ := h a List.mem_cons_self
    have hrest := ih fun x hx => h x (List.mem_cons_of_mem _ hx)
    rw [List.mapM_cons, List.filterMap_cons_some hb, hb, hrest]
    rfl

theorem Option.mapM_eq_none_of_mem {α β : Type} {l : List α} {f : α → Option β} {a : α}
    (ha : a ∈ l) (h : f a = none) : l.mapM f = none := by
  by_contra hne
  obtain ⟨results, hresults⟩ := Option.ne_none_iff_exists'.mp hne
  obtain ⟨b, -, hb⟩ := Option.exists_of_mapM_eq_some hresults ha
  simp [h] at hb

/-- What two nested traversals yield for the pairs of their items, if anything. -/
def Option.mapPairs {α β γ : Type} (f : α → β → Option (Option γ)) (l : List α) (k : List β) :
    Option (List γ) := do
  let rows ← l.mapM fun a => k.mapM (f a)
  pure (rows.flatten.filterMap id)

/-- Two nested traversals that never fail yield what they do for the pairs, in their order. -/
theorem Option.mapPairs_eq_some {α β γ : Type} {f : α → β → Option (Option γ)} {l : List α}
    {k : List β} (h : ∀ a ∈ l, ∀ b ∈ k, (f a b).isSome) :
    mapPairs f l k = some (l.flatMap fun a => k.filterMap fun b => (f a b).join) := by
  have hrow : ∀ a ∈ l, k.mapM (f a) = some (k.map fun b => (f a b).join) := by
    intro a ha
    apply Option.mapM_eq_some_map
    intro b hb
    obtain ⟨result, hresult⟩ := Option.isSome_iff_exists.mp (h a ha b hb)
    simp [hresult]
  rw [mapPairs, Option.mapM_eq_some_map hrow]
  simp [List.filterMap_flatten, List.flatMap_def, List.filterMap_map, Function.comp_def]

/-- Two nested traversals fail in every order of their items, or yield the same in another
order. -/
theorem Option.mapPairs_perm {α β γ : Type} {f : α → β → Option (Option γ)} {l l' : List α}
    {k k' : List β} (hl : l.Perm l') (hk : k.Perm k') :
    (mapPairs f l k = none ∧ mapPairs f l' k' = none) ∨
      ∃ results results', mapPairs f l k = some results ∧ mapPairs f l' k' = some results' ∧
        results.Perm results' := by
  have hnone : ∀ {l k a b}, a ∈ l → b ∈ k → f a b = none → mapPairs f l k = none := by
    intro l k a b ha hb hab
    rw [mapPairs, Option.mapM_eq_none_of_mem ha (Option.mapM_eq_none_of_mem hb hab)]
    rfl
  by_cases h : ∀ a ∈ l, ∀ b ∈ k, (f a b).isSome
  · have h' : ∀ a ∈ l', ∀ b ∈ k', (f a b).isSome := fun a ha b hb =>
      h a (hl.mem_iff.mpr ha) b (hk.mem_iff.mpr hb)
    refine Or.inr ⟨_, _, Option.mapPairs_eq_some h, Option.mapPairs_eq_some h', ?_⟩
    exact hl.flatMap fun a _ => hk.filterMap _
  · simp only [not_forall, Option.not_isSome_iff_eq_none] at h
    obtain ⟨a, ha, b, hb, hab⟩ := h
    exact Or.inl ⟨hnone ha hb hab, hnone (hl.mem_iff.mp ha) (hk.mem_iff.mp hb) hab⟩

namespace Except

variable {ε α : Type*}

theorem toOption_eq_some_iff {α : Type} {x : Except ε α} {a : α} :
    x.toOption = some a ↔ x = .ok a := by
  cases x <;> simp [Except.toOption]

/-- A sequence of checks succeeds exactly when each of them does. -/
theorem bind_eq_ok_iff {α β : Type} {x : Except ε α} {f : α → Except ε β} {b : β} :
    (x >>= f) = .ok b ↔ ∃ a, x = .ok a ∧ f a = .ok b := by
  cases x <;> simp [bind, Except.bind]

theorem map_eq_ok_iff {α β : Type} {x : Except ε α} {f : α → β} {b : β} :
    x.map f = .ok b ↔ ∃ a, x = .ok a ∧ f a = b := by
  cases x <;> simp [Except.map]

/-- A check succeeds exactly when it does not throw. -/
theorem ite_throw_eq_ok_iff {c : Prop} [Decidable c] {e : ε} {x : Except ε α} {a : α} :
    (if c then throw e else x) = .ok a ↔ ¬ c ∧ x = .ok a := by
  by_cases hc : c <;> simp [hc, throw, throwThe, MonadExceptOf.throw]

/-- A checked loop succeeds exactly when every iteration does. -/
theorem forM_eq_ok_iff {l : List α} {f : α → Except ε PUnit} :
    l.forM f = .ok ⟨⟩ ↔ ∀ x ∈ l, f x = .ok ⟨⟩ := by
  induction l with
  | nil => simp [pure, Except.pure]
  | cons x l ih =>
    change (f x >>= fun _ => l.forM f) = .ok ⟨⟩ ↔ _
    cases hx : f x with
    | error e => simp [bind, Except.bind, hx]
    | ok u => simpa [bind, Except.bind, hx] using ih

theorem forM_congr {l : List α} {f g : α → Except ε PUnit} (h : ∀ x ∈ l, f x = g x) :
    l.forM f = l.forM g := by
  induction l with
  | nil => rfl
  | cons x l ih =>
    change (f x >>= fun _ => l.forM f) = (g x >>= fun _ => l.forM g)
    rw [h x List.mem_cons_self, ih fun y hy => h y (List.mem_cons_of_mem x hy)]

/-- An error of a sequence of checks is that of one of them. -/
theorem exists_of_forM_eq_error {l : List α} {f : α → Except ε PUnit} {e : ε}
    (h : l.forM f = .error e) : ∃ x ∈ l, f x = .error e := by
  induction l with
  | nil => simp [List.forM_nil, pure, Except.pure] at h
  | cons x l ih =>
    change (f x >>= fun _ => l.forM f) = .error e at h
    cases hx : f x with
    | error e' =>
      rw [hx] at h
      exact ⟨x, List.mem_cons_self, hx.trans h⟩
    | ok _ =>
      rw [hx] at h
      obtain ⟨y, hy, hfails⟩ := ih h
      exact ⟨y, List.mem_cons_of_mem x hy, hfails⟩

/-- A checked traversal succeeds with the results of its items, in their order. -/
theorem mapM_eq_ok_iff {α β : Type} {l : List α} {f : α → Except ε β} {results : List β} :
    l.mapM f = .ok results ↔ List.Forall₂ (fun a b => f a = .ok b) l results := by
  induction l generalizing results with
  | nil => cases results <;> simp [pure, Except.pure]
  | cons a l ih =>
    rw [List.mapM_cons, bind_eq_ok_iff, List.forall₂_cons_left_iff]
    constructor
    · rintro ⟨b, hb, h⟩
      obtain ⟨rest, hrest, h⟩ := bind_eq_ok_iff.mp h
      exact ⟨b, rest, hb, ih.mp hrest, (Except.ok.inj h).symm⟩
    · rintro ⟨b, rest, hb, hrest, rfl⟩
      exact ⟨b, hb, bind_eq_ok_iff.mpr ⟨rest, ih.mpr hrest, rfl⟩⟩

theorem forall₂_toList_of_optionMapM {α β : Type} {o : Option α} {f : α → Except ε β}
    {o' : Option β} (h : o.mapM f = .ok o') :
    List.Forall₂ (fun a b => f a = .ok b) o.toList o'.toList := by
  cases o with
  | none =>
    obtain rfl : none = o' := by simpa [pure, Except.pure] using h
    exact .nil
  | some a =>
    cases ha : f a with
    | error e => simp [ha, Functor.map, Except.map] at h
    | ok b =>
      obtain rfl : some b = o' := by simpa [ha, Functor.map, Except.map] using h
      exact .cons ha .nil

/-- Every result of a checked traversal is the result of one of its items. -/
theorem exists_of_mem_mapM {α β : Type} {l : List α} {f : α → Except ε β} {results : List β}
    (h : l.mapM f = .ok results) {b : β} (hb : b ∈ results) : ∃ x ∈ l, f x = .ok b :=
  (mapM_eq_ok_iff.mp h).exists_of_mem_right hb

/-- A checked traversal that succeeds has a result for each of its items. -/
theorem exists_of_mapM_eq_ok {α β : Type} {l : List α} {f : α → Except ε β} {results : List β}
    (h : l.mapM f = .ok results) {a : α} (ha : a ∈ l) : ∃ b ∈ results, f a = .ok b :=
  (mapM_eq_ok_iff.mp h).exists_of_mem_left ha

/-- A checked traversal succeeds if it does for every item. -/
theorem exists_mapM_eq_ok {α β : Type} {l : List α} {f : α → Except ε β}
    (h : ∀ x ∈ l, ∃ b, f x = .ok b) : ∃ results, l.mapM f = .ok results := by
  induction l with
  | nil => exact ⟨[], rfl⟩
  | cons x l ih =>
    obtain ⟨first, hfirst⟩ := h x (by simp)
    obtain ⟨rest, hrest⟩ := ih fun y hy => h y (by simp [hy])
    exact ⟨first :: rest, mapM_eq_ok_iff.mpr (.cons hfirst (mapM_eq_ok_iff.mp hrest))⟩

/-- A checked traversal whose items all succeed has their results. -/
theorem mapM_eq_ok_map {α β : Type} {l : List α} {f : α → Except ε β} {g : α → β}
    (h : ∀ a ∈ l, f a = .ok (g a)) : l.mapM f = .ok (l.map g) := by
  apply mapM_eq_ok_iff.mpr
  rw [List.forall₂_map_right_iff, List.forall₂_same]
  exact h

/-- A checked traversal fails if one of its items does. -/
theorem exists_mapM_eq_error {α β : Type} {l : List α} {f : α → Except ε β} {a : α} (ha : a ∈ l)
    {e : ε} (h : f a = .error e) : ∃ e', l.mapM f = .error e' := by
  cases hmapM : l.mapM f with
  | error e' => exact ⟨e', rfl⟩
  | ok results =>
    obtain ⟨b, -, hb⟩ := exists_of_mapM_eq_ok hmapM ha
    simp [h] at hb

/-- The error of a checked traversal is the error of one of its items. -/
theorem exists_of_mapM_eq_error {α β : Type} {l : List α} {f : α → Except ε β} {e : ε}
    (h : l.mapM f = .error e) : ∃ a ∈ l, f a = .error e := by
  induction l with
  | nil => simp [pure, Except.pure] at h
  | cons a l ih =>
    rw [List.mapM_cons] at h
    cases ha : f a with
    | error e' =>
      obtain rfl : e' = e := by simpa [ha, bind, Except.bind] using h
      exact ⟨a, by simp, ha⟩
    | ok b =>
      cases hl : l.mapM f with
      | error e' =>
        obtain rfl : e' = e := by simpa [ha, hl, bind, Except.bind] using h
        obtain ⟨a', ha', hfa'⟩ := ih hl
        exact ⟨a', by simp [ha'], hfa'⟩
      | ok results => simp [ha, hl, bind, Except.bind, pure, Except.pure] at h

end Except

namespace IterMap

variable {ε K V W : Type}

theorem map_fst_of_forall₂ {f : V → Except ε W} {l : List (K × V)} {l' : List (K × W)}
    (h : List.Forall₂ (fun e e' => (f e.2).map (fun w => (e.1, w)) = .ok e') l l') :
    l'.map (·.1) = l.map (·.1) := by
  induction h with
  | nil => rfl
  | @cons e e' _ _ he _ ih =>
    cases hw : f e.2 with
    | error _ => simp [hw, Except.map] at he
    | ok w =>
      obtain rfl : (e.1, w) = e' := by simpa [hw, Except.map] using he
      rw [List.map_cons, List.map_cons, ih]

/-- Changes every value by a function that may fail. -/
def mapValuesM (m : IterMap K V) (f : V → Except ε W) : Except ε (IterMap K W) :=
  match h : m.entries.mapM fun e => (f e.2).map fun w => (e.1, w) with
  | .ok entries =>
    .ok ⟨entries, by rw [map_fst_of_forall₂ (Except.mapM_eq_ok_iff.mp h)]; exact m.nodup⟩
  | .error e => .error e

/-- The entries of the changed map are the changed entries. -/
theorem forall₂_entries_of_mapValuesM {m : IterMap K V} {f : V → Except ε W} {m' : IterMap K W}
    (h : m.mapValuesM f = .ok m') :
    List.Forall₂ (fun e e' => e.1 = e'.1 ∧ f e.2 = .ok e'.2) m.entries m'.entries := by
  rw [mapValuesM] at h
  split at h
  · rename_i entries hentries
    obtain rfl := Except.ok.inj h
    refine (Except.mapM_eq_ok_iff.mp hentries).imp ?_
    intro e e' he
    cases hw : f e.2 with
    | error _ => simp [hw, Except.map] at he
    | ok w =>
      obtain rfl : (e.1, w) = e' := by simpa [hw, Except.map] using he
      exact ⟨rfl, rfl⟩
  · simp at h

end IterMap

/-! ### Items from several sources -/

namespace List

/-- A list has a counterpart exactly when each of its items has one. -/
theorem exists_forall₂_iff {α β : Type*} {R : α → β → Prop} {l : List α} :
    (∃ l', Forall₂ R l l') ↔ ∀ a ∈ l, ∃ b, R a b := by
  induction l with
  | nil => simp
  | cons a l ih =>
    rw [forall_mem_cons, ← ih]
    constructor
    · rintro ⟨l', h⟩
      cases h with
      | cons hab hrest => exact ⟨⟨_, hab⟩, _, hrest⟩
    · rintro ⟨⟨b, hab⟩, l', hrest⟩
      exact ⟨b :: l', .cons hab hrest⟩

/-- Related items satisfy related conditions. -/
theorem Forall₂.forall_mem_iff {α β : Type*} {R : α → β → Prop} {P : α → Prop} {Q : β → Prop}
    {l : List α} {l' : List β} (h : Forall₂ R l l') (hR : ∀ a b, R a b → (P a ↔ Q b)) :
    (∀ a ∈ l, P a) ↔ ∀ b ∈ l', Q b := by
  induction h with
  | nil => simp
  | cons hab _ ih => rw [forall_mem_cons, forall_mem_cons, ih, hR _ _ hab]

/-- Every item of a list has a position. -/
theorem exists_mem_zipIdx_of_mem {α : Type*} {l : List α} {a : α} (h : a ∈ l) :
    ∃ i, (a, i) ∈ l.zipIdx := by
  rw [← zipIdx_map_fst 0 l] at h
  obtain ⟨⟨a, i⟩, hmem, rfl⟩ := mem_map.mp h
  exact ⟨i, hmem⟩

/-- What a lookup returns is in the list. -/
theorem mem_of_lookup_eq_some {α β : Type*} [BEq α] [LawfulBEq α] {l : List (α × β)} {a : α}
    {b : β} (h : l.lookup a = some b) : (a, b) ∈ l := by
  obtain ⟨l₁, l₂, rfl, -⟩ := lookup_eq_some_iff.mp h
  simp

variable {ι α : Type*} [DecidableEq ι]

/-- If no source has two items with a property, the sources of the items with that
property are distinct. -/
theorem nodup_map_fst_filter {P : α → Prop} [DecidablePred P] {l : List (ι × α)}
    (h : ∀ i, ((l.filter (·.1 = i)).map (·.2)).Pairwise fun x y => ¬ (P x ∧ P y)) :
    ((l.filter fun p => P p.2).map (·.1)).Nodup := by
  induction l with
  | nil => simp
  | cons p l ih =>
    obtain ⟨i, x⟩ := p
    -- dropping an item leaves every source with a sublist of its items
    have htail : ∀ j, ((l.filter (·.1 = j)).map (·.2)).Pairwise fun x y => ¬ (P x ∧ P y) := by
      intro j
      have hj := h j
      by_cases hij : i = j
      · simp only [filter_cons, hij, decide_true, if_true, map_cons] at hj
        exact (pairwise_cons.mp hj).2
      · simpa [filter_cons, hij] using hj
    by_cases hx : P x
    · simp only [filter_cons, hx, decide_true, if_true, map_cons, nodup_cons]
      refine ⟨?_, ih htail⟩
      intro hmem
      obtain ⟨⟨j, y⟩, hy, rfl⟩ := mem_map.mp hmem
      simp only [mem_filter, decide_eq_true_eq] at hy
      have hi := h j
      simp only [filter_cons, decide_true, if_true, map_cons] at hi
      exact (pairwise_cons.mp hi).1 y (by simp [hy.1]) ⟨hx, hy.2⟩
    · simpa [filter_cons, hx] using ih htail

/-- Counting over all items is counting over the items of each source. -/
theorem countP_snd_eq_sum {P : α → Prop} [DecidablePred P] {sources : List ι}
    (nodup : sources.Nodup) {l : List (ι × α)} (hmem : ∀ p ∈ l, p.1 ∈ sources) :
    l.countP (fun p => P p.2) =
      (sources.map fun i => ((l.filter (·.1 = i)).map (·.2)).countP fun x => P x).sum := by
  rw [List.sum_toFinset _ nodup |>.symm]
  induction l with
  | nil => simp
  | cons p l ih =>
    obtain ⟨i, x⟩ := p
    have hi : i ∈ sources.toFinset := mem_toFinset.mpr (hmem (i, x) (by simp))
    -- the new item counts for its own source only
    have hsplit : ∀ j, ((((i, x) :: l).filter (·.1 = j)).map (·.2)).countP (fun x => P x) =
        ((l.filter (·.1 = j)).map (·.2)).countP (fun x => P x) +
          if i = j then (if P x then 1 else 0) else 0 := by
      intro j
      by_cases hij : i = j <;> simp [hij, countP_cons]
    rw [countP_cons, ih fun p hp => hmem p (by simp [hp]), Finset.sum_congr rfl fun j _ => hsplit j,
      Finset.sum_add_distrib, Finset.sum_ite_eq, if_pos hi]
    simp

/-- Of items with distinct keys, only the item itself has its key. -/
theorem filter_eq_singleton_of_nodup_map {f : α → ι} {l : List α} (h : (l.map f).Nodup) {a : α}
    (ha : a ∈ l) : l.filter (f · = f a) = [a] := by
  induction l with
  | nil => simp at ha
  | cons b l ih =>
    obtain ⟨hb, hl⟩ := nodup_cons.mp h
    rcases mem_cons.mp ha with rfl | ha
    · rw [filter_cons_of_pos (by simp), filter_eq_nil_iff.mpr]
      intro a' ha' heq
      exact hb (mem_map.mpr ⟨a', ha', of_decide_eq_true heq⟩)
    · rw [filter_cons_of_neg, ih hl ha]
      intro heq
      exact hb (of_decide_eq_true heq ▸ mem_map_of_mem ha)

/-- If every item is expanded to items with its key, selecting a key gives the expansion of the
item with that key. -/
theorem filter_flatMap_of_nodup_map {β : Type*} {f : α → ι} {expand : α → List β} {key : β → ι}
    {l : List α} (h : (l.map f).Nodup) (hkey : ∀ a ∈ l, ∀ b ∈ expand a, key b = f a) {a : α}
    (ha : a ∈ l) : (l.flatMap expand).filter (key · = f a) = expand a := by
  -- the key of an item tells from which element it was expanded
  have hselect : ∀ a' ∈ l, (expand a').filter (key · = f a) =
      if f a' = f a then expand a' else [] := by
    intro a' ha'
    split_ifs with heq
    · rw [filter_eq_self]
      intro b hb
      exact decide_eq_true ((hkey a' ha' b hb).trans heq)
    · rw [filter_eq_nil_iff]
      intro b hb hb'
      exact heq ((hkey a' ha' b hb).symm.trans (of_decide_eq_true hb'))
  calc (l.flatMap expand).filter (key · = f a)
      = l.flatMap fun a' => (expand a').filter (key · = f a) := filter_flatMap
    _ = l.flatMap fun a' => if f a' = f a then expand a' else [] := flatMap_congr hselect
    _ = (l.filter (f · = f a)).flatMap expand := by
        clear h hkey ha hselect
        induction l with
        | nil => rfl
        | cons a' l ih => by_cases heq : f a' = f a <;> simp [heq, ih]
    _ = expand a := by rw [filter_eq_singleton_of_nodup_map h ha, flatMap_singleton]

/-- Concatenating the items of distinct sources and then selecting one source gives
that source's items. -/
theorem map_snd_filter_flatMap {sources : List ι} (nodup : sources.Nodup) (f : ι → List α) (i : ι) :
    (((sources.flatMap fun j => (f j).map fun x => (j, x)).filter (·.1 = i)).map (·.2)) =
      if i ∈ sources then f i else [] := by
  induction sources with
  | nil => simp
  | cons j sources ih =>
    obtain ⟨hj, hrest⟩ := nodup_cons.mp nodup
    rw [flatMap_cons, filter_append, map_append, ih hrest]
    by_cases hij : i = j
    · subst hij
      simp [hj, filter_map, Function.comp_def]
    · simp [hij, Ne.symm hij, filter_map, Function.comp_def]

/-- Lists that agree source by source hold the same items. -/
theorem perm_of_forall_filter_eq {l l' : List (ι × α)}
    (h : ∀ i, (l.filter (·.1 = i)).map (·.2) = (l'.filter (·.1 = i)).map (·.2)) : l.Perm l' := by
  classical
  -- an item occurs as often as its value occurs among those of its source
  have hcount : ∀ (l : List (ι × α)) (i : ι) (x : α),
      l.count (i, x) = ((l.filter (·.1 = i)).map (·.2)).count x := by
    intro l i x
    induction l with
    | nil => rfl
    | cons p l ih =>
      obtain ⟨j, y⟩ := p
      by_cases hj : j = i
      · simp [hj, count_cons, ih]
      · simp [hj, ih]
  rw [perm_iff_count]
  rintro ⟨i, x⟩
  rw [hcount, hcount, h i]

/-! ### Items with equal keys together -/

section Contiguous

variable {κ : Type*} {key : α → κ}

/-- Between two items with the same key, all items have that key. -/
def Contiguous (key : α → κ) (l : List α) : Prop :=
  ∀ a b c, [a, b, c].Sublist l → key a = key c → key b = key a

omit [DecidableEq ι]

theorem contiguous_nil : Contiguous key [] := by
  intro a b c h
  simp at h

/-- Items with one key can be put in front of contiguous items with other keys. -/
theorem Contiguous.append_of_forall {k : κ} {l l' : List α} (h' : Contiguous key l')
    (hl : ∀ a ∈ l, key a = k) (hl' : ∀ a ∈ l', key a ≠ k) : Contiguous key (l ++ l') := by
  intro a b c hsublist hkey
  obtain ⟨s, s', heq, hs, hs'⟩ := sublist_append_iff.mp hsublist
  match s, heq with
  | [], heq =>
    obtain rfl : [a, b, c] = s' := heq
    exact h' a b c hs' hkey
  | [x], heq =>
    -- the first item and the last are on different sides
    obtain ⟨rfl, rfl⟩ : a = x ∧ [b, c] = s' := by simpa using heq
    exact absurd (hkey.symm.trans (hl a (hs.subset (by simp)))) (hl' c (hs'.subset (by simp)))
  | [x, y], heq =>
    obtain ⟨rfl, rfl, rfl⟩ : a = x ∧ b = y ∧ [c] = s' := by simpa using heq
    exact absurd (hkey.symm.trans (hl a (hs.subset (by simp)))) (hl' c (hs'.subset (by simp)))
  | x :: y :: z :: s, heq =>
    obtain ⟨rfl, rfl, -⟩ : a = x ∧ b = y ∧ [c] = z :: s ++ s' := by simpa using heq
    rw [hl a (hs.subset (by simp)), hl b (hs.subset (by simp))]

/-- Rows with one key each, all different, are contiguous. -/
theorem contiguous_flatten {keys : List κ} {rows : List (List α)} (nodup : keys.Nodup)
    (h : List.Forall₂ (fun k row => ∀ a ∈ row, key a = k) keys rows) :
    Contiguous key rows.flatten := by
  induction h with
  | nil => exact contiguous_nil
  | @cons k row keys rows hrow hrows ih =>
    obtain ⟨hk, nodup⟩ := nodup_cons.mp nodup
    refine (ih nodup).append_of_forall hrow ?_
    intro a ha heq
    -- the keys of the other rows are other keys
    have hmem : ∀ {keys : List κ} {rows : List (List α)},
        List.Forall₂ (fun k row => ∀ a ∈ row, key a = k) keys rows →
          ∀ a ∈ rows.flatten, key a ∈ keys := by
      intro keys rows h
      induction h with
      | nil => simp
      | cons hrow _ ih =>
        intro a ha
        rcases mem_append.mp ha with ha | ha
        · rw [hrow a ha]
          exact mem_cons_self
        · exact mem_cons_of_mem _ (ih a ha)
    exact hk (heq ▸ hmem hrows a ha)

end Contiguous

/-! ### One closing item -/

section ClosesOnce

variable {β : Type*}

/-- Exactly one item closes the list, and nothing after it has text. -/
def ClosesOnce (closing text : β → Prop) (l : List β) : Prop :=
  ∃ before x after, l = before ++ x :: after ∧ closing x ∧ (∀ y ∈ before, ¬ closing y) ∧
    ∀ y ∈ after, ¬ closing y ∧ ¬ text y

variable {closing text : β → Prop} {l : List β} {x : β}

theorem not_closesOnce_nil : ¬ ClosesOnce closing text [] := by
  rintro ⟨before, x, after, h, -⟩
  simp at h

theorem closesOnce_cons :
    ClosesOnce closing text (x :: l) ↔
      (closing x ∧ ∀ y ∈ l, ¬ closing y ∧ ¬ text y) ∨
        (¬ closing x ∧ ClosesOnce closing text l) := by
  constructor
  · rintro ⟨before, z, after, h, hz, hbefore, hafter⟩
    -- the head is the closing element, or comes before it
    cases before with
    | nil =>
      obtain ⟨rfl, rfl⟩ : x = z ∧ l = after := by simpa using h
      exact Or.inl ⟨hz, hafter⟩
    | cons y before =>
      obtain ⟨rfl, rfl⟩ : x = y ∧ l = before ++ z :: after := by simpa using h
      exact Or.inr ⟨hbefore x (by simp), before, z, after, rfl, hz,
        fun w hw => hbefore w (by simp [hw]), hafter⟩
  · rintro (⟨hx, hl⟩ | ⟨hx, before, z, after, rfl, hz, hbefore, hafter⟩)
    · exact ⟨[], x, l, rfl, hx, by simp, hl⟩
    · refine ⟨x :: before, z, after, rfl, hz, ?_, hafter⟩
      intro w hw
      rcases List.mem_cons.mp hw with rfl | hw
      · exact hx
      · exact hbefore w hw

instance decidableClosesOnce [DecidablePred closing] [DecidablePred text] :
    ∀ l, Decidable (ClosesOnce closing text l)
  | [] => isFalse not_closesOnce_nil
  | _ :: l =>
    haveI := decidableClosesOnce l
    decidable_of_iff _ closesOnce_cons.symm

/-- What an item of one list contributes to another: an item that closes contributes
either a closing item or an ordinary item followed by a closing one, any other item one
item that does not close and has text if the item has. -/
inductive Contributes (closing text : β → Prop) (closing' text' : α → Prop) (x : β) :
    List α → Prop
  | ordinary {y} (hx : ¬ closing x) (hy : ¬ closing' y) (htext : text' y ↔ text x) :
    Contributes closing text closing' text' x [y]
  | closing {y} (hx : closing x) (hy : closing' y) : Contributes closing text closing' text' x [y]
  | closingAfter {y z} (hx : closing x) (hy : ¬ closing' y) (hz : closing' z) :
    Contributes closing text closing' text' x [y, z]

omit [DecidableEq ι]

theorem forall_flatten_iff {closing' text' : α → Prop} {groups : List (List α)}
    (h : List.Forall₂ (Contributes closing text closing' text') l groups) :
    (∀ y ∈ groups.flatten, ¬ closing' y ∧ ¬ text' y) ↔ ∀ x ∈ l, ¬ closing x ∧ ¬ text x := by
  induction h with
  | nil => simp
  | cons hx _ ih =>
    rw [flatten_cons, forall_mem_cons, ← ih]
    cases hx with
    | ordinary hx hy htext => simp [hx, hy, htext]
    | closing hx hy => simp [hx, hy]
    | closingAfter hx hy hz => simp [hx, hz]

/-- A list that another one contributes to closes once exactly when that one does. -/
theorem closesOnce_flatten_iff {closing' text' : α → Prop} {groups : List (List α)}
    (h : List.Forall₂ (Contributes closing text closing' text') l groups) :
    ClosesOnce closing' text' groups.flatten ↔ ClosesOnce closing text l := by
  induction h with
  | nil => simp [not_closesOnce_nil]
  | cons hx hrest ih =>
    have hall := forall_flatten_iff hrest
    rw [flatten_cons, closesOnce_cons]
    cases hx with
    | ordinary hx hy htext => simp [closesOnce_cons, hx, hy, ih]
    | closing hx hy =>
      -- the closing item has been found, so the rest must neither close nor have text
      simp only [singleton_append, closesOnce_cons, hx, hy, true_and, not_true, false_and, or_false]
      exact hall
    | closingAfter hx hy hz =>
      simp only [cons_append, nil_append, closesOnce_cons, hx, hy, hz, true_and, not_true,
        not_false_eq_true, false_and, or_false, false_or]
      exact hall

end ClosesOnce

end List
