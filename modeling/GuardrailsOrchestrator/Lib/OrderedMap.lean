import Mathlib.Data.List.Pairwise
import Mathlib.Data.List.Perm.Basic
import Mathlib.Data.String.Basic
import Mathlib.Order.Basic

/-!
# Ordered maps

A map kept as its list of entries in strictly ascending key order. Keys are
compared through a projection to a linear order, because an ordering may ignore
part of the key: two keys with the same projection are one key, and an update
keeps the key that was stored first.

## Main definitions

* `OrderedMap` — the entries, with the proof that they ascend
* `OrderedMap.alter` — the entry interface: insert when vacant, update when occupied
* `OrderedMap.firstKeyValue`, `OrderedMap.tail` — the entry with the least key, and the rest
* `OrderedMap.range` — the entries whose key lies in a closed interval

## Main results

* `get?_alter` — what every lookup returns after an update
* `alter_perm` — an update changes one entry and leaves the others in place
* `get?_tail` — what every lookup returns after the least entry is taken
-/

/-- The part of a key that its ordering looks at. -/
class OrdKey (K : Type*) (ι : outParam (Type*)) where
  /-- The value a key is compared by. -/
  key : K → ι

export OrdKey (key)

instance : OrdKey ℕ ℕ := ⟨id⟩

instance : OrdKey String String := ⟨id⟩

@[simp] theorem key_nat (n : ℕ) : key n = n := rfl

/-- A finite map whose entries stand in strictly ascending key order. -/
structure OrderedMap (K V : Type*) {ι : Type*} [LinearOrder ι] [OrdKey K ι] where
  /-- The entries, least key first. -/
  entries : List (K × V)
  /-- Keys ascend strictly, so no key occurs twice. -/
  ascending : entries.Pairwise fun x y => key x.1 < key y.1

namespace OrderedMap

variable {K V ι : Type*} [LinearOrder ι] [OrdKey K ι]

instance [DecidableEq K] [DecidableEq V] : DecidableEq (OrderedMap K V) := fun m m' =>
  decidable_of_iff (m.entries = m'.entries) (by cases m; cases m'; simp)

@[ext] theorem ext {m m' : OrderedMap K V} (h : m.entries = m'.entries) : m = m' := by
  cases m; cases m'; simpa using h

/-- The map without entries. -/
def empty : OrderedMap K V := ⟨[], .nil⟩

instance : Inhabited (OrderedMap K V) := ⟨empty⟩

@[simp] theorem entries_empty : (empty : OrderedMap K V).entries = [] := rfl

/-- Whether the map has no entry. -/
def isEmpty (m : OrderedMap K V) : Bool := m.entries.isEmpty

@[simp] theorem isEmpty_iff {m : OrderedMap K V} : m.isEmpty = true ↔ m.entries = [] := by
  simp [isEmpty]

/-! ### Lookup -/

/-- The value under the first key that compares equal. -/
def find (k : K) : List (K × V) → Option V
  | [] => none
  | (k', v) :: rest => if key k' = key k then some v else find k rest

/-- The value stored under a key. -/
def get? (m : OrderedMap K V) (k : K) : Option V := find k m.entries

@[simp] theorem get?_empty (k : K) : (empty : OrderedMap K V).get? k = none := rfl

theorem find_eq_none_of_forall_ne {k : K} {l : List (K × V)}
    (h : ∀ e ∈ l, key e.1 ≠ key k) : find k l = none := by
  induction l with
  | nil => rfl
  | cons e l ih =>
    simp only [find, if_neg (h e (by simp))]
    exact ih fun e' he' => h e' (by simp [he'])

theorem exists_mem_of_find_eq_some {k : K} {v : V} {l : List (K × V)}
    (h : find k l = some v) : ∃ k', key k' = key k ∧ (k', v) ∈ l := by
  induction l with
  | nil => simp [find] at h
  | cons e l ih =>
    obtain ⟨k', v'⟩ := e
    simp only [find] at h
    split at h
    case isTrue hk =>
      obtain rfl : v' = v := by simpa using h
      exact ⟨k', hk, by simp⟩
    case isFalse =>
      obtain ⟨k'', hk, hmem⟩ := ih h
      exact ⟨k'', hk, by simp [hmem]⟩

theorem find_eq_some_of_mem {k k' : K} {v : V} {l : List (K × V)}
    (ascending : l.Pairwise fun x y => key x.1 < key y.1) (hk : key k' = key k)
    (hmem : (k', v) ∈ l) : find k l = some v := by
  induction l with
  | nil => simp at hmem
  | cons e l ih =>
    obtain ⟨hhead, htail⟩ := List.pairwise_cons.mp ascending
    rcases List.mem_cons.mp hmem with rfl | hmem
    · simp [find, hk]
    · have hne : key e.1 ≠ key k := hk ▸ (hhead _ hmem).ne
      simpa only [find, if_neg hne] using ih htail hmem

/-- A lookup finds exactly the value of an entry whose key compares equal. -/
theorem get?_eq_some_iff {m : OrderedMap K V} {k : K} {v : V} :
    m.get? k = some v ↔ ∃ k', key k' = key k ∧ (k', v) ∈ m.entries :=
  ⟨exists_mem_of_find_eq_some, fun ⟨_, hk, hmem⟩ => find_eq_some_of_mem m.ascending hk hmem⟩

theorem get?_eq_some_of_mem {m : OrderedMap K V} {k : K} {v : V}
    (h : (k, v) ∈ m.entries) : m.get? k = some v :=
  get?_eq_some_iff.mpr ⟨k, rfl, h⟩

/-! ### The entry interface -/

/-- Update the value under `k`: `f none` when the entry is vacant, `f (some v)`
when it is occupied by `v`, whose stored key then stays. -/
def alterEntries (f : Option V → V) (k : K) : List (K × V) → List (K × V)
  | [] => [(k, f none)]
  | (k', v) :: rest =>
    if key k < key k' then (k, f none) :: (k', v) :: rest
    else if key k' < key k then (k', v) :: alterEntries f k rest
    else (k', f (some v)) :: rest

theorem mem_alterEntries {f : Option V → V} {k : K} {l : List (K × V)} {e : K × V}
    (h : e ∈ alterEntries f k l) : key e.1 = key k ∨ e ∈ l := by
  induction l with
  | nil => left; simp_all [alterEntries]
  | cons x l ih =>
    obtain ⟨k', v⟩ := x
    simp only [alterEntries] at h
    split_ifs at h with hlt hgt
    · rcases List.mem_cons.mp h with rfl | h
      · exact Or.inl rfl
      · exact Or.inr h
    · rcases List.mem_cons.mp h with rfl | h
      · exact Or.inr (by simp)
      · exact (ih h).imp_right fun h => by simp [h]
    · rcases List.mem_cons.mp h with rfl | h
      · exact Or.inl (le_antisymm (not_lt.mp hlt) (not_lt.mp hgt))
      · exact Or.inr (by simp [h])

theorem ascending_alterEntries {f : Option V → V} {k : K} {l : List (K × V)}
    (h : l.Pairwise fun x y => key x.1 < key y.1) :
    (alterEntries f k l).Pairwise fun x y => key x.1 < key y.1 := by
  induction l with
  | nil => simp [alterEntries]
  | cons x l ih =>
    obtain ⟨k', v⟩ := x
    obtain ⟨hhead, htail⟩ := List.pairwise_cons.mp h
    simp only [alterEntries]
    split_ifs with hlt hgt
    · refine List.pairwise_cons.mpr ⟨?_, h⟩
      intro e he
      rcases List.mem_cons.mp he with rfl | he
      · exact hlt
      · exact hlt.trans (hhead e he)
    · refine List.pairwise_cons.mpr ⟨?_, ih htail⟩
      intro e he
      rcases mem_alterEntries he with hk | he
      · simpa only [hk] using hgt
      · exact hhead e he
    · exact List.pairwise_cons.mpr ⟨hhead, htail⟩

/-- The map after an update of the entry of `k`. -/
def alter (m : OrderedMap K V) (k : K) (f : Option V → V) : OrderedMap K V :=
  ⟨alterEntries f k m.entries, ascending_alterEntries m.ascending⟩

/-- Store a value, replacing the one that is there. -/
def insert (m : OrderedMap K V) (k : K) (v : V) : OrderedMap K V := m.alter k fun _ => v

theorem find_alterEntries {f : Option V → V} {k k' : K} {l : List (K × V)}
    (h : l.Pairwise fun x y => key x.1 < key y.1) :
    find k' (alterEntries f k l) =
      if key k' = key k then some (f (find k l)) else find k' l := by
  induction l with
  | nil => simp [alterEntries, find, eq_comm]
  | cons x l ih =>
    obtain ⟨k₀, v⟩ := x
    obtain ⟨hhead, htail⟩ := List.pairwise_cons.mp h
    rcases lt_trichotomy (key k) (key k₀) with hlt | hk | hgt
    · -- all stored keys are greater, so the entry is vacant and comes first
      have hvacant : find k ((k₀, v) :: l) = none :=
        find_eq_none_of_forall_ne fun e he => by
          rcases List.mem_cons.mp he with rfl | he
          · exact hlt.ne'
          · exact (hlt.trans (hhead e he)).ne'
      rw [alterEntries, if_pos hlt, hvacant, find]
      simp only [eq_comm]
    · -- the head is the entry that is updated
      have hfound : find k ((k₀, v) :: l) = some v := by simp [find, hk]
      rw [alterEntries, if_neg hk.not_lt, if_neg hk.symm.not_lt, hfound]
      by_cases heq : key k' = key k
      · simp [find, ← hk, heq]
      · simp [find, ← hk, heq, Ne.symm heq]
    · -- the head is skipped by the update and by the lookup of `k`
      have hskip : find k ((k₀, v) :: l) = find k l := by rw [find, if_neg hgt.ne]
      rw [alterEntries, if_neg hgt.not_gt, if_pos hgt, hskip, find, ih htail, find]
      by_cases heq : key k' = key k
      · simp [heq, hgt.ne]
      · simp [heq]

/-- What every lookup returns after an update. -/
theorem get?_alter (m : OrderedMap K V) (k k' : K) (f : Option V → V) :
    (m.alter k f).get? k' = if key k' = key k then some (f (m.get? k)) else m.get? k' :=
  find_alterEntries m.ascending

theorem alterEntries_perm {f : Option V → V} {k : K} {l : List (K × V)}
    (h : l.Pairwise fun x y => key x.1 < key y.1) :
    (find k l = none ∧ (alterEntries f k l).Perm ((k, f none) :: l)) ∨
      ∃ k' v rest, key k' = key k ∧ l.Perm ((k', v) :: rest) ∧
        (alterEntries f k l).Perm ((k', f (some v)) :: rest) := by
  induction l with
  | nil => exact Or.inl ⟨rfl, .refl _⟩
  | cons x l ih =>
    obtain ⟨k₀, v₀⟩ := x
    obtain ⟨hhead, htail⟩ := List.pairwise_cons.mp h
    simp only [alterEntries]
    -- the entry goes before the head, comes later, or is the head
    split_ifs with hlt hgt
    · refine Or.inl ⟨find_eq_none_of_forall_ne ?_, .refl _⟩
      intro e he
      rcases List.mem_cons.mp he with rfl | he
      · exact hlt.ne'
      · exact (hlt.trans (hhead e he)).ne'
    · rcases ih htail with ⟨hvacant, hperm⟩ | ⟨k', v, rest, hk, hold, hnew⟩
      · exact Or.inl ⟨by rw [find, if_neg hgt.ne, hvacant],
          (hperm.cons _).trans (.swap _ _ _)⟩
      · exact Or.inr ⟨k', v, (k₀, v₀) :: rest, hk, (hold.cons _).trans (.swap _ _ _),
          (hnew.cons _).trans (.swap _ _ _)⟩
    · exact Or.inr ⟨k₀, v₀, l, le_antisymm (not_lt.mp hlt) (not_lt.mp hgt), .refl _, .refl _⟩

/-- An update adds one entry, or changes the value of one entry, and leaves every
other entry as it was. -/
theorem alter_perm (m : OrderedMap K V) (k : K) (f : Option V → V) :
    (m.get? k = none ∧ (m.alter k f).entries.Perm ((k, f none) :: m.entries)) ∨
      ∃ k' v rest, key k' = key k ∧ m.entries.Perm ((k', v) :: rest) ∧
        (m.alter k f).entries.Perm ((k', f (some v)) :: rest) :=
  alterEntries_perm m.ascending

theorem alterEntries_of_forall_lt {f : Option V → V} {k : K} {l : List (K × V)}
    (h : ∀ e ∈ l, key e.1 < key k) : alterEntries f k l = l ++ [(k, f none)] := by
  induction l with
  | nil => rfl
  | cons e l ih =>
    have he := h e (by simp)
    rw [alterEntries, if_neg he.not_gt, if_pos he, ih fun e' he' => h e' (by simp [he'])]
    rfl

/-- A key beyond all others is added at the end. -/
theorem entries_insert_of_forall_lt {m : OrderedMap K V} {k : K}
    (h : ∀ e ∈ m.entries, key e.1 < key k) (v : V) :
    (m.insert k v).entries = m.entries ++ [(k, v)] :=
  alterEntries_of_forall_lt h

theorem length_entries_alter_le (m : OrderedMap K V) (k : K) (f : Option V → V) :
    (m.alter k f).entries.length ≤ m.entries.length + 1 := by
  rcases m.alter_perm k f with ⟨-, hperm⟩ | ⟨k', v, rest, -, hold, hnew⟩
  · exact hperm.length_eq.le
  · rw [hnew.length_eq, hold.length_eq]
    simp

theorem entries_alter_ne_nil (m : OrderedMap K V) (k : K) (f : Option V → V) :
    (m.alter k f).entries ≠ [] := by
  change alterEntries f k m.entries ≠ []
  cases m.entries with
  | nil => simp [alterEntries]
  | cons e l =>
    rw [alterEntries]
    split_ifs <;> simp

/-- The map without the entry under `k`. -/
def erase (m : OrderedMap K V) (k : K) : OrderedMap K V :=
  ⟨m.entries.filter (key ·.1 ≠ key k), m.ascending.filter _⟩

/-! ### The ends of the map -/

/-- The entry with the least key. -/
def firstKeyValue (m : OrderedMap K V) : Option (K × V) := m.entries.head?

/-- The entry with the greatest key. -/
def lastKeyValue (m : OrderedMap K V) : Option (K × V) := m.entries.getLast?

/-- The keys in ascending order. -/
def keys (m : OrderedMap K V) : List K := m.entries.map (·.1)

theorem nodup_keys (m : OrderedMap K V) : m.keys.Nodup := by
  rw [keys, List.Nodup, List.pairwise_map]
  refine m.ascending.imp ?_
  intro x y hlt heq
  rw [heq] at hlt
  exact lt_irrefl _ hlt

/-- Remove the entry with the least key. -/
def tail (m : OrderedMap K V) : OrderedMap K V := ⟨m.entries.tail, m.ascending.tail⟩

theorem entries_eq_cons_of_firstKeyValue {m : OrderedMap K V} {e : K × V}
    (h : m.firstKeyValue = some e) : m.entries = e :: m.tail.entries := by
  rcases m with ⟨_ | ⟨x, l⟩, _⟩
  · simp [firstKeyValue] at h
  · simpa [firstKeyValue, tail, eq_comm] using h

/-- The first entry has the least key. -/
theorem firstKeyValue_lt {m : OrderedMap K V} {e e' : K × V} (h : m.firstKeyValue = some e)
    (hmem : e' ∈ m.tail.entries) : key e.1 < key e'.1 := by
  have hascending := m.ascending
  rw [entries_eq_cons_of_firstKeyValue h] at hascending
  exact (List.pairwise_cons.mp hascending).1 e' hmem

theorem firstKeyValue_le {m : OrderedMap K V} {e e' : K × V} (h : m.firstKeyValue = some e)
    (hmem : e' ∈ m.entries) : key e.1 ≤ key e'.1 := by
  rw [entries_eq_cons_of_firstKeyValue h] at hmem
  rcases List.mem_cons.mp hmem with rfl | hmem
  · exact le_rfl
  · exact (firstKeyValue_lt h hmem).le

/-- What every lookup returns once the least entry is taken. -/
theorem get?_tail {m : OrderedMap K V} {e : K × V} (h : m.firstKeyValue = some e) (k : K) :
    m.tail.get? k = if key k = key e.1 then none else m.get? k := by
  have hentries := entries_eq_cons_of_firstKeyValue h
  split_ifs with hk
  · exact find_eq_none_of_forall_ne fun e' he' => hk ▸ (firstKeyValue_lt h he').ne'
  · rw [get?, get?, hentries, find, if_neg (Ne.symm hk)]

/-! ### Ranges -/

omit [LinearOrder ι] [OrdKey K ι] in
/-- In an ascending list, an element with the greatest value stands at the end. -/
theorem getLast?_eq_of_forall_le {α β : Type*} [Preorder β] {f : α → β} {l : List α} {x : α}
    (ascending : l.Pairwise fun x y => f x < f y) (hx : x ∈ l) (h : ∀ y ∈ l, f y ≤ f x) :
    l.getLast? = some x := by
  obtain ⟨before, after, rfl⟩ := List.append_of_mem hx
  cases after with
  | nil => simp
  | cons y after =>
    rw [List.pairwise_append, List.pairwise_cons] at ascending
    have hlt : f x < f y := ascending.2.1.1 y (by simp)
    exact absurd (h y (by simp)) hlt.not_ge

/-- The entries whose key lies between `lo` and `hi`, both included. -/
def range (m : OrderedMap K V) (lo hi : ι) : List (K × V) :=
  m.entries.filter fun e => lo ≤ key e.1 ∧ key e.1 ≤ hi

theorem mem_range {m : OrderedMap K V} {lo hi : ι} {e : K × V} :
    e ∈ m.range lo hi ↔ e ∈ m.entries ∧ lo ≤ key e.1 ∧ key e.1 ≤ hi := by
  simp [range]

/-- The last entry of a range has the greatest key in it. -/
theorem le_of_getLast?_range {m : OrderedMap K V} {lo hi : ι} {e e' : K × V}
    (h : (m.range lo hi).getLast? = some e) (hmem : e' ∈ m.range lo hi) : key e'.1 ≤ key e.1 := by
  obtain ⟨before, hrange⟩ := List.getLast?_eq_some_iff.mp h
  have hascending : (m.range lo hi).Pairwise fun x y => key x.1 < key y.1 := m.ascending.filter _
  rw [hrange] at hmem hascending
  rcases List.mem_append.mp hmem with hmem | hmem
  · exact ((List.pairwise_append.mp hascending).2.2 e' hmem e (by simp)).le
  · obtain rfl := List.mem_singleton.mp hmem
    exact le_rfl

/-- A range that ends in a key of the map ends in its entry. -/
theorem getLast?_range {m : OrderedMap K V} {lo : ι} {e : K × V} (he : e ∈ m.entries)
    (hlo : lo ≤ key e.1) : (m.range lo (key e.1)).getLast? = some e :=
  getLast?_eq_of_forall_le (f := fun e => key e.1) (m.ascending.filter _)
    (mem_range.mpr ⟨he, hlo, le_rfl⟩) fun _ hmem => (mem_range.mp hmem).2.2

end OrderedMap
