import GuardrailsOrchestrator.Lib.Collections
import Mathlib.Algebra.BigOperators.Group.List.Basic
import Mathlib.Algebra.Order.BigOperators.Group.List
import Mathlib.Algebra.Order.Ring.Nat
import Mathlib.Data.List.Sort

/-!
# Ranges of a sorted list

A list in ascending order of its keys is read range by range: for each range in turn, everything
whose key lies in the range. If the ranges begin in ascending order, the list is read as a whole,
in its order and once, exactly when each key lies in one range. Keys that nothing is read from may
lie in any number of ranges.

## Main definitions

* `Ranges.times` — how many ranges have a key
* `Ranges.read` — what is read from a list, range by range

## Main results

* `Ranges.read_eq` — reading each key once reads the list
* `Ranges.times_eq_one_of_read_eq`, `Ranges.times_eq_one_of_nodup` — and conversely, if nothing
  is left out or nothing occurs twice in the list
-/

namespace Ranges

variable {ι α β : Type*} [LinearOrder ι]

/-- Whether a key lies in a range. Both ends belong to the range. -/
def Contains (range : ι × ι) (i : ι) : Prop := range.1 ≤ i ∧ i ≤ range.2

instance (range : ι × ι) (i : ι) : Decidable (Contains range i) :=
  inferInstanceAs (Decidable (_ ∧ _))

/-- How many of the ranges have a key. -/
def times (ranges : List (ι × ι)) (i : ι) : ℕ := ranges.countP (Contains · i)

/-- The entries with a key in a range. -/
def within (range : ι × ι) (l : List (ι × α)) : List (ι × α) := l.filter (Contains range ·.1)

/-- What is read from a list, range by range. -/
def read (contents : ι × α → List β) (ranges : List (ι × ι)) (l : List (ι × α)) : List β :=
  ranges.flatMap fun range => (within range l).flatMap contents

variable {contents : ι × α → List β} {ranges : List (ι × ι)} {l : List (ι × α)}

theorem read_append (ranges' : List (ι × ι)) :
    read contents (ranges ++ ranges') l = read contents ranges l ++ read contents ranges' l :=
  List.flatMap_append

theorem mem_within {range : ι × ι} {e : ι × α} :
    e ∈ within range l ↔ e ∈ l ∧ Contains range e.1 := by
  rw [within, List.mem_filter, decide_eq_true_eq]

theorem within_append (range : ι × ι) (l l' : List (ι × α)) :
    within range (l ++ l') = within range l ++ within range l' :=
  List.filter_append l l'

theorem within_cons (range : ι × ι) (e : ι × α) (l : List (ι × α)) :
    within range (e :: l) =
      if Contains range e.1 then e :: within range l else within range l := by
  rw [within, List.filter_cons]
  split_ifs with h h' h'
  · rfl
  · exact absurd (of_decide_eq_true h) h'
  · exact absurd (decide_eq_true h') h
  · rfl

/-- A range of one key has the entry of that key. -/
theorem within_self (ascending : l.Pairwise fun x y => x.1 < y.1) {e : ι × α} (he : e ∈ l) :
    within (e.1, e.1) l = [e] := by
  have hnodup : (l.map (·.1)).Nodup := List.pairwise_map.mpr (ascending.imp fun h => h.ne)
  rw [← List.filter_eq_singleton_of_nodup_map hnodup he]
  apply List.filter_congr
  intro x _
  rw [decide_eq_decide]
  exact ⟨fun h => le_antisymm h.2 h.1, fun h => ⟨h.ge, h.le⟩⟩

/-- A range that goes on to the next key has one more entry. -/
theorem within_next {before after : List (ι × α)} {e : ι × α} {start stop : ι}
    (ascending : (before ++ e :: after).Pairwise fun x y => x.1 < y.1)
    (hbefore : ∀ x ∈ before, x.1 ≤ stop) (hstop : stop < e.1) (hstart : start ≤ stop) :
    within (start, e.1) (before ++ e :: after) =
      within (start, stop) (before ++ e :: after) ++ [e] := by
  obtain ⟨-, hafter, hcross⟩ := List.pairwise_append.mp ascending
  -- the entries after this one are too late for either range
  have hlater : ∀ bound ≤ e.1, within (start, bound) after = [] := by
    intro bound hbound
    rw [within, List.filter_eq_nil_iff]
    intro x hx hcontains
    have hlt := (List.pairwise_cons.mp hafter).1 x hx
    exact absurd ((of_decide_eq_true hcontains).2.trans hbound) hlt.not_ge
  have hsame : within (start, e.1) before = within (start, stop) before := by
    apply List.filter_congr
    intro x hx
    rw [decide_eq_decide]
    have hlt := hcross x hx e List.mem_cons_self
    exact ⟨fun h => ⟨h.1, hbefore x hx⟩, fun h => ⟨h.1, hlt.le⟩⟩
  have hself : Contains (start, e.1) e.1 := ⟨hstart.trans hstop.le, le_rfl⟩
  have hnext : ¬ Contains (start, stop) e.1 := fun h => absurd h.2 hstop.not_ge
  rw [within_append, within_append, within_cons, within_cons, if_pos hself, if_neg hnext,
    hlater _ le_rfl, hlater _ hstop.le, hsame, List.append_nil]

/-! ### Each key in one range -/

/-- Two ranges do not share a key that lies in one range only. -/
theorem pairwise_of_times_eq_one {i : ι} (h : times ranges i = 1) :
    ranges.Pairwise fun range range' => ¬ (Contains range i ∧ Contains range' i) := by
  have hle : times ranges i ≤ 1 := h.le
  clear h
  induction ranges with
  | nil => exact .nil
  | cons range ranges ih =>
    rw [times, List.countP_cons] at hle
    refine List.pairwise_cons.mpr ⟨?_, ih (Nat.le_of_add_right_le hle)⟩
    rintro range' hrange' ⟨hi, hi'⟩
    have hpos : 0 < ranges.countP (Contains · i) :=
      List.countP_pos_iff.mpr ⟨range', hrange', decide_eq_true hi'⟩
    rw [if_pos (decide_eq_true hi)] at hle
    omega

/-- If each key of a list lies in one range, the ranges divide the list. -/
theorem flatMap_within_eq (ascending : l.Pairwise fun x y => x.1 < y.1)
    (hranges : ranges.Pairwise fun range range' => range.1 ≤ range'.1)
    (once : ∀ e ∈ l, times ranges e.1 = 1) : (ranges.flatMap fun range => within range l) = l := by
  have hirrefl : Std.Irrefl fun x y : ι × α => x.1 < y.1 := ⟨fun x => lt_irrefl x.1⟩
  refine List.Pairwise.eq_of_mem_iff (r := fun x y => x.1 < y.1) ?_ ascending ?_
  · refine List.pairwise_flatMap.mpr ⟨fun range _ => ascending.filter _, ?_⟩
    rw [List.pairwise_iff_getElem] at hranges ⊢
    intro i j hi hj hij x hx y hy
    obtain ⟨hxl, hx⟩ := mem_within.mp hx
    obtain ⟨hyl, hy⟩ := mem_within.mp hy
    -- otherwise the first of the two ranges would contain `y` as well
    by_contra hle
    have hfirst : Contains ranges[i] y.1 :=
      ⟨(hranges i j hi hj hij).trans hy.1, (not_lt.mp hle).trans hx.2⟩
    have hpairwise := pairwise_of_times_eq_one (once y hyl)
    rw [List.pairwise_iff_getElem] at hpairwise
    exact hpairwise i j hi hj hij ⟨hfirst, hy⟩
  · intro e
    rw [List.mem_flatMap]
    constructor
    · rintro ⟨range, -, he⟩
      exact (mem_within.mp he).1
    · intro he
      have hpos : 0 < times ranges e.1 := by rw [once e he]; exact Nat.one_pos
      obtain ⟨range, hrange, hcontains⟩ := List.countP_pos_iff.mp hpos
      exact ⟨range, hrange, mem_within.mpr ⟨he, of_decide_eq_true hcontains⟩⟩

omit [LinearOrder ι] in
/-- Entries with nothing to be read may be left out. -/
theorem flatMap_filter_contents (l : List (ι × α)) :
    (l.filter fun e => !(contents e).isEmpty).flatMap contents = l.flatMap contents := by
  induction l with
  | nil => rfl
  | cons e l ih =>
    rw [List.filter_cons, List.flatMap_cons, ← ih]
    cases hcontents : contents e with
    | nil => simp
    | cons b bs => simp [hcontents]

/-- **Reading once.** If each key with something to be read lies in one range, reading range by
range reads the list. -/
theorem read_eq (ascending : l.Pairwise fun x y => x.1 < y.1)
    (hranges : ranges.Pairwise fun range range' => range.1 ≤ range'.1)
    (once : ∀ e ∈ l, contents e ≠ [] → times ranges e.1 = 1) :
    read contents ranges l = l.flatMap contents := by
  -- entries without contents may be read any number of times
  have hdivides := flatMap_within_eq (l := l.filter fun e => !(contents e).isEmpty)
    (ascending.filter _) hranges (by
      intro e he
      obtain ⟨hel, hcontents⟩ := List.mem_filter.mp he
      exact once e hel (by simpa using hcontents))
  calc read contents ranges l
      = ranges.flatMap fun range =>
          (within range (l.filter fun e => !(contents e).isEmpty)).flatMap contents := by
        apply List.flatMap_congr
        intro range _
        rw [← flatMap_filter_contents, within, within, List.filter_comm]
    _ = (ranges.flatMap fun range =>
          within range (l.filter fun e => !(contents e).isEmpty)).flatMap contents := by
        rw [List.flatMap_assoc]
    _ = l.flatMap contents := by rw [hdivides, flatMap_filter_contents]

/-! ### Counting -/

/-- What is read from a range, counted. -/
theorem countP_within (p : β → Bool) (range : ι × ι) (l : List (ι × α)) :
    ((within range l).flatMap contents).countP p =
      (l.map fun e => if Contains range e.1 then (contents e).countP p else 0).sum := by
  induction l with
  | nil => rfl
  | cons e l ih =>
    rw [within_cons, List.map_cons, List.sum_cons, ← ih]
    by_cases h : Contains range e.1 <;> simp [h]

/-- Everything is read as often as there are ranges with its key. -/
theorem countP_read (p : β → Bool) (ranges : List (ι × ι)) (l : List (ι × α)) :
    (read contents ranges l).countP p =
      (l.map fun e => times ranges e.1 * (contents e).countP p).sum := by
  induction ranges with
  | nil => simp [read, times]
  | cons range ranges ih =>
    have hcons : read contents (range :: ranges) l =
        (within range l).flatMap contents ++ read contents ranges l := List.flatMap_cons
    rw [hcons, List.countP_append, countP_within, ih, ← List.sum_map_add]
    congr 1
    apply List.map_congr_left
    intro e _
    by_cases h : Contains range e.1
    · simp [h, times, Nat.add_mul, Nat.add_comm]
    · simp [h, times]

omit [LinearOrder ι] in
theorem countP_flatMap_contents (p : β → Bool) (l : List (ι × α)) :
    (l.flatMap contents).countP p = (l.map fun e => (contents e).countP p).sum := by
  rw [List.countP_flatMap]
  rfl

/-- If nothing is left out, a list is read only by reading each key once. -/
theorem times_eq_one_of_read_eq (h : read contents ranges l = l.flatMap contents)
    (reached : ∀ e ∈ l, contents e ≠ [] → 0 < times ranges e.1) :
    ∀ e ∈ l, contents e ≠ [] → times ranges e.1 = 1 := by
  have hsum := congrArg (List.countP fun _ => true) h
  rw [countP_read, countP_flatMap_contents] at hsum
  simp only [List.countP_true] at hsum
  clear h
  -- no key lowers the sum, so none can raise it
  have hle : ∀ e ∈ l, (contents e).length ≤ times ranges e.1 * (contents e).length := by
    intro e he
    by_cases hcontents : contents e = []
    · simp [hcontents]
    · exact Nat.le_mul_of_pos_left _ (reached e he hcontents)
  intro e he hcontents
  obtain ⟨l₁, l₂, rfl⟩ := List.append_of_mem he
  have h₁ := List.sum_le_sum (l := l₁) fun e' he' => hle e' (by simp [he'])
  have h₂ := List.sum_le_sum (l := l₂) fun e' he' => hle e' (by simp [he'])
  have hpos := List.length_pos_iff.mpr hcontents
  simp only [List.map_append, List.map_cons, List.sum_append, List.sum_cons] at hsum
  have heq : times ranges e.1 * (contents e).length = 1 * (contents e).length := by
    have := hle e (by simp)
    omega
  exact Nat.eq_of_mul_eq_mul_right hpos heq

omit [LinearOrder ι] in
theorem sum_mul_eq_zero (weight count : ι × α → ℕ) (h : (l.map count).sum = 0) :
    (l.map fun e => weight e * count e).sum = 0 := by
  rw [List.sum_eq_zero_iff_forall_eq_nat, List.forall_mem_map] at h ⊢
  intro e he
  rw [h e he, Nat.mul_zero]

/-- If nothing occurs twice in a list, it is read only by reading each key once. -/
theorem times_eq_one_of_nodup (h : read contents ranges l = l.flatMap contents)
    (hnodup : (l.flatMap contents).Nodup) :
    ∀ e ∈ l, contents e ≠ [] → times ranges e.1 = 1 := by
  classical
  intro e he hcontents
  obtain ⟨b, hb⟩ := List.exists_mem_of_ne_nil _ hcontents
  have hsum := congrArg (List.countP (· == b)) h
  have hone : (l.flatMap contents).countP (· == b) = 1 :=
    List.count_eq_one_of_mem hnodup (List.mem_flatMap.mpr ⟨e, he, hb⟩)
  rw [hone, countP_read] at hsum
  rw [countP_flatMap_contents] at hone
  obtain ⟨l₁, l₂, rfl⟩ := List.append_of_mem he
  have hpos : 0 < (contents e).countP (· == b) := List.count_pos_iff.mpr hb
  simp only [List.map_append, List.map_cons, List.sum_append, List.sum_cons] at hsum hone
  -- it is read from this key only, so the other summands are zero
  have h₁ := sum_mul_eq_zero (l := l₁) (fun e => times ranges e.1)
    (fun e => (contents e).countP (· == b)) (by omega)
  have h₂ := sum_mul_eq_zero (l := l₂) (fun e => times ranges e.1)
    (fun e => (contents e).countP (· == b)) (by omega)
  have hcount : (contents e).countP (· == b) = 1 := by omega
  rw [h₁, h₂, hcount, Nat.mul_one, Nat.zero_add, Nat.add_zero] at hsum
  exact hsum

end Ranges
