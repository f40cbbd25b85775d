import Mathlib.Data.List.DropRight
import Mathlib.Data.List.Infix

/-!
# Cutting lists and joining texts

Splitting a list at the occurrences of a pair of adjacent items, and trimming it at
both ends. Both work from left to right, as the corresponding operations on texts do.
The last section is about concatenations of texts.

## Main results

* `splitPair_append` — a part that does not contain the pair is cut off as it is
* `infix_of_infix_append` — where a part cannot begin
* `trim_cons_append` — what has solid ends is not trimmed
* `String.join_map_append_eq_iff` — when additions to the parts of a concatenation show
-/

namespace List

variable {α : Type*}

/-- An infix cannot begin among items that differ from its first one. -/
theorem infix_of_infix_append {x : α} {l l₁ l₂ : List α} (h : x :: l <:+: l₁ ++ l₂)
    (hx : x ∉ l₁) : x :: l <:+: l₂ := by
  induction l₁ with
  | nil => exact h
  | cons a l₁ ih =>
    rw [mem_cons, not_or] at hx
    rw [cons_append, infix_cons_iff] at h
    rcases h with hstart | hpart
    · exact absurd (cons_prefix_cons.mp hstart).1 hx.1
    · exact ih hpart hx.2

/-- A list without an item has no part that begins with it. -/
theorem not_infix_of_notMem {x : α} {l l' : List α} (h : x ∉ l') : ¬ x :: l <:+: l' := by
  intro hpart
  exact h (hpart.subset mem_cons_self)

/-! ### Splitting -/

/-- Puts an item in front of the first part. -/
def consHead (a : α) : List (List α) → List (List α)
  | [] => [[a]]
  | part :: parts => (a :: part) :: parts

section Split

variable [DecidableEq α]

/-- The parts of a list between the occurrences of the pair `x`, `y`. -/
def splitPair (x y : α) : List α → List (List α)
  | [] => [[]]
  | [a] => [[a]]
  | a :: b :: l =>
    if a = x ∧ b = y then [] :: splitPair x y l else consHead a (splitPair x y (b :: l))

variable {x y : α} {l rest : List α}

theorem splitPair_cons_cons_of_not {a b : α} (h : ¬ [x, y] <:+: a :: b :: l) :
    splitPair x y (a :: b :: l) = consHead a (splitPair x y (b :: l)) := by
  rw [splitPair, if_neg]
  rintro ⟨rfl, rfl⟩
  exact h ⟨[], l, rfl⟩

/-- A list without the pair is one part. -/
theorem splitPair_eq_singleton (h : ¬ [x, y] <:+: l) : splitPair x y l = [l] := by
  induction l with
  | nil => rfl
  | cons a l ih =>
    cases l with
    | nil => rfl
    | cons b l =>
      rw [splitPair_cons_cons_of_not h, ih]
      · rfl
      · intro hpart
        exact h (hpart.trans (infix_cons (infix_refl _)))

/-- A part is cut off where the pair occurs first. -/
theorem splitPair_append (h : ¬ [x, y] <:+: l ++ [x]) :
    splitPair x y (l ++ x :: y :: rest) = l :: splitPair x y rest := by
  induction l with
  | nil => simp [splitPair]
  | cons a l ih =>
    have htail : ¬ [x, y] <:+: l ++ [x] := by
      intro hpart
      exact h (hpart.trans (infix_cons (infix_refl _)))
    cases l with
    | nil =>
      have hne : ¬ (a = x ∧ x = y) := by
        rintro ⟨rfl, rfl⟩
        exact h (infix_refl _)
      rw [cons_append, nil_append, splitPair, if_neg hne, ← nil_append (x :: y :: rest), ih htail]
      rfl
    | cons b l =>
      have hne : ¬ (a = x ∧ b = y) := by
        rintro ⟨rfl, rfl⟩
        exact h ⟨[], l ++ [a], rfl⟩
      rw [cons_append, cons_append, splitPair, if_neg hne, ← cons_append, ih htail]
      rfl

end Split

/-! ### Trimming -/

section Trim

variable {p : α → Bool} {l : List α}

/-- Drops the items that satisfy a condition at both ends. -/
def trim (p : α → Bool) (l : List α) : List α := (l.dropWhile p).rdropWhile p

theorem rdropWhile_eq_self_of_trim (h : trim p l = l) : l.rdropWhile p = l := by
  have hdrop : l.dropWhile p = l := by
    apply (dropWhile_suffix p).sublist.eq_of_length_le
    calc l.length = (trim p l).length := by rw [h]
      _ ≤ (l.dropWhile p).length := ( rdropWhile_prefix p _).length_le
  rwa [trim, hdrop] at h

/-- The last item of a trimmed list does not satisfy the condition. -/
theorem not_getLast_of_trim (h : trim p l = l) (hl : l ≠ []) : ¬ p (l.getLast hl) :=
  rdropWhile_eq_self_iff.mp (rdropWhile_eq_self_of_trim h) hl

/-- A trimmed list stays trimmed behind items that begin with a solid one. -/
theorem trim_cons_append {a : α} {l' : List α} (ha : ¬ p a) (h : trim p l = l) (hl : l ≠ []) :
    trim p (a :: l' ++ l) = a :: l' ++ l := by
  have hdrop : (a :: l' ++ l).dropWhile p = a :: l' ++ l := by
    simp [ha]
  rw [trim, hdrop, rdropWhile_eq_self_iff]
  intro hne
  rw [getLast_append_of_ne_nil hne hl]
  exact not_getLast_of_trim h hl

end Trim

end List

/-! ### Concatenations -/

namespace String

variable {α : Type*}

/-- A concatenation is empty exactly when all its parts are. -/
theorem join_eq_empty_iff {l : List String} : join l = "" ↔ ∀ s ∈ l, s = "" := by
  induction l with
  | nil => simp
  | cons s l ih => rw [join_cons, append_eq_empty_iff, ih, List.forall_mem_cons]

/-- Absent parts count as empty. -/
theorem join_filterMap (l : List α) (f : α → Option String) :
    join (l.filterMap f) = join (l.map fun a => (f a).getD "") := by
  induction l with
  | nil => rfl
  | cons a l ih => cases h : f a <;> simp [h, ih]

theorem length_join_map_append (f g : α → String) (l : List α) :
    (join (l.map fun a => f a ++ g a)).length =
      (join (l.map f)).length + (join (l.map g)).length := by
  induction l with
  | nil => simp
  | cons a l ih =>
    simp only [List.map_cons, join_cons, length_append, ih]
    omega

/-- Appending something to each part changes the concatenation unless it is nothing. -/
theorem join_map_append_eq_iff (f g : α → String) (l : List α) :
    join (l.map fun a => f a ++ g a) = join (l.map f) ↔ ∀ a ∈ l, g a = "" := by
  constructor
  · intro h
    have hlength := length_join_map_append f g l
    rw [h] at hlength
    have hempty : join (l.map g) = "" := by
      rw [← length_eq_zero_iff]
      omega
    simpa [join_eq_empty_iff] using hempty
  · intro h
    congr 1
    apply List.map_congr_left
    intro a ha
    rw [h a ha, append_empty]

end String
