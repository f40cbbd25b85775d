import Mathlib.Data.List.Infix

/-!
# Slices and occurrences

A list occurs in another at an offset if the other continues with it there. Occurrences
compose, with their offsets added, and a slice of an occurrence is a slice of the whole
list, shifted by the offset. A position in a part of a text is translated to the text by
exactly these two facts.
-/

namespace List

variable {α : Type*}

/-- The items from position `start` up to position `stop`, as far as there are any. -/
def slice (l : List α) (start stop : ℕ) : List α := (l.drop start).take (stop - start)

/-- `part` occurs in `l` at an offset. -/
def OccursAt (part l : List α) (offset : ℕ) : Prop := part <+: l.drop offset

theorem occursAt_zero (l : List α) : l.OccursAt l 0 := List.prefix_rfl

theorem occursAt_slice (l : List α) (start stop : ℕ) : (l.slice start stop).OccursAt l start :=
  List.take_prefix _ _

/-- Occurrences compose. -/
theorem OccursAt.trans {l part inner : List α} {offset shift : ℕ} (h : part.OccursAt l offset)
    (h' : inner.OccursAt part shift) : inner.OccursAt l (shift + offset) := by
  rw [OccursAt, Nat.add_comm, ← List.drop_drop]
  exact List.IsPrefix.trans h' (List.IsPrefix.drop h shift)

/-- A slice of an occurrence is a slice of the whole. -/
theorem OccursAt.slice_eq {l part : List α} {offset start stop : ℕ} (h : part.OccursAt l offset)
    (hstop : stop ≤ part.length) :
    l.slice (start + offset) (stop + offset) = part.slice start stop := by
  obtain ⟨rest, hrest⟩ := h
  rw [slice, slice, Nat.add_sub_add_right, Nat.add_comm start, ← List.drop_drop, ← hrest]
  rcases Nat.le_total start part.length with hstart | hstart
  · rw [List.drop_append_of_le_length hstart,
      List.take_append_of_le_length (by rw [List.length_drop]; omega)]
  · rw [Nat.sub_eq_zero_of_le (Nat.le_trans hstop hstart), List.take_zero, List.take_zero]

end List
