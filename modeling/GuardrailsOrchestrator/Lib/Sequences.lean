import Mathlib.Data.List.Forall2

/-!
# Lists that change in one place

A channel grows at its end and is read from its front, and a step of one task among several
replaces one entry of a list. The lemmas say what such a change keeps.
-/

namespace Except

variable {ε α : Type*}

@[simp] theorem toOption_ok (a : α) : (Except.ok a : Except ε α).toOption = some a := rfl

@[simp] theorem toOption_error (e : ε) : (Except.error e : Except ε α).toOption = none := rfl

end Except

namespace List

variable {α β : Type*}

/-- A beginning of a mapped list comes from one of the list. -/
theorem exists_of_prefix_map {f : α → β} {l : List α} {p : List β} (h : p <+: l.map f) :
    ∃ q, q <+: l ∧ q.map f = p := by
  obtain ⟨rest, heq⟩ := h
  obtain ⟨q, rest', rfl, rfl, -⟩ := append_eq_map_iff.mp heq
  exact ⟨q, prefix_append q rest', rfl⟩

/-- What is read next extends what was read before. -/
theorem IsPrefix.append_singleton {l l' : List α} {x : α} (h : l <+: l')
    (hx : l'[l.length]? = some x) : l ++ [x] <+: l' := by
  obtain ⟨rest, rfl⟩ := h
  rw [getElem?_append_right (Nat.le_refl _), Nat.sub_self] at hx
  obtain ⟨y, rest, rfl⟩ := exists_cons_of_ne_nil (ne_nil_of_mem (mem_of_getElem? hx))
  obtain rfl : y = x := by simpa using hx
  exact ⟨rest, by simp⟩

/-- An entry is replaced by one with the same relation to the other side. -/
theorem Forall₂.set_right {R : α → β → Prop} {l : List α} {l' : List β} (h : Forall₂ R l l')
    {i : ℕ} {b b' : β} (hb : l'[i]? = some b) (hR : ∀ a, l[i]? = some a → R a b → R a b') :
    Forall₂ R l (l'.set i b') := by
  induction h generalizing i with
  | nil => simp at hb
  | @cons a c l l' hac hrest ih =>
    cases i with
    | zero =>
      obtain rfl : c = b := by simpa using hb
      exact .cons (hR a rfl hac) hrest
    | succ i => exact .cons hac (ih (by simpa using hb) fun x hx => hR x (by simpa using hx))

end List
