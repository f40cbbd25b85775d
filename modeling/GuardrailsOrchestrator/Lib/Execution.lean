import Mathlib.Data.List.Basic

/-!
# Executions of a deterministic labelled step function

Concurrent code is embedded here as a *scheduled* machine: a label says which
party moves next, and `step s a` is the state after that move, or `none` when
the party cannot move. A schedule is a list of labels, so quantifying over all
interleavings is quantifying over all lists.

`Meets` records a condition on every step of a schedule, read in the state the
step is taken from. `exec_invariant` is the one induction the development runs
on schedules: whatever one admissible step preserves, every admissible run
preserves.
-/

namespace Transition

variable {σ α : Type*}

/-- The state a schedule leads to, if every one of its steps is enabled. -/
def exec (step : σ → α → Option σ) : σ → List α → Option σ
  | s, [] => some s
  | s, a :: w => (step s a).bind fun t => exec step t w

/-- Every step of the schedule meets `ok` in the state it is taken from. -/
def Meets (step : σ → α → Option σ) (ok : σ → α → Prop) : σ → List α → Prop
  | _, [] => True
  | s, a :: w => ok s a ∧ ∀ t, step s a = some t → Meets step ok t w

variable {step : σ → α → Option σ} {ok : σ → α → Prop} {s t u : σ} {a : α} {w : List α}

@[simp] theorem exec_nil : exec step s [] = some s := rfl

@[simp] theorem meets_nil : Meets step ok s [] := trivial

/-- Whether a given schedule meets a condition can be checked by running it. -/
instance decidableMeets [∀ s a, Decidable (ok s a)] : ∀ s w, Decidable (Meets step ok s w)
  | _, [] => isTrue trivial
  | s, a :: w =>
    match hstep : step s a with
    | none => decidable_of_iff (ok s a) (by simp [Meets, hstep])
    | some t =>
      haveI := decidableMeets t w
      decidable_of_iff (ok s a ∧ Meets step ok t w) (by simp [Meets, hstep])

theorem exec_cons_eq_some :
    exec step s (a :: w) = some u ↔ ∃ t, step s a = some t ∧ exec step t w = some u := by
  simp [exec, Option.bind_eq_some_iff]

theorem exec_append (w w' : List α) :
    exec step s (w ++ w') = (exec step s w).bind fun t => exec step t w' := by
  induction w generalizing s with
  | nil => rfl
  | cons a w ih =>
    simp only [List.cons_append, exec, Option.bind_assoc]
    congr
    ext1 t
    exact ih

theorem exec_append_singleton_eq_some :
    exec step s (w ++ [a]) = some u ↔ ∃ t, exec step s w = some t ∧ step t a = some u := by
  simp [exec_append, exec, Option.bind_eq_some_iff]

/-- A schedule meets a condition if its first part does and, from there, the rest. -/
theorem meets_append {w w' : List α} (h : Meets step ok s w) (run : exec step s w = some t)
    (h' : Meets step ok t w') : Meets step ok s (w ++ w') := by
  induction w generalizing s with
  | nil =>
    obtain rfl : s = t := by simpa using run
    exact h'
  | cons a w ih =>
    obtain ⟨m, hstep, hrun⟩ := exec_cons_eq_some.mp run
    refine ⟨h.1, ?_⟩
    intro m' hstep'
    obtain rfl : m = m' := Option.some.inj (hstep.symm.trans hstep')
    exact ih (h.2 m hstep) hrun

/-- A schedule that can be run leads to some state. -/
theorem exec_eq_some_get (h : (exec step s w).isSome = true) :
    exec step s w = some ((exec step s w).get h) :=
  (Option.some_get h).symm

/-- An invariant of every admissible step is an invariant of every admissible run. -/
theorem exec_invariant {I : σ → Prop}
    (preserved : ∀ s a t, I s → ok s a → step s a = some t → I t)
    (holds : I s) (meets : Meets step ok s w) (run : exec step s w = some t) : I t := by
  induction w generalizing s with
  | nil =>
    obtain rfl : s = t := by simpa using run
    exact holds
  | cons a w ih =>
    obtain ⟨m, hstep, hrun⟩ := exec_cons_eq_some.mp run
    exact ih (preserved s a m holds meets.1 hstep) (meets.2 m hstep) hrun

theorem Meets.mono {ok' : σ → α → Prop} (h : Meets step ok s w) (hok : ∀ s a, ok s a → ok' s a) :
    Meets step ok' s w := by
  induction w generalizing s with
  | nil => trivial
  | cons a w ih => exact ⟨hok s a h.1, fun t hstep => ih (h.2 t hstep)⟩

theorem meets_of_forall (h : ∀ s a, ok s a) : Meets step ok s w := by
  induction w generalizing s with
  | nil => trivial
  | cons a w ih => exact ⟨h s a, fun _ _ => ih⟩

/-- An invariant of every step is an invariant of every run. -/
theorem exec_invariant_all {I : σ → Prop} (preserved : ∀ s a t, I s → step s a = some t → I t)
    (holds : I s) (run : exec step s w = some t) : I t :=
  exec_invariant (fun s a t hs _ => preserved s a t hs) holds
    (meets_of_forall fun _ _ => trivial) run

/-- If a step leads to a state with `I` exactly when it is an admissible step from a state
with `I`, then so does a run. -/
theorem exec_iff_meets {I J : σ → Prop} (invariant : ∀ s a t, J s → step s a = some t → J t)
    (decides : ∀ s a t, J s → step s a = some t → (I t ↔ I s ∧ ok s a))
    (always : J s) (run : exec step s w = some t) : I t ↔ I s ∧ Meets step ok s w := by
  induction w generalizing s with
  | nil =>
    obtain rfl : s = t := by simpa using run
    simp
  | cons a w ih =>
    obtain ⟨m, hstep, hrun⟩ := exec_cons_eq_some.mp run
    -- the rest of the run decides from the middle state, and the first step decides for it
    rw [ih (invariant s a m always hstep) hrun, decides s a m always hstep, and_assoc]
    simp [Meets, hstep]

/-- Two conditions that agree on every step from a state with `J` agree on runs. -/
theorem meets_congr {ok' : σ → α → Prop} {J : σ → Prop}
    (invariant : ∀ s a t, J s → step s a = some t → J t)
    (agree : ∀ s a t, J s → step s a = some t → (ok s a ↔ ok' s a))
    (always : J s) (run : exec step s w = some t) : Meets step ok s w ↔ Meets step ok' s w := by
  induction w generalizing s with
  | nil => simp
  | cons a w ih =>
    obtain ⟨m, hstep, hrun⟩ := exec_cons_eq_some.mp run
    simp only [Meets, hstep, Option.some.injEq, forall_eq']
    rw [agree s a m always hstep, ih (invariant s a m always hstep) hrun]

/-- If an admissible step can be taken until a goal is reached, and every step uses up some
of a budget, then an admissible run reaches the goal. -/
theorem exists_exec_of_progress {budget : σ → ℕ} {goal : σ → Prop}
    (decreases : ∀ s a t, step s a = some t → budget t < budget s)
    (progress : ∀ s, ¬ goal s → ∃ a t, ok s a ∧ step s a = some t) (s : σ) :
    ∃ w t, Meets step ok s w ∧ exec step s w = some t ∧ goal t := by
  induction hn : budget s using Nat.strongRecOn generalizing s with
  | ind n ih =>
    by_cases hgoal : goal s
    · exact ⟨[], s, trivial, rfl, hgoal⟩
    · obtain ⟨a, m, hok, hstep⟩ := progress s hgoal
      obtain ⟨w, t, hmeets, hrun, ht⟩ := ih (budget m) (hn ▸ decreases s a m hstep) m rfl
      refine ⟨a :: w, t, ⟨hok, ?_⟩, exec_cons_eq_some.mpr ⟨m, hstep, hrun⟩, ht⟩
      intro m' hstep'
      obtain rfl : m = m' := Option.some.inj (hstep.symm.trans hstep')
      exact hmeets

/-- If the steps of one machine are simulated by those of another, so are its runs. -/
theorem exists_exec_of_simulation {τ β : Type*} {step' : τ → β → Option τ} {v : τ}
    {R : σ → τ → Prop}
    (simulates : ∀ s v a t, R s v → step s a = some t → ∃ b u, step' v b = some u ∧ R t u)
    (related : R s v) (run : exec step s w = some t) :
    ∃ w' u, exec step' v w' = some u ∧ R t u := by
  induction w generalizing s v with
  | nil =>
    obtain rfl : s = t := by simpa using run
    exact ⟨[], v, rfl, related⟩
  | cons a w ih =>
    obtain ⟨m, hstep, hrun⟩ := exec_cons_eq_some.mp run
    obtain ⟨b, m', hstep', hrelated⟩ := simulates s v a m related hstep
    obtain ⟨w', u, hrun', hend⟩ := ih hrelated hrun
    exact ⟨b :: w', u, exec_cons_eq_some.mpr ⟨m', hstep', hrun'⟩, hend⟩

/-- If every step uses up some of a budget, no run is longer than the budget. -/
theorem exec_length_add_le {budget : σ → ℕ}
    (decreases : ∀ s a t, step s a = some t → budget t < budget s)
    (run : exec step s w = some t) : w.length + budget t ≤ budget s := by
  induction w generalizing s with
  | nil =>
    obtain rfl : s = t := by simpa using run
    simp
  | cons a w ih =>
    obtain ⟨m, hstep, hrun⟩ := exec_cons_eq_some.mp run
    have hrest := ih hrun
    have hfirst := decreases s a m hstep
    rw [List.length_cons]
    omega

end Transition
