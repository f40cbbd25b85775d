import Mathlib.Data.List.OfFn
import Mathlib.Data.List.Perm.Basic

/-!
# Programs that call services

A program makes calls and goes on with their answers, and ends with a value or a failure. Nothing is
assumed of the answers: the same call may be answered differently each time. Calls that are made
concurrently are answered in any order, and the program goes on when all of them are.

A run is the list of the calls with their answers. `runs_bind_iff` takes the runs of a composed
program apart, so what is shown of all runs of its parts is combined by rules for `bind`.

## Main definitions

* `Program` — programs, with their composition
* `Runs` — the runs of a program
* `Strict` — a program that fails if one of its calls does
* `FailsBy` — why a program fails
* `retry` — a call that is repeated, with a pause in between, while it fails for a time
-/

namespace Calls

/-- A program with calls `C` that are answered by `A`. -/
inductive Program (C : Type) (A : C → Type) (ε α : Type) where
  | done (result : Except ε α)
  /-- Concurrent calls. -/
  | all {n : ℕ} (calls : Fin n → C) (next : (∀ i, A (calls i)) → Program C A ε α)

/-- A call with its answer. -/
abbrev Exchange (C : Type) (A : C → Type) := (c : C) × A c

variable {C : Type} {A : C → Type} {ε α β : Type}

namespace Program

/-- Go on with the value of a program, if it does not fail. -/
def bind : Program C A ε α → (α → Program C A ε β) → Program C A ε β
  | .done (.ok a), f => f a
  | .done (.error e), _ => .done (.error e)
  | .all calls next, f => .all calls fun answers => (next answers).bind f

instance : Monad (Program C A ε) where
  pure a := .done (.ok a)
  bind := bind

/-- End, with a value or a failure. -/
def ofExcept (result : Except ε α) : Program C A ε α := .done result

/-- Make concurrent calls. -/
def callAll {n : ℕ} (calls : Fin n → C) : Program C A ε (∀ i, A (calls i)) :=
  .all calls fun answers => .done (.ok answers)

/-- Make one call. -/
def call (c : C) : Program C A ε (A c) :=
  .all (fun _ : Fin 1 => c) fun answers => .done (.ok (answers 0))

/-- Change the failures of a program. -/
def mapError {ε' : Type} (f : ε → ε') : Program C A ε α → Program C A ε' α
  | .done result => .done (result.mapError f)
  | .all calls next => .all calls fun answers => (next answers).mapError f

/-- Run a program with services that always answer the same. -/
def respond (answer : ∀ c, A c) : Program C A ε α → List (Exchange C A) × Except ε α
  | .done result => ([], result)
  | .all calls next =>
    let rest := (next fun i => answer (calls i)).respond answer
    (List.ofFn (fun i => ⟨calls i, answer (calls i)⟩) ++ rest.1, rest.2)

end Program

open Program

/-- A program makes the calls of the list, with these answers, and ends. -/
inductive Runs : Program C A ε α → List (Exchange C A) → Except ε α → Prop
  | done (result : Except ε α) : Runs (.done result) [] result
  | all {n : ℕ} {calls : Fin n → C} {next : (∀ i, A (calls i)) → Program C A ε α}
    (answers : ∀ i, A (calls i)) {events w : List (Exchange C A)} {result : Except ε α}
    (order : events.Perm (List.ofFn fun i => ⟨calls i, answers i⟩))
    (rest : Runs (next answers) w result) : Runs (.all calls next) (events ++ w) result

/-! ### Runs of composed programs -/

section Runs

variable {p : Program C A ε α} {f : α → Program C A ε β} {w : List (Exchange C A)}

@[simp] theorem runs_done_iff {result result' : Except ε α} :
    Runs (.done result : Program C A ε α) w result' ↔ w = [] ∧ result' = result := by
  constructor
  · rintro ⟨⟩
    exact ⟨rfl, rfl⟩
  · rintro ⟨rfl, rfl⟩
    exact .done _

@[simp] theorem runs_ofExcept_iff {result result' : Except ε α} :
    Runs (ofExcept result : Program C A ε α) w result' ↔ w = [] ∧ result' = result :=
  runs_done_iff

@[simp] theorem runs_pure_iff {a : α} {result : Except ε α} :
    Runs (pure a : Program C A ε α) w result ↔ w = [] ∧ result = .ok a :=
  runs_done_iff

theorem runs_all_iff {n : ℕ} {calls : Fin n → C} {next : (∀ i, A (calls i)) → Program C A ε α}
    {result : Except ε α} : Runs (.all calls next) w result ↔
      ∃ answers events w', events.Perm (List.ofFn fun i => ⟨calls i, answers i⟩) ∧
        w = events ++ w' ∧ Runs (next answers) w' result := by
  constructor
  · rintro (_ | ⟨answers, order, rest⟩)
    exact ⟨answers, _, _, order, rfl, rest⟩
  · rintro ⟨answers, events, w', order, rfl, rest⟩
    exact .all answers order rest

theorem runs_callAll_iff {n : ℕ} {calls : Fin n → C} {result : Except ε (∀ i, A (calls i))} :
    Runs (callAll calls) w result ↔ ∃ answers, result = .ok answers ∧
      w.Perm (List.ofFn fun i => ⟨calls i, answers i⟩) := by
  rw [callAll, runs_all_iff]
  constructor
  · rintro ⟨answers, events, w', order, rfl, rest⟩
    obtain ⟨rfl, rfl⟩ := runs_done_iff.mp rest
    exact ⟨answers, rfl, by rwa [List.append_nil]⟩
  · rintro ⟨answers, rfl, order⟩
    exact ⟨answers, w, [], order, (List.append_nil w).symm, .done _⟩

@[simp] theorem runs_call_iff {c : C} {result : Except ε (A c)} :
    Runs (call c) w result ↔ ∃ answer, w = [⟨c, answer⟩] ∧ result = .ok answer := by
  rw [call, runs_all_iff]
  constructor
  · rintro ⟨answers, events, w', order, rfl, rest⟩
    obtain ⟨rfl, rfl⟩ := runs_done_iff.mp rest
    refine ⟨answers 0, ?_, rfl⟩
    rw [List.append_nil, ← List.perm_singleton]
    simpa using order
  · rintro ⟨answer, rfl, rfl⟩
    exact ⟨fun _ => answer, [⟨c, answer⟩], [], by simp, rfl, .done _⟩

/-- A composed program fails in its first part, or goes on with the value of the first part. -/
theorem runs_bind_iff {result : Except ε β} : Runs (p >>= f) w result ↔
    (∃ e, Runs p w (.error e) ∧ result = .error e) ∨
      ∃ a w₁ w₂, w = w₁ ++ w₂ ∧ Runs p w₁ (.ok a) ∧ Runs (f a) w₂ result := by
  change Runs (p.bind f) w result ↔ _
  induction p generalizing w with
  | done r =>
    cases r with
    | error e => simp [Program.bind]
    | ok a => simp [Program.bind]
  -- the calls come before either part
  | all calls next ih =>
    simp only [Program.bind, runs_all_iff, ih]
    constructor
    · rintro ⟨answers, events, w', order, rfl, ⟨e, hfirst, rfl⟩ | ⟨a, w₁, w₂, rfl, hfirst, hrest⟩⟩
      · exact Or.inl ⟨e, ⟨answers, events, w', order, rfl, hfirst⟩, rfl⟩
      · refine Or.inr ⟨a, events ++ w₁, w₂, by simp, ?_, hrest⟩
        exact ⟨answers, events, w₁, order, rfl, hfirst⟩
    · rintro (⟨e, ⟨answers, events, w', order, rfl, hfirst⟩, rfl⟩ |
        ⟨a, -, w₂, rfl, ⟨answers, events, w₁, order, rfl, hfirst⟩, hrest⟩)
      · exact ⟨answers, events, w', order, rfl, Or.inl ⟨e, hfirst, rfl⟩⟩
      · exact ⟨answers, events, w₁ ++ w₂, order, by simp, Or.inr ⟨a, w₁, w₂, rfl, hfirst, hrest⟩⟩

theorem runs_bind_ok_iff {b : β} : Runs (p >>= f) w (.ok b) ↔
    ∃ a w₁ w₂, w = w₁ ++ w₂ ∧ Runs p w₁ (.ok a) ∧ Runs (f a) w₂ (.ok b) := by
  simp [runs_bind_iff]

theorem runs_call_bind_iff {c : C} {f : A c → Program C A ε β} {result : Except ε β} :
    Runs (call c >>= f) w result ↔
      ∃ answer w', w = ⟨c, answer⟩ :: w' ∧ Runs (f answer) w' result := by
  rw [runs_bind_iff]
  constructor
  · rintro (⟨e, hcall, -⟩ | ⟨answer, w₁, w₂, rfl, hcall, hrest⟩)
    · simp at hcall
    · obtain ⟨answer', rfl, hanswer⟩ := runs_call_iff.mp hcall
      obtain rfl := Except.ok.inj hanswer
      exact ⟨answer, w₂, rfl, hrest⟩
  · rintro ⟨answer, w', rfl, hrest⟩
    exact Or.inr ⟨answer, [⟨c, answer⟩], w', rfl, runs_call_iff.mpr ⟨answer, rfl, rfl⟩, hrest⟩

theorem runs_mapError_iff {ε' : Type} {g : ε → ε'} {result : Except ε' α} :
    Runs (p.mapError g) w result ↔ ∃ result', Runs p w result' ∧ result = result'.mapError g := by
  induction p generalizing w with
  | done r => simp [Program.mapError]
  | all calls next ih =>
    simp only [Program.mapError, runs_all_iff, ih]
    constructor
    · rintro ⟨answers, events, w', order, rfl, result', hrun, rfl⟩
      exact ⟨result', ⟨answers, events, w', order, rfl, hrun⟩, rfl⟩
    · rintro ⟨result', ⟨answers, events, w', order, rfl, hrun⟩, rfl⟩
      exact ⟨answers, events, w', order, rfl, result', hrun, rfl⟩

/-- Services that always answer the same give a run. -/
theorem runs_respond (answer : ∀ c, A c) (p : Program C A ε α) :
    Runs p (p.respond answer).1 (p.respond answer).2 := by
  induction p with
  | done result => exact .done result
  | all calls next ih => exact .all _ (.refl _) (ih _)

end Runs

/-! ### Calls that a program makes -/

/-- Every call, with whatever answer, satisfies `P`. -/
def Makes (P : Exchange C A → Prop) (p : Program C A ε α) : Prop :=
  ∀ w result, Runs p w result → ∀ event ∈ w, P event

/-- If the program does not fail, all answers satisfy `P`. -/
def Strict (P : Exchange C A → Prop) (p : Program C A ε α) : Prop :=
  ∀ w a, Runs p w (.ok a) → ∀ event ∈ w, P event

/-- If the program fails, it is with one of its own failures, or with that of an answer. -/
def FailsBy (own : ε → Prop) (F : Exchange C A → ε → Prop) (p : Program C A ε α) : Prop :=
  ∀ w e, Runs p w (.error e) → own e ∨ ∃ event ∈ w, F event e

section Rules

variable {P : Exchange C A → Prop} {p : Program C A ε α} {f : α → Program C A ε β}

theorem Makes.strict (h : Makes P p) : Strict P p := fun w a hrun => h w (.ok a) hrun

theorem makes_ofExcept (result : Except ε α) : Makes P (ofExcept result : Program C A ε α) := by
  intro w result' hrun
  obtain ⟨rfl, -⟩ := runs_ofExcept_iff.mp hrun
  simp

theorem makes_call {c : C} (h : ∀ answer, P ⟨c, answer⟩) :
    Makes P (call c : Program C A ε (A c)) := by
  intro w result hrun
  obtain ⟨answer, rfl, -⟩ := runs_call_iff.mp hrun
  simpa using h answer

theorem makes_callAll {n : ℕ} {calls : Fin n → C} (h : ∀ i answer, P ⟨calls i, answer⟩) :
    Makes P (callAll calls : Program C A ε _) := by
  intro w result hrun event hevent
  obtain ⟨answers, -, order⟩ := runs_callAll_iff.mp hrun
  obtain ⟨i, rfl⟩ := (List.mem_ofFn' _ _).mp (order.mem_iff.mp hevent)
  exact h i _

theorem Makes.bind (hp : Makes P p) (hf : ∀ a, Makes P (f a)) : Makes P (p >>= f) := by
  intro w result hrun
  rcases runs_bind_iff.mp hrun with ⟨e, hfirst, -⟩ | ⟨a, w₁, w₂, rfl, hfirst, hrest⟩
  · exact hp w _ hfirst
  · intro event hevent
    rcases List.mem_append.mp hevent with hevent | hevent
    · exact hp w₁ _ hfirst event hevent
    · exact hf a w₂ _ hrest event hevent

/-- What a composed program needs of its second part: it fails whenever an answer of the first part
calls for it. -/
theorem Strict.bind_of_runs (hp : ∀ w a, Runs p w (.ok a) → (∃ w' b, Runs (f a) w' (.ok b)) →
    ∀ event ∈ w, P event) (hf : ∀ a, Strict P (f a)) : Strict P (p >>= f) := by
  intro w b hrun event hevent
  obtain ⟨a, w₁, w₂, rfl, hfirst, hrest⟩ := runs_bind_ok_iff.mp hrun
  rcases List.mem_append.mp hevent with hevent | hevent
  · exact hp w₁ a hfirst ⟨w₂, b, hrest⟩ event hevent
  · exact hf a w₂ b hrest event hevent

variable {own : ε → Prop} {F : Exchange C A → ε → Prop}

theorem failsBy_ofExcept {result : Except ε α} (h : ∀ e, result = .error e → own e) :
    FailsBy own F (ofExcept result : Program C A ε α) := by
  intro w e hrun
  obtain ⟨-, hresult⟩ := runs_ofExcept_iff.mp hrun
  exact Or.inl (h e hresult.symm)

theorem FailsBy.bind (hp : FailsBy own F p) (hf : ∀ a, FailsBy own F (f a)) :
    FailsBy own F (p >>= f) := by
  intro w e hrun
  rcases runs_bind_iff.mp hrun with ⟨e', hfirst, he⟩ | ⟨a, w₁, w₂, rfl, hfirst, hrest⟩
  · obtain rfl := Except.error.inj he
    exact hp w e hfirst
  · refine (hf a w₂ e hrest).imp_right fun ⟨event, hevent, hfails⟩ => ?_
    exact ⟨event, List.mem_append_right w₁ hevent, hfails⟩

theorem Strict.bind (hp : Strict P p) (hf : ∀ a, Strict P (f a)) : Strict P (p >>= f) :=
  Strict.bind_of_runs (fun w a hfirst _ => hp w a hfirst) hf

end Rules

/-! ### Repeated calls -/

section Retry

variable (c : C) (read : A c → Except ε α) (pause : ℕ → C) (isTransient : ε → Bool)
  (maxRetries : ℕ)

/-- Make a call. If it fails for a time, and not too often, make it again after a pause. -/
def retry (attempt : ℕ) : Program C A ε α := do
  let answer ← call c
  match read answer with
  | .ok a => pure a
  | .error e =>
    if isTransient e then
      if maxRetries < attempt then ofExcept (.error e)
      else do
        let _ ← call (pause attempt)
        retry (attempt + 1)
    else ofExcept (.error e)
termination_by maxRetries + 1 - attempt

variable [∀ k, Unique (A (pause k))]

/-- Answers to attempts from the given one on, each with the pause after it. -/
def failedAttempts (attempt : ℕ) : List (A c) → List (Exchange C A)
  | [] => []
  | answer :: rest =>
    ⟨c, answer⟩ :: ⟨pause attempt, default⟩ :: failedAttempts (attempt + 1) rest

variable {c read pause isTransient maxRetries} {w : List (Exchange C A)} {result : Except ε α}

/-- The answer is a failure after which the call is made again. -/
def FailsForATime (read : A c → Except ε α) (isTransient : ε → Bool) (answer : A c) : Prop :=
  ∃ e, read answer = .error e ∧ isTransient e = true

/-- What follows the answer to an attempt. -/
theorem runs_read_iff {attempt : ℕ} {answer : A c} :
    Runs (match read answer with
      | .ok a => pure a
      | .error e =>
        if isTransient e then
          if maxRetries < attempt then ofExcept (.error e)
          else do
            let _ ← call (pause attempt)
            retry c read pause isTransient maxRetries (attempt + 1)
        else ofExcept (.error e)) w result ↔
      (w = [] ∧ result = read answer ∧
        (FailsForATime read isTransient answer → maxRetries < attempt)) ∨
      ∃ w', w = ⟨pause attempt, default⟩ :: w' ∧ attempt ≤ maxRetries ∧
        FailsForATime read isTransient answer ∧
        Runs (retry c read pause isTransient maxRetries (attempt + 1)) w' result := by
  cases hread : read answer with
  | ok a => simp [FailsForATime, hread]
  | error e =>
    have hfails : FailsForATime read isTransient answer ↔ isTransient e = true := by
      simp [FailsForATime, hread]
    rw [hfails]
    by_cases htransient : isTransient e = true
    · -- the last attempt fails for good, any other is followed by a pause
      by_cases hlast : maxRetries < attempt
      · simp [htransient, hlast, Nat.not_le.mpr hlast]
      · simp only [htransient, hlast, if_true, if_false, runs_call_bind_iff]
        constructor
        · rintro ⟨answer', w', rfl, hrest⟩
          refine Or.inr ⟨w', ?_, Nat.not_lt.mp hlast, trivial, hrest⟩
          rw [Unique.eq_default answer']
        · rintro (⟨-, -, hfalse⟩ | ⟨w', rfl, -, -, hrest⟩)
          · exact absurd (hfalse trivial) id
          · exact ⟨default, w', rfl, hrest⟩
    · simp [htransient]

/-- One attempt: the call is made, and either its result is that of the program, or the program
pauses and goes on with the next attempt. -/
theorem runs_retry_step {attempt : ℕ} :
    Runs (retry c read pause isTransient maxRetries attempt) w result ↔
      (∃ answer, w = [⟨c, answer⟩] ∧ result = read answer ∧
        (FailsForATime read isTransient answer → maxRetries < attempt)) ∨
      ∃ answer w', w = ⟨c, answer⟩ :: ⟨pause attempt, default⟩ :: w' ∧ attempt ≤ maxRetries ∧
        FailsForATime read isTransient answer ∧
        Runs (retry c read pause isTransient maxRetries (attempt + 1)) w' result := by
  rw [retry, runs_call_bind_iff]
  constructor
  · rintro ⟨answer, w', rfl, hrest⟩
    rcases runs_read_iff.mp hrest with ⟨rfl, hresult, hlast⟩ | ⟨w', rfl, hle, hfails, hrun⟩
    · exact Or.inl ⟨answer, rfl, hresult, hlast⟩
    · exact Or.inr ⟨answer, w', rfl, hle, hfails, hrun⟩
  · rintro (⟨answer, rfl, hresult, hlast⟩ | ⟨answer, w', rfl, hle, hfails, hrun⟩)
    · exact ⟨answer, [], rfl, runs_read_iff.mpr (Or.inl ⟨rfl, hresult, hlast⟩)⟩
    · exact ⟨answer, _, rfl, runs_read_iff.mpr (Or.inr ⟨w', rfl, hle, hfails, hrun⟩)⟩

/-- The runs of a repeated call: attempts that fail for a time, and a last one, whose result is that
of the program. The last one fails for a time only if there are no further attempts. -/
theorem runs_retry_iff {attempt : ℕ} :
    Runs (retry c read pause isTransient maxRetries attempt) w result ↔
      ∃ failed last, w = failedAttempts c pause attempt failed ++ [⟨c, last⟩] ∧
        result = read last ∧ (∀ answer ∈ failed, FailsForATime read isTransient answer) ∧
        failed.length ≤ maxRetries + 1 - attempt ∧
        (FailsForATime read isTransient last → failed.length = maxRetries + 1 - attempt) := by
  constructor
  · intro h
    -- induction on the attempts that are left, with the first one taken off the run
    generalize hrest : maxRetries + 1 - attempt = rest
    induction rest generalizing attempt w with
    | zero =>
      rcases runs_retry_step.mp h with ⟨answer, rfl, hresult, -⟩ | ⟨answer, w', -, hle, -⟩
      · exact ⟨[], answer, rfl, hresult, by simp, le_rfl, fun _ => rfl⟩
      · omega
    | succ rest ih =>
      rcases runs_retry_step.mp h with ⟨answer, rfl, hresult, hlast⟩ |
        ⟨answer, w', rfl, hle, hfails, hrun⟩
      · refine ⟨[], answer, rfl, hresult, by simp, Nat.zero_le _, fun hfails => ?_⟩
        have hlt := hlast hfails
        omega
      · obtain ⟨failed, last, rfl, hresult, hfailed, hlength, hlast⟩ := ih hrun (by omega)
        refine ⟨answer :: failed, last, rfl, hresult, ?_, by simpa using hlength, ?_⟩
        · simpa using ⟨hfails, hfailed⟩
        · intro hfails'
          simpa using hlast hfails'
  · rintro ⟨failed, last, rfl, hresult, hfailed, hlength, hlast⟩
    induction failed generalizing attempt with
    | nil =>
      refine runs_retry_step.mpr (Or.inl ⟨last, rfl, hresult, fun hfails => ?_⟩)
      have hzero : 0 = maxRetries + 1 - attempt := hlast hfails
      omega
    | cons answer rest ih =>
      rw [List.length_cons] at hlength hlast
      refine runs_retry_step.mpr (Or.inr ⟨answer, _, rfl, by omega, hfailed _ (by simp), ?_⟩)
      refine ih (fun a ha => hfailed a (List.mem_cons_of_mem _ ha)) (by omega) fun hfails => ?_
      have hlength' := hlast hfails
      omega

end Retry

end Calls
