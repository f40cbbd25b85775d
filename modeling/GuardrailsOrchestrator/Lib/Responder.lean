import GuardrailsOrchestrator.Lib.Execution
import GuardrailsOrchestrator.Lib.ResponseProtocol

/-!
# Machines that send a response

A *responder* is a scheduled machine with a readout: what it has sent so far, and what it has yet
to send. It is in order if its response can still be terminated, or is terminated when the machine
has nothing more to send. The lemmas tell from what a step sends, and from the outlook before and
after it, when the machine stays in order; `respondsProperly_iff` puts the steps of a run together.
-/

namespace ResponseProtocol

open Transition

variable {σ α ε M : Type*}

/-- A machine that sends a response stream. -/
structure Responder (σ α ε M : Type*) where
  step : σ → α → Option σ
  outlook : σ → Outlook
  sent : σ → List (Item ε M)

namespace Responder

variable (r : Responder σ α ε M)

/-- The response can still be terminated, or is terminated if there is nothing more to send. -/
def InOrder (s : σ) : Prop := Sound (r.outlook s) (phase (r.sent s))

/-- The machine is done, or has panicked. -/
def Ended (s : σ) : Prop := r.outlook s = .done ∨ r.outlook s = .lost

/-- The response is what a client may rely on, as far as it has got. -/
def RespondsProperly (s : σ) : Prop := Proper (r.outlook s) (r.sent s)

variable {r} {s t : σ} {item : Item ε M}

/-! ### One step -/

/-- Nothing is sent, and the machine goes on. -/
theorem inOrder_iff_of_sent_eq (hs : r.outlook s = .running) (ht : r.outlook t = .running)
    (hsent : r.sent t = r.sent s) : r.InOrder t ↔ r.InOrder s := by
  rw [InOrder, InOrder, hsent, hs, ht]

theorem inOrder_and_hasError_iff (hs : r.outlook s = .running) :
    r.InOrder s ∧ hasError (r.sent s) = false ↔ phase (r.sent s) = .streaming := by
  rw [InOrder, hs, Sound, running_and_hasError_iff]

/-- A message or an error is in order if no error has been sent. -/
theorem inOrder_iff_of_send (hsent : r.sent t = r.sent s ++ [item]) (hitem : item ≠ .ok none)
    (hs : r.outlook s = .running) (ht : r.outlook t = .running) :
    r.InOrder t ↔ r.InOrder s ∧ hasError (r.sent s) = false := by
  rw [inOrder_and_hasError_iff hs, InOrder, hsent, ht, phase_append_singleton]
  exact sound_running_send_iff hitem

/-- The machine commits itself to a message or an error. -/
theorem inOrder_iff_of_commit (hs : r.outlook s = .running) (ht : r.outlook t = .committed)
    (hsent : r.sent t = r.sent s) :
    r.InOrder t ↔ r.InOrder s ∧ hasError (r.sent s) = false := by
  rw [inOrder_and_hasError_iff hs, InOrder, hsent, ht]
  rfl

/-- A message is sent, and the machine commits itself to another one or an error. -/
theorem inOrder_iff_of_send_commit {m : M} (hsent : r.sent t = r.sent s ++ [.ok (some m)])
    (hs : r.outlook s = .running) (ht : r.outlook t = .committed) :
    r.InOrder t ↔ r.InOrder s ∧ hasError (r.sent s) = false := by
  rw [inOrder_and_hasError_iff hs, InOrder, hsent, ht, phase_append_singleton]
  exact sound_committed_send_iff

/-- The message or the error to which the machine has committed itself is sent. -/
theorem inOrder_iff_of_committed (hsent : r.sent t = r.sent s ++ [item]) (hitem : item ≠ .ok none)
    (hs : r.outlook s = .committed) (ht : r.outlook t = .running) : r.InOrder t ↔ r.InOrder s := by
  rw [InOrder, InOrder, hsent, hs, ht, phase_append_singleton]
  exact sound_running_send_iff hitem

/-- Where no error has been sent, a message may be sent or not. -/
theorem inOrder_iff_of_optional (m : Option M)
    (hs : r.outlook s = .running ∨ r.outlook s = .committed) (ht : r.outlook t = .running)
    (hsent : r.sent t = r.sent s ++ m.toList.map fun m => .ok (some m))
    (hunfailed : phase (r.sent s) ≠ .failed) : r.InOrder t ↔ r.InOrder s := by
  rw [InOrder, InOrder, hsent, ht, phase_append]
  rcases hs with hs | hs <;> rw [hs] <;> cases m <;>
    cases hphase : phase (r.sent s) <;> simp_all [Sound, Phase.send]

/-- The completion signal is the last thing that is sent. -/
theorem inOrder_iff_of_done (hsent : r.sent t = r.sent s ++ [.ok none])
    (hs : r.outlook s = .running) (ht : r.outlook t = .done) : r.InOrder t ↔ r.InOrder s := by
  rw [InOrder, InOrder, hsent, hs, ht, phase_append_singleton]
  exact sound_done_send_iff

/-- A machine that has sent the completion signal must not go on. -/
theorem not_inOrder_of_closed {sent : List (Item ε M)} (hsent : r.sent t = sent ++ [.ok none])
    (ht : r.outlook t = .running) : ¬ r.InOrder t := by
  rw [InOrder, hsent, ht, phase_append_singleton]
  exact not_sound_running_send

/-- A machine that has panicked is not in order. -/
theorem not_inOrder_of_lost (ht : r.outlook t = .lost) : ¬ r.InOrder t := by
  rw [InOrder, ht]
  exact id

/-! ### Runs -/

/-- If every step leads to a state in order exactly when it is an admissible step from one, a run of
admissible steps from a state in order responds properly, and a machine that has ended and has
responded properly has taken no others. -/
theorem respondsProperly_iff {J : σ → Prop} {ok : σ → α → Prop} {s₀ : σ} {w : List α}
    (invariant : ∀ s a t, J s → r.step s a = some t → J t)
    (decides : ∀ s a t, J s → r.step s a = some t → (r.InOrder t ↔ r.InOrder s ∧ ok s a))
    (always : J s₀) (run : exec r.step s₀ w = some s) :
    (r.InOrder s₀ ∧ Meets r.step ok s₀ w → r.RespondsProperly s) ∧
      (r.Ended s → r.RespondsProperly s → r.InOrder s₀ ∧ Meets r.step ok s₀ w) := by
  have hiff : r.InOrder s ↔ r.InOrder s₀ ∧ Meets r.step ok s₀ w :=
    exec_iff_meets invariant decides always run
  exact ⟨fun h => proper_of_sound (hiff.mpr h),
    fun hended hproper => hiff.mp (sound_of_proper hproper hended)⟩

end Responder

end ResponseProtocol
