import Mathlib.Data.List.Induction

/-!
# Terminated response streams

A response stream carries messages, possibly one error, and then a completion
signal. It is *terminated* when it is of the form

  messages, at most one error, one completion signal,

and nothing follows. `phase` reads a stream from the left and tells where in this
form it is, so that a task that sends one item after the other is followed by
computing one phase from the last. `Sound` relates the phase to what the task has yet
to send.
-/

namespace ResponseProtocol

variable {ε M : Type*}

/-- An item of a response stream: a message, the completion signal, or an error. -/
abbrev Item (ε M : Type*) := Except ε (Option M)

/-- How far a response stream has got. -/
inductive Phase where
  /-- Only messages so far. -/
  | streaming
  /-- One error after the messages. -/
  | failed
  /-- Terminated. -/
  | closed
  /-- Not of the required form, and no continuation is. -/
  | broken
  deriving DecidableEq

/-- The phase after one more item. -/
def Phase.send : Phase → Item ε M → Phase
  | .streaming, .ok (some _) => .streaming
  | .streaming, .error _ => .failed
  | .streaming, .ok none => .closed
  | .failed, .ok none => .closed
  | _, _ => .broken

/-- The phase of a response stream. -/
def phase (sent : List (Item ε M)) : Phase := sent.foldl Phase.send .streaming

/-- Messages, at most one error, and one completion signal at the end. -/
def Terminated (sent : List (Item ε M)) : Prop :=
  ∃ (messages : List M) (error : Option ε),
    sent = messages.map (fun m => .ok (some m)) ++ error.toList.map .error ++ [.ok none]

@[simp] theorem phase_nil : phase ([] : List (Item ε M)) = .streaming := rfl

theorem phase_append (sent more : List (Item ε M)) :
    phase (sent ++ more) = more.foldl Phase.send (phase sent) :=
  List.foldl_append

@[simp] theorem phase_append_singleton (sent : List (Item ε M)) (item : Item ε M) :
    phase (sent ++ [item]) = (phase sent).send item :=
  phase_append sent [item]

theorem foldl_send_broken (sent : List (Item ε M)) :
    sent.foldl Phase.send .broken = .broken := by
  induction sent with
  | nil => rfl
  | cons item sent ih => exact ih

theorem foldl_send_closed {sent : List (Item ε M)}
    (h : sent.foldl Phase.send .closed = .closed) : sent = [] := by
  cases sent with
  | nil => rfl
  | cons item sent => simp [Phase.send, foldl_send_broken] at h

theorem foldl_send_failed {sent : List (Item ε M)}
    (h : sent.foldl Phase.send .failed = .closed) : sent = [.ok none] := by
  rcases sent with _ | ⟨_ | (_ | m), sent⟩
  · simp at h
  · simp [Phase.send, foldl_send_broken] at h
  · rw [foldl_send_closed h]
  · simp [Phase.send, foldl_send_broken] at h

/-- A stream is in its last phase exactly when it is terminated. -/
theorem phase_eq_closed_iff {sent : List (Item ε M)} :
    phase sent = .closed ↔ Terminated sent := by
  constructor
  · intro h
    induction sent with
    | nil => simp at h
    | cons item sent ih =>
      -- the first item decides: a message leaves the phase as it is, the other two end it
      rcases item with error | (_ | m)
      · obtain rfl := foldl_send_failed (show sent.foldl Phase.send .failed = .closed from h)
        exact ⟨[], some error, rfl⟩
      · obtain rfl := foldl_send_closed (show sent.foldl Phase.send .closed = .closed from h)
        exact ⟨[], none, rfl⟩
      · obtain ⟨messages, error, rfl⟩ := ih h
        exact ⟨m :: messages, error, rfl⟩
  · rintro ⟨messages, error, rfl⟩
    have hmessages : phase (messages.map fun m => (.ok (some m) : Item ε M)) = .streaming := by
      induction messages with
      | nil => rfl
      | cons m messages ih => exact ih
    rw [phase_append, phase_append, hmessages]
    cases error <;> rfl

/-- A stream lacks something to be terminated exactly when its phase is one of the first
two. -/
theorem exists_terminated_append_iff {sent : List (Item ε M)} :
    (∃ more, more ≠ [] ∧ Terminated (sent ++ more)) ↔
      phase sent = .streaming ∨ phase sent = .failed := by
  constructor
  · rintro ⟨more, hmore, hterminated⟩
    rw [← phase_eq_closed_iff, phase_append] at hterminated
    cases hphase : phase sent with
    | streaming => exact Or.inl rfl
    | failed => exact Or.inr rfl
    | closed => exact absurd (foldl_send_closed (hphase ▸ hterminated)) hmore
    | broken => simp [hphase, foldl_send_broken] at hterminated
  · intro hphase
    refine ⟨[.ok none], by simp, ?_⟩
    rw [← phase_eq_closed_iff, phase_append_singleton]
    rcases hphase with hphase | hphase <;> rw [hphase] <;> rfl

/-! ### Errors -/

/-- Whether an error has been sent. -/
def hasError (sent : List (Item ε M)) : Bool :=
  sent.any fun
    | .error _ => true
    | .ok _ => false

theorem hasError_append (sent more : List (Item ε M)) :
    hasError (sent ++ more) = (hasError sent || hasError more) :=
  List.any_append

/-- Before the completion signal, the phase tells whether an error has been sent. -/
theorem running_and_hasError_iff {sent : List (Item ε M)} :
    (phase sent = .streaming ∨ phase sent = .failed) ∧ hasError sent = false ↔
      phase sent = .streaming := by
  induction sent using List.reverseRecOn with
  | nil => simp [hasError]
  | append_singleton sent item ih =>
    rw [phase_append_singleton, hasError_append]
    -- only the completion signal can follow an error
    rcases item with error | (_ | m) <;>
      cases hphase : phase sent <;> simp_all [Phase.send, hasError]

/-! ### The task that sends -/

/-- What a task that sends a response stream has yet to do. -/
inductive Outlook where
  /-- It may send more, and will send the completion signal. -/
  | running
  /-- It will send a message or an error next, and the completion signal later. -/
  | committed
  /-- It has nothing more to send. -/
  | done
  /-- It has panicked. -/
  | lost
  deriving DecidableEq

/-- The phases from which a task with this outlook can terminate its stream. -/
def Sound : Outlook → Phase → Prop
  | .running, p => p = .streaming ∨ p = .failed
  | .committed, p => p = .streaming
  | .done, p => p = .closed
  | .lost, _ => False

instance (p : Phase) : ∀ outlook, Decidable (Sound outlook p)
  | .running => inferInstanceAs (Decidable (_ ∨ _))
  | .committed => inferInstanceAs (Decidable (_ = _))
  | .done => inferInstanceAs (Decidable (_ = _))
  | .lost => inferInstanceAs (Decidable False)

/-- A message or an error may be sent, with more to follow, as long as nothing failed. -/
theorem sound_running_send_iff {p : Phase} {item : Item ε M} (hitem : item ≠ .ok none) :
    Sound .running (p.send item) ↔ p = .streaming := by
  rcases item with error | (_ | m)
  · cases p <;> simp [Sound, Phase.send]
  · exact absurd rfl hitem
  · cases p <;> simp [Sound, Phase.send]

/-- After a message the task may commit itself to another one. -/
theorem sound_committed_send_iff {p : Phase} {m : M} :
    Sound .committed (p.send (.ok (some m) : Item ε M)) ↔ p = .streaming := by
  cases p <;> simp [Sound, Phase.send]

/-- The completion signal ends a response that lacks nothing else. -/
theorem sound_done_send_iff {p : Phase} :
    Sound .done (p.send (.ok none : Item ε M)) ↔ Sound .running p := by
  cases p <;> simp [Sound, Phase.send]

/-- A task that goes on must not have sent the completion signal. -/
theorem not_sound_running_send {p : Phase} : ¬ Sound .running (p.send (.ok none : Item ε M)) := by
  cases p <;> simp [Sound, Phase.send]

/-- What a client may rely on: the task does not panic; when it is done, its stream is
terminated; until then, something can be added that terminates it. -/
def Proper (outlook : Outlook) (sent : List (Item ε M)) : Prop :=
  outlook ≠ .lost ∧ (outlook = .done → Terminated sent) ∧
    (outlook ≠ .done → ∃ more, more ≠ [] ∧ Terminated (sent ++ more))

theorem proper_of_sound {outlook : Outlook} {sent : List (Item ε M)}
    (h : Sound outlook (phase sent)) : Proper outlook sent := by
  rw [Proper, exists_terminated_append_iff, ← phase_eq_closed_iff]
  cases outlook with
  | running => exact ⟨by simp, by simp, fun _ => h⟩
  | committed => exact ⟨by simp, by simp, fun _ => Or.inl h⟩
  | done => exact ⟨by simp, fun _ => h, by simp⟩
  | lost => exact h.elim

/-- A task without anything to send has responded properly only if its stream is sound. -/
theorem sound_of_proper {outlook : Outlook} {sent : List (Item ε M)} (h : Proper outlook sent)
    (hended : outlook = .done ∨ outlook = .lost) : Sound outlook (phase sent) := by
  rcases hended with rfl | rfl
  · exact phase_eq_closed_iff.mpr (h.2.1 rfl)
  · exact absurd rfl h.1

end ResponseProtocol
