import Mathlib.Data.List.Basic

/-!
# Bounded broadcast channels

A broadcast channel delivers every message to every receiver that is subscribed when the
message is sent. It keeps a bounded number of messages: a receiver that falls further
behind loses the oldest ones, and is told so once. Seen from a receiver, the channel is
the list of messages it has not read, with a mark that some were lost.
-/

namespace Broadcast

variable {α : Type*}

/-- A receiver: the messages it can still read, and whether it has lost any since it last
looked. -/
structure Receiver (α : Type*) where
  unread : List α := []
  lagged : Bool := false
  deriving DecidableEq

/-- Why nothing was received. -/
inductive RecvError where
  | lagged
  | closed
  deriving DecidableEq

namespace Receiver

/-- A message is sent on a channel with the given capacity. -/
def offer (capacity : ℕ) (rx : Receiver α) (message : α) : Receiver α :=
  if rx.unread.length < capacity then { rx with unread := rx.unread ++ [message] }
  else { unread := rx.unread.tail ++ [message], lagged := true }

/-- Receive from a channel that has senders or not: the result with the receiver
afterwards, or `none` if there is nothing to receive yet. -/
def recv (hasSenders : Bool) (rx : Receiver α) : Option (Except RecvError α × Receiver α) :=
  -- the loss is reported before anything else is received, and only once
  if rx.lagged then some (.error .lagged, { rx with lagged := false })
  else match rx.unread with
    | message :: unread => some (.ok message, { rx with unread })
    | [] => if hasSenders then none else some (.error .closed, rx)

theorem unread_offer_sublist (capacity : ℕ) (rx : Receiver α) (message : α) :
    (rx.offer capacity message).unread.Sublist (rx.unread ++ [message]) := by
  rw [offer]
  split_ifs
  · exact .refl _
  · exact (List.tail_sublist _).append_right _

theorem length_unread_offer {capacity : ℕ} {rx : Receiver α} (hcapacity : 0 < capacity)
    (message : α) : (rx.offer capacity message).unread.length =
      rx.unread.length + if rx.unread.length < capacity then 1 else 0 := by
  rw [offer]
  split_ifs with hroom
  · simp
  · simp only [List.length_append, List.length_tail, List.length_singleton]
    omega

/-- A receiver loses something exactly when it has no room. -/
theorem lagged_offer (capacity : ℕ) (rx : Receiver α) (message : α) :
    (rx.offer capacity message).lagged = (rx.lagged || decide (capacity ≤ rx.unread.length)) := by
  rw [offer]
  split_ifs with hroom
  · simp [Nat.not_le.mpr hroom]
  · simp [Nat.not_lt.mp hroom]

/-- Without senders, there is nothing to wait for. -/
theorem isSome_recv_of_closed (rx : Receiver α) : (rx.recv false).isSome = true := by
  rw [recv]
  cases rx.lagged with
  | true => rfl
  | false => cases rx.unread <;> rfl

/-- What can be received, and when. -/
theorem cases_of_recv {hasSenders : Bool} {rx rx' : Receiver α} {result : Except RecvError α}
    (h : rx.recv hasSenders = some (result, rx')) :
    (rx.lagged = true ∧ result = .error .lagged) ∨
      (∃ message, rx.lagged = false ∧ rx.unread = message :: rx'.unread ∧
        rx'.lagged = false ∧ result = .ok message) ∨
      (rx.lagged = false ∧ rx.unread = [] ∧ hasSenders = false ∧ result = .error .closed) := by
  rw [recv] at h
  cases hlagged : rx.lagged with
  | true =>
    simp only [hlagged, if_true, Option.some.injEq, Prod.mk.injEq] at h
    exact Or.inl ⟨rfl, h.1.symm⟩
  | false =>
    simp only [hlagged, Bool.false_eq_true, if_false] at h
    -- a lagged receiver is told first, and a closed channel is noticed only when nothing is unread
    cases hunread : rx.unread with
    | cons message unread =>
      simp only [hunread, Option.some.injEq, Prod.mk.injEq] at h
      obtain ⟨rfl, rfl⟩ := h
      exact Or.inr (Or.inl ⟨message, rfl, rfl, rfl, rfl⟩)
    | nil =>
      simp only [hunread] at h
      split_ifs at h with hsenders
      simp only [Option.some.injEq, Prod.mk.injEq] at h
      exact Or.inr (Or.inr ⟨rfl, rfl, by simpa using hsenders, h.1.symm⟩)

end Receiver

end Broadcast
