import GuardrailsOrchestrator.BatchStream.Delivery

/-!
# What a batch stream does in every run

A batch can be lost between the actor and the loop, but nothing else goes wrong there: whatever
the loop sends was popped, in the order in which it was popped; what it receives leaves the merged
stream in order; and an error is the last thing it sends.

## Main definitions

* `BatchStreamState.Relays` — what was sent is part of what was popped
* `BatchStreamState.Consumes` — what was received is the first part of what has arrived
* `BatchStreamState.EndsWithError` — an error is sent last, and once
* `BatchStreamState.Completes` — the loop asks whether the batcher is empty only at the end
-/

namespace GuardrailsOrchestrator

open Transition

namespace BatchStreamState

variable {B : Type} {s t : BatchStreamState B} {sel : Select}

/-! ### The loop, step by step -/

/-- The futures of `select!` and the mailbox after a branch was polled that is not ready. -/
structure Pending (s : BatchStreamState B) (sel sel' : Select)
    (mailbox : List DetectionBatcherMessage) : Prop where
  inFlight : sel'.pop.inFlight.Sublist sel.pop.inFlight
  asks : sel'.isEmpty ≠ .unsent → sel.isEmpty ≠ .unsent ∨ sel.cursor = .isEmpty
  cursor : sel'.cursor = .isEmpty → sel.cursor = .isEmpty ∨ s.streamCompleted = true
  asked : .isEmpty true ∈ mailbox → .isEmpty true ∈ s.mailbox ∨ sel.cursor = .isEmpty

/-- What polling a branch of `select!` can do. -/
inductive Polled (s : BatchStreamState B) (sel : Select) (t : BatchStreamState B) : Prop
  /-- The branch is not ready. -/
  | pending (sel' : Select) (mailbox : List DetectionBatcherMessage)
    (pending : Pending s sel sel' mailbox) (eq : t = { s with mailbox, loop := .select sel' })
  /-- Detections are received. -/
  | received (item : StreamItem) (merged : List (Except Error StreamItem))
    (running : s.streamCompleted = false) (next : s.merged = .ok item :: merged)
    (eq : t = { s.takeBranch (.pushing item) with merged, received := s.received ++ [item] })
  /-- An error is received. -/
  | failed (error : Error) (merged : List (Except Error StreamItem))
    (running : s.streamCompleted = false) (next : s.merged = .error error :: merged)
    (eq : t = { s.takeBranch (.sending (.error error)) with merged })
  /-- The merged stream has ended. -/
  | completed (merged : s.merged = []) (closed : s.closed = true)
    (eq : t = { s.takeBranch (.select {}) with streamCompleted := true })
  /-- A batch was popped. -/
  | popped (batch : Batch) (answered : sel.pop = .answered (some batch))
    (eq : t = s.takeBranch (.sending (.ok batch)))
  /-- The batcher is empty. -/
  | drained (answered : sel.isEmpty = .answered true) (eq : t = s.takeBranch (.exited true))
  /-- The batcher is not empty. -/
  | restarted (eq : t = s.takeBranch (.select {}))

theorem polled_next {cursor : Branch} (hcursor : cursor = .isEmpty → s.streamCompleted = true) :
    Polled s sel (s.pollNext sel cursor) :=
  .pending { sel with cursor } s.mailbox
    ⟨.refl _, Or.inl, fun h => Or.inr (hcursor h), Or.inl⟩ rfl

theorem polled_stream (hrunning : s.streamCompleted = false) : Polled s sel (s.pollStream sel) := by
  cases hmerged : s.merged with
  | nil =>
    cases hclosed : s.closed with
    | true => exact .completed hmerged hclosed (by simp [pollStream, hmerged, hclosed])
    | false =>
      have hnext : s.pollStream sel = s.pollNext sel .pop := by simp [pollStream, hmerged, hclosed]
      rw [hnext]
      exact polled_next (by simp)
  | cons item merged =>
    cases item with
    | ok item => exact .received item merged hrunning hmerged (by simp [pollStream, hmerged])
    | error error => exact .failed error merged hrunning hmerged (by simp [pollStream, hmerged])

theorem polled_pop : Polled s sel (s.pollPop sel) := by
  -- the loop asks whether the batcher is empty only after the streams have ended
  have hafter : s.afterPop = .isEmpty → s.streamCompleted = true := by
    rw [afterPop]
    split_ifs with h <;> simp [h]
  rw [pollPop]
  cases hpop : sel.pop with
  | unsent =>
    by_cases hroom : s.mailbox.length < channelCapacity
    · exact .pending { sel with pop := .waiting } (s.mailbox ++ [.pop true])
        ⟨by simp [PopFuture.inFlight], Or.inl, Or.inl, fun h => Or.inl (by simpa using h)⟩
        (by simp [hroom])
    · simp only [hroom, if_false]
      exact polled_next hafter
  | waiting => exact polled_next hafter
  | answered batch =>
    cases batch with
    | some batch => exact .popped batch hpop rfl
    | none =>
      exact .pending { sel with pop := .disabled, cursor := s.afterPop } s.mailbox
        ⟨by simp [PopFuture.inFlight], Or.inl, fun h => Or.inr (hafter h), Or.inl⟩ rfl
  | disabled => exact polled_next hafter

theorem polled_isEmpty (hcursor : sel.cursor = .isEmpty) : Polled s sel (s.pollIsEmpty sel) := by
  rw [pollIsEmpty]
  cases hempty : sel.isEmpty with
  | unsent =>
    by_cases hroom : s.mailbox.length < channelCapacity
    · exact .pending { sel with isEmpty := .waiting } (s.mailbox ++ [.isEmpty true])
        ⟨.refl _, fun _ => Or.inr hcursor, Or.inl, fun _ => Or.inr hcursor⟩ (by simp [hroom])
    · simp only [hroom, if_false]
      exact polled_next (by simp)
  | waiting => exact polled_next (by simp)
  | answered empty =>
    cases empty with
    | true => exact .drained hempty rfl
    | false => exact .restarted rfl

theorem polled (s : BatchStreamState B) (sel : Select) : Polled s sel (s.pollSelect sel) := by
  rw [pollSelect]
  cases hcursor : sel.cursor with
  | stream =>
    cases hcompleted : s.streamCompleted with
    | true => exact polled_next (by simp)
    | false => exact polled_stream hcompleted
  | pop => exact polled_pop
  | isEmpty => exact polled_isEmpty hcursor

/-- What the loop does when it is polled: a poll of `select!`, a push, or a send. -/
theorem poll_cases (h : s.poll = some t) :
    (∃ sel, s.loop = .select sel ∧ t = s.pollSelect sel) ∨
      (∃ item, s.loop = .pushing item ∧
        t = { s with mailbox := s.mailbox ++ [.push item], loop := .select {} }) ∨
      (∃ batch, s.loop = .sending (.ok batch) ∧
        t = { s with
              batchRx := s.batchRx ++ [.ok batch]
              sent := s.sent ++ [.ok batch]
              loop := .select {} }) ∨
      (∃ error, s.loop = .sending (.error error) ∧
        t = { s with
              batchRx := s.batchRx ++ [.error error]
              sent := s.sent ++ [.error error]
              loop := .exited false }) := by
  rw [poll] at h
  cases hloop : s.loop with
  | select sel =>
    simp only [hloop, Option.some.injEq] at h
    exact Or.inl ⟨sel, rfl, h.symm⟩
  | pushing item =>
    simp only [hloop, Option.ite_none_right_eq_some, Option.some.injEq] at h
    exact Or.inr (Or.inl ⟨item, rfl, h.2.symm⟩)
  | sending message =>
    simp only [hloop, Option.ite_none_right_eq_some, Option.some.injEq] at h
    cases message with
    | ok batch => exact Or.inr (Or.inr (Or.inl ⟨batch, rfl, h.2.symm⟩))
    | error error => exact Or.inr (Or.inr (Or.inr ⟨error, rfl, h.2.symm⟩))
  | exited drained => simp [hloop] at h

/-! ### What was sent -/

/-- What was sent, with the batch in the loop's hands, is part of what was popped. -/
def Relays (s : BatchStreamState B) : Prop :=
  (s.sentBatches ++ s.loop.inFlight).Sublist s.popped

/-- Only batches were sent, or the loop has exited after an error. -/
def EndsWithError (s : BatchStreamState B) : Prop :=
  (∃ batches : List Batch, s.sent = batches.map .ok) ∨
    s.loop = .exited false ∧
      ∃ (batches : List Batch) (error : Error), s.sent = batches.map .ok ++ [.error error]

/-- What was received is the first part of what has arrived, and the rest is waiting. -/
def Consumes (arrived : List (Except Error StreamItem)) (s : BatchStreamState B) : Prop :=
  ∃ consumed, arrived = consumed ++ s.merged ∧ s.received = consumed.filterMap Except.toOption

/-- The loop asks whether the batcher is empty only once the merged stream has ended. -/
structure Completes (s : BatchStreamState B) : Prop where
  asks : ∀ sel, s.loop = .select sel → sel.isEmpty ≠ .unsent ∨ sel.cursor = .isEmpty →
    s.streamCompleted = true
  asked : .isEmpty true ∈ s.mailbox → s.streamCompleted = true
  exited : s.loop = .exited true → s.streamCompleted = true
  completed : s.streamCompleted = true → s.closed = true ∧ s.merged = []

theorem Relays.of_sublist (h : Relays s) (hflight : t.loop.inFlight.Sublist s.loop.inFlight)
    (hsent : t.sent = s.sent) (hpopped : t.popped = s.popped) : Relays t := by
  rw [Relays, sentBatches, hsent, hpopped]
  exact (hflight.append_left _).trans h

theorem Relays.pollSelect (h : Relays s) (hloop : s.loop = .select sel)
    (hpolled : Polled s sel t) : Relays t := by
  cases hpolled with
  | pending sel' mailbox hpending heq =>
    rw [heq]
    exact h.of_sublist (by rw [hloop]; exact hpending.inFlight) rfl rfl
  | popped batch hpop heq =>
    rw [heq]
    refine h.of_sublist ?_ rfl rfl
    -- the batch that is sent now is the one the future was given
    have hflight : s.loop.inFlight = [batch] := by
      simp [hloop, BatchLoop.inFlight, PopFuture.inFlight, hpop]
    rw [hflight]
    exact .refl _
  | received item merged hrunning hmerged heq =>
    rw [heq]
    exact h.of_sublist (List.nil_sublist _) rfl rfl
  | failed error merged hrunning hmerged heq =>
    rw [heq]
    exact h.of_sublist (List.nil_sublist _) rfl rfl
  | completed hmerged hclosed heq =>
    rw [heq]
    exact h.of_sublist (List.nil_sublist _) rfl rfl
  | drained hempty heq =>
    rw [heq]
    exact h.of_sublist (List.nil_sublist _) rfl rfl
  | restarted heq =>
    rw [heq]
    exact h.of_sublist (List.nil_sublist _) rfl rfl

theorem Relays.poll (h : Relays s) (hstep : s.poll = some t) : Relays t := by
  rcases poll_cases hstep with ⟨sel, hloop, rfl⟩ | ⟨item, hloop, rfl⟩ | ⟨batch, hloop, rfl⟩ |
    ⟨error, hloop, rfl⟩
  · exact h.pollSelect hloop (polled s sel)
  · exact h.of_sublist (List.nil_sublist _) rfl rfl
  · rw [Relays, hloop] at h
    simpa [Relays, sentBatches, BatchLoop.inFlight, PopFuture.inFlight, Except.toOption] using h
  · rw [Relays, hloop] at h
    have hsent : (s.sent ++ [Except.error error]).filterMap Except.toOption = s.sentBatches := by
      rw [List.filterMap_append]
      exact List.append_nil _
    rw [Relays, sentBatches, hsent]
    exact h

theorem EndsWithError.poll (h : EndsWithError s) (hstep : s.poll = some t) : EndsWithError t := by
  -- a loop that has exited is not polled, so only batches were sent before
  have hbatches : (∀ drained, s.loop ≠ .exited drained) →
      ∃ batches : List Batch, s.sent = batches.map .ok :=
    fun hrunning => h.resolve_right fun hexited => hrunning false hexited.1
  rcases poll_cases hstep with ⟨sel, hloop, rfl⟩ | ⟨item, hloop, rfl⟩ | ⟨batch, hloop, rfl⟩ |
    ⟨error, hloop, rfl⟩
  · obtain ⟨batches, hsent⟩ := hbatches (by simp [hloop])
    refine Or.inl ⟨batches, ?_⟩
    cases polled s sel <;> rename_i heq <;> rw [heq] <;> exact hsent
  · exact Or.inl (hbatches (by simp [hloop]))
  · obtain ⟨batches, hsent⟩ := hbatches (by simp [hloop])
    exact Or.inl ⟨batches ++ [batch], by simp [hsent]⟩
  · obtain ⟨batches, hsent⟩ := hbatches (by simp [hloop])
    exact Or.inr ⟨rfl, batches, error, by simp [hsent]⟩

theorem Consumes.pollSelect {arrived : List (Except Error StreamItem)} (h : Consumes arrived s)
    (hpolled : Polled s sel t) : Consumes arrived t := by
  obtain ⟨consumed, harrived, hreceived⟩ := h
  cases hpolled with
  | received item merged hrunning hmerged heq =>
    rw [heq]
    refine ⟨consumed ++ [.ok item], ?_, ?_⟩
    · simp [harrived, hmerged]
    · simp [hreceived, Except.toOption]
  | failed error merged hrunning hmerged heq =>
    -- an error leaves the merged stream and is not among what was received
    rw [heq]
    refine ⟨consumed ++ [.error error], ?_, ?_⟩
    · simp [harrived, hmerged]
    · rw [List.filterMap_append, ← hreceived]
      exact (List.append_nil _).symm
  | pending sel' mailbox hpending heq =>
    rw [heq]
    exact ⟨consumed, harrived, hreceived⟩
  | completed hmerged hclosed heq =>
    rw [heq]
    exact ⟨consumed, harrived, hreceived⟩
  | popped batch hpop heq =>
    rw [heq]
    exact ⟨consumed, harrived, hreceived⟩
  | drained hempty heq =>
    rw [heq]
    exact ⟨consumed, harrived, hreceived⟩
  | restarted heq =>
    rw [heq]
    exact ⟨consumed, harrived, hreceived⟩

theorem Consumes.poll {arrived : List (Except Error StreamItem)} (h : Consumes arrived s)
    (hstep : s.poll = some t) : Consumes arrived t := by
  rcases poll_cases hstep with ⟨sel, -, rfl⟩ | ⟨item, -, rfl⟩ | ⟨batch, -, rfl⟩ | ⟨error, -, rfl⟩
  · exact h.pollSelect (polled s sel)
  · exact h
  · exact h
  · exact h

/-- No request is live after the receiving halves have been dropped. -/
theorem isEmpty_notMem_map_dropReceiver (mailbox : List DetectionBatcherMessage) :
    .isEmpty true ∉ mailbox.map DetectionBatcherMessage.dropReceiver := by
  intro hmem
  obtain ⟨m, -, hm⟩ := List.mem_map.mp hmem
  have hlive := congrArg DetectionBatcherMessage.isLive hm
  rw [DetectionBatcherMessage.isLive_dropReceiver] at hlive
  simp [DetectionBatcherMessage.isLive] at hlive

theorem Completes.pollSelect (h : Completes s) (hloop : s.loop = .select sel)
    (hpolled : Polled s sel t) : Completes t := by
  cases hpolled with
  | pending sel' mailbox hpending heq =>
    have hasks := h.asks sel hloop
    rw [heq]
    refine ⟨?_, ?_, by simp, h.completed⟩
    · rintro sel'' hsel (hempty | hcursor)
      · obtain rfl : sel' = sel'' := by simpa using hsel
        exact hasks (hpending.asks hempty)
      · obtain rfl : sel' = sel'' := by simpa using hsel
        exact (hpending.cursor hcursor).elim (fun h => hasks (Or.inr h)) id
    · intro hmem
      exact (hpending.asked hmem).elim h.asked fun h => hasks (Or.inr h)
  | received item merged hrunning hmerged heq =>
    rw [heq]
    exact ⟨by simp [takeBranch], fun hmem => absurd hmem (isEmpty_notMem_map_dropReceiver _),
      by simp [takeBranch], fun h => absurd h (by simp [takeBranch, hrunning])⟩
  | failed error merged hrunning hmerged heq =>
    rw [heq]
    exact ⟨by simp [takeBranch], fun hmem => absurd hmem (isEmpty_notMem_map_dropReceiver _),
      by simp [takeBranch], fun h => absurd h (by simp [takeBranch, hrunning])⟩
  -- the merged stream has ended, and from now on the loop asks whether the batcher is empty
  | completed hmerged hclosed heq =>
    rw [heq]
    exact ⟨fun _ _ _ => rfl, fun _ => rfl, fun _ => rfl, fun _ => ⟨hclosed, hmerged⟩⟩
  | popped batch hpop heq =>
    rw [heq]
    exact ⟨by simp [takeBranch], fun hmem => absurd hmem (isEmpty_notMem_map_dropReceiver _),
      by simp [takeBranch], h.completed⟩
  | drained hempty heq =>
    rw [heq]
    exact ⟨by simp [takeBranch], fun hmem => absurd hmem (isEmpty_notMem_map_dropReceiver _),
      fun _ => h.asks sel hloop (Or.inl (by simp [hempty])), h.completed⟩
  | restarted heq =>
    rw [heq]
    exact ⟨by simp [takeBranch], fun hmem => absurd hmem (isEmpty_notMem_map_dropReceiver _),
      by simp [takeBranch], h.completed⟩

theorem Completes.poll (h : Completes s) (hstep : s.poll = some t) : Completes t := by
  rcases poll_cases hstep with ⟨sel, hloop, rfl⟩ | ⟨item, -, rfl⟩ | ⟨batch, -, rfl⟩ |
    ⟨error, -, rfl⟩
  · exact h.pollSelect hloop (polled s sel)
  · exact ⟨by simp, by simpa using h.asked, by simp, h.completed⟩
  · exact ⟨by simp, h.asked, by simp, h.completed⟩
  · exact ⟨by simp, h.asked, by simp, h.completed⟩

theorem closed_poll (hstep : s.poll = some t) : t.closed = s.closed := by
  rcases poll_cases hstep with ⟨sel, -, rfl⟩ | ⟨item, -, rfl⟩ | ⟨batch, -, rfl⟩ | ⟨error, -, rfl⟩
  · cases polled s sel <;> rename_i heq <;> rw [heq] <;> rfl
  · rfl
  · rfl
  · rfl

/-! ### The actor -/

variable [DetectionBatcher B]

/-- The actor leaves the channels of the loop alone. -/
theorem sent_runActor (hstep : s.runActor = some t) :
    t.sent = s.sent ∧ t.received = s.received ∧ t.merged = s.merged ∧ t.closed = s.closed := by
  rw [runActor] at hstep
  split at hstep
  · simp at hstep
  · rename_i message mailbox hmailbox
    obtain rfl := Option.some.inj hstep
    cases message <;> exact ⟨rfl, rfl, rfl, rfl⟩

theorem Relays.runActor (h : Relays s) (hstep : s.runActor = some t) : Relays t := by
  rw [BatchStreamState.runActor] at hstep
  split at hstep
  · simp at hstep
  rename_i message mailbox hmailbox
  obtain rfl := Option.some.inj hstep
  have hsent : s.sentBatches.Sublist s.popped := (List.sublist_append_left _ _).trans h
  cases message with
  | push item => exact h
  | isEmpty live =>
    cases live with
    | false => exact h
    | true => simpa [Relays, handle, sentBatches] using h
  | pop live =>
    cases live with
    | false => exact h.trans (List.sublist_append_left _ _)
    | true =>
      -- the reply is the batch that was popped last, or the loop does not wait for it any more
      rw [Relays]
      change (s.sentBatches ++ (s.loop.answerPop (popBatch s.batcher).1).inFlight).Sublist
        (s.popped ++ (popBatch s.batcher).1.toList)
      cases hloop : s.loop with
      | select sel => exact hsent.append (.refl _)
      | pushing item => exact hsent.append (List.nil_sublist _)
      | exited drained => exact hsent.append (List.nil_sublist _)
      | sending message =>
        rw [Relays, hloop] at h
        exact h.trans (List.sublist_append_left _ _)

theorem EndsWithError.runActor (h : EndsWithError s) (hstep : s.runActor = some t) :
    EndsWithError t := by
  have hsent := (sent_runActor hstep).1
  rw [EndsWithError, hsent]
  refine h.imp_right ?_
  rintro ⟨hexited, herror⟩
  rw [BatchStreamState.runActor] at hstep
  split at hstep
  · simp at hstep
  rename_i message mailbox hmailbox
  obtain rfl := Option.some.inj hstep
  refine ⟨?_, herror⟩
  cases message with
  | push item => exact hexited
  | pop live => cases live <;> simp [handle, hexited, BatchLoop.answerPop]
  | isEmpty live => cases live <;> simp [handle, hexited, BatchLoop.answerIsEmpty]

theorem Consumes.runActor {arrived : List (Except Error StreamItem)} (h : Consumes arrived s)
    (hstep : s.runActor = some t) : Consumes arrived t := by
  obtain ⟨-, hreceived, hmerged, -⟩ := sent_runActor hstep
  rw [Consumes, hreceived, hmerged]
  exact h

theorem Completes.runActor (h : Completes s) (hstep : s.runActor = some t) : Completes t := by
  rw [BatchStreamState.runActor] at hstep
  split at hstep
  · simp at hstep
  rename_i message mailbox hmailbox
  obtain rfl := Option.some.inj hstep
  have hrest : .isEmpty true ∈ mailbox → s.streamCompleted = true := fun hmem =>
    h.asked (by rw [hmailbox]; exact List.mem_cons_of_mem _ hmem)
  cases message with
  | push item => exact ⟨h.asks, hrest, h.exited, h.completed⟩
  | pop live =>
    cases live with
    | false => exact ⟨h.asks, hrest, h.exited, h.completed⟩
    | true =>
      -- the reply changes neither the cursor nor the other future
      refine ⟨?_, hrest, ?_, h.completed⟩
      · intro sel' hsel
        cases hloop : s.loop with
        | select sel =>
          obtain rfl : { sel with pop := .answered (popBatch s.batcher).1 } = sel' := by
            simpa [handle, hloop, BatchLoop.answerPop] using hsel
          exact h.asks sel hloop
        | pushing item => simp [handle, hloop, BatchLoop.answerPop] at hsel
        | sending message => simp [handle, hloop, BatchLoop.answerPop] at hsel
        | exited drained => simp [handle, hloop, BatchLoop.answerPop] at hsel
      · intro hexited
        cases hloop : s.loop with
        | exited drained =>
          apply h.exited
          simpa [handle, hloop, BatchLoop.answerPop] using hexited
        | select sel => simp [handle, hloop, BatchLoop.answerPop] at hexited
        | pushing item => simp [handle, hloop, BatchLoop.answerPop] at hexited
        | sending message => simp [handle, hloop, BatchLoop.answerPop] at hexited
  | isEmpty live =>
    cases live with
    | false => exact ⟨h.asks, hrest, h.exited, h.completed⟩
    | true =>
      -- a request that is answered was sent after the merged stream had ended
      have hdone : s.streamCompleted = true := h.asked (by simp [hmailbox])
      exact ⟨fun _ _ _ => hdone, fun _ => hdone, fun _ => hdone, h.completed⟩

end BatchStreamState

end GuardrailsOrchestrator
