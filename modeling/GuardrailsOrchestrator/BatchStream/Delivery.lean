import GuardrailsOrchestrator.BatchStream.Basic
import GuardrailsOrchestrator.Lib.Collections
import GuardrailsOrchestrator.Lib.Execution

/-!
# Delivery of batches

When the loop takes the stream branch or the `is_empty` branch of its `select!`, it
drops the future of `pop`. If the request of that future yields a batch, the batch
has been removed from the batcher and nobody receives it.

`Spares` says of a step that it does not do this. In a run whose steps all spare the
popped batches, every batch the actor pops is sent once, in the order of the pops;
and if the loop exits because the batcher is empty, what it received from the
streams is distributed over the sent batches.
-/

namespace GuardrailsOrchestrator

open Transition BatcherEvent

namespace DetectionBatcherMessage

@[simp] theorem isLive_dropReceiver (m : DetectionBatcherMessage) :
    m.dropReceiver.isLive = false := by
  cases m <;> rfl

@[simp] theorem isLivePop_dropReceiver (m : DetectionBatcherMessage) :
    m.dropReceiver.isLivePop = false := by
  cases m <;> rfl

@[simp] theorem item?_dropReceiver (m : DetectionBatcherMessage) :
    m.dropReceiver.item? = m.item? := by
  cases m <;> rfl

end DetectionBatcherMessage

namespace BatchLoop

@[simp] theorem inFlight_answerIsEmpty (loop : BatchLoop) (empty : Bool) :
    (loop.answerIsEmpty empty).inFlight = loop.inFlight := by
  cases loop <;> rfl

@[simp] theorem waitingPops_answerIsEmpty (loop : BatchLoop) (empty : Bool) :
    (loop.answerIsEmpty empty).waitingPops = loop.waitingPops := by
  cases loop <;> rfl

@[simp] theorem inHand_answerPop (loop : BatchLoop) (batch : Option Batch) :
    (loop.answerPop batch).inHand = loop.inHand := by
  cases loop <;> rfl

@[simp] theorem inHand_answerIsEmpty (loop : BatchLoop) (empty : Bool) :
    (loop.answerIsEmpty empty).inHand = loop.inHand := by
  cases loop <;> rfl

@[simp] theorem knowsEmpty_answerPop (loop : BatchLoop) (batch : Option Batch) :
    (loop.answerPop batch).knowsEmpty = loop.knowsEmpty := by
  cases loop <;> rfl

theorem exists_waiting {loop : BatchLoop} (h : loop.waitingPops ≠ 0) :
    ∃ sel, loop = .select sel ∧ sel.pop = .waiting := by
  rcases loop with ⟨_, _ | _ | _ | _, _⟩ | _ | _ | _ <;>
    simp_all [waitingPops, PopFuture.waitingPops]

end BatchLoop

open DetectionBatcherMessage

section Mailbox

variable {B : Type} [DetectionBatcher B]

/-! ### What the actor will reply -/

/-- The batcher after a message is handled. -/
def afterMessage (b : B) : DetectionBatcherMessage → B
  | .push item => push b item.1 item.2.1 item.2.2
  | .pop _ => (popBatch b).2
  | .isEmpty _ => b

/-- What the request for a batch that the loop waits for will yield, once the actor
gets to it. -/
def replyTo : B → List DetectionBatcherMessage → Option Batch
  | _, [] => none
  | b, m :: mailbox =>
    if m.isLivePop then (popBatch b).1 else replyTo (afterMessage b m) mailbox

/-- No request in the mailbox whose receiver was dropped yields a batch. -/
def Quiet : B → List DetectionBatcherMessage → Prop
  | _, [] => True
  | b, m :: mailbox =>
    (m = .pop false → (popBatch b).1 = none) ∧ Quiet (afterMessage b m) mailbox

variable {b : B} {mailbox : List DetectionBatcherMessage}

theorem replyTo_of_countP_eq_zero (h : mailbox.countP isLivePop = 0) :
    replyTo b mailbox = none := by
  induction mailbox generalizing b with
  | nil => rfl
  | cons m mailbox ih =>
    rw [List.countP_eq_zero] at h
    have hm : m.isLivePop = false := by simpa using h m (by simp)
    simp only [replyTo, hm, Bool.false_eq_true, if_false]
    exact ih (List.countP_eq_zero.mpr fun x hx => h x (by simp [hx]))

theorem Quiet.append (h : Quiet b mailbox) {m : DetectionBatcherMessage} (hm : m ≠ .pop false) :
    Quiet b (mailbox ++ [m]) := by
  induction mailbox generalizing b with
  | nil => exact ⟨fun heq => absurd heq hm, trivial⟩
  | cons m' mailbox ih => exact ⟨h.1, ih h.2⟩

/-- Dropping the receivers keeps the mailbox quiet if the loop's own request yields
nothing. -/
theorem Quiet.map_dropReceiver (h : Quiet b mailbox) (hcount : mailbox.countP isLivePop ≤ 1)
    (hreply : replyTo b mailbox = none) : Quiet b (mailbox.map dropReceiver) := by
  induction mailbox generalizing b with
  | nil => trivial
  | cons m mailbox ih =>
    have hafter : afterMessage b m.dropReceiver = afterMessage b m := by cases m <;> rfl
    by_cases hm : m.isLivePop = true
    · -- the loop's own request: it yields nothing, and there is no other one behind it
      have hrest : mailbox.countP isLivePop = 0 := by
        rw [List.countP_cons_of_pos hm] at hcount
        omega
      simp only [replyTo, hm, if_true] at hreply
      refine ⟨fun _ => hreply, ?_⟩
      rw [hafter]
      exact ih h.2 (by omega) (replyTo_of_countP_eq_zero hrest)
    · rw [List.countP_cons_of_neg hm] at hcount
      simp only [replyTo, hm] at hreply
      refine ⟨fun heq => h.1 ?_, ?_⟩
      · cases m <;> simp_all [dropReceiver, isLivePop]
      · rw [hafter]
        exact ih h.2 hcount hreply

end Mailbox

namespace BatchStreamState

variable {B : Type}

/-! ### Steps that keep the popped batches -/

/-- Whether the next poll takes the stream branch or the `is_empty` branch. -/
def abandonsPop (s : BatchStreamState B) : Bool :=
  match s.loop with
  | .select sel =>
    match sel.cursor, sel.isEmpty with
    | .stream, _ => !s.streamCompleted && (!s.merged.isEmpty || s.closed)
    | .isEmpty, .answered _ => true
    | _, _ => false
  | _ => false

variable [DetectionBatcher B]

/-- The batch that the loop's current request for a batch has yielded or will
yield. -/
def popOutcome (s : BatchStreamState B) : Option Batch :=
  match s.loop with
  | .select sel =>
    match sel.pop with
    | .answered batch => batch
    | .waiting => replyTo s.batcher s.mailbox
    | _ => none
  | _ => none

/-- The step does not abandon a request that yields a batch. -/
def Spares (s : BatchStreamState B) (a : BatchStreamLabel) : Prop :=
  a = .poll → s.abandonsPop = true → s.popOutcome = none

/-- A step is one of the environment, which only moves what is in the channels that
leave and enter the two tasks, or one of the loop, or one of the actor. -/
theorem step_cases {s t : BatchStreamState B} {a : BatchStreamLabel} (h : s.step a = some t) :
    (∃ streams merged closed batchRx, t = { s with streams, merged, closed, batchRx }) ∨
      (a = .poll ∧ s.poll = some t) ∨ (a = .actor ∧ s.runActor = some t) := by
  cases a with
  | arrive stream =>
    simp only [step] at h
    split at h
    · exact Or.inl ⟨_, _, _, _, (Option.some.inj h).symm⟩
    · simp at h
  | close =>
    simp only [step, Option.ite_none_right_eq_some, Option.some_inj] at h
    exact Or.inl ⟨_, _, _, _, h.2.symm⟩
  | poll => exact Or.inr (Or.inl ⟨rfl, h⟩)
  | actor => exact Or.inr (Or.inr ⟨rfl, h⟩)
  | receive =>
    simp only [step] at h
    split at h
    · simp at h
    · exact Or.inl ⟨_, _, _, _, (Option.some.inj h).symm⟩

/-- Every popped batch is sent or in the loop's hands, the mailbox has exactly the
request the loop waits for, and no abandoned request yields a batch. -/
structure Delivers (s : BatchStreamState B) : Prop where
  sent : s.popped = s.sentBatches ++ s.loop.inFlight
  live : s.mailbox.countP isLivePop = s.loop.waitingPops
  quiet : Quiet s.batcher s.mailbox

namespace Delivers

variable {s t : BatchStreamState B} {sel : Select}

theorem start (b : B) (streams : List (List (Except Error StreamItem))) :
    Delivers (BatchStreamState.start b streams) where
  sent := rfl
  live := rfl
  quiet := trivial

/-- A request that yields nothing can be abandoned. -/
theorem replyTo_eq_none (h : Delivers s) (hloop : s.loop = .select sel)
    (hpop : s.popOutcome = none) : replyTo s.batcher s.mailbox = none ∧ s.loop.inFlight = [] := by
  have hlive := h.live
  -- if the loop does not wait, no live request is left in the mailbox
  simp only [hloop, BatchLoop.waitingPops, popOutcome, BatchLoop.inFlight] at hlive hpop ⊢
  cases hfuture : sel.pop with
  | waiting => exact ⟨by simpa [hfuture] using hpop, rfl⟩
  | answered batch =>
    rw [hfuture] at hlive hpop
    exact ⟨replyTo_of_countP_eq_zero hlive, by simp [PopFuture.inFlight, hpop]⟩
  | unsent | disabled =>
    rw [hfuture] at hlive
    exact ⟨replyTo_of_countP_eq_zero hlive, rfl⟩

theorem takeBranch (h : Delivers s) (hloop : s.loop = .select sel) (loop : BatchLoop)
    (hreply : replyTo s.batcher s.mailbox = none) (hflight : loop.inFlight = s.loop.inFlight)
    (hwait : loop.waitingPops = 0) : Delivers (s.takeBranch loop) where
  sent := h.sent.trans (by rw [← hflight]; rfl)
  live := by
    rw [BatchStreamState.takeBranch, hwait, List.countP_map]
    exact List.countP_eq_zero.mpr fun m _ => by simp
  quiet := by
    -- at most the request of this `select!` is live
    refine h.quiet.map_dropReceiver ?_ hreply
    rw [h.live, hloop]
    simp only [BatchLoop.waitingPops]
    cases sel.pop <;> simp [PopFuture.waitingPops]

theorem pollNext (h : Delivers s) (hloop : s.loop = .select sel) (cursor : Branch) :
    Delivers (s.pollNext sel cursor) where
  sent := h.sent.trans (by rw [hloop]; rfl)
  live := h.live.trans (by rw [hloop]; rfl)
  quiet := h.quiet

theorem pollStream (h : Delivers s) (hloop : s.loop = .select sel)
    (hpop : (!s.merged.isEmpty || s.closed) = true → s.popOutcome = none) :
    Delivers (s.pollStream sel) := by
  rw [BatchStreamState.pollStream]
  split
  -- a branch that is taken drops the request for a batch, so it must not have an answer
  · rename_i item merged hmerged
    obtain ⟨hreply, hflight⟩ := h.replyTo_eq_none hloop (hpop (by simp [hmerged]))
    have htaken := h.takeBranch hloop (.pushing item) hreply hflight.symm rfl
    exact ⟨htaken.sent, htaken.live, htaken.quiet⟩
  · rename_i error merged hmerged
    obtain ⟨hreply, hflight⟩ := h.replyTo_eq_none hloop (hpop (by simp [hmerged]))
    have htaken := h.takeBranch hloop (.sending (.error error)) hreply hflight.symm rfl
    exact ⟨htaken.sent, htaken.live, htaken.quiet⟩
  · split
    · rename_i hclosed
      obtain ⟨hreply, hflight⟩ := h.replyTo_eq_none hloop (hpop (by simp [hclosed]))
      have htaken := h.takeBranch hloop (.select {}) hreply hflight.symm rfl
      exact ⟨htaken.sent, htaken.live, htaken.quiet⟩
    · exact h.pollNext hloop .pop

theorem pollPop (h : Delivers s) (hloop : s.loop = .select sel) : Delivers (s.pollPop sel) := by
  have hlive := h.live
  have hsent := h.sent
  simp only [hloop, BatchLoop.waitingPops, BatchLoop.inFlight] at hlive hsent
  rw [BatchStreamState.pollPop]
  split
  · rename_i hfuture
    simp only [hfuture] at hlive hsent
    split
    · refine ⟨hsent, ?_, h.quiet.append (by simp)⟩
      simp [hlive, BatchLoop.waitingPops, PopFuture.waitingPops, isLivePop]
    -- no room in the mailbox, or no answer yet
    · exact h.pollNext hloop _
  · exact h.pollNext hloop _
  · rename_i batch hfuture
    rw [hfuture] at hlive
    refine h.takeBranch hloop (.sending (.ok batch)) (replyTo_of_countP_eq_zero hlive) ?_ rfl
    simp [hloop, BatchLoop.inFlight, hfuture, PopFuture.inFlight, Except.toOption]
  · rename_i hfuture
    rw [hfuture] at hlive hsent
    exact ⟨hsent, hlive, h.quiet⟩
  · exact h.pollNext hloop _

theorem pollIsEmpty (h : Delivers s) (hloop : s.loop = .select sel)
    (hpop : ∀ empty, sel.isEmpty = .answered empty → s.popOutcome = none) :
    Delivers (s.pollIsEmpty sel) := by
  have hlive := h.live
  have hsent := h.sent
  rw [hloop] at hlive hsent
  rw [BatchStreamState.pollIsEmpty]
  split
  · split
    · exact ⟨hsent, by simpa [isLivePop, BatchLoop.waitingPops] using hlive,
        h.quiet.append (by simp)⟩
    · exact h.pollNext hloop _
  · exact h.pollNext hloop _
  all_goals
    rename_i hfuture
    obtain ⟨hreply, hflight⟩ := h.replyTo_eq_none hloop (hpop _ hfuture)
    exact h.takeBranch hloop _ hreply hflight.symm rfl

theorem pollSelect (h : Delivers s) (hloop : s.loop = .select sel) (hspares : Spares s .poll) :
    Delivers (s.pollSelect sel) := by
  rw [BatchStreamState.pollSelect]
  cases hcursor : sel.cursor with
  | stream =>
    by_cases hcompleted : s.streamCompleted = true
    · simpa [hcompleted] using h.pollNext hloop .pop
    · simp only [hcompleted]
      refine h.pollStream hloop fun hready => hspares rfl ?_
      simpa [abandonsPop, hloop, hcursor, hcompleted] using hready
  | pop => exact h.pollPop hloop
  | isEmpty =>
    exact h.pollIsEmpty hloop fun empty hfuture => hspares rfl (by
      simp [abandonsPop, hloop, hcursor, hfuture])

theorem poll (h : Delivers s) (hspares : Spares s .poll) (hstep : s.poll = some t) :
    Delivers t := by
  have hlive := h.live
  have hsent := h.sent
  rw [BatchStreamState.poll] at hstep
  cases hloop : s.loop with
  | select sel =>
    rw [hloop] at hstep
    exact Option.some.inj hstep ▸ h.pollSelect hloop hspares
  | pushing item =>
    simp only [hloop, Option.ite_none_right_eq_some, Option.some_inj] at hstep hlive hsent
    obtain ⟨-, rfl⟩ := hstep
    exact ⟨hsent, by simpa [isLivePop, BatchLoop.waitingPops, PopFuture.waitingPops] using hlive,
      h.quiet.append (by simp)⟩
  | sending message =>
    simp only [hloop, Option.ite_none_right_eq_some, Option.some_inj] at hstep hlive hsent
    obtain ⟨-, rfl⟩ := hstep
    cases message <;>
      exact ⟨by simpa [sentBatches, List.filterMap_cons, BatchLoop.inFlight, PopFuture.inFlight,
        Except.toOption] using hsent, hlive, h.quiet⟩
  | exited drained => simp [hloop] at hstep

/-- Handling a message answers the loop's request or finds that it was abandoned. -/
theorem runActor (h : Delivers s) (hstep : s.runActor = some t) : Delivers t := by
  have hlive := h.live
  have hquiet := h.quiet
  rw [BatchStreamState.runActor] at hstep
  cases hmailbox : s.mailbox with
  | nil => simp [hmailbox] at hstep
  | cons m mailbox =>
    simp only [hmailbox, Option.some_inj] at hstep hlive hquiet
    subst hstep
    cases m with
    | push item => exact ⟨h.sent, hlive, hquiet.2⟩
    | isEmpty live =>
      have hlive' : mailbox.countP isLivePop = s.loop.waitingPops := by
        simpa [isLivePop] using hlive
      cases live with
      | false => exact ⟨h.sent, hlive', hquiet.2⟩
      | true =>
        exact ⟨by simpa [handle, sentBatches] using h.sent, by simpa [handle] using hlive',
          hquiet.2⟩
    | pop live =>
      cases live with
      | false =>
        -- nobody receives the reply, but there is no batch in it
        have hnone : (popBatch s.batcher).1 = none := hquiet.1 rfl
        exact ⟨by simpa [handle, sentBatches, hnone] using h.sent,
          by simpa [handle, isLivePop] using hlive, hquiet.2⟩
      | true =>
        -- the reply goes to the future of the current `select!`, which holds the batch from now on
        have hone : mailbox.countP isLivePop + 1 = s.loop.waitingPops := by
          rw [← hlive, List.countP_cons_of_pos rfl]
        obtain ⟨sel, hloop, hfuture⟩ := BatchLoop.exists_waiting (by omega : s.loop.waitingPops ≠ 0)
        have hsent := h.sent
        simp only [hloop, BatchLoop.waitingPops, BatchLoop.inFlight, hfuture] at hone hsent
        refine ⟨?_, ?_, hquiet.2⟩
        · simp [handle, sentBatches, hloop, BatchLoop.answerPop, BatchLoop.inFlight, hsent,
            PopFuture.inFlight]
        · simpa [handle, hloop, BatchLoop.answerPop, BatchLoop.waitingPops,
            PopFuture.waitingPops] using hone

/-- A step that spares the popped batches keeps them delivered. -/
theorem step {a : BatchStreamLabel} (h : Delivers s) (hspares : Spares s a)
    (hstep : s.step a = some t) : Delivers t := by
  obtain ⟨streams, merged, closed, batchRx, rfl⟩ | ⟨rfl, hpoll⟩ | ⟨-, hactor⟩ := step_cases hstep
  · exact ⟨h.sent, h.live, h.quiet⟩
  · exact h.poll hspares hpoll
  · exact h.runActor hactor

end Delivers

/-! ### What was received is in the sent batches -/

section Accounting

variable {K κ : Type} [LinearOrder κ] [OrdKey K κ] [BatchKey K]

/-- The received items are with the batcher, in the mailbox or in the loop's hands,
in the order in which they were received. No push is queued behind a request the loop
waits for, so once the loop learns that the batcher is empty, nothing follows. -/
structure Tracks (n : ℕ) (s : BatchStreamState (KeyedBatcher K)) : Prop where
  run : runEvents (KeyedBatcher.new n) s.calls = (s.batcher, s.popped)
  received : s.received =
    (pushes s.calls).map (·.2) ++ s.mailbox.filterMap item? ++ s.loop.inHand
  behind : s.mailbox.Pairwise fun m m' => m.isLive = true → m'.item? = none
  live : ∀ m ∈ s.mailbox, m.isLive = true → ∃ sel, s.loop = .select sel
  empty : s.loop.knowsEmpty = true →
    DetectionBatcher.isEmpty s.batcher = true ∧ ∀ m ∈ s.mailbox, m.item? = none

namespace Tracks

variable {n : ℕ} {s t : BatchStreamState (KeyedBatcher K)} {sel : Select}

theorem start (n : ℕ) (streams : List (List (Except Error StreamItem))) :
    Tracks n (BatchStreamState.start (KeyedBatcher.new n : KeyedBatcher K) streams) where
  run := rfl
  received := rfl
  behind := .nil
  live := by simp [BatchStreamState.start]
  empty h := by simp [BatchStreamState.start, BatchLoop.knowsEmpty, IsEmptyFuture.knowsEmpty] at h

theorem takeBranch_received (h : Tracks n s) (hloop : s.loop = .select sel) (loop : BatchLoop)
    (hempty : loop.knowsEmpty = true → s.loop.knowsEmpty = true) :
    Tracks n { s.takeBranch loop with received := s.received ++ loop.inHand } where
  run := h.run
  received := by
    -- dropping receivers changes no push
    have hitems : (s.mailbox.map dropReceiver).filterMap item? = s.mailbox.filterMap item? := by
      rw [List.filterMap_map]
      exact List.filterMap_congr fun m _ => by simp
    simp [BatchStreamState.takeBranch, hitems, h.received, hloop, BatchLoop.inHand]
  behind := by
    rw [BatchStreamState.takeBranch, List.pairwise_map]
    exact List.pairwise_of_forall (by simp)
  live := by simp [BatchStreamState.takeBranch]
  empty hknows := by
    obtain ⟨hbatcher, hmailbox⟩ := h.empty (hempty hknows)
    refine ⟨hbatcher, ?_⟩
    intro m hm
    obtain ⟨m', hm', rfl⟩ := List.mem_map.mp hm
    rw [item?_dropReceiver, hmailbox m' hm']

theorem takeBranch (h : Tracks n s) (hloop : s.loop = .select sel) (loop : BatchLoop)
    (hhand : loop.inHand = []) (hempty : loop.knowsEmpty = true → s.loop.knowsEmpty = true) :
    Tracks n (s.takeBranch loop) := by
  have htaken := h.takeBranch_received hloop loop hempty
  rw [hhand, List.append_nil] at htaken
  exact htaken

/-- The loop sends a request and stays in `select!`. -/
theorem send (h : Tracks n s) (hloop : s.loop = .select sel) {m : DetectionBatcherMessage}
    (hm : m.item? = none) {sel' : Select} (hempty : sel'.isEmpty.knowsEmpty = true →
      sel.isEmpty.knowsEmpty = true) :
    Tracks n { s with mailbox := s.mailbox ++ [m], loop := .select sel' } where
  run := h.run
  received := by simpa [hm, hloop, BatchLoop.inHand] using h.received
  behind := by
    rw [List.pairwise_append]
    exact ⟨h.behind, List.pairwise_singleton _ _, by simp [hm]⟩
  live _ _ _ := ⟨sel', rfl⟩
  empty hknows := by
    obtain ⟨hbatcher, hmailbox⟩ := h.empty (by rw [hloop]; exact hempty hknows)
    refine ⟨hbatcher, ?_⟩
    intro m' hm'
    rcases List.mem_append.mp hm' with hm' | hm'
    · exact hmailbox m' hm'
    · rwa [List.mem_singleton.mp hm']

/-- The loop goes on in `select!`. -/
theorem select (h : Tracks n s) (hloop : s.loop = .select sel) (sel' : Select)
    (hempty : sel'.isEmpty = sel.isEmpty) : Tracks n { s with loop := .select sel' } where
  run := h.run
  received := h.received.trans (by rw [hloop]; rfl)
  behind := h.behind
  live _ _ _ := ⟨sel', rfl⟩
  empty hknows := h.empty (by
    rw [hloop]
    simpa [BatchLoop.knowsEmpty, hempty] using hknows)

theorem pollStream (h : Tracks n s) (hloop : s.loop = .select sel) :
    Tracks n (s.pollStream sel) := by
  rw [BatchStreamState.pollStream]
  split
  · rename_i item merged hmerged
    have htaken := h.takeBranch_received hloop (.pushing item) (by simp [BatchLoop.knowsEmpty])
    exact ⟨htaken.run, htaken.received, htaken.behind, htaken.live, htaken.empty⟩
  · rename_i error merged hmerged
    have htaken := h.takeBranch hloop (.sending (.error error)) rfl (by simp [BatchLoop.knowsEmpty])
    exact ⟨htaken.run, htaken.received, htaken.behind, htaken.live, htaken.empty⟩
  · split
    · have htaken := h.takeBranch hloop (.select {}) rfl
        (by simp [BatchLoop.knowsEmpty, IsEmptyFuture.knowsEmpty])
      exact ⟨htaken.run, htaken.received, htaken.behind, htaken.live, htaken.empty⟩
    · exact h.select hloop _ rfl

theorem pollPop (h : Tracks n s) (hloop : s.loop = .select sel) : Tracks n (s.pollPop sel) := by
  rw [BatchStreamState.pollPop]
  split
  · split
    · exact h.send hloop rfl id
    · exact h.select hloop _ rfl
  · exact h.select hloop _ rfl
  · rename_i batch hfuture
    exact h.takeBranch hloop (.sending (.ok batch)) rfl (by simp [BatchLoop.knowsEmpty])
  · exact h.select hloop _ rfl
  · exact h.select hloop _ rfl

theorem pollIsEmpty (h : Tracks n s) (hloop : s.loop = .select sel) :
    Tracks n (s.pollIsEmpty sel) := by
  rw [BatchStreamState.pollIsEmpty]
  split
  · split
    · exact h.send hloop rfl (by simp [IsEmptyFuture.knowsEmpty])
    · exact h.select hloop _ rfl
  · exact h.select hloop _ rfl
  · rename_i hfuture
    exact h.takeBranch hloop (.exited true) rfl
      (by simp [hloop, BatchLoop.knowsEmpty, hfuture, IsEmptyFuture.knowsEmpty])
  · exact h.takeBranch hloop (.select {}) rfl
      (by simp [BatchLoop.knowsEmpty, IsEmptyFuture.knowsEmpty])

theorem pollSelect (h : Tracks n s) (hloop : s.loop = .select sel) :
    Tracks n (s.pollSelect sel) := by
  rw [BatchStreamState.pollSelect]
  split
  · split
    · exact h.select hloop _ rfl
    · exact h.pollStream hloop
  · exact h.pollPop hloop
  · exact h.pollIsEmpty hloop

theorem poll (h : Tracks n s) (hstep : s.poll = some t) : Tracks n t := by
  rw [BatchStreamState.poll] at hstep
  cases hloop : s.loop with
  | select sel =>
    rw [hloop] at hstep
    exact Option.some.inj hstep ▸ h.pollSelect hloop
  | pushing item =>
    simp only [hloop, Option.ite_none_right_eq_some, Option.some_inj] at hstep
    obtain ⟨-, rfl⟩ := hstep
    -- outside `select!` no request is live, so the push may be queued behind all others
    have hdead : ∀ m ∈ s.mailbox, m.isLive = false := fun m hm => by
      by_contra hlive
      obtain ⟨sel, hsel⟩ := h.live m hm (by simpa using hlive)
      simp [hloop] at hsel
    refine ⟨h.run, ?_, ?_, ?_, ?_⟩
    · simpa [hloop, BatchLoop.inHand, item?] using h.received
    · rw [List.pairwise_append]
      exact ⟨h.behind, List.pairwise_singleton _ _, fun m hm _ _ hlive => by
        simp [hdead m hm] at hlive⟩
    · exact fun _ _ _ => ⟨_, rfl⟩
    · simp [BatchLoop.knowsEmpty, IsEmptyFuture.knowsEmpty]
  | sending message =>
    simp only [hloop, Option.ite_none_right_eq_some, Option.some_inj] at hstep
    obtain ⟨-, rfl⟩ := hstep
    have hdead : ∀ m ∈ s.mailbox, ¬ m.isLive = true := fun m hm hlive => by
      obtain ⟨sel, hsel⟩ := h.live m hm hlive
      simp [hloop] at hsel
    have hreceived := h.received
    rw [hloop] at hreceived
    cases message <;>
      exact ⟨h.run, hreceived, h.behind, fun m hm hlive => absurd hlive (hdead m hm),
        by simp [BatchLoop.knowsEmpty, IsEmptyFuture.knowsEmpty]⟩
  | exited drained => simp [hloop] at hstep

theorem answerPop (h : Tracks n s) (batch : Option Batch) :
    Tracks n { s with loop := s.loop.answerPop batch } where
  run := h.run
  received := by simpa using h.received
  behind := h.behind
  live m hm hlive := by
    obtain ⟨sel, hsel⟩ := h.live m hm hlive
    exact ⟨_, by rw [hsel]; rfl⟩
  empty hknows := h.empty (by simpa using hknows)

theorem answerIsEmpty (h : Tracks n s) (hmailbox : ∀ m ∈ s.mailbox, m.item? = none) :
    Tracks n { s with loop := s.loop.answerIsEmpty (DetectionBatcher.isEmpty s.batcher) } where
  run := h.run
  received := by simpa using h.received
  behind := h.behind
  live m hm hlive := by
    obtain ⟨sel, hsel⟩ := h.live m hm hlive
    exact ⟨_, by rw [hsel]; rfl⟩
  empty hknows := by
    cases hloop : s.loop with
    | select sel =>
      simp only [hloop] at hknows
      exact ⟨hknows, hmailbox⟩
    | pushing _ | sending _ | exited _ =>
      simp only [hloop] at hknows
      exact h.empty (by rw [hloop]; exact hknows)

theorem runActor (h : Tracks n s) (hstep : s.runActor = some t) : Tracks n t := by
  rw [BatchStreamState.runActor] at hstep
  cases hmailbox : s.mailbox with
  | nil => simp [hmailbox] at hstep
  | cons m mailbox =>
    simp only [hmailbox, Option.some_inj] at hstep
    subst hstep
    have hreceived := h.received
    have hempty := h.empty
    obtain ⟨hbehind, hrest⟩ := List.pairwise_cons.mp (hmailbox ▸ h.behind)
    have hlive : ∀ m ∈ mailbox, m.isLive = true → ∃ sel, s.loop = .select sel :=
      fun m hm => h.live m (by simp [hmailbox, hm])
    rw [hmailbox] at hreceived hempty
    have hitems : s.loop.knowsEmpty = true → ∀ m ∈ mailbox, m.item? = none :=
      fun hknows m hm => (hempty hknows).2 m (by simp [hm])
    cases m with
    | push item =>
      refine ⟨?_, ?_, hrest, hlive, fun hknows => ?_⟩
      · simp [handle, runEvents_append_singleton, h.run, callEvent]
      · simpa [handle, pushes, item?] using hreceived
      · simpa [item?] using (hempty hknows).2 (.push item) (by simp)
    | pop live =>
      -- popping does not touch what was received, and leaves an empty batcher empty
      have hpopped : Tracks n { s with
          mailbox
          batcher := (popBatch s.batcher).2
          calls := s.calls ++ [.popBatch]
          popped := s.popped ++ (popBatch s.batcher).1.toList } := by
        refine ⟨?_, ?_, hrest, hlive, fun hknows => ⟨?_, hitems hknows⟩⟩
        · simp [runEvents_append_singleton, h.run, callEvent]
        · simpa [pushes, List.filterMap_cons, item?] using hreceived
        · have hbatcher := (hempty hknows).1
          rwa [KeyedBatcher.popBatch_of_isEmpty hbatcher]
      cases live with
      | false => exact hpopped
      | true => exact hpopped.answerPop _
    | isEmpty live =>
      have hdequeued : Tracks n { s with mailbox } :=
        ⟨h.run, hreceived, hrest, hlive, fun hknows => ⟨(hempty hknows).1, hitems hknows⟩⟩
      cases live with
      | false => exact hdequeued
      -- no push is queued behind the live request, so the reply is still true when it is read
      | true => exact hdequeued.answerIsEmpty fun m hm => hbehind m hm rfl

theorem step {a : BatchStreamLabel} (h : Tracks n s) (hstep : s.step a = some t) :
    Tracks n t := by
  obtain ⟨streams, merged, closed, batchRx, rfl⟩ | ⟨-, hpoll⟩ | ⟨-, hactor⟩ := step_cases hstep
  · exact ⟨h.run, h.received, h.behind, h.live, h.empty⟩
  · exact h.poll hpoll
  · exact h.runActor hactor

/-- Once the loop has exited because the batcher is empty, everything it received is
in the popped batches. -/
theorem exists_groups (h : Tracks n s) (hexited : s.loop = .exited true) :
    ∃ groups : List (K × List (List Detection)),
      s.popped = groups.map KeyedBatcher.batchOf ∧ (∀ g ∈ groups, g.2.length = n) ∧
        (KeyedBatcher.keyedItems K s.received).Perm (KeyedBatcher.keyedLists groups) := by
  have haccounts := KeyedBatcher.accounts (K := K) n s.calls
  obtain ⟨hempty, hmailbox⟩ := h.empty (by rw [hexited]; rfl)
  have hrun := h.run
  rw [KeyedBatcher.runEvents_eq, Prod.mk.injEq] at hrun
  -- nothing is left in the mailbox or in the loop's hands
  have hreceived : s.received = (pushes s.calls).map (·.2) := by
    rw [h.received, hexited, List.filterMap_eq_nil_iff.mpr hmailbox]
    simp [BatchLoop.inHand]
  refine ⟨_, hrun.2.symm, haccounts.complete, ?_⟩
  rw [hreceived]
  exact haccounts.perm_of_isEmpty (hrun.1 ▸ hempty)

end Tracks

end Accounting

instance (s : BatchStreamState B) (a : BatchStreamLabel) : Decidable (Spares s a) :=
  inferInstanceAs (Decidable (_ → _))

end BatchStreamState

open BatchStreamState

/-- **Delivery of batches.** In every run in which the loop never abandons a request
that yields a batch: what the actor has popped is what was sent, in order, followed
by what the loop holds; when the loop exits, all popped batches have been sent; and
when it exits because the batcher is empty, everything received from the streams is
in the sent batches, which have one list per detector. -/
theorem batchStream_delivers {K κ : Type} [LinearOrder κ] [OrdKey K κ] [BatchKey K] {n : ℕ}
    {streams : List (List (Except Error StreamItem))} {w : List BatchStreamLabel}
    {s : BatchStreamState (KeyedBatcher K)}
    (hspares : Meets step Spares (start (KeyedBatcher.new n : KeyedBatcher K) streams) w)
    (hrun : exec step (start (KeyedBatcher.new n) streams) w = some s) :
    s.popped = s.sentBatches ++ s.loop.inFlight ∧
      (∀ drained, s.loop = .exited drained → s.popped = s.sentBatches) ∧
      (s.loop = .exited true → ∃ groups : List (K × List (List Detection)),
        s.sentBatches = groups.map KeyedBatcher.batchOf ∧ (∀ g ∈ groups, g.2.length = n) ∧
          (KeyedBatcher.keyedItems K s.received).Perm (KeyedBatcher.keyedLists groups)) := by
  have hdelivers : Delivers s :=
    exec_invariant (fun _ _ _ h => h.step) (Delivers.start _ streams) hspares hrun
  have htracks : Tracks n s :=
    exec_invariant_all (fun _ _ _ h => h.step) (Tracks.start n streams) hrun
  have hsent : ∀ drained, s.loop = .exited drained → s.popped = s.sentBatches := by
    intro drained hexited
    rw [hdelivers.sent, hexited]
    simp [BatchLoop.inFlight]
  refine ⟨hdelivers.sent, hsent, ?_⟩
  intro hexited
  obtain ⟨groups, hpopped, hgroups⟩ := htracks.exists_groups hexited
  exact ⟨groups, (hsent true hexited).symm.trans hpopped, hgroups⟩

/-- Two detectors that find nothing in a text of two chunks. -/
def twoDetectors : List (List (Except Error StreamItem)) :=
  [[.ok (0, { stop := 3 }, []), .ok (0, { start := 3, stop := 7 }, [])],
    [.ok (0, { stop := 3 }, []), .ok (0, { start := 3, stop := 7 }, [])]]

/-- The batcher of the two detectors. -/
def twoDetectorsStart : BatchStreamState MaxProcessedIndexBatcher :=
  start (KeyedBatcher.new 2) twoDetectors

/-- The next chunk arrives only after the batch of the first was sent. -/
def patientRun : List BatchStreamLabel :=
  [.arrive 0, .poll, .poll, .arrive 1, .poll, .poll, .poll, .poll, .poll, .actor, .actor, .actor,
    .poll, .poll, .poll, .arrive 0, .poll, .poll, .arrive 1, .poll, .poll, .close, .poll, .poll,
    .poll, .actor, .actor, .actor, .poll, .poll, .poll, .poll, .poll, .poll, .poll, .actor, .actor,
    .poll, .poll, .poll]

theorem batchStream_delivers_patientRun :
    ∃ s, exec step twoDetectorsStart patientRun = some s ∧ s.loop = .exited true ∧
      s.popped = s.sentBatches ∧ s.sentBatches.map (·.2.1.stop) = [3, 7] := by
  have hrun : exec step twoDetectorsStart patientRun =
      some ((exec step twoDetectorsStart patientRun).get (by decide)) := (Option.some_get _).symm
  exact ⟨_, hrun, by decide, (batchStream_delivers (by decide) hrun).2.1 true (by decide),
    by decide⟩

/-- The next chunk arrives while the loop waits for the batch of the first: the loop
takes the stream branch although the actor has already popped the batch. -/
def hastyRun : List BatchStreamLabel :=
  [.arrive 0, .poll, .poll, .arrive 1, .poll, .poll, .poll, .poll, .poll, .actor, .actor, .actor,
    .arrive 0, .poll, .poll, .arrive 1, .poll, .poll, .close, .poll, .poll, .poll, .actor, .actor,
    .actor, .poll, .poll, .poll, .poll, .poll, .poll, .poll, .actor, .actor, .poll, .poll, .poll]

/-- The batch of the first chunk is popped and never sent. -/
theorem batchStream_loses_hastyRun :
    ∃ s, exec step twoDetectorsStart hastyRun = some s ∧ s.loop = .exited true ∧
      s.popped = [(0, { stop := 3 }, []), (0, { start := 3, stop := 7 }, [])] ∧
      s.sent = [.ok (0, { start := 3, stop := 7 }, [])] := by
  exact ⟨(exec step twoDetectorsStart hastyRun).get (by decide), (Option.some_get _).symm,
    by decide, by decide, by decide⟩

end GuardrailsOrchestrator
