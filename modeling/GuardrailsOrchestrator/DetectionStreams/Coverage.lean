import GuardrailsOrchestrator.DetectionStreams.Basic
import GuardrailsOrchestrator.Lib.Execution
import Mathlib.Algebra.GroupWithZero.Nat
import Mathlib.Data.List.Forall2

/-!
# Every detector examines every chunk

A detection stream should yield one item for every item of its chunk stream, in order. An
item is lost for a detector if it is broadcast before the detector is subscribed, or while
the detector is a full channel behind, or if the answer makes the task panic; the detector task
reports none of this. `Delivered` says of a step that it loses nothing for a detector, and the
main result is that the stream of a detector whose task has ended is complete exactly when no step
lost anything for it.

The proof counts: an item is yet to be broadcast, unread, being examined, or answered for.
-/

namespace GuardrailsOrchestrator

open Broadcast Transition

/-- An item of a detection stream answers for an item of the chunk stream: detections on
the chunk, the error of the detector, or the error of the chunk stream. -/
inductive Examines (inputId : ℕ) : ChunkItem → DetectionItem → Prop
  | detected (chunk : Chunk) (detections : List Detection) :
    Examines inputId (.ok chunk) (.ok (inputId, chunk, detections))
  | requestFailed (chunk : Chunk) (error : Error) : Examines inputId (.ok chunk) (.error error)
  | streamFailed (error : Error) : Examines inputId (.error error) (.error error)

/-! ### One detector task -/

namespace DetectorTask

/-- The item that is being examined. -/
def inflight (d : DetectorTask) : List ChunkItem :=
  match d.stage with
  | .detecting chunk => [.ok chunk]
  | _ => []

/-- The items that the task has yet to answer for. -/
def pending (d : DetectorTask) : List ChunkItem := d.inflight ++ d.chunkRx.unread

/-- The number of items that have reached the task. -/
def held (d : DetectorTask) : ℕ := d.detections.length + d.pending.length

/-- Whatever was lost, the task answers for items of the stream in order, with `rest` yet to
be broadcast; if its receiver lags, something was lost; and when it has ended, nothing is
left to answer for. -/
structure Accounts (inputId : ℕ) (items rest : List ChunkItem) (d : DetectorTask) : Prop where
  inOrder : ∃ seen, List.Forall₂ (Examines inputId) seen d.detections ∧
    (seen ++ d.pending ++ rest).Sublist items
  lagged : d.chunkRx.lagged = true → d.held + rest.length < items.length
  emptied : d.stage = .ended → d.pending = []

variable {inputId : ℕ} {items rest : List ChunkItem} {d d' : DetectorTask}

theorem Accounts.held_add_le (h : Accounts inputId items rest d) :
    d.held + rest.length ≤ items.length := by
  obtain ⟨seen, hseen, hsublist⟩ := h.inOrder
  have hlength := hsublist.length_le
  simp only [List.length_append, hseen.length_eq] at hlength
  rw [held]
  omega

theorem offer_of_ended (hended : d.stage = .ended) (item : ChunkItem) : d.offer item = d := by
  simp [offer, hended]

theorem offer_of_not_ended (hended : d.stage ≠ .ended) (item : ChunkItem) :
    d.offer item = { d with chunkRx := d.chunkRx.offer broadcastCapacity item } := by
  rw [offer]
  split
  · exact absurd ‹_› hended
  · rfl

theorem held_offer (hended : d.stage ≠ .ended) (item : ChunkItem) :
    (d.offer item).held =
      d.held + if d.chunkRx.unread.length < broadcastCapacity then 1 else 0 := by
  have hlength := d.chunkRx.length_unread_offer (by decide : 0 < broadcastCapacity) item
  rw [offer_of_not_ended hended, held, held, pending, pending, List.length_append,
    List.length_append, hlength]
  change d.detections.length + (d.inflight.length + _) = _
  omega

theorem Accounts.offer {item : ChunkItem} (h : Accounts inputId items (item :: rest) d)
    (hended : d.stage ≠ .ended) : Accounts inputId items rest (d.offer item) := by
  have hheld := held_offer hended item
  have hle := h.held_add_le
  rw [List.length_cons] at hle
  rw [offer_of_not_ended hended] at hheld ⊢
  refine ⟨?_, ?_, fun hstage => absurd hstage hended⟩
  · obtain ⟨seen, hseen, hsublist⟩ := h.inOrder
    refine ⟨seen, hseen, List.Sublist.trans ?_ hsublist⟩
    have hunread := d.chunkRx.unread_offer_sublist broadcastCapacity item
    have hpending := (hunread.append_left (seen ++ d.inflight)).append_right rest
    simpa [pending, inflight] using hpending
  · intro hlagged
    rw [hheld]
    rw [Receiver.lagged_offer, Bool.or_eq_true, decide_eq_true_eq] at hlagged
    -- an item was lost before, or this one pushes the oldest one out
    rcases hlagged with hlagged | hfull
    · have hlost := h.lagged hlagged
      rw [List.length_cons] at hlost
      split_ifs <;> omega
    · rw [if_neg (Nat.not_lt.mpr hfull)]
      omega

/-- An item that the task is not offered is one more that was lost. -/
theorem Accounts.miss {item : ChunkItem} (h : Accounts inputId items (item :: rest) d) :
    Accounts inputId items rest d := by
  refine ⟨?_, ?_, h.emptied⟩
  · obtain ⟨seen, hseen, hsublist⟩ := h.inOrder
    exact ⟨seen, hseen, ((List.sublist_cons_self item rest).append_left _).trans hsublist⟩
  · intro hlagged
    have hlost := h.lagged hlagged
    rw [List.length_cons] at hlost
    omega

/-- A task that is over has nothing more to answer for. -/
theorem Accounts.drop (h : Accounts inputId items rest d) :
    Accounts inputId items rest { d with chunkRx := {}, stage := .ended } := by
  refine ⟨?_, by simp, by simp [pending, inflight]⟩
  obtain ⟨seen, hseen, hsublist⟩ := h.inOrder
  refine ⟨seen, hseen, List.Sublist.trans ?_ hsublist⟩
  simp [pending, inflight]

/-- Receiving loses nothing unless the receiver lags, and ends the loop only then or when
the channel is closed. -/
theorem Accounts.receive {hasSenders : Bool} (h : Accounts inputId items rest d)
    (hstep : d.receive hasSenders = some d') :
    Accounts inputId items rest d' ∧ d'.held ≤ d.held ∧
      (d.chunkRx.lagged = false → d'.held = d.held) ∧
      (d'.stage = .ended → d.chunkRx.lagged = false → hasSenders = false) := by
  rw [DetectorTask.receive] at hstep
  split at hstep
  swap
  · simp at hstep
  rename_i hstage
  obtain ⟨⟨result, rx⟩, hrecv, rfl⟩ := Option.map_eq_some_iff.mp hstep
  have hpending : d.pending = d.chunkRx.unread := by simp [pending, inflight, hstage]
  rcases Receiver.cases_of_recv hrecv with
    ⟨hlagged, rfl⟩ | ⟨item, -, hunread, hlagged', rfl⟩ | ⟨hlagged, hunread, hsenders, rfl⟩
  -- a detector that has lagged ends
  · refine ⟨h.drop, ?_, by simp [hlagged], by simp [hlagged]⟩
    simp [held, pending, inflight]
  · obtain ⟨seen, hseen, hsublist⟩ := h.inOrder
    rw [hpending, hunread] at hsublist
    rcases item with error | chunk
    · -- an error of the chunk stream is passed on at once
      have hheld : ({ d with chunkRx := rx, detections := d.detections ++ [.error error] } :
          DetectorTask).held = d.held := by
        simp [held, pending, inflight, hstage, hunread]
        omega
      refine ⟨⟨⟨seen ++ [.error error], ?_, ?_⟩, by simp [hlagged'], by simp [hstage]⟩, hheld.le,
        fun _ => hheld, by simp [hstage]⟩
      · exact List.rel_append hseen (.cons (.streamFailed error) .nil)
      · simpa [pending, inflight, hstage] using hsublist
    · have hheld : ({ d with chunkRx := rx, stage := .detecting chunk } : DetectorTask).held =
          d.held := by
        simp [held, pending, inflight, hstage, hunread]
      refine ⟨⟨⟨seen, hseen, ?_⟩, by simp [hlagged'], by simp⟩, hheld.le, fun _ => hheld, by simp⟩
      simpa [pending, inflight] using hsublist
  · refine ⟨h.drop, ?_, ?_, fun _ _ => hsenders⟩
    · simp [held, pending, inflight]
    · simp [held, pending, inflight, hstage, hunread]

/-- An answer takes the place of the item that was examined. -/
theorem Accounts.answer {result : Except Error (List Detection)}
    (h : Accounts inputId items rest d) (hstep : d.answer inputId result = some d') :
    Accounts inputId items rest d' ∧ d'.held = d.held ∧ d'.stage ≠ .ended := by
  rw [DetectorTask.answer] at hstep
  split at hstep
  swap
  · simp at hstep
  rename_i chunk hstage
  obtain rfl := Option.some.inj hstep
  have hheld : ({ d with
      stage := .receiving
      detections := d.detections ++ [result.map fun detections =>
        (inputId, chunk, detections.filter (d.threshold ≤ ·.score))] } : DetectorTask).held =
      d.held := by
    simp [held, pending, inflight, hstage]
    omega
  refine ⟨⟨?_, ?_, by simp⟩, hheld, by simp⟩
  · obtain ⟨seen, hseen, hsublist⟩ := h.inOrder
    -- the chunk in flight becomes the last one seen
    refine ⟨seen ++ [.ok chunk], List.rel_append hseen (.cons ?_ .nil), ?_⟩
    · cases result with
      | ok detections => exact .detected chunk _
      | error error => exact .requestFailed chunk error
    · simpa [pending, inflight, hstage] using hsublist
  · intro hlagged
    rw [hheld]
    exact h.lagged hlagged

/-- A panic loses the item that was examined. -/
theorem Accounts.panic (h : Accounts inputId items rest d) (hstep : d.panic = some d') :
    Accounts inputId items rest d' ∧ d'.held < d.held := by
  rw [DetectorTask.panic] at hstep
  split at hstep
  swap
  · simp at hstep
  rename_i chunk hstage
  obtain rfl := Option.some.inj hstep
  refine ⟨h.drop, ?_⟩
  simp [held, pending, inflight, hstage]

end DetectorTask

/-! ### Runs -/

namespace DetectionStreams

variable {inputId : ℕ} {items : List ChunkItem} {i : ℕ} {s t : DetectionStreams}

/-- If an item is broadcast, the detector is subscribed and has room for it; and its task does
not panic. -/
def Delivered (i : ℕ) (s : DetectionStreams) (a : DetectionStreamsLabel) : Prop :=
  (a = .broadcast → s.items ≠ [] →
    ∃ d ∈ s.detectors[i]?, d.chunkRx.unread.length < broadcastCapacity) ∧ a ≠ .panic i

instance (i : ℕ) (s : DetectionStreams) (a : DetectionStreamsLabel) : Decidable (Delivered i s a) :=
  inferInstanceAs (Decidable ((_ → _) ∧ _))

/-- The number of items that have reached the detector or are yet to be broadcast. -/
def accounted (s : DetectionStreams) (i : ℕ) : ℕ :=
  s.items.length + (s.detectors[i]?.map DetectorTask.held).getD 0

/-- What holds whatever was lost. A task ends before the last item is broadcast only if it
has lost something. -/
structure Tracks (inputId : ℕ) (items : List ChunkItem) (i : ℕ) (s : DetectionStreams) : Prop where
  detector : ∀ d, s.detectors[i]? = some d → d.Accounts inputId items s.items ∧
    (d.stage = .ended → s.broadcasting = true → d.held + s.items.length < items.length)
  rest : s.items <:+ items
  closed : s.broadcasting = false → s.items = []

theorem accounted_of_some {d : DetectorTask} (hd : s.detectors[i]? = some d) :
    s.accounted i = s.items.length + d.held := by
  simp [accounted, hd]

theorem accounted_of_none (hd : s.detectors[i]? = none) : s.accounted i = s.items.length := by
  simp [accounted, hd]

theorem exists_of_stepDetector {f : DetectorTask → Option DetectorTask} {j : ℕ}
    (h : s.stepDetector j f = some t) :
    ∃ d d', s.detectors[j]? = some d ∧ f d = some d' ∧
      t = { s with detectors := s.detectors.set j d' } := by
  obtain ⟨d', hbind, rfl⟩ := Option.map_eq_some_iff.mp h
  obtain ⟨d, hd, hf⟩ := Option.bind_eq_some_iff.mp hbind
  exact ⟨d, d', hd, hf, rfl⟩

/-- An item is broadcast, or the broadcasting task is over. -/
theorem cases_of_broadcast (h : s.broadcast = some t) :
    (∃ item rest, s.items = item :: rest ∧
        t = { s with items := rest, detectors := s.detectors.map (·.offer item) }) ∨
      (s.items = [] ∧ s.broadcasting = true ∧ t = { s with broadcasting := false }) := by
  rw [broadcast] at h
  split at h
  · rename_i item rest hitems
    exact Or.inl ⟨item, rest, hitems, (Option.some.inj h).symm⟩
  · rename_i hitems
    split_ifs at h with hbroadcasting
    exact Or.inr ⟨hitems, hbroadcasting, (Option.some.inj h).symm⟩

/-- A detector is subscribed, or the subscribing task is over. -/
theorem cases_of_subscribe (h : s.subscribe = some t) :
    (∃ threshold unsubscribed, s.unsubscribed = threshold :: unsubscribed ∧
        t = { s with unsubscribed, detectors := s.detectors ++ [{ threshold }] }) ∨
      (s.unsubscribed = [] ∧ s.subscribing = true ∧ t = { s with subscribing := false }) := by
  rw [subscribe] at h
  split at h
  · rename_i threshold unsubscribed hunsubscribed
    exact Or.inl ⟨threshold, unsubscribed, hunsubscribed, (Option.some.inj h).symm⟩
  · rename_i hunsubscribed
    split_ifs at h with hsubscribing
    exact Or.inr ⟨hunsubscribed, hsubscribing, (Option.some.inj h).symm⟩

theorem getElem?_append_singleton {α : Type*} (l : List α) (x : α) (i : ℕ) :
    (l ++ [x])[i]? = l[i]? ∨ l[i]? = none ∧ (l ++ [x])[i]? = some x := by
  rcases Nat.lt_trichotomy i l.length with hlt | heq | hgt
  · exact Or.inl (List.getElem?_append_left hlt)
  · exact Or.inr ⟨by simp [heq], by simp [heq]⟩
  · refine Or.inl ?_
    rw [List.getElem?_eq_none hgt.le, List.getElem?_eq_none]
    rw [List.length_append]
    exact hgt

/-- A new detector has received nothing. -/
theorem accounts_new {rest : List ChunkItem} (hrest : rest.Sublist items) (threshold : ℚ) :
    ({ threshold } : DetectorTask).Accounts inputId items rest :=
  ⟨⟨[], .nil, by simpa [DetectorTask.pending, DetectorTask.inflight] using hrest⟩, by simp, by simp⟩

namespace Tracks

theorem start (inputId : ℕ) (items : List ChunkItem) (thresholds : List ℚ) (i : ℕ) :
    Tracks inputId items i (start items thresholds) :=
  ⟨by simp [DetectionStreams.start], List.suffix_rfl, by simp [DetectionStreams.start]⟩

theorem accounted_le (h : Tracks inputId items i s) : s.accounted i ≤ items.length := by
  cases hd : s.detectors[i]? with
  | none =>
    rw [accounted_of_none hd]
    exact h.rest.length_le
  | some d =>
    have hle := (h.detector d hd).1.held_add_le
    rw [accounted_of_some hd]
    omega

/-- An item is broadcast: what was accounted for stays so exactly if it is delivered. -/
theorem broadcastItem {item : ChunkItem} {rest : List ChunkItem} (h : Tracks inputId items i s)
    (hitems : s.items = item :: rest) {t : DetectionStreams}
    (ht : t = { s with items := rest, detectors := s.detectors.map (·.offer item) }) :
    Tracks inputId items i t ∧
      (t.accounted i = items.length ↔ s.accounted i = items.length ∧ Delivered i s .broadcast) := by
  subst ht
  have hbroadcasting : s.broadcasting = true := by
    by_contra hdone
    simpa [hitems] using h.closed (by simpa using hdone)
  have hrest : rest <:+ items := (List.suffix_cons item rest).trans (hitems ▸ h.rest)
  have hle := h.accounted_le
  cases hd : s.detectors[i]? with
  -- a detector that is not subscribed yet misses the item
  | none =>
    have hnext : (s.detectors.map (·.offer item))[i]? = none := by simp [hd]
    refine ⟨⟨by simp [hnext], hrest, by simp [hbroadcasting]⟩, ?_⟩
    rw [accounted_of_none hd, hitems, List.length_cons] at hle
    refine iff_of_false ?_ (by simp [Delivered, hitems, hd])
    rw [accounted_of_none hnext]
    change rest.length ≠ items.length
    omega
  | some d =>
    have hnext : (s.detectors.map (·.offer item))[i]? = some (d.offer item) := by simp [hd]
    obtain ⟨haccounts, hended⟩ := h.detector d hd
    rw [hitems] at haccounts hended
    rw [accounted_of_some hd, hitems, List.length_cons] at hle
    by_cases hstage : d.stage = .ended
    · -- the task ended early, so it had lost something before
      have hlost := hended hstage hbroadcasting
      have hsame := DetectorTask.offer_of_ended hstage item
      rw [hsame] at hnext
      rw [List.length_cons] at hlost
      refine ⟨⟨?_, hrest, by simp [hbroadcasting]⟩, ?_⟩
      · intro d' hd'
        obtain rfl := Option.some.inj (hnext.symm.trans hd')
        refine ⟨haccounts.miss, fun _ _ => ?_⟩
        change _ + rest.length < _
        omega
      · rw [accounted_of_some hnext, accounted_of_some hd, hitems, List.length_cons]
        change rest.length + _ = _ ↔ _
        constructor
        · intro heq
          omega
        · rintro ⟨heq, -⟩
          omega
    -- the task is running: the item is unread now, or pushes the oldest unread one out
    · refine ⟨⟨?_, hrest, by simp [hbroadcasting]⟩, ?_⟩
      · intro d' hd'
        obtain rfl := Option.some.inj (hnext.symm.trans hd')
        refine ⟨haccounts.offer hstage, ?_⟩
        intro hended'
        rw [DetectorTask.offer_of_not_ended hstage] at hended'
        exact absurd hended' hstage
      · have hdelivered : Delivered i s .broadcast ↔
            d.chunkRx.unread.length < broadcastCapacity := by simp [Delivered, hitems, hd]
        rw [hdelivered, accounted_of_some hnext, accounted_of_some hd, hitems, List.length_cons,
          DetectorTask.held_offer hstage]
        change rest.length + _ = _ ↔ _
        split_ifs with hroom
        · simp only [hroom, and_true]
          omega
        · simp only [hroom, and_false, iff_false]
          omega

theorem broadcast (h : Tracks inputId items i s) (hstep : s.broadcast = some t) :
    Tracks inputId items i t ∧
      (t.accounted i = items.length ↔ s.accounted i = items.length ∧ Delivered i s .broadcast) := by
  rcases cases_of_broadcast hstep with ⟨item, rest, hitems, ht⟩ | ⟨hitems, -, rfl⟩
  · exact h.broadcastItem hitems ht
  · refine ⟨⟨?_, h.rest, fun _ => hitems⟩, ?_⟩
    · intro d hd
      exact ⟨(h.detector d hd).1, by simp⟩
    · simp [accounted, Delivered, hitems]

theorem subscribe (h : Tracks inputId items i s) (hstep : s.subscribe = some t) :
    Tracks inputId items i t ∧ t.accounted i = s.accounted i := by
  rcases cases_of_subscribe hstep with ⟨threshold, unsubscribed, -, rfl⟩ | ⟨-, -, rfl⟩
  · -- the new detector is the last one; the others stay where they are
    rcases getElem?_append_singleton s.detectors ({ threshold } : DetectorTask) i with
      hsame | ⟨hnone, hnew⟩
    · refine ⟨⟨fun d hd => h.detector d (hsame ▸ hd), h.rest, h.closed⟩, ?_⟩
      simp [accounted, hsame]
    · refine ⟨⟨?_, h.rest, h.closed⟩, ?_⟩
      · intro d hd
        obtain rfl := Option.some.inj (hnew.symm.trans hd)
        exact ⟨accounts_new h.rest.sublist threshold, by simp⟩
      · rw [accounted_of_none hnone, accounted_of_some hnew]
        simp [DetectorTask.held, DetectorTask.pending, DetectorTask.inflight]
  · exact ⟨⟨h.detector, h.rest, h.closed⟩, rfl⟩

/-- A step of a detector task, which may keep all that it has to answer for. -/
theorem stepDetector {f : DetectorTask → Option DetectorTask} {j : ℕ}
    (h : Tracks inputId items i s) (keeps : Prop)
    (hstep : s.stepDetector j f = some t)
    (hf : ∀ d d', d.Accounts inputId items s.items → f d = some d' →
      d'.Accounts inputId items s.items ∧ d'.held ≤ d.held ∧
        (d.chunkRx.lagged = false → (d'.held = d.held ↔ keeps)) ∧
        (d'.stage = .ended → d.chunkRx.lagged = false → keeps → s.broadcasting = false)) :
    Tracks inputId items i t ∧
      (t.accounted i = items.length ↔ s.accounted i = items.length ∧ (j = i → keeps)) := by
  obtain ⟨d, d', hd, hfd, rfl⟩ := exists_of_stepDetector hstep
  by_cases hj : j = i
  · subst hj
    have hnext : (s.detectors.set j d')[j]? = some d' := by
      have hlt := (List.getElem?_eq_some_iff.mp hd).1
      simp [hlt]
    have haccounts := (h.detector d hd).1
    have hbound := haccounts.held_add_le
    obtain ⟨haccounts', hle, hkeeps, hended⟩ := hf d d' haccounts hfd
    refine ⟨⟨?_, h.rest, h.closed⟩, ?_⟩
    · intro d'' hd''
      obtain rfl := Option.some.inj (hnext.symm.trans hd'')
      refine ⟨haccounts', ?_⟩
      intro hstage hbroadcasting
      change s.broadcasting = true at hbroadcasting
      change d'.held + s.items.length < _
      cases hlagged : d.chunkRx.lagged with
      | true =>
        have hlost := haccounts.lagged hlagged
        omega
      | false =>
        -- the loop ended while items were to come, so the step has lost something
        have hless : d'.held ≠ d.held := by
          intro heq
          have hdone := hended hstage hlagged ((hkeeps hlagged).mp heq)
          simp [hbroadcasting] at hdone
        omega
    · rw [accounted_of_some hnext, accounted_of_some hd]
      change s.items.length + _ = _ ↔ _
      cases hlagged : d.chunkRx.lagged with
      | false =>
        rw [← hkeeps hlagged]
        omega
      | true =>
        have hlost := haccounts.lagged hlagged
        omega
  · have hnext : (s.detectors.set j d')[i]? = s.detectors[i]? := List.getElem?_set_ne hj
    refine ⟨⟨fun d'' hd'' => h.detector d'' (hnext ▸ hd''), h.rest, h.closed⟩, ?_⟩
    simp [accounted, hnext, hj]

/-- One step of the run. -/
theorem step {a : DetectionStreamsLabel} (h : Tracks inputId items i s)
    (hstep : s.step inputId a = some t) :
    Tracks inputId items i t ∧
      (t.accounted i = items.length ↔ s.accounted i = items.length ∧ Delivered i s a) := by
  cases a with
  | broadcast => exact h.broadcast hstep
  | subscribe =>
    obtain ⟨htracks, heq⟩ := h.subscribe hstep
    exact ⟨htracks, by simp [heq, Delivered]⟩
  | receive j =>
    obtain ⟨htracks, hiff⟩ := h.stepDetector True hstep fun d d' haccounts hreceive => by
      obtain ⟨haccounts', hle, heq, hended⟩ := haccounts.receive hreceive
      refine ⟨haccounts', hle, fun hlagged => iff_true_intro (heq hlagged), ?_⟩
      intro hstage hlagged _
      -- a task that has lost nothing ends only once all senders are gone
      have hsenders := hended hstage hlagged
      rw [Bool.or_eq_false_iff] at hsenders
      exact hsenders.1
    exact ⟨htracks, by simp [hiff, Delivered]⟩
  | answer j result =>
    obtain ⟨htracks, hiff⟩ := h.stepDetector True hstep fun d d' haccounts hanswer => by
      obtain ⟨haccounts', heq, hrunning⟩ := haccounts.answer hanswer
      exact ⟨haccounts', heq.le, fun _ => iff_true_intro heq,
        fun hstage => absurd hstage hrunning⟩
    exact ⟨htracks, by simp [hiff, Delivered]⟩
  | panic j =>
    obtain ⟨htracks, hiff⟩ := h.stepDetector False hstep fun d d' haccounts hpanic => by
      obtain ⟨haccounts', hlt⟩ := haccounts.panic hpanic
      exact ⟨haccounts', hlt.le, fun _ => iff_false_intro hlt.ne, fun _ _ => False.elim⟩
    exact ⟨htracks, by simp [hiff, Delivered]⟩

/-- A task that has ended has answered for every item exactly when none was lost for it. -/
theorem examined_iff {d : DetectorTask} (h : Tracks inputId items i s)
    (hd : s.detectors[i]? = some d) (hended : d.stage = .ended) :
    List.Forall₂ (Examines inputId) items d.detections ↔ s.accounted i = items.length := by
  obtain ⟨haccounts, hlost⟩ := h.detector d hd
  have hpending := haccounts.emptied hended
  have hheld : d.held = d.detections.length := by simp [DetectorTask.held, hpending]
  constructor
  · intro hexamined
    have hlength := hexamined.length_eq
    have hle := haccounts.held_add_le
    rw [accounted_of_some hd]
    omega
  · intro haccounted
    rw [accounted_of_some hd] at haccounted
    -- nothing was lost, so the channel was closed, and nothing is to come
    have hdone : s.broadcasting = false := by
      by_contra hne
      have := hlost hended (by simpa using hne)
      omega
    obtain ⟨seen, hseen, hsublist⟩ := haccounts.inOrder
    rw [h.closed hdone] at hsublist haccounted
    rw [hpending, List.append_nil, List.append_nil] at hsublist
    have hall : seen = items := by
      refine hsublist.eq_of_length ?_
      rw [hseen.length_eq, ← hheld]
      simpa using haccounted
    exact hall ▸ hseen

end Tracks

/-! ### Progress -/

/-- The number of steps a detector task takes at most, without new items. -/
def taskBudget (d : DetectorTask) : ℕ :=
  2 * d.chunkRx.unread.length + d.inflight.length + if d.stage = .ended then 0 else 1

/-- The number of steps all tasks take at most: an item that is broadcast costs each
detector at most two more. -/
def budget (s : DetectionStreams) : ℕ :=
  s.items.length * (2 * (s.detectors.length + s.unsubscribed.length) + 1) +
    s.broadcasting.toNat + 2 * s.unsubscribed.length + s.subscribing.toNat +
      (s.detectors.map taskBudget).sum

theorem taskBudget_offer_le (d : DetectorTask) (item : ChunkItem) :
    taskBudget (d.offer item) ≤ taskBudget d + 2 := by
  by_cases hended : d.stage = .ended
  · rw [DetectorTask.offer_of_ended hended]
    omega
  · have hlength := d.chunkRx.length_unread_offer (by decide : 0 < broadcastCapacity) item
    rw [DetectorTask.offer_of_not_ended hended, taskBudget, taskBudget, hlength]
    change 2 * _ + d.inflight.length + _ ≤ _
    split_ifs <;> omega

theorem sum_taskBudget_offer_le (detectors : List DetectorTask) (item : ChunkItem) :
    ((detectors.map (·.offer item)).map taskBudget).sum ≤
      (detectors.map taskBudget).sum + 2 * detectors.length := by
  induction detectors with
  | nil => simp
  | cons d detectors ih =>
    have hd := taskBudget_offer_le d item
    simp only [List.map_cons, List.sum_cons, List.length_cons]
    omega

theorem taskBudget_receive_lt {hasSenders : Bool} {d d' : DetectorTask}
    (h : d.receive hasSenders = some d') : taskBudget d' < taskBudget d := by
  rw [DetectorTask.receive] at h
  split at h
  swap
  · simp at h
  rename_i hstage
  obtain ⟨⟨result, rx⟩, hrecv, rfl⟩ := Option.map_eq_some_iff.mp h
  rcases Receiver.cases_of_recv hrecv with
    ⟨-, rfl⟩ | ⟨item, -, hunread, -, rfl⟩ | ⟨-, -, -, rfl⟩
  · -- lost items end the loop, like a closed channel
    simp [taskBudget, DetectorTask.inflight, hstage]
  · rcases item with error | chunk
    · simp [taskBudget, DetectorTask.inflight, hstage, hunread]
    · simp [taskBudget, DetectorTask.inflight, hstage, hunread]
      omega
  · simp [taskBudget, DetectorTask.inflight, hstage]

theorem taskBudget_answer_lt {result : Except Error (List Detection)} {d d' : DetectorTask}
    (h : d.answer inputId result = some d') : taskBudget d' < taskBudget d := by
  rw [DetectorTask.answer] at h
  split at h
  swap
  · simp at h
  rename_i chunk hstage
  obtain rfl := Option.some.inj h
  simp [taskBudget, DetectorTask.inflight, hstage]

theorem taskBudget_panic_lt {d d' : DetectorTask} (h : d.panic = some d') :
    taskBudget d' < taskBudget d := by
  rw [DetectorTask.panic] at h
  split at h
  swap
  · simp at h
  rename_i chunk hstage
  obtain rfl := Option.some.inj h
  simp [taskBudget, DetectorTask.inflight, hstage]

theorem sum_taskBudget_set {detectors : List DetectorTask} {j : ℕ} {d d' : DetectorTask}
    (hd : detectors[j]? = some d) (hlt : taskBudget d' < taskBudget d) :
    ((detectors.set j d').map taskBudget).sum < (detectors.map taskBudget).sum := by
  induction detectors generalizing j with
  | nil => simp at hd
  | cons x detectors ih =>
    cases j with
    | zero =>
      obtain rfl : x = d := by simpa using hd
      simpa using hlt
    | succ j => simpa using ih (by simpa using hd)

theorem budget_lt_of_stepDetector {f : DetectorTask → Option DetectorTask} {j : ℕ}
    (hf : ∀ d d', f d = some d' → taskBudget d' < taskBudget d)
    (h : s.stepDetector j f = some t) : t.budget < s.budget := by
  obtain ⟨d, d', hd, hfd, rfl⟩ := exists_of_stepDetector h
  have hlt := sum_taskBudget_set hd (hf d d' hfd)
  simp only [budget, List.length_set]
  omega

theorem budget_lt_of_step {a : DetectionStreamsLabel} (h : s.step inputId a = some t) :
    t.budget < s.budget := by
  cases a with
  | broadcast =>
    rcases cases_of_broadcast h with ⟨item, rest, hitems, rfl⟩ | ⟨-, hbroadcasting, rfl⟩
    · -- the item that is broadcast pays for what every detector does with it
      have hsum := sum_taskBudget_offer_le s.detectors item
      simp only [budget, hitems, List.length_map, List.length_cons, Nat.succ_mul]
      omega
    · simp [budget, hbroadcasting]
  | subscribe =>
    rcases cases_of_subscribe h with ⟨threshold, unsubscribed, hunsubscribed, rfl⟩ |
      ⟨-, hsubscribing, rfl⟩
    · -- the number of detectors stays the same, and the new task has one step to take
      have hnew : taskBudget { threshold } = 1 := rfl
      have hnumber : s.detectors.length + 1 + unsubscribed.length =
          s.detectors.length + (unsubscribed.length + 1) := by omega
      simp only [budget, hunsubscribed, List.length_append, List.length_cons, List.length_nil,
        List.map_append, List.map_cons, List.map_nil, List.sum_append, List.sum_cons,
        List.sum_nil, hnew, hnumber, Nat.zero_add]
      omega
    · simp [budget, hsubscribing]
  | receive j => exact budget_lt_of_stepDetector (fun _ _ => taskBudget_receive_lt) h
  | answer j result => exact budget_lt_of_stepDetector (fun _ _ => taskBudget_answer_lt) h
  | panic j => exact budget_lt_of_stepDetector (fun _ _ => taskBudget_panic_lt) h

/-- As long as a detector is not subscribed or its task has not ended, some task can move. -/
theorem exists_step_of_not_ended (inputId : ℕ)
    (h : s.unsubscribed ≠ [] ∨ ∃ d ∈ s.detectors, d.stage ≠ .ended) :
    ∃ a t, s.step inputId a = some t := by
  simp only [← Option.isSome_iff_exists]
  by_cases hbroadcast : s.broadcast.isSome = true
  · exact ⟨.broadcast, hbroadcast⟩
  by_cases hsubscribe : s.subscribe.isSome = true
  · exact ⟨.subscribe, hsubscribe⟩
  -- neither can move, so the channel has no sender
  have hdone : s.broadcasting = false := by
    rw [DetectionStreams.broadcast] at hbroadcast
    split at hbroadcast
    · simp at hbroadcast
    · simpa using hbroadcast
  have hreturned : s.unsubscribed = [] ∧ s.subscribing = false := by
    rw [DetectionStreams.subscribe] at hsubscribe
    split at hsubscribe
    · simp at hsubscribe
    · exact ⟨‹_›, by simpa using hsubscribe⟩
  rcases h with h | ⟨d, hmem, hstage⟩
  · exact absurd hreturned.1 h
  obtain ⟨i, hi, rfl⟩ := List.getElem_of_mem hmem
  cases hcases : s.detectors[i].stage with
  | receiving =>
    refine ⟨.receive i, ?_⟩
    simp only [DetectionStreams.step, stepDetector, List.getElem?_eq_getElem hi, Option.bind_some,
      Option.isSome_map, DetectorTask.receive, hcases, hdone, hreturned.2]
    exact Receiver.isSome_recv_of_closed _
  | detecting chunk =>
    refine ⟨.answer i (.ok []), ?_⟩
    simp [DetectionStreams.step, stepDetector, hi, DetectorTask.answer, hcases]
  | ended => exact absurd hcases hstage

end DetectionStreams

open DetectionStreams

/-- **Coverage.** In every run, with any number of detectors and any relative speeds: the
detection stream of a detector whose task has ended answers for every item of the chunk
stream, one by one and in order, if and only if every item was broadcast while the detector
was subscribed and less than a full channel behind, and no answer made its task panic. Every run
can be continued until all detectors are subscribed and their tasks have ended, and is not longer
than its budget. -/
theorem detectionStream_examines_iff {inputId : ℕ} {items : List ChunkItem} {thresholds : List ℚ}
    {w : List DetectionStreamsLabel} {s : DetectionStreams} {i : ℕ}
    (hrun : exec (step inputId) (start items thresholds) w = some s) :
    (∀ d, s.detectors[i]? = some d → d.stage = .ended →
        (List.Forall₂ (Examines inputId) items d.detections ↔
          Meets (step inputId) (Delivered i) (start items thresholds) w)) ∧
      (s.unsubscribed ≠ [] ∨ (∃ d ∈ s.detectors, d.stage ≠ .ended) →
        ∃ a t, s.step inputId a = some t) ∧
      w.length ≤ (start items thresholds).budget := by
  have htracks : Tracks inputId items i s :=
    exec_invariant_all (fun _ _ _ h hstep => (h.step hstep).1)
      (Tracks.start inputId items thresholds i) hrun
  -- every step keeps all items accounted for exactly when it loses none of this detector
  have hiff : s.accounted i = items.length ↔ (start items thresholds).accounted i = items.length ∧
      Meets (step inputId) (Delivered i) (start items thresholds) w :=
    exec_iff_meets (I := fun s => s.accounted i = items.length) (J := Tracks inputId items i)
      (fun _ _ _ h hstep => (h.step hstep).1) (fun _ _ _ h hstep => (h.step hstep).2)
      (Tracks.start inputId items thresholds i) hrun
  refine ⟨?_, exists_step_of_not_ended inputId, ?_⟩
  · intro d hd hended
    rw [htracks.examined_iff hd hended, hiff]
    simp [accounted, start]
  · have hlength := exec_length_add_le (fun _ _ _ hstep => budget_lt_of_step hstep) hrun
    omega

/-- A chunk, and an error of the chunk stream. -/
def chunkAndError : List ChunkItem := [.ok { stop := 3, text := "Hi." }, .error (.other "reset")]

/-- Both detectors are subscribed before anything is broadcast, and read at their own pace. -/
def subscribedFirst : List DetectionStreamsLabel :=
  [.subscribe, .subscribe, .subscribe, .broadcast, .receive 1, .broadcast, .broadcast, .receive 0,
    .answer 0 (.ok []), .receive 0, .answer 1 (.error (.other "busy")), .receive 1, .receive 0,
    .receive 1]

theorem detectionStream_examines_iff_subscribedFirst :
    ∃ s, exec (step 0) (start chunkAndError [1, 1]) subscribedFirst = some s ∧
      ∃ d, s.detectors[1]? = some d ∧ d.stage = .ended ∧
        List.Forall₂ (Examines 0) chunkAndError d.detections := by
  have hend : ((exec (step 0) (start chunkAndError [1, 1]) subscribedFirst).bind
      (·.detectors[1]?)).map (·.stage) = some .ended := by decide
  obtain ⟨d, hbind, hended⟩ := Option.map_eq_some_iff.mp hend
  obtain ⟨s, hrun, hd⟩ := Option.bind_eq_some_iff.mp hbind
  exact ⟨s, hrun, d, hd, hended,
    ((detectionStream_examines_iff hrun).1 d hd hended).mpr (by decide)⟩

/-- The first chunk is broadcast before the detector is subscribed: its stream ends without
an item and without an error. -/
theorem detectionStream_skips_broadcastFirst :
    ∃ s, exec (step 0) (start [.ok { stop := 3, text := "Hi." }] [1])
        [.broadcast, .subscribe, .subscribe, .broadcast, .receive 0] = some s ∧
      ∃ d, s.detectors[0]? = some d ∧ d.stage = .ended ∧
        ¬ List.Forall₂ (Examines 0) [.ok { stop := 3, text := "Hi." }] d.detections ∧
        ∀ error, .error error ∉ d.detections := by
  have hend : ((exec (step 0) (start [.ok { stop := 3, text := "Hi." }] [1])
      [.broadcast, .subscribe, .subscribe, .broadcast, .receive 0]).bind
        (·.detectors[0]?)).map (fun d => (d.stage, d.detections.length)) = some (.ended, 0) := by
    decide
  obtain ⟨d, hbind, heq⟩ := Option.map_eq_some_iff.mp hend
  obtain ⟨s, hrun, hd⟩ := Option.bind_eq_some_iff.mp hbind
  obtain ⟨hended, hlength⟩ := Prod.mk.inj heq
  have hnil := List.length_eq_zero_iff.mp hlength
  exact ⟨s, hrun, d, hd, hended, by simp [hnil], by simp [hnil]⟩

end GuardrailsOrchestrator
