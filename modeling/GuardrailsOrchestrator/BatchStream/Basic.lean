import GuardrailsOrchestrator.Batcher.History

/-!
# The detection batch stream

A batch stream merges several detection streams and turns them into batches. Two
tasks do the work: an actor owns the batcher and handles the messages of its
mailbox one after the other; a loop selects between the next detections, a reply
of the actor to `pop`, and, once the streams have completed, a reply to
`is_empty`.

The loop's `select!` is biased: it polls its branches in textual order and takes
the first that is ready. Taking a branch drops the futures of the others, so a
reply that arrives later, or has arrived and was not looked at, is discarded. The
model has one step per poll of a branch, since the actor may run in between.

## Main definitions

* `BatchStreamState` — both tasks, their channels, and what happened so far
* `BatchStreamState.step` — one step of the environment, the loop or the actor
* `BatchStreamState.start` — the state in which the tasks are spawned
-/

namespace GuardrailsOrchestrator

/-! ### Messages and futures -/

/-- A message to the actor. A request carries the sending half of a oneshot, which
is live until the future that waits for the reply is dropped. -/
inductive DetectionBatcherMessage where
  | push (item : StreamItem)
  | pop (live : Bool)
  | isEmpty (live : Bool)
  deriving DecidableEq

namespace DetectionBatcherMessage

/-- The message after the loop has dropped the receiving half. -/
def dropReceiver : DetectionBatcherMessage → DetectionBatcherMessage
  | .push item => .push item
  | .pop _ => .pop false
  | .isEmpty _ => .isEmpty false

/-- What a message pushes. -/
def item? : DetectionBatcherMessage → Option StreamItem
  | .push item => some item
  | _ => none

/-- Whether a reply to the message would be received. -/
def isLive : DetectionBatcherMessage → Bool
  | .push _ => false
  | .pop live => live
  | .isEmpty live => live

/-- Whether the message asks for a batch and the reply would be received. -/
def isLivePop : DetectionBatcherMessage → Bool
  | .pop live => live
  | _ => false

end DetectionBatcherMessage

/-- The future of `pop`: it sends its request, waits for the reply, and disables its
branch when the reply is that no batch is ready. -/
inductive PopFuture where
  | unsent
  | waiting
  | answered (batch : Option Batch)
  | disabled
  deriving DecidableEq

/-- The batch a future has been given. -/
def PopFuture.inFlight : PopFuture → List Batch
  | .answered batch => batch.toList
  | _ => []

/-- The number of requests a future waits for. -/
def PopFuture.waitingPops : PopFuture → ℕ
  | .waiting => 1
  | _ => 0

/-- The future of `is_empty`. -/
inductive IsEmptyFuture where
  | unsent
  | waiting
  | answered (empty : Bool)
  deriving DecidableEq

/-- Whether a future has been told that the batcher is empty. -/
def IsEmptyFuture.knowsEmpty : IsEmptyFuture → Bool
  | .answered empty => empty
  | _ => false

/-- The branches of the loop's `select!`, in the order in which they are polled. -/
inductive Branch where
  | stream
  | pop
  | isEmpty
  deriving DecidableEq

/-- One execution of `select!`: the branch to be polled next, and the futures. -/
structure Select where
  cursor : Branch := .stream
  pop : PopFuture := .unsent
  isEmpty : IsEmptyFuture := .unsent
  deriving DecidableEq

/-- Where the loop is. -/
inductive BatchLoop where
  /-- In `select!`. -/
  | select (sel : Select)
  /-- In `batcher_manager.push(..).await`. -/
  | pushing (item : StreamItem)
  /-- In `batch_tx.send(..).await`. -/
  | sending (message : Except Error Batch)
  /-- After `break`: in the `is_empty` branch, or after an error. -/
  | exited (drained : Bool)
  deriving DecidableEq

namespace BatchLoop

def answerPop (batch : Option Batch) : BatchLoop → BatchLoop
  | .select sel => .select { sel with pop := .answered batch }
  | loop => loop

def answerIsEmpty (empty : Bool) : BatchLoop → BatchLoop
  | .select sel => .select { sel with isEmpty := .answered empty }
  | loop => loop

/-- The batch the loop has been given and has not sent yet. -/
def inFlight : BatchLoop → List Batch
  | .select sel => sel.pop.inFlight
  | .sending message => message.toOption.toList
  | _ => []

/-- The item the loop has received and has not pushed yet. -/
def inHand : BatchLoop → List StreamItem
  | .pushing item => [item]
  | _ => []

/-- The number of `pop` requests the loop waits for. -/
def waitingPops : BatchLoop → ℕ
  | .select sel => sel.pop.waitingPops
  | _ => 0

/-- Whether the loop has been told that the batcher is empty. -/
def knowsEmpty : BatchLoop → Bool
  | .select sel => sel.isEmpty.knowsEmpty
  | .exited drained => drained
  | _ => false

end BatchLoop

/-! ### States -/

/-- The capacity of the actor's mailbox and of the batch channel. -/
def channelCapacity : ℕ := 32

/-- The two tasks with their channels. The last four fields record what happened. -/
structure BatchStreamState (B : Type) where
  /-- What each detection stream has yet to yield. -/
  streams : List (List (Except Error StreamItem))
  /-- What has arrived on the merged stream and has not been received. -/
  merged : List (Except Error StreamItem) := []
  /-- Whether all detection streams have ended. -/
  closed : Bool := false
  streamCompleted : Bool := false
  loop : BatchLoop := .select {}
  mailbox : List DetectionBatcherMessage := []
  batcher : B
  batchRx : List (Except Error Batch) := []
  /-- What the loop has received from the streams. -/
  received : List StreamItem := []
  /-- The calls the actor has made on the batcher. -/
  calls : List (BatcherEvent Unit) := []
  /-- The batches `pop_batch` has returned to the actor. -/
  popped : List Batch := []
  /-- What the loop has sent to the batch channel. -/
  sent : List (Except Error Batch) := []

/-- Who moves next. -/
inductive BatchStreamLabel where
  /-- A detection stream yields its next item. -/
  | arrive (stream : ℕ)
  /-- The last detection stream ends. -/
  | close
  /-- The loop polls one future. -/
  | poll
  /-- The actor handles one message. -/
  | actor
  /-- The consumer receives from the batch channel. -/
  | receive
  deriving DecidableEq

namespace BatchStreamState

variable {B : Type}

/-- Spawning the tasks. -/
def start (batcher : B) (streams : List (List (Except Error StreamItem))) : BatchStreamState B :=
  { streams, batcher }

/-- The batches among what was sent. -/
def sentBatches (s : BatchStreamState B) : List Batch := s.sent.filterMap Except.toOption

/-! ### The loop -/

/-- The next branch is polled. -/
def pollNext (s : BatchStreamState B) (sel : Select) (cursor : Branch) : BatchStreamState B :=
  { s with loop := .select { sel with cursor } }

/-- A branch is taken: all futures of this `select!` are dropped. -/
def takeBranch (s : BatchStreamState B) (loop : BatchLoop) : BatchStreamState B :=
  { s with loop, mailbox := s.mailbox.map DetectionBatcherMessage.dropReceiver }

/-- Poll `stream_set.next()`. -/
def pollStream (s : BatchStreamState B) (sel : Select) : BatchStreamState B :=
  match s.merged with
  -- the futures of `pop` and `is_empty` are dropped here, whatever they have received
  | .ok item :: merged =>
    { s.takeBranch (.pushing item) with merged, received := s.received ++ [item] }
  | .error error :: merged => { s.takeBranch (.sending (.error error)) with merged }
  | [] =>
    -- `None` ends the merged stream; from now on this branch is disabled
    if s.closed then { s.takeBranch (.select {}) with streamCompleted := true }
    else s.pollNext sel .pop

/-- After `pop`, poll `is_empty` if its branch is enabled; otherwise wait to be woken. -/
def afterPop (s : BatchStreamState B) : Branch := if s.streamCompleted then .isEmpty else .stream

/-- Poll `batcher_manager.pop()`. The branch's pattern only matches a batch. -/
def pollPop (s : BatchStreamState B) (sel : Select) : BatchStreamState B :=
  match sel.pop with
  | .unsent =>
    if s.mailbox.length < channelCapacity then
      { s with mailbox := s.mailbox ++ [.pop true], loop := .select { sel with pop := .waiting } }
    else s.pollNext sel s.afterPop
  | .waiting => s.pollNext sel s.afterPop
  | .answered (some batch) => s.takeBranch (.sending (.ok batch))
  -- the pattern `Some(batch)` fails, which disables the branch until the next `select!`
  | .answered none => s.pollNext { sel with pop := .disabled } s.afterPop
  | .disabled => s.pollNext sel s.afterPop

/-- Poll `batcher_manager.is_empty()`. -/
def pollIsEmpty (s : BatchStreamState B) (sel : Select) : BatchStreamState B :=
  match sel.isEmpty with
  | .unsent =>
    if s.mailbox.length < channelCapacity then
      { s with
        mailbox := s.mailbox ++ [.isEmpty true]
        loop := .select { sel with isEmpty := .waiting } }
    else s.pollNext sel .stream
  | .waiting => s.pollNext sel .stream
  | .answered true => s.takeBranch (.exited true)
  -- the body of the branch does nothing, and the loop starts over
  | .answered false => s.takeBranch (.select {})

/-- Poll the branch at the cursor. -/
def pollSelect (s : BatchStreamState B) (sel : Select) : BatchStreamState B :=
  match sel.cursor with
  | .stream => if s.streamCompleted then s.pollNext sel .pop else s.pollStream sel
  | .pop => s.pollPop sel
  | .isEmpty => s.pollIsEmpty sel

/-- Poll the loop. A send waits until its channel has room. -/
def poll (s : BatchStreamState B) : Option (BatchStreamState B) :=
  match s.loop with
  | .select sel => some (s.pollSelect sel)
  | .pushing item =>
    if s.mailbox.length < channelCapacity then
      some { s with mailbox := s.mailbox ++ [.push item], loop := .select {} }
    else none
  | .sending message =>
    if s.batchRx.length < channelCapacity then
      some { s with
        batchRx := s.batchRx ++ [message]
        sent := s.sent ++ [message]
        loop := match message with
          | .ok _ => .select {}
          | .error _ => .exited false }
    else none
  | .exited _ => none

/-! ### The actor -/

variable [DetectionBatcher B]

/-- Handle one message. A reply to a dropped receiver is discarded. -/
def handle (s : BatchStreamState B) : DetectionBatcherMessage → BatchStreamState B
  | .push item =>
    { s with
      batcher := push s.batcher item.1 item.2.1 item.2.2
      calls := s.calls ++ [.push () item] }
  | .pop live =>
    { s with
      batcher := (popBatch s.batcher).2
      calls := s.calls ++ [.popBatch]
      -- the batch leaves the batcher whether or not anyone waits for the reply
      popped := s.popped ++ (popBatch s.batcher).1.toList
      loop := if live then s.loop.answerPop (popBatch s.batcher).1 else s.loop }
  | .isEmpty live =>
    { s with
      loop := if live then s.loop.answerIsEmpty (DetectionBatcher.isEmpty s.batcher) else s.loop }

/-- The actor takes the next message of its mailbox. -/
def runActor (s : BatchStreamState B) : Option (BatchStreamState B) :=
  match s.mailbox with
  | [] => none
  | message :: mailbox => some (handle { s with mailbox } message)

/-! ### Steps -/

/-- One step. -/
def step (s : BatchStreamState B) : BatchStreamLabel → Option (BatchStreamState B)
  | .arrive stream =>
    match s.streams[stream]? with
    | some (item :: items) =>
      some { s with streams := s.streams.set stream items, merged := s.merged ++ [item] }
    | _ => none
  | .close => if s.streams.all List.isEmpty then some { s with closed := true } else none
  | .poll => s.poll
  | .actor => s.runActor
  | .receive =>
    match s.batchRx with
    | [] => none
    | _ :: batchRx => some { s with batchRx }

end BatchStreamState

end GuardrailsOrchestrator
