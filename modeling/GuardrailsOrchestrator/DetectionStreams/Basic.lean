import GuardrailsOrchestrator.Lib.Broadcast
import GuardrailsOrchestrator.Types

/-!
# Detection streams

The chunks of one chunk stream are fanned out to the detectors that use its chunker. A
broadcasting task, spawned by `broadcast_stream`, reads the chunk stream and sends every
item to a broadcast channel; `text_contents_detection_streams` subscribes one detector
after the other; and every subscribed detector has a task of its own that receives items
until the channel reports an error, has each chunk examined and sends the outcome to its
detection channel. All of them run at their own pace. An answer can make the task of a detector
panic: its stream ends then.
-/

namespace GuardrailsOrchestrator

open Broadcast

/-- An item of a chunk stream. -/
abbrev ChunkItem := Except Error Chunk

/-- An item of a detection stream. -/
abbrev DetectionItem := Except Error Batch

/-- The capacity of the broadcast channels. -/
def broadcastCapacity : ℕ := 128

/-! ### Detector tasks -/

/-- Where a detector task is. -/
inductive DetectorStage where
  /-- In `chunk_rx.recv().await`. -/
  | receiving
  /-- In `detect_text_contents`. -/
  | detecting (chunk : Chunk)
  /-- After the loop, or panicked. -/
  | ended
  deriving DecidableEq

/-- A detector task, with what it has sent to its detection channel. -/
structure DetectorTask where
  threshold : ℚ
  chunkRx : Receiver ChunkItem := {}
  stage : DetectorStage := .receiving
  detections : List DetectionItem := []

namespace DetectorTask

/-- An item is broadcast. A task that has ended has dropped its receiver. -/
def offer (d : DetectorTask) (item : ChunkItem) : DetectorTask :=
  match d.stage with
  | .ended => d
  | _ => { d with chunkRx := d.chunkRx.offer broadcastCapacity item }

/-- Receive the next item. Whatever error the channel reports ends the loop. -/
def receive (hasSenders : Bool) (d : DetectorTask) : Option DetectorTask :=
  match d.stage with
  | .receiving =>
    (d.chunkRx.recv hasSenders).map fun
      | (.ok (.ok chunk), chunkRx) => { d with chunkRx, stage := .detecting chunk }
      | (.ok (.error error), chunkRx) =>
        { d with chunkRx, detections := d.detections ++ [.error error] }
      | (.error _, _) => { d with chunkRx := {}, stage := .ended }
  | _ => none

/-- The detector answers: the detections below the threshold are dropped. -/
def answer (inputId : ℕ) (result : Except Error (List Detection)) (d : DetectorTask) :
    Option DetectorTask :=
  match d.stage with
  | .detecting chunk =>
    some { d with
      stage := .receiving
      detections := d.detections ++ [result.map fun detections =>
        (inputId, chunk, detections.filter (d.threshold ≤ ·.score))] }
  | _ => none

/-- The detector answers with an error whose code is no status code: it is unwrapped. -/
def panic (d : DetectorTask) : Option DetectorTask :=
  match d.stage with
  | .detecting _ => some { d with chunkRx := {}, stage := .ended }
  | _ => none

end DetectorTask

/-! ### All tasks -/

/-- The broadcasting task, the subscribing task and the detector tasks. -/
structure DetectionStreams where
  /-- What the chunk stream has yet to yield. -/
  items : List ChunkItem
  /-- Whether the broadcasting task still holds a sender. -/
  broadcasting : Bool := true
  /-- The thresholds of the detectors that are not subscribed yet. -/
  unsubscribed : List ℚ
  /-- Whether the map of senders is still held. -/
  subscribing : Bool := true
  /-- The tasks of the subscribed detectors. -/
  detectors : List DetectorTask := []

/-- Who moves next. -/
inductive DetectionStreamsLabel where
  | broadcast
  | subscribe
  /-- A detector task receives. -/
  | receive (i : ℕ)
  /-- A detector task gets its answer. -/
  | answer (i : ℕ) (result : Except Error (List Detection))
  /-- The answer makes a detector task panic. -/
  | panic (i : ℕ)
  deriving DecidableEq

namespace DetectionStreams

/-- Send the next item, or drop the sender after the last one. -/
def broadcast (s : DetectionStreams) : Option DetectionStreams :=
  match s.items with
  | item :: items => some { s with items, detectors := s.detectors.map (·.offer item) }
  | [] => if s.broadcasting then some { s with broadcasting := false } else none

/-- Subscribe the next detector and spawn its task, or drop the senders after the last
one. -/
def subscribe (s : DetectionStreams) : Option DetectionStreams :=
  match s.unsubscribed with
  | threshold :: unsubscribed =>
    some { s with unsubscribed, detectors := s.detectors ++ [{ threshold }] }
  | [] => if s.subscribing then some { s with subscribing := false } else none

/-- A step of one detector task. -/
def stepDetector (s : DetectionStreams) (i : ℕ) (f : DetectorTask → Option DetectorTask) :
    Option DetectionStreams :=
  (s.detectors[i]?.bind f).map fun d => { s with detectors := s.detectors.set i d }

/-- One step. -/
def step (inputId : ℕ) (s : DetectionStreams) : DetectionStreamsLabel → Option DetectionStreams
  | .broadcast => s.broadcast
  | .subscribe => s.subscribe
  | .receive i => s.stepDetector i (·.receive (s.broadcasting || s.subscribing))
  | .answer i result => s.stepDetector i (·.answer inputId result)
  | .panic i => s.stepDetector i (·.panic)

/-- The broadcasting task has been spawned, and no detector is subscribed. -/
def start (items : List ChunkItem) (thresholds : List ℚ) : DetectionStreams :=
  { items, unsubscribed := thresholds }

end DetectionStreams

end GuardrailsOrchestrator
