import GuardrailsOrchestrator.OpenAiClient.Streams

/-!
# Events of a stream and the items they become

The reader of a stream runs in a task of its own: if it panics, its consumer sees the end of
the stream and no error. It does so at an error response whose code is no status code.

## Main results

* `reportsEvents_iff` — when every event becomes an item
-/

namespace GuardrailsOrchestrator

/-- The events that are read: those up to the first end marker or transport error. -/
def reachedEvents : List (Except String Event) → List (Except String Event)
  | [] => []
  | .error error :: _ => [.error error]
  | .ok event :: rest =>
    if event.data = "[DONE]" then [.ok event] else .ok event :: reachedEvents rest

section Events

variable {T : Type} (decoder : JsonDecoder T)

/-- The item is of the kind of the event: the end for the end marker, the message for a text
that is one, and an error for anything else. -/
inductive IsReport : Except String Event → EventItem T → Prop
  | transport (reason : String) (error : Error) : IsReport (.error reason) (.error error)
  | done {event : Event} (hdone : event.data = "[DONE]") : IsReport (.ok event) (.ok none)
  | message {event : Event} {message : T} (hdone : event.data ≠ "[DONE]")
      (hmessage : decoder.message event.data = .ok message) :
      IsReport (.ok event) (.ok (some message))
  | error {event : Event} (error : Error) (hdone : event.data ≠ "[DONE]")
      (hmessage : ∀ message, decoder.message event.data ≠ .ok message) :
      IsReport (.ok event) (.error error)

/-- The task that reads the events panics. -/
def readerPanics : List (Except String Event) → Bool
  | [] => false
  | .error _ :: _ => false
  | .ok event :: rest =>
    if event.data = "[DONE]" then false
    else
      match decodeText decoder deserializationError event.data with
      | some _ => readerPanics rest
      | none => true

/-- One item is sent for each event that is read, of its kind and in order, and the reader does
not panic. -/
def ReportsEvents (events : List (Except String Event)) : Prop :=
  List.Forall₂ (IsReport decoder) (reachedEvents events) (handleStreaming decoder events) ∧
    readerPanics decoder events = false

/-- An event has a status code if it is an error response, and neither a message nor the end. -/
def HasStatusCode (event : Event) : Prop :=
  event.data ≠ "[DONE]" → (∀ message, decoder.message event.data ≠ .ok message) →
    ∀ response, decoder.errorResponse event.data = .ok response →
      100 ≤ response.code ∧ response.code < 1000

variable {decoder}

theorem statusCodeFromU16_eq_none_iff (code : ℕ) :
    statusCodeFromU16 code = none ↔ ¬ (100 ≤ code ∧ code < 1000) := by
  rw [statusCodeFromU16]
  split_ifs with hcode
  · simpa using hcode
  · simpa using hcode

/-- A text that is decoded becomes an item of its kind. -/
theorem isReport_of_decodeText {event : Event} {item : EventItem T}
    (hdone : event.data ≠ "[DONE]")
    (h : decodeText decoder deserializationError event.data = some item) :
    IsReport decoder (.ok event) item := by
  rw [decodeText] at h
  cases hmessage : decoder.message event.data with
  | ok message =>
    rw [hmessage] at h
    obtain rfl := Option.some.inj h
    exact .message hdone hmessage
  | error parseError =>
    -- the text is not a message, so it is read as an error
    have hnone : ∀ message, decoder.message event.data ≠ .ok message := by simp [hmessage]
    rw [hmessage] at h
    cases hresponse : decoder.errorResponse event.data with
    | ok response =>
      simp only [hresponse, Option.map_eq_some_iff] at h
      obtain ⟨error, -, rfl⟩ := h
      exact .error error hdone hnone
    | error serdeError =>
      rw [hresponse] at h
      obtain rfl := Option.some.inj h
      exact .error _ hdone hnone

/-- Decoding a text fails exactly for an error response without a status code. -/
theorem decodeText_ne_none_iff {event : Event} (hdone : event.data ≠ "[DONE]") :
    decodeText decoder deserializationError event.data ≠ none ↔ HasStatusCode decoder event := by
  rw [decodeText, HasStatusCode]
  cases hmessage : decoder.message event.data with
  | ok message => simp
  | error parseError =>
    cases hresponse : decoder.errorResponse event.data with
    | error serdeError => simp
    | ok response =>
      have hcode := statusCodeFromU16_eq_none_iff response.code
      simp only [ErrorResponse.toError, ne_eq, Option.map_eq_none_iff, hcode, not_not]
      simp [hdone]

/-- Reading goes on after an event that is decoded. A panic loses the items of all events that
follow too. -/
theorem reportsEvents_cons {event : Event} (hdone : event.data ≠ "[DONE]")
    {rest : List (Except String Event)} :
    ReportsEvents decoder (.ok event :: rest) ↔
      HasStatusCode decoder event ∧ ReportsEvents decoder rest := by
  rw [← decodeText_ne_none_iff hdone, ReportsEvents, reachedEvents, handleStreaming, readerPanics,
    if_neg hdone, if_neg hdone, if_neg hdone]
  cases hitem : decodeText decoder deserializationError event.data with
  | none => simp
  | some item => simp [ReportsEvents, isReport_of_decodeText hdone hitem]

/-- **Every event is reported.** The reader sends one item for each event, in order and of its
kind, and does not panic, exactly when every error response that it reads has a status code. -/
theorem reportsEvents_iff {events : List (Except String Event)} :
    ReportsEvents decoder events ↔
      ∀ event, .ok event ∈ reachedEvents events → HasStatusCode decoder event := by
  -- the reader stops at an error of the transport and at the end of the stream
  induction events with
  | nil => simp [ReportsEvents, reachedEvents, handleStreaming, readerPanics]
  | cons result rest ih =>
    cases result with
    | error reason =>
      have hreports : ReportsEvents decoder (.error reason :: rest) :=
        ⟨.cons (.transport reason _) .nil, rfl⟩
      simp [hreports, reachedEvents]
    | ok event =>
      by_cases hdone : event.data = "[DONE]"
      · have hreports : ReportsEvents decoder (.ok event :: rest) := by
          rw [ReportsEvents, reachedEvents, handleStreaming, readerPanics, if_pos hdone,
            if_pos hdone, if_pos hdone]
          exact ⟨.cons (.done hdone) .nil, rfl⟩
        simp [hreports, reachedEvents, hdone, HasStatusCode]
      · rw [reportsEvents_cons hdone, ih, reachedEvents, if_neg hdone]
        simp

end Events

/-! ### An error without a status code -/

/-- The text of an error response. -/
def errorText : String :=
  "\x7b\"error\":\x7b\"message\":\"overloaded\",\"type\":\"server_error\",\"code\":0\x7d\x7d"

/-- A decoder that knows this text. -/
def errorDecoder : JsonDecoder ChatCompletionChunk where
  value text := if text = errorText then .ok (.object [("error", .object
    [("message", .string "overloaded"), ("type", .string "server_error"), ("code", .number 0)])])
    else .error "expected value at line 1 column 1"
  message _ := .error "missing field id"
  errorResponse text := if text = errorText then
    .ok (.v2 { message := "overloaded", type := "server_error", code := 0 })
    else .error "data did not match any variant of untagged enum ErrorResponse"
  exists_isJsonStart := by
    intro text v h
    split_ifs at h with htext
    rw [htext]
    exact ⟨'\x7b', rfl, rfl⟩
  exists_value_of_message := by simp
  exists_value_of_errorResponse := by
    intro text r h
    split_ifs at h with htext
    simp [htext]

/-- The error is not reported: the consumer sees a stream without items. -/
theorem not_reportsEvents_error :
    handleStreaming errorDecoder [.ok { data := errorText }, .ok { data := "[DONE]" }] = [] ∧
      readerPanics errorDecoder [.ok { data := errorText }, .ok { data := "[DONE]" }] = true ∧
      ¬ ReportsEvents errorDecoder [.ok { data := errorText }, .ok { data := "[DONE]" }] := by
  refine ⟨rfl, rfl, ?_⟩
  rintro ⟨-, hpanics⟩
  exact absurd hpanics (by decide)

end GuardrailsOrchestrator
