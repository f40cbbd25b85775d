import GuardrailsOrchestrator.Lib.Text
import GuardrailsOrchestrator.OpenAi

/-!
# Streams of an OpenAI server

The two decoders of streamed responses: the one for a server that is asked directly,
where each event carries one payload, and the one for the router, where an event
carries an envelope with any number of frames, a bare payload, or nothing but the sign
that the connection is alive.

The decoding of JSON texts is a parameter: `JsonDecoder` says what is relied on.

## Main results

* `handleStreamWithBody_eq_handleStreaming` — both decoders emit the same items,
  however the frames are grouped into events
-/

namespace GuardrailsOrchestrator

/-! ### Error responses -/

structure ErrorInfo where
  message : String
  type : String
  param : Option String := none
  code : ℕ
  deriving DecidableEq

/-- An error of the server, in the form of either of its versions. -/
inductive ErrorResponse where
  | v1 (object : String) (info : ErrorInfo)
  | v2 (error : ErrorInfo)
  deriving DecidableEq

def ErrorResponse.message : ErrorResponse → String
  | .v1 _ info => info.message
  | .v2 error => error.message

def ErrorResponse.code : ErrorResponse → ℕ
  | .v1 _ info => info.code
  | .v2 error => error.code

/-- A status code has three digits. -/
def statusCodeFromU16 (code : ℕ) : Option ℕ := if 100 ≤ code ∧ code < 1000 then some code else none

/-- The error that a response becomes. There is none if its code is no status code:
the task that converts it panics. -/
def ErrorResponse.toError (response : ErrorResponse) : Option Error :=
  (statusCodeFromU16 response.code).map fun code => .client (.http code response.message)

def internalServerError (message : String) : Error := .client (.http 500 message)

/-! ### Events and JSON texts -/

/-- A server-sent event. -/
structure Event where
  event : String := "message"
  data : String
  deriving DecidableEq

/-- What a decoder sends to its consumer: a message, the end, or an error. -/
abbrev EventItem (T : Type) := Except Error (Option T)

/-- The characters a JSON text can start with. -/
def isJsonStart (c : Char) : Bool :=
  c.isDigit || ['\x7b', '[', '"', '-', 't', 'f', 'n', ' ', '\t', '\n', '\r'].contains c

/-- The decoding of JSON texts: to any value, to a message of the stream, and to an
error response. Messages and error responses are JSON texts. -/
structure JsonDecoder (T : Type) where
  value : String → Except String Json
  message : String → Except String T
  errorResponse : String → Except String ErrorResponse
  exists_isJsonStart : ∀ {text v}, value text = .ok v → ∃ c ∈ text.toList.head?, isJsonStart c
  exists_value_of_message : ∀ {text m}, message text = .ok m → ∃ v, value text = .ok v
  exists_value_of_errorResponse :
    ∀ {text r}, errorResponse text = .ok r → ∃ v, value text = .ok v

/-- The string member `content` of a value. -/
def Json.content : Json → Option String
  | .object members =>
    match members.find? (·.1 = "content") with
    | some (_, .string s) => some s
    | _ => none
  | _ => none

/-- Whitespace of Unicode. -/
def isWhitespace (c : Char) : Bool :=
  (9 ≤ c.toNat && c.toNat ≤ 13) || (0x2000 ≤ c.toNat && c.toNat ≤ 0x200a)
    || [0x20, 0x85, 0xa0, 0x1680, 0x2028, 0x2029, 0x202f, 0x205f, 0x3000].contains c.toNat

/-! ### The decoders -/

section Decoders

variable {T : Type} (decoder : JsonDecoder T)

/-- A text as an item: a message, else an error response, else an error with the text
that `describe` makes of the two reasons. -/
def decodeText (describe : String → String → String) (text : String) : Option (EventItem T) :=
  match decoder.message text with
  | .ok message => some (.ok (some message))
  | .error parseError =>
    match decoder.errorResponse text with
    | .ok response => response.toError.map .error
    | .error serdeError => some (.error (internalServerError (describe parseError serdeError)))

/-- What the direct decoder says of a text it cannot decode. -/
def deserializationError (_parseError serdeError : String) : String :=
  s!"deserialization error: {serdeError}"

/-- What the decoder for the router says of a text it cannot decode. -/
def failedToParse (parseError _serdeError : String) : String :=
  s!"failed to parse response: {parseError}"

/-- The items of a stream that comes directly from the server. -/
def handleStreaming : List (Except String Event) → List (EventItem T)
  | [] => []
  | .error error :: _ => [.error (internalServerError error)]
  | .ok event :: rest =>
    if event.data = "[DONE]" then [.ok none]
    else
      match decodeText decoder deserializationError event.data with
      | some item => item :: handleStreaming rest
      -- the task panics
      | none => []

/-- Items that a part of a stream yields, and whether the task goes on after it. -/
structure Emission (T : Type) where
  items : List (EventItem T)
  goesOn : Bool

/-- The items of a part and of what follows it. -/
def Emission.andThen (emission : Emission T) (rest : List (EventItem T)) : List (EventItem T) :=
  if emission.goesOn then emission.items ++ rest else emission.items

/-- Removes `data: ` from the start of a line. -/
def stripDataPrefix (line : List Char) : List Char :=
  if "data: ".toList.isPrefixOf line then line.drop "data: ".toList.length else line

/-- The items of the lines of a content. -/
def handleLines : List (List Char) → Emission T
  | [] => ⟨[], true⟩
  | line :: rest =>
    let trimmed := line.trim isWhitespace
    if trimmed.isEmpty then handleLines rest
    else
      let jsonStr := String.ofList (stripDataPrefix trimmed)
      if jsonStr = "[DONE]" then ⟨[.ok none], false⟩
      else
        match decodeText decoder failedToParse jsonStr with
        | some item => ⟨item :: (handleLines rest).items, (handleLines rest).goesOn⟩
        | none => ⟨[], false⟩

/-- The content of an event: the string member `content` if its data is a JSON object
that has one, else all of its data. -/
def contentStr (data : String) : String :=
  match decoder.value data with
  | .ok envelope => envelope.content.getD data
  | .error _ => data

/-- The items of a stream that comes through the router. -/
def handleStreamWithBody : List (Except String Event) → List (EventItem T)
  | [] => []
  | .error streamError :: _ => [.error (internalServerError s!"stream error: {streamError}")]
  | .ok event :: rest =>
    if event.event = "png" then handleStreamWithBody rest
    else if event.event = "err" then [.error (internalServerError event.data)]
    else (handleLines decoder ((contentStr decoder event.data).toList.splitPair '\n' '\n')).andThen
      (handleStreamWithBody rest)

end Decoders

/-! ### Payloads in frames, envelopes and events -/

/-- The frame of a payload. -/
def frame (payload : String) : String := "data: " ++ payload ++ "\n\n"

/-- The frames of payloads, one after the other. -/
def frames : List String → String
  | [] => ""
  | payload :: rest => frame payload ++ frames rest

section Transparency

variable {T : Type} (decoder : JsonDecoder T)

/-- A payload: the end marker, a message or an error response, without whitespace
around it and without a blank line in it. -/
structure IsPayload (payload : String) : Prop where
  trimmed : payload.toList.trim isWhitespace = payload.toList
  no_blank_line : ¬ ['\n', '\n'] <:+: payload.toList
  kind : payload = "[DONE]" ∨ (∃ m, decoder.message payload = .ok m) ∨
    ∃ r, decoder.errorResponse payload = .ok r

/-- The payloads an event of the router carries: none if it only keeps the connection
alive, those whose frames are the content of its envelope, or a single message that
stands for itself, of those that `bare` allows. -/
inductive Carries (bare : String → Prop) : Event → List String → Prop
  | keepalive (data : String) : Carries bare ⟨"png", data⟩ []
  | envelope {event : Event} {envelope : Json} (payloads : List String)
      (hpng : event.event ≠ "png") (herr : event.event ≠ "err")
      (hvalue : decoder.value event.data = .ok envelope)
      (hcontent : envelope.content = some (frames payloads)) : Carries bare event payloads
  | message {event : Event} {message : T} (hpng : event.event ≠ "png") (herr : event.event ≠ "err")
      (hmessage : decoder.message event.data = .ok message) (hbare : bare event.data) :
      Carries bare event [event.data]

variable {decoder}

theorem IsPayload.toList_ne_nil {payload : String} (h : IsPayload decoder payload) :
    payload.toList ≠ [] := by
  intro hnil
  rcases h.kind with rfl | ⟨m, hm⟩ | ⟨r, hr⟩
  · simp at hnil
  · obtain ⟨v, hv⟩ := decoder.exists_value_of_message hm
    obtain ⟨c, hc, -⟩ := decoder.exists_isJsonStart hv
    simp [hnil] at hc
  · obtain ⟨v, hv⟩ := decoder.exists_value_of_errorResponse hr
    obtain ⟨c, hc, -⟩ := decoder.exists_isJsonStart hv
    simp [hnil] at hc

/-- The end of a line of a frame is no line break, so the blank line after it is the
first one. -/
theorem IsPayload.no_blank_line_in_frame {payload : String} (h : IsPayload decoder payload) :
    ¬ ['\n', '\n'] <:+: ("data: ".toList ++ payload.toList) ++ ['\n'] := by
  rw [List.infix_concat_iff]
  rintro (hend | hpart)
  · obtain ⟨l, hl⟩ := hend
    have hlast : "data: ".toList ++ payload.toList = l ++ ['\n'] := by
      rw [← List.append_cancel_right_eq _ ['\n']]
      simpa using hl.symm
    have hgetLast : payload.toList.getLast? = some '\n' := by
      have := congrArg List.getLast? hlast
      rwa [List.getLast?_append_of_ne_nil _ h.toList_ne_nil, List.getLast?_concat] at this
    apply List.not_getLast_of_trim h.trimmed h.toList_ne_nil
    rw [List.getLast?_eq_some_getLast h.toList_ne_nil, Option.some.injEq] at hgetLast
    rw [hgetLast]
    decide
  · exact h.no_blank_line (List.infix_of_infix_append hpart (by decide))

/-- A frame is cut off as one line. -/
theorem splitPair_frames_cons {payload : String} (h : IsPayload decoder payload)
    (rest : List String) :
    (frames (payload :: rest)).toList.splitPair '\n' '\n' =
      ("data: ".toList ++ payload.toList) :: (frames rest).toList.splitPair '\n' '\n' := by
  have htoList : (frames (payload :: rest)).toList =
      ("data: ".toList ++ payload.toList) ++ '\n' :: '\n' :: (frames rest).toList := by
    simp [frames, frame]
  rw [htoList, List.splitPair_append h.no_blank_line_in_frame]

/-- The items of payloads, one after the other, up to the first end marker. -/
def emission (decoder : JsonDecoder T) : List String → Emission T
  | [] => ⟨[], true⟩
  | payload :: rest =>
    if payload = "[DONE]" then ⟨[.ok none], false⟩
    else
      match decodeText decoder deserializationError payload with
      | some item => ⟨item :: (emission decoder rest).items, (emission decoder rest).goesOn⟩
      | none => ⟨[], false⟩

/-- A payload that is not the end marker becomes an item in which the two texts for
undecodable data do not occur. -/
theorem IsPayload.decodeText_eq {payload : String} (h : IsPayload decoder payload)
    (hdone : payload ≠ "[DONE]") (describe describe' : String → String → String) :
    decodeText decoder describe payload = decodeText decoder describe' payload := by
  rcases h.kind with rfl | ⟨m, hm⟩ | ⟨r, hr⟩
  · exact absurd rfl hdone
  · rw [decodeText, decodeText, hm]
  · rw [decodeText, decodeText, hr]

theorem stripDataPrefix_append (l : List Char) : stripDataPrefix ("data: ".toList ++ l) = l := by
  simp [stripDataPrefix]

/-- A line that consists of a payload, with or without the frame's prefix, yields the
item of the payload. -/
theorem handleLines_cons {payload : String} (h : IsPayload decoder payload) {line : List Char}
    (htrim : line.trim isWhitespace = line) (hne : line ≠ [])
    (hstrip : stripDataPrefix line = payload.toList) (rest : List (List Char)) :
    handleLines decoder (line :: rest) =
      if payload = "[DONE]" then ⟨[.ok none], false⟩
      else
        match decodeText decoder deserializationError payload with
        | some item => ⟨item :: (handleLines decoder rest).items, (handleLines decoder rest).goesOn⟩
        | none => ⟨[], false⟩ := by
  simp only [handleLines, htrim, hstrip, String.ofList_toList, List.isEmpty_iff, hne, if_false]
  by_cases hdone : payload = "[DONE]"
  · simp only [hdone, if_true]
  · simp only [hdone, if_false, h.decodeText_eq hdone failedToParse deserializationError]

/-- The lines of an envelope yield the items of its payloads. -/
theorem handleLines_frames {payloads : List String} (h : ∀ p ∈ payloads, IsPayload decoder p) :
    handleLines decoder ((frames payloads).toList.splitPair '\n' '\n') =
      emission decoder payloads := by
  induction payloads with
  | nil => rfl
  | cons payload rest ih =>
    have hpayload := h payload (by simp)
    rw [splitPair_frames_cons hpayload, handleLines_cons hpayload _ _ (stripDataPrefix_append _),
      ih fun p hp => h p (by simp [hp]), emission]
    · exact List.trim_cons_append (by decide) hpayload.trimmed hpayload.toList_ne_nil
    · simp

/-- A bare message yields its own item. -/
theorem handleLines_message {payload : String} {message : T} (h : IsPayload decoder payload)
    (hmessage : decoder.message payload = .ok message) :
    handleLines decoder (payload.toList.splitPair '\n' '\n') = emission decoder [payload] := by
  have hstrip : stripDataPrefix payload.toList = payload.toList := by
    rw [stripDataPrefix, if_neg]
    intro hdata
    obtain ⟨v, hv⟩ := decoder.exists_value_of_message hmessage
    obtain ⟨c, hc, hstart⟩ := decoder.exists_isJsonStart hv
    -- a JSON text does not start with a letter `d`
    obtain ⟨l, hl⟩ := List.isPrefixOf_iff_prefix.mp hdata
    have hd : c = 'd' := by
      rw [← hl] at hc
      simpa [eq_comm] using hc
    rw [hd] at hstart
    exact absurd hstart (by decide)
  rw [List.splitPair_eq_singleton h.no_blank_line,
    handleLines_cons h h.trimmed h.toList_ne_nil hstrip]
  rfl

/-- The direct decoder emits the items of the payloads. -/
theorem handleStreaming_append (payloads : List String) (rest : List (Except String Event)) :
    handleStreaming decoder ((payloads.map fun p => .ok { data := p }) ++ rest) =
      (emission decoder payloads).andThen (handleStreaming decoder rest) := by
  induction payloads with
  | nil => rfl
  | cons payload payloads ih =>
    simp only [List.map_cons, List.cons_append, handleStreaming, emission, ih]
    by_cases hdone : payload = "[DONE]"
    · simp [hdone, Emission.andThen]
    · cases hitem : decodeText decoder deserializationError payload with
      | none => simp [hdone, Emission.andThen]
      | some item =>
        simp only [hdone, if_false, Emission.andThen]
        split_ifs <;> rfl

theorem handleStreaming_payloads (payloads : List String) :
    handleStreaming decoder (payloads.map fun p => .ok { data := p }) =
      (emission decoder payloads).items := by
  have happend := @handleStreaming_append _ decoder payloads []
  rw [List.append_nil] at happend
  rw [happend, Emission.andThen, handleStreaming, List.append_nil, ite_self]

theorem emission_append_done (before after : List String) :
    emission decoder (before ++ "[DONE]" :: after) = emission decoder (before ++ ["[DONE]"]) := by
  induction before with
  | nil => simp [emission]
  | cons payload before ih => simp only [List.cons_append, emission, ih]

/-- The end is sent as the last item only. -/
theorem eq_nil_of_emission_items {payloads : List String} {before after : List (EventItem T)}
    (h : (emission decoder payloads).items = before ++ .ok none :: after) : after = [] := by
  induction payloads generalizing before with
  | nil => simp [emission] at h
  | cons payload payloads ih =>
    rw [emission] at h
    split_ifs at h with hdone
    · cases before with
      | nil => simpa [eq_comm] using h
      | cons _ _ => simp at h
    · split at h
      · rename_i item hitem
        cases before with
        | nil =>
          -- an item made from a text is never the end
          obtain ⟨rfl, -⟩ := List.cons.inj h
          simp only [decodeText] at hitem
          split at hitem
          · simp at hitem
          · split at hitem <;> simp at hitem
        | cons _ before => exact ih (List.cons.inj h).2
      · simp at h

/-- A text that is not taken for an envelope: it has no string member `content`. -/
def Unwrapped (decoder : JsonDecoder T) (text : String) : Prop :=
  ∀ v, decoder.value text = .ok v → v.content = none

/-- An event of the router yields the items of the payloads it carries. -/
theorem handleStreamWithBody_cons {event : Event} {payloads : List String}
    (h : Carries decoder (Unwrapped decoder) event payloads)
    (hpayloads : ∀ p ∈ payloads, IsPayload decoder p) (rest : List (Except String Event)) :
    handleStreamWithBody decoder (.ok event :: rest) =
      (emission decoder payloads).andThen (handleStreamWithBody decoder rest) := by
  rw [handleStreamWithBody]
  cases h with
  | keepalive => rfl
  | envelope payloads hpng herr hvalue hcontent =>
    have hstr : contentStr decoder event.data = frames payloads := by
      rw [contentStr, hvalue]
      simp [hcontent]
    rw [if_neg hpng, if_neg herr, hstr, handleLines_frames hpayloads]
  | message hpng herr hmessage hbare =>
    have hstr : contentStr decoder event.data = event.data := by
      rw [contentStr]
      split
      · rename_i v hv
        rw [hbare v hv]
        rfl
      · rfl
    rw [if_neg hpng, if_neg herr, hstr, handleLines_message (hpayloads _ (by simp)) hmessage]

end Transparency

/-! ### A decoder that knows a few texts -/

/-- A decoder that knows the given texts, all of them objects. -/
def tableDecoder {T : Type} (values : List (String × Json)) (messages : List (String × T))
    (hvalues : ∀ e ∈ values, ∃ rest, e.1 = "\x7b" ++ rest)
    (hmessages : ∀ e ∈ messages, e.1 ∈ values.map (·.1)) : JsonDecoder T where
  value text :=
    match values.find? (·.1 = text) with
    | some e => .ok e.2
    | none => .error "expected value at line 1 column 1"
  message text :=
    match messages.find? (·.1 = text) with
    | some e => .ok e.2
    | none => .error "expected value at line 1 column 1"
  errorResponse _ := .error "data did not match any variant of untagged enum ErrorResponse"
  exists_isJsonStart := by
    intro text v h
    split at h
    · rename_i e he
      have htext : e.1 = text := by simpa using List.find?_some he
      obtain ⟨rest, hrest⟩ := hvalues e (List.mem_of_find?_eq_some he)
      exact ⟨'\x7b', by simp [← htext, hrest], by decide⟩
    · simp at h
  exists_value_of_message := by
    intro text m h
    split at h
    · rename_i e he
      have htext : e.1 = text := by simpa using List.find?_some he
      obtain ⟨e', he', heq⟩ := List.mem_map.mp (hmessages e (List.mem_of_find?_eq_some he))
      cases hfind : values.find? (·.1 = text) with
      | none => exact absurd (List.find?_eq_none.mp hfind e' he') (by simp [heq, htext])
      | some e'' => exact ⟨e''.2, rfl⟩
    · simp at h
  exists_value_of_errorResponse := by
    intro text r h
    simp at h

/-- The text of a chunk with a further member. -/
def chunkText (further : String) : String :=
  "\x7b" ++ ("\"id\":\"c\",\"object\":\"chat.completion.chunk\",\"created\":0,"
    ++ "\"model\":\"granite\",\"choices\":[]" ++ further ++ "\x7d")

def plainChunk : ChatCompletionChunk := { id := "c", model := "granite" }

def plainChunkMembers : List (String × Json) :=
  [("id", .string "c"), ("object", .string "chat.completion.chunk"), ("created", .number 0),
    ("model", .string "granite"), ("choices", .array [])]

/-! ### Transparency of the framing -/

/-- Framing is transparent: however the frames of payloads are grouped into events of
the router, as long as no message stands for itself that has a string member
`content`, its decoder emits the items that the direct decoder emits for the payloads.
Nothing after the first end marker counts, and the end is the last item. -/
theorem handleStreamWithBody_eq_handleStreaming {T : Type} {decoder : JsonDecoder T}
    {events : List Event} {groups : List (List String)}
    (hevents : List.Forall₂ (Carries decoder (Unwrapped decoder)) events groups)
    (hpayloads : ∀ p ∈ groups.flatten, IsPayload decoder p) :
    handleStreamWithBody decoder (events.map .ok) =
        handleStreaming decoder (groups.flatten.map fun p => .ok { data := p }) ∧
      (∀ before after, groups.flatten = before ++ "[DONE]" :: after →
        handleStreamWithBody decoder (events.map .ok) =
          handleStreaming decoder ((before ++ ["[DONE]"]).map fun p => .ok { data := p })) ∧
      ∀ before after, handleStreamWithBody decoder (events.map .ok) =
        before ++ .ok none :: after → after = [] := by
  -- event by event, what is routed is what its payloads send
  have hrouted : handleStreamWithBody decoder (events.map .ok) =
      (emission decoder groups.flatten).items := by
    rw [← handleStreaming_payloads]
    induction hevents with
    | nil => rfl
    | cons hevent _ ih =>
      rw [List.flatten_cons] at hpayloads ⊢
      rw [List.map_cons, List.map_append, handleStreaming_append,
        handleStreamWithBody_cons hevent fun p hp => hpayloads p (by simp [hp]),
        ih fun p hp => hpayloads p (by simp [hp])]
  refine ⟨?_, ?_, ?_⟩
  · rw [hrouted, handleStreaming_payloads]
  · intro before after hflatten
    rw [hrouted, handleStreaming_payloads, hflatten, emission_append_done]
  · intro before after hitems
    rw [hrouted] at hitems
    exact eq_nil_of_emission_items hitems

/-- An envelope with the frames of a chunk and of the end marker. -/
def envelopeText : String :=
  "\x7b" ++ ("\"content\":\"data: \x7b\\\"id\\\":\\\"c\\\","
    ++ "\\\"object\\\":\\\"chat.completion.chunk\\\","
    ++ "\\\"created\\\":0,\\\"model\\\":\\\"granite\\\",\\\"choices\\\":[]\x7d\\n\\n"
    ++ "data: [DONE]\\n\\n\"\x7d")

/-- The decoder of a plain chunk and of that envelope. -/
def envelopeDecoder : JsonDecoder ChatCompletionChunk :=
  tableDecoder [(chunkText "", .object plainChunkMembers),
      (envelopeText, .object [("content", .string (frames [chunkText "", "[DONE]"]))])]
    [(chunkText "", plainChunk)]
    (List.forall_mem_cons.mpr ⟨⟨_, rfl⟩, List.forall_mem_singleton.mpr ⟨_, rfl⟩⟩)
    (List.forall_mem_singleton.mpr (List.mem_cons_self ..))

theorem handleStreamWithBody_eq_handleStreaming_envelope :
    handleStreamWithBody envelopeDecoder
        [.ok ⟨"png", ""⟩, .ok { data := chunkText "" }, .ok { data := envelopeText }] =
      handleStreaming envelopeDecoder [.ok { data := chunkText "" }, .ok { data := chunkText "" },
        .ok { data := "[DONE]" }] := by
  have hmessage : envelopeDecoder.message (chunkText "") = .ok plainChunk := rfl
  have hchunk : IsPayload envelopeDecoder (chunkText "") :=
    ⟨by decide, List.not_infix_of_notMem (by decide), .inr (.inl ⟨_, hmessage⟩)⟩
  have hdone : IsPayload envelopeDecoder "[DONE]" := ⟨by decide, by decide, .inl rfl⟩
  have hbare : Unwrapped envelopeDecoder (chunkText "") := by
    intro v hv
    obtain rfl := Except.ok.inj hv
    rfl
  -- an event without data, a bare message, and an envelope with two payloads
  have hevents : List.Forall₂ (Carries envelopeDecoder (Unwrapped envelopeDecoder))
      [⟨"png", ""⟩, { data := chunkText "" }, { data := envelopeText }]
      [[], [chunkText ""], [chunkText "", "[DONE]"]] :=
    .cons (.keepalive "") (.cons (.message (by decide) (by decide) hmessage hbare)
      (.cons (.envelope _ (by decide) (by decide) rfl rfl) .nil))
  apply (handleStreamWithBody_eq_handleStreaming hevents _).1
  intro p hp
  simp only [List.flatten_cons, List.flatten_nil, List.nil_append, List.append_nil,
    List.cons_append, List.mem_cons, List.not_mem_nil, or_false] at hp
  rcases hp with rfl | rfl | rfl
  · exact hchunk
  · exact hchunk
  · exact hdone

/-- The decoder of a chunk with a member that chunks do not have. -/
def contentDecoder : JsonDecoder ChatCompletionChunk :=
  tableDecoder [(chunkText ",\"content\":\"Hi\"", .object (plainChunkMembers
      ++ [("content", .string "Hi")]))]
    [(chunkText ",\"content\":\"Hi\"", plainChunk)] (List.forall_mem_singleton.mpr ⟨_, rfl⟩)
    (List.forall_mem_singleton.mpr (List.mem_cons_self ..))

/-- A bare chunk with a string member `content` is a message for the direct decoder, but
is taken for an envelope by the decoder for the router. -/
theorem handleStreamWithBody_ne_handleStreaming_content :
    List.Forall₂ (Carries contentDecoder fun _ => True)
        [{ data := chunkText ",\"content\":\"Hi\"" }] [[chunkText ",\"content\":\"Hi\""]] ∧
      IsPayload contentDecoder (chunkText ",\"content\":\"Hi\"") ∧
      handleStreaming contentDecoder [.ok { data := chunkText ",\"content\":\"Hi\"" }] =
        [.ok (some plainChunk)] ∧
      handleStreamWithBody contentDecoder [.ok { data := chunkText ",\"content\":\"Hi\"" }] =
        [.error (internalServerError
          "failed to parse response: expected value at line 1 column 1")] := by
  have hmessage : contentDecoder.message (chunkText ",\"content\":\"Hi\"") = .ok plainChunk := rfl
  refine ⟨?_, ?_, rfl, rfl⟩
  · exact .cons (.message (by decide) (by decide) hmessage trivial) .nil
  · exact ⟨by decide, List.not_infix_of_notMem (by decide), .inr (.inl ⟨_, hmessage⟩)⟩

end GuardrailsOrchestrator
