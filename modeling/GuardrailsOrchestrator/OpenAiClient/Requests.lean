import GuardrailsOrchestrator.Config
import GuardrailsOrchestrator.OpenAi

/-!
# Requests to an OpenAI server

The requests of the two completion endpoints, how a client's JSON object is read as
one, and how a request is written as a JSON object again. A request names the few
fields the orchestrator looks at; all other members of the object go through a
flattened map.

Maps of JSON values keep the order of insertion, and two maps are equal as JSON
values when every lookup agrees.
-/

namespace GuardrailsOrchestrator

/-- A map of JSON values in insertion order. -/
abbrev JsonMap := IterMap String Json

/-! ### Fields of a serialized struct -/

/-- A field that is left out when it is absent. -/
def optionalMember {α : Type} (name : String) (serialize : α → Json) (value : Option α) :
    List (String × Json) :=
  value.toList.map fun v => (name, serialize v)

/-- A text field that is left out when it is empty. -/
def nonEmptyMember (name : String) (value : String) : List (String × Json) :=
  if value.isEmpty then [] else [(name, .string value)]

/-! ### Messages -/

/-- What a content part holds. -/
inductive ContentType where
  | text
  | imageUrl
  deriving DecidableEq

structure ImageUrl where
  url : String
  detail : Option String := none
  deriving DecidableEq

structure ContentPart where
  type : ContentType := .text
  text : Option String := none
  imageUrl : Option ImageUrl := none
  refusal : Option String := none
  deriving DecidableEq

/-- The contents of a message: a text or a list of parts. -/
inductive Content where
  | text (text : String)
  | array (parts : List ContentPart)
  deriving DecidableEq

structure Message where
  role : Role := .user
  content : Option Content := none
  name : Option String := none
  refusal : Option String := none
  toolCalls : Option (List ToolCall) := none
  toolCallId : Option String := none
  reasoningContent : Option String := none
  deriving DecidableEq

/-- Whether the text or the image URL of a part is empty. -/
def ContentPart.isEmpty (part : ContentPart) : Bool :=
  match part.type with
  | .text => part.text.all (·.isEmpty)
  | .imageUrl => part.imageUrl.all (·.url.isEmpty)

def Content.isEmpty : Content → Bool
  | .text value => value.isEmpty
  | .array parts => parts.isEmpty || parts.all ContentPart.isEmpty

/-- The text of a message; of several parts, the first non-empty text part. -/
def Message.text (message : Message) : Option String :=
  match message.content with
  | some (.text text) => if text.isEmpty then none else some text
  | some (.array parts) => parts.findSome? fun part =>
    if part.type = .text then part.text.filter (!·.isEmpty) else none
  | none => none

/-- The text of a part. Only text parts have one. -/
def ContentPart.plainText (part : ContentPart) : String :=
  if part.type = .text then part.text.getD "" else ""

/-- The texts of parts that are not empty. -/
def nonEmptyTexts (parts : List ContentPart) : List String :=
  (parts.map ContentPart.plainText).filter (· ≠ "")

/-- The texts in the content of a message that are not empty. -/
def Message.texts (message : Message) : List String :=
  match message.content with
  | some (.text text) => if text.isEmpty then [] else [text]
  | some (.array parts) => nonEmptyTexts parts
  | none => []

/-- The text of a message with parts is the first that is not empty. -/
theorem text_of_array {message : Message} {parts : List ContentPart}
    (h : message.content = some (.array parts)) :
    message.text = (nonEmptyTexts parts).head? := by
  -- a part counts if it is of type text and its text is not empty
  have hpart : ∀ part : ContentPart,
      (if part.type = .text then part.text.filter (!·.isEmpty) else none) =
        if part.plainText = "" then none else some part.plainText := by
    intro part
    rw [ContentPart.plainText]
    by_cases htype : part.type = .text
    · cases htext : part.text with
      | none => simp [htype]
      | some text =>
        by_cases hempty : text = ""
        · simp [htype, hempty]
        · simp [htype, hempty, Option.filter]
    · simp [htype]
  rw [Message.text, h, nonEmptyTexts]
  simp only [hpart]
  clear h
  induction parts with
  | nil => rfl
  | cons part parts ih =>
    rw [List.findSome?_cons, List.map_cons]
    by_cases hempty : part.plainText = ""
    · simp only [hempty, if_true]
      rw [List.filter_cons_of_neg (by simp)]
      exact ih
    · rw [if_neg hempty, List.filter_cons_of_pos (by simpa using hempty)]
      rfl

theorem Message.head?_texts (message : Message) : message.texts.head? = message.text := by
  match hcontent : message.content with
  | some (.text text) =>
    by_cases hempty : text.isEmpty <;> simp [Message.texts, Message.text, hcontent, hempty]
  | some (.array parts) => rw [text_of_array hcontent, Message.texts, hcontent]
  | none => simp [Message.texts, Message.text, hcontent]

/-- Whether a message has content that is not empty. -/
def Message.hasContent (message : Message) : Bool :=
  message.content.any (!·.isEmpty)

def Role.serialize : Role → Json
  | .user => .string "user"
  | .developer => .string "developer"
  | .assistant => .string "assistant"
  | .system => .string "system"
  | .tool => .string "tool"

def ContentType.serialize : ContentType → Json
  | .text => .string "text"
  | .imageUrl => .string "image_url"

def ImageUrl.serialize (imageUrl : ImageUrl) : Json :=
  .object (("url", .string imageUrl.url) :: optionalMember "detail" .string imageUrl.detail)

def ContentPart.serialize (part : ContentPart) : Json :=
  .object (("type", part.type.serialize) :: optionalMember "text" .string part.text
    ++ optionalMember "image_url" ImageUrl.serialize part.imageUrl
    ++ optionalMember "refusal" .string part.refusal)

def Content.serialize : Content → Json
  | .text value => .string value
  | .array parts => .array (parts.map ContentPart.serialize)

def Function.serialize (function : Function) : Json :=
  .object (nonEmptyMember "name" function.name ++ [("arguments", .string function.arguments)])

def Custom.serialize (custom : Custom) : Json :=
  .object (nonEmptyMember "name" custom.name ++ [("input", .string custom.input)])

def ToolCall.serialize (call : ToolCall) : Json :=
  .object (optionalMember "index" (fun index : ℕ => .number index) call.index
    ++ nonEmptyMember "id" call.id ++ nonEmptyMember "type" call.type
    ++ optionalMember "function" Function.serialize call.function
    ++ optionalMember "custom" Custom.serialize call.custom)

def Message.serialize (message : Message) : Json :=
  .object (("role", message.role.serialize)
    :: optionalMember "content" Content.serialize message.content
    ++ optionalMember "name" .string message.name
    ++ optionalMember "refusal" .string message.refusal
    ++ optionalMember "tool_calls" (fun calls => .array (calls.map ToolCall.serialize))
      message.toolCalls
    ++ optionalMember "tool_call_id" .string message.toolCallId
    ++ optionalMember "reasoning_content" .string message.reasoningContent)

/-! ### Tools -/

/-- A function the model may call; its parameters are a JSON Schema object. -/
structure FunctionDefinition where
  name : String
  description : Option String := none
  parameters : OrderedMap String Json := .empty
  strict : Option Bool := none
  deriving DecidableEq

structure CustomDefinition where
  name : String
  description : Option String := none
  format : Option Json := none
  deriving DecidableEq

/-- A tool the model may call. -/
inductive Tool where
  | function (type : String) (definition : FunctionDefinition)
  | custom (type : String) (definition : CustomDefinition)
  deriving DecidableEq

def FunctionDefinition.serialize (function : FunctionDefinition) : Json :=
  .object (("name", .string function.name)
    :: optionalMember "description" .string function.description
    ++ (if function.parameters.isEmpty then []
      else [("parameters", .object function.parameters.entries)])
    ++ optionalMember "strict" .bool function.strict)

def CustomDefinition.serialize (custom : CustomDefinition) : Json :=
  .object (("name", .string custom.name)
    :: optionalMember "description" .string custom.description
    ++ optionalMember "format" id custom.format)

def Tool.serialize : Tool → Json
  | .function type definition =>
    .object [("type", .string type), ("function", definition.serialize)]
  | .custom type definition =>
    .object [("type", .string type), ("custom", definition.serialize)]

/-! ### Requests -/

/-- The detectors a request asks for, with their parameters. -/
structure RequestedDetectors where
  input : IterMap DetectorId DetectorParams := .empty
  output : IterMap DetectorId DetectorParams := .empty
  deriving DecidableEq

/-- A chat completions request. -/
structure ChatCompletionsRequest where
  detectors : RequestedDetectors := {}
  stream : Option Bool := none
  model : String
  messages : List Message
  tools : Option (List Tool) := none
  extra : JsonMap := .empty
  deriving DecidableEq

/-- A completions request. -/
structure CompletionsRequest where
  detectors : RequestedDetectors := {}
  promptMasks : Option (List (ℕ × ℕ)) := none
  stream : Option Bool := none
  model : String
  prompt : String
  extra : JsonMap := .empty
  deriving DecidableEq

def serializeMessages (messages : List Message) : Json :=
  .array (messages.map Message.serialize)

def serializeTools (tools : List Tool) : Json := .array (tools.map Tool.serialize)

/-- The JSON object a chat completions request is written as. The detectors are not
part of it, and an absent `stream` or `tools` is left out. -/
def ChatCompletionsRequest.serialize (request : ChatCompletionsRequest) : JsonMap :=
  IterMap.empty.insertAll (optionalMember "stream" .bool request.stream
    ++ [("model", .string request.model), ("messages", serializeMessages request.messages)]
    ++ optionalMember "tools" serializeTools request.tools
    ++ request.extra.entries)

/-- The JSON object a completions request is written as. The detectors and the
prompt masks are not part of it, and an absent `stream` is left out. -/
def CompletionsRequest.serialize (request : CompletionsRequest) : JsonMap :=
  IterMap.empty.insertAll (optionalMember "stream" .bool request.stream
    ++ [("model", .string request.model), ("prompt", .string request.prompt)]
    ++ request.extra.entries)

/-! ### Reading a request

A client's object is the list of its members as the text has them. A named field may
stand there once; every other member goes to the flattened map, where a later value
replaces an earlier one. -/

/-- The value of a named field. -/
def namedField (name : String) (members : List (String × Json)) : Option (Option Json) :=
  match members.filter (·.1 = name) with
  | [] => some none
  | [member] => some (some member.2)
  -- a field that occurs twice is rejected
  | _ => none

/-- A field that must be there. -/
def requiredField {α : Type} (deserialize : Json → Option α) (name : String)
    (members : List (String × Json)) : Option α := do
  deserialize (← (← namedField name members))

/-- A field that may be absent or null. -/
def optionalField {α : Type} (deserialize : Json → Option α) (name : String)
    (members : List (String × Json)) : Option (Option α) := do
  match ← namedField name members with
  | none | some .null => some none
  | some value => (deserialize value).map some

/-- A field that has its default value when it is absent. -/
def defaultField {α : Type} (default : α) (deserialize : Json → Option α) (name : String)
    (members : List (String × Json)) : Option α := do
  match ← namedField name members with
  | none => some default
  | some value => deserialize value

/-- The members that are no named field. -/
def flattened (names : List String) (members : List (String × Json)) : JsonMap :=
  IterMap.empty.insertAll (members.filter (·.1 ∉ names))

/-- A flattened map holds none of the named fields. -/
theorem get?_flattened_of_mem {names : List String} {members : List (String × Json)}
    {name : String} (h : name ∈ names) : (flattened names members).get? name = none := by
  rw [flattened, IterMap.get?_insertAll_of_notMem]
  · rfl
  · intro hmem
    obtain ⟨member, hmember, rfl⟩ := List.mem_map.mp hmem
    exact (of_decide_eq_true (List.mem_filter.mp hmember).2) h

def Json.asBool : Json → Option Bool
  | .bool b => some b
  | _ => none

def Json.asString : Json → Option String
  | .string s => some s
  | _ => none

/-- The derived deserializers of the types of a request's fields. -/
structure FieldDeserializers where
  detectors : Json → Option RequestedDetectors
  promptMasks : Json → Option (List (ℕ × ℕ))
  messages : Json → Option (List Message)
  tools : Json → Option (List Tool)

variable (fields : FieldDeserializers)

def ChatCompletionsRequest.deserialize (members : List (String × Json)) :
    Option ChatCompletionsRequest := do
  let detectors ← defaultField {} fields.detectors "detectors" members
  let stream ← optionalField Json.asBool "stream" members
  let model ← requiredField Json.asString "model" members
  let messages ← requiredField fields.messages "messages" members
  let tools ← optionalField fields.tools "tools" members
  let extra := flattened ["detectors", "stream", "model", "messages", "tools"] members
  return { detectors, stream, model, messages, tools, extra }

def CompletionsRequest.deserialize (members : List (String × Json)) :
    Option CompletionsRequest := do
  let detectors ← defaultField {} fields.detectors "detectors" members
  let promptMasks ← optionalField fields.promptMasks "_prompt_masks" members
  let stream ← optionalField Json.asBool "stream" members
  let model ← requiredField Json.asString "model" members
  let prompt ← requiredField Json.asString "prompt" members
  let extra := flattened ["detectors", "_prompt_masks", "stream", "model", "prompt"] members
  return { detectors, promptMasks, stream, model, prompt, extra }

variable {fields} {members : List (String × Json)}

/-- The extra fields of a chat completions request that was read from a client are
none of its named fields. -/
theorem ChatCompletionsRequest.get?_extra_of_deserialize {request : ChatCompletionsRequest}
    (h : deserialize fields members = some request) {name : String}
    (hname : name ∈ ["detectors", "stream", "model", "messages", "tools"]) :
    request.extra.get? name = none := by
  simp only [deserialize, Option.bind_eq_bind, Option.bind_eq_some_iff, pure,
    Option.some.injEq] at h
  obtain ⟨_, -, _, -, _, -, _, -, _, -, rfl⟩ := h
  exact get?_flattened_of_mem hname

/-- The extra fields of a completions request that was read from a client are none of
its named fields. -/
theorem CompletionsRequest.get?_extra_of_deserialize {request : CompletionsRequest}
    (h : deserialize fields members = some request) {name : String}
    (hname : name ∈ ["detectors", "_prompt_masks", "stream", "model", "prompt"]) :
    request.extra.get? name = none := by
  simp only [deserialize, Option.bind_eq_bind, Option.bind_eq_some_iff, pure,
    Option.some.injEq] at h
  obtain ⟨_, -, _, -, _, -, _, -, _, -, rfl⟩ := h
  exact get?_flattened_of_mem hname

end GuardrailsOrchestrator
