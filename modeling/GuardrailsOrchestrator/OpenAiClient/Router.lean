import GuardrailsOrchestrator.OpenAiClient.Requests

/-!
# Requests through the router

With a router, the body of a completion request is rebuilt by hand, encoded, and put
into an envelope; without one, the request is serialized as it stands. This module
compares the two bodies.

## Main results

* `chatCompletionsViaRouter_sameBody_iff` — the bodies of a chat completions request
  agree exactly when it has no tools and no extra field `_prompt_masks`
* `completionsViaRouter_sameBody` — the bodies of a completions request always agree
-/

namespace GuardrailsOrchestrator

def chatCompletionsEndpoint : String := "/v1/chat/completions"

def completionsEndpoint : String := "/v1/completions"

/-- The router's endpoint for unary requests. -/
def routerHandleEndpoint : String := "/ml/v1-private/router/handle"

/-- The router's endpoint for streaming requests. -/
def routerHandleStreamEndpoint : String := "/ml/v1-private/router/handle-stream"

/-! ### The body of a routed request -/

/-- Adds the extra fields to a body, except those that are meant for detectors. -/
def mergeExtraFields (target extra : JsonMap) : JsonMap :=
  extra.entries.foldl (fun obj (key, value) =>
    if key ≠ "detectors" ∧ key ≠ "_prompt_masks" then obj.insert key value else obj) target

/-- A request for the router: the model whose queue it goes to, the body for the
server, the server's endpoint, and whether the response is streamed. -/
structure RoutedRequest where
  modelName : String
  vllmRequest : JsonMap
  endpoint : String
  isStreaming : Bool

/-- The body for the server: the model, the messages or the prompt under `field`, the
flag for streaming if it is set, and the extra fields. -/
def vllmRequest (model field : String) (value : Json) (stream : Option Bool) (extra : JsonMap) :
    JsonMap :=
  let body := IterMap.empty.insertAll [("model", .string model), (field, value)]
  let body := if stream = some true then body.insert "stream" (.bool true) else body
  mergeExtraFields body extra

def completionsViaRouter (request : CompletionsRequest) (modelIdForRouting : String) :
    RoutedRequest where
  modelName := modelIdForRouting
  vllmRequest := vllmRequest request.model "prompt" (.string request.prompt) request.stream
    request.extra
  endpoint := completionsEndpoint
  isStreaming := request.stream.getD false

def chatCompletionsViaRouter (request : ChatCompletionsRequest) (modelIdForRouting : String) :
    RoutedRequest where
  modelName := modelIdForRouting
  -- the tools of the request are not among the fields that are written
  vllmRequest := vllmRequest request.model "messages" (serializeMessages request.messages)
    request.stream request.extra
  endpoint := chatCompletionsEndpoint
  isStreaming := request.stream.getD false

/-- The envelope of a body: `encode` writes the body as JSON text in base64. -/
def buildRouterPayload (encode : JsonMap → String) (endpoint : String) (body : JsonMap)
    (transactionId : String) : JsonMap :=
  IterMap.empty.insertAll [("method", .string "POST"), ("path", .string endpoint),
    ("headers", .object [("Content-Type", .string "application/json"),
      ("x-request-id", .string transactionId)]),
    ("payload", .string (encode body))]

/-- What is posted to the router: its endpoint, the `x-method` header and the
envelope. -/
def routeViaRouter (encode : JsonMap → String) (transactionId : String)
    (routed : RoutedRequest) : String × String × JsonMap :=
  let payload := buildRouterPayload encode routed.endpoint routed.vllmRequest transactionId
  if routed.isStreaming then (routerHandleStreamEndpoint, "http_pass_stream", payload)
  else (routerHandleEndpoint, "http_pass", payload)

/-- The envelope carries the body and nothing else of the request. -/
theorem get?_payload_routeViaRouter (encode : JsonMap → String) (transactionId : String)
    (routed : RoutedRequest) :
    (routeViaRouter encode transactionId routed).2.2.get? "payload" =
      some (.string (encode routed.vllmRequest)) := by
  rw [routeViaRouter]
  split_ifs <;> simp [buildRouterPayload]

/-! ### Comparing bodies -/

/-- The value of a member of a body, where `stream: false` counts as absent. -/
def bodyMember (body : JsonMap) (key : String) : Option Json :=
  if key = "stream" ∧ body.get? key = some (.bool false) then none else body.get? key

/-- Two bodies are the same JSON value, up to `stream: false` being absent. -/
def SameBody (body body' : JsonMap) : Prop :=
  ∀ key, bodyMember body key = bodyMember body' key

theorem mergeExtraFields_eq_insertAll (target extra : JsonMap) :
    mergeExtraFields target extra =
      target.insertAll
        (extra.filter fun e => e.1 ≠ "detectors" ∧ e.1 ≠ "_prompt_masks").entries := by
  rw [mergeExtraFields, IterMap.insertAll, IterMap.filter, List.foldl_filter]
  simp

/-- What a lookup in a merged body returns. -/
theorem get?_mergeExtraFields (target extra : JsonMap) (key : String) :
    (mergeExtraFields target extra).get? key =
      if key = "detectors" ∨ key = "_prompt_masks" then target.get? key
      else (extra.get? key).or (target.get? key) := by
  rw [mergeExtraFields_eq_insertAll, IterMap.get?_insertAll_entries, IterMap.get?_filter]
  split_ifs with hkey
  · have hfilter : ∀ value : Option Json, value.filter (fun _ => decide (key ≠ "detectors" ∧
        key ≠ "_prompt_masks")) = none := by
      intro value
      cases value <;> simp_all [imp_iff_not_or]
    rw [hfilter, Option.none_or]
  · rw [not_or] at hkey
    cases extra.get? key <;> simp [hkey]

/-- A body that is written field by field: the extra fields come last, so a lookup
looks among them first. -/
theorem get?_insertAll_append_entries (fields : List (String × Json)) (extra : JsonMap)
    (key : String) :
    (IterMap.empty.insertAll (fields ++ extra.entries)).get? key =
      (extra.get? key).or ((IterMap.empty.insertAll fields).get? key) := by
  rw [IterMap.insertAll_append, IterMap.get?_insertAll_entries]

theorem bodyMember_of_ne {body : JsonMap} {key : String} (h : key ≠ "stream") :
    bodyMember body key = body.get? key := by
  simp [bodyMember, h]

section VllmRequest

variable {model field : String} {value : Json} {stream : Option Bool} {extra : JsonMap}

/-- What a lookup in the rebuilt body returns. -/
theorem get?_vllmRequest (key : String) :
    (vllmRequest model field value stream extra).get? key =
      (if key = "detectors" ∨ key = "_prompt_masks" then none else extra.get? key).or
        (if key = "stream" ∧ stream = some true then some (.bool true)
          else if key = field then some value
          else if key = "model" then some (.string model) else none) := by
  rw [vllmRequest, get?_mergeExtraFields]
  by_cases hstream : stream = some true <;>
    by_cases hkey : key = "detectors" ∨ key = "_prompt_masks" <;>
      simp [hstream, hkey]

/-- What a lookup in the serialized body returns; `rest` are further fields. -/
theorem get?_serialized (rest : List (String × Json)) (hrest : (rest.map (·.1)).Nodup)
    (key : String) :
    (IterMap.empty.insertAll (optionalMember "stream" .bool stream
        ++ [("model", .string model), (field, value)] ++ rest ++ extra.entries)).get? key =
      (extra.get? key).or (((rest.find? (·.1 = key)).map (·.2)).or
        (if key = field then some value
          else if key = "model" then some (.string model)
          else if key = "stream" then stream.map .bool else none)) := by
  rw [get?_insertAll_append_entries, IterMap.insertAll_append,
    IterMap.get?_insertAll_of_nodup hrest]
  cases stream <;> simp [optionalMember]

/-- Without further fields, and with no extra field that the router drops or that is
the flag for streaming, the rebuilt body is the serialized one. -/
theorem sameBody_vllmRequest (hfield : field ≠ "stream")
    (hextra : ∀ name ∈ ["detectors", "_prompt_masks", "stream"], extra.get? name = none) :
    SameBody (vllmRequest model field value stream extra)
      (IterMap.empty.insertAll (optionalMember "stream" .bool stream
        ++ [("model", .string model), (field, value)] ++ [] ++ extra.entries)) := by
  intro key
  by_cases hkey : key = "stream"
  · -- the flag is written by one path only when it is set, by the other as it is
    subst hkey
    have hnone := hextra "stream" (by simp)
    simp only [bodyMember, get?_vllmRequest, get?_serialized [] List.nodup_nil, hnone]
    rcases stream with - | - | - <;> simp [hfield.symm]
  · rw [bodyMember_of_ne hkey, bodyMember_of_ne hkey, get?_vllmRequest,
      get?_serialized [] List.nodup_nil]
    have hdropped : (if key = "detectors" ∨ key = "_prompt_masks" then none
        else extra.get? key) = extra.get? key := by
      split_ifs with hor
      · exact (hextra key (by simpa [or_assoc] using Or.inl hor)).symm
      · rfl
    simp [hdropped, hkey]

end VllmRequest

/-- Deserializers that know no more than empty lists, plain messages and functions
without parameters. -/
def plainFields : FieldDeserializers where
  detectors
    | .object [] => some {}
    | _ => none
  promptMasks
    | .array [] => some []
    | _ => none
  messages
    | .array [.object [("role", .string "user"), ("content", .string text)]] =>
      some [{ role := .user, content := some (.text text) }]
    | _ => none
  tools
    | .array [.object [("type", .string type), ("function", .object [("name", .string name)])]] =>
      some [.function type { name }]
    | _ => none

/-! ### Completions -/

/-- A completions request that was read from a client has the same body with and
without a router, where it is in the envelope, and neither body has the fields that are
meant for detectors. -/
theorem completionsViaRouter_sameBody {fields : FieldDeserializers}
    {members : List (String × Json)} {request : CompletionsRequest}
    (h : CompletionsRequest.deserialize fields members = some request)
    (modelIdForRouting : String) (encode : JsonMap → String) (transactionId : String) :
    (routeViaRouter encode transactionId
        (completionsViaRouter request modelIdForRouting)).2.2.get? "payload" =
      some (.string (encode (completionsViaRouter request modelIdForRouting).vllmRequest)) ∧
    SameBody (completionsViaRouter request modelIdForRouting).vllmRequest request.serialize ∧
      ∀ body ∈ [(completionsViaRouter request modelIdForRouting).vllmRequest, request.serialize],
        body.get? "detectors" = none ∧ body.get? "_prompt_masks" = none := by
  -- the fields with names of their own are not among the others
  have hextra : ∀ name ∈ ["detectors", "_prompt_masks", "stream"],
      request.extra.get? name = none := by
    intro name hname
    apply CompletionsRequest.get?_extra_of_deserialize h
    simp only [List.mem_cons, List.not_mem_nil, or_false] at hname ⊢
    tauto
  have hserialize : request.serialize = IterMap.empty.insertAll
      (optionalMember "stream" .bool request.stream ++ [("model", .string request.model),
        ("prompt", .string request.prompt)] ++ [] ++ request.extra.entries) := by
    rw [List.append_nil]
    rfl
  refine ⟨get?_payload_routeViaRouter _ _ _, ?_, ?_⟩
  · rw [hserialize]
    exact sameBody_vllmRequest (by decide) hextra
  · intro body hbody
    rw [hserialize] at hbody
    simp only [List.mem_cons, List.not_mem_nil, or_false] at hbody
    rcases hbody with rfl | rfl
    · simp [completionsViaRouter, get?_vllmRequest]
    · simp only [get?_serialized [] List.nodup_nil, hextra "detectors" (by simp),
        hextra "_prompt_masks" (by simp)]
      simp

/-- The body of a request with masks, a `stream: false` and one extra field. -/
theorem completionsViaRouter_sameBody_masked :
    ∃ request, CompletionsRequest.deserialize plainFields
        [("model", .string "granite"), ("prompt", .string "Hi"), ("stream", .bool false),
          ("_prompt_masks", .array []), ("seed", .number 7)] = some request ∧
      ∀ encode transactionId,
        (routeViaRouter encode transactionId
            (completionsViaRouter request "granite")).2.2.get? "payload" =
          some (.string (encode (completionsViaRouter request "granite").vllmRequest)) ∧
        SameBody (completionsViaRouter request "granite").vllmRequest request.serialize := by
  have hrequest : CompletionsRequest.deserialize plainFields
      [("model", .string "granite"), ("prompt", .string "Hi"), ("stream", .bool false),
        ("_prompt_masks", .array []), ("seed", .number 7)] =
      some { model := "granite", prompt := "Hi", stream := some false, promptMasks := some [],
             extra := IterMap.empty.insert "seed" (.number 7) } := by
    decide
  refine ⟨_, hrequest, fun encode transactionId => ?_⟩
  obtain ⟨hpayload, hsame, -⟩ :=
    completionsViaRouter_sameBody hrequest "granite" encode transactionId
  exact ⟨hpayload, hsame⟩

/-! ### Chat completions -/

theorem nodup_keys_optionalMember {α : Type} (name : String) (serialize : α → Json)
    (value : Option α) : ((optionalMember name serialize value).map (·.1)).Nodup := by
  cases value <;> simp [optionalMember]

/-- A chat completions request that was read from a client has the same body with and
without a router, where it is in the envelope, exactly when it has no tools, which the
router's body leaves out, and no extra field `_prompt_masks`, which the router's body drops. -/
theorem chatCompletionsViaRouter_sameBody_iff {fields : FieldDeserializers}
    {members : List (String × Json)} {request : ChatCompletionsRequest}
    (h : ChatCompletionsRequest.deserialize fields members = some request)
    (modelIdForRouting : String) (encode : JsonMap → String) (transactionId : String) :
    (routeViaRouter encode transactionId
        (chatCompletionsViaRouter request modelIdForRouting)).2.2.get? "payload" =
      some (.string (encode (chatCompletionsViaRouter request modelIdForRouting).vllmRequest)) ∧
    (SameBody (chatCompletionsViaRouter request modelIdForRouting).vllmRequest request.serialize ↔
      request.tools = none ∧ request.extra.get? "_prompt_masks" = none) := by
  have hnamed := @ChatCompletionsRequest.get?_extra_of_deserialize _ _ _ h
  refine ⟨get?_payload_routeViaRouter _ _ _, ?_⟩
  constructor
  · intro hsame
    -- two members are lost on the way, and their absence can be read from the body
    have hmember : ∀ key, key ≠ "stream" →
        (vllmRequest request.model "messages" (serializeMessages request.messages) request.stream
          request.extra).get? key = request.serialize.get? key := by
      intro key hkey
      have hkeySame := hsame key
      rwa [bodyMember_of_ne hkey, bodyMember_of_ne hkey] at hkeySame
    simp only [get?_vllmRequest, ChatCompletionsRequest.serialize,
      get?_serialized _ (nodup_keys_optionalMember _ _ _)] at hmember
    constructor
    · have htools := hmember "tools" (by decide)
      rw [hnamed (by simp)] at htools
      cases htool : request.tools with
      | none => rfl
      | some tools => simp [htool, optionalMember] at htools
    · have hmasks := hmember "_prompt_masks" (by decide)
      cases hmask : request.extra.get? "_prompt_masks" with
      | none => rfl
      | some masks => simp [hmask] at hmasks
  · rintro ⟨htools, hmasks⟩
    rw [ChatCompletionsRequest.serialize, htools]
    apply sameBody_vllmRequest (by decide)
    intro name hname
    simp only [List.mem_cons, List.not_mem_nil, or_false] at hname
    rcases hname with rfl | rfl | rfl
    · exact hnamed (by simp)
    · exact hmasks
    · exact hnamed (by simp)

/-- The client's object of a plain chat request, with further members. -/
def chatMembers (further : List (String × Json)) : List (String × Json) :=
  [("model", .string "granite"),
    ("messages", .array [.object [("role", .string "user"), ("content", .string "Hi")]])] ++ further

theorem chatCompletionsViaRouter_sameBody_iff_plain :
    ∃ request, ChatCompletionsRequest.deserialize plainFields (chatMembers [("seed", .number 7)]) =
        some request ∧ ∀ encode transactionId,
      (routeViaRouter encode transactionId
          (chatCompletionsViaRouter request "granite")).2.2.get? "payload" =
        some (.string (encode (chatCompletionsViaRouter request "granite").vllmRequest)) ∧
      (SameBody (chatCompletionsViaRouter request "granite").vllmRequest request.serialize ↔
        request.tools = none ∧ request.extra.get? "_prompt_masks" = none) := by
  have hrequest : ChatCompletionsRequest.deserialize plainFields
      (chatMembers [("seed", .number 7)]) =
      some { model := "granite", messages := [{ content := some (.text "Hi") }],
             extra := IterMap.empty.insert "seed" (.number 7) } := by
    decide
  exact ⟨_, hrequest, chatCompletionsViaRouter_sameBody_iff hrequest "granite"⟩

/-- A request with a tool: the tool does not reach the server through the router. -/
theorem chatCompletionsViaRouter_not_sameBody_tools :
    ∃ request, ChatCompletionsRequest.deserialize plainFields (chatMembers [("tools",
        .array [.object [("type", .string "function"),
          ("function", .object [("name", .string "lookup")])]])]) = some request ∧
      ¬ SameBody (chatCompletionsViaRouter request "granite").vllmRequest request.serialize := by
  refine ⟨{ model := "granite", messages := [{ content := some (.text "Hi") }],
            tools := some [.function "function" { name := "lookup" }] }, by decide, ?_⟩
  intro hsame
  have htools := hsame "tools"
  revert htools
  decide

end GuardrailsOrchestrator
