import GuardrailsOrchestrator.Chat.Unary

/-!
# Which text of a chat completion is examined

Text contents detectors are given one text for each choice. For a message whose content is a list
of parts, that text is the first text part that is not empty, and the other parts are not looked
at. Whether a choice is warned about as having no content is decided differently: there any part
counts, texts and images alike. So a message may have text that is neither examined nor warned
about.

## Main definitions

* `Message.allText` — all the text of a message
* `ChatUnary.contentsSubmitted` — what text contents detectors are given for a choice
* `ChatUnary.ChoiceCovered` — all text of a choice is examined, or there is none and a warning
  says so

## Main results

* `choiceCovered_iff` — when all choices of a chat completion are covered
-/

namespace GuardrailsOrchestrator

/-! ### The texts of a message -/

/-- All the text of a message, put together. -/
def Message.allText (message : Message) : String :=
  match message.content with
  | some (.text text) => text
  | some (.array parts) => String.join (parts.map ContentPart.plainText)
  | none => ""

section Texts

variable {message : Message} {parts : List ContentPart}

/-- Empty texts do not count. -/
theorem join_map_plainText (parts : List ContentPart) :
    String.join (parts.map ContentPart.plainText) = String.join (nonEmptyTexts parts) := by
  rw [nonEmptyTexts]
  induction parts with
  | nil => rfl
  | cons part parts ih =>
    rw [List.map_cons, String.join_cons, ih]
    by_cases h : part.plainText = ""
    · simp [h]
    · rw [List.filter_cons_of_pos (by simpa using h), String.join_cons]

theorem ne_empty_of_mem_nonEmptyTexts {text : String} (h : text ∈ nonEmptyTexts parts) :
    text ≠ "" :=
  of_decide_eq_true (List.mem_filter.mp h).2

theorem allText_of_array (h : message.content = some (.array parts)) :
    message.allText = String.join (nonEmptyTexts parts) := by
  rw [Message.allText, h, ← join_map_plainText]

/-- A message with parts has no text exactly when none of its parts has. -/
theorem allText_eq_empty_iff_of_array (h : message.content = some (.array parts)) :
    message.allText = "" ↔ nonEmptyTexts parts = [] := by
  rw [allText_of_array h, String.join_eq_empty_iff, List.eq_nil_iff_forall_not_mem]
  refine forall_congr' fun text => ?_
  constructor
  · intro hempty hmem
    exact ne_empty_of_mem_nonEmptyTexts hmem (hempty hmem)
  · intro hnotMem hmem
    exact absurd hmem hnotMem

/-- The text of a message with parts is all its text exactly when only one part has any. -/
theorem text_eq_some_allText_iff_of_array (h : message.content = some (.array parts)) :
    message.text = some message.allText ↔ (nonEmptyTexts parts).length = 1 := by
  rw [text_of_array h, allText_of_array h]
  match htexts : nonEmptyTexts parts with
  | [] => simp
  | [text] => simp [String.join_cons]
  | first :: second :: rest =>
    have hsecond : second ≠ "" := by
      apply ne_empty_of_mem_nonEmptyTexts
      rw [htexts]
      simp
    -- what comes after the first text makes all of it longer
    have hlength : 0 < second.length :=
      Nat.pos_of_ne_zero fun hzero => hsecond (String.length_eq_zero_iff.mp hzero)
    refine iff_of_false ?_ (by simp)
    intro heq
    have heq := congrArg String.length (Option.some.inj heq)
    rw [String.join_cons, String.join_cons, String.length_append, String.length_append] at heq
    omega

/-- A message that has no text has no content, unless its content is a list of parts. -/
theorem text_eq_some_allText_or (h : ∀ parts, message.content ≠ some (.array parts)) :
    message.text = some message.allText ∨
      message.allText = "" ∧ message.hasContent = false := by
  rw [Message.text, Message.allText, Message.hasContent]
  cases hcontent : message.content with
  | none => simp
  | some content =>
    cases content with
    | array parts => exact absurd hcontent (h parts)
    | text text =>
      by_cases hempty : text = ""
      · simp [hempty, Content.isEmpty]
      · simp [hempty, String.isEmpty_iff]

end Texts

/-! ### What is submitted -/

namespace ChatUnary

open ChatStreaming

/-- The contents that a task gives to text contents detectors. -/
def contentsOf (task : WholeDocTask) : Option (List (ℕ × String)) :=
  match task.request with
  | .textContents _ contents => some contents
  | .textChat _ _ _ => none

/-- What text contents detectors are given for a choice. -/
def contentsSubmitted (ctx : WholeDocContext)
    (groups : IterMap DetectorType (IterMap DetectorId DetectorParams))
    (choice : ChatCompletionChoice) : List (List (ℕ × String)) :=
  ((tasksOf ctx groups [(choice.index, choice.message)]).getD []).filterMap contentsOf

/-- The warning for a choice without content. -/
def emptyOutputWarning (index : ChoiceIndex) : CompletionDetectionWarning :=
  ⟨.emptyOutput, s!"Choice of index {index} has no content"⟩

/-- All text of a choice is examined, or it has none and the response has a warning for its
index. -/
def ChoiceCovered (ctx : WholeDocContext)
    (groups : IterMap DetectorType (IterMap DetectorId DetectorParams))
    (response : ChatCompletion) (choice : ChatCompletionChoice) : Prop :=
  contentsSubmitted ctx groups choice = [[(0, choice.message.allText)]] ∨
    choice.message.allText = "" ∧ emptyOutputWarning choice.index ∈ response.warnings

section Submitted

variable {ctx : WholeDocContext} {config : OrchestratorConfig}
  {detectors : IterMap DetectorId DetectorParams}
  {groups : IterMap DetectorType (IterMap DetectorId DetectorParams)}

/-- Text contents detectors are given the text of the message, if it has one. -/
theorem contentsSubmitted_eq (h : ∀ type ∈ groups.keys, type ∈ [.textContents, .textChat])
    (hcontents : .textContents ∈ groups.keys) (choice : ChatCompletionChoice) :
    contentsSubmitted ctx groups choice =
      choice.message.text.toList.map fun contentText => [(0, contentText)] := by
  obtain ⟨group, hgroup, htype⟩ := List.mem_map.mp hcontents
  -- only one group is of text contents detectors, wherever it is visited
  have hsingle : (ctx.groupOrder.visit groups.entries).filter (·.1 = .textContents) = [group] := by
    rw [← htype]
    apply List.filter_eq_singleton_of_nodup_map
    · exact ((ctx.groupOrder.perm _).map _).nodup_iff.mpr groups.nodup
    · exact (ctx.groupOrder.perm _).mem_iff.mpr hgroup
  have htask : ∀ group : DetectorType × IterMap DetectorId DetectorParams,
      ((wholeDocTask ctx (choice.index, choice.message) group).join).bind contentsOf =
        if group.1 = .textContents then
          choice.message.text.map fun contentText => [(0, contentText)] else none := by
    rintro ⟨type, detectors⟩
    cases type with
    | textContents => cases htext : choice.message.text <;> simp [wholeDocTask, contentsOf, htext]
    | _ => simp [wholeDocTask, contentsOf]
  rw [contentsSubmitted, tasksOf_eq_some h, Option.getD_some, List.flatMap_cons, List.flatMap_nil,
    List.append_nil, List.filterMap_filterMap]
  simp only [htask]
  calc (ctx.groupOrder.visit groups.entries).filterMap (fun group =>
        if group.1 = .textContents then
          choice.message.text.map fun contentText => [(0, contentText)] else none)
      = ((ctx.groupOrder.visit groups.entries).filter (·.1 = .textContents)).filterMap
          fun _ => choice.message.text.map fun contentText => [(0, contentText)] := by
        rw [List.filterMap_filter]
        simp
    _ = choice.message.text.toList.map fun contentText => [(0, contentText)] := by
        rw [hsingle]
        cases choice.message.text <;> rfl

/-- The warnings of the response. -/
theorem warnings_of_handleOutputDetection {order : VisitOrder (ChoiceIndex × List Detection)}
    {answer : WholeDocRequest → Except Error (List Detection)}
    {chatCompletion response : ChatCompletion}
    (h : handleOutputDetection ctx order config detectors answer chatCompletion =
      some (.ok response)) :
    ∃ results, response.warnings = chatCompletion.warnings ++
      noContentWarnings (choicesOf chatCompletion) ++ unsuitableOutputWarnings results := by
  obtain ⟨groups, -, h⟩ := Option.bind_eq_some_iff.mp h
  obtain ⟨tasks, -, h⟩ := Option.bind_eq_some_iff.mp h
  cases hdetections : answered (fun task => answer task.request) tasks with
  | error error =>
    rw [hdetections] at h
    simp [Except.map] at h
  | ok detections =>
    rw [hdetections] at h
    refine ⟨resultsOf detections, ?_⟩
    rw [← Except.ok.inj (Option.some.inj h)]
    exact warnings_addOutputDetections _ _ _

theorem emptyOutputWarning_injective : Function.Injective emptyOutputWarning := by
  intro index index' h
  have hmessage := congrArg CompletionDetectionWarning.message h
  simp only [emptyOutputWarning, String.append_assoc, String.append_right_inj,
    String.append_left_inj] at hmessage
  -- reading the digits gives the index back
  simpa using congrArg (fun digits => Nat.ofDigitChars 10 digits.toList 0) hmessage

/-- Which choices the response has a warning for. -/
theorem emptyOutputWarning_mem_iff {order : VisitOrder (ChoiceIndex × List Detection)}
    {answer : WholeDocRequest → Except Error (List Detection)}
    {chatCompletion response : ChatCompletion} {index : ChoiceIndex}
    (h : handleOutputDetection ctx order config detectors answer chatCompletion =
      some (.ok response)) :
    emptyOutputWarning index ∈ response.warnings ↔
      emptyOutputWarning index ∈ chatCompletion.warnings ∨
        ∃ choice ∈ chatCompletion.choices, choice.index = index ∧
          choice.message.hasContent = false := by
  obtain ⟨results, hwarnings⟩ := warnings_of_handleOutputDetection h
  -- the other warning that is added has another reason
  have hunsuitable : emptyOutputWarning index ∉ unsuitableOutputWarnings results := by
    rw [unsuitableOutputWarnings]
    split_ifs <;> simp [emptyOutputWarning]
  rw [hwarnings, List.mem_append, List.mem_append, or_iff_left hunsuitable]
  apply or_congr_right
  constructor
  · intro hmem
    obtain ⟨choice, hchoice, heq⟩ := List.mem_map.mp hmem
    obtain ⟨hchoice, hempty⟩ := List.mem_filter.mp hchoice
    obtain ⟨choice, hmem, rfl⟩ := List.mem_map.mp hchoice
    exact ⟨choice, hmem, emptyOutputWarning_injective heq, by simpa using hempty⟩
  · rintro ⟨choice, hchoice, rfl, hempty⟩
    refine List.mem_map.mpr ⟨(choice.index, choice.message), ?_, rfl⟩
    exact List.mem_filter.mpr ⟨List.mem_map_of_mem hchoice, by simp [hempty]⟩

end Submitted

end ChatUnary

open ChatStreaming ChatUnary

/-- **Text of chat completions.** With text contents detectors, all choices of a chat completion
are covered exactly when every content that is a list of parts has one text that is not empty, or
none and there is a warning for the index anyway: the chat completion comes with one, or this
choice or another one of the same index has no content. -/
theorem choiceCovered_iff {ctx : WholeDocContext} {config : OrchestratorConfig}
    {detectors : IterMap DetectorId DetectorParams}
    {groups : IterMap DetectorType (IterMap DetectorId DetectorParams)}
    {order : VisitOrder (ChoiceIndex × List Detection)}
    {answer : WholeDocRequest → Except Error (List Detection)}
    {chatCompletion response : ChatCompletion}
    (hvalid : validateDetectors detectors config.detectors [.textContents, .textChat] true = .ok ())
    (hcontents : ∃ detectorId ∈ detectors.keys, ∃ detector,
      config.detector detectorId = some detector ∧ detector.type = .textContents)
    (hgroups : groupDetectorsByType config detectors = some groups)
    (hresponse : handleOutputDetection ctx order config detectors answer chatCompletion =
      some (.ok response)) :
    (∀ choice ∈ chatCompletion.choices, ChoiceCovered ctx groups response choice) ↔
      ∀ choice ∈ chatCompletion.choices, ∀ parts, choice.message.content = some (.array parts) →
        (nonEmptyTexts parts).length = 1 ∨
          nonEmptyTexts parts = [] ∧ (emptyOutputWarning choice.index ∈ chatCompletion.warnings ∨
            ∃ other ∈ chatCompletion.choices, other.index = choice.index ∧
              other.message.hasContent = false) := by
  have htypes := mem_supportedTypes_of_validateDetectors hvalid hgroups
  have hsubmitted : ∀ choice, contentsSubmitted ctx groups choice = _ :=
    contentsSubmitted_eq htypes ((mem_keys_groupDetectorsByType hgroups).mpr hcontents)
  refine forall₂_congr fun choice hchoice => ?_
  have hleft : contentsSubmitted ctx groups choice = [[(0, choice.message.allText)]] ↔
      choice.message.text = some choice.message.allText := by
    rw [hsubmitted]
    cases choice.message.text <;> simp
  rw [ChoiceCovered, hleft, emptyOutputWarning_mem_iff hresponse]
  -- only content in parts can have text that is not examined
  by_cases harray : ∃ parts, choice.message.content = some (.array parts)
  · obtain ⟨parts, hparts⟩ := harray
    rw [text_eq_some_allText_iff_of_array hparts, allText_eq_empty_iff_of_array hparts, hparts]
    simp only [Option.some_inj, Content.array.injEq, forall_eq']
  · push Not at harray
    refine iff_of_true ?_ fun parts hparts => absurd hparts (harray parts)
    rcases text_eq_some_allText_or harray with htext | ⟨hempty, hcontent⟩
    · exact Or.inl htext
    · exact Or.inr ⟨hempty, Or.inr ⟨choice, hchoice, rfl, hcontent⟩⟩

/-- A chat completion whose content is made of the given texts. -/
def partsCompletion (texts : List String) : ChatCompletion :=
  { choices := [{ message :=
      { role := .assistant
        content := some (.array (texts.map fun text => { text := some text })) } }] }

theorem choiceCovered_singlePart :
    ∃ groups response,
      groupDetectorsByType (documentRequest []).config (documentRequest []).outputDetectors =
        some groups ∧
      handleOutputDetection {} .listed (documentRequest []).config
        (documentRequest []).outputDetectors reportsGreeting (partsCompletion ["", "Hi"]) =
          some (.ok response) ∧
      ∀ choice ∈ (partsCompletion ["", "Hi"]).choices, ChoiceCovered {} groups response choice := by
  have hvalid : validateDetectors (documentRequest []).outputDetectors
      (documentRequest []).config.detectors [.textContents, .textChat] true = .ok () := by decide
  have hresponse : ∃ response, handleOutputDetection {} .listed (documentRequest []).config
      (documentRequest []).outputDetectors reportsGreeting (partsCompletion ["", "Hi"]) =
        some (.ok response) := ⟨_, rfl⟩
  obtain ⟨response, hresponse⟩ := hresponse
  refine ⟨_, response, rfl, hresponse, ?_⟩
  refine (choiceCovered_iff hvalid ?_ rfl hresponse).mpr ?_
  · exact ⟨"hap", by decide, _, rfl, rfl⟩
  · intro choice hchoice parts hparts
    obtain rfl := List.mem_singleton.mp hchoice
    obtain rfl := Content.array.inj (Option.some.inj hparts)
    exact Or.inl (by decide)

/-- Of two text parts, the second is neither examined nor warned about. -/
theorem not_choiceCovered_twoParts :
    ∃ groups response,
      validateDetectors (documentRequest []).outputDetectors (documentRequest []).config.detectors
        [.textContents, .textChat] true = .ok () ∧
      groupDetectorsByType (documentRequest []).config (documentRequest []).outputDetectors =
        some groups ∧
      handleOutputDetection {} .listed (documentRequest []).config
        (documentRequest []).outputDetectors reportsGreeting (partsCompletion ["Hi", "Yo"]) =
          some (.ok response) ∧
      ¬ ∀ choice ∈ (partsCompletion ["Hi", "Yo"]).choices,
        ChoiceCovered {} groups response choice := by
  refine ⟨_, _, by decide, rfl, rfl, ?_⟩
  intro hcovered
  rcases hcovered _ List.mem_cons_self with hsubmitted | ⟨hempty, -⟩
  · revert hsubmitted
    decide
  · revert hempty
    decide

end GuardrailsOrchestrator
