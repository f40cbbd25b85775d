import GuardrailsOrchestrator.Gateway.Screening

/-!
# Examining the output of language models

A response is sent only if every call that was made for it has succeeded: a detector that fails is
never taken for one that finds nothing. If there are output detectors, each of them has been asked
after the model about every text of the response, with its own parameters, and what it has found is
in the response. Only of the content of a chat message that has several texts, text contents
detectors are asked about the first one alone.

## Main results

* `all_calls_succeeded` — the calls of a request that is answered
* `output_examined` — the texts of a response have been examined
-/

namespace GuardrailsOrchestrator

open Calls UnaryTask

/-! ### Calls that succeed -/

section Strict

variable {α R T : Type}

theorem strict_pure (a : α) : Strict Succeeded (pure a : Handler α) := (makes_pure a).strict

theorem strict_ofExcept (result : Except Failure α) :
    Strict Succeeded (.ofExcept result : Handler α) :=
  (makes_ofExcept result).strict

/-- An answer that leads to a value is no failure. -/
theorem strict_ask {call : Call} {read : call.Answer → Except Failure α}
    (h : ∀ answer a, read answer = .ok a → Succeeded ⟨call, answer⟩) :
    Strict Succeeded (ask call read) := by
  intro w a hrun
  obtain ⟨answer, rfl, hread⟩ := runs_ask_iff.mp hrun
  simpa using h answer a hread.symm

theorem strict_withClient {isPresent : Bool} {handler : Handler α} (h : Strict Succeeded handler) :
    Strict Succeeded (withClient isPresent handler) := by
  cases isPresent
  · exact strict_ofExcept _
  · exact h

theorem isOk_of_requestFailed {error : ClientError → Error} {answer : Except ClientError α} {a : α}
    (h : Handler.requestFailed error answer = .ok a) : answer.isOk = true := by
  cases answer with
  | error e => simp [Handler.requestFailed, Except.mapError] at h
  | ok a => rfl

theorem strict_detections (headers : HeaderMap) (call : DetectionCall) :
    Strict Succeeded (Handler.detections headers call) := by
  intro w found hrun
  obtain rfl := runs_detections_iff.mp hrun
  simp [Succeeded, Operation.succeeds, Except.isOk, Except.toBool]

/-- A value made of an answer. -/
theorem strict_askMap {A : Type} {call : Call} {answered : call.Answer → Except ClientError A}
    {error : ClientError → Error} {f : A → α}
    (h : ∀ answer, (answered answer).isOk = true → Succeeded ⟨call, answer⟩) :
    Strict Succeeded (ask call fun answer =>
      (Handler.requestFailed error (answered answer)).map f) := by
  refine strict_ask fun answer value hread => h answer ?_
  obtain ⟨a, hanswer, -⟩ := Except.map_eq_ok_iff.mp hread
  exact isOk_of_requestFailed hanswer

theorem strict_tokenize (headers : HeaderMap) (modelId text : String) :
    Strict Succeeded (Handler.tokenize headers modelId text) :=
  strict_askMap fun _ h => h

theorem strict_handleInputDetection {headers : HeaderMap}
    {detectors : IterMap DetectorId DetectorParams} {inputs : Except Failure (List (ℕ × String))}
    {tokens : Handler ℕ} {respond : List Detection → ℕ → Except Failure R}
    (htokens : Strict Succeeded tokens) :
    Strict Succeeded (handleInputDetection headers detectors inputs tokens respond) := by
  refine (strict_ofExcept _).bind fun parts => (strict_detections _ _).bind fun found => ?_
  split_ifs
  · exact strict_pure _
  · exact htokens.bind fun _ => (strict_ofExcept _).bind fun _ => strict_pure _

theorem joinAll_eq_ok_iff {ctx : GatewayContext}
    {results : List (Except Failure (List Detection))} {found : List (List Detection)} :
    joinAll ctx results = .ok found ↔ results = found.map .ok := by
  rw [joinAll]
  constructor
  · intro h
    split_ifs at h
    have hforall := Except.mapM_eq_ok_iff.mp h
    rw [← List.forall₂_eq_eq_eq, List.forall₂_map_right_iff]
    exact hforall
  · rintro rfl
    rw [if_neg (by simp), Except.mapM_eq_ok_iff, List.forall₂_map_left_iff, List.forall₂_same]
    exact fun _ _ => rfl

/-- Calls that are made for a list of tasks, and all succeed. -/
theorem ofFn_get_eq_map_zip {β γ : Type} {ts : List T} {answers : Fin ts.length → β}
    {results : List γ} {g : γ → β} (f : T → β → CallEvent) (h : List.ofFn answers = results.map g) :
    ts.length = results.length ∧ List.ofFn (fun i => f (ts.get i) (answers i)) =
      (ts.zip results).map fun p => f p.1 (g p.2) := by
  have hzip : List.ofFn (fun i => f (ts.get i) (answers i)) =
      List.zipWith f ts (List.ofFn answers) := by
    apply List.ext_getElem
    · simp
    · intro i hi hi'
      simp
  constructor
  · simpa using congrArg List.length h
  · rw [hzip, h, List.zipWith_map_right, List.map_zip_eq_zipWith]
    rfl

/-- What the tasks of output detection have found, if none of them has failed. -/
theorem exists_of_runs_handleOutputDetection {ctx : GatewayContext} {headers : HeaderMap}
    {tasks : Option (List T)} {call : T → DetectionCall}
    {respond : List (T × List Detection) → R} {w : List CallEvent} {response : R}
    (h : Runs (handleOutputDetection ctx headers tasks call respond) w (.ok response)) :
    ∃ found : List (T × List Detection), tasks = some (found.map (·.1)) ∧
      w.Perm (found.map fun p => ⟨⟨headers, .detect (call p.1)⟩, .ok p.2⟩) ∧
      response = respond found := by
  obtain ⟨ts, w₁, w₂, rfl, htasks, hspawned⟩ := runs_bind_ok_iff.mp h
  obtain ⟨answers, w₂, w₃, rfl, hcalls, hanswered⟩ := runs_bind_ok_iff.mp hspawned
  obtain ⟨results, w₃, w₄, rfl, hjoin, hjoined⟩ := runs_bind_ok_iff.mp hanswered
  obtain ⟨rfl, hsome⟩ := runs_ofExcept_iff.mp htasks
  obtain ⟨answers', hanswers, order⟩ := runs_callAll_iff.mp hcalls
  obtain rfl := Except.ok.inj hanswers
  obtain ⟨rfl, hall⟩ := runs_ofExcept_iff.mp hjoin
  obtain ⟨rfl, hresponse⟩ := runs_pure_iff.mp hjoined
  -- every task was answered, and the answers come back in the order of the tasks
  have hresults := joinAll_eq_ok_iff.mp hall.symm
  obtain ⟨hlength, hevents⟩ := ofFn_get_eq_map_zip (T := T)
    (fun t a => ⟨⟨headers, .detect (call t)⟩, a⟩) hresults
  refine ⟨ts.zip results, ?_, ?_, Except.ok.inj hresponse⟩
  · rw [Failure.unwrap_eq_ok_iff.mp hsome.symm, List.map_fst_zip hlength.le]
  · rw [List.append_nil, List.append_nil, List.nil_append]
    exact order.trans (.of_eq hevents)

theorem strict_handleOutputDetection {ctx : GatewayContext} {headers : HeaderMap}
    {tasks : Option (List T)} {call : T → DetectionCall}
    {respond : List (T × List Detection) → R} :
    Strict Succeeded (handleOutputDetection ctx headers tasks call respond) := by
  intro w response hrun event hevent
  obtain ⟨found, -, order, -⟩ := exists_of_runs_handleOutputDetection hrun
  obtain ⟨p, -, rfl⟩ := List.mem_map.mp (order.mem_iff.mp hevent)
  rfl

theorem strict_guarded {G : Type} {validated : Except Error Unit}
    {inputDetectors outputDetectors : IterMap DetectorId DetectorParams}
    {inputDetection : Handler (Option R)} {generation : Handler G}
    {outputDetection : G → Handler R} {withoutDetection : G → R}
    (hinput : Strict Succeeded inputDetection) (hgeneration : Strict Succeeded generation)
    (houtput : ∀ g, Strict Succeeded (outputDetection g)) :
    Strict Succeeded (guarded validated inputDetectors outputDetectors inputDetection generation
      outputDetection withoutDetection) := by
  intro w response hrun event hevent
  cases guardedRun_of_runs hrun with
  | flagged _ hflagged => exact hinput w _ hflagged event hevent
  | @generated w₁ w₂ w₃ g result hscreen hgenerate hout =>
    rcases List.mem_append.mp hevent with hevent | hevent
    · exact forall_of_screened hinput hscreen event hevent
    rcases List.mem_append.mp hevent with hevent | hevent
    · exact hgeneration w₂ g hgenerate event hevent
    · split_ifs at hout
      · exact strict_pure _ w₃ _ hout event hevent
      · exact houtput g w₃ _ hout event hevent

theorem strict_detection {ctx : GatewayContext} {headers : HeaderMap}
    {detectors : IterMap DetectorId DetectorParams} {supportedType : DetectorType}
    {call : DetectionCall} {respond : List Detection → Except Failure R} :
    Strict Succeeded (detection ctx headers detectors supportedType call respond) :=
  (strict_ofExcept _).bind fun _ => (strict_detections _ _).bind fun _ => strict_ofExcept _

end Strict

section Requests

variable {ctx : GatewayContext}

theorem strict_respond {R : Type} {response : R → UnaryResponse} {handler : Handler R}
    (h : Strict Succeeded handler) : Strict Succeeded (respond response handler) :=
  h.bind fun _ => strict_pure _

/-- **Fail closed.** Whatever the services answer, a request is answered only if all the calls that
were made for it have succeeded. -/
theorem all_calls_succeeded {task : UnaryTask} {w : List CallEvent} {response : UnaryResponse}
    (hrun : Runs (task.handle ctx) w (.ok response)) : ∀ event ∈ w, Succeeded event := by
  -- a handler whose parts stop at a failed call stops at one itself
  have hstrict : Strict Succeeded (task.handle ctx) := by
    cases task with
    | classificationWithGen task =>
      refine strict_respond (strict_guarded ?_ ?_ ?_)
      · exact strict_handleInputDetection (strict_withClient (strict_tokenize _ _ _))
      · exact strict_withClient (strict_ask fun _ _ => isOk_of_requestFailed)
      · exact fun g => (strict_detections _ _).bind fun _ => strict_ofExcept _
    | chatCompletions task =>
      refine strict_respond (strict_guarded ?_ ?_ ?_)
      · exact (strict_ofExcept _).bind fun _ => strict_handleInputDetection
          (strict_withClient (strict_ask fun _ _ => isOk_of_requestFailed))
      · exact strict_withClient (strict_ask fun _ _ => isOk_of_requestFailed)
      · exact fun g => strict_handleOutputDetection
    | completions task =>
      refine strict_respond (strict_guarded ?_ ?_ ?_)
      · exact strict_handleInputDetection
          (strict_withClient (strict_ask fun _ _ => isOk_of_requestFailed))
      · exact strict_withClient (strict_ask fun _ _ => isOk_of_requestFailed)
      · exact fun g => strict_handleOutputDetection
    | generationWithDetection task =>
      refine strict_respond ((strict_ofExcept _).bind fun _ => Strict.bind ?_ fun g => ?_)
      · exact strict_withClient (strict_ask fun _ _ => isOk_of_requestFailed)
      · exact (strict_detections _ _).bind fun _ => strict_pure _
    | textContent task | chat task | contextDocs task | detectionOnGeneration task =>
      exact strict_respond strict_detection
  exact hstrict w response hrun

theorem all_calls_succeeded_clear :
    ∃ w response, Runs (regexTask.handle regexContext) w (.ok response) ∧ w.length = 2 ∧
      ∀ event ∈ w, Succeeded event := by
  have hrun := runs_respond (servicesFinding []) (regexTask.handle regexContext)
  exact ⟨_, _, hrun, rfl, all_calls_succeeded hrun⟩

end Requests

/-! ### Groups of detectors -/

/-- A detector is in the group of its type, with its parameters. -/
def InGroup (config : OrchestratorConfig) (id : DetectorId) (params : DetectorParams)
    (groups : IterMap DetectorType (IterMap DetectorId DetectorParams)) : Prop :=
  ∃ detector group, config.detector id = some detector ∧
    groups.get? detector.type = some group ∧ group.get? id = some params

section Groups

variable {id : DetectorId} {params : DetectorParams}
  {groups : IterMap DetectorType (IterMap DetectorId DetectorParams)} {config : OrchestratorConfig}

/-- Adding another detector to its group keeps the detector. -/
theorem InGroup.insert (h : InGroup config id params groups) {type : DetectorType}
    {e : DetectorId × DetectorParams} (hne : e.1 ≠ id) :
    InGroup config id params
      (groups.insert type (((groups.get? type).getD .empty).insert e.1 e.2)) := by
  obtain ⟨detector, group, hdetector, hgroup, hget⟩ := h
  by_cases htype : detector.type = type
  · subst htype
    refine ⟨detector, group.insert e.1 e.2, hdetector, by simp [IterMap.get?_insert, hgroup], ?_⟩
    rw [IterMap.get?_insert, if_neg hne.symm, hget]
  · exact ⟨detector, group, hdetector, by rw [IterMap.get?_insert, if_neg htype, hgroup], hget⟩

/-- Every requested detector is in the group of its type. -/
theorem inGroup_of_groupDetectorsByType {detectors : IterMap DetectorId DetectorParams}
    (h : groupDetectorsByType config detectors = some groups)
    (hid : detectors.get? id = some params) : InGroup config id params groups := by
  have hfold : ∀ (l : List (DetectorId × DetectorParams)) groups', (l.map (·.1)).Nodup →
      (id, params) ∈ l ∨ InGroup config id params groups' ∧ id ∉ l.map (·.1) →
      l.foldlM (fun groups e => do
        let detector ← config.detector e.1
        let group := (groups.get? detector.type).getD .empty
        pure (groups.insert detector.type (group.insert e.1 e.2))) groups' = some groups →
      InGroup config id params groups := by
    intro l
    induction l with
    | nil =>
      intro groups' _ hmem heq
      obtain rfl : groups' = groups := by simpa using heq
      simpa using hmem
    | cons e l ih =>
      intro groups' hnodup hmem heq
      rw [List.foldlM_cons, Option.bind_eq_bind, Option.bind_eq_some_iff] at heq
      obtain ⟨groups'', hstep, heq⟩ := heq
      obtain ⟨detector, hdetector, hgroups''⟩ := Option.bind_eq_some_iff.mp hstep
      obtain rfl := Option.some.inj hgroups''
      obtain ⟨hnotMem, hnodup⟩ := List.nodup_cons.mp hnodup
      refine ih _ hnodup ?_ heq
      -- the detector is added here, or it comes later, or it is there already
      rcases hmem with hmem | ⟨hgroup, hnot⟩
      · rcases List.mem_cons.mp hmem with rfl | hmem
        · exact Or.inr ⟨⟨detector, _, hdetector, by rw [IterMap.get?_insert, if_pos rfl],
            by rw [IterMap.get?_insert, if_pos rfl]⟩, hnotMem⟩
        · exact Or.inl hmem
      · rw [List.map_cons, List.mem_cons, not_or] at hnot
        exact Or.inr ⟨hgroup.insert (Ne.symm hnot.1), hnot.2⟩
  exact hfold detectors.entries .empty detectors.nodup
    (Or.inl (IterMap.get?_eq_some_iff.mp hid)) h

end Groups

/-! ### Detections of a completion -/

/-- What the tasks have found is in the completion, whatever detections it had. -/
theorem exists_entry_of_addOutputDetections (order : VisitOrder (ChoiceIndex × List Detection))
    {detections : List ChoiceDetections} {results : ChoiceDetections} (hmem : results ∈ detections)
    {d : Detection} (hd : d ∈ results.2.2)
    (completion : Option CompletionDetections × List CompletionDetectionWarning) :
    ∃ entry ∈ ((addOutputDetections order detections completion).1.getD {}).output,
      d ∈ entry.results := by
  -- what is found for an index is grouped under it, and each group is an entry
  have hdetected : d ∈ detectedOn results.1 detections := by
    rw [detectedOn, List.mem_flatMap]
    exact ⟨results, by simpa using hmem, hd⟩
  rw [← getD_get?_groupDetectionsByChoice, ← outputOf_visit order,
    CompletionDetections.outputOf, List.mem_flatMap] at hdetected
  obtain ⟨entry, hentry, hd⟩ := hdetected
  have hentry := List.mem_of_mem_filter hentry
  have hoccurs := List.ne_nil_of_mem hentry
  refine ⟨entry, ?_, hd⟩
  rw [addOutputDetections, if_neg (by simpa using List.ne_nil_of_mem hmem)]
  dsimp only
  rw [if_neg (by simpa using hoccurs)]
  exact hentry

/-! ### Output detection -/

/-- The detectors that are asked. -/
def DetectionCall.detectors : DetectionCall → IterMap DetectorId DetectorParams
  | .textContents detectors _ => detectors
  | .textGeneration detectors _ _ => detectors
  | .textChat detectors _ _ => detectors
  | .textContext detectors _ _ _ => detectors

/-- The texts that are examined. Of a chat, they are those of the last message. -/
def DetectionCall.texts : DetectionCall → List String
  | .textContents _ inputs => inputs.map (·.2)
  | .textGeneration _ _ generatedText => [generatedText]
  | .textChat _ messages _ => messages.getLast?.toList.flatMap Message.texts
  | .textContext _ content _ _ => [content]

/-- The detectors of the output. -/
def UnaryTask.outputDetectors : UnaryTask → IterMap DetectorId DetectorParams
  | .classificationWithGen task => task.guardrailsConfig.outputDetectors
  | .chatCompletions task => task.request.detectors.output
  | .completions task => task.request.detectors.output
  | .generationWithDetection task => task.detectors
  | _ => .empty

/-- The response has these detections on the output. -/
def UnaryResponse.ReportsOutput (detections : List Detection) : UnaryResponse → Prop
  | .classified result => ∀ d ∈ detections,
    ∃ r ∈ result.tokenClassificationResults.output.getD [],
      TokenClassificationResult.ofDetection d = some r
  | .chatCompletion response => ∀ d ∈ detections,
    ∃ entry ∈ (response.detections.getD {}).output, d ∈ entry.results
  | .completion response => ∀ d ∈ detections,
    ∃ entry ∈ (response.detections.getD {}).output, d ∈ entry.results
  | .generation result => ∀ d ∈ detections, DetectionResult.ofDetection d ∈ result.detections
  | _ => False

/-- A detector was asked about a text, and the response has what it has found. -/
def Examined (headers : HeaderMap) (id : DetectorId) (params : DetectorParams) (text : String)
    (response : UnaryResponse) (w : List CallEvent) : Prop :=
  ∃ call detections, ⟨⟨headers, .detect call⟩, .ok detections⟩ ∈ w ∧
    call.detectors.get? id = some params ∧ text ∈ call.texts ∧ response.ReportsOutput detections

/-- The text is in the content of a chat message, but not the first text there, and the detector is
not given messages. -/
def NotSubmitted (config : OrchestratorConfig) (id : DetectorId) (text : String) :
    UnaryResponse → Prop
  | .chatCompletion response =>
    (∃ detector, config.detector id = some detector ∧ detector.type = .textContents) ∧
      ∃ choice ∈ response.choices, text ∈ choice.message.texts.tail
  | _ => False

section Examined

variable {ctx : GatewayContext} {id : DetectorId} {params : DetectorParams} {text : String}
  {w : List CallEvent}

namespace ChatCompletionsDetectionTask

variable {task : ChatCompletionsDetectionTask}

/-- For each detector and each text, there is a task, unless only the first text of a message is
submitted. -/
theorem exists_outputTask {chatCompletion : ChatCompletion}
    {tasks : List ChatStreaming.WholeDocTask}
    (h : task.outputTasks ctx chatCompletion = some tasks)
    (hid : task.request.detectors.output.get? id = some params)
    (htext : text ∈ (UnaryResponse.chatCompletion chatCompletion).texts) :
    (∃ t ∈ tasks, (detectionCall t.request).detectors.get? id = some params ∧
      text ∈ (detectionCall t.request).texts) ∨
        NotSubmitted ctx.config id text (.chatCompletion chatCompletion) := by
  obtain ⟨groups, hgroups, htasks⟩ := Option.bind_eq_some_iff.mp h
  obtain ⟨detector, group, hdetector, hgroup, hget⟩ := inGroup_of_groupDetectorsByType hgroups hid
  obtain ⟨choice, hchoice, htext⟩ := List.mem_flatMap.mp htext
  obtain ⟨rows, hrows, htasks⟩ := Option.bind_eq_some_iff.mp htasks
  obtain rfl := Option.some.inj htasks
  obtain ⟨row, hrow, hmapM⟩ := Option.exists_of_mapM_eq_some hrows
    (List.mem_map_of_mem hchoice)
  obtain ⟨t?, ht, htask⟩ := Option.exists_of_mapM_eq_some hmapM
    ((ctx.groupOrder.perm _).mem_iff.mpr (IterMap.get?_eq_some_iff.mp hgroup))
  -- every choice has a task for each group that is not skipped
  have hmem : ∀ t, t? = some t → t ∈ rows.flatten.filterMap (fun t => t) := by
    rintro t rfl
    exact List.mem_filterMap.mpr ⟨some t, List.mem_flatten.mpr ⟨row, hrow, ht⟩, rfl⟩
  cases htype : detector.type with
  | textContents =>
    rw [htype] at htask
    obtain rfl := Option.some.inj htask
    obtain ⟨first, rest, htexts⟩ := List.exists_cons_of_ne_nil (List.ne_nil_of_mem htext)
    have hfirst : choice.message.text = some first := by
      rw [← Message.head?_texts, htexts, List.head?_cons]
    rw [hfirst] at hmem
    rw [htexts] at htext
    rcases List.mem_cons.mp htext with rfl | hrest
    · exact Or.inl ⟨_, hmem _ rfl, hget, by simp [detectionCall, DetectionCall.texts]⟩
    · exact Or.inr ⟨⟨detector, hdetector, htype⟩, choice, hchoice, by rwa [htexts]⟩
  | textChat =>
    rw [htype] at htask
    obtain rfl := Option.some.inj htask
    exact Or.inl ⟨_, hmem _ rfl, hget, by simpa [detectionCall, DetectionCall.texts] using htext⟩
  | textGeneration | textContextDoc => simp [htype, ChatStreaming.wholeDocTask] at htask

theorem examined_of_runs {chatCompletion response : ChatCompletion}
    (h : Runs (task.outputDetection ctx chatCompletion) w (.ok response))
    (hid : task.request.detectors.output.get? id = some params)
    (htext : text ∈ (UnaryResponse.chatCompletion response).texts) :
    Examined task.headers id params text (.chatCompletion response) w ∨
      NotSubmitted ctx.config id text (.chatCompletion response) := by
  obtain ⟨found, htasks, order, rfl⟩ := exists_of_runs_handleOutputDetection h
  refine (exists_outputTask htasks hid htext).imp_left ?_
  rintro ⟨t, ht, hget, htext⟩
  obtain ⟨p, hp, rfl⟩ := List.mem_map.mp ht
  refine ⟨_, p.2, order.mem_iff.mpr (List.mem_map_of_mem hp), hget, htext, ?_⟩
  intro d hd
  exact exists_entry_of_addOutputDetections _ (List.mem_map_of_mem hp) hd _

end ChatCompletionsDetectionTask

namespace CompletionsDetectionTask

variable {task : CompletionsDetectionTask}

/-- For each detector and each text that is not empty, there is a task. -/
theorem exists_outputTask {completion : Completion} {tasks : List CompletionStreaming.WholeDocTask}
    (h : CompletionUnary.outputTasks (task.outputContext ctx) ctx.config
      task.request.detectors.output completion = some tasks)
    (hid : task.request.detectors.output.get? id = some params)
    (htext : text ∈ (UnaryResponse.completion completion).texts) (hne : text ≠ "") :
    ∃ t ∈ tasks, (detectionCall t.request).detectors.get? id = some params ∧
      text ∈ (detectionCall t.request).texts := by
  obtain ⟨groups, hgroups, htasks⟩ := Option.bind_eq_some_iff.mp h
  obtain ⟨detector, group, -, hgroup, hget⟩ := inGroup_of_groupDetectorsByType hgroups hid
  obtain ⟨choice, hchoice, rfl⟩ := List.mem_map.mp htext
  obtain ⟨rows, hrows, htasks⟩ := Option.bind_eq_some_iff.mp htasks
  obtain rfl := Option.some.inj htasks
  obtain ⟨row, hrow, hmapM⟩ := Option.exists_of_mapM_eq_some hrows
    (List.mem_map_of_mem (List.mem_filter.mpr ⟨hchoice, by simpa using hne⟩))
  obtain ⟨t, ht, htask⟩ := Option.exists_of_mapM_eq_some hmapM
    ((ctx.groupOrder.perm _).mem_iff.mpr (IterMap.get?_eq_some_iff.mp hgroup))
  -- a text that is not empty has a task for each group
  have hmem : t ∈ rows.flatten := List.mem_flatten.mpr ⟨row, hrow, ht⟩
  cases htype : detector.type with
  | textContents | textGeneration =>
    rw [htype] at htask
    obtain rfl := Option.some.inj htask
    exact ⟨_, hmem, hget, by simp [detectionCall, DetectionCall.texts]⟩
  | textChat | textContextDoc => simp [htype, CompletionStreaming.wholeDocTask] at htask

theorem examined_of_runs {completion response : Completion}
    (h : Runs (task.outputDetection ctx completion) w (.ok response))
    (hid : task.request.detectors.output.get? id = some params)
    (htext : text ∈ (UnaryResponse.completion response).texts) (hne : text ≠ "") :
    Examined task.headers id params text (.completion response) w := by
  obtain ⟨found, htasks, order, rfl⟩ := exists_of_runs_handleOutputDetection h
  obtain ⟨t, ht, hget, htext⟩ := exists_outputTask htasks hid htext hne
  obtain ⟨p, hp, rfl⟩ := List.mem_map.mp ht
  refine ⟨_, p.2, order.mem_iff.mpr (List.mem_map_of_mem hp), hget, htext, ?_⟩
  intro d hd
  exact exists_entry_of_addOutputDetections _ (List.mem_map_of_mem hp) hd _

end CompletionsDetectionTask

theorem ClassificationWithGenTask.examined_of_runs {task : ClassificationWithGenTask}
    {generation response : ClassifiedGeneratedTextResult}
    (h : Runs (task.outputDetection generation) w (.ok response))
    (hid : task.guardrailsConfig.outputDetectors.get? id = some params)
    (htext : text ∈ (UnaryResponse.classified response).texts) :
    Examined task.headers id params text (.classified response) w := by
  obtain ⟨detections, w₁, w₂, rfl, hdetect, hend⟩ := runs_bind_ok_iff.mp h
  obtain rfl := runs_detections_iff.mp hdetect
  obtain ⟨rfl, hresponse⟩ := runs_ofExcept_iff.mp hend
  rw [outputResponse] at hresponse
  refine ⟨_, detections, List.mem_cons_self, hid, ?_⟩
  -- what was found is in the response, and nothing else is changed
  split_ifs at hresponse with hempty
  · obtain rfl := Except.ok.inj hresponse
    have htext : response.generatedText = some text := Option.mem_toList.mp htext
    exact ⟨by simp [DetectionCall.texts, htext], by simp [UnaryResponse.ReportsOutput,
      List.isEmpty_iff.mp hempty]⟩
  · obtain ⟨output, houtput, hresponse⟩ := Except.bind_eq_ok_iff.mp hresponse.symm
    obtain rfl := Except.ok.inj hresponse
    have htext : generation.generatedText = some text := Option.mem_toList.mp htext
    refine ⟨by simp [DetectionCall.texts, htext], fun d hd => ?_⟩
    exact Option.exists_of_mapM_eq_some (Failure.unwrap_eq_ok_iff.mp houtput) hd

theorem GenerationWithDetectionTask.examined_of_runs {task : GenerationWithDetectionTask}
    {generation : ClassifiedGeneratedTextResult} {response : GenerationWithDetectionResult}
    (h : Runs (task.outputDetection generation) w (.ok response))
    (hid : task.detectors.get? id = some params)
    (htext : text ∈ (UnaryResponse.generation response).texts) :
    Examined task.headers id params text (.generation response) w := by
  obtain ⟨detections, w₁, w₂, rfl, hdetect, hend⟩ := runs_bind_ok_iff.mp h
  obtain rfl := runs_detections_iff.mp hdetect
  obtain ⟨rfl, hresponse⟩ := runs_pure_iff.mp hend
  obtain rfl := Except.ok.inj hresponse
  exact ⟨_, detections, List.mem_cons_self, hid, htext, fun d hd => List.mem_map_of_mem hd⟩

/-- A request whose response is not one to its input has asked the model, and has processed its
output. -/
theorem GuardedRun.exists_output {G R : Type} {validated : Except Error Unit}
    {hasInput isPresent : Bool} {inputDetection : Handler (Option R)} {call : Call}
    {read : call.Answer → Except Failure G}
    {output : G → Handler R} {response : R}
    (h : GuardedRun validated hasInput inputDetection (withClient isPresent (ask call read)) output
      w (.ok response))
    (hinput : ∀ w, ¬ Runs inputDetection w (.ok (some response))) :
    ∃ w₁ answer w₂ g, w = w₁ ++ ⟨call, answer⟩ :: w₂ ∧ Runs (output g) w₂ (.ok response) := by
  cases h with
  | flagged _ hrun => exact absurd hrun (hinput _)
  | @generated w₁ w₂ w₃ g result _ hgenerate hout =>
    rcases runs_withClient_ask_iff.mp hgenerate with ⟨-, answer, rfl, -⟩ | ⟨-, -, hfalse⟩
    · exact ⟨w₁, answer, w₃, g, rfl, hout⟩
    · simp at hfalse

/-- A response to the input was made from something that was found. -/
theorem InputRun.exists_of_some {R : Type} {headers : HeaderMap}
    {detectors : IterMap DetectorId DetectorParams} {inputs : Except Failure (List (ℕ × String))}
    {tokens : Handler ℕ} {respond : List Detection → ℕ → Except Failure R} {response : R}
    (h : InputRun headers detectors inputs tokens respond w (.ok (some response))) :
    ∃ detections n, respond detections n = .ok response := by
  generalize hresult : (.ok (some response) : Except Failure (Option R)) = result at h
  cases h with
  | unasked _ => simp at hresult
  | failed _ => simp at hresult
  | clear _ => simp at hresult
  | @flagged parts detections w count _ _ _ =>
    obtain ⟨n, -, hn⟩ := Except.bind_eq_ok_iff.mp hresult.symm
    cases hrespond : respond detections n with
    | error failure => simp [hrespond, Except.map] at hn
    | ok r =>
      obtain rfl : r = response := by simpa [hrespond, Except.map] using hn
      exact ⟨detections, n, hrespond⟩

/-- **Examined output.** Whatever the services answer, if a response has a text of a model that is
not empty, each of the output detectors was asked about it after the model was, with the parameters
of the request, and what it has found is in the response. The exception are the texts of a chat
message after its first one, which text contents detectors are not given. -/
theorem output_examined {task : UnaryTask} {response : UnaryResponse}
    (hrun : Runs (task.handle ctx) w (.ok response))
    (hid : task.outputDetectors.get? id = some params) (htext : text ∈ response.texts)
    (hne : text ≠ "") : ∃ w₁ event w₂, w = w₁ ++ event :: w₂ ∧
      task.generationCall = some event.1 ∧
        (Examined task.headers id params text response w₂ ∨
          NotSubmitted ctx.config id text response) := by
  have hsome : ∀ {detectors : IterMap DetectorId DetectorParams},
      detectors.get? id = some params → detectors.isEmpty = false := by
    intro detectors hget
    simpa [IterMap.isEmpty] using List.ne_nil_of_mem (IterMap.get?_eq_some_iff.mp hget)
  -- a response to the input has no text, so the model was asked and its output was processed
  cases task with
  | classificationWithGen task =>
    obtain ⟨response, hhandle, rfl⟩ := exists_runs_of_respond_ok hrun
    obtain ⟨w₁, answer, w₂, g, rfl, hout⟩ := (guardedRun_of_runs hhandle).exists_output (by
      intro w hinput
      obtain ⟨detections, n, hn⟩ := (inputRun_of_runs hinput).exists_of_some
      have hnil := (ClassificationWithGenTask.reportsInput_of_inputResponse hn).1
      simp [hnil] at htext)
    rw [show task.guardrailsConfig.outputDetectors.isEmpty = false from hsome hid] at hout
    exact ⟨w₁, _, w₂, rfl, rfl, Or.inl (task.examined_of_runs hout hid htext)⟩
  | chatCompletions task =>
    obtain ⟨response, hhandle, rfl⟩ := exists_runs_of_respond_ok hrun
    obtain ⟨w₁, answer, w₂, g, rfl, hout⟩ := (guardedRun_of_runs hhandle).exists_output (by
      intro w hinput
      obtain ⟨detections, n, hn⟩ := (task.inputRun_of_runs hinput).exists_of_some
      obtain rfl := Except.ok.inj hn
      simp [UnaryResponse.texts, ChatCompletionsDetectionTask.inputResponse] at htext)
    rw [show task.request.detectors.output.isEmpty = false from hsome hid] at hout
    exact ⟨w₁, _, w₂, rfl, rfl, task.examined_of_runs hout hid htext⟩
  | completions task =>
    obtain ⟨response, hhandle, rfl⟩ := exists_runs_of_respond_ok hrun
    obtain ⟨w₁, answer, w₂, g, rfl, hout⟩ := (guardedRun_of_runs hhandle).exists_output (by
      intro w hinput
      obtain ⟨detections, n, hn⟩ := (inputRun_of_runs hinput).exists_of_some
      obtain rfl := Except.ok.inj hn
      simp [UnaryResponse.texts, CompletionsDetectionTask.inputResponse] at htext)
    rw [show task.request.detectors.output.isEmpty = false from hsome hid] at hout
    exact ⟨w₁, _, w₂, rfl, rfl, Or.inl (task.examined_of_runs hout hid htext hne)⟩
  | generationWithDetection task =>
    obtain ⟨response, hhandle, rfl⟩ := exists_runs_of_respond_ok hrun
    obtain ⟨w₁, answer, w₂, g, rfl, hout⟩ := (task.guardedRun_of_runs hhandle).exists_output (by
      intro w hinput
      simp at hinput)
    exact ⟨w₁, _, w₂, rfl, rfl, Or.inl (task.examined_of_runs hout hid htext)⟩
  | textContent task | chat task | contextDocs task | detectionOnGeneration task =>
    simp [outputDetectors, IterMap.empty, IterMap.get?] at hid

/-- A request whose output is to be examined. -/
def outputRegexTask : UnaryTask :=
  .completions
    ⟨{ model := "granite"
       prompt := "Hi"
       detectors := { output := ⟨[("regex", .empty)], List.nodup_singleton "regex"⟩ } }, .empty⟩

theorem output_examined_regex :
    ∃ w response, Runs (outputRegexTask.handle regexContext) w (.ok response) ∧
      "Hello" ∈ response.texts ∧ ∃ w₁ event w₂, w = w₁ ++ event :: w₂ ∧
        outputRegexTask.generationCall = some event.1 ∧
        Examined outputRegexTask.headers "regex" .empty "Hello" response w₂ := by
  have hrun : Runs _ _ (.ok (UnaryResponse.completion
      { choices := [{ text := "Hello" }]
        detections := some { output :=
          [{ choiceIndex := 0, results := [{ detection := "EmailAddress" }] }] }
        warnings := [⟨.unsuitableOutput, unsuitableOutputMessage⟩] })) :=
    runs_respond (servicesFinding [{ detection := "EmailAddress" }])
      (outputRegexTask.handle regexContext)
  have htext : "Hello" ∈ ["Hello"] := by simp
  have hid : outputRegexTask.outputDetectors.get? "regex" = some .empty := rfl
  obtain ⟨w₁, event, w₂, hw, hcall, hexamined⟩ := output_examined hrun hid htext (by decide)
  exact ⟨_, _, hrun, htext, w₁, event, w₂, hw, hcall, hexamined.resolve_right id⟩

end Examined

end GuardrailsOrchestrator
