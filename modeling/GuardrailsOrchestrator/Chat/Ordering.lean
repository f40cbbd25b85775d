import GuardrailsOrchestrator.Chat.Unary
import GuardrailsOrchestrator.TextChat

/-!
# The order of detections on a chat completion

The detections on a choice are to be reported with those that have a start first, sorted by it,
and the others after them, those of one detector together. Text contents detectors sort their
detections, and text chat detectors leave theirs together; but the two kinds are put one after
the other in the order in which the hash map of the groups is visited.

## Main definitions

* `OrderedByStart` — the order in which detections are to be reported
* `ChatUnary.ChatEnvironment` — the services and the times of their answers

## Main results

* `chat_output_ordered_iff` — when the detections of all choices are in order
-/

namespace GuardrailsOrchestrator

/-! ### The order of detections -/

/-- The detections with a start come first, sorted by it, and those of one detector are together
among the others. -/
def OrderedByStart (results : List Detection) : Prop :=
  ∃ spans others, results = spans ++ others ∧ (∀ d ∈ spans, d.start.isSome) ∧
    spans.Pairwise (fun d d' => startLe d d') ∧ (∀ d ∈ others, d.start = none) ∧
    others.Contiguous (·.detectorId)

section Order

variable {contents chat : List Detection}

theorem orderedByStart_nil : OrderedByStart [] :=
  ⟨[], [], rfl, by simp, .nil, by simp, List.contiguous_nil⟩

/-- Detections with a start can be followed by detections without. -/
theorem orderedByStart_append (hstart : ∀ d ∈ contents, d.start.isSome)
    (hsorted : contents.Pairwise fun d d' => startLe d d') (hnone : ∀ d ∈ chat, d.start = none)
    (htogether : chat.Contiguous (·.detectorId)) : OrderedByStart (contents ++ chat) :=
  ⟨contents, chat, rfl, hstart, hsorted, hnone, htogether⟩

/-- A detection without a start is not followed by one that has a start. -/
theorem OrderedByStart.eq_nil_or_eq_nil (h : OrderedByStart (chat ++ contents))
    (hstart : ∀ d ∈ contents, d.start.isSome) (hnone : ∀ d ∈ chat, d.start = none) :
    chat = [] ∨ contents = [] := by
  obtain ⟨spans, others, heq, hspans, -, hothers, -⟩ := h
  by_contra hne
  rw [not_or] at hne
  obtain ⟨first, rest, rfl⟩ := List.exists_cons_of_ne_nil hne.1
  obtain ⟨d, hd⟩ := List.exists_mem_of_ne_nil _ hne.2
  cases spans with
  | nil =>
    -- then nothing has a start
    have hd' : d.start = none := hothers d (by rw [← List.nil_append others, ← heq]; simp [hd])
    have hstart' := hstart d hd
    rw [hd'] at hstart'
    simp at hstart'
  | cons d' spans =>
    obtain ⟨rfl, -⟩ : first = d' ∧ rest ++ contents = spans ++ others := by simpa using heq
    have hstart' := hspans first List.mem_cons_self
    rw [hnone first List.mem_cons_self] at hstart'
    simp at hstart'

/-- Detections without a start may stand before detections with one only if there are none of
either. -/
theorem orderedByStart_append_iff (hstart : ∀ d ∈ contents, d.start.isSome)
    (hsorted : contents.Pairwise fun d d' => startLe d d') (hnone : ∀ d ∈ chat, d.start = none)
    (htogether : chat.Contiguous (·.detectorId)) :
    OrderedByStart (chat ++ contents) ↔ chat = [] ∨ contents = [] := by
  constructor
  · intro h
    exact h.eq_nil_or_eq_nil hstart hnone
  · rintro (rfl | rfl)
    · rw [List.nil_append, ← List.append_nil contents]
      exact orderedByStart_append hstart hsorted hnone htogether
    · rw [List.append_nil, ← List.nil_append chat]
      exact orderedByStart_append hstart hsorted hnone htogether

end Order

/-! ### What the services answer -/

namespace ChatUnary

open ChatStreaming

/-- The result of a spawned task. A task that panics ends in an error; the rest of its message is
that of the runtime. -/
def joined {α : Type} : Except Failure α → Except Error α
  | .ok a => .ok a
  | .error (.error error) => .error error
  | .error .panic => .error (.other "task panicked")

theorem joined_eq_ok_iff {α : Type} {result : Except Failure α} {a : α} :
    joined result = .ok a ↔ result = .ok a := by
  rcases result with (error | _) | a' <;> simp [joined]

/-- The services, as the tasks of each choice find them, and the times at which they answer. A
service may answer the same request differently for two choices. -/
structure ChatEnvironment where
  config : OrchestratorConfig
  services : ChoiceIndex → Context
  /-- There is one configuration. -/
  config_services : ∀ c, (services c).config = config
  chatClient : ChoiceIndex → DetectorId → Option ChatDetectorClient
  chunkTimes : ChoiceIndex → ℕ → ℕ → ℕ := fun _ _ _ => 0
  detectTimes : ChoiceIndex → ℕ → ℕ := fun _ _ => 0
  chatTimes : ChoiceIndex → ℕ → ℕ := fun _ _ => 0

variable (env : ChatEnvironment)

/-- What a task returns. -/
def ChatEnvironment.answer (task : WholeDocTask) : Except Error (List Detection) :=
  let c := task.choiceIndex
  match task.request with
  | .textContents detectors contents =>
    joined (textContentsDetections (env.services c) (env.chunkTimes c) (env.detectTimes c)
      detectors contents)
  | .textChat detectors messages tools =>
    joined (textChatDetections env.config (env.chatClient c) messages tools (env.chatTimes c)
      detectors)

variable {env} {ctx : WholeDocContext} {choice : ChoiceIndex × Message} {task : WholeDocTask}
  {detectors : IterMap DetectorId DetectorParams} {results : List Detection}

/-- What the task of text contents detectors returns has starts and is sorted. -/
theorem answer_textContents
    (htask : wholeDocTask ctx choice (.textContents, detectors) = some (some task))
    (h : env.answer task = .ok results) :
    (∀ d ∈ results, d.start.isSome) ∧ results.Pairwise fun d d' => startLe d d' := by
  obtain ⟨contentText, -, rfl⟩ := Option.map_eq_some_iff.mp (Option.some.inj htask)
  exact textContentsDetections_sorted (joined_eq_ok_iff.mp h)

/-- What the task of text chat detectors returns has no starts, with the detections of one
detector together. -/
theorem answer_textChat
    (htask : wholeDocTask ctx choice (.textChat, detectors) = some (some task))
    (h : env.answer task = .ok results) :
    (∀ d ∈ results, d.start = none) ∧ results.Contiguous (·.detectorId) := by
  obtain rfl := Option.some.inj (Option.some.inj htask)
  exact resultsDetections_spec (joined_eq_ok_iff.mp h)

/-! ### One choice -/

/-- The tasks for a choice, with the groups as they are visited. -/
def choiceTasks (ctx : WholeDocContext)
    (visited : List (DetectorType × IterMap DetectorId DetectorParams))
    (choice : ChoiceIndex × Message) : List WholeDocTask :=
  visited.filterMap fun group => (wholeDocTask ctx choice group).join

/-- A task is of the type of its group. -/
theorem of_mem_choiceTasks {visited : List (DetectorType × IterMap DetectorId DetectorParams)}
    (h : task ∈ choiceTasks ctx visited choice) :
    task.choiceIndex = choice.1 ∧ ∃ group ∈ visited,
      wholeDocTask ctx choice group = some (some task) ∧ task.detectorType = group.1 := by
  obtain ⟨group, hgroup, htask⟩ := List.mem_filterMap.mp h
  have htask : wholeDocTask ctx choice group = some (some task) := Option.join_eq_some_iff.mp htask
  refine ⟨(contentText_of_wholeDocTask htask).1, group, hgroup, htask, ?_⟩
  rw [wholeDocTask] at htask
  split at htask
  · obtain ⟨contentText, -, rfl⟩ := Option.map_eq_some_iff.mp (Option.some.inj htask)
    symm
    assumption
  · obtain rfl := Option.some.inj (Option.some.inj htask)
    symm
    assumption
  · simp at htask

theorem detectorType_of_mem_choiceTasks {type : DetectorType}
    (h : task ∈ choiceTasks ctx [(type, detectors)] choice) : task.detectorType = type := by
  obtain ⟨-, group, hgroup, -, htype⟩ := of_mem_choiceTasks h
  rw [htype, List.mem_singleton.mp hgroup]

section Choice

variable {found : WholeDocTask → List Detection}
  {visited : List (DetectorType × IterMap DetectorId DetectorParams)}

/-- What text contents detectors find on a choice has starts and is sorted. -/
theorem flatMap_choiceTasks_textContents
    (hfound : ∀ task ∈ choiceTasks ctx [(.textContents, detectors)] choice,
      env.answer task = .ok (found task)) :
    (∀ d ∈ (choiceTasks ctx [(.textContents, detectors)] choice).flatMap found, d.start.isSome) ∧
      ((choiceTasks ctx [(.textContents, detectors)] choice).flatMap found).Pairwise
        fun d d' => startLe d d' := by
  cases htask : (wholeDocTask ctx choice (.textContents, detectors)).join with
  | none => simp [choiceTasks, htask]
  | some task =>
    have htasks : choiceTasks ctx [(.textContents, detectors)] choice = [task] := by
      simp [choiceTasks, htask]
    rw [htasks, List.flatMap_singleton]
    exact answer_textContents (Option.join_eq_some_iff.mp htask)
      (hfound task (by rw [htasks]; simp))

/-- What text chat detectors find on a choice has no starts, with the detections of one detector
together. -/
theorem flatMap_choiceTasks_textChat
    (hfound : ∀ task ∈ choiceTasks ctx [(.textChat, detectors)] choice,
      env.answer task = .ok (found task)) :
    (∀ d ∈ (choiceTasks ctx [(.textChat, detectors)] choice).flatMap found, d.start = none) ∧
      ((choiceTasks ctx [(.textChat, detectors)] choice).flatMap found).Contiguous
        (·.detectorId) := by
  obtain ⟨task, htask⟩ : ∃ task,
      wholeDocTask ctx choice (.textChat, detectors) = some (some task) := ⟨_, rfl⟩
  have htasks : choiceTasks ctx [(.textChat, detectors)] choice = [task] := by
    simp [choiceTasks, htask]
  rw [htasks, List.flatMap_singleton]
  exact answer_textChat htask (hfound task (by rw [htasks]; simp))

theorem choiceTasks_cons (group : DetectorType × IterMap DetectorId DetectorParams) :
    choiceTasks ctx (group :: visited) choice =
      choiceTasks ctx [group] choice ++ choiceTasks ctx visited choice := by
  rw [choiceTasks, ← List.singleton_append, List.filterMap_append]
  rfl

/-- With two types there are at most two groups. -/
theorem visited_cases (hnodup : (visited.map (·.1)).Nodup)
    (htypes : ∀ group ∈ visited, group.1 ∈ [DetectorType.textContents, .textChat]) :
    visited = [] ∨ (∃ detectors, visited = [(.textContents, detectors)]) ∨
      (∃ detectors, visited = [(.textChat, detectors)]) ∨
      (∃ detectors detectors', visited = [(.textContents, detectors), (.textChat, detectors')]) ∨
      ∃ detectors detectors', visited = [(.textChat, detectors), (.textContents, detectors')] := by
  match visited with
  | [] => exact Or.inl rfl
  | [(type, detectors)] =>
    rcases List.mem_pair.mp (htypes _ List.mem_cons_self) with rfl | rfl
    · exact Or.inr (Or.inl ⟨detectors, rfl⟩)
    · exact Or.inr (Or.inr (Or.inl ⟨detectors, rfl⟩))
  | (type, detectors) :: (type', detectors') :: rest =>
    have htype' := htypes _ (List.mem_cons_of_mem _ List.mem_cons_self)
    -- a third group would have the type of one of the first two
    have hrest : rest = [] := by
      rw [List.eq_nil_iff_forall_not_mem]
      intro group hgroup
      have hgroupType := htypes group (List.mem_cons_of_mem _ (List.mem_cons_of_mem _ hgroup))
      have hmem : group.1 ∈ rest.map (·.1) := List.mem_map_of_mem hgroup
      rcases List.mem_pair.mp (htypes _ List.mem_cons_self) with rfl | rfl <;>
      rcases List.mem_pair.mp htype' with rfl | rfl <;>
      rcases List.mem_pair.mp hgroupType with htype | htype <;>
      rw [htype] at hmem <;>
      simp_all
    subst hrest
    rcases List.mem_pair.mp (htypes _ List.mem_cons_self) with rfl | rfl <;>
    rcases List.mem_pair.mp htype' with rfl | rfl
    · simp at hnodup
    · exact Or.inr (Or.inr (Or.inr (Or.inl ⟨detectors, detectors', rfl⟩)))
    · exact Or.inr (Or.inr (Or.inr (Or.inr ⟨detectors, detectors', rfl⟩)))
    · simp at hnodup

/-- The detections on a choice are in order unless text chat detectors come first and both kinds
of detectors find something. -/
theorem orderedByStart_choice_iff (hnodup : (visited.map (·.1)).Nodup)
    (htypes : ∀ group ∈ visited, group.1 ∈ [DetectorType.textContents, .textChat])
    (hfound : ∀ task ∈ choiceTasks ctx visited choice, env.answer task = .ok (found task)) :
    OrderedByStart ((choiceTasks ctx visited choice).flatMap found) ↔
      (visited.map (·.1) = [.textChat, .textContents] →
        ∀ task ∈ choiceTasks ctx visited choice, ∀ task' ∈ choiceTasks ctx visited choice,
          task.detectorType = .textChat → task'.detectorType = .textContents →
            found task = [] ∨ found task' = []) := by
  -- at most two groups are visited, and only one order of them can be wrong
  rcases visited_cases hnodup htypes with rfl | ⟨detectors, rfl⟩ | ⟨detectors, rfl⟩ |
    ⟨detectors, detectors', rfl⟩ | ⟨detectors, detectors', rfl⟩
  · exact iff_of_true orderedByStart_nil (by simp)
  · refine iff_of_true ?_ (by simp)
    obtain ⟨hstart, hsorted⟩ := flatMap_choiceTasks_textContents hfound
    rw [← List.append_nil (List.flatMap _ _)]
    exact orderedByStart_append hstart hsorted (by simp) List.contiguous_nil
  · refine iff_of_true ?_ (by simp)
    obtain ⟨hnone, htogether⟩ := flatMap_choiceTasks_textChat hfound
    rw [← List.nil_append (List.flatMap _ _)]
    exact orderedByStart_append (by simp) .nil hnone htogether
  · refine iff_of_true ?_ (by simp)
    rw [choiceTasks_cons, List.forall_mem_append] at hfound
    obtain ⟨hstart, hsorted⟩ := flatMap_choiceTasks_textContents hfound.1
    obtain ⟨hnone, htogether⟩ := flatMap_choiceTasks_textChat hfound.2
    rw [choiceTasks_cons, List.flatMap_append]
    exact orderedByStart_append hstart hsorted hnone htogether
  · rw [choiceTasks_cons, List.forall_mem_append] at hfound
    obtain ⟨hstart, hsorted⟩ := flatMap_choiceTasks_textContents hfound.2
    obtain ⟨hnone, htogether⟩ := flatMap_choiceTasks_textChat hfound.1
    rw [choiceTasks_cons, List.flatMap_append,
      orderedByStart_append_iff hstart hsorted hnone htogether, List.flatMap_eq_nil_iff,
      List.flatMap_eq_nil_iff]
    constructor
    · -- a task of either type is that of the group of its type
      intro hnil _ task htask task' htask' htype htype'
      have htask := (List.mem_append.mp htask).resolve_right fun h => by
        simp [detectorType_of_mem_choiceTasks h] at htype
      have htask' := (List.mem_append.mp htask').resolve_left fun h => by
        simp [detectorType_of_mem_choiceTasks h] at htype'
      exact hnil.imp (· task htask) (· task' htask')
    · intro h
      by_contra hne
      simp only [not_or, not_forall] at hne
      obtain ⟨⟨task, htask, hne⟩, task', htask', hne'⟩ := hne
      rcases h rfl task (List.mem_append_left _ htask) task' (List.mem_append_right _ htask')
        (detectorType_of_mem_choiceTasks htask) (detectorType_of_mem_choiceTasks htask') with
        hnil | hnil
      · exact hne hnil
      · exact hne' hnil

end Choice

/-! ### All choices -/

/-- If the choices have distinct indices, what is detected on a choice is what its tasks find. -/
theorem forall_detectedOn_iff {choices : List (ChoiceIndex × Message)}
    {visited : List (DetectorType × IterMap DetectorId DetectorParams)}
    {found : WholeDocTask → List Detection} {P : List Detection → Prop}
    (hnodup : (choices.map (·.1)).Nodup) (hnil : P []) :
    (∀ c, P (detectedOn c (resultsOf ((choices.flatMap (choiceTasks ctx visited)).map
      fun task => (task, found task))))) ↔
        ∀ choice ∈ choices, P ((choiceTasks ctx visited choice).flatMap found) := by
  have hdetected : ∀ c, detectedOn c (resultsOf ((choices.flatMap (choiceTasks ctx visited)).map
      fun task => (task, found task))) =
        ((choices.flatMap (choiceTasks ctx visited)).filter (·.choiceIndex = c)).flatMap found := by
    intro c
    rw [resultsOf, List.map_map, detectedOn, List.filter_map, List.flatMap_map]
    rfl
  have hkey : ∀ choice ∈ choices, ∀ task ∈ choiceTasks ctx visited choice,
      task.choiceIndex = choice.1 := fun choice _ task htask => (of_mem_choiceTasks htask).1
  -- the indices are distinct, so the results of an index are those of one choice
  have hchoice : ∀ choice ∈ choices, (choices.flatMap (choiceTasks ctx visited)).filter
      (·.choiceIndex = choice.1) = choiceTasks ctx visited choice :=
    fun choice hmem => List.filter_flatMap_of_nodup_map hnodup hkey hmem
  simp only [hdetected]
  constructor
  · intro h choice hmem
    rw [← hchoice choice hmem]
    exact h choice.1
  · intro h c
    by_cases hc : ∃ choice ∈ choices, choice.1 = c
    · obtain ⟨choice, hmem, rfl⟩ := hc
      rw [hchoice choice hmem]
      exact h choice hmem
    · -- no task is for another index
      have hnone : (choices.flatMap (choiceTasks ctx visited)).filter (·.choiceIndex = c) = [] := by
        rw [List.filter_eq_nil_iff]
        intro task htask heq
        obtain ⟨choice, hmem, htask⟩ := List.mem_flatMap.mp htask
        exact hc ⟨choice, hmem, (hkey choice hmem task htask).symm.trans (of_decide_eq_true heq)⟩
      rw [hnone]
      exact hnil

/-- If the choices have distinct indices, tasks for the same index are for the same choice. -/
theorem forall_pairs_of_choice_iff {choices : List (ChoiceIndex × Message)}
    {visited : List (DetectorType × IterMap DetectorId DetectorParams)}
    {P : WholeDocTask → WholeDocTask → Prop} (hnodup : (choices.map (·.1)).Nodup) :
    (∀ choice ∈ choices, ∀ task ∈ choiceTasks ctx visited choice,
      ∀ task' ∈ choiceTasks ctx visited choice, P task task') ↔
        ∀ task ∈ choices.flatMap (choiceTasks ctx visited),
          ∀ task' ∈ choices.flatMap (choiceTasks ctx visited),
            task.choiceIndex = task'.choiceIndex → P task task' := by
  constructor
  · intro h task htask task' htask' hindex
    obtain ⟨choice, hchoice, htask⟩ := List.mem_flatMap.mp htask
    obtain ⟨choice', hchoice', htask'⟩ := List.mem_flatMap.mp htask'
    -- tasks with the same index are of the same choice
    obtain rfl : choice = choice' := List.inj_on_of_nodup_map hnodup hchoice hchoice'
      (((of_mem_choiceTasks htask).1.symm.trans hindex).trans (of_mem_choiceTasks htask').1)
    exact h choice hchoice task htask task' htask'
  · intro h choice hchoice task htask task' htask'
    exact h task (List.mem_flatMap.mpr ⟨choice, hchoice, htask⟩) task'
      (List.mem_flatMap.mpr ⟨choice, hchoice, htask'⟩)
      ((of_mem_choiceTasks htask).1.trans (of_mem_choiceTasks htask').1.symm)

end ChatUnary

open ChatStreaming ChatUnary

/-- **The order of detections.** The detections on the choices of a chat completion are in order
exactly if the group of text chat detectors is not visited before that of text contents detectors,
or on every choice one of the two groups finds nothing. -/
theorem chat_output_ordered_iff {env : ChatEnvironment} {ctx : WholeDocContext}
    {order : VisitOrder (ChoiceIndex × List Detection)}
    {detectors : IterMap DetectorId DetectorParams}
    {groups : IterMap DetectorType (IterMap DetectorId DetectorParams)}
    {chatCompletion response : ChatCompletion} {tasks : List WholeDocTask}
    (hvalid : validateDetectors detectors env.config.detectors [.textContents, .textChat] true =
      .ok ())
    (hindices : (chatCompletion.choices.map (·.index)).Nodup)
    (hdetections : chatCompletion.detections = none)
    (hgroups : groupDetectorsByType env.config detectors = some groups)
    (htasks : tasksOf ctx groups (choicesOf chatCompletion) = some tasks)
    (hresponse : handleOutputTasks ctx order env.config detectors env.answer chatCompletion =
      some (.ok response)) :
    (∀ entry ∈ (response.detections.getD {}).output, OrderedByStart entry.results) ↔
      ((ctx.groupOrder.visit groups.entries).map (·.1) = [.textChat, .textContents] →
        ∀ task ∈ tasks, ∀ task' ∈ tasks, task.choiceIndex = task'.choiceIndex →
          task.detectorType = .textChat → task'.detectorType = .textContents →
            env.answer task = .ok [] ∨ env.answer task' = .ok []) := by
  have htypes := mem_supportedTypes_of_validateDetectors hvalid hgroups
  have hperm := ctx.groupOrder.perm groups.entries
  have hvisited : ∀ group ∈ ctx.groupOrder.visit groups.entries,
      group.1 ∈ [DetectorType.textContents, .textChat] :=
    fun group hgroup => htypes _ (List.mem_map_of_mem (hperm.mem_iff.mp hgroup))
  have hnodup : ((ctx.groupOrder.visit groups.entries).map (·.1)).Nodup :=
    (hperm.map _).nodup_iff.mpr groups.nodup
  have hchoices : ((choicesOf chatCompletion).map (·.1)).Nodup := by
    rw [choicesOf, List.map_map]
    exact hindices
  have hspawned : (choicesOf chatCompletion).flatMap
      (choiceTasks ctx (ctx.groupOrder.visit groups.entries)) = tasks :=
    Option.some.inj ((tasksOf_eq_some htypes _).symm.trans htasks)
  simp only [handleOutputTasks, hgroups, htasks, Option.bind_eq_bind, Option.bind_some,
    hdetections] at hresponse
  -- from here on only the order in which the groups are visited matters
  generalize ctx.groupOrder.visit groups.entries = visited at hvisited hnodup hspawned ⊢
  subst hspawned
  cases hanswered : answered env.answer
      ((choicesOf chatCompletion).flatMap (choiceTasks ctx visited)) with
  | error error =>
    rw [hanswered] at hresponse
    simp [Except.map] at hresponse
  | ok detections =>
    rw [hanswered] at hresponse
    obtain ⟨found, hfound, rfl⟩ := exists_found_of_answered hanswered
    have hfound : ∀ choice ∈ choicesOf chatCompletion,
        ∀ task ∈ choiceTasks ctx visited choice, env.answer task = .ok (found task) :=
      fun choice hchoice task htask => hfound task (List.mem_flatMap.mpr ⟨choice, hchoice, htask⟩)
    rw [← Except.ok.inj (Option.some.inj hresponse)]
    change (∀ entry ∈ ((addOutputDetections order _ (none, _)).1.getD {}).output,
      OrderedByStart entry.results) ↔ _
    rw [forall_output_addOutputDetections_iff _ _ _ orderedByStart_nil,
      forall_detectedOn_iff hchoices orderedByStart_nil, ← forall_pairs_of_choice_iff hchoices]
    have hchoice : ∀ choice ∈ choicesOf chatCompletion, _ := fun choice hchoice =>
      orderedByStart_choice_iff hnodup hvisited (hfound choice hchoice)
    constructor
    · intro h hfirst choice hmem task htask task' htask'
      rw [hfound choice hmem task htask, hfound choice hmem task' htask', Except.ok.injEq,
        Except.ok.injEq]
      exact (hchoice choice hmem).mp (h choice hmem) hfirst task htask task' htask'
    · intro h choice hmem
      refine (hchoice choice hmem).mpr ?_
      intro hfirst task htask task' htask'
      have hempty := h hfirst choice hmem task htask task' htask'
      rwa [hfound choice hmem task htask, hfound choice hmem task' htask', Except.ok.injEq,
        Except.ok.injEq] at hempty

/-- A detector of each kind, both of which find something in everything. -/
def judgedEnvironment : ChatEnvironment where
  config :=
    { openai := some ⟨{ hostname := "localhost" }, none⟩
      detectors := ⟨[
        ("hap", ⟨{ hostname := "localhost" }, none, defaultChunkerId, 1, .textContents⟩),
        ("judge", ⟨{ hostname := "localhost" }, none, defaultChunkerId, 1, .textChat⟩)],
          by decide⟩ }
  services _ :=
    { config :=
        { openai := some ⟨{ hostname := "localhost" }, none⟩
          detectors := ⟨[
            ("hap", ⟨{ hostname := "localhost" }, none, defaultChunkerId, 1, .textContents⟩),
            ("judge", ⟨{ hostname := "localhost" }, none, defaultChunkerId, 1, .textChat⟩)],
              by decide⟩ }
      chunkerClient := fun _ => none
      detectorClient := fun _ => some fun _ contents _ => .ok (contents.map fun text =>
        [{ start := 0, stop := text.length, text, score := 1 }]) }
  config_services _ := rfl
  chatClient _ _ := some fun _ _ _ _ => .ok [{ detection := "risk", score := 1 }]

/-- Both detectors are requested. -/
def judgedDetectors : IterMap DetectorId DetectorParams :=
  ⟨[("hap", .empty), ("judge", .empty)], by decide⟩

theorem chat_output_ordered_listed :
    ∃ response, handleOutputTasks {} .listed judgedEnvironment.config judgedDetectors
        judgedEnvironment.answer twoMessagesCompletion = some (.ok response) ∧
      ∀ entry ∈ (response.detections.getD {}).output, OrderedByStart entry.results := by
  have hvalid : validateDetectors judgedDetectors judgedEnvironment.config.detectors
      [.textContents, .textChat] true = .ok () := by decide
  have hresponse : ∃ response, handleOutputTasks {} .listed judgedEnvironment.config
      judgedDetectors judgedEnvironment.answer twoMessagesCompletion = some (.ok response) :=
    ⟨_, rfl⟩
  obtain ⟨response, hresponse⟩ := hresponse
  refine ⟨response, hresponse, ?_⟩
  refine (chat_output_ordered_iff hvalid (by decide) rfl rfl rfl hresponse).mpr ?_
  intro hfirst
  revert hfirst
  decide

/-- If the groups are visited the other way round, the detection without a start comes first. -/
theorem not_chat_output_ordered_reversed :
    validateDetectors judgedDetectors judgedEnvironment.config.detectors
        [.textContents, .textChat] true = .ok () ∧
    ∃ response, handleOutputTasks { groupOrder := .reversed } .listed judgedEnvironment.config
        judgedDetectors judgedEnvironment.answer twoMessagesCompletion = some (.ok response) ∧
      ¬ ∀ entry ∈ (response.detections.getD {}).output, OrderedByStart entry.results := by
  refine ⟨by decide, _, rfl, ?_⟩
  intro hordered
  have hentry : OrderedByStart (
      [{ detectorId := some "judge", detection := "risk", score := 1 }] ++
      [{ start := some 0, stop := some 2, text := some "Hi", detectorId := some "hap",
         score := 1 }]) := hordered _ List.mem_cons_self
  simpa using hentry.eq_nil_or_eq_nil (by simp) (by simp)

end GuardrailsOrchestrator
