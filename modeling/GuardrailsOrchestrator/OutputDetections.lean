import GuardrailsOrchestrator.Config
import GuardrailsOrchestrator.OpenAi

/-!
# Output detections by choice

The end of output detection on completions that are known as a whole, which the two completion
endpoints share: the results of the detectors are grouped by choice and added to the completion,
with a warning if there are any of text contents detectors.

## Main results

* `outputOf_addOutputDetections` — every choice is given what was detected on it
* `filter_output_addOutputDetections` — it is given in one entry, if there is something
-/

namespace GuardrailsOrchestrator

/-- The results of the detectors of one type on a choice. -/
abbrev ChoiceDetections := ChoiceIndex × DetectorType × List Detection

/-- The detections that are reported for a choice. -/
def CompletionDetections.outputOf (c : ChoiceIndex) (detections : CompletionDetections) :
    List Detection :=
  (detections.output.filter (·.choiceIndex = c)).flatMap (·.results)

/-- What was detected on a choice. -/
def detectedOn (c : ChoiceIndex) (detections : List ChoiceDetections) : List Detection :=
  (detections.filter (·.1 = c)).flatMap (·.2.2)

/-- Add results to the detections of their choice. Choices without detections are left out. -/
def groupDetections (groups : IterMap ChoiceIndex (List Detection))
    (detections : ChoiceDetections) : IterMap ChoiceIndex (List Detection) :=
  if detections.2.2.isEmpty then groups
  else groups.insert detections.1 ((groups.get? detections.1).getD [] ++ detections.2.2)

/-- The detections by choice. -/
def groupDetectionsByChoice (detections : List ChoiceDetections) :
    IterMap ChoiceIndex (List Detection) :=
  detections.foldl groupDetections .empty

/-- Whether a text contents detector has detected something. -/
def unsuitableOutput (detections : List ChoiceDetections) : Bool :=
  detections.any fun (_, detectorType, detections) =>
    detectorType == .textContents && !detections.isEmpty

/-- The warning for such detections. -/
def unsuitableOutputWarnings (detections : List ChoiceDetections) :
    List CompletionDetectionWarning :=
  if unsuitableOutput detections then [⟨.unsuitableOutput, unsuitableOutputMessage⟩] else []

/-- Results that are made into the output of a completion. -/
def outputEntry (results : ChoiceIndex × List Detection) : CompletionOutputDetections :=
  { choiceIndex := results.1, results := results.2 }

/-- The detections and warnings of a completion after output detection, from those before. The
hash map of the groups is visited in the given order. -/
def addOutputDetections (order : VisitOrder (ChoiceIndex × List Detection))
    (detections : List ChoiceDetections)
    (completion : Option CompletionDetections × List CompletionDetectionWarning) :
    Option CompletionDetections × List CompletionDetectionWarning :=
  if detections.isEmpty then completion
  else
    let output := (order.visit (groupDetectionsByChoice detections).entries).map outputEntry
    (if output.isEmpty then completion.1 else some { output },
      completion.2 ++ unsuitableOutputWarnings detections)

/-! ### Groups -/

variable {detections : List ChoiceDetections} {c : ChoiceIndex}

theorem getD_get?_groupDetections (groups : IterMap ChoiceIndex (List Detection))
    (results : ChoiceDetections) :
    ((groupDetections groups results).get? c).getD [] =
      (groups.get? c).getD [] ++ if results.1 = c then results.2.2 else [] := by
  rw [groupDetections]
  split_ifs with hempty hc hc
  · simp [List.isEmpty_iff.mp hempty]
  · simp
  · simp [hc]
  · simp [Ne.symm hc]

/-- The group of a choice has everything that was detected on it. -/
theorem getD_get?_groupDetectionsByChoice :
    ((groupDetectionsByChoice detections).get? c).getD [] = detectedOn c detections := by
  have hfold : ∀ groups : IterMap ChoiceIndex (List Detection),
      ((detections.foldl groupDetections groups).get? c).getD [] =
        (groups.get? c).getD [] ++ detectedOn c detections := by
    induction detections with
    | nil => simp [detectedOn]
    | cons results detections ih =>
      intro groups
      rw [List.foldl_cons, ih, getD_get?_groupDetections, List.append_assoc]
      congr 1
      by_cases hc : results.1 = c <;> simp [detectedOn, hc]
  rw [groupDetectionsByChoice, hfold]
  rfl

/-- In a list with one entry at most for a choice, the detections of the choice are those of its
entry. -/
theorem outputOf_map_of_nodup {entries : List (ChoiceIndex × List Detection)}
    (h : (entries.map (·.1)).Nodup) :
    CompletionDetections.outputOf c { output := entries.map outputEntry } =
      ((entries.find? (·.1 = c)).map (·.2)).getD [] := by
  rw [CompletionDetections.outputOf, List.filter_map, List.flatMap_map]
  change (entries.filter (·.1 = c)).flatMap (·.2) = _
  -- the indices are distinct, so the first entry of an index is the only one
  induction entries with
  | nil => rfl
  | cons e entries ih =>
    obtain ⟨hnotMem, hnodup⟩ := List.nodup_cons.mp h
    by_cases hc : e.1 = c
    · have hothers : entries.filter (·.1 = c) = [] := by
        rw [List.filter_eq_nil_iff]
        intro e' he' heq
        exact hnotMem (List.mem_map.mpr ⟨e', he', (of_decide_eq_true heq).trans hc.symm⟩)
      rw [List.filter_cons_of_pos (by simpa using hc), hothers,
        List.find?_cons_of_pos (by simpa using hc)]
      simp
    · rw [List.filter_cons_of_neg (by simpa using hc), List.find?_cons_of_neg (by simpa using hc)]
      exact ih hnodup

/-- The entry of a choice is the same in whatever order the map is visited. -/
theorem outputOf_visit (order : VisitOrder (ChoiceIndex × List Detection))
    (groups : IterMap ChoiceIndex (List Detection)) :
    CompletionDetections.outputOf c { output := (order.visit groups.entries).map outputEntry } =
      (groups.get? c).getD [] := by
  have hperm := order.perm groups.entries
  have hnodup : ((order.visit groups.entries).map (·.1)).Nodup :=
    (hperm.map _).nodup_iff.mpr groups.nodup
  rw [outputOf_map_of_nodup hnodup]
  congr 1
  ext1 results
  change IterMap.get? ⟨_, hnodup⟩ c = some results ↔ groups.get? c = some results
  rw [IterMap.get?_eq_some_iff, IterMap.get?_eq_some_iff]
  exact hperm.mem_iff

/-- **Output by choice.** A completion without detections is given, for every choice, what was
detected on it. -/
theorem outputOf_addOutputDetections (order : VisitOrder (ChoiceIndex × List Detection))
    (detections : List ChoiceDetections) (warnings : List CompletionDetectionWarning)
    (c : ChoiceIndex) :
    ((addOutputDetections order detections (none, warnings)).1.getD {}).outputOf c =
      detectedOn c detections := by
  rw [addOutputDetections]
  split_ifs with hempty
  · rw [List.isEmpty_iff.mp hempty]
    rfl
  · rw [← getD_get?_groupDetectionsByChoice, ← outputOf_visit order]
    simp only
    split_ifs with houtput
    · rw [List.isEmpty_iff.mp houtput]
      rfl
    · rfl

theorem warnings_addOutputDetections (order : VisitOrder (ChoiceIndex × List Detection))
    (detections : List ChoiceDetections)
    (completion : Option CompletionDetections × List CompletionDetectionWarning) :
    (addOutputDetections order detections completion).2 =
      completion.2 ++ unsuitableOutputWarnings detections := by
  rw [addOutputDetections]
  split_ifs with hempty
  · rw [List.isEmpty_iff.mp hempty]
    exact (List.append_nil _).symm
  · rfl

/-! ### Entries -/

/-- There is a group for a choice exactly when something was detected on it. -/
theorem get?_groupDetectionsByChoice :
    (groupDetectionsByChoice detections).get? c =
      if detectedOn c detections = [] then none else some (detectedOn c detections) := by
  -- the groups never have an empty one
  have hfold : ∀ groups : IterMap ChoiceIndex (List Detection),
      groups.get? c ≠ some [] → (detections.foldl groupDetections groups).get? c ≠ some [] := by
    induction detections with
    | nil => exact fun groups h => h
    | cons results detections ih =>
      intro groups h
      apply ih
      rw [groupDetections]
      split_ifs with hempty
      · exact h
      · rw [IterMap.get?_insert]
        split_ifs with hc
        · intro heq
          exact hempty (List.isEmpty_iff.mpr (List.append_eq_nil_iff.mp (Option.some.inj heq)).2)
        · exact h
  have hne := hfold .empty (by simp)
  have hgetD : ((groupDetectionsByChoice detections).get? c).getD [] = detectedOn c detections :=
    getD_get?_groupDetectionsByChoice
  rw [groupDetectionsByChoice] at hgetD ⊢
  split_ifs with hnil
  · cases hget : (detections.foldl groupDetections .empty).get? c with
    | none => rfl
    | some results =>
      rw [hget, Option.getD_some, hnil] at hgetD
      exact absurd (hget.trans (congrArg some hgetD)) hne
  · cases hget : (detections.foldl groupDetections .empty).get? c with
    | none =>
      rw [hget] at hgetD
      exact absurd hgetD.symm hnil
    | some results =>
      rw [hget] at hgetD
      exact congrArg some hgetD

/-- **Entries by choice.** A completion without detections is given one entry for each choice on
which something was detected, with all that was detected on it, and none for any other. -/
theorem filter_output_addOutputDetections (order : VisitOrder (ChoiceIndex × List Detection))
    (detections : List ChoiceDetections) (warnings : List CompletionDetectionWarning)
    (c : ChoiceIndex) :
    ((addOutputDetections order detections (none, warnings)).1.getD {}).output.filter
        (·.choiceIndex = c) =
      if detectedOn c detections = [] then []
      else [{ choiceIndex := c, results := detectedOn c detections }] := by
  have houtput : ((addOutputDetections order detections (none, warnings)).1.getD {}).output =
      (order.visit (groupDetectionsByChoice detections).entries).map outputEntry := by
    rw [addOutputDetections]
    split_ifs with hempty
    · rw [List.isEmpty_iff.mp hempty]
      exact (List.map_eq_nil_iff.mpr (List.perm_nil.mp (order.perm []))).symm
    · simp only
      split_ifs with houtput
      · exact (List.isEmpty_iff.mp houtput).symm
      · rfl
  have hperm := order.perm (groupDetectionsByChoice detections).entries
  -- an index has an entry exactly if something was found for it
  have hget : (groupDetectionsByChoice detections).get? c =
      if detectedOn c detections = [] then none else some (detectedOn c detections) :=
    get?_groupDetectionsByChoice
  rw [houtput, List.filter_map]
  change ((order.visit _).filter fun e => e.1 = c).map outputEntry = _
  split_ifs at hget ⊢ with hnil
  · rw [List.map_eq_nil_iff, List.filter_eq_nil_iff]
    intro e he heq
    have hmem := hperm.mem_iff.mp he
    rw [← of_decide_eq_true heq, IterMap.get?_eq_some_iff.mpr hmem] at hget
    simp at hget
  · have hmem := hperm.mem_iff.mpr (IterMap.get?_eq_some_iff.mp hget)
    have hnodup := (hperm.map (·.1)).nodup_iff.mpr (groupDetectionsByChoice detections).nodup
    rw [List.filter_eq_singleton_of_nodup_map hnodup hmem]
    rfl

/-- What holds of all entries holds of what was detected on each choice. -/
theorem forall_output_addOutputDetections_iff (order : VisitOrder (ChoiceIndex × List Detection))
    (detections : List ChoiceDetections) (warnings : List CompletionDetectionWarning)
    {P : List Detection → Prop} (hnil : P []) :
    (∀ entry ∈ ((addOutputDetections order detections (none, warnings)).1.getD {}).output,
      P entry.results) ↔ ∀ c, P (detectedOn c detections) := by
  -- the output has one entry for each index with results, and none for the others
  have hfilter := filter_output_addOutputDetections order detections warnings
  constructor
  · intro h c
    by_cases hc : detectedOn c detections = []
    · rw [hc]
      exact hnil
    · have hmem : ({ choiceIndex := c, results := detectedOn c detections } :
          CompletionOutputDetections) ∈
            ((addOutputDetections order detections (none, warnings)).1.getD {}).output.filter
              (·.choiceIndex = c) := by
        rw [hfilter, if_neg hc]
        exact List.mem_cons_self
      exact h _ (List.mem_of_mem_filter hmem)
  · intro h entry hentry
    have hmem : entry ∈ ((addOutputDetections order detections
        (none, warnings)).1.getD {}).output.filter (·.choiceIndex = entry.choiceIndex) :=
      List.mem_filter.mpr ⟨hentry, by simp⟩
    rw [hfilter] at hmem
    split_ifs at hmem with hc
    · simp at hmem
    · rw [List.mem_singleton.mp hmem]
      exact h _

/-- A completion without detections is given some exactly when something was detected. -/
theorem addOutputDetections_eq_none_iff (order : VisitOrder (ChoiceIndex × List Detection))
    (detections : List ChoiceDetections) (warnings : List CompletionDetectionWarning) :
    (addOutputDetections order detections (none, warnings)).1 = none ↔
      ∀ results ∈ detections, results.2.2 = [] := by
  -- nothing is found for any index exactly if no task has found anything
  have hdetected : (∀ c, detectedOn c detections = []) ↔
      ∀ results ∈ detections, results.2.2 = [] := by
    simp only [detectedOn, List.flatMap_eq_nil_iff, List.mem_filter, decide_eq_true_eq, and_imp]
    exact ⟨fun h results hmem => h results.1 results hmem rfl, fun h c results hmem _ =>
      h results hmem⟩
  rw [← hdetected]
  constructor
  · intro hnone c
    have hfilter := filter_output_addOutputDetections order detections warnings c
    rw [hnone] at hfilter
    by_contra hne
    simp [hne] at hfilter
  · intro hnil
    rw [addOutputDetections]
    split_ifs with hempty
    · rfl
    · have hentries : (groupDetectionsByChoice detections).entries = [] := by
        rw [List.eq_nil_iff_forall_not_mem]
        rintro ⟨c, results⟩ hmem
        have hget := IterMap.get?_eq_some_iff.mpr hmem
        rw [get?_groupDetectionsByChoice, if_pos (hnil c)] at hget
        simp at hget
      simp only [hentries, List.perm_nil.mp (order.perm [])]
      rfl

/-! ### Answers in another order -/

/-- Two answers to the same request: the same detections in some order, or an error both
times. -/
inductive SameAnswer : Except Error (List Detection) → Except Error (List Detection) → Prop
  | ok {results results' : List Detection} (h : results.Perm results') :
    SameAnswer (.ok results) (.ok results')
  | error (error error' : Error) : SameAnswer (.error error) (.error error')

section Tasks

variable {T : Type} {tasks tasks' : List T}

/-- The results of tasks, or the first error. -/
def answered (answer : T → Except Error (List Detection)) (tasks : List T) :
    Except Error (List (T × List Detection)) :=
  tasks.mapM fun task => (answer task).map fun results => (task, results)

/-- If tasks are answered, each of them has results. -/
theorem exists_found_of_answered {answer : T → Except Error (List Detection)}
    {detections : List (T × List Detection)} (h : answered answer tasks = .ok detections) :
    ∃ found : T → List Detection, (∀ task ∈ tasks, answer task = .ok (found task)) ∧
      detections = tasks.map fun task => (task, found task) := by
  -- the join succeeds only if every task does
  have hfound : ∀ task ∈ tasks, answer task = .ok ((answer task).toOption.getD []) := by
    intro task htask
    obtain ⟨result, -, hresult⟩ := Except.exists_of_mapM_eq_ok h htask
    cases hanswer : answer task with
    | error error => simp [hanswer, Except.map] at hresult
    | ok results => rfl
  refine ⟨fun task => (answer task).toOption.getD [], hfound, ?_⟩
  have hmap : answered answer tasks =
      .ok (tasks.map fun task => (task, (answer task).toOption.getD [])) := by
    apply Except.mapM_eq_ok_map
    intro task htask
    rw [hfound task htask]
    rfl
  exact Except.ok.inj (h.symm.trans hmap)

/-- Tasks that are answered in the same way, in any order, all succeed, or some fail in either
order. -/
theorem answered_perm {answer answer' : T → Except Error (List Detection)}
    (htasks : tasks.Perm tasks') (hanswer : ∀ task, SameAnswer (answer task) (answer' task)) :
    (∃ error error', answered answer tasks = .error error ∧
      answered answer' tasks' = .error error') ∨
    ∃ results results' : T → List Detection,
      answered answer tasks = .ok (tasks.map fun task => (task, results task)) ∧
      answered answer' tasks' = .ok (tasks'.map fun task => (task, results' task)) ∧
      ∀ task ∈ tasks, (results task).Perm (results' task) := by
  by_cases hfails : ∃ task ∈ tasks, ∃ error, answer task = .error error
  · obtain ⟨task, htask, error, herror⟩ := hfails
    -- the task that fails for one of them fails for the other, with any error
    obtain ⟨error', herror'⟩ : ∃ error', answer' task = .error error' := by
      have hsame := hanswer task
      rw [herror] at hsame
      cases hanswer' : answer' task with
      | error error' => exact ⟨error', rfl⟩
      | ok results => rw [hanswer'] at hsame; cases hsame
    obtain ⟨e, he⟩ := Except.exists_mapM_eq_error htask
      (f := fun task => (answer task).map fun results => (task, results)) (by rw [herror]; rfl)
    obtain ⟨e', he'⟩ := Except.exists_mapM_eq_error (htasks.mem_iff.mp htask)
      (f := fun task => (answer' task).map fun results => (task, results)) (by rw [herror']; rfl)
    exact Or.inl ⟨e, e', he, he'⟩
  -- no task fails, so both have results for all of them
  · have hok : ∀ task ∈ tasks, ∃ results results', answer task = .ok results ∧
        answer' task = .ok results' ∧ results.Perm results' := by
      intro task htask
      have hsame := hanswer task
      cases hanswer : answer task with
      | error error => exact absurd ⟨task, htask, error, hanswer⟩ hfails
      | ok results =>
        rw [hanswer] at hsame
        cases hanswer' : answer' task with
        | error error' => rw [hanswer'] at hsame; cases hsame
        | ok results' =>
          rw [hanswer'] at hsame
          cases hsame with
          | ok h => exact ⟨results, results', rfl, rfl, h⟩
    refine Or.inr ⟨fun task => (answer task).toOption.getD [],
      fun task => (answer' task).toOption.getD [], ?_, ?_, ?_⟩
    · apply Except.mapM_eq_ok_map
      intro task htask
      obtain ⟨results, -, hresults, -⟩ := hok task htask
      simp [hresults, Except.map, Except.toOption]
    · apply Except.mapM_eq_ok_map
      intro task htask
      obtain ⟨-, results', -, hresults', -⟩ := hok task (htasks.mem_iff.mpr htask)
      simp [hresults', Except.map, Except.toOption]
    · intro task htask
      obtain ⟨results, results', hresults, hresults', hperm⟩ := hok task htask
      simpa [hresults, hresults', Except.toOption] using hperm

variable (choiceOf : T → ChoiceIndex) (typeOf : T → DetectorType)
  {results results' : T → List Detection}

/-- The same is detected on a choice. -/
theorem detectedOn_perm (htasks : tasks.Perm tasks')
    (hresults : ∀ task ∈ tasks, (results task).Perm (results' task)) :
    (detectedOn c (tasks.map fun task => (choiceOf task, typeOf task, results task))).Perm
      (detectedOn c (tasks'.map fun task => (choiceOf task, typeOf task, results' task))) := by
  simp only [detectedOn, List.filter_map, List.flatMap_map]
  exact (htasks.filter _).flatMap fun task htask => hresults task (List.mem_of_mem_filter htask)

theorem unsuitableOutputWarnings_eq (htasks : tasks.Perm tasks')
    (hresults : ∀ task ∈ tasks, (results task).Perm (results' task)) :
    unsuitableOutputWarnings (tasks.map fun task => (choiceOf task, typeOf task, results task)) =
      unsuitableOutputWarnings
        (tasks'.map fun task => (choiceOf task, typeOf task, results' task)) := by
  have hiff : unsuitableOutput (tasks.map fun task => (choiceOf task, typeOf task, results task)) =
      unsuitableOutput (tasks'.map fun task => (choiceOf task, typeOf task, results' task)) := by
    rw [Bool.eq_iff_iff]
    simp only [unsuitableOutput, List.any_map, List.any_eq_true, Function.comp_apply,
      Bool.and_eq_true, ← htasks.mem_iff]
    refine exists_congr fun task => and_congr_right fun htask => and_congr_right fun _ => ?_
    rw [(hresults task htask).isEmpty_eq]
  rw [unsuitableOutputWarnings, hiff, unsuitableOutputWarnings]

end Tasks

end GuardrailsOrchestrator
