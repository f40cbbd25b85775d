import GuardrailsOrchestrator.TextContents.Spans

/-!
# What text contents detection returns

A detector is sent the texts of all chunks at once, and the lists of its answer are matched
with the chunks by position. Nothing compares the two lengths, so an answer that is too short
leaves chunks without one.

With services that answer each text on its own and do not fail, the order in which they answer
makes no difference: the result is sorted by where detections start, and has exactly what the
detectors report on the chunks of their chunkers.

## Main results

* `detectTextContents_skipsNothing_iff` — when every chunk is answered for
* `textContentsDetections_perm` — what is returned, for every order of the answers
-/

namespace GuardrailsOrchestrator

/-! ### Chunks that are answered for -/

/-- The detections are those of the answer, with one list of the answer for each chunk and one
chunk for each list. -/
def AnswersFor (detectorId : DetectorId) (applyChunkOffset : Bool) (chunks : List Chunk)
    (response : List (List ContentAnalysisResponse)) (detections : List Detection) : Prop :=
  ∃ pairs : List (Chunk × List ContentAnalysisResponse), pairs.map (·.1) = chunks ∧
    pairs.map (·.2) = response ∧ detections = pairs.flatMap fun (chunk, results) =>
      results.map (toDetection detectorId applyChunkOffset chunk)

/-- A call that succeeds answers for every chunk and reports everything that the detector
does. -/
def SkipsNothing (client : DetectorClient) (request : ℕ) (detectorId : DetectorId)
    (params : DetectorParams) (chunks : List Chunk) (applyChunkOffset : Bool) : Prop :=
  ∀ detections,
    detectTextContents client request detectorId params chunks applyChunkOffset = .ok detections →
      ∃ response, client request (chunks.map (·.text)) params = .ok response ∧
        AnswersFor detectorId applyChunkOffset chunks response detections

/-- **Chunks are answered for.** A call with some chunks answers for each of them exactly when
the detector fails or answers with one list for each. -/
theorem detectTextContents_skipsNothing_iff {client : DetectorClient} {request : ℕ}
    {detectorId : DetectorId} {params : DetectorParams} {chunks : List Chunk}
    {applyChunkOffset : Bool} (h : chunks ≠ []) :
    SkipsNothing client request detectorId params chunks applyChunkOffset ↔
      ∀ response, client request (chunks.map (·.text)) params = .ok response →
        response.length = chunks.length := by
  have hchunks : chunks.isEmpty = false := List.isEmpty_eq_false_iff.mpr h
  constructor
  · intro hskips response hresponse
    obtain ⟨response', hresponse', pairs, hfst, hsnd, -⟩ := hskips _ (by
      rw [detectTextContents, hchunks, hresponse]
      rfl)
    rw [hresponse] at hresponse'
    obtain rfl := Except.ok.inj hresponse'
    rw [← hfst, ← hsnd, List.length_map, List.length_map]
  · intro hlength detections hdetections
    rw [detectTextContents, hchunks] at hdetections
    cases hresponse : client request (chunks.map (·.text)) params with
    | error error => simp [hresponse] at hdetections
    | ok response =>
      simp only [hresponse, Bool.false_eq_true, if_false] at hdetections
      -- the source zips chunks and lists, and a zip of equal lengths drops nothing
      have heq := hlength response hresponse
      exact ⟨response, rfl, chunks.zip response, List.map_fst_zip heq.ge, List.map_snd_zip heq.le,
        (Except.ok.inj hdetections).symm⟩

/-- A detector that has an answer of one list for any number of contents. -/
def firstOnly : DetectorClient := fun _ _ _ =>
  .ok [[{ start := 0, stop := 2, text := "Hi", score := 1 }]]

/-- A detector that answers with a list for every content, the first of which is not empty. -/
def firstDetected : DetectorClient := fun _ contents _ =>
  .ok (contents.mapIdx fun i content =>
    if i = 0 then [{ start := 0, stop := content.length, text := content, score := 1 }] else [])

theorem detectTextContents_skipsNothing_iff_twoChunks :
    SkipsNothing firstDetected 0 "hap" .empty
      [{ stop := 2, text := "Hi" }, { start := 2, stop := 4, text := "Yo" }] true := by
  refine (detectTextContents_skipsNothing_iff (by simp)).mpr ?_
  intro response hresponse
  obtain rfl := Except.ok.inj hresponse
  rfl

/-- The second chunk has no answer, and the call succeeds. -/
theorem detectTextContents_skips_secondChunk :
    (∃ detections, detectTextContents firstOnly 0 "hap" .empty
        [{ stop := 2, text := "Hi" }, { start := 2, stop := 4, text := "Yo" }] true =
          .ok detections) ∧
      ¬ SkipsNothing firstOnly 0 "hap" .empty
        [{ stop := 2, text := "Hi" }, { start := 2, stop := 4, text := "Yo" }] true := by
  refine ⟨⟨_, rfl⟩, ?_⟩
  intro hskips
  obtain ⟨response, hresponse, pairs, hfst, hsnd, -⟩ := hskips _ rfl
  obtain rfl := Except.ok.inj hresponse
  have hlength : pairs.length = 2 := by
    rw [← List.length_map (f := Prod.fst), hfst]
    rfl
  rw [← List.length_map (f := Prod.snd), hsnd] at hlength
  simp at hlength

/-! ### What the services report -/

/-- The requested detectors and their chunkers are configured, and they answer every text on
its own, without failing. -/
structure ServicesAnswer (ctx : Context) (detectors : IterMap DetectorId DetectorParams)
    (tokens : ChunkerId → String → List Token)
    (results : DetectorId → DetectorParams → String → List ContentAnalysisResponse) : Prop where
  configured : ∀ id ∈ detectors.keys, ∃ config, ctx.config.detector id = some config
  chunker : ∀ id ∈ detectors.keys, ∀ config, ctx.config.detector id = some config →
    config.chunkerId ≠ defaultChunkerId → ∃ client,
      ctx.chunkerClient config.chunkerId = some client ∧
        ∀ request text, client request text = .ok (tokens config.chunkerId text)
  detector : ∀ id ∈ detectors.keys, ∃ client, ctx.detectorClient id = some client ∧
    ∀ request contents params, client request contents params =
      .ok (contents.map (results id params))

section Reported

variable (tokens : ChunkerId → String → List Token)
  (results : DetectorId → DetectorParams → String → List ContentAnalysisResponse)

/-- The chunks of one part of a text. -/
def partChunks (chunkerId : ChunkerId) (input : ℕ × String) : List Chunk :=
  if chunkerId = defaultChunkerId then wholeDocChunk input.1 input.2
  else (tokens chunkerId input.2).map fun token =>
    { Chunk.ofToken token with
      start := asUsize token.start + input.1
      stop := asUsize token.stop + input.1 }

/-- What a detector reports on some chunks that reaches its threshold. -/
def detectionsOf (config : DetectorConfig) (detector : DetectorId × DetectorParams)
    (chunks : List Chunk) : List Detection :=
  (chunks.flatMap fun chunk => (results detector.1 (popThreshold detector.2).2 chunk.text).map
    (toDetection detector.1 true chunk)).filter
      ((popThreshold detector.2).1.getD config.defaultThreshold ≤ ·.score)

/-- What one detector reports on all parts of a text. -/
def reportedBy (ctx : Context) (inputs : List (ℕ × String))
    (detector : DetectorId × DetectorParams) : List Detection :=
  match ctx.config.detector detector.1 with
  | some config =>
    detectionsOf results config detector (inputs.flatMap (partChunks tokens config.chunkerId))
  | none => []

/-- What all detectors report. -/
def reportedDetections (ctx : Context) (inputs : List (ℕ × String))
    (detectors : IterMap DetectorId DetectorParams) : List Detection :=
  detectors.entries.flatMap (reportedBy tokens results ctx inputs)

end Reported

/-! ### Orders of arrival -/

/-- A traversal of results none of which is an error. -/
theorem mapM_id_eq_ok {ε α : Type} {l : List (Except ε α)} (h : ∀ x ∈ l, ∃ a, x = .ok a) :
    l.mapM id = .ok (l.filterMap Except.toOption) := by
  induction l with
  | nil => rfl
  | cons x l ih =>
    obtain ⟨a, rfl⟩ := h x (by simp)
    rw [List.mapM_cons, ih fun y hy => h y (by simp [hy])]
    rfl

/-- Results that are no errors are all there, in the order in which they arrive. -/
theorem exists_bufferUnordered_perm {ε α : Type} (times : ℕ → ℕ) (l : List α) :
    ∃ arrived, bufferUnordered times (l.map (.ok : α → Except ε α)) = .ok arrived ∧
      arrived.Perm l := by
  have hsorted := (List.perm_insertionSort (fun a b => times a.2 ≤ times b.2)
    (l.map (.ok : α → Except ε α)).zipIdx).map Prod.fst
  rw [List.zipIdx_map_fst] at hsorted
  refine ⟨_, mapM_id_eq_ok ?_, ?_⟩
  · intro x hx
    obtain ⟨a, -, rfl⟩ := List.mem_map.mp (hsorted.mem_iff.mp hx)
    exact ⟨a, rfl⟩
  · have hperm := hsorted.filterMap Except.toOption
    rw [List.filterMap_map] at hperm
    simpa [Function.comp_def, Except.toOption] using hperm

/-- What arrives are the results of the tasks, in some order of the tasks. -/
theorem exists_perm_of_bufferUnordered {ε α β : Type} {times : ℕ → ℕ} {l : List β}
    {task : β → Except ε α} {results : List α}
    (h : bufferUnordered times (l.map task) = .ok results) :
    ∃ arrived, arrived.Perm l ∧ List.Forall₂ (fun b a => task b = .ok a) arrived results := by
  have hzipIdx : (l.map task).zipIdx = l.zipIdx.map fun p => (task p.1, p.2) := by
    rw [List.zipIdx_map]
    rfl
  rw [bufferUnordered, hzipIdx, ← List.map_insertionSort (fun a b => times a.2 ≤ times b.2) _ _ _
    fun _ _ _ _ => Iff.rfl, List.map_map] at h
  refine ⟨(l.zipIdx.insertionSort fun a b => times a.2 ≤ times b.2).map (·.1), ?_, ?_⟩
  · have hperm := (List.perm_insertionSort (fun a b => times a.2 ≤ times b.2) l.zipIdx).map
      Prod.fst
    rwa [List.zipIdx_map_fst] at hperm
  · have hresults := Except.mapM_eq_ok_iff.mp h
    rw [List.forall₂_map_left_iff] at hresults ⊢
    exact hresults

/-- Requests whose number makes no difference. -/
theorem map_zipIdx_congr {α β : Type} {l : List α} {g : α × ℕ → β} {f : α → β}
    (h : ∀ a ∈ l, ∀ i, g (a, i) = f a) : l.zipIdx.map g = l.map f := by
  conv_rhs => rw [← List.zipIdx_map_fst 0 l, List.map_map]
  apply List.map_congr_left
  rintro ⟨a, i⟩ hmem
  exact h a ((List.mem_zipIdx hmem).2.2 ▸ List.getElem_mem _) i

/-- Lists that are reorderings of others are together a reordering of all of them. -/
theorem flatten_perm_flatMap {α β : Type} {l : List α} {f : α → List β} {rows : List (List β)}
    (h : List.Forall₂ (fun a row => row.Perm (f a)) l rows) :
    rows.flatten.Perm (l.flatMap f) := by
  induction h with
  | nil => rfl
  | cons hrow _ ih =>
    rw [List.flatten_cons, List.flatMap_cons]
    exact hrow.append ih

/-! ### Chunks and detections -/

section Runs

variable {ctx : Context} {detectors : IterMap DetectorId DetectorParams}
  {tokens : ChunkerId → String → List Token}
  {results : DetectorId → DetectorParams → String → List ContentAnalysisResponse}
  {inputs : List (ℕ × String)}

theorem chunkInput_eq_ok (h : ServicesAnswer ctx detectors tokens results) {id : DetectorId}
    (hid : id ∈ detectors.keys) {config : DetectorConfig}
    (hconfig : ctx.config.detector id = some config) (request : ℕ × ℕ) (input : ℕ × String) :
    chunkInput ctx config.chunkerId request input =
      .ok (partChunks tokens config.chunkerId input) := by
  rw [chunkInput, partChunks]
  split_ifs with hdefault
  · rfl
  · obtain ⟨client, hclient, htokens⟩ := h.chunker id hid config hconfig hdefault
    simp only [hclient, chunk, htokens]
    simp [bind, Except.bind, Chunk.ofToken, Function.comp_def]

/-- The chunks of a chunker are those of all parts. -/
theorem exists_chunkTask_perm (h : ServicesAnswer ctx detectors tokens results) {id : DetectorId}
    (hid : id ∈ detectors.keys) {config : DetectorConfig}
    (hconfig : ctx.config.detector id = some config) (times : ℕ → ℕ) (task : ℕ) :
    ∃ cs, chunkTask ctx times task config.chunkerId inputs = .ok (config.chunkerId, cs) ∧
      cs.Perm (inputs.flatMap (partChunks tokens config.chunkerId)) := by
  have hrequests : (inputs.zipIdx.map fun p =>
      chunkInput ctx config.chunkerId (task, p.2) p.1) =
        (inputs.map (partChunks tokens config.chunkerId)).map .ok := by
    rw [List.map_map]
    exact map_zipIdx_congr fun input _ i => chunkInput_eq_ok h hid hconfig _ input
  obtain ⟨arrived, harrived, hperm⟩ := exists_bufferUnordered_perm (ε := Error) times
    (inputs.map (partChunks tokens config.chunkerId))
  refine ⟨arrived.flatten, ?_, ?_⟩
  · rw [chunkTask, hrequests, harrived]
    rfl
  · rw [List.flatMap_def]
    exact hperm.flatten

/-- What was inserted under a key is found, or something that was inserted later. -/
theorem isSome_get?_foldl_insert {V : Type} {l : List (String × V)}
    {m : OrderedMap String V} {k : String}
    (h : (m.get? k).isSome ∨ k ∈ l.map (·.1)) :
    ((l.foldl (fun m e => m.insert e.1 e.2) m).get? k).isSome := by
  induction l generalizing m with
  | nil => simpa using h
  | cons e l ih =>
    apply ih
    change ((m.alter e.1 fun _ => e.2).get? k).isSome ∨ _
    rw [OrderedMap.get?_alter]
    by_cases hkey : k = e.1
    · simp [hkey]
    · rcases h with h | h
      · exact Or.inl (by simpa [show key k ≠ key e.1 from hkey] using h)
      · exact Or.inr (by simpa [hkey] using h)

/-- A chunker is asked exactly if one of the detectors uses it. -/
theorem mem_chunkerIds_iff (h : ServicesAnswer ctx detectors tokens results)
    {chunkers : List ChunkerId} (hchunkers : getChunkerIds ctx detectors = .ok chunkers)
    (chunkerId : ChunkerId) :
    chunkerId ∈ chunkers ↔ ∃ id ∈ detectors.keys, ∃ config,
      ctx.config.detector id = some config ∧ config.chunkerId = chunkerId := by
  have hget : ∀ {id config}, ctx.config.detector id = some config →
      ctx.config.getChunkerId id = some config.chunkerId := by
    intro id config hconfig
    rw [OrchestratorConfig.getChunkerId, show ctx.config.detectors.get? id = some config from
      hconfig]
    rfl
  constructor
  · intro hmem
    obtain ⟨id, hid, hchunker⟩ := Except.exists_of_mem_mapM hchunkers hmem
    obtain ⟨config, hconfig⟩ := h.configured id hid
    rw [hget hconfig] at hchunker
    exact ⟨id, hid, config, hconfig, Except.ok.inj hchunker⟩
  · rintro ⟨id, hid, config, hconfig, rfl⟩
    obtain ⟨chunker, hmem, hchunker⟩ := Except.exists_of_mapM_eq_ok hchunkers hid
    rw [hget hconfig] at hchunker
    rwa [← Except.ok.inj hchunker] at hmem

theorem exists_getChunkerIds_eq_ok (h : ServicesAnswer ctx detectors tokens results) :
    ∃ chunkers, getChunkerIds ctx detectors = .ok chunkers := by
  apply Except.exists_mapM_eq_ok
  intro id hid
  obtain ⟨config, hconfig⟩ := h.configured id hid
  rw [OrchestratorConfig.getChunkerId, show ctx.config.detectors.get? id = some config from
    hconfig]
  exact ⟨_, rfl⟩

/-- The chunks of every detector's chunker are found, those of all parts. A chunker that two
detectors share is asked twice and its chunks are there once. -/
theorem exists_chunks_perm (h : ServicesAnswer ctx detectors tokens results) (hinputs : inputs ≠ [])
    {chunkers : List ChunkerId} (hchunkers : getChunkerIds ctx detectors = .ok chunkers)
    (times : ℕ → ℕ → ℕ) :
    ∃ chunkMap, chunks ctx times chunkers inputs = .ok chunkMap ∧
      ∀ id ∈ detectors.keys, ∀ config, ctx.config.detector id = some config →
        ∃ cs, chunkMap.get? config.chunkerId = some cs ∧
          cs.Perm (inputs.flatMap (partChunks tokens config.chunkerId)) := by
  have htask : ∀ e ∈ chunkers.zipIdx, ∃ cs,
      chunkTask ctx (times e.2) e.2 e.1 inputs = .ok (e.1, cs) ∧
        cs.Perm (inputs.flatMap (partChunks tokens e.1)) := by
    rintro ⟨chunkerId, task⟩ hmem
    obtain ⟨id, hid, config, hconfig, rfl⟩ := (mem_chunkerIds_iff h hchunkers chunkerId).mp
      (List.fst_mem_of_mem_zipIdx hmem)
    exact exists_chunkTask_perm h hid hconfig (times task) task
  obtain ⟨answers, hanswers⟩ := Except.exists_mapM_eq_ok (l := chunkers.zipIdx)
    (f := fun e => chunkTask ctx (times e.2) e.2 e.1 inputs)
    fun e he => (htask e he).imp' _ fun _ hcs => hcs.1
  refine ⟨answers.foldl (fun m answer => m.insert answer.1 answer.2) .empty, ?_, ?_⟩
  · rw [chunks, List.isEmpty_eq_false_iff.mpr hinputs, if_neg Bool.false_ne_true]
    exact Except.bind_eq_ok_iff.mpr ⟨answers, hanswers, rfl⟩
  · intro id hid config hconfig
    have hasked := (mem_chunkerIds_iff h hchunkers config.chunkerId).mpr
      ⟨id, hid, config, hconfig, rfl⟩
    rw [← List.zipIdx_map_fst 0 chunkers] at hasked
    obtain ⟨e, he, hchunker⟩ := List.mem_map.mp hasked
    obtain ⟨cs, hcs, -⟩ := htask e he
    obtain ⟨answer, hmem, hanswer⟩ := Except.exists_of_mapM_eq_ok hanswers he
    obtain rfl := Except.ok.inj (hcs.symm.trans hanswer)
    -- something is found under the chunker, and it is the answer to one of the requests
    obtain ⟨found, hfound⟩ := Option.isSome_iff_exists.mp (isSome_get?_foldl_insert
      (l := answers) (m := .empty) (Or.inr (List.mem_map_of_mem hmem)))
    rw [hchunker] at hfound
    refine ⟨found, hfound, ?_⟩
    rcases mem_of_get?_foldl_insert hfound with hempty | hmem
    · simp at hempty
    · obtain ⟨e', he', hanswer'⟩ := Except.exists_of_mem_mapM hanswers hmem
      obtain ⟨cs', hcs', hperm⟩ := htask e' he'
      obtain ⟨hid', rfl⟩ := Prod.mk.inj (Except.ok.inj (hcs'.symm.trans hanswer'))
      rwa [hid'] at hperm

/-- The answer to a call with some chunks is what the detector reports on each of them. -/
theorem detectTextContents_eq_ok {client : DetectorClient} {request : ℕ} {detectorId : DetectorId}
    {params : DetectorParams} {respond : String → List ContentAnalysisResponse}
    (hclient : ∀ contents, client request contents params = .ok (contents.map respond))
    (cs : List Chunk) (applyChunkOffset : Bool) :
    detectTextContents client request detectorId params cs applyChunkOffset =
      .ok (cs.flatMap fun chunk =>
        (respond chunk.text).map (toDetection detectorId applyChunkOffset chunk)) := by
  rw [detectTextContents]
  split_ifs with hempty
  · rw [List.isEmpty_iff.mp hempty]
    rfl
  · have hzip : cs.zip (cs.map (respond ·.text)) =
        cs.map fun chunk => (chunk, respond chunk.text) := by
      conv_lhs => rw [← List.map_id cs, List.map_map, List.zip_map']
      rfl
    simp only [hclient, List.map_map, Function.comp_def, hzip, List.flatMap_map]

/-- The detections of one detector are those that it reports on its chunks. -/
theorem detectorTask_eq_ok (h : ServicesAnswer ctx detectors tokens results)
    {detector : DetectorId × DetectorParams} (hdetector : detector ∈ detectors.entries)
    (config : DetectorConfig) (cs : List Chunk) (request : ℕ) :
    detectorTask ctx request (detector.1, config, detector.2, cs) =
      .ok (detectionsOf results config detector cs) := by
  obtain ⟨client, hclient, hresults⟩ := h.detector detector.1 (List.mem_map_of_mem hdetector)
  refine Except.bind_eq_ok_iff.mpr ⟨client, Failure.unwrap_eq_ok_iff.mpr hclient, ?_⟩
  refine Except.bind_eq_ok_iff.mpr ⟨_, Failure.ofExcept_eq_ok_iff.mpr
    (detectTextContents_eq_ok (fun contents => hresults request contents _) cs true), ?_⟩
  rfl

theorem detectionsOf_perm {config : DetectorConfig} {detector : DetectorId × DetectorParams}
    {cs cs' : List Chunk} (h : cs.Perm cs') :
    (detectionsOf results config detector cs).Perm (detectionsOf results config detector cs') :=
  (h.flatMap_right _).filter _

/-- What a detector reports on the chunks that it is given. -/
def reportedOn (results : DetectorId → DetectorParams → String → List ContentAnalysisResponse)
    (task : DetectorId × DetectorConfig × DetectorParams × List Chunk) : List Detection :=
  detectionsOf results task.2.1 (task.1, task.2.2.1) task.2.2.2

/-- The inputs of the detectors are found, and what a detector reports on its input it reports
on all parts. -/
theorem exists_detectorInputs (h : ServicesAnswer ctx detectors tokens results)
    {chunkMap : OrderedMap ChunkerId (List Chunk)}
    (hchunks : ∀ id ∈ detectors.keys, ∀ config, ctx.config.detector id = some config →
      ∃ cs, chunkMap.get? config.chunkerId = some cs ∧
        cs.Perm (inputs.flatMap (partChunks tokens config.chunkerId))) :
    ∃ tasks, detectors.entries.mapM (detectorInput ctx chunkMap) = .ok tasks ∧
      (∀ task ∈ tasks, ∀ request, detectorTask ctx request task = .ok (reportedOn results task)) ∧
      (tasks.map (reportedOn results)).flatten.Perm
        (reportedDetections tokens results ctx inputs detectors) := by
  -- each detector gets the chunks of its chunker, up to their order
  have hinput : ∀ detector ∈ detectors.entries, ∃ config cs,
      detectorInput ctx chunkMap detector = .ok (detector.1, config, detector.2, cs) ∧
        (detectionsOf results config detector cs).Perm
          (reportedBy tokens results ctx inputs detector) := by
    intro detector hmem
    have hid : detector.1 ∈ detectors.keys := List.mem_map_of_mem hmem
    obtain ⟨config, hconfig⟩ := h.configured detector.1 hid
    obtain ⟨cs, hcs, hperm⟩ := hchunks detector.1 hid config hconfig
    refine ⟨config, cs, ?_, ?_⟩
    · simp only [detectorInput, hconfig, hcs, Failure.unwrap]
      rfl
    · rw [reportedBy, hconfig]
      exact detectionsOf_perm hperm
  obtain ⟨tasks, htasks⟩ := Except.exists_mapM_eq_ok (l := detectors.entries)
    (f := detectorInput ctx chunkMap) fun detector hmem => by
      obtain ⟨config, cs, heq, -⟩ := hinput detector hmem
      exact ⟨_, heq⟩
  refine ⟨tasks, htasks, ?_, ?_⟩
  · intro task htask request
    obtain ⟨detector, hmem, heq⟩ := Except.exists_of_mem_mapM htasks htask
    obtain ⟨config, cs, heq', -⟩ := hinput detector hmem
    obtain rfl := Except.ok.inj (heq'.symm.trans heq)
    exact detectorTask_eq_ok h hmem config cs request
  · apply flatten_perm_flatMap
    rw [List.forall₂_map_right_iff]
    obtain ⟨hlength, hzip⟩ := List.forall₂_iff_zip.mp (Except.mapM_eq_ok_iff.mp htasks)
    refine List.forall₂_iff_zip.mpr ⟨hlength, ?_⟩
    intro detector task hmem
    obtain ⟨config, cs, heq, hperm⟩ := hinput detector (List.of_mem_zip hmem).1
    obtain rfl := Except.ok.inj (heq.symm.trans (hzip hmem))
    exact hperm

/-! ### The result -/

/-- Starts are compared as numbers, and no start is the least of them. -/
theorem startLe_iff {d d' : Detection} : startLe d d' ↔ d.start ≤ d'.start := by
  rw [startLe]
  cases d.start with
  | none => simp
  | some start =>
    cases d'.start with
    | none => simp
    | some start' => simp

theorem startLe_total (d d' : Detection) : startLe d d' ∨ startLe d' d := by
  rw [startLe_iff, startLe_iff]
  cases d.start with
  | none => exact Or.inl Option.none_le
  | some start =>
    cases d'.start with
    | none => exact Or.inr Option.none_le
    | some start' => simpa using le_total start start'

theorem startLe_trans {d d' d'' : Detection} (h : startLe d d') (h' : startLe d' d'') :
    startLe d d'' := by
  rw [startLe_iff] at h h' ⊢
  cases hd : d.start with
  | none => exact Option.none_le
  | some start =>
    cases hd' : d'.start with
    | none => exact absurd (hd ▸ hd' ▸ h) Option.not_some_le_none
    | some start' =>
      cases hd'' : d''.start with
      | none => exact absurd (hd' ▸ hd'' ▸ h') Option.not_some_le_none
      | some start'' =>
        rw [hd, hd', Option.some_le_some] at h
        rw [hd', hd'', Option.some_le_some] at h'
        exact Option.some_le_some.mpr (h.trans h')

theorem start_le_antisymm {a b : Option ℕ} (h : a ≤ b) (h' : b ≤ a) : a = b := by
  cases a with
  | none =>
    cases b with
    | none => rfl
    | some b => exact absurd h' Option.not_some_le_none
  | some a =>
    cases b with
    | none => exact absurd h Option.not_some_le_none
    | some b => exact congrArg some (le_antisymm (Option.some_le_some.mp h)
        (Option.some_le_some.mp h'))

/-- The detections are sorted by start. -/
theorem pairwise_sorted (l : List Detection) :
    (l.insertionSort fun d d' => startLe d d').Pairwise fun d d' => startLe d d' := by
  have : Std.Total fun d d' : Detection => (startLe d d' : Prop) := ⟨startLe_total⟩
  have : IsTrans Detection fun d d' => startLe d d' := ⟨fun _ _ _ => startLe_trans⟩
  exact List.pairwise_insertionSort _ l

/-- A detector of text contents gives every detection a start. -/
theorem isSome_start_of_detectorTask {ctx : Context} {request : ℕ}
    {input : DetectorId × DetectorConfig × DetectorParams × List Chunk}
    {detections : List Detection} (h : detectorTask ctx request input = .ok detections) :
    ∀ d ∈ detections, d.start.isSome := by
  obtain ⟨client, -, h⟩ := Except.bind_eq_ok_iff.mp h
  obtain ⟨found, hfound, h⟩ := Except.bind_eq_ok_iff.mp h
  obtain rfl := Except.ok.inj h
  intro d hd
  have hd := List.mem_of_mem_filter hd
  have hfound := Failure.ofExcept_eq_ok_iff.mp hfound
  rw [detectTextContents] at hfound
  split_ifs at hfound with hchunks
  · obtain rfl := Except.ok.inj hfound
    simp at hd
  -- a result is turned into a detection with the offsets of its chunk
  · split at hfound
    · obtain rfl := Except.ok.inj hfound
      obtain ⟨⟨chunk, results⟩, -, hd⟩ := List.mem_flatMap.mp hd
      obtain ⟨result, -, rfl⟩ := List.mem_map.mp hd
      rfl
    · simp at hfound

/-- The detections of text contents detectors all have a start, and are sorted by it. -/
theorem textContentsDetections_sorted {ctx : Context} {chunkTimes : ℕ → ℕ → ℕ}
    {detectTimes : ℕ → ℕ} {detectors : IterMap DetectorId DetectorParams}
    {inputs : List (ℕ × String)} {detections : List Detection}
    (h : textContentsDetections ctx chunkTimes detectTimes detectors inputs = .ok detections) :
    (∀ d ∈ detections, d.start.isSome) ∧ detections.Pairwise fun d d' => startLe d d' := by
  obtain ⟨chunkers, -, h⟩ := Except.bind_eq_ok_iff.mp h
  obtain ⟨chunkMap, -, h⟩ := Except.bind_eq_ok_iff.mp h
  obtain ⟨tasks, -, h⟩ := Except.bind_eq_ok_iff.mp h
  obtain ⟨results, hresults, h⟩ := Except.bind_eq_ok_iff.mp h
  obtain rfl := Except.ok.inj h
  refine ⟨?_, pairwise_sorted _⟩
  intro d hd
  obtain ⟨row, hrow, hd⟩ := List.mem_flatten.mp ((List.perm_insertionSort _ _).mem_iff.mp hd)
  obtain ⟨arrived, -, harrived⟩ := exists_perm_of_bufferUnordered hresults
  obtain ⟨input, -, hinput⟩ := harrived.exists_of_mem_right hrow
  exact isSome_start_of_detectorTask hinput d hd

/-- Two sorted lists of the same detections differ only in the order of those that start at the
same position. -/
theorem map_start_eq_of_perm {l l' : List Detection} (h : l.Pairwise fun d d' => startLe d d')
    (h' : l'.Pairwise fun d d' => startLe d d') (hperm : l.Perm l') :
    l.map (·.start) = l'.map (·.start) := by
  refine List.Perm.eq_of_pairwise (fun _ _ _ _ hle hge => start_le_antisymm hle hge) ?_ ?_
    (hperm.map _)
  · rw [List.pairwise_map]
    exact h.imp startLe_iff.mp
  · rw [List.pairwise_map]
    exact h'.imp startLe_iff.mp

/-- One run. -/
theorem exists_textContentsDetections (h : ServicesAnswer ctx detectors tokens results)
    (hinputs : inputs ≠ []) (chunkTimes : ℕ → ℕ → ℕ) (detectTimes : ℕ → ℕ) :
    ∃ detections, textContentsDetections ctx chunkTimes detectTimes detectors inputs =
        .ok detections ∧ detections.Pairwise (fun d d' => startLe d d') ∧
      detections.Perm (reportedDetections tokens results ctx inputs detectors) := by
  obtain ⟨chunkers, hchunkers⟩ := exists_getChunkerIds_eq_ok h
  obtain ⟨chunkMap, hchunkMap, hchunks⟩ := exists_chunks_perm h hinputs hchunkers chunkTimes
  obtain ⟨tasks, htasks, hrun, hreported⟩ := exists_detectorInputs h hchunks
  obtain ⟨arrived, harrived, hperm⟩ := exists_bufferUnordered_perm (ε := Failure) detectTimes
    (tasks.map (reportedOn results))
  -- every task succeeds with what the detector reports on its chunks
  have hrequests : (tasks.zipIdx.map fun p => detectorTask ctx p.2 p.1) =
      (tasks.map (reportedOn results)).map .ok := by
    rw [List.map_map]
    exact map_zipIdx_congr fun task htask request => hrun task htask request
  refine ⟨arrived.flatten.insertionSort fun d d' => startLe d d', ?_, ?_, ?_⟩
  · refine Except.bind_eq_ok_iff.mpr ⟨chunkers, Failure.ofExcept_eq_ok_iff.mpr hchunkers, ?_⟩
    refine Except.bind_eq_ok_iff.mpr ⟨chunkMap, Failure.ofExcept_eq_ok_iff.mpr hchunkMap, ?_⟩
    refine Except.bind_eq_ok_iff.mpr ⟨tasks, htasks, ?_⟩
    rw [hrequests, harrived]
    rfl
  · exact pairwise_sorted _
  · exact (List.perm_insertionSort _ _).trans (hperm.flatten.trans hreported)

/-- The services also answer when the detectors are visited in another order. -/
theorem ServicesAnswer.of_perm (h : ServicesAnswer ctx detectors tokens results)
    {detectors' : IterMap DetectorId DetectorParams}
    (hperm : detectors'.entries.Perm detectors.entries) :
    ServicesAnswer ctx detectors' tokens results := by
  have hkeys : ∀ {id}, id ∈ detectors'.keys → id ∈ detectors.keys := (hperm.map _).mem_iff.mp
  constructor
  · exact fun id hid => h.configured id (hkeys hid)
  · exact fun id hid => h.chunker id (hkeys hid)
  · exact fun id hid => h.detector id (hkeys hid)

/-- **The order of answers makes no difference.** With services that answer each text on its
own, and at least one part of the text, a call returns exactly what the detectors report on the
chunks of their own chunkers, as often as they report it, sorted by start. Another call, where
answers arrive at other times and the detectors are visited in another order, returns the same
up to the order of detections that start at the same position. -/
theorem textContentsDetections_perm (h : ServicesAnswer ctx detectors tokens results)
    (hinputs : inputs ≠ []) (chunkTimes : ℕ → ℕ → ℕ) (detectTimes : ℕ → ℕ) :
    ∃ detections, textContentsDetections ctx chunkTimes detectTimes detectors inputs =
        .ok detections ∧ detections.Pairwise (fun d d' => startLe d d') ∧
      detections.Perm (reportedDetections tokens results ctx inputs detectors) ∧
      ∀ (detectors' : IterMap DetectorId DetectorParams) (chunkTimes' : ℕ → ℕ → ℕ)
        (detectTimes' : ℕ → ℕ), detectors'.entries.Perm detectors.entries → ∃ detections',
          textContentsDetections ctx chunkTimes' detectTimes' detectors' inputs =
            .ok detections' ∧ detections'.Perm detections ∧
          detections'.map (·.start) = detections.map (·.start) := by
  obtain ⟨detections, hrun, hsorted, hperm⟩ :=
    exists_textContentsDetections h hinputs chunkTimes detectTimes
  refine ⟨detections, hrun, hsorted, hperm, ?_⟩
  intro detectors' chunkTimes' detectTimes' hdetectors
  obtain ⟨detections', hrun', hsorted', hperm'⟩ :=
    exists_textContentsDetections (h.of_perm hdetectors) hinputs chunkTimes' detectTimes'
  -- both are what the detectors report, up to the order
  have hsame : detections'.Perm detections :=
    hperm'.trans ((hdetectors.flatMap_right _).trans hperm.symm)
  exact ⟨detections', hrun', hsame, map_start_eq_of_perm hsorted' hsorted hsame⟩

end Runs

/-! ### A shared chunker -/

/-- Two detectors that use one chunker. -/
def sharedContext : Context where
  config :=
    { chunkers := some ⟨[("three", ⟨{ hostname := "127.0.0.1" }⟩)], by decide⟩
      detectors :=
        ⟨[("hap", ⟨{ hostname := "127.0.0.1" }, none, "three", 0, .textContents⟩),
          ("pii", ⟨{ hostname := "127.0.0.1" }, none, "three", 0, .textContents⟩)], by decide⟩ }
  chunkerClient _ := some splitAtThree
  detectorClient _ := some (spanDetector 0 1 fun content => content ≠ "")

/-- Detections start where chunks do, so those of the two detectors start at the same
positions. -/
theorem textContentsDetections_perm_shared :
    ∃ detections, textContentsDetections sharedContext (fun _ i => i) (1 - ·)
      ⟨[("hap", .empty), ("pii", .empty)], by decide⟩ [(0, "abcdef")] = .ok detections ∧
        detections.Pairwise fun d d' => startLe d d' := by
  have h : ServicesAnswer sharedContext ⟨[("hap", .empty), ("pii", .empty)], by decide⟩
      (fun _ input => [⟨0, 3, String.ofList (input.toList.slice 0 3)⟩,
        ⟨3, 6, String.ofList (input.toList.slice 3 6)⟩])
      (fun _ _ => spanResults 0 1 fun content => content ≠ "") := by
    refine ⟨?_, ?_, ?_⟩
    · intro id hid
      rcases List.mem_pair.mp hid with rfl | rfl
      · exact ⟨_, rfl⟩
      · exact ⟨_, rfl⟩
    · intro id hid config hconfig hdefault
      exact ⟨_, rfl, fun _ _ => rfl⟩
    · intro id hid
      exact ⟨_, rfl, fun _ _ _ => rfl⟩
  obtain ⟨detections, hrun, hsorted, -⟩ :=
    textContentsDetections_perm h (List.cons_ne_nil _ _) (fun _ i => i) (1 - ·)
  exact ⟨detections, hrun, hsorted⟩

end GuardrailsOrchestrator
