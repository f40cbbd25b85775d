import GuardrailsOrchestrator.TextContents.Basic

/-!
# Detections point at their text

Positions are shifted three times on their way from a detector to the client: by the
offset of the mask, by the start of the chunk, and by the start of the detection in the
chunk. The text of a detection is the text between its positions as long as the detector
reports positions inside of the chunk it was given. A position beyond the end of the chunk
is not checked, and then points into the text that follows.
-/

namespace GuardrailsOrchestrator

/-! ### What the services promise -/

/-- The text of every token is the text between its positions. -/
def ChunkersSlice (ctx : Context) : Prop :=
  ∀ chunkerId client, ctx.chunkerClient chunkerId = some client →
    ∀ request input tokens, client request input = .ok tokens → ∀ token ∈ tokens,
      sliceCodepoints input (asUsize token.start) (asUsize token.stop) = .ok token.text

/-- Every result that a detector reports on a content. -/
def ForallResults (ctx : Context) (P : String → ContentAnalysisResponse → Prop) : Prop :=
  ∀ detectorId client, ctx.detectorClient detectorId = some client →
    ∀ request contents params response, client request contents params = .ok response →
      ∀ p ∈ contents.zip response, ∀ result ∈ p.2, P p.1 result

/-- The text of every result is the text between its positions. -/
def DetectorsSlice (ctx : Context) : Prop :=
  ForallResults ctx fun content result =>
    sliceCodepoints content result.start result.stop = .ok result.text

/-- No result ends after its content. -/
def DetectorsInBounds (ctx : Context) : Prop :=
  ForallResults ctx fun content result => result.stop ≤ content.length

/-- The text of a detection is the text between its positions. -/
def Detection.PointsInto (text : String) (d : Detection) : Prop :=
  ∃ start stop slice, d.start = some start ∧ d.stop = some stop ∧
    sliceCodepoints text start stop = .ok slice ∧ d.text = some slice

/-! ### Parts of the text -/

variable {text : String}

/-- The part is found in the text at its offset. -/
def LiesIn (text : String) (part : String) (offset : ℕ) : Prop :=
  part.toList.OccursAt text.toList offset

theorem sliceCodepoints_eq_ok_iff {start stop : ℕ} {slice : String} :
    sliceCodepoints text start stop = .ok slice ↔
      start ≤ stop ∧ slice = String.ofList (text.toList.slice start stop) := by
  rw [sliceCodepoints]
  split_ifs with hrange
  · simp [hrange, eq_comm]
  · simp [hrange]

theorem liesIn_of_sliceCodepoints {start stop : ℕ} {slice : String}
    (h : sliceCodepoints text start stop = .ok slice) : LiesIn text slice start := by
  obtain ⟨-, rfl⟩ := sliceCodepoints_eq_ok_iff.mp h
  rw [LiesIn, String.toList_ofList]
  exact List.occursAt_slice _ _ _

theorem liesIn_zero (text : String) : LiesIn text text 0 := List.occursAt_zero _

/-- A slice of a part is a slice of the text. -/
theorem LiesIn.sliceCodepoints_eq {part : String} {offset start stop : ℕ} {slice : String}
    (h : LiesIn text part offset) (hslice : sliceCodepoints part start stop = .ok slice)
    (hstop : stop ≤ part.length) :
    sliceCodepoints text (start + offset) (stop + offset) = .ok slice := by
  obtain ⟨hrange, rfl⟩ := sliceCodepoints_eq_ok_iff.mp hslice
  refine sliceCodepoints_eq_ok_iff.mpr ⟨by omega, ?_⟩
  rw [List.OccursAt.slice_eq h (by rwa [String.length_toList])]

/-- The parts that masks select are found at their offsets. -/
theorem liesIn_of_applyMasks {masks : Option (List (ℕ × ℕ))} {inputs : List (ℕ × String)}
    (h : applyMasks text masks = .ok inputs) {input : ℕ × String} (hinput : input ∈ inputs) :
    LiesIn text input.2 input.1 := by
  unfold applyMasks at h
  split at h
  · obtain rfl := Except.ok.inj h
    obtain rfl := List.mem_singleton.mp hinput
    exact liesIn_zero text
  · obtain rfl := Except.ok.inj h
    obtain rfl := List.mem_singleton.mp hinput
    exact liesIn_zero text
  · -- every part is cut out by its own mask, whatever the other masks are
    obtain ⟨mask, -, hmask⟩ := Except.exists_of_mem_mapM h hinput
    obtain ⟨maskedText, hslice, hok⟩ := Except.bind_eq_ok_iff.mp hmask
    obtain rfl := Except.ok.inj hok
    exact liesIn_of_sliceCodepoints hslice

/-- Masks whose ends do not come before their starts can be applied. -/
theorem exists_applyMasks_eq_ok {masks : Option (List (ℕ × ℕ))}
    (h : ∀ mask ∈ masks.getD [], mask.1 ≤ mask.2) :
    ∃ inputs, applyMasks text masks = .ok inputs := by
  unfold applyMasks
  split
  · exact ⟨_, rfl⟩
  · exact ⟨_, rfl⟩
  · apply Except.exists_mapM_eq_ok
    intro mask hmask
    have hslice : sliceCodepoints text mask.1 mask.2 = .ok _ :=
      sliceCodepoints_eq_ok_iff.mpr ⟨h mask hmask, rfl⟩
    exact ⟨_, Except.bind_eq_ok_iff.mpr ⟨_, hslice, rfl⟩⟩

/-! ### Chunks -/

variable {ctx : Context}

theorem mem_tasks_of_bufferUnordered {ε α : Type} {times : ℕ → ℕ} {tasks : List (Except ε α)}
    {results : List α} (h : bufferUnordered times tasks = .ok results) {r : α}
    (hr : r ∈ results) : .ok r ∈ tasks := by
  obtain ⟨task, htask, hok⟩ := Except.exists_of_mem_mapM h hr
  obtain ⟨⟨task', i⟩, hmem, rfl⟩ := List.mem_map.mp htask
  obtain rfl : task' = .ok r := hok
  exact (List.mem_zipIdx ((List.mem_insertionSort _).mp hmem)).2.2 ▸ List.getElem_mem _

/-- The chunks of a part are found in the text at their starts. -/
theorem liesIn_of_chunkInput (hchunkers : ChunkersSlice ctx) {chunkerId : ChunkerId}
    {request : ℕ × ℕ} {input : ℕ × String} {chunks : List Chunk}
    (hinput : LiesIn text input.2 input.1)
    (h : chunkInput ctx chunkerId request input = .ok chunks) {c : Chunk} (hc : c ∈ chunks) :
    LiesIn text c.text c.start := by
  rw [chunkInput] at h
  split_ifs at h
  · obtain rfl := Except.ok.inj h
    obtain rfl := List.mem_singleton.mp hc
    exact hinput
  · split at h
    · simp at h
    · rename_i client hclient
      obtain ⟨unshifted, hunshifted, h⟩ := Except.bind_eq_ok_iff.mp h
      obtain rfl := Except.ok.inj h
      obtain ⟨c', hc', rfl⟩ := List.mem_map.mp hc
      rw [chunk] at hunshifted
      split at hunshifted
      · rename_i tokens htokens
        obtain rfl := Except.ok.inj hunshifted
        obtain ⟨token, htoken, rfl⟩ := List.mem_map.mp hc'
        -- the token lies in the part, and the part in the text
        have hslice :=
          hchunkers chunkerId client hclient request input.2 tokens htokens token htoken
        exact hinput.trans (liesIn_of_sliceCodepoints hslice)
      · simp at hunshifted

theorem liesIn_of_chunkTask (hchunkers : ChunkersSlice ctx) {times : ℕ → ℕ} {task : ℕ}
    {chunkerId : ChunkerId} {inputs : List (ℕ × String)} {result : ChunkerId × List Chunk}
    (hinputs : ∀ input ∈ inputs, LiesIn text input.2 input.1)
    (h : chunkTask ctx times task chunkerId inputs = .ok result) {c : Chunk} (hc : c ∈ result.2) :
    LiesIn text c.text c.start := by
  obtain ⟨answers, hanswers, h⟩ := Except.bind_eq_ok_iff.mp h
  obtain rfl := Except.ok.inj h
  obtain ⟨chunks, hchunks, hc⟩ := List.mem_flatten.mp hc
  obtain ⟨⟨input, i⟩, hinput, hchunk⟩ :=
    List.mem_map.mp (mem_tasks_of_bufferUnordered hanswers hchunks)
  have hmem : input ∈ inputs := (List.mem_zipIdx hinput).2.2 ▸ List.getElem_mem _
  exact liesIn_of_chunkInput hchunkers (hinputs input hmem) hchunk hc

/-- What is found in a map was inserted. -/
theorem mem_of_get?_foldl_insert {V : Type} {results : List (String × V)}
    {m : OrderedMap String V} {k : String} {v : V}
    (h : (results.foldl (fun m result => m.insert result.1 result.2) m).get? k = some v) :
    m.get? k = some v ∨ (k, v) ∈ results := by
  induction results generalizing m with
  | nil => exact Or.inl h
  | cons result results ih =>
    rcases ih h with hget | hmem
    · -- a later result under the same key replaces an earlier one
      change (m.alter result.1 fun _ => result.2).get? k = some v at hget
      rw [OrderedMap.get?_alter] at hget
      split_ifs at hget with hkey
      · obtain rfl := Option.some.inj hget
        obtain rfl : k = result.1 := hkey
        exact Or.inr (by simp)
      · exact Or.inl hget
    · exact Or.inr (by simp [hmem])

/-- All chunks of a text are found at their starts, whatever the order of the answers. -/
theorem liesIn_of_chunks (hchunkers : ChunkersSlice ctx) {times : ℕ → ℕ → ℕ}
    {chunkers : List ChunkerId} {inputs : List (ℕ × String)}
    {chunkMap : OrderedMap ChunkerId (List Chunk)}
    (hinputs : ∀ input ∈ inputs, LiesIn text input.2 input.1)
    (h : chunks ctx times chunkers inputs = .ok chunkMap) {chunkerId : ChunkerId}
    {cs : List Chunk} (hget : chunkMap.get? chunkerId = some cs) {c : Chunk} (hc : c ∈ cs) :
    LiesIn text c.text c.start := by
  rw [chunks] at h
  split_ifs at h
  · obtain rfl := Except.ok.inj h
    simp at hget
  · obtain ⟨results, hresults, h⟩ := Except.bind_eq_ok_iff.mp h
    obtain rfl := Except.ok.inj h
    rcases mem_of_get?_foldl_insert hget with hempty | hmem
    · simp at hempty
    · obtain ⟨⟨chunkerId', task⟩, -, htask⟩ := Except.exists_of_mem_mapM hresults hmem
      exact liesIn_of_chunkTask hchunkers hinputs htask hc

/-! ### Detections -/

/-- A detection on a chunk, shifted by the start of the chunk, points into the text. -/
theorem pointsInto_of_detectTextContents (hslice : DetectorsSlice ctx)
    (hbounds : DetectorsInBounds ctx) {detectorId : DetectorId} {client : DetectorClient}
    (hclient : ctx.detectorClient detectorId = some client) {request : ℕ} {params : DetectorParams}
    {chunks : List Chunk} (hchunks : ∀ c ∈ chunks, LiesIn text c.text c.start)
    {detections : List Detection}
    (h : detectTextContents client request detectorId params chunks true = .ok detections)
    {d : Detection} (hd : d ∈ detections) : d.PointsInto text := by
  rw [detectTextContents] at h
  split_ifs at h
  · obtain rfl := Except.ok.inj h
    simp at hd
  split at h
  · rename_i response hresponse
    obtain rfl := Except.ok.inj h
    obtain ⟨⟨c, results⟩, hpair, hd⟩ := List.mem_flatMap.mp hd
    obtain ⟨result, hresult, rfl⟩ := List.mem_map.mp hd
    -- the detector was given the texts of the chunks, in the order of the chunks
    have hcontent : (c.text, results) ∈ (chunks.map (·.text)).zip response := by
      rw [List.zip_map_left]
      exact List.mem_map_of_mem (f := Prod.map (·.text) id) hpair
    have hwithin := hslice detectorId client hclient _ _ _ _ hresponse _ hcontent result hresult
    have hstop := hbounds detectorId client hclient _ _ _ _ hresponse _ hcontent result hresult
    have hlies := hchunks c (List.of_mem_zip hpair).1
    exact ⟨_, _, _, rfl, rfl, hlies.sliceCodepoints_eq hwithin hstop, rfl⟩
  · simp at h

/-- What reaches the threshold is what the detector found. -/
theorem pointsInto_of_detectorTask (hslice : DetectorsSlice ctx) (hbounds : DetectorsInBounds ctx)
    {request : ℕ} {detectorId : DetectorId} {config : DetectorConfig} {params : DetectorParams}
    {chunks : List Chunk} (hchunks : ∀ c ∈ chunks, LiesIn text c.text c.start)
    {detections : List Detection}
    (h : detectorTask ctx request (detectorId, config, params, chunks) = .ok detections)
    {d : Detection} (hd : d ∈ detections) : d.PointsInto text := by
  obtain ⟨client, hclient, h⟩ := Except.bind_eq_ok_iff.mp h
  obtain ⟨found, hfound, h⟩ := Except.bind_eq_ok_iff.mp h
  obtain rfl := Except.ok.inj h
  exact pointsInto_of_detectTextContents hslice hbounds (Failure.unwrap_eq_ok_iff.mp hclient)
    hchunks (Failure.ofExcept_eq_ok_iff.mp hfound) (List.mem_of_mem_filter hd)

/-- A detector examines the chunks of its chunker. -/
theorem liesIn_of_detectorInput {chunkMap : OrderedMap ChunkerId (List Chunk)}
    (hchunks : ∀ chunkerId cs, chunkMap.get? chunkerId = some cs →
      ∀ c ∈ cs, LiesIn text c.text c.start)
    {detector : DetectorId × DetectorParams}
    {input : DetectorId × DetectorConfig × DetectorParams × List Chunk}
    (h : detectorInput ctx chunkMap detector = .ok input) {c : Chunk} (hc : c ∈ input.2.2.2) :
    LiesIn text c.text c.start := by
  rw [detectorInput] at h
  split at h
  · simp at h
  · obtain ⟨cs, hget, h⟩ := Except.bind_eq_ok_iff.mp h
    obtain rfl := Except.ok.inj h
    exact hchunks _ cs (Failure.unwrap_eq_ok_iff.mp hget) c hc

/-- **Detections point at their text.** For every text, every list of masks and all requested
detectors, if every token of a chunker and every result of a detector has the text between
its positions and no result ends after its chunk: the masks can be applied, and every
detection that is returned has the text of the original text between its positions, for
every order in which the services answer. -/
theorem textContentsDetections_pointsInto {ctx : Context} {text : String}
    {masks : Option (List (ℕ × ℕ))}
    (hmasks : ∀ mask ∈ masks.getD [], mask.1 ≤ mask.2 ∧ mask.2 ≤ text.length)
    (hchunkers : ChunkersSlice ctx) (hslice : DetectorsSlice ctx)
    (hbounds : DetectorsInBounds ctx) :
    ∃ inputs, applyMasks text masks = .ok inputs ∧
      ∀ detectors chunkTimes detectTimes detections,
        textContentsDetections ctx chunkTimes detectTimes detectors inputs = .ok detections →
          ∀ d ∈ detections, d.PointsInto text := by
  obtain ⟨inputs, hinputs⟩ := exists_applyMasks_eq_ok fun mask hmask =>
    (hmasks mask hmask).1
  refine ⟨inputs, hinputs, ?_⟩
  intro detectors chunkTimes detectTimes detections h d hd
  obtain ⟨chunkers, -, h⟩ := Except.bind_eq_ok_iff.mp h
  obtain ⟨chunkMap, hchunkMap, h⟩ := Except.bind_eq_ok_iff.mp h
  obtain ⟨tasks, htasks, h⟩ := Except.bind_eq_ok_iff.mp h
  obtain ⟨results, hresults, h⟩ := Except.bind_eq_ok_iff.mp h
  obtain rfl := Except.ok.inj h
  -- the detection is one of those of some detector
  obtain ⟨found, hfound, hd⟩ := List.mem_flatten.mp ((List.mem_insertionSort _).mp hd)
  obtain ⟨⟨input, request⟩, hinput, htask⟩ :=
    List.mem_map.mp (mem_tasks_of_bufferUnordered hresults hfound)
  have hmem : input ∈ tasks := (List.mem_zipIdx hinput).2.2 ▸ List.getElem_mem _
  obtain ⟨detector, -, hdetector⟩ := Except.exists_of_mem_mapM htasks hmem
  refine pointsInto_of_detectorTask hslice hbounds ?_ htask hd
  intro c hc
  refine liesIn_of_detectorInput ?_ hdetector hc
  intro chunkerId cs hget c hc
  exact liesIn_of_chunks hchunkers (fun input hinput => liesIn_of_applyMasks hinputs hinput)
    (Failure.ofExcept_eq_ok_iff.mp hchunkMap) hget hc

/-! ### Two detectors -/

/-- A chunker that splits after three characters, and drops what follows the sixth. -/
def splitAtThree : ChunkerClient := fun _ input =>
  .ok [⟨0, 3, String.ofList (input.toList.slice 0 3)⟩,
    ⟨3, 6, String.ofList (input.toList.slice 3 6)⟩]

/-- The span from `start` to `stop` of a content, if `accepts` allows it. -/
def spanResults (start stop : ℕ) (accepts : String → Bool) (content : String) :
    List ContentAnalysisResponse :=
  if accepts content then
    [{ start, stop, text := String.ofList (content.toList.slice start stop) }] else []

/-- A detector that reports such spans. -/
def spanDetector (start stop : ℕ) (accepts : String → Bool) : DetectorClient := fun _ contents _ =>
  .ok (contents.map (spanResults start stop accepts))

/-- One detector, `pii`, that uses the chunker above. -/
def spanContext (detector : DetectorClient) : Context where
  config :=
    { chunkers := some ⟨[("three", ⟨{ hostname := "localhost" }⟩)], by decide⟩
      detectors :=
        ⟨[("pii", ⟨{ hostname := "localhost" }, none, "three", 0, .textContents⟩)], by decide⟩ }
  chunkerClient chunkerId := if chunkerId = "three" then some splitAtThree else none
  detectorClient detectorId := if detectorId = "pii" then some detector else none

theorem chunkersSlice_spanContext (detector : DetectorClient) :
    ChunkersSlice (spanContext detector) := by
  intro chunkerId client hclient request input tokens htokens token htoken
  obtain ⟨-, rfl⟩ : chunkerId = "three" ∧ splitAtThree = client := by
    simpa [spanContext] using hclient
  obtain rfl := Except.ok.inj htokens
  rw [List.mem_cons, List.mem_singleton] at htoken
  rcases htoken with rfl | rfl
  · rfl
  · rfl

/-- What the detector reports on a content. -/
theorem forallResults_spanContext {start stop : ℕ} {accepts : String → Bool}
    {P : String → ContentAnalysisResponse → Prop}
    (h : ∀ content, accepts content = true →
      P content { start, stop, text := String.ofList (content.toList.slice start stop) }) :
    ForallResults (spanContext (spanDetector start stop accepts)) P := by
  intro detectorId client hclient request contents params response hresponse p hp result hresult
  obtain ⟨-, rfl⟩ : detectorId = "pii" ∧ spanDetector start stop accepts = client := by
    simpa [spanContext] using hclient
  obtain rfl := Except.ok.inj hresponse
  have hzip : (contents.map id).zip (contents.map (spanResults start stop accepts)) = _ :=
    List.zip_map'
  rw [List.map_id] at hzip
  rw [hzip] at hp
  obtain ⟨content, -, rfl⟩ := List.mem_map.mp hp
  change result ∈ spanResults start stop accepts content at hresult
  rw [spanResults] at hresult
  split_ifs at hresult with haccepts
  · obtain rfl := List.mem_singleton.mp hresult
    exact h content haccepts
  · simp at hresult

/-- The request for `pii`. -/
def piiRequest : IterMap DetectorId DetectorParams := ⟨[("pii", .empty)], by decide⟩

/-- The detections of `pii` on the parts of a text that masks select. The second part is
chunked first. -/
def maskedDetections (detector : DetectorClient) (text : String) (masks : List (ℕ × ℕ)) :
    Except Failure (List Detection) := do
  let inputs ← applyMasks text (some masks)
  textContentsDetections (spanContext detector) (fun _ i => 1 - i) id piiRequest inputs

/-- A detector that reports the second character of a content. -/
def secondCharacter : DetectorClient := spanDetector 1 2 fun content => 2 ≤ content.length

theorem textContentsDetections_pointsInto_twoMasks :
    ∃ detections, maskedDetections secondCharacter "¡Hola, José!" [(1, 5), (7, 11)] =
        .ok detections ∧
      detections.length = 2 ∧ ∀ d ∈ detections, d.PointsInto "¡Hola, José!" := by
  have hmasks : ∀ mask ∈ (some [(1, 5), (7, 11)]).getD [],
      mask.1 ≤ mask.2 ∧ mask.2 ≤ "¡Hola, José!".length := by decide
  have hslice : DetectorsSlice (spanContext secondCharacter) :=
    forallResults_spanContext fun content _ => rfl
  have hbounds : DetectorsInBounds (spanContext secondCharacter) :=
    forallResults_spanContext fun content h => by simpa using h
  obtain ⟨inputs, hinputs, hall⟩ := textContentsDetections_pointsInto hmasks
    (chunkersSlice_spanContext _) hslice hbounds
  have hlength : (maskedDetections secondCharacter "¡Hola, José!"
      [(1, 5), (7, 11)]).toOption.map List.length = some 2 := by decide
  obtain ⟨detections, hrun, hlength⟩ := Option.map_eq_some_iff.mp hlength
  have hrun := Except.toOption_eq_some_iff.mp hrun
  obtain ⟨inputs', hinputs', hdetections⟩ := Except.bind_eq_ok_iff.mp hrun
  obtain rfl : inputs = inputs' := Except.ok.inj (hinputs.symm.trans hinputs')
  exact ⟨detections, hrun, hlength, hall _ _ _ _ hdetections⟩

/-- A detector that reports more than the content it was given. Its text is what the content
has between the positions. -/
def overreach : DetectorClient := spanDetector 0 5 fun content => 2 ≤ content.length

/-- The part ends after three characters and the detection after five: it has the text
`abc`, and its positions are those of `abcde`. -/
theorem textContentsDetections_not_pointsInto_overreach :
    (∀ mask ∈ [(0, 3)], mask.1 ≤ mask.2 ∧ mask.2 ≤ "abcdef".length) ∧
      ChunkersSlice (spanContext overreach) ∧ DetectorsSlice (spanContext overreach) ∧
      ∃ detections, maskedDetections overreach "abcdef" [(0, 3)] = .ok detections ∧
        ∃ d ∈ detections, ¬d.PointsInto "abcdef" := by
  refine ⟨by decide, chunkersSlice_spanContext _, forallResults_spanContext fun content _ => rfl,
    ?_⟩
  have hrun : maskedDetections overreach "abcdef" [(0, 3)] =
      .ok [toDetection "pii" true { stop := 3, text := "abc" }
        { start := 0, stop := 5, text := "abc" }] := by decide
  refine ⟨_, hrun, _, List.mem_singleton_self _, ?_⟩
  rintro ⟨start, stop, slice, hstart, hstop, hslice, htext⟩
  obtain rfl : 0 = start := Option.some.inj hstart
  obtain rfl : 5 = stop := Option.some.inj hstop
  obtain rfl : "abc" = slice := Option.some.inj htext
  exact absurd hslice (by decide)

end GuardrailsOrchestrator
