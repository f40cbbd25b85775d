import GuardrailsOrchestrator.Gateway.Basic
import GuardrailsOrchestrator.StreamContent.Lossless
import GuardrailsOrchestrator.TextContents.Results
import GuardrailsOrchestrator.Validation

/-!
# Streamed and unary detection agree

A text can be sent as a whole, or as a stream of messages. Streamed detection answers chunk by
chunk, and its positions are relative to the chunk: a client has to add the start index of the
response. With that, both ways report the same detections, where the chunkers split the stream as
they split the text.

## Main definitions

* `extractDetectors` — the detectors of a content stream
* `detectionStreams` — its chunk streams, with the detectors that read them
* `processDetectionBatchStream` — its responses

## Main results

* `streamed_detections_agree` — the responses to a stream and to the text as a whole
-/

namespace GuardrailsOrchestrator

open Transition ContentPipeline
open scoped List

/-! ### Requests and responses -/

/-- The detectors of a content stream, from its first message. -/
def extractDetectors :
    List (Except Error StreamingContentDetectionRequest) →
      Except Error (IterMap DetectorId DetectorParams)
  | .ok message :: _ =>
    match message.detectors with
    | some detectors =>
      if detectors.isEmpty then .error (.validation "`detectors` must not be empty")
      else .ok detectors
    | none => .error (.validation "`detectors` is required for the first message")
  | .error error :: _ => .error error
  | [] => .error (.validation "`detectors` is required for the first message")

structure StreamingContentDetectionResponse where
  detections : List ContentAnalysisResponse
  processedIndex : ℕ
  startIndex : ℕ
  deriving DecidableEq

/-- The response for a batch; `none` if it panics. -/
def contentResponse (batch : Batch) : Option StreamingContentDetectionResponse :=
  (batch.2.2.mapM ContentAnalysisResponse.ofDetection).map fun detections =>
    { detections, processedIndex := asU32 batch.2.1.stop, startIndex := asU32 batch.2.1.start }

/-- The responses, up to the first error. -/
def processDetectionBatchStream :
    List (Except Error Batch) → List (Except Error StreamingContentDetectionResponse)
  | [] => []
  | .ok batch :: rest =>
    match contentResponse batch with
    | some response => .ok response :: processDetectionBatchStream rest
    -- the task panics
    | none => []
  | .error error :: _ => [.error error]

/-! ### Detectors by chunker -/

section Groups

variable (ctx : Context) (detectors : IterMap DetectorId DetectorParams)

/-- The detectors of each chunker. -/
def chunkerGroups : List (ChunkerId × List (DetectorId × DetectorParams)) :=
  (detectors.entries.filterMap (ctx.config.getChunkerId ·.1)).dedup.map fun chunkerId =>
    (chunkerId, detectors.entries.filter fun detector =>
      ctx.config.getChunkerId detector.1 = some chunkerId)

/-- The threshold of a detector. -/
def thresholdOf (detector : DetectorId × DetectorParams) : ℚ :=
  (popThreshold detector.2).1.getD
    (((ctx.config.detector detector.1).map (·.defaultThreshold)).getD 0)

/-- The chunk streams of a content stream, with the thresholds of the detectors that read them. -/
def detectionStreams (chunkStream : ChunkerId → List ChunkItem) : Streams :=
  (chunkerGroups ctx detectors).map fun (chunkerId, group) =>
    (chunkStream chunkerId, group.map (thresholdOf ctx))

/-- The detector behind a stream of detections. -/
def detectorAt (source : Source) : Option (DetectorId × DetectorParams) :=
  (chunkerGroups ctx detectors)[source.1]?.bind (·.2[source.2]?)

/-- An answer is that of the detector, to a request with the chunk that it examines. -/
def AnsweredBy (s : ContentPipeline) : PipelineLabel → Prop
  | .detection g (.answer i result) => ∀ d, s.detector (g, i) = some d →
    ∀ chunk, d.stage = .detecting chunk → ∃ detector client request,
      detectorAt ctx detectors (g, i) = some detector ∧
      ctx.detectorClient detector.1 = some client ∧
      result = detectTextContents client request detector.1 (popThreshold detector.2).2 [chunk]
        false
  | _ => True

end Groups

/-! ### What the detectors have sent -/

namespace ContentPipeline

variable {ctx : Context} {detectors : IterMap DetectorId DetectorParams}
  {tokens : ChunkerId → String → List Token}
  {results : DetectorId → DetectorParams → String → List ContentAnalysisResponse}
  {s t : ContentPipeline} {label : PipelineLabel}

/-- What a detector reports on a chunk. -/
def reportedOnChunk (results : DetectorId → DetectorParams → String → List ContentAnalysisResponse)
    (threshold : ℚ) (detector : DetectorId × DetectorParams) (chunk : Chunk) : List Detection :=
  ((results detector.1 (popThreshold detector.2).2 chunk.text).map
    (toDetection detector.1 false chunk)).filter (threshold ≤ ·.score)

/-- Everything that the detectors have sent is what they report. -/
def Reported (ctx : Context) (detectors : IterMap DetectorId DetectorParams)
    (results : DetectorId → DetectorParams → String → List ContentAnalysisResponse)
    (s : ContentPipeline) : Prop :=
  ∀ source d, s.detector source = some d → ∀ chunk found, .ok (0, chunk, found) ∈ d.detections →
    ∃ detector, detectorAt ctx detectors source = some detector ∧
      found = reportedOnChunk results d.threshold detector chunk

theorem mem_of_detectorAt {source : Source} {detector : DetectorId × DetectorParams}
    (h : detectorAt ctx detectors source = some detector) : detector ∈ detectors.entries := by
  obtain ⟨group, hgroup, hdetector⟩ := Option.bind_eq_some_iff.mp h
  have hgroup := List.mem_of_getElem? hgroup
  obtain ⟨chunkerId, -, rfl⟩ := List.mem_map.mp hgroup
  exact List.mem_of_mem_filter (List.mem_of_getElem? hdetector)

/-- With services that answer each text on its own, the answer to a request with one chunk. -/
theorem detectTextContents_singleton (h : ServicesAnswer ctx detectors tokens results)
    {detector : DetectorId × DetectorParams} (hmem : detector ∈ detectors.entries)
    {client : DetectorClient} (hclient : ctx.detectorClient detector.1 = some client)
    (request : ℕ) (params : DetectorParams) (chunk : Chunk) :
    detectTextContents client request detector.1 params [chunk] false =
      .ok ((results detector.1 params chunk.text).map (toDetection detector.1 false chunk)) := by
  obtain ⟨client', hclient', hanswers⟩ := h.detector detector.1 (List.mem_map_of_mem hmem)
  obtain rfl := Option.some.inj (hclient.symm.trans hclient')
  simp [detectTextContents, hanswers]

theorem Reported.start (streams : Streams) :
    Reported ctx detectors results (start streams) := by
  intro source d hd
  obtain ⟨group, hgroup, hdetector⟩ := Option.bind_eq_some_iff.mp hd
  obtain ⟨stream, -, rfl⟩ := List.mem_map.mp (List.mem_of_getElem? hgroup)
  simp [DetectionStreams.start] at hdetector

theorem Reported.step (h : Reported ctx detectors results s)
    (hservices : ServicesAnswer ctx detectors tokens results)
    (hanswered : AnsweredBy ctx detectors s label) (hstep : s.step label = some t) :
    Reported ctx detectors results t := by
  cases steps_of_step hstep with
  | @detection g a group group' hgroup hgroupStep =>
    intro source d' hd' chunk found hfound
    by_cases hsource : source.1 = g
    · subst hsource
      have hlt := (List.getElem?_eq_some_iff.mp hgroup).1
      have hd' : group'.detectors[source.2]? = some d' := by
        simpa [detector, List.getElem?_set_self hlt] using hd'
      obtain ⟨d, hd, hthreshold, hcase⟩ :=
        DetectionStreams.mem_detections_of_step hgroupStep hd' hfound
      have hdetector : s.detector source = some d := by simp [detector, hgroup, hd]
      rw [← hthreshold]
      -- the detections were there before, or this step is the answer they come from
      rcases hcase with hbefore | ⟨chunk', answer, rfl, hstage, hbatch⟩
      · exact h source d hdetector chunk found hbefore
      · obtain ⟨rfl, rfl⟩ : chunk = chunk' ∧ found = _ := by simpa using hbatch
        obtain ⟨detector, client, request, hat, hclient, hanswer⟩ :=
          hanswered d hdetector chunk hstage
        rw [detectTextContents_singleton hservices (mem_of_detectorAt hat) hclient] at hanswer
        obtain rfl := Except.ok.inj hanswer
        exact ⟨detector, hat, rfl⟩
    · rw [detector_eq_of_set hsource] at hd'
      exact h source d' hd' chunk found hfound
  | arrive hsubscribed hitem harrive => exact h
  | close hsubscribed hexhausted hclose => exact h
  | batch hlabel hsubscribed hstate hbatch => exact h

/-! ### Detectors and streams of detections -/

theorem flatMap_range_getElem? {α β : Type} (l : List α) (f : α → List β) :
    ((List.range l.length).flatMap fun i => (l[i]?.map f).getD []) = l.flatMap f := by
  rw [List.flatMap_def, List.flatMap_def]
  congr 1
  apply List.ext_getElem (by simp)
  intro i hi hi'
  simp at hi'
  simp [hi']

/-- Each stream of detections stands for a detector. -/
theorem flatMap_sources {β : Type} (chunkStream : ChunkerId → List ChunkItem)
    (f : DetectorId × DetectorParams → List β) :
    ((sources (detectionStreams ctx detectors chunkStream)).flatMap fun source =>
      ((detectorAt ctx detectors source).map f).getD []) =
        (chunkerGroups ctx detectors).flatMap fun group => group.2.flatMap f := by
  have hsources : sources (detectionStreams ctx detectors chunkStream) =
      (chunkerGroups ctx detectors).zipIdx.flatMap fun p =>
        (List.range p.1.2.length).map fun i => (p.2, i) := by
    rw [sources, detectionStreams, List.zipIdx_map, List.flatMap_map]
    simp
  rw [hsources, List.flatMap_assoc]
  -- the sources of a group are the positions of its detectors
  have hgroup : ∀ p ∈ (chunkerGroups ctx detectors).zipIdx,
      (((List.range p.1.2.length).map fun i => (p.2, i)).flatMap fun source =>
        ((detectorAt ctx detectors source).map f).getD []) = p.1.2.flatMap f := by
    intro p hp
    rw [List.flatMap_map, ← flatMap_range_getElem? p.1.2 f]
    simp [detectorAt, List.mem_zipIdx_iff_getElem?.mp hp]
  rw [List.flatMap_congr hgroup, ← List.flatMap_map Prod.fst fun group : ChunkerId × List _ =>
    group.2.flatMap f, List.zipIdx_map_fst]

/-- Every detector is in the group of its chunker, and in no other. -/
theorem chunkerGroups_perm
    (hconfigured : ∀ id ∈ detectors.keys, ∃ config, ctx.config.detector id = some config) :
    ((chunkerGroups ctx detectors).flatMap (·.2)).Perm detectors.entries := by
  have hentries : detectors.entries.Nodup := List.Nodup.of_map _ detectors.nodup_keys
  rw [chunkerGroups, List.flatMap_map]
  -- the groups are disjoint, and every detector is in that of its chunker
  refine (List.perm_ext_iff_of_nodup ?_ hentries).mpr fun detector => ?_
  · rw [List.nodup_flatMap]
    refine ⟨fun _ _ => hentries.filter _, (List.nodup_dedup _).imp ?_⟩
    intro chunkerId chunkerId' hne detector hdetector hdetector'
    have hid := of_decide_eq_true (List.mem_filter.mp hdetector).2
    have hid' := of_decide_eq_true (List.mem_filter.mp hdetector').2
    exact hne (Option.some.inj (hid.symm.trans hid'))
  · constructor
    · intro h
      obtain ⟨chunkerId, -, hmem⟩ := List.mem_flatMap.mp h
      exact List.mem_of_mem_filter hmem
    · intro hmem
      obtain ⟨config, hconfig⟩ := hconfigured detector.1 (List.mem_map_of_mem hmem)
      have hid : ctx.config.getChunkerId detector.1 = some config.chunkerId := by
        rw [OrchestratorConfig.getChunkerId, ← OrchestratorConfig.detector, hconfig]
        rfl
      refine List.mem_flatMap.mpr ⟨config.chunkerId, ?_, ?_⟩
      · exact List.mem_dedup.mpr (List.mem_filterMap.mpr ⟨detector, hmem, hid⟩)
      · exact List.mem_filter.mpr ⟨hmem, decide_eq_true hid⟩

variable {chunks : List Chunk}

/-- The streams of a request whose chunkers agree on the chunks. -/
def agreeingStreams (ctx : Context) (detectors : IterMap DetectorId DetectorParams)
    (chunks : List Chunk) : Streams :=
  detectionStreams ctx detectors fun _ => chunks.map .ok

theorem eq_of_mem_agreeingStreams :
    ∀ stream ∈ agreeingStreams ctx detectors chunks, stream.1 = chunks.map .ok := by
  intro stream hstream
  obtain ⟨group, -, rfl⟩ := List.mem_map.mp hstream
  rfl

/-- The detector behind a stream of detections has its threshold, and examines its chunks. -/
theorem Sound.of_detectorAt (h : Sound (agreeingStreams ctx detectors chunks) s) {source : Source}
    {d : DetectorTask} (hd : s.detector source = some d)
    {detector : DetectorId × DetectorParams}
    (hat : detectorAt ctx detectors source = some detector) :
    d.threshold = thresholdOf ctx detector ∧
      ∀ chunk found, .ok (0, chunk, found) ∈ d.detections → chunk ∈ chunks := by
  obtain ⟨group, hgroup, hdetector⟩ := Option.bind_eq_some_iff.mp hd
  obtain ⟨⟨chunkerId, members⟩, hmembers, hmember⟩ := Option.bind_eq_some_iff.mp hat
  have hstream : (agreeingStreams ctx detectors chunks)[source.1]? =
      some (chunks.map .ok, members.map (thresholdOf ctx)) := by
    simp [agreeingStreams, detectionStreams, hmembers]
  have hfollows := h.feeds.follows hstream hgroup
  refine ⟨?_, ?_⟩
  · have hthreshold := h.feeds.thresholdAt_eq hd
    rw [thresholdAt, hstream] at hthreshold
    simpa [hmember, eq_comm] using hthreshold
  · intro chunk found hfound
    have hmem := (hfollows.reports hdetector).chunks.subset
      (List.mem_map_of_mem (List.mem_filterMap.mpr ⟨_, hfound, rfl⟩))
    simpa [chunksOf] using hmem

/-- What is in a batch: what each detector reports on its chunk. -/
theorem Sound.batch_perm (h : Sound (agreeingStreams ctx detectors chunks) s)
    (hreported : Reported ctx detectors results s)
    (hconfigured : ∀ id ∈ detectors.keys, ∃ config, ctx.config.detector id = some config)
    (hascending : chunks.Pairwise fun c c' => key c < key c')
    {batch : Batch} (hchunk : batch.2.1 ∈ chunks)
    (hgathers : Gathers (agreeingStreams ctx detectors chunks) s batch) :
    batch.2.2.Perm (detectors.entries.flatMap fun detector =>
      reportedOnChunk results (thresholdOf ctx detector) detector batch.2.1) := by
  obtain ⟨found, hfound, hperm⟩ := hgathers
  have heq : ∀ source ∈ sources (agreeingStreams ctx detectors chunks),
      found source = ((detectorAt ctx detectors source).map fun detector =>
        reportedOnChunk results (thresholdOf ctx detector) detector batch.2.1).getD [] := by
    intro source hsource
    obtain ⟨d, chunk, hd, hmem, hkey, -⟩ := hfound source hsource
    obtain ⟨detector, hat, hlist⟩ := hreported source d hd chunk _ hmem
    obtain ⟨hthreshold, hchunks⟩ := h.of_detectorAt hd hat
    -- no two chunks have the same key
    have hkeys : (chunks.map key).Nodup := List.pairwise_map.mpr (hascending.imp fun hlt => hlt.ne)
    obtain rfl := List.inj_on_of_nodup_map hkeys (hchunks chunk _ hmem) hchunk hkey
    rw [hlist, hat, hthreshold]
    rfl
  rw [List.flatMap_congr heq, agreeingStreams, flatMap_sources, ← List.flatMap_assoc] at hperm
  exact hperm.trans ((chunkerGroups_perm hconfigured).flatMap_right _)

/-- A run that loses nothing ends without an error. -/
theorem Lossless.sent_eq {streams : Streams} (h : Lossless streams s) (hsound : Sound streams s)
    (hended : Ended s.batchTask) : s.batchTask.sent = s.batchTask.sentBatches.map .ok := by
  obtain ⟨batches, hsent⟩ : ∃ batches : List Batch, s.batchTask.sent = batches.map .ok := by
    have hserves := hsound.serves
    cases htask : s.batchTask with
    | forwarding stopped sent =>
      rw [htask] at hserves
      cases hserves with
      | forwarding single ends running =>
        refine ends.resolve_right ?_
        -- an error that has arrived was sent by a detector
        rintro ⟨batches, error, herror⟩
        obtain ⟨⟨source, item⟩, hitem, rfl⟩ := List.mem_map.mp
          (herror ▸ List.mem_append_right _ (List.mem_singleton_self _) :
            .error error ∈ s.arrivals.map (·.2))
        refine h.notMem_stream source error ((hsound.feeds.taken source).subset ?_)
        exact List.mem_map.mpr ⟨_, List.mem_filter.mpr ⟨hitem, by simp⟩, rfl⟩
    | batching state =>
      rw [htask] at hserves hended
      cases hserves with
      | batching tracks relays ends consumes =>
        refine ends.resolve_right ?_
        rintro ⟨hexited, -⟩
        rw [Ended, hexited] at hended
        simp at hended
  rw [BatchTask.sentBatches, hsent, List.filterMap_map,
    show Except.toOption ∘ Except.ok = (some : Batch → Option Batch) from rfl, List.filterMap_some]

end ContentPipeline

/-! ### Responses -/

/-- A result at another position. -/
def ContentAnalysisResponse.shift (offset : ℕ) (value : ContentAnalysisResponse) :
    ContentAnalysisResponse :=
  { value with start := value.start + offset, stop := value.stop + offset }

/-- The detections of a response, with their positions in the whole text. -/
def StreamingContentDetectionResponse.absolute (response : StreamingContentDetectionResponse) :
    List ContentAnalysisResponse :=
  response.detections.map (·.shift response.startIndex)

theorem exists_ofDetection_toDetection (detectorId : DetectorId) (chunk : Chunk)
    (result : ContentAnalysisResponse) :
    ∃ value, ContentAnalysisResponse.ofDetection (toDetection detectorId false chunk result) =
        some value ∧
      ContentAnalysisResponse.ofDetection (toDetection detectorId true chunk result) =
        some (value.shift chunk.start) :=
  ⟨_, rfl, rfl⟩

section Agreement

variable {ctx : Context} {detectors : IterMap DetectorId DetectorParams}
  {tokens : ChunkerId → String → List Token}
  {results : DetectorId → DetectorParams → String → List ContentAnalysisResponse}

/-- What a detector reports on a chunk, as it is returned and with positions in the text. -/
def absoluteResults (results : DetectorId → DetectorParams → String → List ContentAnalysisResponse)
    (threshold : ℚ) (detector : DetectorId × DetectorParams) (chunk : Chunk) :
    List ContentAnalysisResponse :=
  ((reportedOnChunk results threshold detector chunk).filterMap
    ContentAnalysisResponse.ofDetection).map (·.shift chunk.start)

/-- Unary detection reports the same on a chunk, with positions in the text. -/
theorem filterMap_toDetection_eq (threshold : ℚ) (detector : DetectorId × DetectorParams)
    (chunk chunk' : Chunk) (hstart : chunk.start = chunk'.start)
    (htext : chunk.text = chunk'.text) :
    (((results detector.1 (popThreshold detector.2).2 chunk.text).map
      (toDetection detector.1 true chunk)).filter (threshold ≤ ·.score)).filterMap
        ContentAnalysisResponse.ofDetection =
      absoluteResults results threshold detector chunk' := by
  rw [absoluteResults, reportedOnChunk, htext]
  generalize results detector.1 (popThreshold detector.2).2 chunk'.text = found
  induction found with
  | nil => rfl
  | cons result found ih =>
    -- the offset of a chunk does not change a score, so the same results are kept
    have hscore : ∀ applyChunkOffset chunk,
        (toDetection detector.1 applyChunkOffset chunk result).score = result.score := by
      intro applyChunkOffset chunk
      cases applyChunkOffset <;> rfl
    simp only [List.map_cons]
    by_cases hthreshold : threshold ≤ result.score
    · rw [List.filter_cons_of_pos (by simpa [hscore] using hthreshold),
        List.filter_cons_of_pos (by simpa [hscore] using hthreshold)]
      obtain ⟨value, hrelative, habsolute⟩ :=
        exists_ofDetection_toDetection detector.1 chunk' result
      have hsame : toDetection detector.1 true chunk result =
          toDetection detector.1 true chunk' result := by
        simp only [toDetection, if_true, hstart]
      rw [hsame, List.filterMap_cons_some habsolute, List.filterMap_cons_some hrelative,
        List.map_cons, ih]
    · rw [List.filter_cons_of_neg (by simpa [hscore] using hthreshold),
        List.filter_cons_of_neg (by simpa [hscore] using hthreshold), ih]

/-- The response for a batch of what detectors report. -/
theorem contentResponse_eq {batch : Batch}
    (h : ∀ x ∈ batch.2.2, ∃ value, ContentAnalysisResponse.ofDetection x = some value) :
    contentResponse batch = some
      { detections := batch.2.2.filterMap ContentAnalysisResponse.ofDetection
        processedIndex := asU32 batch.2.1.stop
        startIndex := asU32 batch.2.1.start } := by
  rw [contentResponse, Option.mapM_eq_some_filterMap h]
  rfl

theorem processDetectionBatchStream_map_ok {batches : List Batch}
    {response : Batch → StreamingContentDetectionResponse}
    (h : ∀ batch ∈ batches, contentResponse batch = some (response batch)) :
    processDetectionBatchStream (batches.map .ok) = (batches.map response).map .ok := by
  induction batches with
  | nil => rfl
  | cons batch batches ih =>
    have hrest := ih fun b hb => h b (List.mem_cons_of_mem _ hb)
    simp only [List.map_cons, processDetectionBatchStream, h batch List.mem_cons_self, hrest]

/-- What unary detection reports, as it is returned. -/
theorem filterMap_reportedBy {text : String} {chunks : List Chunk}
    {detector : DetectorId × DetectorParams} {config : DetectorConfig}
    (hconfig : ctx.config.detector detector.1 = some config)
    (hchunks : (partChunks tokens config.chunkerId (0, text)).map (fun c => (c.start, c.text)) =
      chunks.map fun c => (c.start, c.text)) :
    (reportedBy tokens results ctx [(0, text)] detector).filterMap
        ContentAnalysisResponse.ofDetection =
      chunks.flatMap (absoluteResults results (thresholdOf ctx detector) detector) := by
  have hthreshold : thresholdOf ctx detector =
      (popThreshold detector.2).1.getD config.defaultThreshold := by
    simp [thresholdOf, hconfig]
  rw [reportedBy, hconfig, hthreshold]
  simp only [detectionsOf, List.flatMap_singleton]
  rw [List.filter_flatMap, List.filterMap_flatMap]
  refine List.flatMap_eq_of_map_eq hchunks fun chunk chunk' heq => ?_
  exact filterMap_toDetection_eq _ detector chunk chunk' (Prod.mk.inj heq).1 (Prod.mk.inj heq).2

/-- The whole text of a content stream. -/
def streamedText (messages : List StreamingContentDetectionRequest) : String :=
  String.join (messages.map (·.content))

theorem isEmpty_of_extractDetectors
    {messages : List (Except Error StreamingContentDetectionRequest)}
    (h : extractDetectors messages = .ok detectors) : detectors.isEmpty = false := by
  match messages, h with
  | .ok message :: rest, h =>
    rw [extractDetectors] at h
    split at h
    · split_ifs at h with hempty
      obtain rfl := Except.ok.inj h
      simpa using hempty
    · cases h
  | .error error :: rest, h => cases h
  | [], h => cases h

theorem sources_ne_nil (hne : detectors.isEmpty = false)
    (hconfigured : ∀ id ∈ detectors.keys, ∃ config, ctx.config.detector id = some config)
    (chunks : List Chunk) : sources (agreeingStreams ctx detectors chunks) ≠ [] := by
  intro hnil
  have hsources := @flatMap_sources ctx detectors _ (fun _ => chunks.map .ok)
    fun detector => [detector]
  rw [← agreeingStreams, hnil, List.flatMap_nil] at hsources
  have hperm := chunkerGroups_perm hconfigured
  simp only [List.flatMap_singleton'] at hsources
  rw [← hsources] at hperm
  rw [IterMap.isEmpty, hperm.nil_eq.symm] at hne
  simp at hne

/-- Whatever a detector reports can be returned. -/
theorem exists_ofDetection_of_mem {threshold : ℚ} {detector : DetectorId × DetectorParams}
    {chunk : Chunk} {x : Detection} (h : x ∈ reportedOnChunk results threshold detector chunk) :
    ∃ value, ContentAnalysisResponse.ofDetection x = some value := by
  obtain ⟨result, -, rfl⟩ := List.mem_map.mp (List.mem_of_mem_filter h)
  exact ⟨_, (exists_ofDetection_toDetection detector.1 chunk result).choose_spec.1⟩

theorem exists_ofDetection_of_reported {inputs : List (ℕ × String)} {x : Detection}
    (h : x ∈ reportedDetections tokens results ctx inputs detectors) :
    ∃ value, ContentAnalysisResponse.ofDetection x = some value := by
  obtain ⟨detector, -, hx⟩ := List.mem_flatMap.mp h
  rw [reportedBy] at hx
  split at hx
  · obtain ⟨chunk, -, hx⟩ := List.mem_flatMap.mp (List.mem_of_mem_filter hx)
    obtain ⟨result, -, rfl⟩ := List.mem_map.mp hx
    exact ⟨_, (exists_ofDetection_toDetection detector.1 chunk result).choose_spec.2⟩
  · simp at hx

/-- **Streamed detection agrees with unary detection.** The detectors are those of the first message
of the stream. The services answer each text on its own, and the chunkers split the stream as they
split the text. In every run that loses nothing, there is a response for each chunk, in order; and
whenever the answers to a request with the whole text arrive, the same detections are reported, once
the start index of each response is added. -/
theorem streamed_detections_agree {messages : List StreamingContentDetectionRequest}
    {chunks : List Chunk} (hdetectors : extractDetectors (messages.map .ok) = .ok detectors)
    (hservices : ServicesAnswer ctx detectors tokens results)
    (hchunks : ∀ id ∈ detectors.keys, ∀ config, ctx.config.detector id = some config →
      (partChunks tokens config.chunkerId (0, streamedText messages)).map
        (fun c => (c.start, c.text)) = chunks.map fun c => (c.start, c.text))
    (hascending : chunks.Pairwise fun c c' => key c < key c')
    (hsmall : ∀ c ∈ chunks, c.start < 2 ^ 32) {w : List PipelineLabel} {s : ContentPipeline}
    (hspares : Meets step Spares (start (agreeingStreams ctx detectors chunks)) w)
    (hanswered : Meets step (AnsweredBy ctx detectors)
      (start (agreeingStreams ctx detectors chunks)) w)
    (hrun : exec step (start (agreeingStreams ctx detectors chunks)) w = some s)
    (hended : Ended s.batchTask) :
    ∃ responses : List StreamingContentDetectionResponse,
      processDetectionBatchStream s.batchTask.sent = responses.map .ok ∧
      responses.map (fun r => (r.startIndex, r.processedIndex)) =
        chunks.map (fun c => (asU32 c.start, asU32 c.stop)) ∧
      ∀ chunkTimes detectTimes, ∃ detections found,
        textContentsDetections ctx chunkTimes detectTimes detectors
          [(0, streamedText messages)] = .ok detections ∧
        detections.mapM ContentAnalysisResponse.ofDetection = some found ∧
        (responses.flatMap (·.absolute)).Perm found := by
  have hne := sources_ne_nil (isEmpty_of_extractDetectors hdetectors) hservices.configured chunks
  have hsound := sound_of_exec hrun
  have hlossless := lossless_of_exec eq_of_mem_agreeingStreams hspares hrun
  have hreported : Reported ctx detectors results s :=
    exec_invariant (fun _ _ _ h hstep => h.step hservices hstep) (.start _) hanswered hrun
  have hsent := hlossless.sentChunks_eq hsound eq_of_mem_agreeingStreams hascending hne hended
  have hbatches : ∀ batch ∈ s.batchTask.sentBatches, batch.2.1 ∈ chunks ∧
      batch.2.2.Perm (detectors.entries.flatMap fun detector =>
        reportedOnChunk results (thresholdOf ctx detector) detector batch.2.1) := by
    intro batch hbatch
    have hchunk : batch.2.1 ∈ chunks := hsent ▸ List.mem_map_of_mem hbatch
    have hgathers := ((hsound.sent (ascending_of_chunks eq_of_mem_agreeingStreams hascending)
      hne).2.1 batch hbatch).2
    exact ⟨hchunk,
      hsound.batch_perm hreported hservices.configured hascending hchunk hgathers⟩
  -- every batch becomes a response
  let response (batch : Batch) : StreamingContentDetectionResponse :=
    { detections := batch.2.2.filterMap ContentAnalysisResponse.ofDetection
      processedIndex := asU32 batch.2.1.stop
      startIndex := asU32 batch.2.1.start }
  have hresponse : ∀ batch ∈ s.batchTask.sentBatches,
      contentResponse batch = some (response batch) := by
    intro batch hbatch
    refine contentResponse_eq fun x hx => ?_
    obtain ⟨detector, -, hx⟩ := List.mem_flatMap.mp ((hbatches batch hbatch).2.mem_iff.mp hx)
    exact exists_ofDetection_of_mem hx
  refine ⟨s.batchTask.sentBatches.map response, ?_, ?_, ?_⟩
  · rw [hlossless.sent_eq hsound hended, processDetectionBatchStream_map_ok hresponse]
  · rw [← hsent, List.map_map, List.map_map]
    rfl
  · intro chunkTimes detectTimes
    obtain ⟨detections, hunary, -, hperm⟩ :=
      exists_textContentsDetections hservices (List.cons_ne_nil _ _) chunkTimes detectTimes
    refine ⟨detections, _, hunary, Option.mapM_eq_some_filterMap fun x hx =>
      exists_ofDetection_of_reported (hperm.mem_iff.mp hx), ?_⟩
    have habsolute : ∀ batch ∈ s.batchTask.sentBatches, (response batch).absolute.Perm
        (detectors.entries.flatMap fun detector =>
          absoluteResults results (thresholdOf ctx detector) detector batch.2.1) := by
      intro batch hbatch
      obtain ⟨hchunk, hfound⟩ := hbatches batch hbatch
      have hstart : asU32 batch.2.1.start = batch.2.1.start := Nat.mod_eq_of_lt (hsmall _ hchunk)
      simpa only [StreamingContentDetectionResponse.absolute, response, hstart,
        List.filterMap_flatMap, List.map_flatMap, absoluteResults] using
        (hfound.filterMap ContentAnalysisResponse.ofDetection).map (·.shift batch.2.1.start)
    have hreportedBy : ∀ detector ∈ detectors.entries,
        chunks.flatMap (absoluteResults results (thresholdOf ctx detector) detector) =
          (reportedBy tokens results ctx [(0, streamedText messages)] detector).filterMap
            ContentAnalysisResponse.ofDetection := by
      intro detector hmem
      have hid : detector.1 ∈ detectors.keys := List.mem_map_of_mem hmem
      obtain ⟨config, hconfig⟩ := hservices.configured detector.1 hid
      exact (filterMap_reportedBy hconfig (hchunks detector.1 hid config hconfig)).symm
    calc (s.batchTask.sentBatches.map response).flatMap (·.absolute)
      _ = s.batchTask.sentBatches.flatMap fun batch => (response batch).absolute :=
        List.flatMap_map _ _ _
      _ ~ s.batchTask.sentBatches.flatMap fun batch => detectors.entries.flatMap fun detector =>
          absoluteResults results (thresholdOf ctx detector) detector batch.2.1 :=
        .flatMap_left _ habsolute
      _ = chunks.flatMap fun chunk => detectors.entries.flatMap fun detector =>
          absoluteResults results (thresholdOf ctx detector) detector chunk := by
        rw [← hsent, List.flatMap_map]
      _ ~ detectors.entries.flatMap fun detector => chunks.flatMap
          (absoluteResults results (thresholdOf ctx detector) detector) :=
        List.flatMap_flatMap_perm _ _ _
      _ = (reportedDetections tokens results ctx [(0, streamedText messages)] detectors).filterMap
            ContentAnalysisResponse.ofDetection := by
        rw [List.flatMap_congr hreportedBy, reportedDetections, List.filterMap_flatMap]
      _ ~ detections.filterMap ContentAnalysisResponse.ofDetection := (hperm.filterMap _).symm

/-! ### A stream of two messages -/

/-- Two sentences. -/
def yesNoTokens : List Token := [⟨0, 4, "Yes."⟩, ⟨4, 8, " No."⟩]

/-- Two detectors that report the start of every text, and a chunker that finds two sentences. -/
def yesNoContext : Context where
  config := sharedContext.config
  chunkerClient _ := some fun _ _ => .ok yesNoTokens
  detectorClient _ := some fun _ contents _ => .ok (contents.map fun text =>
    [{ start := 0, stop := 1, text, score := 1 }])

theorem nodup_yesDetectors : (["hap", "pii"] : List DetectorId).Nodup := by decide

def yesDetectors : IterMap DetectorId DetectorParams :=
  ⟨[("hap", .empty), ("pii", .empty)], nodup_yesDetectors⟩

/-- The messages break off inside the first sentence. -/
def yesMessages : List StreamingContentDetectionRequest :=
  [⟨some yesDetectors, "Ye"⟩, ⟨none, "s. No."⟩]

def yesChunk : Chunk := { stop := 4, text := "Yes." }

def noChunk : Chunk := { start := 4, stop := 8, text := " No." }

/-- What is found on a chunk. -/
def startDetection (detectorId : DetectorId) (chunk : Chunk) : Detection :=
  { start := some 0, stop := some 1, text := some chunk.text, detectorId := some detectorId
    score := 1 }

/-- Both detectors examine both chunks, and the batches are sent. -/
def yesRun : List PipelineLabel :=
  [.detection 0 .subscribe, .detection 0 .subscribe, .detection 0 .subscribe,
    .detection 0 .broadcast, .detection 0 .broadcast, .detection 0 (.receive 1),
    .detection 0 (.receive 0), .detection 0 (.answer 1 (.ok [startDetection "pii" yesChunk])),
    .detection 0 (.receive 1), .detection 0 (.answer 0 (.ok [startDetection "hap" yesChunk])),
    .detection 0 (.answer 1 (.ok [startDetection "pii" noChunk])), .detection 0 (.receive 0),
    .detection 0 (.answer 0 (.ok [startDetection "hap" noChunk])), .arrive (0, 1), .arrive (0, 1),
    .poll, .poll, .poll, .poll, .arrive (0, 0), .poll, .poll, .arrive (0, 0), .poll, .poll, .poll,
    .poll, .actor, .actor, .actor, .actor, .actor, .poll, .poll, .poll, .poll, .actor, .poll,
    .poll, .detection 0 .broadcast, .detection 0 (.receive 0), .detection 0 (.receive 1), .close,
    .poll, .poll, .poll, .poll, .poll, .actor, .actor, .poll]

/-- A detector that examines a chunk answers with its start. -/
def YesAnswers (s : ContentPipeline) : PipelineLabel → Prop
  | .detection g (.answer i result) => ∃ p ∈ [(0, "hap"), (1, "pii")], ∃ c ∈ [yesChunk, noChunk],
    g = 0 ∧ i = p.1 ∧ (s.detector (g, i)).map (·.stage) = some (.detecting c) ∧
      result = .ok [startDetection p.2 c]
  | _ => True

instance (s : ContentPipeline) : ∀ label, Decidable (YesAnswers s label)
  | .detection _ (.answer _ _) => inferInstanceAs (Decidable (∃ _ ∈ _, _))
  | .detection _ .broadcast | .detection _ .subscribe | .detection _ (.receive _)
  | .detection _ (.panic _) | .arrive _ | .close | .poll | .actor | .receive => isTrue trivial

theorem answeredBy_of_yesAnswers (s : ContentPipeline) (label : PipelineLabel)
    (h : YesAnswers s label) : AnsweredBy yesNoContext yesDetectors s label := by
  cases label with
  | detection g a =>
    cases a with
    | answer i result =>
      intro d hd chunk hstage
      obtain ⟨p, hp, c, -, rfl, rfl, hchunk, rfl⟩ := h
      rw [hd, Option.map_some, hstage] at hchunk
      obtain rfl := DetectorStage.detecting.inj (Option.some.inj hchunk)
      rcases List.mem_pair.mp hp with rfl | rfl
      · exact ⟨("hap", .empty), _, 0, by decide, rfl, rfl⟩
      · exact ⟨("pii", .empty), _, 0, by decide, rfl, rfl⟩
    | broadcast | subscribe | receive i | panic i => trivial
  | arrive source | close | poll | actor | receive => trivial

theorem streamed_detections_agree_yes :
    ∃ s, ∃ responses : List StreamingContentDetectionResponse,
      exec step (start (agreeingStreams yesNoContext yesDetectors [yesChunk, noChunk]))
        yesRun = some s ∧
      processDetectionBatchStream s.batchTask.sent = responses.map .ok ∧
      ∃ detections found, textContentsDetections yesNoContext (fun _ i => i) id yesDetectors
          [(0, "Yes. No.")] = .ok detections ∧
        detections.mapM ContentAnalysisResponse.ofDetection = some found ∧
        (responses.flatMap (·.absolute)).Perm found := by
  have hservices : ServicesAnswer yesNoContext yesDetectors (fun _ _ => yesNoTokens)
      (fun _ _ text => [{ start := 0, stop := 1, text, score := 1 }]) := by
    refine ⟨?_, ?_, ?_⟩
    · intro id hid
      rcases List.mem_pair.mp hid with rfl | rfl
      · exact ⟨_, rfl⟩
      · exact ⟨_, rfl⟩
    · exact fun id hid config hconfig hdefault => ⟨_, rfl, fun _ _ => rfl⟩
    · exact fun id hid => ⟨_, rfl, fun _ _ _ => rfl⟩
  have hrun := exec_eq_some_get (by decide : (exec step (start (agreeingStreams
    yesNoContext yesDetectors [yesChunk, noChunk])) yesRun).isSome = true)
  have hanswers : Meets step YesAnswers
      (start (agreeingStreams yesNoContext yesDetectors [yesChunk, noChunk])) yesRun := by
    decide
  -- both detectors use the chunker that splits the text after the first sentence
  have hchunks : ∀ id ∈ yesDetectors.keys, ∀ config,
      yesNoContext.config.detector id = some config →
      (partChunks (fun _ _ => yesNoTokens) config.chunkerId
        (0, streamedText yesMessages)).map (fun c => (c.start, c.text)) =
          [yesChunk, noChunk].map fun c => (c.start, c.text) := by
    intro id hid config hconfig
    rcases List.mem_pair.mp hid with rfl | rfl
    · obtain rfl := Option.some.inj hconfig
      decide
    · obtain rfl := Option.some.inj hconfig
      decide
  obtain ⟨responses, hresponses, -, hagree⟩ := @streamed_detections_agree yesNoContext
    yesDetectors _ _ yesMessages [yesChunk, noChunk] rfl hservices hchunks (by decide)
    (by decide) yesRun _ (by decide) (hanswers.mono answeredBy_of_yesAnswers) hrun (by decide)
  exact ⟨_, responses, hrun, hresponses, hagree (fun _ i => i) id⟩

end Agreement

end GuardrailsOrchestrator
