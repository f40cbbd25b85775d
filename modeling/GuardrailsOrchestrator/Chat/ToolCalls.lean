import GuardrailsOrchestrator.Chat.WholeDoc

/-!
# Merging streamed tool calls

A tool call is streamed in parts, which name the call by its index; the parts of several calls may
be interleaved. The first part has the id and the name of the call, and the arguments are
distributed over all parts. The calls are put together again in a hash map by index.

## Main definitions

* `ChatStreaming.mergedCall` — the parts with an index, merged
* `ToolCall.IsSplit` — the parts of one call
* `ChatStreaming.IsInterleaving` — the parts of several calls, in any order

## Main results

* `mergeToolCalls_perm` — the calls that were split are put together again
* `mergeToolCalls_ordered_iff` — when they are returned in the order of their indices
-/

namespace GuardrailsOrchestrator

/-! ### Parts with one index -/

namespace ToolCall

variable (call delta : ToolCall)

@[simp] theorem index_addDelta : (call.addDelta delta).index = call.index := by
  rw [addDelta]
  cases delta.function <;> cases delta.custom <;> by_cases h : delta.id.isEmpty <;>
    simp [h, addFunction, addCustom]

theorem index_foldl_addDelta (deltas : List ToolCall) :
    (deltas.foldl addDelta call).index = call.index := by
  induction deltas generalizing call with
  | nil => rfl
  | cons delta deltas ih => rw [List.foldl_cons, ih, index_addDelta]

end ToolCall

namespace ChatStreaming

/-- The parts of tool calls that the first choices of the chunks have. -/
def toolCallDeltas (chunks : List ChatCompletionChunk) : List ToolCall :=
  chunks.flatMap fun chunk => (chunk.choices.head?.map (·.delta.toolCalls)).getD []

/-- Add a part to the call with its index. A part without index panics. -/
def addToolCall (calls : IterMap ℕ ToolCall) (delta : ToolCall) : Option (IterMap ℕ ToolCall) := do
  let index ← delta.index
  let call := (calls.get? index).getD { index := some index }
  pure (calls.insert index (call.addDelta delta))

theorem mergeToolCalls_eq (order : VisitOrder (ℕ × ToolCall)) (chunks : List ChatCompletionChunk) :
    mergeToolCalls order chunks =
      ((toolCallDeltas chunks).foldlM addToolCall .empty).bind fun calls =>
        let toolCalls := (order.visit calls.entries).map (·.2)
        some (if toolCalls.isEmpty then none else some toolCalls) :=
  rfl

/-- The parts with an index, merged, if there are any. -/
def mergedCall (deltas : List ToolCall) (index : ℕ) : Option ToolCall :=
  match deltas.filter (·.index = some index) with
  | [] => none
  | first :: rest => some ((first :: rest).foldl ToolCall.addDelta { index := some index })

section Merge

variable {deltas : List ToolCall} {index : ℕ}

theorem mergedCall_append_of_ne {delta : ToolCall} (h : delta.index ≠ some index) :
    mergedCall (deltas ++ [delta]) index = mergedCall deltas index := by
  have hfilter : (deltas ++ [delta]).filter (·.index = some index) =
      deltas.filter (·.index = some index) := by
    simp [List.filter_append, h]
  rw [mergedCall, hfilter, mergedCall]

theorem mergedCall_append_of_eq {delta : ToolCall} (h : delta.index = some index) :
    mergedCall (deltas ++ [delta]) index =
      some (((mergedCall deltas index).getD { index := some index }).addDelta delta) := by
  have hfilter : (deltas ++ [delta]).filter (·.index = some index) =
      deltas.filter (·.index = some index) ++ [delta] := by
    simp [List.filter_append, h]
  rw [mergedCall, hfilter, mergedCall]
  cases deltas.filter (·.index = some index) with
  | nil => rfl
  | cons first rest =>
    change some ((first :: rest ++ [delta]).foldl ToolCall.addDelta _) = _
    rw [List.foldl_append]
    rfl

/-- If all parts have an index, the map has the parts of every index merged. -/
theorem exists_mergedCalls (h : ∀ delta ∈ deltas, delta.index.isSome) :
    ∃ calls : IterMap ℕ ToolCall, deltas.foldlM addToolCall .empty = some calls ∧
      ∀ index, calls.get? index = mergedCall deltas index := by
  induction deltas using List.reverseRecOn with
  | nil => exact ⟨.empty, rfl, fun _ => rfl⟩
  | append_singleton deltas delta ih =>
    obtain ⟨calls, hcalls, hget⟩ := ih fun delta hdelta => h delta (by simp [hdelta])
    obtain ⟨i, hi⟩ := Option.isSome_iff_exists.mp (h delta (by simp))
    refine ⟨calls.insert i (((calls.get? i).getD { index := some i }).addDelta delta), ?_, ?_⟩
    · rw [List.foldlM_append, hcalls]
      simp [addToolCall, hi]
    · intro index
      rw [IterMap.get?_insert]
      split_ifs with heq
      · rw [heq, mergedCall_append_of_eq hi, hget]
      · rw [mergedCall_append_of_ne (by simpa [hi] using Ne.symm heq), hget]

/-- A merged call has the index of its parts. -/
theorem index_of_mergedCall {call : ToolCall} (h : mergedCall deltas index = some call) :
    call.index = some index := by
  rw [mergedCall] at h
  split at h
  · simp at h
  · rw [← Option.some.inj h, ToolCall.index_foldl_addDelta]

/-- An index has a merged call exactly when it has parts. -/
theorem isSome_mergedCall_iff :
    (mergedCall deltas index).isSome ↔ ∃ delta ∈ deltas, delta.index = some index := by
  rw [mergedCall]
  split
  · rename_i hnil
    simpa [List.filter_eq_nil_iff] using hnil
  · rename_i first rest hcons
    have hfirst : first ∈ deltas.filter (·.index = some index) := by simp [hcons]
    obtain ⟨hmem, heq⟩ := List.mem_filter.mp hfirst
    exact iff_of_true rfl ⟨first, hmem, of_decide_eq_true heq⟩

end Merge

end ChatStreaming

/-! ### Splitting calls -/

/-- What is called. -/
inductive ToolKind where
  | function
  | custom

namespace ToolKind

/-- A call with its id, the name of what is called, and its arguments or its input. -/
def call (index : ℕ) (id name text : String) : ToolKind → ToolCall
  | .function => { index := some index, id, type := "function", function := some ⟨name, text⟩ }
  | .custom => { index := some index, id, type := "custom", custom := some ⟨name, text⟩ }

/-- A part of a call has a name, which may be empty, and some of the text. -/
def HasPart (name text : String) (part : ToolCall) : ToolKind → Prop
  | .function => part.function = some ⟨name, text⟩ ∧ part.custom = none
  | .custom => part.function = none ∧ part.custom = some ⟨name, text⟩

end ToolKind

namespace ToolCall

/-- A part of a call after the first. It need not repeat the id and the name; the type of a part
is not looked at. -/
structure IsPart (kind : ToolKind) (index : ℕ) (id name text : String) (part : ToolCall) : Prop where
  index : part.index = some index
  id : part.id = "" ∨ part.id = id
  part : kind.HasPart "" text part ∨ kind.HasPart name text part

/-- The parts of a call. The first has its id and its name, and the texts of the parts make up
its text; any of them may be empty. -/
inductive IsSplit : ToolCall → List ToolCall → Prop
  | intro {kind : ToolKind} {index : ℕ} {id name text : String} {texts : List String}
    {first : ToolCall} {rest : List ToolCall} (hid : id ≠ "") (hname : name ≠ "")
    (hindex : first.index = some index) (hfirstId : first.id = id)
    (hfirst : kind.HasPart name text first)
    (hrest : List.Forall₂ (IsPart kind index id name) texts rest) :
    IsSplit (kind.call index id name (text ++ String.join texts)) (first :: rest)

variable {kind : ToolKind} {index : ℕ} {id name text text' : String} {part : ToolCall}

theorem addDelta_first (hid : id ≠ "") (hname : name ≠ "") (hpartId : part.id = id)
    (hpart : kind.HasPart name text part) :
    ({ index := some index } : ToolCall).addDelta part = kind.call index id name text := by
  subst hpartId
  cases kind with
  | function =>
    obtain ⟨hfunction, hcustom⟩ := hpart
    simp [addDelta, addFunction, ToolKind.call, hfunction, hcustom, hid, hname]
  | custom =>
    obtain ⟨hfunction, hcustom⟩ := hpart
    simp [addDelta, addCustom, ToolKind.call, hfunction, hcustom, hid, hname]

/-- A later part adds its text. -/
theorem IsPart.addDelta (h : IsPart kind index id name text' part) :
    (kind.call index id name text).addDelta part = kind.call index id name (text ++ text') := by
  have hid : (if part.id.isEmpty then kind.call index id name text
      else { kind.call index id name text with id := part.id }) = kind.call index id name text := by
    rcases h.id with hempty | rfl
    · simp [hempty]
    · cases kind <;> simp [ToolKind.call]
  rw [ToolCall.addDelta, hid]
  cases kind with
  | function =>
    rcases h.part with ⟨hfunction, hcustom⟩ | ⟨hfunction, hcustom⟩
    · simp [hfunction, hcustom, addFunction, ToolKind.call]
    · by_cases hname : name = "" <;> simp [hfunction, hcustom, addFunction, ToolKind.call, hname]
  | custom =>
    rcases h.part with ⟨hfunction, hcustom⟩ | ⟨hfunction, hcustom⟩
    · simp [hfunction, hcustom, addCustom, ToolKind.call]
    · by_cases hname : name = "" <;> simp [hfunction, hcustom, addCustom, ToolKind.call, hname]

/-- The later parts add their texts. -/
theorem foldl_addDelta_call {texts : List String} {rest : List ToolCall}
    (h : List.Forall₂ (IsPart kind index id name) texts rest) :
    rest.foldl ToolCall.addDelta (kind.call index id name text) =
      kind.call index id name (text ++ String.join texts) := by
  induction h generalizing text with
  | nil => simp
  | cons hpart _ ih => rw [List.foldl_cons, hpart.addDelta, ih, String.join_cons, String.append_assoc]

/-- The parts of a call are merged into the call. -/
theorem IsSplit.foldl_addDelta {call : ToolCall} {parts : List ToolCall} (h : IsSplit call parts) :
    parts ≠ [] ∧ parts.foldl ToolCall.addDelta { index := call.index } = call := by
  cases h with
  | @intro kind index id name text texts first rest hid hname hindex hfirstId hfirst hrest =>
    have hcall : (kind.call index id name (text ++ String.join texts)).index = some index := by
      cases kind <;> rfl
    refine ⟨List.cons_ne_nil _ _, ?_⟩
    rw [hcall, List.foldl_cons, addDelta_first hid hname hfirstId hfirst, foldl_addDelta_call hrest]

theorem IsSplit.exists_index {call : ToolCall} {parts : List ToolCall} (h : IsSplit call parts) :
    ∃ index, call.index = some index := by
  cases h with
  | @intro kind => cases kind <;> exact ⟨_, rfl⟩

end ToolCall

namespace ChatStreaming

/-- The parts of calls with distinct indices, interleaved: the parts with the index of a call are
its parts, in their order, and there are no others. -/
structure IsInterleaving (calls deltas : List ToolCall) : Prop where
  nodup : (calls.map (·.index)).Nodup
  parts : ∀ call ∈ calls, call.IsSplit (deltas.filter (·.index = call.index))
  others : ∀ delta ∈ deltas, ∃ call ∈ calls, delta.index = call.index

section Interleaving

variable {calls deltas : List ToolCall}

/-- The parts of every call are merged into the call. -/
theorem IsInterleaving.mergedCall_eq (h : IsInterleaving calls deltas) {call : ToolCall}
    (hcall : call ∈ calls) {index : ℕ} (hindex : call.index = some index) :
    mergedCall deltas index = some call := by
  obtain ⟨hne, hmerged⟩ := (h.parts call hcall).foldl_addDelta
  rw [hindex] at hne hmerged
  rw [mergedCall]
  split
  · rename_i hnil
    exact absurd hnil hne
  · rename_i first rest hcons
    rw [← hcons, hmerged]

/-- There are no other merged calls. -/
theorem IsInterleaving.mem_iff (h : IsInterleaving calls deltas) {call : ToolCall} :
    (∃ index, mergedCall deltas index = some call) ↔ call ∈ calls := by
  constructor
  · rintro ⟨index, hmerged⟩
    obtain ⟨delta, hdelta, hindex⟩ := isSome_mergedCall_iff.mp (Option.isSome_of_mem hmerged)
    obtain ⟨call', hcall', heq⟩ := h.others delta hdelta
    have hmerged' := h.mergedCall_eq hcall' (heq.symm.trans hindex)
    rwa [Option.some.inj (hmerged.symm.trans hmerged')]
  · intro hcall
    obtain ⟨index, hindex⟩ := (h.parts call hcall).exists_index
    exact ⟨index, h.mergedCall_eq hcall hindex⟩

/-- The merged calls have distinct indices. -/
theorem map_index_entries {merged : IterMap ℕ ToolCall}
    (h : ∀ index, merged.get? index = mergedCall deltas index) :
    (merged.entries.map (·.2)).map (·.index) = merged.keys.map some := by
  rw [IterMap.keys, List.map_map, List.map_map]
  apply List.map_congr_left
  rintro ⟨index, call⟩ hmem
  exact index_of_mergedCall ((h index).symm.trans (IterMap.get?_eq_some_iff.mpr hmem))

/-- The map has the calls that were split. -/
theorem IsInterleaving.entries_perm (h : IsInterleaving calls deltas) {merged : IterMap ℕ ToolCall}
    (hmerged : ∀ index, merged.get? index = mergedCall deltas index) :
    (merged.entries.map (·.2)).Perm calls := by
  have hnodup : (merged.entries.map (·.2)).Nodup := by
    apply List.Nodup.of_map (·.index)
    rw [map_index_entries hmerged]
    exact merged.nodup_keys.map (Option.some_injective _)
  apply (List.perm_ext_iff_of_nodup hnodup h.nodup.of_map).mpr
  intro call
  rw [← h.mem_iff, List.mem_map]
  constructor
  · rintro ⟨⟨index, call⟩, hmem, rfl⟩
    exact ⟨index, (hmerged index).symm.trans (IterMap.get?_eq_some_iff.mpr hmem)⟩
  · rintro ⟨index, hcall⟩
    exact ⟨(index, call), IterMap.get?_eq_some_iff.mp ((hmerged index).trans hcall), rfl⟩

/-- Chunks with one choice at most have the parts of that choice. -/
theorem toolCallDeltas_eq {chunks : List ChatCompletionChunk}
    (h : ∀ chunk ∈ chunks, chunk.choices.length ≤ 1) :
    toolCallDeltas chunks =
      chunks.flatMap fun chunk => chunk.choices.flatMap (·.delta.toolCalls) := by
  apply List.flatMap_congr
  intro chunk hchunk
  match hchoices : chunk.choices with
  | [] => rfl
  | [choice] => simp
  | first :: second :: rest => simpa [hchoices] using h chunk hchunk

end Interleaving

end ChatStreaming

open ChatStreaming

/-- **Merging tool calls.** However calls with distinct indices are split, and however the parts
are interleaved and distributed over chunks with one choice at most, merging returns the calls in
some order, and nothing exactly when there are none. -/
theorem mergeToolCalls_perm {calls : List ToolCall} {chunks : List ChatCompletionChunk}
    (hsingle : ∀ chunk ∈ chunks, chunk.choices.length ≤ 1)
    (h : IsInterleaving calls
      (chunks.flatMap fun chunk => chunk.choices.flatMap (·.delta.toolCalls)))
    (order : VisitOrder (ℕ × ToolCall)) :
    ∃ result, mergeToolCalls order chunks = some result ∧ (result = none ↔ calls = []) ∧
      ∀ merged, result = some merged → merged.Perm calls := by
  rw [← toolCallDeltas_eq hsingle] at h
  obtain ⟨merged, hmerged, hget⟩ := exists_mergedCalls fun delta hdelta => by
    obtain ⟨call, hcall, hindex⟩ := h.others delta hdelta
    obtain ⟨index, hcallIndex⟩ := (h.parts call hcall).exists_index
    rw [hindex, hcallIndex]
    rfl
  -- the map has one entry for each call, in whichever order it is visited
  have hperm : ((order.visit merged.entries).map (·.2)).Perm calls :=
    ((order.perm _).map _).trans (h.entries_perm hget)
  rw [mergeToolCalls_eq, hmerged, Option.bind_some]
  refine ⟨_, rfl, ?_, ?_⟩
  · rw [← List.isEmpty_iff, ← hperm.isEmpty_eq]
    simp
  · intro merged' heq
    split_ifs at heq with hempty
    rw [← Option.some.inj heq]
    exact hperm

/-- Two calls whose parts are interleaved. -/
def interleavedChunks : List ChatCompletionChunk :=
  [{ choices := [{ delta := { toolCalls :=
      [{ index := some 0, id := "a", type := "function", function := some ⟨"get_time", ""⟩ }] } }] },
    {},
    { choices := [{ delta := { toolCalls :=
      [{ index := some 1, id := "b", custom := some ⟨"run", "l"⟩ },
        { index := some 0, function := some ⟨"", "now"⟩ }] } }] },
    { choices := [{ delta := { toolCalls := [{ index := some 1, custom := some ⟨"", "s"⟩ }] } }] }]

/-- The two calls. -/
def interleavedCalls : List ToolCall :=
  [ToolKind.call 0 "a" "get_time" "now" .function, ToolKind.call 1 "b" "run" "ls" .custom]

theorem isInterleaving_interleavedChunks : IsInterleaving interleavedCalls
    (interleavedChunks.flatMap fun chunk => chunk.choices.flatMap (·.delta.toolCalls)) where
  nodup := by decide
  parts := by
    intro call hcall
    rcases List.mem_pair.mp hcall with rfl | rfl
    · have htext : "now" = "" ++ String.join ["now"] := by decide
      rw [htext]
      exact .intro (by decide) (by decide) rfl rfl ⟨rfl, rfl⟩
        (.cons ⟨rfl, Or.inl rfl, Or.inl ⟨rfl, rfl⟩⟩ .nil)
    · have htext : "ls" = "l" ++ String.join ["s"] := by decide
      rw [htext]
      exact .intro (by decide) (by decide) rfl rfl ⟨rfl, rfl⟩
        (.cons ⟨rfl, Or.inl rfl, Or.inl ⟨rfl, rfl⟩⟩ .nil)
  others := by decide

theorem mergeToolCalls_perm_interleavedChunks :
    ∃ result, mergeToolCalls .listed interleavedChunks = some result ∧
      (result = none ↔ interleavedCalls = []) ∧
      ∀ merged, result = some merged → merged.Perm interleavedCalls :=
  mergeToolCalls_perm (by decide) isInterleaving_interleavedChunks .listed

/-! ### The order of calls -/

namespace ChatStreaming

/-- The calls are in the order of their indices. -/
def InIndexOrder (calls : List ToolCall) : Prop :=
  calls.Pairwise fun call call' => ∃ i j, call.index = some i ∧ call'.index = some j ∧ i < j

/-- In whatever order the map is visited, the calls are returned in the order of their indices,
and they are the same. -/
structure MergesInOrder (chunks : List ChatCompletionChunk) : Prop where
  ordered : ∀ order, ∃ result, mergeToolCalls order chunks = some result ∧
    ∀ calls, result = some calls → InIndexOrder calls
  same : ∀ order order', mergeToolCalls order chunks = mergeToolCalls order' chunks

/-- Calls are in order in both directions only if there is one at most. -/
theorem inIndexOrder_and_reverse_iff {calls : List ToolCall} :
    InIndexOrder calls ∧ InIndexOrder calls.reverse ↔ calls.length ≤ 1 := by
  rw [InIndexOrder, InIndexOrder, List.pairwise_reverse]
  match calls with
  | [] => simp
  | [call] => simp
  | first :: second :: rest =>
    refine iff_of_false ?_ (by simp)
    rintro ⟨h, hreverse⟩
    obtain ⟨i, j, hi, hj, hlt⟩ := List.rel_of_pairwise_cons h List.mem_cons_self
    obtain ⟨j', i', hj', hi', hlt'⟩ := List.rel_of_pairwise_cons hreverse List.mem_cons_self
    obtain rfl : i = i' := Option.some.inj (hi.symm.trans hi')
    obtain rfl : j = j' := Option.some.inj (hj.symm.trans hj')
    omega

/-- The calls are in order in every run exactly when there is one at most. -/
theorem mergesInOrder_iff {chunks : List ChatCompletionChunk} {merged : IterMap ℕ ToolCall}
    (hmerged : (toolCallDeltas chunks).foldlM addToolCall .empty = some merged) :
    MergesInOrder chunks ↔ merged.entries.length ≤ 1 := by
  have hresult : ∀ order, mergeToolCalls order chunks = some
      (if ((order.visit merged.entries).map (·.2)).isEmpty then none
        else some ((order.visit merged.entries).map (·.2))) := by
    intro order
    rw [mergeToolCalls_eq, hmerged, Option.bind_some]
  constructor
  · intro h
    have hordered : ∀ order : VisitOrder (ℕ × ToolCall),
        InIndexOrder ((order.visit merged.entries).map (·.2)) := by
      intro order
      obtain ⟨result, hmerge, hordered⟩ := h.ordered order
      rw [hresult] at hmerge
      by_cases hempty : (order.visit merged.entries).map (·.2) = []
      · rw [hempty]
        exact .nil
      · rw [if_neg (by rwa [List.isEmpty_iff])] at hmerge
        exact hordered _ (Option.some.inj hmerge).symm
    -- the map may be visited in either direction, and only a short list ascends in both
    have hreversed := hordered .reversed
    rw [VisitOrder.reversed, List.map_reverse] at hreversed
    have hlisted : InIndexOrder (merged.entries.map (·.2)) := hordered .listed
    have hlength := inIndexOrder_and_reverse_iff.mp ⟨hlisted, hreversed⟩
    rwa [List.length_map] at hlength
  · intro hlength
    have hvisit : ∀ order : VisitOrder (ℕ × ToolCall),
        order.visit merged.entries = merged.entries :=
      fun order => order.visit_of_length_le_one hlength
    simp only [hvisit] at hresult
    refine ⟨?_, ?_⟩
    · intro order
      refine ⟨_, hresult order, ?_⟩
      intro calls heq
      split_ifs at heq
      rw [← Option.some.inj heq]
      exact (inIndexOrder_and_reverse_iff.mpr (by rwa [List.length_map])).1
    · intro order order'
      rw [hresult order, hresult order']

end ChatStreaming

/-- **The order of tool calls.** If all parts have an index, the calls are returned in the order
of their indices in every run exactly when there are not two different indices. -/
theorem mergeToolCalls_ordered_iff {chunks : List ChatCompletionChunk}
    (h : ∀ delta ∈ toolCallDeltas chunks, delta.index.isSome) :
    MergesInOrder chunks ↔ ∀ delta ∈ toolCallDeltas chunks, ∀ delta' ∈ toolCallDeltas chunks,
      delta.index = delta'.index := by
  obtain ⟨merged, hmerged, hget⟩ := exists_mergedCalls h
  have hkeys : ∀ index, index ∈ merged.keys ↔
      ∃ delta ∈ toolCallDeltas chunks, delta.index = some index := by
    intro index
    rw [← isSome_mergedCall_iff, ← hget, IterMap.isSome_get?_iff]
  rw [mergesInOrder_iff hmerged, IterMap.length_entries_le_one_iff]
  constructor
  · intro hsame delta hdelta delta' hdelta'
    obtain ⟨i, hi⟩ := Option.isSome_iff_exists.mp (h delta hdelta)
    obtain ⟨j, hj⟩ := Option.isSome_iff_exists.mp (h delta' hdelta')
    rw [hi, hj, hsame i ((hkeys i).mpr ⟨delta, hdelta, hi⟩) j ((hkeys j).mpr ⟨delta', hdelta', hj⟩)]
  · intro hsame i hi j hj
    obtain ⟨delta, hdelta, hi⟩ := (hkeys i).mp hi
    obtain ⟨delta', hdelta', hj⟩ := (hkeys j).mp hj
    rw [hsame delta hdelta delta' hdelta', hj] at hi
    exact (Option.some.inj hi).symm

/-- A chunk with the first parts of calls. -/
def callsChunk (indices : List ℕ) : ChatCompletionChunk :=
  { choices := [{ delta := { toolCalls := indices.map fun index =>
      { index := some index, id := "a", function := some ⟨"get_time", ""⟩ } } }] }

theorem mergeToolCalls_ordered_oneCall : MergesInOrder [callsChunk [3, 3]] :=
  (mergeToolCalls_ordered_iff (by decide)).mpr (by decide)

/-- Two calls may be returned the other way round. -/
theorem not_mergesInOrder_twoCalls :
    (∀ delta ∈ toolCallDeltas [callsChunk [0, 1]], delta.index.isSome) ∧
      ¬ MergesInOrder [callsChunk [0, 1]] := by
  refine ⟨by decide, ?_⟩
  intro h
  have hsame := h.same .listed .reversed
  revert hsame
  decide

end GuardrailsOrchestrator
