import GuardrailsOrchestrator.Validation

/-!
# Masks

Which parts of a text the masks of a request select. A mask is a pair of positions, and the parts
are cut out by code points. The endpoint for classification with text generation checks masks
before it applies them, but it measures the text in bytes. The completions endpoint does not look
at masks before it applies them, so a mask may end before it starts.

## Main definitions

* `GuardrailsHttpRequest.MasksSelectText` — every mask selects as much text as it asks for
* `wrappingSliceCodepoints` — what a mask that ends before it starts selects without a check

## Main results

* `masksSelectText_iff` — the masks of an accepted request select text exactly when they end
  within the code points of the text
* `exists_applyMasks_eq_ok_iff` — masks can be applied exactly when none of them ends before it
  starts
-/

namespace GuardrailsOrchestrator

/-! ### Applying masks -/

section ApplyMasks

variable {text : String} {start stop : ℕ}

theorem sliceCodepoints_of_le (h : start ≤ stop) :
    sliceCodepoints text start stop = .ok (String.ofList (text.toList.slice start stop)) :=
  if_pos h

theorem sliceCodepoints_of_lt (h : stop < start) :
    sliceCodepoints text start stop = .error .panic :=
  if_neg (Nat.not_le.mpr h)

theorem length_slice (text : String) (start stop : ℕ) :
    (String.ofList (text.toList.slice start stop)).length =
      min (stop - start) (text.length - start) := by
  rw [String.length_ofList, List.slice, List.length_take, List.length_drop, String.length_toList]

/-- The part that a mask selects, with its offset. -/
def maskedPart (text : String) (mask : ℕ × ℕ) : ℕ × String :=
  (mask.1, String.ofList (text.toList.slice mask.1 mask.2))

/-- Masks that do not end before they start select one part each, in their order. -/
theorem applyMasks_eq_ok {masks : List (ℕ × ℕ)} (hne : masks ≠ [])
    (h : ∀ mask ∈ masks, mask.1 ≤ mask.2) :
    applyMasks text (some masks) = .ok (masks.map (maskedPart text)) := by
  obtain ⟨first, rest, rfl⟩ := List.exists_cons_of_ne_nil hne
  apply Except.mapM_eq_ok_map
  rintro ⟨start, stop⟩ hmask
  simp only
  rw [sliceCodepoints_of_le (h _ hmask)]
  rfl

/-- A mask that ends before it starts cannot be applied. -/
theorem applyMasks_eq_panic {masks : List (ℕ × ℕ)} {mask : ℕ × ℕ} (hmask : mask ∈ masks)
    (h : mask.2 < mask.1) : applyMasks text (some masks) = .error .panic := by
  obtain ⟨first, rest, rfl⟩ := List.exists_cons_of_ne_nil (List.ne_nil_of_mem hmask)
  cases hparts : applyMasks text (some (first :: rest)) with
  | ok parts =>
    obtain ⟨part, -, hpart⟩ := Except.exists_of_mapM_eq_ok hparts hmask
    simp [sliceCodepoints_of_lt h, bind, Except.bind] at hpart
  | error failure =>
    -- whichever mask fails, its slice panics
    obtain ⟨mask', -, hfailure⟩ := Except.exists_of_mapM_eq_error hparts
    by_cases hle : mask'.1 ≤ mask'.2
    · simp [sliceCodepoints_of_le hle, bind, Except.bind] at hfailure
    · obtain rfl : Failure.panic = failure := by
        simpa [sliceCodepoints_of_lt (Nat.lt_of_not_le hle), bind, Except.bind] using hfailure
      rfl

/-- Nothing else can go wrong with masks. -/
theorem applyMasks_eq_panic_of_forall_ne {masks : Option (List (ℕ × ℕ))}
    (h : ∀ parts, applyMasks text masks ≠ .ok parts) : applyMasks text masks = .error .panic := by
  rcases masks with _ | _ | ⟨first, rest⟩
  · exact absurd rfl (h _)
  · exact absurd rfl (h _)
  · by_contra hne
    have horder : ∀ mask ∈ first :: rest, mask.1 ≤ mask.2 := by
      intro mask hmask
      by_contra hlt
      exact hne (applyMasks_eq_panic hmask (Nat.lt_of_not_le hlt))
    exact h _ (applyMasks_eq_ok (List.cons_ne_nil _ _) horder)

/-- Masks can be applied exactly when none of them ends before it starts. -/
theorem exists_applyMasks_eq_ok_iff {masks : Option (List (ℕ × ℕ))} :
    (∃ parts, applyMasks text masks = .ok parts) ↔ ∀ mask ∈ masks.getD [], mask.1 ≤ mask.2 := by
  rcases masks with _ | _ | ⟨first, rest⟩
  · simp [applyMasks]
  · simp [applyMasks]
  · rw [Option.getD_some]
    constructor
    · rintro ⟨parts, hparts⟩ mask hmask
      by_contra hlt
      rw [applyMasks_eq_panic hmask (Nat.lt_of_not_le hlt)] at hparts
      simp at hparts
    · intro h
      exact ⟨_, applyMasks_eq_ok (List.cons_ne_nil _ _) h⟩

end ApplyMasks

/-! ### Classification with text generation -/

namespace GuardrailsHttpRequest

variable {request : GuardrailsHttpRequest}

/-- The masks for the input. -/
def inputMasks (request : GuardrailsHttpRequest) : Option (List (ℕ × ℕ)) :=
  request.guardrailConfig.bind fun config => config.input.bind (·.masks)

/-- The entry of every mask has its start and a text, which is as long as the mask. -/
def MasksSelectText (request : GuardrailsHttpRequest) : Prop :=
  ∃ parts, applyMasks request.inputs request.inputMasks = .ok parts ∧
    ∀ (i : ℕ) (mask : ℕ × ℕ), (request.inputMasks.getD [])[i]? = some mask →
      ∃ t, parts[i]? = some (mask.1, t) ∧ t ≠ "" ∧ t.length = mask.2 - mask.1

/-- The masks of an accepted request are not empty, and they end within the bytes of the text. -/
theorem mask_of_validate (h : request.validate = .ok ()) :
    ∀ mask ∈ request.inputMasks.getD [],
      mask.1 < mask.2 ∧ mask.2 ≤ request.inputs.utf8ByteSize := by
  obtain ⟨-, -, h⟩ := Except.bind_eq_ok_iff.mp h
  obtain ⟨-, -, h⟩ := Except.bind_eq_ok_iff.mp h
  obtain ⟨_, hmasks, -⟩ := Except.bind_eq_ok_iff.mp h
  cases hinput : request.inputMasks with
  | none => simp
  | some masks =>
    rw [inputMasks] at hinput
    simp only [validateMasks, hinput] at hmasks
    obtain ⟨hall, -⟩ := Except.ite_throw_eq_ok_iff.mp hmasks
    rw [Bool.not_eq_true, Bool.not_eq_false', List.all_eq_true] at hall
    intro mask hmask
    have hmask := hall mask hmask
    simp only [Bool.and_eq_true, decide_eq_true_eq] at hmask
    exact ⟨hmask.2, hmask.1.2⟩

end GuardrailsHttpRequest

/-- **Masks of classification.** The masks of an accepted request select the text they ask for
exactly when they end within the code points of the text. -/
theorem masksSelectText_iff {request : GuardrailsHttpRequest} (h : request.validate = .ok ()) :
    request.MasksSelectText ↔
      ∀ mask ∈ request.inputMasks.getD [], mask.2 ≤ request.inputs.length := by
  have hvalid := GuardrailsHttpRequest.mask_of_validate h
  -- every mask of an accepted request selects its part, of which there may be too little
  have hparts : ∀ masks, request.inputMasks = some masks → masks ≠ [] →
      applyMasks request.inputs request.inputMasks =
        .ok (masks.map (maskedPart request.inputs)) := by
    intro masks hmasks hne
    rw [hmasks] at hvalid ⊢
    exact applyMasks_eq_ok hne fun mask hmask => (hvalid mask hmask).1.le
  constructor
  · rintro ⟨parts, happly, hselect⟩ mask hmask
    obtain ⟨i, hi⟩ := List.mem_iff_getElem?.mp hmask
    obtain ⟨t, ht, hne, hlength⟩ := hselect i mask hi
    obtain ⟨masks, hmasks⟩ : ∃ masks, request.inputMasks = some masks := by
      cases hinput : request.inputMasks with
      | none => simp [hinput] at hmask
      | some masks => exact ⟨masks, rfl⟩
    rw [hmasks, Option.getD_some] at hi hmask
    rw [hparts masks hmasks (List.ne_nil_of_mem hmask)] at happly
    rw [← Except.ok.inj happly, List.getElem?_map, hi, Option.map_some, Option.some_inj] at ht
    have hlt := (hvalid mask (by rwa [hmasks])).1
    rw [← (Prod.mk.inj ht).2, length_slice] at hlength
    omega
  · intro hwithin
    cases hmasks : request.inputMasks with
    | none => exact ⟨_, by rw [hmasks]; rfl, by simp [hmasks]⟩
    | some masks =>
      by_cases hne : masks = []
      · subst hne
        exact ⟨_, by rw [hmasks]; rfl, by simp [hmasks]⟩
      · refine ⟨_, hparts masks hmasks hne, ?_⟩
        intro i mask hi
        rw [hmasks, Option.getD_some] at hi
        have hmask : mask ∈ request.inputMasks.getD [] := by
          rw [hmasks]
          exact List.mem_of_getElem? hi
        have hlt := (hvalid mask hmask).1
        have hstop := hwithin mask hmask
        have hlength : (maskedPart request.inputs mask).2.length = mask.2 - mask.1 := by
          rw [maskedPart, length_slice]
          omega
        refine ⟨(maskedPart request.inputs mask).2, ?_, ?_, hlength⟩
        · rw [List.getElem?_map, hi]
          rfl
        · intro hempty
          rw [hempty, String.length_empty] at hlength
          omega

/-- A request with one mask on its text. -/
def maskRequest (inputs : String) (mask : ℕ × ℕ) : GuardrailsHttpRequest :=
  { modelId := "granite"
    inputs
    guardrailConfig := some { input := some { models := .empty, masks := some [mask] } } }

theorem masksSelectText_multiByte :
    (maskRequest "né" (1, 2)).validate = .ok () ∧ (maskRequest "né" (1, 2)).MasksSelectText := by
  have hvalid : (maskRequest "né" (1, 2)).validate = .ok () := by decide
  exact ⟨hvalid, (masksSelectText_iff hvalid).mpr (by decide)⟩

/-- A letter of two bytes has room for a mask behind it, which selects nothing. -/
theorem not_masksSelectText_twoBytes :
    (maskRequest "é" (1, 2)).validate = .ok () ∧
      ¬ (maskRequest "é" (1, 2)).MasksSelectText := by
  refine ⟨by decide, ?_⟩
  rintro ⟨parts, hparts, hselect⟩
  obtain ⟨t, ht, hne, -⟩ := hselect 0 (1, 2) rfl
  obtain rfl : [(1, "")] = parts := Except.ok.inj hparts
  simp only [List.getElem?_cons_zero, Option.some_inj, Prod.mk.injEq, true_and] at ht
  exact hne ht.symm

/-! ### Completions -/

/-- The slice in a build whose subtraction wraps around. -/
def wrappingSliceCodepoints (text : String) (start stop : ℕ) : String :=
  String.ofList ((text.toList.drop start).take (asUsize (stop - start)))

/-- Where the subtraction wraps around, the slice has everything from the start on. -/
theorem wrappingSliceCodepoints_of_lt {text : String} {start stop : ℕ} (h : stop < start)
    (hlength : text.length + start ≤ 2 ^ 64 + stop) :
    wrappingSliceCodepoints text start stop = String.ofList (text.toList.drop start) := by
  have hwraps : text.length - start ≤ asUsize (stop - start) := by
    rw [asUsize]
    omega
  rw [wrappingSliceCodepoints, List.take_of_length_le]
  rwa [List.length_drop, String.length_toList]

def unsuitableInputMessage : String :=
  "Unsuitable input detected. Please check the detected entities on your input and try again " ++
    "with the unsuitable input removed."

/-- A completions request with a mask on its prompt. -/
def promptMaskRequest (mask : ℕ × ℕ) : CompletionsRequest :=
  { model := "granite"
    prompt := "Hi"
    promptMasks := some [mask]
    detectors := { input := ⟨[("regex", .empty)], by simp⟩ } }

end GuardrailsOrchestrator
