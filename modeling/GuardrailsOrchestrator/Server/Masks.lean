import GuardrailsOrchestrator.Gateway.Streaming
import GuardrailsOrchestrator.Server.Basic

/-!
# Masks on prompts

A completions request is accepted whatever its masks are. They are applied to the prompt when the
input is examined, which is after its detectors have been looked up and before anything is called.
A mask that ends before it starts makes a subtraction underflow then, and the handler panics.

## Main results

* `subtractsInRange_iff` — exactly when an accepted request with input detectors is handled without
  that
-/

namespace GuardrailsOrchestrator

open Calls

section Guarded

variable {G R : Type} {validated : Except Error Unit}
  {inputDetectors outputDetectors : IterMap DetectorId DetectorParams} {headers : HeaderMap}
  {inputs : Except Failure (List (ℕ × String))} {tokens : Handler ℕ}
  {respond : List Detection → ℕ → Except Failure R} {generation : Handler G}
  {outputDetection : G → Handler R} {withoutDetection : G → R}

/-- Input that is examined is the only thing that can panic before a service is called. -/
theorem runs_guarded_panic_iff (hinput : inputDetectors.isEmpty = false) :
    Runs (guarded validated inputDetectors outputDetectors
        (handleInputDetection headers inputDetectors inputs tokens respond) generation
        outputDetection withoutDetection) [] (.error .panic) ↔
      validated = .ok () ∧ inputs = .error .panic := by
  -- the model is asked after a detector was, so that a call has been made
  have hasked : ∀ {w₁ w₂ : List CallEvent}, (if (!inputDetectors.isEmpty) = true then
      Runs (handleInputDetection headers inputDetectors inputs tokens respond) w₁ (.ok none)
      else w₁ = []) → [] ≠ w₁ ++ w₂ := by
    intro w₁ w₂ hscreen
    rw [if_pos (by simp [hinput])] at hscreen
    obtain ⟨parts, -, rfl⟩ := (inputRun_of_runs hscreen).eq_of_none
    simp
  constructor
  · intro hrun
    generalize hw : ([] : List CallEvent) = w at hrun
    generalize hresult : (.error .panic : Except Failure R) = result at hrun
    cases guardedRun_of_runs hrun with
    | rejected hrejected =>
      obtain rfl := Except.error.inj hresult
      cases validated <;> simp [Failure.ofExcept, Except.mapError] at hrejected
    | inputFailed _ hdetection hvalid =>
      obtain rfl := Except.error.inj hresult
      subst hw
      refine ⟨hvalid, ?_⟩
      generalize hfailed : (.error .panic : Except Failure (Option R)) = failed at hdetection
      generalize hw : ([] : List CallEvent) = w at hdetection
      cases inputRun_of_runs hdetection with
      | unasked hinputs => exact hinputs.trans (congrArg _ (Except.error.inj hfailed).symm)
      | failed _ | clear _ | flagged _ _ _ => cases hw
    | flagged _ _ _ => cases hresult
    | ungenerated hscreen _ _ => exact absurd hw (hasked hscreen)
    | generated hscreen _ _ _ => exact absurd hw (hasked hscreen)
  · rintro ⟨hvalid, hinputs⟩
    exact runs_of_guardedRun
      (.inputFailed (by simp [hinput]) (runs_of_inputRun (.unasked hinputs)) hvalid)

end Guarded

section Masks

variable {state : ServerState} {headers : HeaderMap} {request : CompletionsRequest}

/-- The task of a request, with the headers that are passed on. -/
def CompletionsRequest.task (state : ServerState) (headers : HeaderMap)
    (request : CompletionsRequest) : CompletionsDetectionTask :=
  ⟨request, UnaryRequest.passedHeaders state headers⟩

/-- Whether or not the response is streamed, the request is handled without a panic before a
service is called. -/
structure SubtractsInRange (state : ServerState) (headers : HeaderMap)
    (request : CompletionsRequest) : Prop where
  unary : ¬ Runs ((UnaryRequest.completions request).serve state headers) [] (.error .panic)
  streamed : ¬ Runs ((request.task state headers).opening state.gateway) [] (.error .panic)

/-- Where a subtraction underflows, the handlers panic, and only there. -/
theorem runs_panic_iff (hvalid : request.validate = .ok ())
    (hinput : request.detectors.input.isEmpty = false) :
    (Runs ((UnaryRequest.completions request).serve state headers) [] (.error .panic) ↔
      (request.task state headers).validateDetectors state.gateway = .ok () ∧
        applyMasks request.prompt request.promptMasks = .error .panic) ∧
      (Runs ((request.task state headers).opening state.gateway) [] (.error .panic) ↔
        (request.task state headers).validateDetectors state.gateway = .ok () ∧
          applyMasks request.prompt request.promptMasks = .error .panic) := by
  have hunary : Runs ((request.task state headers).handleUnary state.gateway) [] (.error .panic) ↔
      (request.task state headers).validateDetectors state.gateway = .ok () ∧
        applyMasks request.prompt request.promptMasks = .error .panic :=
    runs_guarded_panic_iff hinput
  have hserved : (UnaryRequest.completions request).validate = .ok () := hvalid
  refine ⟨(UnaryRequest.runs_serve_iff hserved).trans (Iff.trans ⟨?_, ?_⟩ hunary),
    runs_guarded_panic_iff hinput⟩
  · rintro ⟨result, htask, heq⟩
    obtain ⟨result', hhandle, rfl⟩ := exists_runs_of_respond htask
    rcases result' with (_ | _) | _
    · cases heq
    · exact hhandle
    · cases heq
  · exact fun hhandle => ⟨_, runs_bind_iff.mpr (Or.inl ⟨_, hhandle, rfl⟩), rfl⟩

/-- **Masks of completions.** An accepted request whose input is to be examined is handled without
underflow exactly if none of its masks ends before it starts or its detectors are rejected, which
is before the masks are applied. -/
theorem subtractsInRange_iff (hvalid : request.validate = .ok ())
    (hinput : request.detectors.input.isEmpty = false) :
    SubtractsInRange state headers request ↔
      (∀ mask ∈ request.promptMasks.getD [], mask.1 ≤ mask.2) ∨
        (request.task state headers).validateDetectors state.gateway ≠ .ok () := by
  obtain ⟨hunary, hstreamed⟩ := @runs_panic_iff state headers request hvalid hinput
  have hmasks : applyMasks request.prompt request.promptMasks = .error .panic ↔
      ¬ ∀ mask ∈ request.promptMasks.getD [], mask.1 ≤ mask.2 := by
    rw [← @exists_applyMasks_eq_ok_iff request.prompt]
    constructor
    · rintro happly ⟨parts, hparts⟩
      exact absurd (happly.symm.trans hparts) (by simp)
    · intro hnone
      exact applyMasks_eq_panic_of_forall_ne fun parts hparts => hnone ⟨parts, hparts⟩
  constructor
  · intro hrange
    by_contra hnot
    obtain ⟨horder, hdetectors⟩ := not_or.mp hnot
    exact hrange.unary (hunary.mpr ⟨not_ne_iff.mp hdetectors, hmasks.mpr horder⟩)
  · intro hcondition
    have hnot : ¬ ((request.task state headers).validateDetectors state.gateway = .ok () ∧
        applyMasks request.prompt request.promptMasks = .error .panic) := by
      rintro ⟨hdetectors, happly⟩
      exact hcondition.elim (hmasks.mp happly) fun hne => hne hdetectors
    exact ⟨mt hunary.mp hnot, mt hstreamed.mp hnot⟩

/-- A server that passes no headers on. -/
def regexServer : ServerState :=
  { gateway := regexContext
    unicodeLower := fun _ _ => []
    passthroughHeaders := ∅ }

theorem subtractsInRange_inOrder :
    (promptMaskRequest (0, 2)).validate = .ok () ∧
      SubtractsInRange regexServer .empty (promptMaskRequest (0, 2)) := by
  have hvalid : (promptMaskRequest (0, 2)).validate = .ok () := rfl
  exact ⟨hvalid, (subtractsInRange_iff hvalid rfl).mpr (Or.inl (by decide))⟩

/-- A mask the wrong way round is accepted, and the handlers panic. With a subtraction that wraps
around it would select everything from its start on. -/
theorem not_subtractsInRange_reversed :
    (promptMaskRequest (1, 0)).validate = .ok () ∧
      (promptMaskRequest (1, 0)).detectors.input.isEmpty = false ∧
      ¬ SubtractsInRange regexServer .empty (promptMaskRequest (1, 0)) ∧
      wrappingSliceCodepoints "Hi" 1 0 = "i" := by
  refine ⟨rfl, rfl, ?_, wrappingSliceCodepoints_of_lt (by decide) (by decide)⟩
  intro hrange
  exact hrange.unary (runs_respond (servicesFinding []) _)

end Masks

end GuardrailsOrchestrator
