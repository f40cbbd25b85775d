import GuardrailsOrchestrator.OpenAi

/-!
# Completion state

What a streaming completion task knows about the messages of the generation server
so far. One task fills the state while another reads it.
-/

namespace GuardrailsOrchestrator

/-- Metadata common to all messages of a completion. -/
structure CompletionMetadata where
  id : String
  created : ℤ
  model : String
  deriving DecidableEq

/-- The state of a streaming completion task: for each choice the messages received
for it, by message index. -/
structure CompletionState (T : Type) where
  metadata : Option CompletionMetadata := none
  completions : OrderedMap ChoiceIndex (OrderedMap ℕ T) := .empty
  usage : Option Usage := none

namespace CompletionState

variable {T : Type}

/-- Sets metadata; only the first call has an effect. -/
def setMetadata (state : CompletionState T) (metadata : CompletionMetadata) : CompletionState T :=
  -- `OnceLock::set` returns an error on later calls, which is ignored
  { state with metadata := state.metadata.or (some metadata) }

/-- Sets usage; only the first call has an effect. -/
def setUsage (state : CompletionState T) (usage : Usage) : CompletionState T :=
  { state with usage := state.usage.or (some usage) }

/-- Adds a message to the messages of its choice. -/
def insertCompletion (state : CompletionState T) (choiceIndex : ChoiceIndex) (messageIndex : ℕ)
    (completion : T) : CompletionState T :=
  { state with
    completions := state.completions.alter choiceIndex fun entry =>
      (entry.getD .empty).insert messageIndex completion }

/-- The messages of a choice, without messages if the choice has no entry. -/
def messages (state : CompletionState T) (choiceIndex : ChoiceIndex) : OrderedMap ℕ T :=
  (state.completions.get? choiceIndex).getD .empty

@[simp] theorem messages_setMetadata (state : CompletionState T) (metadata : CompletionMetadata)
    (choiceIndex : ChoiceIndex) :
    (state.setMetadata metadata).messages choiceIndex = state.messages choiceIndex := rfl

@[simp] theorem messages_setUsage (state : CompletionState T) (usage : Usage)
    (choiceIndex : ChoiceIndex) :
    (state.setUsage usage).messages choiceIndex = state.messages choiceIndex := rfl

theorem messages_of_get? {state : CompletionState T} {choiceIndex : ChoiceIndex}
    {completions : OrderedMap ℕ T} (h : state.completions.get? choiceIndex = some completions) :
    state.messages choiceIndex = completions := by
  rw [messages, h, Option.getD_some]

theorem get?_of_mem_keys {state : CompletionState T} {choiceIndex : ChoiceIndex} {i : ℕ}
    (h : i ∈ (state.messages choiceIndex).keys) :
    state.completions.get? choiceIndex = some (state.messages choiceIndex) := by
  rw [messages] at h ⊢
  cases hentry : state.completions.get? choiceIndex with
  | none => simp [hentry, OrderedMap.keys] at h
  | some completions => rfl

theorem bind_lastKeyValue (state : CompletionState T) (choiceIndex : ChoiceIndex) :
    (state.completions.get? choiceIndex).bind (·.lastKeyValue) =
      (state.messages choiceIndex).lastKeyValue := by
  rw [messages]
  cases state.completions.get? choiceIndex <;> rfl

/-- A message is added to its own choice; the other choices stay as they are. -/
theorem messages_insertCompletion (state : CompletionState T) (choiceIndex : ChoiceIndex)
    (messageIndex : ℕ) (completion : T) (choiceIndex' : ChoiceIndex) :
    (state.insertCompletion choiceIndex messageIndex completion).messages choiceIndex' =
      if choiceIndex' = choiceIndex then
        (state.messages choiceIndex).insert messageIndex completion
      else state.messages choiceIndex' := by
  rw [messages, insertCompletion, OrderedMap.get?_alter]
  simp only [key_nat]
  split_ifs <;> rfl

/-- A choice with messages keeps having messages. -/
theorem entries_messages_insertCompletion_ne_nil {state : CompletionState T}
    {choiceIndex' : ChoiceIndex} (h : (state.messages choiceIndex').entries ≠ [])
    (choiceIndex : ChoiceIndex) (messageIndex : ℕ) (completion : T) :
    ((state.insertCompletion choiceIndex messageIndex completion).messages choiceIndex').entries ≠
      [] := by
  rw [messages_insertCompletion]
  split_ifs
  · exact OrderedMap.entries_alter_ne_nil _ _ _
  · exact h

/-- Every choice with an entry has a message. -/
def Inhabits (state : CompletionState T) : Prop :=
  ∀ choiceIndex completions, state.completions.get? choiceIndex = some completions →
    completions.entries ≠ []

theorem inhabits_insertCompletion {state : CompletionState T} (h : state.Inhabits)
    (choiceIndex : ChoiceIndex) (messageIndex : ℕ) (completion : T) :
    (state.insertCompletion choiceIndex messageIndex completion).Inhabits := by
  intro choiceIndex' completions hget
  rw [insertCompletion, OrderedMap.get?_alter] at hget
  split_ifs at hget
  · obtain rfl := Option.some.inj hget
    exact OrderedMap.entries_alter_ne_nil _ _ _
  · exact h choiceIndex' completions hget

/-- The entries are those of the choices with messages. -/
theorem Inhabits.mem_entries_iff {state : CompletionState T} (h : state.Inhabits)
    {choiceIndex : ChoiceIndex} {completions : OrderedMap ℕ T} :
    (choiceIndex, completions) ∈ state.completions.entries ↔
      completions = state.messages choiceIndex ∧ (state.messages choiceIndex).entries ≠ [] := by
  constructor
  · intro hmem
    have hget := OrderedMap.get?_eq_some_of_mem hmem
    rw [messages_of_get? hget]
    exact ⟨rfl, h choiceIndex completions hget⟩
  · rintro ⟨rfl, hne⟩
    obtain ⟨e, he⟩ := List.exists_mem_of_ne_nil _ hne
    obtain ⟨choiceIndex', hkey, hmem⟩ := OrderedMap.get?_eq_some_iff.mp
      (get?_of_mem_keys (List.mem_map_of_mem he))
    obtain rfl : choiceIndex' = choiceIndex := hkey
    exact hmem

theorem Inhabits.mem_keys_iff {state : CompletionState T} (h : state.Inhabits)
    {choiceIndex : ChoiceIndex} :
    choiceIndex ∈ state.completions.keys ↔ (state.messages choiceIndex).entries ≠ [] := by
  rw [OrderedMap.keys, List.mem_map]
  constructor
  · rintro ⟨e, he, rfl⟩
    exact (h.mem_entries_iff.mp he).2
  · intro hne
    exact ⟨(choiceIndex, state.messages choiceIndex), h.mem_entries_iff.mpr ⟨rfl, hne⟩, rfl⟩

end CompletionState

end GuardrailsOrchestrator
