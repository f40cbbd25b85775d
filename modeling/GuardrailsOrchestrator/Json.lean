import GuardrailsOrchestrator.Lib.Rounding
import Mathlib.Data.Rat.Defs

/-!
# JSON values

The values of `serde_json::Value`. Numbers are rationals: every JSON number that
deserializes is finite, and only its value is ever read. An integer is deserialized as one if it
has 64 bits; other numbers become floating-point numbers.
-/

namespace GuardrailsOrchestrator

/-- A JSON value. Objects keep their members as a list of pairs. -/
inductive Json where
  | null
  | bool (b : Bool)
  | number (q : ℚ)
  | string (s : String)
  | array (items : List Json)
  | object (members : List (String × Json))
  deriving Inhabited

namespace Json

mutual

/-- Structural comparison of values. -/
def beq : Json → Json → Bool
  | .null, .null => true
  | .bool a, .bool b => a == b
  | .number a, .number b => a == b
  | .string a, .string b => a == b
  | .array as, .array bs => beqItems as bs
  | .object as, .object bs => beqMembers as bs
  | _, _ => false

/-- Structural comparison of array items. -/
def beqItems : List Json → List Json → Bool
  | [], [] => true
  | a :: as, b :: bs => beq a b && beqItems as bs
  | _, _ => false

/-- Structural comparison of object members. -/
def beqMembers : List (String × Json) → List (String × Json) → Bool
  | [], [] => true
  | (k, a) :: as, (l, b) :: bs => k == l && beq a b && beqMembers as bs
  | _, _ => false

end

mutual

theorem beq_iff (a b : Json) : beq a b = true ↔ a = b := by
  cases a <;> cases b <;> simp [beq, beqItems_iff, beqMembers_iff]

theorem beqItems_iff (as bs : List Json) : beqItems as bs = true ↔ as = bs := by
  cases as <;> cases bs <;> simp [beqItems, beq_iff, beqItems_iff]

theorem beqMembers_iff (as bs : List (String × Json)) : beqMembers as bs = true ↔ as = bs := by
  match as, bs with
  | [], [] => simp [beqMembers]
  | [], _ :: _ => simp [beqMembers]
  | _ :: _, [] => simp [beqMembers]
  | (k, a) :: as, (l, b) :: bs => simp [beqMembers, beq_iff, beqMembers_iff]

end

instance : DecidableEq Json := fun a b => decidable_of_iff _ (beq_iff a b)

/-- The value as a floating-point number, if it is a number. Integers are kept as integers until
then, and are rounded; other numbers are floating-point numbers already. -/
def asF64 : Json → Option ℚ
  | .number q => some (if q.den = 1 then Rounding.roundInt 53 q.num else q)
  | _ => none

/-- Whether the value is a number that is not rounded. -/
def isF64 : Json → Bool
  | .number q => q.den ≠ 1 ∨ Rounding.lastPlace 53 q.num.natAbs ∣ q.num.natAbs
  | _ => false

theorem map_asF64_eq_some_iff {value : Json} :
    value.asF64.map .number = some value ↔ value.isF64 = true := by
  cases value with
  | number q =>
    by_cases hden : q.den = 1
    · obtain ⟨z, rfl⟩ : ∃ z : ℤ, q = z := ⟨q.num, (Rat.coe_int_num_of_den_eq_one hden).symm⟩
      simp [asF64, isF64, Rounding.roundInt_eq_self_iff]
    · simp [asF64, isF64, hden]
  | _ => simp [asF64, isF64]

end Json

end GuardrailsOrchestrator
