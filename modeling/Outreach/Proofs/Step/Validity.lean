import Outreach.Proofs.Result
import Outreach.Step.Validity

set_option autoImplicit false

namespace Outreach

namespace Delay

variable {value : Value} {config : Fields} {failure : Failure}

def leadingDigits (cs : List Char) : List Char :=
  (sign (cs.dropWhile Text.isBlank)).2.takeWhile Text.isDigit

def overlong : Value → Bool
  | .str s => Text.numeralLimit < (leadingDigits s.toList).length
  | _ => false

def unreadable (config : Fields) : Bool :=
  bounds.any fun bound => overlong (config.getD bound.key)

theorem leadingInt_eq_error_iff {cs : List Char} :
    leadingInt cs = .error failure ↔
      Text.numeralLimit < (leadingDigits cs).length ∧ failure = .defect .numeralTooLong := by
  rw [leadingInt, leadingDigits]
  by_cases long : Text.numeralLimit <
      ((sign (cs.dropWhile Text.isBlank)).2.takeWhile Text.isDigit).length
  · simp [long, eq_comm]
  · simp [long]

theorem amount_eq_error_iff :
    amount value = .error failure ↔ overlong value = true ∧ failure = .defect .numeralTooLong := by
  cases value with
  | str s => simp [amount, overlong, leadingInt_eq_error_iff]
  | _ => simp [amount, overlong]

theorem amounts_eq_error_iff :
    amounts config = .error failure ↔
      unreadable config = true ∧ failure = .defect .numeralTooLong := by
  have fails (bound : Bound) (other : Failure) :
      (do return (bound, ← amount (config.getD bound.key))) =
          (.error other : Except Failure (Bound × Int)) ↔
        overlong (config.getD bound.key) = true ∧ other = .defect .numeralTooLong := by
    simp [bind_eq_error, amount_eq_error_iff, pure, Except.pure]
  rw [amounts, mapM_eq_error_iff fun bound _ => fails bound]
  simp [unreadable]

end Delay

namespace Validity

theorem of_eq_error_iff {type : StepType} {config : Fields} {failure : Failure} :
    Validity.of type config = .error failure ↔
      (type = .delay ∧ Delay.unreadable config = true) ∧ failure = .defect .numeralTooLong := by
  rw [Validity.of, map_eq_error, missingOf]
  cases type with
  | delay => simp [StepType.special, Delay.missing, map_eq_error, Delay.amounts_eq_error_iff]
  | _ => simp [StepType.special]

end Validity

end Outreach
