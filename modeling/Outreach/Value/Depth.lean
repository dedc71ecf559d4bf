import Outreach.Failure
import Outreach.Limits

set_option autoImplicit false

namespace Outreach

namespace Value

mutual

def depth : Value → Nat
  | .list items => depthItems items + 1
  | .obj fields => depthFields fields + 1
  | .null | .bool _ | .int _ | .double _ | .str _ => 0

def depthItems : List Value → Nat
  | [] => 0
  | item :: rest => max item.depth (depthItems rest)

def depthFields : Fields → Nat
  | [] => 0
  | (_, value) :: rest => max value.depth (depthFields rest)

end

variable [Limits]

def copied (value : Value) : Except Defect Value :=
  if value.depth ≤ Limits.copyDepth then .ok value else .error .tooDeep

theorem copied_eq_ok {value copy : Value} :
    value.copied = .ok copy ↔ value.depth ≤ Limits.copyDepth ∧ copy = value := by
  rw [copied]
  split <;> rename_i fits <;> simp [fits, eq_comm]

theorem copied_eq_error {value : Value} {defect : Defect} :
    value.copied = .error defect ↔ Limits.copyDepth < value.depth ∧ defect = .tooDeep := by
  rw [copied, ← Nat.not_le]
  split <;> rename_i fits <;> simp [fits, eq_comm]

theorem copied_eq {value copy : Value} (copied : value.copied = .ok copy) : copy = value :=
  (copied_eq_ok.mp copied).2

end Value

def Fields.copied [Limits] (fields : Fields) : Except Defect Fields :=
  (Value.obj fields).copied.map fun _ => fields

end Outreach
