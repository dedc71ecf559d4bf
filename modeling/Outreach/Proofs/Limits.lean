import Outreach.Value.Depth

set_option autoImplicit false

namespace Outreach

-- A stack of a thousand calls, where a copy takes two for each level.
@[reducible]
def Limits.usual : Limits where
  copyDepth := 493
  two_le_copyDepth := by decide
  textDepth := 940
  readDepth := 940
  writeDepth := 940
  showDepth := 258

namespace Value

def nested : Nat → Value
  | 0 => .null
  | n + 1 => .list [nested n]

theorem depth_nested (n : Nat) : (nested n).depth = n := by
  induction n with
  | zero => rfl
  | succ n ih => simp [nested, depth, depthItems, ih]

theorem depthItems_le {items : List Value} {n : Nat} :
    depthItems items ≤ n ↔ ∀ item ∈ items, item.depth ≤ n := by
  induction items with
  | nil => simp [depthItems]
  | cons item rest ih => rw [depthItems, Nat.max_le, ih, List.forall_mem_cons]

end Value

theorem Fields.depthFields_set_text (config : Fields) (name text : String) :
    Value.depthFields (config.set name (.str text)) ≤ Value.depthFields config := by
  induction config with
  | nil => exact Nat.le_refl 0
  | cons field rest ih =>
    rw [set]
    split
    · simp only [Value.depthFields, Value.depth]
      omega
    · simp only [Value.depthFields]
      omega

end Outreach
