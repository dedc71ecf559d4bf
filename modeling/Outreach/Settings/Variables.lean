import Outreach.Settings.Basic
import Outreach.Value.Reader

set_option autoImplicit false

namespace Outreach

inductive VariableFault where
  | unreadable
  | tooDeep
  | invalid (faults : List Fault)

namespace Settings

variable [Limits]

def listName : String := "cors_origins"

def variableValue (name text : String) : Except VariableFault (Option Value) :=
  if name = listName then
    match Value.read text with
    | .ok .null => .ok none
    | .ok value => .ok (some value)
    | .error .tooDeep => .error .tooDeep
    | .error _ => .error .unreadable
  else .ok (some (.str text))

def ofVariables (pairs : List (String × String)) : Except VariableFault Settings := do
  let named := plainFields (Fields.named .str pairs)
  let fields ← named.filterMapM fun (key, value) => do
    return (← variableValue key.written (value.text?.getD "")).map (key, ·)
  match read fields with
  | .ok settings => return settings
  | .error faults => throw (.invalid faults)

end Settings

end Outreach
