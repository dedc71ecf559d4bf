import Outreach.Step.Contract
import Outreach.Step.Delay

set_option autoImplicit false

namespace Outreach

structure Validity where
  valid : Bool
  missing : List String
  deriving DecidableEq, Repr

namespace Validity

def fieldValid : Value → Bool
  | .null => false
  | .str s => !Text.blank s
  | .list items => !items.isEmpty
  | .double d => !d.isNan
  | _ => true

def ofMissing (missing : List String) : Validity := { valid := missing.isEmpty, missing }

def missingFields (type : StepType) (config : Fields) : List String :=
  type.required.filter fun key => !fieldValid (config.getD key)

def missingOf (type : StepType) (config : Fields) : Except Failure (List String) :=
  match type.special with
  | some .delayWindow => Delay.missing config
  | none => .ok (missingFields type config)

def of (type : StepType) (config : Fields) : Except Failure Validity :=
  (missingOf type config).map ofMissing

def sorted (validity : Validity) : List String :=
  validity.missing.mergeSort (· ≤ ·)

def fields (validity : Validity) : Fields :=
  [("valid", .bool validity.valid), ("missingFields", .strings validity.missing)]

end Validity

end Outreach
