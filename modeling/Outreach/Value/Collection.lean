import Outreach.Failure
import Outreach.Text.Half

set_option autoImplicit false

namespace Outreach.Value

def key : Value → Except Defect Key
  | .str s => .ok (.text s)
  | .null => .ok .null
  | .bool b => .ok (.bool b)
  | .int n => .ok (.int n)
  | .double d => .ok (.double d)
  | .list _ | .obj _ => .error .unusableKey

def elements : Value → Except Defect (List Value)
  | .list items => .ok items
  | .str s => .ok ((Text.units s.toList).map fun unit => .str (String.ofList (Text.written unit)))
  | .obj fields => .ok (fields.map fun field => .ofKey field.1)
  | .null | .bool _ | .int _ | .double _ => .error .notCollection

def pair (value : Value) : Except Defect (Key × Value) :=
  match value.elements with
  | .error defect => .error defect
  | .ok [k, v] => k.key.map (·, v)
  | .ok _ => .error .notPairs

def asFields : Value → Except Defect Fields
  | .obj fields => .ok fields
  | value => do
    let items ← value.elements
    let pairs ← items.mapM pair
    return Fields.merge [] pairs

end Outreach.Value
