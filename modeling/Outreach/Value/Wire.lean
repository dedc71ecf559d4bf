import Outreach.Text.Half
import Outreach.Value.Obstacle

set_option autoImplicit false

namespace Outreach

def Key.finite : Key → Bool
  | .double d => d.isFinite
  | .text _ | .null | .bool _ | .int _ => true

namespace Value

mutual

def finite : Value → Bool
  | .double d => d.isFinite
  | .list items => finiteItems items
  | .obj fields => finiteFields fields
  | .null | .bool _ | .int _ | .str _ => true

def finiteItems : List Value → Bool
  | [] => true
  | item :: rest => item.finite && finiteItems rest

def finiteFields : Fields → Bool
  | [] => true
  | (key, value) :: rest => key.finite && value.finite && finiteFields rest

end

mutual

def encodable : Value → Bool
  | .str s => Text.encodable s
  | .list items => encodableItems items
  | .obj fields => encodableFields fields
  | .null | .bool _ | .int _ | .double _ => true

def encodableItems : List Value → Bool
  | [] => true
  | item :: rest => item.encodable && encodableItems rest

def encodableFields : Fields → Bool
  | [] => true
  | (key, value) :: rest =>
    Text.encodable key.written && value.encodable && encodableFields rest

end

variable [Limits]

-- The notation comes first, the encoding after it.
def unsendable? (value : Value) : Option Defect :=
  (value.obstacle? true Limits.writeDepth).or (if value.encodable then none else some .unencodable)

def unreadable? (value : Value) : Option Defect := value.obstacle? false Limits.readDepth

mutual

def received : Value → Value
  | .double (.nan _) => .double (.nan 0)
  | .list items => .list (receivedItems items)
  | .obj fields => .obj (receivedFields fields)
  | value => value

def receivedItems : List Value → List Value
  | [] => []
  | item :: rest => item.received :: receivedItems rest

def receivedFields : Fields → Fields
  | [] => []
  | (key, value) :: rest => (key, value.received) :: receivedFields rest

end

end Value

end Outreach
