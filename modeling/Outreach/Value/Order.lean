import Outreach.Text.Half
import Outreach.Value.Basic

set_option autoImplicit false

namespace Outreach.Value

def extent? : Value → Option Extent
  | .bool b => some (.ofInt (if b then 1 else 0))
  | .int n => some (.ofInt n)
  | .double d => some d.extent
  | _ => none

mutual

-- Equality: one, one point zero and true are the same, and objects do not depend on the order of
-- their fields.
def same : Value → Value → Bool
  | .null, .null => true
  | .int a, .int b => a == b
  | .str a, .str b => a == b
  | .double a, .double b => a.same b
  | .list xs, .list ys => sameItems xs ys
  | .obj xs, .obj ys => xs.length == ys.length && sameFields xs ys
  | a, b =>
    match a.extent?, b.extent? with
    | some x, some y => x.equal y
    | _, _ => false

def sameItems : List Value → List Value → Bool
  | [], [] => true
  | x :: xs, y :: ys => x.same y && sameItems xs ys
  | _, _ => false

def sameFields : Fields → Fields → Bool
  | [], _ => true
  | (key, value) :: rest, fields =>
    (match fields.lookup? key with
      | some other => value.same other
      | none => false) && sameFields rest fields

end

mutual

def less? : Value → Value → Option Bool
  | .int a, .int b => some (decide (a < b))
  | .str a, .str b => some (Text.less a b)
  | .list xs, .list ys => lessItems? xs ys
  | a, b =>
    match a.extent?, b.extent? with
    | some x, some y => some (x.less y)
    | _, _ => none

def lessItems? : List Value → List Value → Option Bool
  | [], ys => some (!ys.isEmpty)
  | _ :: _, [] => some false
  | x :: xs, y :: ys => if x.same y then lessItems? xs ys else x.less? y

end

mutual

def definite : Value → Bool
  | .double d => !d.isNan
  | .list items => definiteItems items
  | .null | .bool _ | .int _ | .str _ | .obj _ => true

def definiteItems : List Value → Bool
  | [] => true
  | item :: rest => item.definite && definiteItems rest

end

end Outreach.Value
