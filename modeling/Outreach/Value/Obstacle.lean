import Outreach.Failure
import Outreach.Limits
import Outreach.Text.Digit

set_option autoImplicit false

namespace Outreach

def digitCount (n : Int) : Nat := (Nat.toDigits 10 n.natAbs).length

def numeralObstacle? (n : Int) : Option Defect :=
  if Text.numeralLimit < digitCount n then some .numeralTooLong else none

def Double.obstacle? (finite : Bool) (d : Double) : Option Defect :=
  if finite && !d.isFinite then some .unsendable else none

def Key.obstacle? (finite : Bool) : Key → Option Defect
  | .int n => numeralObstacle? n
  | .double d => d.obstacle? finite
  | .text _ | .null | .bool _ => none

namespace Value

mutual

-- What a value cannot be gone through past, from left to right: a numeral with more digits than are
-- written or read, what is no finite number where only these have a notation, or a list or an
-- object with no room left for it.
def obstacle? (finite : Bool) : Nat → Value → Option Defect
  | _, .null | _, .bool _ | _, .str _ => none
  | _, .int n => numeralObstacle? n
  | _, .double d => d.obstacle? finite
  | 0, .list _ | 0, .obj _ => some .tooDeep
  | room + 1, .list items => itemsObstacle? finite room items
  | room + 1, .obj fields => fieldsObstacle? finite room fields

def itemsObstacle? (finite : Bool) (room : Nat) : List Value → Option Defect
  | [] => none
  | item :: rest => (item.obstacle? finite room).or (itemsObstacle? finite room rest)

def fieldsObstacle? (finite : Bool) (room : Nat) : Fields → Option Defect
  | [] => none
  | (key, value) :: rest =>
    ((key.obstacle? finite).or (value.obstacle? finite room)).or (fieldsObstacle? finite room rest)

end

variable [Limits]

def illegible? (value : Value) : Option Defect := value.obstacle? false Limits.textDepth

def text : Value → Except Defect String
  | .str s => .ok s
  | value =>
    match value.illegible? with
    | some defect => .error defect
    | none => .ok value.quoted

end Value

def Vocabulary.unknown [Limits] (vocabulary : Vocabulary) (value : Value) : Failure :=
  .defect (value.illegible?.getD (.unknownName vocabulary value))

def RejectionKind.named [Limits] (value : Value) : Except Failure RejectionKind :=
  match ofValue? value with
  | some kind => .ok kind
  | none => .error (Vocabulary.rejectionKind.unknown value)

end Outreach
