import Outreach.Text.Half
import Outreach.Value.Basic

set_option autoImplicit false

namespace Outreach

inductive Place where
  | field (name : String)
  | item (index : Nat)
  deriving DecidableEq, Repr

def Place.value : Place → Value
  | .field name => .str name
  | .item index => .int index

inductive FaultKind where
  | missing
  | unreadable
  | notObject
  | notText
  | halfText
  | textTooShort
  | unknownName
  | notDictionary
  | notNumber
  | unreadableNumber
  | notWhole
  | unreadableWhole
  | wholeTooLong
  | fractionalWhole
  | unboundedWhole
  | notTruth
  | unreadableTruth
  | notList
  | unknownLiteral
  deriving DecidableEq, Repr

def FaultKind.name : FaultKind → String
  | .missing => "missing"
  | .unreadable => "json_invalid"
  | .notObject => "model_attributes_type"
  | .notText => "string_type"
  | .halfText => "string_unicode"
  | .textTooShort => "string_too_short"
  | .unknownName => "enum"
  | .notDictionary => "dict_type"
  | .notNumber => "float_type"
  | .unreadableNumber => "float_parsing"
  | .notWhole => "int_type"
  | .unreadableWhole => "int_parsing"
  | .wholeTooLong => "int_parsing_size"
  | .fractionalWhole => "int_from_float"
  | .unboundedWhole => "finite_number"
  | .notTruth => "bool_type"
  | .unreadableTruth => "bool_parsing"
  | .notList => "list_type"
  | .unknownLiteral => "literal_error"

structure Fault where
  kind : FaultKind
  place : List Place
  given : Value

namespace Fault

def value (fault : Fault) : Value :=
  .obj [("type", .str fault.kind.name), ("loc", .list (fault.place.map Place.value))]

def within (place : Place) (fault : Fault) : Fault := { fault with place := place :: fault.place }

end Fault

abbrev Checked (α : Type) := Except (List Fault) α

namespace Checked

def fault {α : Type} (kind : FaultKind) (given : Value) : Checked α :=
  .error [{ kind, place := [], given }]

def within {α : Type} (place : Place) (checked : Checked α) : Checked α :=
  checked.mapError (List.map (Fault.within place))

def ap {α β : Type} (build : Checked (α → β)) (part : Checked α) : Checked β :=
  match build, part with
  | .ok f, .ok a => .ok (f a)
  | .error faults, .ok _ => .error faults
  | .ok _, .error faults => .error faults
  | .error faults, .error others => .error (faults ++ others)

def all {α : Type} : List (Checked α) → Checked (List α)
  | [] => .ok []
  | first :: rest => ap (ap (.ok List.cons) first) (all rest)

def text : Value → Checked String
  | .str s => .ok s
  | value => fault .notText value

def wholeText (s : String) : Checked String :=
  if Text.encodable s then .ok s else fault .halfText (.str s)

def someText (value : Value) : Checked String := do
  let s ← wholeText (← text value)
  if s.isEmpty then fault .textTooShort value else return s

def required {α : Type} (read : Value → Checked α) (fields : Fields) (name : String) : Checked α :=
  within (.field name) <|
    match fields.get? name with
    | some value => read value
    | none => fault .missing (.obj fields)

def optional {α : Type} (read : Value → Checked α) (absent : α) (fields : Fields) (name : String) :
    Checked α :=
  match fields.get? name with
  | some value => within (.field name) (read value)
  | none => .ok absent

def nullable {α : Type} (read : Value → Checked α) : Value → Checked (Option α)
  | .null => .ok none
  | value => (read value).map some

end Checked

end Outreach
