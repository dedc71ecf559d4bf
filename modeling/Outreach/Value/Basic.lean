import Outreach.Value.Key

set_option autoImplicit false

namespace Outreach

inductive Value where
  | null
  | bool (b : Bool)
  | int (n : Int)
  | double (d : Double)
  | str (s : String)
  | list (items : List Value)
  | obj (fields : List (Key × Value))
  deriving Inhabited

abbrev Fields := List (Key × Value)

namespace Fields

def lookup? (fields : Fields) (key : Key) : Option Value :=
  (fields.find? (·.1.same key)).map (·.2)

def get? (fields : Fields) (name : String) : Option Value :=
  (fields.find? (·.1.is name)).map (·.2)

def has (fields : Fields) (name : String) : Bool := (fields.get? name).isSome

def set : Fields → Key → Value → Fields
  | [], key, value => [(key, value)]
  | (k, v) :: rest, key, value =>
    if k.same key then (k, value) :: rest else (k, v) :: set rest key value

def merge (fields other : Fields) : Fields :=
  other.foldl (fun merged field => merged.set field.1 field.2) fields

def getD (fields : Fields) (name : String) : Value := (fields.get? name).getD .null

def named {α : Type} (encode : α → Value) (entries : List (String × α)) : Fields :=
  entries.map fun (name, a) => (name, encode a)

@[simp] theorem get?_nil (name : String) : get? [] name = none := rfl

theorem get?_cons (field : Key × Value) (fields : Fields) (name : String) :
    get? (field :: fields) name =
      if field.1.is name then some field.2 else get? fields name := by
  by_cases h : field.1.is name <;> simp [get?, h]

@[simp] theorem get?_set_self (fields : Fields) (name : String) (value : Value) :
    (fields.set name value).get? name = some value := by
  induction fields with
  | nil => simp [set, get?_cons, Key.is]
  | cons field rest ih =>
    obtain ⟨k, v⟩ := field
    by_cases h : k.is name <;> simp [set, Key.same_text, get?_cons, h, ih]

theorem get?_set_of_ne (fields : Fields) {name other : String} (value : Value)
    (h : other ≠ name) : (fields.set name value).get? other = fields.get? other := by
  induction fields with
  | nil => simp [set, get?_cons, Key.is, Ne.symm h]
  | cons field rest ih =>
    obtain ⟨k, v⟩ := field
    by_cases hk : k.is name
    · cases k <;> simp_all [Key.is, set, Key.same_text, get?_cons]
      simp [Ne.symm h]
    · simp [set, Key.same_text, get?_cons, hk, ih]

end Fields

namespace Value

def truthy : Value → Bool
  | .null => false
  | .bool b => b
  | .int n => n != 0
  | .double d => !d.isZero
  | .str s => !s.isEmpty
  | .list items => !items.isEmpty
  | .obj fields => !fields.isEmpty

def orElse (value other : Value) : Value := if value.truthy then value else other

def text? : Value → Option String
  | .str s => some s
  | _ => none

def ofKey : Key → Value
  | .text s => .str s
  | .null => .null
  | .bool b => .bool b
  | .int n => .int n
  | .double d => .double d

def strings (names : List String) : Value := .list (names.map .str)

def ofOption : Option String → Value
  | none => .null
  | some s => .str s

end Value

end Outreach
