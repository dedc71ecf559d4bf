import Outreach.Number.Shortest

set_option autoImplicit false

namespace Outreach

inductive Key where
  | text (s : String)
  | null
  | bool (b : Bool)
  | int (n : Int)
  | double (d : Double)
  deriving DecidableEq, Repr

namespace Key

instance : Coe String Key := ⟨Key.text⟩

def extent? : Key → Option Extent
  | .bool b => some (.ofInt (if b then 1 else 0))
  | .int n => some (.ofInt n)
  | .double d => some d.extent
  | .text _ | .null => none

def same : Key → Key → Bool
  | .text a, .text b => a == b
  | .null, .null => true
  | .int a, .int b => a == b
  | .double a, .double b => a.same b
  | a, b =>
    match a.extent?, b.extent? with
    | some x, some y => x.equal y
    | _, _ => false

def is (key : Key) (name : String) : Bool :=
  match key with
  | .text s => s == name
  | _ => false

theorem same_text (key : Key) (name : String) : key.same (.text name) = key.is name := by
  cases key <;> simp [same, is, extent?]

def written : Key → String
  | .text s => s
  | .null => "null"
  | .bool b => if b then "true" else "false"
  | .int n => toString n
  | .double (.nan _) => "NaN"
  | .double (.infinite false) => "Infinity"
  | .double (.infinite true) => "-Infinity"
  | .double d => d.text

end Key

end Outreach
