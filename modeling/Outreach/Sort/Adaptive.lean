import Outreach.Sort.Merge

set_option autoImplicit false

namespace Outreach.Sort

-- The least length of a run: the length of the whole, halved until it is below 64. It is one more
-- if a half was not whole on the way.
def leastRun (odd whole : Nat) : Nat :=
  if whole < 64 then whole + odd else leastRun (max odd (whole % 2)) (whole / 2)
  termination_by whole

structure Run (α : Type) where
  start : Nat
  items : List α
  power : Nat

-- The first binary place in which the middles of two neighbours differ, taken as fractions of the
-- whole.
def boundaryPower (whole start left right : Nat) : Nat :=
  let place (middle power : Nat) : Nat := Nat.pow 2 power * middle / (2 * whole)
  let middle := 2 * start + left
  ((List.range (whole.log2 + 2)).find? fun power =>
    place middle power != place (middle + left + right) power).getD 0

def mergeDeeper {α : Type} (less : Comparison α) (power : Nat) :
    Nat → List (Run α) → Option (List (Run α) × Nat)
  | patience, last :: before :: rest =>
    if power < before.power then
      match merge? less patience before.items last.items with
      | none => none
      | some (items, patience) =>
        mergeDeeper less power patience ({ before with items } :: rest)
    else some ({ last with power } :: before :: rest, patience)
  | patience, [last] => some ([{ last with power }], patience)
  | patience, [] => some ([], patience)
  termination_by _ runs => runs.length

def collect {α : Type} (less : Comparison α) (whole : Nat) :
    Nat → Nat → List (Run α) → List α → Option (List (Run α) × Nat)
  | _, patience, runs, [] => some (runs, patience)
  | 0, patience, runs, _ => some (runs, patience)
  | fuel + 1, patience, runs, items => do
    let (front, rest) ← frontRun less items
    let lacking := leastRun 0 whole - front.length
    let run ← (rest.take lacking).foldlM (insert less) front
    let start := whole - items.length
    let power := match runs with
      | [] => 0
      | last :: _ => boundaryPower whole last.start last.items.length run.length
    let (runs, patience) ← mergeDeeper less power patience runs
    collect less whole fuel patience ({ start, items := run, power := 0 } :: runs)
      (rest.drop lacking)

def mergeAll {α : Type} (less : Comparison α) : Nat → List (List α) → Option (List α)
  | _, [] => some []
  | _, [run] => some run
  | patience, last :: before :: [] =>
    (merge? less patience before last).map (·.1)
  | patience, last :: before :: first :: rest =>
    if first.length < last.length then
      match merge? less patience first before with
      | none => none
      | some (run, patience) => mergeAll less patience (last :: run :: rest)
    else
      match merge? less patience before last with
      | none => none
      | some (run, patience) => mergeAll less patience (run :: first :: rest)
  termination_by _ runs => runs.length

def firstPatience : Nat := 7

def adaptive? {α : Type} (less : Comparison α) (items : List α) : Option (List α) :=
  (collect less items.length items.length firstPatience [] items).bind fun (runs, patience) =>
    mergeAll less patience (runs.map (·.items))

end Outreach.Sort
