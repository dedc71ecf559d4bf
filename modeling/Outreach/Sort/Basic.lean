set_option autoImplicit false

namespace Outreach.Sort

abbrev Comparison (α : Type) := α → α → Option Bool

def extend {α : Type} (less : Comparison α) (falling : Bool) (last : α) :
    List α → Option (List α × List α)
  | [] => some ([], [])
  | next :: rest =>
    match less next last with
    | none => none
    | some before =>
      if before = falling then
        (extend less falling next rest).map fun (run, rest) => (next :: run, rest)
      else some ([], next :: rest)

def frontRun {α : Type} (less : Comparison α) : List α → Option (List α × List α)
  | first :: second :: rest =>
    match less second first with
    | none => none
    | some falling =>
      (extend less falling second rest).map fun (run, rest) =>
        let run := first :: second :: run
        (if falling then run.reverse else run, rest)
  | items => some (items, [])

def halve (beyond : Nat → Option Bool) (low high : Nat) : Option Nat :=
  if low < high then
    let middle := low + (high - low) / 2
    match beyond middle with
    | none => none
    | some true => halve beyond low middle
    | some false => halve beyond (middle + 1) high
  else some low
  termination_by high - low

def isAfter {α : Type} (less : Comparison α) (item : α) (sorted : List α) (place : Nat) :
    Option Bool :=
  sorted[place]?.bind (less item)

def insert {α : Type} (less : Comparison α) (sorted : List α) (item : α) : Option (List α) :=
  (halve (isAfter less item sorted) 0 sorted.length).map fun index =>
    sorted.take index ++ item :: sorted.drop index

def sort? {α : Type} (less : Comparison α) (items : List α) : Option (List α) :=
  match frontRun less items with
  | none => none
  | some (run, rest) => rest.foldlM (insert less) run

end Outreach.Sort
