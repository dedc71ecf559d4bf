import Outreach.Sort.Basic

set_option autoImplicit false

namespace Outreach.Sort

def leap (goesOn : Nat → Option Bool) (most last step : Nat) : Option (Nat × Nat) :=
  if step < most then
    match goesOn step with
    | none => none
    | some true => leap goesOn most step (2 * step + 1)
    | some false => some (last, step)
  else some (last, most)
  termination_by most - step

def search (beyond : Nat → Option Bool) (count hint : Nat) : Option Nat :=
  match beyond hint with
  | none => none
  | some true =>
    (leap (fun step => beyond (hint - step)) (hint + 1) 0 1).bind fun (last, step) =>
      halve beyond (hint + 1 - step) (hint - last)
  | some false =>
    (leap (fun step => (beyond (hint + step)).map (!·)) (count - hint) 0 1).bind
      fun (last, step) => halve beyond (hint + last + 1) (hint + step)

def upTo? {α : Type} (less : Comparison α) (item : α) (sorted : List α) (hint : Nat) :
    Option Nat :=
  search (isAfter less item sorted) sorted.length hint

def below? {α : Type} (less : Comparison α) (item : α) (sorted : List α) (hint : Nat) :
    Option Nat :=
  search (fun place => (sorted[place]?.bind (less · item)).map (!·)) sorted.length hint

inductive Pace where
  | single (left right : Nat)
  | stretch

def shortStretch : Nat := 7

def eager (patience : Nat) : Nat := if 1 < patience then patience - 1 else patience

abbrev Merged (α : Type) := Option (List α × Nat)

-- Merges from the front. Of the left run more than one item is left, of the right one at least;
-- what is merged already stands in `done`, last item first.
def mergeFront {α : Type} (less : Comparison α) :
    Nat → Nat → Pace → List α → List α → List α → Merged α
  | fuel + 1, patience, .single wonLeft wonRight, a :: left, b :: right, done =>
    match less b a with
    | none => none
    | some true =>
      if right.isEmpty then some ((b :: done).reverse ++ a :: left, patience)
      else if patience ≤ wonRight + 1 then
        mergeFront less fuel (patience + 1) .stretch (a :: left) right (b :: done)
      else mergeFront less fuel patience (.single 0 (wonRight + 1)) (a :: left) right (b :: done)
    | some false =>
      if left.length = 1 then some ((a :: done).reverse ++ b :: right ++ left, patience)
      else if patience ≤ wonLeft + 1 then
        mergeFront less fuel (patience + 1) .stretch left (b :: right) (a :: done)
      else mergeFront less fuel patience (.single (wonLeft + 1) 0) left (b :: right) (a :: done)
  | fuel + 1, patience, .stretch, left, b :: right, done =>
    let patience := eager patience
    match upTo? less b left 0 with
    | none => none
    | some fromLeft =>
      let done := (left.take fromLeft).reverse ++ done
      match left.drop fromLeft with
      -- Reached only where the comparison is no order: the left run is used up.
      | [] => some (done.reverse ++ b :: right, patience)
      | a :: left =>
        if left.isEmpty && 0 < fromLeft then some (done.reverse ++ b :: right ++ [a], patience)
        else if right.isEmpty then some ((b :: done).reverse ++ a :: left, patience)
        else
          match below? less a right 0 with
          | none => none
          | some fromRight =>
            let done := (right.take fromRight).reverse ++ b :: done
            let right := right.drop fromRight
            if right.isEmpty then some (done.reverse ++ a :: left, patience)
            else if left.length = 1 then some ((a :: done).reverse ++ right ++ left, patience)
            else if shortStretch ≤ fromLeft || shortStretch ≤ fromRight then
              mergeFront less fuel patience .stretch left right (a :: done)
            else mergeFront less fuel (patience + 1) (.single 0 0) left right (a :: done)
  | _, patience, _, left, right, done => some (done.reverse ++ left ++ right, patience)

-- Merges from the back. The runs are given last item first; of the right run more than one item is
-- left, of the left one at least. What is merged already stands in `done`.
def mergeBack {α : Type} (less : Comparison α) :
    Nat → Nat → Pace → List α → List α → List α → Merged α
  | fuel + 1, patience, .single wonLeft wonRight, a :: left, b :: right, done =>
    match less b a with
    | none => none
    | some true =>
      if left.isEmpty then some ((b :: right).reverse ++ a :: done, patience)
      else if patience ≤ wonLeft + 1 then
        mergeBack less fuel (patience + 1) .stretch left (b :: right) (a :: done)
      else mergeBack less fuel patience (.single (wonLeft + 1) 0) left (b :: right) (a :: done)
    | some false =>
      if right.length = 1 then some (right ++ (a :: left).reverse ++ b :: done, patience)
      else if patience ≤ wonRight + 1 then
        mergeBack less fuel (patience + 1) .stretch (a :: left) right (b :: done)
      else mergeBack less fuel patience (.single 0 (wonRight + 1)) (a :: left) right (b :: done)
  | fuel + 1, patience, .stretch, left, b :: right, done =>
    let patience := eager patience
    match upTo? less b left.reverse (left.length - 1) with
    | none => none
    | some kept =>
      let fromLeft := left.length - kept
      let done := (left.take fromLeft).reverse ++ done
      match left.drop fromLeft with
      | [] => some ((b :: right).reverse ++ done, patience)
      | a :: left =>
        if right.length = 1 then some (right ++ (a :: left).reverse ++ b :: done, patience)
        else
          match below? less a right.reverse (right.length - 1) with
          | none => none
          | some kept =>
            let fromRight := right.length - kept
            let done := (right.take fromRight).reverse ++ b :: done
            let right := right.drop fromRight
            if right.length = 1 && 0 < fromRight then
              some (right ++ (a :: left).reverse ++ done, patience)
            else if right.isEmpty then some ((a :: left).reverse ++ done, patience)
            else if left.isEmpty then some (right.reverse ++ a :: done, patience)
            else if shortStretch ≤ fromLeft || shortStretch ≤ fromRight then
              mergeBack less fuel patience .stretch left right (a :: done)
            else mergeBack less fuel (patience + 1) (.single 0 0) left right (a :: done)
  | _, patience, _, left, right, done => some (left.reverse ++ right.reverse ++ done, patience)

def fromFront {α : Type} (less : Comparison α) (patience : Nat) (left right : List α) : Merged α :=
  match right with
  | [] => some (left, patience)
  | b :: right =>
    if right.isEmpty then some (b :: left, patience)
    else if left.length = 1 then some (b :: right ++ left, patience)
    else mergeFront less (left.length + right.length) patience (.single 0 0) left right [b]

def fromBack {α : Type} (less : Comparison α) (patience : Nat) (left right : List α) : Merged α :=
  match left.reverse with
  | [] => some (right, patience)
  | a :: rest =>
    if rest.isEmpty then some (right ++ [a], patience)
    else if right.length = 1 then some (right ++ rest.reverse ++ [a], patience)
    else mergeBack less (left.length + right.length) patience (.single 0 0) rest right.reverse [a]

def merge? {α : Type} (less : Comparison α) (patience : Nat) (left right : List α) : Merged α :=
  match right.head?, left.getLast? with
  | some first, some last =>
    (upTo? less first left 0).bind fun start =>
      if start = left.length then some (left ++ right, patience)
      else (below? less last right (right.length - 1)).bind fun stop =>
        if stop = 0 then some (left ++ right, patience)
        else
          let inner := left.drop start
          let outer := right.take stop
          (if inner.length ≤ outer.length then fromFront less patience inner outer
            else fromBack less patience inner outer).map fun (merged, patience) =>
              (left.take start ++ merged ++ right.drop stop, patience)
  | _, _ => some (left ++ right, patience)

end Outreach.Sort
