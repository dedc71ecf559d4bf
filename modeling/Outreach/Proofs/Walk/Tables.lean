import Mathlib.Logic.Function.Basic
import Outreach.Graph.Linear

set_option autoImplicit false

namespace Outreach

inductive Mishap where
  | missing (id : String)
  | negative (id : String)
  deriving DecidableEq, Repr

abbrev Table (α : Type) := String → Option α

namespace Table

variable {α : Type}

def find (table : Table α) (id : String) : Except Mishap α :=
  match table id with
  | some entry => pure entry
  | none => throw (.missing id)

def set (table : Table α) (id : String) (entry : α) : Table α :=
  Function.update table id (some entry)

end Table

structure Tables where
  nodes : Table Node
  followers : Table (List String)
  counters : Table Int

namespace Tables

def ofNodes (nodes : List Node) : Tables :=
  let byId : Table Node := nodes.foldl (fun table node => table.set node.id node) fun _ => none
  { nodes := byId
    followers := fun id => (byId id).map fun _ => []
    counters := fun id => (byId id).map fun _ => 0 }

def draw (tables : Tables) (edge : Edge) : Except Mishap Tables :=
  if (tables.followers edge.source).isSome ∧ (tables.counters edge.target).isSome then do
    let followers ← tables.followers.find edge.source
    let count ← tables.counters.find edge.target
    return { tables with
      followers := tables.followers.set edge.source (followers ++ [edge.target])
      counters := tables.counters.set edge.target (count + 1) }
  else
    return tables

def ofGraph (graph : Graph) : Except Mishap Tables := graph.edges.foldlM draw (ofNodes graph.nodes)

end Tables

structure Tour where
  counters : Table Int
  queue : List String
  visited : List String
  ordered : List Node
  cycleEntries : List String

namespace Tour

def start (counters : Table Int) (entry : String) : Tour :=
  { counters, queue := [entry], visited := [entry], ordered := [], cycleEntries := [] }

def enqueue (tour : Tour) (id : String) : Tour :=
  { tour with queue := tour.queue ++ [id], visited := id :: tour.visited }

def arrive (tour : Tour) (id : String) : Except Mishap Tour := do
  let count ← tour.counters.find id
  if count - 1 < 0 then
    throw (.negative id)
  let counted := { tour with counters := tour.counters.set id (count - 1) }
  return if count - 1 = 0 ∧ id ∉ tour.visited then counted.enqueue id else counted

def emit (tables : Tables) (tour : Tour) (id : String) : Except Mishap Tour := do
  let node ← tables.nodes.find id
  let followers ← tables.followers.find id
  followers.foldlM arrive { tour with ordered := tour.ordered ++ [node] }

def resume? (tables : Tables) (tour : Tour) : Except Mishap (Option String) :=
  tour.ordered.findSomeM? fun node => do
    let followers ← tables.followers.find node.id
    return followers.find? fun id => !tour.visited.contains id

def enter (tour : Tour) (id : String) : Tour :=
  { tour.enqueue id with cycleEntries := tour.cycleEntries ++ [id] }

def round (tables : Tables) (tour : Tour) : Except Mishap (Option Tour) :=
  match tour.queue with
  | id :: rest => do
    let emitted ← emit tables { tour with queue := rest } id
    return some emitted
  | [] => do
    let resumed ← resume? tables tour
    return resumed.map tour.enter

-- How the loop ends. A loop that never ends has no outcome.
inductive Ends (tables : Tables) : Tour → Except Mishap Tour → Prop where
  | finish {tour : Tour} (last : round tables tour = .ok none) : Ends tables tour (.ok tour)
  | mishap {tour : Tour} {mishap : Mishap} (failed : round tables tour = .error mishap) :
      Ends tables tour (.error mishap)
  | again {tour next : Tour} {outcome : Except Mishap Tour}
      (went : round tables tour = .ok (some next)) (later : Ends tables next outcome) :
      Ends tables tour outcome

theorem Ends.unique {tables : Tables} {tour : Tour} {outcome other : Except Mishap Tour}
    (ends : Ends tables tour outcome) (also : Ends tables tour other) : outcome = other := by
  induction ends with
  | finish last =>
    cases also with
    | finish => rfl
    | mishap failed => cases last.symm.trans failed
    | again went => cases last.symm.trans went
  | mishap failed =>
    cases also with
    | finish last => cases failed.symm.trans last
    | mishap alsoFailed =>
      cases failed.symm.trans alsoFailed
      rfl
    | again went => cases failed.symm.trans went
  | again went _ ih =>
    cases also with
    | finish last => cases went.symm.trans last
    | mishap failed => cases went.symm.trans failed
    | again alsoWent later =>
      cases went.symm.trans alsoWent
      exact ih later

end Tour

def Graph.collect (graph : Graph) (tour : Tour) : Linearization :=
  let unreached := graph.nodes.filter fun node => !tour.visited.contains node.id
  { order := tour.ordered ++ unreached
    fallback := { cycleEntries := tour.cycleEntries, unreachable := unreached.map (·.id) } }

inductive Graph.Yields (graph : Graph) (entry : Node) : Except Mishap Linearization → Prop where
  | unmade {mishap : Mishap} (failed : Tables.ofGraph graph = .error mishap) :
      graph.Yields entry (.error mishap)
  | ended {tables : Tables} {outcome : Except Mishap Tour} (made : Tables.ofGraph graph = .ok tables)
      (ends : Tour.Ends tables (Tour.start tables.counters entry.id) outcome) :
      graph.Yields entry (outcome.map graph.collect)

end Outreach
