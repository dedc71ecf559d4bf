import Outreach.Graph.Basic
import Outreach.Step.Catalog
import Outreach.Value.Collection

set_option autoImplicit false

namespace Outreach

inductive Command where
  | rename (name : Option String)
  | addNode (type : Value) (position : Option Position)
  | connect (source target : String)
  | updateConfig (node : String) (config : Value)
  | updatePosition (node : String) (position : Position)
  | deleteNode (node : String)
  | deleteEdge (edge : String)
  | select (node : Option String)

inductive Reply where
  | done
  | node (node : Node)
  | edge (edge : Edge)
  | selection (selection : Selection)

structure Outcome (α : Type) where
  answer : Except Failure α
  graph : Graph
  supply : Supply

def Outcome.map {α β : Type} (f : α → β) (outcome : Outcome α) : Outcome β :=
  { outcome with answer := outcome.answer.map f }

namespace Graph

def touch (graph : Graph) (now : Nat) : Graph := { graph with updated := now }

def rename (graph : Graph) (name : Option String) (now : Nat) : Graph :=
  touch { graph with name := Text.strip (name.getD "") } now

def link (previous : Option Node) (next : String) (supply : Supply) :
    Except EdgeFault (List Edge × Supply) :=
  match previous with
  | none => .ok ([], supply)
  | some previous =>
    if previous.type = .finish then .ok ([], supply)
    else (Edge.create previous.id next supply).map fun (edge, supply) => ([edge], supply)

def addNode [Limits] (graph : Graph) (type : Value) (position : Option Position) (now : Nat)
    (supply : Supply) : Outcome Node :=
  match StepType.find type with
  | .error failure => { answer := .error failure, graph, supply }
  | .ok type =>
    let (node, supply) := Node.create type (Catalog.definition type).defaults position supply
    let grown := { graph with nodes := graph.nodes ++ [node] }
    match link graph.nodes.getLast? node.id supply with
    | .error fault => { answer := .error fault.failure, graph := grown, supply }
    | .ok (edges, supply) =>
      { answer := .ok node, graph := touch { grown with edges := graph.edges ++ edges } now
        supply }

def connect (graph : Graph) (source target : String) (now : Nat) (supply : Supply) :
    Outcome Edge :=
  let refuse failure : Outcome Edge := { answer := .error failure, graph, supply }
  if (graph.findNode source).isNone then refuse (.unknownNode source)
  else if (graph.findNode target).isNone then refuse (.unknownNode target)
  else if source = target then refuse EdgeFault.loop.failure
  else
    match graph.findEdge source target with
    | some edge => { answer := .ok edge, graph, supply }
    | none =>
      match Edge.create source target supply with
      | .error fault => refuse fault.failure
      | .ok (edge, supply) =>
        { answer := .ok edge, graph := touch { graph with edges := graph.edges ++ [edge] } now
          supply }

def modifyNodes (change : Node → Node) (id : String) : List Node → List Node
  | [] => []
  | node :: rest =>
    if node.id = id then change node :: rest else node :: modifyNodes change id rest

def modifyNode (graph : Graph) (id : String) (change : Node → Node) (now : Nat) :
    Except Failure (Node × Graph) :=
  (graph.getNode id).map fun node =>
    (change node, touch { graph with nodes := modifyNodes change id graph.nodes } now)

def updateConfig (graph : Graph) (id : String) (config : Value) (now : Nat) :
    Except Failure (Node × Graph) := do
  let _ ← graph.getNode id
  let fields ← config.asFields.mapError Failure.defect
  graph.modifyNode id (·.configure fields) now

def updatePosition (graph : Graph) (id : String) (position : Position) (now : Nat) :
    Except Failure (Node × Graph) :=
  graph.modifyNode id (·.move position) now

def deleteNode (graph : Graph) (id : String) (now : Nat) : Except Failure Graph :=
  (graph.getNode id).map fun _ =>
    touch { graph with
      nodes := graph.nodes.filter (·.id != id)
      edges := graph.edges.filter (!·.touches id)
      selected := if graph.selected = some id then none else graph.selected } now

def deleteEdge (graph : Graph) (id : String) (now : Nat) : Except Failure Graph :=
  if graph.edges.any (·.id == id) then
    .ok (touch { graph with edges := graph.edges.filter (·.id != id) } now)
  else .error (.notFound "Edge" id)

-- Selecting is no change of the campaign, so the time stays.
def select (graph : Graph) (id : Option String) : Except Failure (Selection × Graph) :=
  match id with
  | none => .ok (Selection.empty, { graph with selected := none })
  | some id => (graph.getNode id).map fun node =>
    let graph := { graph with selected := some node.id }
    (graph.selection, graph)

def fieldText (node : Node) (field : String) : Except Failure (Option String) :=
  match node.config.get? field with
  | none | some .null => .ok none
  | some (.str text) => .ok (some text)
  | some _ => .error (.plain ("字段不是文本字段: " ++ field))

def insertVariable (graph : Graph) (id field variableName : String) (now : Nat) :
    Except Failure (Node × Graph) := do
  let node ← graph.getNode id
  let text ← fieldText node field
  graph.modifyNode id (·.configure [(field, .str (Placeholder.insert text variableName))]) now

def settle {α : Type} (graph : Graph) (supply : Supply) (result : Except Failure (α × Graph)) :
    Outcome α :=
  match result with
  | .ok (answer, changed) => { answer := .ok answer, graph := changed, supply }
  | .error failure => { answer := .error failure, graph, supply }

def run [Limits] (graph : Graph) (command : Command) (now : Nat) (supply : Supply) :
    Outcome Reply :=
  match command with
  | .rename name => { answer := .ok .done, graph := graph.rename name now, supply }
  | .addNode type position => (graph.addNode type position now supply).map .node
  | .connect source target => (graph.connect source target now supply).map .edge
  | .updateConfig node config =>
    (settle graph supply (graph.updateConfig node config now)).map .node
  | .updatePosition node position =>
    (settle graph supply (graph.updatePosition node position now)).map .node
  | .deleteNode node => settle graph supply ((graph.deleteNode node now).map (.done, ·))
  | .deleteEdge edge => settle graph supply ((graph.deleteEdge edge now).map (.done, ·))
  | .select node => (settle graph supply (graph.select node)).map .selection

end Graph

end Outreach
