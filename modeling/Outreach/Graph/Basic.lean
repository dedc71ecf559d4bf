import Outreach.Step.Validity
import Outreach.Supply

set_option autoImplicit false

namespace Outreach

structure Position where
  x : Double
  y : Double
  deriving DecidableEq, Repr

namespace Position

def origin : Position := { x := Double.zero, y := Double.zero }

def same (a b : Position) : Bool := a.x.equal b.x && a.y.equal b.y

end Position

structure Node where
  id : String
  type : StepType
  position : Position
  config : Fields

namespace Node

def create (type : StepType) (config : Fields) (position : Option Position) (supply : Supply) :
    Node × Supply :=
  let (id, supply) := supply.node
  ({ id, type, position := position.getD Position.origin, config }, supply)

def configure (node : Node) (fields : Fields) : Node :=
  { node with config := node.config.merge fields }

def move (node : Node) (position : Position) : Node := { node with position }

def validity (node : Node) : Except Failure Validity := Validity.of node.type node.config

end Node

structure Edge where
  id : String
  source : String
  target : String
  deriving DecidableEq, Repr

inductive EdgeFault where
  | blankSource
  | blankTarget
  | loop
  deriving DecidableEq, Repr

namespace EdgeFault

def message : EdgeFault → String
  | .blankSource => "source_node_id 不能为空"
  | .blankTarget => "target_node_id 不能为空"
  | .loop => "不能连接到自己"

def failure (fault : EdgeFault) : Failure := .invalidEdge fault.message

end EdgeFault

namespace Edge

def create (source target : String) (supply : Supply) : Except EdgeFault (Edge × Supply) :=
  if Text.blank source then .error .blankSource
  else if Text.blank target then .error .blankTarget
  else if Text.strip source = Text.strip target then .error .loop
  else
    let (id, supply) := supply.edge
    .ok ({ id, source := Text.strip source, target := Text.strip target }, supply)

def touches (edge : Edge) (node : String) : Bool := edge.source == node || edge.target == node

end Edge

structure Selection where
  node : Option String
  type : Option StepType
  configurable : Bool
  deriving DecidableEq, Repr

namespace Selection

def empty : Selection := { node := none, type := none, configurable := false }

def ofNode (node : Node) : Selection :=
  { node := some node.id, type := some node.type, configurable := !node.type.isSentinel }

def message? (selection : Selection) : Option String :=
  if selection.node.isNone then some "Select a step to configure"
  else if !selection.configurable then some "This step cannot be edited"
  else none

end Selection

structure Graph where
  id : String
  name : String
  nodes : List Node
  edges : List Edge
  selected : Option String
  campaign : Option String
  created : Nat
  updated : Nat

namespace Graph

def create (name campaign : Option String) (now : Nat) (supply : Supply) : Graph × Supply :=
  let (id, supply) := supply.graph
  ({ id, name := Text.strip (name.getD ""), nodes := [], edges := [], selected := none, campaign
     created := now, updated := now }, supply)

def findNode (graph : Graph) (id : String) : Option Node := graph.nodes.find? (·.id == id)

def getNode (graph : Graph) (id : String) : Except Failure Node :=
  match graph.findNode id with
  | some node => .ok node
  | none => .error (.notFound "Node" id)

def findEdge (graph : Graph) (source target : String) : Option Edge :=
  graph.edges.find? fun edge => edge.source == source && edge.target == target

def selectedNode (graph : Graph) : Option Node := graph.selected.bind graph.findNode

def isEmpty (graph : Graph) : Bool := graph.nodes.isEmpty

def selection (graph : Graph) : Selection :=
  match graph.selectedNode with
  | some node => Selection.ofNode node
  | none => Selection.empty

def entries (graph : Graph) : List Node :=
  graph.nodes.filter fun node => !graph.edges.any (·.target == node.id)

def validities (graph : Graph) : Except Failure (List (String × Validity)) :=
  graph.nodes.foldlM (fun found node => do
    let validity ← node.validity
    return if found.any (·.1 == node.id)
      then found.map fun entry => if entry.1 = node.id then (entry.1, validity) else entry
      else found ++ [(node.id, validity)]) []

end Graph

end Outreach
