import Outreach.Campaign.Compile
import Outreach.Sort.Adaptive
import Outreach.Value.Collection
import Outreach.Value.Depth
import Outreach.Value.Order

set_option autoImplicit false

namespace Outreach

structure Placed where
  order : Value
  index : Nat
  step : Fields

namespace Placed

def ofStep (step : Value) (index : Nat) : Except Failure Placed :=
  match step with
  | .obj fields =>
    .ok { order := (Fields.get? fields "order").getD (.int index), index, step := fields }
  | _ => .error (.defect .notObject)

def less? (a b : Placed) : Option Bool :=
  if a.order.same b.order then some (decide (a.index < b.index)) else a.order.less? b.order

-- The steps in order. Beside an order that is no number, what comes out depends on which steps are
-- compared, so the comparisons are fixed there.
def sort (steps : List Placed) : Except Failure (List Placed) :=
  let definite := steps.all (·.order.definite)
  match if definite then Sort.sort? less? steps else Sort.adaptive? less? steps with
  | some sorted => .ok sorted
  | none => .error (.defect .unordered)

end Placed

def storedConfig [Limits] (step : Fields) : Except Failure Fields := do
  let config ← ((step.getD "config").orElse (.obj [])).asFields.mapError Failure.defect
  let config ← config.copied.mapError Failure.defect
  match step.get? "title" with
  | some (.str title) =>
    if Text.blank title || config.has "title" then return config
    else return config.set "title" (.str title)
  | _ => return config

namespace Graph

def loadedPosition (index : Nat) : Position :=
  { x := Double.ofInt 400, y := Double.ofInt (100 + 150 * index) }

def appendStep [Limits] (graph : Graph) (step : Fields) (supply : Supply) :
    Except Failure Graph × Supply :=
  match StepType.find ((step.get? "type").getD (.str "")), storedConfig step with
  | .error failure, _ => (.error failure, supply)
  | .ok _, .error failure => (.error failure, supply)
  | .ok type, .ok config =>
    let position := loadedPosition graph.nodes.length
    let (node, supply) := Node.create type config (some position) supply
    match graph.nodes.getLast? with
    | none => (.ok { graph with nodes := [node] }, supply)
    | some previous =>
      match Edge.create previous.id node.id supply with
      | .error fault => (.error fault.failure, supply)
      | .ok (edge, supply) =>
        (.ok { graph with nodes := graph.nodes ++ [node], edges := graph.edges ++ [edge] }, supply)

def appendSteps [Limits] : List Placed → Graph → Supply → Except Failure Graph × Supply
  | [], graph, supply => (.ok graph, supply)
  | placed :: rest, graph, supply =>
    match graph.appendStep placed.step supply with
    | (.error failure, supply) => (.error failure, supply)
    | (.ok graph, supply) => appendSteps rest graph supply

def placeSteps (steps : List Value) : Except Failure (List Placed) := do
  Placed.sort (← steps.zipIdx.mapM fun (step, index) => Placed.ofStep step index)

-- The graph of stored steps. Ids that were taken stay taken if a later step fails.
def ofSteps [Limits] (name campaign : Option String) (steps : List Value) (now : Nat)
    (supply : Supply) : Except Failure Graph × Supply :=
  let (graph, supply) := Graph.create name campaign now supply
  match placeSteps steps with
  | .error failure => (.error failure, supply)
  | .ok placed => appendSteps placed graph supply

def reload [Limits] (graph : Graph) (now : Nat) (supply : Supply) :
    Except Failure (Graph × Compilation) × Supply :=
  match graph.compile with
  | .error failure => (.error failure, supply)
  | .ok compilation =>
    match ofSteps (some graph.name) graph.campaign compilation.payloads now supply with
    | (.error failure, supply) => (.error failure, supply)
    | (.ok rebuilt, supply) => (rebuilt.compile.map (rebuilt, ·), supply)

end Graph

end Outreach
