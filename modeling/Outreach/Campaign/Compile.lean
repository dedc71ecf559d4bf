import Outreach.Graph.Linear
import Outreach.Step.Catalog
import Outreach.Value.Depth

set_option autoImplicit false

namespace Outreach

inductive Issue where
  | missingName
  | noSteps (nodes : Nat)
  | invalidStep (index : Nat) (id : String) (type : StepType) (missing : List String)
  | severalEntries (ids : List String)
  | noEntry
  deriving DecidableEq, Repr

namespace Issue

def code : Issue → String
  | .missingName => "missing_name"
  | .noSteps _ => "no_steps"
  | .invalidStep .. => "invalid_step"
  | .severalEntries _ => "multiple_entry_points"
  | .noEntry => "no_entry_point"

def message : Issue → String
  | .missingName => "Campaign name is required"
  | .noSteps _ => "Campaign must contain at least one step"
  | .invalidStep _ _ type _ => "Step " ++ type.name ++ " is missing required fields"
  | .severalEntries _ => "Campaign has more than one starting step"
  | .noEntry => "Campaign has no starting step"

def path : Issue → String
  | .missingName => "name"
  | .noSteps _ => "nodes"
  | .invalidStep index .. => "nodes[" ++ toString index ++ "].config"
  | .severalEntries _ | .noEntry => "edges"

def details : Issue → Option Fields
  | .missingName | .noEntry => none
  | .noSteps nodes => some [("node_count", .int nodes)]
  | .invalidStep _ id type missing =>
    some [("node_id", .str id), ("type", .str type.name), ("missing_fields", .strings missing)]
  | .severalEntries ids => some [("node_ids", .strings ids)]

def value (issue : Issue) : Value :=
  let shown : Fields :=
    [("code", .str issue.code), ("message", .str issue.message), ("path", .str issue.path)]
  match issue.details with
  | some details => .obj (shown.set "meta" (.obj details))
  | none => .obj shown

end Issue

inductive Rejection where
  | empty (issues : List Issue)
  | notValid (issues : List Issue)
  | disconnected (issue : Issue)
  deriving DecidableEq, Repr

namespace Rejection

def kind : Rejection → RejectionKind
  | .empty _ => .empty
  | .notValid _ => .notValid
  | .disconnected _ => .disconnected

def message : Rejection → String
  | .empty _ => "Please add a campaign name and at least one step"
  | .notValid _ => "Please fix invalid steps before saving"
  | .disconnected issue => issue.message

def issues : Rejection → List Issue
  | .empty issues | .notValid issues => issues
  | .disconnected issue => [issue]

def failure (rejection : Rejection) : Failure :=
  .rejected rejection.kind rejection.message (rejection.issues.map Issue.value)

end Rejection

structure CompiledStep where
  type : StepType
  order : Int
  title : String
  description : String
  config : Fields

namespace CompiledStep

def payload (step : CompiledStep) : Fields :=
  let shown : Fields :=
    [("type", .str step.type.name), ("order", .int step.order), ("title", .str step.title),
     ("config", .obj step.config)]
  if step.description.isEmpty then shown else shown.set "description" (.str step.description)

def copied [Limits] (step : CompiledStep) : Except Failure CompiledStep :=
  (step.config.copied.mapError Failure.defect).map fun config => { step with config }

end CompiledStep

structure Compilation where
  steps : List CompiledStep
  fallback : Fallback

namespace Compilation

def payloads (compilation : Compilation) : List Value :=
  compilation.steps.map fun step => .obj step.payload

def copied [Limits] (compilation : Compilation) : Except Failure Compilation :=
  (compilation.steps.mapM CompiledStep.copied).map fun steps => { compilation with steps }

end Compilation

namespace Node

def title (node : Node) : String :=
  match node.config.get? "title" with
  | some (.str title) => if Text.blank title then Catalog.label node.type else title
  | _ => Catalog.label node.type

def description (node : Node) : String :=
  match node.config.get? "description" with
  | some (.str description) => description
  | _ => ""

def compile (node : Node) (order : Nat) : CompiledStep :=
  { type := node.type, order, title := node.title, description := node.description
    config := node.config }

end Node

namespace Graph

def emptyIssues (graph : Graph) : List Issue :=
  (if Text.blank graph.name then [.missingName] else []) ++
    if graph.nodes.all (·.type.isSentinel) then [.noSteps graph.nodes.length] else []

def invalidIssue (node : Node) (index : Nat) : Except Failure (List Issue) :=
  node.validity.map fun validity =>
    if validity.valid then [] else [.invalidStep index node.id node.type validity.missing]

def invalidIssues (graph : Graph) : Except Failure (List Issue) :=
  (graph.nodes.zipIdx.mapM fun (node, index) => invalidIssue node index).map List.flatten

def singleEntry (graph : Graph) : Except Issue Node :=
  match graph.entries with
  | [entry] => .ok entry
  | [] => .error .noEntry
  | entries => .error (.severalEntries (entries.map (·.id)))

def compileFrom (graph : Graph) (entry : Node) : Compilation :=
  let linearization := graph.linearize entry
  let steps := linearization.order.filter (!·.type.isSentinel)
  { steps := steps.zipIdx.map fun (node, order) => node.compile order
    fallback := linearization.fallback }

def compile [Limits] (graph : Graph) : Except Failure Compilation :=
  if !graph.emptyIssues.isEmpty then .error (Rejection.empty graph.emptyIssues).failure
  else
    match graph.invalidIssues with
    | .error failure => .error failure
    | .ok [] =>
      match graph.singleEntry with
      | .error issue => .error (Rejection.disconnected issue).failure
      | .ok entry => (graph.compileFrom entry).copied
    | .ok issues => .error (Rejection.notValid issues).failure

end Graph

end Outreach
