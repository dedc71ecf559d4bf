import Outreach.Campaign.Compile
import Outreach.Clock
import Outreach.Session.Save

set_option autoImplicit false

namespace Outreach.View

def shownKey : Key → String
  | .text s => Text.replaceHalves s
  | .null => "None"
  | .bool b => if b then "true" else "false"
  | .int n => toString n
  | .double d => if d.isFinite then d.text else "None"

mutual

def shown : Value → Value
  | .double d => if d.isFinite then .double d else .null
  | .list items => .list (shownItems items)
  | .obj fields => .obj (Fields.merge [] (shownFields fields))
  | value => value

def shownItems : List Value → List Value
  | [] => []
  | item :: rest => shown item :: shownItems rest

def shownFields : Fields → Fields
  | [] => []
  | (key, value) :: rest => (shownKey key, shown value) :: shownFields rest

end

def time (now : Nat) : Value := .str (Clock.text "Z" now)

def definition (d : Definition) : Value :=
  .obj [("type", .str d.type.name), ("label", .str d.label), ("icon", .str d.icon),
    ("description", .str d.description), ("category", .str d.category.name),
    ("defaultData", .obj d.defaults), ("textFields", .strings d.textFields),
    ("advisory", .ofOption d.advisory), ("requiredFields", .strings d.type.required),
    ("specialRule", .ofOption (d.type.special.map (·.name))),
    ("templateVariables", .strings (Placeholder.names d.category))]

def definitions (list : List Definition) : Value :=
  .obj [("definitions", .list (list.map definition)),
    ("categories", .strings (Catalog.palette.map (·.name)))]

def namesByCategory (table : List (Category × List String)) : Value :=
  .obj (Fields.named .strings (table.map fun (category, names) => (category.name, names)))

def templateVariables (table : List (Category × List String)) : Value :=
  .obj [("variables", namesByCategory table)]

def conditionTypes : Value :=
  .obj [("condition_types", namesByCategory (Condition.byCategory.map
    fun (category, conditions) => (category, conditions.map (·.name))))]

def validity (v : Validity) : Value := .obj v.fields

def node (n : Node) : Except Failure Value :=
  n.validity.map fun v =>
    .obj [("id", .str n.id), ("type", .str n.type.name), ("data", .obj n.config),
      ("position", .obj [("x", .double n.position.x), ("y", .double n.position.y)]),
      ("validity", validity v)]

def edge (e : Edge) : Value :=
  .obj [("id", .str e.id), ("source", .str e.source), ("target", .str e.target)]

def selection (s : Selection) : Value :=
  .obj [("node_id", .ofOption s.node), ("step_type", .ofOption (s.type.map (·.name))),
    ("configurable", .bool s.configurable), ("message", .ofOption s.message?)]

def session (s : Session) : Except Failure Value :=
  (s.graph.nodes.mapM node).map fun nodes =>
    .obj [("session_id", .str s.id), ("workflow_id", .str s.graph.id),
      ("campaign_id", .ofOption s.graph.campaign), ("name", .str s.graph.name),
      ("nodes", .list nodes), ("edges", .list (s.graph.edges.map edge)),
      ("selection", selection s.graph.selection), ("created_at", time s.graph.created),
      ("updated_at", time s.graph.updated)]

def validities (found : List (String × Validity)) : Value :=
  .obj [("valid", .bool (found.all (·.2.valid))),
    ("nodes", .obj (Fields.named validity found))]

def step (s : CompiledStep) : Value :=
  .obj [("type", .str s.type.name), ("order", .int s.order), ("title", .str s.title),
    ("description", .str s.description), ("config", .obj s.config)]

def steps (list : List CompiledStep) : Value := .list (list.map step)

def compilation (c : Compilation) : Value := .obj [("steps", steps c.steps)]

def receipt (r : Receipt) : Value :=
  .obj [("campaign_id", .str r.campaign), ("created", .bool r.created), ("steps", steps r.steps)]

end Outreach.View
