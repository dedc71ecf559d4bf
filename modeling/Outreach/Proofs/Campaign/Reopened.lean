import Outreach.Proofs.Campaign.Stored
import Outreach.Proofs.Limits

set_option autoImplicit false

namespace Outreach

theorem Node.title_eq_iff {node : Node} {title : String} (shown : Text.blank title = false) :
    node.title = title ↔
      node.config.get? "title" = some (.str title) ∨
        title = Catalog.label node.type ∧
          ∀ text, node.config.get? "title" = some (.str text) → Text.blank text = true := by
  by_cases named : ∃ text, node.config.get? "title" = some (.str text) ∧ Text.blank text = false
  · obtain ⟨text, given, textShown⟩ := named
    rw [Node.title_of_text given textShown]
    simp [given, textShown]
  · have blank : ∀ text, node.config.get? "title" = some (.str text) → Text.blank text = true :=
      fun text given => by simpa using fun textShown => named ⟨text, given, textShown⟩
    have noTitle : node.config.get? "title" ≠ some (.str title) :=
      fun given => named ⟨title, given, shown⟩
    rw [Node.title_of_blank blank]
    simp only [noTitle, false_or]
    exact ⟨fun same => ⟨same.symm, blank⟩, fun same => same.1.symm⟩

theorem Node.description_eq_iff {node : Node} {description : String} :
    node.description = description ↔
      node.config.get? "description" = some (.str description) ∨
        description = "" ∧ ∀ text, node.config.get? "description" ≠ some (.str text) := by
  rw [Node.description]
  split <;> simp_all [eq_comm]

namespace StoredStep

def KeepsTitle (stored : StoredStep) : Prop :=
  stored.config.get? "title" = none ∨
    stored.config.get? "title" = some (.str stored.title) ∨
    stored.title = Catalog.label stored.type ∧
      ∀ text, stored.config.get? "title" = some (.str text) → Text.blank text = true

def KeepsDescription (stored : StoredStep) : Prop :=
  stored.config.get? "description" = some (.str (stored.description.getD "")) ∨
    stored.description.getD "" = "" ∧
      ∀ text, stored.config.get? "description" ≠ some (.str text)

structure KeptAs (stored : StoredStep) (step : CompiledStep) : Prop where
  type : step.type = stored.type
  title : step.title = stored.title ↔ stored.KeepsTitle
  description : step.description = stored.description.getD "" ↔ stored.KeepsDescription

variable {stored : StoredStep} {node : Node}

theorem Opened.title_eq_iff [Limits] (opened : stored.Opened node) :
    node.title = stored.title ↔ stored.KeepsTitle := by
  rw [Node.title_eq_iff opened.titled, opened.config, opened.type, Fields.withTitle, KeepsTitle]
  -- Only where the configuration has no title does the stored one get into it.
  by_cases given : stored.config.has "title"
  · have some : stored.config.get? "title" ≠ none := Option.isSome_iff_ne_none.mp given
    simp [given, some]
  · have none : stored.config.get? "title" = none := by simpa [Fields.has] using given
    simp [given, none]

theorem Opened.description_eq_iff [Limits] (opened : stored.Opened node) :
    node.description = stored.description.getD "" ↔ stored.KeepsDescription := by
  rw [Node.description_eq_iff, opened.config, Fields.get?_withTitle_of_ne (by decide),
    KeepsDescription]

theorem Opened.keptAs [Limits] (opened : stored.Opened node) (order : Nat) :
    stored.KeptAs (node.compile order) :=
  ⟨opened.type, opened.title_eq_iff, opened.description_eq_iff⟩

variable {graph : Graph} {all : List StoredStep} {steps : List Fields} {compilation : Compilation}
  {name campaign : Option String} {now : Nat} {supply next : Supply}

theorem reopened_keptAs [Limits] (inside : List.Forall₂ In all steps)
    (distinct : (all.map (·.order)).Nodup)
    (opened : Graph.ofSteps name campaign (steps.map .obj) now supply = (.ok graph, next))
    (compiled : graph.compile = .ok compilation) :
    List.Forall₂ KeptAs (ascending all) compilation.steps := by
  obtain ⟨chained, -, nodes⟩ := opened_of_ofSteps inside distinct opened
  have executable : ∀ node ∈ graph.nodes, node.type.isSentinel = false := by
    intro node member
    obtain ⟨stored, -, opened⟩ := exists_of_mem_forall₂ nodes.flip member
    exact opened.type ▸ opened.executable
  rw [chained.eq_of_compile executable compiled, Graph.inRow, List.forall₂_map_right_iff]
  exact (forall₂_zipIdx nodes 0).imp fun _ placed opened => opened.keptAs placed.2

def meeting : StoredStep :=
  { type := .linkedinVisit, order := 3, title := "Meet the lead", description := some "First touch"
    config := [("title", .str " ")] }

def reminder : StoredStep :=
  { type := .linkedinFollow, order := 7, title := "Follow up", description := some "Second touch"
    config := [("description", .str "Second touch")] }

def reminded : Graph :=
  { id := "wf_00000001", name := "Reopened"
    nodes := [
      { id := "node_00000001", type := .linkedinVisit, position := Graph.loadedPosition 0
        config := [("title", .str " ")] },
      { id := "node_00000002", type := .linkedinFollow, position := Graph.loadedPosition 1
        config := [("description", .str "Second touch"), ("title", .str "Follow up")] }]
    edges := [⟨"edge_00000001", "node_00000001", "node_00000002"⟩]
    selected := none, campaign := none, created := 0, updated := 0 }

section

attribute [local instance] Limits.usual

theorem reminded_keptAs : ∃ next compilation,
    Graph.ofSteps (some "Reopened") none [.obj reminder.wire, .obj meeting.wire] 0 Supply.initial =
      (.ok reminded, next) ∧
    reminded.compile = .ok compilation ∧
    List.Forall₂ KeptAs (ascending [reminder, meeting]) compilation.steps := by
  have inside : List.Forall₂ In [reminder, meeting] [reminder.wire, meeting.wire] :=
    .cons (reminder.in_wire rfl (by decide)) (.cons (meeting.in_wire rfl (by decide)) .nil)
  have opened : Graph.ofSteps (some "Reopened") none [.obj reminder.wire, .obj meeting.wire] 0
      Supply.initial = (.ok reminded, { Supply.initial with nodes := 2, edges := 1, graphs := 1 }) :=
    rfl
  have compiled : reminded.compile = .ok reminded.inRow := rfl
  exact ⟨_, _, opened, compiled, reopened_keptAs inside (by decide) opened compiled⟩

theorem meeting_not_kept : ∃ graph next compilation step,
    meeting.In meeting.wire ∧
    Graph.ofSteps (some "Reopened") none [.obj meeting.wire] 0 Supply.initial =
      (.ok graph, next) ∧
    graph.compile = .ok compilation ∧ compilation.steps = [step] ∧
    step.title ≠ meeting.title ∧ step.description ≠ meeting.description.getD "" :=
  ⟨_, _, _, _, meeting.in_wire rfl (by decide), rfl, rfl, rfl, by decide, by decide⟩

end

end StoredStep

end Outreach
