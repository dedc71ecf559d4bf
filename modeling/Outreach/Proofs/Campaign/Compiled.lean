import Outreach.Campaign.Compile
import Outreach.Proofs.Graph.Fallback
import Outreach.Proofs.Limits
import Outreach.Proofs.Result

set_option autoImplicit false

namespace Outreach

theorem Catalog.label_not_blank (type : StepType) : Text.blank (label type) = false := by
  cases type <;> decide

theorem Fields.copied_eq [Limits] {fields copy : Fields} (copied : fields.copied = .ok copy) :
    copy = fields := by
  obtain ⟨-, -, same⟩ := map_eq_ok.mp copied
  exact same.symm

theorem CompiledStep.copied_eq [Limits] {step copy : CompiledStep}
    (copied : step.copied = .ok copy) : copy = step := by
  obtain ⟨config, configCopied, rfl⟩ := map_eq_ok.mp copied
  rw [Fields.copied_eq (mapError_eq_ok.mp configCopied)]

theorem Compilation.copied_eq [Limits] {compilation copy : Compilation}
    (copied : compilation.copied = .ok copy) : copy = compilation := by
  obtain ⟨steps, stepsCopied, rfl⟩ := map_eq_ok.mp copied
  have same : compilation.steps = steps := by
    apply List.forall₂_eq_eq_eq ▸ (mapM_eq_ok.mp stepsCopied).imp
    intro step copy copied
    exact (CompiledStep.copied_eq copied).symm
  rw [← same]

namespace Graph

variable {graph : Graph} {entry : Node} {compilation : Compilation}

theorem singleEntry_eq_ok : graph.singleEntry = .ok entry ↔ graph.entries = [entry] := by
  rw [singleEntry]
  split <;> simp_all

theorem compile_eq_ok_iff [Limits] :
    graph.compile = .ok compilation ↔ graph.emptyIssues = [] ∧ graph.invalidIssues = .ok [] ∧
      ∃ entry, graph.entries = [entry] ∧ (graph.compileFrom entry).copied = .ok compilation := by
  rw [compile]
  by_cases named : graph.emptyIssues = []
  · rw [if_neg (by simp [named])]
    split
    · simp_all
    · split <;> simp_all [← singleEntry_eq_ok]
    · simp_all
  · simp [named]

theorem compile_eq_ok [Limits] (compiled : graph.compile = .ok compilation) :
    graph.emptyIssues = [] ∧ graph.invalidIssues = .ok [] ∧
      ∃ entry, graph.entries = [entry] ∧ compilation = graph.compileFrom entry := by
  obtain ⟨named, valid, entry, single, copied⟩ := compile_eq_ok_iff.mp compiled
  exact ⟨named, valid, entry, single, Compilation.copied_eq copied⟩

theorem valid_of_invalidIssues (valid : graph.invalidIssues = .ok []) {node : Node}
    (member : node ∈ graph.nodes) :
    ∃ validity, node.validity = .ok validity ∧ validity.valid = true := by
  obtain ⟨found, mapped, none⟩ := map_eq_ok.mp valid
  obtain ⟨index, placed⟩ := List.mem_iff_getElem?.mp member
  obtain ⟨issues, inside, same⟩ :=
    exists_of_mem_mapM mapped (List.mk_mem_zipIdx_iff_getElem?.mpr placed)
  obtain ⟨validity, computed, shown⟩ := map_eq_ok.mp same
  refine ⟨validity, computed, ?_⟩
  -- A node that is not valid would have left an issue.
  by_contra invalid
  rw [List.flatten_eq_nil_iff.mp none issues inside] at shown
  simp [invalid] at shown

def executed (graph : Graph) (entry : Node) : List Node :=
  (graph.linearize entry).order.filter (!·.type.isSentinel)

theorem executed_perm (unique : graph.ids.Nodup) (member : entry ∈ graph.nodes) :
    (graph.executed entry).Perm (graph.nodes.filter (!·.type.isSentinel)) :=
  (linearize_perm unique member).filter _

theorem compileFrom_steps :
    (graph.compileFrom entry).steps =
      (graph.executed entry).zipIdx.map fun (node, order) => node.compile order := rfl

end Graph

structure Node.Becomes (node : Node) (index : Nat) (step : CompiledStep) : Prop where
  type : step.type = node.type
  config : step.config = node.config
  order : step.order = index
  title : ∀ text, node.config.get? "title" = some (.str text) → Text.blank text = false →
    step.title = text
  noTitle : (∀ text, node.config.get? "title" = some (.str text) → Text.blank text = true) →
    step.title = Catalog.label node.type
  titled : Text.blank step.title = false
  description : ∀ text, node.config.get? "description" = some (.str text) →
    step.description = text
  noDescription : (∀ text, node.config.get? "description" ≠ some (.str text)) →
    step.description = ""
  valid : ∃ validity, Validity.of step.type step.config = .ok validity ∧ validity.valid = true

theorem Node.title_of_blank {node : Node}
    (blank : ∀ text, node.config.get? "title" = some (.str text) → Text.blank text = true) :
    node.title = Catalog.label node.type := by
  rw [Node.title]
  split
  · rename_i text given
    rw [if_pos (blank text given)]
  · rfl

theorem Node.title_of_text {node : Node} {text : String}
    (given : node.config.get? "title" = some (.str text)) (shown : Text.blank text = false) :
    node.title = text := by
  simp [Node.title, given, shown]

theorem Node.title_not_blank (node : Node) : Text.blank node.title = false := by
  by_cases named : ∃ text, node.config.get? "title" = some (.str text) ∧ Text.blank text = false
  · obtain ⟨text, given, shown⟩ := named
    rw [Node.title_of_text given shown, shown]
  · rw [Node.title_of_blank, Catalog.label_not_blank]
    intro text given
    by_contra shown
    exact named ⟨text, given, by simpa using shown⟩

theorem Node.compile_becomes {node : Node} (index : Nat)
    (valid : ∃ validity, node.validity = .ok validity ∧ validity.valid = true) :
    node.Becomes index (node.compile index) where
  type := rfl
  config := rfl
  order := rfl
  title := fun _ given shown => Node.title_of_text given shown
  noTitle := Node.title_of_blank
  titled := node.title_not_blank
  description := fun text given => by simp [Node.compile, Node.description, given]
  noDescription := by
    intro none
    rw [Node.compile, Node.description]
    split
    · rename_i text given
      exact absurd given (none text)
    · rfl
  valid := valid

namespace Graph

variable {graph : Graph} {compilation : Compilation}

theorem compile_steps [Limits] (unique : graph.ids.Nodup)
    (compiled : graph.compile = .ok compilation) : ∃ entry, graph.entries = [entry] ∧
      (graph.executed entry).Perm (graph.nodes.filter (!·.type.isSentinel)) ∧
      compilation.steps.length = (graph.executed entry).length ∧
      ∀ (index : Nat) (node : Node), (graph.executed entry)[index]? = some node →
        ∃ step, compilation.steps[index]? = some step ∧ node.Becomes index step := by
  obtain ⟨-, valid, entry, single, rfl⟩ := compile_eq_ok compiled
  have member := entry_mem single
  refine ⟨entry, single, executed_perm unique member, ?_, ?_⟩
  · rw [compileFrom_steps, List.length_map, List.length_zipIdx]
  · intro index node placed
    have inside : node ∈ graph.nodes := by
      have executed := (executed_perm unique member).mem_iff.mp (List.mem_of_getElem? placed)
      exact (List.mem_filter.mp executed).1
    have becomes := node.compile_becomes index (valid_of_invalidIssues valid inside)
    refine ⟨node.compile index, ?_, becomes⟩
    rw [compileFrom_steps, List.getElem?_map, List.getElem?_zipIdx, placed]
    simp

def circled : Graph :=
  { id := "wf_x", name := "Circled"
    nodes := [
      Node.bare "start" .start,
      { Node.bare "visit" .linkedinVisit with
        config := [("title", .str " "), ("description", .str "first")] },
      { Node.bare "follow" .linkedinFollow with config := [("title", .str "Follow up")] },
      Node.bare "left" .linkedinVisit, Node.bare "right" .linkedinVisit, Node.bare "end" .finish]
    edges := [⟨"e1", "start", "visit"⟩, ⟨"e2", "visit", "follow"⟩, ⟨"e3", "follow", "visit"⟩,
      ⟨"e4", "follow", "end"⟩, ⟨"e5", "left", "right"⟩, ⟨"e6", "right", "left"⟩]
    selected := none, campaign := none, created := 0, updated := 0 }

section

attribute [local instance] Limits.usual

theorem circled_steps : ∃ compilation, circled.ids.Nodup ∧ circled.compile = .ok compilation ∧
    ∃ entry, circled.entries = [entry] ∧
      (circled.executed entry).Perm (circled.nodes.filter (!·.type.isSentinel)) ∧
      compilation.steps.length = (circled.executed entry).length ∧
      ∀ (index : Nat) (node : Node), (circled.executed entry)[index]? = some node →
        ∃ step, compilation.steps[index]? = some step ∧ node.Becomes index step := by
  have unique : circled.ids.Nodup := by decide
  have compiled : circled.compile = .ok (circled.compileFrom (Node.bare "start" .start)) := by rfl
  exact ⟨_, unique, compiled, compile_steps unique compiled⟩

end

end Graph

end Outreach
