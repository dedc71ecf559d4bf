import Outreach.Proofs.Campaign.Compiled
import Outreach.Proofs.Graph.Chain

set_option autoImplicit false

namespace Outreach

section

variable [Limits]

theorem Fields.copied_self_iff {fields : Fields} :
    fields.copied = .ok fields ↔ (Value.obj fields).depth ≤ Limits.copyDepth := by
  rw [Fields.copied, map_eq_ok, Value.copied]
  split <;> simp_all

theorem CompiledStep.copied_self {step : CompiledStep} :
    step.copied = .ok step ↔ step.config.copied = .ok step.config := by
  rw [CompiledStep.copied, map_eq_ok]
  constructor
  · rintro ⟨config, copied, same⟩
    rw [mapError_eq_ok.mp copied, ← congrArg CompiledStep.config same]
  · intro copied
    exact ⟨step.config, mapError_eq_ok.mpr copied, rfl⟩

theorem Compilation.copied_self {compilation : Compilation} :
    compilation.copied = .ok compilation ↔
      ∀ step ∈ compilation.steps, step.config.copied = .ok step.config := by
  have each : compilation.steps.mapM CompiledStep.copied = .ok compilation.steps ↔
      ∀ step ∈ compilation.steps, step.config.copied = .ok step.config := by
    simp only [mapM_eq_ok, List.forall₂_same, CompiledStep.copied_self]
  rw [← each, Compilation.copied, map_eq_ok]
  constructor
  · rintro ⟨steps, copied, same⟩
    obtain rfl : steps = compilation.steps := congrArg Compilation.steps same
    exact copied
  · intro copied
    exact ⟨compilation.steps, copied, rfl⟩

structure Node.Fit (node : Node) : Prop where
  executable : node.type.isSentinel = false
  valid : ∃ validity, node.validity = .ok validity ∧ validity.valid = true
  copied : node.config.copied = .ok node.config

end

namespace Graph

variable {graph : Graph} {entry : Node} {rest : List Node} {compilation : Compilation}

theorem emptyIssues_eq_nil_iff :
    graph.emptyIssues = [] ↔
      Text.blank graph.name = false ∧ ∃ node ∈ graph.nodes, node.type.isSentinel = false := by
  simp [emptyIssues]

theorem invalidIssues_eq_nil
    (valid : ∀ node ∈ graph.nodes, ∃ validity, node.validity = .ok validity ∧ validity.valid = true) :
    graph.invalidIssues = .ok [] := by
  have none : graph.nodes.zipIdx.mapM (fun placed => invalidIssue placed.1 placed.2) =
      .ok (graph.nodes.zipIdx.map fun _ => []) := by
    rw [mapM_eq_ok, List.forall₂_map_right_iff, List.forall₂_same]
    rintro ⟨node, index⟩ placed
    obtain ⟨validity, computed, isValid⟩ := valid node (List.fst_mem_of_mem_zipIdx placed)
    simp [invalidIssue, computed, isValid, Except.map]
  rw [invalidIssues, none]
  simp [Except.map]

def inRow (graph : Graph) : Compilation :=
  { steps := graph.nodes.zipIdx.map fun (node, order) => node.compile order
    fallback := { cycleEntries := [], unreachable := [] } }

namespace Chained

theorem compileFrom_eq (chained : graph.Chained) (nodes : graph.nodes = entry :: rest)
    (executable : ∀ node ∈ graph.nodes, node.type.isSentinel = false) :
    graph.compileFrom entry = graph.inRow := by
  have everyone : graph.nodes.filter (!·.type.isSentinel) = graph.nodes := by
    simpa [List.filter_eq_self] using executable
  obtain ⟨entered, unreached⟩ := fallback_isEmpty_iff.mp (chained.fallback_isEmpty nodes)
  have regular : (graph.linearize entry).fallback = { cycleEntries := [], unreachable := [] } :=
    congrArg₂ Fallback.mk entered unreached
  simp only [compileFrom, inRow]
  rw [regular, chained.linearize_order nodes, everyone]

theorem compile_eq [Limits] (chained : graph.Chained) (named : Text.blank graph.name = false)
    (nodes : graph.nodes = entry :: rest) (fit : ∀ node ∈ graph.nodes, node.Fit) :
    graph.compile = .ok graph.inRow := by
  have executable (node : Node) (member : node ∈ graph.nodes) := (fit node member).executable
  refine compile_eq_ok_iff.mpr ⟨?_, ?_, entry, chained.entries_eq nodes, ?_⟩
  · have member : entry ∈ graph.nodes := nodes ▸ List.mem_cons_self
    exact emptyIssues_eq_nil_iff.mpr ⟨named, entry, member, executable entry member⟩
  · exact invalidIssues_eq_nil fun node member => (fit node member).valid
  · rw [chained.compileFrom_eq nodes executable, Compilation.copied_self]
    intro step member
    obtain ⟨⟨node, order⟩, placed, rfl⟩ := List.mem_map.mp member
    exact (fit node (List.fst_mem_of_mem_zipIdx placed)).copied

theorem eq_of_compile [Limits] (chained : graph.Chained)
    (executable : ∀ node ∈ graph.nodes, node.type.isSentinel = false)
    (compiled : graph.compile = .ok compilation) : compilation = graph.inRow := by
  obtain ⟨-, -, entry, single, rfl⟩ := compile_eq_ok compiled
  obtain ⟨first, rest, nodes⟩ := List.exists_cons_of_ne_nil (List.ne_nil_of_mem (entry_mem single))
  obtain rfl : first = entry := by simpa [chained.entries_eq nodes] using single
  exact chained.compileFrom_eq nodes executable

end Chained

end Graph

end Outreach
