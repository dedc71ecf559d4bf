import Outreach.Proofs.Campaign.Compiled
import Outreach.Proofs.Limits

set_option autoImplicit false

namespace Outreach.Graph

variable {graph : Graph} {entry : Node} {compilation : Compilation}

def StepOf (graph : Graph) (entry : Node) (compilation : Compilation) (node : Node)
    (step : CompiledStep) : Prop :=
  ∃ index : Nat, (graph.executed entry)[index]? = some node ∧
    compilation.steps[index]? = some step

theorem compileFrom_getElem? (index : Nat) :
    (graph.compileFrom entry).steps[index]? =
      (graph.executed entry)[index]?.map (·.compile index) := by
  rw [compileFrom_steps, List.getElem?_map, List.getElem?_zipIdx]
  cases (graph.executed entry)[index]? <;> simp

theorem mem_executed (unique : graph.ids.Nodup) (member : entry ∈ graph.nodes) {node : Node} :
    node ∈ graph.executed entry ↔ node ∈ graph.nodes ∧ node.type.isSentinel = false := by
  rw [(executed_perm unique member).mem_iff, List.mem_filter, Bool.not_eq_true']

theorem exists_stepOf (unique : graph.ids.Nodup) (member : entry ∈ graph.nodes) {node : Node}
    (inside : node ∈ graph.nodes) (executable : node.type.isSentinel = false) :
    ∃ step, graph.StepOf entry (graph.compileFrom entry) node step := by
  have executed := (mem_executed unique member).mpr ⟨inside, executable⟩
  obtain ⟨index, placed⟩ := List.mem_iff_getElem?.mp executed
  refine ⟨node.compile index, index, placed, ?_⟩
  rw [compileFrom_getElem?, placed, Option.map_some]

theorem precedes_executed (unique : graph.ids.Nodup) (member : entry ∈ graph.nodes)
    {first second : Node} (firstInside : first ∈ graph.nodes) (secondInside : second ∈ graph.nodes)
    (firstExecutable : first.type.isSentinel = false)
    (secondExecutable : second.type.isSentinel = false)
    (precedes : Precedes (graph.row entry) first.id second.id) :
    Precedes (graph.executed entry) first second := by
  -- The row holds ids; the nodes behind the two ids stand in the same order.
  obtain ⟨nodes, sublist, same⟩ := List.sublist_map_iff.mp precedes
  have known (node : Node) (inside : node ∈ nodes) : node ∈ graph.nodes :=
    (linearize_perm unique member).subset (sublist.subset inside)
  obtain ⟨a, rest, rfl, firstSame, others⟩ := List.map_eq_cons_iff.mp same.symm
  obtain ⟨b, none, rfl, secondSame, nothing⟩ := List.map_eq_cons_iff.mp others
  obtain rfl := List.map_eq_nil_iff.mp nothing
  obtain rfl : a = first := node_eq unique (known a (by simp)) firstInside firstSame
  obtain rfl : b = second := node_eq unique (known b (by simp)) secondInside secondSame
  have kept := sublist.filter fun node : Node => !node.type.isSentinel
  rw [Precedes, executed]
  simpa [firstExecutable, secondExecutable] using kept

theorem acyclic_campaign_order [Limits] (wellFormed : graph.WellFormed)
    (single : graph.entries = [entry]) :
    ((graph.linearize entry).fallback.isEmpty = true ↔ graph.Acyclic) ∧
      ∀ compilation, graph.compile = .ok compilation → graph.Acyclic →
        ∀ first ∈ graph.nodes, ∀ second ∈ graph.nodes, first.type.isSentinel = false →
          second.type.isSentinel = false → graph.Path first.id second.id →
          (∃ step, graph.StepOf entry compilation first step) ∧
            (∃ step, graph.StepOf entry compilation second step) ∧
            ∀ earlier later, graph.StepOf entry compilation first earlier →
              graph.StepOf entry compilation second later → earlier.order < later.order := by
  refine ⟨fallback_isEmpty_iff_acyclic wellFormed single, ?_⟩
  intro compilation compiled acyclic first firstInside second secondInside firstExecutable
    secondExecutable path
  have unique := wellFormed.unique
  have member := entry_mem single
  obtain ⟨-, -, other, alsoSingle, rfl⟩ := compile_eq_ok compiled
  obtain rfl : entry = other := by simpa [single] using alsoSingle
  refine ⟨exists_stepOf unique member firstInside firstExecutable,
    exists_stepOf unique member secondInside secondExecutable, ?_⟩
  rintro earlier later ⟨i, firstPlaced, firstStep⟩ ⟨j, secondPlaced, secondStep⟩
  have regular := fallback_isEmpty_of_acyclic wellFormed single acyclic
  have precedes := precedes_executed unique member firstInside secondInside firstExecutable
    secondExecutable (precedes_of_path wellFormed single regular path)
  have nodup : (graph.executed entry).Nodup := (row_nodup unique member).of_map.filter _
  have less := precedes.index_lt nodup firstPlaced secondPlaced
  rw [compileFrom_getElem?, firstPlaced, Option.map_some, Option.some.injEq] at firstStep
  rw [compileFrom_getElem?, secondPlaced, Option.map_some, Option.some.injEq] at secondStep
  rw [← firstStep, ← secondStep]
  exact Int.ofNat_lt.mpr less

def joined : Graph :=
  { id := "wf_x", name := "Joined"
    nodes := [Node.bare "visit" .linkedinVisit, Node.bare "pause" .finish,
      Node.bare "again" .linkedinVisit, Node.bare "follow" .linkedinFollow]
    edges := [⟨"e1", "visit", "pause"⟩, ⟨"e2", "visit", "follow"⟩, ⟨"e3", "follow", "pause"⟩,
      ⟨"e4", "pause", "again"⟩]
    selected := none, campaign := none, created := 0, updated := 0 }

section

attribute [local instance] Limits.usual

theorem joined_order : ∃ compilation, joined.compile = .ok compilation ∧ joined.Acyclic ∧
    (∃ step, joined.StepOf (Node.bare "visit" .linkedinVisit) compilation
      (Node.bare "follow" .linkedinFollow) step) ∧
    (∃ step, joined.StepOf (Node.bare "visit" .linkedinVisit) compilation
      (Node.bare "again" .linkedinVisit) step) ∧
    ∀ earlier later,
      joined.StepOf (Node.bare "visit" .linkedinVisit) compilation
        (Node.bare "follow" .linkedinFollow) earlier →
      joined.StepOf (Node.bare "visit" .linkedinVisit) compilation
        (Node.bare "again" .linkedinVisit) later →
      earlier.order < later.order := by
  have wellFormed : joined.WellFormed := ⟨by decide, by decide⟩
  have single : joined.entries = [Node.bare "visit" .linkedinVisit] := rfl
  have compiled :
      joined.compile = .ok (joined.compileFrom (Node.bare "visit" .linkedinVisit)) := by rfl
  obtain ⟨regular, ordered⟩ := acyclic_campaign_order wellFormed single
  have acyclic : joined.Acyclic := regular.mp rfl
  have path : joined.Path "follow" "again" :=
    .head ⟨⟨"e3", "follow", "pause"⟩, by simp [joined], rfl, rfl⟩
      (.single ⟨⟨"e4", "pause", "again"⟩, by simp [joined], rfl, rfl⟩)
  exact ⟨_, compiled, acyclic, ordered _ compiled acyclic _ (by simp [joined]) _ (by simp [joined])
    rfl rfl path⟩

end

end Outreach.Graph
