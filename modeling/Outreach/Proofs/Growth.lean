import Outreach.Campaign.Rebuild
import Outreach.Proofs.Graph.Sound
import Outreach.Proofs.Result

set_option autoImplicit false

namespace Outreach

namespace Supply

structure Grows (supply next : Supply) : Prop extends supply.Passes next where
  sessions : supply.sessions ≤ next.sessions
  records : supply.records ≤ next.records

namespace Grows

variable {supply between next : Supply}

theorem refl (supply : Supply) : supply.Grows supply :=
  ⟨.refl supply, Nat.le_refl _, Nat.le_refl _⟩

theorem trans (first : supply.Grows between) (second : between.Grows next) :
    supply.Grows next where
  nodes := first.nodes.trans second.nodes
  edges := first.edges.trans second.edges
  sessions := first.sessions.trans second.sessions
  records := first.records.trans second.records

theorem node (supply : Supply) : supply.Grows supply.node.2 :=
  ⟨⟨Nat.le_succ _, Nat.le_refl _⟩, Nat.le_refl _, Nat.le_refl _⟩

theorem edge (supply : Supply) : supply.Grows supply.edge.2 :=
  ⟨⟨Nat.le_refl _, Nat.le_succ _⟩, Nat.le_refl _, Nat.le_refl _⟩

theorem graph (supply : Supply) : supply.Grows supply.graph.2 :=
  ⟨⟨Nat.le_refl _, Nat.le_refl _⟩, Nat.le_refl _, Nat.le_refl _⟩

theorem session (supply : Supply) : supply.Grows supply.session.2 :=
  ⟨⟨Nat.le_refl _, Nat.le_refl _⟩, Nat.le_succ _, Nat.le_refl _⟩

theorem campaign (supply : Supply) : supply.Grows supply.campaign.2 :=
  ⟨⟨Nat.le_refl _, Nat.le_refl _⟩, Nat.le_refl _, Nat.le_succ _⟩

theorem step (supply : Supply) : supply.Grows supply.step.2 :=
  ⟨⟨Nat.le_refl _, Nat.le_refl _⟩, Nat.le_refl _, Nat.le_succ _⟩

end Grows

end Supply

variable {supply next : Supply}

theorem Edge.create_grows {source target : String} {edge : Edge}
    (drawn : Edge.create source target supply = .ok (edge, next)) : supply.Grows next := by
  simp only [Edge.create] at drawn
  repeat' split at drawn
  all_goals cases drawn
  exact .edge supply

namespace Graph

theorem link_grows {previous : Option Node} {node : String} {edges : List Edge}
    (linked : link previous node supply = .ok (edges, next)) : supply.Grows next := by
  unfold link at linked
  split at linked
  · cases linked
    exact .refl supply
  · split at linked
    · cases linked
      exact .refl supply
    · obtain ⟨⟨edge, last⟩, drawn, same⟩ := map_eq_ok.mp linked
      cases same
      exact Edge.create_grows drawn

theorem addNode_grows [Limits] (graph : Graph) (type : Value) (position : Option Position)
    (now : Nat)
    (supply : Supply) : supply.Grows (graph.addNode type position now supply).supply := by
  rw [addNode]
  split
  · exact .refl supply
  · simp only [Node.create]
    split
    · exact .node supply
    · rename_i linked
      exact (Supply.Grows.node supply).trans (link_grows linked)

theorem connect_grows (graph : Graph) (source target : String) (now : Nat) (supply : Supply) :
    supply.Grows (graph.connect source target now supply).supply := by
  simp only [connect]
  repeat' split
  all_goals first | exact .refl supply | skip
  rename_i drawn
  exact Edge.create_grows drawn

theorem settle_supply {α : Type} (graph : Graph) (supply : Supply)
    (result : Except Failure (α × Graph)) : (settle graph supply result).supply = supply := by
  cases result <;> rfl

theorem settle_grows {α : Type} (graph : Graph) (supply : Supply)
    (result : Except Failure (α × Graph)) : supply.Grows (settle graph supply result).supply := by
  rw [settle_supply]
  exact .refl supply

variable [Limits]

theorem run_grows (graph : Graph) (command : Command) (now : Nat) (supply : Supply) :
    supply.Grows (graph.run command now supply).supply := by
  cases command with
  | rename name => exact .refl supply
  | addNode type position => exact graph.addNode_grows type position now supply
  | connect source target => exact graph.connect_grows source target now supply
  | updateConfig node config => exact settle_grows graph supply (graph.updateConfig node config now)
  | updatePosition node position =>
    exact settle_grows graph supply (graph.updatePosition node position now)
  | deleteNode node => exact settle_grows graph supply _
  | deleteEdge edge => exact settle_grows graph supply _
  | select node => exact settle_grows graph supply (graph.select node)

theorem appendStep_grows (graph : Graph) (step : Fields) (supply : Supply) :
    supply.Grows (graph.appendStep step supply).2 := by
  rw [appendStep]
  split
  · exact .refl supply
  · exact .refl supply
  · simp only [Node.create]
    split
    · exact .node supply
    · split
      · exact .node supply
      · rename_i drawn
        exact (Supply.Grows.node supply).trans (Edge.create_grows drawn)

theorem appendSteps_grows (placed : List Placed) (graph : Graph) (supply : Supply) :
    supply.Grows (appendSteps placed graph supply).2 := by
  induction placed generalizing graph supply with
  | nil => exact .refl supply
  | cons first rest ih =>
    have grown := graph.appendStep_grows first.step supply
    rw [appendSteps]
    split
    · rename_i appended
      exact appended ▸ grown
    · rename_i changed between appended
      rw [appended] at grown
      exact grown.trans (ih changed between)

theorem ofSteps_grows (name campaign : Option String) (steps : List Value) (now : Nat)
    (supply : Supply) : supply.Grows (ofSteps name campaign steps now supply).2 := by
  rw [ofSteps]
  simp only
  split
  · exact .graph supply
  · exact (Supply.Grows.graph supply).trans (appendSteps_grows _ _ _)

end Graph

end Outreach
