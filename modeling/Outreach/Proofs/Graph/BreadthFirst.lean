import Outreach.Proofs.Graph.Fallback
import Outreach.Proofs.Graph.Sound
import Outreach.Proofs.Walk.Breadth

set_option autoImplicit false

namespace Outreach

namespace Graph

variable {graph : Graph} {entry : Node}

theorem breadthFirst_row (wellFormed : graph.WellFormed) (member : entry ∈ graph.nodes)
    (simple : graph.pairs.Nodup) (regular : (graph.linearize entry).fallback.isEmpty = true) :
    Links.BreadthFirst graph.pairs entry.id (graph.row entry) := by
  obtain ⟨clear, reached⟩ := fallback_isEmpty_iff.mp regular
  have linked : graph.links = graph.pairs := wellFormed.links_eq
  have start := Walk.steady_start graph.links entry.id
  have layered : (graph.walk entry.id).Layered graph.links entry.id :=
    Walk.layered_run start (linked ▸ simple) (fun _ => Walk.layered_start _ _) _ clear
  have ordered := layered.breadthFirst (graph.walk_steady entry.id).counted.nodup
  rwa [Walk.row_eq_emitted (walk_ended (id_mem member)), linked,
    ← List.append_nil (graph.walk entry.id).emitted, ← reached, ← row_eq member] at ordered

theorem layout_of_breadthFirst (wellFormed : graph.WellFormed) {row : List String}
    (perm : row.Perm graph.ids) (starts : row.head? = some entry.id)
    (ordered : Links.BreadthFirst graph.pairs entry.id row) :
    Links.Layout graph.pairs entry.id row where
  nodup := perm.nodup_iff.mpr wellFormed.unique
  starts := starts
  sources source target link := by
    obtain ⟨edge, member, same⟩ := List.mem_map.mp link
    obtain rfl : edge.source = source := congrArg Prod.fst same
    exact perm.mem_iff.mpr (wellFormed.anchored edge member).1
  ordered := ordered

theorem not_mem_pairs (acyclic : graph.Acyclic) (id : String) : (id, id) ∉ graph.pairs := by
  intro link
  obtain ⟨edge, member, same⟩ := List.mem_map.mp link
  exact acyclic id (.single ⟨edge, member, congrArg Prod.fst same, congrArg Prod.snd same⟩)

theorem linearize_breadth_first (wellFormed : graph.WellFormed) (simple : graph.pairs.Nodup)
    (acyclic : graph.Acyclic) (single : graph.entries = [entry]) :
    (graph.row entry).Perm graph.ids ∧ (graph.row entry).head? = some entry.id ∧
      Links.BreadthFirst graph.pairs entry.id (graph.row entry) ∧
      ∀ other : List String, other.Perm graph.ids → other.head? = some entry.id →
        Links.BreadthFirst graph.pairs entry.id other → other = graph.row entry := by
  have member := entry_mem single
  have perm : (graph.row entry).Perm graph.ids :=
    (linearize_perm wellFormed.unique member).map Node.id
  have starts : (graph.row entry).head? = some entry.id := by
    obtain ⟨rest, emitted⟩ := (walk_finished (id_mem member)).placed.head
    rw [row_eq member, emitted]
    rfl
  have ordered := breadthFirst_row wellFormed member simple
    (fallback_isEmpty_of_acyclic wellFormed single acyclic)
  refine ⟨perm, starts, ordered, fun other otherPerm otherStarts otherOrdered => ?_⟩
  have layout := layout_of_breadthFirst wellFormed perm starts ordered
  have otherLayout := layout_of_breadthFirst wellFormed otherPerm otherStarts otherOrdered
  exact layout.unique (not_mem_pairs acyclic) otherLayout (otherPerm.trans perm.symm)

def spread : Graph :=
  { id := "wf_x", name := "Spread"
    nodes := [Node.bare "visit" .linkedinVisit, Node.bare "follow" .linkedinFollow,
      Node.bare "mail" .emailSend, Node.bare "join" .linkedinVisit,
      Node.bare "call" .voiceAgentCall]
    edges := [⟨"e1", "follow", "join"⟩, ⟨"e2", "visit", "mail"⟩, ⟨"e3", "visit", "follow"⟩,
      ⟨"e4", "mail", "call"⟩, ⟨"e5", "call", "join"⟩]
    selected := none, campaign := none, created := 0, updated := 0 }

theorem spread_breadth_first :
    spread.row (Node.bare "visit" .linkedinVisit) = ["visit", "mail", "follow", "call", "join"] ∧
      Links.BreadthFirst spread.pairs "visit" ["visit", "mail", "follow", "call", "join"] := by
  have wellFormed : spread.WellFormed := ⟨by decide, by decide⟩
  have single : spread.entries = [Node.bare "visit" .linkedinVisit] := rfl
  have acyclic : spread.Acyclic :=
    (fallback_isEmpty_iff_acyclic wellFormed single).mp (by decide)
  have order : spread.row (Node.bare "visit" .linkedinVisit) =
      ["visit", "mail", "follow", "call", "join"] := by decide
  obtain ⟨-, -, ordered, -⟩ := linearize_breadth_first wellFormed (by decide) acyclic single
  exact ⟨order, order ▸ ordered⟩

end Graph

end Outreach
