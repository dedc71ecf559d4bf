import Outreach.Proofs.Graph.LinearOrder

set_option autoImplicit false

namespace Outreach.Graph

structure Parted (graph : Graph) (entry : Node) (reached unreached : List Node) : Prop where
  order : (graph.linearize entry).order = reached ++ unreached
  reported : (graph.linearize entry).fallback.unreachable = unreached.map (·.id)
  distinct : (reached ++ unreached).Nodup
  starts : ∃ rest, reached = entry :: rest
  mem_reached : ∀ node, node ∈ reached ↔ node ∈ graph.nodes ∧ graph.Reaches entry.id node.id
  mem_unreached : ∀ node, node ∈ unreached ↔ node ∈ graph.nodes ∧ ¬ graph.Reaches entry.id node.id
  inserted : unreached.Sublist graph.nodes
  led : ∀ node ∈ reached, node ≠ entry →
    ∃ source, graph.Leads source node.id ∧ Precedes (reached.map (·.id)) source node.id

variable {graph : Graph} {entry : Node}

def reached (graph : Graph) (entry : Node) : List Node :=
  (graph.walk entry.id).emitted.filterMap graph.lastNode

def unreached (graph : Graph) (entry : Node) : List Node :=
  graph.nodes.filter fun node => !(graph.walk entry.id).visited.contains node.id

theorem map_id_reached (member : entry ∈ graph.nodes) :
    (graph.reached entry).map (·.id) = (graph.walk entry.id).emitted :=
  map_id_filterMap_lastNode (emitted_subset (id_mem member))

namespace WellFormed

variable (wellFormed : graph.WellFormed) (member : entry ∈ graph.nodes)

include wellFormed member

theorem mem_reached {node : Node} :
    node ∈ graph.reached entry ↔ node ∈ graph.nodes ∧ graph.Reaches entry.id node.id := by
  rw [reached, List.mem_filterMap]
  constructor
  · rintro ⟨id, emitted, found⟩
    obtain ⟨inside, rfl⟩ := mem_of_lastNode found
    exact ⟨inside, (wellFormed.mem_emitted (id_mem member)).mp emitted⟩
  · rintro ⟨inside, path⟩
    exact ⟨node.id, (wellFormed.mem_emitted (id_mem member)).mpr path,
      lastNode_eq wellFormed.unique inside⟩

theorem mem_unreached {node : Node} :
    node ∈ graph.unreached entry ↔ node ∈ graph.nodes ∧ ¬ graph.Reaches entry.id node.id := by
  have visited := (walk_finished (id_mem member)).mem_visited node.id
  rw [wellFormed.mem_emitted (id_mem member)] at visited
  rw [unreached, List.mem_filter, ← visited]
  simp

theorem reached_starts : ∃ rest, graph.reached entry = entry :: rest :=
  emitted_starts wellFormed.unique member

theorem exists_leads_before {node : Node} (inside : node ∈ graph.reached entry)
    (other : node ≠ entry) :
    ∃ source, graph.Leads source node.id ∧
      Precedes ((graph.reached entry).map (·.id)) source node.id := by
  obtain ⟨known, path⟩ := (wellFormed.mem_reached member).mp inside
  have emitted := (wellFormed.mem_emitted (id_mem member)).mpr path
  have notEntry : node.id ≠ entry.id := fun same =>
    other (node_eq wellFormed.unique known member same)
  obtain ⟨source, link, precedes⟩ :=
    (walk_finished (id_mem member)).placed.exists_source emitted notEntry
  exact ⟨source, wellFormed.mem_links.mp link, map_id_reached member ▸ precedes⟩

end WellFormed

theorem reached_then_unreached (wellFormed : graph.WellFormed) (member : entry ∈ graph.nodes) :
    ∃ reached unreached, graph.Parted entry reached unreached := by
  refine ⟨graph.reached entry, graph.unreached entry, ?_⟩
  exact {
    order := rfl
    reported := rfl
    distinct := (row_nodup wellFormed.unique member).of_map
    starts := wellFormed.reached_starts member
    mem_reached := fun _ => wellFormed.mem_reached member
    mem_unreached := fun _ => wellFormed.mem_unreached member
    inserted := List.filter_sublist
    led := fun _ => wellFormed.exists_leads_before member }

def looped : Graph :=
  { id := "wf_x", name := "Looped"
    nodes := [Node.bare "late" .linkedinVisit, Node.bare "visit" .linkedinVisit,
      Node.bare "connect" .linkedinFollow, Node.bare "early" .linkedinVisit,
      Node.bare "follow" .linkedinFollow]
    edges := [⟨"e1", "late", "connect"⟩, ⟨"e2", "early", "late"⟩, ⟨"e3", "late", "early"⟩,
      ⟨"e4", "follow", "connect"⟩, ⟨"e5", "visit", "follow"⟩, ⟨"e6", "connect", "visit"⟩]
    selected := none, campaign := none, created := 0, updated := 0 }

theorem looped_parted :
    looped.WellFormed ∧ Node.bare "visit" .linkedinVisit ∈ looped.nodes ∧
      (looped.linearize (Node.bare "visit" .linkedinVisit)).order.map (·.id) =
        ["visit", "follow", "connect", "late", "early"] ∧
      ∃ reached unreached,
        looped.Parted (Node.bare "visit" .linkedinVisit) reached unreached := by
  have wellFormed : looped.WellFormed := ⟨by decide, by decide⟩
  have member : Node.bare "visit" .linkedinVisit ∈ looped.nodes := by simp [looped]
  exact ⟨wellFormed, member, by decide, reached_then_unreached wellFormed member⟩

end Outreach.Graph
