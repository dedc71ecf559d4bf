import Outreach.Proofs.Graph.Reached
import Outreach.Proofs.Walk.Mirrored

set_option autoImplicit false

namespace Outreach

namespace Links

variable {links others : Links} {ids : List String}

theorem flatMap_successors_perm (nodup : ids.Nodup)
    (sources : ∀ source target, (source, target) ∈ links → source ∈ ids) :
    (ids.flatMap links.successors).Perm links.targets := by
  have none : links.unfollowed ids = [] := by
    rw [List.eq_nil_iff_forall_not_mem]
    rintro ⟨source, target⟩ left
    obtain ⟨link, outside⟩ := mem_unfollowed.mp left
    exact outside (sources source target link)
  have perm := links.targets_perm nodup
  rwa [none, targets, List.map_nil, List.append_nil] at perm

theorem successors_of_not_source {id : String} (outside : ∀ target, (id, target) ∉ links) :
    links.successors id = [] := by
  rw [List.eq_nil_iff_forall_not_mem]
  exact fun target follows => outside target (mem_successors.mp follows)

theorem mirrors_of_successors (nodup : ids.Nodup)
    (sources : ∀ source target, (source, target) ∈ links → source ∈ ids)
    (otherSources : ∀ source target, (source, target) ∈ others → source ∈ ids)
    (same : ∀ id ∈ ids, others.successors id = links.successors id) :
    Mirrors id links others where
  injective := Function.injective_id
  successors source := by
    rw [List.map_id, id]
    by_cases inside : source ∈ ids
    · exact same source inside
    · rw [successors_of_not_source fun target link => inside (sources source target link),
        successors_of_not_source fun target link => inside (otherSources source target link)]
  inDegree target := by
    rw [inDegree, inDegree, ← (flatMap_successors_perm nodup sources).count_eq,
      ← (flatMap_successors_perm nodup otherSources).count_eq, List.flatMap_congr same, id]

end Links

theorem Walk.run_of_mirrors {links others : Links} (mirrors : links.Mirrors id others)
    (steps : Nat) (walk : Walk) : run others steps walk = run links steps walk := by
  have run := run_renamed mirrors steps walk
  have same (walk : Walk) : walk.renamed id = walk := by simp [renamed]
  rwa [same, same] at run

namespace Graph

variable {graph other : Graph} {entry : Node} {source target : String}

def successors (graph : Graph) (id : String) : List String :=
  (graph.edges.filter (·.source == id)).map (·.target)

theorem WellFormed.successors_links (wellFormed : graph.WellFormed) (id : String) :
    graph.links.successors id = graph.successors id := by
  rw [wellFormed.links_eq, Links.successors, List.filter_map, List.map_map]
  rfl

structure Relisted (graph other : Graph) : Prop where
  nodes : other.nodes.Perm graph.nodes
  successors : ∀ id ∈ graph.ids, other.successors id = graph.successors id

namespace Relisted

variable (relisted : graph.Relisted other) (wellFormed : graph.WellFormed)
  (otherFormed : other.WellFormed)

include relisted

theorem ids_perm : other.ids.Perm graph.ids := relisted.nodes.map _

include wellFormed in
theorem lastNode_eq (id : String) : other.lastNode id = graph.lastNode id := by
  cases found : graph.lastNode id with
  | some node =>
    obtain ⟨inside, rfl⟩ := mem_of_lastNode found
    exact Graph.lastNode_eq (relisted.ids_perm.nodup_iff.mpr wellFormed.unique)
      (relisted.nodes.mem_iff.mpr inside)
  | none =>
    rw [Option.eq_none_iff_forall_ne_some]
    intro node otherFound
    obtain ⟨inside, rfl⟩ := mem_of_lastNode otherFound
    obtain ⟨last, given⟩ := exists_lastNode (id_mem (relisted.nodes.mem_iff.mp inside))
    rw [found] at given
    cases given

include wellFormed otherFormed

theorem walk_eq (start : String) : other.walk start = graph.walk start := by
  rw [walk, walk, relisted.nodes.length_eq]
  refine Walk.run_of_mirrors (Links.mirrors_of_successors wellFormed.unique ?_ ?_ ?_) _ _
  · exact fun source target link => (mem_links.mp link).2.1
  · exact fun source target link => relisted.ids_perm.mem_iff.mp (mem_links.mp link).2.1
  · intro id member
    rw [wellFormed.successors_links, otherFormed.successors_links]
    exact relisted.successors id member

theorem reached_eq (entry : Node) : other.reached entry = graph.reached entry := by
  rw [reached, relisted.walk_eq wellFormed otherFormed, reached]
  exact List.filterMap_congr fun id _ => relisted.lastNode_eq wellFormed id

theorem unreached_perm (entry : Node) : (other.unreached entry).Perm (graph.unreached entry) := by
  rw [unreached, relisted.walk_eq wellFormed otherFormed, unreached]
  exact relisted.nodes.filter _

end Relisted

theorem relisted_order (wellFormed : graph.WellFormed) (otherFormed : other.WellFormed)
    (relisted : graph.Relisted other) (member : entry ∈ graph.nodes) :
    ∃ reached unreached others,
      (graph.linearize entry).order = reached ++ unreached ∧
      (other.linearize entry).order = reached ++ others ∧ others.Perm unreached ∧
      (∀ node, node ∈ reached ↔ node ∈ graph.nodes ∧ graph.Reaches entry.id node.id) ∧
      (other.linearize entry).fallback.cycleEntries =
        (graph.linearize entry).fallback.cycleEntries := by
  refine ⟨graph.reached entry, graph.unreached entry, other.unreached entry, rfl, ?_,
    relisted.unreached_perm wellFormed otherFormed entry, fun _ => wellFormed.mem_reached member,
    ?_⟩
  · rw [← relisted.reached_eq wellFormed otherFormed]
    rfl
  · exact congrArg Walk.cycleEntries (relisted.walk_eq wellFormed otherFormed entry.id)

def relooped : Graph :=
  { looped with
    nodes := looped.nodes.reverse
    edges := [⟨"e6", "connect", "visit"⟩, ⟨"e2", "early", "late"⟩, ⟨"e4", "follow", "connect"⟩,
      ⟨"e1", "late", "connect"⟩, ⟨"e3", "late", "early"⟩, ⟨"e5", "visit", "follow"⟩] }

theorem relooped_order :
    (looped.linearize (Node.bare "visit" .linkedinVisit)).order.map (·.id) =
        ["visit", "follow", "connect", "late", "early"] ∧
      (relooped.linearize (Node.bare "visit" .linkedinVisit)).order.map (·.id) =
        ["visit", "follow", "connect", "early", "late"] ∧
      ∃ reached unreached others,
        (looped.linearize (Node.bare "visit" .linkedinVisit)).order = reached ++ unreached ∧
        (relooped.linearize (Node.bare "visit" .linkedinVisit)).order = reached ++ others ∧
        others.Perm unreached := by
  have relisted : looped.Relisted relooped := ⟨looped.nodes.reverse_perm, by decide⟩
  have entry : Node.bare "visit" .linkedinVisit ∈ looped.nodes := by simp [looped]
  obtain ⟨reached, unreached, others, order, otherOrder, perm, -⟩ :=
    relisted_order ⟨by decide, by decide⟩ ⟨by decide, by decide⟩ relisted entry
  exact ⟨by decide, by decide, reached, unreached, others, order, otherOrder, perm⟩

end Graph

end Outreach
