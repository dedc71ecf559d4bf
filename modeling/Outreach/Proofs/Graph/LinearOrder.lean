import Mathlib.Data.List.Nodup
import Outreach.Graph.Linear
import Outreach.Proofs.Graph.Circles
import Outreach.Proofs.Precedence
import Outreach.Proofs.Walk.Row

set_option autoImplicit false

namespace Outreach.Graph

variable {graph : Graph} {entry : Node}

theorem hasNode_iff {id : String} : graph.hasNode id = true ↔ id ∈ graph.ids := by
  simp [hasNode, mem_ids]

theorem mem_links {source target : String} :
    (source, target) ∈ graph.links ↔
      graph.Leads source target ∧ source ∈ graph.ids ∧ target ∈ graph.ids := by
  simp only [links, List.mem_map, List.mem_filter, Bool.and_eq_true, hasNode_iff, Prod.mk.injEq,
    Leads]
  constructor
  · rintro ⟨edge, ⟨member, ends⟩, rfl, rfl⟩
    exact ⟨⟨edge, member, rfl, rfl⟩, ends⟩
  · rintro ⟨⟨edge, member, rfl, rfl⟩, ends⟩
    exact ⟨edge, ⟨member, ends⟩, rfl, rfl⟩

theorem WellFormed.mem_links (wellFormed : graph.WellFormed) {source target : String} :
    (source, target) ∈ graph.links ↔ graph.Leads source target := by
  rw [Graph.mem_links]
  exact and_iff_left_of_imp fun leads => ⟨wellFormed.source_mem leads, wellFormed.target_mem leads⟩

theorem WellFormed.links_eq (wellFormed : graph.WellFormed) :
    graph.links = graph.edges.map fun edge => (edge.source, edge.target) := by
  rw [links, List.filter_eq_self.mpr]
  intro edge member
  rw [Bool.and_eq_true, hasNode_iff, hasNode_iff]
  exact wellFormed.anchored edge member

theorem WellFormed.linked_eq (wellFormed : graph.WellFormed) :
    graph.links.Linked = graph.Leads := by
  funext source target
  exact propext wellFormed.mem_links

theorem targets_subset : graph.links.targets ⊆ graph.ids := by
  intro target inside
  obtain ⟨source, link⟩ := Links.mem_targets.mp inside
  exact (mem_links.mp link).2.2

theorem walk_steady (graph : Graph) (start : String) :
    (graph.walk start).Steady graph.links start :=
  (Walk.steady_start graph.links start).run _

theorem walk_ended {start : String} (member : start ∈ graph.ids) :
    (graph.walk start).step? graph.links = none := by
  have steady := Walk.steady_start graph.links start
  have length : graph.ids.length = graph.nodes.length := List.length_map _
  have bound (walk : Walk) (steady : walk.Steady graph.links start) :
      walk.row.length ≤ graph.nodes.length :=
    length ▸ steady.counted.nodup.length_le_of_subset (steady.placed.subset member targets_subset)
  -- No row repeats a node, so two steps for each node are enough to end.
  refine steady.run_ends bound ?_
  have least := bound _ steady
  simp only [Walk.stepsLeft, Walk.row, Walk.start, List.nil_append, List.length_singleton]
    at least ⊢
  omega

theorem walk_finished {start : String} (member : start ∈ graph.ids) :
    (graph.walk start).Finished graph.links start :=
  (graph.walk_steady start).finished (walk_ended member)

theorem WellFormed.mem_emitted (wellFormed : graph.WellFormed) {start id : String}
    (member : start ∈ graph.ids) :
    id ∈ (graph.walk start).emitted ↔ graph.Reaches start id := by
  rw [(walk_finished member).mem_emitted, wellFormed.linked_eq, Reaches]

theorem node_eq (unique : graph.ids.Nodup) {a b : Node} (left : a ∈ graph.nodes)
    (right : b ∈ graph.nodes) (same : a.id = b.id) : a = b :=
  List.inj_on_of_nodup_map unique left right same

theorem mem_of_lastNode {id : String} {node : Node} (found : graph.lastNode id = some node) :
    node ∈ graph.nodes ∧ node.id = id := by
  have same := List.find?_some found
  have member := List.mem_of_find?_eq_some found
  exact ⟨List.mem_reverse.mp member, by simpa using same⟩

theorem exists_lastNode {id : String} (member : id ∈ graph.ids) :
    ∃ node, graph.lastNode id = some node := by
  obtain ⟨node, inside, same⟩ := mem_ids.mp member
  apply Option.isSome_iff_exists.mp
  rw [lastNode, List.find?_isSome]
  exact ⟨node, List.mem_reverse.mpr inside, beq_iff_eq.mpr same⟩

theorem lastNode_eq (unique : graph.ids.Nodup) {node : Node} (member : node ∈ graph.nodes) :
    graph.lastNode node.id = some node := by
  obtain ⟨last, found⟩ := exists_lastNode (id_mem member)
  obtain ⟨inside, same⟩ := mem_of_lastNode found
  rw [found, node_eq unique inside member same]

theorem map_id_filterMap_lastNode {ids : List String} (subset : ids ⊆ graph.ids) :
    (ids.filterMap graph.lastNode).map (·.id) = ids := by
  induction ids with
  | nil => rfl
  | cons id rest ih =>
    rw [List.cons_subset] at subset
    obtain ⟨node, found⟩ := exists_lastNode subset.1
    rw [List.filterMap_cons_some found, List.map_cons, ih subset.2, (mem_of_lastNode found).2]

theorem emitted_subset {start : String} (member : start ∈ graph.ids) :
    (graph.walk start).emitted ⊆ graph.ids :=
  (walk_finished member).placed.subset member targets_subset

theorem emitted_starts (unique : graph.ids.Nodup) (member : entry ∈ graph.nodes) :
    ∃ rest, (graph.walk entry.id).emitted.filterMap graph.lastNode = entry :: rest := by
  obtain ⟨ids, emitted⟩ := (walk_finished (id_mem member)).placed.head
  refine ⟨ids.filterMap graph.lastNode, ?_⟩
  rw [emitted, List.filterMap_cons_some (lastNode_eq unique member)]

def row (graph : Graph) (entry : Node) : List String := (graph.linearize entry).order.map (·.id)

theorem row_eq (member : entry ∈ graph.nodes) :
    graph.row entry =
      (graph.walk entry.id).emitted ++ (graph.linearize entry).fallback.unreachable := by
  have start := id_mem member
  rw [row, linearize, List.map_append, map_id_filterMap_lastNode (emitted_subset start)]

theorem mem_unreachable (member : entry ∈ graph.nodes) {id : String} :
    id ∈ (graph.linearize entry).fallback.unreachable ↔
      id ∈ graph.ids ∧ id ∉ (graph.walk entry.id).emitted := by
  have start := id_mem member
  simp only [linearize, List.mem_map, List.mem_filter, List.contains_eq_mem, Bool.not_eq_true',
    decide_eq_false_iff_not, (walk_finished start).mem_visited, mem_ids]
  constructor
  · rintro ⟨node, ⟨inside, fresh⟩, rfl⟩
    exact ⟨⟨node, inside, rfl⟩, fresh⟩
  · rintro ⟨⟨node, inside, rfl⟩, fresh⟩
    exact ⟨node, ⟨inside, fresh⟩, rfl⟩

theorem row_nodup (unique : graph.ids.Nodup) (member : entry ∈ graph.nodes) :
    (graph.row entry).Nodup := by
  have start := id_mem member
  rw [row_eq member, List.nodup_append']
  refine ⟨(walk_finished start).placed.nodup, ?_, ?_⟩
  · exact unique.sublist (List.filter_sublist.map _)
  · intro id emitted unreached
    exact ((mem_unreachable member).mp unreached).2 emitted

theorem linearize_subset : (graph.linearize entry).order ⊆ graph.nodes := by
  intro node member
  simp only [linearize, List.mem_append, List.mem_filterMap, List.mem_filter] at member
  obtain ⟨id, -, found⟩ | ⟨inside, -⟩ := member
  · exact (mem_of_lastNode found).1
  · exact inside

theorem linearize_perm (unique : graph.ids.Nodup) (member : entry ∈ graph.nodes) :
    (graph.linearize entry).order.Perm graph.nodes := by
  have ordered := (row_nodup unique member).of_map
  apply (List.perm_ext_iff_of_nodup ordered unique.of_map).mpr
  intro node
  constructor
  · intro placed
    exact linearize_subset placed
  · intro inside
    have start := id_mem member
    simp only [linearize, List.mem_append, List.mem_filterMap, List.mem_filter]
    by_cases emitted : node.id ∈ (graph.walk entry.id).emitted
    · exact .inl ⟨node.id, emitted, lastNode_eq unique inside⟩
    · exact .inr ⟨inside, by simpa [(walk_finished start).mem_visited] using emitted⟩

theorem mem_row (unique : graph.ids.Nodup) (member : entry ∈ graph.nodes) {id : String} :
    id ∈ graph.row entry ↔ id ∈ graph.ids :=
  ((linearize_perm unique member).map Node.id).mem_iff

end Outreach.Graph
