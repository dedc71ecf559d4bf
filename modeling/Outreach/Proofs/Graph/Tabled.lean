import Mathlib.Logic.Function.Basic
import Outreach.Proofs.Graph.LinearOrder
import Outreach.Proofs.Walk.Tables

set_option autoImplicit false

namespace Outreach

open Function

section Table

variable {α : Type} {graph : Graph} {value : String → α} {id : String}

theorem Table.find_eq {table : Table α} {entry : α} (known : table id = some entry) :
    table.find id = pure entry := by
  rw [find, known]

def Graph.table (graph : Graph) (value : String → α) : Table α := fun id =>
  if graph.hasNode id then some (value id) else none

theorem Graph.find_table (known : graph.hasNode id = true) :
    (graph.table value).find id = pure (value id) :=
  Table.find_eq (if_pos known)

theorem Graph.isSome_table : (graph.table value id).isSome = graph.hasNode id := by
  cases known : graph.hasNode id <;> simp [table, known]

theorem Graph.set_table (known : graph.hasNode id = true) (entry : α) :
    (graph.table value).set id entry = graph.table (update value id entry) := by
  funext other
  by_cases same : other = id
  · subst same
    simp [Table.set, table, known]
  · simp [Table.set, table, same]

end Table

namespace Links

variable (links : Links) (source target : String)

theorem successors_concat :
    successors (links ++ [(source, target)]) =
      update links.successors source (links.successors source ++ [target]) := by
  funext id
  by_cases same : id = source
  · subst same
    simp [successors]
  · simp [successors, same, Ne.symm same]

theorem inDegree_concat :
    (fun id => ((inDegree (links ++ [(source, target)]) id : Nat) : Int)) =
      update (fun id => (links.inDegree id : Int)) target (links.inDegree target + 1) := by
  funext id
  by_cases same : id = target
  · subst same
    simp [inDegree, targets]
  · simp [inDegree, targets, same, Ne.symm same]

end Links

namespace Tables

def counting (graph : Graph) (links : Links) : Tables where
  nodes := graph.lastNode
  followers := graph.table links.successors
  counters := graph.table fun id => (links.inDegree id : Int)

theorem foldl_set (nodes : List Node) :
    nodes.foldl (fun (table : Table Node) node => table.set node.id node) (fun _ => none) =
      fun id => nodes.reverse.find? (·.id == id) := by
  induction nodes using List.reverseRecOn with
  | nil => rfl
  | append_singleton nodes node ih =>
    funext id
    rw [List.foldl_concat, ih, Table.set, update_apply, List.reverse_concat, List.find?_cons]
    by_cases same : id = node.id
    · simp [same]
    · have other : (node.id == id) = false := beq_false_of_ne (Ne.symm same)
      simp [same, other]

theorem ofNodes_eq (graph : Graph) : ofNodes graph.nodes = counting graph [] := by
  have byId : graph.nodes.foldl (fun (table : Table Node) node => table.set node.id node)
      (fun _ => none) = graph.lastNode := foldl_set graph.nodes
  have same {α : Type} (entry : α) :
      (fun id => (graph.lastNode id).map fun _ => entry) = graph.table fun _ => entry := by
    funext id
    have known : (graph.lastNode id).isSome = graph.hasNode id := by
      rw [Bool.eq_iff_iff]
      simp [Graph.lastNode, Graph.hasNode]
    rw [Graph.table, ← known]
    cases graph.lastNode id <;> rfl
  simp only [ofNodes, byId, same]
  rfl

theorem draw_counting (graph : Graph) (links : Links) (edge : Edge) :
    (counting graph links).draw edge =
      pure (counting graph (links ++
        if graph.hasNode edge.source && graph.hasNode edge.target
          then [(edge.source, edge.target)] else [])) := by
  by_cases known : graph.hasNode edge.source = true ∧ graph.hasNode edge.target = true
  · have counted : ((counting graph links).followers edge.source).isSome ∧
        ((counting graph links).counters edge.target).isSome := by
      simpa [counting, Graph.isSome_table] using known
    rw [draw, if_pos counted, if_pos (by simpa using known)]
    simp only [counting, Graph.find_table known.1, Graph.find_table known.2, pure_bind,
      Graph.set_table known.1, Graph.set_table known.2, Links.successors_concat,
      Links.inDegree_concat]
  · have ignored : ¬ (((counting graph links).followers edge.source).isSome ∧
        ((counting graph links).counters edge.target).isSome) := by
      simpa [counting, Graph.isSome_table] using known
    rw [draw, if_neg ignored, if_neg (by simpa using known), List.append_nil]

theorem ofGraph_eq (graph : Graph) : ofGraph graph = pure (counting graph graph.links) := by
  have drawn (edges : List Edge) (links : Links) :
      edges.foldlM draw (counting graph links) =
        pure (counting graph (links ++
          (edges.filter fun edge => graph.hasNode edge.source && graph.hasNode edge.target).map
            fun edge => (edge.source, edge.target))) := by
    induction edges generalizing links with
    | nil => simp
    | cons edge rest ih =>
      rw [List.foldlM_cons, draw_counting, pure_bind, ih, List.filter_cons]
      split <;> simp
  rw [ofGraph, ofNodes_eq, drawn, List.nil_append, Graph.links]

end Tables

namespace Walk

variable {graph : Graph} {walk next : Walk} {start id : String}

def tour (graph : Graph) (walk : Walk) : Tour where
  counters := graph.table (walk.pending graph.links)
  queue := walk.queue
  visited := walk.visited
  ordered := walk.emitted.filterMap graph.lastNode
  cycleEntries := walk.cycleEntries

theorem pending_arrived (links : Links) (walk : Walk) (id : String) :
    pending links { walk with arrived := id :: walk.arrived } =
      update (walk.pending links) id (walk.pending links id - 1) := by
  funext other
  by_cases same : other = id
  · subst same
    simp only [pending, List.count_cons_self, update_self]
    omega
  · simp [pending, same, Ne.symm same]

theorem tour_arrive (known : graph.hasNode id = true) (left : 0 < walk.pending graph.links id) :
    (walk.tour graph).arrive id = pure ((walk.arrive graph.links id).tour graph) := by
  have counters : (graph.table (walk.pending graph.links)).set id (walk.pending graph.links id - 1) =
      graph.table (pending graph.links { walk with arrived := id :: walk.arrived }) := by
    rw [Graph.set_table known, pending_arrived]
  have count : pending graph.links { walk with arrived := id :: walk.arrived } id =
      walk.pending graph.links id - 1 := by
    rw [pending_arrived, update_self]
  have kept : ¬ walk.pending graph.links id - 1 < 0 := by omega
  simp only [Tour.arrive, tour, Graph.find_table known, pure_bind, if_neg kept, counters, arrive,
    count]
  split <;> rfl

theorem tour_foldlM_arrive {ids : List String} (known : ∀ id ∈ ids, graph.hasNode id = true)
    (bounded : ∀ id, (ids.reverse ++ walk.arrived).count id ≤ graph.links.inDegree id) :
    ids.foldlM Tour.arrive (walk.tour graph) =
      pure ((ids.foldl (arrive graph.links) walk).tour graph) := by
  induction ids generalizing walk with
  | nil => rfl
  | cons id rest ih =>
    have arrived : (arrive graph.links walk id).arrived = id :: walk.arrived := by
      rw [arrive_eq]
      split <;> rfl
    have left : 0 < walk.pending graph.links id := by
      have bound := bounded id
      simp only [List.reverse_cons, List.append_assoc, List.count_append,
        List.count_singleton_self] at bound
      rw [pending]
      omega
    rw [List.foldlM_cons, tour_arrive (known id List.mem_cons_self) left, pure_bind,
      List.foldl_cons]
    refine ih (fun other member => known other (List.mem_cons_of_mem id member)) fun other => ?_
    rw [arrived]
    simpa using bounded other

variable {rest : List String}

theorem tour_emit (counted : walk.Counted graph.links) (queue : walk.queue = id :: rest)
    (member : id ∈ graph.ids) :
    Tour.emit (.counting graph graph.links) { walk.tour graph with queue := rest } id =
      pure ((walk.emission graph.links id rest).tour graph) := by
  obtain ⟨node, found⟩ := Graph.exists_lastNode member
  have known : graph.hasNode id = true := Graph.hasNode_iff.mpr member
  have targets (target : String) (follows : target ∈ graph.links.successors id) :
      graph.hasNode target = true :=
    Graph.hasNode_iff.mpr (Graph.mem_links.mp (Links.mem_successors.mp follows)).2.2
  have ordered :
      { walk.tour graph with queue := rest, ordered := (walk.tour graph).ordered ++ [node] } =
        tour graph { walk with queue := rest, emitted := walk.emitted ++ [id] } := by
    simp only [tour, List.filterMap_append, List.filterMap_cons_some found, List.filterMap_nil]
    rfl
  have followed :
      (graph.links.successors id).foldlM Tour.arrive
          (tour graph { walk with queue := rest, emitted := walk.emitted ++ [id] }) =
        pure ((emit graph.links { walk with queue := rest } id).tour graph) :=
    tour_foldlM_arrive targets (counted.count_followed_le queue)
  simp only [Tour.emit, Tables.counting, Table.find_eq found, Graph.find_table known, pure_bind]
  rw [ordered, followed, counted.emit_eq queue]

theorem tour_resume? (subset : walk.emitted ⊆ graph.ids) :
    (walk.tour graph).resume? (.counting graph graph.links) =
      pure (walk.resume? graph.links) := by
  have scan (ids : List String) (subset : ids ⊆ graph.ids) :
      (ids.filterMap graph.lastNode).findSomeM? (fun node => do
          let followers ← (graph.table graph.links.successors).find node.id
          return followers.find? fun id => !walk.visited.contains id) =
        (pure ((ids.flatMap graph.links.successors).find? fun id => !walk.visited.contains id) :
          Except Mishap (Option String)) := by
    induction ids with
    | nil => rfl
    | cons id rest ih =>
      rw [List.cons_subset] at subset
      obtain ⟨node, found⟩ := Graph.exists_lastNode subset.1
      obtain ⟨-, rfl⟩ := Graph.mem_of_lastNode found
      have known := Graph.hasNode_iff.mpr subset.1
      rw [List.filterMap_cons_some found, List.findSomeM?, Graph.find_table known, pure_bind,
        pure_bind, List.flatMap_cons, List.find?_append, ih subset.2]
      cases (graph.links.successors node.id).find? fun id => !walk.visited.contains id <;> rfl
  exact scan walk.emitted subset

section Steady

variable (steady : walk.Steady graph.links start) (member : start ∈ graph.ids)

include steady member

theorem Steady.row_subset : walk.row ⊆ graph.ids :=
  steady.placed.subset member Graph.targets_subset

theorem Steady.round_tour :
    (walk.tour graph).round (.counting graph graph.links) =
      pure ((walk.step? graph.links).map (tour graph)) := by
  cases queue : walk.queue with
  | cons id rest =>
    have queued : (walk.tour graph).queue = id :: rest := queue
    have known : id ∈ graph.ids := by
      apply steady.row_subset member
      rw [row_eq queue]
      simp
    simp only [Tour.round, queued, tour_emit steady.counted queue known, pure_bind, step?, queue,
      steady.counted.emit_eq queue, Option.map_some]
  | nil =>
    have queued : (walk.tour graph).queue = [] := queue
    have emitted : walk.emitted ⊆ graph.ids := fun id inside =>
      steady.row_subset member (List.mem_append_left _ inside)
    simp only [Tour.round, queued, tour_resume? emitted, pure_bind, step?, queue, Option.map_map]
    rfl

theorem Steady.ends_tour {steps : Nat}
    (ended : (walk.run graph.links steps).step? graph.links = none) :
    Tour.Ends (.counting graph graph.links) (walk.tour graph)
      (.ok ((walk.run graph.links steps).tour graph)) := by
  induction steps generalizing walk with
  | zero =>
    rw [Walk.run] at ended ⊢
    apply Tour.Ends.finish
    rw [steady.round_tour member, ended]
    rfl
  | succ steps ih =>
    have round := steady.round_tour member
    rw [Walk.run] at ended ⊢
    cases stepped : walk.step? graph.links with
    | none =>
      rw [stepped] at round
      exact .finish round
    | some next =>
      rw [stepped] at round ended
      exact .again round (ih (steady.step stepped) ended)

end Steady

end Walk

namespace Graph

variable {graph : Graph} {entry : Node} {outcome : Except Mishap Linearization}

theorem yields_iff {ended : Except Mishap Tour}
    (ends : Tour.Ends (.counting graph graph.links)
      (.start (Tables.counting graph graph.links).counters entry.id) ended) :
    graph.Yields entry outcome ↔ outcome = ended.map graph.collect := by
  have made := Tables.ofGraph_eq graph
  constructor
  · intro yields
    cases yields with
    | unmade failed => cases made.symm.trans failed
    | ended alsoMade alsoEnds =>
      cases made.symm.trans alsoMade
      rw [ends.unique alsoEnds]
  · rintro rfl
    exact .ended made ends

theorem yields_linearize_iff (member : entry.id ∈ graph.ids) :
    graph.Yields entry outcome ↔ outcome = .ok (graph.linearize entry) := by
  have counters : Walk.pending graph.links (Walk.start entry.id) =
      fun id => (graph.links.inDegree id : Int) := by
    funext id
    simp [Walk.pending, Walk.start]
  have begun : (Walk.start entry.id).tour graph =
      .start (Tables.counting graph graph.links).counters entry.id := by
    rw [Walk.tour, counters]
    rfl
  have ends := (Walk.steady_start graph.links entry.id).ends_tour member (walk_ended member)
  rw [begun] at ends
  exact yields_iff ends

theorem linearize_starts (unique : graph.ids.Nodup) (member : entry ∈ graph.nodes) :
    ∃ rest, (graph.linearize entry).order = entry :: rest := by
  obtain ⟨rest, starts⟩ := emitted_starts unique member
  rw [linearize, starts]
  exact ⟨_, List.cons_append⟩

theorem pending_nonneg (graph : Graph) (start : String) (steps : Nat) (id : String) :
    0 ≤ ((Walk.start start).run graph.links steps).pending graph.links id := by
  rw [((Walk.steady_start graph.links start).run steps).counted.pending_eq]
  exact Int.natCast_nonneg _

-- A missed lookup and a counter below zero would be other outcomes, and a loop without end none.
-- What there is in their place is an arrangement of all nodes that begins with the entry.
theorem linearize_by_tables (unique : graph.ids.Nodup) (member : entry ∈ graph.nodes) :
    (∀ outcome, graph.Yields entry outcome ↔ outcome = .ok (graph.linearize entry)) ∧
      (graph.linearize entry).order.Perm graph.nodes ∧
      (∃ rest, (graph.linearize entry).order = entry :: rest) ∧
      (graph.walk entry.id).step? graph.links = none ∧
      ∀ steps id, 0 ≤ ((Walk.start entry.id).run graph.links steps).pending graph.links id :=
  ⟨fun _ => yields_linearize_iff (id_mem member), linearize_perm unique member,
    linearize_starts unique member, walk_ended (id_mem member), graph.pending_nonneg entry.id⟩

def knotted : Graph :=
  { id := "wf_x", name := "Knotted"
    nodes := [Node.bare "aside" .linkedinVisit, Node.bare "visit" .linkedinVisit,
      Node.bare "connect" .linkedinFollow, Node.bare "follow" .linkedinFollow,
      Node.bare "again" .linkedinVisit]
    edges := [⟨"e1", "visit", "connect"⟩, ⟨"e2", "visit", "connect"⟩,
      ⟨"e3", "connect", "connect"⟩, ⟨"e4", "gone", "follow"⟩, ⟨"e5", "follow", "gone"⟩,
      ⟨"e6", "connect", "follow"⟩, ⟨"e7", "follow", "visit"⟩, ⟨"e8", "aside", "again"⟩,
      ⟨"e9", "again", "aside"⟩, ⟨"e10", "aside", "follow"⟩]
    selected := none, campaign := none, created := 0, updated := 0 }

theorem knotted_by_tables :
    knotted.ids.Nodup ∧ Node.bare "visit" .linkedinVisit ∈ knotted.nodes ∧
      (knotted.linearize (Node.bare "visit" .linkedinVisit)).order.map (·.id) =
        ["visit", "connect", "follow", "aside", "again"] ∧
      (∀ outcome, knotted.Yields (Node.bare "visit" .linkedinVisit) outcome ↔
        outcome = .ok (knotted.linearize (Node.bare "visit" .linkedinVisit))) ∧
      (knotted.linearize (Node.bare "visit" .linkedinVisit)).order.Perm knotted.nodes ∧
      (∃ rest, (knotted.linearize (Node.bare "visit" .linkedinVisit)).order =
        Node.bare "visit" .linkedinVisit :: rest) ∧
      (knotted.walk "visit").step? knotted.links = none ∧
      ∀ steps id, 0 ≤ ((Walk.start "visit").run knotted.links steps).pending knotted.links id := by
  have unique : knotted.ids.Nodup := by decide
  have member : Node.bare "visit" .linkedinVisit ∈ knotted.nodes := by simp [knotted]
  exact ⟨unique, member, by decide, linearize_by_tables unique member⟩

end Graph

end Outreach
