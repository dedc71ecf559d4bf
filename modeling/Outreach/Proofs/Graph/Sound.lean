import Outreach.Graph.Edit
import Outreach.Proofs.Graph.Circles
import Outreach.Proofs.Supply

set_option autoImplicit false

namespace Outreach

theorem Edge.create_eq_ok {source target : String} {supply : Supply}
    (sourceShown : Text.blank source = false) (targetShown : Text.blank target = false)
    (sourceTrim : Text.strip source = source) (targetTrim : Text.strip target = target)
    (other : source ≠ target) :
    Edge.create source target supply =
      .ok ({ id := Supply.edgeId (supply.edges + 1), source, target },
        { supply with edges := supply.edges + 1 }) := by
  simp [Edge.create, Supply.edge, sourceShown, targetShown, sourceTrim, targetTrim, other]

structure Supply.Passes (supply next : Supply) : Prop where
  nodes : supply.nodes ≤ next.nodes
  edges : supply.edges ≤ next.edges

theorem Supply.Passes.refl (supply : Supply) : supply.Passes supply :=
  ⟨Nat.le_refl _, Nat.le_refl _⟩

namespace Graph

def edgeIds (graph : Graph) : List String := graph.edges.map (·.id)

def pairs (graph : Graph) : List (String × String) :=
  graph.edges.map fun edge => (edge.source, edge.target)

structure Sound (graph : Graph) : Prop extends WellFormed graph where
  uniqueEdges : graph.edgeIds.Nodup
  noLoop : ∀ edge ∈ graph.edges, edge.source ≠ edge.target
  noDouble : graph.pairs.Nodup
  selects : ∀ id, graph.selected = some id → id ∈ graph.ids
  stripped : Text.strip graph.name = graph.name

structure Numbered (graph : Graph) (supply : Supply) : Prop extends Sound graph where
  nodeNumber : ∀ id ∈ graph.ids, ∃ n ≤ supply.nodes, id = Supply.nodeId n
  edgeNumber : ∀ id ∈ graph.edgeIds, ∃ n ≤ supply.edges, id = Supply.edgeId n

namespace Numbered

variable {graph other : Graph} {supply next : Supply}

theorem create (name campaign : Option String) (now : Nat) (supply : Supply) :
    (Graph.create name campaign now supply).1.Numbered
      (Graph.create name campaign now supply).2 where
  unique := List.nodup_nil
  anchored := fun _ member => absurd member List.not_mem_nil
  uniqueEdges := List.nodup_nil
  noLoop := fun _ member => absurd member List.not_mem_nil
  noDouble := List.nodup_nil
  selects := fun _ selected => by cases selected
  stripped := Text.strip_strip
  nodeNumber := fun _ member => absurd member List.not_mem_nil
  edgeNumber := fun _ member => absurd member List.not_mem_nil

theorem later (numbered : graph.Numbered supply) (passes : supply.Passes next) :
    graph.Numbered next where
  toSound := numbered.toSound
  nodeNumber := by
    intro id member
    obtain ⟨n, given, same⟩ := numbered.nodeNumber id member
    exact ⟨n, given.trans passes.nodes, same⟩
  edgeNumber := by
    intro id member
    obtain ⟨n, given, same⟩ := numbered.edgeNumber id member
    exact ⟨n, given.trans passes.edges, same⟩

theorem node_fresh (numbered : graph.Numbered supply) :
    Supply.nodeId (supply.nodes + 1) ∉ graph.ids := by
  intro member
  obtain ⟨n, given, same⟩ := numbered.nodeNumber _ member
  have := Supply.nodeId_injective same
  omega

theorem edge_fresh (numbered : graph.Numbered supply) :
    Supply.edgeId (supply.edges + 1) ∉ graph.edgeIds := by
  intro member
  obtain ⟨n, given, same⟩ := numbered.edgeNumber _ member
  have := Supply.edgeId_injective same
  omega

theorem create_edge (numbered : graph.Numbered supply) {source target : String}
    (sourceMember : source ∈ graph.ids) (targetMember : target ∈ graph.ids)
    (different : source ≠ target) :
    Edge.create source target supply =
      .ok ({ id := Supply.edgeId (supply.edges + 1), source, target },
        { supply with edges := supply.edges + 1 }) := by
  obtain ⟨n, -, rfl⟩ := numbered.nodeNumber source sourceMember
  obtain ⟨m, -, rfl⟩ := numbered.nodeNumber target targetMember
  exact Edge.create_eq_ok (Supply.nodeId_not_blank n) (Supply.nodeId_not_blank m)
    (Supply.strip_nodeId n) (Supply.strip_nodeId m) different

theorem shrink (numbered : graph.Numbered supply) (ids : other.ids.Sublist graph.ids)
    (edges : other.edges.Sublist graph.edges)
    (anchored : ∀ edge ∈ other.edges, edge.source ∈ other.ids ∧ edge.target ∈ other.ids)
    (selects : ∀ id, other.selected = some id → id ∈ other.ids)
    (stripped : Text.strip other.name = other.name) : other.Numbered supply where
  unique := numbered.unique.sublist ids
  anchored := anchored
  uniqueEdges := numbered.uniqueEdges.sublist (edges.map _)
  noLoop := fun edge member => numbered.noLoop edge (edges.subset member)
  noDouble := numbered.noDouble.sublist (edges.map _)
  selects := selects
  stripped := stripped
  nodeNumber := fun id member => numbered.nodeNumber id (ids.subset member)
  edgeNumber := fun id member => numbered.edgeNumber id ((edges.map _).subset member)

theorem keep (numbered : graph.Numbered supply) (ids : other.ids = graph.ids)
    (edges : other.edges = graph.edges) (selects : ∀ id, other.selected = some id → id ∈ graph.ids)
    (stripped : Text.strip other.name = other.name) : other.Numbered supply := by
  refine numbered.shrink (ids ▸ .refl _) (edges ▸ .refl _) ?_ (ids ▸ selects) stripped
  rw [edges, ids]
  exact numbered.anchored

theorem grow (numbered : graph.Numbered supply) {node : Node}
    (new : node.id = Supply.nodeId (supply.nodes + 1)) :
    Numbered { graph with nodes := graph.nodes ++ [node] }
      { supply with nodes := supply.nodes + 1 } := by
  have grown : ids { graph with nodes := graph.nodes ++ [node] } = graph.ids ++ [node.id] := by
    simp [ids]
  exact {
    unique := by
      rw [grown, ← List.concat_eq_append]
      exact numbered.unique.concat (new ▸ numbered.node_fresh)
    anchored := by
      intro edge member
      rw [grown]
      obtain ⟨source, target⟩ := numbered.anchored edge member
      exact ⟨List.mem_append_left _ source, List.mem_append_left _ target⟩
    uniqueEdges := numbered.uniqueEdges
    noLoop := numbered.noLoop
    noDouble := numbered.noDouble
    selects := by
      intro id selected
      rw [grown]
      exact List.mem_append_left _ (numbered.selects id selected)
    stripped := numbered.stripped
    nodeNumber := by
      intro id member
      rw [grown, List.mem_append, List.mem_singleton] at member
      obtain before | rfl := member
      · obtain ⟨n, given, same⟩ := numbered.nodeNumber id before
        exact ⟨n, Nat.le_succ_of_le given, same⟩
      · exact ⟨supply.nodes + 1, Nat.le_refl _, new⟩
    edgeNumber := numbered.edgeNumber }

theorem draw (numbered : graph.Numbered supply) {source target : String}
    (sourceMember : source ∈ graph.ids) (targetMember : target ∈ graph.ids)
    (different : source ≠ target)
    (new : ∀ edge ∈ graph.edges, edge.source = source → edge.target ≠ target) :
    Numbered { graph with
      edges := graph.edges ++ [{ id := Supply.edgeId (supply.edges + 1), source, target }] }
      { supply with edges := supply.edges + 1 } where
  unique := numbered.unique
  anchored := by
    intro edge member
    obtain before | rfl := by simpa using member
    · exact numbered.anchored edge before
    · exact ⟨sourceMember, targetMember⟩
  uniqueEdges := by
    rw [edgeIds, List.map_append, List.map_singleton, ← List.concat_eq_append]
    exact numbered.uniqueEdges.concat numbered.edge_fresh
  noLoop := by
    intro edge member
    obtain before | rfl := by simpa using member
    · exact numbered.noLoop edge before
    · exact different
  noDouble := by
    rw [pairs, List.map_append, List.map_singleton, ← List.concat_eq_append]
    refine numbered.noDouble.concat fun member => ?_
    obtain ⟨edge, before, same⟩ := List.mem_map.mp member
    exact new edge before (congrArg Prod.fst same) (congrArg Prod.snd same)
  selects := numbered.selects
  stripped := numbered.stripped
  nodeNumber := numbered.nodeNumber
  edgeNumber := by
    intro id member
    rw [edgeIds, List.map_append, List.map_singleton, List.mem_append, List.mem_singleton] at member
    obtain before | rfl := member
    · obtain ⟨n, given, same⟩ := numbered.edgeNumber id before
      exact ⟨n, Nat.le_succ_of_le given, same⟩
    · exact ⟨supply.edges + 1, Nat.le_refl _, rfl⟩

theorem attach (numbered : graph.Numbered supply) {previous node : Node}
    (member : previous ∈ graph.nodes) (new : node.id = Supply.nodeId (supply.nodes + 1)) :
    Edge.create previous.id node.id { supply with nodes := supply.nodes + 1 } =
        .ok ({ id := Supply.edgeId (supply.edges + 1), source := previous.id, target := node.id },
          { supply with nodes := supply.nodes + 1, edges := supply.edges + 1 }) ∧
      Numbered { graph with
        nodes := graph.nodes ++ [node]
        edges := graph.edges ++
          [{ id := Supply.edgeId (supply.edges + 1), source := previous.id, target := node.id }] }
        { supply with nodes := supply.nodes + 1, edges := supply.edges + 1 } := by
  have grown := numbered.grow new
  have fresh : node.id ∉ graph.ids := new ▸ numbered.node_fresh
  have known : previous.id ∈ graph.ids := id_mem member
  have source : previous.id ∈ ids { graph with nodes := graph.nodes ++ [node] } :=
    id_mem (List.mem_append_left _ member)
  have target : node.id ∈ ids { graph with nodes := graph.nodes ++ [node] } :=
    id_mem (List.mem_append_right _ (List.mem_singleton_self node))
  have different : previous.id ≠ node.id := fun same => fresh (same ▸ known)
  refine ⟨grown.create_edge source target different, grown.draw source target different ?_⟩
  intro edge before _ same
  exact fresh (same ▸ (numbered.anchored edge before).2)

end Numbered

end Graph

end Outreach
