import Mathlib.Logic.Equiv.Fintype
import Outreach.Proofs.Graph.Reached
import Outreach.Proofs.Pairs
import Outreach.Proofs.Walk.Mirrored

set_option autoImplicit false

namespace Outreach

structure Node.Recast (rename : String → String) (node other : Node) : Prop where
  id : other.id = rename node.id
  type : other.type = node.type
  config : other.config = node.config

theorem Node.Recast.congr {rename full : String → String} {node other : Node}
    (recast : Node.Recast rename node other) (agree : full node.id = rename node.id) :
    Node.Recast full node other :=
  ⟨agree ▸ recast.id, recast.type, recast.config⟩

structure Edge.Recast (rename : String → String) (edge other : Edge) : Prop where
  source : other.source = rename edge.source
  target : other.target = rename edge.target

def Fallback.renamed (rename : String → String) (fallback : Fallback) : Fallback :=
  { cycleEntries := fallback.cycleEntries.map rename
    unreachable := fallback.unreachable.map rename }

structure Linearization.Recast (rename : String → String) (linear other : Linearization) :
    Prop where
  order : List.Forall₂ (Node.Recast rename) linear.order other.order
  fallback : other.fallback = linear.fallback.renamed rename

namespace Graph

-- The same campaign, with other names for the nodes. All that is not named here may differ.
structure Recast (rename : String → String) (graph other : Graph) : Prop where
  name : other.name = graph.name
  nodes : List.Forall₂ (Node.Recast rename) graph.nodes other.nodes
  edges : List.Forall₂ (Edge.Recast rename) graph.edges other.edges

def renamed (rename : String → String) (graph : Graph) : Graph :=
  { graph with
    nodes := graph.nodes.map fun node => { node with id := rename node.id }
    edges := graph.edges.map fun edge =>
      { edge with source := rename edge.source, target := rename edge.target } }

structure Mirrors (rename : String → String) (graph other : Graph) : Prop where
  entries : List.Forall₂ (Node.Recast rename) graph.entries other.entries
  linearize : ∀ entry ∈ graph.nodes, ∀ start, Node.Recast rename entry start →
    Linearization.Recast rename (graph.linearize entry) (other.linearize start)

variable {rename full : String → String} {graph other : Graph} {nodes others : List Node}

theorem forall₂_recast_congr (pairs : List.Forall₂ (Node.Recast rename) nodes others)
    (agree : ∀ node ∈ nodes, full node.id = rename node.id) :
    List.Forall₂ (Node.Recast full) nodes others :=
  forall₂_imp_of_mem pairs fun node member _ paired => paired.congr (agree node member)

theorem map_id_eq (pairs : List.Forall₂ (Node.Recast rename) nodes others) :
    others.map (·.id) = (nodes.map (·.id)).map rename := by
  rw [List.map_map]
  exact map_eq_of_forall₂ pairs fun _ _ paired => paired.id

theorem recast_renamed (rename : String → String) (graph : Graph) :
    graph.Recast rename (graph.renamed rename) where
  name := rfl
  nodes := List.forall₂_map_right_iff.mpr (List.forall₂_same.mpr fun _ _ => ⟨rfl, rfl, rfl⟩)
  edges := List.forall₂_map_right_iff.mpr (List.forall₂_same.mpr fun _ _ => ⟨rfl, rfl⟩)

namespace Recast

theorem ids (recast : graph.Recast rename other) : other.ids = graph.ids.map rename :=
  map_id_eq recast.nodes

section

variable (injective : Function.Injective rename) (recast : graph.Recast rename other)

include injective recast

theorem hasNode (id : String) : other.hasNode (rename id) = graph.hasNode id := by
  rw [Bool.eq_iff_iff, hasNode_iff, hasNode_iff, recast.ids, List.mem_map_of_injective injective]

theorem links : other.links = graph.links.renamed rename := by
  rw [Graph.links, Graph.links, Links.renamed, List.map_map]
  refine map_eq_of_forall₂ (forall₂_filter recast.edges fun edge changed ends => ?_)
    fun edge changed ends => Prod.ext ends.source ends.target
  rw [ends.source, ends.target, recast.hasNode injective, recast.hasNode injective]

theorem walk (start : String) : other.walk (rename start) = (graph.walk start).renamed rename := by
  have mirrors := Links.mirrors_renamed injective graph.links
  rw [Graph.walk, recast.links injective, ← recast.nodes.length_eq]
  exact Walk.run_renamed mirrors _ (Walk.start start)

theorem lastNode (id : String) :
    Option.Rel (Node.Recast rename) (graph.lastNode id) (other.lastNode (rename id)) := by
  refine rel_find? (List.rel_reverse recast.nodes) fun node changed paired => ?_
  rw [paired.id, Bool.eq_iff_iff, beq_iff_eq, beq_iff_eq, injective.eq_iff]

theorem linearize {entry start : Node} (paired : Node.Recast rename entry start) :
    Linearization.Recast rename (graph.linearize entry) (other.linearize start) := by
  have walked := paired.id ▸ recast.walk injective entry.id
  have reached : List.Forall₂ (Node.Recast rename) (graph.reached entry) (other.reached start) := by
    rw [Graph.reached, Graph.reached, walked]
    refine List.rel_filterMap (R := fun id changed => changed = rename id) ?_
      (List.forall₂_map_right_iff.mpr (List.forall₂_same.mpr fun _ _ => rfl))
    rintro id _ rfl
    exact recast.lastNode injective id
  have unreached :
      List.Forall₂ (Node.Recast rename) (graph.unreached entry) (other.unreached start) := by
    refine forall₂_filter recast.nodes fun node changed paired => ?_
    rw [walked, paired.id, Bool.eq_iff_iff]
    simp [Walk.renamed, injective.eq_iff]
  refine ⟨List.rel_append reached unreached, ?_⟩
  have circles : (other.walk start.id).cycleEntries =
      (graph.walk entry.id).cycleEntries.map rename := by
    rw [walked, Walk.renamed]
  exact congrArg₂ Fallback.mk circles (map_id_eq unreached)

theorem entries : List.Forall₂ (Node.Recast rename) graph.entries other.entries := by
  have targets : other.edges.map (·.target) = (graph.edges.map (·.target)).map rename := by
    rw [List.map_map]
    exact map_eq_of_forall₂ recast.edges fun _ _ ends => ends.target
  have targeted (edges : List Edge) (id : String) :
      edges.any (·.target == id) = true ↔ id ∈ edges.map (·.target) := by simp
  refine forall₂_filter recast.nodes fun node changed paired => congrArg not ?_
  rw [Bool.eq_iff_iff, targeted, targeted, targets, paired.id, List.mem_map_of_injective injective]

theorem mirrors_of_injective : graph.Mirrors rename other where
  entries := recast.entries injective
  linearize _ _ _ paired := recast.linearize injective paired

end

theorem congr (recast : graph.Recast rename other) (wellFormed : graph.WellFormed)
    (agree : ∀ id ∈ graph.ids, full id = rename id) : graph.Recast full other where
  name := recast.name
  nodes := forall₂_recast_congr recast.nodes fun _ member => agree _ (id_mem member)
  edges := by
    refine forall₂_imp_of_mem recast.edges fun edge member changed ends => ?_
    obtain ⟨source, target⟩ := wellFormed.anchored edge member
    exact ⟨(agree _ source).symm ▸ ends.source, (agree _ target).symm ▸ ends.target⟩

end Recast

theorem Mirrors.congr (mirrors : graph.Mirrors rename other)
    (agree : ∀ id ∈ graph.ids, full id = rename id) : graph.Mirrors full other where
  entries := forall₂_recast_congr mirrors.entries fun _ member =>
    agree _ (id_mem (mem_entries.mp member).1)
  linearize entry member start paired := by
    have known := agree _ (id_mem member)
    have mirrored := mirrors.linearize entry member start (paired.congr known.symm)
    have placed := (walk_finished (id_mem member)).placed
    have entered : ∀ id ∈ (graph.linearize entry).fallback.cycleEntries, full id = rename id :=
      fun id circle => agree id (emitted_subset (id_mem member) (placed.entered_subset circle))
    have unreached : ∀ id ∈ (graph.linearize entry).fallback.unreachable, full id = rename id :=
      fun id behind => agree id ((mem_unreachable member).mp behind).1
    refine ⟨forall₂_recast_congr mirrored.order fun _ inside =>
      agree _ (id_mem (linearize_subset inside)), ?_⟩
    rw [mirrored.fallback, Fallback.renamed, Fallback.renamed, List.map_congr_left entered,
      List.map_congr_left unreached]

theorem exists_injective {ids : List String} (injective : Set.InjOn rename {id | id ∈ ids}) :
    ∃ full : String → String, Function.Injective full ∧ ∀ id ∈ ids, full id = rename id := by
  obtain ⟨full, agree⟩ := Equiv.Perm.exists_extending_pair (α := {id // id ∈ ids}) Subtype.val
    (fun id => rename id) Subtype.val_injective
    fun first second same => Subtype.ext (injective first.2 second.2 same)
  exact ⟨full, full.injective, fun id member => agree ⟨id, member⟩⟩

theorem Recast.mirrors (wellFormed : graph.WellFormed) (recast : graph.Recast rename other)
    (injective : Set.InjOn rename {id | id ∈ graph.ids}) : graph.Mirrors rename other := by
  obtain ⟨full, fullInjective, agree⟩ := exists_injective injective
  have mirrors := (recast.congr wellFormed agree).mirrors_of_injective fullInjective
  exact mirrors.congr fun id member => (agree id member).symm

end Graph

end Outreach
