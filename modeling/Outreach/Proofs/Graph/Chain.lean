import Mathlib.Data.List.Chain
import Outreach.Proofs.Graph.Fallback
import Outreach.Proofs.Graph.Sound

set_option autoImplicit false

namespace Outreach

section Neighbours

variable {α : Type} {row : List α} {first second : α}

theorem isChain_of_forall_mem_zip {related : α → α → Prop}
    (all : ∀ a b, (a, b) ∈ row.zip row.tail → related a b) : row.IsChain related := by
  induction row with
  | nil => exact .nil
  | cons head rest ih =>
    cases rest with
    | nil => exact .singleton head
    | cons next rest =>
      refine .cons_cons (all head next (by simp)) (ih fun a b member => all a b ?_)
      exact List.mem_cons_of_mem _ member

theorem Precedes.of_mem_zip (member : (first, second) ∈ row.zip row.tail) :
    Precedes row first second := by
  induction row with
  | nil => simp at member
  | cons head rest ih =>
    cases rest with
    | nil => simp at member
    | cons next rest =>
      obtain same | later := List.mem_cons.mp member
      · obtain ⟨rfl, rfl⟩ := Prod.mk.inj same
        exact .cons_cons first (.cons_cons second (List.nil_sublist rest))
      · exact .cons head (ih later)

theorem Precedes.pairwise (row : List α) : row.Pairwise (Precedes row) :=
  List.pairwise_iff_forall_sublist.mpr id

theorem zip_tail_concat {last : α} (ends : row.getLast? = some last) (next : α) :
    (row ++ [next]).zip (row ++ [next]).tail = row.zip row.tail ++ [(last, next)] := by
  induction row with
  | nil => simp at ends
  | cons head rest ih =>
    cases rest with
    | nil => simp_all
    | cons second rest =>
      have := ih (by simpa using ends)
      simpa using this

end Neighbours

namespace Graph

structure Chained (graph : Graph) : Prop where
  unique : graph.ids.Nodup
  pairs : graph.pairs = graph.ids.zip graph.ids.tail

namespace Chained

variable {graph : Graph} {entry : Node} {rest : List Node}

theorem leads_iff (chained : graph.Chained) {source target : String} :
    graph.Leads source target ↔ (source, target) ∈ graph.ids.zip graph.ids.tail := by
  rw [← chained.pairs]
  simp [Leads, Graph.pairs]

theorem wellFormed (chained : graph.Chained) : graph.WellFormed where
  unique := chained.unique
  anchored := by
    intro edge member
    have leads := chained.leads_iff.mp ⟨edge, member, rfl, rfl⟩
    obtain ⟨source, target⟩ := List.of_mem_zip leads
    exact ⟨source, List.mem_of_mem_tail target⟩

theorem precedes (chained : graph.Chained) {source target : String}
    (path : graph.Path source target) : Precedes graph.ids source target := by
  induction path with
  | single leads => exact .of_mem_zip (chained.leads_iff.mp leads)
  | tail _ leads ih => exact ih.trans chained.unique (.of_mem_zip (chained.leads_iff.mp leads))

theorem acyclic (chained : graph.Chained) : graph.Acyclic :=
  fun _ circle => (chained.precedes circle).irrefl chained.unique

theorem pairwise_path (chained : graph.Chained) : graph.ids.Pairwise graph.Path := by
  have linked : graph.ids.IsChain graph.Path :=
    isChain_of_forall_mem_zip fun _ _ member => .single (chained.leads_iff.mpr member)
  have : IsTrans String graph.Path := ⟨fun _ _ _ => Relation.TransGen.trans⟩
  exact linked.pairwise

theorem entries_eq (chained : graph.Chained) (nodes : graph.nodes = entry :: rest) :
    graph.entries = [entry] := by
  have ids : graph.ids = [] ++ entry.id :: rest.map (·.id) := by simp [Graph.ids, nodes]
  have starts : entry ∈ graph.entries := by
    refine mem_entries.mpr ⟨nodes ▸ List.mem_cons_self, fun source leads => ?_⟩
    have precedes := chained.precedes (.single leads)
    exact List.not_mem_nil (precedes.mem_before chained.unique ids)
  have follows : ∀ node ∈ rest, node ∉ graph.entries := by
    intro node member isEntry
    have path := List.rel_of_pairwise_cons (ids ▸ chained.pairwise_path)
      (List.mem_map_of_mem member)
    obtain ⟨source, -, leads⟩ := Relation.TransGen.tail'_iff.mp path
    exact (mem_entries.mp isEntry).2 source leads
  rw [entries, nodes, List.filter_cons, if_pos (List.mem_filter.mp starts).2,
    List.filter_eq_nil_iff.mpr]
  intro node member passes
  have inside : node ∈ graph.nodes := nodes ▸ List.mem_cons_of_mem entry member
  exact follows node member (List.mem_filter.mpr ⟨inside, passes⟩)

theorem fallback_isEmpty (chained : graph.Chained) (nodes : graph.nodes = entry :: rest) :
    (graph.linearize entry).fallback.isEmpty = true :=
  fallback_isEmpty_of_acyclic chained.wellFormed (chained.entries_eq nodes) chained.acyclic

theorem linearize_order (chained : graph.Chained) (nodes : graph.nodes = entry :: rest) :
    (graph.linearize entry).order = graph.nodes := by
  have single := chained.entries_eq nodes
  have member := entry_mem single
  have nodup := row_nodup chained.unique member
  have regular := chained.fallback_isEmpty nodes
  have ordered : (graph.linearize entry).order.Pairwise fun a b =>
      Precedes (graph.row entry) a.id b.id :=
    List.pairwise_map.mp (Precedes.pairwise (graph.row entry))
  have listed : graph.nodes.Pairwise fun a b => Precedes (graph.row entry) a.id b.id :=
    (List.pairwise_map.mp chained.pairwise_path).imp fun path =>
      precedes_of_path chained.wellFormed single regular path
  -- Both rows hold the same nodes, in the order in which the one leads to the other.
  refine (linearize_perm chained.unique member).eq_of_pairwise ?_ ordered listed
  intro a b _ _ forward backward
  exact absurd (forward.trans nodup backward) (Precedes.irrefl nodup)

theorem attach (chained : graph.Chained) {previous node : Node} {edge : Edge}
    (last : graph.nodes.getLast? = some previous) (fresh : node.id ∉ graph.ids)
    (source : edge.source = previous.id) (target : edge.target = node.id) :
    Chained { graph with nodes := graph.nodes ++ [node], edges := graph.edges ++ [edge] } where
  unique := by
    rw [Graph.ids, List.map_append, List.map_singleton, ← List.concat_eq_append]
    exact chained.unique.concat fresh
  pairs := by
    have ends : graph.ids.getLast? = some previous.id := by
      rw [Graph.ids, List.getLast?_map, last, Option.map_some]
    have drawn := zip_tail_concat ends node.id
    rw [← chained.pairs] at drawn
    simpa [Graph.pairs, Graph.ids, source, target] using drawn.symm

end Chained

end Graph

end Outreach
