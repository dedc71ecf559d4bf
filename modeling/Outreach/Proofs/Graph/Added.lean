import Outreach.Proofs.Graph.Undone

set_option autoImplicit false

namespace Outreach.Graph

-- From an empty graph by adding steps of these types. Other graphs may take ids meanwhile.
inductive Stepwise [Limits] : List StepType → Graph → Supply → Prop
  | created (name campaign : Option String) (now : Nat) (supply : Supply) :
    Stepwise [] (Graph.create name campaign now supply).1 (Graph.create name campaign now supply).2
  | added {types : List StepType} {graph : Graph} {supply next : Supply}
    (stepwise : Stepwise types graph supply) (passes : supply.Passes next) {value : Value}
    {type : StepType} (known : StepType.find value = .ok type) (position : Option Position)
    (now : Nat) :
    Stepwise (types ++ [type]) (graph.addNode value position now next).graph
      (graph.addNode value position now next).supply

variable {graph changed : Graph} {node : Node} {edges : List Edge} {edge : Edge}
  {supply next : Supply} {types : List StepType} {now : Nat}

theorem entries_extended_nil (wellFormed : graph.WellFormed) (fresh : node.id ∉ graph.ids) :
    (graph.extended node [] now).entries = graph.entries ++ [node] := by
  have missed : graph.edges.any (·.target == node.id) = false := by
    rw [List.any_eq_false]
    intro edge member same
    exact fresh (beq_iff_eq.mp same ▸ (wellFormed.anchored edge member).2)
  simp [entries, extended, List.filter_append, missed]

theorem entries_extended_singleton (fresh : node.id ∉ graph.ids) (target : edge.target = node.id) :
    (graph.extended node [edge] now).entries = graph.entries := by
  have reached : [node].filter (fun node => !(graph.edges ++ [edge]).any (·.target == node.id)) =
      [] := by simp [target]
  rw [entries, extended, List.filter_append, reached, List.append_nil, entries]
  refine List.filter_congr fun other member => ?_
  have different : (node.id == other.id) = false :=
    beq_eq_false_iff_ne.mpr fun same => fresh (same ▸ id_mem member)
  simp [target, different]

theorem Chained.congr (chained : graph.Chained) (ids : changed.ids = graph.ids)
    (edges : changed.edges = graph.edges) : changed.Chained where
  unique := ids ▸ chained.unique
  pairs := by
    rw [Graph.pairs, edges, ids]
    exact chained.pairs

def breaks (types : List StepType) : Nat := types.dropLast.count .finish

theorem breaks_concat {front : List StepType} {last type : StepType} :
    breaks (front ++ [last] ++ [type]) =
      breaks (front ++ [last]) + if last = .finish then 1 else 0 := by
  simp only [breaks, List.dropLast_concat, List.count_append, List.count_singleton, beq_iff_eq]

structure Strung (graph : Graph) (types : List StepType) : Prop where
  nodes : graph.nodes.map (·.type) = types
  entries : types ≠ [] → graph.entries.length = 1 + breaks types
  chained : breaks types = 0 → graph.Chained

theorem Strung.exists_types_eq (strung : graph.Strung types) {previous : Node}
    (last : graph.nodes.getLast? = some previous) : ∃ front, types = front ++ [previous.type] := by
  obtain ⟨front, nodes⟩ := List.getLast?_eq_some_iff.mp last
  refine ⟨front.map (·.type), ?_⟩
  rw [← strung.nodes, nodes, List.map_append, List.map_singleton]

theorem Strung.extended (strung : graph.Strung types) (wellFormed : graph.WellFormed)
    (fresh : node.id ∉ graph.ids) (joins : Joins node graph.nodes.getLast? edges) (now : Nat) :
    (graph.extended node edges now).Strung (types ++ [node.type]) := by
  have grown : (graph.extended node edges now).nodes.map (·.type) = types ++ [node.type] := by
    rw [Graph.extended, List.map_append, strung.nodes, List.map_singleton]
  generalize last : graph.nodes.getLast? = previous at joins
  cases joins with
  | first =>
    have empty := List.getLast?_eq_none_iff.mp last
    obtain rfl : [] = types := by rw [← strung.nodes, empty, List.map_nil]
    refine ⟨grown, fun _ => ?_, fun _ => ?_⟩
    · rw [entries_extended_nil wellFormed fresh, Graph.entries, empty]
      rfl
    · have started := (strung.chained rfl).start node empty
      exact started.congr (by simp [ids, Graph.extended, empty]) (by simp [Graph.extended])
  | @behind previous finish =>
    obtain ⟨front, rfl⟩ := strung.exists_types_eq last
    have more : breaks (front ++ [previous.type] ++ [node.type]) =
        breaks (front ++ [previous.type]) + 1 := by rw [breaks_concat, if_pos finish]
    refine ⟨grown, fun _ => ?_, fun whole => by omega⟩
    rw [entries_extended_nil wellFormed fresh, List.length_append, strung.entries (by simp), more]
    rfl
  | @linked previous edge goesOn source target =>
    obtain ⟨front, rfl⟩ := strung.exists_types_eq last
    have same : breaks (front ++ [previous.type] ++ [node.type]) =
        breaks (front ++ [previous.type]) := by rw [breaks_concat, if_neg goesOn, Nat.add_zero]
    refine ⟨grown, fun _ => ?_, fun whole => ?_⟩
    · rw [entries_extended_singleton fresh target, strung.entries (by simp), same]
    · have before : graph.Chained := strung.chained (same ▸ whole)
      exact (before.attach last fresh source target).congr rfl rfl

namespace Stepwise

theorem numbered [Limits] (stepwise : Stepwise types graph supply) : graph.Numbered supply := by
  induction stepwise with
  | created name campaign now supply => exact .create name campaign now supply
  | added _ passes _ position now ih => exact (ih.later passes).addNode _ position now

theorem strung [Limits] (stepwise : Stepwise types graph supply) : graph.Strung types := by
  induction stepwise with
  | created name campaign now supply =>
    exact ⟨rfl, fun some => absurd rfl some, fun _ => chained_create⟩
  | added stepwise passes known position now ih =>
    have numbered := stepwise.numbered.later passes
    obtain ⟨node, edges, next, grown, rfl, fresh, joins, -⟩ :=
      numbered.exists_addNode known position now
    rw [grown]
    exact ih.extended numbered.toWellFormed fresh joins now

end Stepwise

end Outreach.Graph
