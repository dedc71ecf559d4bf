import Mathlib.Data.Fintype.Card
import Mathlib.Data.Set.Finite.Basic
import Mathlib.Logic.Relation
import Outreach.Graph.Linear

set_option autoImplicit false

namespace Outreach

open Relation

theorem exists_circle_behind {α : Type} {leads : α → α → Prop} {ids : List α}
    (behind : ∀ id ∈ ids, ∃ source ∈ ids, leads source id) {id : α} (member : id ∈ ids) :
    ∃ circle ∈ ids, TransGen leads circle circle ∧ ReflTransGen leads circle id := by
  -- Without a circle, what lies behind the element is finitely much in a strict order.
  by_contra none
  push Not at none
  let Above := { source : α // source ∈ ids ∧ ReflTransGen leads source id }
  let above : Above → Above → Prop := fun a b => TransGen leads a.1 b.1
  have finite : Finite Above := (ids.finite_toSet.subset fun _ inside => inside.1).to_subtype
  have transitive : IsTrans Above above := ⟨fun _ _ _ first second => first.trans second⟩
  have irreflexive : Std.Irrefl above := ⟨fun a circle => none a.1 a.2.1 circle a.2.2⟩
  have wellFounded : WellFounded above := Finite.wellFounded_of_trans_of_irrefl above
  have empty (a : Above) : False := by
    induction a using wellFounded.induction with
    | _ a ih =>
      obtain ⟨source, inside, leadsTo⟩ := behind a.1 a.2.1
      exact ih ⟨source, inside, .head leadsTo a.2.2⟩ (.single leadsTo)
  exact empty ⟨id, member, .refl⟩

theorem exists_leaving {α : Type} {leads : α → α → Prop} {inside : α → Prop} {first last : α}
    (path : ReflTransGen leads first last) (starts : inside first) (ends : ¬ inside last) :
    ∃ source target, inside source ∧ ¬ inside target ∧ leads source target ∧
      ReflTransGen leads target last := by
  induction path using ReflTransGen.head_induction_on with
  | refl => exact absurd starts ends
  | @head source target leadsTo rest ih =>
    by_cases within : inside target
    · exact ih within
    · exact ⟨source, target, starts, within, leadsTo, rest⟩

def Node.bare (id : String) (type : StepType) : Node :=
  { id, type, position := Position.origin, config := [] }

namespace Graph

def ids (graph : Graph) : List String := graph.nodes.map (·.id)

def Leads (graph : Graph) (source target : String) : Prop :=
  ∃ edge ∈ graph.edges, edge.source = source ∧ edge.target = target

def Path (graph : Graph) : String → String → Prop := TransGen graph.Leads

def Reaches (graph : Graph) : String → String → Prop := ReflTransGen graph.Leads

def Acyclic (graph : Graph) : Prop := ∀ id, ¬ graph.Path id id

structure WellFormed (graph : Graph) : Prop where
  unique : graph.ids.Nodup
  anchored : ∀ edge ∈ graph.edges, edge.source ∈ graph.ids ∧ edge.target ∈ graph.ids

variable {graph : Graph} {entry : Node} {source target : String}

theorem mem_ids {id : String} : id ∈ graph.ids ↔ ∃ node ∈ graph.nodes, node.id = id := by
  simp [ids]

theorem id_mem {node : Node} (member : node ∈ graph.nodes) : node.id ∈ graph.ids :=
  List.mem_map_of_mem member

theorem WellFormed.source_mem (wellFormed : graph.WellFormed) (leads : graph.Leads source target) :
    source ∈ graph.ids := by
  obtain ⟨edge, member, rfl, -⟩ := leads
  exact (wellFormed.anchored edge member).1

theorem WellFormed.target_mem (wellFormed : graph.WellFormed) (leads : graph.Leads source target) :
    target ∈ graph.ids := by
  obtain ⟨edge, member, -, rfl⟩ := leads
  exact (wellFormed.anchored edge member).2

theorem mem_entries {node : Node} :
    node ∈ graph.entries ↔ node ∈ graph.nodes ∧ ∀ source, ¬ graph.Leads source node.id := by
  simp only [entries, List.mem_filter, Bool.not_eq_true', List.any_eq_false, beq_iff_eq, Leads,
    not_exists, not_and]
  exact and_congr_right fun _ =>
    ⟨fun none _ edge member _ => none edge member, fun none edge member => none _ edge member rfl⟩

theorem entry_mem (single : graph.entries = [entry]) : entry ∈ graph.nodes := by
  have member : entry ∈ graph.entries := single ▸ List.mem_singleton_self entry
  exact (mem_entries.mp member).1

theorem not_leads_entry (single : graph.entries = [entry]) : ¬ graph.Leads source entry.id := by
  have member : entry ∈ graph.entries := single ▸ List.mem_singleton_self entry
  exact (mem_entries.mp member).2 source

theorem exists_leads (single : graph.entries = [entry]) {id : String} (member : id ∈ graph.ids)
    (other : id ≠ entry.id) : ∃ source, graph.Leads source id := by
  obtain ⟨node, inside, rfl⟩ := mem_ids.mp member
  by_contra none
  have isEntry : node ∈ graph.entries := mem_entries.mpr ⟨inside, not_exists.mp none⟩
  rw [single, List.mem_singleton] at isEntry
  exact other (congrArg Node.id isEntry)

end Graph

end Outreach
