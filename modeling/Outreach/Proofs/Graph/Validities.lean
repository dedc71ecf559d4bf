import Outreach.Graph.Basic
import Outreach.Proofs.Graph.Circles
import Outreach.Proofs.Step.Validity

set_option autoImplicit false

namespace Outreach

def Node.unreadable (node : Node) : Bool := node.type == .delay && Delay.unreadable node.config

theorem Node.validity_eq_error_iff {node : Node} {failure : Failure} :
    node.validity = .error failure ↔
      node.unreadable = true ∧ failure = .defect .numeralTooLong := by
  simp [Node.validity, Validity.of_eq_error_iff, Node.unreadable]

theorem Node.unreadable_of_days {node : Node} {value : Value} (delay : node.type = .delay)
    (given : node.config.getD "delayDays" = value) (long : Delay.overlong value = true) :
    node.unreadable = true := by
  simp [Node.unreadable, delay, Delay.unreadable, Delay.bounds, given, long]

namespace Graph

variable {graph : Graph} {found : List (String × Validity)} {failure : Failure}

def judge (node : Node) : Except Failure (String × Validity) := node.validity.map (node.id, ·)

def record (found : List (String × Validity)) (node : Node) :
    Except Failure (List (String × Validity)) := do
  let validity ← node.validity
  return if found.any (·.1 == node.id)
    then found.map fun entry => if entry.1 = node.id then (entry.1, validity) else entry
    else found ++ [(node.id, validity)]

theorem record_of_new {node : Node} (new : node.id ∉ found.map (·.1)) :
    record found node = (judge node).map fun entry => found ++ [entry] := by
  have unlisted : found.any (·.1 == node.id) = false := by
    rw [List.any_eq_false]
    rintro entry inside same
    exact new (List.mem_map.mpr ⟨entry, inside, by simpa using same⟩)
  rw [record, judge]
  cases node.validity <;> simp [unlisted, bind, Except.bind, pure, Except.pure, Except.map]

theorem foldlM_record {nodes : List Node} (unique : (found.map (·.1) ++ nodes.map (·.id)).Nodup) :
    nodes.foldlM record found = (nodes.mapM judge).map (found ++ ·) := by
  induction nodes generalizing found with
  | nil => simp [Except.map, pure, Except.pure]
  | cons node rest ih =>
    have new : node.id ∉ found.map (·.1) := by
      intro listed
      exact List.disjoint_of_nodup_append unique listed List.mem_cons_self
    rw [List.foldlM_cons, List.mapM_cons, record_of_new new]
    cases judged : judge node with
    | error failure => rfl
    | ok entry =>
      obtain ⟨validity, -, rfl⟩ := map_eq_ok.mp judged
      have later : ((found ++ [(node.id, validity)]).map (·.1) ++ rest.map (·.id)).Nodup := by
        simpa using unique
      simp only [Except.map, bind, Except.bind]
      rw [ih later]
      cases rest.mapM judge <;> simp [Except.map, pure, Except.pure]

theorem validities_eq (unique : graph.ids.Nodup) : graph.validities = graph.nodes.mapM judge := by
  have same : graph.validities = graph.nodes.foldlM record [] := rfl
  rw [same, foldlM_record (by simpa [ids] using unique)]
  cases graph.nodes.mapM judge <;> rfl

theorem validities_eq_error_iff (unique : graph.ids.Nodup) :
    graph.validities = .error failure ↔
      (∃ node ∈ graph.nodes, node.unreadable = true) ∧ failure = .defect .numeralTooLong := by
  rw [validities_eq unique, mapM_eq_error_iff]
  intro node _ other
  rw [judge, map_eq_error, Node.validity_eq_error_iff]

def Lists (node : Node) (entry : String × Validity) : Prop :=
  entry.1 = node.id ∧ node.validity = .ok entry.2

theorem lists_of_validities (unique : graph.ids.Nodup) (listed : graph.validities = .ok found) :
    List.Forall₂ Lists graph.nodes found := by
  rw [validities_eq unique] at listed
  refine (mapM_eq_ok.mp listed).imp ?_
  intro node entry judged
  obtain ⟨validity, computed, rfl⟩ := map_eq_ok.mp judged
  exact ⟨rfl, computed⟩

theorem exists_validities (unique : graph.ids.Nodup)
    (readable : ∀ node ∈ graph.nodes, node.unreadable = false) :
    ∃ found, graph.validities = .ok found ∧ List.Forall₂ Lists graph.nodes found := by
  cases listed : graph.validities with
  | ok found => exact ⟨found, rfl, lists_of_validities unique listed⟩
  | error failure =>
    obtain ⟨⟨node, inside, long⟩, -⟩ := (validities_eq_error_iff unique).mp listed
    rw [readable node inside] at long
    cases long

end Graph

end Outreach
