import Outreach.Proofs.Graph.Edited
import Outreach.Proofs.Limits

set_option autoImplicit false

namespace Outreach.Graph

variable {graph : Graph} {supply : Supply} {now : Nat} {failure : Failure}

theorem settle_unchanged {α : Type} {result : Except Failure (α × Graph)}
    (failed : (settle graph supply result).answer = .error failure) :
    (settle graph supply result).graph = graph := by
  cases result with
  | error _ => rfl
  | ok pair => cases failed

theorem connect_unchanged {source target : String}
    (failed : (graph.connect source target now supply).answer = .error failure) :
    (graph.connect source target now supply).graph = graph := by
  simp only [connect] at failed ⊢
  repeat' split
  all_goals simp_all

theorem Numbered.addNode_unchanged [Limits] (numbered : graph.Numbered supply) {type : Value}
    {position : Option Position}
    (failed : (graph.addNode type position now supply).answer = .error failure) :
    (graph.addNode type position now supply).graph = graph := by
  cases known : StepType.find type with
  | error _ => rw [Graph.addNode, known]
  | ok kind =>
    -- The new node stays behind where its link is refused, but ids are such that no link is.
    obtain ⟨node, edges, next, grown, -⟩ := numbered.exists_addNode known position now
    rw [grown] at failed
    cases failed

theorem Numbered.run_unchanged [Limits] (numbered : graph.Numbered supply) (command : Command)
    (failed : (graph.run command now supply).answer = .error failure) :
    (graph.run command now supply).graph = graph := by
  cases command with
  | rename name => cases failed
  | addNode type position => exact numbered.addNode_unchanged (map_eq_error.mp failed)
  | connect source target => exact connect_unchanged (map_eq_error.mp failed)
  | updateConfig node config => exact settle_unchanged (map_eq_error.mp failed)
  | updatePosition node position => exact settle_unchanged (map_eq_error.mp failed)
  | deleteNode node => exact settle_unchanged failed
  | deleteEdge edge => exact settle_unchanged failed
  | select node => exact settle_unchanged (map_eq_error.mp failed)

theorem unchanged_of_error [Limits] (edited : graph.Edited supply) {next : Supply}
    (passes : supply.Passes next) (command : Command) (now : Nat) {failure : Failure}
    (failed : (graph.run command now next).answer = .error failure) :
    (graph.run command now next).graph = graph :=
  (edited.numbered.later passes).run_unchanged command failed

section

attribute [local instance] Limits.usual

theorem loop_unchanged : ∃ graph supply next, Edited graph supply ∧ supply.Passes next ∧
    graph.ids = ["node_00000001", "node_00000002"] ∧ graph.selected = some "node_00000002" ∧
    (graph.run (.connect "node_00000002" "node_00000002") 4 next).answer =
      .error EdgeFault.loop.failure ∧
    (graph.run (.connect "node_00000002" "node_00000002") 4 next).graph = graph := by
  have created := Edited.created (some "Sketch") none 0 Supply.initial
  have visit := created.ran (.refl _) (.addNode (.str "linkedin_visit") none) 1
  have follow := visit.ran (.refl _) (.addNode (.str "linkedin_follow") none) 2
  have selected := follow.ran (.refl _) (.select (some "node_00000002")) 3
  have passes : Supply.Passes { Supply.initial with nodes := 2, edges := 1, graphs := 1 }
      { Supply.initial with nodes := 9, edges := 8, graphs := 2 } := ⟨by decide, by decide⟩
  refine ⟨_, _, _, selected, passes, by decide, by decide, rfl, ?_⟩
  exact unchanged_of_error selected passes _ _ rfl

end

theorem settle_campaign {α : Type} {result : Except Failure (α × Graph)}
    (kept : ∀ answer changed, result = .ok (answer, changed) → changed.campaign = graph.campaign) :
    (settle graph supply result).graph.campaign = graph.campaign := by
  cases result with
  | error _ => rfl
  | ok pair => exact kept pair.1 pair.2 rfl

theorem modifyNode_campaign {id : String} {change : Node → Node} {node : Node} {changed : Graph}
    (modified : graph.modifyNode id change now = .ok (node, changed)) :
    changed.campaign = graph.campaign := by
  obtain ⟨first, -, equal⟩ := map_eq_ok.mp modified
  obtain ⟨-, rfl⟩ := Prod.mk.inj equal
  rfl

theorem updateConfig_campaign {id : String} {config : Value} {node : Node} {changed : Graph}
    (updated : graph.updateConfig id config now = .ok (node, changed)) :
    changed.campaign = graph.campaign := by
  obtain ⟨_, -, updated⟩ := bind_eq_ok.mp updated
  obtain ⟨_, -, modified⟩ := bind_eq_ok.mp updated
  exact modifyNode_campaign modified

theorem deleteNode_campaign {id : String} {changed : Graph}
    (deleted : graph.deleteNode id now = .ok changed) : changed.campaign = graph.campaign := by
  obtain ⟨_, -, rfl⟩ := map_eq_ok.mp deleted
  rfl

theorem deleteEdge_campaign {id : String} {changed : Graph}
    (deleted : graph.deleteEdge id now = .ok changed) : changed.campaign = graph.campaign := by
  rw [deleteEdge] at deleted
  split at deleted
  · cases deleted
    rfl
  · cases deleted

theorem select_campaign {id : Option String} {selection : Selection} {changed : Graph}
    (selected : graph.select id = .ok (selection, changed)) :
    changed.campaign = graph.campaign := by
  cases id with
  | none =>
    cases selected
    rfl
  | some id =>
    obtain ⟨_, -, equal⟩ := map_eq_ok.mp selected
    obtain ⟨-, rfl⟩ := Prod.mk.inj equal
    rfl

theorem addNode_campaign [Limits] (type : Value) (position : Option Position) :
    (graph.addNode type position now supply).graph.campaign = graph.campaign := by
  simp only [addNode]
  repeat' split
  all_goals rfl

theorem connect_campaign (source target : String) :
    (graph.connect source target now supply).graph.campaign = graph.campaign := by
  simp only [connect]
  repeat' split
  all_goals rfl

theorem run_campaign [Limits] (command : Command) :
    (graph.run command now supply).graph.campaign = graph.campaign := by
  cases command with
  | rename name => rfl
  | addNode type position => exact addNode_campaign type position
  | connect source target => exact connect_campaign source target
  | updateConfig node config => exact settle_campaign fun _ _ => updateConfig_campaign
  | updatePosition node position => exact settle_campaign fun _ _ => modifyNode_campaign
  | deleteNode node =>
    refine settle_campaign fun _ _ result => ?_
    obtain ⟨_, deleted, equal⟩ := map_eq_ok.mp result
    exact (Prod.mk.inj equal).2 ▸ deleteNode_campaign deleted
  | deleteEdge edge =>
    refine settle_campaign fun _ _ result => ?_
    obtain ⟨_, deleted, equal⟩ := map_eq_ok.mp result
    exact (Prod.mk.inj equal).2 ▸ deleteEdge_campaign deleted
  | select node => exact settle_campaign fun _ _ => select_campaign

end Outreach.Graph
