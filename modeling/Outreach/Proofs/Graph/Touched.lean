import Outreach.Proofs.Graph.Unchanged

set_option autoImplicit false

namespace Outreach.Graph

variable {graph : Graph} {supply : Supply} {now : Nat}

inductive Ran (graph : Graph) (now : Nat) : Graph → Prop
  | touched {changed : Graph} (time : changed.updated = now) : Ran graph now changed
  | selected (id : Option String) : Ran graph now { graph with selected := id }

namespace Ran

theorem refl : graph.Ran now graph := .selected graph.selected

theorem updated {changed : Graph} (ran : graph.Ran now changed) :
    changed.updated = now ∨ changed.updated = graph.updated := by
  cases ran with
  | touched time => exact .inl time
  | selected id => exact .inr rfl

theorem settle {α : Type} {result : Except Failure (α × Graph)}
    (ran : ∀ answer changed, result = .ok (answer, changed) → graph.Ran now changed) :
    graph.Ran now (settle graph supply result).graph := by
  cases result with
  | error _ => exact refl
  | ok pair => exact ran pair.1 pair.2 rfl

theorem modifyNode {id : String} {change : Node → Node} {node : Node} {changed : Graph}
    (modified : graph.modifyNode id change now = .ok (node, changed)) : graph.Ran now changed := by
  obtain ⟨_, -, equal⟩ := map_eq_ok.mp modified
  obtain ⟨-, rfl⟩ := Prod.mk.inj equal
  exact .touched rfl

theorem updateConfig {id : String} {config : Value} {node : Node} {changed : Graph}
    (updated : graph.updateConfig id config now = .ok (node, changed)) : graph.Ran now changed := by
  obtain ⟨_, -, updated⟩ := bind_eq_ok.mp updated
  obtain ⟨_, -, modified⟩ := bind_eq_ok.mp updated
  exact modifyNode modified

theorem deleteNode {id : String} {changed : Graph}
    (deleted : graph.deleteNode id now = .ok changed) : graph.Ran now changed := by
  obtain ⟨_, -, rfl⟩ := map_eq_ok.mp deleted
  exact .touched rfl

theorem deleteEdge {id : String} {changed : Graph}
    (deleted : graph.deleteEdge id now = .ok changed) : graph.Ran now changed := by
  rw [Graph.deleteEdge] at deleted
  split at deleted
  · cases deleted
    exact .touched rfl
  · cases deleted

theorem select {id : Option String} {selection : Selection} {changed : Graph}
    (selected : graph.select id = .ok (selection, changed)) : graph.Ran now changed := by
  cases id with
  | none =>
    cases selected
    exact .selected none
  | some id =>
    obtain ⟨node, -, equal⟩ := map_eq_ok.mp selected
    obtain ⟨-, rfl⟩ := Prod.mk.inj equal
    exact .selected (some node.id)

theorem connect (source target : String) :
    graph.Ran now (graph.connect source target now supply).graph := by
  simp only [Graph.connect]
  repeat' split
  all_goals first | exact refl | exact .touched rfl

end Ran

section

variable [Limits]

theorem addNode_updated (type : Value) (position : Option Position) :
    (graph.addNode type position now supply).graph.updated = now ∨
      (∃ failure, (graph.addNode type position now supply).answer = .error failure) ∧
        (graph.addNode type position now supply).graph.updated = graph.updated := by
  simp only [addNode]
  repeat' split
  · exact .inr ⟨⟨_, rfl⟩, rfl⟩
  · exact .inr ⟨⟨_, rfl⟩, rfl⟩
  · exact .inl rfl

-- Only a step that could not be linked can stay behind without a trace.
theorem run_cases (command : Command) :
    graph.Ran now (graph.run command now supply).graph ∨
      ∃ type position failure, command = .addNode type position ∧
        (graph.addNode type position now supply).answer = .error failure ∧
        (graph.run command now supply).graph.updated = graph.updated := by
  cases command with
  | rename name => exact .inl (.touched rfl)
  | addNode type position =>
    obtain time | ⟨⟨failure, failed⟩, time⟩ := graph.addNode_updated type position
    · exact .inl (.touched time)
    · exact .inr ⟨type, position, failure, rfl, failed, time⟩
  | connect source target => exact .inl (.connect source target)
  | updateConfig node config => exact .inl (.settle fun _ _ => .updateConfig)
  | updatePosition node position => exact .inl (.settle fun _ _ => .modifyNode)
  | deleteNode node =>
    refine .inl (.settle fun _ _ result => ?_)
    obtain ⟨_, deleted, equal⟩ := map_eq_ok.mp result
    exact (Prod.mk.inj equal).2 ▸ .deleteNode deleted
  | deleteEdge edge =>
    refine .inl (.settle fun _ _ result => ?_)
    obtain ⟨_, deleted, equal⟩ := map_eq_ok.mp result
    exact (Prod.mk.inj equal).2 ▸ .deleteEdge deleted
  | select node => exact .inl (.settle fun _ _ => .select)

theorem run_updated (graph : Graph) (command : Command) (now : Nat) (supply : Supply) :
    (graph.run command now supply).graph.updated = now ∨
      (graph.run command now supply).graph.updated = graph.updated := by
  obtain ran | ⟨_, _, _, -, -, time⟩ := graph.run_cases command
  · exact ran.updated
  · exact .inr time

theorem Numbered.ran (numbered : graph.Numbered supply) (command : Command) :
    graph.Ran now (graph.run command now supply).graph := by
  obtain ran | ⟨type, position, failure, rfl, failed, -⟩ := graph.run_cases command
  · exact ran
  · have unchanged : (graph.run (.addNode type position) now supply).graph = graph :=
      numbered.addNode_unchanged failed
    rw [unchanged]
    exact .refl

end

theorem exists_of_insertVariable {id field variableName : String} {node : Node} {changed : Graph}
    (inserted : graph.insertVariable id field variableName now = .ok (node, changed)) :
    ∃ fields : Fields, graph.modifyNode id (·.configure fields) now = .ok (node, changed) := by
  obtain ⟨_, -, inserted⟩ := bind_eq_ok.mp inserted
  obtain ⟨_, -, modified⟩ := bind_eq_ok.mp inserted
  exact ⟨_, modified⟩

theorem Ran.insertVariable {id field variableName : String} {node : Node} {changed : Graph}
    (inserted : graph.insertVariable id field variableName now = .ok (node, changed)) :
    graph.Ran now changed := by
  obtain ⟨fields, modified⟩ := exists_of_insertVariable inserted
  exact .modifyNode modified

theorem insertVariable_campaign {id field variableName : String} {node : Node} {changed : Graph}
    (inserted : graph.insertVariable id field variableName now = .ok (node, changed)) :
    changed.campaign = graph.campaign := by
  obtain ⟨fields, modified⟩ := exists_of_insertVariable inserted
  exact modifyNode_campaign modified

theorem Numbered.insertVariable (numbered : graph.Numbered supply)
    {id field variableName : String} {node : Node} {changed : Graph}
    (inserted : graph.insertVariable id field variableName now = .ok (node, changed)) :
    changed.Numbered supply := by
  obtain ⟨fields, modified⟩ := exists_of_insertVariable inserted
  exact numbered.modifyNode modified fun _ => rfl

end Outreach.Graph
