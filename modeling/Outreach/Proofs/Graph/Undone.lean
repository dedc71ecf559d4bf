import Outreach.Proofs.Graph.Edited
import Outreach.Proofs.Limits

set_option autoImplicit false

namespace Outreach

inductive Command.Aside (node : String) : Command → Prop
  | rename (name : Option String) : Aside node (.rename name)
  | updateConfig {other : String} (different : other ≠ node) (config : Value) :
    Aside node (.updateConfig other config)
  | updatePosition {other : String} (different : other ≠ node) (position : Position) :
    Aside node (.updatePosition other position)
  | select {other : Option String} (different : other ≠ some node) : Aside node (.select other)

inductive Command.Alters : Command → Prop
  | rename (name : Option String) : Alters (.rename name)
  | updateConfig (node : String) (config : Value) : Alters (.updateConfig node config)
  | updatePosition (node : String) (position : Position) : Alters (.updatePosition node position)
  | select (node : Option String) : Alters (.select node)

theorem Command.Aside.alters {node : String} {command : Command} (aside : command.Aside node) :
    command.Alters := by
  cases aside with
  | rename name => exact .rename name
  | updateConfig _ config => exact .updateConfig _ config
  | updatePosition _ position => exact .updatePosition _ position
  | select _ => exact .select _

namespace Graph

def runAll [Limits] : List (Command × Nat) → Graph → Supply → Graph × Supply
  | [], graph, supply => (graph, supply)
  | (command, now) :: rest, graph, supply =>
    let outcome := graph.run command now supply
    runAll rest outcome.graph outcome.supply

variable {graph changed : Graph} {node : Node} {edges : List Edge} {supply next : Supply}
  {id : String} {command : Command} {time now : Nat}

section Beside

variable (different : id ≠ node.id)

include different

theorem getNode_extended : (graph.extended node edges time).getNode id = graph.getNode id := by
  have missed : (node.id == id) = false := by simpa using different.symm
  simp [getNode, findNode, extended, missed]

theorem modifyNodes_append (change : Node → Node) (nodes : List Node) :
    modifyNodes change id (nodes ++ [node]) = modifyNodes change id nodes ++ [node] := by
  induction nodes with
  | nil => simp [modifyNodes, different.symm]
  | cons first rest ih =>
    rw [List.cons_append, modifyNodes, modifyNodes, ih]
    split <;> rfl

theorem modifyNode_extended (change : Node → Node) :
    (graph.extended node edges time).modifyNode id change now =
      (graph.modifyNode id change now).map fun result =>
        (result.1, result.2.extended node edges now) := by
  rw [modifyNode, modifyNode, getNode_extended different]
  cases graph.getNode id with
  | error failure => rfl
  | ok found =>
    simp only [map_ok, touch, extended, modifyNodes_append different]

theorem updateConfig_extended (config : Value) :
    (graph.extended node edges time).updateConfig id config now =
      (graph.updateConfig id config now).map fun result =>
        (result.1, result.2.extended node edges now) := by
  rw [updateConfig, updateConfig, getNode_extended different]
  cases graph.getNode id with
  | error failure => rfl
  | ok found =>
    cases config.asFields with
    | error defect => rfl
    | ok fields => exact modifyNode_extended different _

end Beside

-- Where a command does the same to a graph with one more node, it leaves the same and that node.
theorem settle_extended {α : Type} (result : Except Failure (α × Graph)) :
    ∃ later, (settle (graph.extended node edges time) supply
        (result.map fun pair => (pair.1, pair.2.extended node edges now))).graph =
      (settle graph next result).graph.extended node edges later := by
  cases result with
  | error failure => exact ⟨time, rfl⟩
  | ok pair => exact ⟨now, rfl⟩

theorem exists_run_extended [Limits] (aside : command.Aside node.id) :
    ∃ later, ((graph.extended node edges time).run command now supply).graph =
      (graph.run command now next).graph.extended node edges later := by
  cases aside with
  | rename name => exact ⟨now, rfl⟩
  | updateConfig different config =>
    simp only [run, Outcome.map, updateConfig_extended different]
    exact settle_extended _
  | updatePosition different position =>
    simp only [run, Outcome.map, Graph.updatePosition, modifyNode_extended different]
    exact settle_extended _
  | @select other different =>
    cases other with
    | none => exact ⟨time, rfl⟩
    | some id =>
      have other : id ≠ node.id := fun same => different (congrArg some same)
      simp only [run, select, getNode_extended other]
      cases graph.getNode id with
      | error failure => exact ⟨time, rfl⟩
      | ok found => exact ⟨time, rfl⟩

-- By induction on the commands: each leaves the node where it is.
theorem exists_runAll_extended [Limits] {commands : List (Command × Nat)}
    (aside : ∀ command ∈ commands, command.1.Aside node.id) :
    ∃ later, (runAll commands (graph.extended node edges time) supply).1 =
      (runAll commands graph next).1.extended node edges later := by
  induction commands generalizing graph time supply next with
  | nil => exact ⟨time, rfl⟩
  | cons first rest ih =>
    obtain ⟨here, behind⟩ := List.forall_mem_cons.mp aside
    obtain ⟨later, same⟩ : ∃ later,
        ((graph.extended node edges time).run first.1 first.2 supply).graph =
          (graph.run first.1 first.2 next).graph.extended node edges later :=
      exists_run_extended here
    simp only [runAll, same]
    exact ih behind

structure Keeps (graph changed : Graph) : Prop where
  ids : changed.ids = graph.ids
  types : changed.nodes.map (·.type) = graph.nodes.map (·.type)
  edges : changed.edges = graph.edges

theorem keeps_settle {α β : Type} {result : Except Failure (α × Graph)} {reply : α → β}
    (kept : ∀ answer changed, result = .ok (answer, changed) → graph.Keeps changed) :
    graph.Keeps ((settle graph supply result).map reply).graph := by
  cases result with
  | error failure => exact ⟨rfl, rfl, rfl⟩
  | ok pair => exact kept pair.1 pair.2 rfl

theorem keeps_modifyNode {change : Node → Node} {answer : Node}
    (modified : graph.modifyNode id change now = .ok (answer, changed))
    (ids : ∀ node, (change node).id = node.id) (types : ∀ node, (change node).type = node.type) :
    graph.Keeps changed := by
  obtain ⟨first, -, equal⟩ := map_eq_ok.mp modified
  obtain ⟨-, rfl⟩ := Prod.mk.inj equal
  exact ⟨modifyNodes_ids ids id graph.nodes, map_modifyNodes types id graph.nodes, rfl⟩

theorem keeps_run [Limits] (alters : command.Alters) :
    graph.Keeps (graph.run command now supply).graph := by
  cases alters with
  | rename name => exact ⟨rfl, rfl, rfl⟩
  | updateConfig id config =>
    refine keeps_settle fun answer changed updated => ?_
    obtain ⟨_, -, updated⟩ := bind_eq_ok.mp updated
    obtain ⟨fields, -, modified⟩ := bind_eq_ok.mp updated
    exact keeps_modifyNode modified (fun _ => rfl) fun _ => rfl
  | updatePosition id position =>
    exact keeps_settle fun answer changed modified =>
      keeps_modifyNode modified (fun _ => rfl) fun _ => rfl
  | select id =>
    refine keeps_settle fun answer changed selected => ?_
    cases id with
    | none =>
      cases selected
      exact ⟨rfl, rfl, rfl⟩
    | some id =>
      obtain ⟨found, -, equal⟩ := map_eq_ok.mp selected
      obtain ⟨-, rfl⟩ := Prod.mk.inj equal
      exact ⟨rfl, rfl, rfl⟩

theorem keeps_runAll [Limits] {commands : List (Command × Nat)}
    (alters : ∀ command ∈ commands, command.1.Alters) :
    graph.Keeps (runAll commands graph supply).1 := by
  induction commands generalizing graph supply with
  | nil => exact ⟨rfl, rfl, rfl⟩
  | cons first rest ih =>
    obtain ⟨here, behind⟩ := List.forall_mem_cons.mp alters
    have once : graph.Keeps (graph.run first.1 first.2 supply).graph := keeps_run here
    have later : (graph.run first.1 first.2 supply).graph.Keeps
        (runAll (first :: rest) graph supply).1 := ih behind
    exact ⟨later.ids.trans once.ids, later.types.trans once.types, later.edges.trans once.edges⟩

theorem Numbered.runAll [Limits] (numbered : graph.Numbered supply)
    (commands : List (Command × Nat)) :
    (Graph.runAll commands graph supply).1.Numbered (Graph.runAll commands graph supply).2 := by
  induction commands generalizing graph supply with
  | nil => exact numbered
  | cons first rest ih => exact ih (numbered.run first.1 first.2)

theorem Joins.touches {previous : Option Node} (joins : Joins node previous edges) :
    ∀ edge ∈ edges, edge.touches node.id = true := by
  intro edge member
  cases joins with
  | first => cases member
  | behind finish => cases member
  | linked goesOn source target =>
    obtain rfl := List.mem_singleton.mp member
    simp [Edge.touches, target]

theorem deleteNode_extended (sound : graph.Sound) (fresh : node.id ∉ graph.ids)
    (touching : ∀ edge ∈ edges, edge.touches node.id = true) :
    (graph.extended node edges time).deleteNode node.id now = .ok (graph.touch now) := by
  have missed : graph.nodes.find? (·.id == node.id) = none := by
    rw [List.find?_eq_none]
    intro other member same
    exact fresh (mem_ids.mpr ⟨other, member, by simpa using same⟩)
  have found : (graph.extended node edges time).getNode node.id = .ok node := by
    simp [getNode, findNode, extended, List.find?_append, missed]
  have nodes : (graph.nodes ++ [node]).filter (·.id != node.id) = graph.nodes := by
    rw [List.filter_append, List.filter_eq_self.mpr]
    · simp
    · intro other member
      have different : other.id ≠ node.id := fun same => fresh (same ▸ id_mem member)
      simpa using different
  have kept : (graph.edges ++ edges).filter (!·.touches node.id) = graph.edges := by
    rw [List.filter_append, List.filter_eq_self.mpr, List.filter_eq_nil_iff.mpr, List.append_nil]
    · intro edge member
      simp [touching edge member]
    · -- No edge between other nodes is at the new one.
      intro edge member
      obtain ⟨source, target⟩ := sound.anchored edge member
      have left : edge.source ≠ node.id := fun same => fresh (same ▸ source)
      have right : edge.target ≠ node.id := fun same => fresh (same ▸ target)
      simp [Edge.touches, left, right]
  have unselected : (graph.extended node edges time).selected ≠ some node.id := fun selected =>
    fresh (sound.selects _ selected)
  rw [deleteNode, found, map_ok, if_neg unselected]
  simp only [extended, touch, nodes, kept]

structure Undoes [Limits] (graph : Graph) (supply : Supply) (node : Node) (added : Outcome Reply)
    (commands : List (Command × Nat)) (deleted : Nat) : Prop where
  answer : ((runAll commands added.graph added.supply).1.run (.deleteNode node.id) deleted
    (runAll commands added.graph added.supply).2).answer = .ok .done
  graph : ((runAll commands added.graph added.supply).1.run (.deleteNode node.id) deleted
    (runAll commands added.graph added.supply).2).graph =
      (runAll commands graph supply).1.touch deleted

theorem add_undone [Limits] (numbered : graph.Numbered supply) {type : Value} {kind : StepType}
    (known : StepType.find type = .ok kind) (position : Option Position) (now : Nat) :
    ∃ node, (graph.run (.addNode type position) now supply).answer = .ok (.node node) ∧
      ∀ commands : List (Command × Nat), (∀ command ∈ commands, command.1.Aside node.id) →
        ∀ deleted, graph.Undoes supply node (graph.run (.addNode type position) now supply)
          commands deleted := by
  obtain ⟨node, edges, last, grown, -, fresh, joins, -⟩ :=
    numbered.exists_addNode known position now
  refine ⟨node, by rw [run, grown]; rfl, fun commands aside deleted => ?_⟩
  have added : (graph.run (.addNode type position) now supply).graph =
      graph.extended node edges now := congrArg Outcome.graph grown
  obtain ⟨later, same⟩ : ∃ later, (runAll commands (graph.extended node edges now)
      (graph.run (.addNode type position) now supply).supply).1 =
        (runAll commands graph supply).1.extended node edges later :=
    exists_runAll_extended aside
  have sound : (runAll commands graph supply).1.Sound := (numbered.runAll commands).toSound
  have keeps : graph.Keeps (runAll commands graph supply).1 :=
    keeps_runAll fun command member => (aside command member).alters
  have ran (next : Supply) : ((runAll commands graph supply).1.extended node edges later).run
      (.deleteNode node.id) deleted next =
        { answer := .ok .done, graph := (runAll commands graph supply).1.touch deleted
          supply := next } := by
    rw [run, deleteNode_extended sound (keeps.ids ▸ fresh) joins.touches]
    rfl
  constructor
  all_goals rw [added, same, ran]

theorem filter_append_self {row : List Edge} {edge : Edge} (fresh : edge.id ∉ row.map (·.id)) :
    (row ++ [edge]).filter (·.id != edge.id) = row := by
  rw [List.filter_append, List.filter_eq_self.mpr]
  · simp
  · intro other member
    have different : other.id ≠ edge.id := fun same => fresh (same ▸ List.mem_map_of_mem member)
    simpa using different

theorem exists_connect (numbered : graph.Numbered supply) {source target : String}
    (sourceMember : source ∈ graph.ids) (targetMember : target ∈ graph.ids)
    (different : source ≠ target) (new : graph.findEdge source target = none) (now : Nat) :
    ∃ edge next, edge.id ∉ graph.edgeIds ∧ graph.connect source target now supply =
      { answer := .ok edge, graph := touch { graph with edges := graph.edges ++ [edge] } now
        supply := next } := by
  have known {id : String} (member : id ∈ graph.ids) : ¬ (graph.findNode id).isNone = true := by
    obtain ⟨node, inside, same⟩ := mem_ids.mp member
    have found : (graph.findNode id).isSome = true :=
      List.find?_isSome.mpr ⟨node, inside, by simpa using same⟩
    simp [Option.isNone_eq_false_iff.mpr found]
  refine ⟨{ id := Supply.edgeId (supply.edges + 1), source, target },
    { supply with edges := supply.edges + 1 }, numbered.edge_fresh, ?_⟩
  rw [connect, if_neg (known sourceMember), if_neg (known targetMember), if_neg different, new,
    numbered.create_edge sourceMember targetMember different]

theorem draw_undone [Limits] (numbered : graph.Numbered supply) {source target : String}
    (sourceMember : source ∈ graph.ids) (targetMember : target ∈ graph.ids)
    (different : source ≠ target) (new : graph.findEdge source target = none) (now : Nat) :
    ∃ edge next, (graph.run (.connect source target) now supply).answer = .ok (.edge edge) ∧
      ∀ deleted, ((graph.run (.connect source target) now supply).graph.run (.deleteEdge edge.id)
        deleted (graph.run (.connect source target) now supply).supply) =
          { answer := .ok .done, graph := graph.touch deleted, supply := next } := by
  obtain ⟨edge, next, fresh, drawn⟩ :=
    exists_connect numbered sourceMember targetMember different new now
  have ran : graph.run (.connect source target) now supply = _ :=
    congrArg (Outcome.map Reply.edge) drawn
  have inside : (graph.edges ++ [edge]).any (·.id == edge.id) = true := by simp
  refine ⟨edge, next, by rw [ran]; rfl, fun deleted => ?_⟩
  rw [ran]
  simp only [Outcome.map, run, deleteEdge, touch, inside, filter_append_self fresh]
  rfl

theorem edits_undone [Limits] (edited : graph.Edited supply) (passes : supply.Passes next) :
    (∀ (type : Value) (kind : StepType), StepType.find type = .ok kind →
      ∀ (position : Option Position) (now : Nat), ∃ node,
        (graph.run (.addNode type position) now next).answer = .ok (.node node) ∧
          ∀ commands : List (Command × Nat), (∀ command ∈ commands, command.1.Aside node.id) →
            ∀ deleted, graph.Undoes next node (graph.run (.addNode type position) now next)
              commands deleted) ∧
    ∀ source ∈ graph.ids, ∀ target ∈ graph.ids, source ≠ target →
      graph.findEdge source target = none → ∀ now, ∃ edge last,
        (graph.run (.connect source target) now next).answer = .ok (.edge edge) ∧
          ∀ deleted, ((graph.run (.connect source target) now next).graph.run
            (.deleteEdge edge.id) deleted (graph.run (.connect source target) now next).supply) =
              { answer := .ok .done, graph := graph.touch deleted, supply := last } := by
  have numbered := edited.numbered.later passes
  constructor
  · intro type kind known position now
    exact add_undone numbered known position now
  · intro source sourceMember target targetMember different new now
    exact draw_undone numbered sourceMember targetMember different new now

section

attribute [local instance] Limits.usual

theorem sketched_undone : ∃ graph supply next, Edited graph supply ∧ supply.Passes next ∧
    graph.ids = ["node_00000001", "node_00000002"] ∧
    (∃ node, node.id = "node_0000000a" ∧
      (graph.run (.addNode (.str "linkedin_message") none) 4 next).answer = .ok (.node node) ∧
      graph.Undoes next node (graph.run (.addNode (.str "linkedin_message") none) 4 next)
        [(.rename (some "Plan"), 5),
          (.updateConfig "node_00000001" (.obj [("title", .str "Hello")]), 6),
          (.updatePosition "node_00000009" Position.origin, 7),
          (.select (some "node_00000002"), 8)] 9) ∧
    ∃ edge last,
      (graph.run (.connect "node_00000002" "node_00000001") 4 next).answer = .ok (.edge edge) ∧
        ∀ deleted, ((graph.run (.connect "node_00000002" "node_00000001") 4 next).graph.run
          (.deleteEdge edge.id) deleted
            (graph.run (.connect "node_00000002" "node_00000001") 4 next).supply) =
              { answer := .ok .done, graph := graph.touch deleted, supply := last } := by
  have created := Edited.created (some "Sketch") none 0 Supply.initial
  have visit := created.ran (.refl _) (.addNode (.str "linkedin_visit") none) 1
  have follow := visit.ran (.refl _) (.addNode (.str "linkedin_follow") none) 2
  have selected := follow.ran (.refl _) (.select (some "node_00000001")) 3
  have passes : Supply.Passes { Supply.initial with nodes := 2, edges := 1, graphs := 1 }
      { Supply.initial with nodes := 9, edges := 8, graphs := 2 } := ⟨by decide, by decide⟩
  obtain ⟨added, drawn⟩ := edits_undone selected passes
  obtain ⟨node, answer, undoes⟩ := added (.str "linkedin_message") .linkedinMessage rfl none 4
  have id : node.id = "node_0000000a" := by
    cases answer
    rfl
  refine ⟨_, _, _, selected, passes, by decide, ⟨node, id, answer, undoes _ ?_ 9⟩,
    drawn _ (by decide) _ (by decide) (by decide) (by decide) 4⟩
  simp only [List.forall_mem_cons, id]
  exact ⟨.rename _, .updateConfig (by decide) _, .updatePosition (by decide) _,
    .select (by decide), fun _ member => absurd member List.not_mem_nil⟩

end

end Graph

end Outreach
