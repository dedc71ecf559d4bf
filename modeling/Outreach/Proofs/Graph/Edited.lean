import Outreach.Proofs.Campaign.Rebuilt
import Outreach.Proofs.Limits

set_option autoImplicit false

namespace Outreach.Graph

inductive Edited [Limits] : Graph → Supply → Prop where
  | created (name campaign : Option String) (now : Nat) (supply : Supply) :
    Edited (Graph.create name campaign now supply).1 (Graph.create name campaign now supply).2
  | rebuilt {name campaign : Option String} {steps : List Value} {now : Nat} {graph : Graph}
    {supply next : Supply} (rebuilt : ofSteps name campaign steps now supply = (.ok graph, next)) :
    Edited graph next
  | ran {graph : Graph} {supply next : Supply} (edited : Edited graph supply)
    (passes : supply.Passes next) (command : Command) (now : Nat) :
    Edited (graph.run command now next).graph (graph.run command now next).supply

def extended (graph : Graph) (node : Node) (edges : List Edge) (time : Nat) : Graph :=
  { graph with
    nodes := graph.nodes ++ [node], edges := graph.edges ++ edges, updated := time }

inductive Joins (node : Node) : Option Node → List Edge → Prop
  | first : Joins node none []
  | behind {previous : Node} (finish : previous.type = .finish) : Joins node (some previous) []
  | linked {previous : Node} {edge : Edge} (goesOn : previous.type ≠ .finish)
    (source : edge.source = previous.id) (target : edge.target = node.id) :
    Joins node (some previous) [edge]

theorem map_modifyNodes {α : Type} {field : Node → α} {change : Node → Node}
    (same : ∀ node, field (change node) = field node) (id : String) (nodes : List Node) :
    (modifyNodes change id nodes).map field = nodes.map field := by
  induction nodes with
  | nil => rfl
  | cons node rest ih =>
    rw [modifyNodes]
    split
    · rw [List.map_cons, same, List.map_cons]
    · rw [List.map_cons, ih, List.map_cons]

theorem modifyNodes_ids {change : Node → Node} (same : ∀ node, (change node).id = node.id)
    (id : String) (nodes : List Node) :
    (modifyNodes change id nodes).map (·.id) = nodes.map (·.id) :=
  map_modifyNodes same id nodes

theorem mem_of_getNode {graph : Graph} {id : String} {node : Node}
    (found : graph.getNode id = .ok node) : node ∈ graph.nodes ∧ node.id = id := by
  rw [getNode, findNode] at found
  split at found
  · rename_i first known
    cases found
    exact ⟨List.mem_of_find?_eq_some known, by simpa using List.find?_some known⟩
  · cases found

theorem mem_ids_of_findNode {graph : Graph} {id : String}
    (known : ¬ (graph.findNode id).isNone = true) : id ∈ graph.ids := by
  cases found : graph.findNode id with
  | none => simp [found] at known
  | some node =>
    have same := List.find?_some found
    exact mem_ids.mpr ⟨node, List.mem_of_find?_eq_some found, by simpa using same⟩

namespace Numbered

variable {graph : Graph} {supply : Supply}

theorem rename (numbered : graph.Numbered supply) (name : Option String) (now : Nat) :
    (graph.rename name now).Numbered supply :=
  numbered.keep rfl rfl numbered.selects Text.strip_strip

theorem exists_link (numbered : graph.Numbered supply) {node : Node}
    (new : node.id = Supply.nodeId (supply.nodes + 1)) :
    ∃ edges next,
      link graph.nodes.getLast? node.id { supply with nodes := supply.nodes + 1 } =
          .ok (edges, next) ∧
        Joins node graph.nodes.getLast? edges ∧
        Numbered { graph with nodes := graph.nodes ++ [node], edges := graph.edges ++ edges }
          next := by
  have unlinked : Numbered { graph with nodes := graph.nodes ++ [node], edges := graph.edges ++ [] }
      { supply with nodes := supply.nodes + 1 } := by
    rw [List.append_nil]
    exact numbered.grow new
  cases last : graph.nodes.getLast? with
  | none => exact ⟨[], _, rfl, .first, unlinked⟩
  | some previous =>
    by_cases finish : previous.type = .finish
    · exact ⟨[], _, if_pos finish, .behind finish, unlinked⟩
    · obtain ⟨drawn, attached⟩ := numbered.attach (List.mem_of_getLast? last) new
      refine ⟨_, _, ?_, .linked finish rfl rfl, attached⟩
      rw [link, if_neg finish, drawn, Except.map]

-- The link to the last node is never refused, so no node is left behind without it.
theorem exists_addNode [Limits] (numbered : graph.Numbered supply) {type : Value} {kind : StepType}
    (known : StepType.find type = .ok kind) (position : Option Position) (now : Nat) :
    ∃ node edges next, graph.addNode type position now supply =
        { answer := .ok node, graph := graph.extended node edges now, supply := next } ∧
      node.type = kind ∧ node.id ∉ graph.ids ∧ Joins node graph.nodes.getLast? edges ∧
      (graph.extended node edges now).Numbered next := by
  let node := (Node.create kind (Catalog.definition kind).defaults position supply).1
  have new : node.id = Supply.nodeId (supply.nodes + 1) := rfl
  obtain ⟨edges, next, linked, joins, grown⟩ := numbered.exists_link new
  refine ⟨node, edges, next, ?_, rfl, new ▸ numbered.node_fresh, joins,
    grown.keep rfl rfl grown.selects grown.stripped⟩
  simp only [node, Node.create, Supply.node] at linked ⊢
  simp only [Graph.addNode, known, Node.create, Supply.node]
  rw [linked]
  rfl

theorem addNode [Limits] (numbered : graph.Numbered supply) (type : Value)
    (position : Option Position) (now : Nat) :
    (graph.addNode type position now supply).graph.Numbered
      (graph.addNode type position now supply).supply := by
  cases known : StepType.find type with
  | error failure =>
    rw [Graph.addNode, known]
    exact numbered
  | ok kind =>
    obtain ⟨node, edges, next, grown, -, -, -, later⟩ :=
      numbered.exists_addNode known position now
    rw [grown]
    exact later

theorem connect (numbered : graph.Numbered supply) (source target : String) (now : Nat) :
    (graph.connect source target now supply).graph.Numbered
      (graph.connect source target now supply).supply := by
  by_cases sourceMissing : (graph.findNode source).isNone
  · simpa [Graph.connect, sourceMissing] using numbered
  by_cases targetMissing : (graph.findNode target).isNone
  · simpa [Graph.connect, sourceMissing, targetMissing] using numbered
  by_cases loop : source = target
  · simpa [Graph.connect, sourceMissing, targetMissing, loop] using numbered
  have sourceMember := mem_ids_of_findNode sourceMissing
  have targetMember := mem_ids_of_findNode targetMissing
  rw [Graph.connect, if_neg sourceMissing, if_neg targetMissing, if_neg loop]
  cases found : graph.findEdge source target with
  | some edge => exact numbered
  | none =>
    -- Ids hold no blanks, so the ends are stored as they were looked up.
    rw [numbered.create_edge sourceMember targetMember loop]
    have new : ∀ edge ∈ graph.edges, edge.source = source → edge.target ≠ target := by
      simpa [findEdge] using found
    have drawn := numbered.draw sourceMember targetMember loop new
    exact drawn.keep rfl rfl drawn.selects drawn.stripped

theorem modifyNode (numbered : graph.Numbered supply) {id : String} {change : Node → Node}
    {now : Nat} {node : Node} {changed : Graph}
    (modified : graph.modifyNode id change now = .ok (node, changed))
    (same : ∀ node, (change node).id = node.id) : changed.Numbered supply := by
  obtain ⟨first, -, equal⟩ := map_eq_ok.mp modified
  obtain ⟨-, rfl⟩ := Prod.mk.inj equal
  exact numbered.keep (modifyNodes_ids same id graph.nodes) rfl numbered.selects numbered.stripped

theorem updateConfig (numbered : graph.Numbered supply) {id : String} {config : Value} {now : Nat}
    {node : Node} {changed : Graph}
    (updated : graph.updateConfig id config now = .ok (node, changed)) :
    changed.Numbered supply := by
  rw [Graph.updateConfig] at updated
  obtain ⟨first, -, updated⟩ := bind_eq_ok.mp updated
  obtain ⟨fields, -, modified⟩ := bind_eq_ok.mp updated
  exact numbered.modifyNode modified fun _ => rfl

theorem updatePosition (numbered : graph.Numbered supply) {id : String} {position : Position}
    {now : Nat} {node : Node} {changed : Graph}
    (moved : graph.updatePosition id position now = .ok (node, changed)) :
    changed.Numbered supply :=
  numbered.modifyNode moved fun _ => rfl

theorem deleteNode (numbered : graph.Numbered supply) {id : String} {now : Nat} {changed : Graph}
    (deleted : graph.deleteNode id now = .ok changed) : changed.Numbered supply := by
  obtain ⟨node, -, rfl⟩ := map_eq_ok.mp deleted
  have remains {other : String} (member : other ∈ graph.ids) (different : other ≠ id) :
      other ∈ (graph.nodes.filter (·.id != id)).map (·.id) := by
    obtain ⟨node, inside, rfl⟩ := mem_ids.mp member
    exact List.mem_map_of_mem (List.mem_filter.mpr ⟨inside, by simpa using different⟩)
  refine numbered.shrink (List.filter_sublist.map _) List.filter_sublist ?_ ?_ numbered.stripped
  · -- The edges at the node went with it.
    intro edge member
    obtain ⟨before, away⟩ := List.mem_filter.mp member
    obtain ⟨source, target⟩ := numbered.anchored edge before
    simp only [Edge.touches, Bool.not_eq_true', Bool.or_eq_false_iff, beq_eq_false_iff_ne] at away
    exact ⟨remains source away.1, remains target away.2⟩
  · intro other selected
    simp only [touch] at selected
    split at selected
    · cases selected
    · rename_i unselected
      exact remains (numbered.selects other selected) fun same => unselected (same ▸ selected)

theorem deleteEdge (numbered : graph.Numbered supply) {id : String} {now : Nat} {changed : Graph}
    (deleted : graph.deleteEdge id now = .ok changed) : changed.Numbered supply := by
  rw [Graph.deleteEdge] at deleted
  split at deleted
  · cases deleted
    refine numbered.shrink (.refl _) List.filter_sublist ?_ numbered.selects numbered.stripped
    intro edge member
    exact numbered.anchored edge (List.mem_filter.mp member).1
  · cases deleted

theorem select (numbered : graph.Numbered supply) {id : Option String} {selection : Selection}
    {changed : Graph} (selected : graph.select id = .ok (selection, changed)) :
    changed.Numbered supply := by
  cases id with
  | none =>
    cases selected
    exact numbered.keep rfl rfl (fun _ selected => by cases selected) numbered.stripped
  | some id =>
    obtain ⟨node, found, equal⟩ := map_eq_ok.mp selected
    obtain ⟨-, rfl⟩ := Prod.mk.inj equal
    refine numbered.keep rfl rfl ?_ numbered.stripped
    intro other same
    cases same
    exact id_mem (mem_of_getNode found).1

theorem settle (numbered : graph.Numbered supply) {α : Type} {result : Except Failure (α × Graph)}
    (kept : ∀ answer changed, result = .ok (answer, changed) → changed.Numbered supply) :
    (Graph.settle graph supply result).graph.Numbered
      (Graph.settle graph supply result).supply := by
  cases result with
  | error failure => exact numbered
  | ok pair => exact kept pair.1 pair.2 rfl

theorem run [Limits] (numbered : graph.Numbered supply) (command : Command) (now : Nat) :
    (graph.run command now supply).graph.Numbered (graph.run command now supply).supply := by
  cases command with
  | rename name => exact numbered.rename name now
  | addNode type position => exact numbered.addNode type position now
  | connect source target => exact numbered.connect source target now
  | updateConfig node config =>
    exact numbered.settle fun _ _ updated => numbered.updateConfig updated
  | updatePosition node position =>
    exact numbered.settle fun _ _ moved => numbered.updatePosition moved
  | deleteNode node =>
    refine numbered.settle fun answer changed result => ?_
    obtain ⟨_, deleted, equal⟩ := map_eq_ok.mp result
    exact numbered.deleteNode ((Prod.mk.inj equal).2 ▸ deleted)
  | deleteEdge edge =>
    refine numbered.settle fun answer changed result => ?_
    obtain ⟨_, deleted, equal⟩ := map_eq_ok.mp result
    exact numbered.deleteEdge ((Prod.mk.inj equal).2 ▸ deleted)
  | select node => exact numbered.settle fun _ _ selected => numbered.select selected

end Numbered

theorem Edited.numbered [Limits] {graph : Graph} {supply : Supply} (edited : graph.Edited supply) :
    graph.Numbered supply := by
  -- Being sound is not kept on its own: a new id is new only because the old ones are numbered.
  induction edited with
  | created name campaign now supply => exact .create name campaign now supply
  | rebuilt made =>
    obtain ⟨_, -, rebuilt⟩ := rebuilt_of_ofSteps made
    exact rebuilt.numbered
  | ran _ passes command now ih => exact (ih.later passes).run command now

theorem sound_of_edited [Limits] {graph : Graph} {supply : Supply} (edited : graph.Edited supply) :
    graph.Sound :=
  edited.numbered.toSound

section

attribute [local instance] Limits.usual

theorem sketched_sound : ∃ graph supply, Edited graph supply ∧
    graph.ids = ["node_00000001", "node_00000003"] ∧
    graph.pairs = [("node_00000001", "node_00000003")] ∧
    graph.selected = some "node_00000003" ∧ graph.name = "Sketch" ∧ graph.Sound := by
  have created := Edited.created (some " Sketch ") none 0 Supply.initial
  have visit := created.ran (.refl _) (.addNode (.str "linkedin_visit") none) 1
  have finish := visit.ran (.refl _) (.addNode (.str "end") none) 2
  have follow := finish.ran (.refl _) (.addNode (.str "linkedin_follow") none) 3
  have past := follow.ran (.refl _) (.connect "node_00000001" "node_00000003") 4
  have refused := past.ran (.refl _) (.connect "node_00000003" "node_00000003") 5
  have deleted := refused.ran (.refl _) (.deleteNode "node_00000002") 6
  have selected := deleted.ran (.refl _) (.select (some "node_00000003")) 7
  exact ⟨_, _, selected, by decide, by decide, by decide, by decide, sound_of_edited selected⟩

end

end Outreach.Graph
