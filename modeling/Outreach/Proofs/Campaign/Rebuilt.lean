import Outreach.Campaign.Rebuild
import Outreach.Proofs.Graph.Chain
import Outreach.Proofs.Result

set_option autoImplicit false

namespace Outreach

structure Node.Reads [Limits] (node : Node) (step : Fields) : Prop where
  type : StepType.find ((step.get? "type").getD (.str "")) = .ok node.type
  config : storedConfig step = .ok node.config

namespace Graph

variable {graph between changed built : Graph} {supply next : Supply} {step : Fields}
  {front back : List Fields} {placed : List Placed}

theorem Chained.start (chained : graph.Chained) (node : Node) (empty : graph.nodes = []) :
    Chained { graph with nodes := [node] } where
  unique := List.nodup_singleton node.id
  pairs := by
    have none := chained.pairs
    simp only [Graph.ids, empty, List.map_nil, List.zip_nil_left] at none
    exact none

section

variable [Limits]

structure Extends (graph : Graph) (steps : List Fields) (changed : Graph) (next : Supply) :
    Prop where
  numbered : changed.Numbered next
  chained : changed.Chained
  name : changed.name = graph.name
  nodes : ∃ nodes, changed.nodes = graph.nodes ++ nodes ∧
    List.Forall₂ (fun step (node : Node) => node.Reads step) steps nodes

theorem Extends.trans (first : graph.Extends front between supply)
    (second : between.Extends back changed next) : graph.Extends (front ++ back) changed next where
  numbered := second.numbered
  chained := second.chained
  name := second.name.trans first.name
  nodes := by
    obtain ⟨nodes, between, reads⟩ := first.nodes
    obtain ⟨others, all, alsoRead⟩ := second.nodes
    exact ⟨nodes ++ others, by rw [all, between, List.append_assoc],
      List.rel_append reads alsoRead⟩

theorem exists_appendStep (numbered : graph.Numbered supply) (chained : graph.Chained)
    {read : Node} (reads : read.Reads step) :
    ∃ changed next, graph.appendStep step supply = (.ok changed, next) ∧
      graph.Extends [step] changed next := by
  let node :=
    (Node.create read.type read.config (some (loadedPosition graph.nodes.length)) supply).1
  have new : node.id = Supply.nodeId (supply.nodes + 1) := rfl
  have nodeReads : List.Forall₂ (fun step (node : Node) => node.Reads step) [step] [node] :=
    .cons ⟨reads.type, reads.config⟩ .nil
  rw [appendStep]
  simp only [reads.type, reads.config, Node.create, Supply.node]
  -- The first node stands alone, every other one is linked to the node before.
  cases last : graph.nodes.getLast? with
  | none =>
    have empty := List.getLast?_eq_none_iff.mp last
    have alone : [node] = graph.nodes ++ [node] := by rw [empty, List.nil_append]
    have grown := numbered.grow new
    rw [← alone] at grown
    exact ⟨_, _, rfl, grown, chained.start node empty, rfl, [node], alone, nodeReads⟩
  | some previous =>
    obtain ⟨drawn, attached⟩ := numbered.attach (List.mem_of_getLast? last) new
    have fresh : node.id ∉ graph.ids := new ▸ numbered.node_fresh
    simp only [node, Node.create, Supply.node] at drawn
    simp only [drawn]
    exact ⟨_, _, rfl, attached, chained.attach last fresh rfl rfl, rfl, [node], rfl, nodeReads⟩

theorem extends_of_appendStep (numbered : graph.Numbered supply) (chained : graph.Chained)
    (appended : graph.appendStep step supply = (.ok changed, next)) :
    graph.Extends [step] changed next := by
  cases type : StepType.find ((step.get? "type").getD (.str "")) with
  | error failure => simp [appendStep, type] at appended
  | ok stepType =>
    cases config : storedConfig step with
    | error failure => simp [appendStep, type, config] at appended
    | ok fields =>
      have reads : Node.Reads { Node.bare "" stepType with config := fields } step := ⟨type, config⟩
      obtain ⟨other, last, alsoAppended, extended⟩ := exists_appendStep numbered chained reads
      obtain ⟨rfl, rfl⟩ : other = changed ∧ last = next := by
        simpa [appended] using alsoAppended.symm
      exact extended

theorem exists_appendSteps (numbered : graph.Numbered supply) (chained : graph.Chained)
    (readable : ∀ first ∈ placed, ∃ node : Node, node.Reads first.step) :
    ∃ built next, appendSteps placed graph supply = (.ok built, next) := by
  induction placed generalizing graph supply with
  | nil => exact ⟨graph, supply, rfl⟩
  | cons first rest ih =>
    obtain ⟨⟨read, reads⟩, readableRest⟩ := List.forall_mem_cons.mp readable
    obtain ⟨changed, next, appended, extended⟩ := exists_appendStep numbered chained reads
    obtain ⟨built, last, done⟩ := ih extended.numbered extended.chained readableRest
    exact ⟨built, last, by rw [appendSteps, appended]; exact done⟩

theorem extends_of_appendSteps (numbered : graph.Numbered supply) (chained : graph.Chained)
    (appended : appendSteps placed graph supply = (.ok built, next)) :
    graph.Extends (placed.map (·.step)) built next := by
  induction placed generalizing graph supply with
  | nil =>
    cases appended
    exact ⟨numbered, chained, rfl, [], (List.append_nil _).symm, .nil⟩
  | cons first rest ih =>
    rw [appendSteps] at appended
    split at appended
    · cases appended
    · rename_i changed between step
      have extended := extends_of_appendStep numbered chained step
      exact extended.trans (ih extended.numbered extended.chained appended)

structure Rebuilt (graph : Graph) (supply : Supply) (name : Option String)
    (placed : List Placed) : Prop where
  numbered : graph.Numbered supply
  chained : graph.Chained
  name : graph.name = Text.strip (name.getD "")
  nodes : List.Forall₂ (fun first (node : Node) => node.Reads first.step) placed graph.nodes

end

variable {name campaign : Option String} {steps : List Value} {now : Nat}

theorem chained_create : (create name campaign now supply).1.Chained := ⟨List.nodup_nil, rfl⟩

variable [Limits]

theorem exists_ofSteps (ordered : placeSteps steps = .ok placed)
    (readable : ∀ first ∈ placed, ∃ node : Node, node.Reads first.step) :
    ∃ graph next, ofSteps name campaign steps now supply = (.ok graph, next) := by
  simp only [ofSteps, ordered]
  exact exists_appendSteps (.create name campaign now supply) chained_create readable

theorem rebuilt_of_ofSteps (made : ofSteps name campaign steps now supply = (.ok graph, next)) :
    ∃ placed, placeSteps steps = .ok placed ∧ graph.Rebuilt next name placed := by
  simp only [ofSteps] at made
  split at made
  · cases made
  · rename_i placed ordered
    have extended := extends_of_appendSteps (.create name campaign now supply) chained_create made
    obtain ⟨nodes, same, reads⟩ := extended.nodes
    obtain rfl : graph.nodes = nodes := same
    exact ⟨placed, ordered, extended.numbered, extended.chained, extended.name,
      List.forall₂_map_left_iff.mp reads⟩

theorem appendStep_kept (appended : graph.appendStep step supply = (.ok changed, next)) :
    changed.campaign = graph.campaign ∧ changed.updated = graph.updated := by
  simp only [appendStep] at appended
  repeat' split at appended
  all_goals cases appended
  all_goals exact ⟨rfl, rfl⟩

theorem appendSteps_kept (appended : appendSteps placed graph supply = (.ok built, next)) :
    built.campaign = graph.campaign ∧ built.updated = graph.updated := by
  induction placed generalizing graph supply with
  | nil =>
    cases appended
    exact ⟨rfl, rfl⟩
  | cons first rest ih =>
    rw [appendSteps] at appended
    split at appended
    · cases appended
    · rename_i step
      obtain ⟨campaign, updated⟩ := appendStep_kept step
      exact ⟨(ih appended).1.trans campaign, (ih appended).2.trans updated⟩

theorem ofSteps_kept (made : ofSteps name campaign steps now supply = (.ok graph, next)) :
    graph.campaign = campaign ∧ graph.updated = now := by
  simp only [ofSteps] at made
  split at made
  · cases made
  · exact appendSteps_kept made

end Graph

end Outreach
