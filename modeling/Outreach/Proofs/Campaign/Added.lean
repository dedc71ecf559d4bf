import Outreach.Proofs.Campaign.Rejections
import Outreach.Proofs.Graph.Added
import Outreach.Proofs.Limits

set_option autoImplicit false

namespace Outreach

inductive Command.Revises : Command → Prop
  | rename (name : Option String) : Revises (.rename name)
  | updateConfig (node : String) (config : Value) : Revises (.updateConfig node config)

theorem Command.Revises.alters {command : Command} (revises : command.Revises) :
    command.Alters := by
  cases revises with
  | rename name => exact .rename name
  | updateConfig node config => exact .updateConfig node config

namespace Graph

variable {graph changed : Graph} {supply : Supply} {types : List StepType}

theorem Keeps.unique (keeps : graph.Keeps changed) (unique : graph.ids.Nodup) :
    changed.ids.Nodup := keeps.ids ▸ unique

theorem Keeps.entries_length (keeps : graph.Keeps changed) :
    changed.entries.length = graph.entries.length := by
  have entries (graph : Graph) : graph.entries.length =
      (graph.ids.filter fun id => !graph.edges.any (·.target == id)).length := by
    rw [Graph.ids, List.filter_map, List.length_map]
    rfl
  rw [entries, entries, keeps.ids, keeps.edges]

section

variable [Limits]

inductive Closes (graph : Graph) (breaks : Nat) : Prop
  | empty (rejects : graph.Rejects .empty)
  | notValid (rejects : graph.Rejects .notValid)
  | compiled {compilation : Compilation} (whole : breaks = 0)
    (shallow : ∀ node, ¬ graph.Overnested node) (compiled : graph.compile = .ok compilation)
    (steps : compilation.steps = (graph.nodes.filter (!·.type.isSentinel)).zipIdx.map
      fun (node, order) => node.compile order)
    (regular : compilation.fallback.isEmpty = true)
  | overnested (whole : breaks = 0) (deep : ∃ node, graph.Overnested node)
    (failed : graph.compile = .error (.defect .tooDeep))
  | disconnected (broken : 0 < breaks) (rejects : graph.Rejects .disconnected)

theorem closes_of_chained {breaks : Nat} (unique : graph.ids.Nodup)
    (entries : graph.entries.length = 1 + breaks) (chained : breaks = 0 → graph.Chained)
    (readable : ∀ node ∈ graph.nodes, node.unreadable = false) : graph.Closes breaks := by
  have whole {entry : Node} (single : graph.entries = [entry]) : breaks = 0 := by
    rw [single, List.length_singleton] at entries
    omega
  have compiles := compiles unique
  generalize result : graph.compile = ended at compiles
  cases compiles with
  | empty => exact .empty ⟨_, _, result⟩
  | unreadable _ long =>
    obtain ⟨node, member, long⟩ := long
    rw [readable node member] at long
    cases long
  | notValid => exact .notValid ⟨_, _, result⟩
  | disconnected filled valid several =>
    refine .disconnected (Nat.pos_of_ne_zero fun none => ?_) ⟨_, _, result⟩
    obtain ⟨entry, single⟩ := List.length_eq_one_iff.mp (entries.trans (by rw [none]))
    rw [singleEntry_eq_ok.mpr single] at several
    cases several
  | overnested _ _ single deep => exact .overnested (whole single) deep result
  | @compiled entry filled valid single shallow =>
    have chained := chained (whole single)
    have inhabited : graph.nodes ≠ [] := List.ne_nil_of_mem (entry_mem single)
    obtain ⟨first, rest, nodes⟩ := List.exists_cons_of_ne_nil inhabited
    obtain rfl : first = entry := by simpa [chained.entries_eq nodes] using single
    refine .compiled (whole single) shallow result ?_ (chained.fallback_isEmpty nodes)
    rw [compileFrom_steps, executed, chained.linearize_order nodes]

structure Lined (graph : Graph) (types : List StepType) : Prop where
  nodes : graph.nodes.map (·.type) = types
  entries : graph.entries.length = 1 + breaks types
  linear : breaks types = 0 → ∃ entry, graph.entries = [entry] ∧
    (graph.linearize entry).order = graph.nodes ∧
      (graph.linearize entry).fallback.isEmpty = true
  closes : ∀ (commands : List (Command × Nat)) (supply : Supply),
    (∀ command ∈ commands, command.1.Revises) →
    graph.Keeps (runAll commands graph supply).1 ∧
      ((∀ node ∈ (runAll commands graph supply).1.nodes, node.unreadable = false) →
        (runAll commands graph supply).1.Closes (breaks types))

theorem lined_of_stepwise (stepwise : Stepwise types graph supply) (some : types ≠ []) :
    graph.Lined types where
  nodes := stepwise.strung.nodes
  entries := stepwise.strung.entries some
  linear whole := by
    have chained := stepwise.strung.chained whole
    have filled : graph.nodes ≠ [] := by
      intro empty
      rw [← stepwise.strung.nodes, empty] at some
      exact some rfl
    obtain ⟨entry, rest, nodes⟩ := List.exists_cons_of_ne_nil filled
    exact ⟨entry, chained.entries_eq nodes, chained.linearize_order nodes,
      chained.fallback_isEmpty nodes⟩
  closes commands next revises := by
    have keeps : graph.Keeps (runAll commands graph next).1 :=
      keeps_runAll fun command member => (revises command member).alters
    refine ⟨keeps, closes_of_chained (keeps.unique stepwise.numbered.unique) ?_ fun whole => ?_⟩
    · rw [keeps.entries_length, stepwise.strung.entries some]
    · exact (stepwise.strung.chained whole).congr keeps.ids keeps.edges

end

section

attribute [local instance] Limits.usual

theorem toured_lined : ∃ graph supply, Stepwise [.start, .linkedinVisit, .finish] graph supply ∧
    graph.Lined [.start, .linkedinVisit, .finish] ∧ graph.compile =
      .error (Rejection.empty [.missingName]).failure ∧
    (runAll [(.rename (some "Tour"), 4)] graph supply).1.Closes 0 ∧
    ∃ compilation, (runAll [(.rename (some "Tour"), 4)] graph supply).1.compile = .ok compilation ∧
      compilation.steps.map (·.type) = [.linkedinVisit] := by
  have created := Stepwise.created none none 0 Supply.initial
  have start := created.added (.refl _)
    (rfl : StepType.find (.str "start") = .ok .start) none 1
  have visit := start.added (.refl _)
    (rfl : StepType.find (.str "linkedin_visit") = .ok .linkedinVisit) none 2
  have finish := visit.added (.refl _) (rfl : StepType.find (.str "end") = .ok .finish) none 3
  have lined := lined_of_stepwise finish (by decide)
  refine ⟨_, _, finish, lined, rfl, (lined.closes _ _ ?_).2 (by decide), _, rfl, rfl⟩
  simp only [List.forall_mem_cons]
  exact ⟨.rename _, fun _ member => absurd member List.not_mem_nil⟩

-- Settings of 500 lists in each other pass all checks, and no step comes of them.
def burying : List (Command × Nat) :=
  [(.updateConfig "node_00000001" (.obj [("k", Value.nested 500)]), 2)]

theorem buried_not_closed : ∃ graph supply, Stepwise [.linkedinVisit] graph supply ∧
    (∀ command ∈ burying, command.1.Revises) ∧
    (∀ node ∈ (runAll burying graph supply).1.nodes, node.unreadable = false) ∧
    (runAll burying graph supply).1.compile = .error (.defect .tooDeep) := by
  have created := Stepwise.created (some "n") none 0 Supply.initial
  have visit := created.added (.refl _)
    (rfl : StepType.find (.str "linkedin_visit") = .ok .linkedinVisit) none 1
  have revises : ∀ command ∈ burying, command.1.Revises := by
    simp only [burying, List.forall_mem_cons]
    exact ⟨.updateConfig _ _, fun _ member => absurd member List.not_mem_nil⟩
  refine ⟨_, _, visit, revises, ?_, ?_⟩
  · intro node member
    obtain rfl := List.mem_singleton.mp member
    rfl
  · have unique : (runAll burying _ _).1.ids.Nodup := (visit.numbered.runAll burying).unique
    refine (compile_eq_defect_iff unique).mpr
      ⟨by rfl, .inr ⟨rfl, by rfl, ⟨_, rfl⟩, _, List.mem_cons_self, rfl, ?_⟩⟩
    change Fields.overnested
      [("title", .str "LinkedIn Profile Visit"), ("k", Value.nested 500)] = true
    simp [Fields.overnested, Limits.copyDepth, Value.depth, Value.depthFields, Value.depth_nested]

end

end Graph

end Outreach
