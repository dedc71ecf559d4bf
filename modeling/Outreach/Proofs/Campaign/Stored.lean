import Mathlib.Data.List.Perm.Basic
import Outreach.Proofs.Campaign.Chain
import Outreach.Proofs.Campaign.Placed
import Outreach.Proofs.Campaign.Rebuilt
import Outreach.Proofs.Limits

set_option autoImplicit false

namespace Outreach

namespace Fields

def withTitle (config : Fields) (title : String) : Fields :=
  if config.has "title" then config else config.set "title" (.str title)

variable {config : Fields} {title : String}

theorem get?_withTitle_of_ne {name : String} (other : name ≠ "title") :
    (config.withTitle title).get? name = config.get? name := by
  rw [withTitle]
  split
  · rfl
  · exact get?_set_of_ne config _ other

theorem withTitle_of_has (given : config.has "title" = true) : config.withTitle title = config :=
  if_pos given

theorem has_withTitle : (config.withTitle title).has "title" = true := by
  rw [withTitle]
  split
  · assumption
  · simp [has]

theorem copied_withTitle [Limits] (copied : config.copied = .ok config) :
    (config.withTitle title).copied = .ok (config.withTitle title) := by
  rw [withTitle]
  split
  · exact copied
  · rw [copied_self_iff] at copied ⊢
    exact (Nat.succ_le_succ (depthFields_set_text config "title" title)).trans copied

end Fields

structure StoredStep where
  type : StepType
  order : Int
  title : String
  description : Option String
  config : Fields

namespace StoredStep

structure In (stored : StoredStep) (fields : Fields) : Prop where
  type : fields.get? "type" = some (.str stored.type.name)
  order : fields.get? "order" = some (.int stored.order)
  title : fields.get? "title" = some (.str stored.title)
  description : fields.get? "description" = stored.description.map .str
  config : fields.get? "config" = some (.obj stored.config)
  executable : stored.type.isSentinel = false
  titled : Text.blank stored.title = false

def wire (stored : StoredStep) : Fields :=
  let shown : Fields :=
    [("type", .str stored.type.name), ("order", .int stored.order), ("title", .str stored.title),
     ("config", .obj stored.config)]
  match stored.description with
  | none => shown
  | some description => shown.set "description" (.str description)

theorem in_wire (stored : StoredStep) (executable : stored.type.isSentinel = false)
    (titled : Text.blank stored.title = false) : stored.In stored.wire := by
  obtain ⟨type, order, title, description, config⟩ := stored
  cases description <;> exact ⟨rfl, rfl, rfl, rfl, rfl, executable, titled⟩

structure Opened [Limits] (stored : StoredStep) (node : Node) : Prop where
  type : node.type = stored.type
  config : node.config = stored.config.withTitle stored.title
  copied : stored.config.copied = .ok stored.config
  executable : stored.type.isSentinel = false
  titled : Text.blank stored.title = false

variable {stored : StoredStep} {fields : Fields} {node : Node}

theorem storedConfig_eq [Limits] (inside : stored.In fields) :
    storedConfig fields =
      (stored.config.copied.mapError Failure.defect).map (·.withTitle stored.title) := by
  have read : (((fields.getD "config").orElse (.obj [])).asFields.mapError Failure.defect) =
      .ok stored.config := by
    rw [Fields.getD, inside.config, Option.getD_some, Value.orElse, Value.truthy]
    cases stored.config <;> rfl
  simp only [storedConfig, read, bind, Except.bind, inside.title]
  cases stored.config.copied with
  | error defect => rfl
  | ok config =>
    simp only [Except.mapError, Except.map, inside.titled, Bool.false_or, Fields.withTitle]
    split <;> rfl

theorem find_name [Limits] (type : StepType) : StepType.find (.str type.name) = .ok type := by
  cases type <;> rfl

theorem reads_iff [Limits] (inside : stored.In fields) :
    node.Reads fields ↔ stored.Opened node := by
  have type : StepType.find ((fields.get? "type").getD (.str "")) = .ok stored.type := by
    rw [inside.type, Option.getD_some, find_name]
  constructor
  · rintro ⟨sameType, config⟩
    rw [storedConfig_eq inside, map_eq_ok] at config
    obtain ⟨copy, copied, same⟩ := config
    have copied := mapError_eq_ok.mp copied
    obtain rfl := Fields.copied_eq copied
    exact ⟨(Except.ok.inj (type.symm.trans sameType)).symm, same.symm, copied, inside.executable,
      inside.titled⟩
  · rintro ⟨sameType, config, copied, -⟩
    refine ⟨sameType ▸ type, ?_⟩
    rw [storedConfig_eq inside, copied, config]
    rfl

def ascending (all : List StoredStep) : List StoredStep := all.mergeSort (·.order ≤ ·.order)

theorem ascending_perm (all : List StoredStep) : (ascending all).Perm all :=
  List.mergeSort_perm _ _

theorem ascending_rising (all : List StoredStep) :
    (ascending all).Pairwise (·.order ≤ ·.order) := by
  refine List.Pairwise.imp ?_ (List.pairwise_mergeSort ?_ ?_ all)
  · intro a b ordered
    simpa using ordered
  · intro a b c first second
    simp only [decide_eq_true_eq] at first second ⊢
    exact first.trans second
  · intro a b
    simpa using le_total a.order b.order

variable {all others : List StoredStep} {steps : List Fields}

theorem eq_ascending (distinct : (all.map (·.order)).Nodup) (perm : others.Perm all)
    (rising : others.Pairwise (·.order ≤ ·.order)) : others = ascending all := by
  refine (perm.trans (ascending_perm all).symm).eq_of_pairwise ?_ rising (ascending_rising all)
  intro a b left right forward backward
  exact List.inj_on_of_nodup_map distinct (perm.mem_iff.mp left)
    ((ascending_perm all).mem_iff.mp right) (le_antisymm forward backward)

theorem arrived_in (inside : List.Forall₂ In all steps) :
    List.Forall₂ (fun stored placed => stored.In placed.step ∧ placed.order = .int stored.order)
      all (Placed.arrived steps) := by
  rw [Placed.arrived, List.forall₂_map_right_iff]
  exact (forall₂_zipIdx inside 0).imp fun _ _ inside => ⟨inside, by simp [inside.order]⟩

theorem exists_placeSteps (inside : List.Forall₂ In all steps)
    (distinct : (all.map (·.order)).Nodup) :
    ∃ placed, Graph.placeSteps (steps.map .obj) = .ok placed ∧
      List.Forall₂ (fun stored first => stored.In first.step) (ascending all) placed := by
  -- Sorting sees the fields only; what they stand for is moved along with them.
  have related := arrived_in inside
  have whole : ∀ placed ∈ Placed.arrived steps, placed.Whole := by
    intro placed member
    obtain ⟨stored, -, -, order⟩ := exists_of_mem_forall₂ related.flip member
    simp [Placed.Whole, Placed.number, order]
  obtain ⟨placed, sorted, perm, rising⟩ := Placed.exists_sort whole
  have moved := List.forall₂_comp_perm_eq_perm_comp_forall₂.le _ _
    ⟨Placed.arrived steps, related, perm.symm⟩
  obtain ⟨others, permOthers, relatedOthers⟩ := moved
  have numbers : placed.map (·.number) = others.map (·.order) := by
    rw [← List.forall₂_eq_eq_eq, List.forall₂_map_left_iff, List.forall₂_map_right_iff]
    exact relatedOthers.flip.imp fun _ _ ⟨_, order⟩ => by simp [Placed.number, order]
  have risingOthers : others.Pairwise (·.order ≤ ·.order) := by
    rw [← List.pairwise_map, ← numbers, List.pairwise_map]
    exact rising
  obtain rfl := eq_ascending distinct permOthers.symm risingOthers
  exact ⟨placed, by rw [Placed.placeSteps_eq, sorted], relatedOthers.imp fun _ _ found => found.1⟩

variable {graph : Graph} {name campaign : Option String} {now : Nat} {supply next : Supply}

theorem exists_ofSteps [Limits] (inside : List.Forall₂ In all steps)
    (distinct : (all.map (·.order)).Nodup)
    (copied : ∀ stored ∈ all, stored.config.copied = .ok stored.config) :
    ∃ graph next, Graph.ofSteps name campaign (steps.map .obj) now supply = (.ok graph, next) := by
  obtain ⟨placed, ordered, related⟩ := exists_placeSteps inside distinct
  apply Graph.exists_ofSteps ordered
  intro first member
  obtain ⟨stored, known, inside⟩ := exists_of_mem_forall₂ related.flip member
  have copied := copied stored ((ascending_perm all).subset known)
  let node : Node :=
    { Node.bare "" stored.type with config := stored.config.withTitle stored.title }
  exact ⟨node, (reads_iff inside).mpr ⟨rfl, rfl, copied, inside.executable, inside.titled⟩⟩

theorem opened_of_ofSteps [Limits] (inside : List.Forall₂ In all steps)
    (distinct : (all.map (·.order)).Nodup)
    (made : Graph.ofSteps name campaign (steps.map .obj) now supply = (.ok graph, next)) :
    graph.Chained ∧ graph.name = Text.strip (name.getD "") ∧
      List.Forall₂ Opened (ascending all) graph.nodes := by
  obtain ⟨placed, ordered, related⟩ := exists_placeSteps inside distinct
  obtain ⟨same, alsoOrdered, rebuilt⟩ := Graph.rebuilt_of_ofSteps made
  obtain rfl : placed = same := Except.ok.inj (ordered.symm.trans alsoOrdered)
  refine ⟨rebuilt.chained, rebuilt.name, (forall₂_comp related rebuilt.nodes).imp ?_⟩
  rintro stored node ⟨first, inside, reads⟩
  exact (reads_iff inside).mp reads

end StoredStep

end Outreach
