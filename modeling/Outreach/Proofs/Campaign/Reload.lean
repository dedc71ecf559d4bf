import Outreach.Proofs.Campaign.Sequence
import Outreach.Proofs.Campaign.Stored
import Outreach.Proofs.Limits

set_option autoImplicit false

namespace Outreach

theorem Validity.of_withTitle (type : StepType) (config : Fields) (title : String) :
    Validity.of type (config.withTitle title) = Validity.of type config := by
  have other {name : String} (other : name ≠ "title") :
      (config.withTitle title).getD name = config.getD name := by
    rw [Fields.getD, Fields.get?_withTitle_of_ne other, Fields.getD]
  have delay : Delay.missing (config.withTitle title) = Delay.missing config := by
    simp only [Delay.missing, Delay.amounts, Delay.bounds, List.mapM_cons, List.mapM_nil]
    rw [other (by decide), other (by decide), other (by decide)]
  have required : missingFields type (config.withTitle title) = missingFields type config := by
    apply List.filter_congr
    intro key member
    have notTitle : "title" ∉ type.required := by cases type <;> decide
    rw [other (fun same => notTitle (same ▸ member))]
  rw [Validity.of, Validity.of, missingOf, missingOf, delay, required]

namespace Node

variable {node opened : Node}

theorem title_withTitle (type : opened.type = node.type)
    (config : opened.config = node.config.withTitle node.title) : opened.title = node.title := by
  by_cases given : node.config.has "title" = true
  · rw [Fields.withTitle_of_has given] at config
    rw [title, title, config, type]
  · rw [Fields.withTitle, if_neg given] at config
    exact title_of_text (config ▸ Fields.get?_set_self _ _ _) node.title_not_blank

theorem description_withTitle (config : opened.config = node.config.withTitle node.title) :
    opened.description = node.description := by
  rw [description, description, config, Fields.get?_withTitle_of_ne (by decide)]

theorem Fit.withTitle [Limits] (fit : node.Fit) (type : opened.type = node.type)
    (config : opened.config = node.config.withTitle node.title) : opened.Fit where
  executable := type ▸ fit.executable
  valid := by
    rw [validity, type, config, Validity.of_withTitle]
    exact fit.valid
  copied := config ▸ Fields.copied_withTitle fit.copied

end Node

namespace CompiledStep

def titled (step : CompiledStep) : CompiledStep :=
  { step with config := step.config.withTitle step.title }

def stored (step : CompiledStep) : StoredStep :=
  { type := step.type, order := step.order, title := step.title
    description := if step.description.isEmpty then none else some step.description
    config := step.config }

theorem payload_eq (step : CompiledStep) : step.payload = step.stored.wire := by
  rw [payload, StoredStep.wire, stored]
  cases step.description.isEmpty <;> rfl

theorem map_titled_of_has {steps : List CompiledStep}
    (given : ∀ step ∈ steps, step.config.has "title" = true) : steps.map titled = steps := by
  have same : ∀ step ∈ steps, step.titled = step := by
    intro step member
    rw [titled, Fields.withTitle_of_has (given step member)]
  rw [List.map_congr_left same, List.map_id']

end CompiledStep

theorem StoredStep.Opened.compile_eq [Limits] {node opened : Node} {order : Nat}
    (isOpened : (node.compile order).stored.Opened opened) :
    opened.compile order = (node.compile order).titled := by
  simp only [Node.compile, CompiledStep.titled, CompiledStep.mk.injEq]
  exact ⟨isOpened.type, trivial, Node.title_withTitle isOpened.type isOpened.config,
    Node.description_withTitle isOpened.config, isOpened.config⟩

namespace Graph

variable {graph : Graph} {entry : Node} {compilation : Compilation}

section

variable [Limits]

theorem exists_fit (compiled : graph.compile = .ok compilation) {index : Nat} {step : CompiledStep}
    (placed : compilation.steps[index]? = some step) :
    ∃ node : Node, node.Fit ∧ step = node.compile index := by
  obtain ⟨-, valid, entry, -, copied⟩ := compile_eq_ok_iff.mp compiled
  obtain rfl := Compilation.copied_eq copied
  have copies := Compilation.copied_self.mp copied step (List.mem_of_getElem? placed)
  rw [compileFrom_getElem?] at placed
  obtain ⟨node, executed, rfl⟩ := Option.map_eq_some_iff.mp placed
  obtain ⟨inside, executable⟩ := List.mem_filter.mp (List.mem_of_getElem? executed)
  exact ⟨node, ⟨by simpa using executable,
    valid_of_invalidIssues valid (linearize_subset inside), copies⟩, rfl⟩

theorem steps_rising (compiled : graph.compile = .ok compilation) :
    compilation.steps.Pairwise (·.order < ·.order) := by
  rw [List.pairwise_iff_getElem]
  intro i j left right less
  obtain ⟨first, -, firstMade⟩ := exists_fit compiled (List.getElem?_eq_getElem left)
  obtain ⟨second, -, secondMade⟩ := exists_fit compiled (List.getElem?_eq_getElem right)
  rw [firstMade, secondMade]
  exact Int.ofNat_lt.mpr less

theorem steps_ne_nil (unique : graph.ids.Nodup) (compiled : graph.compile = .ok compilation) :
    compilation.steps ≠ [] := by
  obtain ⟨filled, -, entry, single, rfl⟩ := compile_eq_ok compiled
  obtain ⟨-, node, inside, executable⟩ := emptyIssues_eq_nil_iff.mp filled
  have executed := (mem_executed unique (entry_mem single)).mpr ⟨inside, executable⟩
  intro none
  have empty : graph.executed entry = [] := by simpa [compileFrom_steps] using none
  exact List.not_mem_nil (empty ▸ executed)

theorem exists_fit_of_mem (compiled : graph.compile = .ok compilation) {step : CompiledStep}
    (member : step ∈ compilation.steps) :
    ∃ node : Node, ∃ order, node.Fit ∧ step = node.compile order := by
  obtain ⟨index, placed⟩ := List.mem_iff_getElem?.mp member
  obtain ⟨node, fit, made⟩ := exists_fit compiled placed
  exact ⟨node, index, fit, made⟩

end

theorem payloads_eq (compilation : Compilation) :
    compilation.payloads = (compilation.steps.map (·.stored.wire)).map .obj := by
  simp [Compilation.payloads, CompiledStep.payload_eq]

theorem stored_in [Limits] (compiled : graph.compile = .ok compilation) :
    List.Forall₂ StoredStep.In (compilation.steps.map CompiledStep.stored)
      (compilation.steps.map (·.stored.wire)) := by
  rw [List.forall₂_map_left_iff, List.forall₂_map_right_iff, List.forall₂_same]
  intro step member
  obtain ⟨node, order, fit, rfl⟩ := exists_fit_of_mem compiled member
  exact StoredStep.in_wire _ fit.executable node.title_not_blank

theorem stored_rising [Limits] (compiled : graph.compile = .ok compilation) :
    (compilation.steps.map CompiledStep.stored).Pairwise (·.order < ·.order) :=
  List.pairwise_map.mpr (steps_rising compiled)

theorem stored_copied [Limits] (compiled : graph.compile = .ok compilation) :
    ∀ stored ∈ compilation.steps.map CompiledStep.stored,
      stored.config.copied = .ok stored.config := by
  intro stored member
  obtain ⟨step, inside, rfl⟩ := List.mem_map.mp member
  obtain ⟨node, order, fit, rfl⟩ := exists_fit_of_mem compiled inside
  exact fit.copied

variable {rebuilt : Graph}

section

variable [Limits]

def Shows (rebuilt : Graph) (compilation : Compilation) : Prop :=
  List.Forall₂ (fun step (node : Node) => step.stored.Opened node) compilation.steps rebuilt.nodes

theorem fit_of_shows (compiled : graph.compile = .ok compilation)
    (shows : rebuilt.Shows compilation) : ∀ node ∈ rebuilt.nodes, node.Fit := by
  intro node member
  obtain ⟨step, inside, opened⟩ := exists_of_mem_forall₂ shows.flip member
  obtain ⟨original, order, fit, rfl⟩ := exists_fit_of_mem compiled inside
  exact fit.withTitle opened.type opened.config

theorem inRow_of_shows (compiled : graph.compile = .ok compilation)
    (shows : rebuilt.Shows compilation) :
    rebuilt.inRow =
      { steps := compilation.steps.map CompiledStep.titled
        fallback := { cycleEntries := [], unreachable := [] } } := by
  obtain ⟨sameLength, opened⟩ := List.forall₂_iff_get.mp shows
  rw [inRow, Compilation.mk.injEq]
  refine ⟨List.ext_getElem (by simp [sameLength]) fun i left right => ?_, rfl⟩
  have bound : i < compilation.steps.length := by simpa using right
  obtain ⟨original, -, made⟩ := exists_fit compiled (List.getElem?_eq_getElem bound)
  have isOpened := opened i bound (sameLength ▸ bound)
  simp only [List.get_eq_getElem, made] at isOpened
  simpa [made] using isOpened.compile_eq

theorem exists_reopened {steps : List Fields} (compiled : graph.compile = .ok compilation)
    (filled : compilation.steps ≠ [])
    (inside : List.Forall₂ StoredStep.In (compilation.steps.map CompiledStep.stored) steps)
    (campaign : Option String) (now : Nat) (supply : Supply) :
    ∃ rebuilt next,
      ofSteps (some graph.name) campaign (steps.map .obj) now supply = (.ok rebuilt, next) ∧
      rebuilt.Chained ∧ rebuilt.name = Text.strip graph.name ∧ rebuilt.Shows compilation ∧
      rebuilt.compile = .ok
        { steps := compilation.steps.map CompiledStep.titled
          fallback := { cycleEntries := [], unreachable := [] } } := by
  have distinct := List.pairwise_map.mpr ((stored_rising compiled).imp ne_of_lt)
  have sorted := StoredStep.eq_ascending distinct (.refl _) ((stored_rising compiled).imp le_of_lt)
  obtain ⟨rebuilt, next, made⟩ : ∃ rebuilt next,
      ofSteps (some graph.name) campaign (steps.map .obj) now supply = (.ok rebuilt, next) :=
    StoredStep.exists_ofSteps inside distinct (stored_copied compiled)
  obtain ⟨chained, name, opened⟩ := StoredStep.opened_of_ofSteps inside distinct made
  rw [← sorted] at opened
  have shows : rebuilt.Shows compilation := List.forall₂_map_left_iff.mp opened
  have nonempty : rebuilt.nodes ≠ [] := by
    intro none
    rw [Shows, none, List.forall₂_nil_right_iff] at shows
    exact filled shows
  obtain ⟨entry, rest, nodes⟩ := List.exists_cons_of_ne_nil nonempty
  obtain ⟨named, -⟩ := emptyIssues_eq_nil_iff.mp (compile_eq_ok_iff.mp compiled).1
  have stillNamed : Text.blank rebuilt.name = false := name ▸ Text.blank_strip named
  refine ⟨rebuilt, next, made, chained, name, shows, ?_⟩
  rw [chained.compile_eq stillNamed nodes (fit_of_shows compiled shows),
    inRow_of_shows compiled shows]

theorem exists_reload (compiled : graph.compile = .ok compilation)
    (filled : compilation.steps ≠ []) (campaign : Option String) (now : Nat) (supply : Supply) :
    ∃ rebuilt next,
      ofSteps (some graph.name) campaign compilation.payloads now supply = (.ok rebuilt, next) ∧
      rebuilt.compile = .ok
        { steps := compilation.steps.map CompiledStep.titled
          fallback := { cycleEntries := [], unreachable := [] } } := by
  obtain ⟨rebuilt, next, made, -, -, -, compiledAgain⟩ :=
    exists_reopened compiled filled (stored_in compiled) campaign now supply
  exact ⟨rebuilt, next, payloads_eq compilation ▸ made, compiledAgain⟩

theorem reload_steps (compiled : graph.compile = .ok compilation) :
    (graph.ids.Nodup → compilation.steps ≠ []) ∧
    (compilation.steps ≠ [] → ∀ campaign now supply, ∃ rebuilt next again,
      ofSteps (some graph.name) campaign compilation.payloads now supply = (.ok rebuilt, next) ∧
      rebuilt.compile = .ok again ∧ again.fallback.isEmpty = true ∧
      again.steps = compilation.steps.map CompiledStep.titled ∧
      ((∀ step ∈ compilation.steps, step.config.has "title" = true) →
        again.steps = compilation.steps) ∧
      ∀ campaign now supply, ∃ reopened next,
        ofSteps (some rebuilt.name) campaign again.payloads now supply = (.ok reopened, next) ∧
        reopened.compile = .ok again) := by
  refine ⟨fun unique => steps_ne_nil unique compiled, fun filled campaign now supply => ?_⟩
  obtain ⟨rebuilt, next, made, compiledAgain⟩ := exists_reload compiled filled campaign now supply
  refine ⟨rebuilt, next, _, made, compiledAgain, rfl, rfl, CompiledStep.map_titled_of_has, ?_⟩
  intro campaign now supply
  obtain ⟨reopened, next, madeAgain, compiledTwice⟩ :=
    exists_reload compiledAgain (by simpa using filled) campaign now supply
  -- All titles are in the configurations by now.
  have given : ∀ step ∈ compilation.steps.map CompiledStep.titled,
      step.config.has "title" = true := by
    intro step member
    obtain ⟨original, -, rfl⟩ := List.mem_map.mp member
    exact Fields.has_withTitle
  refine ⟨reopened, next, madeAgain, ?_⟩
  rw [compiledTwice]
  simp only [CompiledStep.map_titled_of_has given]

end

section

attribute [local instance] Limits.usual

theorem circled_reload : ∃ compilation rebuilt next again reopened last,
    circled.compile = .ok compilation ∧ compilation.steps ≠ [] ∧
    ofSteps (some circled.name) (some "camp_1") compilation.payloads 5 Supply.initial =
      (.ok rebuilt, next) ∧
    rebuilt.compile = .ok again ∧ again.fallback.isEmpty = true ∧
    again.steps = compilation.steps.map CompiledStep.titled ∧
    ofSteps (some rebuilt.name) none again.payloads 9 next = (.ok reopened, last) ∧
    reopened.compile = .ok again := by
  have compiled : circled.compile = .ok (circled.compileFrom (Node.bare "start" .start)) := by rfl
  obtain ⟨filled, reloads⟩ := reload_steps compiled
  have filled := filled (by decide)
  obtain ⟨rebuilt, next, again, made, compiledAgain, regular, same, -, stays⟩ :=
    reloads filled (some "camp_1") 5 Supply.initial
  obtain ⟨reopened, last, madeAgain, compiledTwice⟩ := stays none 9 next
  exact ⟨_, rebuilt, next, again, reopened, last, compiled, filled, made, compiledAgain, regular,
    same, madeAgain, compiledTwice⟩

-- The only step has the id of an end marker that comes later.
def shadowed : Graph :=
  { id := "wf_x", name := "Shadowed"
    nodes := [Node.bare "s" .start, Node.bare "a" .linkedinVisit, Node.bare "a" .finish]
    edges := [⟨"e1", "s", "a"⟩]
    selected := none, campaign := none, created := 0, updated := 0 }

theorem shadowed_reload_refused : ∃ compilation rebuilt next failure,
    shadowed.compile = .ok compilation ∧ compilation.steps = [] ∧
    ofSteps (some shadowed.name) none compilation.payloads 0 Supply.initial =
      (.ok rebuilt, next) ∧
    rebuilt.compile = .error failure :=
  ⟨shadowed.compileFrom (Node.bare "s" .start), _, _, _, rfl, rfl, rfl, rfl⟩

end

end Graph

end Outreach
