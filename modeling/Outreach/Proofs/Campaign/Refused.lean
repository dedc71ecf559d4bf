import Outreach.Proofs.Campaign.Placed
import Outreach.Proofs.Campaign.Rebuilt
import Outreach.Proofs.Rearranged

set_option autoImplicit false

namespace Outreach

def Fields.configDefect? [Limits] (step : Fields) : Option Defect :=
  match ((step.getD "config").orElse (.obj [])).asFields with
  | .error defect => some defect
  | .ok config => if (Value.obj config).depth ≤ Limits.copyDepth then none else some .tooDeep

-- Why no node can be made of a stored step. The type comes first.
def Fields.stepFailure? [Limits] (step : Fields) : Option Failure :=
  match StepType.find ((step.get? "type").getD (.str "")) with
  | .error failure => some failure
  | .ok _ => step.configDefect?.map .defect

theorem StepType.find_cases [Limits] (value : Value) :
    (∃ type, find value = .ok type) ∨
      find value = .error (notRegistered value) := by
  rw [find]
  cases ofValue? value with
  | some type => exact .inl ⟨type, rfl⟩
  | none => exact .inr rfl

section Steps

variable {step : Fields} {defect : Defect} {failure : Failure}

variable [Limits]

theorem storedConfig_of_none (fits : step.configDefect? = none) :
    ∃ config, storedConfig step = .ok config := by
  rw [Fields.configDefect?] at fits
  rw [storedConfig]
  split at fits
  · cases fits
  · rename_i config taken
    split at fits
    · rename_i shallow
      simp only [taken, Except.mapError, Fields.copied, Value.copied, if_pos shallow, bind,
        Except.bind, Except.map]
      repeat' split
      all_goals exact ⟨_, rfl⟩
    · cases fits

theorem storedConfig_of_some (broken : step.configDefect? = some defect) :
    storedConfig step = .error (.defect defect) := by
  rw [Fields.configDefect?] at broken
  rw [storedConfig]
  split at broken
  · rename_i taken
    cases broken
    simp only [taken, Except.mapError, bind, Except.bind]
  · rename_i config taken
    split at broken
    · cases broken
    · rename_i deep
      cases broken
      simp only [taken, Except.mapError, Fields.copied, Value.copied, if_neg deep, bind,
        Except.bind, Except.map]

theorem configDefect?_of_empty (empty : (step.getD "config").truthy = false) :
    step.configDefect? = none := by
  simpa [Fields.configDefect?, Value.orElse, empty, Value.asFields, Value.depth,
    Value.depthFields] using Limits.copyDepth_pos.ne'

theorem configDefect?_of_obj {config : Fields} (given : step.getD "config" = .obj config)
    (shallow : (Value.obj config).depth ≤ Limits.copyDepth) : step.configDefect? = none := by
  by_cases shown : (Value.obj config).truthy
  · simp [Fields.configDefect?, given, Value.orElse, shown, Value.asFields, shallow]
  · exact configDefect?_of_empty (by simpa [given] using shown)

theorem StepType.notRegistered_cases (value : Value) :
    (∃ name, notRegistered value = .notFound Vocabulary.stepType.name name) ∨
      ∃ defect, value.text = .error defect ∧ notRegistered value = .defect defect := by
  rw [notRegistered]
  cases value.text with
  | ok name => exact .inl ⟨name, rfl⟩
  | error defect => exact .inr ⟨defect, rfl, rfl⟩

theorem stepFailure?_cases (failed : step.stepFailure? = some failure) :
    failure = StepType.notRegistered ((step.get? "type").getD (.str "")) ∨
      ∃ defect, step.configDefect? = some defect ∧ failure = .defect defect := by
  rw [Fields.stepFailure?] at failed
  obtain ⟨type, known⟩ | unknown := StepType.find_cases ((step.get? "type").getD (.str ""))
  · rw [known] at failed
    obtain ⟨defect, broken, same⟩ := Option.map_eq_some_iff.mp failed
    exact .inr ⟨defect, broken, same.symm⟩
  · rw [unknown] at failed
    cases failed
    exact .inl rfl

theorem stepFailure?_eq_none_iff :
    step.stepFailure? = none ↔ ∃ node : Node, node.Reads step := by
  rw [Fields.stepFailure?]
  constructor
  · intro fits
    split at fits
    · cases fits
    · rename_i type known
      obtain ⟨config, taken⟩ := storedConfig_of_none (Option.map_eq_none_iff.mp fits)
      exact ⟨{ Node.bare "" type with config }, known, taken⟩
  · rintro ⟨node, reads⟩
    rw [reads.type]
    cases broken : step.configDefect? with
    | none => rfl
    | some defect => cases (storedConfig_of_some broken).symm.trans reads.config

end Steps

namespace Placed

variable {steps placed : List Placed} {failure : Failure} {a b : Placed}

theorem less?_eq_none_iff :
    less? a b = none ↔ a.order.same b.order = false ∧ a.order.less? b.order = none := by
  rw [less?]
  cases a.order.same b.order <;> simp

theorem sort_rearranges (steps : List Placed) :
    (∃ placed, sort steps = .ok placed ∧ placed.Perm steps) ∨
      sort steps = .error (.defect .unordered) ∧ Sort.Apart less? steps := by
  have rearranges : Sort.Rearranges less? steps
      (if steps.all (·.order.definite) then Sort.sort? less? steps
        else Sort.adaptive? less? steps) := by
    split
    · exact Sort.rearranges_sort? steps
    · exact Sort.rearranges_adaptive? steps
  simp only [sort]
  generalize (if steps.all (·.order.definite) then Sort.sort? less? steps
    else Sort.adaptive? less? steps) = result at rearranges
  cases rearranges with
  | row perm => exact .inl ⟨_, rfl, perm⟩
  | apart apart => exact .inr ⟨rfl, apart⟩

theorem perm_of_sort (sorted : sort steps = .ok placed) : placed.Perm steps := by
  obtain ⟨done, same, perm⟩ | ⟨undone, -⟩ := sort_rearranges steps
  · exact Except.ok.inj (same.symm.trans sorted) ▸ perm
  · cases undone.symm.trans sorted

theorem objects_or_other (values : List Value) :
    (∃ steps : List Fields, values = steps.map .obj) ∨
      ∃ value ∈ values, ∀ fields, value ≠ .obj fields := by
  induction values with
  | nil => exact .inl ⟨[], rfl⟩
  | cons value rest ih =>
    obtain ⟨steps, rfl⟩ | ⟨other, inside, differs⟩ := ih
    · cases value with
      | obj fields => exact .inl ⟨fields :: steps, rfl⟩
      | _ => exact .inr ⟨_, List.mem_cons_self, by simp⟩
    · exact .inr ⟨other, List.mem_cons_of_mem _ inside, differs⟩

theorem ofStep_eq_error_iff {value : Value} {index : Nat} :
    ofStep value index = .error failure ↔
      (∀ fields, value ≠ .obj fields) ∧ failure = .defect .notObject := by
  cases value <;> simp [ofStep, eq_comm]

theorem placeSteps_of_other {values : List Value} {value : Value} (inside : value ∈ values)
    (other : ∀ fields, value ≠ .obj fields) :
    Graph.placeSteps values = .error (.defect .notObject) := by
  have read : values.zipIdx.mapM (fun placed => ofStep placed.1 placed.2) =
      .error (.defect .notObject) := by
    rw [mapM_eq_error_iff fun _ _ _ => ofStep_eq_error_iff]
    obtain ⟨index, bound, rfl⟩ := List.getElem_of_mem inside
    refine ⟨⟨(values[index], index), ?_, other⟩, rfl⟩
    exact List.mk_mem_zipIdx_iff_getElem?.mpr (List.getElem?_eq_getElem bound)
  exact congrArg (· >>= sort) read

end Placed

namespace Graph

variable {graph : Graph} {supply : Supply} {step : Fields} {failure : Failure}
  {placed : List Placed} {steps : List Value}

section

variable [Limits]

theorem appendStep_of_failure (failed : step.stepFailure? = some failure) :
    graph.appendStep step supply = (.error failure, supply) := by
  rw [Fields.stepFailure?] at failed
  rw [appendStep]
  split at failed
  · rename_i unknown
    cases failed
    rw [unknown]
  · rename_i type known
    obtain ⟨defect, broken, rfl⟩ := Option.map_eq_some_iff.mp failed
    rw [known, storedConfig_of_some broken]

theorem appendSteps_eq_error_iff (numbered : graph.Numbered supply) (chained : graph.Chained) :
    (appendSteps placed graph supply).1 = .error failure ↔
      placed.findSome? (·.step.stepFailure?) = some failure := by
  induction placed generalizing graph supply with
  | nil => simp [appendSteps]
  | cons first rest ih =>
    rw [appendSteps, List.findSome?_cons]
    cases failed : first.step.stepFailure? with
    | some other =>
      rw [appendStep_of_failure failed]
      simp
    | none =>
      obtain ⟨node, reads⟩ := stepFailure?_eq_none_iff.mp failed
      obtain ⟨changed, next, appended, extended⟩ := exists_appendStep numbered chained reads
      rw [appended]
      exact ih extended.numbered extended.chained

inductive Refuses : List Value → Failure → Prop
  | notObject {steps : List Value} {value : Value} (inside : value ∈ steps)
    (other : ∀ fields, value ≠ .obj fields) : Refuses steps (.defect .notObject)
  | unordered {steps : List Fields}
    (undone : Placed.sort (Placed.arrived steps) = .error (.defect .unordered)) :
    Refuses (steps.map .obj) (.defect .unordered)
  | unmade {steps : List Fields} {placed : List Placed} {failure : Failure}
    (sorted : Placed.sort (Placed.arrived steps) = .ok placed)
    (first : placed.findSome? (·.step.stepFailure?) = some failure) :
    Refuses (steps.map .obj) failure

theorem ofSteps_eq_error_iff (name campaign : Option String) (now : Nat) (supply : Supply) :
    (ofSteps name campaign steps now supply).1 = .error failure ↔ Refuses steps failure := by
  simp only [ofSteps]
  constructor
  · intro failed
    obtain ⟨steps, rfl⟩ | ⟨value, inside, other⟩ := Placed.objects_or_other steps
    · rw [Placed.placeSteps_eq] at failed
      obtain ⟨placed, sorted, -⟩ | ⟨undone, -⟩ := Placed.sort_rearranges (Placed.arrived steps)
      · rw [sorted] at failed
        exact .unmade sorted ((appendSteps_eq_error_iff (.create ..) chained_create).mp failed)
      · rw [undone] at failed
        cases failed
        exact .unordered undone
    · rw [Placed.placeSteps_of_other inside other] at failed
      cases failed
      exact .notObject inside other
  · intro refuses
    cases refuses with
    | notObject inside other => rw [Placed.placeSteps_of_other inside other]
    | unordered undone => rw [Placed.placeSteps_eq, undone]
    | unmade sorted first =>
      rw [Placed.placeSteps_eq, sorted]
      exact (appendSteps_eq_error_iff (.create ..) chained_create).mpr first

inductive Malformed : List Value → Defect → Prop
  | notObject {steps : List Value} {value : Value} (inside : value ∈ steps)
    (other : ∀ fields, value ≠ .obj fields) : Malformed steps .notObject
  | unordered {steps : List Fields} {a b : Placed} (inA : a ∈ Placed.arrived steps)
    (inB : b ∈ Placed.arrived steps) (different : a.order.same b.order = false)
    (undefined : a.order.less? b.order = none) : Malformed (steps.map .obj) .unordered
  | type {steps : List Value} {step : Fields} {value : Value} {defect : Defect}
    (inside : .obj step ∈ steps) (given : step.get? "type" = some value)
    (illegible : value.text = .error defect) : Malformed steps defect
  | config {steps : List Value} {step : Fields} {defect : Defect} (inside : .obj step ∈ steps)
    (broken : step.configDefect? = some defect) (shown : (step.getD "config").truthy = true)
    (deep : ∀ config, step.getD "config" = .obj config →
      Limits.copyDepth < (Value.obj config).depth) : Malformed steps defect

theorem malformed_config (inside : .obj step ∈ steps) {defect : Defect}
    (broken : step.configDefect? = some defect) : Malformed steps defect := by
  refine .config inside broken ?_ fun config given => ?_
  · by_contra hidden
    cases (configDefect?_of_empty (Bool.eq_false_iff.mpr hidden)).symm.trans broken
  · by_contra shallow
    cases (configDefect?_of_obj given (Nat.not_lt.mp shallow)).symm.trans broken

theorem malformed_type (inside : .obj step ∈ steps) {defect : Defect}
    (illegible : ((step.get? "type").getD (.str "")).text = .error defect) :
    Malformed steps defect := by
  cases given : step.get? "type" with
  | none =>
    rw [given] at illegible
    cases illegible
  | some value =>
    rw [given] at illegible
    exact .type inside given illegible

end

theorem obj_mem_of_arrived {steps : List Fields} {first : Placed}
    (arrived : first ∈ Placed.arrived steps) : Value.obj first.step ∈ steps.map Value.obj := by
  obtain ⟨⟨step, index⟩, member, rfl⟩ := List.mem_map.mp arrived
  exact List.mem_map_of_mem (List.fst_mem_of_mem_zipIdx member)

theorem Refuses.cases [Limits] (refuses : Refuses steps failure) :
    (∃ name, failure = .notFound Vocabulary.stepType.name name) ∨
      ∃ defect, failure = .defect defect ∧ Malformed steps defect := by
  cases refuses with
  | notObject inside other => exact .inr ⟨_, rfl, .notObject inside other⟩
  | unordered undone =>
    rename_i steps
    obtain ⟨placed, sorted, -⟩ | ⟨-, a, inA, b, inB, apart⟩ :=
      Placed.sort_rearranges (Placed.arrived steps)
    · cases sorted.symm.trans undone
    · obtain ⟨different, undefined⟩ := Placed.less?_eq_none_iff.mp apart
      exact .inr ⟨_, rfl, .unordered inA inB different undefined⟩
  | unmade sorted first =>
    rename_i steps placed
    obtain ⟨faulty, member, failed⟩ := List.exists_of_findSome?_eq_some first
    have inside := obj_mem_of_arrived ((Placed.perm_of_sort sorted).subset member)
    obtain rfl | ⟨defect, broken, same⟩ := stepFailure?_cases failed
    · obtain unknown | ⟨defect, illegible, same⟩ := StepType.notRegistered_cases _
      · exact .inl unknown
      · exact .inr ⟨defect, same, malformed_type inside illegible⟩
    · exact .inr ⟨defect, same, malformed_config inside broken⟩

end Graph

end Outreach
