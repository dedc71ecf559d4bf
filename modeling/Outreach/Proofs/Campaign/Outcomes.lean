import Outreach.Proofs.Campaign.Chain
import Outreach.Proofs.Campaign.Sequence
import Outreach.Proofs.Graph.Edited
import Outreach.Proofs.Graph.Validities
import Outreach.Proofs.Limits

set_option autoImplicit false

namespace Outreach

section

variable [Limits]

def Fields.overnested (fields : Fields) : Bool := Limits.copyDepth < (Value.obj fields).depth

theorem Fields.copied_eq_error_iff {fields : Fields} {defect : Defect} :
    fields.copied = .error defect ↔ fields.overnested = true ∧ defect = .tooDeep := by
  rw [Fields.copied, map_eq_error, Value.copied, Fields.overnested]
  by_cases deep : Limits.copyDepth < (Value.obj fields).depth
  · simp [deep, Nat.not_le_of_lt deep, eq_comm]
  · simp [deep, Nat.le_of_not_lt deep]

theorem CompiledStep.copied_eq_error_iff {step : CompiledStep} {failure : Failure} :
    step.copied = .error failure ↔
      step.config.overnested = true ∧ failure = .defect .tooDeep := by
  simp only [CompiledStep.copied, map_eq_error, mapError_eq_error, Fields.copied_eq_error_iff]
  constructor
  · rintro ⟨_, ⟨deep, rfl⟩, rfl⟩
    exact ⟨deep, rfl⟩
  · rintro ⟨deep, rfl⟩
    exact ⟨_, ⟨deep, rfl⟩, rfl⟩

theorem Compilation.copied_eq_error_iff {compilation : Compilation} {failure : Failure} :
    compilation.copied = .error failure ↔
      (∃ step ∈ compilation.steps, step.config.overnested = true) ∧
        failure = .defect .tooDeep := by
  rw [Compilation.copied, map_eq_error,
    mapM_eq_error_iff fun step _ _ => CompiledStep.copied_eq_error_iff]

end

namespace Graph

variable {graph : Graph} {entry : Node} {failure : Failure} {supply : Supply}

theorem invalidIssues_eq_error_iff :
    graph.invalidIssues = .error failure ↔
      (∃ node ∈ graph.nodes, node.unreadable = true) ∧ failure = .defect .numeralTooLong := by
  have fails (placed : Node × Nat) (other : Failure) :
      invalidIssue placed.1 placed.2 = .error other ↔
        placed.1.unreadable = true ∧ other = .defect .numeralTooLong := by
    rw [invalidIssue, map_eq_error, Node.validity_eq_error_iff]
  have same : (∃ placed ∈ graph.nodes.zipIdx, placed.1.unreadable = true) ↔
      ∃ node ∈ graph.nodes, node.unreadable = true := by
    constructor
    · rintro ⟨placed, inside, long⟩
      exact ⟨placed.1, List.fst_mem_of_mem_zipIdx inside, long⟩
    · rintro ⟨node, inside, long⟩
      obtain ⟨index, placed⟩ := List.mem_iff_getElem?.mp inside
      exact ⟨(node, index), List.mk_mem_zipIdx_iff_getElem?.mpr placed, long⟩
  rw [invalidIssues, map_eq_error, mapM_eq_error_iff fun placed _ => fails placed, same]

section

variable [Limits]

def Overnested (graph : Graph) (node : Node) : Prop :=
  node ∈ graph.nodes ∧ node.type.isSentinel = false ∧ node.config.overnested = true

theorem compileFrom_copied_eq_error_iff (unique : graph.ids.Nodup) (member : entry ∈ graph.nodes) :
    (graph.compileFrom entry).copied = .error failure ↔
      (∃ node, graph.Overnested node) ∧ failure = .defect .tooDeep := by
  rw [Compilation.copied_eq_error_iff]
  have same : (∃ step ∈ (graph.compileFrom entry).steps, step.config.overnested = true) ↔
      ∃ node, graph.Overnested node := by
    constructor
    · rintro ⟨step, inside, deep⟩
      obtain ⟨⟨node, order⟩, placed, rfl⟩ := List.mem_map.mp inside
      have executed := (mem_executed unique member).mp (List.fst_mem_of_mem_zipIdx placed)
      exact ⟨node, executed.1, executed.2, deep⟩
    · rintro ⟨node, inside, executable, deep⟩
      obtain ⟨index, placed⟩ :=
        List.mem_iff_getElem?.mp ((mem_executed unique member).mpr ⟨inside, executable⟩)
      refine ⟨node.compile index, List.mem_of_getElem? (i := index) ?_, deep⟩
      rw [compileFrom_getElem?, placed, Option.map_some]
  rw [same]

-- All that compiling can come to, in the order of the checks.
inductive Compiles (graph : Graph) : Except Failure Compilation → Prop
  | empty (issues : graph.emptyIssues ≠ []) :
    Compiles graph (.error (Rejection.empty graph.emptyIssues).failure)
  | unreadable (filled : graph.emptyIssues = [])
    (long : ∃ node ∈ graph.nodes, node.unreadable = true) :
    Compiles graph (.error (.defect .numeralTooLong))
  | notValid {issues : List Issue} (filled : graph.emptyIssues = [])
    (found : graph.invalidIssues = .ok issues) (some : issues ≠ []) :
    Compiles graph (.error (Rejection.notValid issues).failure)
  | disconnected {issue : Issue} (filled : graph.emptyIssues = [])
    (valid : graph.invalidIssues = .ok []) (several : graph.singleEntry = .error issue) :
    Compiles graph (.error (Rejection.disconnected issue).failure)
  | overnested {entry : Node} (filled : graph.emptyIssues = [])
    (valid : graph.invalidIssues = .ok []) (single : graph.entries = [entry])
    (deep : ∃ node, graph.Overnested node) : Compiles graph (.error (.defect .tooDeep))
  | compiled {entry : Node} (filled : graph.emptyIssues = [])
    (valid : graph.invalidIssues = .ok []) (single : graph.entries = [entry])
    (shallow : ∀ node, ¬ graph.Overnested node) : Compiles graph (.ok (graph.compileFrom entry))

theorem compiles (unique : graph.ids.Nodup) : graph.Compiles graph.compile := by
  rw [compile]
  split
  · rename_i issues
    exact .empty (by simpa using issues)
  · rename_i filled
    have filled : graph.emptyIssues = [] := by simpa using filled
    split
    · rename_i failed
      obtain ⟨long, rfl⟩ := invalidIssues_eq_error_iff.mp failed
      exact .unreadable filled long
    · rename_i valid
      split
      · rename_i several
        exact .disconnected filled valid several
      · rename_i entry single
        have single := singleEntry_eq_ok.mp single
        have member := entry_mem single
        cases copied : (graph.compileFrom entry).copied with
        | ok compilation =>
          rw [Compilation.copied_eq copied]
          refine .compiled filled valid single fun node nested => ?_
          have failed := (compileFrom_copied_eq_error_iff unique member).mpr ⟨⟨node, nested⟩, rfl⟩
          rw [copied] at failed
          cases failed
        | error failure =>
          obtain ⟨nested, rfl⟩ := (compileFrom_copied_eq_error_iff unique member).mp copied
          exact .overnested filled valid single nested
    · rename_i issues some found
      exact .notValid filled found some

theorem compile_eq_defect_iff (unique : graph.ids.Nodup) {defect : Defect} :
    graph.compile = .error (.defect defect) ↔ graph.emptyIssues = [] ∧
      (defect = .numeralTooLong ∧ (∃ node ∈ graph.nodes, node.unreadable = true) ∨
        defect = .tooDeep ∧ graph.invalidIssues = .ok [] ∧
          (∃ entry, graph.entries = [entry]) ∧ ∃ node, graph.Overnested node) := by
  have compiles := compiles unique
  constructor
  · intro failed
    rw [failed] at compiles
    cases compiles with
    | unreadable filled long => exact ⟨filled, .inl ⟨rfl, long⟩⟩
    | overnested filled valid single deep => exact ⟨filled, .inr ⟨rfl, valid, ⟨_, single⟩, deep⟩⟩
  · rintro ⟨filled, ⟨rfl, long⟩ | ⟨rfl, valid, ⟨entry, single⟩, deep⟩⟩
    · have failed := invalidIssues_eq_error_iff.mpr ⟨long, rfl⟩
      simp [compile, filled, failed]
    · have copied := (compileFrom_copied_eq_error_iff unique (entry_mem single)).mpr ⟨deep, rfl⟩
      simp [compile, filled, valid, singleEntry_eq_ok.mpr single, copied]

end

def Valid (graph : Graph) : Prop :=
  ∀ node ∈ graph.nodes, ∃ validity, node.validity = .ok validity ∧ validity.valid = true

theorem invalidIssues_eq_nil_iff : graph.invalidIssues = .ok [] ↔ graph.Valid :=
  ⟨fun valid _ => valid_of_invalidIssues valid, invalidIssues_eq_nil⟩

section

variable [Limits]

structure Judged (graph : Graph) : Prop where
  listed : (∀ node ∈ graph.nodes, node.unreadable = false) →
    ∃ found, graph.validities = .ok found ∧ List.Forall₂ Lists graph.nodes found
  unlisted : ∀ failure, graph.validities = .error failure ↔
    (∃ node ∈ graph.nodes, node.unreadable = true) ∧ failure = .defect .numeralTooLong
  compiled : (∀ node ∈ graph.nodes, node.unreadable = false) →
    (∀ node, ¬ graph.Overnested node) → (∃ compilation, graph.compile = .ok compilation) ∨
      ∃ rejection : Rejection, graph.compile = .error rejection.failure
  failed : ∀ failure, graph.compile = .error failure →
    (∃ rejection : Rejection, failure = rejection.failure) ∨ ∃ defect, failure = .defect defect
  defect : ∀ defect, graph.compile = .error (.defect defect) ↔
    Text.blank graph.name = false ∧ (∃ node ∈ graph.nodes, node.type.isSentinel = false) ∧
      (defect = .numeralTooLong ∧ (∃ node ∈ graph.nodes, node.unreadable = true) ∨
        defect = .tooDeep ∧ graph.Valid ∧ (∃ entry, graph.entries = [entry]) ∧
          ∃ node, graph.Overnested node)

theorem failure_of_compile (unique : graph.ids.Nodup) (failed : graph.compile = .error failure) :
    (∃ rejection : Rejection, failure = rejection.failure) ∨
      ∃ defect, failure = .defect defect := by
  have compiles := compiles unique
  rw [failed] at compiles
  cases compiles with
  | empty => exact .inl ⟨_, rfl⟩
  | unreadable => exact .inr ⟨_, rfl⟩
  | notValid => exact .inl ⟨_, rfl⟩
  | disconnected => exact .inl ⟨_, rfl⟩
  | overnested => exact .inr ⟨_, rfl⟩

theorem compiled_or_rejected (unique : graph.ids.Nodup)
    (readable : ∀ node ∈ graph.nodes, node.unreadable = false)
    (shallow : ∀ node, ¬ graph.Overnested node) :
    (∃ compilation, graph.compile = .ok compilation) ∨
      ∃ rejection : Rejection, graph.compile = .error rejection.failure := by
  cases result : graph.compile with
  | ok compilation => exact .inl ⟨compilation, rfl⟩
  | error failure =>
    obtain ⟨rejection, rfl⟩ | ⟨defect, rfl⟩ := failure_of_compile unique result
    · exact .inr ⟨rejection, rfl⟩
    · obtain ⟨-, ⟨-, node, inside, long⟩ | ⟨-, -, -, node, deep⟩⟩ :=
        (compile_eq_defect_iff unique).mp result
      · rw [readable node inside] at long
        cases long
      · exact absurd deep (shallow node)

theorem judged_of_edited (edited : graph.Edited supply) :
    (∀ type config failure, Validity.of type config = .error failure ↔
      (type = .delay ∧ Delay.unreadable config = true) ∧ failure = .defect .numeralTooLong) ∧
    graph.Judged := by
  have unique := edited.numbered.unique
  refine ⟨fun _ _ _ => Validity.of_eq_error_iff, ?_⟩
  exact {
    listed := exists_validities unique
    unlisted := fun _ => validities_eq_error_iff unique
    compiled := compiled_or_rejected unique
    failed := fun _ => failure_of_compile unique
    defect := fun defect => by
      rw [compile_eq_defect_iff unique, emptyIssues_eq_nil_iff, invalidIssues_eq_nil_iff,
        and_assoc] }

end

section

attribute [local instance] Limits.usual

theorem waited_judged : ∃ graph supply, Edited graph supply ∧
    (∃ node, graph.nodes = [node] ∧ node.type = .delay ∧
      node.config.get? "delayDays" = some (.str " +٣ days")) ∧
    graph.validities = .ok [("node_00000001", { valid := true, missing := [] })] ∧
    (∀ type config failure, Validity.of type config = .error failure ↔
      (type = .delay ∧ Delay.unreadable config = true) ∧ failure = .defect .numeralTooLong) ∧
    graph.Judged := by
  have created := Edited.created (some "Wait") none 0 Supply.initial
  have delay := created.ran (.refl _) (.addNode (.str "delay") none) 1
  have days := delay.ran (.refl _)
    (.updateConfig "node_00000001" (.obj [("delayDays", .str " +٣ days")])) 2
  exact ⟨_, _, days, ⟨_, rfl, rfl, rfl⟩, by rfl, judged_of_edited days⟩

def lengthyDays : String := String.ofList (List.replicate (Text.numeralLimit + 1) '1')

theorem leadingDigits_ones (count : Nat) :
    Delay.leadingDigits (List.replicate (count + 1) '1') = List.replicate (count + 1) '1' := by
  have shown : Text.isBlank '1' = false := by decide
  have digit : Text.isDigit '1' = true := by decide
  rw [Delay.leadingDigits, List.replicate_succ, List.dropWhile_cons_of_neg (by simp [shown])]
  simp [Delay.sign, digit]

theorem lengthyDays_overlong : Delay.overlong (.str lengthyDays) = true := by
  simp [Delay.overlong, lengthyDays, leadingDigits_ones]

theorem lengthy_not_judged : ∃ graph supply, Edited graph supply ∧
    graph.validities = .error (.defect .numeralTooLong) ∧
    graph.compile = .error (.defect .numeralTooLong) := by
  have created := Edited.created (some "Wait") none 0 Supply.initial
  have delay := created.ran (.refl _) (.addNode (.str "delay") none) 1
  have days := delay.ran (.refl _)
    (.updateConfig "node_00000001" (.obj [("delayDays", .str lengthyDays)])) 2
  have long : Node.unreadable
      { id := "node_00000001", type := .delay, position := Position.origin
        config := (Catalog.definition .delay).defaults.set "delayDays" (.str lengthyDays) } =
      true := Node.unreadable_of_days rfl rfl lengthyDays_overlong
  have unique := days.numbered.unique
  refine ⟨_, _, days, ?_, ?_⟩
  · exact (validities_eq_error_iff unique).mpr ⟨⟨_, List.mem_cons_self, long⟩, rfl⟩
  · exact (compile_eq_defect_iff unique).mpr ⟨by rfl, .inl ⟨rfl, _, List.mem_cons_self, long⟩⟩

end

end Graph

end Outreach
