import Outreach.Proofs.Campaign.Outcomes
import Outreach.Proofs.Limits
import Outreach.Proofs.Service.LastWrite

set_option autoImplicit false

namespace Outreach.Graph

def Unnamed (graph : Graph) : Prop := Text.blank graph.name = true

def Stepless (graph : Graph) : Prop := ∀ node ∈ graph.nodes, node.type.isSentinel = true

structure Filled (graph : Graph) : Prop where
  named : ¬ graph.Unnamed
  step : ¬ graph.Stepless

inductive Lacks (graph : Graph) : List Issue → Prop
  | name (unnamed : graph.Unnamed) (step : ¬ graph.Stepless) : Lacks graph [.missingName]
  | steps (named : ¬ graph.Unnamed) (stepless : graph.Stepless) :
    Lacks graph [.noSteps graph.nodes.length]
  | both (unnamed : graph.Unnamed) (stepless : graph.Stepless) :
    Lacks graph [.missingName, .noSteps graph.nodes.length]

def shownIssue (shown : List (String × Validity)) (node : Node) (index : Nat) : Option Issue :=
  match shown.lookup node.id with
  | some validity =>
    if validity.valid then none else some (.invalidStep index node.id node.type validity.missing)
  | none => none

def shownIssues (graph : Graph) (shown : List (String × Validity)) : List Issue :=
  graph.nodes.zipIdx.filterMap fun placed => shownIssue shown placed.1 placed.2

structure Approved (graph : Graph) (shown : List (String × Validity)) : Prop
    extends Filled graph where
  valid : ∀ entry ∈ shown, entry.2.valid = true

def untargeted (graph : Graph) : List Node :=
  graph.nodes.filter fun node => node.id ∉ graph.edges.map (·.target)

inductive Unrooted (graph : Graph) : Issue → Prop
  | none (none : graph.untargeted.length = 0) : Unrooted graph .noEntry
  | several (several : 1 < graph.untargeted.length) :
    Unrooted graph (.severalEntries (graph.untargeted.map (·.id)))

-- Every way to fail, with the checks that were passed before it.
inductive Fails [Limits] (graph : Graph) (shown : List (String × Validity)) : Failure → Prop
  | empty {issues : List Issue} (lacks : graph.Lacks issues) :
    Fails graph shown (Rejection.empty issues).failure
  | notValid (filled : graph.Filled) (invalid : ∃ entry ∈ shown, entry.2.valid = false) :
    Fails graph shown (Rejection.notValid (graph.shownIssues shown)).failure
  | disconnected {issue : Issue} (approved : graph.Approved shown)
    (unrooted : graph.Unrooted issue) : Fails graph shown (Rejection.disconnected issue).failure
  | overnested (approved : graph.Approved shown) (single : graph.untargeted.length = 1)
    (deep : ∃ node, graph.Overnested node) : Fails graph shown (.defect .tooDeep)

variable {graph : Graph} {shown : List (String × Validity)} {failure : Failure} {issue : Issue}
  {issues : List Issue}

open Classical in
theorem emptyIssues_eq (graph : Graph) :
    graph.emptyIssues = (if graph.Unnamed then [.missingName] else []) ++
      if graph.Stepless then [.noSteps graph.nodes.length] else [] := by
  have stepless : graph.nodes.all (·.type.isSentinel) = true ↔ graph.Stepless := List.all_eq_true
  simp only [emptyIssues, stepless, Unnamed]
  congr

theorem filled_iff : graph.Filled ↔ graph.emptyIssues = [] := by
  rw [emptyIssues_eq]
  constructor
  · intro filled
    rw [if_neg filled.named, if_neg filled.step, List.append_nil]
  · intro none
    obtain ⟨named, step⟩ := List.append_eq_nil_iff.mp none
    exact ⟨fun unnamed => by simp [unnamed] at named, fun stepless => by simp [stepless] at step⟩

theorem lacks_iff : graph.Lacks issues ↔ graph.emptyIssues = issues ∧ issues ≠ [] := by
  constructor
  · intro lacks
    cases lacks with
    | name unnamed step => simp [emptyIssues_eq, unnamed, step]
    | steps named stepless => simp [emptyIssues_eq, named, stepless]
    | both unnamed stepless => simp [emptyIssues_eq, unnamed, stepless]
  · rintro ⟨rfl, some⟩
    by_cases unnamed : graph.Unnamed <;> by_cases stepless : graph.Stepless
    · simpa [emptyIssues_eq, unnamed, stepless] using Lacks.both unnamed stepless
    · simpa [emptyIssues_eq, unnamed, stepless] using Lacks.name unnamed stepless
    · simpa [emptyIssues_eq, unnamed, stepless] using Lacks.steps unnamed stepless
    · exact absurd (filled_iff.mp ⟨unnamed, stepless⟩) some

theorem Lacks.unfilled (lacks : graph.Lacks issues) : graph.Unnamed ∨ graph.Stepless := by
  cases lacks with
  | name unnamed _ => exact .inl unnamed
  | steps _ stepless => exact .inr stepless
  | both unnamed _ => exact .inl unnamed

theorem exists_lacks (unfilled : graph.Unnamed ∨ graph.Stepless) :
    ∃ issues, graph.Lacks issues := by
  refine ⟨graph.emptyIssues, lacks_iff.mpr ⟨rfl, fun none => ?_⟩⟩
  have filled := filled_iff.mpr none
  exact unfilled.elim filled.named filled.step

theorem lookup_of_lists {nodes : List Node} (lists : List.Forall₂ Lists nodes shown)
    (unique : (nodes.map (·.id)).Nodup) {node : Node} (member : node ∈ nodes) :
    ∃ validity, shown.lookup node.id = some validity ∧ node.validity = .ok validity := by
  induction lists with
  | nil => exact absurd member List.not_mem_nil
  | @cons first entry rest others listed _ ih =>
    obtain ⟨id, validity⟩ := entry
    obtain ⟨rfl, judged⟩ := listed
    obtain ⟨new, unique⟩ := List.nodup_cons.mp unique
    obtain rfl | later := List.mem_cons.mp member
    · exact ⟨validity, List.lookup_cons_self, judged⟩
    · have different : node.id ≠ first.id := fun same =>
        new (List.mem_map.mpr ⟨node, later, same⟩)
      obtain ⟨found, looked, same⟩ := ih unique later
      refine ⟨found, ?_, same⟩
      rw [List.lookup_cons, beq_eq_false_iff_ne.mpr different, looked]

theorem invalidIssue_eq {node : Node} {validity : Validity} (index : Nat)
    (looked : shown.lookup node.id = some validity) (judged : node.validity = .ok validity) :
    invalidIssue node index = .ok (shownIssue shown node index).toList := by
  by_cases valid : validity.valid = true <;>
    simp [invalidIssue, judged, shownIssue, looked, valid]

theorem valid_iff_of_lists (lists : List.Forall₂ Lists graph.nodes shown) :
    (∀ entry ∈ shown, entry.2.valid = true) ↔ graph.Valid := by
  constructor
  · intro valid node member
    obtain ⟨entry, inside, -, judged⟩ := exists_of_mem_forall₂ lists member
    exact ⟨entry.2, judged, valid entry inside⟩
  · intro valid entry inside
    obtain ⟨node, member, -, judged⟩ := exists_of_mem_forall₂ lists.flip inside
    obtain ⟨validity, same, isValid⟩ := valid node member
    rw [judged] at same
    rw [Except.ok.inj same, isValid]

theorem approved_iff (lists : List.Forall₂ Lists graph.nodes shown) :
    graph.Approved shown ↔ graph.emptyIssues = [] ∧ graph.invalidIssues = .ok [] := by
  rw [← filled_iff, invalidIssues_eq_nil_iff, ← valid_iff_of_lists lists]
  exact ⟨fun approved => ⟨approved.toFilled, approved.valid⟩, fun ⟨filled, valid⟩ => ⟨filled, valid⟩⟩

theorem invalidIssues_eq (unique : graph.ids.Nodup) (lists : List.Forall₂ Lists graph.nodes shown) :
    graph.invalidIssues = .ok (graph.shownIssues shown) := by
  have each : graph.nodes.zipIdx.mapM (fun placed => invalidIssue placed.1 placed.2) =
      .ok (graph.nodes.zipIdx.map fun placed => (shownIssue shown placed.1 placed.2).toList) := by
    rw [mapM_eq_ok, List.forall₂_map_right_iff, List.forall₂_same]
    intro placed inside
    obtain ⟨validity, looked, judged⟩ :=
      lookup_of_lists lists unique (List.fst_mem_of_mem_zipIdx inside)
    exact invalidIssue_eq placed.2 looked judged
  rw [invalidIssues, each, map_ok, shownIssues, List.filterMap_eq_flatMap_toList]
  rfl

theorem invalid_iff (unique : graph.ids.Nodup) (lists : List.Forall₂ Lists graph.nodes shown) :
    (∃ entry ∈ shown, entry.2.valid = false) ↔ graph.shownIssues shown ≠ [] := by
  have valid := valid_iff_of_lists lists
  rw [← invalidIssues_eq_nil_iff, invalidIssues_eq unique lists, Except.ok.injEq] at valid
  rw [Ne, ← valid]
  simp

theorem untargeted_eq (graph : Graph) : graph.untargeted = graph.entries := by
  apply List.filter_congr
  intro node _
  rw [Bool.eq_iff_iff]
  simp

theorem unrooted_iff : graph.Unrooted issue ↔ graph.singleEntry = .error issue := by
  rw [singleEntry, ← untargeted_eq]
  constructor
  · intro unrooted
    cases unrooted with
    | none none => simp [List.length_eq_zero_iff.mp none]
    | several several =>
      rcases listed : graph.untargeted with _ | ⟨first, _ | ⟨second, rest⟩⟩
      · simp [listed] at several
      · simp [listed] at several
      · rfl
  · intro failed
    rcases listed : graph.untargeted with _ | ⟨first, _ | ⟨second, rest⟩⟩
    · simp only [listed] at failed
      cases failed
      exact .none (by simp [listed])
    · simp only [listed] at failed
      cases failed
    · simp only [listed] at failed
      cases failed
      rw [← listed]
      exact .several (by simp [listed])

theorem exists_unrooted (notOne : graph.untargeted.length ≠ 1) :
    ∃ issue, graph.Unrooted issue := by
  by_cases none : graph.untargeted.length = 0
  · exact ⟨_, .none none⟩
  · exact ⟨_, .several (by omega)⟩

theorem Unrooted.length_ne_one (unrooted : graph.Unrooted issue) :
    graph.untargeted.length ≠ 1 := by
  cases unrooted with
  | none none => omega
  | several several => omega

section

variable [Limits]

theorem fails_of_compile (unique : graph.ids.Nodup)
    (readable : ∀ node ∈ graph.nodes, node.unreadable = false)
    (lists : List.Forall₂ Lists graph.nodes shown) (failed : graph.compile = .error failure) :
    graph.Fails shown failure := by
  have compiles := compiles unique
  rw [failed] at compiles
  cases compiles with
  | empty some => exact .empty (lacks_iff.mpr ⟨rfl, some⟩)
  | unreadable _ long =>
    obtain ⟨node, member, long⟩ := long
    rw [readable node member] at long
    cases long
  | notValid filled found some =>
    rw [invalidIssues_eq unique lists] at found
    obtain rfl := Except.ok.inj found
    exact .notValid (filled_iff.mpr filled) ((invalid_iff unique lists).mpr some)
  | disconnected filled valid several =>
    exact .disconnected ((approved_iff lists).mpr ⟨filled, valid⟩) (unrooted_iff.mpr several)
  | overnested filled valid single deep =>
    refine .overnested ((approved_iff lists).mpr ⟨filled, valid⟩) ?_ deep
    rw [untargeted_eq, single, List.length_singleton]

theorem compile_of_fails (unique : graph.ids.Nodup)
    (lists : List.Forall₂ Lists graph.nodes shown) (fails : graph.Fails shown failure) :
    graph.compile = .error failure := by
  cases fails with
  | empty lacks =>
    obtain ⟨rfl, some⟩ := lacks_iff.mp lacks
    simp [compile, some]
  | notValid filled invalid =>
    have some := (invalid_iff unique lists).mp invalid
    simp [compile, filled_iff.mp filled, invalidIssues_eq unique lists]
  | disconnected approved unrooted =>
    obtain ⟨filled, valid⟩ := (approved_iff lists).mp approved
    simp [compile, filled, valid, unrooted_iff.mp unrooted]
  | overnested approved single deep =>
    obtain ⟨filled, valid⟩ := (approved_iff lists).mp approved
    obtain ⟨entry, single⟩ := List.length_eq_one_iff.mp single
    rw [untargeted_eq] at single
    exact (compile_eq_defect_iff unique).mpr
      ⟨filled, .inr ⟨rfl, valid, ⟨entry, single⟩, deep⟩⟩

structure Ready (graph : Graph) (shown : List (String × Validity)) : Prop
    extends Approved graph shown where
  single : graph.untargeted.length = 1
  shallow : ∀ node, ¬ graph.Overnested node

theorem Fails.not_ready (fails : graph.Fails shown failure) : ¬ graph.Ready shown := by
  intro ready
  cases fails with
  | empty lacks => exact lacks.unfilled.elim ready.named ready.step
  | notValid _ invalid =>
    obtain ⟨entry, inside, invalid⟩ := invalid
    rw [ready.valid entry inside] at invalid
    cases invalid
  | disconnected _ unrooted => exact unrooted.length_ne_one ready.single
  | overnested _ _ deep =>
    obtain ⟨node, deep⟩ := deep
    exact ready.shallow node deep

theorem ready_or_fails (graph : Graph) (shown : List (String × Validity)) :
    graph.Ready shown ∨ ∃ failure, graph.Fails shown failure := by
  by_cases unfilled : graph.Unnamed ∨ graph.Stepless
  · obtain ⟨issues, lacks⟩ := exists_lacks unfilled
    exact .inr ⟨_, .empty lacks⟩
  obtain ⟨named, step⟩ := not_or.mp unfilled
  by_cases invalid : ∃ entry ∈ shown, entry.2.valid = false
  · exact .inr ⟨_, .notValid ⟨named, step⟩ invalid⟩
  have approved : graph.Approved shown := ⟨⟨named, step⟩, by simpa using invalid⟩
  by_cases single : graph.untargeted.length = 1
  · by_cases deep : ∃ node, graph.Overnested node
    · exact .inr ⟨_, .overnested approved single deep⟩
    · exact .inl ⟨approved, single, not_exists.mp deep⟩
  · obtain ⟨issue, unrooted⟩ := exists_unrooted single
    exact .inr ⟨_, .disconnected approved unrooted⟩

def Rejects (graph : Graph) (kind : RejectionKind) : Prop :=
  ∃ message errors, graph.compile = .error (.rejected kind message errors)

def Grounds (graph : Graph) (shown : List (String × Validity)) : RejectionKind → Prop
  | .empty => graph.Unnamed ∨ graph.Stepless
  | .notValid => graph.Filled ∧ ∃ entry ∈ shown, entry.2.valid = false
  | .disconnected => graph.Approved shown ∧ graph.untargeted.length ≠ 1

theorem Fails.grounds {kind : RejectionKind} {message : String} {errors : List Value}
    (fails : graph.Fails shown (.rejected kind message errors)) : graph.Grounds shown kind := by
  generalize same : Failure.rejected kind message errors = failure at fails
  cases fails with
  | empty lacks =>
    cases same
    exact lacks.unfilled
  | notValid filled invalid =>
    cases same
    exact ⟨filled, invalid⟩
  | disconnected approved unrooted =>
    cases same
    exact ⟨approved, unrooted.length_ne_one⟩
  | overnested => cases same

theorem exists_fails_of_grounds {kind : RejectionKind} (grounds : graph.Grounds shown kind) :
    ∃ rejection : Rejection, rejection.kind = kind ∧ graph.Fails shown rejection.failure := by
  cases kind with
  | empty =>
    obtain ⟨issues, lacks⟩ := exists_lacks grounds
    exact ⟨_, rfl, .empty lacks⟩
  | notValid => exact ⟨_, rfl, .notValid grounds.1 grounds.2⟩
  | disconnected =>
    obtain ⟨issue, unrooted⟩ := exists_unrooted grounds.2
    exact ⟨_, rfl, .disconnected grounds.1 unrooted⟩

structure Decided (graph : Graph) (shown : List (String × Validity)) : Prop where
  failed : ∀ failure, graph.compile = .error failure ↔ graph.Fails shown failure
  rejected : ∀ kind, graph.Rejects kind ↔ graph.Grounds shown kind
  compiled : (∃ compilation, graph.compile = .ok compilation) ↔ graph.Ready shown

theorem decided (unique : graph.ids.Nodup)
    (readable : ∀ node ∈ graph.nodes, node.unreadable = false) :
    ∃ shown, graph.validities = .ok shown ∧ List.Forall₂ Lists graph.nodes shown ∧
      graph.Decided shown := by
  obtain ⟨shown, listed, lists⟩ := exists_validities unique readable
  have failed (failure : Failure) :
      graph.compile = .error failure ↔ graph.Fails shown failure :=
    ⟨fails_of_compile unique readable lists, compile_of_fails unique lists⟩
  refine ⟨shown, listed, lists, failed, ?_, ?_⟩
  · intro kind
    constructor
    · rintro ⟨message, errors, rejected⟩
      exact ((failed _).mp rejected).grounds
    · intro grounds
      obtain ⟨rejection, rfl, fails⟩ := exists_fails_of_grounds grounds
      exact ⟨_, _, (failed _).mpr fails⟩
  · constructor
    · rintro ⟨compilation, compiled⟩
      refine (graph.ready_or_fails shown).resolve_right ?_
      rintro ⟨failure, fails⟩
      rw [(failed failure).mpr fails] at compiled
      cases compiled
    · intro ready
      cases result : graph.compile with
      | ok compilation => exact ⟨compilation, rfl⟩
      | error failure => exact absurd ready ((failed failure).mp result).not_ready

end

def unfinished : Graph :=
  { id := "wf_x", name := "Unfinished"
    nodes := [Node.bare "start" .start, Node.bare "visit" .linkedinVisit,
      Node.bare "write" .linkedinMessage,
      { Node.bare "wait" .delay with config := [("delayDays", .str "0 days")] }]
    edges := [⟨"e1", "start", "visit"⟩]
    selected := none, campaign := none, created := 0, updated := 0 }

section

attribute [local instance] Limits.usual

theorem unfinished_decided :
    unfinished.ids.Nodup ∧ (∀ node ∈ unfinished.nodes, node.unreadable = false) ∧
      unfinished.compile = .error (Rejection.notValid
        [.invalidStep 2 "write" .linkedinMessage ["message"],
          .invalidStep 3 "wait" .delay ["delayDays", "delayHours", "delayMinutes"]]).failure ∧
      ∃ shown, unfinished.validities = .ok shown ∧
        List.Forall₂ Lists unfinished.nodes shown ∧ unfinished.Decided shown := by
  have unique : unfinished.ids.Nodup := by decide
  have readable : ∀ node ∈ unfinished.nodes, node.unreadable = false := by decide
  exact ⟨unique, readable, by rfl, decided unique readable⟩

def buried : Graph :=
  { id := "wf_x", name := "Buried"
    nodes := [{ Node.bare "visit" .linkedinVisit with config := [("k", Value.nested 500)] }]
    edges := [], selected := none, campaign := none, created := 0, updated := 0 }

theorem compile_buried : buried.compile = .error (.defect .tooDeep) := by
  have unique : buried.ids.Nodup := by decide
  refine (compile_eq_defect_iff unique).mpr ⟨by rfl, .inr ⟨rfl, by rfl, ⟨_, rfl⟩, ?_⟩⟩
  refine ⟨_, List.mem_cons_self, rfl, ?_⟩
  simp [Fields.overnested, Limits.copyDepth, Value.depth, Value.depthFields, Value.depth_nested]

theorem buried_not_compiled :
    buried.ids.Nodup ∧ (∀ node ∈ buried.nodes, node.unreadable = false) ∧
      (∃ shown, buried.validities = .ok shown ∧ buried.Approved shown) ∧
      buried.untargeted.length = 1 ∧ buried.compile = .error (.defect .tooDeep) := by
  refine ⟨by decide, ?_, ⟨[("visit", { valid := true, missing := [] })], by rfl, ?_⟩, by rfl,
    compile_buried⟩
  · simp [buried, Node.bare, Node.unreadable]
  · refine ⟨⟨by unfold Unnamed; decide, ?_⟩, by simp⟩
    intro stepless
    exact absurd (stepless _ List.mem_cons_self) (by decide)

end

end Outreach.Graph
