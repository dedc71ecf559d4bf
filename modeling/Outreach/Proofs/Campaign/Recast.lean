import Outreach.Proofs.Campaign.Rejections
import Outreach.Proofs.Graph.Recast
import Outreach.Proofs.Limits

set_option autoImplicit false

namespace Outreach

def Issue.renamed (rename : String → String) : Issue → Issue
  | .invalidStep index id type missing => .invalidStep index (rename id) type missing
  | .severalEntries ids => .severalEntries (ids.map rename)
  | issue => issue

def Rejection.renamed (rename : String → String) : Rejection → Rejection
  | .empty issues => .empty (issues.map (Issue.renamed rename))
  | .notValid issues => .notValid (issues.map (Issue.renamed rename))
  | .disconnected issue => .disconnected (issue.renamed rename)

inductive Renames (rename : String → String) :
    Except Failure Compilation → Except Failure Compilation → Prop
  | compiled {compilation other : Compilation} (steps : other.steps = compilation.steps)
    (fallback : other.fallback = compilation.fallback.renamed rename) :
    Renames rename (.ok compilation) (.ok other)
  | rejected (rejection : Rejection) :
    Renames rename (.error rejection.failure) (.error (rejection.renamed rename).failure)
  | defect (defect : Defect) : Renames rename (.error (.defect defect)) (.error (.defect defect))

variable {rename : String → String}

theorem Issue.renamed_self (issue : Issue) : issue.renamed (fun id => id) = issue := by
  cases issue <;> simp [Issue.renamed]

theorem Rejection.renamed_self (rejection : Rejection) :
    rejection.renamed (fun id => id) = rejection := by
  have same : Issue.renamed (fun id => id) = fun issue => issue := funext Issue.renamed_self
  cases rejection <;> simp [Rejection.renamed, same]

theorem Fallback.renamed_self (fallback : Fallback) :
    fallback.renamed (fun id => id) = fallback := by
  simp [Fallback.renamed]

theorem Renames.eq {result other : Except Failure Compilation}
    (renames : Renames (fun id => id) result other) : other = result := by
  cases renames with
  | @compiled compilation other steps fallback =>
    rw [Fallback.renamed_self] at fallback
    cases compilation
    cases other
    cases steps
    cases fallback
    rfl
  | rejected rejection => rw [Rejection.renamed_self]
  | defect defect => rfl

theorem Compilation.copied_renames [Limits] {compilation other : Compilation}
    (steps : other.steps = compilation.steps)
    (fallback : other.fallback = compilation.fallback.renamed rename) :
    Renames rename compilation.copied other.copied := by
  cases copied : compilation.steps.mapM CompiledStep.copied with
  | ok copies =>
    rw [Compilation.copied, Compilation.copied, steps, copied]
    exact .compiled rfl fallback
  | error failure =>
    have failed : compilation.copied = .error failure := by
      rw [Compilation.copied, copied, map_error]
    obtain ⟨-, rfl⟩ := Compilation.copied_eq_error_iff.mp failed
    rw [failed, Compilation.copied, steps, copied]
    exact .defect .tooDeep

namespace Node.Recast

variable {node other : Node} (recast : Node.Recast rename node other)

include recast

theorem validity : other.validity = node.validity := by
  rw [Node.validity, Node.validity, recast.type, recast.config]

theorem compile (order : Nat) : other.compile order = node.compile order := by
  simp only [Node.compile, Node.title, Node.description, recast.type, recast.config]

theorem invalidIssue (index : Nat) :
    Graph.invalidIssue other index =
      (Graph.invalidIssue node index).map (List.map (Issue.renamed rename)) := by
  rw [Graph.invalidIssue, Graph.invalidIssue, recast.validity, recast.id, recast.type]
  cases node.validity with
  | error failure => rfl
  | ok validity => cases valid : validity.valid <;> simp [valid, Issue.renamed]

end Node.Recast

namespace Graph

variable {graph other : Graph} {entry start : Node}

namespace Recast

variable (recast : graph.Recast rename other)

include recast

theorem emptyIssues : other.emptyIssues = graph.emptyIssues.map (Issue.renamed rename) := by
  have types : other.nodes.map (·.type) = graph.nodes.map (·.type) :=
    map_eq_of_forall₂ recast.nodes fun _ _ paired => paired.type
  have stepless (nodes : List Node) :
      nodes.all (·.type.isSentinel) = (nodes.map (·.type)).all (·.isSentinel) := by
    rw [List.all_map]
    rfl
  rw [Graph.emptyIssues, Graph.emptyIssues, recast.name, recast.nodes.length_eq, stepless, types,
    ← stepless]
  split <;> split <;> rfl

theorem invalidIssues :
    other.invalidIssues = graph.invalidIssues.map (List.map (Issue.renamed rename)) := by
  have found : other.nodes.zipIdx.mapM (fun placed => invalidIssue placed.1 placed.2) =
      (graph.nodes.zipIdx.mapM fun placed => invalidIssue placed.1 placed.2).map
        (List.map (List.map (Issue.renamed rename))) := by
    refine mapM_eq_map_mapM (rel_zipIdx recast.nodes 0) fun placed changed paired => ?_
    rw [paired.2, paired.1.invalidIssue]
  rw [Graph.invalidIssues, found, Graph.invalidIssues]
  cases graph.nodes.zipIdx.mapM fun placed => invalidIssue placed.1 placed.2 with
  | error failure => rfl
  | ok issues => simp [List.map_flatten]

end Recast

namespace Mirrors

variable (mirrors : graph.Mirrors rename other)

include mirrors

theorem singleEntry :
    (∃ entry start, graph.singleEntry = .ok entry ∧ other.singleEntry = .ok start ∧
      entry ∈ graph.nodes ∧ Node.Recast rename entry start) ∨
    ∃ issue, graph.singleEntry = .error issue ∧
      other.singleEntry = .error (issue.renamed rename) := by
  have entries := mirrors.entries
  have known : ∀ node ∈ graph.entries, node ∈ graph.nodes :=
    fun _ member => (mem_entries.mp member).1
  simp only [Graph.singleEntry]
  generalize graph.entries = nodes at entries known ⊢
  generalize other.entries = others at entries ⊢
  cases entries with
  | nil => exact .inr ⟨.noEntry, rfl, rfl⟩
  | cons first rest =>
    cases rest with
    | nil => exact .inl ⟨_, _, rfl, rfl, known _ List.mem_cons_self, first⟩
    | cons second rest =>
      refine .inr ⟨_, rfl, ?_⟩
      rw [Issue.renamed, ← map_id_eq (.cons first (.cons second rest))]

theorem compileFrom [Limits] (member : entry ∈ graph.nodes)
    (paired : Node.Recast rename entry start) :
    Renames rename (graph.compileFrom entry).copied (other.compileFrom start).copied := by
  have linear := mirrors.linearize entry member start paired
  refine Compilation.copied_renames ?_ linear.fallback
  have executed : List.Forall₂ (Node.Recast rename) (graph.executed entry) (other.executed start) :=
    forall₂_filter linear.order fun node changed paired => by rw [paired.type]
  rw [compileFrom_steps, compileFrom_steps]
  refine map_eq_of_forall₂ (rel_zipIdx executed 0) ?_
  rintro ⟨node, order⟩ ⟨changed, _⟩ ⟨paired, rfl⟩
  exact paired.compile _

end Mirrors

theorem Recast.compile [Limits] (recast : graph.Recast rename other)
    (mirrors : graph.Mirrors rename other) : Renames rename graph.compile other.compile := by
  rw [Graph.compile, Graph.compile, recast.emptyIssues, recast.invalidIssues, List.isEmpty_map]
  by_cases filled : graph.emptyIssues = []
  · rw [filled, List.isEmpty_nil]
    cases found : graph.invalidIssues with
    | error failure =>
      obtain ⟨-, rfl⟩ := invalidIssues_eq_error_iff.mp found
      exact .defect .numeralTooLong
    | ok issues =>
      cases issues with
      | cons issue rest => exact .rejected (.notValid (issue :: rest))
      | nil =>
        obtain ⟨entry, start, single, alsoSingle, member, paired⟩ | ⟨issue, several, alsoSeveral⟩ :=
          mirrors.singleEntry
        · simp only [single, alsoSingle]
          exact mirrors.compileFrom member paired
        · simp only [several, alsoSeveral]
          exact .rejected (.disconnected issue)
  · rw [List.isEmpty_eq_false_iff.mpr filled]
    exact .rejected (.empty graph.emptyIssues)

theorem compiles_alike [Limits] (wellFormed : graph.WellFormed)
    (injective : Set.InjOn rename {id | id ∈ graph.ids}) :
    (∀ other, graph.Recast rename other → Renames rename graph.compile other.compile) ∧
      ∀ moved, graph.Recast (fun id => id) moved → moved.compile = graph.compile := by
  constructor
  · intro other recast
    exact recast.compile (recast.mirrors wellFormed injective)
  · intro moved recast
    exact (recast.compile (recast.mirrors_of_injective fun _ _ same => same)).eq

section

attribute [local instance] Limits.usual

theorem circled_compiles_alike :
    circled.WellFormed ∧ Set.InjOn (Equiv.swap "left" "right") {id | id ∈ circled.ids} ∧
      (∃ compilation, circled.compile = .ok compilation ∧ compilation.fallback.isEmpty = false) ∧
      circled.Recast (Equiv.swap "left" "right") (circled.renamed (Equiv.swap "left" "right")) ∧
      (∀ other, circled.Recast (Equiv.swap "left" "right") other →
        Renames (Equiv.swap "left" "right") circled.compile other.compile) ∧
      ∀ moved, circled.Recast (fun id => id) moved → moved.compile = circled.compile := by
  have wellFormed : circled.WellFormed := ⟨by decide, by decide⟩
  have injective := (Equiv.swap "left" "right").injective.injOn (s := {id | id ∈ circled.ids})
  have compiled : circled.compile = .ok (circled.compileFrom (Node.bare "start" .start)) := by rfl
  exact ⟨wellFormed, injective, ⟨_, compiled, by decide⟩, recast_renamed _ _,
    compiles_alike wellFormed injective⟩

theorem buried_not_alike :
    ¬ ∀ (graph other : Graph) (rename : String → String), graph.WellFormed →
      Set.InjOn rename {id | id ∈ graph.ids} → graph.Recast rename other →
      (∃ compilation same, graph.compile = .ok compilation ∧ other.compile = .ok same ∧
        same.steps = compilation.steps) ∨
      ∃ rejection : Rejection, graph.compile = .error rejection.failure ∧
        other.compile = .error (rejection.renamed rename).failure := by
  intro alike
  have recast : buried.Recast (fun id => id) (buried.renamed fun id => id) := recast_renamed _ _
  obtain ⟨compilation, _, compiled, -⟩ | ⟨rejection, rejected, -⟩ :=
    alike buried _ _ ⟨by decide, by decide⟩ (fun _ _ _ _ same => same) recast
  · rw [compile_buried] at compiled
    cases compiled
  · rw [compile_buried] at rejected
    cases rejected

end

end Graph

end Outreach
