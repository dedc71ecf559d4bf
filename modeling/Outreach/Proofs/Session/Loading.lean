import Outreach.Address.Basic
import Outreach.Proofs.Campaign.Refused
import Outreach.Proofs.Limits
import Outreach.Proofs.Service.Remote
import Outreach.Proofs.Session.Failed

set_option autoImplicit false

namespace Outreach

def Fields.stepsValue (campaign : Fields) : Value := (campaign.getD "steps").orElse (.list [])

def Fields.nameText [Limits] (campaign : Fields) : Except Defect String :=
  ((campaign.getD "name").orElse (.str "")).text

namespace Editor

section

variable [Limits] {editor others : Editor} {campaign name : String} {fields : Fields}
  {steps : List Value} {failure : Failure} {defect : Defect} {now : Nat}

inductive LoadFails (fields : Fields) : Failure → Prop
  | unlisted (other : ∀ steps, fields.stepsValue ≠ .list steps) :
    LoadFails fields ServiceFault.malformedSteps.failure
  | unnamed {steps : List Value} {defect : Defect} (listed : fields.stepsValue = .list steps)
    (illegible : fields.nameText = .error defect) : LoadFails fields (.defect defect)
  | refused {steps : List Value} {name : String} {failure : Failure}
    (listed : fields.stepsValue = .list steps) (named : fields.nameText = .ok name)
    (refuses : Graph.Refuses steps failure) : LoadFails fields failure

structure Opens (editor : Editor) (campaign : String) (fields : Fields)
    (outcome : Outcome Session) (opened : Session) : Prop where
  answer : outcome.answer = .ok opened
  sessions : outcome.editor.sessions = editor.sessions ++ [opened]
  fresh : editor.Orderly → opened.id ∉ editor.ids
  unsaved : opened.saved = none
  campaign : opened.graph.campaign = some campaign
  rebuilt : ∃ name steps placed, fields.nameText = .ok name ∧
    fields.stepsValue = .list (steps.map .obj) ∧
    Placed.sort (Placed.arrived steps) = .ok placed ∧ placed.Perm (Placed.arrived steps) ∧
    opened.graph.Rebuilt outcome.editor.supply (some name) placed

structure Loading (editor : Editor) (campaign : String) (fields : Fields)
    (outcome : Outcome Session) : Prop where
  ends : (∃ opened, editor.Opens campaign fields outcome opened) ∨
    ∃ failure, outcome.answer = .error failure ∧ outcome.editor.sessions = editor.sessions
  failed : ∀ failure, outcome.answer = .error failure ↔ LoadFails fields failure
  blamed : ∀ failure, outcome.answer = .error failure →
    failure = ServiceFault.malformedSteps.failure ∨
      (∃ name, failure = .notFound Vocabulary.stepType.name name) ∨
      ∃ steps defect, fields.stepsValue = .list steps ∧ failure = .defect defect ∧
        (fields.nameText = .error defect ∨ Graph.Malformed steps defect)

theorem stored_of_list (listed : fields.stepsValue = .list steps) :
    stored (.obj fields) =
      (fields.nameText.mapError Failure.defect).map fun name => (name, steps) := by
  rw [Fields.stepsValue] at listed
  simp only [stored, listed, Fields.nameText]
  cases ((fields.getD "name").orElse (.str "")).text <;> rfl

theorem stored_of_other (other : ∀ steps, fields.stepsValue ≠ .list steps) :
    stored (.obj fields) = .error ServiceFault.malformedSteps.failure := by
  simp only [stored]
  split
  · rename_i steps listed
    exact absurd listed (other steps)
  · rfl

theorem openSteps_eq_error_iff (editor : Editor) (name known : Option String) (now : Nat) :
    (editor.openSteps name known steps now).answer = .error failure ↔
      Graph.Refuses steps failure := by
  rw [← Graph.ofSteps_eq_error_iff name known now editor.supply, openSteps]
  generalize Graph.ofSteps name known steps now editor.supply = result
  obtain ⟨answer, supply⟩ := result
  cases answer <;> simp

theorem opens_openSteps {graph : Graph} {supply : Supply}
    (listed : fields.stepsValue = .list steps) (named : fields.nameText = .ok name)
    (sessions : others.sessions = editor.sessions)
    (grows : editor.supply.Grows others.supply)
    (made : Graph.ofSteps (some name) (some campaign) steps now others.supply =
      (.ok graph, supply)) :
    ∃ opened, editor.Opens campaign fields
      (others.openSteps (some name) (some campaign) steps now) opened := by
  have later : others.supply.Grows supply := by
    have grown := Graph.ofSteps_grows (some name) (some campaign) steps now others.supply
    rwa [made] at grown
  obtain ⟨placed, ordered, rebuilt⟩ := Graph.rebuilt_of_ofSteps made
  obtain ⟨objects, rfl⟩ | ⟨value, inside, other⟩ := Placed.objects_or_other steps
  · rw [Placed.placeSteps_eq] at ordered
    have perm := Placed.perm_of_sort ordered
    have opens : others.openSteps (some name) (some campaign) (objects.map .obj) now =
        { answer := .ok ({ others with supply }.openGraph graph now).1
          editor := ({ others with supply }.openGraph graph now).2 } := by
      simp only [openSteps, made]
    rw [opens]
    refine ⟨_, rfl, ?_, ?_, rfl, (Graph.ofSteps_kept made).1, name, objects, placed, named,
      listed, ordered, perm, ?_⟩
    · rw [← sessions]
      rfl
    · exact fun orderly => orderly.fresh (Nat.lt_succ_of_le (grows.trans later).sessions)
    · have numbered := rebuilt.numbered.later (Supply.Grows.session supply).toPasses
      exact { rebuilt with numbered }
  · cases (Placed.placeSteps_of_other inside other).symm.trans ordered

theorem loadFails_iff (listed : fields.stepsValue = .list steps)
    (named : fields.nameText = .ok name) :
    LoadFails fields failure ↔ Graph.Refuses steps failure := by
  constructor
  · intro fails
    cases fails with
    | unlisted other => exact absurd listed (other steps)
    | unnamed _ illegible => cases named.symm.trans illegible
    | refused alsoListed _ refuses =>
      cases listed.symm.trans alsoListed
      exact refuses
  · exact .refused listed named

theorem LoadFails.cases (fails : LoadFails fields failure) :
    failure = ServiceFault.malformedSteps.failure ∨
      (∃ name, failure = .notFound Vocabulary.stepType.name name) ∨
      ∃ steps defect, fields.stepsValue = .list steps ∧ failure = .defect defect ∧
        (fields.nameText = .error defect ∨ Graph.Malformed steps defect) := by
  cases fails with
  | unlisted => exact .inl rfl
  | unnamed listed illegible => exact .inr (.inr ⟨_, _, listed, rfl, .inl illegible⟩)
  | refused listed _ refuses =>
    obtain unknown | ⟨defect, same, malformed⟩ := refuses.cases
    · exact .inr (.inl unknown)
    · exact .inr (.inr ⟨_, defect, listed, same, .inr malformed⟩)

variable [Client]

theorem loading_named (answered : (editor.call (.get campaign) now).answer = .ok (.obj fields))
    (listed : fields.stepsValue = .list steps) (named : fields.nameText = .ok name) :
    editor.Loading campaign fields (editor.load campaign now) := by
  let called := (editor.call (.get campaign) now).editor
  have given : stored (.obj fields) = .ok (name, steps) := by rw [stored_of_list listed, named]; rfl
  have opens : editor.load campaign now =
      called.openSteps (some name) (some campaign) steps now :=
    load_of_ok (by rw [answered]; exact given)
  have failed : ∀ failure, (editor.load campaign now).answer = .error failure ↔
      LoadFails fields failure := by
    intro failure
    rw [opens, openSteps_eq_error_iff, loadFails_iff listed named]
  refine ⟨?_, failed, fun failure fails => ((failed failure).mp fails).cases⟩
  cases made : Graph.ofSteps (some name) (some campaign) steps now called.supply with
  | mk answer supply =>
    cases answer with
    | error failure =>
      have refuses := (Graph.ofSteps_eq_error_iff ..).mp (congrArg Prod.fst made)
      have fails := (called.openSteps_eq_error_iff (some name) (some campaign) now).mpr refuses
      rw [opens]
      exact .inr ⟨failure, fails, sessions_of_openSteps_error fails⟩
    | ok graph =>
      rw [opens]
      exact .inl (opens_openSteps listed named rfl (editor.call_grows _ now) made)

theorem loading_of_error (answered : (editor.call (.get campaign) now).answer = .ok (.obj fields))
    (refused : stored (.obj fields) = .error failure)
    (fails : ∀ other, LoadFails fields other ↔ other = failure) :
    editor.Loading campaign fields (editor.load campaign now) := by
  have load : editor.load campaign now =
      { answer := .error failure, editor := (editor.call (.get campaign) now).editor } :=
    load_of_error (by rw [answered]; exact refused)
  have failed : ∀ other, (editor.load campaign now).answer = .error other ↔
      LoadFails fields other := by
    intro other
    rw [load, fails, Except.error.injEq, eq_comm]
  refine ⟨.inr ⟨failure, by rw [load], ?_⟩, failed,
    fun other same => ((failed other).mp same).cases⟩
  rw [load]
  rfl

theorem loading (answered : (editor.call (.get campaign) now).answer = .ok (.obj fields)) :
    editor.Loading campaign fields (editor.load campaign now) := by
  by_cases listed : ∃ steps, fields.stepsValue = .list steps
  · obtain ⟨steps, listed⟩ := listed
    cases named : fields.nameText with
    | ok name => exact loading_named answered listed named
    | error defect =>
      have refused : stored (.obj fields) = .error (.defect defect) := by
        rw [stored_of_list listed, named]
        rfl
      refine loading_of_error answered refused fun other => ⟨fun fails => ?_, ?_⟩
      · cases fails with
        | unlisted unlisted => exact absurd listed (unlisted steps)
        | unnamed _ illegible =>
          cases named.symm.trans illegible
          rfl
        | refused _ legible => cases named.symm.trans legible
      · rintro rfl
        exact .unnamed listed named
  · have unlisted : ∀ steps, fields.stepsValue ≠ .list steps := not_exists.mp listed
    refine loading_of_error answered (stored_of_other unlisted) fun other => ⟨fun fails => ?_, ?_⟩
    · cases fails with
      | unlisted => rfl
      | unnamed listed | refused listed => exact absurd listed (unlisted _)
    · rintro rfl
      exact .unlisted unlisted

end

section

attribute [local instance] Limits.usual Address.client

def answering (campaign : Fields) : Channel where
  remote := Remote.create "http://localhost:3001/api" none (.int 10)
  reactions := [.response 200 (.value (.obj [("success", .bool true), ("data", .obj campaign)]))]
  sent := []

def swappedSteps : List Value :=
  [.obj [("type", .str "linkedin_follow"), ("order", .int 2), ("title", .str "Follow up")],
   .obj [("type", .str "linkedin_visit"), ("order", .int 1)]]

def swapped : Fields := [("name", .str "Swapped"), ("steps", .list swappedSteps)]

theorem loading_swapped :
    ((create (.remote (answering swapped))).call (.get "c1") 1).answer = .ok (.obj swapped) ∧
      (create (.remote (answering swapped))).Loading "c1" swapped
        ((create (.remote (answering swapped))).load "c1" 1) ∧
      ∃ opened, (create (.remote (answering swapped))).Opens "c1" swapped
        ((create (.remote (answering swapped))).load "c1" 1) opened := by
  let editor := create (.remote (answering swapped))
  have answered : (editor.call (.get "c1") 1).answer = .ok (.obj swapped) := rfl
  have listed : swapped.stepsValue = .list swappedSteps := rfl
  have named : swapped.nameText = .ok "Swapped" := rfl
  have supply : (editor.call (.get "c1") 1).editor.supply = Supply.initial := by
    simp [editor, create, Editor.call, Service.call]
  obtain ⟨graph, next, made⟩ : ∃ graph next, Graph.ofSteps (some "Swapped") (some "c1")
      swappedSteps 1 Supply.initial = (.ok graph, next) := ⟨_, _, rfl⟩
  rw [← supply] at made
  have opens : editor.load "c1" 1 = (editor.call (.get "c1") 1).editor.openSteps
      (some "Swapped") (some "c1") swappedSteps 1 :=
    load_of_ok (by rw [answered]; rfl)
  refine ⟨answered, loading answered, ?_⟩
  rw [show (create (.remote (answering swapped))).load "c1" 1 = _ from opens]
  exact opens_openSteps listed named rfl (editor.call_grows (.get "c1") 1) made

def numeral : Fields := [("name", .str "X"), ("steps", .list [.int 1])]

theorem numeral_not_loaded :
    ((create (.remote (answering numeral))).call (.get "c1") 1).answer = .ok (.obj numeral) ∧
      ((create (.remote (answering numeral))).load "c1" 1).answer =
        .error (.defect .notObject) := by
  have answered : ((create (.remote (answering numeral))).call (.get "c1") 1).answer =
      .ok (.obj numeral) := rfl
  have reason : LoadFails numeral (.defect .notObject) :=
    .refused rfl (rfl : numeral.nameText = .ok "X")
      (.notObject (List.mem_singleton_self _) (by simp))
  exact ⟨answered, ((loading_named answered rfl rfl).failed _).mpr reason⟩

end

end Editor

end Outreach
