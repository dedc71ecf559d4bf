import Outreach.Proofs.Api.Refusals
import Outreach.Address.Basic
import Outreach.Api.Form
import Outreach.Proofs.Limits
import Outreach.Proofs.Session.Grounded

set_option autoImplicit false

namespace Outreach.Api

variable {editor after : Editor} {now : Nat} {status : Nat} {id : String}

section

variable [Limits] [Client]

-- What a request does to the editor: nothing, or one action that claims no campaign.
def Asks (editor : Editor) (now : Nat) (after : Editor) : Prop :=
  after = editor ∨ ∃ action : Action, action.Unclaimed ∧ after = editor.perform action now

theorem asks_self (editor : Editor) (now : Nat) : Asks editor now editor := .inl rfl

theorem asks_withForm {α : Type} {read : Except BodyFault α} {next : α → Handled}
    (asks : ∀ form, Asks editor now (next form).2) :
    Asks editor now (withForm read editor next).2 := by
  cases read with
  | ok form => exact asks form
  | error fault => exact asks_self editor now

theorem asks_openSession (form : Form.OpenSession) (editor : Editor) (now : Nat) :
    Asks editor now (openSession form editor now).2 := by
  have opens (name : String) : Asks editor now (openSession.openNew editor now name).2 :=
    .inr ⟨.openNew (some name) none, rfl, rfl⟩
  rw [openSession]
  split
  · split
    · exact opens form.name
    · exact .inr ⟨.load _, trivial, rfl⟩
  · exact opens form.name

end

theorem asks_atEndpoint [Limits] [Client] [Forms] (settings : Settings) (request : Request)
    (editor : Editor) (now : Nat) (endpoint : Endpoint) :
    Asks editor now (atEndpoint settings request editor now endpoint).2 := by
  have runs (id : String) (status : Nat) (request : Command) :
      Asks editor now (command status id request editor now).2 :=
    .inr ⟨.edit id request, trivial, rfl⟩
  cases endpoint with
  | openSession => exact asks_withForm fun form => asks_openSession form editor now
  | closeSession session => exact .inr ⟨.close session, trivial, rfl⟩
  | rename | addNode | updateConfig | updatePosition | connect | select =>
    exact asks_withForm fun form => runs ..
  | deleteNode | deleteEdge => exact runs ..
  | insertVariable session node =>
    exact asks_withForm fun form => .inr ⟨.insertVariable session node _ _, trivial, rfl⟩
  | save session => exact .inr ⟨.save session, trivial, rfl⟩
  | health | definitions | definition | templateVariables | conditionTypes | showSession
    | validity | compile => exact asks_self editor now

theorem asks_handle [Limits] [Client] [Forms] (settings : Settings) (request : Request)
    (editor : Editor) (now : Nat) : Asks editor now (handle settings request editor now).2 := by
  rw [handle]
  split
  · exact asks_atEndpoint settings request editor now _
  all_goals exact asks_self editor now

theorem grounded_of_asks [Limits] [Client] (grounded : editor.Grounded)
    (asks : Asks editor now after) : after.Grounded := by
  obtain rfl | ⟨action, unclaimed, rfl⟩ := asks
  · exact grounded
  · exact grounded.perform action unclaimed now

theorem grounded_run [Limits] [Client] [Forms] (grounded : editor.Grounded) (settings : Settings)
    (requests : List (Request × Nat)) : (run settings editor requests).Grounded := by
  induction requests generalizing editor with
  | nil => exact grounded
  | cons step rest ih =>
    exact ih (grounded_of_asks grounded (asks_handle settings step.1 editor step.2))

theorem status_of_rejection [Limits] {rejection : Rejection} {body : Value}
    (answered : Response.ofFailure rejection.failure = .answer status body) : status = 422 := by
  rw [Rejection.failure, Response.ofFailure, Response.detail, Response.detailOn] at answered
  split at answered
  · cases answered
  · cases answered
    rfl
  · simp

theorem status_of_save [Limits] [Client] [Forms] (grounded : editor.Grounded) {session : Session}
    (found : editor.session id = .ok session) {settings : Settings} {request : Request}
    (leads : Destination.find request.method request.path = .endpoint (.save id)) {body : Value}
    (answered : (handle settings request editor now).1 = .answer status body) :
    status = 200 ∨ status = 422 := by
  rw [handle, leads] at answered
  have answered : answer 200 ((editor.save id now).answer.map View.receipt) =
      .answer status body := answered
  cases saved : (editor.save id now).answer with
  | ok receipt =>
    simp only [saved, map_ok, answer, Response.result] at answered
    split at answered
    · cases answered
      exact .inl rfl
    · cases answered
  | error failure =>
    rw [saved, map_error, answer] at answered
    obtain ⟨rejection, rfl⟩ | ⟨defect, rfl⟩ := grounded.failure_of_save found saved
    · exact .inr (status_of_rejection answered)
    · cases answered

structure Saveable [Limits] [Client] [Forms] (settings : Settings) (editor : Editor) : Prop where
  stored : ∀ id session, editor.session id = .ok session → session.graph.campaign = none ∨
    ∃ campaign kept, session.graph.campaign = some campaign ∧
      editor.stored? campaign = some kept ∧ kept.id = campaign
  answered : ∀ request id session now, editor.session id = .ok session →
    Destination.find request.method request.path = .endpoint (.save id) → ∀ status body,
      (handle settings request editor now).1 = .answer status body → status = 200 ∨ status = 422

theorem saveable_run [Limits] [Client] [Forms] {settings : Settings} {service : Service}
    (reactions : List Reaction)
    (memory : settings.backend = .memory) (made : settings.service reactions = .ok service)
    (requests : List (Request × Nat)) :
    Saveable settings (run settings (.create service) requests) := by
  simp only [Settings.service, memory, Except.ok.injEq] at made
  subst made
  have grounded := grounded_run Editor.grounded_create settings requests
  refine ⟨fun id session found => ?_, fun request id session now found leads status body => ?_⟩
  · cases named : session.graph.campaign with
    | none => exact .inl rfl
    | some campaign =>
      obtain ⟨kept, stored⟩ := grounded.stored id session campaign found named
      obtain ⟨store, service, numbered⟩ := grounded.memory
      refine .inr ⟨campaign, kept, rfl, stored, ?_⟩
      rw [Editor.stored?, service] at stored
      exact (numbered campaign kept stored).1
  · exact status_of_save grounded found leads

section

attribute [local instance] Limits.usual Address.client Form.readers

theorem drafting_saveable :
    Settings.default.backend = .memory ∧ Settings.default.service [] = .ok (.memory .empty) ∧
      (run .default (.create (.memory .empty)) drafting).session "sess_000000000001" =
        .ok draftedSession ∧
      Destination.find saving.method saving.path = .endpoint (.save "sess_000000000001") ∧
      Saveable .default (run .default (.create (.memory .empty)) drafting) :=
  ⟨rfl, rfl, rfl, rfl, saveable_run [] rfl rfl drafting⟩

end

end Outreach.Api
