import Outreach.Api.Handle
import Outreach.Address.Basic
import Outreach.Api.Form
import Outreach.Proofs.Limits
import Outreach.Proofs.Session.Failed
import Outreach.Proofs.Session.Sent
import Outreach.Proofs.Step.Validity

set_option autoImplicit false

namespace Outreach

def Response.Refuses : Response → Prop
  | .answer status _ => 400 ≤ status ∧ status < 500 ∨ status = 502
  | .crash _ => False

theorem Node.exists_defect_of_view {node : Node} {failure : Failure}
    (failed : View.node node = .error failure) : ∃ defect, failure = .defect defect := by
  rw [View.node, map_eq_error, Node.validity] at failed
  exact ⟨_, (Validity.of_eq_error_iff.mp failed).2⟩

theorem Session.exists_defect_of_view {session : Session} {failure : Failure}
    (failed : View.session session = .error failure) : ∃ defect, failure = .defect defect := by
  rw [View.session, map_eq_error] at failed
  obtain ⟨node, -, failed⟩ := exists_error_of_mapM failed
  exact Node.exists_defect_of_view failed

namespace Api

variable {editor : Editor} {status : Nat} {now : Nat} {id : String}

theorem not_refuses_crash (cause : Defect) : ¬ (Response.crash cause).Refuses := id

theorem not_refuses_result [Limits] (fine : status < 400) (body : Value) :
    ¬ (Response.result status body).Refuses := by
  simp only [Response.result]
  split
  · rw [Response.Refuses]
    omega
  · exact not_refuses_crash _

-- Only a failure that is no defect is reported as a refusal.
theorem exists_error_of_refuses [Limits] {result : Except Failure Value} (fine : status < 400)
    (refuses : (answer status result).Refuses) :
    ∃ failure, result = .error failure ∧ ∀ defect, failure ≠ .defect defect := by
  cases result with
  | ok body => exact absurd refuses (not_refuses_result fine body)
  | error failure =>
    refine ⟨failure, rfl, ?_⟩
    rintro defect rfl
    exact not_refuses_crash defect refuses

structure Keeps (editor : Editor) (handled : Handled) : Prop where
  orderly : handled.2.Orderly
  unchanged : handled.1.Refuses → handled.2.sessions = editor.sessions

theorem keeps_self (orderly : editor.Orderly) (response : Response) :
    Keeps editor (response, editor) := ⟨orderly, fun _ => rfl⟩

theorem keeps_answer [Limits] {after : Editor} {result : Except Failure Value}
    (orderly : after.Orderly) (fine : status < 400)
    (failed : ∀ failure, result = .error failure → (∀ defect, failure ≠ .defect defect) →
      after.sessions = editor.sessions) : Keeps editor (answer status result, after) where
  orderly := orderly
  unchanged refuses := by
    obtain ⟨failure, same, noDefect⟩ := exists_error_of_refuses fine refuses
    exact failed failure same noDefect

theorem keeps_showAfter [Limits] {α : Type} {outcome : Editor.Outcome α} (fine : status < 400)
    (orderly : outcome.editor.Orderly)
    (failed : ∀ failure, outcome.answer = .error failure →
      outcome.editor.sessions = editor.sessions)
    (present : ∀ done, outcome.answer = .ok done →
      ∃ session, outcome.editor.session id = .ok session) :
    Keeps editor (showAfter status id outcome) := by
  refine keeps_answer orderly fine fun failure same noDefect => ?_
  obtain refused | ⟨done, given, unseen⟩ := bind_eq_error.mp same
  · exact failed failure refused
  · -- What was done can be looked at, so it is only the view that can fail.
    obtain ⟨session, found⟩ := present done given
    obtain missing | ⟨seen, sessionFound, unshown⟩ := bind_eq_error.mp unseen
    · cases missing.symm.trans found
    · obtain ⟨defect, rfl⟩ := Session.exists_defect_of_view unshown
      exact absurd rfl (noDefect defect)

theorem keeps_showOpened [Limits] {outcome : Editor.Outcome Session}
    (orderly : outcome.editor.Orderly) (failed : ∀ failure, outcome.answer = .error failure →
      outcome.editor.sessions = editor.sessions) :
    Keeps editor (showOpened outcome) := by
  refine keeps_answer orderly (by decide) fun failure same noDefect => ?_
  obtain refused | ⟨opened, -, unshown⟩ := bind_eq_error.mp same
  · exact failed failure refused
  · obtain ⟨defect, rfl⟩ := Session.exists_defect_of_view unshown
    exact absurd rfl (noDefect defect)

theorem keeps_command [Limits] [Client] (orderly : editor.Orderly) (fine : status < 400)
    (id : String)
    (request : Command) (now : Nat) : Keeps editor (command status id request editor now) :=
  keeps_showAfter fine (orderly.perform (.edit id request) now)
    (fun _ failed => orderly.sessions_of_edit_error failed)
    fun _ done => Editor.exists_session_of_edit done

theorem keeps_withForm [Limits] {α : Type} {read : Except BodyFault α} {next : α → Handled}
    (orderly : editor.Orderly) (keeps : ∀ form, Keeps editor (next form)) :
    Keeps editor (withForm read editor next) := by
  cases read with
  | ok form => exact keeps form
  | error fault => exact keeps_self orderly _

theorem keeps_openSession [Limits] [Client] (orderly : editor.Orderly) (form : Form.OpenSession)
    (now : Nat) : Keeps editor (openSession form editor now) := by
  have opens (name : String) : Keeps editor (openSession.openNew editor now name) :=
    keeps_showOpened (orderly.perform (.openNew (some name) none) now) fun _ failed => by
      cases failed
  rw [openSession]
  split
  · split
    · exact opens form.name
    · exact keeps_showOpened (orderly.perform (.load _) now) fun _ failed =>
        Editor.sessions_of_load_error failed
  · exact opens form.name

section

variable [Limits] [Client] [Forms]

theorem keeps_atEndpoint (orderly : editor.Orderly) (settings : Settings) (request : Request)
    (now : Nat) (endpoint : Endpoint) :
    Keeps editor (atEndpoint settings request editor now endpoint) := by
  cases endpoint with
  | openSession => exact keeps_withForm orderly fun form => keeps_openSession orderly form now
  | closeSession session =>
    refine keeps_answer (orderly.perform (.close session) now) (by decide) fun failure same _ => ?_
    exact Editor.sessions_of_close_error (map_eq_error.mp same)
  | rename session =>
    exact keeps_withForm orderly fun name => keeps_command orderly (by decide) ..
  | addNode session =>
    exact keeps_withForm orderly fun form => keeps_command orderly (by decide) ..
  | updateConfig session node =>
    exact keeps_withForm orderly fun config => keeps_command orderly (by decide) ..
  | updatePosition session node =>
    exact keeps_withForm orderly fun position => keeps_command orderly (by decide) ..
  | deleteNode session node => exact keeps_command orderly (by decide) ..
  | insertVariable session node =>
    exact keeps_withForm orderly fun form =>
      keeps_showAfter (by decide) (orderly.perform (.insertVariable session node _ _) now)
        (fun _ failed => orderly.sessions_of_insertVariable_error failed)
        fun _ done => Editor.exists_session_of_insertVariable done
  | connect session =>
    exact keeps_withForm orderly fun form => keeps_command orderly (by decide) ..
  | deleteEdge session edge => exact keeps_command orderly (by decide) ..
  | select session =>
    exact keeps_withForm orderly fun node => keeps_command orderly (by decide) ..
  | save session =>
    refine keeps_answer (orderly.perform (.save session) now) (by decide) fun failure same _ => ?_
    exact orderly.sessions_of_save_error (map_eq_error.mp same)
  | health | definitions | definition | templateVariables | conditionTypes | showSession
    | validity | compile => exact keeps_self orderly _

theorem keeps_handle (orderly : editor.Orderly) (settings : Settings) (request : Request)
    (now : Nat) : Keeps editor (handle settings request editor now) := by
  rw [handle]
  split
  · exact keeps_atEndpoint orderly settings request now _
  · exact keeps_self orderly _
  · exact keeps_self orderly _
  · exact keeps_self orderly _

def run (settings : Settings) (editor : Editor) (requests : List (Request × Nat)) : Editor :=
  requests.foldl (fun editor step => (handle settings step.1 editor step.2).2) editor

theorem orderly_run (orderly : editor.Orderly) (settings : Settings)
    (requests : List (Request × Nat)) : (run settings editor requests).Orderly := by
  induction requests generalizing editor with
  | nil => exact orderly
  | cons step rest ih => exact ih (keeps_handle orderly settings step.1 step.2).orderly

theorem unchanged_of_refuses (service : Service) (settings : Settings)
    (requests : List (Request × Nat)) (request : Request) (now : Nat)
    (refuses : (handle settings request
      (run settings (.create service) requests) now).1.Refuses) :
    (handle settings request (run settings (.create service) requests) now).2.sessions =
      (run settings (.create service) requests).sessions :=
  (keeps_handle (orderly_run (Editor.orderly_create service) settings requests) settings request
    now).unchanged refuses

end

def drafting : List (Request × Nat) :=
  [({ method := "POST", path := "/api/editor/sessions", query := []
      body := .value (.obj [("name", .str "Plan")]) }, 1),
   ({ method := "POST", path := "/api/editor/sessions/sess_000000000001/nodes", query := []
      body := .value (.obj [("type", .str "linkedin_visit")]) }, 2)]

def saving : Request :=
  { method := "POST", path := "/api/editor/sessions/sess_000000000001/save", query := []
    body := .absent }

def draftedVisit : Node :=
  { id := "node_00000001", type := .linkedinVisit, position := .origin
    config := (Catalog.definition .linkedinVisit).defaults }

def draftedSession : Session :=
  { id := "sess_000000000001"
    graph := { id := "wf_00000001", name := "Plan", nodes := [draftedVisit], edges := []
               selected := none, campaign := none, created := 1, updated := 2 }
    opened := 1, saved := none }

section

attribute [local instance] Limits.usual Address.client Form.readers

def drafted : Editor :=
  run .default (.create (.remote (Editor.faraway [.timeout]))) drafting

theorem drafted_session : drafted.session "sess_000000000001" = .ok draftedSession := rfl

theorem drafted_service : drafted.service = .remote (Editor.faraway [.timeout]) := rfl

theorem drafted_refuses : (handle .default saving drafted 3).1.Refuses := by
  have compiled : draftedSession.graph.compile =
      .ok (draftedSession.graph.compileFrom draftedVisit) := rfl
  obtain ⟨address, reached, -⟩ : ∃ address,
      (Editor.faraway [.timeout]).remote.target (draftedSession.graph.createCall
        (draftedSession.graph.compileFrom draftedVisit)) = .ok address ∧ _ :=
    Remote.exists_target ⟨_, rfl, rfl, rfl, rfl⟩ (by decide)
  have failed : (drafted.save "sess_000000000001" 3).answer =
      .error (ServiceFault.timeout "10"
        { method := "POST", path := "/campaigns" }).failure := by
    rw [Editor.save_answer_of_fresh drafted_session compiled rfl,
      (Editor.call_remote drafted_service _ 3).1, Channel.call, reached]
    rfl
  have answered : (handle .default saving drafted 3).1 =
      answer 200 ((drafted.save "sess_000000000001" 3).answer.map View.receipt) := rfl
  rw [answered, failed]
  exact .inr rfl

theorem drafting_refused :
    drafted.sessions = [draftedSession] ∧
      (handle .default saving drafted 3).1.Refuses ∧
      (handle .default saving drafted 3).2.sessions = drafted.sessions := by
  have refuses := drafted_refuses
  refine ⟨rfl, refuses, ?_⟩
  rw [drafted] at refuses ⊢
  have spared := unchanged_of_refuses (.remote (Editor.faraway [.timeout])) .default drafting
    saving 3
  exact spared refuses

end

end Api

end Outreach
