import Outreach.Campaign.Rebuild
import Outreach.Graph.Edit
import Outreach.Service.Basic
import Outreach.Session.Save

set_option autoImplicit false

namespace Outreach

structure Editor where
  sessions : List Session
  service : Service
  supply : Supply

namespace Editor

variable [Limits] [Client]

def create (service : Service) : Editor := { sessions := [], service, supply := Supply.initial }

structure Outcome (α : Type) where
  answer : Except Failure α
  editor : Editor

def unknownSession (id : String) : Failure := .notFound "EditorSession" id

def session (editor : Editor) (id : String) : Except Failure Session :=
  match editor.sessions.find? (·.id == id) with
  | some session => .ok session
  | none => .error (unknownSession id)

def replace (session : Session) (sessions : List Session) : List Session :=
  sessions.map fun other => if other.id = session.id then session else other

def put (editor : Editor) (session : Session) : Editor :=
  { editor with sessions := replace session editor.sessions }

def openGraph (editor : Editor) (graph : Graph) (now : Nat) : Session × Editor :=
  let (id, supply) := editor.supply.session
  let session : Session := { id, graph, opened := now, saved := none }
  (session, { editor with sessions := editor.sessions ++ [session], supply })

def openNew (editor : Editor) (name campaign : Option String) (now : Nat) : Session × Editor :=
  let (graph, supply) := Graph.create name campaign now editor.supply
  { editor with supply }.openGraph graph now

def openSteps (editor : Editor) (name campaign : Option String) (steps : List Value) (now : Nat) :
    Outcome Session :=
  match Graph.ofSteps name campaign steps now editor.supply with
  | (.error failure, supply) => { answer := .error failure, editor := { editor with supply } }
  | (.ok graph, supply) =>
    let (session, editor) := { editor with supply }.openGraph graph now
    { answer := .ok session, editor }

def close (editor : Editor) (id : String) : Outcome Unit :=
  { answer := (editor.session id).map fun _ => ()
    editor := { editor with sessions := editor.sessions.filter (·.id != id) } }

def count (editor : Editor) : Nat := editor.sessions.length

def call (editor : Editor) (call : Call) (now : Nat) : Outcome Value :=
  let outcome := editor.service.call call now editor.supply
  { answer := outcome.answer
    editor := { editor with service := outcome.service, supply := outcome.supply } }

def stored (campaign : Value) : Except Failure (String × List Value) :=
  match campaign with
  | .obj fields =>
    match (Fields.getD fields "steps").orElse (.list []) with
    | .list steps =>
      match ((Fields.getD fields "name").orElse (.str "")).text with
      | .ok name => .ok (name, steps)
      | .error defect => .error (.defect defect)
    | _ => .error ServiceFault.malformedSteps.failure
  | _ => .error (.defect .notObject)

def load (editor : Editor) (campaign : String) (now : Nat) : Outcome Session :=
  let outcome := editor.call (.get campaign) now
  match outcome.answer.bind stored with
  | .error failure => { answer := .error failure, editor := outcome.editor }
  | .ok (name, steps) => outcome.editor.openSteps (some name) (some campaign) steps now

def edit (editor : Editor) (id : String) (command : Command) (now : Nat) : Outcome Reply :=
  match editor.session id with
  | .error failure => { answer := .error failure, editor }
  | .ok session =>
    let outcome := session.graph.run command now editor.supply
    { answer := outcome.answer
      editor := { editor with supply := outcome.supply }.put
        { session with graph := outcome.graph } }

def insertVariable (editor : Editor) (id node field variableName : String) (now : Nat) :
    Outcome Node :=
  match editor.session id with
  | .error failure => { answer := .error failure, editor }
  | .ok session =>
    let outcome := Graph.settle session.graph editor.supply
      (session.graph.insertVariable node field variableName now)
    { answer := outcome.answer, editor := editor.put { session with graph := outcome.graph } }

def finish (editor : Editor) (session : Session) (save : Save) (now : Nat) : Outcome Receipt :=
  let outcome := editor.call save.call now
  match _h : save.receive session outcome.answer with
  | (session, .over result) => { answer := result, editor := outcome.editor.put session }
  | (session, .waiting next) => (outcome.editor.put session).finish session next now
  termination_by save.stage.left
  decreasing_by exact Save.left_of_receive _h

def save (editor : Editor) (id : String) (now : Nat) : Outcome Receipt :=
  match editor.session id with
  | .error failure => { answer := .error failure, editor }
  | .ok session =>
    match Save.begin session.graph with
    | .over result => { answer := result, editor }
    | .waiting save => editor.finish session save now

end Editor

end Outreach
