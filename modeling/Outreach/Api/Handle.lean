import Outreach.Api.Body
import Outreach.Api.Response
import Outreach.Api.Route
import Outreach.Session.Editor
import Outreach.Settings.Startup

set_option autoImplicit false

namespace Outreach

structure Request where
  method : String
  path : String
  query : List (String × String)
  body : RawBody

namespace Api

variable [Limits] [Client] [Forms]

abbrev Handled := Response × Editor

def answer (status : Nat) : Except Failure Value → Response
  | .ok body => Response.result status body
  | .error failure => Response.ofFailure failure

def bodyFault : BodyFault → Response
  | .invalid faults =>
    Response.detailOn (faults.map Fault.given) 422 (.list (faults.map Fault.value))
  | .unparsable => Response.detail 400 (.str "There was an error parsing the body")

def showAfter {α : Type} (status : Nat) (session : String) (outcome : Editor.Outcome α) : Handled :=
  (answer status do
    let _ ← outcome.answer
    View.session (← outcome.editor.session session), outcome.editor)

def showOpened (outcome : Editor.Outcome Session) : Handled :=
  (answer 201 (outcome.answer.bind View.session), outcome.editor)

def category (request : Request) : Option String := request.query.lookup "category"

def unknownCategory (name : String) : Response :=
  Response.detail 400 (.str ("Unknown step category: " ++ name))

def definitions (request : Request) : Response :=
  match category request with
  | none => answer 200 (.ok (View.definitions Catalog.definitions))
  | some name =>
    match Category.ofName? name with
    | some category => answer 200 (.ok (View.definitions (Catalog.inCategory category)))
    | none => unknownCategory name

def templateVariables (request : Request) : Response :=
  match category request with
  | none =>
    answer 200 (.ok (View.templateVariables (Placeholder.table.filter (!·.2.isEmpty))))
  | some name =>
    match Category.ofName? name with
    | some category =>
      answer 200 (.ok (View.templateVariables [(category, Placeholder.names category)]))
    | none => unknownCategory name

def openSession (form : Form.OpenSession) (editor : Editor) (now : Nat) : Handled :=
  match form.campaign with
  | some campaign =>
    if campaign.isEmpty then openNew form.name else showOpened (editor.load campaign now)
  | none => openNew form.name
where
  openNew (name : String) : Handled :=
    let (session, editor) := editor.openNew (some name) none now
    showOpened { answer := .ok session, editor }

def command (status : Nat) (session : String) (command : Command) (editor : Editor) (now : Nat) :
    Handled :=
  showAfter status session (editor.edit session command now)

def withForm {α : Type} (read : Except BodyFault α) (editor : Editor) (next : α → Handled) :
    Handled :=
  match read with
  | .ok form => next form
  | .error fault => (bodyFault fault, editor)

def closeSession (session : String) (editor : Editor) : Handled :=
  let outcome := editor.close session
  (answer 204 (outcome.answer.map fun _ => .null), outcome.editor)

def atEndpoint (settings : Settings) (request : Request) (editor : Editor) (now : Nat) :
    Endpoint → Handled
  | .health => (answer 200 (.ok settings.health), editor)
  | .definitions => (definitions request, editor)
  | .definition type =>
    (answer 200 ((StepType.find (.str type)).map fun type =>
      View.definition (Catalog.definition type)), editor)
  | .templateVariables => (templateVariables request, editor)
  | .conditionTypes => (answer 200 (.ok View.conditionTypes), editor)
  | .openSession => withForm (Forms.openSession request.body) editor (openSession · editor now)
  | .showSession session => (answer 200 ((editor.session session).bind View.session), editor)
  | .closeSession session => closeSession session editor
  | .rename session =>
    withForm (Forms.rename request.body) editor fun name =>
      command 200 session (.rename (some name)) editor now
  | .addNode session =>
    withForm (Forms.addNode request.body) editor fun form =>
      command 201 session (.addNode (.str form.type.name) form.position) editor now
  | .updateConfig session node =>
    withForm (Forms.updateConfig request.body) editor fun config =>
      command 200 session (.updateConfig node (.obj config)) editor now
  | .updatePosition session node =>
    withForm (Forms.position request.body) editor fun position =>
      command 200 session (.updatePosition node position) editor now
  | .deleteNode session node => command 200 session (.deleteNode node) editor now
  | .insertVariable session node =>
    withForm (Forms.insertVariable request.body) editor fun form =>
      showAfter 200 session (editor.insertVariable session node form.field form.name now)
  | .connect session =>
    withForm (Forms.connect request.body) editor fun form =>
      command 201 session (.connect form.source form.target) editor now
  | .deleteEdge session edge => command 200 session (.deleteEdge edge) editor now
  | .select session =>
    withForm (Forms.select request.body) editor fun node =>
      command 200 session (.select node) editor now
  | .validity session =>
    (answer 200 ((editor.session session).bind fun s => s.graph.validities.map View.validities),
      editor)
  | .compile session =>
    (answer 200 ((editor.session session).bind fun s => s.graph.compile.map View.compilation),
      editor)
  | .save session =>
    let outcome := editor.save session now
    (answer 200 (outcome.answer.map View.receipt), outcome.editor)

def handle (settings : Settings) (request : Request) (editor : Editor) (now : Nat) : Handled :=
  match Destination.find request.method request.path with
  | .endpoint endpoint => atEndpoint settings request editor now endpoint
  | .redirect => (.answer 307 .null, editor)
  | .unknownPath => (Response.detail 404 (.str "Not Found"), editor)
  | .unknownMethod => (Response.detail 405 (.str "Method Not Allowed"), editor)

end Api

end Outreach
