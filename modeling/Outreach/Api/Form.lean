import Outreach.Api.Body
import Outreach.Number.Numeral
import Outreach.Value.Reader
import Outreach.Value.Wire

set_option autoImplicit false

namespace Outreach

def RawBody.read [Limits] (body : RawBody) : Except BodyFault Value :=
  let invalid (kind : FaultKind) : Except BodyFault Value :=
    .error (.invalid [{ kind, place := [.field "body"], given := .null }])
  match body with
  | .absent | .text "" => invalid .missing
  | .value parsed => if parsed.unreadable?.isSome then .error .unparsable else .ok parsed.received
  | .text sent =>
    match Value.receive sent with
    | .ok parsed => .ok parsed
    | .error .malformed => invalid .unreadable
    | .error .numeralTooLong | .error .tooDeep | .error .undecodable => .error .unparsable

namespace Form

def object : Value → Checked Fields
  | .obj fields => .ok fields
  | value => Checked.fault .notObject value

def dictionary : Value → Checked Fields
  | .obj fields => .ok fields
  | value => Checked.fault .notDictionary value

def stepType (value : Value) : Checked StepType :=
  match StepType.ofValue? value with
  | some type => .ok type
  | none => Checked.fault .unknownName value

def coordinate : Value → Checked Double
  | .double d => .ok d
  | .int n =>
    let d := Double.ofInt n
    if d.isFinite then .ok d else Checked.fault .notNumber (.int n)
  | .bool b => .ok (.ofInt (if b then 1 else 0))
  | .str s => do
    match Numeral.read? (← Checked.wholeText s) with
    | some d => .ok d
    | none => Checked.fault .unreadableNumber (.str s)
  | value => Checked.fault .notNumber value

def position (value : Value) : Checked Position :=
  (object value).bind fun fields =>
    let build : Checked _ := .ok Position.mk
    (build.ap (Checked.required coordinate fields "x")).ap
      (Checked.required coordinate fields "y")

def openSession (value : Value) : Checked OpenSession :=
  (object value).bind fun fields =>
    let build : Checked _ := .ok OpenSession.mk
    (build.ap (Checked.optional Checked.text "" fields "name")).ap
      (Checked.optional (Checked.nullable Checked.text) none fields "campaign_id")

def rename (value : Value) : Checked String :=
  (object value).bind fun fields => Checked.required Checked.text fields "name"

def addNode (value : Value) : Checked AddNode :=
  (object value).bind fun fields =>
    let build : Checked _ := .ok AddNode.mk
    (build.ap (Checked.required stepType fields "type")).ap
      (Checked.optional (Checked.nullable position) none fields "position")

def updateConfig (value : Value) : Checked Fields :=
  (object value).bind fun fields => Checked.required dictionary fields "config"

def insertVariable (value : Value) : Checked InsertVariable :=
  (object value).bind fun fields =>
    let build : Checked _ := .ok InsertVariable.mk
    (build.ap (Checked.required Checked.someText fields "field")).ap
      (Checked.required Checked.someText fields "variable")

def connect (value : Value) : Checked Connect :=
  (object value).bind fun fields =>
    let build : Checked _ := .ok Connect.mk
    (build.ap (Checked.required Checked.text fields "source")).ap
      (Checked.required Checked.text fields "target")

def select (value : Value) : Checked (Option String) :=
  (object value).bind fun fields =>
    Checked.optional (Checked.nullable Checked.text) none fields "node_id"

end Form

def RawBody.check [Limits] {α : Type} (body : RawBody) (read : Value → Checked α) :
    Except BodyFault α :=
  body.read.bind fun value =>
    (Checked.within (.field "body") (read value)).mapError BodyFault.invalid

namespace Form

@[reducible]
def readers [Limits] : Forms where
  openSession body := body.check openSession
  rename body := body.check rename
  addNode body := body.check addNode
  updateConfig body := body.check updateConfig
  position body := body.check position
  insertVariable body := body.check insertVariable
  connect body := body.check connect
  select body := body.check select

end Form

end Outreach
