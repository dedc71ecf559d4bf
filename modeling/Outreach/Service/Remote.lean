import Outreach.Service.Call
import Outreach.Service.Client
import Outreach.Value.Reader
import Outreach.Value.Wire

set_option autoImplicit false

namespace Outreach

structure Route where
  method : String
  path : String
  deriving DecidableEq, Repr

def Route.text (route : Route) : String := route.method ++ " " ++ route.path

namespace Call

def route : Call → Route
  | .create _ => { method := "POST", path := "/campaigns" }
  | .update id _ => { method := "PATCH", path := "/campaigns/" ++ id }
  | .replaceSteps id _ => { method := "POST", path := "/campaigns/" ++ id ++ "/steps" }
  | .get id => { method := "GET", path := "/campaigns/" ++ id }

def body : Call → Value
  | .create payload => payload
  | .update _ updates => updates
  | .replaceSteps _ steps => .obj [("steps", steps)]
  | .get _ => .null

end Call

inductive ServiceFault where
  | status (code : Int) (route : Route)
  | timeout (limit : String) (route : Route)
  | unreachable (route : Route)
  | unreadable (route : Route)
  | malformedBody (route : Route)
  | refused (reason : String) (route : Route)
  | malformedCampaign
  | malformedSteps
  | missingId

namespace ServiceFault

def message : ServiceFault → String
  | .status code route => "Campaign service error " ++ toString code ++ " for " ++ route.text
  | .timeout limit route =>
    "Campaign service timeout after " ++ limit ++ "s: " ++ route.text
  | .unreachable route => "Campaign service unreachable: " ++ route.text
  | .unreadable route => "Campaign service returned non-JSON body: " ++ route.text
  | .malformedBody route => "Campaign service returned malformed body: " ++ route.text
  | .refused reason route => "Campaign service rejected " ++ route.text ++ ": " ++ reason
  | .malformedCampaign => "Campaign service returned malformed campaign"
  | .malformedSteps => "Campaign service returned malformed steps"
  | .missingId => "Campaign service response is missing campaign id"

def status? : ServiceFault → Option Int
  | .status code _ => some code
  | _ => none

def failure (fault : ServiceFault) : Failure := .service fault.message fault.status?

end ServiceFault

inductive Body where
  | value (value : Value)
  | text (text : String)

inductive Reaction where
  | timeout
  | unreachable
  | response (status : Int) (body : Body)

structure Exchange where
  method : String
  url : String
  headers : Fields
  body : Value
  timeout : Value

structure Remote where
  base : String
  token : Option String
  timeout : Value

namespace Remote

def create (base : String) (token : Option String) (timeout : Value) : Remote :=
  { base := Text.dropSlashes base, token, timeout }

def headers (remote : Remote) : Fields :=
  ("Accept", .str "application/json") ::
    match remote.token with
    | none | some "" => []
    | some token => [("Authorization", .str ("Bearer " ++ token))]

def exchange (remote : Remote) (call : Call) : Exchange :=
  { method := call.route.method, url := remote.base ++ call.route.path
    headers := remote.headers, body := call.body, timeout := remote.timeout }

def isSuccess (status : Int) : Bool := 200 ≤ status && status < 300

def isHeaderText (s : String) : Bool := s.toList.all fun c => c.toNat < 0x80

variable [Limits]

-- A request cannot be sent if its address is malformed, its token is no header text, its body
-- cannot be written, or its host is no name; this is seen in this order.
def target [Client] (remote : Remote) (call : Call) : Except Defect Site := do
  let site ← Client.locate (remote.base ++ call.route.path)
  if !(remote.token.all isHeaderText) then throw .unencodable
  if let some defect := call.body.unsendable? then throw defect
  site.host
  return site

def read (route : Route) : Body → Except Failure Value
  | .value value =>
    match value.unreadable? with
    | some defect => .error (.defect defect)
    | none => .ok value.received
  | .text text =>
    match Value.receive text with
    | .ok value => .ok value
    | .error .malformed => .error (ServiceFault.unreadable route).failure
    | .error .numeralTooLong => .error (.defect .numeralTooLong)
    | .error .tooDeep => .error (.defect .tooDeep)
    | .error .undecodable => .error (.defect .undecodable)

def reason (fields : Fields) : Value :=
  (fields.getD "error").orElse ((fields.getD "message").orElse (.str "request rejected"))

def refused (route : Route) (reason : Value) : Failure :=
  match reason.text with
  | .ok reason => (ServiceFault.refused reason route).failure
  | .error defect => .defect defect

def unwrap (route : Route) (body : Value) : Except Failure Value :=
  match body with
  | .obj fields =>
    match Fields.get? fields "data" with
    | none => .error (ServiceFault.malformedBody route).failure
    | some data =>
      match Fields.get? fields "success" with
      | some (.bool false) => .error (refused route (reason fields))
      | _ => .ok data
  | _ => .error (ServiceFault.malformedBody route).failure

def shape (call : Call) (data : Value) : Except ServiceFault Value :=
  match call, data with
  | .replaceSteps .., .list _ => .ok data
  | .replaceSteps .., _ => .error .malformedSteps
  | _, .obj _ => .ok data
  | _, _ => .error .malformedCampaign

def failed (call : Call) (status : Int) : Failure :=
  match call with
  | .get id =>
    if status = 404 then .notFound "Campaign" id
    else (ServiceFault.status status call.route).failure
  | _ => (ServiceFault.status status call.route).failure

def timedOut (remote : Remote) (route : Route) : Failure :=
  match remote.timeout.text with
  | .ok limit => (ServiceFault.timeout limit route).failure
  | .error defect => .defect defect

-- A response from an address that leads nowhere is not taken. The body is read before its shape
-- matters.
def answer (remote : Remote) (site : Site) (call : Call) : Reaction → Except Failure Value
  | .timeout => .error (remote.timedOut call.route)
  | .unreachable => .error (ServiceFault.unreachable call.route).failure
  | .response status body =>
    if !site.complete then .error (.defect .relativeAddress)
    else if isSuccess status then do
      let data ← unwrap call.route (← read call.route body)
      (shape call data).mapError ServiceFault.failure
    else .error (failed call status)

end Remote

structure Channel where
  remote : Remote
  reactions : List Reaction
  sent : List Exchange

namespace Channel

-- Sends a request. One that cannot be sent gets no reaction; where none is left, the service cannot
-- be reached.
def call [Limits] [Client] (channel : Channel) (call : Call) : Except Failure Value × Channel :=
  let sent := channel.sent ++ [channel.remote.exchange call]
  match channel.remote.target call, channel.reactions with
  | .error defect, _ => (.error (.defect defect), { channel with sent })
  | .ok site, [] => (channel.remote.answer site call .unreachable, { channel with sent })
  | .ok site, reaction :: rest =>
    (channel.remote.answer site call reaction, { channel with reactions := rest, sent })

end Channel

end Outreach
