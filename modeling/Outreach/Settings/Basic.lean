import Outreach.Fault
import Outreach.Number.Numeral
import Outreach.Service.Basic

set_option autoImplicit false

namespace Outreach

inductive Environment where
  | development
  | production
  | test
  deriving DecidableEq, Repr

namespace Environment

def all : List Environment := [.development, .production, .test]

def name : Environment → String
  | .development => "development"
  | .production => "production"
  | .test => "test"

end Environment

inductive Backend where
  | http
  | memory
  deriving DecidableEq, Repr

namespace Backend

def all : List Backend := [.http, .memory]

def name : Backend → String
  | .http => "http"
  | .memory => "memory"

end Backend

structure Settings where
  appName : String
  appVersion : String
  environment : Environment
  debug : Bool
  logLevel : String
  host : String
  portNumber : Int
  reload : Bool
  origins : List String
  backend : Backend
  serviceUrl : String
  serviceToken : String
  requestTimeout : Int
  deriving DecidableEq, Repr

namespace Settings

def default : Settings :=
  { appName := "Campaign Builder", appVersion := "0.1.0", environment := .development
    debug := false, logLevel := "INFO", host := "0.0.0.0", portNumber := 8000, reload := false
    origins := ["http://localhost:3000", "http://localhost:5173", "http://127.0.0.1:3000",
      "http://127.0.0.1:5173"]
    backend := .memory, serviceUrl := "http://localhost:3001/api", serviceToken := ""
    requestTimeout := 30 }

def trueWords : List String := ["1", "on", "t", "true", "y", "yes"]

def falseWords : List String := ["0", "off", "f", "false", "n", "no"]

def isWord (n : Int) : Bool := Int64.minValue.toInt ≤ n && n ≤ Int64.maxValue.toInt

def truthOfInt (given : Value) (n : Int) : Checked Bool :=
  if n = 0 then .ok false
  else if n = 1 then .ok true
  else Checked.fault (if isWord n then .unreadableTruth else .notTruth) given

def wholeOfDouble (d : Double) : Checked Int :=
  match d.truncate? with
  | none => Checked.fault .unboundedWhole (.double d)
  | some n =>
    if !d.extent.equal (.ofInt n) then Checked.fault .fractionalWhole (.double d)
    else if isWord n && isWord (-n) then .ok n
    else Checked.fault .wholeTooLong (.double d)

def truth : Value → Checked Bool
  | .bool b => .ok b
  | .str s => do
    let word := (← Checked.wholeText s).map Char.toLower
    if trueWords.contains word then return true
    else if falseWords.contains word then return false
    else Checked.fault .unreadableTruth (.str s)
  | .int n => truthOfInt (.int n) n
  | .double d =>
    match wholeOfDouble d with
    | .ok n => truthOfInt (.double d) n
    | .error _ => Checked.fault .notTruth (.double d)
  | value => Checked.fault .notTruth value

def whole : Value → Checked Int
  | .int n => .ok n
  | .bool b => .ok (if b then 1 else 0)
  | .double d => wholeOfDouble d
  | .str s => do
    match Numeral.whole (← Checked.wholeText s) with
    | .ok n => return n
    | .error .malformed => Checked.fault .unreadableWhole (.str s)
    | .error .tooLong => Checked.fault .wholeTooLong (.str s)
  | value => Checked.fault .notWhole value

def literal {α : Type} (name : α → String) (all : List α) : Value → Checked α
  | .str s => do
    match all.find? (name · == (← Checked.wholeText s)) with
    | some a => return a
    | none => Checked.fault .unknownLiteral (.str s)
  | value => Checked.fault .unknownLiteral value

def texts : Value → Checked (List String)
  | .list items =>
    Checked.all (items.zipIdx.map fun (item, index) =>
      Checked.within (.item index) (Checked.text item))
  | value => Checked.fault .notList value

-- Names of settings are in lower case; the kelvin sign is a capital letter too.
def plainName (name : String) : String :=
  name.map fun c => if c = '\u212A' then 'k' else c.toLower

def plainFields (fields : Fields) : Fields :=
  Fields.merge [] <| fields.map fun
    | (.text name, value) => (.text (plainName name), value)
    | field => field

def read (given : Fields) : Checked Settings :=
  let fields := plainFields given
  let field {α : Type} (reader : Value → Checked α) (absent : α) (name : String) : Checked α :=
    Checked.optional reader absent fields name
  let text := field Checked.text
  let settings : Checked _ := .ok Settings.mk
  let settings := settings.ap (text default.appName "app_name")
  let settings := settings.ap (text default.appVersion "app_version")
  let settings := settings.ap
    (field (literal Environment.name Environment.all) default.environment "env")
  let settings := settings.ap (field truth default.debug "debug")
  let settings := settings.ap (text default.logLevel "log_level")
  let settings := settings.ap (text default.host "host")
  let settings := settings.ap (field whole default.portNumber "port")
  let settings := settings.ap (field truth default.reload "reload")
  let settings := settings.ap (field texts default.origins "cors_origins")
  let settings := settings.ap
    (field (literal Backend.name Backend.all) default.backend "campaign_service_backend")
  let settings := settings.ap (text default.serviceUrl "campaign_service_url")
  let settings := settings.ap (text default.serviceToken "campaign_service_token")
  settings.ap (field whole default.requestTimeout "request_timeout")

def remote (settings : Settings) : Except Defect Remote :=
  let timeout := Double.ofInt settings.requestTimeout
  if timeout.isFinite then
    .ok (Remote.create settings.serviceUrl
      (if settings.serviceToken.isEmpty then none else some settings.serviceToken)
      (.double timeout))
  else .error .tooLarge

def service (settings : Settings) (reactions : List Reaction) : Except Defect Service :=
  match settings.backend with
  | .http => settings.remote.map fun remote => .remote { remote, reactions, sent := [] }
  | .memory => .ok (.memory Store.empty)

def fields (settings : Settings) : Fields :=
  [("app_name", .str settings.appName), ("app_version", .str settings.appVersion),
   ("env", .str settings.environment.name), ("debug", .bool settings.debug),
   ("log_level", .str settings.logLevel), ("host", .str settings.host),
   ("port", .int settings.portNumber), ("reload", .bool settings.reload),
   ("cors_origins", .strings settings.origins),
   ("campaign_service_backend", .str settings.backend.name),
   ("campaign_service_url", .str settings.serviceUrl),
   ("campaign_service_token", .str settings.serviceToken),
   ("request_timeout", .int settings.requestTimeout)]

end Settings

end Outreach
