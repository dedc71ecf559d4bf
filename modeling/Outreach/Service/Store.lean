import Outreach.Clock
import Outreach.Service.Call
import Outreach.Step.Type
import Outreach.Supply
import Outreach.Value.Collection
import Outreach.Value.Depth
import Outreach.Value.Order

set_option autoImplicit false

namespace Outreach

structure Campaign where
  id : String
  name : Value
  status : Value
  config : Value
  created : Nat
  updated : Nat
  steps : List Fields

inductive CampaignField where
  | name
  | status
  | config
  deriving DecidableEq, Repr

namespace CampaignField

def all : List CampaignField := [.name, .status, .config]

def key : CampaignField → String
  | .name => "name"
  | .status => "status"
  | .config => "config"

end CampaignField

namespace Campaign

variable [Limits]

def set (campaign : Campaign) : CampaignField → Value → Campaign
  | .name, value => { campaign with name := value }
  | .status, value => { campaign with status := value }
  | .config, value => { campaign with config := value }

def time (now : Nat) : Value := .str (Clock.text "+00:00" now)

def stepsValue (campaign : Campaign) : Value := .list (campaign.steps.map .obj)

def value (campaign : Campaign) : Value :=
  .obj [("id", .str campaign.id), ("name", campaign.name), ("status", campaign.status),
    ("config", campaign.config), ("created_at", time campaign.created),
    ("updated_at", time campaign.updated), ("steps", campaign.stepsValue)]

def storedStep (campaign id : String) (now : Nat) (step : Fields) : Fields :=
  step.merge [("id", .str id), ("campaign_id", .str campaign), ("created_at", time now),
    ("updated_at", time now)]

-- Stores copies of steps one after the other; each takes its id after it was seen to be an object.
def storeSteps (campaign : String) (now : Nat) :
    List Value → Supply → Except Failure (List Fields) × Supply
  | [], supply => (.ok [], supply)
  | step :: rest, supply =>
    match step.copied with
    | .error defect => (.error (.defect defect), supply)
    | .ok (.obj step) =>
      let (id, supply) := supply.step
      let (stored, supply) := storeSteps campaign now rest supply
      (stored.map (storedStep campaign id now step :: ·), supply)
    | .ok _ => (.error (.defect .notCollection), supply)

def storeValue (campaign : String) (now : Nat) (steps : Value) (supply : Supply) :
    Except Failure (List Fields) × Supply :=
  match steps.elements with
  | .error defect => (.error (.defect defect), supply)
  | .ok steps => storeSteps campaign now steps supply

def occurs (part : List Char) : List Char → Bool
  | [] => part.isEmpty
  | c :: rest => part.isPrefixOf (c :: rest) || occurs part rest

def update? (updates : Value) (key : String) : Except Defect (Option Value) :=
  match updates with
  | .obj fields => .ok (Fields.get? fields key)
  | .list items => if items.any (·.same (.str key)) then .error .unusableKey else .ok none
  | .str s => if occurs key.toList s.toList then .error .unusableKey else .ok none
  | .null | .bool _ | .int _ | .double _ => .error .notCollection

-- Sets copies of the fields that the updates name, one after the other; those before a field that
-- cannot be set stay set.
def updateFields (updates : Value) : List CampaignField → Campaign → Except Defect Unit × Campaign
  | [], campaign => (.ok (), campaign)
  | field :: rest, campaign =>
    match update? updates field.key with
    | .error defect => (.error defect, campaign)
    | .ok none => updateFields updates rest campaign
    | .ok (some value) =>
      match value.copied with
      | .error defect => (.error defect, campaign)
      | .ok value => updateFields updates rest (campaign.set field value)

def copied (campaign : Campaign) : Except Failure Value :=
  campaign.value.copied.mapError Failure.defect

def copiedSteps (campaign : Campaign) : Except Failure Value :=
  campaign.stepsValue.copied.mapError Failure.defect

end Campaign

structure Store where
  campaigns : List (String × Campaign)

namespace Store

def empty : Store := { campaigns := [] }

def find? (store : Store) (id : String) : Option Campaign := store.campaigns.lookup id

def lookup (store : Store) (id : String) : Except Failure Campaign :=
  match store.find? id with
  | some campaign => .ok campaign
  | none => .error (.notFound "Campaign" id)

def put : List (String × Campaign) → String → Campaign → List (String × Campaign)
  | [], id, campaign => [(id, campaign)]
  | (key, other) :: rest, id, campaign =>
    if key = id then (key, campaign) :: rest else (key, other) :: put rest id campaign

def insert (store : Store) (id : String) (campaign : Campaign) : Store :=
  { campaigns := put store.campaigns id campaign }

structure Outcome where
  answer : Except Failure Value
  store : Store
  supply : Supply

variable [Limits]

-- A new campaign is a draft unless another status is given. The id is taken even if configuration
-- or steps cannot be stored, and the campaign is stored even if it cannot be shown.
def create (store : Store) (payload : Value) (now : Nat) (supply : Supply) : Outcome :=
  let (id, supply) := supply.campaign
  match payload with
  | .obj fields =>
    match ((Fields.getD fields "config").orElse (.obj [])).copied with
    | .error defect => { answer := .error (.defect defect), store, supply }
    | .ok config =>
      let steps := (Fields.getD fields "steps").orElse (.list [])
      match Campaign.storeValue id now steps supply with
      | (.error failure, supply) => { answer := .error failure, store, supply }
      | (.ok steps, supply) =>
        let campaign : Campaign :=
          { id
            name := (Fields.get? fields "name").getD (.str "")
            status := (Fields.getD fields "status").orElse (.str Status.draft.name)
            config, created := now, updated := now, steps }
        { answer := campaign.copied, store := store.insert id campaign, supply }
  | _ => { answer := .error (.defect .notObject), store, supply }

def update (store : Store) (id : String) (updates : Value) (now : Nat) (supply : Supply) :
    Outcome :=
  match store.lookup id with
  | .error failure => { answer := .error failure, store, supply }
  | .ok campaign =>
    match Campaign.updateFields updates CampaignField.all campaign with
    | (.error defect, campaign) =>
      { answer := .error (.defect defect), store := store.insert id campaign, supply }
    | (.ok _, campaign) =>
      -- The time of change is set only when the steps are stored, too.
      match Campaign.update? updates "steps" with
      | .error defect =>
        { answer := .error (.defect defect), store := store.insert id campaign, supply }
      | .ok none =>
        let campaign := { campaign with updated := now }
        { answer := campaign.copied, store := store.insert id campaign, supply }
      | .ok (some steps) =>
        match Campaign.storeValue id now (steps.orElse (.list [])) supply with
        | (.error failure, supply) =>
          { answer := .error failure, store := store.insert id campaign, supply }
        | (.ok steps, supply) =>
          let campaign := { campaign with steps, updated := now }
          { answer := campaign.copied, store := store.insert id campaign, supply }

def replaceSteps (store : Store) (id : String) (steps : Value) (now : Nat) (supply : Supply) :
    Outcome :=
  match store.lookup id with
  | .error failure => { answer := .error failure, store, supply }
  | .ok campaign =>
    match Campaign.storeValue id now steps supply with
    | (.error failure, supply) => { answer := .error failure, store, supply }
    | (.ok steps, supply) =>
      let campaign := { campaign with steps, updated := now }
      { answer := campaign.copiedSteps, store := store.insert id campaign, supply }

def call (store : Store) (call : Call) (now : Nat) (supply : Supply) : Outcome :=
  match call with
  | .create payload => store.create payload now supply
  | .update id updates => store.update id updates now supply
  | .replaceSteps id steps => store.replaceSteps id steps now supply
  | .get id => { answer := (store.lookup id).bind Campaign.copied, store, supply }

end Store

end Outreach
