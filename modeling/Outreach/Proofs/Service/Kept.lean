import Outreach.Proofs.Campaign.Compiled
import Outreach.Proofs.Limits
import Outreach.Proofs.Service.Store

set_option autoImplicit false

namespace Outreach

namespace Fields

variable {fields others : Fields}

theorem set_of_new {key : Key} {value : Value}
    (new : ∀ field ∈ fields, field.1.same key = false) :
    fields.set key value = fields ++ [(key, value)] := by
  induction fields with
  | nil => rfl
  | cons field rest ih =>
    obtain ⟨first, later⟩ := List.forall_mem_cons.mp new
    rw [set, if_neg (by simp [first]), ih later, List.cons_append]

theorem merge_of_new (new : ∀ field ∈ fields, ∀ other ∈ others, field.1.same other.1 = false)
    (distinct : others.Pairwise fun a b => a.1.same b.1 = false) :
    fields.merge others = fields ++ others := by
  induction others generalizing fields with
  | nil => exact (List.append_nil fields).symm
  | cons other rest ih =>
    obtain ⟨apart, distinct⟩ := List.pairwise_cons.mp distinct
    have first : fields.set other.1 other.2 = fields ++ [other] :=
      set_of_new fun field member => new field member other List.mem_cons_self
    rw [merge, List.foldl_cons, first]
    refine (ih ?_ distinct).trans (by simp)
    intro field member later inside
    obtain before | rfl := by simpa using member
    · exact new field before later (List.mem_cons_of_mem _ inside)
    · exact apart later inside

end Fields

namespace Campaign

def ownKeys : List String := ["id", "campaign_id", "created_at", "updated_at"]

def ownFields (campaign id : String) (now : Nat) : Fields :=
  [("id", .str id), ("campaign_id", .str campaign), ("created_at", time now),
    ("updated_at", time now)]

def sent (stored : Fields) : Fields := stored.filter fun field => !ownKeys.any field.1.is

def Plain (payload : Fields) : Prop := ∀ field ∈ payload, ownKeys.any field.1.is = false

def StoredAs (payload stored : Fields) : Prop :=
  ∃ campaign id now, stored = storedStep campaign id now payload

theorem storedStep_eq {payload : Fields} (plain : Plain payload) (campaign id : String)
    (now : Nat) :
    storedStep campaign id now payload = payload ++ ownFields campaign id now := by
  have distinct : (ownFields campaign id now).Pairwise fun a b => a.1.same b.1 = false := by
    simp [ownFields, Key.same]
  refine Fields.merge_of_new ?_ distinct
  intro field member other own
  have apart := plain field member
  simp only [ownKeys, List.any_cons, List.any_nil, Bool.or_eq_false_iff] at apart
  simp only [List.mem_cons, List.not_mem_nil, or_false] at own
  obtain rfl | rfl | rfl | rfl := own <;> simp [Key.same_text, apart]

theorem sent_eq {payload stored : Fields} (kept : StoredAs payload stored)
    (plain : Plain payload) : sent stored = payload := by
  obtain ⟨campaign, id, now, rfl⟩ := kept
  have whole : payload.filter (fun field => !ownKeys.any field.1.is) = payload :=
    List.filter_eq_self.mpr fun field member => by rw [plain field member, Bool.not_false]
  rw [storedStep_eq plain, sent, List.filter_append, whole]
  simp [ownFields, ownKeys, Key.is]

theorem plain_payload (step : CompiledStep) : Plain step.payload := by
  rw [CompiledStep.payload, Plain]
  cases step.description.isEmpty <;> simp [ownKeys, Key.is, Fields.set, Key.same]

structure Holds (campaign : Campaign) (name : String) (payloads : List Fields) : Prop where
  name : campaign.name = .str name
  steps : List.Forall₂ StoredAs payloads campaign.steps

theorem Holds.sent_eq {campaign : Campaign} {name : String} {steps : List CompiledStep}
    (holds : campaign.Holds name (steps.map CompiledStep.payload)) :
    campaign.steps.map sent = steps.map CompiledStep.payload := by
  have each := List.forall₂_map_left_iff.mp holds.steps
  rw [← List.forall₂_eq_eq_eq, List.forall₂_map_left_iff, List.forall₂_map_right_iff]
  exact each.flip.imp fun stored step kept => Campaign.sent_eq kept (plain_payload step)

theorem depth_stored (step : CompiledStep) {stored : Fields} (kept : StoredAs step.payload stored) :
    (Value.obj stored).depth = (Value.obj step.config).depth + 1 := by
  obtain ⟨campaign, id, now, rfl⟩ := kept
  rw [storedStep_eq (plain_payload step), CompiledStep.payload]
  split <;>
    simp [ownFields, time, Fields.set, Key.same, Value.depth, Value.depthFields]

theorem Holds.depth_stepsValue_le {campaign : Campaign} {name : String} {steps : List CompiledStep}
    (holds : campaign.Holds name (steps.map CompiledStep.payload)) {n : Nat} :
    campaign.stepsValue.depth ≤ n + 1 ↔
      ∀ step ∈ steps, (Value.obj step.config).depth + 1 ≤ n := by
  have each := List.forall₂_map_left_iff.mp holds.steps
  rw [stepsValue, Value.depth, Nat.add_le_add_iff_right, Value.depthItems_le]
  generalize campaign.steps = kept at each
  clear holds
  induction each with
  | nil => simp
  | cons stored _ ih =>
    simp only [List.map_cons, List.forall_mem_cons, depth_stored _ stored, ih]

section

variable [Limits]

def Shown (campaign : Campaign) : Prop := campaign.value.depth ≤ Limits.copyDepth

theorem copied_eq_ok {campaign : Campaign} {value : Value} :
    campaign.copied = .ok value ↔ campaign.Shown ∧ value = campaign.value := by
  rw [copied, mapError_eq_ok, Value.copied_eq_ok, Shown]

theorem copied_eq_error {campaign : Campaign} {failure : Failure} :
    campaign.copied = .error failure ↔ ¬ campaign.Shown ∧ failure = .defect .tooDeep := by
  simp only [copied, mapError_eq_error, Value.copied_eq_error, Shown, Nat.not_le]
  constructor
  · rintro ⟨defect, ⟨deep, rfl⟩, rfl⟩
    exact ⟨deep, rfl⟩
  · rintro ⟨deep, rfl⟩
    exact ⟨_, ⟨deep, rfl⟩, rfl⟩

theorem shown_iff {campaign : Campaign} : campaign.Shown ↔
    (campaign.name.depth < Limits.copyDepth ∧ campaign.status.depth < Limits.copyDepth ∧
      campaign.config.depth < Limits.copyDepth) ∧
        campaign.stepsValue.depth < Limits.copyDepth := by
  rw [Shown, value, Value.depth]
  simp only [Value.depthFields, time, Value.depth]
  omega

theorem copiedSteps_eq_ok {campaign : Campaign} {value : Value} :
    campaign.copiedSteps = .ok value ↔
      campaign.stepsValue.depth ≤ Limits.copyDepth ∧ value = campaign.stepsValue := by
  rw [copiedSteps, mapError_eq_ok, Value.copied_eq_ok]

theorem copied_str (text : String) : (Value.str text).copied = .ok (.str text) := by
  simp [Value.copied, Value.depth]

theorem storeSteps_eq_ok {id : String} {now : Nat} {payloads stored : List Fields}
    {supply : Supply} (kept : (storeSteps id now (payloads.map .obj) supply).1 = .ok stored) :
    List.Forall₂ StoredAs payloads stored := by
  induction payloads generalizing stored supply with
  | nil =>
    cases kept
    exact .nil
  | cons payload rest ih =>
    rw [List.map_cons, storeSteps] at kept
    split at kept
    · cases kept
    · rename_i copy copied
      cases Value.copied_eq copied
      obtain ⟨others, keptRest, rfl⟩ := map_eq_ok.mp kept
      exact .cons ⟨id, _, now, rfl⟩ (ih keptRest)
    · cases kept

theorem storeValue_list (id : String) (now : Nat) (steps : List Value) (supply : Supply) :
    storeValue id now (.list steps) supply = storeSteps id now steps supply := rfl

end

theorem orElse_list (steps : List Value) : (Value.list steps).orElse (.list []) = .list steps := by
  cases steps <;> rfl

def renamed (campaign : Campaign) (name : String) (now : Nat) : Campaign :=
  { campaign with name := .str name, updated := now }

def replaced (campaign : Campaign) (steps : List Fields) (now : Nat) : Campaign :=
  { campaign with steps, updated := now }

end Campaign

namespace Store

variable {store : Store} {id : String} {campaign : Campaign} {name : String} {now : Nat}
  {supply : Supply} {payloads : List Fields}

variable [Limits]

theorem update_unknown (missing : store.find? id = none) (updates : Value) :
    store.update id updates now supply =
      { answer := .error (.notFound "Campaign" id), store, supply } := by
  simp [update, lookup, missing]

theorem update_name (known : store.find? id = some campaign) :
    store.update id (.obj [("name", .str name)]) now supply =
      { answer := (campaign.renamed name now).copied
        store := store.insert id (campaign.renamed name now), supply } := by
  simp [update, lookup_eq_ok.mpr known, Campaign.updateFields, CampaignField.all,
    CampaignField.key, Campaign.update?, Fields.get?_cons, Key.is, Campaign.copied_str,
    Campaign.set, Campaign.renamed]

inductive Replaced (store : Store) (id : String) (campaign : Campaign) (payloads : List Fields)
    (now : Nat) : Outcome → Prop
  | failed {failure : Failure} {supply : Supply} :
    Replaced store id campaign payloads now { answer := .error failure, store, supply }
  | stored {steps : List Fields} {supply : Supply}
    (kept : List.Forall₂ Campaign.StoredAs payloads steps) :
    Replaced store id campaign payloads now
      { answer := (campaign.replaced steps now).copiedSteps
        store := store.insert id (campaign.replaced steps now), supply }

theorem replaceSteps_replaced (known : store.find? id = some campaign) :
    store.Replaced id campaign payloads now
      (store.replaceSteps id (.list (payloads.map .obj)) now supply) := by
  rw [replaceSteps, lookup_eq_ok.mpr known]
  simp only [Campaign.storeValue_list]
  split
  · exact .failed
  · rename_i steps next stored
    exact .stored (Campaign.storeSteps_eq_ok (congrArg Prod.fst stored))

inductive Created (store : Store) (supply : Supply) (name : String) (payloads : List Fields) :
    Outcome → Prop
  | failed {failure : Failure} {next : Supply} :
    Created store supply name payloads { answer := .error failure, store, supply := next }
  | stored {campaign : Campaign} {next : Supply} (named : campaign.id = supply.campaign.1)
    (holds : campaign.Holds name payloads) :
    Created store supply name payloads
      { answer := campaign.copied, store := store.insert campaign.id campaign, supply := next }

theorem create_created :
    store.Created supply name payloads
      (store.create (.obj [("name", .str name), ("status", .str Status.draft.name),
        ("steps", .list (payloads.map .obj))]) now supply) := by
  simp only [create]
  split
  · exact .failed
  · rename_i result config copied
    split
    · exact .failed
    · rename_i outcome steps next stored
      let campaign : Campaign :=
        { id := supply.campaign.1, name := .str name, status := .str Status.draft.name, config
          created := now, updated := now, steps }
      have sent : Campaign.storeValue supply.campaign.1 now
          ((Value.list (payloads.map .obj)).orElse (.list [])) supply.campaign.2 =
            (.ok steps, next) := stored
      rw [Campaign.orElse_list, Campaign.storeValue_list] at sent
      have kept := Campaign.storeSteps_eq_ok (congrArg Prod.fst sent)
      have holds : campaign.Holds name payloads := ⟨rfl, kept⟩
      exact .stored rfl holds

end Store

end Outreach
