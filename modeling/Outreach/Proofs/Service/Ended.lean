import Outreach.Proofs.Service.Parts

set_option autoImplicit false

namespace Outreach

def Campaign.answer [Limits] (campaign : Campaign) : Call → Except Failure Value
  | .replaceSteps .. => campaign.copiedSteps
  | .create _ | .update .. | .get _ => campaign.copied

theorem Campaign.answer_cases [Limits] (campaign : Campaign) (call : Call) :
    (∃ value, campaign.answer call = .ok value) ∨
      campaign.answer call = .error (.defect .tooDeep) := by
  have copied (value : Value) : (∃ copy, value.copied.mapError Failure.defect = .ok copy) ∨
      value.copied.mapError Failure.defect = .error (.defect .tooDeep) := by
    rw [Value.copied]
    split
    · exact .inl ⟨value, rfl⟩
    · exact .inr rfl
  cases call <;> exact copied _

theorem Campaign.Shown.isOk_answer [Limits] {campaign : Campaign} (shown : campaign.Shown)
    (call : Call) : (campaign.answer call).isOk := by
  have copied : campaign.copied = .ok campaign.value := copied_eq_ok.mpr ⟨shown, rfl⟩
  have listed : campaign.copiedSteps = .ok campaign.stepsValue :=
    copiedSteps_eq_ok.mpr ⟨(shown_iff.mp shown).2.le, rfl⟩
  cases call <;> simp [answer, copied, listed]

namespace Store

variable {store : Store} {call : Call} {now : Nat} {supply : Supply}

variable [Limits]

inductive Ended (store : Store) (call : Call) (now : Nat) (supply : Supply) : Outcome → Prop
  | read {id : String} (same : call = .get id) :
    Ended store call now supply
      { answer := (store.lookup id).bind Campaign.copied, store, supply }
  | unknown {id : String} (target : call.target? = some id) (missing : store.find? id = none) :
    Ended store call now supply { answer := .error (.notFound "Campaign" id), store, supply }
  | refused {part : CampaignPart} {defect : Defect} {next : Supply}
    (refuses : call.given part = .error defect) (nothing : ∀ part, call.writes part = none)
    (grows : supply.Grows next) :
    Ended store call now supply { answer := .error (.defect defect), store, supply := next }
  | halted {id : String} {updates : Value} {old new : Campaign} {part : CampaignPart}
    {defect : Defect} {next : Supply} (same : call = .update id updates)
    (known : store.find? id = some old) (refuses : call.given part = .error defect)
    (halfway : Campaign.Halfway call old new) (grows : supply.Grows next) :
    Ended store call now supply
      { answer := .error (.defect defect), store := store.insert id new, supply := next }
  | created {payload : Value} {new : Campaign} {next : Supply} (same : call = .create payload)
    (clear : call.Clear)
    (rewritten : Campaign.Rewritten call supply.campaign.1 now supply next none new)
    (named : new.id = supply.campaign.1) (times : new.created = now ∧ new.updated = now)
    (grows : supply.campaign.2.Grows next) :
    Ended store call now supply
      { answer := new.copied, store := store.insert supply.campaign.1 new, supply := next }
  | changed {id : String} {old new : Campaign} {next : Supply} (target : call.target? = some id)
    (known : store.find? id = some old) (clear : call.Clear)
    (rewritten : Campaign.Rewritten call id now supply next (some old) new)
    (time : new.updated = now) (grows : supply.Grows next) :
    Ended store call now supply
      { answer := new.answer call, store := store.insert id new, supply := next }

theorem ended_create (payload : Value) :
    store.Ended (.create payload) now supply (store.create payload now supply) := by
  have refused (part : CampaignPart) {defect : Defect} {next : Supply}
      (refuses : (Call.create payload).given part = .error defect) (grows : supply.Grows next) :
      store.Ended (.create payload) now supply
        { answer := .error (.defect defect), store, supply := next } :=
    .refused refuses (Call.writes_create_of_error refuses) grows
  simp only [create]
  split
  · rename_i fields
    split
    · rename_i defect nested
      exact refused (.field .config) (by simp [Call.given, nested]) (.campaign _)
    · rename_i config copied
      obtain ⟨defect, next, read, stored, grows⟩ | ⟨steps, next, read, stored, within, grows⟩ :=
        Campaign.storeValue_cases supply.campaign.1 now
          ((Fields.getD fields "steps").orElse (.list [])) supply.campaign.2
      · simp only [stored]
        exact refused .steps (by simp [Call.given, Call.steps?, read])
          ((Supply.Grows.campaign supply).trans grows)
      · have given : (Call.create (.obj fields)).steps? = .ok (some steps) := by
          simp [Call.steps?, read]
        have clear : (Call.create (.obj fields)).Clear :=
          Call.clear_of (by rintro (_ | _ | _) <;> simp [Call.given, copied])
            (by simp [Call.given, given])
        simp only [stored]
        refine .created rfl clear ⟨?_, ?_, ?_⟩ rfl ⟨rfl, rfl⟩ grows
        · intro field
          rw [clear.writes]
          cases field <;> simp [Call.given, Campaign.get, copied]
        · exact .inr ⟨_, steps, given, clear.writes_steps given, rfl, Nat.le_succ _, within⟩
        · intro old known
          cases known
  · rename_i other
    have refuses : (Call.create payload).given .steps = .error .notObject := by
      cases payload <;> simp_all [Call.given, Call.steps?]
    exact refused .steps refuses (.campaign supply)

theorem ended_update (id : String) (updates : Value) :
    store.Ended (.update id updates) now supply (store.update id updates now supply) := by
  rw [update]
  cases known : store.find? id with
  | none =>
    simp only [lookup, known]
    exact .unknown rfl known
  | some old =>
    simp only [lookup, known]
    have halfway := Campaign.updateFields_halfway id updates old
    have ends := Campaign.updateFields_fst updates CampaignField.all old
    generalize Campaign.updateFields updates CampaignField.all old = result at halfway ends
    obtain ⟨result, new⟩ := result
    cases result with
    | error defect =>
      obtain ⟨first, -, refuses⟩ := ends
      have refuses : (Call.update id updates).given (.field first) = .error defect := refuses
      exact .halted rfl known refuses halfway (.refl supply)
    | ok done =>
      have fields (field : CampaignField) : ((Call.update id updates).given (.field field)).isOk :=
        ends field (by cases field <;> decide)
      cases named : Campaign.update? updates "steps" with
      | error defect =>
        have refuses : (Call.update id updates).given .steps = .error defect := by
          simp [Call.given, Call.steps?, Campaign.stepsUpdate, named]
        exact .halted rfl known refuses halfway (.refl supply)
      | ok steps? =>
        cases steps? with
        | none =>
          have given : (Call.update id updates).given .steps = .ok none := by
            simp [Call.given, Call.steps?, Campaign.stepsUpdate, named]
          have clear := Call.clear_of fields (by rw [given, isOk_ok])
          have unwritten : (Call.update id updates).writes .steps = none := by
            simp [clear.writes, given]
          exact .changed rfl known clear (halfway.rewritten unwritten now) rfl
            (.refl supply)
        | some steps =>
          obtain ⟨defect, next, read, stored, grows⟩ |
              ⟨payloads, next, read, stored, within, grows⟩ :=
            Campaign.storeValue_cases id now (steps.orElse (.list [])) supply
          · have refuses : (Call.update id updates).given .steps = .error defect := by
              simp [Call.given, Call.steps?, Campaign.stepsUpdate, named, read]
            simp only [stored]
            exact .halted rfl known refuses halfway grows
          · have given : (Call.update id updates).steps? = .ok (some payloads) := by
              simp [Call.steps?, Campaign.stepsUpdate, named, read]
            have clear := Call.clear_of fields (by simp [Call.given, given])
            simp only [stored]
            exact .changed rfl known clear (halfway.replaced clear given within) rfl grows

theorem ended_replaceSteps (id : String) (steps : Value) :
    store.Ended (.replaceSteps id steps) now supply
      (store.replaceSteps id steps now supply) := by
  rw [replaceSteps]
  cases known : store.find? id with
  | none =>
    simp only [lookup, known]
    exact .unknown rfl known
  | some old =>
    simp only [lookup, known]
    have unwritten (field : CampaignField) :
        (Call.replaceSteps id steps).writes (.field field) = none := by
      simp [Call.writes, Call.given]
    obtain ⟨defect, next, read, stored, grows⟩ | ⟨payloads, next, read, stored, within, grows⟩ :=
      Campaign.storeValue_cases id now steps supply
    · have refuses : (Call.replaceSteps id steps).given .steps = .error defect := by
        simp [Call.given, Call.steps?, read]
      have nothing : ∀ part, (Call.replaceSteps id steps).writes part = none := by
        rintro (field | _)
        · exact unwritten field
        · exact Call.writes_of_error refuses
      simp only [stored]
      exact .refused refuses nothing grows
    · have given : (Call.replaceSteps id steps).steps? = .ok (some payloads) := by
        simp [Call.steps?, read]
      have clear : (Call.replaceSteps id steps).Clear :=
        Call.clear_of (fun _ => rfl) (by simp [Call.given, given])
      have halfway : Campaign.Halfway (.replaceSteps id steps) old old :=
        ⟨fun field => by rw [unwritten field, Option.getD_none], rfl, rfl, rfl, rfl⟩
      simp only [stored]
      exact .changed rfl known clear (halfway.replaced clear given within) rfl grows

theorem ended (store : Store) (call : Call) (now : Nat) (supply : Supply) :
    store.Ended call now supply (store.call call now supply) := by
  cases call with
  | create payload => exact ended_create payload
  | update id updates => exact ended_update id updates
  | replaceSteps id steps => exact ended_replaceSteps id steps
  | get id => exact .read rfl

-- Whether the call came to its campaign, whatever came of it there.
def found : Except Failure Value → Bool
  | .error (.notFound _ _) => false
  | _ => true

theorem found_answer (campaign : Campaign) (call : Call) :
    found (campaign.answer call) = true := by
  obtain ⟨value, shown⟩ | hidden := campaign.answer_cases call
  · rw [shown]
    rfl
  · rw [hidden]
    rfl

inductive Effect (store : Store) (call : Call) (now : Nat) (supply : Supply)
    (outcome : Outcome) : Prop
  | unknown {id : String} (subject : call.subject? supply = some id)
    (missing : store.find? id = none) (unfound : found outcome.answer = false)
    (after : outcome.store = store)
  | none (unwritten : ∀ part, call.writes part = none) (after : outcome.store = store)
  | rewritten {id : String} {new : Campaign} (subject : call.subject? supply = some id)
    (found : found outcome.answer) (after : outcome.store = store.insert id new)
    (stands : new.id = id)
    (rewritten : Campaign.Rewritten call id now supply outcome.supply (store.find? id) new)

theorem effect (numbered : store.Numbered supply) :
    store.Effect call now supply (store.call call now supply) := by
  have ended := store.ended call now supply
  generalize store.call call now supply = outcome at ended
  cases ended with
  | read same =>
    subst same
    refine .none (fun part => ?_) rfl
    cases part <;> simp [Call.clear_get.writes, Call.given, Call.steps?]
  | unknown target missing => exact .unknown (Call.subject?_of_target target) missing rfl rfl
  | refused refuses nothing => exact .none nothing rfl
  | halted same known refuses halfway =>
    subst same
    have unwritten := Call.writes_steps_of_unclear (Call.not_clear_of_error refuses)
    have stands := halfway.id.trans (numbered _ _ known).1
    exact .rewritten rfl rfl rfl stands (known ▸ halfway.rewritten unwritten _)
  | @created payload _ _ same clear rewritten named =>
    subst same
    exact .rewritten rfl (found_answer _ (.create payload)) rfl named (numbered.fresh ▸ rewritten)
  | changed target known clear rewritten =>
    have stands := (rewritten.same _ rfl).1.trans (numbered _ _ known).1
    exact .rewritten (Call.subject?_of_target target) (found_answer _ call) rfl stands
      (known ▸ rewritten)

end Store

end Outreach
