import Outreach.Proofs.Service.Ended

set_option autoImplicit false

namespace Outreach

namespace Campaign

def stepIds (campaign : Campaign) : List (Option Value) :=
  campaign.steps.map fun step => step.get? "id"

def idsAfter (n count : Nat) : List (Option Value) :=
  (List.range' (n + 1) count).map fun k => some (.str (Supply.stepId k))

theorem ids_numbered (campaign : String) (now n : Nat) (steps : List Fields) :
    (numbered campaign now n steps).map (fun step => step.get? "id") = idsAfter n steps.length := by
  induction steps generalizing n with
  | nil => rfl
  | cons step rest ih =>
    simpa [numbered, idsAfter, List.range'_succ] using ih (n + 1)

theorem campaign_of_mem_numbered {campaign : String} {now n : Nat} {steps : List Fields}
    {step : Fields} (member : step ∈ numbered campaign now n steps) :
    step.get? "campaign_id" = some (.str campaign) := by
  induction steps generalizing n with
  | nil => cases member
  | cons first rest ih =>
    obtain rfl | later := List.mem_cons.mp member
    · exact get?_campaign_storedStep ..
    · exact ih later

theorem stepId_injective : Function.Injective Supply.stepId := Supply.id_injective "step_" 8

theorem mem_idsAfter {n count : Nat} {id : Option Value} :
    id ∈ idsAfter n count ↔ ∃ k, n < k ∧ k ≤ n + count ∧ id = some (.str (Supply.stepId k)) := by
  simp only [idsAfter, List.mem_map, List.mem_range'_1]
  constructor
  · rintro ⟨k, bounds, rfl⟩
    exact ⟨k, by omega, by omega, rfl⟩
  · rintro ⟨k, above, below, rfl⟩
    exact ⟨k, by omega, rfl⟩

theorem nodup_idsAfter (n count : Nat) : (idsAfter n count).Nodup := by
  refine List.Nodup.map (fun first second same => ?_) List.nodup_range'
  exact stepId_injective (by simpa using same)

variable {call : Call} {id : String} {now : Nat} {supply next : Supply} {old? : Option Campaign}
  {new : Campaign}

theorem Rewritten.owned [Limits] (rewritten : Rewritten call id now supply next old? new)
    (before : ∀ old, old? = some old → ∀ step ∈ old.steps,
      step.get? "campaign_id" = some (.str id)) :
    ∀ step ∈ new.steps, step.get? "campaign_id" = some (.str id) := by
  intro step member
  obtain ⟨-, old, found, same⟩ | ⟨n, read, -, -, same, -⟩ := rewritten.steps
  · exact before old found step (same ▸ member)
  · exact campaign_of_mem_numbered (same ▸ member)

theorem Rewritten.stepIds [Limits] (rewritten : Rewritten call id now supply next old? new) :
    (call.writes .steps = none ∧ ∃ old, old? = some old ∧ new.steps = old.steps) ∨
      (call.writes .steps).isSome ∧ ∃ n count, new.stepIds = idsAfter n count ∧
        supply.records ≤ n ∧ n + count ≤ next.records := by
  obtain left | ⟨n, read, -, written, same, bounds⟩ := rewritten.steps
  · exact .inl left
  · refine .inr ⟨by rw [written, Option.isSome_some], n, read.length, ?_, bounds⟩
    rw [Campaign.stepIds, same, ids_numbered]

end Campaign

namespace Store

variable {store : Store} {id : String} {old new : Campaign}

def stepIds (store : Store) : List (Option Value) :=
  store.campaigns.flatMap fun entry => entry.2.stepIds

def keys (store : Store) : List String := store.campaigns.map Prod.fst

theorem nodup_keys_insert (distinct : store.keys.Nodup) : (store.insert id new).keys.Nodup := by
  obtain ⟨front, back, before, after⟩ := exists_insert store id
  cases known : store.find? id with
  | none =>
    have absent : id ∉ store.keys := by
      intro member
      obtain ⟨⟨_, old⟩, inside, rfl⟩ := List.mem_map.mp member
      simpa using List.lookup_eq_none_iff.mp known _ inside
    have apart := And.intro absent distinct
    simpa [keys, after, before, known, List.nodup_middle] using apart
  | some old => simpa [keys, after, before, known] using distinct

theorem stepIds_insert_of_same (known : store.find? id = some old) (same : new.steps = old.steps) :
    (store.insert id new).stepIds = store.stepIds := by
  obtain ⟨front, back, before, after⟩ := exists_insert store id
  simp [stepIds, before, after, known, Campaign.stepIds, same]

theorem mem_stepIds_insert {step : Option Value} (member : step ∈ (store.insert id new).stepIds) :
    step ∈ new.stepIds ∨ step ∈ store.stepIds := by
  obtain ⟨front, back, before, after⟩ := exists_insert store id
  simp only [stepIds, before, after, List.flatMap_append, List.flatMap_cons,
    List.mem_append] at member ⊢
  tauto

theorem nodup_stepIds_insert (distinct : store.stepIds.Nodup) (own : new.stepIds.Nodup)
    (fresh : ∀ step ∈ new.stepIds, step ∉ store.stepIds) : (store.insert id new).stepIds.Nodup := by
  obtain ⟨front, back, before, after⟩ := exists_insert store id
  simp only [stepIds, before, after, List.flatMap_append, List.flatMap_cons,
    List.nodup_append, List.mem_append] at distinct fresh ⊢
  grind

end Store

structure Record where
  call : Call
  subject : Option String
  answer : Except Failure Value

namespace Record

-- What the call wrote to a part of a campaign, and what it set it to if it succeeded.
def wrote [Limits] (record : Record) (id : String) (part : CampaignPart) : Option Value :=
  if record.subject = some id ∧ Store.found record.answer then record.call.writes part else none

def set [Limits] (record : Record) (id : String) (part : CampaignPart) : Option Value :=
  if record.subject = some id ∧ record.answer.isOk then record.call.writes part else none

end Record

structure History where
  store : Store
  supply : Supply
  records : List Record

namespace History

def start (supply : Supply) : History := { store := .empty, supply, records := [] }

section

variable [Limits]

def make (history : History) (call : Call) (now : Nat) : History :=
  let outcome := history.store.call call now history.supply
  let record := { call, subject := call.subject? history.supply, answer := outcome.answer }
  { store := outcome.store, supply := outcome.supply, records := record :: history.records }

def run (supply : Supply) (calls : List (Call × Nat)) : History :=
  calls.foldl (fun history step => history.make step.1 step.2) (start supply)

theorem make_store (history : History) (call : Call) (now : Nat) :
    (history.make call now).store = (history.store.call call now history.supply).store := rfl

def written (history : History) (id : String) (part : CampaignPart) : Option Value :=
  history.records.findSome? fun record => record.wrote id part

def set (history : History) (id : String) (part : CampaignPart) : Option Value :=
  history.records.findSome? fun record => record.set id part

structure Regular (history : History) : Prop where
  keys : history.store.keys.Nodup
  numbered : history.store.Numbered history.supply
  owned : ∀ id campaign, history.store.find? id = some campaign → ∀ step ∈ campaign.steps,
    step.get? "campaign_id" = some (.str id)
  distinct : history.store.stepIds.Nodup
  given : ∀ step ∈ history.store.stepIds,
    ∃ n ≤ history.supply.records, step = some (.str (Supply.stepId n))
  part : ∀ id part,
    (history.store.find? id).map (fun campaign => campaign.part part) = history.written id part

end

variable {history : History} {call : Call} {now : Nat} {supply : Supply} {id : String}

section

variable [Limits]

theorem make_grows (history : History) (call : Call) (now : Nat) :
    history.supply.Grows (history.make call now).supply :=
  (history.store.changed call now history.supply).grows

theorem findSome?_make (reads : Record → Option Value) :
    (history.make call now).records.findSome? reads =
      (reads { call, subject := call.subject? history.supply
               answer := (history.store.call call now history.supply).answer }).or
        (history.records.findSome? reads) := by
  rw [make, List.findSome?_cons]
  cases reads _ <;> rfl

theorem Regular.effect (regular : history.Regular) (call : Call) (now : Nat) :
    history.store.Effect call now history.supply
      (history.store.call call now history.supply) := Store.effect regular.numbered

theorem Regular.part_make (regular : history.Regular) (call : Call) (now : Nat) (id : String)
    (part : CampaignPart) :
    ((history.make call now).store.find? id).map (fun campaign => campaign.part part) =
      (history.make call now).written id part := by
  rw [written, findSome?_make, ← written, ← regular.part id part, Record.wrote, make]
  cases regular.effect call now with
  | unknown _ _ unfound after => simp [after, unfound]
  | none unwritten after => simp [after, unwritten]
  | @rewritten subject new meant found after _ rewritten =>
    simp only [after, meant, found, and_true, Option.some_inj]
    split
    · rename_i same
      subst same
      rw [Store.find?_insert_self]
      exact rewritten.part part
    · rename_i different
      rw [Store.find?_insert_of_ne (Ne.symm different), Option.none_or]

end

section Rewritten

variable [Limits] {new : Campaign} (regular : history.Regular)
  (rewritten : Campaign.Rewritten call id now history.supply supply (history.store.find? id) new)
include regular rewritten

theorem Regular.owned_insert {other : String} {campaign : Campaign}
    (known : (history.store.insert id new).find? other = some campaign) :
    ∀ step ∈ campaign.steps, step.get? "campaign_id" = some (.str other) := by
  by_cases own : other = id
  · subst own
    cases Store.find?_insert_self.symm.trans known
    exact rewritten.owned (regular.owned other)
  · rw [Store.find?_insert_of_ne own] at known
    exact regular.owned other campaign known

-- New ids lie above all that were given out.
theorem Regular.distinct_insert : (history.store.insert id new).stepIds.Nodup := by
  obtain ⟨-, old, known, steps⟩ | ⟨-, n, count, ids, above, -⟩ := rewritten.stepIds
  · rw [Store.stepIds_insert_of_same known steps]
    exact regular.distinct
  · refine Store.nodup_stepIds_insert regular.distinct ?_ ?_
    · exact ids ▸ Campaign.nodup_idsAfter n count
    · intro step member old
      obtain ⟨k, after, -, rfl⟩ := Campaign.mem_idsAfter.mp (ids ▸ member)
      obtain ⟨m, before, same⟩ := regular.given _ old
      have := Campaign.stepId_injective (by simpa using same)
      omega

theorem Regular.given_insert (grows : history.supply.Grows supply) :
    ∀ step ∈ (history.store.insert id new).stepIds,
      ∃ n ≤ supply.records, step = some (.str (Supply.stepId n)) := by
  intro step member
  have given (before : step ∈ history.store.stepIds) :
      ∃ n ≤ supply.records, step = some (.str (Supply.stepId n)) := by
    obtain ⟨n, within, same⟩ := regular.given step before
    exact ⟨n, within.trans grows.records, same⟩
  obtain ⟨-, old, known, steps⟩ | ⟨-, n, count, ids, -, below⟩ := rewritten.stepIds
  · rw [Store.stepIds_insert_of_same known steps] at member
    exact given member
  · obtain own | before := Store.mem_stepIds_insert member
    · obtain ⟨k, -, within, rfl⟩ := Campaign.mem_idsAfter.mp (ids ▸ own)
      exact ⟨k, within.trans below, rfl⟩
    · exact given before

end Rewritten

variable [Limits]

theorem Regular.make (regular : history.Regular) (call : Call) (now : Nat) :
    (history.make call now).Regular := by
  have grows := history.make_grows call now
  have numbered := (history.store.changed call now history.supply).numbered regular.numbered
  have part := regular.part_make call now
  have left (same : (history.make call now).store = history.store) :
      (history.make call now).Regular := by
    refine ⟨same ▸ regular.keys, numbered, same ▸ regular.owned, same ▸ regular.distinct, ?_, part⟩
    intro step member
    obtain ⟨n, within, given⟩ := regular.given step (same ▸ member)
    exact ⟨n, within.trans grows.records, given⟩
  cases regular.effect call now with
  | unknown _ _ _ after | none _ after => exact left after
  | @rewritten id new _ _ after _ rewritten =>
    have same : (history.make call now).store = history.store.insert id new := after
    exact ⟨same ▸ Store.nodup_keys_insert regular.keys, numbered,
      same ▸ fun _ _ known => regular.owned_insert rewritten known,
      same ▸ regular.distinct_insert rewritten, same ▸ regular.given_insert rewritten grows, part⟩

theorem Regular.written_of_known (regular : history.Regular) {campaign : Campaign}
    (known : history.store.find? id = some campaign) (part : CampaignPart) :
    history.written id part = some (campaign.part part) := by
  rw [← regular.part, known, Option.map_some]

structure Continues (past history : History) : Prop where
  grows : past.supply.Grows history.supply
  kept : ∀ id old, past.store.find? id = some old →
    ∃ new, history.store.find? id = some new ∧ new.created = old.created

theorem Regular.kept (regular : history.Regular) {old : Campaign}
    (known : history.store.find? id = some old) (call : Call) (now : Nat) :
    ∃ new, (history.make call now).store.find? id = some new ∧ new.created = old.created := by
  rw [make_store]
  cases regular.effect call now with
  | unknown _ _ _ after | none _ after => exact ⟨old, by rw [after, known], rfl⟩
  | @rewritten subject new _ _ after _ rewritten =>
    rw [after]
    by_cases same : id = subject
    · subst same
      exact ⟨new, Store.find?_insert_self, (rewritten.same old known).2⟩
    · exact ⟨old, (Store.find?_insert_of_ne same).trans known, rfl⟩

theorem Continues.make {past : History} (continues : past.Continues history)
    (regular : history.Regular) (call : Call) (now : Nat) :
    past.Continues (history.make call now) where
  grows := continues.grows.trans (history.make_grows call now)
  kept id old known := by
    obtain ⟨between, found, same⟩ := continues.kept id old known
    obtain ⟨new, after, time⟩ := regular.kept found call now
    exact ⟨new, after, time.trans same⟩

def Rewrites (history : History) (call : Call) (id : String) : Prop :=
  call.subject? history.supply = some id ∧ (call.writes .steps).isSome

theorem Regular.steps (regular : history.Regular) {new : Campaign}
    (after : (history.make call now).store.find? id = some new) :
    (¬ history.Rewrites call id ∧
      ∃ old, history.store.find? id = some old ∧ new.steps = old.steps) ∨
    history.Rewrites call id ∧ ∀ step ∈ new.stepIds,
      ∃ n, history.supply.records < n ∧ step = some (.str (Supply.stepId n)) := by
  rw [make_store] at after
  cases regular.effect call now with
  | unknown meant missing _ same =>
    rw [same] at after
    refine .inl ⟨fun rewrites => ?_, new, after, rfl⟩
    cases meant.symm.trans rewrites.1
    cases missing.symm.trans after
  | none unwritten same =>
    rw [same] at after
    refine .inl ⟨fun rewrites => ?_, new, after, rfl⟩
    simp [Rewrites, unwritten] at rewrites
  | @rewritten subject _ meant found same _ rewritten =>
    rw [same] at after
    by_cases own : id = subject
    · subst own
      cases Store.find?_insert_self.symm.trans after
      obtain ⟨unwritten, old, known, steps⟩ | ⟨written, n, count, ids, above, -⟩ :=
        rewritten.stepIds
      · refine .inl ⟨fun rewrites => ?_, old, known, steps⟩
        simp [Rewrites, unwritten] at rewrites
      · refine .inr ⟨⟨meant, written⟩, fun step member => ?_⟩
        obtain ⟨k, later, -, rfl⟩ := Campaign.mem_idsAfter.mp (ids ▸ member)
        exact ⟨k, by omega, rfl⟩
    · rw [Store.find?_insert_of_ne own] at after
      refine .inl ⟨fun rewrites => ?_, new, after, rfl⟩
      cases meant.symm.trans rewrites.1
      exact own rfl

end History

end Outreach
