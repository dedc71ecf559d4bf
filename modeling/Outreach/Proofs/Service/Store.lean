import Outreach.Proofs.Growth
import Outreach.Proofs.Supply
import Outreach.Service.Store

set_option autoImplicit false

namespace Outreach

def Call.target? : Call → Option String
  | .update campaign _ | .replaceSteps campaign _ => some campaign
  | .create _ | .get _ => none

namespace Store

variable {store after : Store} {call : Call} {now : Nat} {supply next : Supply} {id other : String}
  {campaign : Campaign}

theorem lookup_cons (key other : String) (old : Campaign) (rest : List (String × Campaign)) :
    ((key, old) :: rest).lookup other = if other = key then some old else rest.lookup other := by
  by_cases found : other = key
  · simp [found]
  · simp [List.lookup_cons, beq_false_of_ne found, found]

theorem lookup_put (campaigns : List (String × Campaign)) (id other : String)
    (campaign : Campaign) :
    (put campaigns id campaign).lookup other =
      if other = id then some campaign else campaigns.lookup other := by
  induction campaigns with
  | nil => simp [put, lookup_cons]
  | cons entry rest ih =>
    obtain ⟨key, old⟩ := entry
    rw [put]
    by_cases placed : key = id
    · rw [if_pos placed, lookup_cons, lookup_cons, placed]
      split <;> rfl
    · rw [if_neg placed, lookup_cons, lookup_cons, ih]
      split <;> simp_all

@[simp] theorem find?_insert_self : (store.insert id campaign).find? id = some campaign := by
  simp [find?, insert, lookup_put]

theorem find?_insert_of_ne (different : other ≠ id) :
    (store.insert id campaign).find? other = store.find? other := by
  simp [find?, insert, lookup_put, different]

theorem exists_insert (store : Store) (id : String) :
    ∃ front back, store.campaigns = front ++ ((store.find? id).map (Prod.mk id)).toList ++ back ∧
      ∀ new, (store.insert id new).campaigns = front ++ (id, new) :: back := by
  obtain ⟨campaigns⟩ := store
  simp only [find?, insert]
  induction campaigns with
  | nil => exact ⟨[], [], rfl, fun new => rfl⟩
  | cons entry rest ih =>
    obtain ⟨key, old⟩ := entry
    by_cases same : key = id
    · subst same
      refine ⟨[], rest, ?_, fun new => ?_⟩
      · simp
      · rw [put, if_pos rfl, List.nil_append]
    · obtain ⟨front, back, before, after⟩ := ih
      refine ⟨(key, old) :: front, back, ?_, fun new => ?_⟩
      · rw [lookup_cons, if_neg (Ne.symm same), List.cons_append, List.cons_append, ← before]
      · rw [put, if_neg same, after, List.cons_append]

theorem lookup_eq_ok : store.lookup id = .ok campaign ↔ store.find? id = some campaign := by
  rw [lookup]
  cases store.find? id <;> simp

inductive Changed (store : Store) (call : Call) (supply : Supply) : Store → Supply → Prop
  | left {next : Supply} (grows : supply.Grows next) : Changed store call supply store next
  | replaced {next : Supply} {id : String} {old campaign : Campaign}
    (target : call.target? = some id) (known : store.find? id = some old)
    (same : campaign.id = old.id) (grows : supply.Grows next) :
    Changed store call supply (store.insert id campaign) next
  | added {next : Supply} {campaign : Campaign} (target : call.target? = none)
    (named : campaign.id = supply.campaign.1) (grows : supply.campaign.2.Grows next) :
    Changed store call supply (store.insert supply.campaign.1 campaign) next

end Store

namespace Campaign

variable {campaign : Campaign} {now : Nat} {supply : Supply}

theorem storeSteps_grows [Limits] (id : String) (now : Nat) (steps : List Value) (supply : Supply) :
    supply.Grows (storeSteps id now steps supply).2 := by
  induction steps generalizing supply with
  | nil => exact .refl supply
  | cons step rest ih =>
    rw [storeSteps]
    split
    · exact .refl supply
    · exact (Supply.Grows.step supply).trans (ih _)
    · exact .refl supply

theorem storeValue_grows [Limits] (id : String) (now : Nat) (steps : Value) (supply : Supply) :
    supply.Grows (storeValue id now steps supply).2 := by
  rw [storeValue]
  split
  · exact .refl supply
  · exact storeSteps_grows id now _ supply

theorem set_id (campaign : Campaign) (field : CampaignField) (value : Value) :
    (campaign.set field value).id = campaign.id := by
  cases field <;> rfl

theorem updateFields_id [Limits] (updates : Value) (fields : List CampaignField)
    (campaign : Campaign) : (updateFields updates fields campaign).2.id = campaign.id := by
  induction fields generalizing campaign with
  | nil => rfl
  | cons field rest ih =>
    rw [updateFields]
    split
    · rfl
    · exact ih campaign
    · split
      · rfl
      · rw [ih, set_id]

end Campaign

namespace Store

variable {store : Store} {now : Nat} {supply : Supply}

section

variable [Limits]

theorem create_changed (payload : Value) :
    store.Changed (.create payload) supply (store.create payload now supply).store
      (store.create payload now supply).supply := by
  simp only [create]
  split
  · rename_i fields
    split
    · exact .left (.campaign supply)
    · have grows := Campaign.storeValue_grows supply.campaign.1 now
        ((Fields.getD fields "steps").orElse (.list [])) supply.campaign.2
      split
      · rename_i stored
        rw [stored] at grows
        exact .left ((Supply.Grows.campaign supply).trans grows)
      · rename_i stored
        rw [stored] at grows
        exact .added rfl rfl grows
  · exact .left (.campaign supply)

theorem update_changed (id : String) (updates : Value) :
    store.Changed (.update id updates) supply (store.update id updates now supply).store
      (store.update id updates now supply).supply := by
  rw [update]
  split
  · exact .left (.refl supply)
  · rename_i campaign found
    have known := lookup_eq_ok.mp found
    have same := Campaign.updateFields_id updates CampaignField.all campaign
    split
    · rename_i updated
      rw [updated] at same
      exact .replaced rfl known same (.refl supply)
    · rename_i updated
      rw [updated] at same
      split
      · exact .replaced rfl known same (.refl supply)
      · exact .replaced rfl known same (.refl supply)
      · rename_i steps named
        have grows := Campaign.storeValue_grows id now (steps.orElse (.list [])) supply
        split
        · rename_i stored
          rw [stored] at grows
          exact .replaced rfl known same grows
        · rename_i stored
          rw [stored] at grows
          exact .replaced rfl known same grows

theorem replaceSteps_changed (id : String) (steps : Value) :
    store.Changed (.replaceSteps id steps) supply (store.replaceSteps id steps now supply).store
      (store.replaceSteps id steps now supply).supply := by
  rw [replaceSteps]
  split
  · exact .left (.refl supply)
  · rename_i campaign found
    have grows := Campaign.storeValue_grows id now steps supply
    split
    · rename_i stored
      rw [stored] at grows
      exact .left grows
    · rename_i stored
      rw [stored] at grows
      exact .replaced rfl (lookup_eq_ok.mp found) rfl grows

theorem changed (store : Store) (call : Call) (now : Nat) (supply : Supply) :
    store.Changed call supply (store.call call now supply).store
      (store.call call now supply).supply := by
  cases call with
  | create payload => exact create_changed payload
  | update id updates => exact update_changed id updates
  | replaceSteps id steps => exact replaceSteps_changed id steps
  | get id => exact .left (.refl supply)

end

def Numbered (store : Store) (supply : Supply) : Prop :=
  ∀ id campaign, store.find? id = some campaign →
    campaign.id = id ∧ ∃ n ≤ supply.records, id = Supply.campaignId n

variable {after : Store} {call : Call} {next : Supply} {id : String} {campaign : Campaign}

theorem Numbered.later (numbered : store.Numbered supply) (grows : supply.Grows next) :
    store.Numbered next := by
  intro id campaign known
  obtain ⟨same, n, given, numbered⟩ := numbered id campaign known
  exact ⟨same, n, given.trans grows.records, numbered⟩

theorem Numbered.insert (numbered : store.Numbered supply) (same : campaign.id = id)
    (given : ∃ n ≤ supply.records, id = Supply.campaignId n) :
    (store.insert id campaign).Numbered supply := by
  intro other found known
  by_cases different : other = id
  · rw [different, find?_insert_self] at known
    cases known
    exact different ▸ ⟨same, given⟩
  · rw [find?_insert_of_ne different] at known
    exact numbered other found known

theorem Changed.grows (changed : store.Changed call supply after next) : supply.Grows next := by
  cases changed with
  | left grows => exact grows
  | replaced target known same grows => exact grows
  | added target named grows => exact (Supply.Grows.campaign supply).trans grows

theorem Changed.numbered (changed : store.Changed call supply after next)
    (numbered : store.Numbered supply) : after.Numbered next := by
  have later := numbered.later changed.grows
  cases changed with
  | left => exact later
  | replaced target known same =>
    obtain ⟨stands, given⟩ := later _ _ known
    exact later.insert (same.trans stands) given
  | added target named grows => exact later.insert named ⟨_, grows.records, rfl⟩

theorem Numbered.fresh (numbered : store.Numbered supply) :
    store.find? supply.campaign.1 = none := by
  rw [Option.eq_none_iff_forall_ne_some]
  intro campaign known
  obtain ⟨-, n, given, same⟩ := numbered _ campaign known
  have := Supply.id_injective "camp_" 8 same
  omega

theorem Changed.find?_eq (changed : store.Changed call supply after next)
    (numbered : store.Numbered supply) (known : store.find? id = some campaign)
    (aside : call.target? ≠ some id) : after.find? id = store.find? id := by
  cases changed with
  | left => rfl
  | replaced target => exact find?_insert_of_ne fun same => aside (same ▸ target)
  | added =>
    refine find?_insert_of_ne fun same => ?_
    rw [same, numbered.fresh] at known
    cases known

end Store

end Outreach
