import Outreach.Proofs.Limits
import Outreach.Proofs.Service.Ended

set_option autoImplicit false

namespace Outreach

theorem Campaign.Halfway.eq_iff [Limits] {call : Call} {old new : Campaign}
    (halfway : Campaign.Halfway call old new) :
    new = old ↔ ∀ field value, call.writes (.field field) = some value → old.get field = value := by
  have set (field : CampaignField) := halfway.field field
  constructor
  · rintro rfl field value written
    rw [set field, written, Option.getD_some]
  · intro written
    have same (field : CampaignField) : new.get field = old.get field := by
      rw [set field]
      cases given : call.writes (.field field) with
      | none => rfl
      | some value => exact (written field value given).symm
    have name := same .name
    have status := same .status
    have config := same .config
    obtain ⟨-, steps, id, created, updated⟩ := halfway
    cases new
    cases old
    simp_all [Campaign.get]

namespace Store

variable {store : Store} {call : Call} {now : Nat} {supply : Supply} {id : String}
  {campaign : Campaign} {failure : Failure}

theorem insert_eq_self_iff : store.insert id campaign = store ↔ store.find? id = some campaign := by
  constructor
  · intro same
    rw [← same, find?_insert_self]
  · intro known
    obtain ⟨front, back, before, after⟩ := exists_insert store id
    rw [known, Option.map_some, Option.toList_some, List.append_assoc, List.singleton_append,
      ← after campaign] at before
    exact congrArg Store.mk before.symm

def met? (store : Store) (call : Call) : Option Campaign := call.target?.bind store.find?

section

variable [Limits]

theorem find?_call_of_ne (aside : call.subject? supply ≠ some id) :
    (store.call call now supply).store.find? id = store.find? id := by
  have ended := store.ended call now supply
  generalize store.call call now supply = outcome at ended
  cases ended with
  | read | unknown | refused => rfl
  | halted same =>
    subst same
    exact find?_insert_of_ne fun meant => aside (congrArg some meant.symm)
  | created same =>
    subst same
    exact find?_insert_of_ne fun meant => aside (congrArg some meant.symm)
  | changed target =>
    rw [Call.subject?_of_target target] at aside
    exact find?_insert_of_ne fun meant => aside (congrArg some meant.symm)

theorem call_unknown (target : call.target? = some id) (missing : store.find? id = none) :
    store.call call now supply =
      { answer := .error (.notFound "Campaign" id), store, supply } := by
  cases call <;> cases target <;> simp [Store.call, update, replaceSteps, lookup, missing]

theorem stopped_at (unclear : ¬ call.Clear)
    (known : ∀ id, call.target? = some id → store.find? id ≠ none) (now : Nat) (supply : Supply) :
    ∃ part defect, call.given part = .error defect ∧
      (store.call call now supply).answer = .error (.defect defect) := by
  have ended := store.ended call now supply
  generalize store.call call now supply = outcome at ended
  cases ended with
  | read same => exact absurd (same ▸ Call.clear_get) unclear
  | unknown target missing => exact absurd missing (known _ target)
  | refused refuses => exact ⟨_, _, refuses, rfl⟩
  | halted _ _ refuses => exact ⟨_, _, refuses, rfl⟩
  | created _ clear => exact absurd clear unclear
  | changed _ _ clear => exact absurd clear unclear

theorem stopped_halfway {old : Campaign} (unclear : ¬ call.Clear) (target : call.target? = some id)
    (known : store.find? id = some old) (now : Nat) (supply : Supply) :
    ∃ new, (store.call call now supply).store = store.insert id new ∧
      Campaign.Halfway call old new := by
  have ended := store.ended call now supply
  generalize store.call call now supply = outcome at ended
  cases ended with
  | read same => exact absurd (same ▸ Call.clear_get) unclear
  | unknown other missing =>
    cases target.symm.trans other
    cases missing.symm.trans known
  | refused refuses nothing =>
    refine ⟨old, (insert_eq_self_iff.mpr known).symm, fun field => ?_, rfl, rfl, rfl, rfl⟩
    rw [nothing, Option.getD_none]
  | halted same other refuses halfway =>
    subst same
    cases target
    cases known.symm.trans other
    exact ⟨_, rfl, halfway⟩
  | created _ clear => exact absurd clear unclear
  | changed _ _ clear => exact absurd clear unclear

theorem stopped_untouched (unclear : ¬ call.Clear) (new : call.target? = none) :
    (store.call call now supply).store = store := by
  have ended := store.ended call now supply
  generalize store.call call now supply = outcome at ended
  cases ended with
  | read | refused => rfl
  | unknown target | changed target => cases new.symm.trans target
  | halted same =>
    subst same
    cases new
  | created _ clear => exact absurd clear unclear

theorem stopped_whole (unclear : ¬ call.Clear) :
    (store.call call now supply).store = store ↔ ∀ old, store.met? call = some old →
      ∀ part value, call.writes part = some value → old.part part = value := by
  cases target : call.target? with
  | none => simp [stopped_untouched unclear target, met?, target]
  | some id =>
    cases known : store.find? id with
    | none => simp [call_unknown target known, met?, target, known]
    | some old =>
      obtain ⟨new, after, halfway⟩ := stopped_halfway unclear target known now supply
      have met : store.met? call = some old := by rw [met?, target, Option.bind_some, known]
      rw [after, insert_eq_self_iff, known, Option.some_inj, eq_comm, halfway.eq_iff]
      constructor
      · rintro written _ found (field | _) value sets
        · cases met.symm.trans found
          exact written field value sets
        · cases (Call.writes_steps_of_unclear unclear).symm.trans sets
      · intro written field value sets
        exact written old met (.field field) value sets

theorem unshown (clear : call.Clear) (subject : call.subject? supply = some id)
    (known : ∀ id, call.target? = some id → store.find? id ≠ none)
    (failed : (store.call call now supply).answer = .error failure) :
    ∃ new next, (store.call call now supply).store = store.insert id new ∧
      new.answer call = .error failure ∧ failure = .defect .tooDeep ∧ new.updated = now ∧
        Campaign.Rewritten call id now supply next (store.met? call) new := by
  have tooDeep (new : Campaign) (call : Call) (hidden : new.answer call = .error failure) :
      failure = .defect .tooDeep := by
    obtain ⟨value, shown⟩ | known := new.answer_cases call
    · cases shown.symm.trans hidden
    · exact Except.error.inj (hidden.symm.trans known)
  have ended := store.ended call now supply
  generalize store.call call now supply = outcome at ended failed
  cases ended with
  | read same =>
    subst same
    cases subject
  | unknown target missing => exact absurd missing (known _ target)
  | refused refuses => exact absurd clear (Call.not_clear_of_error refuses)
  | halted _ _ refuses => exact absurd clear (Call.not_clear_of_error refuses)
  | @created payload new next same _ rewritten _ times =>
    subst same
    cases subject
    exact ⟨new, next, rfl, failed, tooDeep new (.create payload) failed, times.2, rewritten⟩
  | @changed _ old new next target found _ rewritten time =>
    cases (Call.subject?_of_target target).symm.trans subject
    have met : store.met? call = some old := by rw [met?, target, Option.bind_some, found]
    exact ⟨new, next, rfl, failed, tooDeep new _ failed, time, met ▸ rewritten⟩

structure Interrupted (store : Store) (call : Call) (now : Nat) (supply : Supply)
    (failure : Failure) (after : Store) : Prop where
  aside : ∀ other, call.subject? supply ≠ some other → after.find? other = store.find? other
  read : call.subject? supply = none → after = store
  unknown : ∀ id, call.target? = some id → store.find? id = none →
    failure = .notFound "Campaign" id ∧ after = store
  -- Some part cannot be set: what was set before it stays, and nothing else is new.
  cause : ¬ call.Clear → (∀ id, call.target? = some id → store.find? id ≠ none) →
    ∃ part defect, call.given part = .error defect ∧ failure = .defect defect
  halfway : ¬ call.Clear → ∀ id old, call.target? = some id → store.find? id = some old →
    ∃ new, after = store.insert id new ∧ Campaign.Halfway call old new
  untouched : ¬ call.Clear → call.target? = none → after = store
  whole : ¬ call.Clear → (after = store ↔ ∀ old, store.met? call = some old →
    ∀ part value, call.writes part = some value → old.part part = value)
  -- All parts can be set: they are, and the campaign cannot be shown.
  unshown : call.Clear → ∀ id, call.subject? supply = some id →
    (∀ id, call.target? = some id → store.find? id ≠ none) →
      ∃ new next, after = store.insert id new ∧ new.answer call = .error failure ∧
        failure = .defect .tooDeep ∧ new.updated = now ∧
        Campaign.Rewritten call id now supply next (store.met? call) new

theorem interrupted (failed : (store.call call now supply).answer = .error failure) :
    store.Interrupted call now supply failure (store.call call now supply).store where
  aside other meant := find?_call_of_ne meant
  read meant := by
    cases call <;> cases meant
    rfl
  unknown id target missing := by
    rw [call_unknown target missing] at failed ⊢
    cases failed
    exact ⟨rfl, rfl⟩
  cause unclear known := by
    obtain ⟨part, defect, refuses, answer⟩ := stopped_at unclear known now supply
    cases answer.symm.trans failed
    exact ⟨part, defect, refuses, rfl⟩
  halfway unclear id old target known := stopped_halfway unclear target known now supply
  untouched unclear target := stopped_untouched unclear target
  whole unclear := stopped_whole unclear
  unshown clear id subject known := Store.unshown clear subject known failed

end

section

attribute [local instance] Limits.usual

def listed : Store :=
  (Store.empty.call (.create (.obj [("name", .str "Old")])) 1 Supply.initial).store

def retitle : Call :=
  .update "camp_00000001" (.obj [("name", .str "New"), ("steps", .list [.int 1])])

theorem retitle_interrupted :
    listed.Interrupted retitle 2 Supply.initial (.defect .notCollection)
      (listed.call retitle 2 Supply.initial).store :=
  interrupted rfl

theorem retitle_not_undone :
    (listed.call retitle 2 Supply.initial).answer = .error (.defect .notCollection) ∧
      (listed.find? "camp_00000001").map Campaign.name = some (.str "Old") ∧
        ((listed.call retitle 2 Supply.initial).store.find? "camp_00000001").map Campaign.name =
          some (.str "New") :=
  ⟨rfl, rfl, rfl⟩

end

end Store

end Outreach
