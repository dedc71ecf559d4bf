import Outreach.Proofs.Limits
import Outreach.Proofs.Service.History

set_option autoImplicit false

namespace Outreach

namespace Value

variable [Limits]

def Flat (value : Value) : Prop := value.depth < Limits.copyDepth

theorem Flat.copied {value : Value} (flat : value.Flat) : value.copied = .ok value :=
  copied_eq_ok.mpr ⟨flat.le, rfl⟩

theorem Flat.orElse {value other : Value} (flat : value.Flat) (else_ : other.Flat) :
    (value.orElse other).Flat := by
  rw [Value.orElse]
  split
  · exact flat
  · exact else_

theorem flat_str (text : String) : (Value.str text).Flat := Limits.copyDepth_pos

theorem flat_empty : (Value.obj []).Flat := Limits.two_le_copyDepth

def StepList (steps : Value) : Prop :=
  ∃ items : List Fields, steps = .list (items.map .obj) ∧
    ∀ item ∈ items, (Value.obj item).depth + 2 ≤ Limits.copyDepth

end Value

namespace Campaign

variable {items : List Fields} {campaign : Campaign} {bound : Nat}

theorem readSteps_list [Limits]
    (flat : ∀ item ∈ items, (Value.obj item).depth + 2 ≤ Limits.copyDepth) :
    readSteps (.list (items.map .obj)) = .ok items := by
  have read : (items.map Value.obj).mapM readStep = .ok items := by
    rw [mapM_eq_ok, List.forall₂_map_left_iff, List.forall₂_same]
    exact fun item member => readStep_eq_ok.mpr
      (Value.copied_eq_ok.mpr ⟨Nat.le_of_add_right_le (flat item member), rfl⟩)
  exact bind_eq_ok.mpr ⟨_, rfl, read⟩

theorem depth_storedStep_le (campaign id : String) (now : Nat) (step : Fields) :
    (Value.obj (storedStep campaign id now step)).depth ≤ (Value.obj step).depth := by
  simp only [storedStep, Fields.merge, List.foldl_cons, List.foldl_nil, time]
  refine Nat.succ_le_succ ?_
  exact ((Fields.depthFields_set_text _ _ _).trans (Fields.depthFields_set_text _ _ _)).trans
    ((Fields.depthFields_set_text _ _ _).trans (Fields.depthFields_set_text _ _ _))

theorem depth_numbered_le {id : String} {now n : Nat}
    (fits : ∀ item ∈ items, (Value.obj item).depth ≤ bound) :
    ∀ step ∈ numbered id now n items, (Value.obj step).depth ≤ bound := by
  induction items generalizing n with
  | nil => exact nofun
  | cons item rest ih =>
    rw [List.forall_mem_cons] at fits
    rw [numbered, List.forall_mem_cons]
    exact ⟨(depth_storedStep_le ..).trans fits.1, ih fits.2⟩

theorem depth_stepsValue_le : campaign.stepsValue.depth ≤ bound + 1 ↔
    ∀ step ∈ campaign.steps, (Value.obj step).depth ≤ bound := by
  rw [stepsValue, Value.depth, Nat.add_le_add_iff_right, Value.depthItems_le, List.forall_mem_map]

end Campaign

namespace Call

variable [Limits]

def PlainFields (payload : Value) : Prop :=
  ∃ fields, payload = .obj fields ∧ (∀ field : CampaignField, (Fields.getD fields field.key).Flat) ∧
    ((Fields.getD fields "steps").orElse (.list [])).StepList

def Plain : Call → Prop
  | .create payload | .update _ payload => PlainFields payload
  | .replaceSteps _ steps => steps.StepList
  | .get _ => True

variable {call : Call} {payload : Value}

theorem PlainFields.create (plain : PlainFields payload) (field : CampaignField) :
    ∃ value, (Call.create payload).given (.field field) = .ok (some value) ∧ value.Flat := by
  obtain ⟨fields, rfl, flat, -⟩ := plain
  have flat := flat field
  cases field with
  | name =>
    refine ⟨_, rfl, ?_⟩
    rw [CampaignField.key, Fields.getD] at flat
    cases named : Fields.get? fields "name" with
    | none => exact Value.flat_str ""
    | some value => simpa [named] using flat
  | status => exact ⟨_, rfl, flat.orElse (Value.flat_str _)⟩
  | config =>
    have flat := flat.orElse Value.flat_empty
    exact ⟨_, congrArg (Except.map some) flat.copied, flat⟩

theorem PlainFields.update (plain : PlainFields payload) (id : String) (field : CampaignField) :
    ∃ value?, (Call.update id payload).given (.field field) = .ok value? ∧
      ∀ value, value? = some value → value.Flat := by
  obtain ⟨fields, rfl, flat, -⟩ := plain
  have flat := flat field
  simp only [given, Campaign.fieldUpdate, Campaign.update?]
  rw [Fields.getD] at flat
  cases named : Fields.get? fields field.key with
  | none =>
    refine ⟨none, rfl, ?_⟩
    rintro _ ⟨⟩
  | some value =>
    rw [named, Option.getD_some] at flat
    refine ⟨some value, by simp [flat.copied], ?_⟩
    rintro _ ⟨⟩
    exact flat

theorem Plain.field (plain : call.Plain) (field : CampaignField) :
    ∃ value?, call.given (.field field) = .ok value? ∧
      ∀ value, value? = some value → value.Flat := by
  cases call with
  | create payload =>
    obtain ⟨value, given, flat⟩ := PlainFields.create plain field
    refine ⟨some value, given, ?_⟩
    rintro _ ⟨⟩
    exact flat
  | update id updates => exact PlainFields.update plain id field
  | replaceSteps | get =>
    refine ⟨none, rfl, ?_⟩
    rintro _ ⟨⟩

theorem Plain.steps (plain : call.Plain) : ∃ items?, call.steps? = .ok items? ∧
    ∀ items, items? = some items →
      ∀ item ∈ items, (Value.obj item).depth + 2 ≤ Limits.copyDepth := by
  cases call with
  | create payload =>
    obtain ⟨fields, rfl, -, items, same, flat⟩ := plain
    refine ⟨some items, by simp [steps?, same, Campaign.readSteps_list flat], ?_⟩
    rintro _ ⟨⟩
    exact flat
  | update id updates =>
    obtain ⟨fields, rfl, -, items, same, flat⟩ := plain
    simp only [steps?, Campaign.stepsUpdate, Campaign.update?]
    rw [Fields.getD] at same
    cases named : Fields.get? fields "steps" with
    | none => exact ⟨none, rfl, by simp⟩
    | some value =>
      rw [named, Option.getD_some] at same
      refine ⟨some items, by simp [same, Campaign.readSteps_list flat], ?_⟩
      rintro _ ⟨⟩
      exact flat
  | replaceSteps id steps =>
    obtain ⟨items, rfl, flat⟩ := plain
    refine ⟨some items, by simp [steps?, Campaign.readSteps_list flat], ?_⟩
    rintro _ ⟨⟩
    exact flat
  | get id => exact ⟨none, rfl, by simp⟩

theorem Plain.clear (plain : call.Plain) : call.Clear := by
  rintro (field | _)
  · obtain ⟨value?, given, -⟩ := plain.field field
    rw [given, isOk_ok]
  · obtain ⟨items?, given, -⟩ := plain.steps
    simp [Call.given, given]

theorem Plain.flat (plain : call.Plain) {field : CampaignField} {value : Value}
    (written : call.writes (.field field) = some value) : value.Flat := by
  obtain ⟨value?, given, flat⟩ := plain.field field
  rw [plain.clear.writes, given, toOption_ok, Option.join_some] at written
  exact flat value written

end Call

namespace History

variable [Limits] {history : History} {call : Call} {now : Nat} {supply : Supply} {id : String}
  {campaign : Campaign}

def shown (history : History) (id : String) (now : Nat) : Except Failure Value :=
  (history.store.call (.get id) now history.supply).answer

def Plain (history : History) : Prop := ∀ record ∈ history.records, record.call.Plain

def Listed (history : History) : Prop := ∀ id campaign,
  history.store.find? id = some campaign → campaign.stepsValue.depth < Limits.copyDepth

theorem Listed.make (listed : history.Listed) (regular : history.Regular) (plain : call.Plain) :
    (history.make call now).Listed := by
  have insert (subject : String) (new : Campaign)
      (own : new.stepsValue.depth < Limits.copyDepth)
      (after : (history.make call now).store = history.store.insert subject new) :
      (history.make call now).Listed := by
    intro id campaign known
    rw [after] at known
    by_cases same : id = subject
    · subst same
      cases Store.find?_insert_self.symm.trans known
      exact own
    · exact listed id campaign ((Store.find?_insert_of_ne same).symm.trans known)
  cases regular.effect call now with
  | unknown _ _ _ after | none _ after =>
    exact fun id campaign known => listed id campaign (after ▸ known)
  | @rewritten id new _ _ after _ rewritten =>
    refine insert id new ?_ after
    obtain ⟨-, old, known, same⟩ | ⟨n, read, given, -, same, -⟩ := rewritten.steps
    · rw [Campaign.stepsValue, same]
      exact listed id old known
    · obtain ⟨items?, again, flat⟩ := plain.steps
      have flat := flat read (Except.ok.inj (again.symm.trans given))
      have least := Limits.two_le_copyDepth
      have fits : new.stepsValue.depth ≤ Limits.copyDepth - 2 + 1 := by
        rw [Campaign.depth_stepsValue_le, same]
        exact Campaign.depth_numbered_le fun item member => Nat.le_sub_of_add_le (flat item member)
      omega

theorem Regular.shown_of_plain (regular : history.Regular) (plain : history.Plain)
    (listed : history.Listed) (known : history.store.find? id = some campaign) :
    campaign.Shown := by
  have flat (field : CampaignField) : (campaign.get field).Flat := by
    obtain ⟨record, member, wrote⟩ :=
      List.exists_of_findSome?_eq_some (regular.written_of_known known (.field field))
    rw [Record.wrote] at wrote
    split at wrote
    · exact (plain record member).flat wrote
    · cases wrote
  exact Campaign.shown_iff.mpr
    ⟨⟨flat .name, flat .status, flat .config⟩, listed id campaign known⟩

theorem Regular.answer (regular : history.Regular) (plain : (history.make call now).Plain)
    (listed : (history.make call now).Listed) :
    (history.store.call call now history.supply).answer.isOk ∨
      ¬ Store.found (history.store.call call now history.supply).answer := by
  have clear := (plain _ List.mem_cons_self).clear
  have shown (id : String) (campaign : Campaign)
      (known : (history.store.call call now history.supply).store.find? id = some campaign) :
      campaign.Shown := (regular.make call now).shown_of_plain plain listed known
  have ended := history.store.ended call now history.supply
  generalize history.store.call call now history.supply = outcome at ended shown
  cases ended with
  | @read id same =>
    cases known : history.store.find? id with
    | none => exact .inr (by simp [Store.lookup, known, Except.bind, Store.found])
    | some campaign =>
      refine .inl ?_
      rw [Store.lookup_eq_ok.mpr known, Except.bind,
        Campaign.copied_eq_ok.mpr ⟨shown id campaign known, rfl⟩, isOk_ok]
  | unknown => exact .inr (by simp [Store.found])
  | refused refuses => exact absurd clear (Call.not_clear_of_error refuses)
  | halted _ _ refuses => exact absurd clear (Call.not_clear_of_error refuses)
  | created =>
    refine .inl ?_
    rw [Campaign.copied_eq_ok.mpr ⟨shown _ _ Store.find?_insert_self, rfl⟩, isOk_ok]
  | changed => exact .inl ((shown _ _ Store.find?_insert_self).isOk_answer call)

end History

namespace History

variable {supply : Supply}

def draft : Campaign :=
  { id := "camp_00000001", name := .str "Old", status := .str "draft", config := .obj []
    created := 1, updated := 1, steps := [] }

section

attribute [local instance] Limits.usual

end

end History

end Outreach
