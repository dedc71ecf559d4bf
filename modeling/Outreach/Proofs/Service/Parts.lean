import Outreach.Proofs.Service.Kept

set_option autoImplicit false

namespace Outreach

inductive CampaignPart where
  | field (field : CampaignField)
  | steps
  deriving DecidableEq

def CampaignPart.all : List CampaignPart := CampaignField.all.map .field ++ [.steps]

namespace Campaign

variable {campaign : Campaign} {fields payload : Fields} {supply : Supply} {now : Nat}

def get (campaign : Campaign) : CampaignField → Value
  | .name => campaign.name
  | .status => campaign.status
  | .config => campaign.config

theorem get_set (campaign : Campaign) (field other : CampaignField) (value : Value) :
    (campaign.set field value).get other = if other = field then value else campaign.get other := by
  cases field <;> cases other <;> rfl

def plainSteps (steps : List Fields) : Value := .list (steps.map fun step => .obj (sent step))

def part (campaign : Campaign) : CampaignPart → Value
  | .field field => campaign.get field
  | .steps => plainSteps campaign.steps

theorem sent_set {name : String} (own : name ∈ ownKeys) (fields : Fields) (value : Value) :
    sent (fields.set name value) = sent fields := by
  have dropped (key : Key) (is : key.is name = true) : ownKeys.any key.is = true :=
    List.any_eq_true.mpr ⟨name, own, is⟩
  induction fields with
  | nil =>
    have own := dropped name (by simp [Key.is])
    simp [Fields.set, sent, own]
  | cons field rest ih =>
    obtain ⟨key, old⟩ := field
    rw [sent, sent] at ih
    by_cases is : key.is name
    · simp [Fields.set, Key.same_text, sent, is, dropped key is]
    · simp [Fields.set, Key.same_text, sent, is, List.filter_cons, ih]

@[simp] theorem sent_storedStep (campaign id : String) (now : Nat) (step : Fields) :
    sent (storedStep campaign id now step) = sent step := by
  simp only [storedStep, Fields.merge, List.foldl_cons, List.foldl_nil]
  rw [sent_set (by decide), sent_set (by decide), sent_set (by decide), sent_set (by decide)]

@[simp] theorem get?_id_storedStep (campaign id : String) (now : Nat) (step : Fields) :
    (storedStep campaign id now step).get? "id" = some (.str id) := by
  simp only [storedStep, Fields.merge, List.foldl_cons, List.foldl_nil]
  rw [Fields.get?_set_of_ne _ _ (by decide), Fields.get?_set_of_ne _ _ (by decide),
    Fields.get?_set_of_ne _ _ (by decide), Fields.get?_set_self]

@[simp] theorem get?_campaign_storedStep (campaign id : String) (now : Nat) (step : Fields) :
    (storedStep campaign id now step).get? "campaign_id" = some (.str campaign) := by
  simp only [storedStep, Fields.merge, List.foldl_cons, List.foldl_nil]
  rw [Fields.get?_set_of_ne _ _ (by decide), Fields.get?_set_of_ne _ _ (by decide),
    Fields.get?_set_self]

def readStep [Limits] (step : Value) : Except Defect Fields :=
  match step.copied with
  | .error defect => .error defect
  | .ok (.obj fields) => .ok fields
  | .ok _ => .error .notCollection

theorem readStep_eq_ok [Limits] {step : Value} {fields : Fields} :
    readStep step = .ok fields ↔ step.copied = .ok (.obj fields) := by
  rw [readStep]
  cases step.copied with
  | error defect => simp
  | ok copy => cases copy <;> simp

def readSteps [Limits] (steps : Value) : Except Defect (List Fields) :=
  steps.elements >>= fun items => items.mapM readStep

def numbered (campaign : String) (now : Nat) : Nat → List Fields → List Fields
  | _, [] => []
  | n, step :: rest =>
    storedStep campaign (Supply.stepId (n + 1)) now step :: numbered campaign now (n + 1) rest

theorem plainSteps_numbered (campaign : String) (now n : Nat) (steps : List Fields) :
    plainSteps (numbered campaign now n steps) = plainSteps steps := by
  induction steps generalizing n with
  | nil => rfl
  | cons step rest ih =>
    simp only [plainSteps, numbered, List.map_cons, sent_storedStep, Value.list.injEq,
      List.cons.injEq, true_and] at ih ⊢
    exact ih (n + 1)

section

variable [Limits]

theorem storeSteps_of_ok (id : String) (now : Nat) {steps : List Value} {read : List Fields}
    (all : steps.mapM readStep = .ok read) (supply : Supply) :
    storeSteps id now steps supply = (.ok (numbered id now supply.records read),
      { supply with records := supply.records + read.length }) := by
  induction steps generalizing read supply with
  | nil =>
    cases all
    rfl
  | cons step rest ih =>
    rw [List.mapM_cons, bind_eq_ok] at all
    obtain ⟨first, firstRead, all⟩ := all
    obtain ⟨others, othersRead, same⟩ := bind_eq_ok.mp all
    cases same
    have copied := readStep_eq_ok.mp firstRead
    have records : supply.records + 1 + others.length = supply.records + (others.length + 1) := by
      omega
    simp only [storeSteps, copied, Supply.step, ih othersRead, numbered, List.length_cons,
      Except.map, records]

theorem storeSteps_of_error (id : String) (now : Nat) {steps : List Value} {defect : Defect}
    (failed : steps.mapM readStep = .error defect) (supply : Supply) :
    (storeSteps id now steps supply).1 = .error (.defect defect) := by
  induction steps generalizing supply with
  | nil => cases failed
  | cons step rest ih =>
    rw [List.mapM_cons, bind_eq_error] at failed
    rw [storeSteps]
    cases copied : step.copied with
    | error cause => simp_all [readStep]
    | ok copy =>
      cases copy with
      | obj fields =>
        have read := readStep_eq_ok.mpr copied
        simp only [read, reduceCtorEq, Except.ok.injEq, exists_eq_left', false_or,
          bind_eq_error] at failed
        obtain later | ⟨others, -, never⟩ := failed
        · simp [ih later]
        · cases never
      | _ => simp_all [readStep]

theorem storeValue_of_ok (id : String) (now : Nat) {steps : Value} {read : List Fields}
    (all : readSteps steps = .ok read) (supply : Supply) :
    storeValue id now steps supply = (.ok (numbered id now supply.records read),
      { supply with records := supply.records + read.length }) := by
  obtain ⟨items, elements, all⟩ := bind_eq_ok.mp all
  simp only [storeValue, elements, storeSteps_of_ok id now all supply]

theorem storeValue_of_error (id : String) (now : Nat) {steps : Value} {defect : Defect}
    (failed : readSteps steps = .error defect) (supply : Supply) :
    (storeValue id now steps supply).1 = .error (.defect defect) := by
  rw [storeValue]
  obtain failed | ⟨items, elements, failed⟩ := bind_eq_error.mp failed
  · simp only [failed]
  · simp only [elements, storeSteps_of_error id now failed supply]

theorem storeValue_cases (id : String) (now : Nat) (steps : Value) (supply : Supply) :
    (∃ defect next, readSteps steps = .error defect ∧
      storeValue id now steps supply = (.error (.defect defect), next) ∧ supply.Grows next) ∨
    ∃ read next, readSteps steps = .ok read ∧
      storeValue id now steps supply = (.ok (numbered id now supply.records read), next) ∧
      supply.records + read.length ≤ next.records ∧ supply.Grows next := by
  have grows := storeValue_grows id now steps supply
  cases read : readSteps steps with
  | error defect =>
    have failed := storeValue_of_error id now read supply
    exact .inl ⟨defect, _, rfl, Prod.ext failed rfl, grows⟩
  | ok payloads =>
    have stored := storeValue_of_ok id now read supply
    rw [stored] at grows
    exact .inr ⟨payloads, _, rfl, stored, Nat.le_refl _, grows⟩

def fieldUpdate (updates : Value) (field : CampaignField) : Except Defect (Option Value) :=
  match update? updates field.key with
  | .error defect => .error defect
  | .ok none => .ok none
  | .ok (some value) => value.copied.map some

def stepsUpdate (updates : Value) : Except Defect (Option (List Fields)) :=
  match update? updates "steps" with
  | .error defect => .error defect
  | .ok none => .ok none
  | .ok (some steps) => (readSteps (steps.orElse (.list []))).map some

end

section Fields

variable (updates : Value) (first : CampaignField) (rest : List CampaignField)

theorem updateFields_of_error [Limits] {defect : Defect}
    (failed : fieldUpdate updates first = .error defect) (campaign : Campaign) :
    updateFields updates (first :: rest) campaign = (.error defect, campaign) := by
  rw [fieldUpdate] at failed
  rw [updateFields]
  split at failed
  · simp_all
  · cases failed
  · simp_all [map_eq_error]

theorem updateFields_of_ok [Limits] {given : Option Value}
    (read : fieldUpdate updates first = .ok given) (campaign : Campaign) :
    updateFields updates (first :: rest) campaign =
      updateFields updates rest (given.elim campaign (campaign.set first)) := by
  rw [fieldUpdate] at read
  rw [updateFields]
  split at read
  · cases read
  · cases read
    simp_all
  · obtain ⟨value, copied, rfl⟩ := map_eq_ok.mp read
    simp_all

end Fields

variable [Limits]

def settled (updates : Value) (fields : List CampaignField) : List CampaignField :=
  fields.takeWhile fun field => (fieldUpdate updates field).isOk

theorem updateFields_get {fields : List CampaignField} (updates : Value) (distinct : fields.Nodup)
    (campaign : Campaign) (field : CampaignField) :
    (updateFields updates fields campaign).2.get field =
      if field ∈ settled updates fields then
        ((fieldUpdate updates field).toOption.join).getD (campaign.get field)
      else campaign.get field := by
  induction fields generalizing campaign with
  | nil => rfl
  | cons first rest ih =>
    obtain ⟨new, distinct⟩ := List.nodup_cons.mp distinct
    cases read : fieldUpdate updates first with
    | error defect =>
      simp [updateFields_of_error updates first rest read, settled, read]
    | ok given =>
      have settles : settled updates (first :: rest) = first :: settled updates rest := by
        simp [settled, read]
      rw [updateFields_of_ok updates first rest read, ih distinct, settles]
      by_cases same : field = first
      · subst same
        have late : field ∉ settled updates rest := fun member =>
          new ((List.takeWhile_sublist _).subset member)
        cases given <;> simp [late, read, get_set]
      · cases given <;> simp [same, get_set]

theorem updateFields_frame (updates : Value) (fields : List CampaignField) (campaign : Campaign) :
    (updateFields updates fields campaign).2.steps = campaign.steps ∧
      (updateFields updates fields campaign).2.created = campaign.created ∧
      (updateFields updates fields campaign).2.updated = campaign.updated := by
  induction fields generalizing campaign with
  | nil => exact ⟨rfl, rfl, rfl⟩
  | cons first rest ih =>
    cases read : fieldUpdate updates first with
    | error defect => simp [updateFields_of_error updates first rest read]
    | ok given =>
      rw [updateFields_of_ok updates first rest read]
      cases given with
      | none => exact ih campaign
      | some value => cases first <;> exact ih _

theorem updateFields_fst (updates : Value) (fields : List CampaignField) (campaign : Campaign) :
    match (updateFields updates fields campaign).1 with
    | .ok _ => ∀ field ∈ fields, (fieldUpdate updates field).isOk
    | .error defect => ∃ field ∈ fields, fieldUpdate updates field = .error defect := by
  induction fields generalizing campaign with
  | nil => simp [updateFields]
  | cons first rest ih =>
    cases read : fieldUpdate updates first with
    | error defect => simp [updateFields_of_error updates first rest read, read]
    | ok given =>
      have later := ih (given.elim campaign (campaign.set first))
      rw [updateFields_of_ok updates first rest read]
      split at later
      · rename_i done
        simp_all
      · rename_i failed
        simp_all

end Campaign

namespace Call

def steps? [Limits] : Call → Except Defect (Option (List Fields))
  | .create (.obj fields) =>
    (Campaign.readSteps ((Fields.getD fields "steps").orElse (.list []))).map some
  | .create _ => .error .notObject
  | .update _ updates => Campaign.stepsUpdate updates
  | .replaceSteps _ steps => (Campaign.readSteps steps).map some
  | .get _ => .ok none

def given [Limits] : Call → CampaignPart → Except Defect (Option Value)
  | .create (.obj fields), .field .name => .ok (some ((Fields.get? fields "name").getD (.str "")))
  | .create (.obj fields), .field .status =>
    .ok (some ((Fields.getD fields "status").orElse (.str Status.draft.name)))
  | .create (.obj fields), .field .config =>
    ((Fields.getD fields "config").orElse (.obj [])).copied.map some
  | .create _, .field _ => .error .notObject
  | .update _ updates, .field field => Campaign.fieldUpdate updates field
  | .replaceSteps _ _, .field _ | .get _, .field _ => .ok none
  | call, .steps => call.steps?.map (Option.map Campaign.plainSteps)

-- The parts that a call comes to. A new campaign is stored with all parts or not at all.
def settled [Limits] (call : Call) : List CampaignPart :=
  CampaignPart.all.takeWhile fun part => (call.given part).isOk

def reached [Limits] : Call → List CampaignPart
  | .create payload =>
    if (create payload).settled = CampaignPart.all then CampaignPart.all else []
  | call => call.settled

def writes [Limits] (call : Call) (part : CampaignPart) : Option Value :=
  if part ∈ call.reached then (call.given part).toOption.join else none

def Clear [Limits] (call : Call) : Prop := ∀ part, (call.given part).isOk

def subject? (supply : Supply) : Call → Option String
  | .create _ => some supply.campaign.1
  | .update campaign _ | .replaceSteps campaign _ => some campaign
  | .get _ => none

variable {call : Call} {part : CampaignPart} {id : String} {updates : Value}

theorem subject?_of_target {supply : Supply} (target : call.target? = some id) :
    call.subject? supply = some id := by
  cases call <;> cases target <;> rfl

theorem clear_of [Limits] (fields : ∀ field, (call.given (.field field)).isOk)
    (steps : (call.given .steps).isOk) : call.Clear := by
  rintro (field | _)
  · exact fields field
  · exact steps

theorem clear_get [Limits] : (Call.get id).Clear := by
  rintro (field | _) <;> rfl

theorem not_clear_of_error [Limits] {defect : Defect} (refuses : call.given part = .error defect) :
    ¬ call.Clear := fun clear => by
  have fine := clear part
  rw [refuses] at fine
  cases fine

theorem CampaignPart.mem_all (part : CampaignPart) : part ∈ CampaignPart.all := by
  obtain field | _ := part
  · cases field <;> decide
  · decide

variable [Limits]

theorem settled_eq_all : call.settled = CampaignPart.all ↔ call.Clear := by
  rw [settled, List.takeWhile_eq_self_iff]
  exact ⟨fun each part => each part (CampaignPart.mem_all part), fun each part _ => each part⟩

theorem isOk_of_mem_reached (reaches : part ∈ call.reached) : (call.given part).isOk := by
  have settles (inside : part ∈ call.settled) : (call.given part).isOk := by
    simpa using List.mem_takeWhile_imp inside
  cases call with
  | create payload =>
    rw [reached] at reaches
    split at reaches
    · rename_i whole
      exact settled_eq_all.mp whole part
    · cases reaches
  | _ => exact settles reaches

theorem Clear.reached (clear : call.Clear) : call.reached = CampaignPart.all := by
  have whole := settled_eq_all.mpr clear
  cases call with
  | create payload => rw [Call.reached, if_pos whole]
  | _ => exact whole

theorem Clear.writes (clear : call.Clear) (part : CampaignPart) :
    call.writes part = (call.given part).toOption.join := by
  rw [Call.writes, clear.reached, if_pos (CampaignPart.mem_all part)]

theorem Clear.writes_steps (clear : call.Clear) {read : List Fields}
    (given : call.steps? = .ok (some read)) :
    call.writes .steps = some (Campaign.plainSteps read) := by
  rw [clear.writes, Call.given, given]
  rfl

theorem writes_of_error {defect : Defect} (refuses : call.given part = .error defect) :
    call.writes part = none := by
  rw [Call.writes, if_neg]
  intro reaches
  have fine := isOk_of_mem_reached reaches
  rw [refuses] at fine
  cases fine

theorem writes_create_of_error {payload : Value} {refused : CampaignPart} {defect : Defect}
    (refuses : (Call.create payload).given refused = .error defect) (part : CampaignPart) :
    (Call.create payload).writes part = none := by
  have unclear : (Call.create payload).settled ≠ CampaignPart.all :=
    mt settled_eq_all.mp (not_clear_of_error refuses)
  rw [writes, Call.reached, if_neg unclear, if_neg List.not_mem_nil]

theorem field_mem_reached_update {field : CampaignField} :
    .field field ∈ (Call.update id updates).reached ↔
      field ∈ Campaign.settled updates CampaignField.all := by
  have same : ((fun part => ((update id updates).given part).isOk) ∘ CampaignPart.field) =
      fun field => (Campaign.fieldUpdate updates field).isOk := rfl
  simp only [reached, settled, CampaignPart.all, List.takeWhile_append, List.takeWhile_map, same,
    Campaign.settled]
  split
  · rename_i whole
    have all : Campaign.settled updates CampaignField.all = CampaignField.all :=
      (List.takeWhile_sublist _).eq_of_length (by simpa [Campaign.settled] using whole)
    rw [Campaign.settled] at all
    rw [all, List.takeWhile_cons]
    split <;> simp
  · simp

theorem writes_field_update (field : CampaignField) :
    (Call.update id updates).writes (.field field) =
      if field ∈ Campaign.settled updates CampaignField.all then
        (Campaign.fieldUpdate updates field).toOption.join
      else none := by
  simp only [writes, field_mem_reached_update, given]

theorem steps_mem_settled : .steps ∈ call.settled ↔ call.Clear := by
  rw [← settled_eq_all]
  refine ⟨fun settles => ?_, fun whole => whole ▸ CampaignPart.mem_all .steps⟩
  rw [settled, CampaignPart.all, List.takeWhile_append] at settles ⊢
  split at settles
  · rename_i whole
    rw [if_pos whole]
    have last : (call.given .steps).isOk := by simpa [List.takeWhile_cons] using settles
    simp [last]
  · simp [List.takeWhile_map] at settles

theorem writes_steps_of_unclear (unclear : ¬ call.Clear) : call.writes .steps = none := by
  rw [writes, if_neg]
  intro reaches
  cases call with
  | create payload => simp [reached, settled_eq_all, unclear] at reaches
  | _ => exact unclear (steps_mem_settled.mp reaches)

end Call

namespace Campaign

structure Rewritten [Limits] (call : Call) (id : String) (now : Nat) (supply next : Supply)
    (old? : Option Campaign) (new : Campaign) : Prop where
  field : ∀ field, some (new.get field) =
    (call.writes (.field field)).or (old?.map fun old => old.get field)
  steps : (call.writes .steps = none ∧ ∃ old, old? = some old ∧ new.steps = old.steps) ∨
    ∃ n read, call.steps? = .ok (some read) ∧ call.writes .steps = some (plainSteps read) ∧
      new.steps = numbered id now n read ∧ supply.records ≤ n ∧ n + read.length ≤ next.records
  same : ∀ old, old? = some old → new.id = old.id ∧ new.created = old.created

-- What an update leaves of a campaign before its steps are set: not even the time is new.
structure Halfway [Limits] (call : Call) (old new : Campaign) : Prop where
  field : ∀ field, new.get field = (call.writes (.field field)).getD (old.get field)
  steps : new.steps = old.steps
  id : new.id = old.id
  created : new.created = old.created
  updated : new.updated = old.updated

variable {call : Call} {id : String} {now : Nat} {supply next : Supply} {old new : Campaign}
  {updates : Value}

theorem Rewritten.part [Limits] {old? : Option Campaign}
    (rewritten : Rewritten call id now supply next old? new) (part : CampaignPart) :
    some (new.part part) = (call.writes part).or (old?.map fun old => old.part part) := by
  obtain field | _ := part
  · exact rewritten.field field
  · obtain ⟨unwritten, old, rfl, same⟩ | ⟨n, read, -, written, same, -⟩ := rewritten.steps
    · simp [unwritten, Campaign.part, same]
    · simp [written, Campaign.part, same, plainSteps_numbered]

theorem updateFields_halfway [Limits] (id : String) (updates : Value) (campaign : Campaign) :
    Halfway (.update id updates) campaign (updateFields updates CampaignField.all campaign).2 := by
  obtain ⟨steps, created, updated⟩ := updateFields_frame updates CampaignField.all campaign
  refine ⟨fun field => ?_, steps, updateFields_id updates _ campaign, created, updated⟩
  rw [updateFields_get updates (by decide), Call.writes_field_update]
  split <;> rfl

namespace Halfway

theorem rewritten [Limits] (halfway : Halfway call old new) (unwritten : call.writes .steps = none)
    (time : Nat) : Rewritten call id now supply next (some old) { new with updated := time } where
  field field := by
    have set := halfway.field field
    rw [Option.map_some, Option.or_some, ← set]
    cases field <;> rfl
  steps := .inl ⟨unwritten, old, rfl, halfway.steps⟩
  same := by
    rintro _ ⟨⟩
    exact ⟨halfway.id, halfway.created⟩

theorem replaced [Limits] (halfway : Halfway call old new) {read : List Fields}
    (clear : call.Clear) (given : call.steps? = .ok (some read))
    (within : supply.records + read.length ≤ next.records) :
    Rewritten call id now supply next (some old)
      (new.replaced (numbered id now supply.records read) now) where
  field field := by
    have set := halfway.field field
    rw [Option.map_some, Option.or_some, ← set]
    cases field <;> rfl
  steps := .inr ⟨_, read, given, clear.writes_steps given, rfl, Nat.le_refl _, within⟩
  same := by
    rintro _ ⟨⟩
    exact ⟨halfway.id, halfway.created⟩

end Halfway

end Campaign

end Outreach
