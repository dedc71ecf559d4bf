import Outreach.Proofs.Campaign.Outcomes
import Outreach.Proofs.Service.Ended
import Outreach.Proofs.Session.Failed
import Outreach.Proofs.Session.Persisted
import Outreach.Proofs.Session.Sent

set_option autoImplicit false

namespace Outreach

theorem Store.Changed.stays {store after : Store} {call : Call} {supply next : Supply}
    {id : String} {campaign : Campaign} (changed : store.Changed call supply after next)
    (known : store.find? id = some campaign) : ∃ kept, after.find? id = some kept := by
  have insert (other : String) (new : Campaign) :
      ∃ kept, (store.insert other new).find? id = some kept := by
    by_cases same : id = other
    · exact ⟨new, same ▸ Store.find?_insert_self⟩
    · exact ⟨campaign, (Store.find?_insert_of_ne same).trans known⟩
  cases changed with
  | left => exact ⟨campaign, known⟩
  | replaced => exact insert _ _
  | added => exact insert _ _

-- Once a call comes to its campaign, only what was sent can stop it.
theorem Store.exists_defect [Limits] {store : Store} {call : Call} {now : Nat} {supply : Supply}
    {id : String} {failure : Failure} (meant : call.subject? supply = some id)
    (known : call.target? = some id → store.find? id ≠ none)
    (failed : (store.call call now supply).answer = .error failure) :
    ∃ defect, failure = .defect defect := by
  have ended := store.ended call now supply
  generalize store.call call now supply = outcome at failed ended
  cases ended with
  | read same =>
    subst same
    cases meant
  | unknown target missing =>
    cases (Call.subject?_of_target target).symm.trans meant
    exact absurd missing (known target)
  | refused | halted =>
    cases failed
    exact ⟨_, rfl⟩
  | created => exact ⟨_, (Campaign.copied_eq_error.mp failed).2⟩
  | @changed _ _ new =>
    obtain ⟨value, answered⟩ | answered := new.answer_cases call
    · cases answered.symm.trans failed
    · cases answered.symm.trans failed
      exact ⟨_, rfl⟩

def Action.Unclaimed : Action → Prop
  | .openNew _ campaign | .openSteps _ campaign _ => campaign = none
  | _ => True

namespace Editor

variable {editor others after : Editor} {action : Action} {session result : Session} {now : Nat}
  {id campaign : String} {kept : Campaign} {graph : Graph} {new : Option String}

theorem InMemory.stays_call [Limits] [Client] (memory : editor.InMemory)
    (known : editor.stored? campaign = some kept) (request : Call) (now : Nat) :
    ∃ kept, (editor.call request now).editor.stored? campaign = some kept := by
  obtain ⟨store, service, -⟩ := memory
  simp only [stored?, service] at known
  simp only [stored?, Editor.call, Service.call, service]
  exact (store.changed request now editor.supply).stays known

theorem InMemory.stays_callAll [Limits] [Client] (memory : editor.InMemory)
    (known : editor.stored? campaign = some kept) (calls : List Call) (now : Nat) :
    ∃ kept, (editor.callAll calls now).stored? campaign = some kept := by
  induction calls generalizing editor kept with
  | nil => exact ⟨kept, known⟩
  | cons request rest ih =>
    obtain ⟨between, found⟩ := memory.stays_call known request now
    exact ih (memory.call request now).1 found

theorem InMemory.stays [Limits] [Client] (memory : editor.InMemory)
    (known : editor.stored? campaign = some kept) (action : Action) (now : Nat) :
    ∃ kept, (editor.perform action now).stored? campaign = some kept := by
  obtain ⟨calls, made⟩ := editor.exists_calls action now
  obtain ⟨after, found⟩ := memory.stays_callAll known calls now
  refine ⟨after, ?_⟩
  rwa [stored?, ← made.service] at found

def Carries (editor after : Editor) (new : Option String) : Prop :=
  ∀ id session, after.session id = .ok session →
    (∃ old, editor.session id = .ok old ∧ session.graph.campaign = old.graph.campaign) ∨
      session.graph.campaign = new

theorem carries_of_same (same : after.sessions = editor.sessions) (new : Option String) :
    editor.Carries after new := fun id session found =>
  .inl ⟨session, (session_congr same id).symm.trans found, rfl⟩

theorem carries_openGraph (sessions : others.sessions = editor.sessions) :
    editor.Carries (others.openGraph graph now).2 graph.campaign := by
  intro id session found
  obtain before | rfl := session_openGraph found
  · exact .inl ⟨session, (session_congr sessions id).symm.trans before, rfl⟩
  · exact .inr rfl

theorem carries_openSteps [Limits] (sessions : others.sessions = editor.sessions)
    (name : Option String) (campaign : Option String) (steps : List Value) (now : Nat) :
    editor.Carries (others.openSteps name campaign steps now).editor campaign := by
  rw [openSteps]
  cases made : Graph.ofSteps name campaign steps now others.supply with
  | mk result supply =>
    cases result with
    | error failure => exact carries_of_same sessions campaign
    | ok graph =>
      have carries : editor.Carries (Editor.openGraph { others with supply } graph now).2
          graph.campaign := carries_openGraph sessions
      rwa [(Graph.ofSteps_kept made).1] at carries

theorem carries_put (sessions : others.sessions = editor.sessions)
    (found : editor.session id = .ok session) (same : result.id = session.id)
    (campaign : result.graph.campaign = session.graph.campaign ∨ result.graph.campaign = new) :
    editor.Carries (others.put result) new := by
  intro other seen present
  obtain before | ⟨rfl, rfl⟩ := session_put_cases present sessions found same
  · exact .inl ⟨seen, before, rfl⟩
  · exact campaign.imp (fun same => ⟨session, found, same⟩) fun same => same

section

variable [Limits] [Client]

def brings (editor : Editor) (action : Action) (now : Nat) : Option String :=
  match action with
  | .openNew _ campaign | .openSteps _ campaign _ => campaign
  | .load campaign => (editor.load campaign now).answer.toOption.map fun _ => campaign
  | .save id => (editor.save id now).answer.toOption.map Receipt.campaign
  | _ => none

theorem carries_load (editor : Editor) (campaign : String) (now : Nat) :
    editor.Carries (editor.load campaign now).editor (editor.brings (.load campaign) now) := by
  rw [brings]
  cases answer : (editor.load campaign now).answer with
  | error failure => exact carries_of_same (sessions_of_load_error answer) _
  | ok opened =>
    cases answered : (editor.call (.get campaign) now).answer.bind stored with
    | error failure =>
      rw [load_of_error answered] at answer
      cases answer
    | ok given =>
      rw [load_of_ok answered]
      exact carries_openSteps rfl (some given.1) (some campaign) given.2 now

theorem carries_save (editor : Editor) (target : String) (now : Nat) :
    editor.Carries (editor.save target now).editor (editor.brings (.save target) now) := by
  rw [brings]
  have saving := editor.saving target now
  generalize editor.save target now = outcome at saving
  cases saving with
  | unknown => exact carries_of_same rfl _
  | refused => exact carries_of_same rfl _
  | failed found => exact carries_put (editor.sessions_callAll _ now) found rfl (.inl rfl)
  | created found => exact carries_put rfl found rfl (.inr rfl)
  | updated found => exact carries_put rfl found rfl (.inr rfl)

theorem carries (editor : Editor) (action : Action) (now : Nat) :
    editor.Carries (editor.perform action now) (editor.brings action now) := by
  cases action with
  | openNew name campaign =>
    let created := Graph.create name campaign now editor.supply
    have same : Editor.sessions { editor with supply := created.2 } = editor.sessions := rfl
    have carries : editor.Carries (Editor.openGraph { editor with supply := created.2 } created.1
        now).2 created.1.campaign := carries_openGraph same
    exact carries
  | openSteps name campaign steps => exact carries_openSteps rfl name campaign steps now
  | load campaign => exact editor.carries_load campaign now
  | edit target command =>
    obtain same | ⟨session, found, edited⟩ := editor.edit_cases target command now
    · exact carries_of_same (congrArg Editor.sessions same) _
    · rw [edited]
      exact carries_put rfl found rfl (.inl (Graph.run_campaign command))
  | insertVariable target node field variableName =>
    obtain same | ⟨session, found, edited⟩ :=
      editor.insertVariable_cases target node field variableName now
    · exact carries_of_same (congrArg Editor.sessions same) _
    · rw [edited]
      refine carries_put rfl found rfl (.inl ?_)
      exact Graph.settle_campaign fun _ _ => Graph.insertVariable_campaign
  | save target => exact editor.carries_save target now
  | close target => exact fun id session found => .inl ⟨session, session_close found, rfl⟩
  | call request => exact carries_of_same rfl _

end

structure Grounded (editor : Editor) : Prop where
  memory : editor.InMemory
  orderly : editor.Orderly
  stored : ∀ id session campaign, editor.session id = .ok session →
    session.graph.campaign = some campaign → ∃ kept, editor.stored? campaign = some kept

theorem grounded_create : (create (.memory .empty)).Grounded where
  memory := ⟨.empty, rfl, nofun⟩
  orderly := orderly_create _
  stored := nofun

variable [Limits] [Client]

theorem InMemory.exists_stored_of_load {opened : Session} (memory : editor.InMemory)
    (loaded : (editor.load campaign now).answer = .ok opened) :
    ∃ kept, editor.stored? campaign = some kept := by
  obtain ⟨store, service, -⟩ := memory
  simp only [stored?, service]
  cases known : store.find? campaign with
  | some kept => exact ⟨kept, rfl⟩
  | none =>
    have answered : (editor.call (.get campaign) now).answer.bind stored =
        .error (.notFound "Campaign" campaign) := by
      simp [Editor.call, Service.call, service, Store.call, Store.lookup, known, Except.bind]
    rw [load_of_error answered] at loaded
    cases loaded

theorem InMemory.stored_of_brings (memory : editor.InMemory) (unclaimed : action.Unclaimed)
    (brings : editor.brings action now = some campaign) :
    ∃ kept, (editor.perform action now).stored? campaign = some kept := by
  cases action with
  | openNew | openSteps =>
    cases unclaimed
    cases brings
  | load loaded =>
    obtain ⟨opened, answer, rfl⟩ := Option.map_eq_some_iff.mp brings
    obtain ⟨kept, stored⟩ := memory.exists_stored_of_load (toOption_eq_some.mp answer)
    exact memory.stays stored _ now
  | save target =>
    obtain ⟨receipt, answer, rfl⟩ := Option.map_eq_some_iff.mp brings
    obtain ⟨_, _, kept, -, -, -, -, stored, -⟩ :=
      exists_kept_of_save memory (toOption_eq_some.mp answer)
    exact ⟨kept, stored⟩
  | edit | insertVariable | close | call => cases brings

theorem Grounded.perform (grounded : editor.Grounded) (action : Action)
    (unclaimed : action.Unclaimed) (now : Nat) : (editor.perform action now).Grounded where
  memory := (grounded.memory.perform action now).1
  orderly := grounded.orderly.perform action now
  stored id session campaign found named := by
    obtain ⟨old, before, same⟩ | new := editor.carries action now id session found
    · obtain ⟨kept, stored⟩ := grounded.stored id old campaign before (same.symm.trans named)
      exact grounded.memory.stays stored action now
    · exact grounded.memory.stored_of_brings unclaimed (new.symm.trans named)

theorem InMemory.exists_defect (memory : editor.InMemory) {request : Call} {failure : Failure}
    (meant : request.subject? editor.supply = some campaign)
    (known : request.target? = some campaign → ∃ kept, editor.stored? campaign = some kept)
    (failed : (editor.call request now).answer = .error failure) :
    ∃ defect, failure = .defect defect := by
  obtain ⟨store, service, -⟩ := memory
  simp only [stored?, service] at known
  simp only [Editor.call, Service.call, service] at failed
  refine Store.exists_defect meant (fun target missing => ?_) failed
  obtain ⟨kept, found⟩ := known target
  cases missing.symm.trans found

theorem InMemory.exists_campaignId (memory : editor.InMemory) {payload reply : Value}
    (answered : (editor.call (.create payload) now).answer = .ok reply) :
    ∃ campaign, Save.campaignId reply = .ok campaign := by
  obtain ⟨store, service, -⟩ := memory
  simp only [Editor.call, Service.call, service] at answered
  have ended := store.ended (.create payload) now editor.supply
  generalize store.call (.create payload) now editor.supply = outcome at answered ended
  cases ended with
  | read same => cases same
  | unknown target | changed target => cases target
  | refused => cases answered
  | halted same => cases same
  | @created _ new _ _ _ _ named =>
    obtain ⟨-, rfl⟩ := Campaign.copied_eq_ok.mp answered
    have filled : new.id.isEmpty = false := by
      rw [named]
      simp [Supply.campaign, Supply.campaignId, Supply.id]
    exact ⟨new.id, by simp [Save.campaignId, Campaign.value, Fields.get?_cons, Key.is, filled]⟩

theorem Grounded.failure_of_save (grounded : editor.Grounded) {failure : Failure}
    (found : editor.session id = .ok session)
    (failed : (editor.save id now).answer = .error failure) :
    (∃ rejection : Rejection, failure = rejection.failure) ∨
      ∃ defect, failure = .defect defect := by
  have memory := grounded.memory
  cases compiled : session.graph.compile with
  | error cause =>
    rw [save_of_error found compiled] at failed
    cases failed
    exact Graph.failure_of_compile (grounded.orderly.sessions id session found).numbered.unique
      compiled
  | ok compilation =>
    refine .inr ?_
    cases named : session.graph.campaign with
    | none =>
      rw [save_answer_of_fresh found compiled named, map_eq_error] at failed
      cases answered : (editor.call (session.graph.createCall compilation) now).answer with
      | error cause =>
        rw [answered] at failed
        cases failed
        exact memory.exists_defect rfl (fun target => by cases target) answered
      | ok reply =>
        obtain ⟨campaign, given⟩ := memory.exists_campaignId answered
        rw [answered] at failed
        cases given.symm.trans failed
    | some campaign =>
      obtain ⟨kept, stored⟩ := grounded.stored id session campaign found named
      rw [save_answer_of_known found compiled named] at failed
      cases renamed : (editor.call (session.graph.renameCall campaign) now).answer with
      | error cause =>
        rw [renamed] at failed
        cases failed
        exact memory.exists_defect rfl (fun _ => ⟨kept, stored⟩) renamed
      | ok reply =>
        rw [renamed] at failed
        have still := memory.stays_call stored (session.graph.renameCall campaign) now
        have replaced := map_eq_error.mp failed
        exact (memory.call _ now).1.exists_defect rfl (fun _ => still) replaced

end Editor

end Outreach
