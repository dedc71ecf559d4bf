import Outreach.Proofs.Graph.Touched
import Outreach.Proofs.Service.Store
import Outreach.Proofs.Session.Saving

set_option autoImplicit false

namespace Outreach

inductive Action where
  | openNew (name campaign : Option String)
  | openSteps (name campaign : Option String) (steps : List Value)
  | load (campaign : String)
  | edit (session : String) (command : Command)
  | insertVariable (session node field variableName : String)
  | save (session : String)
  | close (session : String)
  | call (request : Call)

def Action.Targets (editor : Editor) (campaign : String) : Action → Prop
  | .call request => request.target? = some campaign
  | .save id => ∃ session, editor.session id = .ok session ∧
      session.graph.campaign = some campaign
  | _ => False

namespace Editor

section

variable [Limits] [Client]

def perform (editor : Editor) (action : Action) (now : Nat) : Editor :=
  match action with
  | .openNew name campaign => (editor.openNew name campaign now).2
  | .openSteps name campaign steps => (editor.openSteps name campaign steps now).editor
  | .load campaign => (editor.load campaign now).editor
  | .edit id command => (editor.edit id command now).editor
  | .insertVariable id node field variableName =>
    (editor.insertVariable id node field variableName now).editor
  | .save id => (editor.save id now).editor
  | .close id => (editor.close id).editor
  | .call request => (editor.call request now).editor

def performAll (editor : Editor) (steps : List (Action × Nat)) : Editor :=
  steps.foldl (fun editor step => editor.perform step.1 step.2) editor

theorem performAll_cons (editor : Editor) (action : Action) (now : Nat)
    (more : List (Action × Nat)) :
    editor.performAll ((action, now) :: more) = (editor.perform action now).performAll more := rfl

theorem performAll_append (editor : Editor) (steps more : List (Action × Nat)) :
    editor.performAll (steps ++ more) = (editor.performAll steps).performAll more :=
  List.foldl_append

theorem performAll_concat (editor : Editor) (steps : List (Action × Nat)) (action : Action)
    (now : Nat) :
    editor.performAll (steps ++ [(action, now)]) = (editor.performAll steps).perform action now :=
  performAll_append editor steps [(action, now)]

end

variable {editor others : Editor} {session after : Session} {graph : Graph} {now : Nat}
  {id other : String}

theorem session_openGraph
    (found : (editor.openGraph graph now).2.session id = .ok session) :
    editor.session id = .ok session ∨ session = (editor.openGraph graph now).1 := by
  rw [session_eq_ok] at found ⊢
  obtain before | ⟨-, new⟩ : _ ∨ _ := by simpa [openGraph, List.find?_append] using found
  · exact .inl before
  · exact .inr new.2.symm

theorem session_close (found : (editor.close other).editor.session id = .ok session) :
    editor.session id = .ok session := by
  rw [session_eq_ok] at found ⊢
  simp only [close, List.find?_filter] at found
  have kept : session.id ≠ other ∧ session.id = id := by simpa using List.find?_some found
  have ids : (fun old : Session => decide ((old.id != other) = true ∧ (old.id == id) = true)) =
      fun old => old.id == id := by
    funext old
    by_cases same : old.id = id
    · simp [same, ← kept.2, kept.1]
    · simp [same]
  rwa [ids] at found

theorem session_put_cases {result : Session}
    (present : (others.put after).session other = .ok result)
    (sessions : others.sessions = editor.sessions) (found : editor.session id = .ok session)
    (same : after.id = session.id) :
    editor.session other = .ok result ∨ other = id ∧ result = after := by
  by_cases own : other = id
  · rw [own, session_put_of_ok sessions found same] at present
    exact .inr ⟨own, (Except.ok.inj present).symm⟩
  · rw [session_put_of_ne sessions found same other own] at present
    exact .inl present

section

variable [Limits] [Client]

inductive Follows (editor : Editor) (action : Action) (now : Nat) (id : String) : Session → Prop
  | stayed {session : Session} (found : editor.session id = .ok session) :
    Follows editor action now id session
  | opened {session : Session} {n : Nat} (named : session.id = Supply.sessionId n)
    (given : n ≤ (editor.perform action now).supply.sessions)
    (numbered : session.graph.Numbered (editor.perform action now).supply)
    (time : session.graph.updated = now) (unsaved : session.saved = none) :
    Follows editor action now id session
  | edited {session : Session} {graph : Graph} (found : editor.session id = .ok session)
    (numbered : session.graph.Numbered editor.supply →
      graph.Numbered (editor.perform action now).supply)
    (ran : session.graph.Numbered editor.supply → session.graph.Ran now graph)
    (same : graph.campaign = session.graph.campaign) :
    Follows editor action now id { session with graph }
  | stored {session : Session} {campaign : String} (saves : action = .save id)
    (found : editor.session id = .ok session)
    (suits : session.graph.campaign = none ∨ session.graph.campaign = some campaign) :
    Follows editor action now id (session.stored campaign)

theorem follows_openGraph {action : Action} (others : Editor)
    (sessions : others.sessions = editor.sessions)
    (performed : editor.perform action now = (others.openGraph graph now).2)
    (numbered : graph.Numbered others.supply) (time : graph.updated = now)
    (found : (editor.perform action now).session id = .ok session) :
    editor.Follows action now id session := by
  rw [performed] at found
  obtain before | rfl := session_openGraph found
  · exact .stayed (session_congr sessions id ▸ before)
  · refine .opened rfl ?_ ?_ time rfl
    · rw [performed]
      exact Nat.le_refl _
    · rw [performed]
      exact numbered.later (Supply.Grows.session others.supply).toPasses

theorem follows_openSteps {action : Action} (others : Editor) {name campaign : Option String}
    {steps : List Value} (sessions : others.sessions = editor.sessions)
    (performed : editor.perform action now = (others.openSteps name campaign steps now).editor)
    (found : (editor.perform action now).session id = .ok session) :
    editor.Follows action now id session := by
  rw [openSteps] at performed
  cases made : Graph.ofSteps name campaign steps now others.supply with
  | mk result supply =>
    cases result with
    | error failure =>
      rw [made] at performed
      rw [performed] at found
      exact .stayed (session_congr sessions id ▸ found)
    | ok graph =>
      rw [made] at performed
      obtain ⟨placed, -, rebuilt⟩ := Graph.rebuilt_of_ofSteps made
      exact follows_openGraph { others with supply } sessions performed rebuilt.numbered
        (Graph.ofSteps_kept made).2 found

theorem edit_cases (editor : Editor) (target : String) (command : Command) (now : Nat) :
    editor.perform (.edit target command) now = editor ∨
      ∃ session, editor.session target = .ok session ∧
        editor.perform (.edit target command) now =
          { editor with supply := (session.graph.run command now editor.supply).supply }.put
            { session with graph := (session.graph.run command now editor.supply).graph } := by
  cases known : editor.session target with
  | error failure => exact .inl (by simp [perform, edit, known])
  | ok session => exact .inr ⟨session, rfl, by simp [perform, edit, known]⟩

theorem follows_edit {target : String} {command : Command}
    (found : (editor.perform (.edit target command) now).session id = .ok session) :
    editor.Follows (.edit target command) now id session := by
  obtain same | ⟨old, known, edited⟩ := editor.edit_cases target command now
  · rw [same] at found
    exact .stayed found
  · rw [edited] at found
    obtain before | ⟨rfl, rfl⟩ := session_put_cases found rfl known rfl
    · exact .stayed before
    · refine .edited known (fun numbered => ?_) (fun numbered => numbered.ran command)
        (Graph.run_campaign command)
      rw [edited]
      exact numbered.run command now

theorem insertVariable_cases (editor : Editor) (target node field variableName : String)
    (now : Nat) :
    editor.perform (.insertVariable target node field variableName) now = editor ∨
      ∃ session, editor.session target = .ok session ∧
        editor.perform (.insertVariable target node field variableName) now =
          editor.put { session with
            graph := (Graph.settle session.graph editor.supply
              (session.graph.insertVariable node field variableName now)).graph } := by
  cases known : editor.session target with
  | error failure => exact .inl (by simp [perform, insertVariable, known])
  | ok session => exact .inr ⟨session, rfl, by simp [perform, insertVariable, known]⟩

theorem follows_insertVariable {target node field variableName : String}
    (found : (editor.perform (.insertVariable target node field variableName) now).session id =
      .ok session) :
    editor.Follows (.insertVariable target node field variableName) now id session := by
  obtain same | ⟨old, known, edited⟩ :=
    editor.insertVariable_cases target node field variableName now
  · rw [same] at found
    exact .stayed found
  · rw [edited] at found
    obtain before | ⟨rfl, rfl⟩ := session_put_cases found rfl known rfl
    · exact .stayed before
    · refine .edited known (fun numbered => ?_) (fun _ => .settle fun _ _ => .insertVariable)
        (Graph.settle_campaign fun _ _ => Graph.insertVariable_campaign)
      have kept : Graph.Numbered _ (Graph.settle old.graph editor.supply
          (old.graph.insertVariable node field variableName now)).supply :=
        numbered.settle fun _ _ => numbered.insertVariable
      rw [edited]
      rwa [Graph.settle_supply] at kept

theorem follows_save {target : String}
    (found : (editor.perform (.save target) now).session id = .ok session) :
    editor.Follows (.save target) now id session := by
  have saving := editor.saving target now
  simp only [perform] at found
  generalize editor.save target now = outcome at found saving
  cases saving with
  | unknown => exact .stayed found
  | refused => exact .stayed found
  | failed known compiled made first =>
    obtain before | ⟨rfl, rfl⟩ :=
      session_put_cases found (sessions_callAll editor _ now) known rfl
    · exact .stayed before
    · exact .stayed known
  | created known compiled fresh =>
    obtain before | ⟨rfl, rfl⟩ := session_put_cases found rfl known rfl
    · exact .stayed before
    · exact .stored rfl known (.inl fresh)
  | updated known compiled named =>
    obtain before | ⟨rfl, rfl⟩ := session_put_cases found rfl known rfl
    · exact .stayed before
    · exact .stored rfl known (.inr named)

theorem load_cases (editor : Editor) (campaign : String) (now : Nat) :
    editor.perform (.load campaign) now = (editor.call (.get campaign) now).editor ∨
      ∃ name steps, editor.perform (.load campaign) now =
        ((editor.call (.get campaign) now).editor.openSteps (some name) (some campaign) steps
          now).editor := by
  cases read : (editor.call (.get campaign) now).answer.bind stored with
  | error failure => exact .inl (by simp [perform, load, read])
  | ok content => exact .inr ⟨content.1, content.2, by simp [perform, load, read]⟩

theorem follows {action : Action}
    (found : (editor.perform action now).session id = .ok session) :
    editor.Follows action now id session := by
  cases action with
  | openNew name campaign =>
    let created := Graph.create name campaign now editor.supply
    exact follows_openGraph { editor with supply := created.2 } rfl rfl
      (.create name campaign now editor.supply) rfl found
  | openSteps name campaign steps => exact follows_openSteps editor rfl rfl found
  | load campaign =>
    obtain same | ⟨name, steps, opened⟩ := editor.load_cases campaign now
    · rw [same] at found
      exact .stayed found
    · exact follows_openSteps (editor.call (.get campaign) now).editor rfl opened found
  | edit target command => exact follows_edit found
  | insertVariable target node field variableName => exact follows_insertVariable found
  | save target => exact follows_save found
  | close target => exact .stayed (session_close found)
  | call request => exact .stayed found

-- The calls behind an action; it has no other way to reach the campaign service.
structure Calls (editor : Editor) (action : Action) (now : Nat) (calls : List Call) : Prop where
  service : (editor.perform action now).service = (editor.callAll calls now).service
  supply : (editor.callAll calls now).supply.Grows (editor.perform action now).supply
  targets : ∀ call ∈ calls, ∀ campaign, call.target? = some campaign →
    action.Targets editor campaign

end

theorem openSteps_grows [Limits] (editor : Editor) (name campaign : Option String)
    (steps : List Value)
    (now : Nat) : editor.supply.Grows (editor.openSteps name campaign steps now).editor.supply := by
  have grows := Graph.ofSteps_grows name campaign steps now editor.supply
  rw [openSteps]
  split
  · rename_i made
    rwa [made] at grows
  · rename_i made
    rw [made] at grows
    exact grows.trans (.session _)

theorem openSteps_service [Limits] (editor : Editor) (name campaign : Option String)
    (steps : List Value)
    (now : Nat) : (editor.openSteps name campaign steps now).editor.service = editor.service := by
  rw [openSteps]
  split <;> rfl

theorem target?_of_mem_remaining {compilation : Compilation} {call : Call} {campaign : String}
    (member : call ∈ (Save.first graph compilation.steps).remaining)
    (target : call.target? = some campaign) : graph.campaign = some campaign := by
  cases known : graph.campaign with
  | none =>
    simp only [Save.remaining, Save.first, known, List.mem_singleton] at member
    simp [member, Save.call, Call.target?] at target
  | some other =>
    simp only [Save.remaining, Save.first, known, List.mem_cons, List.not_mem_nil, or_false]
      at member
    obtain rfl | rfl := member <;> exact target

theorem Calls.of_performed [Limits] [Client] {action : Action} {calls : List Call} {done : Editor}
    (performed : editor.perform action now = done)
    (service : done.service = (editor.callAll calls now).service)
    (supply : (editor.callAll calls now).supply.Grows done.supply)
    (targets : ∀ call ∈ calls, ∀ campaign, call.target? = some campaign →
      action.Targets editor campaign) : editor.Calls action now calls :=
  ⟨performed ▸ service, performed ▸ supply, targets⟩

theorem exists_calls_save [Limits] [Client] (editor : Editor) (target : String) (now : Nat) :
    ∃ calls, editor.Calls (.save target) now calls := by
  have saving := editor.saving target now
  cases result : editor.save target now with
  | mk answer done =>
    have performed : editor.perform (.save target) now = done := congrArg Outcome.editor result
    rw [result] at saving
    cases saving with
    | unknown => exact ⟨[], .of_performed performed rfl (.refl _) (by simp)⟩
    | refused => exact ⟨[], .of_performed performed rfl (.refl _) (by simp)⟩
    | failed known compiled made first =>
      rename_i calls
      exact ⟨calls, .of_performed performed rfl (.refl _) fun call member campaign target =>
        ⟨_, known, target?_of_mem_remaining (first.subset member) target⟩⟩
    | created known compiled fresh =>
      rename_i compilation reply campaign
      exact ⟨[_], .of_performed performed rfl (.refl _) (by simp [Graph.createCall, Call.target?])⟩
    | updated known compiled named =>
      refine ⟨[_, _], .of_performed performed rfl (.refl _) ?_⟩
      intro call member campaign target
      obtain rfl | rfl : _ ∨ _ := by simpa using member
      · exact ⟨_, known, named.trans target⟩
      · exact ⟨_, known, named.trans target⟩

theorem exists_calls [Limits] [Client] (editor : Editor) (action : Action) (now : Nat) :
    ∃ calls, editor.Calls action now calls := by
  cases action with
  | openNew name campaign =>
    refine ⟨[], rfl, ?_, by simp⟩
    exact (Supply.Grows.graph editor.supply).trans (.session _)
  | openSteps name campaign steps =>
    exact ⟨[], editor.openSteps_service .., editor.openSteps_grows .., by simp⟩
  | load campaign =>
    obtain same | ⟨name, steps, opened⟩ := editor.load_cases campaign now
    · exact ⟨[.get campaign], .of_performed same rfl (.refl _) (by simp [Call.target?])⟩
    · exact ⟨[.get campaign], .of_performed opened (openSteps_service ..) (openSteps_grows ..)
        (by simp [Call.target?])⟩
  | edit target command =>
    obtain same | ⟨session, -, edited⟩ := editor.edit_cases target command now
    · exact ⟨[], .of_performed same rfl (.refl _) (by simp)⟩
    · exact ⟨[], .of_performed edited rfl (session.graph.run_grows command now _) (by simp)⟩
  | insertVariable target node field variableName =>
    obtain same | ⟨session, -, edited⟩ :=
      editor.insertVariable_cases target node field variableName now
    · exact ⟨[], .of_performed same rfl (.refl _) (by simp)⟩
    · exact ⟨[], .of_performed edited rfl (.refl _) (by simp)⟩
  | save target => exact editor.exists_calls_save target now
  | close target => exact ⟨[], rfl, .refl _, by simp⟩
  | call request => exact ⟨[request], rfl, .refl _, by simp [Action.Targets]⟩

def stored? (editor : Editor) (campaign : String) : Option Campaign :=
  match editor.service with
  | .memory store => store.find? campaign
  | .remote _ => none

def InMemory (editor : Editor) : Prop :=
  ∃ store, editor.service = .memory store ∧ store.Numbered editor.supply

variable {calls : List Call} {action : Action} {campaign : String} {kept : Campaign}

variable [Limits] [Client]

theorem InMemory.call (memory : editor.InMemory) (request : Call) (now : Nat) :
    (editor.call request now).editor.InMemory ∧
      editor.supply.Grows (editor.call request now).editor.supply := by
  obtain ⟨store, service, numbered⟩ := memory
  have changed := store.changed request now editor.supply
  simp only [Editor.call, Service.call, service]
  exact ⟨⟨_, rfl, changed.numbered numbered⟩, changed.grows⟩

theorem InMemory.stored?_call (memory : editor.InMemory) {request : Call}
    (known : editor.stored? campaign = some kept) (aside : request.target? ≠ some campaign)
    (now : Nat) : (editor.call request now).editor.stored? campaign = editor.stored? campaign := by
  obtain ⟨store, service, numbered⟩ := memory
  simp only [stored?, service] at known
  simp only [stored?, Editor.call, Service.call, service]
  exact (store.changed request now editor.supply).find?_eq numbered known aside

theorem InMemory.callAll (memory : editor.InMemory) (calls : List Call) (now : Nat) :
    (editor.callAll calls now).InMemory ∧
      editor.supply.Grows (editor.callAll calls now).supply := by
  induction calls generalizing editor with
  | nil => exact ⟨memory, .refl _⟩
  | cons request rest ih =>
    obtain ⟨next, grows⟩ := memory.call request now
    exact ⟨(ih next).1, grows.trans (ih next).2⟩

theorem InMemory.stored?_callAll (memory : editor.InMemory)
    (known : editor.stored? campaign = some kept)
    (aside : ∀ call ∈ calls, call.target? ≠ some campaign) (now : Nat) :
    (editor.callAll calls now).stored? campaign = editor.stored? campaign := by
  induction calls generalizing editor with
  | nil => rfl
  | cons request rest ih =>
    obtain ⟨first, later⟩ := List.forall_mem_cons.mp aside
    have same := memory.stored?_call known first now
    exact (ih (memory.call request now).1 (same.trans known) later).trans same

theorem InMemory.perform (memory : editor.InMemory) (action : Action) (now : Nat) :
    (editor.perform action now).InMemory ∧
      editor.supply.Grows (editor.perform action now).supply := by
  obtain ⟨calls, made⟩ := editor.exists_calls action now
  obtain ⟨⟨store, service, numbered⟩, grows⟩ := memory.callAll calls now
  exact ⟨⟨store, made.service.trans service, numbered.later made.supply⟩, grows.trans made.supply⟩

theorem InMemory.stored?_perform (memory : editor.InMemory)
    (known : editor.stored? campaign = some kept) (aside : ¬ action.Targets editor campaign)
    (now : Nat) : (editor.perform action now).stored? campaign = editor.stored? campaign := by
  obtain ⟨calls, made⟩ := editor.exists_calls action now
  have same := memory.stored?_callAll known
    (fun call member target => aside (made.targets call member campaign target)) now
  rwa [stored?, ← made.service] at same

end Editor

structure Session.Regular (session : Session) (supply : Supply) : Prop where
  named : ∃ n ≤ supply.sessions, session.id = Supply.sessionId n
  numbered : session.graph.Numbered supply
  known : session.saved.isSome = true → session.graph.campaign.isSome = true

theorem Session.Regular.later {session : Session} {supply next : Supply}
    (regular : session.Regular supply) (grows : supply.Grows next) : session.Regular next where
  named := by
    obtain ⟨n, given, same⟩ := regular.named
    exact ⟨n, given.trans grows.sessions, same⟩
  numbered := regular.numbered.later grows.toPasses
  known := regular.known

namespace Editor

structure Regular (editor : Editor) : Prop where
  memory : editor.InMemory
  sessions : ∀ id session, editor.session id = .ok session → session.Regular editor.supply

def start : Editor := .create (.memory .empty)

theorem start_regular : start.Regular where
  memory := ⟨.empty, rfl, fun _ _ known => by cases known⟩
  sessions := fun _ _ found => by cases found

theorem Regular.named_of_mem {editor : Editor} (regular : editor.Regular) {session : Session}
    (member : session ∈ editor.sessions) :
    ∃ n ≤ editor.supply.sessions, session.id = Supply.sessionId n := by
  have present : (editor.sessions.find? (·.id == session.id)).isSome = true :=
    List.find?_isSome.mpr ⟨session, member, by simp⟩
  obtain ⟨first, found⟩ := Option.isSome_iff_exists.mp present
  have found := session_eq_ok.mpr found
  rw [← id_of_session found]
  exact (regular.sessions _ first found).named

variable [Limits] [Client]

theorem regular_perform {editor : Editor} {action : Action} {now : Nat}
    (grows : editor.supply.Grows (editor.perform action now).supply)
    (regular : ∀ id session, editor.session id = .ok session → session.Regular editor.supply)
    (id : String) (session : Session)
    (found : (editor.perform action now).session id = .ok session) :
    session.Regular (editor.perform action now).supply := by
  cases follows found with
  | stayed before => exact (regular id session before).later grows
  | opened named given numbered time unsaved =>
    exact ⟨⟨_, given, named⟩, numbered, by simp [unsaved]⟩
  | edited before numbered ran same =>
    have before := regular id _ before
    exact ⟨(before.later grows).named, numbered before.numbered, same ▸ before.known⟩
  | stored saves before suits =>
    have later := (regular id _ before).later grows
    have graph := later.numbered
    exact ⟨later.named, graph.keep rfl rfl graph.selects graph.stripped, fun _ => rfl⟩

theorem Regular.perform {editor : Editor} (regular : editor.Regular) (action : Action)
    (now : Nat) : (editor.perform action now).Regular where
  memory := (regular.memory.perform action now).1
  sessions := regular_perform (regular.memory.perform action now).2 regular.sessions

theorem Regular.performAll {editor : Editor} (regular : editor.Regular)
    (steps : List (Action × Nat)) : (editor.performAll steps).Regular := by
  induction steps generalizing editor with
  | nil => exact regular
  | cons step rest ih => exact ih (regular.perform step.1 step.2)

end Editor

end Outreach
