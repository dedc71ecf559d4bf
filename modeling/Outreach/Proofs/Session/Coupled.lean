import Outreach.Address.Basic
import Outreach.Proofs.Limits
import Outreach.Proofs.Session.Persisted

set_option autoImplicit false

namespace Outreach

def Session.Before (session : Session) (bound : Nat) : Prop :=
  session.graph.updated < bound ∧ ∀ time, session.saved = some time → time < bound

namespace Editor

section

variable [Limits] [Client]

def Writes (editor : Editor) (action : Action) (now : Nat) (campaign : String) : Prop :=
  action.Targets editor campaign ∧
    (editor.perform action now).stored? campaign ≠ editor.stored? campaign

def Takes (editor : Editor) (steps : List (Action × Nat)) (state : Editor) (action : Action)
    (now : Nat) : Prop :=
  ∃ before after, steps = before ++ (action, now) :: after ∧ state = editor.performAll before

theorem takes_concat (editor : Editor) (steps : List (Action × Nat)) (action : Action)
    (now : Nat) :
    editor.Takes (steps ++ [(action, now)]) (editor.performAll steps) action now :=
  ⟨steps, [], rfl, rfl⟩

theorem Takes.append {editor state : Editor} {steps : List (Action × Nat)} {action : Action}
    {now : Nat} (takes : editor.Takes steps state action now) (more : List (Action × Nat)) :
    editor.Takes (steps ++ more) state action now := by
  obtain ⟨before, after, rfl, same⟩ := takes
  exact ⟨before, after ++ more, by simp, same⟩

theorem Takes.mem {editor state : Editor} {steps : List (Action × Nat)} {action : Action}
    {now : Nat} (takes : editor.Takes steps state action now) : (action, now) ∈ steps := by
  obtain ⟨before, after, rfl, -⟩ := takes
  exact List.mem_append_right _ List.mem_cons_self

end

variable {editor : Editor} {session : Session} {action : Action} {now bound : Nat}
  {id campaign : String} {kept : Campaign} {steps : List (Action × Nat)}

theorem InMemory.stored?_of_not_writes [Limits] [Client] (memory : editor.InMemory)
    (known : editor.stored? campaign = some kept) (spared : ¬ editor.Writes action now campaign) :
    (editor.perform action now).stored? campaign = some kept := by
  by_cases targeted : action.Targets editor campaign
  · by_contra changed
    exact spared ⟨targeted, fun same => changed (same.trans known)⟩
  · exact (memory.stored?_perform known targeted now).trans known

theorem InMemory.id_of_stored (memory : editor.InMemory)
    (known : editor.stored? campaign = some kept) : kept.id = campaign := by
  obtain ⟨store, service, numbered⟩ := memory
  simp only [stored?, service] at known
  exact (numbered campaign kept known).1

theorem rising_concat (rising : ((steps ++ [(action, now)]).map Prod.snd).Pairwise (· < ·)) :
    (steps.map Prod.snd).Pairwise (· < ·) ∧ ∀ step ∈ steps, step.2 < now := by
  rw [List.map_append, List.pairwise_append] at rising
  obtain ⟨rising, -, late⟩ := rising
  exact ⟨rising, fun step member =>
    late step.2 (List.mem_map_of_mem member) now (List.mem_singleton_self now)⟩

section

variable [Limits] [Client]

theorem before_perform (regular : editor.Regular)
    (earlier : ∀ id session, editor.session id = .ok session → session.Before now)
    (later : now < bound) (found : (editor.perform action now).session id = .ok session) :
    session.Before bound := by
  cases follows found with
  | stayed before =>
    obtain ⟨updated, saved⟩ := earlier id _ before
    exact ⟨updated.trans later, fun time marked => (saved time marked).trans later⟩
  | opened named given numbered time unsaved =>
    exact ⟨time ▸ later, fun time marked => by simp [unsaved] at marked⟩
  | edited before numbered ran same =>
    obtain ⟨updated, saved⟩ := earlier id _ before
    refine ⟨?_, fun time marked => (saved time marked).trans later⟩
    obtain same | same := (ran (regular.sessions id _ before).numbered).updated
    · exact same ▸ later
    · exact same ▸ updated.trans later
  | stored saves before suits =>
    obtain ⟨updated, -⟩ := earlier id _ before
    exact ⟨updated.trans later, fun time marked => Option.some.inj marked ▸ updated.trans later⟩

theorem before_performAll (rising : (steps.map Prod.snd).Pairwise (· < ·))
    (early : ∀ step ∈ steps, step.2 < bound)
    (found : (start.performAll steps).session id = .ok session) : session.Before bound := by
  induction steps using List.reverseRecOn generalizing bound id session with
  | nil => cases found
  | append_singleton steps step ih =>
    obtain ⟨action, now⟩ := step
    obtain ⟨rising, first⟩ := rising_concat rising
    rw [performAll_concat] at found
    exact before_perform (start_regular.performAll steps) (fun _ _ => ih rising first)
      (early (action, now) (by simp)) found

theorem backs_save (memory : editor.InMemory)
    (found : (editor.save id now).editor.session id = .ok session)
    (backs : editor.session id = .ok session → editor.Backs session.graph) :
    (editor.save id now).editor.Backs session.graph := by
  cases answer : (editor.save id now).answer with
  | error failure =>
    rw [(editor.saving id now).session_of_error answer] at found
    exact (backs found).save memory found answer
  | ok receipt =>
    obtain ⟨old, compilation, kept, -, compiled, -, marked, stored, holds, -⟩ :=
      exists_kept_of_save memory answer
    obtain rfl : old.stored receipt.campaign = session := Except.ok.inj (marked.symm.trans found)
    exact ⟨_, kept, compilation, rfl, stored, compiled, holds⟩

theorem backs_perform (regular : editor.Regular)
    (earlier : ∀ id session, editor.session id = .ok session → session.Before now)
    (found : (editor.perform action now).session id = .ok session)
    (saved : session.saved = some session.graph.updated)
    (only : ∀ old campaign, editor.session id = .ok old → session.graph.campaign = some campaign →
      editor.Writes action now campaign → action = .save id)
    (backs : ∀ old, editor.session id = .ok old → old.graph.campaign = session.graph.campaign →
      old.saved = some old.graph.updated → editor.Backs old.graph) :
    (editor.perform action now).Backs session.graph := by
  by_cases saves : action = .save id
  · subst saves
    exact backs_save regular.memory found fun before => backs session before rfl saved
  -- Nobody else may write, so what the store had before is still there.
  have stays (old : Session) (before : editor.session id = .ok old)
      (same : old.graph.campaign = session.graph.campaign)
      (marked : old.saved = some old.graph.updated) :
      ∃ campaign kept compilation, session.graph.campaign = some campaign ∧
        (editor.perform action now).stored? campaign = some kept ∧
        old.graph.compile = .ok compilation ∧
        kept.Holds old.graph.name (compilation.steps.map CompiledStep.payload) := by
    obtain ⟨campaign, kept, compilation, known, stored, compiled, holds⟩ :=
      backs old before same marked
    rw [same] at known
    have spared : ¬ editor.Writes action now campaign :=
      fun writes => saves (only old campaign before known writes)
    exact ⟨campaign, kept, compilation, known,
      regular.memory.stored?_of_not_writes stored spared, compiled, holds⟩
  cases follows found with
  | stayed before => exact stays session before rfl saved
  | opened named given numbered time unsaved => simp [unsaved] at saved
  | edited before numbered ran same =>
    rename_i old graph
    have ran := ran (regular.sessions id _ before).numbered
    cases ran with
    | touched time =>
      have marked : now < now := (earlier id _ before).2 now (time ▸ saved)
      exact absurd marked (Nat.lt_irrefl now)
    | selected node => exact stays old before same.symm saved
  | stored isSave => exact absurd isSave saves

theorem stored_of_saved_eq_updated (steps : List (Action × Nat))
    (rising : (steps.map Prod.snd).Pairwise (· < ·)) (id : String) (session : Session)
    (found : (start.performAll steps).session id = .ok session)
    (only : ∀ state action now old campaign, start.Takes steps state action now →
      state.session id = .ok old → session.graph.campaign = some campaign →
      state.Writes action now campaign → action = .save id)
    (saved : session.saved = some session.graph.updated) :
    ∃ campaign kept compilation, session.graph.campaign = some campaign ∧
      (start.performAll steps).stored? campaign = some kept ∧ kept.id = campaign ∧
      kept.name = .str session.graph.name ∧ session.graph.compile = .ok compilation ∧
      kept.steps.map Campaign.sent = compilation.steps.map CompiledStep.payload := by
  have backs : (start.performAll steps).Backs session.graph := by
    induction steps using List.reverseRecOn generalizing session with
    | nil => cases found
    | append_singleton steps step ih =>
      obtain ⟨action, now⟩ := step
      obtain ⟨rising, first⟩ := rising_concat rising
      rw [performAll_concat] at found ⊢
      refine backs_perform (start_regular.performAll steps)
        (fun _ _ => before_performAll rising first) found saved ?_ ?_
      · intro old campaign before known
        exact only _ action now old campaign (start.takes_concat steps action now) before known
      · intro old before same marked
        refine ih rising old before ?_ marked
        intro state action now other campaign takes present known
        exact only state action now other campaign (takes.append _) present (same ▸ known)
  obtain ⟨campaign, kept, compilation, known, stored, compiled, holds⟩ := backs
  have named := (start_regular.performAll steps).memory.id_of_stored stored
  exact ⟨campaign, kept, compilation, known, stored, named, holds.name, compiled, holds.sent_eq⟩

end

def plannedRun : List (Action × Nat) :=
  planning ++ (.save "sess_000000000001", 4) :: meanwhile

section

attribute [local instance] Limits.usual Address.client

theorem planned_stored : ∃ session, (plannedRun.map Prod.snd).Pairwise (· < ·) ∧
    (start.performAll plannedRun).session "sess_000000000001" = .ok session ∧
    session.graph.selected = some "node_00000001" ∧
    session.saved = some session.graph.updated ∧
    ∃ campaign kept compilation, session.graph.campaign = some campaign ∧
      (start.performAll plannedRun).stored? campaign = some kept ∧ kept.id = campaign ∧
      kept.name = .str session.graph.name ∧ session.graph.compile = .ok compilation ∧
      kept.steps.map Campaign.sent = compilation.steps.map CompiledStep.payload := by
  let session : Session :=
    { planned.stored "camp_00000001" with
      graph := { planned.graph with
        campaign := some "camp_00000001", selected := some "node_00000001" } }
  have done : (start.performAll planning).perform (.save "sess_000000000001") 4 = _ :=
    congrArg Outcome.editor save_planned
  have found : (start.performAll plannedRun).session "sess_000000000001" = .ok session := by
    rw [plannedRun, performAll_append, performAll_cons, done]
    rfl
  have rising : (plannedRun.map Prod.snd).Pairwise (· < ·) := by decide
  refine ⟨session, rising, found, rfl, rfl,
    stored_of_saved_eq_updated plannedRun rising _ session found ?_ rfl⟩
  rintro state action now old campaign takes - known ⟨targets, -⟩
  cases known
  obtain early | ⟨saves, -⟩ | late : _ ∨ _ ∨ _ := by simpa [plannedRun] using takes.mem
  · exact absurd targets (not_targets_planned (List.mem_append_left _ early))
  · exact saves
  · exact absurd targets (not_targets_planned (List.mem_append_right _ late))

end

end Editor

end Outreach
