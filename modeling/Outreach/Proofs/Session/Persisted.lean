import Outreach.Address.Basic
import Outreach.Proofs.Limits
import Outreach.Proofs.Service.Kept
import Outreach.Proofs.Session.Run

set_option autoImplicit false

namespace Outreach

theorem Compilation.payloads_eq_map (compilation : Compilation) :
    compilation.payloads = (compilation.steps.map CompiledStep.payload).map .obj := by
  simp [payloads]

-- No configuration is nested so deep that a stored campaign cannot be copied as a whole: there the
-- campaign, its list of steps and the step are around it.
def CompiledStep.Shallow [Limits] (step : CompiledStep) : Prop :=
  (Value.obj step.config).depth + 3 ≤ Limits.copyDepth

namespace Campaign

variable {campaign : Campaign} {name other : String} {payloads : List Fields} {now : Nat}
  {steps : List Fields}

theorem Holds.renamed (holds : campaign.Holds name payloads) :
    (campaign.renamed name now).Holds name payloads := ⟨rfl, holds.steps⟩

theorem Holds.replaced (named : campaign.name = .str name)
    (kept : List.Forall₂ StoredAs payloads steps) :
    (campaign.replaced steps now).Holds name payloads := ⟨named, kept⟩

theorem Holds.shallow [Limits] {steps : List CompiledStep}
    (holds : campaign.Holds name (steps.map CompiledStep.payload)) (shown : campaign.Shown) :
    ∀ step ∈ steps, step.Shallow := by
  have listed := (shown_iff.mp shown).2
  have room : campaign.stepsValue.depth ≤ Limits.copyDepth - 2 + 1 := by omega
  intro step member
  have fits := holds.depth_stepsValue_le.mp room step member
  rw [CompiledStep.Shallow]
  omega

theorem Shown.replaced [Limits] {payloads : List CompiledStep} (shown : campaign.Shown)
    (holds : (campaign.replaced steps now).Holds name (payloads.map CompiledStep.payload))
    (shallow : ∀ step ∈ payloads, step.Shallow) : (campaign.replaced steps now).Shown := by
  obtain ⟨parts, listed⟩ := shown_iff.mp shown
  have some : 0 < campaign.stepsValue.depth := Nat.succ_pos _
  have room : (campaign.replaced steps now).stepsValue.depth ≤ Limits.copyDepth - 2 + 1 := by
    refine holds.depth_stepsValue_le.mpr fun step member => ?_
    have fits : (Value.obj step.config).depth + 3 ≤ Limits.copyDepth := shallow step member
    omega
  exact shown_iff.mpr ⟨parts, by omega⟩

theorem campaignId_value {id : String} (named : Save.campaignId campaign.value = .ok id) :
    id = campaign.id := by
  obtain ⟨-, fields, same, given⟩ := Save.campaignId_ok named
  cases same
  simpa [Fields.get?_cons, Key.is, eq_comm] using given

end Campaign

namespace Editor

variable {editor : Editor} {graph : Graph} {campaign : String} {kept : Campaign} {now : Nat}
  {compilation : Compilation} {reply : Value}

section

variable [Limits] [Client]

theorem InMemory.rename (memory : editor.InMemory)
    (known : editor.stored? campaign = some kept) :
    (editor.call (graph.renameCall campaign) now).answer =
        (kept.renamed graph.name now).copied ∧
      (editor.call (graph.renameCall campaign) now).editor.stored? campaign =
        some (kept.renamed graph.name now) := by
  obtain ⟨store, service, -⟩ := memory
  simp only [stored?, service] at known
  simp only [stored?, Editor.call, Service.call, service, Graph.renameCall, Store.call,
    Store.update_name known, Store.find?_insert_self, and_self]

theorem InMemory.exists_of_rename (memory : editor.InMemory)
    (answered : (editor.call (graph.renameCall campaign) now).answer = .ok reply) :
    ∃ kept, editor.stored? campaign = some kept := by
  obtain ⟨store, service, -⟩ := memory
  by_contra missing
  have none : store.find? campaign = none := by
    simpa [stored?, service, Option.eq_none_iff_forall_ne_some] using missing
  simp [Editor.call, Service.call, service, Graph.renameCall, Store.call,
    Store.update_unknown none] at answered

theorem InMemory.replace (memory : editor.InMemory)
    (known : editor.stored? campaign = some kept) :
    (∃ failure, (editor.call (compilation.replaceCall campaign) now).answer = .error failure) ∧
        (editor.call (compilation.replaceCall campaign) now).editor.stored? campaign = some kept ∨
      ∃ steps, List.Forall₂ Campaign.StoredAs (compilation.steps.map CompiledStep.payload) steps ∧
        (editor.call (compilation.replaceCall campaign) now).answer =
          (kept.replaced steps now).copiedSteps ∧
        (editor.call (compilation.replaceCall campaign) now).editor.stored? campaign =
          some (kept.replaced steps now) := by
  obtain ⟨store, service, -⟩ := memory
  simp only [stored?, service] at known
  have replaced : store.Replaced campaign kept (compilation.steps.map CompiledStep.payload) now
      (store.replaceSteps campaign (.list compilation.payloads) now editor.supply) :=
    compilation.payloads_eq_map ▸ Store.replaceSteps_replaced known
  simp only [stored?, Editor.call, Service.call, service, Compilation.replaceCall, Store.call]
  generalize store.replaceSteps _ _ _ _ = outcome at replaced
  cases replaced with
  | failed => exact .inl ⟨⟨_, rfl⟩, known⟩
  | stored sent => exact .inr ⟨_, sent, rfl, Store.find?_insert_self⟩

theorem InMemory.create (memory : editor.InMemory)
    (answered : (editor.call (graph.createCall compilation) now).answer = .ok reply)
    (named : Save.campaignId reply = .ok campaign) :
    ∃ kept : Campaign, kept.Shown ∧
      kept.Holds graph.name (compilation.steps.map CompiledStep.payload) ∧
      (editor.call (graph.createCall compilation) now).editor.stored? campaign = some kept := by
  obtain ⟨store, service, -⟩ := memory
  have created : store.Created editor.supply graph.name
      (compilation.steps.map CompiledStep.payload)
      (store.create (.obj [("name", .str graph.name), ("status", .str Status.draft.name),
        ("steps", .list compilation.payloads)]) now editor.supply) :=
    compilation.payloads_eq_map ▸ Store.create_created
  simp only [stored?, Editor.call, Service.call, service, Graph.createCall, Store.call]
    at answered ⊢
  generalize store.create _ _ _ = outcome at created answered
  cases created with
  | failed => cases answered
  | stored identified holds =>
    obtain ⟨shown, rfl⟩ := Campaign.copied_eq_ok.mp answered
    obtain rfl := Campaign.campaignId_value named
    exact ⟨_, shown, holds, Store.find?_insert_self⟩

def Backs (editor : Editor) (graph : Graph) : Prop :=
  ∃ campaign kept compilation, graph.campaign = some campaign ∧
    editor.stored? campaign = some kept ∧ graph.compile = .ok compilation ∧
    kept.Holds graph.name (compilation.steps.map CompiledStep.payload)

theorem exists_kept_of_save {id : String} {receipt : Receipt}
    (memory : editor.InMemory) (saved : (editor.save id now).answer = .ok receipt) :
    ∃ session compilation kept, editor.session id = .ok session ∧
      session.graph.compile = .ok compilation ∧ receipt.steps = compilation.steps ∧
      (editor.save id now).editor.session id = .ok (session.stored receipt.campaign) ∧
      (editor.save id now).editor.stored? receipt.campaign = some kept ∧
      kept.Holds session.graph.name (compilation.steps.map CompiledStep.payload) ∧
      (receipt.created = true → kept.Shown) ∧
      ((∀ step ∈ compilation.steps, step.Shallow) → kept.Shown) ∧
      kept.stepsValue.depth ≤ Limits.copyDepth := by
  have saving := editor.saving id now
  generalize editor.save id now = outcome at saved saving
  cases saving with
  | unknown => cases saved
  | refused => cases saved
  | failed => cases saved
  | created found compiled fresh answered named =>
    rename_i session compilation reply campaign
    cases saved
    obtain ⟨kept, shown, holds, stored⟩ := memory.create answered named
    exact ⟨session, compilation, kept, found, compiled, rfl, session_put_of_ok rfl found rfl,
      stored, holds, fun _ => shown, fun _ => shown, (Campaign.shown_iff.mp shown).2.le⟩
  | updated found compiled known renamed replaced =>
    rename_i session compilation first second campaign
    cases saved
    obtain ⟨old, before⟩ := memory.exists_of_rename renamed
    obtain ⟨answer, stored⟩ := memory.rename before
    have shown := (Campaign.copied_eq_ok.mp (answer.symm.trans renamed)).1
    obtain ⟨⟨failure, failed⟩, -⟩ | ⟨steps, sent, answered, last⟩ :=
      InMemory.replace (memory.call _ now).1 stored
    · cases failed.symm.trans replaced
    · have holds : ((old.renamed session.graph.name now).replaced steps now).Holds
          session.graph.name (compilation.steps.map CompiledStep.payload) := .replaced rfl sent
      have copied := (Campaign.copiedSteps_eq_ok.mp (answered.symm.trans replaced)).1
      exact ⟨session, compilation, _, found, compiled, rfl, session_put_of_ok rfl found rfl,
        last, holds, nofun, shown.replaced holds, copied⟩

theorem Backs.call (backs : editor.Backs graph) (memory : editor.InMemory)
    (compiled : graph.compile = .ok compilation) {call : Call}
    (member : call ∈ (Save.first graph compilation.steps).remaining) :
    (editor.call call now).editor.Backs graph := by
  obtain ⟨campaign, kept, other, known, stored, compiles, holds⟩ := backs
  obtain rfl : compilation = other := Except.ok.inj (compiled.symm.trans compiles)
  rw [Save.first_remaining known] at member
  obtain rfl | rfl : _ ∨ _ := by simpa using member
  · exact ⟨campaign, _, _, known, (memory.rename stored).2, compiled, holds.renamed⟩
  · obtain ⟨-, same⟩ | ⟨steps, sent, -, after⟩ := memory.replace stored
    · exact ⟨campaign, kept, _, known, same, compiled, holds⟩
    · exact ⟨campaign, _, _, known, after, compiled, .replaced holds.name sent⟩

theorem Backs.callAll (backs : editor.Backs graph) (memory : editor.InMemory)
    (compiled : graph.compile = .ok compilation) {calls : List Call}
    (members : calls ⊆ (Save.first graph compilation.steps).remaining) :
    (editor.callAll calls now).Backs graph := by
  induction calls generalizing editor with
  | nil => exact backs
  | cons call rest ih =>
    obtain ⟨first, later⟩ := List.cons_subset.mp members
    exact ih (backs.call memory compiled first) (memory.call call now).1 later

theorem Backs.save {id : String} {session : Session} {failure : Failure}
    (backs : editor.Backs session.graph) (memory : editor.InMemory)
    (found : editor.session id = .ok session)
    (failed : (editor.save id now).answer = .error failure) :
    (editor.save id now).editor.Backs session.graph := by
  have saving := editor.saving id now
  generalize editor.save id now = outcome at failed saving
  cases saving with
  | unknown => exact backs
  | refused => exact backs
  | failed known compiled made first =>
    obtain rfl : session = _ := Except.ok.inj (found.symm.trans known)
    exact backs.callAll memory compiled first.subset
  | created => cases failed
  | updated => cases failed

end

section

attribute [local instance] Limits.usual Address.client

def planning : List (Action × Nat) :=
  [(.openNew (some " Plan ") none, 1), (.openNew none none, 2),
   (.edit "sess_000000000001" (.addNode (.str "linkedin_visit") none), 3)]

def meanwhile : List (Action × Nat) :=
  [(.call (.create (.obj [("name", .str "Other")])), 5),
   (.call (.update "camp_00000003" (.obj [("name", .str "Others")])), 6),
   (.edit "sess_000000000001" (.select (some "node_00000001")), 7),
   (.close "sess_000000000002", 8)]

def visit : Node :=
  { id := "node_00000001", type := .linkedinVisit, position := .origin
    config := (Catalog.definition .linkedinVisit).defaults }

def planned : Session :=
  { id := "sess_000000000001"
    graph := { id := "wf_00000001", name := "Plan", nodes := [visit], edges := [], selected := none
               campaign := none, created := 1, updated := 3 }
    opened := 1, saved := none }

def planReceipt : Receipt :=
  { campaign := "camp_00000001", created := true
    steps := (planned.graph.compileFrom visit).steps }

theorem save_planned : (start.performAll planning).save "sess_000000000001" 4 =
    { answer := .ok planReceipt
      editor := ((start.performAll planning).call
        (planned.graph.createCall (planned.graph.compileFrom visit)) 4).editor.put
          (planned.stored "camp_00000001") } := by
  have found : (start.performAll planning).session "sess_000000000001" = .ok planned := rfl
  have compiled : planned.graph.compile = .ok (planned.graph.compileFrom visit) := rfl
  rw [save_of_ok found compiled]
  exact finish_of_over rfl

end

theorem not_targets_planned {state : Editor} {action : Action} {now : Nat}
    (member : (action, now) ∈ planning ++ meanwhile) :
    ¬ action.Targets state "camp_00000001" := by
  intro targets
  simp only [planning, meanwhile, List.cons_append, List.nil_append, List.mem_cons,
    List.not_mem_nil, or_false, Prod.mk.injEq] at member
  obtain ⟨rfl, -⟩ | ⟨rfl, -⟩ | ⟨rfl, -⟩ | ⟨rfl, -⟩ | ⟨rfl, -⟩ | ⟨rfl, -⟩ | ⟨rfl, -⟩ := member <;>
    simp [Action.Targets, Call.target?] at targets

end Editor

end Outreach
