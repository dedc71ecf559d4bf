import Outreach.Proofs.Campaign.Reload
import Outreach.Proofs.Session.Coupled

set_option autoImplicit false

namespace Outreach

namespace Campaign

variable {stored : StoredStep} {payload fields : Fields}

theorem get?_storedStep {name : String} (other : name ∉ ownKeys) (campaign id : String)
    (now : Nat) (payload : Fields) :
    (storedStep campaign id now payload).get? name = payload.get? name := by
  simp only [ownKeys, List.mem_cons, List.not_mem_nil, or_false, not_or] at other
  obtain ⟨first, second, third, fourth⟩ := other
  simp only [storedStep, Fields.merge, List.foldl_cons, List.foldl_nil]
  rw [Fields.get?_set_of_ne _ _ fourth, Fields.get?_set_of_ne _ _ third,
    Fields.get?_set_of_ne _ _ second, Fields.get?_set_of_ne _ _ first]

theorem in_of_storedAs (inside : stored.In payload) (kept : StoredAs payload fields) :
    stored.In fields := by
  obtain ⟨campaign, id, now, rfl⟩ := kept
  have same {name : String} (other : name ∉ ownKeys) :=
    get?_storedStep other campaign id now payload
  exact {
    type := (same (by decide)).trans inside.type
    order := (same (by decide)).trans inside.order
    title := (same (by decide)).trans inside.title
    description := (same (by decide)).trans inside.description
    config := (same (by decide)).trans inside.config
    executable := inside.executable
    titled := inside.titled }

theorem Holds.stored_in [Limits] {campaign : Campaign} {graph : Graph} {compilation : Compilation}
    (holds : campaign.Holds graph.name (compilation.steps.map CompiledStep.payload))
    (compiled : graph.compile = .ok compilation) :
    List.Forall₂ StoredStep.In (compilation.steps.map CompiledStep.stored) campaign.steps := by
  have payloads : compilation.steps.map CompiledStep.payload =
      compilation.steps.map (·.stored.wire) :=
    List.map_congr_left fun step _ => step.payload_eq
  have kept := holds.steps
  rw [payloads] at kept
  refine (forall₂_comp (Graph.stored_in compiled) kept).imp ?_
  rintro stored fields ⟨payload, inside, kept⟩
  exact in_of_storedAs inside kept

end Campaign

def Node.Shows (node : Node) (step : CompiledStep) : Prop :=
  node.type = step.type ∧ node.config = step.config.withTitle step.title

namespace Editor

variable [Limits] [Client]
variable {editor : Editor} {session : Session} {campaign name : String} {kept : Campaign}
  {now : Nat}

theorem Takes.cons {state : Editor} {action next : Action} {time : Nat}
    {steps : List (Action × Nat)}
    (takes : (editor.perform action now).Takes steps state next time) :
    editor.Takes ((action, now) :: steps) state next time := by
  obtain ⟨before, after, rfl, same⟩ := takes
  exact ⟨(action, now) :: before, after, rfl, same⟩

theorem InMemory.stored?_performAll (memory : editor.InMemory)
    (known : editor.stored? campaign = some kept) {steps : List (Action × Nat)}
    (spared : ∀ state action time, editor.Takes steps state action time →
      ¬ state.Writes action time campaign) :
    (editor.performAll steps).stored? campaign = some kept := by
  induction steps generalizing editor with
  | nil => exact known
  | cons step rest ih =>
    obtain ⟨action, now⟩ := step
    have first := spared editor action now ⟨[], rest, rfl, rfl⟩
    exact ih (memory.perform action now).1 (memory.stored?_of_not_writes known first)
      fun state next time takes => spared state next time takes.cons

theorem InMemory.call_get (memory : editor.InMemory)
    (known : editor.stored? campaign = some kept) :
    editor.call (.get campaign) now = { answer := kept.copied, editor } := by
  obtain ⟨store, service, -⟩ := memory
  obtain ⟨sessions, _, supply⟩ := editor
  cases service
  have known : store.find? campaign = some kept := known
  simp only [Editor.call, Service.call, Store.call, Store.lookup_eq_ok.mpr known]
  rfl

omit [Client] in
theorem text_orElse (name : String) : ((Value.str name).orElse (.str "")).text = .ok name := by
  rw [Value.orElse, Value.truthy]
  by_cases empty : name = ""
  · simp [empty, Value.text]
  · simp [empty, Value.text]

omit [Client] in
theorem stored_value (named : kept.name = .str name) :
    stored kept.value = .ok (name, kept.steps.map .obj) := by
  simp [stored, Campaign.value, Campaign.stepsValue, Fields.getD, Fields.get?_cons, Key.is,
    Campaign.orElse_list, named, text_orElse]

theorem InMemory.load (memory : editor.InMemory) (known : editor.stored? campaign = some kept)
    (shown : kept.Shown) (named : kept.name = .str name) :
    editor.load campaign now =
      editor.openSteps (some name) (some campaign) (kept.steps.map .obj) now := by
  have copied : kept.copied = .ok kept.value := Campaign.copied_eq_ok.mpr ⟨shown, rfl⟩
  simp only [Editor.load, memory.call_get known, copied, Except.bind, stored_value named]

theorem InMemory.load_of_not_shown (memory : editor.InMemory)
    (known : editor.stored? campaign = some kept) (deep : ¬ kept.Shown) :
    editor.load campaign now = { answer := .error (.defect .tooDeep), editor } := by
  have copied : kept.copied = .error (.defect .tooDeep) :=
    Campaign.copied_eq_error.mpr ⟨deep, rfl⟩
  simp only [Editor.load, memory.call_get known, copied, Except.bind]

structure Loads (editor : Editor) (campaign name : String) (steps : List CompiledStep)
    (outcome : Outcome Session) (opened : Session) : Prop where
  answer : outcome.answer = .ok opened
  sessions : outcome.editor.sessions = editor.sessions ++ [opened]
  fresh : ∀ session ∈ editor.sessions, session.id ≠ opened.id
  name : opened.graph.name = name
  campaign : opened.graph.campaign = some campaign
  chained : opened.graph.Chained
  nodes : List.Forall₂ Node.Shows opened.graph.nodes steps
  compiles : opened.graph.compile = .ok
    { steps := steps.map CompiledStep.titled
      fallback := { cycleEntries := [], unreachable := [] } }

theorem exists_loads {session : Session} {compilation : Compilation} (regular : editor.Regular)
    (known : editor.stored? campaign = some kept) (shown : kept.Shown)
    (holds : kept.Holds session.graph.name (compilation.steps.map CompiledStep.payload))
    (compiled : session.graph.compile = .ok compilation)
    (sound : session.graph.Sound) :
    ∃ opened, editor.Loads campaign session.graph.name compilation.steps
      (editor.load campaign now) opened := by
  obtain ⟨rebuilt, next, made, chained, name, shows, compiles⟩ :=
    Graph.exists_reopened compiled (Graph.steps_ne_nil sound.unique compiled)
      (holds.stored_in compiled) (some campaign) now editor.supply
  rw [regular.memory.load known shown holds.name, openSteps, made]
  refine ⟨_, rfl, rfl, ?_, ?_, ?_, chained, ?_, compiles⟩
  · intro other member same
    obtain ⟨n, given, numbered⟩ := regular.named_of_mem member
    have grows := Graph.ofSteps_grows (some session.graph.name) (some campaign)
      (kept.steps.map .obj) now editor.supply
    rw [made] at grows
    have last : n = next.sessions + 1 := Supply.id_injective "sess_" 12 (numbered.symm.trans same)
    have sessions : editor.supply.sessions ≤ next.sessions := grows.sessions
    omega
  · exact name.trans sound.stripped
  · exact (Graph.ofSteps_kept made).1
  · exact shows.flip.imp fun node step opened => ⟨opened.type, opened.config⟩

-- What loading comes to after a save. A new campaign holds shallow steps only; one that was stored
-- before can take a step that is a level too deep, and is not loaded then.
structure Reloads (editor : Editor) (session : Session) (receipt : Receipt) (now : Nat) :
    Prop where
  created : receipt.created = true → ∀ step ∈ receipt.steps, step.Shallow
  listed : ∀ step ∈ receipt.steps, (Value.obj step.config).depth + 2 ≤ Limits.copyDepth
  shallow : (∀ step ∈ receipt.steps, step.Shallow) →
    ∃ opened, editor.Loads receipt.campaign session.graph.name receipt.steps
      (editor.load receipt.campaign now) opened
  deep : (∃ step ∈ receipt.steps, ¬ step.Shallow) →
    editor.load receipt.campaign now = { answer := .error (.defect .tooDeep), editor }

theorem reloads_after_save (steps : List (Action × Nat)) (id : String) (now : Nat)
    (receipt : Receipt) (saved : ((start.performAll steps).save id now).answer = .ok receipt)
    (later : List (Action × Nat))
    (spared : ∀ state action time,
      ((start.performAll steps).save id now).editor.Takes later state action time →
        ¬ state.Writes action time receipt.campaign) (time : Nat) :
    ∃ session, (start.performAll steps).session id = .ok session ∧
      (((start.performAll steps).save id now).editor.performAll later).Reloads session receipt
        time := by
  have regular := start_regular.performAll steps
  obtain ⟨session, compilation, kept, found, compiled, same, -, stored, holds, fresh, shown,
    listed⟩ := exists_kept_of_save regular.memory saved
  have after : ((start.performAll steps).save id now).editor.Regular :=
    regular.perform (.save id) now
  have last := after.performAll later
  have still := after.memory.stored?_performAll stored spared
  refine ⟨session, found, ?_⟩
  constructor <;> rw [same]
  case created => exact fun created => holds.shallow (fresh created)
  case listed =>
    have room : kept.stepsValue.depth ≤ Limits.copyDepth - 1 + 1 := by omega
    intro step member
    have fits := holds.depth_stepsValue_le.mp room step member
    have least := Limits.two_le_copyDepth
    omega
  case shallow =>
    exact fun shallow => exists_loads last still (shown shallow) holds compiled
      (regular.sessions id session found).numbered.toSound
  case deep =>
    rintro ⟨step, member, deep⟩
    exact last.memory.load_of_not_shown still fun shown => deep (holds.shallow shown step member)

end Editor

namespace Editor

section

attribute [local instance] Limits.usual Address.client

theorem planned_loads :
    ((start.performAll planning).save "sess_000000000001" 4).answer = .ok planReceipt ∧
    (∀ state action time,
      ((start.performAll planning).save "sess_000000000001" 4).editor.Takes meanwhile state action
        time → ¬ state.Writes action time planReceipt.campaign) ∧
    ∃ session opened,
      (start.performAll planning).session "sess_000000000001" = .ok session ∧
      (((start.performAll planning).save "sess_000000000001" 4).editor.performAll
        meanwhile).Loads planReceipt.campaign session.graph.name planReceipt.steps
          ((((start.performAll planning).save "sess_000000000001" 4).editor.performAll
            meanwhile).load planReceipt.campaign 9) opened := by
  have saved : ((start.performAll planning).save "sess_000000000001" 4).answer =
      .ok planReceipt := congrArg Outcome.answer save_planned
  have spared : ∀ state action time,
      ((start.performAll planning).save "sess_000000000001" 4).editor.Takes meanwhile state action
        time → ¬ state.Writes action time planReceipt.campaign := fun _ _ _ takes writes =>
    not_targets_planned (List.mem_append_right _ takes.mem) writes.1
  obtain ⟨session, found, reloads⟩ :=
    reloads_after_save planning _ 4 planReceipt saved meanwhile spared 9
  obtain ⟨opened, loads⟩ := reloads.shallow (reloads.created rfl)
  exact ⟨saved, spared, session, opened, found, loads⟩

def deepening : List (Action × Nat) :=
  planning ++ [(.save "sess_000000000001", 4),
    (.edit "sess_000000000001" (.updateConfig "node_00000001" (.obj [("k", .nested 490)])), 5)]

theorem deepened_not_loaded :
    ∃ receipt, ((start.performAll deepening).save "sess_000000000001" 6).answer = .ok receipt ∧
      receipt.campaign = "camp_00000001" ∧
      ((start.performAll deepening).save "sess_000000000001" 6).editor.load "camp_00000001" 7 =
        { answer := .error (.defect .tooDeep)
          editor := ((start.performAll deepening).save "sess_000000000001" 6).editor } := by
  have saved : ((start.performAll deepening).save "sess_000000000001" 6).answer.toOption.map
      Receipt.campaign = some "camp_00000001" := by decide +kernel
  have deep : ((((start.performAll deepening).save "sess_000000000001" 6).editor.stored?
      "camp_00000001").any fun kept => Limits.copyDepth < kept.value.depth) = true := by
    decide +kernel
  have regular : ((start.performAll deepening).save "sess_000000000001" 6).editor.Regular :=
    (start_regular.performAll deepening).perform (.save "sess_000000000001") 6
  obtain ⟨receipt, answered, named⟩ := Option.map_eq_some_iff.mp saved
  obtain ⟨kept, stored, deep⟩ := (Option.any_eq_true _ _).mp deep
  exact ⟨receipt, toOption_eq_some.mp answered, named,
    regular.memory.load_of_not_shown stored (Nat.not_le_of_lt (of_decide_eq_true deep))⟩

end

end Editor

end Outreach
