import Outreach.Address.Basic
import Outreach.Proofs.Limits
import Outreach.Proofs.Obstacle
import Outreach.Proofs.Service.Remote
import Outreach.Proofs.Session.Run

set_option autoImplicit false

namespace Outreach

namespace Value

theorem finiteItems_eq (items : List Value) : finiteItems items = items.all finite := by
  induction items with
  | nil => rfl
  | cons item rest ih => rw [finiteItems, List.all_cons, ih]

end Value

theorem CompiledStep.finite_payload (step : CompiledStep) :
    (Value.obj step.payload).finite = (Value.obj step.config).finite := by
  rw [payload]
  split <;> simp [Value.finite, Value.finiteFields, Fields.set, Key.same, Key.finite]

namespace Compilation

theorem finite_payloads (compilation : Compilation) :
    (Value.list compilation.payloads).finite =
      compilation.steps.all fun step => (Value.obj step.config).finite := by
  rw [Value.finite, Value.finiteItems_eq, payloads, List.all_map]
  simp only [Function.comp_def, CompiledStep.finite_payload]

theorem finite_replaceCall (compilation : Compilation) (campaign : String) :
    (compilation.replaceCall campaign).body.finite =
      compilation.steps.all fun step => (Value.obj step.config).finite := by
  rw [← finite_payloads]
  simp [replaceCall, Call.body, Value.finite, Value.finiteFields, Key.finite]

end Compilation

theorem Graph.finite_createCall (graph : Graph) (compilation : Compilation) :
    (graph.createCall compilation).body.finite =
      compilation.steps.all fun step => (Value.obj step.config).finite := by
  rw [← Compilation.finite_payloads]
  simp [createCall, Call.body, Value.finite, Value.finiteFields, Key.finite]

namespace Save

variable {save : Save} {campaign : String}

theorem first_remaining_fresh {graph : Graph} {compilation : Compilation}
    (fresh : graph.campaign = none) :
    (first graph compilation.steps).remaining = [graph.createCall compilation] := by
  simp only [remaining, first, fresh]
  rfl

theorem exists_receive_creating (stage : save.stage = .creating) (session : Session)
    (answer : Except Failure Value) :
    ∃ after, save.receive session answer =
      (after, .over ((answer.bind campaignId).map fun campaign =>
        { campaign, created := true, steps := save.steps })) := by
  cases answer with
  | error failure => exact ⟨session, rfl⟩
  | ok reply =>
    cases named : campaignId reply <;>
      simp [receive, stage, named, Except.bind, Except.map]

theorem exists_receive_replacing (stage : save.stage = .replacing campaign) (session : Session)
    (answer : Except Failure Value) :
    ∃ after, save.receive session answer =
      (after, .over (answer.map fun _ => { campaign, created := false, steps := save.steps })) := by
  cases answer with
  | error failure => exact ⟨session, rfl⟩
  | ok reply => simp [receive, stage, Except.map]

theorem campaignId_cases (fields : Fields) :
    (∃ campaign, campaignId (.obj fields) = .ok campaign) ∨
      campaignId (.obj fields) = .error ServiceFault.missingId.failure := by
  rw [campaignId]
  split
  · split
    · exact .inr rfl
    · exact .inl ⟨_, rfl⟩
  · exact .inr rfl

end Save

def Answered (answer : Except Failure Receipt) : Prop :=
  (∃ receipt, answer = .ok receipt) ∨ ∃ message status, answer = .error (.service message status)

namespace Editor

variable [Limits] [Client]
variable {editor : Editor} {session : Session} {compilation : Compilation} {id campaign : String}
  {now : Nat} {channel : Channel}

theorem save_answer_of_fresh (found : editor.session id = .ok session)
    (compiled : session.graph.compile = .ok compilation)
    (fresh : session.graph.campaign = none) :
    (editor.save id now).answer =
      ((editor.call (session.graph.createCall compilation) now).answer.bind
        Save.campaignId).map fun campaign =>
          { campaign, created := true, steps := compilation.steps } := by
  have stage : (Save.first session.graph compilation.steps).stage = .creating := by
    simp [Save.first, fresh]
  rw [save_of_ok found compiled, ← Save.first_call_creating stage]
  obtain ⟨after, received⟩ := Save.exists_receive_creating stage session
    (editor.call (Save.first session.graph compilation.steps).call now).answer
  rw [finish_of_over received]
  rfl

theorem save_answer_of_known (found : editor.session id = .ok session)
    (compiled : session.graph.compile = .ok compilation)
    (known : session.graph.campaign = some campaign) :
    (editor.save id now).answer =
      (editor.call (session.graph.renameCall campaign) now).answer.bind fun _ =>
        ((editor.call (session.graph.renameCall campaign) now).editor.call
          (compilation.replaceCall campaign) now).answer.map fun _ =>
            { campaign, created := false, steps := compilation.steps } := by
  have stage : (Save.first session.graph compilation.steps).stage = .renaming campaign := by
    simp [Save.first, known]
  rw [save_of_ok found compiled, ← Save.first_call_renaming stage]
  cases answered : (editor.call (Save.first session.graph compilation.steps).call now).answer with
  | error failure =>
    rw [finish_of_over (by rw [answered]; rfl)]
    rfl
  | ok reply =>
    let next : Save :=
      { Save.first session.graph compilation.steps with stage := .replacing campaign }
    have waits : (Save.first session.graph compilation.steps).receive session
        (editor.call (Save.first session.graph compilation.steps).call now).answer =
          (session, .waiting next) := by
      simp [Save.receive, answered, stage, next]
    rw [finish_of_waiting waits]
    have replacing : next.stage = .replacing campaign := rfl
    obtain ⟨after, received⟩ := Save.exists_receive_replacing replacing session
      (((editor.call (Save.first session.graph compilation.steps).call now).editor.put
        session).call next.call now).answer
    rw [finish_of_over received]
    rfl

theorem call_remote (remote : editor.service = .remote channel) (request : Call) (now : Nat) :
    (editor.call request now).answer = (channel.call request).1 ∧
      (editor.call request now).editor.service = .remote (channel.call request).2 := by
  simp [Editor.call, Service.call, remote]

end Editor

namespace Channel

variable [Limits] [Client]
variable {channel : Channel} {graph : Graph} {compilation : Compilation} {call : Call}
  {failure : Failure} {steps : List CompiledStep} {campaign : String}

structure Sends (channel : Channel) (calls : List Call) (answer : Except Failure Receipt) :
    Prop where
  ends : Answered answer ∨ ∃ defect, answer = .error (.defect defect)
  stuck : ∀ defect, answer = .error (.defect defect) ↔ channel.Stuck defect calls

theorem sends_of_failed {calls : List Call} (asks : ∀ id, call ≠ .get id)
    (failed : (channel.call call).1 = .error failure) :
    channel.Sends (call :: calls) (.error failure) := by
  constructor
  · obtain (⟨fault, rfl⟩ | ⟨id, same, -⟩) | defect := fails_or_defect failed
    · exact .inl (.inr ⟨_, _, rfl⟩)
    · exact absurd same (asks id)
    · obtain ⟨defect, rfl⟩ := defect
      exact .inr ⟨defect, rfl⟩
  · intro defect
    constructor
    · intro same
      cases same
      exact .here (call_eq_defect_iff.mp failed)
    · intro stuck
      cases stuck with
      | here stuck =>
        cases failed.symm.trans (call_eq_defect_iff.mpr stuck)
        rfl
      | later answered => cases failed.symm.trans answered

theorem sends_create :
    channel.Sends [graph.createCall compilation]
      (((channel.call (graph.createCall compilation)).1.bind Save.campaignId).map fun campaign =>
        { campaign, created := true, steps }) := by
  cases answered : (channel.call (graph.createCall compilation)).1 with
  | error failure => exact sends_of_failed (by simp [Graph.createCall]) answered
  | ok reply =>
    obtain ⟨fields, rfl⟩ : ∃ fields, reply = .obj fields := fits_of_ok answered
    have clear : ∀ defect, ¬ channel.Stuck defect [graph.createCall compilation] := by
      intro defect stuck
      cases answered.symm.trans (call_eq_defect_iff.mpr (stuck_singleton.mp stuck))
    obtain ⟨campaign, named⟩ | missing := Save.campaignId_cases fields
    · simp only [Except.bind, named, Except.map]
      exact ⟨.inl (.inl ⟨_, rfl⟩), by simp [clear]⟩
    · simp only [Except.bind, missing, Except.map]
      exact ⟨.inl (.inr ⟨_, _, rfl⟩), by simp [clear, ServiceFault.failure]⟩

theorem sends_update :
    channel.Sends [graph.renameCall campaign, compilation.replaceCall campaign]
      ((channel.call (graph.renameCall campaign)).1.bind fun _ =>
        ((channel.call (graph.renameCall campaign)).2.call
          (compilation.replaceCall campaign)).1.map fun _ =>
            { campaign, created := false, steps }) := by
  cases renamed : (channel.call (graph.renameCall campaign)).1 with
  | error failure => exact sends_of_failed (by simp [Graph.renameCall]) renamed
  | ok reply =>
    rw [Except.bind]
    have next : ∀ defect,
        channel.Stuck defect [graph.renameCall campaign, compilation.replaceCall campaign] ↔
          (channel.call (graph.renameCall campaign)).2.Stuck defect
            [compilation.replaceCall campaign] := by
      intro defect
      rw [stuck_pair, ← call_eq_defect_iff, renamed, stuck_singleton]
      simp
    cases replaced : ((channel.call (graph.renameCall campaign)).2.call
        (compilation.replaceCall campaign)).1 with
    | error failure =>
      have sends : ((channel.call (graph.renameCall campaign)).2).Sends
          [compilation.replaceCall campaign] (.error failure) :=
        sends_of_failed (by simp [Compilation.replaceCall]) replaced
      exact ⟨sends.ends, fun defect => (sends.stuck defect).trans (next defect).symm⟩
    | ok steps =>
      refine ⟨.inl (.inl ⟨_, rfl⟩), fun defect => ?_⟩
      rw [next, stuck_singleton, ← call_eq_defect_iff, replaced]
      simp [Except.map]

end Channel

namespace Editor

variable [Limits] [Client]
variable {editor : Editor} {session : Session} {compilation : Compilation} {id campaign : String}
  {now : Nat} {channel : Channel}

theorem sends_save (remote : editor.service = .remote channel)
    (found : editor.session id = .ok session)
    (compiled : session.graph.compile = .ok compilation) (now : Nat) :
    channel.Sends (Save.first session.graph compilation.steps).remaining
      (editor.save id now).answer := by
  cases known : session.graph.campaign with
  | none =>
    rw [save_answer_of_fresh found compiled known, Save.first_remaining_fresh known,
      (call_remote remote _ now).1]
    exact Channel.sends_create
  | some campaign =>
    have renamed := call_remote remote (session.graph.renameCall campaign) now
    rw [save_answer_of_known found compiled known, Save.first_remaining known,
      (call_remote renamed.2 _ now).1, renamed.1]
    exact Channel.sends_update

end Editor

structure Session.Sent [Limits] [Client] (session : Session) (compilation : Compilation)
    (channel : Channel) (answer : Except Failure Receipt) : Prop where
  sends : channel.Sends (Save.first session.graph compilation.steps).remaining answer
  answered :
    (∀ call ∈ (Save.first session.graph compilation.steps).remaining,
      channel.remote.Reaches call ∧ call.body.unsendable? = none) →
    (∀ reaction ∈ channel.reactions, reaction.unreadable? channel.remote = none) →
    Answered answer
  -- A number that is not finite is not stored, and no failure of the service is reported unless a
  -- call before it failed.
  infinite :
    (∀ call ∈ (Save.first session.graph compilation.steps).remaining,
      channel.remote.Reaches call) →
    (∃ step ∈ compilation.steps, (Value.obj step.config).finite = false) →
    (∃ call ∈ (Save.first session.graph compilation.steps).remaining, ∃ defect,
      call.body.unsendable? = some defect ∧ defect.Stops true ∧ answer = .error (.defect defect)) ∨
      ∃ campaign failure, session.graph.campaign = some campaign ∧
        (channel.call (session.graph.renameCall campaign)).1 = .error failure ∧
        answer = .error failure

namespace Editor

variable [Limits] [Client]
variable {editor : Editor} {session : Session} {compilation : Compilation} {id : String}
  {now : Nat} {channel : Channel}

theorem save_of_infinite (remote : editor.service = .remote channel)
    (found : editor.session id = .ok session)
    (compiled : session.graph.compile = .ok compilation)
    (reaches : ∀ call ∈ (Save.first session.graph compilation.steps).remaining,
      channel.remote.Reaches call)
    (infinite : ∃ step ∈ compilation.steps, (Value.obj step.config).finite = false) :
    (∃ call ∈ (Save.first session.graph compilation.steps).remaining, ∃ defect,
      call.body.unsendable? = some defect ∧ defect.Stops true ∧
        (editor.save id now).answer = .error (.defect defect)) ∨
      ∃ campaign failure, session.graph.campaign = some campaign ∧
        (channel.call (session.graph.renameCall campaign)).1 = .error failure ∧
        (editor.save id now).answer = .error failure := by
  have some : (compilation.steps.all fun step => (Value.obj step.config).finite) = false := by
    obtain ⟨step, inside, refused⟩ := infinite
    rw [List.all_eq_false]
    exact ⟨step, inside, by simp [refused]⟩
  have sends := sends_save remote found compiled now
  cases known : session.graph.campaign with
  | none =>
    rw [Save.first_remaining_fresh known] at sends reaches ⊢
    obtain ⟨defect, unsendable, stops⟩ :=
      Value.exists_unsendable ((Graph.finite_createCall _ _).trans some)
    refine .inl ⟨_, List.mem_cons_self, defect, unsendable, stops, (sends.stuck _).mpr (.here ?_)⟩
    exact Channel.defect?_of_unsendable (reaches _ List.mem_cons_self) unsendable
  | some campaign =>
    rw [Save.first_remaining known] at sends reaches ⊢
    have renamed := call_remote remote (session.graph.renameCall campaign) now
    cases answered : (channel.call (session.graph.renameCall campaign)).1 with
    | error failure =>
      refine .inr ⟨campaign, failure, rfl, answered, ?_⟩
      rw [save_answer_of_known found compiled known, renamed.1, answered]
      rfl
    | ok reply =>
      have second : compilation.replaceCall campaign ∈
          [session.graph.renameCall campaign, compilation.replaceCall campaign] := by simp
      obtain ⟨defect, unsendable, stops⟩ :=
        Value.exists_unsendable ((compilation.finite_replaceCall campaign).trans some)
      refine .inl ⟨_, second, defect, unsendable, stops, ?_⟩
      refine (sends.stuck _).mpr (.later answered (.here ?_))
      refine Channel.defect?_of_unsendable ?_ unsendable
      rw [Channel.call_remote]
      exact reaches _ second

theorem sent_save (remote : editor.service = .remote channel)
    (found : editor.session id = .ok session)
    (compiled : session.graph.compile = .ok compilation) :
    session.Sent compilation channel (editor.save id now).answer where
  sends := sends_save remote found compiled now
  answered := by
    intro sendable readable
    have sends := sends_save remote found compiled now
    obtain answered | ⟨defect, broken⟩ := sends.ends
    · exact answered
    · exact absurd ((sends.stuck defect).mp broken)
        (Channel.not_stuck (fun call member => (sendable call member).1)
          (fun call member => (sendable call member).2) readable)
  infinite := save_of_infinite remote found compiled

end Editor

namespace Editor

section

attribute [local instance] Limits.usual Address.client

def faraway (reactions : List Reaction) : Channel :=
  { remote := Remote.create "http://localhost:3001/api" none (.int 10), reactions, sent := [] }

def visiting (campaign : Option String) (limit : Value) (reactions : List Reaction) : Editor :=
  (create (.remote (faraway reactions))).performAll
    [(.openNew (some "Plan") campaign, 1),
     (.edit "sess_000000000001" (.addNode (.str "linkedin_visit") none), 2),
     (.edit "sess_000000000001" (.updateConfig "node_00000001" (.obj [("limit", limit)])), 3)]

def limitedVisit (limit : Value) : Node :=
  { id := "node_00000001", type := .linkedinVisit, position := .origin
    config := (Catalog.definition .linkedinVisit).defaults.set "limit" limit }

def visited (campaign : Option String) (limit : Value) : Session :=
  { id := "sess_000000000001"
    graph := { id := "wf_00000001", name := "Plan", nodes := [limitedVisit limit], edges := []
               selected := none, campaign, created := 1, updated := 3 }
    opened := 1, saved := none }

def silence : List Reaction :=
  [.response 200 (.value (.obj [("success", .bool true), ("data", .obj [])])), .timeout]

theorem sent_save_silent :
    ∃ compilation, (visited (some "c1") (.int 3)).graph.compile = .ok compilation ∧
      (visited (some "c1") (.int 3)).Sent compilation (faraway silence)
        ((visiting (some "c1") (.int 3) silence).save "sess_000000000001" 4).answer ∧
      Answered ((visiting (some "c1") (.int 3) silence).save "sess_000000000001" 4).answer := by
  have remote : (visiting (some "c1") (.int 3) silence).service = .remote (faraway silence) := rfl
  have found : (visiting (some "c1") (.int 3) silence).session "sess_000000000001" =
      .ok (visited (some "c1") (.int 3)) := rfl
  have compiled : (visited (some "c1") (.int 3)).graph.compile =
      .ok ((visited (some "c1") (.int 3)).graph.compileFrom (limitedVisit (.int 3))) := rfl
  have sent : (visited (some "c1") (.int 3)).Sent _ _
      ((visiting (some "c1") (.int 3) silence).save "sess_000000000001" 4).answer :=
    sent_save remote found compiled
  refine ⟨_, compiled, sent, sent.answered ?_ (by decide)⟩
  rw [Save.first_remaining rfl]
  intro call member
  obtain rfl | rfl : _ ∨ _ := by simpa using member
  · exact ⟨⟨_, rfl, rfl, rfl, rfl⟩, by decide⟩
  · exact ⟨⟨_, rfl, rfl, rfl, rfl⟩, by decide⟩

def unlimited : Value := .double (.infinite false)

theorem unlimited_not_answered :
    (visiting none unlimited []).service = .remote (faraway []) ∧
      (visiting none unlimited []).session "sess_000000000001" = .ok (visited none unlimited) ∧
      (∃ compilation, (visited none unlimited).graph.compile = .ok compilation) ∧
      ((visiting none unlimited []).save "sess_000000000001" 4).answer =
        .error (.defect .unsendable) ∧
      ¬ Answered ((visiting none unlimited []).save "sess_000000000001" 4).answer := by
  have remote : (visiting none unlimited []).service = .remote (faraway []) := rfl
  have found : (visiting none unlimited []).session "sess_000000000001" =
      .ok (visited none unlimited) := rfl
  have compiled : (visited none unlimited).graph.compile =
      .ok ((visited none unlimited).graph.compileFrom (limitedVisit unlimited)) := rfl
  have stuck : (faraway []).Stuck .unsendable
      (Save.first (visited none unlimited).graph
        ((visited none unlimited).graph.compileFrom (limitedVisit unlimited)).steps).remaining :=
    .here rfl
  have broken := ((sends_save remote found compiled 4).stuck _).mpr stuck
  refine ⟨remote, found, ⟨_, compiled⟩, broken, ?_⟩
  rw [broken]
  rintro (⟨receipt, same⟩ | ⟨message, status, same⟩) <;> cases same

end

end Editor

end Outreach
