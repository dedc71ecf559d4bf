import Outreach.Campaign.Compile
import Outreach.Service.Remote

set_option autoImplicit false

namespace Outreach

structure Session where
  id : String
  graph : Graph
  opened : Nat
  saved : Option Nat

structure Receipt where
  campaign : String
  created : Bool
  steps : List CompiledStep

inductive SaveStage where
  | creating
  | renaming (campaign : String)
  | replacing (campaign : String)
  deriving DecidableEq, Repr

def SaveStage.left : SaveStage → Nat
  | .creating => 1
  | .renaming _ => 2
  | .replacing _ => 1

structure Save where
  stage : SaveStage
  name : String
  steps : List CompiledStep

inductive SaveProgress where
  | waiting (save : Save)
  | over (result : Except Failure Receipt)

namespace Save

def payloads (save : Save) : Value := .list (save.steps.map fun step => .obj step.payload)

def call (save : Save) : Call :=
  match save.stage with
  | .creating => .create (.obj [("name", .str save.name), ("status", .str Status.draft.name),
      ("steps", save.payloads)])
  | .renaming campaign => .update campaign (.obj [("name", .str save.name)])
  | .replacing campaign => .replaceSteps campaign save.payloads

def begin [Limits] (graph : Graph) : SaveProgress :=
  match graph.compile with
  | .error failure => .over (.error failure)
  | .ok compilation =>
    let stage := match graph.campaign with
      | none => .creating
      | some campaign => .renaming campaign
    .waiting { stage, name := graph.name, steps := compilation.steps }

def campaignId (reply : Value) : Except Failure String :=
  match reply with
  | .obj fields =>
    match Fields.get? fields "id" with
    | some (.str id) => if id.isEmpty then .error ServiceFault.missingId.failure else .ok id
    | _ => .error ServiceFault.missingId.failure
  | _ => .error (.defect .notObject)

def mark (session : Session) : Session := { session with saved := some session.graph.updated }

def receive (save : Save) (session : Session) (answer : Except Failure Value) :
    Session × SaveProgress :=
  match answer with
  | .error failure => (session, .over (.error failure))
  | .ok reply =>
    match save.stage with
    | .creating =>
      match campaignId reply with
      | .error failure => (session, .over (.error failure))
      | .ok campaign =>
        (mark { session with graph := { session.graph with campaign := some campaign } },
          .over (.ok { campaign, created := true, steps := save.steps }))
    | .renaming campaign => (session, .waiting { save with stage := .replacing campaign })
    | .replacing campaign =>
      (mark session, .over (.ok { campaign, created := false, steps := save.steps }))

theorem left_of_receive {save next : Save} {session after : Session}
    {answer : Except Failure Value}
    (waits : save.receive session answer = (after, .waiting next)) :
    next.stage.left < save.stage.left := by
  unfold receive at waits
  split at waits
  · simp at waits
  · split at waits
    · split at waits <;> simp at waits
    · next stage =>
      simp only [Prod.mk.injEq, SaveProgress.waiting.injEq] at waits
      obtain ⟨-, rfl⟩ := waits
      simp [stage, SaveStage.left]
    · simp at waits

end Save

end Outreach
