import Outreach.Proofs.Graph.Touched
import Outreach.Proofs.Limits
import Outreach.Proofs.Session.Course

set_option autoImplicit false

namespace Outreach

def QueueEvent.time? : QueueEvent → Option Nat
  | .edit _ now _ => some now
  | _ => none

def timesIn (events : List QueueEvent) : List Nat := events.filterMap QueueEvent.time?

namespace Graph

-- The clock moves on with every edit.
def Dated (graph : Graph) (events : List QueueEvent) : Prop :=
  (graph.updated :: timesIn events).Pairwise (· < ·)

def TouchedBy [Limits] (graph : Graph) : List QueueEvent → Prop
  | [] => False
  | .edit command now supply :: rest =>
    (graph.run command now supply).graph.updated ≠ graph.updated ∨
      (graph.run command now supply).graph.TouchedBy rest
  | _ :: rest => graph.TouchedBy rest

variable {graph : Graph} {events more : List QueueEvent} {command : Command} {now : Nat}
  {supply : Supply}

theorem Dated.edit [Limits] (dated : graph.Dated (.edit command now supply :: events)) :
    (graph.run command now supply).graph.Dated events ∧ graph.updated < now := by
  obtain ⟨later, others⟩ := List.pairwise_cons.mp dated
  refine ⟨?_, later now List.mem_cons_self⟩
  obtain same | same := graph.run_updated command now supply
  · rw [Dated, same]
    exact others
  · rw [Dated, same]
    exact List.pairwise_cons.mpr
      ⟨fun time member => later time (List.mem_cons_of_mem _ member), others.of_cons⟩

theorem Dated.drop [Limits] (dated : graph.Dated (events ++ more)) :
    (graph.editedBy events).Dated more := by
  induction events generalizing graph with
  | nil => exact dated
  | cons event rest ih =>
    cases event with
    | edit command now supply => exact ih dated.edit.1
    | enter number => exact ih dated
    | grant => exact ih dated
    | deliver answer => exact ih dated

theorem Dated.take (dated : graph.Dated (events ++ more)) : graph.Dated events := by
  rw [Dated, timesIn, List.filterMap_append, ← List.cons_append] at dated
  exact dated.sublist (List.sublist_append_left _ _)

variable [Limits]

theorem updated_of_not_touchedBy (untouched : ¬ graph.TouchedBy events) :
    (graph.editedBy events).updated = graph.updated := by
  induction events generalizing graph with
  | nil => rfl
  | cons event rest ih =>
    cases event with
    | edit command now supply =>
      obtain ⟨same, others⟩ := not_or.mp untouched
      exact (ih others).trans (not_not.mp same)
    | enter number => exact ih untouched
    | grant => exact ih untouched
    | deliver answer => exact ih untouched

theorem Dated.updated_le (dated : graph.Dated events) :
    graph.updated ≤ (graph.editedBy events).updated := by
  induction events generalizing graph with
  | nil => exact Nat.le_refl _
  | cons event rest ih =>
    cases event with
    | edit command now supply =>
      obtain ⟨later, ahead⟩ := dated.edit
      refine Nat.le_trans ?_ (ih later)
      obtain same | same := graph.run_updated command now supply
      · rw [same]
        exact ahead.le
      · exact same.ge
    | enter number => exact ih dated
    | grant => exact ih dated
    | deliver answer => exact ih dated

theorem Dated.updated_lt (dated : graph.Dated events) (touched : graph.TouchedBy events) :
    graph.updated < (graph.editedBy events).updated := by
  induction events generalizing graph with
  | nil => exact touched.elim
  | cons event rest ih =>
    cases event with
    | edit command now supply =>
      obtain ⟨later, ahead⟩ := dated.edit
      obtain same | same := graph.run_updated command now supply
      · -- The clock does not go back behind this edit.
        have onward := later.updated_le
        rw [same] at onward
        exact ahead.trans_le onward
      · obtain moved | others := touched
        · exact absurd same moved
        · have onward := ih later others
          rwa [same] at onward
    | enter number => exact ih dated touched
    | grant => exact ih dated touched
    | deliver answer => exact ih dated touched

theorem Dated.updated_eq_iff (dated : graph.Dated events) :
    (graph.editedBy events).updated = graph.updated ↔ ¬ graph.TouchedBy events :=
  ⟨fun same touched => (dated.updated_lt touched).ne' same, updated_of_not_touchedBy⟩

end Graph

theorem Course.exists_last [Limits] {session : Session} {number : Nat} {events : List QueueEvent}
    {queue : SaveQueue} {notices : List Notice}
    (course : Course session number events queue notices) {receipt : Receipt}
    (stored : .ends number (.ok receipt) ∈ notices) :
    ∃ compilation before answer after,
      session.graph.compile = .ok compilation ∧ receipt.steps = compilation.steps ∧
      notices = (Save.first session.graph compilation.steps).remaining.map (.calls number) ++
        [.ends number (.ok receipt)] ∧
      events = before ++ .deliver answer :: after ∧
      queue.session = { session with
        graph := { session.graph.editedBy before with
          campaign := some receipt.campaign }.editedBy after
        saved := some (session.graph.editedBy before).updated } := by
  cases course with
  | refused => simp at stored
  | waiting => simp at stored
  | failed => simp at stored
  | stored compiled steps last source =>
    obtain rfl : receipt = _ := by simpa using stored
    exact ⟨_, _, _, _, compiled, steps, rfl, last, rfl⟩

theorem marked_when_answered [Limits] (session : Session) (number : Nat) (events : List QueueEvent)
    (aside : ∀ event ∈ events, event.isAside = true) (dated : session.graph.Dated events)
    (receipt : Receipt)
    (stored : .ends number (.ok receipt) ∈
      ((SaveQueue.idle session).run (.enter number :: events)).2) :
    ∃ compilation before answer after answered,
      session.graph.compile = .ok compilation ∧ receipt.steps = compilation.steps ∧
      ((SaveQueue.idle session).run (.enter number :: events)).2 =
        (Save.first session.graph compilation.steps).remaining.map (.calls number) ++
          [.ends number (.ok receipt)] ∧
      events = before ++ .deliver answer :: after ∧
      answered = { session.graph.editedBy before with campaign := some receipt.campaign } ∧
      ((SaveQueue.idle session).run (.enter number :: events)).1.session =
        { session with graph := answered.editedBy after, saved := some answered.updated } ∧
      (answered.updated = session.graph.updated ↔ ¬ session.graph.TouchedBy before) ∧
      ((answered.editedBy after).updated = answered.updated ↔ ¬ answered.TouchedBy after) := by
  have course : Course session number events _ _ := .of_aside aside
  obtain ⟨compilation, before, answer, after, compiled, steps, calls, rfl, marked⟩ :=
    course.exists_last stored
  have later : Graph.Dated { session.graph.editedBy before with campaign := some receipt.campaign }
      after := dated.drop
  exact ⟨compilation, before, answer, after, _, compiled, steps, calls, rfl, rfl, marked,
    dated.take.updated_eq_iff, later.updated_eq_iff⟩

def retitled : List QueueEvent :=
  [.edit (.rename (some "Final")) 1 Supply.initial,
   .deliver (.ok (.obj [("id", .str "camp_1")])),
   .edit (.select none) 2 Supply.initial]

section

attribute [local instance] Limits.usual

theorem retitled_marked : ∃ receipt, (∀ event ∈ retitled, event.isAside = true) ∧
    drafted.graph.Dated retitled ∧
    .ends 0 (.ok receipt) ∈ ((SaveQueue.idle drafted).run (.enter 0 :: retitled)).2 ∧
    ∃ compilation before answer after answered,
      drafted.graph.compile = .ok compilation ∧ receipt.steps = compilation.steps ∧
      ((SaveQueue.idle drafted).run (.enter 0 :: retitled)).2 =
        (Save.first drafted.graph compilation.steps).remaining.map (.calls 0) ++
          [.ends 0 (.ok receipt)] ∧
      retitled = before ++ .deliver answer :: after ∧
      answered = { drafted.graph.editedBy before with campaign := some receipt.campaign } ∧
      ((SaveQueue.idle drafted).run (.enter 0 :: retitled)).1.session =
        { drafted with graph := answered.editedBy after, saved := some answered.updated } ∧
      (answered.updated = drafted.graph.updated ↔ ¬ drafted.graph.TouchedBy before) ∧
      ((answered.editedBy after).updated = answered.updated ↔ ¬ answered.TouchedBy after) := by
  have aside : ∀ event ∈ retitled, event.isAside = true := by simp [retitled, QueueEvent.isAside]
  have dated : drafted.graph.Dated retitled := by
    rw [Graph.Dated]
    decide
  obtain ⟨receipt, stored⟩ : ∃ receipt, .ends 0 (.ok receipt) ∈
      ((SaveQueue.idle drafted).run (.enter 0 :: retitled)).2 :=
    ⟨_, List.mem_cons_of_mem _ (List.mem_singleton_self _)⟩
  exact ⟨receipt, aside, dated, stored,
    marked_when_answered drafted 0 retitled aside dated receipt stored⟩

-- The new name was not sent, and the session has the mark of one without unsaved changes.
theorem retitled_marked_early : drafted.graph.Dated retitled ∧ drafted.graph.updated = 0 ∧
    ∃ steps receipt, ((SaveQueue.idle drafted).run (.enter 0 :: retitled)).2 =
        [.calls 0 (.create (.obj [("name", .str "Draft"), ("status", .str "draft"),
          ("steps", .list steps)])), .ends 0 (.ok receipt)] ∧
      ((SaveQueue.idle drafted).run (.enter 0 :: retitled)).1.session.graph.name = "Final" ∧
      ((SaveQueue.idle drafted).run (.enter 0 :: retitled)).1.session.graph.updated = 1 ∧
      ((SaveQueue.idle drafted).run (.enter 0 :: retitled)).1.session.saved = some 1 := by
  refine ⟨?_, rfl, _, _, rfl, rfl, rfl, rfl⟩
  rw [Graph.Dated]
  decide

end

end Outreach
