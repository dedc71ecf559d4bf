import Outreach.Proofs.Session.Distinct
import Outreach.Session.Queue

set_option autoImplicit false

namespace Outreach

theorem Save.receive_id (save : Save) (session : Session) (answer : Except Failure Value) :
    (save.receive session answer).1.id = session.id := by
  cases answer with
  | error failure => rfl
  | ok reply =>
    rw [receive]
    split
    · split <;> rfl
    · rfl
    · rfl

namespace SaveQueue

variable {queue : SaveQueue}

theorem proceed_session (number : Nat) (progress : SaveProgress) :
    (queue.proceed number progress).1.session = queue.session := by
  cases progress <;> rfl

theorem step_id [Limits] (queue : SaveQueue) (event : QueueEvent) :
    (queue.step event).1.session.id = queue.session.id := by
  cases event with
  | enter number =>
    rw [step]
    split
    · rw [proceed_session]
    · rfl
  | grant =>
    rw [step]
    split
    · rw [proceed_session]
    · rfl
  | deliver answer =>
    rw [step]
    split
    · rfl
    · rename_i number save holder
      exact (congrArg Session.id (proceed_session number _)).trans (save.receive_id _ answer)
  | edit command now supply => rfl

end SaveQueue

namespace Saves

variable {saves : Saves} {session other : String} {queue : SaveQueue}

def ids (saves : Saves) : List String := saves.queues.map (·.session.id)

theorem id_of_find (found : saves.find session = some queue) : queue.session.id = session := by
  simpa using List.find?_some found

theorem ids_put (same : queue.session.id = session) :
    (saves.put session queue).ids = saves.ids := by
  rw [ids, put, List.map_map, ids]
  refine List.map_congr_left fun old _ => ?_
  by_cases own : old.session.id = session <;> simp [own, same]

theorem find_put_of_ne (same : queue.session.id = session) (different : other ≠ session) :
    (saves.put session queue).find other = saves.find other := by
  have ids : ((fun old : SaveQueue => old.session.id == other) ∘
      fun old => if old.session.id = session then queue else old) =
      fun old => old.session.id == other := by
    funext old
    by_cases own : old.session.id = session <;> simp [own, same]
  rw [find, put, List.find?_map, ids, ← find]
  cases found : saves.find other with
  | none => rfl
  | some old =>
    have aside : old.session.id ≠ session := (id_of_find found).trans_ne different
    rw [Option.map_some, if_neg aside]

structure Taken (saves : Saves) (session : String) (after : Saves) : Prop where
  ids : after.ids = saves.ids
  aside : ∀ other, other ≠ session → after.find other = saves.find other
  turns : ∀ turn ∈ after.turns, turn ∈ saves.turns ∨ turn.session = session
  supply : saves.supply.Grows after.supply

theorem Taken.schedule {between : Saves} (taken : saves.Taken session between)
    (event : QueueEvent) : saves.Taken session (between.schedule { session, event }) := by
  obtain ⟨ids, aside, turns, supply⟩ := taken
  rw [Saves.schedule]
  split
  · refine ⟨ids, aside, fun turn due => ?_, supply⟩
    obtain rfl | before := List.mem_cons.mp due
    · exact .inr rfl
    · exact turns turn before
  · refine ⟨ids, aside, fun turn due => ?_, supply⟩
    obtain before | new := List.mem_append.mp due
    · exact turns turn before
    · rw [List.mem_singleton.mp new]
      exact .inr rfl

variable [Limits] [Client]

theorem Taken.notice {between : Saves} (taken : saves.Taken session between) (queue : SaveQueue)
    (now : Nat) (notice : Notice) :
    saves.Taken session (between.notice session queue now notice) := by
  cases notice with
  | calls number call =>
    -- The service is called as the editor calls it.
    have grows := Editor.call_grows { sessions := [], service := between.service
                                      supply := between.supply } call now
    let outcome := between.service.call call now between.supply
    have called : saves.Taken session
        { between with service := outcome.service, supply := outcome.supply } :=
      ⟨taken.ids, taken.aside, taken.turns, taken.supply.trans grows⟩
    exact called.schedule _
  | ends number result =>
    obtain ⟨ids, aside, turns, supply⟩ := taken
    refine ⟨ids, aside, fun turn due => ?_, supply⟩
    simp only [Saves.notice] at due
    split at due
    · exact turns turn due
    · obtain before | new := List.mem_append.mp due
      · exact turns turn before
      · rw [List.mem_singleton.mp new]
        exact .inr rfl

theorem taken (saves : Saves) (turn : Turn) (now : Nat) :
    saves.Taken turn.session (saves.take turn now) := by
  rw [take]
  cases found : saves.find turn.session with
  | none =>
    simp only [refuse]
    split <;> exact ⟨rfl, fun _ _ => rfl, fun _ due => .inl due, .refl _⟩
  | some queue =>
    have same := (queue.step_id turn.event).trans (id_of_find found)
    have put : saves.Taken turn.session (saves.put turn.session (queue.step turn.event).1) :=
      ⟨ids_put same, fun other different => find_put_of_ne same different, fun _ due => .inl due,
        .refl _⟩
    cases shown : (queue.step turn.event).2 with
    | none => simpa [shown] using put
    | some notice => simpa [shown] using put.notice _ now notice

theorem run_aside {listed : List String} (due : ∀ turn ∈ saves.turns, turn.session ∈ listed)
    (fuel now : Nat) : (saves.run fuel now).ids = saves.ids ∧
      (∀ other, other ∉ listed → (saves.run fuel now).find other = saves.find other) ∧
        saves.supply.Grows (saves.run fuel now).supply := by
  induction fuel generalizing saves with
  | zero => exact ⟨rfl, fun _ _ => rfl, .refl _⟩
  | succ fuel ih =>
    rw [run]
    split
    · exact ⟨rfl, fun _ _ => rfl, .refl _⟩
    · rename_i turn rest turns
      obtain ⟨first, later⟩ := List.forall_mem_cons.mp (turns ▸ due)
      have taken := taken { saves with turns := rest } turn now
      have still : ∀ other ∈ (({ saves with turns := rest } : Saves).take turn now).turns,
          other.session ∈ listed := by
        intro other member
        obtain before | own := taken.turns other member
        · exact later other before
        · exact own ▸ first
      obtain ⟨ids, aside, grows⟩ := ih still
      refine ⟨ids.trans taken.ids, fun other unlisted => ?_, taken.supply.trans grows⟩
      have different : other ≠ turn.session := fun same => unlisted (same ▸ first)
      exact (aside other unlisted).trans (taken.aside other different)

end Saves

namespace Editor

variable {editor : Editor} {listed : List String} {other : String}

theorem session_map_idle (sessions : List Session) (other : String) :
    ((sessions.map SaveQueue.idle).find? (·.session.id == other)).map SaveQueue.session =
      sessions.find? (·.id == other) := by
  have same : (fun queue : SaveQueue => queue.session.id == other) ∘ SaveQueue.idle =
      fun session => session.id == other := rfl
  rw [List.find?_map, same, Option.map_map]
  exact Option.map_id'

theorem saveAll_aside [Limits] [Client] (editor : Editor) (listed : List String) (now : Nat) :
    (editor.saveAll listed now).2.ids = editor.ids ∧
      (∀ other, other ∉ listed →
        (editor.saveAll listed now).2.session other = editor.session other) ∧
        editor.supply.Grows (editor.saveAll listed now).2.supply := by
  have due : ∀ turn ∈ (editor.beginSaves listed).turns, turn.session ∈ listed := by
    intro turn member
    obtain ⟨⟨session, number⟩, place, rfl⟩ := List.mem_map.mp member
    exact List.fst_mem_of_mem_zipIdx place
  obtain ⟨ids, aside, grows⟩ := Saves.run_aside due (4 * listed.length) now
  refine ⟨?_, fun other unlisted => ?_, grows⟩
  · simpa [Saves.ids, Editor.ids, saveAll, beginSaves, Function.comp_def, SaveQueue.idle] using ids
  · have found : (editor.saveAll listed now).2.sessions.find? (·.id == other) =
        editor.sessions.find? (·.id == other) := by
      rw [← session_map_idle editor.sessions other, saveAll, List.find?_map]
      exact congrArg (Option.map SaveQueue.session) (aside other unlisted)
    rw [Editor.session, Editor.session, found]

end Editor

end Outreach
