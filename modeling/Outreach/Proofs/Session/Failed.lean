import Outreach.Proofs.Session.Distinct

set_option autoImplicit false

namespace Outreach.Editor

variable {editor : Editor} {session : Session} {failure : Failure} {now : Nat}
  {id campaign : String} {steps : List Value}

theorem sessions_put_self (orderly : editor.Orderly) (found : editor.session id = .ok session)
    {others : Editor} (same : others.sessions = editor.sessions) :
    (others.put session).sessions = editor.sessions := by
  rw [put, same]
  exact replace_self orderly.distinct found

theorem edit_of_ok [Limits] (found : editor.session id = .ok session) (command : Command)
    (now : Nat) : editor.edit id command now =
      { answer := (session.graph.run command now editor.supply).answer
        editor := { editor with
          supply := (session.graph.run command now editor.supply).supply }.put
            { session with graph := (session.graph.run command now editor.supply).graph } } := by
  simp only [edit, found]

theorem Orderly.sessions_of_edit_error [Limits] (orderly : editor.Orderly) {command : Command}
    (failed : (editor.edit id command now).answer = .error failure) :
    (editor.edit id command now).editor.sessions = editor.sessions := by
  cases found : editor.session id with
  | error _ => simp [edit, found]
  | ok session =>
    rw [edit_of_ok found] at failed ⊢
    rw [(orderly.sessions id session found).numbered.run_unchanged command failed]
    exact sessions_put_self orderly found rfl

theorem insertVariable_of_ok (found : editor.session id = .ok session)
    (node field variableName : String) (now : Nat) :
    editor.insertVariable id node field variableName now =
      { answer := (Graph.settle session.graph editor.supply
          (session.graph.insertVariable node field variableName now)).answer
        editor := editor.put { session with
          graph := (Graph.settle session.graph editor.supply
            (session.graph.insertVariable node field variableName now)).graph } } := by
  simp only [insertVariable, found]

theorem Orderly.sessions_of_insertVariable_error (orderly : editor.Orderly)
    {node field variableName : String}
    (failed : (editor.insertVariable id node field variableName now).answer = .error failure) :
    (editor.insertVariable id node field variableName now).editor.sessions = editor.sessions := by
  cases found : editor.session id with
  | error _ => simp [insertVariable, found]
  | ok session =>
    rw [insertVariable_of_ok found] at failed ⊢
    rw [Graph.settle_unchanged failed]
    exact sessions_put_self orderly found rfl

theorem Orderly.sessions_of_save_error [Limits] [Client] (orderly : editor.Orderly)
    (failed : (editor.save id now).answer = .error failure) :
    (editor.save id now).editor.sessions = editor.sessions := by
  have saving := editor.saving id now
  generalize editor.save id now = outcome at saving failed ⊢
  cases saving with
  | unknown => rfl
  | refused => rfl
  | failed found => exact sessions_put_self orderly found (editor.sessions_callAll _ now)
  | created => cases failed
  | updated => cases failed

theorem sessions_of_openSteps_error [Limits] {name known : Option String}
    (failed : (editor.openSteps name known steps now).answer = .error failure) :
    (editor.openSteps name known steps now).editor.sessions = editor.sessions := by
  rw [openSteps] at failed ⊢
  generalize Graph.ofSteps name known steps now editor.supply = result at failed
  obtain ⟨answer, supply⟩ := result
  cases answer with
  | error _ => rfl
  | ok graph => cases failed

theorem load_of_error [Limits] [Client]
    (answered : (editor.call (.get campaign) now).answer.bind stored = .error failure) :
    editor.load campaign now =
      { answer := .error failure, editor := (editor.call (.get campaign) now).editor } := by
  simp only [load, answered]

theorem load_of_ok [Limits] [Client] {name : String}
    (answered : (editor.call (.get campaign) now).answer.bind stored = .ok (name, steps)) :
    editor.load campaign now =
      (editor.call (.get campaign) now).editor.openSteps (some name) (some campaign) steps now := by
  simp only [load, answered]

theorem sessions_of_load_error [Limits] [Client]
    (failed : (editor.load campaign now).answer = .error failure) :
    (editor.load campaign now).editor.sessions = editor.sessions := by
  cases answered : (editor.call (.get campaign) now).answer.bind stored with
  | error cause =>
    rw [load_of_error answered]
    rfl
  | ok given =>
    rw [load_of_ok answered] at failed ⊢
    exact sessions_of_openSteps_error failed

theorem sessions_of_close_error (failed : (editor.close id).answer = .error failure) :
    (editor.close id).editor.sessions = editor.sessions := by
  rw [close, map_eq_error] at failed
  have missing : ∀ session ∈ editor.sessions, session.id ≠ id := by
    simp only [session] at failed
    split at failed
    · cases failed
    · rename_i none
      simpa using none
  simpa [close] using missing

theorem exists_session_of_edit [Limits] {command : Command} {reply : Reply}
    (done : (editor.edit id command now).answer = .ok reply) :
    ∃ session, (editor.edit id command now).editor.session id = .ok session := by
  cases found : editor.session id with
  | error _ => simp [edit, found] at done
  | ok session =>
    rw [edit_of_ok found]
    exact ⟨_, session_put_of_ok rfl found rfl⟩

theorem exists_session_of_insertVariable {node field variableName : String} {changed : Node}
    (done : (editor.insertVariable id node field variableName now).answer = .ok changed) :
    ∃ session, (editor.insertVariable id node field variableName now).editor.session id =
      .ok session := by
  cases found : editor.session id with
  | error _ => simp [insertVariable, found] at done
  | ok session =>
    rw [insertVariable_of_ok found]
    exact ⟨_, session_put_of_ok rfl found rfl⟩

end Outreach.Editor
