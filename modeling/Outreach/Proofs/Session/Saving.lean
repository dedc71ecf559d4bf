import Outreach.Proofs.Session.Course

set_option autoImplicit false

namespace Outreach

namespace Graph

def createCall (graph : Graph) (compilation : Compilation) : Call :=
  .create (.obj [("name", .str graph.name), ("status", .str Status.draft.name),
    ("steps", .list compilation.payloads)])

def renameCall (graph : Graph) (campaign : String) : Call :=
  .update campaign (.obj [("name", .str graph.name)])

end Graph

def Compilation.replaceCall (compilation : Compilation) (campaign : String) : Call :=
  .replaceSteps campaign (.list compilation.payloads)

namespace Save

theorem call_prefix (save : Save) : [save.call] <+: save.remaining := by
  rw [remaining]
  split
  · exact ⟨_, rfl⟩
  · exact List.prefix_rfl
  · exact List.prefix_rfl

theorem first_not_replacing (graph : Graph) (steps : List CompiledStep) (campaign : String) :
    (first graph steps).stage ≠ .replacing campaign := by
  rw [first]
  cases graph.campaign <;> simp

theorem first_call_creating {graph : Graph} {compilation : Compilation}
    (stage : (first graph compilation.steps).stage = .creating) :
    (first graph compilation.steps).call = graph.createCall compilation := by
  rw [call, stage]
  rfl

theorem first_remaining {graph : Graph} {compilation : Compilation} {campaign : String}
    (known : graph.campaign = some campaign) :
    (first graph compilation.steps).remaining =
      [graph.renameCall campaign, compilation.replaceCall campaign] := by
  simp only [remaining, first, known]
  rfl

theorem first_call_renaming {graph : Graph} {compilation : Compilation} {campaign : String}
    (stage : (first graph compilation.steps).stage = .renaming campaign) :
    (first graph compilation.steps).call = graph.renameCall campaign := by
  rw [call, stage]
  rfl

end Save

namespace Editor

variable {editor : Editor} {session after : Session} {save next : Save} {now : Nat}
  {id other : String}

theorem session_eq_ok : editor.session id = .ok session ↔
    editor.sessions.find? (·.id == id) = some session := by
  rw [Editor.session]
  cases editor.sessions.find? (·.id == id) <;> simp

theorem error_of_session {failure : Failure} (missing : editor.session id = .error failure) :
    failure = unknownSession id := by
  rw [Editor.session] at missing
  cases known : editor.sessions.find? (·.id == id) <;> simp_all

theorem session_congr {others : Editor} (same : others.sessions = editor.sessions) (id : String) :
    others.session id = editor.session id := by
  rw [Editor.session, Editor.session, same]

theorem id_of_session (found : editor.session id = .ok session) : session.id = id := by
  simpa using List.find?_some (session_eq_ok.mp found)

theorem session_put (editor : Editor) (session : Session) (other : String) :
    (editor.put session).session other =
      (editor.session other).map fun old => if old.id = session.id then session else old := by
  have ids : ((fun old : Session => old.id == other) ∘
      fun old => if old.id = session.id then session else old) = fun old => old.id == other := by
    funext old
    by_cases same : old.id = session.id <;> simp [same]
  rw [Editor.session, put, replace, List.find?_map, ids, Editor.session]
  cases editor.sessions.find? (·.id == other) <;> rfl

theorem session_put_self (found : editor.session id = .ok session) :
    (editor.put session).session other = editor.session other := by
  rw [session_put]
  cases known : editor.session other with
  | error failure => rfl
  | ok old =>
    simp only [Except.map, Except.ok.injEq]
    split
    · rename_i same
      rw [id_of_session known, id_of_session found] at same
      rw [same, found] at known
      exact Except.ok.inj known
    · rfl

theorem session_put_of_ok {others : Editor} (sessions : others.sessions = editor.sessions)
    (found : editor.session id = .ok session) (same : after.id = session.id) :
    (others.put after).session id = .ok after := by
  rw [session_put, session_congr sessions, found]
  simp [Except.map, same]

theorem session_put_of_ne {others : Editor} (sessions : others.sessions = editor.sessions)
    (found : editor.session id = .ok session) (same : after.id = session.id) (other : String)
    (different : other ≠ id) : (others.put after).session other = editor.session other := by
  rw [session_put, session_congr sessions]
  cases known : editor.session other with
  | error failure => rfl
  | ok old =>
    rw [same, id_of_session found, Except.map, id_of_session known, if_neg different]

def callAll [Limits] [Client] (editor : Editor) (calls : List Call) (now : Nat) : Editor :=
  calls.foldl (fun editor call => (editor.call call now).editor) editor

theorem sessions_callAll [Limits] [Client] (editor : Editor) (calls : List Call) (now : Nat) :
    (editor.callAll calls now).sessions = editor.sessions := by
  induction calls generalizing editor with
  | nil => rfl
  | cons call rest ih => exact ih _

@[simp] theorem editor_call_put [Limits] [Client] (call : Call) :
    ((editor.put session).call call now).editor = (editor.call call now).editor.put session := rfl

theorem replace_replace (same : session.id = after.id) (sessions : List Session) :
    replace after (replace session sessions) = replace after sessions := by
  rw [replace, replace, replace, List.map_map]
  refine List.map_congr_left fun other _ => ?_
  by_cases placed : other.id = after.id <;> simp [placed, same]

theorem put_put (same : session.id = after.id) :
    (editor.put session).put after = editor.put after := by
  simp [put, replace_replace same]

variable [Limits] [Client]

theorem finish_of_over {result : Except Failure Receipt}
    (ended : save.receive session (editor.call save.call now).answer = (after, .over result)) :
    editor.finish session save now =
      { answer := result, editor := (editor.call save.call now).editor.put after } := by
  rw [finish]
  split
  · simp_all
  · simp_all

theorem finish_of_waiting
    (waits : save.receive session (editor.call save.call now).answer = (after, .waiting next)) :
    editor.finish session save now =
      ((editor.call save.call now).editor.put after).finish after next now := by
  rw [finish]
  split
  · simp_all
  · simp_all

-- All that a save can come to. Where it fails, some of its calls were made, or none could be.
inductive Saving (editor : Editor) (id : String) (now : Nat) : Outcome Receipt → Prop
  | unknown (missing : editor.session id = .error (unknownSession id)) :
    Saving editor id now { answer := .error (unknownSession id), editor }
  | refused {session : Session} {failure : Failure} (found : editor.session id = .ok session)
    (fails : session.graph.compile = .error failure) :
    Saving editor id now { answer := .error failure, editor }
  | failed {session : Session} {compilation : Compilation} {failure : Failure} {calls : List Call}
    (found : editor.session id = .ok session) (compiled : session.graph.compile = .ok compilation)
    (made : calls ≠ []) (first : calls <+: (Save.first session.graph compilation.steps).remaining) :
    Saving editor id now
      { answer := .error failure
        editor := (editor.callAll calls now).put session }
  | created {session : Session} {compilation : Compilation} {reply : Value} {campaign : String}
    (found : editor.session id = .ok session) (compiled : session.graph.compile = .ok compilation)
    (fresh : session.graph.campaign = none)
    (answered : (editor.call (session.graph.createCall compilation) now).answer = .ok reply)
    (named : Save.campaignId reply = .ok campaign) :
    Saving editor id now
      { answer := .ok { campaign, created := true, steps := compilation.steps }
        editor := (editor.call (session.graph.createCall compilation) now).editor.put
          (session.stored campaign) }
  | updated {session : Session} {compilation : Compilation} {first second : Value}
    {campaign : String}
    (found : editor.session id = .ok session) (compiled : session.graph.compile = .ok compilation)
    (known : session.graph.campaign = some campaign)
    (renamed : (editor.call (session.graph.renameCall campaign) now).answer = .ok first)
    (replaced : ((editor.call (session.graph.renameCall campaign) now).editor.call
      (compilation.replaceCall campaign) now).answer = .ok second) :
    Saving editor id now
      { answer := .ok { campaign, created := false, steps := compilation.steps }
        editor := ((editor.call (session.graph.renameCall campaign) now).editor.call
          (compilation.replaceCall campaign) now).editor.put (session.stored campaign) }

theorem saving_advance {compilation : Compilation} {campaign : String} {reply : Value}
    (found : editor.session id = .ok session) (compiled : session.graph.compile = .ok compilation)
    (stage : (Save.first session.graph compilation.steps).stage = .renaming campaign)
    (answered : (editor.call (Save.first session.graph compilation.steps).call now).answer =
      .ok reply) :
    editor.Saving id now
      (((editor.call (Save.first session.graph compilation.steps).call now).editor.put
        session).finish session
          { Save.first session.graph compilation.steps with stage := .replacing campaign }
            now) := by
  let next : Save :=
    { Save.first session.graph compilation.steps with stage := .replacing campaign }
  have known : session.graph.campaign = some campaign := by
    rw [← Save.first_campaign session.graph compilation.steps, stage]
    rfl
  have both : (Save.first session.graph compilation.steps).remaining =
      [session.graph.renameCall campaign, next.call] := by
    rw [← Save.first_call_renaming stage]
    simp only [Save.remaining, stage, next]
  rw [Save.first_call_renaming stage] at answered ⊢
  have received := next.received session
    (((editor.call (session.graph.renameCall campaign) now).editor.put session).call next.call
      now).answer known.symm
  generalize result : next.receive session _ = progress at received
  cases received with
  | failed cause =>
    rw [finish_of_over result, editor_call_put, put_put rfl]
    have all : [session.graph.renameCall campaign, next.call] <+:
        (Save.first session.graph compilation.steps).remaining := by rw [both]
    exact .failed found compiled (List.cons_ne_nil _ _) all
  | advanced stage => cases stage
  | stored named =>
    rw [finish_of_over result, editor_call_put, put_put (session.id_stored _).symm]
    cases named with
    | new stage => cases stage
    | known stage replaced =>
      cases stage
      exact .updated found compiled known answered replaced

theorem saving_finish {compilation : Compilation} (found : editor.session id = .ok session)
    (compiled : session.graph.compile = .ok compilation) :
    editor.Saving id now
      (editor.finish session (Save.first session.graph compilation.steps) now) := by
  let first := Save.first session.graph compilation.steps
  have suits : first.stage.campaign? = session.graph.campaign := Save.first_campaign ..
  have received := first.received session (editor.call first.call now).answer suits
  generalize result : first.receive session _ = progress at received
  cases received with
  | failed cause =>
    rw [finish_of_over result]
    exact .failed found compiled (List.cons_ne_nil _ _) first.call_prefix
  | stored named =>
    rw [finish_of_over result]
    cases named with
    | new stage answered given =>
      have fresh : session.graph.campaign = none := by
        rw [← suits, stage]
        rfl
      rw [Save.first_call_creating stage] at answered ⊢
      exact .created found compiled fresh answered given
    | known stage => exact absurd stage (Save.first_not_replacing _ _ _)
  | advanced stage answered =>
    rw [finish_of_waiting result]
    exact saving_advance found compiled stage answered

theorem save_of_unknown (missing : ∀ session, editor.session id ≠ .ok session) :
    editor.save id now = { answer := .error (unknownSession id), editor } := by
  rw [save]
  cases found : editor.session id with
  | ok session => exact absurd found (missing session)
  | error failure => rw [error_of_session found]

theorem save_of_error {failure : Failure} (found : editor.session id = .ok session)
    (fails : session.graph.compile = .error failure) :
    editor.save id now = { answer := .error failure, editor } := by
  simp [save, found, Save.begin_of_error fails]

theorem save_of_ok {compilation : Compilation} (found : editor.session id = .ok session)
    (compiled : session.graph.compile = .ok compilation) :
    editor.save id now =
      editor.finish session (Save.first session.graph compilation.steps) now := by
  simp [save, found, Save.begin_of_ok compiled]

theorem saving (editor : Editor) (id : String) (now : Nat) :
    editor.Saving id now (editor.save id now) := by
  cases found : editor.session id with
  | error failure =>
    obtain rfl := error_of_session found
    rw [save_of_unknown (by simp [found])]
    exact .unknown found
  | ok session =>
    cases compiled : session.graph.compile with
    | error failure =>
      rw [save_of_error found compiled]
      exact .refused found compiled
    | ok compilation =>
      rw [save_of_ok found compiled]
      exact saving_finish found compiled

theorem Saving.session_of_error {outcome : Outcome Receipt}
    (saving : editor.Saving id now outcome) {failure : Failure}
    (failed : outcome.answer = .error failure) (other : String) :
    outcome.editor.session other = editor.session other := by
  cases saving with
  | unknown => rfl
  | refused => rfl
  | failed found =>
    have same (calls : List Call) := session_congr (editor.sessions_callAll calls now)
    rw [session_put_self ((same _ id).trans found), same]
  | created => cases failed
  | updated => cases failed

end Editor

end Outreach
