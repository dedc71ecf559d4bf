import Outreach.Proofs.Session.Saving

set_option autoImplicit false

namespace Outreach

def Session.attempt [Limits] (session : Session) (answers : List (Except Failure Value)) :
    SaveQueue × List Notice :=
  (SaveQueue.idle session).run (.enter 0 :: answers.map .deliver)

namespace Course

variable {session : Session} {number : Nat} {answers : List (Except Failure Value)}
  {queue : SaveQueue} {notices : List Notice}

variable [Limits]

theorem session_cases (course : Course session number (answers.map .deliver) queue notices) :
    queue.session = session ∧ (∀ receipt, .ends number (.ok receipt) ∉ notices) ∨
      ∃ receipt, queue.session = session.stored receipt.campaign ∧
        receipt.From session.graph answers ∧
        ∀ number result, .ends number result ∈ notices → result = .ok receipt := by
  have alone : session.graph.editedBy (answers.map .deliver) = session.graph :=
    Graph.editedBy_answers answers
  cases course with
  | refused fails => exact .inl ⟨by rw [alone], by simp⟩
  | waiting => exact .inl ⟨by rw [alone], by simp⟩
  | failed => exact .inl ⟨by rw [alone], by simp⟩
  | stored compiled steps last source =>
    rename_i compilation receipt before after answer
    rw [answersIn_map_deliver] at source
    obtain ⟨early, rest, rfl, rfl, others⟩ := List.map_eq_append_iff.mp last
    obtain ⟨_, late, -, -, rfl⟩ := List.map_eq_cons_iff.mp others
    refine .inr ⟨receipt, ?_, source, by simp⟩
    simp only [Graph.editedBy_answers, Session.stored]

theorem notices_of_error (course : Course session number (answers.map .deliver) queue notices)
    {failure : Failure} (fails : session.graph.compile = .error failure) :
    notices = [.ends number (.error failure)] := by
  cases course with
  | refused alsoFails =>
    cases fails.symm.trans alsoFails
    rfl
  | waiting compiled => cases fails.symm.trans compiled
  | failed compiled => cases fails.symm.trans compiled
  | stored compiled => cases fails.symm.trans compiled

theorem uncalled_of_rejection
    (course : Course session number (answers.map .deliver) queue notices) {failure : Failure}
    (ended : .ends number (.error failure) ∈ notices) (rejected : failure.isRejection = true)
    (others : ∀ other, .error other ∈ answers → other.isRejection = false) :
    notices = [.ends number (.error failure)] := by
  cases course with
  | refused fails => simp_all
  | waiting => simp at ended
  | stored => simp at ended
  | failed compiled cause =>
    obtain rfl : failure = _ := by simpa using ended
    rw [answersIn_map_deliver] at cause
    obtain given | other := cause
    · simp [others _ given] at rejected
    · simp [other] at rejected

theorem exists_end (course : Course session number (answers.map .deliver) queue notices)
    (enough : 2 ≤ answers.length) : ∃ result, .ends number result ∈ notices := by
  cases course with
  | refused => exact ⟨_, List.mem_singleton_self _⟩
  | failed => exact ⟨_, List.mem_append_right _ (List.mem_singleton_self _)⟩
  | stored => exact ⟨_, List.mem_append_right _ (List.mem_singleton_self _)⟩
  | waiting compiled suits steps calls answered =>
    -- The first call is answered, so this is the second one, and there are no more.
    rename_i compilation save made
    have most := (Save.first session.graph compilation.steps).remaining_length.2
    have least := save.remaining_length.1
    rw [← calls, List.length_append] at most
    rw [answersIn_map_deliver] at answered
    omega

end Course

structure Session.Attempted [Limits] (session after : Session)
    (answers : List (Except Failure Value)) (notices : List Notice) : Prop where
  unchanged : ∀ failure, .ends 0 (.error failure) ∈ notices → after = session
  uncompiled : ∀ failure, session.graph.compile = .error failure →
    notices = [.ends 0 (.error failure)]
  rejected : ∀ failure, .ends 0 (.error failure) ∈ notices → failure.isRejection = true →
    (∀ other, .error other ∈ answers → other.isRejection = false) →
    notices = [.ends 0 (.error failure)]
  stored : ∀ receipt, .ends 0 (.ok receipt) ∈ notices →
    after = session.stored receipt.campaign ∧
      (session.graph.campaign = some receipt.campaign ∨
        session.graph.campaign = none ∧ receipt.campaign ≠ "" ∧
          ∃ fields : Fields, answers.head? = some (.ok (.obj fields)) ∧
            fields.get? "id" = some (.str receipt.campaign))
  ends : 2 ≤ answers.length → ∃ result, .ends 0 result ∈ notices

theorem Session.attempted [Limits] (session : Session) (answers : List (Except Failure Value)) :
    session.Attempted (session.attempt answers).1.session answers (session.attempt answers).2 := by
  have course : Course session 0 (answers.map .deliver) (session.attempt answers).1
      (session.attempt answers).2 := .of_aside (by simp [QueueEvent.isAside])
  constructor
  · intro failure ended
    obtain ⟨same, -⟩ | ⟨receipt, -, -, only⟩ := course.session_cases
    · exact same
    · cases only 0 _ ended
  · intro failure fails
    exact course.notices_of_error fails
  · intro failure ended rejected others
    exact course.uncalled_of_rejection ended rejected others
  · intro receipt ended
    obtain ⟨-, none⟩ | ⟨other, same, source, only⟩ := course.session_cases
    · exact absurd ended (none receipt)
    · cases only 0 _ ended
      refine ⟨same, source.imp And.left ?_⟩
      rintro ⟨fresh, -, reply, first, named⟩
      obtain ⟨shown, fields, rfl, given⟩ := Save.campaignId_ok named
      exact ⟨fresh, shown, fields, first, given⟩
  · exact course.exists_end

namespace Editor

structure Attempted [Limits] (editor : Editor) (id : String) (outcome : Outcome Receipt) :
    Prop where
  unchanged : ∀ failure, outcome.answer = .error failure →
    ∀ other, outcome.editor.session other = editor.session other
  unknown : (∀ session, editor.session id ≠ .ok session) →
    outcome = { answer := .error (.notFound "EditorSession" id), editor }
  uncompiled : ∀ session failure, editor.session id = .ok session →
    session.graph.compile = .error failure → outcome = { answer := .error failure, editor }
  stored : ∀ receipt, outcome.answer = .ok receipt → ∃ session, editor.session id = .ok session ∧
    outcome.editor.session id = .ok (session.stored receipt.campaign) ∧
    (∀ other ≠ id, outcome.editor.session other = editor.session other) ∧
    (session.graph.campaign = some receipt.campaign ∨
      session.graph.campaign = none ∧ receipt.campaign ≠ "")

theorem attempted [Limits] [Client] (editor : Editor) (id : String) (now : Nat) :
    editor.Attempted id (editor.save id now) where
  unchanged := fun _ failed => (editor.saving id now).session_of_error failed
  unknown := save_of_unknown
  uncompiled := fun _ _ found fails => save_of_error found fails
  stored := by
    intro receipt done
    have saving := editor.saving id now
    generalize editor.save id now = outcome at done saving
    cases saving with
    | unknown => cases done
    | refused => cases done
    | failed => cases done
    | created found compiled fresh answered named =>
      cases done
      exact ⟨_, found, session_put_of_ok rfl found rfl, session_put_of_ne rfl found rfl,
        .inr ⟨fresh, (Save.campaignId_ok named).1⟩⟩
    | updated found compiled known =>
      cases done
      exact ⟨_, found, session_put_of_ok rfl found rfl, session_put_of_ne rfl found rfl,
        .inl known⟩

end Editor

theorem all_or_nothing [Limits] [Client] (session : Session) (answers : List (Except Failure Value))
    (editor : Editor) (id : String) (now : Nat) :
    session.Attempted (session.attempt answers).1.session answers (session.attempt answers).2 ∧
      editor.Attempted id (editor.save id now) :=
  ⟨session.attempted answers, editor.attempted id now⟩

end Outreach
