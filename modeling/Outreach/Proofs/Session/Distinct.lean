import Outreach.Proofs.Session.Run

set_option autoImplicit false

namespace Outreach.Editor

variable {editor others : Editor} {session : Session} {graph : Graph} {action : Action} {now : Nat}
  {id : String}

def ids (editor : Editor) : List String := editor.sessions.map (·.id)

theorem ids_put (editor : Editor) (session : Session) : (editor.put session).ids = editor.ids := by
  rw [ids, put, replace, List.map_map, ids]
  refine List.map_congr_left fun other _ => ?_
  by_cases same : other.id = session.id <;> simp [same]

theorem session_of_mem (distinct : editor.ids.Nodup) (member : session ∈ editor.sessions) :
    editor.session session.id = .ok session := by
  have present : (editor.sessions.find? (·.id == session.id)).isSome = true :=
    List.find?_isSome.mpr ⟨session, member, by simp⟩
  obtain ⟨first, found⟩ := Option.isSome_iff_exists.mp present
  have known := session_eq_ok.mpr found
  have same := List.inj_on_of_nodup_map distinct (List.mem_of_find?_eq_some found) member
    (id_of_session known)
  rwa [same] at known

theorem replace_self (distinct : editor.ids.Nodup) (found : editor.session id = .ok session) :
    replace session editor.sessions = editor.sessions := by
  rw [replace]
  conv_rhs => rw [← List.map_id editor.sessions]
  refine List.map_congr_left fun other member => ?_
  split
  · rename_i same
    have known := session_of_mem distinct member
    rw [same, id_of_session found, found] at known
    exact Except.ok.inj known
  · rfl

theorem call_grows [Limits] [Client] (editor : Editor) (request : Call) (now : Nat) :
    editor.supply.Grows (editor.call request now).editor.supply := by
  rw [Editor.call]
  cases editor.service with
  | memory store => exact (store.changed request now editor.supply).grows
  | remote channel => exact .refl _

theorem callAll_grows [Limits] [Client] (editor : Editor) (calls : List Call) (now : Nat) :
    editor.supply.Grows (editor.callAll calls now).supply := by
  induction calls generalizing editor with
  | nil => exact .refl _
  | cons request rest ih => exact (editor.call_grows request now).trans (ih _)

theorem perform_grows [Limits] [Client] (editor : Editor) (action : Action) (now : Nat) :
    editor.supply.Grows (editor.perform action now).supply := by
  obtain ⟨calls, made⟩ := editor.exists_calls action now
  exact (editor.callAll_grows calls now).trans made.supply

def Turns (editor after : Editor) : Prop :=
  after.ids.Sublist editor.ids ∨
    ∃ n, editor.supply.sessions < n ∧ after.ids = editor.ids ++ [Supply.sessionId n]

theorem turns_of_ids {after : Editor} (same : after.ids = editor.ids) : editor.Turns after :=
  .inl (same ▸ List.Sublist.refl _)

theorem turns_openGraph (ids : others.ids = editor.ids)
    (grows : editor.supply.Grows others.supply) :
    editor.Turns (others.openGraph graph now).2 := by
  refine .inr ⟨others.supply.sessions + 1, Nat.lt_succ_of_le grows.sessions, ?_⟩
  rw [← ids, Editor.ids, openGraph, List.map_append]
  rfl

theorem turns_openSteps [Limits] (ids : others.ids = editor.ids)
    (grows : editor.supply.Grows others.supply) (name campaign : Option String)
    (steps : List Value) (now : Nat) :
    editor.Turns (others.openSteps name campaign steps now).editor := by
  have made := Graph.ofSteps_grows name campaign steps now others.supply
  rw [openSteps]
  generalize Graph.ofSteps name campaign steps now others.supply = result at made
  obtain ⟨answer, supply⟩ := result
  cases answer with
  | error failure => exact turns_of_ids ids
  | ok graph =>
    have later : others.supply.Grows supply := made
    have made : Editor.ids { others with supply } = editor.ids := ids
    exact turns_openGraph made (grows.trans later)

theorem turns_perform [Limits] [Client] (editor : Editor) (action : Action) (now : Nat) :
    editor.Turns (editor.perform action now) := by
  cases action with
  | openNew name campaign =>
    let others := { editor with supply := (Graph.create name campaign now editor.supply).2 }
    have created : others.ids = editor.ids := rfl
    exact turns_openGraph created (.graph editor.supply)
  | openSteps name campaign steps => exact turns_openSteps rfl (.refl _) name campaign steps now
  | load campaign =>
    obtain same | ⟨name, steps, opened⟩ := editor.load_cases campaign now
    · rw [same]
      exact turns_of_ids rfl
    · rw [opened]
      have called : (editor.call (.get campaign) now).editor.ids = editor.ids := rfl
      exact turns_openSteps called (editor.call_grows _ now) (some name) (some campaign) steps now
  | edit target command =>
    obtain same | ⟨session, -, edited⟩ := editor.edit_cases target command now
    · rw [same]
      exact turns_of_ids rfl
    · rw [edited]
      exact turns_of_ids (ids_put _ _)
  | insertVariable target node field variableName =>
    obtain same | ⟨session, -, edited⟩ :=
      editor.insertVariable_cases target node field variableName now
    · rw [same]
      exact turns_of_ids rfl
    · rw [edited]
      exact turns_of_ids (ids_put _ _)
  | save target =>
    have saving := editor.saving target now
    simp only [perform]
    generalize editor.save target now = outcome at saving
    cases saving with
    | unknown => exact turns_of_ids rfl
    | refused => exact turns_of_ids rfl
    | failed found compiled made first =>
      refine turns_of_ids ((ids_put _ _).trans ?_)
      rw [ids, sessions_callAll, ids]
    | created => exact turns_of_ids (ids_put _ _)
    | updated => exact turns_of_ids (ids_put _ _)
  | close target => exact .inl (List.filter_sublist.map _)
  | call request => exact turns_of_ids rfl

structure Orderly (editor : Editor) : Prop where
  distinct : editor.ids.Nodup
  sessions : ∀ id session, editor.session id = .ok session → session.Regular editor.supply

theorem orderly_create (service : Service) : (create service).Orderly where
  distinct := List.nodup_nil
  sessions := fun _ _ found => by cases found

theorem Orderly.exists_number (orderly : editor.Orderly) (known : id ∈ editor.ids) :
    ∃ n ≤ editor.supply.sessions, id = Supply.sessionId n := by
  obtain ⟨session, member, rfl⟩ := List.mem_map.mp known
  exact (orderly.sessions _ session (session_of_mem orderly.distinct member)).named

theorem Orderly.fresh (orderly : editor.Orderly) {n : Nat} (new : editor.supply.sessions < n) :
    Supply.sessionId n ∉ editor.ids := by
  intro known
  obtain ⟨m, given, same⟩ := orderly.exists_number known
  have equal : n = m := Supply.id_injective "sess_" 12 same
  omega

theorem Orderly.perform [Limits] [Client] (orderly : editor.Orderly) (action : Action) (now : Nat) :
    (editor.perform action now).Orderly where
  distinct := by
    obtain fewer | ⟨n, new, ids⟩ := editor.turns_perform action now
    · exact fewer.nodup orderly.distinct
    · rw [ids, List.nodup_append]
      refine ⟨orderly.distinct, List.nodup_singleton _, ?_⟩
      intro other known last member
      rw [List.mem_singleton] at member
      rintro rfl
      exact orderly.fresh new (member ▸ known)
  sessions := regular_perform (editor.perform_grows action now) orderly.sessions

end Outreach.Editor
