import Outreach.Proofs.Session.Failed
import Outreach.Proofs.Session.Parallel

set_option autoImplicit false

namespace Outreach

inductive Deed where
  | act (action : Action)
  | openOn (graph : Graph)
  | saveAll (sessions : List String)

def Action.addressed : Action → List String
  | .edit session _ | .insertVariable session _ _ _ | .save session | .close session => [session]
  | .openNew _ _ | .openSteps _ _ _ | .load _ | .call _ => []

def Deed.addressed : Deed → List String
  | .act action => action.addressed
  | .openOn _ => []
  | .saveAll sessions => sessions

namespace Editor

variable {editor others after : Editor} {deed : Deed} {now : Nat} {graph : Graph}
  {session : Session} {id other : String}

def advance [Limits] [Client] (editor : Editor) (deed : Deed) (now : Nat) : Editor :=
  match deed with
  | .act action => editor.perform action now
  | .openOn graph => (editor.openGraph graph now).2
  | .saveAll sessions => (editor.saveAll sessions now).2

def opens [Limits] [Client] (editor : Editor) (deed : Deed) (now : Nat) : Option String :=
  match deed with
  | .act (.openNew name campaign) => some (editor.openNew name campaign now).1.id
  | .act (.openSteps name campaign steps) =>
    (editor.openSteps name campaign steps now).answer.toOption.map Session.id
  | .act (.load campaign) => (editor.load campaign now).answer.toOption.map Session.id
  | .openOn graph => some (editor.openGraph graph now).1.id
  | _ => none

def closes (editor : Editor) (deed : Deed) : Option String :=
  match deed with
  | .act (.close id) => if (editor.close id).answer.isOk then some id else none
  | _ => none

theorem mem_ids : id ∈ editor.ids ↔ ∃ session, editor.session id = .ok session := by
  rw [ids, List.mem_map]
  constructor
  · rintro ⟨session, member, rfl⟩
    have present : (editor.sessions.find? (·.id == session.id)).isSome :=
      List.find?_isSome.mpr ⟨session, member, by simp⟩
    obtain ⟨first, found⟩ := Option.isSome_iff_exists.mp present
    exact ⟨first, session_eq_ok.mpr found⟩
  · rintro ⟨session, found⟩
    exact ⟨session, List.mem_of_find?_eq_some (session_eq_ok.mp found), id_of_session found⟩

inductive Opening (editor after : Editor) : Option String → Prop
  | nothing (sessions : after.sessions = editor.sessions) : Opening editor after none
  | opened {session : Session} {n : Nat} (sessions : after.sessions = editor.sessions ++ [session])
    (named : session.id = Supply.sessionId n) (fresh : editor.supply.sessions < n)
    (given : n ≤ after.supply.sessions) : Opening editor after (some session.id)

theorem opening_openGraph (sessions : others.sessions = editor.sessions)
    (grows : editor.supply.Grows others.supply) :
    editor.Opening (others.openGraph graph now).2 (some (others.openGraph graph now).1.id) :=
  .opened (congrArg (· ++ _) sessions) rfl (Nat.lt_succ_of_le grows.sessions) (Nat.le_refl _)

theorem opening_openSteps [Limits] (sessions : others.sessions = editor.sessions)
    (grows : editor.supply.Grows others.supply) (name campaign : Option String)
    (steps : List Value) (now : Nat) :
    editor.Opening (others.openSteps name campaign steps now).editor
      ((others.openSteps name campaign steps now).answer.toOption.map Session.id) := by
  have made := Graph.ofSteps_grows name campaign steps now others.supply
  rw [openSteps]
  generalize Graph.ofSteps name campaign steps now others.supply = result at made
  obtain ⟨answer, supply⟩ := result
  cases answer with
  | error failure => exact .nothing sessions
  | ok graph =>
    have later : others.supply.Grows supply := made
    have same : Editor.sessions { others with supply } = editor.sessions := sessions
    exact opening_openGraph same (grows.trans later)

section

variable [Limits] [Client]

theorem opening_load (editor : Editor) (campaign : String) (now : Nat) :
    editor.Opening (editor.load campaign now).editor
      ((editor.load campaign now).answer.toOption.map Session.id) := by
  cases answered : (editor.call (.get campaign) now).answer.bind stored with
  | error failure =>
    rw [load_of_error answered]
    exact .nothing rfl
  | ok given =>
    rw [load_of_ok answered]
    have called : (editor.call (.get campaign) now).editor.sessions = editor.sessions := rfl
    exact opening_openSteps called (editor.call_grows _ now) (some given.1) (some campaign) given.2
      now

structure Advanced (editor : Editor) (deed : Deed) (now : Nat) : Prop where
  ids : (editor.advance deed now).ids =
    (editor.ids ++ (editor.opens deed now).toList).filter fun id => editor.closes deed ≠ some id
  fresh : ∀ id, editor.opens deed now = some id → ∃ n, editor.supply.sessions < n ∧
    n ≤ (editor.advance deed now).supply.sessions ∧ id = Supply.sessionId n
  closed : ∀ id, editor.closes deed = some id → id ∈ editor.ids
  aside : ∀ other, other ∉ deed.addressed → ∀ session, editor.session other = .ok session →
    (editor.advance deed now).session other = .ok session
  grows : editor.supply.Grows (editor.advance deed now).supply

theorem advance_grows (editor : Editor) (deed : Deed) (now : Nat) :
    editor.supply.Grows (editor.advance deed now).supply := by
  cases deed with
  | act action => exact editor.perform_grows action now
  | openOn graph => exact .session _
  | saveAll sessions => exact (editor.saveAll_aside sessions now).2.2

theorem Advanced.of_opening
    (opening : editor.Opening (editor.advance deed now) (editor.opens deed now))
    (stays : editor.closes deed = none) : editor.Advanced deed now := by
  have grows := editor.advance_grows deed now
  generalize opened : editor.opens deed now = opens at opening
  cases opening with
  | nothing sessions =>
    refine ⟨?_, ?_, ?_, fun other _ session found => ?_, grows⟩
    · simp [Editor.ids, sessions, opened, stays]
    · simp [opened]
    · simp [stays]
    · rw [session_congr sessions, found]
  | @opened new n sessions named fresh given =>
    refine ⟨?_, ?_, ?_, fun other _ session found => ?_, grows⟩
    · simp [Editor.ids, sessions, opened, stays]
    · intro id same
      cases opened.symm.trans same
      exact ⟨n, fresh, given, named⟩
    · simp [stays]
    · rw [session_eq_ok] at found ⊢
      rw [sessions, List.find?_append, found, Option.some_or]

theorem Advanced.of_ids (ids : (editor.advance deed now).ids = editor.ids)
    (aside : ∀ other, other ∉ deed.addressed →
      (editor.advance deed now).session other = editor.session other)
    (opens : editor.opens deed now = none) (stays : editor.closes deed = none) :
    editor.Advanced deed now where
  ids := by simp [ids, opens, stays]
  fresh := by simp [opens]
  closed := by simp [stays]
  aside other unlisted session found := (aside other unlisted).trans found
  grows := editor.advance_grows deed now

theorem Advanced.of_same (same : editor.advance deed now = editor)
    (opens : editor.opens deed now = none) (stays : editor.closes deed = none) :
    editor.Advanced deed now :=
  .of_ids (congrArg Editor.ids same) (fun other _ => congrArg (·.session other) same) opens stays

theorem Advanced.of_put {result : Session} (done : editor.advance deed now = others.put result)
    (sessions : others.sessions = editor.sessions) (found : editor.session id = .ok session)
    (same : result.id = session.id) (addressed : deed.addressed = [id])
    (opens : editor.opens deed now = none) (stays : editor.closes deed = none) :
    editor.Advanced deed now := by
  refine .of_ids ?_ (fun other unlisted => ?_) opens stays
  · rw [done, ids_put, Editor.ids, sessions, Editor.ids]
  · rw [addressed, List.mem_singleton] at unlisted
    rw [done, session_put_of_ne sessions found same other unlisted]

theorem advanced_save (editor : Editor) (target : String) (now : Nat) :
    editor.Advanced (.act (.save target)) now := by
  have saving := editor.saving target now
  have done : editor.advance (.act (.save target)) now = (editor.save target now).editor := rfl
  generalize editor.save target now = outcome at saving done
  cases saving with
  | unknown => exact .of_same done rfl rfl
  | refused => exact .of_same done rfl rfl
  | failed found => exact .of_put done (editor.sessions_callAll _ now) found rfl rfl rfl rfl
  | created found => exact .of_put done rfl found rfl rfl rfl rfl
  | updated found => exact .of_put done rfl found rfl rfl rfl rfl

end

theorem closes_close (editor : Editor) (target : String) :
    editor.closes (.act (.close target)) = if target ∈ editor.ids then some target else none := by
  rw [closes, close]
  cases found : editor.session target with
  | error failure =>
    have missing : target ∉ editor.ids := fun member => by
      obtain ⟨session, present⟩ := mem_ids.mp member
      cases present.symm.trans found
    rw [if_neg missing]
    rfl
  | ok session =>
    rw [if_pos (mem_ids.mpr ⟨session, found⟩)]
    rfl

theorem advanced_close [Limits] [Client] (editor : Editor) (target : String) (now : Nat) :
    editor.Advanced (.act (.close target)) now where
  ids := by
    have kept : (editor.advance (.act (.close target)) now).ids =
        editor.ids.filter fun id => id != target := by
      rw [ids, ids, List.filter_map]
      rfl
    have nothing : editor.opens (.act (.close target)) now = none := rfl
    rw [kept, closes_close, nothing, Option.toList_none, List.append_nil]
    refine List.filter_congr fun id member => ?_
    by_cases same : id = target
    · subst same
      simp [member]
    · split <;> simp [same, Ne.symm same]
  fresh := nofun
  closed id shut := by
    rw [closes_close] at shut
    split at shut
    · rename_i member
      cases shut
      exact member
    · cases shut
  aside other unlisted session found := by
    have different : other ≠ target := by simpa [Deed.addressed, Action.addressed] using unlisted
    have same : (fun old : Session => decide ((old.id != target) = true ∧ (old.id == other) = true))
        = fun old => old.id == other := by
      funext old
      by_cases own : old.id = other <;> simp [own, different]
    rw [session_eq_ok] at found ⊢
    simpa only [advance, perform, close, List.find?_filter, same] using found
  grows := editor.advance_grows _ now

theorem advanced [Limits] [Client] (editor : Editor) (deed : Deed) (now : Nat) :
    editor.Advanced deed now := by
  cases deed with
  | openOn graph => exact .of_opening (opening_openGraph rfl (.refl _)) rfl
  | saveAll sessions =>
    obtain ⟨ids, aside, -⟩ := editor.saveAll_aside sessions now
    exact .of_ids ids aside rfl rfl
  | act action =>
    cases action with
    | openNew name campaign =>
      let made := { editor with supply := (Graph.create name campaign now editor.supply).2 }
      have same : made.sessions = editor.sessions := rfl
      exact .of_opening (opening_openGraph same (.graph editor.supply)) rfl
    | openSteps name campaign steps =>
      exact .of_opening (opening_openSteps rfl (.refl _) name campaign steps now) rfl
    | load campaign => exact .of_opening (editor.opening_load campaign now) rfl
    | edit target command =>
      obtain same | ⟨session, found, edited⟩ := editor.edit_cases target command now
      · exact .of_same same rfl rfl
      · exact .of_put edited rfl found rfl rfl rfl rfl
    | insertVariable target node field variableName =>
      obtain same | ⟨session, found, edited⟩ :=
        editor.insertVariable_cases target node field variableName now
      · exact .of_same same rfl rfl
      · exact .of_put edited rfl found rfl rfl rfl rfl
    | save target => exact editor.advanced_save target now
    | close target => exact editor.advanced_close target now
    | call request => exact .of_ids rfl (fun _ _ => rfl) rfl rfl

end Editor

structure Ledger where
  editor : Editor
  opened : List String
  closed : List String

namespace Ledger

variable {ledger : Ledger} {service : Service} {deeds : List (Deed × Nat)}

def start (service : Service) : Ledger := { editor := .create service, opened := [], closed := [] }

variable [Limits] [Client]

def carry (ledger : Ledger) (deed : Deed) (now : Nat) : Ledger :=
  { editor := ledger.editor.advance deed now
    opened := ledger.opened ++ (ledger.editor.opens deed now).toList
    closed := ledger.closed ++ (ledger.editor.closes deed).toList }

def run (service : Service) (deeds : List (Deed × Nat)) : Ledger :=
  deeds.foldl (fun ledger step => ledger.carry step.1 step.2) (start service)

structure Kept (ledger : Ledger) : Prop where
  distinct : ledger.opened.Nodup
  given : ∀ id ∈ ledger.opened, ∃ n ≤ ledger.editor.supply.sessions, id = Supply.sessionId n
  known : ∀ id ∈ ledger.closed, id ∈ ledger.opened
  held : ledger.editor.ids = ledger.opened.filter fun id => id ∉ ledger.closed

theorem Kept.fresh (kept : ledger.Kept) {deed : Deed} {now : Nat} {id : String}
    (opens : ledger.editor.opens deed now = some id) : id ∉ ledger.opened := by
  intro known
  obtain ⟨n, new, -, rfl⟩ := (ledger.editor.advanced deed now).fresh id opens
  obtain ⟨m, before, same⟩ := kept.given _ known
  have equal : n = m := Supply.id_injective "sess_" 12 same
  omega

theorem Kept.carry (kept : ledger.Kept) (deed : Deed) (now : Nat) :
    (ledger.carry deed now).Kept where
  distinct := by
    rw [Ledger.carry]
    cases opens : ledger.editor.opens deed now with
    | none => simpa using kept.distinct
    | some id =>
      have apart : ∀ other ∈ ledger.opened, other ≠ id := fun other member =>
        ne_of_mem_of_not_mem member (kept.fresh opens)
      simpa [List.nodup_append, kept.distinct] using apart
  given id member := by
    have advanced := ledger.editor.advanced deed now
    obtain before | opens := List.mem_append.mp member
    · obtain ⟨n, given, same⟩ := kept.given id before
      exact ⟨n, given.trans advanced.grows.sessions, same⟩
    · obtain ⟨n, -, given, same⟩ := advanced.fresh id (Option.mem_toList.mp opens)
      exact ⟨n, given, same⟩
  known id member := by
    refine List.mem_append_left _ ?_
    obtain before | shut := List.mem_append.mp member
    · exact kept.known id before
    · have present := (ledger.editor.advanced deed now).closed id (Option.mem_toList.mp shut)
      rw [kept.held] at present
      exact (List.mem_filter.mp present).1
  held := by
    refine (ledger.editor.advanced deed now).ids.trans ?_
    rw [kept.held, List.filter_append, List.filter_filter, Ledger.carry, List.filter_append]
    congr 1
    · refine List.filter_congr fun id _ => ?_
      simp [Bool.and_comm]
    -- What is opened now was not closed before.
    · refine List.filter_congr fun id opens => ?_
      have unclosed : id ∉ ledger.closed := fun shut =>
        kept.fresh (Option.mem_toList.mp opens) (kept.known id shut)
      simp [unclosed]

end Ledger

end Outreach
