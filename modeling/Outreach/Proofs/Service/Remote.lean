import Outreach.Proofs.Result
import Outreach.Service.Remote

set_option autoImplicit false

namespace Outreach

def ReadFault.defect? : ReadFault → Option Defect
  | .malformed => none
  | .numeralTooLong => some .numeralTooLong
  | .tooDeep => some .tooDeep
  | .undecodable => some .undecodable

namespace Value

variable [Limits] {value : Value}

theorem illegible?_str (s : String) : (Value.str s).illegible? = none := by
  simp [illegible?, obstacle?]

theorem text_cases (value : Value) :
    (∃ s, value.text = .ok s ∧ value.illegible? = none) ∨
      ∃ defect, value.text = .error defect ∧ value.illegible? = some defect := by
  cases value with
  | str s => exact .inl ⟨s, rfl, illegible?_str s⟩
  | _ =>
    simp only [text]
    split
    · rename_i defect stopped
      exact .inr ⟨defect, rfl, stopped⟩
    · rename_i legible
      exact .inl ⟨_, rfl, legible⟩

def unreportable? : Value → Option Defect
  | .obj fields =>
    match Fields.get? fields "data", Fields.get? fields "success" with
    | some _, some (.bool false) => (Remote.reason fields).illegible?
    | _, _ => none
  | _ => none

def defect? (value : Value) : Option Defect :=
  value.unreadable?.or value.received.unreportable?

end Value

def Body.defect? [Limits] : Body → Option Defect
  | .value sent => sent.defect?
  | .text sent =>
    match Value.receive sent with
    | .ok read => read.unreportable?
    | .error fault => fault.defect?

namespace Reaction

variable [Limits] {reaction : Reaction} {remote : Remote} {site : Site}

def unreadable? (remote : Remote) : Reaction → Option Defect
  | .response status body => if Remote.isSuccess status then body.defect? else none
  | .timeout => remote.timeout.illegible?
  | .unreachable => none

def defect? (reaction : Reaction) (remote : Remote) (site : Site) : Option Defect :=
  match reaction with
  | .response .. => if !site.complete then some .relativeAddress else reaction.unreadable? remote
  | .timeout | .unreachable => reaction.unreadable? remote

theorem defect?_of_complete (complete : site.complete = true) :
    reaction.defect? remote site = reaction.unreadable? remote := by
  cases reaction <;> simp [defect?, complete]

end Reaction

def Call.Fits : Call → Value → Prop
  | .replaceSteps .., value => ∃ items, value = .list items
  | _, value => ∃ fields, value = .obj fields

def Call.Fails (call : Call) (failure : Failure) : Prop :=
  (∃ fault : ServiceFault, failure = fault.failure) ∨
    ∃ id, call = .get id ∧ failure = .notFound "Campaign" id

namespace Remote

variable {remote : Remote} {site : Site} {call : Call} {reaction : Reaction} {body : Body}
  {value : Value} {failure : Failure} {defect : Defect}

section

variable [Limits]

theorem read_cases (route : Route) (body : Body) :
    (∃ value, read route body = .ok value ∧ body.defect? = value.unreportable?) ∨
      read route body = .error (ServiceFault.unreadable route).failure ∧ body.defect? = none ∨
        ∃ defect, read route body = .error (.defect defect) ∧ body.defect? = some defect := by
  cases body with
  | value value =>
    rw [read, Body.defect?, Value.defect?]
    cases value.unreadable? with
    | none => exact .inl ⟨_, rfl, rfl⟩
    | some defect => exact .inr (.inr ⟨defect, rfl, rfl⟩)
  | text text =>
    rw [read, Body.defect?]
    cases Value.receive text with
    | ok value => exact .inl ⟨value, rfl, rfl⟩
    | error fault =>
      cases fault with
      | malformed => exact .inr (.inl ⟨rfl, rfl⟩)
      | numeralTooLong => exact .inr (.inr ⟨_, rfl, rfl⟩)
      | tooDeep => exact .inr (.inr ⟨_, rfl, rfl⟩)
      | undecodable => exact .inr (.inr ⟨_, rfl, rfl⟩)

theorem refused_cases (route : Route) (reason : Value) :
    (∃ s, refused route reason = (ServiceFault.refused s route).failure ∧
        reason.illegible? = none) ∨
      ∃ defect, refused route reason = .defect defect ∧ reason.illegible? = some defect := by
  rw [refused]
  obtain ⟨s, text, legible⟩ | ⟨defect, text, illegible⟩ := reason.text_cases
  · exact .inl ⟨s, by rw [text], legible⟩
  · exact .inr ⟨defect, by rw [text], illegible⟩

theorem unwrap_cases (route : Route) (value : Value) :
    (∃ data, unwrap route value = .ok data ∧ value.unreportable? = none) ∨
      (∃ fault : ServiceFault, unwrap route value = .error fault.failure ∧ fault.status? = none ∧
        value.unreportable? = none) ∨
        ∃ defect, unwrap route value = .error (.defect defect) ∧
          value.unreportable? = some defect := by
  cases value with
  | obj fields =>
    rw [unwrap, Value.unreportable?]
    cases Fields.get? fields "data" with
    | none => exact .inr (.inl ⟨_, rfl, rfl, rfl⟩)
    | some data =>
      dsimp only
      split
      · rename_i failed
        rw [failed]
        obtain ⟨s, refused, legible⟩ | ⟨defect, refused, illegible⟩ :=
          refused_cases route (reason fields)
        · exact .inr (.inl ⟨_, by rw [refused], rfl, legible⟩)
        · exact .inr (.inr ⟨defect, by rw [refused], illegible⟩)
      · rename_i passes
        refine .inl ⟨data, rfl, ?_⟩
        split
        · rename_i _ failed
          exact absurd failed passes
        · rfl
  | _ => exact .inr (.inl ⟨_, rfl, rfl, rfl⟩)

theorem timedOut_cases (remote : Remote) (route : Route) :
    (∃ s, remote.timedOut route = (ServiceFault.timeout s route).failure ∧
        remote.timeout.illegible? = none) ∨
      ∃ defect, remote.timedOut route = .defect defect ∧
        remote.timeout.illegible? = some defect := by
  rw [timedOut]
  obtain ⟨s, text, legible⟩ | ⟨defect, text, illegible⟩ := remote.timeout.text_cases
  · exact .inl ⟨s, by rw [text], legible⟩
  · exact .inr ⟨defect, by rw [text], illegible⟩

end

theorem fits_of_shape {data : Value} (shaped : shape call data = .ok value) : call.Fits value := by
  cases call <;> cases data <;> simp [shape] at shaped
  all_goals
    subst shaped
    exact ⟨_, rfl⟩

theorem failed_fails (call : Call) (status : Int) : call.Fails (failed call status) := by
  cases call with
  | get id =>
    rw [failed]
    split
    · exact .inr ⟨id, rfl, rfl⟩
    · exact .inl ⟨_, rfl⟩
  | _ => exact .inl ⟨_, rfl⟩

inductive Answers (call : Call) : Option Defect → Except Failure Value → Prop
  | data {value : Value} (fits : call.Fits value) : Answers call none (.ok value)
  | failed {failure : Failure} (fails : call.Fails failure) : Answers call none (.error failure)
  | defect (defect : Defect) : Answers call (some defect) (.error (.defect defect))

theorem answers_success [Limits] (call : Call) (body : Body) :
    Answers call body.defect? (do
      let data ← unwrap call.route (← read call.route body)
      (shape call data).mapError ServiceFault.failure) := by
  obtain ⟨value, wasRead, same⟩ | ⟨unreadable, none⟩ | ⟨defect, stopped, some⟩ :=
    read_cases call.route body
  · rw [wasRead, same]
    change Answers call _ ((unwrap call.route value).bind fun data =>
      (shape call data).mapError ServiceFault.failure)
    obtain ⟨data, unwrapped, none⟩ | ⟨fault, unwrapped, -, none⟩ | ⟨defect, unwrapped, some⟩ :=
      unwrap_cases call.route value
    · rw [unwrapped, none]
      change Answers call _ ((shape call data).mapError ServiceFault.failure)
      cases shaped : shape call data with
      | error fault => exact .failed (.inl ⟨fault, rfl⟩)
      | ok fit => exact .data (fits_of_shape shaped)
    · rw [unwrapped, none]
      exact .failed (.inl ⟨fault, rfl⟩)
    · rw [unwrapped, some]
      exact .defect defect
  · rw [unreadable, none]
    exact .failed (.inl ⟨_, rfl⟩)
  · rw [stopped, some]
    exact .defect defect

theorem answers [Limits] (remote : Remote) (site : Site) (call : Call) (reaction : Reaction) :
    Answers call (reaction.defect? remote site) (remote.answer site call reaction) := by
  cases reaction with
  | timeout =>
    rw [answer, Reaction.defect?, Reaction.unreadable?]
    obtain ⟨s, timedOut, legible⟩ | ⟨defect, timedOut, illegible⟩ :=
      remote.timedOut_cases call.route
    · rw [timedOut, legible]
      exact .failed (.inl ⟨_, rfl⟩)
    · rw [timedOut, illegible]
      exact .defect defect
  | unreachable => exact .failed (.inl ⟨_, rfl⟩)
  | response status body =>
    rw [answer, Reaction.defect?, Reaction.unreadable?]
    split
    · exact .defect _
    · split
      · exact answers_success call body
      · exact .failed (failed_fails call status)

variable [Limits] [Client]

def Reaches (remote : Remote) (call : Call) : Prop :=
  ∃ site, Client.locate (remote.base ++ call.route.path) = .ok site ∧
    remote.token.all isHeaderText = true ∧ site.host = .ok () ∧ site.complete = true

theorem exists_target (reaches : remote.Reaches call) (sendable : call.body.unsendable? = none) :
    ∃ site, remote.target call = .ok site ∧ site.complete = true := by
  obtain ⟨site, located, plain, known, complete⟩ := reaches
  refine ⟨site, ?_, complete⟩
  simp [target, located, plain, sendable, known, bind, Except.bind, pure, Except.pure]

theorem target_of_unsendable (reaches : remote.Reaches call)
    (unsendable : call.body.unsendable? = some defect) : remote.target call = .error defect := by
  obtain ⟨site, located, plain, -, -⟩ := reaches
  simp [target, located, plain, unsendable, bind, Except.bind, throw, throwThe,
    MonadExceptOf.throw]

end Remote

namespace Channel

variable [Limits] [Client] {channel : Channel} {call : Call} {defect : Defect}

def defect? (channel : Channel) (call : Call) : Option Defect :=
  match channel.remote.target call with
  | .error defect => some defect
  | .ok site => (channel.reactions.headD .unreachable).defect? channel.remote site

theorem answers (channel : Channel) (call : Call) :
    Remote.Answers call (channel.defect? call) (channel.call call).1 := by
  rw [Channel.call, defect?]
  cases channel.remote.target call with
  | error defect => exact .defect defect
  | ok site =>
    cases channel.reactions with
    | nil => exact channel.remote.answers site call .unreachable
    | cons reaction rest => exact channel.remote.answers site call reaction

theorem call_eq_defect_iff :
    (channel.call call).1 = .error (.defect defect) ↔ channel.defect? call = some defect := by
  have answers := channel.answers call
  generalize (channel.call call).1 = answer at answers
  generalize channel.defect? call = found at answers
  cases answers with
  | data fits => simp
  | failed fails =>
    obtain ⟨fault, rfl⟩ | ⟨id, -, rfl⟩ := fails <;> simp [ServiceFault.failure]
  | defect other => simp [eq_comm]

theorem fits_of_ok {value : Value} (answered : (channel.call call).1 = .ok value) :
    call.Fits value := by
  have answers := channel.answers call
  rw [answered] at answers
  generalize channel.defect? call = found at answers
  cases answers with
  | data fits => exact fits

theorem fails_or_defect {failure : Failure} (failed : (channel.call call).1 = .error failure) :
    call.Fails failure ∨ ∃ defect, failure = .defect defect := by
  have answers := channel.answers call
  rw [failed] at answers
  generalize channel.defect? call = found at answers
  cases answers with
  | failed fails => exact .inl fails
  | defect other => exact .inr ⟨other, rfl⟩

theorem defect?_eq_none (reaches : channel.remote.Reaches call)
    (sendable : call.body.unsendable? = none)
    (readable : ∀ reaction ∈ channel.reactions, reaction.unreadable? channel.remote = none) :
    channel.defect? call = none := by
  obtain ⟨site, found, complete⟩ := Remote.exists_target reaches sendable
  rw [defect?, found]
  refine (Reaction.defect?_of_complete complete).trans ?_
  cases reactions : channel.reactions with
  | nil => rfl
  | cons reaction rest => exact readable reaction (reactions ▸ List.mem_cons_self)

theorem defect?_of_unsendable (reaches : channel.remote.Reaches call)
    (unsendable : call.body.unsendable? = some defect) : channel.defect? call = some defect := by
  rw [defect?, Remote.target_of_unsendable reaches unsendable]

theorem call_remote (channel : Channel) (call : Call) :
    (channel.call call).2.remote = channel.remote := by
  rw [Channel.call]
  repeat' split
  all_goals rfl

theorem call_reactions (channel : Channel) (call : Call) :
    (channel.call call).2.reactions ⊆ channel.reactions := by
  rw [Channel.call]
  split
  · exact List.Subset.refl _
  · exact List.Subset.refl _
  · rename_i more
    simp [more]

inductive Stuck (defect : Defect) : Channel → List Call → Prop
  | here {channel : Channel} {call : Call} {rest : List Call}
    (stuck : channel.defect? call = some defect) : Stuck defect channel (call :: rest)
  | later {channel : Channel} {call : Call} {rest : List Call} {value : Value}
    (answered : (channel.call call).1 = .ok value)
    (stuck : Stuck defect (channel.call call).2 rest) : Stuck defect channel (call :: rest)

theorem stuck_singleton : channel.Stuck defect [call] ↔ channel.defect? call = some defect := by
  constructor
  · intro stuck
    cases stuck with
    | here stuck => exact stuck
    | later answered stuck => cases stuck
  · exact .here

theorem stuck_pair {second : Call} : channel.Stuck defect [call, second] ↔
    channel.defect? call = some defect ∨ ∃ value, (channel.call call).1 = .ok value ∧
      (channel.call call).2.defect? second = some defect := by
  constructor
  · intro stuck
    cases stuck with
    | here stuck => exact .inl stuck
    | later answered stuck => exact .inr ⟨_, answered, stuck_singleton.mp stuck⟩
  · rintro (stuck | ⟨value, answered, stuck⟩)
    · exact .here stuck
    · exact .later answered (.here stuck)

theorem not_stuck {calls : List Call} (reaches : ∀ call ∈ calls, channel.remote.Reaches call)
    (sendable : ∀ call ∈ calls, call.body.unsendable? = none)
    (readable : ∀ reaction ∈ channel.reactions, reaction.unreadable? channel.remote = none) :
    ¬ channel.Stuck defect calls := by
  intro stuck
  induction stuck with
  | here stuck =>
    have clear := defect?_eq_none (reaches _ List.mem_cons_self)
      (sendable _ List.mem_cons_self) readable
    rw [clear] at stuck
    cases stuck
  | later answered stuck ih =>
    refine ih ?_ (fun call member => sendable call (List.mem_cons_of_mem _ member)) ?_
    · intro call member
      rw [call_remote]
      exact reaches call (List.mem_cons_of_mem _ member)
    · intro reaction member
      rw [call_remote]
      exact readable reaction (call_reactions _ _ member)

end Channel

end Outreach
