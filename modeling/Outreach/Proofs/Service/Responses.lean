import Outreach.Proofs.Session.Sent
import Outreach.Proofs.Text.Half

set_option autoImplicit false

namespace Outreach

namespace Reaction

def Carries [Limits] (reaction : Reaction) (call : Call) (value : Value) : Prop :=
  ∃ status body fields, reaction = .response status body ∧ 200 ≤ status ∧ status < 300 ∧
    Remote.read call.route body = .ok (.obj fields) ∧ Fields.get? fields "data" = some value ∧
    Fields.get? fields "success" ≠ some (.bool false) ∧ call.Fits value

def refusal? : Reaction → Option Int
  | .response status _ => if 200 ≤ status ∧ status < 300 then none else some status
  | .timeout | .unreachable => none

end Reaction

inductive Call.Blames (call : Call) (refusal? : Option Int) : Failure → Prop
  | missing {id : String} (asked : call = .get id) (unknown : refusal? = some 404) :
    Blames call refusal? (.notFound "Campaign" id)
  | service (message : String) (known : refusal? = some 404 → ∀ id, call ≠ .get id) :
    Blames call refusal? (.service message refusal?)

theorem Call.Blames.of_fault {call : Call} {fault : ServiceFault} (inside : fault.status? = none) :
    call.Blames none fault.failure := by
  rw [ServiceFault.failure, inside]
  exact .service _ (by simp)

namespace Remote

variable {remote : Remote} {site : Site} {call : Call} {reaction : Reaction} {route : Route}
  {body data value : Value} {fault : ServiceFault} {failure : Failure} {defect : Defect}

theorem isSuccess_iff {status : Int} : isSuccess status = true ↔ 200 ≤ status ∧ status < 300 := by
  simp [isSuccess]

theorem shape_eq_ok_iff : shape call data = .ok value ↔ data = value ∧ call.Fits value := by
  constructor
  · intro shaped
    refine ⟨?_, fits_of_shape shaped⟩
    cases call <;> cases data <;> simp_all [shape]
  · rintro ⟨rfl, fits⟩
    cases call <;> obtain ⟨parts, rfl⟩ := fits <;> rfl

theorem status?_of_shape (refused : shape call data = .error fault) : fault.status? = none := by
  cases call <;> cases data <;> cases refused <;> rfl

theorem blames_failed {status : Int} : call.Blames (some status) (failed call status) := by
  cases call with
  | get id =>
    rw [failed]
    split
    · rename_i unknown
      exact .missing rfl (by rw [unknown])
    · rename_i known
      exact .service _ fun same => absurd (Option.some.inj same) known
  | _ => exact .service _ fun _ _ => Call.noConfusion

variable [Limits]

theorem unwrap_eq_ok_iff : unwrap route body = .ok data ↔
    ∃ fields, body = .obj fields ∧ Fields.get? fields "data" = some data ∧
      Fields.get? fields "success" ≠ some (.bool false) := by
  cases body with
  | obj fields =>
    simp only [unwrap, Value.obj.injEq, exists_eq_left']
    cases Fields.get? fields "data" with
    | none => simp
    | some found =>
      simp only [Option.some.injEq]
      split
      · rename_i refused
        simp [refused]
      · rename_i fine
        rw [Except.ok.injEq]
        exact (and_iff_left (fun refused => fine refused)).symm
  | _ => simp [unwrap]

theorem answer_eq_ok_iff (complete : site.complete = true) :
    remote.answer site call reaction = .ok value ↔ reaction.Carries call value := by
  cases reaction with
  | response status body =>
    simp only [answer, complete, Bool.not_true, Bool.false_eq_true, if_false]
    rw [Reaction.Carries]
    by_cases success : isSuccess status = true
    · rw [if_pos success, bind_eq_ok]
      have within := isSuccess_iff.mp success
      constructor
      · rintro ⟨read, wasRead, given⟩
        obtain ⟨data, unwrapped, shaped⟩ := bind_eq_ok.mp given
        obtain ⟨fields, rfl, found, fine⟩ := unwrap_eq_ok_iff.mp unwrapped
        obtain ⟨rfl, fits⟩ := shape_eq_ok_iff.mp (mapError_eq_ok.mp shaped)
        exact ⟨status, body, fields, rfl, within.1, within.2, wasRead, found, fine, fits⟩
      · rintro ⟨_, _, fields, same, -, -, wasRead, found, fine, fits⟩
        cases same
        refine ⟨_, wasRead, bind_eq_ok.mpr ⟨value, ?_, mapError_eq_ok.mpr ?_⟩⟩
        · exact unwrap_eq_ok_iff.mpr ⟨fields, rfl, found, fine⟩
        · exact shape_eq_ok_iff.mpr ⟨rfl, fits⟩
    · rw [if_neg success]
      constructor
      · intro given
        cases given
      · rintro ⟨_, _, fields, same, least, most, -⟩
        cases same
        exact absurd (isSuccess_iff.mpr ⟨least, most⟩) success
  | _ =>
    constructor
    · intro answered
      cases answered
    · rintro ⟨_, _, _, same, -⟩
      cases same

theorem blames_of_body {sent : Body} (readable : sent.defect? = none) (failed : (do
      let data ← unwrap call.route (← read call.route sent)
      (shape call data).mapError ServiceFault.failure) = .error failure) :
    call.Blames none failure := by
  obtain unread | ⟨value, wasRead, failed⟩ := bind_eq_error.mp failed
  · obtain ⟨_, wasRead, -⟩ | ⟨unreadable, -⟩ | ⟨_, -, broken⟩ := read_cases call.route sent
    · cases wasRead.symm.trans unread
    · cases unreadable.symm.trans unread
      exact .of_fault rfl
    · cases readable.symm.trans broken
  · have reportable : value.unreportable? = none := by
      obtain ⟨_, again, same⟩ | ⟨unreadable, -⟩ | ⟨_, stopped, -⟩ := read_cases call.route sent
      · cases wasRead.symm.trans again
        exact same.symm.trans readable
      · cases wasRead.symm.trans unreadable
      · cases wasRead.symm.trans stopped
    obtain refused | ⟨data, -, misshapen⟩ := bind_eq_error.mp failed
    · obtain ⟨_, unwrapped, -⟩ | ⟨fault, unwrapped, inside, -⟩ | ⟨_, -, broken⟩ :=
        unwrap_cases call.route value
      · cases unwrapped.symm.trans refused
      · cases unwrapped.symm.trans refused
        exact .of_fault inside
      · cases reportable.symm.trans broken
    · obtain ⟨fault, shaped, rfl⟩ := mapError_eq_error.mp misshapen
      exact .of_fault (status?_of_shape shaped)

theorem blames_of_error (complete : site.complete = true)
    (readable : reaction.unreadable? remote = none)
    (failed : remote.answer site call reaction = .error failure) :
    call.Blames reaction.refusal? failure := by
  cases reaction with
  | response status body =>
    simp only [answer, complete, Bool.not_true, Bool.false_eq_true, if_false] at failed
    rw [Reaction.unreadable?] at readable
    rw [Reaction.refusal?]
    by_cases success : isSuccess status = true
    · rw [if_pos success] at failed readable
      rw [if_pos (isSuccess_iff.mp success)]
      exact blames_of_body readable failed
    · rw [if_neg success] at failed
      rw [if_neg (success ∘ isSuccess_iff.mpr)]
      cases failed
      exact blames_failed
  | timeout =>
    obtain ⟨s, timedOut, -⟩ | ⟨_, -, illegible⟩ := remote.timedOut_cases call.route
    · rw [answer, timedOut] at failed
      cases failed
      exact .of_fault rfl
    · cases illegible.symm.trans readable
  | unreachable =>
    cases failed
    exact .of_fault rfl

def hindrance? (remote : Remote) (call : Call) : Option Defect :=
  if remote.token.all isHeaderText then call.body.unsendable? else some .unencodable

theorem hindrance?_eq_none : remote.hindrance? call = none ↔
    remote.token.all isHeaderText = true ∧ call.body.unsendable? = none := by
  rw [hindrance?]
  split <;> rename_i plain <;> simp [plain]

theorem hindrance?_of_finite (finite : call.body.finite = true)
    (hindered : remote.hindrance? call = some defect) :
    defect.Stops false ∨ defect = .unencodable := by
  rw [hindrance?] at hindered
  split at hindered
  · exact Value.unsendable?_of_finite finite hindered
  · cases hindered
    exact .inr rfl

variable [Client]

def Locates (remote : Remote) (call : Call) : Prop :=
  ∃ site, Client.locate (remote.base ++ call.route.path) = .ok site ∧ site.host = .ok () ∧
    site.complete = true

theorem target_of_hindrance (located : remote.Locates call)
    (hindered : remote.hindrance? call = some defect) : remote.target call = .error defect := by
  obtain ⟨site, found, -, -⟩ := located
  rw [hindrance?] at hindered
  split at hindered
  · rename_i plain
    simp [target, found, plain, hindered, bind, Except.bind, throw, throwThe,
      MonadExceptOf.throw]
  · rename_i foreign
    cases hindered
    simp [target, found, foreign, bind, Except.bind, throw, throwThe, MonadExceptOf.throw]

end Remote

namespace Channel

variable [Limits] [Client] {channel : Channel} {call : Call}

def next (channel : Channel) : Reaction := channel.reactions.headD .unreachable

-- What a call does: it makes one request and ends as the reaction to it says, unless the request
-- cannot be written or the reaction cannot be read.
structure Responds (channel : Channel) (call : Call) : Prop where
  once : (channel.call call).2.sent = channel.sent ++ [channel.remote.exchange call]
  data (free : channel.remote.hindrance? call = none) (value : Value) :
    (channel.call call).1 = .ok value ↔ channel.next.Carries call value
  blamed (free : channel.remote.hindrance? call = none)
    (readable : channel.next.unreadable? channel.remote = none)
    (empty : ∀ value, ¬ channel.next.Carries call value) :
    ∃ failure, (channel.call call).1 = .error failure ∧
      call.Blames channel.next.refusal? failure
  unread (free : channel.remote.hindrance? call = none) (defect : Defect) :
    (channel.call call).1 = .error (.defect defect) ↔
      channel.next.unreadable? channel.remote = some defect
  hindered (defect : Defect) (hindered : channel.remote.hindrance? call = some defect) :
    (channel.call call).1 = .error (.defect defect) ∧
      (call.body.finite = true → defect.Stops false ∨ defect = .unencodable)

theorem call_sent (channel : Channel) (call : Call) :
    (channel.call call).2.sent = channel.sent ++ [channel.remote.exchange call] := by
  rw [Channel.call]
  repeat' split
  all_goals rfl

theorem call_of_target {site : Site} (found : channel.remote.target call = .ok site) :
    (channel.call call).1 = channel.remote.answer site call channel.next := by
  rw [Channel.call, found, next]
  cases channel.reactions <;> rfl

theorem call_responds (located : channel.remote.Locates call) : channel.Responds call := by
  have reached (free : channel.remote.hindrance? call = none) :
      ∃ site, channel.remote.target call = .ok site ∧ site.complete = true := by
    obtain ⟨site, found, known, complete⟩ := located
    obtain ⟨plain, sendable⟩ := Remote.hindrance?_eq_none.mp free
    exact Remote.exists_target ⟨site, found, plain, known, complete⟩ sendable
  constructor
  case once => exact call_sent channel call
  case data =>
    intro free value
    obtain ⟨site, found, complete⟩ := reached free
    rw [call_of_target found, Remote.answer_eq_ok_iff complete]
  case blamed =>
    intro free readable empty
    obtain ⟨site, found, complete⟩ := reached free
    rw [call_of_target found]
    cases given : channel.remote.answer site call channel.next with
    | ok value => exact absurd ((Remote.answer_eq_ok_iff complete).mp given) (empty value)
    | error failure => exact ⟨failure, rfl, Remote.blames_of_error complete readable given⟩
  case unread =>
    intro free defect
    obtain ⟨site, found, complete⟩ := reached free
    rw [call_eq_defect_iff, defect?, found]
    exact iff_of_eq (congrArg (· = some defect) (Reaction.defect?_of_complete complete))
  case hindered =>
    intro defect hindered
    refine ⟨?_, fun finite => Remote.hindrance?_of_finite finite hindered⟩
    rw [Channel.call, Remote.target_of_hindrance located hindered]

end Channel

namespace Channel

section

attribute [local instance] Limits.usual Address.client

def stored : List Reaction :=
  [.response 200 (.value (.obj [("success", .bool true), ("data", .obj [("id", .str "c1")])]))]

def naming (name : String) : Call := .create (.obj [("name", .str name)])

theorem carries_stored (name : String) :
    (Editor.faraway stored).next.Carries (naming name) (.obj [("id", .str "c1")]) :=
  ⟨200, _, [("success", .bool true), ("data", .obj [("id", .str "c1")])], rfl, by decide,
    by decide, rfl, rfl, nofun, _, rfl⟩

theorem plain_responds :
    (Editor.faraway stored).Responds (naming "Plan") ∧
      ((Editor.faraway stored).call (naming "Plan")).1 = .ok (.obj [("id", .str "c1")]) := by
  have responds : (Editor.faraway stored).Responds (naming "Plan") :=
    call_responds ⟨_, rfl, rfl, rfl⟩
  exact ⟨responds, (responds.data (by decide) _).mpr (carries_stored _)⟩

-- Half a surrogate pair has no encoding: no data comes, and the service is not blamed.
theorem call_halved {channel : Channel} {points : List Nat}
    (inside : ∀ point ∈ points, Text.IsPoint point) (halved : points.any Text.isHalf = true)
    (located : channel.remote.Locates (naming (String.ofList (points.flatMap Text.written))))
    (plain : channel.remote.token.all Remote.isHeaderText = true) :
    (channel.call (naming (String.ofList (points.flatMap Text.written)))).1 =
      .error (.defect .unencodable) := by
  have foreign := Text.encodable_ofList inside
  rw [halved] at foreign
  generalize String.ofList (points.flatMap Text.written) = name at foreign located ⊢
  have refused : (naming name).body.encodable = false := by
    show (Text.encodable _ && Text.encodable name && true) = false
    rw [foreign]
    rfl
  have hindered : channel.remote.hindrance? (naming name) = some .unencodable := by
    rw [Remote.hindrance?, if_pos plain, Value.unsendable?, refused]
    rfl
  rw [Channel.call, Remote.target_of_hindrance located hindered]

def half : String := String.ofList ([0xD800].flatMap Text.written)

theorem half_name_not_answered :
    (Editor.faraway stored).remote.Locates (naming half) ∧
      (naming half).body.finite = true ∧
      (Editor.faraway stored).next.Carries (naming half) (.obj [("id", .str "c1")]) ∧
      ((Editor.faraway stored).call (naming half)).1 = .error (.defect .unencodable) :=
  ⟨⟨_, rfl, rfl, rfl⟩, rfl, carries_stored _,
    call_halved (by simp [Text.IsPoint]) rfl ⟨_, rfl, rfl, rfl⟩ rfl⟩

end

end Channel

end Outreach
