import Outreach.Proofs.Session.Blocks

set_option autoImplicit false

namespace Outreach

def QueueEvent.isAside : QueueEvent → Bool
  | .deliver _ | .edit .. => true
  | .enter _ | .grant => false

def QueueEvent.answer? : QueueEvent → Option (Except Failure Value)
  | .deliver answer => some answer
  | _ => none

def answersIn (events : List QueueEvent) : List (Except Failure Value) :=
  events.filterMap QueueEvent.answer?

@[simp] theorem answersIn_concat_deliver (events : List QueueEvent)
    (answer : Except Failure Value) :
    answersIn (events ++ [.deliver answer]) = answersIn events ++ [answer] := by
  simp [answersIn, QueueEvent.answer?]

@[simp] theorem answersIn_concat_edit (events : List QueueEvent) (command : Command) (now : Nat)
    (supply : Supply) : answersIn (events ++ [.edit command now supply]) = answersIn events := by
  simp [answersIn, QueueEvent.answer?]

@[simp] theorem answersIn_map_deliver (answers : List (Except Failure Value)) :
    answersIn (answers.map .deliver) = answers := by
  induction answers with
  | nil => rfl
  | cons answer rest ih => exact congrArg (answer :: ·) ih

namespace Graph

def editedBy [Limits] (graph : Graph) : List QueueEvent → Graph
  | [] => graph
  | .edit command now supply :: rest => (graph.run command now supply).graph.editedBy rest
  | _ :: rest => graph.editedBy rest

variable {graph : Graph} {events : List QueueEvent}

variable [Limits]

theorem editedBy_append (more : List QueueEvent) :
    graph.editedBy (events ++ more) = (graph.editedBy events).editedBy more := by
  induction events generalizing graph with
  | nil => rfl
  | cons event rest ih => cases event <;> exact ih

theorem editedBy_concat_deliver (graph : Graph) (events : List QueueEvent)
    (answer : Except Failure Value) :
    graph.editedBy (events ++ [.deliver answer]) = graph.editedBy events := by
  rw [editedBy_append]
  rfl

theorem editedBy_campaign : (graph.editedBy events).campaign = graph.campaign := by
  induction events generalizing graph with
  | nil => rfl
  | cons event rest ih =>
    cases event with
    | edit command now supply => exact ih.trans (run_campaign command)
    | enter number => exact ih
    | grant => exact ih
    | deliver answer => exact ih

theorem editedBy_answers (answers : List (Except Failure Value)) :
    graph.editedBy (answers.map .deliver) = graph := by
  induction answers with
  | nil => rfl
  | cons answer rest ih => exact ih

end Graph

def Failure.isRejection : Failure → Bool
  | .rejected .. => true
  | _ => false

def Session.stored (session : Session) (campaign : String) : Session :=
  { session with
    graph := { session.graph with campaign := some campaign }
    saved := some session.graph.updated }

@[simp] theorem Session.id_stored (session : Session) (campaign : String) :
    (session.stored campaign).id = session.id := rfl

def SaveStage.campaign? : SaveStage → Option String
  | .creating => none
  | .renaming campaign | .replacing campaign => some campaign

namespace Save

def first (graph : Graph) (steps : List CompiledStep) : Save :=
  { stage := match graph.campaign with
      | none => .creating
      | some campaign => .renaming campaign
    name := graph.name
    steps }

def remaining (save : Save) : List Call :=
  match save.stage with
  | .renaming campaign => [save.call, { save with stage := .replacing campaign }.call]
  | .creating | .replacing _ => [save.call]

theorem remaining_length (save : Save) :
    1 ≤ save.remaining.length ∧ save.remaining.length ≤ 2 := by
  rw [remaining]
  split <;> simp

theorem begin_of_ok [Limits] {graph : Graph} {compilation : Compilation}
    (compiled : graph.compile = .ok compilation) :
    begin graph = .waiting (first graph compilation.steps) := by
  rw [begin, compiled]
  rfl

theorem begin_of_error [Limits] {graph : Graph} {failure : Failure}
    (failed : graph.compile = .error failure) : begin graph = .over (.error failure) := by
  rw [begin, failed]

theorem first_campaign (graph : Graph) (steps : List CompiledStep) :
    (first graph steps).stage.campaign? = graph.campaign := by
  rw [first]
  cases graph.campaign <;> rfl

theorem campaignId_error {reply : Value} {failure : Failure}
    (missing : campaignId reply = .error failure) : failure.isRejection = false := by
  unfold campaignId at missing
  repeat' split at missing
  all_goals simp_all [ServiceFault.failure, Failure.isRejection]
  all_goals exact missing ▸ rfl

theorem campaignId_ok {reply : Value} {campaign : String}
    (named : campaignId reply = .ok campaign) :
    campaign ≠ "" ∧
      ∃ fields : Fields, reply = .obj fields ∧ fields.get? "id" = some (.str campaign) := by
  cases reply with
  | obj fields =>
    rw [campaignId] at named
    split at named
    · rename_i id given
      split at named
      · cases named
      · rename_i shown
        cases named
        exact ⟨by simpa using shown, fields, rfl, given⟩
    · cases named
  | _ => cases named

inductive Named (save : Save) (answer : Except Failure Value) : Receipt → Prop
  | new {reply : Value} {campaign : String} (stage : save.stage = .creating)
    (answered : answer = .ok reply) (named : campaignId reply = .ok campaign) :
    Named save answer { campaign, created := true, steps := save.steps }
  | known {reply : Value} {campaign : String} (stage : save.stage = .replacing campaign)
    (answered : answer = .ok reply) :
    Named save answer { campaign, created := false, steps := save.steps }

theorem Named.steps {save : Save} {answer : Except Failure Value} {receipt : Receipt}
    (named : save.Named answer receipt) : receipt.steps = save.steps := by
  cases named <;> rfl

theorem Named.remaining {save : Save} {answer : Except Failure Value} {receipt : Receipt}
    (named : save.Named answer receipt) : save.remaining = [save.call] := by
  cases named with
  | new stage => simp [Save.remaining, stage]
  | known stage => simp [Save.remaining, stage]

inductive Received (save : Save) (session : Session) (answer : Except Failure Value) :
    Session × SaveProgress → Prop
  | failed {failure : Failure} (cause : answer = .error failure ∨ failure.isRejection = false) :
    Received save session answer (session, .over (.error failure))
  | advanced {reply : Value} {campaign : String} (stage : save.stage = .renaming campaign)
    (answered : answer = .ok reply) :
    Received save session answer (session, .waiting { save with stage := .replacing campaign })
  | stored {receipt : Receipt} (named : save.Named answer receipt) :
    Received save session answer (session.stored receipt.campaign, .over (.ok receipt))

theorem received (save : Save) (session : Session) (answer : Except Failure Value)
    (suits : save.stage.campaign? = session.graph.campaign) :
    save.Received session answer (save.receive session answer) := by
  cases answer with
  | error failure => exact .failed (.inl rfl)
  | ok reply =>
    rw [receive]
    split
    · rename_i stage
      cases named : campaignId reply with
      | error failure => exact .failed (.inr (campaignId_error named))
      | ok campaign => exact .stored (.new stage rfl named)
    · rename_i campaign stage
      exact .advanced stage rfl
    · rename_i campaign stage
      -- The graph has this campaign already.
      have same : mark session = session.stored campaign := by
        rw [stage, SaveStage.campaign?] at suits
        simp [mark, Session.stored, suits]
      rw [same]
      exact .stored (.known stage rfl)

end Save

def Receipt.From (receipt : Receipt) (graph : Graph) (answers : List (Except Failure Value)) :
    Prop :=
  graph.campaign = some receipt.campaign ∧ receipt.created = false ∨
    graph.campaign = none ∧ receipt.created = true ∧
      ∃ reply, answers.head? = some (.ok reply) ∧ Save.campaignId reply = .ok receipt.campaign

theorem Save.Named.source {save : Save} {graph : Graph} {steps : List CompiledStep}
    {made : List Call} {earlier : List (Except Failure Value)} {answer : Except Failure Value}
    {receipt : Receipt} (named : save.Named answer receipt)
    (suits : save.stage.campaign? = graph.campaign)
    (calls : made ++ [save.call] = (first graph steps).remaining)
    (answered : earlier.length = made.length) : receipt.From graph (earlier ++ [answer]) := by
  cases named with
  | new stage answered' given =>
    have fresh : graph.campaign = none := by rw [← suits, stage]; rfl
    have one := congrArg List.length calls
    simp [first, Save.remaining, fresh] at one
    obtain rfl : earlier = [] := List.length_eq_zero_iff.mp (answered.trans (by simp [one]))
    exact .inr ⟨fresh, rfl, _, by simp [answered'], given⟩
  | known stage => exact .inl ⟨by rw [← suits, stage]; rfl, rfl⟩

-- How far the save that began on a session has come after the events.
inductive Course [Limits] (session : Session) (number : Nat) (events : List QueueEvent) :
    SaveQueue → List Notice → Prop
  | refused {failure : Failure} (fails : session.graph.compile = .error failure) :
    Course session number events
      { session := { session with graph := session.graph.editedBy events }
        holder := none, waiting := [] }
      [.ends number (.error failure)]
  | waiting {compilation : Compilation} {save : Save} {made : List Call}
    (compiled : session.graph.compile = .ok compilation)
    (suits : save.stage.campaign? = session.graph.campaign)
    (steps : save.steps = compilation.steps)
    (calls : made ++ save.remaining = (Save.first session.graph compilation.steps).remaining)
    (answered : (answersIn events).length = made.length) :
    Course session number events
      { session := { session with graph := session.graph.editedBy events }
        holder := some (number, save), waiting := [] }
      ((made ++ [save.call]).map (.calls number))
  | failed {compilation : Compilation} {failure : Failure} {made : List Call}
    (compiled : session.graph.compile = .ok compilation)
    (cause : .error failure ∈ answersIn events ∨ failure.isRejection = false) :
    Course session number events
      { session := { session with graph := session.graph.editedBy events }
        holder := none, waiting := [] }
      (made.map (.calls number) ++ [.ends number (.error failure)])
  | stored {compilation : Compilation} {receipt : Receipt} {before after : List QueueEvent}
    {answer : Except Failure Value}
    (compiled : session.graph.compile = .ok compilation)
    (steps : receipt.steps = compilation.steps)
    (last : events = before ++ .deliver answer :: after)
    (source : receipt.From session.graph (answersIn events)) :
    Course session number events
      { session := { session with
          graph := { session.graph.editedBy before with
            campaign := some receipt.campaign }.editedBy after
          saved := some (session.graph.editedBy before).updated }
        holder := none, waiting := [] }
      ((Save.first session.graph compilation.steps).remaining.map (.calls number) ++
        [.ends number (.ok receipt)])

namespace Course

variable {session : Session} {number : Nat} {events : List QueueEvent} {queue : SaveQueue}
  {notices : List Notice}

variable [Limits]

theorem enter : Course session number [] ((SaveQueue.idle session).step (.enter number)).1
    ((SaveQueue.idle session).step (.enter number)).2.toList := by
  have free : (SaveQueue.idle session).isFree = true := rfl
  rw [SaveQueue.step, if_pos free]
  cases compiled : session.graph.compile with
  | error failure =>
    rw [SaveQueue.idle, Save.begin_of_error compiled]
    exact .refused compiled
  | ok compilation =>
    rw [SaveQueue.idle, Save.begin_of_ok compiled]
    exact .waiting compiled (Save.first_campaign ..) rfl (List.nil_append _) rfl

theorem edit (course : Course session number events queue notices) (command : Command)
    (now : Nat) (supply : Supply) :
    Course session number (events ++ [.edit command now supply])
      (queue.step (.edit command now supply)).1 notices := by
  have edited : ((session.graph.editedBy events).run command now supply).graph =
      session.graph.editedBy (events ++ [.edit command now supply]) := by
    rw [Graph.editedBy_append]
    rfl
  cases course with
  | refused fails =>
    simp only [SaveQueue.step, edited]
    exact .refused fails
  | waiting compiled suits steps calls answered =>
    simp only [SaveQueue.step, edited]
    exact .waiting compiled suits steps calls (by simpa using answered)
  | failed compiled cause =>
    simp only [SaveQueue.step, edited]
    exact .failed compiled (by simpa using cause)
  | stored compiled steps last source =>
    rename_i before after answer
    have later : events ++ [.edit command now supply] =
        before ++ .deliver answer :: (after ++ [.edit command now supply]) := by
      simp [last]
    have course : Course session number (events ++ [.edit command now supply]) _ _ :=
      .stored compiled steps later (by simpa using source)
    rwa [Graph.editedBy_append] at course

theorem receive {compilation : Compilation} {save : Save} {made : List Call}
    (compiled : session.graph.compile = .ok compilation)
    (suits : save.stage.campaign? = session.graph.campaign)
    (steps : save.steps = compilation.steps)
    (calls : made ++ save.remaining = (Save.first session.graph compilation.steps).remaining)
    (answered : (answersIn events).length = made.length) {answer : Except Failure Value}
    {result : Session × SaveProgress}
    (received : save.Received { session with graph := session.graph.editedBy events } answer
      result) :
    Course session number (events ++ [.deliver answer])
      (SaveQueue.proceed { session := result.1, holder := some (number, save), waiting := [] }
        number result.2).1
      ((made ++ [save.call]).map (.calls number) ++
        (SaveQueue.proceed { session := result.1, holder := some (number, save), waiting := [] }
          number result.2).2.toList) := by
  have edited := session.graph.editedBy_concat_deliver events answer
  cases received with
  | failed cause =>
    simp only [SaveQueue.proceed, ← edited]
    exact .failed compiled (cause.imp_left fun same => by simp [same])
  | advanced stage delivered =>
    rename_i reply campaign
    let next : Save := { save with stage := .replacing campaign }
    have both : save.remaining = [save.call, next.call] := by
      simp [Save.remaining, stage, next]
    have suitsNext : next.stage.campaign? = session.graph.campaign := by
      rw [← suits, stage]
      rfl
    have callsNext : made ++ [save.call] ++ next.remaining =
        (Save.first session.graph compilation.steps).remaining := by
      rw [← calls, both]
      simp [Save.remaining, next]
    have course : Course session number (events ++ [.deliver answer]) _ _ :=
      .waiting compiled suitsNext steps callsNext (by simp [answered])
    simpa [SaveQueue.proceed, edited] using course
  | stored named =>
    rename_i receipt
    rw [named.remaining] at calls
    have source : receipt.From session.graph (answersIn (events ++ [.deliver answer])) := by
      simpa using named.source suits calls answered
    have course : Course session number (events ++ [.deliver answer]) _ _ :=
      .stored compiled (named.steps.trans steps) rfl source
    rw [← calls] at course
    simpa [SaveQueue.proceed, Session.stored, Graph.editedBy] using course

theorem deliver (course : Course session number events queue notices)
    (answer : Except Failure Value) :
    Course session number (events ++ [.deliver answer]) (queue.step (.deliver answer)).1
      (notices ++ (queue.step (.deliver answer)).2.toList) := by
  have edited := session.graph.editedBy_concat_deliver events answer
  cases course with
  | refused fails =>
    simp only [SaveQueue.step, ← edited]
    exact .refused fails
  | waiting compiled suits steps calls answered =>
    have same : session.graph.campaign =
        (session.graph.editedBy events).campaign := Graph.editedBy_campaign.symm
    exact receive compiled suits steps calls answered (Save.received _ _ answer (suits.trans same))
  | failed compiled cause =>
    simp only [SaveQueue.step, ← edited, Option.toList_none, List.append_nil]
    exact .failed compiled (cause.imp_left fun member => by simp [member])
  | stored compiled steps last source =>
    rename_i compilation receipt before after first
    have later : events ++ [.deliver answer] =
        before ++ .deliver first :: (after ++ [.deliver answer]) := by
      simp [last]
    have source : receipt.From session.graph (answersIn (events ++ [.deliver answer])) := by
      refine source.imp_right ?_
      rintro ⟨fresh, created, reply, head, given⟩
      exact ⟨fresh, created, reply, by simp [head], given⟩
    have course : Course session number (events ++ [.deliver answer]) _ _ :=
      .stored compiled steps later source
    rw [Graph.editedBy_concat_deliver] at course
    simpa [SaveQueue.step] using course

theorem step (course : Course session number events queue notices) {event : QueueEvent}
    (aside : event.isAside = true) :
    Course session number (events ++ [event]) (queue.step event).1
      (notices ++ (queue.step event).2.toList) := by
  cases event with
  | deliver answer => exact course.deliver answer
  | edit command now supply => simpa [SaveQueue.step] using course.edit command now supply
  | enter number => cases aside
  | grant => cases aside

theorem run (course : Course session number events queue notices) {more : List QueueEvent}
    (aside : ∀ event ∈ more, event.isAside = true) :
    Course session number (events ++ more) (queue.run more).1 (notices ++ (queue.run more).2) := by
  induction more generalizing events queue notices with
  | nil => simpa [SaveQueue.run] using course
  | cons event rest ih =>
    obtain ⟨first, later⟩ := List.forall_mem_cons.mp aside
    have ran := ih (course.step first) later
    simpa [SaveQueue.run] using ran

theorem of_aside (aside : ∀ event ∈ events, event.isAside = true) :
    Course session number events ((SaveQueue.idle session).run (.enter number :: events)).1
      ((SaveQueue.idle session).run (.enter number :: events)).2 := by
  have begun : Course session number [] _ _ := enter
  simpa [SaveQueue.run] using begun.run aside

end Course

end Outreach
