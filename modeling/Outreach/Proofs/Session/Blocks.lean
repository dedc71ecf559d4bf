import Outreach.Proofs.Graph.Unchanged
import Outreach.Proofs.Limits
import Outreach.Session.Queue

set_option autoImplicit false

namespace Outreach

structure SaveBlock where
  number : Nat
  calls : List Call
  result : Option (Except Failure Receipt)

namespace SaveBlock

def notices (block : SaveBlock) : List Notice :=
  block.calls.map (.calls block.number) ++ (block.result.map (.ends block.number)).toList

def created? (block : SaveBlock) : Option String :=
  match block.result with
  | some (.ok receipt) => if receipt.created then some receipt.campaign else none
  | _ => none

inductive Shown : Option String → SaveBlock → Prop
  | refused {campaign : Option String} (number : Nat) (failure : Failure) :
    Shown campaign ⟨number, [], some (.error failure)⟩
  | create {result : Option (Except Failure Receipt)} (number : Nat) (payload : Value)
    (reports : ∀ receipt, result = some (.ok receipt) → receipt.created = true) :
    Shown none ⟨number, [.create payload], result⟩
  | update {campaign : String} {result : Option (Except Failure Receipt)} (number : Nat)
    (updates : Value) (fails : ∀ receipt, result ≠ some (.ok receipt)) :
    Shown (some campaign) ⟨number, [.update campaign updates], result⟩
  | replace {campaign : String} {result : Option (Except Failure Receipt)} (number : Nat)
    (updates steps : Value)
    (reports : ∀ receipt, result = some (.ok receipt) →
      receipt.created = false ∧ receipt.campaign = campaign) :
    Shown (some campaign)
      ⟨number, [.update campaign updates, .replaceSteps campaign steps], result⟩

theorem created?_eq_some {block : SaveBlock} {campaign : String} :
    block.created? = some campaign ↔
      ∃ receipt, block.result = some (.ok receipt) ∧ receipt.created = true ∧
        receipt.campaign = campaign := by
  rw [created?]
  split <;> simp_all

theorem Shown.created?_eq_none {campaign : String} {block : SaveBlock}
    (shown : Shown (some campaign) block) : block.created? = none := by
  rw [Option.eq_none_iff_forall_not_mem]
  intro other created
  obtain ⟨receipt, ended, isNew, -⟩ := created?_eq_some.mp created
  cases shown with
  | refused => cases ended
  | update number updates fails => exact fails receipt ended
  | replace number updates steps reports => simp [(reports receipt ended).1] at isNew

end SaveBlock

inductive Served : Option String → List SaveBlock → Option String → Prop
  | nil {campaign : Option String} : Served campaign [] campaign
  | cons {before after : Option String} {block : SaveBlock} {rest : List SaveBlock}
    (shown : block.Shown before) (later : Served (block.created?.or before) rest after) :
    Served before (block :: rest) after

namespace Served

variable {before between after : Option String} {blocks more : List SaveBlock} {block : SaveBlock}
  {campaign : String}

theorem append (served : Served before blocks between) (others : Served between more after) :
    Served before (blocks ++ more) after := by
  induction served with
  | nil => exact others
  | cons shown _ ih => exact .cons shown (ih others)

theorem concat (served : Served before blocks between) (shown : block.Shown between) :
    Served before (blocks ++ [block]) (block.created?.or between) :=
  served.append (.cons shown .nil)

theorem of_append (served : Served before (blocks ++ more) after) :
    ∃ between, Served before blocks between ∧ Served between more after := by
  induction blocks generalizing before with
  | nil => exact ⟨before, .nil, served⟩
  | cons block rest ih =>
    cases served with
    | cons shown later =>
      obtain ⟨between, front, back⟩ := ih later
      exact ⟨between, .cons shown front, back⟩

theorem shown (served : Served before blocks after) :
    ∀ block ∈ blocks, ∃ campaign, block.Shown campaign := by
  induction served with
  | nil => simp
  | cons shown _ ih => exact List.forall_mem_cons.mpr ⟨⟨_, shown⟩, ih⟩

theorem shown_of_some (served : Served (some campaign) blocks after) :
    ∀ block ∈ blocks, block.Shown (some campaign) := by
  induction blocks with
  | nil => simp
  | cons block rest ih =>
    cases served with
    | cons shown later =>
      rw [shown.created?_eq_none, Option.none_or] at later
      exact List.forall_mem_cons.mpr ⟨shown, ih later⟩

theorem created_length_le_one (served : Served none blocks after) :
    (blocks.filterMap SaveBlock.created?).length ≤ 1 := by
  induction blocks with
  | nil => simp
  | cons block rest ih =>
    cases served with
    | cons shown later =>
      cases created : block.created? with
      | none =>
        rw [created, Option.none_or] at later
        simpa [created] using ih later
      | some campaign =>
        rw [created, Option.some_or] at later
        have nothing : rest.filterMap SaveBlock.created? = [] :=
          List.filterMap_eq_nil_iff.mpr fun other member =>
            (later.shown_of_some other member).created?_eq_none
        simp [created, nothing]

theorem shown_later (served : Served before (blocks ++ block :: more) after)
    (created : block.created? = some campaign) : ∀ other ∈ more, other.Shown (some campaign) := by
  obtain ⟨between, -, rest⟩ := served.of_append
  cases rest with
  | cons _ later =>
    rw [created, Option.some_or] at later
    exact later.shown_of_some

end Served

inductive Holds : Option String → Option (Nat × Save) → List SaveBlock → Prop
  | free {campaign : Option String} : Holds campaign none []
  | create {number : Nat} {save : Save} (stage : save.stage = .creating) :
    Holds none (some (number, save)) [⟨number, [save.call], none⟩]
  | update {campaign : String} {number : Nat} {save : Save}
    (stage : save.stage = .renaming campaign) :
    Holds (some campaign) (some (number, save)) [⟨number, [save.call], none⟩]
  | replace {campaign : String} {number : Nat} {save : Save} (updates : Value)
    (stage : save.stage = .replacing campaign) :
    Holds (some campaign) (some (number, save))
      [⟨number, [.update campaign updates, save.call], none⟩]

theorem Save.call_creating {save : Save} (stage : save.stage = .creating) :
    ∃ payload, save.call = .create payload := by
  simp [call, stage]

theorem Save.call_renaming {save : Save} {campaign : String}
    (stage : save.stage = .renaming campaign) : ∃ updates, save.call = .update campaign updates := by
  simp [call, stage]

theorem Save.call_replacing {save : Save} {campaign : String}
    (stage : save.stage = .replacing campaign) :
    ∃ steps, save.call = .replaceSteps campaign steps := by
  simp [call, stage]

theorem Holds.nothing {campaign : Option String} {current : List SaveBlock}
    (holds : Holds campaign none current) : current = [] := by
  cases holds
  rfl

theorem Holds.exists_calls {campaign : Option String} {number : Nat} {save : Save}
    {current : List SaveBlock} (holds : Holds campaign (some (number, save)) current) :
    ∃ calls, current = [⟨number, calls, none⟩] ∧
      ∀ result, (∀ receipt, result ≠ some (.ok receipt)) →
        SaveBlock.Shown campaign ⟨number, calls, result⟩ := by
  cases holds with
  | create stage =>
    obtain ⟨payload, called⟩ := save.call_creating stage
    exact ⟨_, rfl, fun _ fails => called ▸ .create number payload (by simp [fails])⟩
  | update stage =>
    obtain ⟨updates, called⟩ := save.call_renaming stage
    exact ⟨_, rfl, fun _ fails => called ▸ .update number updates fails⟩
  | replace updates stage =>
    obtain ⟨steps, called⟩ := save.call_replacing stage
    exact ⟨_, rfl, fun _ fails => called ▸ .replace number updates steps (by simp [fails])⟩

theorem Holds.served {campaign : Option String} {holder : Option (Nat × Save)}
    {current : List SaveBlock} (holds : Holds campaign holder current) :
    Served campaign current campaign := by
  cases holder with
  | none => exact holds.nothing ▸ .nil
  | some held =>
    obtain ⟨calls, rfl, shown⟩ := holds.exists_calls
    exact .cons (shown none (by simp)) .nil

theorem Holds.dropLast {campaign : Option String} {holder : Option (Nat × Save)}
    {current : List SaveBlock} (holds : Holds campaign holder current) : current.dropLast = [] := by
  cases holds <;> rfl

theorem Save.begin_cases [Limits] (graph : Graph) :
    (∃ failure, Save.begin graph = .over (.error failure)) ∨
      ∃ save, Save.begin graph = .waiting save ∧
        (graph.campaign = none ∧ save.stage = .creating ∨
          ∃ campaign, graph.campaign = some campaign ∧ save.stage = .renaming campaign) := by
  rw [Save.begin]
  split
  · exact .inl ⟨_, rfl⟩
  · refine .inr ⟨_, rfl, ?_⟩
    cases graph.campaign with
    | none => exact .inl ⟨rfl, rfl⟩
    | some campaign => exact .inr ⟨campaign, rfl, rfl⟩

def QueueEvent.arrival? : QueueEvent → Option Nat
  | .enter number => some number
  | _ => none

-- The blocks behind all that a queue has shown so far: those of saves that ended, and that of the
-- save that holds the session.
structure Recorded (queue : SaveQueue) (notices : List Notice) (arrivals : List Nat)
    (ended current : List SaveBlock) : Prop where
  served : Served none ended queue.session.graph.campaign
  settled : ∀ block ∈ ended, block.result.isSome
  holds : Holds queue.session.graph.campaign queue.holder current
  shown : notices = (ended ++ current).flatMap SaveBlock.notices
  order : arrivals = (ended ++ current).map (·.number) ++ queue.waiting

namespace Recorded

variable {queue : SaveQueue} {notices : List Notice} {arrivals : List Nat}
  {ended current : List SaveBlock}

theorem idle {session : Session} (fresh : session.graph.campaign = none) :
    Recorded (.idle session) [] [] [] [] where
  served := by
    rw [SaveQueue.idle, fresh]
    exact .nil
  settled := by simp
  holds := .free
  shown := rfl
  order := rfl

theorem close {number : Nat} {calls : List Call} {result : Except Failure Receipt}
    {session : Session} (recorded : Recorded queue notices arrivals ended [⟨number, calls, none⟩])
    (shown : SaveBlock.Shown queue.session.graph.campaign ⟨number, calls, some result⟩)
    (after : session.graph.campaign =
      (SaveBlock.created? ⟨number, calls, some result⟩).or queue.session.graph.campaign) :
    Recorded { queue with session, holder := none } (notices ++ [.ends number result]) arrivals
      (ended ++ [⟨number, calls, some result⟩]) [] where
  served := after ▸ recorded.served.concat shown
  settled := by
    intro block member
    obtain before | last := List.mem_append.mp member
    · exact recorded.settled block before
    · rw [List.mem_singleton.mp last, Option.isSome_some]
  holds := .free
  shown := by
    rw [recorded.shown]
    simp [SaveBlock.notices]
  order := by
    rw [recorded.order]
    simp

theorem proceed_begin [Limits] {number : Nat}
    (served : Served none ended queue.session.graph.campaign)
    (settled : ∀ block ∈ ended, block.result.isSome)
    (shown : notices = ended.flatMap SaveBlock.notices)
    (order : arrivals = ended.map (·.number) ++ number :: queue.waiting) :
    ∃ ended current,
      Recorded (queue.proceed number (Save.begin queue.session.graph)).1
        (notices ++ (queue.proceed number (Save.begin queue.session.graph)).2.toList) arrivals
        ended current := by
  obtain ⟨failure, refused⟩ | ⟨save, begun, stage⟩ := Save.begin_cases queue.session.graph
  · rw [refused]
    refine ⟨ended ++ [⟨number, [], some (.error failure)⟩], [], ?_⟩
    exact {
      served := served.concat (.refused number failure)
      settled := by
        simpa [or_imp, forall_and] using settled
      holds := .free
      shown := by simp [shown, SaveQueue.proceed, SaveBlock.notices]
      order := by simp [order, SaveQueue.proceed] }
  · rw [begun]
    refine ⟨ended, [⟨number, [save.call], none⟩], ?_⟩
    exact {
      served := served
      settled := settled
      holds := by
        simp only [SaveQueue.proceed]
        obtain ⟨fresh, stage⟩ | ⟨campaign, known, stage⟩ := stage
        · rw [fresh]
          exact .create stage
        · rw [known]
          exact .update stage
      shown := by simp [shown, SaveQueue.proceed, SaveBlock.notices]
      order := by simp [order, SaveQueue.proceed] }

theorem deliver_error {number : Nat} {save : Save}
    (recorded : Recorded queue notices arrivals ended current) (failure : Failure)
    (held : queue.holder = some (number, save)) :
    ∃ ended,
      Recorded { queue with holder := none } (notices ++ [.ends number (.error failure)]) arrivals
        ended [] := by
  obtain ⟨calls, rfl, shown⟩ := Holds.exists_calls (held ▸ recorded.holds)
  exact ⟨_, recorded.close (shown _ (by simp)) rfl⟩

theorem advance {number : Nat} {save : Save} {campaign : String}
    (recorded : Recorded queue notices arrivals ended [⟨number, [save.call], none⟩])
    (known : queue.session.graph.campaign = some campaign)
    (stage : save.stage = .renaming campaign) :
    ∃ current,
      Recorded { queue with holder := some (number, { save with stage := .replacing campaign }) }
        (notices ++ [.calls number { save with stage := .replacing campaign }.call]) arrivals ended
        current := by
  obtain ⟨updates, called⟩ := save.call_renaming stage
  let next : Save := { save with stage := .replacing campaign }
  exact ⟨[⟨number, [.update campaign updates, next.call], none⟩], {
    served := recorded.served
    settled := recorded.settled
    holds := known ▸ .replace updates rfl
    shown := by simp [recorded.shown, SaveBlock.notices, called, next]
    order := by simp [recorded.order] }⟩

variable [Limits]

theorem deliver_ok {number : Nat} {save : Save}
    (recorded : Recorded queue notices arrivals ended current)
    (held : queue.holder = some (number, save)) (reply : Value) :
    ∃ ended current,
      Recorded (queue.step (.deliver (.ok reply))).1
        (notices ++ (queue.step (.deliver (.ok reply))).2.toList) arrivals ended current := by
  simp only [SaveQueue.step, held]
  have holds := recorded.holds
  -- The campaign of the graph is the one that the stage of the save was chosen for.
  generalize known : queue.session.graph.campaign = campaign at holds
  rw [held] at holds
  cases holds with
  | create stage =>
    simp only [Save.receive, stage]
    cases found : Save.campaignId reply with
    | error failure =>
      obtain ⟨ended, closed⟩ := recorded.deliver_error failure held
      exact ⟨ended, [], closed⟩
    | ok campaign =>
      obtain ⟨payload, called⟩ := save.call_creating stage
      refine ⟨_, [], recorded.close ?_ ?_⟩
      · rw [known, called]
        exact .create number payload fun _ ended => by cases ended; rfl
      · rw [known]
        rfl
  | update stage =>
    simp only [Save.receive, stage]
    obtain ⟨current, advanced⟩ := recorded.advance known stage
    exact ⟨ended, current, advanced⟩
  | replace updates stage =>
    simp only [Save.receive, stage]
    obtain ⟨steps, called⟩ := save.call_replacing stage
    refine ⟨_, [], recorded.close ?_ ?_⟩
    · rw [known, called]
      exact .replace number updates steps fun _ ended => by cases ended; exact ⟨rfl, rfl⟩
    · rfl

theorem deliver (recorded : Recorded queue notices arrivals ended current)
    (answer : Except Failure Value) :
    ∃ ended current,
      Recorded (queue.step (.deliver answer)).1
        (notices ++ (queue.step (.deliver answer)).2.toList) arrivals ended current := by
  cases held : queue.holder with
  | none => exact ⟨ended, current, by simpa [SaveQueue.step, held] using recorded⟩
  | some holder =>
    obtain ⟨number, save⟩ := holder
    cases answer with
    | error failure =>
      obtain ⟨ended, closed⟩ := recorded.deliver_error failure held
      simp only [SaveQueue.step, held]
      exact ⟨ended, [], closed⟩
    | ok reply => exact recorded.deliver_ok held reply

theorem step (recorded : Recorded queue notices arrivals ended current) (event : QueueEvent) :
    ∃ ended current,
      Recorded (queue.step event).1 (notices ++ (queue.step event).2.toList)
        (arrivals ++ event.arrival?.toList) ended current := by
  cases event with
  | enter number =>
    rw [SaveQueue.step]
    split
    · rename_i free
      obtain ⟨unheld, unawaited⟩ : queue.holder = none ∧ queue.waiting = [] := by
        simpa [SaveQueue.isFree] using free
      obtain rfl := Holds.nothing (unheld ▸ recorded.holds)
      apply proceed_begin recorded.served recorded.settled
      · simpa using recorded.shown
      · simp [QueueEvent.arrival?, recorded.order, unawaited]
    · exact ⟨ended, current, {
        served := recorded.served
        settled := recorded.settled
        holds := recorded.holds
        shown := by simpa using recorded.shown
        order := by simp [QueueEvent.arrival?, recorded.order] }⟩
  | grant =>
    rw [SaveQueue.step]
    split
    · rename_i number rest unheld waits
      obtain rfl := Holds.nothing (unheld ▸ recorded.holds)
      refine proceed_begin ?_ recorded.settled ?_ ?_
      · exact recorded.served
      · simpa using recorded.shown
      · simp [QueueEvent.arrival?, recorded.order, waits]
    · exact ⟨ended, current, by simpa [QueueEvent.arrival?] using recorded⟩
  | deliver answer => simpa [QueueEvent.arrival?] using recorded.deliver answer
  | edit command now supply =>
    -- No command of the editor names a campaign, so the stages of all saves stay right.
    have same : (queue.session.graph.run command now supply).graph.campaign =
        queue.session.graph.campaign := Graph.run_campaign command
    exact ⟨ended, current, {
      served := same ▸ recorded.served
      settled := recorded.settled
      holds := same ▸ recorded.holds
      shown := by simpa [SaveQueue.step] using recorded.shown
      order := by simpa [SaveQueue.step, QueueEvent.arrival?] using recorded.order }⟩

theorem run (recorded : Recorded queue notices arrivals ended current) (events : List QueueEvent) :
    ∃ ended current,
      Recorded (queue.run events).1 (notices ++ (queue.run events).2)
        (arrivals ++ events.filterMap QueueEvent.arrival?) ended current := by
  induction events generalizing queue notices arrivals ended current with
  | nil => exact ⟨ended, current, by simpa [SaveQueue.run] using recorded⟩
  | cons event rest ih =>
    obtain ⟨ended, current, stepped⟩ := recorded.step event
    obtain ⟨ended, current, ran⟩ := ih stepped
    refine ⟨ended, current, ?_⟩
    cases arrived : event.arrival? <;>
      simpa [SaveQueue.run, List.append_assoc, List.filterMap_cons, arrived] using ran

end Recorded

theorem saves_in_blocks [Limits] (session : Session) (fresh : session.graph.campaign = none)
    (events : List QueueEvent) :
    ∃ blocks : List SaveBlock,
      ((SaveQueue.idle session).run events).2 = blocks.flatMap SaveBlock.notices ∧
      blocks.map (·.number) ++ ((SaveQueue.idle session).run events).1.waiting =
        events.filterMap QueueEvent.arrival? ∧
      (∀ block ∈ blocks.dropLast, block.result.isSome) ∧
      (∀ block ∈ blocks, ∃ campaign, block.Shown campaign) ∧
      (blocks.filterMap SaveBlock.created?).length ≤ 1 ∧
      ∀ earlier block later campaign, blocks = earlier ++ block :: later →
        block.created? = some campaign → ∀ other ∈ later, other.Shown (some campaign) := by
  obtain ⟨ended, current, recorded⟩ := (Recorded.idle fresh).run events
  have served := recorded.served.append recorded.holds.served
  refine ⟨ended ++ current, recorded.shown, recorded.order.symm, ?_, served.shown,
    served.created_length_le_one, ?_⟩
  · -- Only the last block can be that of a save which still holds the session.
    intro block member
    apply recorded.settled block
    by_cases idle : current = []
    · rw [idle, List.append_nil] at member
      exact List.mem_of_mem_dropLast member
    · rwa [List.dropLast_append_of_ne_nil idle, recorded.holds.dropLast, List.append_nil] at member
  · rintro earlier block later campaign split created
    exact (split ▸ served).shown_later created

def drafted : Session :=
  { id := "sess_x"
    graph := { id := "wf_x", name := "Draft", nodes := [Node.bare "visit" .linkedinVisit]
               edges := [], selected := none, campaign := none, created := 0, updated := 0 }
    opened := 0, saved := none }

def contended : List QueueEvent :=
  [.enter 0, .enter 1, .deliver (.error (.service "timed out" none)), .enter 2, .grant,
   .edit (.rename (some "Final")) 1 Supply.initial,
   .deliver (.ok (.obj [("id", .str "camp_1")])), .grant, .deliver (.ok .null), .deliver (.ok .null)]

section

attribute [local instance] Limits.usual

theorem contended_blocks : drafted.graph.campaign = none ∧
    ((SaveQueue.idle drafted).run contended).2.length = 7 ∧
    ((SaveQueue.idle drafted).run contended).1.session.graph.campaign = some "camp_1" ∧
    ∃ blocks : List SaveBlock,
      ((SaveQueue.idle drafted).run contended).2 = blocks.flatMap SaveBlock.notices ∧
      blocks.map (·.number) ++ ((SaveQueue.idle drafted).run contended).1.waiting =
        contended.filterMap QueueEvent.arrival? ∧
      (∀ block ∈ blocks.dropLast, block.result.isSome) ∧
      (∀ block ∈ blocks, ∃ campaign, block.Shown campaign) ∧
      (blocks.filterMap SaveBlock.created?).length ≤ 1 ∧
      ∀ earlier block later campaign, blocks = earlier ++ block :: later →
        block.created? = some campaign → ∀ other ∈ later, other.Shown (some campaign) :=
  ⟨rfl, rfl, rfl, saves_in_blocks drafted rfl contended⟩

end

end Outreach
