import Outreach.Session.Editor

set_option autoImplicit false

namespace Outreach

structure SaveQueue where
  session : Session
  holder : Option (Nat × Save)
  waiting : List Nat

inductive Notice where
  | calls (save : Nat) (call : Call)
  | ends (save : Nat) (result : Except Failure Receipt)

inductive QueueEvent where
  | enter (save : Nat)
  | grant
  | deliver (answer : Except Failure Value)
  | edit (command : Command) (now : Nat) (supply : Supply)

namespace SaveQueue

variable [Limits]

def idle (session : Session) : SaveQueue := { session, holder := none, waiting := [] }

def isFree (queue : SaveQueue) : Bool := queue.holder.isNone && queue.waiting.isEmpty

def proceed (queue : SaveQueue) (number : Nat) : SaveProgress → SaveQueue × Option Notice
  | .waiting save => ({ queue with holder := some (number, save) }, some (.calls number save.call))
  | .over result => ({ queue with holder := none }, some (.ends number result))

def step (queue : SaveQueue) : QueueEvent → SaveQueue × Option Notice
  | .enter number =>
    if queue.isFree then queue.proceed number (Save.begin queue.session.graph)
    else ({ queue with waiting := queue.waiting ++ [number] }, none)
  | .grant =>
    match queue.holder, queue.waiting with
    | none, number :: rest =>
      { queue with waiting := rest }.proceed number (Save.begin queue.session.graph)
    | _, _ => (queue, none)
  | .deliver answer =>
    match queue.holder with
    | none => (queue, none)
    | some (number, save) =>
      let (session, progress) := save.receive queue.session answer
      { queue with session }.proceed number progress
  | .edit command now supply =>
    let graph := (queue.session.graph.run command now supply).graph
    ({ queue with session := { queue.session with graph } }, none)

def run : SaveQueue → List QueueEvent → SaveQueue × List Notice
  | queue, [] => (queue, [])
  | queue, event :: rest =>
    let (queue, notice) := queue.step event
    let (queue, notices) := run queue rest
    (queue, notice.toList ++ notices)

end SaveQueue

structure Turn where
  session : String
  event : QueueEvent

structure Saves where
  queues : List SaveQueue
  service : Service
  supply : Supply
  turns : List Turn
  results : List (Nat × Except Failure Receipt)

namespace Saves

variable [Limits] [Client]

def find (saves : Saves) (session : String) : Option SaveQueue :=
  saves.queues.find? (·.session.id == session)

def put (saves : Saves) (session : String) (queue : SaveQueue) : Saves :=
  { saves with queues := saves.queues.map fun other =>
      if other.session.id = session then queue else other }

-- A call in memory is answered at once, a remote one when all that is due has happened.
def schedule (saves : Saves) (turn : Turn) : Saves :=
  match saves.service with
  | .memory _ => { saves with turns := turn :: saves.turns }
  | .remote _ => { saves with turns := saves.turns ++ [turn] }

def notice (saves : Saves) (session : String) (queue : SaveQueue) (now : Nat) : Notice → Saves
  | .calls _ call =>
    let outcome := saves.service.call call now saves.supply
    { saves with service := outcome.service, supply := outcome.supply }.schedule
      { session, event := .deliver outcome.answer }
  | .ends number result =>
    -- The next save in line gets the session after all that is due already.
    let turns := if queue.waiting.isEmpty then saves.turns
      else saves.turns ++ [{ session, event := .grant }]
    { saves with turns, results := saves.results ++ [(number, result)] }

def refuse (saves : Saves) (session : String) : QueueEvent → Saves
  | .enter number =>
    let failure := Editor.unknownSession session
    { saves with results := saves.results ++ [(number, .error failure)] }
  | _ => saves

def take (saves : Saves) (turn : Turn) (now : Nat) : Saves :=
  match saves.find turn.session with
  | none => saves.refuse turn.session turn.event
  | some queue =>
    let (queue, notice) := queue.step turn.event
    let saves := saves.put turn.session queue
    match notice with
    | some notice => saves.notice turn.session queue now notice
    | none => saves

def run : Nat → Saves → Nat → Saves
  | 0, saves, _ => saves
  | fuel + 1, saves, now =>
    match saves.turns with
    | [] => saves
    | turn :: rest => run fuel ({ saves with turns := rest }.take turn now) now

end Saves

namespace Editor

variable [Limits] [Client]

def beginSaves (editor : Editor) (ids : List String) : Saves :=
  { queues := editor.sessions.map SaveQueue.idle
    service := editor.service
    supply := editor.supply
    turns := ids.zipIdx.map fun (session, number) => { session, event := .enter number }
    results := [] }

-- Saves sessions at the same time; the results come in the order of the ids. A save has at most
-- four turns: it arrives, is granted the session, and takes two answers.
def saveAll (editor : Editor) (ids : List String) (now : Nat) :
    List (Except Failure Receipt) × Editor :=
  let saves := (editor.beginSaves ids).run (4 * ids.length) now
  ((List.range ids.length).filterMap fun number => saves.results.lookup number,
    { sessions := saves.queues.map (·.session), service := saves.service, supply := saves.supply })

end Editor

end Outreach
