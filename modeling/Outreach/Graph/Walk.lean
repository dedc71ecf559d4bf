set_option autoImplicit false

namespace Outreach

abbrev Links := List (String × String)

namespace Links

def successors (links : Links) (id : String) : List String :=
  (links.filter (·.1 == id)).map (·.2)

def targets (links : Links) : List String := links.map (·.2)

def inDegree (links : Links) (id : String) : Nat := links.targets.count id

end Links

structure Walk where
  queue : List String
  visited : List String
  emitted : List String
  arrived : List String
  cycleEntries : List String
  deriving DecidableEq, Repr

namespace Walk

def start (entry : String) : Walk :=
  { queue := [entry], visited := [entry], emitted := [], arrived := [], cycleEntries := [] }

def pending (links : Links) (walk : Walk) (id : String) : Int :=
  (links.inDegree id : Int) - walk.arrived.count id

def enqueue (walk : Walk) (id : String) : Walk :=
  { walk with queue := walk.queue ++ [id], visited := id :: walk.visited }

def arrive (links : Links) (walk : Walk) (id : String) : Walk :=
  let walk := { walk with arrived := id :: walk.arrived }
  if walk.pending links id = 0 ∧ id ∉ walk.visited then walk.enqueue id else walk

def emit (links : Links) (walk : Walk) (id : String) : Walk :=
  (links.successors id).foldl (arrive links) { walk with emitted := walk.emitted ++ [id] }

def resume? (links : Links) (walk : Walk) : Option String :=
  (walk.emitted.flatMap links.successors).find? (!walk.visited.contains ·)

def enter (walk : Walk) (id : String) : Walk :=
  { walk.enqueue id with cycleEntries := walk.cycleEntries ++ [id] }

def step? (links : Links) (walk : Walk) : Option Walk :=
  match walk.queue with
  | id :: rest => some (emit links { walk with queue := rest } id)
  | [] => (walk.resume? links).map walk.enter

def run (links : Links) : Nat → Walk → Walk
  | 0, walk => walk
  | fuel + 1, walk =>
    match walk.step? links with
    | some next => run links fuel next
    | none => walk

end Walk

end Outreach
