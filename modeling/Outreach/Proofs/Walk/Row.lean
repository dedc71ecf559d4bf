import Mathlib.Logic.Relation
import Outreach.Proofs.Precedence
import Outreach.Proofs.Walk.Step

set_option autoImplicit false

namespace Outreach

namespace Links

def Linked (links : Links) (source target : String) : Prop := (source, target) ∈ links

def Stalled (links : Links) (placed : List String) : Prop :=
  ∀ id, links.Ready placed id → id ∈ placed

def firstOpen? (links : Links) (placed : List String) : Option String :=
  (placed.flatMap links.successors).find? (· ∉ placed)

theorem firstOpen?_some {links : Links} {placed : List String} {id : String}
    (first : links.firstOpen? placed = some id) :
    id ∉ placed ∧ ∃ source ∈ placed, (source, id) ∈ links := by
  have fresh := List.find?_some first
  have member := List.mem_of_find?_eq_some first
  simp only [decide_eq_true_eq] at fresh
  simp only [List.mem_flatMap, mem_successors] at member
  exact ⟨fresh, member⟩

inductive Row (links : Links) (entry : String) : List String → List String → Prop where
  | entry : Row links entry [entry] []
  | ready {row entered : List String} {id : String} (earlier : Row links entry row entered)
      (fresh : id ∉ row) (ready : links.Ready row id) : Row links entry (row ++ [id]) entered
  | enter {row entered : List String} {id : String} (earlier : Row links entry row entered)
      (stalled : links.Stalled row) (first : links.firstOpen? row = some id) :
      Row links entry (row ++ [id]) (entered ++ [id])

inductive Placement (links : Links) (entered before : List String) (id : String) : Prop where
  | ready (ready : links.Ready before id)
  | enter (stalled : links.Stalled before) (first : links.firstOpen? before = some id)
      (member : id ∈ entered)

namespace Row

variable {links : Links} {entry : String} {row entered : List String}

theorem nodup (placed : links.Row entry row entered) : row.Nodup := by
  induction placed with
  | entry => exact List.nodup_singleton entry
  | ready _ fresh _ ih => exact List.nodup_append'.mpr ⟨ih, List.nodup_singleton _, by simpa⟩
  | enter _ _ first ih =>
    have fresh := (firstOpen?_some first).1
    exact List.nodup_append'.mpr ⟨ih, List.nodup_singleton _, by simpa⟩

theorem entry_mem (placed : links.Row entry row entered) : entry ∈ row := by
  induction placed with
  | entry => exact List.mem_singleton_self entry
  | ready _ _ _ ih | enter _ _ _ ih => exact List.mem_append_left _ ih

theorem entered_subset (placed : links.Row entry row entered) : entered ⊆ row := by
  induction placed with
  | entry => exact List.nil_subset _
  | ready _ _ _ ih => exact List.Subset.trans ih (List.subset_append_left _ _)
  | enter _ _ _ ih =>
    apply List.append_subset.mpr
    exact ⟨List.Subset.trans ih (List.subset_append_left _ _), List.subset_append_right _ _⟩

theorem reachable (placed : links.Row entry row entered) {id : String} (member : id ∈ row) :
    Relation.ReflTransGen links.Linked entry id := by
  induction placed generalizing id with
  | entry => rw [List.mem_singleton.mp member]
  | ready _ _ ready ih =>
    obtain ⟨source, link⟩ := ready.linked
    obtain member | rfl := by simpa using member
    · exact ih member
    · exact (ih (ready.sources source link)).tail link
  | enter _ _ first ih =>
    obtain ⟨source, before, link⟩ := (firstOpen?_some first).2
    obtain member | rfl := by simpa using member
    · exact ih member
    · exact (ih before).tail link

theorem subset (placed : links.Row entry row entered) {ids : List String} (member : entry ∈ ids)
    (targets : links.targets ⊆ ids) : row ⊆ ids := by
  intro id inRow
  obtain rfl | ⟨source, -, link⟩ := (placed.reachable inRow).cases_tail
  · exact member
  · exact targets (mem_targets.mpr ⟨source, link⟩)

theorem append_ready (placed : links.Row entry row entered) {more : List String}
    (nodup : (row ++ more).Nodup) (ready : ∀ id ∈ more, links.Ready row id) :
    links.Row entry (row ++ more) entered := by
  induction more generalizing row with
  | nil => simpa using placed
  | cons id rest ih =>
    rw [List.append_cons] at nodup ⊢
    have fresh : id ∉ row := fun member => by
      have disjoint := (List.nodup_append'.mp nodup.of_append_left).2.2
      exact disjoint member (List.mem_singleton_self id)
    apply ih (placed.ready fresh (ready id List.mem_cons_self)) nodup
    intro other member
    exact (ready other (List.mem_cons_of_mem id member)).mono (List.subset_append_left _ _)

theorem placement (placed : links.Row entry row entered) {before after : List String}
    {id : String} (split : row = before ++ id :: after) :
    before = [] ∧ id = entry ∨
      (∃ earlier, links.Row entry before earlier) ∧ links.Placement entered before id := by
  -- The last node came by the last rule; every other one stands in the earlier row already.
  induction placed generalizing after with
  | entry =>
    obtain ⟨rfl, rest⟩ | ⟨before, rfl, rest⟩ := List.cons_eq_append_iff.mp split
    · exact .inl ⟨rfl, (List.cons.inj rest).1⟩
    · simp at rest
  | @ready row entered last earlier _ ready ih =>
    obtain rfl | ⟨after, last, rfl⟩ := after.eq_nil_or_concat'
    · obtain ⟨rfl, same⟩ := List.append_inj' split rfl
      obtain rfl := (List.cons.inj same).1
      exact .inr ⟨⟨entered, earlier⟩, .ready ready⟩
    · rw [← List.cons_append, ← List.append_assoc] at split
      exact ih (List.append_inj' split rfl).1
  | @enter row entered last earlier stalled first ih =>
    obtain rfl | ⟨after, last, rfl⟩ := after.eq_nil_or_concat'
    · obtain ⟨rfl, same⟩ := List.append_inj' split rfl
      obtain rfl := (List.cons.inj same).1
      exact .inr ⟨⟨entered, earlier⟩, .enter stalled first (by simp)⟩
    · rw [← List.cons_append, ← List.append_assoc] at split
      obtain first | ⟨behind, ready | ⟨stalled, first, member⟩⟩ := ih (List.append_inj' split rfl).1
      · exact .inl first
      · exact .inr ⟨behind, .ready ready⟩
      · exact .inr ⟨behind, .enter stalled first (List.mem_append_left _ member)⟩

theorem precedes (placed : links.Row entry row entered) {source target : String}
    (link : (source, target) ∈ links) (member : target ∈ row) (notEntry : target ≠ entry)
    (notEntered : target ∉ entered) : Precedes row source target := by
  obtain ⟨before, after, rfl⟩ := List.append_of_mem member
  obtain ⟨-, isEntry⟩ | ⟨-, ready | ⟨-, -, isEntered⟩⟩ := placed.placement rfl
  · exact absurd isEntry notEntry
  · exact .of_mem (ready.sources source link)
  · exact absurd isEntered notEntered

theorem placement_of_entered (placed : links.Row entry row entered) {id : String}
    (member : id ∈ entered) :
    ∃ before after, row = before ++ id :: after ∧ (∃ earlier, links.Row entry before earlier) ∧
      links.Stalled before ∧ links.firstOpen? before = some id := by
  induction placed with
  | entry => simp at member
  | @ready row entered last earlier _ _ ih =>
    obtain ⟨before, after, rfl, placement⟩ := ih member
    exact ⟨before, after ++ [last], by simp, placement⟩
  | @enter row entered last earlier stalled first ih =>
    obtain member | rfl := by simpa using member
    · obtain ⟨before, after, rfl, placement⟩ := ih member
      exact ⟨before, after ++ [last], by simp, placement⟩
    · exact ⟨row, [], rfl, ⟨entered, earlier⟩, stalled, first⟩

theorem exists_source_of_entered (placed : links.Row entry row entered) {id : String}
    (member : id ∈ entered) : ∃ source, (source, id) ∈ links ∧ ¬ Precedes row source id := by
  have nodup := placed.nodup
  obtain ⟨before, after, split, -, stalled, first⟩ := placed.placement_of_entered member
  obtain ⟨fresh, leading, -, link⟩ := firstOpen?_some first
  -- Were all sources placed before it, it would have been ready.
  by_contra none
  push Not at none
  refine fresh (stalled id ⟨⟨leading, link⟩, fun source link => ?_⟩)
  exact (none source link).mem_before nodup split

theorem head (placed : links.Row entry row entered) : ∃ rest, row = entry :: rest := by
  induction placed with
  | entry => exact ⟨[], rfl⟩
  | ready _ _ _ ih | enter _ _ _ ih =>
    obtain ⟨rest, rfl⟩ := ih
    exact ⟨rest ++ [_], rfl⟩

theorem exists_source (placed : links.Row entry row entered) {id : String} (member : id ∈ row)
    (notEntry : id ≠ entry) : ∃ source, (source, id) ∈ links ∧ Precedes row source id := by
  obtain ⟨before, after, rfl⟩ := List.append_of_mem member
  obtain ⟨-, isEntry⟩ | ⟨-, ready | ⟨-, first, -⟩⟩ := placed.placement rfl
  · exact absurd isEntry notEntry
  · obtain ⟨source, link⟩ := ready.linked
    exact ⟨source, link, .of_mem (ready.sources source link)⟩
  · obtain ⟨-, source, inside, link⟩ := firstOpen?_some first
    exact ⟨source, link, .of_mem inside⟩

end Row

end Links

namespace Walk

structure Steady (links : Links) (entry : String) (walk : Walk) : Prop where
  counted : walk.Counted links
  placed : links.Row entry walk.row walk.cycleEntries
  settled : ∀ id, links.Ready walk.emitted id → id ∈ walk.row

variable {links : Links} {entry : String} {walk next : Walk}

theorem steady_start (links : Links) (entry : String) : (start entry).Steady links entry where
  counted := counted_start links entry
  placed := .entry
  settled := by
    intro id ready
    obtain ⟨source, link⟩ := ready.linked
    exact absurd (ready.sources source link) List.not_mem_nil

theorem Steady.emission (steady : walk.Steady links entry) {id : String} {rest : List String}
    (queue : walk.queue = id :: rest) : (walk.emission links id rest).Steady links entry where
  counted := steady.counted.emission queue
  placed := by
    have nodup := (steady.counted.emission queue).nodup
    rw [row_emission queue] at nodup ⊢
    apply steady.placed.append_ready nodup
    intro other member
    have ready := ((steady.counted.mem_joined queue).mp member).2.1
    apply ready.mono
    rw [row_eq queue]
    exact List.subset_append_left _ _
  settled := by
    intro other ready
    rw [row_emission queue, List.mem_append, steady.counted.mem_joined queue]
    by_cases placed : other ∈ walk.row
    · exact .inl placed
    · by_cases link : (id, other) ∈ links
      · exact .inr ⟨link, ready, placed⟩
      · -- The emitted node does not lead here, so all was emitted before.
        refine absurd (steady.settled other ⟨ready.linked, fun source leads => ?_⟩) placed
        obtain before | rfl := by
          simpa [Walk.emission] using ready.sources source leads
        · exact before
        · exact absurd leads link

theorem Steady.enter (steady : walk.Steady links entry) (queue : walk.queue = []) {id : String}
    (resumed : walk.resume? links = some id) : (walk.enter id).Steady links entry where
  counted := steady.counted.enter (mem_of_resume? resumed).1
  placed := by
    have emitted : walk.row = walk.emitted := by rw [row, queue, List.append_nil]
    rw [row_enter]
    apply steady.placed.enter
    · rw [emitted]
      intro other ready
      rw [← emitted]
      exact steady.settled other ready
    · rw [Links.firstOpen?, ← resumed, resume?, emitted]
      congr 1
      funext other
      simp [steady.counted.visited, emitted]
  settled := by
    intro other ready
    rw [row_enter]
    exact List.mem_append_left _ (steady.settled other ready)

theorem Steady.step (steady : walk.Steady links entry) (stepped : walk.step? links = some next) :
    next.Steady links entry := by
  obtain ⟨id, rest, queue, rfl⟩ | ⟨queue, id, resumed, rfl⟩ := steady.counted.step?_cases stepped
  · exact steady.emission queue
  · exact steady.enter queue resumed

theorem Steady.run (steady : walk.Steady links entry) (fuel : Nat) :
    (walk.run links fuel).Steady links entry := by
  induction fuel generalizing walk with
  | zero => exact steady
  | succ fuel ih =>
    rw [Walk.run]
    cases stepped : walk.step? links with
    | none => exact steady
    | some next => exact ih (steady.step stepped)

def stepsLeft (length : Nat) (walk : Walk) : Nat :=
  2 * (length - walk.row.length) + walk.queue.length

theorem Steady.stepsLeft_lt (steady : walk.Steady links entry)
    (stepped : walk.step? links = some next) {length : Nat} (bound : next.row.length ≤ length) :
    next.stepsLeft length < walk.stepsLeft length := by
  -- A node that joins the queue takes two from the first part and gives one to the second.
  obtain ⟨id, rest, queue, rfl⟩ | ⟨queue, id, -, rfl⟩ := steady.counted.step?_cases stepped
  · rw [row_emission queue, List.length_append] at bound
    rw [stepsLeft, stepsLeft, row_emission queue, queue_emission, queue, List.length_append,
      List.length_append, List.length_cons]
    omega
  · rw [row_enter, List.length_append, List.length_singleton] at bound
    rw [stepsLeft, stepsLeft, row_enter, queue_enter, queue, List.length_append, List.nil_append,
      List.length_singleton, List.length_nil]
    omega

theorem Steady.run_ends (steady : walk.Steady links entry) {length fuel : Nat}
    (bound : ∀ walk : Walk, walk.Steady links entry → walk.row.length ≤ length)
    (enough : walk.stepsLeft length ≤ fuel) : (walk.run links fuel).step? links = none := by
  induction fuel generalizing walk with
  | zero =>
    rw [Walk.run]
    by_contra more
    obtain ⟨next, stepped⟩ := Option.ne_none_iff_exists'.mp more
    have less := steady.stepsLeft_lt stepped (bound next (steady.step stepped))
    omega
  | succ fuel ih =>
    rw [Walk.run]
    cases stepped : walk.step? links with
    | none => exact stepped
    | some next =>
      have less := steady.stepsLeft_lt stepped (bound next (steady.step stepped))
      exact ih (steady.step stepped) (by omega)

structure Finished (links : Links) (entry : String) (walk : Walk) : Prop where
  placed : links.Row entry walk.emitted walk.cycleEntries
  mem_visited : ∀ id, id ∈ walk.visited ↔ id ∈ walk.emitted
  closed : ∀ {source target}, source ∈ walk.emitted → (source, target) ∈ links →
    target ∈ walk.emitted

theorem queue_of_ended (ended : walk.step? links = none) : walk.queue = [] := by
  cases queue : walk.queue with
  | nil => rfl
  | cons id rest => simp [step?, queue] at ended

theorem row_eq_emitted (ended : walk.step? links = none) : walk.row = walk.emitted := by
  rw [row, queue_of_ended ended, List.append_nil]

theorem Steady.finished (steady : walk.Steady links entry) (ended : walk.step? links = none) :
    walk.Finished links entry := by
  have queue := queue_of_ended ended
  have emitted := row_eq_emitted ended
  have visited (id : String) : id ∈ walk.visited ↔ id ∈ walk.emitted := by
    rw [steady.counted.mem_visited, emitted]
  refine ⟨emitted ▸ steady.placed, visited, ?_⟩
  intro source target before link
  simp only [step?, queue, Option.map_eq_none_iff, resume?, List.find?_eq_none] at ended
  have reached := ended target
    (List.mem_flatMap.mpr ⟨source, before, Links.mem_successors.mpr link⟩)
  simpa [visited] using reached

theorem Finished.stalled (finished : walk.Finished links entry) : links.Stalled walk.emitted := by
  intro id ready
  obtain ⟨source, link⟩ := ready.linked
  exact finished.closed (ready.sources source link) link

theorem Finished.mem_emitted (finished : walk.Finished links entry) {id : String} :
    id ∈ walk.emitted ↔ Relation.ReflTransGen links.Linked entry id := by
  constructor
  · exact finished.placed.reachable
  · intro path
    induction path with
    | refl => exact finished.placed.entry_mem
    | tail _ link ih => exact finished.closed ih link

end Walk

end Outreach
