import Mathlib.Data.List.Dedup
import Outreach.Graph.Walk

set_option autoImplicit false

namespace Outreach

namespace Links

@[simp] theorem mem_successors {links : Links} {source target : String} :
    target ∈ links.successors source ↔ (source, target) ∈ links := by
  simp [successors]

@[simp] theorem mem_targets {links : Links} {target : String} :
    target ∈ links.targets ↔ ∃ source, (source, target) ∈ links := by
  simp [targets]

def unfollowed (links : Links) (emitted : List String) : Links :=
  links.filter fun link => link.1 ∉ emitted

@[simp] theorem mem_unfollowed {links : Links} {emitted : List String} {link : String × String} :
    link ∈ links.unfollowed emitted ↔ link ∈ links ∧ link.1 ∉ emitted := by
  simp [unfollowed]

theorem unfollowed_perm (links : Links) {id : String} {rest : List String} (fresh : id ∉ rest) :
    (links.successors id ++ (links.unfollowed (id :: rest)).targets).Perm
      (links.unfollowed rest).targets := by
  -- What was not followed yet is parted into the links of the node and all others.
  have split := List.filter_append_perm (fun link : String × String => link.1 == id)
    (links.unfollowed rest)
  have first : (links.unfollowed rest).filter (·.1 == id) = links.filter (·.1 == id) := by
    simp only [unfollowed, List.filter_filter]
    apply List.filter_congr
    intro link _
    by_cases same : link.1 = id <;> simp [same, fresh]
  have others : (links.unfollowed rest).filter (fun link => !(link.1 == id)) =
      links.unfollowed (id :: rest) := by
    simp only [unfollowed, List.filter_filter]
    apply List.filter_congr
    intro link _
    by_cases same : link.1 = id <;> simp [same]
  rw [first, others] at split
  simpa [successors, targets] using split.map Prod.snd

theorem targets_perm (links : Links) {emitted : List String} (nodup : emitted.Nodup) :
    (emitted.flatMap links.successors ++ (links.unfollowed emitted).targets).Perm
      links.targets := by
  induction emitted with
  | nil => simp [unfollowed]
  | cons id rest ih =>
    obtain ⟨fresh, nodup⟩ := List.nodup_cons.mp nodup
    refine List.Perm.trans ?_ (ih nodup)
    rw [List.flatMap_cons, List.append_assoc]
    exact (List.perm_append_comm_assoc _ _ _).trans ((links.unfollowed_perm fresh).append_left _)

theorem inDegree_eq_add (links : Links) {emitted : List String} (nodup : emitted.Nodup)
    (id : String) :
    links.inDegree id =
      (emitted.flatMap links.successors).count id + (links.unfollowed emitted).inDegree id := by
  rw [inDegree, ← (links.targets_perm nodup).count_eq, List.count_append, inDegree]

theorem inDegree_eq_zero {links : Links} {id : String} :
    links.inDegree id = 0 ↔ ∀ source, (source, id) ∉ links := by
  simp [inDegree, List.count_eq_zero]

structure Ready (links : Links) (placed : List String) (id : String) : Prop where
  linked : ∃ source, (source, id) ∈ links
  sources : ∀ source, (source, id) ∈ links → source ∈ placed

theorem Ready.mono {links : Links} {placed more : List String} {id : String}
    (ready : links.Ready placed id) (subset : placed ⊆ more) : links.Ready more id :=
  ⟨ready.linked, fun source link => subset (ready.sources source link)⟩

end Links

namespace Walk

def row (walk : Walk) : List String := walk.emitted ++ walk.queue

structure Counted (links : Links) (walk : Walk) : Prop where
  nodup : walk.row.Nodup
  visited : walk.visited = walk.row.reverse
  arrived : walk.arrived = (walk.emitted.flatMap links.successors).reverse

theorem Counted.mem_visited {links : Links} {walk : Walk} (counted : walk.Counted links)
    {id : String} : id ∈ walk.visited ↔ id ∈ walk.row := by
  rw [counted.visited, List.mem_reverse]

theorem Counted.emitted_nodup {links : Links} {walk : Walk} (counted : walk.Counted links) :
    walk.emitted.Nodup := counted.nodup.of_append_left

theorem Counted.pending_eq {links : Links} {walk : Walk} (counted : walk.Counted links)
    (id : String) : walk.pending links id = (links.unfollowed walk.emitted).inDegree id := by
  have total := links.inDegree_eq_add counted.emitted_nodup id
  rw [pending, counted.arrived, List.count_reverse, total]
  omega

def opened (links : Links) (visited followed ids : List String) : List String :=
  (ids.filter fun id => decide (links.inDegree id = followed.count id ∧ id ∉ visited)).dedup

theorem opened_skip (links : Links) (visited followed rest : List String) (id : String)
    (skipped : links.inDegree id = followed.count id → id ∉ visited → id ∈ rest) :
    opened links visited followed (id :: rest) = opened links visited followed rest := by
  by_cases joins : links.inDegree id = followed.count id ∧ id ∉ visited
  · have later : id ∈ rest.filter fun id =>
        decide (links.inDegree id = followed.count id ∧ id ∉ visited) := by
      simp [joins, skipped joins.1 joins.2]
    rw [opened, List.filter_cons_of_pos (by simp [joins]), List.dedup_cons_of_mem later, opened]
  · simp [opened, joins]

theorem opened_join (links : Links) (visited followed rest : List String) (id : String)
    (joins : links.inDegree id = followed.count id) (fresh : id ∉ visited) (last : id ∉ rest) :
    opened links visited followed (id :: rest) =
      id :: opened links (id :: visited) followed rest := by
  have same : rest.filter (fun other =>
        decide (links.inDegree other = followed.count other ∧ other ∉ visited)) =
      rest.filter (fun other =>
        decide (links.inDegree other = followed.count other ∧ other ∉ id :: visited)) := by
    apply List.filter_congr
    intro other member
    have different : other ≠ id := fun equal => last (equal ▸ member)
    simp [different]
  have absent : id ∉ rest.filter fun other =>
      decide (links.inDegree other = followed.count other ∧ other ∉ id :: visited) := by
    simp [last]
  rw [opened, List.filter_cons_of_pos (by simp [joins, fresh]), same,
    List.dedup_cons_of_notMem absent, opened]

theorem arrive_eq (links : Links) (walk : Walk) (id : String) :
    arrive links walk id =
      if links.inDegree id = (id :: walk.arrived).count id ∧ id ∉ walk.visited then
        { walk with arrived := id :: walk.arrived }.enqueue id
      else { walk with arrived := id :: walk.arrived } := by
  have counter : pending links { walk with arrived := id :: walk.arrived } id = 0 ↔
      links.inDegree id = (id :: walk.arrived).count id := by
    simp only [pending]
    omega
  simp only [arrive, counter]

theorem foldl_arrive (links : Links) (ids : List String) (walk : Walk)
    (bounded : ∀ id, (ids.reverse ++ walk.arrived).count id ≤ links.inDegree id) :
    ids.foldl (arrive links) walk =
      let joined := opened links walk.visited (ids.reverse ++ walk.arrived) ids
      { walk with
        queue := walk.queue ++ joined
        visited := joined.reverse ++ walk.visited
        arrived := ids.reverse ++ walk.arrived } := by
  -- The bound keeps every counter from falling below zero, so each passes zero only once.
  induction ids generalizing walk with
  | nil => simp [opened]
  | cons id rest ih =>
    have followed : (id :: rest).reverse ++ walk.arrived = rest.reverse ++ id :: walk.arrived := by
      simp
    have total (other : String) : (rest.reverse ++ id :: walk.arrived).count other =
        rest.count other + (id :: walk.arrived).count other := by
      rw [List.count_append, List.count_reverse]
    rw [followed] at bounded ⊢
    rw [List.foldl_cons, arrive_eq]
    by_cases joins : links.inDegree id = (id :: walk.arrived).count id ∧ id ∉ walk.visited
    · -- No link to this node is left, so it is not among the rest.
      have last : id ∉ rest := by
        have bound := bounded id
        rw [total, joins.1] at bound
        exact List.count_eq_zero.mp (by omega)
      have complete : links.inDegree id = (rest.reverse ++ id :: walk.arrived).count id := by
        rw [total, List.count_eq_zero.mpr last, joins.1, Nat.zero_add]
      rw [if_pos joins, ih _ bounded,
        opened_join links walk.visited _ rest id complete joins.2 last]
      simp [enqueue]
    · have skip : opened links walk.visited (rest.reverse ++ id :: walk.arrived) (id :: rest) =
          opened links walk.visited (rest.reverse ++ id :: walk.arrived) rest := by
        apply opened_skip
        intro complete fresh
        by_contra absent
        rw [total, List.count_eq_zero.mpr absent, Nat.zero_add] at complete
        exact joins ⟨complete, fresh⟩
      rw [if_neg joins, ih _ bounded, skip]

def joined (links : Links) (walk : Walk) (id : String) : List String :=
  opened links walk.visited ((links.successors id).reverse ++ walk.arrived) (links.successors id)

def emission (links : Links) (walk : Walk) (id : String) (rest : List String) : Walk :=
  { queue := rest ++ walk.joined links id
    visited := (walk.joined links id).reverse ++ walk.visited
    emitted := walk.emitted ++ [id]
    arrived := (links.successors id).reverse ++ walk.arrived
    cycleEntries := walk.cycleEntries }

section Emission

variable {links : Links} {walk : Walk} {id : String} {rest : List String}

theorem row_eq (queue : walk.queue = id :: rest) : walk.row = walk.emitted ++ [id] ++ rest := by
  simp [row, queue]

theorem Counted.emitted_snoc_nodup (counted : walk.Counted links)
    (queue : walk.queue = id :: rest) : (walk.emitted ++ [id]).Nodup := by
  have nodup := counted.nodup
  rw [row_eq queue] at nodup
  exact nodup.of_append_left

theorem Counted.count_followed (counted : walk.Counted links) (other : String) :
    ((links.successors id).reverse ++ walk.arrived).count other =
      ((walk.emitted ++ [id]).flatMap links.successors).count other := by
  simp only [counted.arrived, List.count_append, List.count_reverse, List.flatMap_append,
    List.flatMap_singleton]
  omega

theorem Counted.mem_joined (counted : walk.Counted links) (queue : walk.queue = id :: rest)
    {other : String} :
    other ∈ walk.joined links id ↔
      (id, other) ∈ links ∧ links.Ready (walk.emitted ++ [id]) other ∧ other ∉ walk.row := by
  have total := links.inDegree_eq_add (counted.emitted_snoc_nodup queue) other
  -- The counter reaches zero where no link from a node that is not emitted is left.
  have full : links.inDegree other = ((links.successors id).reverse ++ walk.arrived).count other ↔
      ∀ source, (source, other) ∈ links → source ∈ walk.emitted ++ [id] := by
    rw [counted.count_followed, total, Nat.add_eq_left, Links.inDegree_eq_zero]
    simp only [Links.mem_unfollowed, not_and, not_not]
  rw [joined, opened, List.mem_dedup, List.mem_filter, Links.mem_successors, decide_eq_true_eq,
    full, counted.mem_visited]
  constructor
  · rintro ⟨link, sources, fresh⟩
    exact ⟨link, ⟨⟨id, link⟩, sources⟩, fresh⟩
  · rintro ⟨link, ready, fresh⟩
    exact ⟨link, ready.sources, fresh⟩

theorem Counted.count_followed_le (counted : walk.Counted links) (queue : walk.queue = id :: rest)
    (other : String) :
    ((links.successors id).reverse ++ walk.arrived).count other ≤ links.inDegree other := by
  rw [counted.count_followed, links.inDegree_eq_add (counted.emitted_snoc_nodup queue) other]
  exact Nat.le_add_right _ _

theorem Counted.emit_eq (counted : walk.Counted links) (queue : walk.queue = id :: rest) :
    emit links { walk with queue := rest } id = walk.emission links id rest := by
  rw [emit, foldl_arrive]
  · rfl
  · exact counted.count_followed_le queue

theorem queue_emission : (walk.emission links id rest).queue = rest ++ walk.joined links id := rfl

theorem row_emission (queue : walk.queue = id :: rest) :
    (walk.emission links id rest).row = walk.row ++ walk.joined links id := by
  simp [row, emission, queue]

theorem Counted.emission (counted : walk.Counted links) (queue : walk.queue = id :: rest) :
    (walk.emission links id rest).Counted links where
  nodup := by
    rw [row_emission queue, List.nodup_append']
    refine ⟨counted.nodup, List.nodup_dedup _, ?_⟩
    intro other placed member
    exact ((counted.mem_joined queue).mp member).2.2 placed
  visited := by
    rw [row_emission queue, List.reverse_append, ← counted.visited]
    rfl
  arrived := by
    simp [Walk.emission, counted.arrived]

end Emission

theorem mem_of_resume? {links : Links} {walk : Walk} {id : String}
    (resumed : walk.resume? links = some id) :
    id ∉ walk.visited ∧ ∃ source ∈ walk.emitted, (source, id) ∈ links := by
  have fresh := List.find?_some resumed
  have member := List.mem_of_find?_eq_some resumed
  simp only [Bool.not_eq_true', List.contains_eq_mem, decide_eq_false_iff_not] at fresh
  simp only [List.mem_flatMap, Links.mem_successors] at member
  exact ⟨fresh, member⟩

theorem queue_enter (walk : Walk) (id : String) : (walk.enter id).queue = walk.queue ++ [id] := rfl

theorem row_enter (walk : Walk) (id : String) : (walk.enter id).row = walk.row ++ [id] := by
  simp [row, enter, enqueue]

theorem Counted.enter {links : Links} {walk : Walk} (counted : walk.Counted links) {id : String}
    (fresh : id ∉ walk.visited) : (walk.enter id).Counted links where
  nodup := by
    rw [counted.mem_visited] at fresh
    rw [row_enter, List.nodup_append']
    exact ⟨counted.nodup, List.nodup_singleton id, by simpa using fresh⟩
  visited := by
    rw [row_enter, List.reverse_append, ← counted.visited]
    rfl
  arrived := counted.arrived

theorem Counted.step?_cases {links : Links} {walk next : Walk} (counted : walk.Counted links)
    (stepped : walk.step? links = some next) :
    (∃ id rest, walk.queue = id :: rest ∧ next = walk.emission links id rest) ∨
      walk.queue = [] ∧ ∃ id, walk.resume? links = some id ∧ next = walk.enter id := by
  rw [step?] at stepped
  cases queue : walk.queue with
  | cons id rest =>
    simp only [queue, counted.emit_eq queue, Option.some.injEq] at stepped
    exact .inl ⟨id, rest, rfl, stepped.symm⟩
  | nil =>
    simp only [queue] at stepped
    obtain ⟨id, resumed, entered⟩ := Option.map_eq_some_iff.mp stepped
    exact .inr ⟨rfl, id, resumed, entered.symm⟩

theorem counted_start (links : Links) (entry : String) : (start entry).Counted links where
  nodup := List.nodup_singleton entry
  visited := rfl
  arrived := rfl

end Walk

end Outreach
