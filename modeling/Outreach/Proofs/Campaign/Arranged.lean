import Outreach.Proofs.Campaign.Outcomes
import Outreach.Proofs.Campaign.Refused
import Outreach.Proofs.Campaign.Stored
import Outreach.Proofs.Graph.Recast
import Outreach.Proofs.Limits
import Outreach.Proofs.Service.LastWrite

set_option autoImplicit false

namespace Outreach

namespace Fields

variable {step : Fields}

structure Ordinary (step : Fields) : Prop where
  type : ∃ type : StepType, step.get? "type" = some (.str type.name)
  config : step.get? "config" = none ∨ ∃ config : Fields, step.get? "config" = some (.obj config)
  order : step.get? "order" = none ∨ ∃ n, step.get? "order" = some (.int n)

variable [Limits]

def Buried (step : Fields) : Prop :=
  ∃ config : Fields, step.get? "config" = some (.obj config) ∧ config.overnested = true

theorem Ordinary.stepFailure?_eq (ordinary : step.Ordinary) :
    step.stepFailure? = step.configDefect?.map .defect := by
  obtain ⟨type, named⟩ := ordinary.type
  rw [stepFailure?, named, Option.getD_some, StoredStep.find_name]

theorem Ordinary.stepFailure?_of_shallow (ordinary : step.Ordinary) (shallow : ¬ step.Buried) :
    step.stepFailure? = none := by
  rw [ordinary.stepFailure?_eq, Option.map_eq_none_iff]
  obtain absent | ⟨config, given⟩ := ordinary.config
  · exact configDefect?_of_empty (by simp [getD, absent, Value.truthy])
  · refine configDefect?_of_obj (by rw [getD, given, Option.getD_some]) (not_lt.mp fun deep => ?_)
    exact shallow ⟨config, given, decide_eq_true deep⟩

theorem Ordinary.stepFailure?_of_buried (ordinary : step.Ordinary) (buried : step.Buried) :
    step.stepFailure? = some (.defect .tooDeep) := by
  obtain ⟨config, given, deep⟩ := buried
  have some : (Value.obj config).truthy = true := by
    cases config with
    | nil => exact absurd (of_decide_eq_true deep) (not_lt.mpr Limits.copyDepth_pos)
    | cons field rest => rfl
  have past : ¬ (Value.obj config).depth ≤ Limits.copyDepth := not_le.mpr (of_decide_eq_true deep)
  rw [ordinary.stepFailure?_eq, configDefect?, getD, given, Option.getD_some, Value.orElse,
    if_pos some]
  simp [Value.asFields, past]

end Fields

namespace Placed

variable {steps others : List Fields} {placed moved : List Placed}

theorem map_step_arrived (steps : List Fields) : (arrived steps).map (·.step) = steps := by
  rw [arrived, List.map_map]
  exact List.zipIdx_map_fst 0 steps

theorem step_mem_of_arrived {first : Placed} (member : first ∈ arrived steps) :
    first.step ∈ steps := by
  rw [← map_step_arrived steps]
  exact List.mem_map_of_mem member

theorem map_index_arrived (steps : List Fields) :
    (arrived steps).map (·.index) = List.range' 0 steps.length := by
  rw [arrived, List.map_map]
  exact List.zipIdx_map_snd 0 steps

theorem whole_arrived (ordinary : ∀ step ∈ steps, step.Ordinary) :
    ∀ placed ∈ arrived steps, placed.Whole := by
  intro placed member
  obtain ⟨⟨step, index⟩, inside, rfl⟩ := List.mem_map.mp member
  obtain absent | ⟨n, given⟩ := (ordinary step (List.fst_mem_of_mem_zipIdx inside)).order
  · simp [Whole, number, absent]
  · simp [Whole, number, given]

-- No two steps have one place, so none are alike.
theorem pairwise_rank_lt (perm : placed.Perm (arrived steps))
    (rising : placed.Pairwise fun a b => a.rank ≤ b.rank) :
    placed.Pairwise fun a b => a.rank < b.rank := by
  have distinct : (placed.map (·.index)).Nodup := by
    rw [(perm.map _).nodup_iff, map_index_arrived]
    exact List.nodup_range'
  refine (rising.and (List.pairwise_map.mp distinct)).imp ?_
  rintro a b ⟨atMost, different⟩
  exact lt_of_le_of_ne atMost fun same => different (congrArg (fun rank => (ofLex rank).2) same)

theorem map_step_eq (explicit : ∀ step ∈ steps, ∃ n, step.get? "order" = some (.int n))
    (distinct : (steps.map (·.get? "order")).Nodup) (shuffled : others.Perm steps)
    (perm : placed.Perm (arrived steps)) (movedPerm : moved.Perm (arrived others))
    (rising : placed.Pairwise fun a b => a.rank ≤ b.rank)
    (movedRising : moved.Pairwise fun a b => a.rank ≤ b.rank) :
    moved.map (·.step) = placed.map (·.step) := by
  let AtMost (a b : Fields) : Prop :=
    ∃ m n, a.get? "order" = some (.int m) ∧ b.get? "order" = some (.int n) ∧ m ≤ n
  have sorted {steps : List Fields} {placed : List Placed}
      (explicit : ∀ step ∈ steps, ∃ n, step.get? "order" = some (.int n))
      (perm : placed.Perm (arrived steps)) (rising : placed.Pairwise fun a b => a.rank ≤ b.rank) :
      (placed.map (·.step)).Pairwise AtMost := by
    have numbered : ∀ first ∈ placed, first.step.get? "order" = some (.int first.number) := by
      intro first member
      obtain ⟨⟨step, index⟩, inside, rfl⟩ := List.mem_map.mp (perm.subset member)
      obtain ⟨n, given⟩ := explicit step (List.fst_mem_of_mem_zipIdx inside)
      simp [number, given]
    refine List.pairwise_map.mpr (rising.imp_of_mem fun {a b} inA inB atMost => ?_)
    exact ⟨_, _, numbered a inA, numbered b inB, number_le atMost⟩
  have steps_perm : (placed.map (·.step)).Perm steps := by
    simpa only [map_step_arrived] using perm.map (·.step)
  have others_perm : (moved.map (·.step)).Perm others := by
    simpa only [map_step_arrived] using movedPerm.map (·.step)
  refine (others_perm.trans (shuffled.trans steps_perm.symm)).eq_of_pairwise ?_
    (sorted (fun step member => explicit step (shuffled.subset member)) movedPerm movedRising)
    (sorted explicit perm rising)
  rintro a b inA inB ⟨m, n, first, second, le⟩ ⟨n', m', second', first', ge⟩
  obtain rfl : m = m' := by simpa using first.symm.trans first'
  obtain rfl : n = n' := by simpa using second.symm.trans second'
  obtain rfl := le_antisymm le ge
  exact List.inj_on_of_nodup_map distinct (shuffled.subset (others_perm.subset inA))
    (steps_perm.subset inB) (first.trans second.symm)

end Placed

namespace Graph

variable {start graph changed other built : Graph} {supply next last between : Supply}
  {step : Fields} {steps others : List Fields} {placed moved : List Placed}
  {name campaign : Option String} {now later : Nat}

structure Laid (start graph : Graph) : Prop where
  kept : graph = { start with nodes := graph.nodes, edges := graph.edges }
  positions : graph.nodes.map (·.position) = (List.range graph.nodes.length).map loadedPosition

theorem Laid.appendStep [Limits] (laid : start.Laid graph)
    (appended : graph.appendStep step supply = (.ok changed, next)) : start.Laid changed := by
  obtain ⟨kept, positions⟩ := laid
  simp only [Graph.appendStep, Node.create, Supply.node] at appended
  repeat' split at appended
  all_goals cases appended
  · rename_i last
    refine ⟨by rw [kept], ?_⟩
    simp [List.getLast?_eq_none_iff.mp last]
  · refine ⟨by rw [kept], ?_⟩
    simp [positions, List.range_succ]

theorem Laid.appendSteps [Limits] (laid : start.Laid graph)
    (appended : Graph.appendSteps placed graph supply = (.ok built, next)) : start.Laid built := by
  induction placed generalizing graph supply with
  | nil =>
    cases appended
    exact laid
  | cons first rest ih =>
    rw [Graph.appendSteps] at appended
    split at appended
    · cases appended
    · rename_i step
      exact ih (laid.appendStep step) appended

theorem laid_ofSteps [Limits] {values : List Value}
    (made : ofSteps name campaign values now supply = (.ok graph, next)) :
    (create name campaign now supply).1.Laid graph := by
  simp only [ofSteps] at made
  split at made
  · cases made
  · exact Laid.appendSteps ⟨rfl, rfl⟩ made

structure Redrawn (rename : String → String) (graph other : Graph) : Prop where
  injective : Set.InjOn rename {id | id ∈ graph.ids}
  recast : graph.Recast rename other
  positions : other.nodes.map (·.position) = graph.nodes.map (·.position)
  campaign : other.campaign = graph.campaign
  selected : other.selected = graph.selected

theorem exists_rename {nodes others : List Node} (unique : (nodes.map (·.id)).Nodup)
    (same : List.Forall₂ (fun (node other : Node) =>
      other.type = node.type ∧ other.config = node.config) nodes others) :
    ∃ rename, List.Forall₂ (Node.Recast rename) nodes others := by
  induction same with
  | nil => exact ⟨fun id => id, .nil⟩
  | @cons node other rest later paired _ ih =>
    obtain ⟨fresh, unique⟩ := List.nodup_cons.mp unique
    obtain ⟨rename, recast⟩ := ih unique
    refine ⟨Function.update rename node.id other.id, .cons ?_ ?_⟩
    · exact ⟨by rw [Function.update_self], paired.1, paired.2⟩
    · refine forall₂_recast_congr recast fun first inside => Function.update_of_ne ?_ ..
      intro same
      exact fresh (List.mem_map.mpr ⟨first, inside, same⟩)

theorem Chained.recast_edges {rename : String → String} (chained : graph.Chained)
    (otherChained : other.Chained)
    (nodes : List.Forall₂ (Node.Recast rename) graph.nodes other.nodes) :
    List.Forall₂ (Edge.Recast rename) graph.edges other.edges := by
  have pairs : other.pairs = graph.pairs.map (Prod.map rename rename) := by
    have ids : other.ids = graph.ids.map rename := map_id_eq nodes
    rw [chained.pairs, otherChained.pairs, ids, ← List.map_tail, List.zip_map]
  rw [Graph.pairs, Graph.pairs, List.map_map, eq_comm, ← List.forall₂_eq_eq_eq,
    List.forall₂_map_left_iff, List.forall₂_map_right_iff] at pairs
  exact pairs.imp fun _ _ same => ⟨(congrArg Prod.fst same).symm, (congrArg Prod.snd same).symm⟩

section

variable [Limits]

theorem Rebuilt.reads (rebuilt : graph.Rebuilt next name placed) :
    List.Forall₂ (fun step (node : Node) => node.Reads step) (placed.map (·.step)) graph.nodes :=
  List.forall₂_map_left_iff.mpr rebuilt.nodes

theorem Rebuilt.exists_recast (rebuilt : graph.Rebuilt next name placed)
    (otherRebuilt : other.Rebuilt last name moved)
    (same : moved.map (·.step) = placed.map (·.step)) :
    ∃ rename, Set.InjOn rename {id | id ∈ graph.ids} ∧ graph.Recast rename other := by
  have otherReads := otherRebuilt.reads
  rw [same] at otherReads
  have alike : List.Forall₂ (fun (node other : Node) =>
      other.type = node.type ∧ other.config = node.config) graph.nodes other.nodes := by
    refine (forall₂_comp rebuilt.reads.flip otherReads).imp ?_
    rintro node other ⟨step, reads, alsoReads⟩
    exact ⟨Except.ok.inj (alsoReads.type.symm.trans reads.type),
      Except.ok.inj (alsoReads.config.symm.trans reads.config)⟩
  obtain ⟨rename, recast⟩ := exists_rename rebuilt.chained.unique alike
  have ids : other.ids = graph.ids.map rename := map_id_eq recast
  refine ⟨rename, ?_, otherRebuilt.name.trans rebuilt.name.symm, recast,
    rebuilt.chained.recast_edges otherRebuilt.chained recast⟩
  intro first inside second alsoInside same
  exact List.inj_on_of_nodup_map (ids ▸ otherRebuilt.chained.unique) inside alsoInside same

theorem exists_redrawn {values moreValues : List Value}
    (made : ofSteps name campaign values now supply = (.ok graph, next))
    (otherMade : ofSteps name campaign moreValues later last = (.ok other, between))
    (rebuilt : graph.Rebuilt next name placed) (otherRebuilt : other.Rebuilt between name moved)
    (same : moved.map (·.step) = placed.map (·.step)) : ∃ rename, graph.Redrawn rename other := by
  obtain ⟨rename, injective, recast⟩ := rebuilt.exists_recast otherRebuilt same
  have laid := laid_ofSteps made
  have otherLaid := laid_ofSteps otherMade
  refine ⟨rename, injective, recast, ?_, ?_, ?_⟩
  · rw [laid.positions, otherLaid.positions, recast.nodes.length_eq]
  · rw [laid.kept, otherLaid.kept]
    rfl
  · rw [laid.kept, otherLaid.kept]
    rfl

structure Arranged (graph : Graph) (steps : List Fields) (placed : List Placed) : Prop where
  perm : placed.Perm (Placed.arrived steps)
  sorted : placed.Pairwise fun a b => a.rank < b.rank
  nodes : List.Forall₂ (fun first (node : Node) => node.Reads first.step) placed graph.nodes
  unique : graph.ids.Nodup
  linked : graph.pairs = graph.ids.zip graph.ids.tail
  entries : ∀ entry rest, graph.nodes = entry :: rest → graph.entries = [entry]
  linear : ∀ entry rest, graph.nodes = entry :: rest →
    (graph.linearize entry).order = graph.nodes ∧
      (graph.linearize entry).fallback.isEmpty = true

theorem exists_arranged (ordinary : ∀ step ∈ steps, step.Ordinary)
    (shallow : ∀ step ∈ steps, ¬ step.Buried) (name campaign : Option String) (now : Nat)
    (supply : Supply) :
    ∃ graph next placed, ofSteps name campaign (steps.map .obj) now supply = (.ok graph, next) ∧
      graph.Rebuilt next name placed ∧ graph.Arranged steps placed := by
  obtain ⟨placed, sorted, perm, rising⟩ := Placed.exists_ranked (Placed.whole_arrived ordinary)
  have ordered : placeSteps (steps.map .obj) = .ok placed := by rw [Placed.placeSteps_eq, sorted]
  have readable : ∀ first ∈ placed, ∃ node : Node, node.Reads first.step := by
    intro first member
    have inside := Placed.step_mem_of_arrived (perm.subset member)
    rw [← stepFailure?_eq_none_iff]
    exact (ordinary _ inside).stepFailure?_of_shallow (shallow _ inside)
  obtain ⟨graph, next, made⟩ : ∃ graph next,
      ofSteps name campaign (steps.map .obj) now supply = (.ok graph, next) :=
    exists_ofSteps ordered readable
  obtain ⟨same, alsoOrdered, rebuilt⟩ := rebuilt_of_ofSteps made
  obtain rfl : placed = same := Except.ok.inj (ordered.symm.trans alsoOrdered)
  have chained := rebuilt.chained
  exact ⟨graph, next, placed, made, rebuilt, perm, Placed.pairwise_rank_lt perm rising,
    rebuilt.nodes, chained.unique, chained.pairs, fun _ _ nodes => chained.entries_eq nodes,
    fun _ _ nodes => ⟨chained.linearize_order nodes, chained.fallback_isEmpty nodes⟩⟩

theorem ofSteps_of_buried (ordinary : ∀ step ∈ steps, step.Ordinary)
    (buried : ∃ step ∈ steps, step.Buried) (name campaign : Option String) (now : Nat)
    (supply : Supply) :
    (ofSteps name campaign (steps.map .obj) now supply).1 = .error (.defect .tooDeep) := by
  obtain ⟨placed, sorted, perm, -⟩ := Placed.exists_ranked (Placed.whole_arrived ordinary)
  have ordinaryStep : ∀ first ∈ placed, first.step.Ordinary := fun first member =>
    ordinary _ (Placed.step_mem_of_arrived (perm.subset member))
  refine (ofSteps_eq_error_iff name campaign now supply).mpr (.unmade sorted ?_)
  cases found : placed.findSome? (·.step.stepFailure?) with
  | none =>
    obtain ⟨step, inside, deep⟩ := buried
    rw [← Placed.map_step_arrived steps] at inside
    obtain ⟨first, arrived, rfl⟩ := List.mem_map.mp inside
    have member := perm.symm.subset arrived
    have fits := List.findSome?_eq_none_iff.mp found first member
    rw [(ordinaryStep first member).stepFailure?_of_buried deep] at fits
    cases fits
  | some failure =>
    obtain ⟨first, member, failed⟩ := List.exists_of_findSome?_eq_some found
    by_cases deep : first.step.Buried
    · rw [← failed, (ordinaryStep first member).stepFailure?_of_buried deep]
    · rw [(ordinaryStep first member).stepFailure?_of_shallow deep] at failed
      cases failed

structure Arranges (name campaign : Option String) (steps : List Fields) : Prop where
  built : (∀ step ∈ steps, ¬ step.Buried) → ∀ now supply, ∃ graph next placed,
    ofSteps name campaign (steps.map .obj) now supply = (.ok graph, next) ∧
      graph.Arranged steps placed
  refused : (∃ step ∈ steps, step.Buried) → ∀ now supply,
    (ofSteps name campaign (steps.map .obj) now supply).1 = .error (.defect .tooDeep)
  -- Where all orders are given and different, the places of the steps do not matter.
  shuffled : (∀ step ∈ steps, ¬ step.Buried) →
    (∀ step ∈ steps, ∃ n, step.get? "order" = some (.int n)) →
    (steps.map (·.get? "order")).Nodup → ∀ others : List Fields, others.Perm steps →
    ∀ now supply later more, ∃ graph next other last rename,
      ofSteps name campaign (steps.map .obj) now supply = (.ok graph, next) ∧
      ofSteps name campaign (others.map .obj) later more = (.ok other, last) ∧
      graph.Redrawn rename other

theorem arranges_ofSteps (ordinary : ∀ step ∈ steps, step.Ordinary)
    (name campaign : Option String) : Arranges name campaign steps where
  built shallow now supply := by
    obtain ⟨graph, next, placed, made, -, arranged⟩ :=
      exists_arranged ordinary shallow name campaign now supply
    exact ⟨graph, next, placed, made, arranged⟩
  refused buried now supply := ofSteps_of_buried ordinary buried name campaign now supply
  shuffled shallow explicit distinct others shuffle now supply later more := by
    obtain ⟨graph, next, placed, made, rebuilt, arranged⟩ :=
      exists_arranged ordinary shallow name campaign now supply
    obtain ⟨other, last, moved, otherMade, otherRebuilt, otherArranged⟩ :=
      exists_arranged (fun step member => ordinary step (shuffle.subset member))
        (fun step member => shallow step (shuffle.subset member)) name campaign later more
    have same := Placed.map_step_eq explicit distinct shuffle arranged.perm otherArranged.perm
      (arranged.sorted.imp le_of_lt) (otherArranged.sorted.imp le_of_lt)
    obtain ⟨rename, redrawn⟩ := exists_redrawn made otherMade rebuilt otherRebuilt same
    exact ⟨graph, next, other, last, rename, made, otherMade, redrawn⟩

end

def scattered : List Fields :=
  [[("type", .str "linkedin_visit"), ("order", .int 2)],
   [("type", .str "linkedin_follow"), ("config", .obj [])],
   [("type", .str "email_send"), ("order", .int (-1))]]

section

attribute [local instance] Limits.usual

theorem scattered_arranged :
    Arranges (some "Plan") none scattered ∧ ∃ graph next placed,
      ofSteps (some "Plan") none (scattered.map .obj) 1 Supply.initial = (.ok graph, next) ∧
      graph.Arranged scattered placed ∧
      graph.nodes.map (·.type) = [.emailSend, .linkedinFollow, .linkedinVisit] := by
  have ordinary : ∀ step ∈ scattered, step.Ordinary := by
    simp only [scattered, List.forall_mem_cons]
    exact ⟨⟨⟨.linkedinVisit, rfl⟩, .inl rfl, .inr ⟨2, rfl⟩⟩,
      ⟨⟨.linkedinFollow, rfl⟩, .inr ⟨[], rfl⟩, .inl rfl⟩,
      ⟨⟨.emailSend, rfl⟩, .inl rfl, .inr ⟨-1, rfl⟩⟩, by simp⟩
  have shallow : ∀ step ∈ scattered, ¬ step.Buried := by
    have flat : ∀ step ∈ scattered, (step.getD "config").depth ≤ Limits.copyDepth := by decide
    rintro step member ⟨config, given, deep⟩
    have shallow := flat step member
    rw [Fields.getD, given, Option.getD_some] at shallow
    exact absurd (of_decide_eq_true deep) (not_lt.mpr shallow)
  have types : (ofSteps (some "Plan") none (scattered.map .obj) 1 Supply.initial).1.map
      (fun graph => graph.nodes.map (·.type)) =
        .ok [.emailSend, .linkedinFollow, .linkedinVisit] := by rfl
  have arranges := arranges_ofSteps ordinary (some "Plan") none
  obtain ⟨graph, next, placed, made, arranged⟩ := arranges.built shallow 1 Supply.initial
  rw [made] at types
  exact ⟨arranges, graph, next, placed, made, arranged, Except.ok.inj types⟩

def crammed : Fields :=
  [("type", .str "linkedin_visit"), ("config", .obj [("k", Value.nested 500)])]

theorem crammed_not_arranged :
    crammed.Ordinary ∧
      (ofSteps (some "n") (some "c") [.obj crammed] 1 Supply.initial).1 =
        .error (.defect .tooDeep) := by
  have ordinary : crammed.Ordinary := ⟨⟨.linkedinVisit, rfl⟩, .inr ⟨_, rfl⟩, .inl rfl⟩
  have buried : crammed.Buried := by
    refine ⟨_, rfl, decide_eq_true ?_⟩
    simp [Limits.copyDepth, Value.depth, Value.depthFields, Value.depth_nested]
  have each : ∀ step ∈ [crammed], step.Ordinary := by simpa using ordinary
  exact ⟨ordinary, ofSteps_of_buried each ⟨_, List.mem_cons_self, buried⟩ _ _ _ _⟩

end

end Graph

end Outreach
