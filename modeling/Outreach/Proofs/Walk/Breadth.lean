import Outreach.Proofs.Walk.Row

set_option autoImplicit false

namespace Outreach

namespace Links

structure Latest (links : Links) (row : List String) (link : String × String) : Prop where
  member : link ∈ links
  last : ∀ source, (source, link.2) ∈ links → source ≠ link.1 → Precedes row source link.1

def Sooner (links : Links) (row : List String) (link other : String × String) : Prop :=
  Precedes row link.1 other.1 ∨ link.1 = other.1 ∧ links.idxOf link < links.idxOf other

def BreadthFirst (links : Links) (entry : String) (row : List String) : Prop :=
  ∀ id ∈ row, ∀ other ∈ row, id ≠ entry → other ≠ entry → id ≠ other →
    ∃ source otherSource, links.Latest row (source, id) ∧ links.Latest row (otherSource, other) ∧
      (Precedes row id other ↔ links.Sooner row (source, id) (otherSource, other))

variable {links : Links} {entry id other source : String} {row more : List String}
  {link next : String × String}

theorem Sooner.asymm (nodup : row.Nodup) (sooner : links.Sooner row link next) :
    ¬ links.Sooner row next link := by
  rintro (back | ⟨same, back⟩)
  · obtain forth | ⟨same, -⟩ := sooner
    · exact forth.asymm nodup back
    · exact Precedes.irrefl nodup (same ▸ back)
  · obtain forth | ⟨-, forth⟩ := sooner
    · exact Precedes.irrefl nodup (same ▸ forth)
    · exact Nat.lt_asymm forth back

theorem Sooner.append_right (sooner : links.Sooner row link next) (more : List String) :
    links.Sooner (row ++ more) link next :=
  sooner.imp (·.append_right more) fun same => same

theorem Latest.append_right (latest : links.Latest row link) (more : List String) :
    links.Latest (row ++ more) link :=
  ⟨latest.member, fun source member others => (latest.last source member others).append_right more⟩

theorem Sooner.congr_front {left right : List String}
    (sooner : links.Sooner (row ++ left) link next) (nodup : (row ++ left).Nodup)
    (member : next.1 ∈ row) : links.Sooner (row ++ right) link next :=
  sooner.imp (·.congr_front nodup member) fun same => same

theorem Latest.congr_front {left right : List String} (latest : links.Latest (row ++ left) link)
    (nodup : (row ++ left).Nodup) (member : link.1 ∈ row) : links.Latest (row ++ right) link :=
  ⟨latest.member, fun source leads others =>
    (latest.last source leads others).congr_front nodup member⟩

theorem Latest.unique (nodup : row.Nodup) (latest : links.Latest row (source, id))
    (also : links.Latest row (other, id)) : other = source := by
  by_contra different
  have forth := latest.last other also.member different
  have back := also.last source latest.member (Ne.symm different)
  exact forth.asymm nodup back

theorem Ready.exists_latest (ready : links.Ready row id) :
    ∃ source ∈ row, links.Latest row (source, id) := by
  obtain ⟨first, link⟩ := ready.linked
  have some : first ∈ row.filter fun source => (source, id) ∈ links := by
    simpa [link] using ready.sources first link
  obtain none | ⟨others, source, ends⟩ :=
    (row.filter fun source => (source, id) ∈ links).eq_nil_or_concat'
  · rw [none] at some
    exact absurd some List.not_mem_nil
  · have found : source ∈ row ∧ (source, id) ∈ links := by
      have member : source ∈ row.filter fun source => (source, id) ∈ links := by simp [ends]
      simpa using member
    refine ⟨source, found.1, found.2, fun before leads different => ?_⟩
    have member : before ∈ others ++ [source] := by
      rw [← ends]
      simpa [leads] using ready.sources before leads
    have earlier : before ∈ others := by simpa [different] using member
    have precedes : Precedes (others ++ [source]) before source := .of_mem earlier
    exact List.Sublist.trans (ends ▸ precedes) List.filter_sublist

theorem pairwise_successors (simple : links.Nodup) (id : String) :
    (links.successors id).Pairwise fun target other =>
      links.idxOf (id, target) < links.idxOf (id, other) := by
  have indexed : links.Pairwise fun link next => links.idxOf link < links.idxOf next := by
    rw [List.pairwise_iff_forall_sublist]
    intro link next precedes
    exact Precedes.index_lt precedes simple
      (List.getElem?_idxOf (precedes.subset (by simp)))
      (List.getElem?_idxOf (precedes.subset (by simp)))
  rw [successors, List.pairwise_map]
  refine List.Pairwise.imp_of_mem ?_ (indexed.filter _)
  intro link next member nextMember less
  obtain rfl : link.1 = id := by simpa using (List.mem_filter.mp member).2
  obtain same : next.1 = link.1 := by simpa using (List.mem_filter.mp nextMember).2
  have second : (link.1, next.2) = next := by rw [← same]
  rwa [second]

end Links

namespace Walk

variable {links : Links} {entry id : String} {walk next : Walk} {rest : List String}

def Follows (links : Links) (row : List String) (id other : String) : Prop :=
  ∃ source otherSource, links.Latest row (source, id) ∧ links.Latest row (otherSource, other) ∧
    links.Sooner row (source, id) (otherSource, other)

theorem Follows.append_right {row : List String} {other : String}
    (follows : Follows links row id other) (more : List String) :
    Follows links (row ++ more) id other := by
  obtain ⟨source, otherSource, latest, otherLatest, sooner⟩ := follows
  exact ⟨source, otherSource, latest.append_right more, otherLatest.append_right more,
    sooner.append_right more⟩

structure Layered (links : Links) (entry : String) (walk : Walk) : Prop where
  ready : ∀ id ∈ walk.row, id ≠ entry → links.Ready walk.emitted id
  ordered : walk.row.Pairwise fun id other => id ≠ entry → Follows links walk.row id other

theorem layered_start (links : Links) (entry : String) : (start entry).Layered links entry where
  ready := by
    intro id member other
    exact absurd (List.mem_singleton.mp member) other
  ordered := List.pairwise_singleton _ entry

section Emission

variable (layered : walk.Layered links entry) (counted : walk.Counted links)
  (queue : walk.queue = id :: rest)

include counted queue

-- The emitted node is the last source of all that joins with it.
theorem latest_of_joined {other : String} (member : other ∈ walk.joined links id) :
    links.Latest walk.row (id, other) := by
  obtain ⟨link, ready, -⟩ := (counted.mem_joined queue).mp member
  refine ⟨link, fun source leads different => ?_⟩
  have before : source ∈ walk.emitted := by
    simpa [different] using ready.sources source leads
  rw [row_eq queue, List.append_assoc]
  exact .of_mem before

include layered

theorem Layered.emission (simple : links.Nodup) :
    (walk.emission links id rest).Layered links entry where
  ready := by
    intro other member notEntry
    rw [row_emission queue, List.mem_append] at member
    obtain before | joins := member
    · exact (layered.ready other before notEntry).mono (List.subset_append_left _ _)
    · exact ((counted.mem_joined queue).mp joins).2.1
  ordered := by
    rw [row_emission queue, List.pairwise_append]
    have latest {other : String} (joins : other ∈ walk.joined links id) :
        links.Latest (walk.row ++ walk.joined links id) (id, other) :=
      (latest_of_joined counted queue joins).append_right _
    refine ⟨layered.ordered.imp fun follows notEntry => (follows notEntry).append_right _, ?_, ?_⟩
    · have inside : (walk.joined links id).Sublist (links.successors id) :=
        (List.dedup_sublist _).trans List.filter_sublist
      refine List.Pairwise.imp_of_mem ?_ ((links.pairwise_successors simple id).sublist inside)
      intro first second firstJoins secondJoins less _
      exact ⟨id, id, latest firstJoins, latest secondJoins, .inr ⟨rfl, less⟩⟩
    · -- The sources of what stood there before were emitted before.
      intro first before second joins notEntry
      obtain ⟨source, emitted, found⟩ := (layered.ready first before notEntry).exists_latest
      have precedes : Precedes (walk.row ++ walk.joined links id) source id := by
        rw [row_eq queue, List.append_assoc, List.append_assoc]
        exact .of_mem emitted
      refine ⟨source, id, ?_, latest joins, .inl precedes⟩
      rw [row, List.append_assoc]
      exact found.append_right _

end Emission

-- A walk that enters a circle remembers it, so one without circles never did.
theorem layered_step (steady : walk.Steady links entry) (simple : links.Nodup)
    (layered : walk.cycleEntries = [] → walk.Layered links entry)
    (stepped : walk.step? links = some next) (clear : next.cycleEntries = []) :
    next.Layered links entry := by
  obtain ⟨id, rest, queue, rfl⟩ | ⟨-, id, -, rfl⟩ := steady.counted.step?_cases stepped
  · exact (layered clear).emission steady.counted queue simple
  · simp [enter] at clear

theorem layered_run (steady : walk.Steady links entry) (simple : links.Nodup)
    (layered : walk.cycleEntries = [] → walk.Layered links entry) (fuel : Nat)
    (clear : (walk.run links fuel).cycleEntries = []) :
    (walk.run links fuel).Layered links entry := by
  induction fuel generalizing walk with
  | zero => exact layered clear
  | succ fuel ih =>
    rw [run] at clear ⊢
    cases stepped : walk.step? links with
    | none =>
      rw [stepped] at clear
      exact layered clear
    | some next =>
      rw [stepped] at clear
      exact ih (steady.step stepped) (layered_step steady simple layered stepped) clear

theorem Layered.breadthFirst (layered : walk.Layered links entry) (nodup : walk.row.Nodup) :
    links.BreadthFirst entry walk.row := by
  have follows {first second : String} (precedes : Precedes walk.row first second)
      (notEntry : first ≠ entry) : Follows links walk.row first second :=
    List.pairwise_iff_forall_sublist.mp layered.ordered precedes notEntry
  intro first member second secondMember notEntry secondNotEntry different
  obtain forth | back := Precedes.total member secondMember different
  · obtain ⟨source, otherSource, latest, otherLatest, sooner⟩ := follows forth notEntry
    exact ⟨source, otherSource, latest, otherLatest, iff_of_true forth sooner⟩
  · obtain ⟨otherSource, source, otherLatest, latest, sooner⟩ := follows back secondNotEntry
    exact ⟨source, otherSource, latest, otherLatest,
      iff_of_false (back.asymm nodup) (sooner.asymm nodup)⟩

end Walk

namespace Links

structure Layout (links : Links) (entry : String) (row : List String) : Prop where
  nodup : row.Nodup
  starts : row.head? = some entry
  sources : ∀ source target, (source, target) ∈ links → source ∈ row
  ordered : links.BreadthFirst entry row

variable {links : Links} {entry id other source : String} {row done rest others : List String}

theorem not_precedes_head (nodup : row.Nodup) (starts : row.head? = some entry) :
    ¬ Precedes row id entry := by
  intro precedes
  obtain ⟨rest, rfl⟩ := List.head?_eq_some_iff.mp starts
  exact absurd (precedes.mem_before nodup (List.nil_append _).symm) List.not_mem_nil

namespace Layout

variable (noLoop : ∀ id, (id, id) ∉ links)

include noLoop

-- Were a last source behind its node, so would be its own last source, and so on without end.
theorem latest_precedes (layout : links.Layout entry row) {before after : List String}
    (split : row = before ++ id :: after) (notEntry : id ≠ entry)
    (latest : links.Latest row (source, id)) : Precedes row source id := by
  induction size : after.length using Nat.strongRecOn generalizing id source before after with
  | ind _ ih =>
    by_contra behind
    have member : id ∈ row := by simp [split]
    have inside : source ∈ row := layout.sources _ _ latest.member
    have different : id ≠ source := fun same => noLoop id (same ▸ latest.member)
    have back : Precedes row id source :=
      (Precedes.total member inside different).resolve_right behind
    have notFirst : source ≠ entry := fun same =>
      not_precedes_head layout.nodup layout.starts (same ▸ back)
    obtain ⟨first, second, firstLatest, secondLatest, agree⟩ :=
      layout.ordered id member source inside notEntry notFirst different
    obtain rfl := latest.unique layout.nodup firstLatest
    obtain ⟨middle, last, rfl⟩ := List.append_of_mem (back.mem_after layout.nodup split)
    have later : row = (before ++ id :: middle) ++ first :: last := by simp [split]
    have shorter : last.length < (middle ++ first :: last).length := by
      rw [List.length_append, List.length_cons]
      omega
    have ahead : Precedes row second first := ih _ (size ▸ shorter) later notFirst secondLatest rfl
    obtain forth | ⟨same, -⟩ := agree.mp back
    · exact forth.asymm layout.nodup ahead
    · obtain rfl : first = second := same
      exact noLoop first secondLatest.member

theorem precedes (layout : links.Layout entry row) (member : id ∈ row) (notEntry : id ≠ entry)
    (link : (source, id) ∈ links) : Precedes row source id := by
  have ready : links.Ready row id := ⟨⟨source, link⟩, fun source => layout.sources source id⟩
  obtain ⟨last, -, latest⟩ := ready.exists_latest
  obtain ⟨before, after, split⟩ := List.append_of_mem member
  have precedes := layout.latest_precedes noLoop split notEntry latest
  by_cases same : source = last
  · rwa [same]
  · exact (latest.last source link same).trans layout.nodup precedes

-- All sources of the next node are done, so what is done says which node it is.
theorem next_eq (left : links.Layout entry (done ++ id :: rest))
    (right : links.Layout entry (done ++ other :: others))
    (perm : (other :: others).Perm (id :: rest)) (inside : entry ∈ done) : other = id := by
  by_contra different
  have outside : id ∉ done ∧ other ∉ done :=
    ⟨fun member => (List.nodup_append'.mp left.nodup).2.2 member List.mem_cons_self,
      fun member => (List.nodup_append'.mp right.nodup).2.2 member List.mem_cons_self⟩
  have notEntry : id ≠ entry := fun same => outside.1 (same ▸ inside)
  have otherNotEntry : other ≠ entry := fun same => outside.2 (same ▸ inside)
  have otherLater : other ∈ rest :=
    (List.mem_cons.mp (perm.subset List.mem_cons_self)).resolve_left different
  have later : id ∈ others :=
    (List.mem_cons.mp (perm.symm.subset List.mem_cons_self)).resolve_left (Ne.symm different)
  have forth : Precedes (done ++ id :: rest) id other :=
    Precedes.iff_append.mpr ⟨done ++ [id], rest, by simp, by simp, otherLater⟩
  have back : Precedes (done ++ other :: others) other id :=
    Precedes.iff_append.mpr ⟨done ++ [other], others, by simp, by simp, later⟩
  obtain ⟨source, otherSource, latest, otherLatest, agree⟩ :=
    left.ordered id (by simp) other forth.right_mem notEntry otherNotEntry (Ne.symm different)
  obtain ⟨source', otherSource', latest', otherLatest', agree'⟩ :=
    right.ordered id back.right_mem other (by simp) notEntry otherNotEntry (Ne.symm different)
  have sourceDone : source ∈ done :=
    (left.precedes noLoop (by simp) notEntry latest.member).mem_before left.nodup rfl
  have otherDone : otherSource' ∈ done :=
    (right.precedes noLoop (by simp) otherNotEntry otherLatest'.member).mem_before right.nodup rfl
  obtain rfl := (latest.congr_front left.nodup sourceDone).unique right.nodup latest'
  obtain rfl := (otherLatest'.congr_front right.nodup otherDone).unique left.nodup otherLatest
  have sooner : links.Sooner (done ++ other :: others) (source', id) (otherSource, other) :=
    (agree.mp forth).congr_front left.nodup otherDone
  exact (agree'.mpr sooner).asymm right.nodup back

theorem rest_eq (left : links.Layout entry (done ++ rest))
    (right : links.Layout entry (done ++ others)) (perm : others.Perm rest)
    (inside : entry ∈ done) : others = rest := by
  induction rest generalizing done others with
  | nil => exact perm.eq_nil
  | cons id rest ih =>
    cases others with
    | nil => exact perm.symm.eq_nil.symm
    | cons other others =>
      obtain rfl := next_eq noLoop left right perm inside
      rw [List.append_cons] at left right
      rw [ih left right perm.cons_inv (List.mem_append_left _ inside)]

theorem unique (left : links.Layout entry row) (right : links.Layout entry others)
    (perm : others.Perm row) : others = row := by
  obtain ⟨rest, rfl⟩ := List.head?_eq_some_iff.mp left.starts
  obtain ⟨more, rfl⟩ := List.head?_eq_some_iff.mp right.starts
  have inside : entry ∈ [entry] := List.mem_singleton_self entry
  rw [rest_eq noLoop left right perm.cons_inv inside]

end Layout

end Links

end Outreach
