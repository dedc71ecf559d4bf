import Outreach.Proofs.Graph.LinearOrder

set_option autoImplicit false

namespace Outreach.Graph

variable {graph : Graph} {entry : Node}

theorem exists_circle_unplaced (wellFormed : graph.WellFormed) (single : graph.entries = [entry])
    {placed : List String} (start : entry.id ∈ placed) (stalled : graph.links.Stalled placed)
    {id : String} (member : id ∈ graph.ids) (fresh : id ∉ placed) :
    ∃ circle, circle ∉ placed ∧ graph.Path circle circle ∧ graph.Reaches circle id := by
  have behind : ∀ id ∈ graph.ids.filter (· ∉ placed),
      ∃ source ∈ graph.ids.filter (· ∉ placed), graph.Leads source id := by
    intro id inside
    obtain ⟨member, fresh⟩ := by simpa using inside
    have other : id ≠ entry.id := fun same => fresh (same ▸ start)
    obtain ⟨source, leads⟩ := exists_leads single member other
    -- Were all sources placed, the node would be ready.
    by_contra none
    refine fresh (stalled id ⟨⟨source, wellFormed.mem_links.mpr leads⟩, fun source link => ?_⟩)
    by_contra open_
    have leads := wellFormed.mem_links.mp link
    exact none ⟨source, by simpa using ⟨wellFormed.source_mem leads, open_⟩, leads⟩
  have left : id ∈ graph.ids.filter (· ∉ placed) := by simpa using ⟨member, fresh⟩
  obtain ⟨circle, inside, around, path⟩ := exists_circle_behind behind left
  exact ⟨circle, by simpa using (List.mem_filter.mp inside).2, around, path⟩

theorem fallback_isEmpty_iff :
    (graph.linearize entry).fallback.isEmpty = true ↔
      (graph.walk entry.id).cycleEntries = [] ∧
        (graph.linearize entry).fallback.unreachable = [] := by
  simp [Fallback.isEmpty, linearize]

theorem fallback_isEmpty_of_acyclic (wellFormed : graph.WellFormed)
    (single : graph.entries = [entry]) (acyclic : graph.Acyclic) :
    (graph.linearize entry).fallback.isEmpty = true := by
  have member := entry_mem single
  have finished := walk_finished (id_mem member)
  rw [fallback_isEmpty_iff]
  constructor
  · apply List.eq_nil_iff_forall_not_mem.mpr
    intro id entered
    obtain ⟨before, -, -, ⟨earlier, placed⟩, stalled, first⟩ :=
      finished.placed.placement_of_entered entered
    have inside := emitted_subset (id_mem member)
      (finished.placed.entered_subset entered)
    have fresh := (Links.firstOpen?_some first).1
    obtain ⟨circle, -, around, -⟩ :=
      exists_circle_unplaced wellFormed single placed.entry_mem stalled inside fresh
    exact acyclic circle around
  · apply List.eq_nil_iff_forall_not_mem.mpr
    intro id unreached
    obtain ⟨inside, fresh⟩ := (mem_unreachable member).mp unreached
    have start := finished.placed.entry_mem
    obtain ⟨circle, -, around, -⟩ :=
      exists_circle_unplaced wellFormed single start finished.stalled inside fresh
    exact acyclic circle around

theorem precedes_of_path (wellFormed : graph.WellFormed) (single : graph.entries = [entry])
    (regular : (graph.linearize entry).fallback.isEmpty = true) {source target : String}
    (path : graph.Path source target) :
    Precedes (graph.row entry) source target := by
  have member := entry_mem single
  have finished := walk_finished (id_mem member)
  obtain ⟨entered, unreached⟩ := fallback_isEmpty_iff.mp regular
  rw [row_eq member, unreached, List.append_nil]
  have forward {source target : String} (leads : graph.Leads source target) :
      Precedes (graph.walk entry.id).emitted source target := by
    have emitted : target ∈ (graph.walk entry.id).emitted := by
      by_contra fresh
      have missing := (mem_unreachable member).mpr ⟨wellFormed.target_mem leads, fresh⟩
      exact List.not_mem_nil (unreached ▸ missing)
    have notEntry : target ≠ entry.id := fun same => not_leads_entry single (same ▸ leads)
    have notEntered : target ∉ (graph.walk entry.id).cycleEntries := entered ▸ List.not_mem_nil
    exact finished.placed.precedes (wellFormed.mem_links.mpr leads) emitted notEntry notEntered
  induction path with
  | single leads => exact forward leads
  | tail _ leads ih => exact ih.trans finished.placed.nodup (forward leads)

theorem fallback_isEmpty_iff_acyclic (wellFormed : graph.WellFormed)
    (single : graph.entries = [entry]) :
    (graph.linearize entry).fallback.isEmpty = true ↔ graph.Acyclic := by
  constructor
  · intro regular id circle
    have nodup := row_nodup wellFormed.unique (entry_mem single)
    exact Precedes.irrefl nodup (precedes_of_path wellFormed single regular circle)
  · exact fallback_isEmpty_of_acyclic wellFormed single

end Outreach.Graph
