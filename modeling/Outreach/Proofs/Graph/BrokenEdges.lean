import Outreach.Proofs.Graph.Fallback

set_option autoImplicit false

namespace Outreach.Graph

variable {graph : Graph} {entry : Node}

theorem entered_of_precedes_source (wellFormed : graph.WellFormed)
    (single : graph.entries = [entry]) {source target : String}
    (leads : graph.Leads source target) (reached : graph.Reaches entry.id source)
    (broken : Precedes (graph.row entry) target source) :
    target ∈ (graph.linearize entry).fallback.cycleEntries ∧
      ∃ before after, graph.row entry = before ++ target :: after ∧
        graph.links.Stalled before ∧ graph.links.firstOpen? before = some target ∧
        (∃ circle, circle ∉ before ∧ graph.Path circle circle ∧ graph.Reaches circle source) ∧
        (graph.Path target source ∨
          ∃ placed ∈ before, ∃ other ∈ after, graph.Leads placed other ∧
            graph.Reaches other source) := by
  have member := entry_mem single
  have start := id_mem member
  have nodup := row_nodup wellFormed.unique member
  have emitted : target ∈ (graph.walk entry.id).emitted :=
    (wellFormed.mem_emitted start).mpr (reached.tail leads)
  obtain ⟨before, behind, split⟩ := List.append_of_mem emitted
  have whole : graph.row entry =
      before ++ target :: (behind ++ (graph.linearize entry).fallback.unreachable) := by
    rw [row_eq member, split, List.append_assoc, List.cons_append]
  have fresh : source ∉ before := by
    intro inside
    exact Precedes.irrefl nodup (broken.trans nodup (whole ▸ .of_mem inside))
  obtain ⟨-, isEntry⟩ | ⟨⟨earlier, placed⟩, ready | ⟨stalled, first, entered⟩⟩ :=
    (walk_finished start).placed.placement split
  · exact absurd (isEntry ▸ leads) (not_leads_entry single)
  · exact absurd (ready.sources source (wellFormed.mem_links.mpr leads)) fresh
  refine ⟨entered, before, _, whole, stalled, first, ?_, ?_⟩
  · -- When a circle is entered, all that is left lies behind circles that are left.
    exact exists_circle_unplaced wellFormed single placed.entry_mem stalled
      (wellFormed.source_mem leads) fresh
  · -- The way from the entry to the source leaves what was placed at a node to enter at.
    obtain ⟨last, other, inside, outside, leadsTo, path⟩ :=
      exists_leaving reached placed.entry_mem fresh
    by_cases same : other = target
    · subst same
      obtain loop | ⟨next, leadsNext, rest⟩ := path.cases_head
      · exact absurd (loop ▸ broken) (Precedes.irrefl nodup)
      · exact .inl (.head' leadsNext rest)
    · have somewhere := (mem_row wellFormed.unique member).mpr (wellFormed.target_mem leadsTo)
      rw [whole, List.mem_append, List.mem_cons] at somewhere
      have later := (somewhere.resolve_left outside).resolve_left same
      exact .inr ⟨last, inside, other, later, leadsTo, path⟩

instance : DecidableRel graph.Leads :=
  fun source target => inferInstanceAs
    (Decidable (∃ edge ∈ graph.edges, edge.source = source ∧ edge.target = target))

-- A step that merely follows a circle, drawn before the way into the circle.
def forked : Graph :=
  { id := "wf_x", name := "Forked"
    nodes := [Node.bare "visit" .linkedinVisit, Node.bare "mail" .linkedinVisit,
      Node.bare "connect" .linkedinFollow, Node.bare "follow" .linkedinFollow]
    edges := [⟨"e1", "visit", "mail"⟩, ⟨"e2", "visit", "connect"⟩, ⟨"e3", "connect", "follow"⟩,
      ⟨"e4", "follow", "connect"⟩, ⟨"e5", "follow", "mail"⟩]
    selected := none, campaign := none, created := 0, updated := 0 }

theorem forked_wellFormed : forked.WellFormed := ⟨by decide, by decide⟩

theorem forked_reaches : forked.Reaches "visit" "follow" :=
  .head (b := "connect") (by decide) (.single (by decide))

theorem forked_entered :
    forked.Leads "follow" "mail" ∧
      Precedes (forked.row (Node.bare "visit" .linkedinVisit)) "mail" "follow" ∧
      "mail" ∈ (forked.linearize (Node.bare "visit" .linkedinVisit)).fallback.cycleEntries ∧
      ∃ before after,
        forked.row (Node.bare "visit" .linkedinVisit) = before ++ "mail" :: after ∧
        forked.links.Stalled before ∧ forked.links.firstOpen? before = some "mail" ∧
        (∃ circle, circle ∉ before ∧ forked.Path circle circle ∧
          forked.Reaches circle "follow") ∧
        (forked.Path "mail" "follow" ∨
          ∃ placed ∈ before, ∃ other ∈ after, forked.Leads placed other ∧
            forked.Reaches other "follow") := by
  have leads : forked.Leads "follow" "mail" := by decide
  have broken : Precedes (forked.row (Node.bare "visit" .linkedinVisit)) "mail" "follow" := by
    simp only [Precedes]
    decide
  exact ⟨leads, broken,
    entered_of_precedes_source forked_wellFormed rfl leads forked_reaches broken⟩

theorem not_circle_of_precedes_source :
    ¬ ∀ (graph : Graph) (entry : Node) (source target : String), graph.WellFormed →
      graph.entries = [entry] → graph.Leads source target → graph.Reaches entry.id source →
      graph.Reaches entry.id target → Precedes (graph.row entry) target source →
      graph.Path target source := by
  intro broken
  have path : forked.Path "mail" "follow" := by
    refine broken forked (Node.bare "visit" .linkedinVisit) "follow" "mail" forked_wellFormed rfl
      (by decide) forked_reaches (forked_reaches.tail (by decide)) ?_
    simp only [Precedes]
    decide
  -- No edge leaves the step that was placed too early.
  obtain ⟨next, ⟨edge, member, source, -⟩, -⟩ := Relation.TransGen.head'_iff.mp path
  have none : ∀ edge ∈ forked.edges, edge.source ≠ "mail" := by decide
  exact none edge member source

end Outreach.Graph
