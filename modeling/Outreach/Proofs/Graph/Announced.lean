import Outreach.Proofs.Graph.LinearOrder

set_option autoImplicit false

namespace Outreach.Graph

variable {graph : Graph} {entry : Node}

structure Violated (graph : Graph) (entry : Node) (source target : String) : Prop where
  leads : graph.Leads source target
  sourceKnown : source ∈ graph.ids
  targetKnown : target ∈ graph.ids
  broken : ¬ Precedes (graph.row entry) source target

theorem Violated.announced {source target : String}
    (violated : graph.Violated entry source target) (member : entry ∈ graph.nodes) :
    target = entry.id ∨ target ∈ (graph.linearize entry).fallback.cycleEntries ∨
      target ∈ (graph.linearize entry).fallback.unreachable := by
  by_cases isEntry : target = entry.id
  · exact .inl isEntry
  by_cases emitted : target ∈ (graph.walk entry.id).emitted
  · -- Behind the entry, only what was entered may stand before a source.
    refine .inr (.inl (Classical.not_not.mp fun notEntered => violated.broken ?_))
    have link := mem_links.mpr ⟨violated.leads, violated.sourceKnown, violated.targetKnown⟩
    have precedes :=
      (walk_finished (id_mem member)).placed.precedes link emitted isEntry notEntered
    rw [row_eq member]
    exact precedes.append_right _
  · exact .inr (.inr ((mem_unreachable member).mpr ⟨violated.targetKnown, emitted⟩))

theorem exists_violated_of_entered (unique : graph.ids.Nodup) (member : entry ∈ graph.nodes)
    {id : String} (entered : id ∈ (graph.linearize entry).fallback.cycleEntries) :
    ∃ source, graph.Violated entry source id := by
  have placed := (walk_finished (id_mem member)).placed
  have nodup := row_nodup unique member
  obtain ⟨source, link, broken⟩ := placed.exists_source_of_entered entered
  obtain ⟨leads, sourceKnown, targetKnown⟩ := mem_links.mp link
  refine ⟨source, leads, sourceKnown, targetKnown, fun precedes => broken ?_⟩
  rw [row_eq member] at nodup precedes
  exact precedes.of_append_right nodup (placed.entered_subset entered)

theorem fallback_not_isEmpty {id : String}
    (announced : id ∈ (graph.linearize entry).fallback.cycleEntries ∨
      id ∈ (graph.linearize entry).fallback.unreachable) :
    (graph.linearize entry).fallback.isEmpty = false := by
  rw [Fallback.isEmpty, Bool.and_eq_false_iff]
  obtain entered | unreached := announced
  · exact .inl (List.isEmpty_eq_false_iff_exists_mem.mpr ⟨id, entered⟩)
  · exact .inr (List.isEmpty_eq_false_iff_exists_mem.mpr ⟨id, unreached⟩)

theorem violations_announced (unique : graph.ids.Nodup) (member : entry ∈ graph.nodes) :
    (∀ source target, graph.Violated entry source target →
      target = entry.id ∨ (graph.linearize entry).fallback.isEmpty = false ∧
        (target ∈ (graph.linearize entry).fallback.cycleEntries ∨
          target ∈ (graph.linearize entry).fallback.unreachable)) ∧
      ∀ id ∈ (graph.linearize entry).fallback.cycleEntries,
        ∃ source, graph.Violated entry source id := by
  constructor
  · intro source target violated
    obtain isEntry | announced := violated.announced member
    · exact .inl isEntry
    · exact .inr ⟨fallback_not_isEmpty announced, announced⟩
  · intro id entered
    exact exists_violated_of_entered unique member entered

def tangled : Graph :=
  { id := "wf_x", name := "Tangled"
    nodes := [Node.bare "visit" .linkedinVisit, Node.bare "connect" .linkedinFollow,
      Node.bare "follow" .linkedinFollow, Node.bare "aside" .linkedinVisit]
    edges := [⟨"e1", "visit", "connect"⟩, ⟨"e2", "visit", "connect"⟩,
      ⟨"e3", "connect", "connect"⟩, ⟨"e4", "connect", "follow"⟩, ⟨"e5", "gone", "follow"⟩,
      ⟨"e6", "aside", "follow"⟩, ⟨"e7", "follow", "visit"⟩]
    selected := none, campaign := none, created := 0, updated := 0 }

theorem tangled_announced :
    tangled.ids.Nodup ∧ Node.bare "visit" .linkedinVisit ∈ tangled.nodes ∧
      tangled.Violated (Node.bare "visit" .linkedinVisit) "connect" "connect" ∧
      tangled.Violated (Node.bare "visit" .linkedinVisit) "follow" "visit" ∧
      (∀ source target, tangled.Violated (Node.bare "visit" .linkedinVisit) source target →
        target = "visit" ∨
          (tangled.linearize (Node.bare "visit" .linkedinVisit)).fallback.isEmpty = false ∧
          (target ∈ (tangled.linearize (Node.bare "visit" .linkedinVisit)).fallback.cycleEntries ∨
            target ∈
              (tangled.linearize (Node.bare "visit" .linkedinVisit)).fallback.unreachable)) ∧
      ∀ id ∈ (tangled.linearize (Node.bare "visit" .linkedinVisit)).fallback.cycleEntries,
        ∃ source, tangled.Violated (Node.bare "visit" .linkedinVisit) source id := by
  have unique : tangled.ids.Nodup := by decide
  have member : Node.bare "visit" .linkedinVisit ∈ tangled.nodes := by simp [tangled]
  refine ⟨unique, member, ?_, ?_, violations_announced unique member⟩
  · refine ⟨⟨⟨"e3", "connect", "connect"⟩, by simp [tangled], rfl, rfl⟩, by decide, by decide, ?_⟩
    simp only [Precedes]
    decide
  · refine ⟨⟨⟨"e7", "follow", "visit"⟩, by simp [tangled], rfl, rfl⟩, by decide, by decide, ?_⟩
    simp only [Precedes]
    decide

end Outreach.Graph
