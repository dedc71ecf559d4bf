import Mathlib.Data.List.DropRight
import Outreach.Text.Blank

set_option autoImplicit false

namespace Outreach.Text

variable {drop : Char → Bool} {cs : List Char} {s : String}

theorem trimBy_eq (drop : Char → Bool) (cs : List Char) :
    trimBy drop cs = (cs.dropWhile drop).rdropWhile drop := rfl

theorem trimBy_trimBy : trimBy drop (trimBy drop cs) = trimBy drop cs := by
  -- What is dropped at the end leaves the first character, and that one was kept already.
  have keepsFirst : (trimBy drop cs).dropWhile drop = trimBy drop cs := by
    rw [trimBy_eq, List.dropWhile_eq_self_iff]
    intro inside
    have front : (cs.dropWhile drop).rdropWhile drop <+: cs.dropWhile drop :=
      List.rdropWhile_prefix _ _
    rw [front.getElem inside]
    have fixed := List.dropWhile_idempotent drop cs
    exact List.dropWhile_eq_self_iff.mp fixed _
  rw [trimBy_eq drop (trimBy drop cs), keepsFirst, trimBy_eq, List.rdropWhile_idempotent]

theorem strip_strip : strip (strip s) = strip s := by
  rw [strip, strip, String.toList_ofList, trimBy_trimBy]

theorem trimBy_of_forall (keep : ∀ c ∈ cs, drop c = false) : trimBy drop cs = cs := by
  have front : cs.dropWhile drop = cs := by
    rw [List.dropWhile_eq_self_iff]
    intro inside
    simp [keep _ (List.getElem_mem inside)]
  rw [trimBy_eq, front, List.rdropWhile_eq_self_iff]
  intro inside
  simp [keep _ (List.getLast_mem inside)]

theorem strip_of_forall (shown : ∀ c ∈ s.toList, isBlank c = false) : strip s = s := by
  rw [strip, trimBy_of_forall shown, String.ofList_toList]

theorem mem_dropWhile {c : Char} (member : c ∈ cs) (kept : drop c = false) :
    c ∈ cs.dropWhile drop := by
  rw [← List.takeWhile_append_dropWhile (p := drop) (l := cs), List.mem_append] at member
  obtain front | back := member
  · have dropped := List.mem_takeWhile_imp front
    rw [kept] at dropped
    cases dropped
  · exact back

theorem blank_strip (shown : blank s = false) : blank (strip s) = false := by
  obtain ⟨c, member, kept⟩ := List.all_eq_false.mp shown
  have kept : isBlank c = false := by simpa using kept
  rw [blank, strip, String.toList_ofList, trimBy, List.all_eq_false]
  refine ⟨c, ?_, by simp [kept]⟩
  have front := mem_dropWhile member kept
  exact List.mem_reverse.mpr (mem_dropWhile (List.mem_reverse.mpr front) kept)

end Outreach.Text
