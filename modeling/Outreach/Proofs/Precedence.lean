import Mathlib.Data.List.Nodup

set_option autoImplicit false

namespace Outreach

def Precedes {α : Type} (row : List α) (first second : α) : Prop := [first, second].Sublist row

namespace Precedes

variable {α : Type} {row before after : List α} {first second third : α}

theorem iff_append :
    Precedes row first second ↔
      ∃ left right, row = left ++ right ∧ first ∈ left ∧ second ∈ right := by
  rw [Precedes, ← List.singleton_append, List.append_sublist_iff]
  simp only [List.singleton_sublist]

theorem of_mem (member : first ∈ before) : Precedes (before ++ second :: after) first second :=
  iff_append.mpr ⟨before, second :: after, rfl, member, List.mem_cons_self⟩

theorem append_right (precedes : Precedes row first second) (more : List α) :
    Precedes (row ++ more) first second :=
  List.Sublist.trans precedes (List.sublist_append_left row more)

theorem right_mem (precedes : Precedes row first second) : second ∈ row :=
  precedes.subset (by simp)

theorem split_unique {others rest : List α} (nodup : row.Nodup)
    (split : row = before ++ second :: after) (same : row = others ++ second :: rest) :
    others = before ∧ rest = after := by
  rw [split, List.nodup_middle, List.nodup_cons, List.mem_append, not_or] at nodup
  rw [split] at same
  obtain ⟨left, -, right⟩ := (List.append_cons_inj_of_notMem nodup.1.1 nodup.1.2).mp same
  exact ⟨left.symm, right.symm⟩

theorem mem_before (precedes : Precedes row first second) (nodup : row.Nodup)
    (split : row = before ++ second :: after) : first ∈ before := by
  obtain ⟨left, right, same, firstMember, secondMember⟩ := iff_append.mp precedes
  obtain ⟨middle, rest, rfl⟩ := List.append_of_mem secondMember
  rw [← List.append_assoc] at same
  obtain ⟨rfl, -⟩ := split_unique nodup split same
  exact List.mem_append_left middle firstMember

theorem mem_after (precedes : Precedes row first second) (nodup : row.Nodup)
    (split : row = before ++ first :: after) : second ∈ after := by
  obtain ⟨left, right, same, firstMember, secondMember⟩ := iff_append.mp precedes
  obtain ⟨others, middle, rfl⟩ := List.append_of_mem firstMember
  rw [List.append_assoc, List.cons_append] at same
  obtain ⟨-, rfl⟩ := split_unique nodup split same
  exact List.mem_append_right middle secondMember

theorem of_append_right {more : List α} (precedes : Precedes (row ++ more) first second)
    (nodup : (row ++ more).Nodup) (member : second ∈ row) : Precedes row first second := by
  obtain ⟨left, right, rfl⟩ := List.append_of_mem member
  exact .of_mem (precedes.mem_before nodup (List.append_assoc left (second :: right) more))

theorem trans (nodup : row.Nodup) (left : Precedes row first second)
    (right : Precedes row second third) : Precedes row first third := by
  obtain ⟨before, after, split⟩ := List.append_of_mem left.right_mem
  have firstMember := left.mem_before nodup split
  have thirdMember := right.mem_after nodup split
  exact iff_append.mpr ⟨before, second :: after, split, firstMember,
    List.mem_cons_of_mem second thirdMember⟩

theorem irrefl (nodup : row.Nodup) : ¬ Precedes row first first := by
  intro precedes
  have pair := nodup.sublist precedes
  simp at pair

theorem asymm (nodup : row.Nodup) (precedes : Precedes row first second) :
    ¬ Precedes row second first :=
  fun back => irrefl nodup (precedes.trans nodup back)

theorem total (firstMember : first ∈ row) (secondMember : second ∈ row) (other : first ≠ second) :
    Precedes row first second ∨ Precedes row second first := by
  obtain ⟨before, after, rfl⟩ := List.append_of_mem firstMember
  rw [List.mem_append, List.mem_cons] at secondMember
  obtain left | same | right := secondMember
  · exact .inr (.of_mem left)
  · exact absurd same.symm other
  · exact .inl (iff_append.mpr ⟨before ++ [first], after, by simp, by simp, right⟩)

theorem congr_front {left right : List α} (precedes : Precedes (row ++ left) first second)
    (nodup : (row ++ left).Nodup) (member : second ∈ row) : Precedes (row ++ right) first second :=
  (precedes.of_append_right nodup member).append_right right

theorem index_lt (precedes : Precedes row first second) (nodup : row.Nodup) {i j : Nat}
    (firstPlaced : row[i]? = some first) (secondPlaced : row[j]? = some second) : i < j := by
  obtain ⟨left, right, rfl, firstMember, secondMember⟩ := iff_append.mp precedes
  obtain ⟨inLeft, firstFound⟩ := List.mem_iff_getElem?.mp firstMember
  obtain ⟨inRight, secondFound⟩ := List.mem_iff_getElem?.mp secondMember
  obtain ⟨leftBound, -⟩ := List.getElem?_eq_some_iff.mp firstFound
  obtain ⟨iBound, -⟩ := List.getElem?_eq_some_iff.mp firstPlaced
  obtain ⟨jBound, -⟩ := List.getElem?_eq_some_iff.mp secondPlaced
  -- An element of a row without repetitions has one place only.
  have firstIndex : i = inLeft := by
    apply (List.getElem?_inj iBound nodup).mp
    rw [firstPlaced, List.getElem?_append_left leftBound, firstFound]
  have secondIndex : j = left.length + inRight := by
    apply (List.getElem?_inj jBound nodup).mp
    rw [secondPlaced, List.getElem?_append_right (Nat.le_add_right _ _), Nat.add_sub_cancel_left,
      secondFound]
  omega

end Precedes

end Outreach
