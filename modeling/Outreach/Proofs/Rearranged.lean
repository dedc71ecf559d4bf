import Mathlib.Data.List.Perm.Basic
import Outreach.Sort.Adaptive

set_option autoImplicit false

namespace Outreach.Sort

variable {α : Type} {less : Comparison α} {items others left right done : List α} {item : α}

def Apart (less : Comparison α) (items : List α) : Prop :=
  ∃ a ∈ items, ∃ b ∈ items, less a b = none

theorem Apart.mono (apart : Apart less items) (inside : items ⊆ others) : Apart less others := by
  obtain ⟨a, inA, b, inB, undefined⟩ := apart
  exact ⟨a, inside inA, b, inside inB, undefined⟩

inductive Rearranges (less : Comparison α) (items : List α) : Option (List α) → Prop
  | row {row : List α} (perm : row.Perm items) : Rearranges less items (some row)
  | apart (apart : Apart less items) : Rearranges less items none

theorem Rearranges.perm {result : Option (List α)} (rearranges : Rearranges less items result)
    (same : items.Perm others) : Rearranges less others result := by
  cases rearranges with
  | row perm => exact .row (perm.trans same)
  | apart apart => exact .apart (apart.mono same.subset)

theorem Rearranges.split {β : Type} {result : Option β} {all : β → List α}
    (rearranges : Rearranges less items (result.map all)) :
    (result = none ∧ Apart less items) ∨ ∃ found, result = some found ∧ (all found).Perm items := by
  cases result with
  | none =>
    cases rearranges with
    | apart apart => exact .inl ⟨rfl, apart⟩
  | some found =>
    cases rearranges with
    | row perm => exact .inr ⟨found, rfl, perm⟩

theorem Rearranges.bind {β γ : Type} {result : Option β} {all : β → List α} {next : β → Option γ}
    {last : γ → List α} (rearranges : Rearranges less items (result.map all))
    (inside : items ⊆ others)
    (step : ∀ found, result = some found → (all found).Perm items →
      Rearranges less others ((next found).map last)) :
    Rearranges less others ((result.bind next).map last) := by
  obtain ⟨rfl, apart⟩ | ⟨found, rfl, perm⟩ := rearranges.split
  · exact .apart (apart.mono inside)
  · exact step found rfl perm

section Places

variable {beyond goesOn : Nat → Option Bool} {low high most last step count hint : Nat}

theorem exists_of_halve_eq_none (undefined : halve beyond low high = none) :
    ∃ i < high, beyond i = none := by
  induction low, high using halve.induct beyond with
  | case1 low high more middle none => exact ⟨middle, by omega, none⟩
  | case2 low high more middle after ih =>
    rw [halve, if_pos more] at undefined
    simp only [middle] at after ih
    simp only [after] at undefined
    obtain ⟨i, bound, none⟩ := ih undefined
    exact ⟨i, by omega, none⟩
  | case3 low high more middle before ih =>
    rw [halve, if_pos more] at undefined
    simp only [middle] at before ih
    simp only [before] at undefined
    exact ih undefined
  | case4 low high done =>
    rw [halve, if_neg done] at undefined
    cases undefined

theorem exists_of_leap_eq_none (undefined : leap goesOn most last step = none) :
    ∃ i < most, goesOn i = none := by
  induction last, step using leap.induct goesOn most with
  | case1 last step more none => exact ⟨step, more, none⟩
  | case2 last step more on ih =>
    rw [leap, if_pos more, on] at undefined
    exact ih undefined
  | case3 last step more off =>
    rw [leap, if_pos more, off] at undefined
    cases undefined
  | case4 last step done =>
    rw [leap, if_neg done] at undefined
    cases undefined

theorem leap_le {place : Nat × Nat} (found : leap goesOn most last step = some place) :
    place.2 ≤ most := by
  induction last, step using leap.induct goesOn most with
  | case1 last step more none =>
    rw [leap, if_pos more, none] at found
    cases found
  | case2 last step more on ih =>
    rw [leap, if_pos more, on] at found
    exact ih found
  | case3 last step more off =>
    rw [leap, if_pos more, off] at found
    cases found
    exact Nat.le_of_lt more
  | case4 last step done =>
    rw [leap, if_neg done] at found
    cases found
    exact Nat.le_refl most

theorem exists_of_search_eq_none (inside : hint < count)
    (undefined : search beyond count hint = none) : ∃ i < count, beyond i = none := by
  rw [search] at undefined
  split at undefined
  · rename_i none
    exact ⟨hint, inside, none⟩
  · rw [Option.bind_eq_none_iff] at undefined
    cases found : leap (fun step => beyond (hint - step)) (hint + 1) 0 1 with
    | none =>
      obtain ⟨i, bound, none⟩ := exists_of_leap_eq_none found
      exact ⟨hint - i, by omega, none⟩
    | some place =>
      obtain ⟨i, bound, none⟩ := exists_of_halve_eq_none (undefined place found)
      exact ⟨i, by omega, none⟩
  · rw [Option.bind_eq_none_iff] at undefined
    cases found : leap (fun step => (beyond (hint + step)).map (!·)) (count - hint) 0 1 with
    | none =>
      obtain ⟨i, bound, none⟩ := exists_of_leap_eq_none found
      exact ⟨hint + i, by omega, Option.map_eq_none_iff.mp none⟩
    | some place =>
      have most := leap_le found
      obtain ⟨i, bound, none⟩ := exists_of_halve_eq_none (undefined place found)
      exact ⟨i, by omega, none⟩

end Places

theorem exists_of_isAfter_eq_none {place : Nat} (inside : place < items.length)
    (undefined : isAfter less item items place = none) : ∃ b ∈ items, less item b = none := by
  rw [isAfter, List.getElem?_eq_getElem inside] at undefined
  exact ⟨_, List.getElem_mem inside, undefined⟩

theorem apart_of_upTo? {hint : Nat} (inside : hint < others.length)
    (undefined : upTo? less item others hint = none) : Apart less (item :: others) := by
  obtain ⟨place, bound, none⟩ := exists_of_search_eq_none inside undefined
  obtain ⟨b, inB, none⟩ := exists_of_isAfter_eq_none bound none
  exact ⟨item, List.mem_cons_self, b, List.mem_cons_of_mem _ inB, none⟩

theorem apart_of_below? {hint : Nat} (inside : hint < others.length)
    (undefined : below? less item others hint = none) : Apart less (item :: others) := by
  obtain ⟨place, bound, none⟩ := exists_of_search_eq_none inside undefined
  rw [List.getElem?_eq_getElem bound, Option.map_eq_none_iff] at none
  exact ⟨_, List.mem_cons_of_mem _ (List.getElem_mem bound), item, List.mem_cons_self, none⟩

theorem rearranges_insert (sorted : List α) (item : α) :
    Rearranges less (item :: sorted) (insert less sorted item) := by
  rw [insert]
  cases found : halve (isAfter less item sorted) 0 sorted.length with
  | none =>
    obtain ⟨place, bound, none⟩ := exists_of_halve_eq_none found
    obtain ⟨b, inB, none⟩ := exists_of_isAfter_eq_none bound none
    exact .apart ⟨item, List.mem_cons_self, b, List.mem_cons_of_mem _ inB, none⟩
  | some place =>
    refine .row (List.perm_middle.trans (.cons item (.of_eq ?_)))
    exact List.take_append_drop place sorted

theorem rearranges_foldlM_insert (run rest : List α) :
    Rearranges less (run ++ rest) (rest.foldlM (insert less) run) := by
  induction rest generalizing run with
  | nil => exact .row (.of_eq (List.append_nil run).symm)
  | cons item rest ih =>
    rw [List.foldlM_cons]
    have inserts : Rearranges less (item :: run) (insert less run item) :=
      rearranges_insert run item
    have same : ((item :: run) ++ rest).Perm (run ++ item :: rest) := List.perm_middle.symm
    generalize insert less run item = inserted at inserts
    cases inserts with
    | apart apart =>
      have front : item :: run ⊆ item :: run ++ rest := List.subset_append_left _ _
      exact .apart (apart.mono (List.Subset.trans front same.subset))
    | row perm => exact (ih _).perm ((perm.append_right rest).trans same)

theorem rearranges_extend (less : Comparison α) (falling : Bool) (last : α) (items : List α) :
    Rearranges less (last :: items)
      ((extend less falling last items).map fun (run, rest) => last :: run ++ rest) := by
  induction items generalizing last with
  | nil => exact .row (.refl _)
  | cons next rest ih =>
    rw [extend]
    split
    · rename_i undefined
      exact .apart ⟨next, by simp, last, by simp, undefined⟩
    · split
      · obtain ⟨none, apart⟩ | ⟨found, same, perm⟩ := (ih next).split
        · rw [none]
          exact .apart (apart.mono (List.subset_cons_self _ _))
        · rw [same]
          exact .row (.cons last perm)
      · exact .row (.refl _)

theorem rearranges_frontRun (less : Comparison α) (items : List α) :
    Rearranges less items ((frontRun less items).map fun (run, rest) => run ++ rest) := by
  match items with
  | [] => exact .row (.refl _)
  | [item] => exact .row (.refl _)
  | first :: second :: items =>
    rw [frontRun]
    split
    · rename_i undefined
      exact .apart ⟨second, by simp, first, by simp, undefined⟩
    · rename_i falling compared
      obtain ⟨none, apart⟩ | ⟨⟨run, rest⟩, same, perm⟩ :=
        (rearranges_extend less falling second items).split
      · rw [none]
        exact .apart (apart.mono (List.subset_cons_self _ _))
      · rw [same]
        refine .row (.trans ?_ (perm.cons first))
        cases falling with
        | false => exact .refl _
        | true => exact (List.reverse_perm (first :: second :: run)).append_right rest

theorem frontRun_ne_nil {run rest : List α} (shown : items ≠ [])
    (front : frontRun less items = some (run, rest)) : run ≠ [] := by
  rintro rfl
  match items with
  | [] => exact shown rfl
  | [item] => cases front
  | first :: second :: items =>
    rw [frontRun] at front
    split at front
    · cases front
    · rename_i falling compared
      obtain ⟨⟨run, behind⟩, -, same⟩ := Option.map_eq_some_iff.mp front
      cases falling <;> simp at same

theorem rearranges_sort? (items : List α) : Rearranges less items (sort? less items) := by
  rw [sort?]
  obtain ⟨none, apart⟩ | ⟨⟨run, rest⟩, front, perm⟩ :=
    (rearranges_frontRun less items).split
  · rw [none]
    exact .apart apart
  · rw [front]
    exact (rearranges_foldlM_insert run rest).perm perm

abbrev Merges (less : Comparison α) (items : List α) (merged : Merged α) : Prop :=
  Rearranges less items (merged.map (·.1))

theorem Merges.row {row : List α} {patience : Nat} (perm : row.Perm items) :
    Merges less items (some (row, patience)) := Rearranges.row perm

theorem Merges.perm {merged : Merged α} (merges : Merges less items merged)
    (same : items.Perm others) : Merges less others merged := Rearranges.perm merges same

theorem Merges.none (apart : Apart less items) (inside : items ⊆ others) :
    Merges less others none := Rearranges.apart (apart.mono inside)

section Parts

variable (left right done : List α)

theorem perm_of_takeLeft (a : α) : (a :: done ++ left ++ right).Perm (done ++ a :: left ++ right) :=
  List.perm_middle.symm.append_right right

theorem perm_of_takeRight (b : α) :
    (b :: done ++ left ++ right).Perm (done ++ left ++ b :: right) := List.perm_middle.symm

theorem perm_of_stretch (count : Nat) (items : List α) :
    ((items.take count).reverse ++ done ++ items.drop count).Perm (done ++ items) := by
  have front : ((items.take count).reverse ++ done).Perm (done ++ items.take count) :=
    ((List.reverse_perm _).append_right done).trans List.perm_append_comm
  have whole : done ++ items.take count ++ items.drop count = done ++ items := by
    rw [List.append_assoc, List.take_append_drop]
  exact (front.append_right _).trans (.of_eq whole)

theorem perm_of_stretchLeft (count : Nat) :
    ((left.take count).reverse ++ done ++ left.drop count ++ right).Perm (done ++ left ++ right) :=
  (perm_of_stretch done count left).append_right right

theorem perm_of_stretchRight (count : Nat) :
    ((right.take count).reverse ++ done ++ left ++ right.drop count).Perm
      (done ++ left ++ right) := by
  have swapped : (done ++ right ++ left).Perm (done ++ left ++ right) := by
    rw [List.append_assoc, List.append_assoc]
    exact List.perm_append_comm.append_left done
  have moved := (perm_of_stretch done count right).append_right left
  rw [List.append_assoc] at moved
  rw [List.append_assoc]
  exact ((List.perm_append_comm.append_left _).trans moved).trans swapped

-- What was merged from the front stands last item first.
theorem perm_of_front : (done.reverse ++ left ++ right).Perm (done ++ left ++ right) :=
  ((List.reverse_perm done).append_right left).append_right right

theorem perm_of_front_swapped : (done.reverse ++ right ++ left).Perm (done ++ left ++ right) := by
  have swapped : (done.reverse ++ right ++ left).Perm (done.reverse ++ left ++ right) := by
    rw [List.append_assoc, List.append_assoc]
    exact List.perm_append_comm.append_left done.reverse
  exact swapped.trans (perm_of_front left right done)

theorem perm_of_back : (left.reverse ++ right.reverse ++ done).Perm (done ++ left ++ right) := by
  rw [List.append_assoc done]
  exact (((List.reverse_perm left).append (List.reverse_perm right)).append_right done).trans
    List.perm_append_comm

theorem perm_of_back_swapped :
    (right.reverse ++ left.reverse ++ done).Perm (done ++ left ++ right) :=
  (List.perm_append_comm.append_right done).trans (perm_of_back left right done)

end Parts

-- With so much fuel a merge from the front keeps all items.
def FrontMerges (less : Comparison α) (fuel : Nat) : Prop :=
  ∀ patience pace left right done, left.length ≠ 1 → (pace = .stretch → left ≠ []) →
    Merges less (done ++ left ++ right) (mergeFront less fuel patience pace left right done)

theorem FrontMerges.single {fuel : Nat} (merges : FrontMerges less fuel)
    (patience wonLeft wonRight : Nat) (a : α) (left : List α) (b : α) (right done : List α)
    (several : left ≠ []) :
    Merges less (done ++ a :: left ++ b :: right)
      (mergeFront less (fuel + 1) patience (.single wonLeft wonRight) (a :: left) (b :: right)
        done) := by
  have two : (a :: left).length ≠ 1 := by simpa using several
  have takeLeft := perm_of_takeLeft left (b :: right) done a
  have takeRight := perm_of_takeRight (a :: left) right done b
  rw [mergeFront]
  split
  · rename_i undefined
    exact .apart ⟨b, by simp, a, by simp, undefined⟩
  · split
    · rename_i last
      obtain rfl : right = [] := List.isEmpty_iff.mp last
      have laid := (perm_of_front (a :: left) [] (b :: done)).trans takeRight
      exact .row (by simpa using laid)
    · split
      · exact (merges _ _ _ _ _ two (by simp)).perm takeRight
      · exact (merges _ _ _ _ _ two (by simp)).perm takeRight
  · split
    · exact .row ((perm_of_front_swapped left (b :: right) (a :: done)).trans takeLeft)
    · rename_i more
      split
      · exact (merges _ _ _ _ _ more fun _ => several).perm takeLeft
      · exact (merges _ _ _ _ _ more (by simp)).perm takeLeft

-- Behind both stretches, the item of the left run that ended the second one comes first.
theorem FrontMerges.onwards {fuel : Nat} (merges : FrontMerges less fuel) (patience : Nat)
    (long : Bool) (a : α) (left right done : List α) (shown : left ≠ [])
    (moved : (done ++ a :: left ++ right).Perm items) :
    Merges less items
      (if right.isEmpty then some (done.reverse ++ a :: left, patience)
      else if left.length = 1 then some ((a :: done).reverse ++ right ++ left, patience)
      else if long then mergeFront less fuel patience .stretch left right (a :: done)
      else mergeFront less fuel (patience + 1) (.single 0 0) left right (a :: done)) := by
  have takeLeft := (perm_of_takeLeft left right done a).trans moved
  split
  · rename_i none
    obtain rfl : right = [] := List.isEmpty_iff.mp none
    have laid := (perm_of_front (a :: left) [] done).trans moved
    exact .row (by simpa using laid)
  · split
    · exact .row ((perm_of_front_swapped left right (a :: done)).trans takeLeft)
    · rename_i two
      split
      · exact (merges _ _ _ _ _ two fun _ => shown).perm takeLeft
      · exact (merges _ _ _ _ _ two (by simp)).perm takeLeft

theorem FrontMerges.stretch {fuel : Nat} (merges : FrontMerges less fuel) (patience : Nat)
    (left : List α) (b : α) (right done : List α) (several : left.length ≠ 1) (shown : left ≠ []) :
    Merges less (done ++ left ++ b :: right)
      (mergeFront less (fuel + 1) patience .stretch left (b :: right) done) := by
  simp only [mergeFront]
  split
  · rename_i undefined
    refine .none (apart_of_upTo? (List.length_pos_of_ne_nil shown) undefined) ?_
    simp
  · rename_i count found
    have stretched := perm_of_stretchLeft left (b :: right) done count
    generalize (left.take count).reverse ++ done = begun at stretched ⊢
    split
    · rename_i used
      rw [used] at stretched
      have laid := (perm_of_front [] (b :: right) begun).trans stretched
      exact .row (by simpa using laid)
    · rename_i a rest cut
      rw [cut] at stretched
      have taken := (perm_of_takeRight (a :: rest) right begun b).trans stretched
      split
      · rename_i last
        obtain rfl : rest = [] := List.isEmpty_iff.mp (Bool.and_eq_true_iff.mp last).1
        exact .row ((perm_of_front_swapped [a] (b :: right) begun).trans stretched)
      · rename_i more
        split
        · rename_i last
          obtain rfl : right = [] := List.isEmpty_iff.mp last
          have laid := (perm_of_front (a :: rest) [] (b :: begun)).trans taken
          exact .row (by simpa using laid)
        · rename_i some
          split
          · rename_i undefined
            have inside : 0 < right.length := List.length_pos_iff.mpr (by simpa using some)
            refine .none (apart_of_below? inside undefined) fun item member => taken.subset ?_
            grind
          · rename_i other reached
            have moved := (perm_of_stretchRight (a :: rest) right (b :: begun) other).trans taken
            have behind : rest ≠ [] := by
              -- Were nothing left behind the item, it would have been alone.
              rintro rfl
              have whole : count = 0 := by simpa using more
              rw [whole, List.drop_zero] at cut
              exact several (by rw [cut]; rfl)
            exact merges.onwards _ _ a rest _ _ behind moved

theorem frontMerges (less : Comparison α) (fuel : Nat) : FrontMerges less fuel := by
  induction fuel with
  | zero =>
    intro patience pace left right done several given
    rw [mergeFront]
    · exact .row (perm_of_front left right done)
    · simp
    · simp
  | succ fuel ih =>
    intro patience pace left right done several given
    match pace, left, right with
    | .single wonLeft wonRight, a :: left, b :: right =>
      exact ih.single patience wonLeft wonRight a left b right done (by simpa using several)
    | .stretch, left, b :: right => exact ih.stretch patience left b right done several (given rfl)
    | .single _ _, [], right => exact .row (perm_of_front [] right done)
    | .single _ _, a :: left, [] => exact .row (perm_of_front (a :: left) [] done)
    | .stretch, left, [] => exact .row (perm_of_front left [] done)

def BackMerges (less : Comparison α) (fuel : Nat) : Prop :=
  ∀ patience pace left right done, right.length ≠ 1 → (pace = .stretch → left ≠ []) →
    Merges less (done ++ left ++ right) (mergeBack less fuel patience pace left right done)

theorem length_drop_ne_one {count : Nat} (several : right.length ≠ 1)
    (kept : ¬ (decide ((right.drop count).length = 1) && decide (0 < count)) = true) :
    (right.drop count).length ≠ 1 := by
  intro one
  have none : count = 0 := by simpa [one] using kept
  rw [none, List.drop_zero] at one
  exact several one

theorem perm_of_back_last (left right done : List α) (one : right.length = 1) :
    (right ++ left.reverse ++ done).Perm (done ++ left ++ right) := by
  obtain ⟨last, rfl⟩ := List.length_eq_one_iff.mp one
  exact perm_of_back_swapped left [last] done

theorem BackMerges.single {fuel : Nat} (merges : BackMerges less fuel)
    (patience wonLeft wonRight : Nat) (a : α) (left : List α) (b : α) (right done : List α)
    (several : right ≠ []) :
    Merges less (done ++ a :: left ++ b :: right)
      (mergeBack less (fuel + 1) patience (.single wonLeft wonRight) (a :: left) (b :: right)
        done) := by
  have two : (b :: right).length ≠ 1 := by simpa using several
  have takeLeft := perm_of_takeLeft left (b :: right) done a
  have takeRight := perm_of_takeRight (a :: left) right done b
  rw [mergeBack]
  split
  · rename_i undefined
    exact .apart ⟨b, by simp, a, by simp, undefined⟩
  · split
    · rename_i last
      obtain rfl : left = [] := List.isEmpty_iff.mp last
      have laid := (perm_of_back_swapped [] (b :: right) (a :: done)).trans takeLeft
      exact .row (by simpa using laid)
    · rename_i more
      split
      · exact (merges _ _ _ _ _ two fun _ => by simpa using more).perm takeLeft
      · exact (merges _ _ _ _ _ two (by simp)).perm takeLeft
  · split
    · rename_i one
      exact .row ((perm_of_back_last (a :: left) right (b :: done) one).trans takeRight)
    · rename_i more
      split
      · exact (merges _ _ _ _ _ more (by simp)).perm takeRight
      · exact (merges _ _ _ _ _ more (by simp)).perm takeRight

theorem BackMerges.onwards {fuel : Nat} (merges : BackMerges less fuel) (patience : Nat)
    (cut long : Bool) (a : α) (left right done : List α)
    (several : ¬ (decide (right.length = 1) && cut) = true → right.length ≠ 1)
    (moved : (done ++ a :: left ++ right).Perm items) :
    Merges less items
      (if right.length = 1 && cut then some (right ++ (a :: left).reverse ++ done, patience)
      else if right.isEmpty then some ((a :: left).reverse ++ done, patience)
      else if left.isEmpty then some (right.reverse ++ a :: done, patience)
      else if long then mergeBack less fuel patience .stretch left right (a :: done)
      else mergeBack less fuel (patience + 1) (.single 0 0) left right (a :: done)) := by
  have takeLeft := (perm_of_takeLeft left right done a).trans moved
  split
  · rename_i last
    have one := of_decide_eq_true (Bool.and_eq_true_iff.mp last).1
    exact .row ((perm_of_back_last (a :: left) _ done one).trans moved)
  · rename_i more
    have two := several more
    split
    · rename_i none
      obtain rfl : right = [] := List.isEmpty_iff.mp none
      have laid := (perm_of_back (a :: left) [] done).trans moved
      exact .row (by simpa using laid)
    · split
      · rename_i none
        obtain rfl : left = [] := List.isEmpty_iff.mp none
        have laid := (perm_of_back [] right (a :: done)).trans takeLeft
        exact .row (by simpa using laid)
      · rename_i behind
        split
        · exact (merges _ _ _ _ _ two fun _ => by simpa using behind).perm takeLeft
        · exact (merges _ _ _ _ _ two (by simp)).perm takeLeft

theorem BackMerges.stretch {fuel : Nat} (merges : BackMerges less fuel) (patience : Nat)
    (left : List α) (b : α) (right done : List α) (several : right ≠ []) (shown : left ≠ []) :
    Merges less (done ++ left ++ b :: right)
      (mergeBack less (fuel + 1) patience .stretch left (b :: right) done) := by
  have some : 0 < left.length := List.length_pos_of_ne_nil shown
  have others : 0 < right.length := List.length_pos_of_ne_nil several
  simp only [mergeBack]
  split
  · rename_i undefined
    have inside : left.length - 1 < left.reverse.length := by
      rw [List.length_reverse]
      omega
    exact .none (apart_of_upTo? inside undefined) (by simp)
  · rename_i kept found
    generalize left.length - kept = count
    have stretched := perm_of_stretchLeft left (b :: right) done count
    generalize (left.take count).reverse ++ done = begun at stretched ⊢
    split
    · rename_i used
      rw [used] at stretched
      have laid := (perm_of_back_swapped [] (b :: right) begun).trans stretched
      exact .row (by simpa using laid)
    · rename_i a rest cut
      rw [cut] at stretched
      have taken := (perm_of_takeRight (a :: rest) right begun b).trans stretched
      split
      · rename_i one
        exact .row ((perm_of_back_last (a :: rest) right (b :: begun) one).trans taken)
      · rename_i two
        split
        · rename_i undefined
          have inside : right.length - 1 < right.reverse.length := by
            rw [List.length_reverse]
            omega
          refine .none (apart_of_below? inside undefined) fun item member => taken.subset ?_
          grind
        · rename_i kept reached
          generalize right.length - kept = other
          have moved := (perm_of_stretchRight (a :: rest) right (b :: begun) other).trans taken
          exact merges.onwards _ _ _ a rest _ _ (length_drop_ne_one two) moved

theorem backMerges (less : Comparison α) (fuel : Nat) : BackMerges less fuel := by
  induction fuel with
  | zero =>
    intro patience pace left right done several given
    rw [mergeBack]
    · exact .row (perm_of_back left right done)
    · simp
    · simp
  | succ fuel ih =>
    intro patience pace left right done several given
    match pace, left, right with
    | .single wonLeft wonRight, a :: left, b :: right =>
      exact ih.single patience wonLeft wonRight a left b right done (by simpa using several)
    | .stretch, left, b :: right =>
      exact ih.stretch patience left b right done (by simpa using several) (given rfl)
    | .single _ _, [], right => exact .row (perm_of_back [] right done)
    | .single _ _, a :: left, [] => exact .row (perm_of_back (a :: left) [] done)
    | .stretch, left, [] => exact .row (perm_of_back left [] done)

theorem merges_fromFront (patience : Nat) (left right : List α) :
    Merges less (left ++ right) (fromFront less patience left right) := by
  cases right with
  | nil => exact .row (by simp)
  | cons b right =>
    have first : (b :: left ++ right).Perm (left ++ b :: right) :=
      perm_of_takeRight left right [] b
    simp only [fromFront]
    split
    · rename_i last
      obtain rfl : right = [] := List.isEmpty_iff.mp last
      exact .row (by simpa using first)
    · split
      · exact .row List.perm_append_comm
      · rename_i several
        exact (frontMerges less _ _ (.single 0 0) left right [b] several (by simp)).perm first

theorem merges_fromBack (patience : Nat) (left right : List α) :
    Merges less (left ++ right) (fromBack less patience left right) := by
  have same := List.reverse_reverse left
  rw [fromBack]
  split
  · rename_i turned
    rw [turned] at same
    exact .row (by simp [← same])
  · rename_i a rest turned
    rw [turned, List.reverse_cons] at same
    rw [← same]
    split
    · rename_i alone
      obtain rfl : rest = [] := List.isEmpty_iff.mp alone
      exact .row List.perm_append_comm
    · split
      · have swapped : (right ++ (rest.reverse ++ [a])).Perm (rest.reverse ++ [a] ++ right) :=
          List.perm_append_comm
        rw [← List.append_assoc] at swapped
        exact .row swapped
      · rename_i several
        have two : right.reverse.length ≠ 1 := by simpa using several
        refine (backMerges less _ _ (.single 0 0) rest right.reverse [a] two (by simp)).perm ?_
        have turned : ([a] ++ rest).Perm (rest.reverse ++ [a]) :=
          (List.reverse_perm (a :: rest)).symm.trans (.of_eq List.reverse_cons)
        exact turned.append (List.reverse_perm right)

theorem Merges.between {merged : Merged α} (merges : Merges less items merged)
    (front back : List α) :
    Merges less (front ++ items ++ back)
      (merged.map fun (row, patience) => (front ++ row ++ back, patience)) := by
  cases merged with
  | none =>
    cases merges with
    | apart apart => exact .none apart (by grind)
  | some merged =>
    cases merges with
    | row perm => exact .row ((perm.append_left front).append_right back)

theorem merges_merge? (less : Comparison α) (patience : Nat) (left right : List α) :
    Merges less (left ++ right) (merge? less patience left right) := by
  classical
  rw [merge?]
  split
  · rename_i first last isFirst isLast
    have inFirst : first ∈ right := List.mem_of_head? isFirst
    have inLast : last ∈ left := List.mem_of_getLast? isLast
    cases found : upTo? less first left 0 with
    | none =>
      exact .none (apart_of_upTo? (List.length_pos_of_mem inLast) found) (by grind)
    | some start =>
      rw [Option.bind_some]
      split
      · exact .row (.refl _)
      · cases reached : below? less last right (right.length - 1) with
        | none =>
          have inside : right.length - 1 < right.length := by
            have := List.length_pos_of_mem inFirst
            omega
          exact .none (apart_of_below? inside reached) (by grind)
        | some stop =>
          rw [Option.bind_some]
          split
          · exact .row (.refl _)
          · have lefts := List.take_append_drop start left
            have rights := List.take_append_drop stop right
            have inner : Merges less (left.drop start ++ right.take stop)
                (if (left.drop start).length ≤ (right.take stop).length then
                  fromFront less patience (left.drop start) (right.take stop)
                else fromBack less patience (left.drop start) (right.take stop)) := by
              split
              · exact merges_fromFront _ _ _
              · exact merges_fromBack _ _ _
            exact (inner.between (left.take start) (right.drop stop)).perm (by grind)
  · exact .row (.refl _)

theorem apart_of_merge? {patience : Nat} (undefined : merge? less patience left right = none) :
    Apart less (left ++ right) := by
  have merges := merges_merge? less patience left right
  rw [undefined] at merges
  cases merges with
  | apart apart => exact apart

theorem perm_of_merge? {patience learnt : Nat}
    (merged : merge? less patience left right = some (items, learnt)) :
    items.Perm (left ++ right) := by
  have merges := merges_merge? less patience left right
  rw [merged] at merges
  cases merges with
  | row perm => exact perm

def runItems (runs : List (Run α)) : List α := runs.flatMap (·.items)

theorem rearranges_mergeDeeper (power patience : Nat) (runs : List (Run α)) :
    Rearranges less (runItems runs)
      ((mergeDeeper less power patience runs).map fun (others, _) => runItems others) := by
  fun_induction mergeDeeper less power patience runs with
  | case1 patience last before rest deeper undefined =>
    exact .apart ((apart_of_merge? undefined).mono (by simp [runItems]))
  | case2 patience last before rest deeper items learnt merged ih =>
    refine ih.perm ?_
    simp only [runItems, List.flatMap_cons, ← List.append_assoc]
    exact ((perm_of_merge? merged).trans List.perm_append_comm).append_right _
  | case3 => exact .row (.refl _)
  | case4 => exact .row (.refl _)
  | case5 => exact .row (.refl _)

theorem rearranges_collect (less : Comparison α) (whole fuel patience : Nat)
    (runs : List (Run α)) (items : List α) (enough : items.length ≤ fuel) :
    Rearranges less (runItems runs ++ items)
      ((collect less whole fuel patience runs items).map fun (others, _) => runItems others) := by
  classical
  fun_induction collect less whole fuel patience runs items with
  | case1 fuel patience runs => exact .row (by simp)
  | case2 patience runs items shown =>
    exact absurd (List.eq_nil_of_length_eq_zero (Nat.le_zero.mp enough)) shown
  | case3 fuel patience runs items shown ih =>
    refine (rearranges_frontRun less items).bind (List.subset_append_right _ _) ?_
    rintro ⟨front, rest⟩ found perm
    have first := List.length_pos_of_ne_nil (frontRun_ne_nil shown found)
    have fewer := perm.length_eq
    have later := ih front rest
    dsimp only at later perm fewer ⊢
    generalize leastRun 0 whole - front.length = lacking at later ⊢
    have parts := List.take_append_drop lacking rest
    have inserts : Rearranges less (front ++ rest.take lacking)
        (((rest.take lacking).foldlM (insert less) front).map fun run => run) := by
      simpa using rearranges_foldlM_insert front (rest.take lacking)
    have inside : front ++ rest.take lacking ⊆ runItems runs ++ items := by
      have same := perm.subset
      grind
    refine inserts.bind inside ?_
    rintro run - risen
    refine (rearranges_mergeDeeper _ patience runs).bind (List.subset_append_left _ _) ?_
    rintro ⟨others, learnt⟩ - same
    refine (later run others learnt (by grind)).perm ?_
    simp only [runItems, List.flatMap_cons] at same ⊢
    grind

theorem rearranges_mergeAll (patience : Nat) (runs : List (List α)) :
    Rearranges less runs.flatten (mergeAll less patience runs) := by
  classical
  fun_induction mergeAll less patience runs with
  | case1 patience => exact .row (.refl _)
  | case2 patience run => exact .row (by simp)
  | case3 patience last before =>
    exact (merges_merge? less patience before last).perm (by grind)
  | case4 patience last before first rest shorter undefined =>
    exact .apart ((apart_of_merge? undefined).mono (by grind))
  | case5 patience last before first rest shorter items learnt merged ih =>
    have perm := perm_of_merge? merged
    exact ih.perm (by grind)
  | case6 patience last before first rest longer undefined =>
    exact .apart ((apart_of_merge? undefined).mono (by grind))
  | case7 patience last before first rest longer items learnt merged ih =>
    have perm := perm_of_merge? merged
    exact ih.perm (by grind)

theorem rearranges_adaptive? (items : List α) : Rearranges less items (adaptive? less items) := by
  rw [adaptive?]
  obtain ⟨none, apart⟩ | ⟨⟨runs, patience⟩, collected, perm⟩ :=
    (rearranges_collect less items.length items.length firstPatience [] items
      (Nat.le_refl _)).split
  · rw [none]
    exact .apart apart
  · rw [collected]
    have all : (runs.map (·.items)).flatten.Perm items := perm
    exact (rearranges_mergeAll patience _).perm all

end Outreach.Sort
