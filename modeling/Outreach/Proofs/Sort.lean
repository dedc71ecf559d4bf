import Mathlib.Data.List.Chain
import Mathlib.Data.List.Perm.Basic
import Mathlib.Data.Prod.Lex
import Outreach.Sort.Basic

set_option autoImplicit false

namespace Outreach.Sort

variable {α : Type} {less : Comparison α} {pool : List α}

structure Orders (less : Comparison α) (pool : List α) : Prop where
  defined : ∀ a ∈ pool, ∀ b ∈ pool, ∃ before, less a b = some before
  asymm : ∀ a ∈ pool, ∀ b ∈ pool, less a b = some true → less b a = some false
  trans : ∀ a ∈ pool, ∀ b ∈ pool, ∀ c ∈ pool, less b a = some false → less c b = some false →
    less c a = some false

def AtMost (less : Comparison α) (pool : List α) (a b : α) : Prop :=
  a ∈ pool ∧ b ∈ pool ∧ less b a = some false

namespace Orders

theorem of_key {β : Type} [LinearOrder β] {key : α → β}
    (agrees : ∀ a ∈ pool, ∀ b ∈ pool, less a b = some (decide (key a < key b))) :
    Orders less pool where
  defined a inA b inB := ⟨_, agrees a inA b inB⟩
  asymm a inA b inB := by
    rw [agrees a inA b inB, agrees b inB a inA]
    simpa using le_of_lt
  trans a inA b inB c inC := by
    rw [agrees b inB a inA, agrees c inC b inB, agrees c inC a inA]
    simpa using fun first second => le_trans first second

variable (orders : Orders less pool)
include orders

theorem isTrans : IsTrans α (AtMost less pool) :=
  ⟨fun a b c ⟨inA, inB, first⟩ ⟨_, inC, second⟩ =>
    ⟨inA, inC, orders.trans a inA b inB c inC first second⟩⟩

theorem atMost_of_before {a b : α} (inA : a ∈ pool) (inB : b ∈ pool)
    (before : less a b = some true) : AtMost less pool a b :=
  ⟨inA, inB, orders.asymm a inA b inB before⟩

theorem before_mono {item a b : α} (inItem : item ∈ pool) (atMost : AtMost less pool a b)
    (before : less item a = some true) : less item b = some true := by
  obtain ⟨inA, inB, notAfter⟩ := atMost
  obtain ⟨answer, compared⟩ := orders.defined item inItem b inB
  cases answer with
  | true => exact compared
  | false =>
    -- Then the item would come after the first one as well.
    rw [orders.trans a inA b inB item inItem notAfter compared] at before
    cases before

theorem exists_extend (falling : Bool) {last : α} {items : List α} (inLast : last ∈ pool)
    (inside : items ⊆ pool) :
    ∃ run rest, extend less falling last items = some (run, rest) ∧ items = run ++ rest ∧
      (last :: run).IsChain fun a b => less b a = some falling := by
  induction items generalizing last with
  | nil => exact ⟨[], [], rfl, rfl, .singleton last⟩
  | cons next items ih =>
    obtain ⟨inNext, inside⟩ := List.cons_subset.mp inside
    obtain ⟨before, compared⟩ := orders.defined next inNext last inLast
    by_cases goesOn : before = falling
    · obtain ⟨run, rest, extended, rfl, chain⟩ := ih inNext inside
      refine ⟨next :: run, rest, ?_, rfl, chain.cons_cons (goesOn ▸ compared)⟩
      simp [extend, compared, goesOn, extended]
    · exact ⟨[], next :: items, by simp [extend, compared, goesOn], rfl, .singleton last⟩

theorem pairwise_of_rising {run : List α} (inside : run ⊆ pool)
    (chain : run.IsChain fun a b => less b a = some false) :
    run.Pairwise (AtMost less pool) := by
  have := orders.isTrans
  apply List.IsChain.pairwise
  exact chain.imp_of_mem_imp fun a b inA inB notAfter => ⟨inside inA, inside inB, notAfter⟩

theorem pairwise_of_falling {run : List α} (inside : run ⊆ pool)
    (chain : run.IsChain fun a b => less b a = some true) :
    run.reverse.Pairwise (AtMost less pool) := by
  have := orders.isTrans
  apply List.IsChain.pairwise
  rw [List.isChain_reverse]
  exact chain.imp_of_mem_imp fun a b inA inB before =>
    orders.atMost_of_before (inside inB) (inside inA) before

theorem exists_frontRun {items : List α} (inside : items ⊆ pool) :
    ∃ run rest, frontRun less items = some (run, rest) ∧ (run ++ rest).Perm items ∧
      run.Pairwise (AtMost less pool) := by
  match items with
  | [] => exact ⟨[], [], rfl, .refl _, .nil⟩
  | [item] => exact ⟨[item], [], rfl, .refl _, List.pairwise_singleton _ _⟩
  | first :: second :: items =>
    obtain ⟨inFirst, insideRest⟩ := List.cons_subset.mp inside
    obtain ⟨inSecond, insideItems⟩ := List.cons_subset.mp insideRest
    obtain ⟨falling, compared⟩ := orders.defined second inSecond first inFirst
    obtain ⟨run, rest, extended, rfl, chain⟩ :=
      orders.exists_extend falling inSecond insideItems
    have whole : (first :: second :: run).IsChain fun a b => less b a = some falling :=
      .cons_cons compared chain
    have within : first :: second :: run ⊆ pool :=
      List.Subset.trans (List.subset_append_left (first :: second :: run) rest) inside
    cases falling with
    | false =>
      refine ⟨first :: second :: run, rest, ?_, .refl _, orders.pairwise_of_rising within whole⟩
      simp [frontRun, compared, extended]
    | true =>
      refine ⟨(first :: second :: run).reverse, rest, ?_, ?_,
        orders.pairwise_of_falling within whole⟩
      · simp [frontRun, compared, extended]
      · exact (List.reverse_perm _).append_right rest

end Orders

theorem exists_halve (beyond : Nat → Option Bool) {low high : Nat} (within : low ≤ high)
    (defined : ∀ i < high, ∃ answer, beyond i = some answer)
    (mono : ∀ i j, i ≤ j → j < high → beyond i = some true → beyond j = some true) :
    ∃ place, halve beyond low high = some place ∧ low ≤ place ∧ place ≤ high ∧
      (∀ i, low ≤ i → i < place → beyond i = some false) ∧
      ∀ i, place ≤ i → i < high → beyond i = some true := by
  induction low, high using halve.induct beyond with
  | case1 low high more middle undefined =>
    obtain ⟨answer, compared⟩ := defined middle (by omega)
    simp [middle, undefined] at compared
  | case2 low high more middle after ih =>
    obtain ⟨place, found, least, most, before, beyondIt⟩ :=
      ih (by omega) (fun i inside => defined i (by omega)) fun i j ordered inside =>
        mono i j ordered (by omega)
    refine ⟨place, ?_, least, by omega, before, ?_⟩
    · rw [halve, if_pos more]
      simp only [middle] at after found
      simp only [after, found]
    · intro i from_ inside
      by_cases left : i < middle
      · exact beyondIt i from_ left
      · exact mono middle i (by omega) inside after
  | case3 low high more middle notAfter ih =>
    obtain ⟨place, found, least, most, before, beyondIt⟩ := ih (by omega) defined mono
    refine ⟨place, ?_, by omega, most, ?_, beyondIt⟩
    · rw [halve, if_pos more]
      simp only [middle] at notAfter found
      simp only [notAfter, found]
    · intro i from_ inside
      by_cases right : middle + 1 ≤ i
      · exact before i right inside
      · -- An item in front of one that is not beyond is not beyond either.
        obtain ⟨answer, compared⟩ := defined i (by omega)
        cases answer with
        | false => exact compared
        | true =>
          have := mono i middle (by omega) (by omega) compared
          simp [notAfter] at this
  | case4 low high done =>
    refine ⟨low, ?_, Nat.le_refl low, within, by omega, by omega⟩
    rw [halve, if_neg done]

namespace Orders

variable (orders : Orders less pool)
include orders

theorem exists_insert {sorted : List α} {item : α} (inside : sorted ⊆ pool) (inItem : item ∈ pool)
    (rising : sorted.Pairwise (AtMost less pool)) :
    ∃ result, insert less sorted item = some result ∧ result.Perm (item :: sorted) ∧
      result.Pairwise (AtMost less pool) := by
  have after {i : Nat} (bound : i < sorted.length) :
      isAfter less item sorted i = less item sorted[i] := by
    simp [isAfter, bound]
  obtain ⟨place, found, -, most, before, beyond⟩ :=
    exists_halve (isAfter less item sorted) (Nat.zero_le sorted.length)
      (fun i bound => after bound ▸ orders.defined item inItem _ (inside (List.getElem_mem bound)))
      (by
        intro i j ordered bound isBefore
        rw [after bound]
        rw [after (by omega)] at isBefore
        obtain rfl | less := Nat.eq_or_lt_of_le ordered
        · exact isBefore
        · exact orders.before_mono inItem (List.pairwise_iff_getElem.mp rising i j _ _ less) isBefore)
  have atMostItem : ∀ a ∈ sorted.take place, AtMost less pool a item := by
    intro a member
    obtain ⟨i, bound, rfl⟩ := List.mem_take_iff_getElem.mp member
    have notAfter := before i (Nat.zero_le i) (by omega)
    rw [after (by omega)] at notAfter
    exact ⟨inside (List.getElem_mem _), inItem, notAfter⟩
  have itemAtMost : ∀ b ∈ sorted.drop place, AtMost less pool item b := by
    intro b member
    obtain ⟨i, bound, rfl⟩ := List.mem_drop_iff_getElem.mp member
    have isBefore := beyond (place + i) (Nat.le_add_right place i) (by omega)
    rw [after (by omega)] at isBefore
    exact orders.atMost_of_before inItem (inside (List.getElem_mem _)) isBefore
  have halves := List.take_append_drop place sorted
  refine ⟨sorted.take place ++ item :: sorted.drop place, by simp [insert, found], ?_, ?_⟩
  · exact List.perm_middle.trans (.cons item (.of_eq halves))
  · rw [← halves, List.pairwise_append] at rising
    obtain ⟨front, back, across⟩ := rising
    rw [List.pairwise_append, List.pairwise_cons]
    refine ⟨front, ⟨itemAtMost, back⟩, fun a inFront b member => ?_⟩
    obtain rfl | inBack := List.mem_cons.mp member
    · exact atMostItem a inFront
    · exact across a inFront b inBack

theorem exists_foldlM_insert {run rest : List α} (insideRun : run ⊆ pool)
    (insideRest : rest ⊆ pool) (rising : run.Pairwise (AtMost less pool)) :
    ∃ sorted, rest.foldlM (insert less) run = some sorted ∧ sorted.Perm (run ++ rest) ∧
      sorted.Pairwise (AtMost less pool) := by
  induction rest generalizing run with
  | nil => exact ⟨run, rfl, by simp, rising⟩
  | cons item rest ih =>
    obtain ⟨inItem, insideRest⟩ := List.cons_subset.mp insideRest
    obtain ⟨more, inserted, perm, risingMore⟩ := orders.exists_insert insideRun inItem rising
    have insideMore : more ⊆ pool := by
      intro other member
      obtain rfl | old := List.mem_cons.mp (perm.subset member)
      · exact inItem
      · exact insideRun old
    obtain ⟨sorted, folded, permSorted, risingSorted⟩ := ih insideMore insideRest risingMore
    refine ⟨sorted, by simp [inserted, folded], ?_, risingSorted⟩
    calc sorted.Perm (more ++ rest) := permSorted
      _ |>.Perm ((item :: run) ++ rest) := perm.append_right rest
      _ |>.Perm (run ++ item :: rest) := List.perm_middle.symm

theorem exists_sort {items : List α} (inside : items ⊆ pool) :
    ∃ sorted, sort? less items = some sorted ∧ sorted.Perm items ∧
      sorted.Pairwise (AtMost less pool) := by
  obtain ⟨run, rest, front, parts, rising⟩ := orders.exists_frontRun inside
  obtain ⟨insideRun, insideRest⟩ :=
    List.append_subset.mp (List.Subset.trans parts.subset inside)
  obtain ⟨sorted, folded, perm, risingSorted⟩ :=
    orders.exists_foldlM_insert insideRun insideRest rising
  exact ⟨sorted, by simp [sort?, front, folded], perm.trans parts, risingSorted⟩

end Orders

end Outreach.Sort
