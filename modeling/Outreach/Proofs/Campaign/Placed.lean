import Mathlib.Data.Prod.Lex
import Outreach.Campaign.Rebuild
import Outreach.Proofs.Result
import Outreach.Proofs.Sort

set_option autoImplicit false

namespace Outreach.Placed

def number (placed : Placed) : Int :=
  match placed.order with
  | .int n => n
  | _ => 0

def rank (placed : Placed) : Int ×ₗ Nat := toLex (placed.number, placed.index)

def Whole (placed : Placed) : Prop := placed.order = .int placed.number

variable {pool : List Placed}

theorem less?_eq {a b : Placed} (left : a.Whole) (right : b.Whole) :
    less? a b = some (decide (a.rank < b.rank)) := by
  rw [less?, left, right, Value.same, Value.less?]
  simp only [rank, Prod.Lex.toLex_lt_toLex, beq_iff_eq]
  by_cases same : a.number = b.number <;> simp [same]

theorem orders (whole : ∀ placed ∈ pool, placed.Whole) : Sort.Orders less? pool :=
  .of_key fun a inA b inB => less?_eq (whole a inA) (whole b inB)

theorem rank_le {a b : Placed} (whole : ∀ placed ∈ pool, placed.Whole)
    (atMost : Sort.AtMost less? pool a b) : a.rank ≤ b.rank := by
  obtain ⟨inA, inB, notAfter⟩ := atMost
  rw [less?_eq (whole b inB) (whole a inA)] at notAfter
  exact not_lt.mp (by simpa using notAfter)

theorem exists_ranked (whole : ∀ placed ∈ pool, placed.Whole) :
    ∃ sorted, sort pool = .ok sorted ∧ sorted.Perm pool ∧
      sorted.Pairwise fun a b => a.rank ≤ b.rank := by
  have definite : pool.all (·.order.definite) = true := by
    rw [List.all_eq_true]
    intro placed member
    rw [whole placed member, Value.definite]
  obtain ⟨sorted, done, perm, rising⟩ := (orders whole).exists_sort (List.Subset.refl pool)
  refine ⟨sorted, ?_, perm, rising.imp fun atMost => rank_le whole atMost⟩
  simp [sort, definite, done]

theorem number_le {a b : Placed} (atMost : a.rank ≤ b.rank) : a.number ≤ b.number :=
  Prod.Lex.monotone_fst_ofLex atMost

theorem exists_sort (whole : ∀ placed ∈ pool, placed.Whole) :
    ∃ sorted, sort pool = .ok sorted ∧ sorted.Perm pool ∧
      sorted.Pairwise fun a b => a.number ≤ b.number := by
  obtain ⟨sorted, done, perm, rising⟩ := exists_ranked whole
  exact ⟨sorted, done, perm, rising.imp number_le⟩

def arrived (steps : List Fields) : List Placed :=
  steps.zipIdx.map fun (step, index) =>
    { order := (Fields.get? step "order").getD (.int index), index, step }

theorem placeSteps_eq (steps : List Fields) :
    Graph.placeSteps (steps.map .obj) = sort (arrived steps) := by
  have read : (steps.map Value.obj).zipIdx.mapM (fun placed => ofStep placed.1 placed.2) =
      .ok (arrived steps) := by
    rw [mapM_eq_ok, arrived, List.zipIdx_map, List.forall₂_map_left_iff,
      List.forall₂_map_right_iff, List.forall₂_same]
    intro step _
    rfl
  exact congrArg (· >>= sort) read

end Outreach.Placed
