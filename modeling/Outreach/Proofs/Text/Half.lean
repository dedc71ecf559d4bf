import Outreach.Text.Half

set_option autoImplicit false

namespace Outreach.Text

variable {point : Nat} {points : List Nat}

def IsPoint (point : Nat) : Prop := point < 0x110000

theorem units_cons {c : Char} (plain : c ≠ mark) (rest : List Char) :
    units (c :: rest) = c.toNat :: units rest := by
  cases rest with
  | nil => rfl
  | cons d rest => simp [units, plain]

theorem units_marks (rest : List Char) : units
    (mark :: mark :: rest) = mark.toNat :: units rest := by
  simp [units]

theorem units_carried {c : Char} (carrier : isCarrier c = true) (rest : List Char) :
    units (mark :: c :: rest) = (c.toNat - carrierOffset) :: units rest := by
  have other : c ≠ mark := by
    rintro rfl
    revert carrier
    decide
  simp [units, carrier, other]

theorem toNat_ofNat (valid : point.isValidChar) : (Char.ofNat point).toNat = point := by
  rw [Char.ofNat, dif_pos valid]
  rfl

theorem isHalf_iff : isHalf point = true ↔ 0xD800 ≤ point ∧ point < 0xE000 := by
  simp only [isHalf, isHighUnit, isLowUnit, Bool.or_eq_true, Bool.and_eq_true, decide_eq_true_eq]
  omega

theorem units_written (inside : IsPoint point) (rest : List Char) :
    units (written point ++ rest) = point :: units rest := by
  rw [IsPoint] at inside
  rw [written]
  split
  · rename_i half
    have bounds := isHalf_iff.mp half
    have carried : (Char.ofNat (point + carrierOffset)).toNat = point + carrierOffset := by
      refine toNat_ofNat (.inr ?_)
      simp only [carrierOffset]
      omega
    have carrier : isCarrier (Char.ofNat (point + carrierOffset)) = true := by
      rw [isCarrier, carried, carrierOffset, Bool.and_eq_true, decide_eq_true_eq,
        decide_eq_true_eq]
      omega
    exact (units_carried carrier rest).trans (by rw [carried, Nat.add_sub_cancel])
  · rename_i whole
    split
    · rename_i same
      rw [same]
      exact units_marks rest
    · rename_i other
      have read : (Char.ofNat point).toNat = point := by
        have bounds := mt isHalf_iff.mpr whole
        refine toNat_ofNat ?_
        simp only [Nat.isValidChar]
        omega
      have plain : Char.ofNat point ≠ mark := fun same => other (same ▸ read.symm)
      rw [List.singleton_append, units_cons plain, read]

theorem units_flatMap_written (inside : ∀ point ∈ points, IsPoint point) :
    units (points.flatMap written) = points := by
  induction points with
  | nil => rfl
  | cons point rest ih =>
    rw [List.flatMap_cons, units_written (inside point List.mem_cons_self),
      ih fun other member => inside other (List.mem_cons_of_mem _ member)]

theorem encodable_ofList (inside : ∀ point ∈ points, IsPoint point) :
    encodable (String.ofList (points.flatMap written)) = !points.any isHalf := by
  rw [encodable, String.toList_ofList, units_flatMap_written inside]

end Outreach.Text
