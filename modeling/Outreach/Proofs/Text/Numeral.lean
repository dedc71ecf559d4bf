import Mathlib.Data.Nat.Digits.Lemmas
import Outreach.Text.Blank
import Outreach.Text.Digit

set_option autoImplicit false

namespace Outreach.Text

variable {c : Char} {digits : List Char} {n d : Nat}

theorem isDigit_iff : isDigit c = true ↔ ∃ d, digitValue? c = some d := Option.isSome_iff_exists

theorem exists_zero_of_digitValue? (value : digitValue? c = some d) :
    ∃ start ∈ digitZeros, c.toNat = start + d ∧ d < 10 := by
  obtain ⟨start, inside, found⟩ := List.exists_of_findSome?_eq_some value
  split at found
  · rename_i within
    cases found
    exact ⟨start, inside, by omega, by omega⟩
  · cases found

theorem digitValue?_lt (value : digitValue? c = some d) : d < 10 := by
  obtain ⟨_, -, -, small⟩ := exists_zero_of_digitValue? value
  exact small

theorem digitZeros_apart :
    ∀ start ∈ digitZeros, ∀ range ∈ blankRanges, range.2 < start ∨ start + 10 ≤ range.1 := by
  decide

theorem isBlank_of_isDigit (digit : isDigit c = true) : isBlank c = false := by
  obtain ⟨d, value⟩ := isDigit_iff.mp digit
  obtain ⟨start, inside, place, small⟩ := exists_zero_of_digitValue? value
  rw [isBlank, inRanges, List.any_eq_false]
  intro range member within
  have apart := digitZeros_apart start inside range member
  simp only [Bool.and_eq_true, decide_eq_true_eq] at within
  omega

theorem digitZeros_large : ∀ start ∈ digitZeros, '0'.toNat ≤ start := by decide

theorem ne_of_isDigit {other : Char} (digit : isDigit c = true) (below : other.toNat < '0'.toNat) :
    c ≠ other := by
  rintro rfl
  obtain ⟨d, value⟩ := isDigit_iff.mp digit
  obtain ⟨start, inside, place, -⟩ := exists_zero_of_digitValue? value
  have large := digitZeros_large start inside
  omega

def Spells (digits : List Char) (n : Nat) : Prop :=
  ∃ zeros, digits.map digitValue? =
    (List.replicate zeros 0 ++ (Nat.digits 10 n).reverse).map some

theorem Spells.isDigit (spells : Spells digits n) (member : c ∈ digits) : isDigit c = true := by
  obtain ⟨zeros, values⟩ := spells
  have value : digitValue? c ∈ digits.map digitValue? := List.mem_map_of_mem member
  rw [values] at value
  obtain ⟨d, -, same⟩ := List.mem_map.mp value
  exact isDigit_iff.mpr ⟨d, same.symm⟩

def values (digits : List Char) : List Nat := digits.map fun c => (digitValue? c).getD 0

theorem numeral_eq (digits : List Char) :
    numeral digits = Nat.ofDigits 10 (values digits).reverse := by
  rw [Nat.ofDigits_eq_foldr, List.foldr_reverse, values, List.foldl_map, numeral, numeralFrom]
  congr 1
  funext read c
  exact Nat.add_comm _ _

theorem Spells.numeral_eq (spells : Spells digits n) : numeral digits = n := by
  obtain ⟨zeros, given⟩ := spells
  have same : values digits = List.replicate zeros 0 ++ (Nat.digits 10 n).reverse := by
    have read := congrArg (List.map fun value : Option Nat => value.getD 0) given
    simpa [values, Function.comp_def] using read
  rw [Text.numeral_eq, same, List.reverse_append, List.reverse_reverse, List.reverse_replicate,
    Nat.ofDigits_append_replicate_zero, Nat.ofDigits_digits]

theorem map_digitValue? (each : ∀ c ∈ digits, isDigit c = true) :
    digits.map digitValue? = (values digits).map some := by
  rw [values, List.map_map]
  refine List.map_congr_left fun c member => ?_
  obtain ⟨d, value⟩ := isDigit_iff.mp (each c member)
  simp [value]

theorem values_lt (member : d ∈ values digits) : d < 10 := by
  obtain ⟨c, -, rfl⟩ := List.mem_map.mp member
  cases value : digitValue? c with
  | none => decide
  | some d => exact digitValue?_lt value

theorem spells_numeral (each : ∀ c ∈ digits, isDigit c = true) :
    Spells digits (numeral digits) := by
  let zeros := (values digits).takeWhile (· == 0)
  let rest := (values digits).dropWhile (· == 0)
  have split : values digits = zeros ++ rest := List.takeWhile_append_dropWhile.symm
  have zero : zeros = List.replicate zeros.length 0 := by
    rw [List.eq_replicate_iff]
    exact ⟨rfl, fun d member => by
      simpa using List.all_eq_true.mp (List.all_takeWhile (p := (· == 0))) d member⟩
  have below (d : Nat) (member : d ∈ rest.reverse) : d < 10 := by
    have inside : d ∈ values digits :=
      split ▸ List.mem_append_right zeros (List.mem_reverse.mp member)
    exact values_lt inside
  have first (shown : rest.reverse ≠ []) : rest.reverse.getLast shown ≠ 0 := by
    have nonempty : rest ≠ [] := fun none => shown (by rw [none, List.reverse_nil])
    rw [List.getLast_reverse]
    simpa using List.head_dropWhile_not (· == 0) nonempty
  have number : numeral digits = Nat.ofDigits 10 rest.reverse := by
    rw [numeral_eq, split, zero, List.reverse_append, List.reverse_replicate,
      Nat.ofDigits_append_replicate_zero]
  refine ⟨zeros.length, ?_⟩
  rw [map_digitValue? each, number, Nat.digits_ofDigits 10 (by decide) _ below first,
    List.reverse_reverse, ← zero, ← split]

end Outreach.Text
