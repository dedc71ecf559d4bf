import Mathlib.Order.Defs.PartialOrder
import Outreach.Proofs.Text.Strip
import Outreach.Supply
import Outreach.Value.Reader

set_option autoImplicit false

namespace Outreach

namespace Reader

def hexValue (digits : List Char) : Nat :=
  digits.foldl (fun read c => 16 * read + (hexDigit? c).getD 0) 0

theorem hexDigit?_digitChar : ∀ digit < 16, (hexDigit? digit.digitChar).getD 0 = digit := by
  decide

theorem hexValue_concat (digits : List Char) (c : Char) :
    hexValue (digits ++ [c]) = 16 * hexValue digits + (hexDigit? c).getD 0 := by
  rw [hexValue, List.foldl_concat, hexValue]

theorem hexValue_replicate_append (count : Nat) (digits : List Char) :
    hexValue (List.replicate count '0' ++ digits) = hexValue digits := by
  induction count with
  | zero => rfl
  | succ count ih =>
    rw [List.replicate_succ, List.cons_append, hexValue, List.foldl_cons]
    exact ih

theorem hexValue_toDigits (n : Nat) : hexValue (Nat.toDigits 16 n) = n := by
  induction n using Nat.strongRecOn with
  | _ n ih =>
    by_cases single : n < 16
    · rw [Nat.toDigits_of_lt_base single, ← List.nil_append [n.digitChar], hexValue_concat,
        hexDigit?_digitChar n single]
      exact Nat.zero_add n
    · have smaller : n / 16 < n := by omega
      rw [Nat.toDigits_of_base_le (by decide) (by omega), hexValue_concat, ih (n / 16) smaller,
        hexDigit?_digitChar (n % 16) (by omega)]
      omega

theorem hexValue_hex (width n : Nat) : hexValue (Text.hex width n) = n := by
  rw [Text.hex, hexValue_replicate_append, hexValue_toDigits]

end Reader

namespace Text

theorem exists_digit_of_mem_toDigits {n : Nat} {c : Char} (member : c ∈ Nat.toDigits 16 n) :
    ∃ digit < 16, c = digit.digitChar := by
  induction n using Nat.strongRecOn with
  | _ n ih =>
    by_cases single : n < 16
    · rw [Nat.toDigits_of_lt_base single, List.mem_singleton] at member
      exact ⟨n, single, member⟩
    · rw [Nat.toDigits_of_base_le (by decide) (by omega), List.mem_append,
        List.mem_singleton] at member
      obtain front | last := member
      · exact ih (n / 16) (by omega) front
      · exact ⟨n % 16, by omega, last⟩

theorem exists_digit_of_mem_hex {width n : Nat} {c : Char} (member : c ∈ hex width n) :
    ∃ digit < 16, c = digit.digitChar := by
  obtain zero | digit := List.mem_append.mp member
  · exact ⟨0, by decide, List.eq_of_mem_replicate zero⟩
  · exact exists_digit_of_mem_toDigits digit

theorem isBlank_digitChar : ∀ digit < 16, isBlank digit.digitChar = false := by decide

end Text

namespace Supply

variable {kind : String} {width n : Nat}

theorem id_injective (kind : String) (width : Nat) : Function.Injective (id kind width) := by
  intro first second same
  -- Zeros in front differ with the width, so the digits are compared by what they stand for.
  have digits : Text.hex width first = Text.hex width second :=
    String.ofList_injective (String.append_right_inj kind |>.mp same)
  rw [← Reader.hexValue_hex width first, digits, Reader.hexValue_hex]

theorem nodeId_injective : Function.Injective nodeId := id_injective "node_" 8

theorem edgeId_injective : Function.Injective edgeId := id_injective "edge_" 8

theorem not_blank_of_mem_id (shown : kind.toList.any Text.isBlank = false) {c : Char}
    (member : c ∈ (id kind width n).toList) : Text.isBlank c = false := by
  rw [id, String.toList_append, String.toList_ofList, List.mem_append] at member
  obtain front | hexadecimal := member
  · simpa using List.any_eq_false.mp shown c front
  · obtain ⟨digit, small, rfl⟩ := Text.exists_digit_of_mem_hex hexadecimal
    exact Text.isBlank_digitChar digit small

theorem strip_nodeId (n : Nat) : Text.strip (nodeId n) = nodeId n := by
  apply Text.strip_of_forall
  intro c member
  exact not_blank_of_mem_id (by decide) member

theorem nodeId_not_blank (n : Nat) : Text.blank (nodeId n) = false := by
  have first : 'n' ∈ (nodeId n).toList := by simp [nodeId, id]
  rw [Text.blank, List.all_eq_false]
  exact ⟨'n', first, by decide⟩

end Supply

end Outreach
