import Outreach.Proofs.Step.Validity
import Outreach.Proofs.Text.Numeral

set_option autoImplicit false

namespace Outreach

namespace Fields

def without (fields : Fields) (name : String) : Fields :=
  fields.filter fun field => !field.1.is name

theorem get?_without_self (fields : Fields) (name : String) :
    (fields.without name).get? name = none := by
  rw [get?, without, List.find?_filter, Option.map_eq_none_iff, List.find?_eq_none]
  intro field _
  simp

theorem get?_without_of_ne (fields : Fields) {name other : String} (different : other ≠ name) :
    (fields.without name).get? other = fields.get? other := by
  rw [get?, get?, without, List.find?_filter]
  congr 2
  funext field
  cases field.1 with
  | text s =>
    by_cases same : s = other
    · simp [Key.is, same, different]
    · simp [Key.is, same]
  | _ => rfl

end Fields

namespace Delay

variable {n : Int} {digits text : List Char} {key : String} {config : Fields}

inductive Signs (n : Int) : List Char → Prop
  | plain (positive : 0 ≤ n) : Signs n []
  | plus (positive : 0 ≤ n) : Signs n ['+']
  | minus (negative : n ≤ 0) : Signs n ['-']

inductive Begins (n : Int) (digits : List Char) : List Char → Prop
  | number {blanks signed rest : List Char} (blank : ∀ c ∈ blanks, Text.isBlank c = true)
    (sign : Signs n signed) (shown : digits ≠ []) (spells : Text.Spells digits n.natAbs)
    (ends : ∀ c ∈ rest.head?, Text.isDigit c = false) :
    Begins n digits (blanks ++ signed ++ digits ++ rest)

theorem dropWhile_of_head {drop : Char → Bool} {cs : List Char}
    (front : ∀ c ∈ cs.head?, drop c = false) : cs.dropWhile drop = cs := by
  cases cs with
  | nil => rfl
  | cons c rest => rw [List.dropWhile_cons_of_neg (by simp [front c rfl])]

theorem takeWhile_of_head {take : Char → Bool} {cs : List Char}
    (front : ∀ c ∈ cs.head?, take c = false) : cs.takeWhile take = [] := by
  cases cs with
  | nil => rfl
  | cons c rest => rw [List.takeWhile_cons_of_neg (by simp [front c rfl])]

-- A digit is no sign, so the sign is what was written in front of the digits.
theorem sign_append {signed : List Char} {first : Char} (sign : Signs n signed)
    (digit : Text.isDigit first = true) (rest : List Char) :
    ∃ negative, Delay.sign (signed ++ first :: rest) = (negative, first :: rest) ∧
      n = if negative then -(n.natAbs : Int) else n.natAbs := by
  cases sign with
  | plain positive =>
    refine ⟨false, ?_, by simp [Int.natAbs_of_nonneg positive]⟩
    rw [List.nil_append, Delay.sign]
    · exact fun _ same => Text.ne_of_isDigit digit (by decide) (List.cons.inj same).1
    · exact fun _ same => Text.ne_of_isDigit digit (by decide) (List.cons.inj same).1
  | plus positive => exact ⟨false, rfl, by simp [Int.natAbs_of_nonneg positive]⟩
  | minus negative => exact ⟨true, rfl, by simp [Int.ofNat_natAbs_of_nonpos negative]⟩

theorem Signs.not_blank {signed rest : List Char} {first c : Char} (sign : Signs n signed)
    (digit : Text.isDigit first = true) (front : c ∈ (signed ++ first :: rest).head?) :
    Text.isBlank c = false := by
  cases sign with
  | plain =>
    obtain rfl : first = c := by simpa using front
    exact Text.isBlank_of_isDigit digit
  | plus =>
    obtain rfl : '+' = c := by simpa using front
    decide
  | minus =>
    obtain rfl : '-' = c := by simpa using front
    decide

theorem leadingInt_of_begins (begins : Begins n digits text) :
    leadingInt text =
      if Text.numeralLimit < digits.length then .error (.defect .numeralTooLong) else .ok n := by
  cases begins with
  | @number blanks signed rest blank sign shown spells ends =>
    obtain ⟨first, more, rfl⟩ := List.exists_cons_of_ne_nil shown
    have digit : Text.isDigit first = true := spells.isDigit List.mem_cons_self
    have dropped : (blanks ++ signed ++ first :: more ++ rest).dropWhile Text.isBlank =
        signed ++ first :: (more ++ rest) := by
      rw [List.append_assoc, List.append_assoc, List.dropWhile_append_of_pos blank,
        List.cons_append, dropWhile_of_head fun c => sign.not_blank digit]
    have taken : (first :: (more ++ rest)).takeWhile Text.isDigit = first :: more := by
      rw [← List.cons_append, List.takeWhile_append_of_pos fun c member => spells.isDigit member,
        takeWhile_of_head ends, List.append_nil]
    obtain ⟨negative, parted, number⟩ := sign_append sign digit (more ++ rest)
    simp only [leadingInt, dropped, parted, taken, spells.numeral_eq, ← number]

theorem exists_sign (cs : List Char) (size : Nat) :
    ∃ (n : Int) (signed rest : List Char), cs = signed ++ rest ∧ Signs n signed ∧
      n.natAbs = size ∧ (Delay.sign cs).2 = rest := by
  rw [Delay.sign.eq_def]
  split
  · rename_i rest
    exact ⟨-size, ['-'], rest, rfl, .minus (by omega), by omega, rfl⟩
  · rename_i rest
    exact ⟨size, ['+'], rest, rfl, .plus (by omega), by omega, rfl⟩
  · exact ⟨size, [], cs, rfl, .plain (by omega), by omega, rfl⟩

theorem begins_or_zero (text : List Char) :
    (∃ n digits, Begins n digits text) ∨ leadingInt text = .ok 0 := by
  let cs := text.dropWhile Text.isBlank
  let digits := (Delay.sign cs).2.takeWhile Text.isDigit
  have blank : ∀ c ∈ text.takeWhile Text.isBlank, Text.isBlank c = true :=
    fun c member => List.all_eq_true.mp List.all_takeWhile c member
  have split : text = text.takeWhile Text.isBlank ++ cs := List.takeWhile_append_dropWhile.symm
  by_cases shown : digits = []
  · refine .inr ?_
    simp only [leadingInt, cs, digits] at shown ⊢
    simp [shown, Text.numeral, Text.numeralFrom]
  · obtain ⟨n, signed, rest, front, sign, size, same⟩ := exists_sign cs (Text.numeral digits)
    have each : ∀ c ∈ digits, Text.isDigit c = true :=
      fun c member => List.all_eq_true.mp List.all_takeWhile c member
    have ends : ∀ c ∈ (rest.dropWhile Text.isDigit).head?, Text.isDigit c = false := by
      intro c member
      have stopped := List.head?_dropWhile_not Text.isDigit rest
      rw [member] at stopped
      exact stopped
    have parts : text = text.takeWhile Text.isBlank ++ signed ++ digits ++
        rest.dropWhile Text.isDigit := by
      rw [List.append_assoc, List.append_assoc]
      simp only [digits, same, List.takeWhile_append_dropWhile, ← front]
      exact split
    refine .inl ⟨n, digits, ?_⟩
    rw [parts]
    exact .number blank sign shown (size ▸ Text.spells_numeral each) ends

variable {first other : Fields} {value : Value} {string : String}

theorem validity_congr
    (same : ∀ bound ∈ bounds, amount (first.getD bound.key) = amount (other.getD bound.key)) :
    Validity.of .delay first = Validity.of .delay other := by
  simp only [bounds, List.forall_mem_cons, List.not_mem_nil, false_imp_iff, forall_true_iff,
    and_true] at same
  obtain ⟨days, hours, minutes⟩ := same
  have amounts : Delay.amounts first = Delay.amounts other := by
    simp only [Delay.amounts, bounds, List.mapM_cons, List.mapM_nil, days, hours, minutes]
  simp only [Validity.of, Validity.missingOf, StepType.special, missing, amounts]

theorem validity_set (same : ∀ name, name ≠ key → other.get? name = config.get? name)
    (counts : amount value = amount (other.getD key)) :
    Validity.of .delay (config.set key value) = Validity.of .delay other := by
  refine validity_congr fun bound _ => ?_
  by_cases here : bound.key = key
  · rw [here, Fields.getD, Fields.get?_set_self, Option.getD_some, counts]
  · rw [Fields.getD, Fields.getD, Fields.get?_set_of_ne config value here, same _ here]

theorem amount_of_begins (begins : Begins n digits string.toList)
    (short : digits.length ≤ Text.numeralLimit) : amount (.str string) = .ok n := by
  rw [amount, leadingInt_of_begins begins, if_neg (Nat.not_lt.mpr short)]

theorem validity_of_overlong (unit : key ∈ bounds.map (·.key))
    (begins : Begins n digits string.toList) (long : Text.numeralLimit < digits.length) :
    Validity.of .delay (config.set key (.str string)) = .error (.defect .numeralTooLong) := by
  have refused : amount (.str string) = .error (.defect .numeralTooLong) := by
    rw [amount, leadingInt_of_begins begins, if_pos long]
  obtain ⟨bound, member, rfl⟩ := List.mem_map.mp unit
  refine Validity.of_eq_error_iff.mpr ⟨⟨rfl, List.any_eq_true.mpr ⟨bound, member, ?_⟩⟩, rfl⟩
  rw [Fields.getD, Fields.get?_set_self, Option.getD_some]
  exact (amount_eq_error_iff.mp refused).1

theorem text_counts_alike (config : Fields) (unit : key ∈ bounds.map (·.key)) :
    (∀ n, config.get? key = some (.int n) → ∀ digits (string : String),
      Begins n digits string.toList → digits.length ≤ Text.numeralLimit →
        Validity.of .delay (config.set key (.str string)) = Validity.of .delay config) ∧
    (∀ string : String,
      (∀ n digits, Begins n digits string.toList → n = 0 ∧ digits.length ≤ Text.numeralLimit) →
        Validity.of .delay (config.set key (.str string)) =
          Validity.of .delay (config.without key)) ∧
    ∀ n digits (string : String),
      Begins n digits string.toList → Text.numeralLimit < digits.length →
        Validity.of .delay (config.set key (.str string)) = .error (.defect .numeralTooLong) := by
  refine ⟨?_, ?_, fun n digits string => validity_of_overlong unit⟩
  · intro n given digits string begins short
    refine validity_set (fun _ _ => rfl) ?_
    rw [amount_of_begins begins short, Fields.getD, given, Option.getD_some, amount]
  · intro string nothing
    refine validity_set (fun name => Fields.get?_without_of_ne config) ?_
    have absent : amount ((config.without key).getD key) = .ok 0 := by
      rw [Fields.getD, Fields.get?_without_self]
      rfl
    obtain ⟨n, digits, begins⟩ | zero := begins_or_zero string.toList
    · obtain ⟨rfl, short⟩ := nothing n digits begins
      rw [absent, amount_of_begins begins short]
    · rw [absent, amount, zero]

def patient : Fields :=
  [("title", .str "Wait"), ("delayDays", .int 5), ("delayHours", .int 30)]

theorem patient_text_counts :
    "delayDays" ∈ bounds.map (·.key) ∧ patient.get? "delayDays" = some (.int 5) ∧
      Begins 5 ['٠', '٥'] " +٠٥ days".toList ∧
      Validity.of .delay patient = .ok { valid := false, missing := ["delayHours"] } ∧
      Validity.of .delay (patient.set "delayDays" (.str " +٠٥ days")) =
        Validity.of .delay patient ∧
      Validity.of .delay (patient.set "delayDays" (.str "five")) =
        Validity.of .delay (patient.without "delayDays") := by
  have unit : "delayDays" ∈ bounds.map (·.key) := by decide
  have blank : ∀ c ∈ [' '], Text.isBlank c = true := List.forall_mem_singleton.mpr rfl
  have ends : ∀ c ∈ " days".toList.head?, Text.isDigit c = false := by
    rintro c ⟨⟩
    rfl
  have begins : Begins 5 ['٠', '٥'] ([' '] ++ ['+'] ++ ['٠', '٥'] ++ " days".toList) :=
    .number blank (.plus (by decide)) (by decide) ⟨1, by rfl⟩ ends
  obtain ⟨alike, absent, -⟩ := text_counts_alike patient unit
  refine ⟨unit, rfl, begins, rfl, alike 5 rfl _ _ begins (by decide), absent "five" ?_⟩
  intro n digits begins
  have zero : leadingInt "five".toList = .ok 0 := rfl
  rw [leadingInt_of_begins begins] at zero
  split at zero
  · cases zero
  · rename_i short
    exact ⟨Except.ok.inj zero, Nat.not_lt.mp short⟩

end Delay

end Outreach
