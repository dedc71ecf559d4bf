import Outreach.Value.Wire

set_option autoImplicit false

namespace Outreach

theorem Double.obstacle?_isSome {d : Double} (infinite : d.isFinite = false) :
    (d.obstacle? true).isSome = true := by
  simp [Double.obstacle?, infinite]

theorem Key.obstacle?_isSome {key : Key} (infinite : key.finite = false) :
    (key.obstacle? true).isSome = true := by
  cases key with
  | double d => exact Double.obstacle?_isSome infinite
  | _ => cases infinite

theorem Double.obstacle?_of_finite {d : Double} (finite : d.isFinite = true) :
    d.obstacle? true = d.obstacle? false := by
  simp [Double.obstacle?, finite]

theorem Key.obstacle?_of_finite {key : Key} (finite : key.finite = true) :
    key.obstacle? true = key.obstacle? false := by
  cases key with
  | double d => exact Double.obstacle?_of_finite finite
  | _ => rfl

inductive Defect.Stops : Bool → Defect → Prop
  | numeralTooLong (finite : Bool) : Stops finite .numeralTooLong
  | tooDeep (finite : Bool) : Stops finite .tooDeep
  | unsendable : Stops true .unsendable

theorem stops_of_numeral {finite : Bool} {n : Int} {defect : Defect}
    (stopped : numeralObstacle? n = some defect) : defect.Stops finite := by
  rw [numeralObstacle?] at stopped
  split at stopped <;> cases stopped
  exact .numeralTooLong finite

theorem Double.stops {finite : Bool} {d : Double} {defect : Defect}
    (stopped : d.obstacle? finite = some defect) : defect.Stops finite := by
  rw [Double.obstacle?] at stopped
  split at stopped
  · rename_i refused
    cases stopped
    obtain rfl : finite = true := (Bool.and_eq_true_iff.mp refused).1
    exact .unsendable
  · cases stopped

theorem Key.stops {finite : Bool} {key : Key} {defect : Defect}
    (stopped : key.obstacle? finite = some defect) : defect.Stops finite := by
  cases key with
  | int n => exact stops_of_numeral stopped
  | double d => exact Double.stops stopped
  | _ => cases stopped

namespace Value

variable {finite : Bool} {defect : Defect}

mutual

theorem obstacle?_isSome (room : Nat) (value : Value) (infinite : value.finite = false) :
    (value.obstacle? true room).isSome = true := by
  match value, room with
  | .double d, _ =>
    rw [obstacle?]
    exact Double.obstacle?_isSome infinite
  | .list items, 0 => rfl
  | .obj fields, 0 => rfl
  | .list items, room + 1 => exact itemsObstacle?_isSome room items infinite
  | .obj fields, room + 1 => exact fieldsObstacle?_isSome room fields infinite

theorem itemsObstacle?_isSome (room : Nat) (items : List Value)
    (infinite : finiteItems items = false) : (itemsObstacle? true room items).isSome = true := by
  match items with
  | item :: rest =>
    rw [itemsObstacle?, Option.isSome_or, Bool.or_eq_true]
    rw [finiteItems, Bool.and_eq_false_iff] at infinite
    exact infinite.imp (obstacle?_isSome room item) (itemsObstacle?_isSome room rest)

theorem fieldsObstacle?_isSome (room : Nat) (fields : Fields)
    (infinite : finiteFields fields = false) : (fieldsObstacle? true room fields).isSome = true := by
  match fields with
  | (key, value) :: rest =>
    rw [fieldsObstacle?, Option.isSome_or, Option.isSome_or, Bool.or_eq_true, Bool.or_eq_true]
    rw [finiteFields, Bool.and_eq_false_iff, Bool.and_eq_false_iff] at infinite
    exact infinite.imp (Or.imp Key.obstacle?_isSome (obstacle?_isSome room value))
      (fieldsObstacle?_isSome room rest)

end

mutual

theorem obstacle?_of_finite (room : Nat) (value : Value) (finite : value.finite = true) :
    value.obstacle? true room = value.obstacle? false room := by
  match value, room with
  | .null, _ | .bool _, _ | .str _, _ | .int _, _ => simp only [obstacle?]
  | .double d, _ =>
    rw [obstacle?, obstacle?]
    exact Double.obstacle?_of_finite finite
  | .list items, 0 => rfl
  | .obj fields, 0 => rfl
  | .list items, room + 1 => exact itemsObstacle?_of_finite room items finite
  | .obj fields, room + 1 => exact fieldsObstacle?_of_finite room fields finite

theorem itemsObstacle?_of_finite (room : Nat) (items : List Value)
    (finite : finiteItems items = true) :
    itemsObstacle? true room items = itemsObstacle? false room items := by
  match items with
  | [] => rfl
  | item :: rest =>
    obtain ⟨first, others⟩ := Bool.and_eq_true_iff.mp finite
    rw [itemsObstacle?, itemsObstacle?, obstacle?_of_finite room item first,
      itemsObstacle?_of_finite room rest others]

theorem fieldsObstacle?_of_finite (room : Nat) (fields : Fields)
    (finite : finiteFields fields = true) :
    fieldsObstacle? true room fields = fieldsObstacle? false room fields := by
  match fields with
  | [] => rfl
  | (key, value) :: rest =>
    obtain ⟨first, others⟩ := Bool.and_eq_true_iff.mp finite
    obtain ⟨named, second⟩ := Bool.and_eq_true_iff.mp first
    rw [fieldsObstacle?, fieldsObstacle?, Key.obstacle?_of_finite named,
      obstacle?_of_finite room value second, fieldsObstacle?_of_finite room rest others]

end

mutual

theorem stops (room : Nat) (value : Value) (stopped : value.obstacle? finite room = some defect) :
    defect.Stops finite := by
  match value, room with
  | .int n, _ =>
    rw [obstacle?] at stopped
    exact stops_of_numeral stopped
  | .double d, _ =>
    rw [obstacle?] at stopped
    exact Double.stops stopped
  | .list items, 0 =>
    cases stopped
    exact .tooDeep finite
  | .obj fields, 0 =>
    cases stopped
    exact .tooDeep finite
  | .list items, room + 1 => exact itemsStop room items stopped
  | .obj fields, room + 1 => exact fieldsStop room fields stopped

theorem itemsStop (room : Nat) (items : List Value)
    (stopped : itemsObstacle? finite room items = some defect) : defect.Stops finite := by
  match items with
  | item :: rest =>
    rw [itemsObstacle?, Option.or_eq_some_iff] at stopped
    obtain first | ⟨-, later⟩ := stopped
    · exact stops room item first
    · exact itemsStop room rest later

theorem fieldsStop (room : Nat) (fields : Fields)
    (stopped : fieldsObstacle? finite room fields = some defect) : defect.Stops finite := by
  match fields with
  | (key, value) :: rest =>
    rw [fieldsObstacle?, Option.or_eq_some_iff, Option.or_eq_some_iff] at stopped
    obtain (first | ⟨-, second⟩) | ⟨-, later⟩ := stopped
    · exact Key.stops first
    · exact stops room value second
    · exact fieldsStop room rest later

end

theorem exists_unsendable [Limits] {value : Value} (infinite : value.finite = false) :
    ∃ defect, value.unsendable? = some defect ∧ defect.Stops true := by
  obtain ⟨defect, stopped⟩ :=
    Option.isSome_iff_exists.mp (obstacle?_isSome Limits.writeDepth value infinite)
  exact ⟨defect, by rw [unsendable?, stopped, Option.some_or], stops _ value stopped⟩

theorem unsendable?_of_finite [Limits] {value : Value} (finite : value.finite = true)
    (unsendable : value.unsendable? = some defect) :
    defect.Stops false ∨ defect = .unencodable := by
  rw [unsendable?, Option.or_eq_some_iff, obstacle?_of_finite _ _ finite] at unsendable
  obtain stopped | ⟨-, unencodable⟩ := unsendable
  · exact .inl (stops _ value stopped)
  · split at unencodable <;> cases unencodable
    exact .inr rfl

end Value

end Outreach
