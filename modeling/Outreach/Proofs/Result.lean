import Outreach.Proofs.Pairs

set_option autoImplicit false

namespace Outreach

variable {ε δ α β : Type}

@[simp] theorem isOk_ok (value : α) : (Except.ok value : Except ε α).isOk = true := rfl

@[simp] theorem isOk_error (failure : ε) : (Except.error failure : Except ε α).isOk = false := rfl

@[simp] theorem toOption_ok (value : α) :
    (Except.ok value : Except ε α).toOption = some value := rfl

@[simp] theorem toOption_error (failure : ε) :
    (Except.error failure : Except ε α).toOption = none := rfl

theorem toOption_eq_some {result : Except ε α} {value : α} :
    result.toOption = some value ↔ result = .ok value := by
  cases result <;> simp

@[simp] theorem map_ok (change : α → β) (value : α) :
    (Except.ok value : Except ε α).map change = .ok (change value) := rfl

@[simp] theorem map_error (change : α → β) (failure : ε) :
    (Except.error failure : Except ε α).map change = .error failure := rfl

theorem bind_eq_ok {result : Except ε α} {next : α → Except ε β} {value : β} :
    (result >>= next) = .ok value ↔ ∃ part, result = .ok part ∧ next part = .ok value := by
  cases result <;> simp [bind, Except.bind]

theorem map_eq_ok {result : Except ε α} {change : α → β} {value : β} :
    result.map change = .ok value ↔ ∃ part, result = .ok part ∧ change part = value := by
  cases result <;> simp [Except.map]

theorem map_eq_error {result : Except ε α} {change : α → β} {failure : ε} :
    result.map change = .error failure ↔ result = .error failure := by
  cases result <;> simp [Except.map]

theorem mapError_eq_ok {result : Except ε α} {change : ε → δ} {value : α} :
    result.mapError change = .ok value ↔ result = .ok value := by
  cases result <;> simp [Except.mapError]

theorem mapM_eq_ok {change : α → Except ε β} {items : List α} {values : List β} :
    items.mapM change = .ok values ↔
      List.Forall₂ (fun item value => change item = .ok value) items values := by
  induction items generalizing values with
  | nil => cases values <;> simp [pure, Except.pure]
  | cons item rest ih =>
    rw [List.mapM_cons, bind_eq_ok]
    simp only [bind_eq_ok, ih, pure, Except.pure, Except.ok.injEq]
    constructor
    · rintro ⟨value, changed, others, mapped, rfl⟩
      exact .cons changed mapped
    · intro mapped
      cases mapped with
      | cons changed mapped => exact ⟨_, changed, _, mapped, rfl⟩

theorem mapM_eq_map_mapM {γ : Type} {related : α → γ → Prop} {items : List α} {others : List γ}
    {f : α → Except ε β} {g : γ → Except ε δ} {change : β → δ}
    (pairs : List.Forall₂ related items others)
    (same : ∀ item other, related item other → g other = (f item).map change) :
    others.mapM g = (items.mapM f).map (List.map change) := by
  induction pairs with
  | nil => rfl
  | @cons item other rest later paired _ ih =>
    rw [List.mapM_cons, List.mapM_cons, same item other paired, ih]
    cases f item with
    | error failure => rfl
    | ok value => cases rest.mapM f <;> rfl

theorem bind_eq_error {result : Except ε α} {next : α → Except ε β} {failure : ε} :
    (result >>= next) = .error failure ↔
      result = .error failure ∨ ∃ part, result = .ok part ∧ next part = .error failure := by
  cases result <;> simp [bind, Except.bind]

theorem mapError_eq_error {result : Except ε α} {change : ε → δ} {failure : δ} :
    result.mapError change = .error failure ↔
      ∃ cause, result = .error cause ∧ change cause = failure := by
  cases result <;> simp [Except.mapError]

theorem exists_of_mem_mapM {change : α → Except ε β} {items : List α} {values : List β}
    (mapped : items.mapM change = .ok values) {item : α} (member : item ∈ items) :
    ∃ value ∈ values, change item = .ok value :=
  exists_of_mem_forall₂ (mapM_eq_ok.mp mapped) member

theorem exists_error_of_mapM {change : α → Except ε β} {items : List α} {failure : ε}
    (failed : items.mapM change = .error failure) :
    ∃ item ∈ items, change item = .error failure := by
  induction items with
  | nil => cases failed
  | cons item rest ih =>
    rw [List.mapM_cons] at failed
    obtain here | ⟨value, -, later⟩ := bind_eq_error.mp failed
    · exact ⟨item, List.mem_cons_self, here⟩
    · obtain behind | ⟨values, -, never⟩ := bind_eq_error.mp later
      · obtain ⟨other, inside, fails⟩ := ih behind
        exact ⟨other, List.mem_cons_of_mem _ inside, fails⟩
      · cases never

-- Where items can fail for one cause only, it does not matter which of them does.
theorem mapM_eq_error_iff {change : α → Except ε β} {items : List α} {bad : α → Prop}
    {cause failure : ε}
    (fails : ∀ item ∈ items, ∀ other, change item = .error other ↔ bad item ∧ other = cause) :
    items.mapM change = .error failure ↔ (∃ item ∈ items, bad item) ∧ failure = cause := by
  constructor
  · intro failed
    obtain ⟨item, inside, failing⟩ := exists_error_of_mapM failed
    obtain ⟨isBad, same⟩ := (fails item inside failure).mp failing
    exact ⟨⟨item, inside, isBad⟩, same⟩
  · rintro ⟨⟨item, inside, isBad⟩, rfl⟩
    have failing := (fails item inside failure).mpr ⟨isBad, rfl⟩
    cases mapped : items.mapM change with
    | ok values =>
      obtain ⟨value, -, changed⟩ := exists_of_mem_mapM mapped inside
      rw [failing] at changed
      cases changed
    | error other =>
      obtain ⟨_, alsoInside, alsoFailing⟩ := exists_error_of_mapM mapped
      rw [((fails _ alsoInside other).mp alsoFailing).2]

end Outreach
