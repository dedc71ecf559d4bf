import Mathlib.Data.List.Forall2

set_option autoImplicit false

namespace Outreach

variable {α β γ : Type} {first other : α → β → Prop} {second : β → γ → Prop} {as : List α}
  {bs : List β} {cs : List γ}

theorem exists_of_mem_forall₂ (pairs : List.Forall₂ first as bs) {a : α} (member : a ∈ as) :
    ∃ b ∈ bs, first a b := by
  induction pairs with
  | nil => exact absurd member List.not_mem_nil
  | cons paired _ ih =>
    obtain rfl | later := List.mem_cons.mp member
    · exact ⟨_, List.mem_cons_self, paired⟩
    · obtain ⟨b, inside, same⟩ := ih later
      exact ⟨b, List.mem_cons_of_mem _ inside, same⟩

theorem forall₂_zipIdx (pairs : List.Forall₂ first as bs) (start : Nat) :
    List.Forall₂ (fun a (b : β × Nat) => first a b.1) as (bs.zipIdx start) := by
  induction pairs generalizing start with
  | nil => exact .nil
  | cons paired _ ih => exact .cons paired (ih (start + 1))

theorem rel_zipIdx (pairs : List.Forall₂ first as bs) (start : Nat) :
    List.Forall₂ (fun (a : α × Nat) (b : β × Nat) => first a.1 b.1 ∧ b.2 = a.2) (as.zipIdx start)
      (bs.zipIdx start) := by
  induction pairs generalizing start with
  | nil => exact .nil
  | cons paired _ ih => exact .cons ⟨paired, rfl⟩ (ih (start + 1))

theorem forall₂_imp_of_mem (pairs : List.Forall₂ first as bs)
    (change : ∀ a ∈ as, ∀ b, first a b → other a b) : List.Forall₂ other as bs := by
  induction pairs with
  | nil => exact .nil
  | cons paired _ ih =>
    obtain ⟨here, later⟩ := List.forall_mem_cons.mp change
    exact .cons (here _ paired) (ih later)

theorem map_eq_of_forall₂ {f : α → γ} {g : β → γ} (pairs : List.Forall₂ first as bs)
    (same : ∀ a b, first a b → g b = f a) : bs.map g = as.map f := by
  induction pairs with
  | nil => rfl
  | cons paired _ ih => rw [List.map_cons, List.map_cons, same _ _ paired, ih]

theorem forall₂_filter {p : α → Bool} {q : β → Bool} (pairs : List.Forall₂ first as bs)
    (same : ∀ a b, first a b → q b = p a) : List.Forall₂ first (as.filter p) (bs.filter q) := by
  refine List.rel_filter (fun a b paired => ?_) pairs
  simp only [same a b paired]

theorem rel_find? {p : α → Bool} {q : β → Bool} (pairs : List.Forall₂ first as bs)
    (same : ∀ a b, first a b → q b = p a) : Option.Rel first (as.find? p) (bs.find? q) := by
  induction pairs with
  | nil => exact .none
  | @cons a b rest others paired _ ih =>
    rw [List.find?_cons, List.find?_cons, same a b paired]
    cases p a with
    | true => exact .some paired
    | false => exact ih

theorem forall₂_comp (left : List.Forall₂ first as bs) (right : List.Forall₂ second bs cs) :
    List.Forall₂ (fun a c => ∃ b, first a b ∧ second b c) as cs := by
  induction left generalizing cs with
  | nil =>
    cases right
    exact .nil
  | cons paired _ ih =>
    cases right with
    | cons next rest => exact .cons ⟨_, paired, next⟩ (ih rest)

end Outreach
