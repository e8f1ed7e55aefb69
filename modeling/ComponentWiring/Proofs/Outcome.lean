/-
ComponentWiring.Proofs.Outcome — computations that may have no result.

* `bind_ok_iff` — a sequence succeeds when each of its steps does.
* `mapM_ok_iff`, `mapM_error_iff` — a computation for every item of a list: all succeed, or the
  first that fails decides.
* `mapM_eq_some_iff` — the same where nothing is said about a failure.
* `forall₂_trans` — lists that are related item by item through a third one.
-/
import Mathlib.Data.List.Forall2

namespace ComponentWiring

variable {ε α β : Type}

/-! ## 1. Steps -/

theorem bind_ok_iff {x : Except ε α} {f : α → Except ε β} {b : β} :
    (x >>= f) = .ok b ↔ ∃ a, x = .ok a ∧ f a = .ok b := by
  cases x with
  | error e => simp [bind, Except.bind]
  | ok a => simp [bind, Except.bind]

theorem bind_error_iff {x : Except ε α} {f : α → Except ε β} {e : ε} :
    (x >>= f) = .error e ↔ x = .error e ∨ ∃ a, x = .ok a ∧ f a = .error e := by
  cases x with
  | error e => simp [bind, Except.bind]
  | ok a => simp [bind, Except.bind]

/-- A computation has a result. -/
def Succeeds (x : Except ε α) : Prop := ∃ a, x = .ok a

theorem mapError_ok_iff {ε' : Type} {x : Except ε α} {f : ε → ε'} {a : α} :
    x.mapError f = .ok a ↔ x = .ok a := by
  cases x with
  | error e =>
    show (Except.error (f e) : Except ε' α) = .ok a ↔ _
    simp
  | ok b =>
    show (Except.ok b : Except ε' α) = .ok a ↔ (Except.ok b : Except ε α) = .ok a
    simp

theorem map_ok_iff {x : Except ε α} {f : α → β} {b : β} :
    x.map f = .ok b ↔ ∃ a, x = .ok a ∧ f a = b := by
  cases x <;> simp [Except.map]

theorem map_error_iff {x : Except ε α} {f : α → β} {e : ε} :
    x.map f = .error e ↔ x = .error e := by
  cases x <;> simp [Except.map]

theorem map_bind {γ : Type} (x : Except ε α) (f : α → β) (g : β → Except ε γ) :
    (x.map f >>= g) = x >>= fun a => g (f a) := by
  cases x <;> rfl

/-! ## 2. Lists -/

theorem mapM_ok_iff {f : α → Except ε β} {l : List α} {bs : List β} :
    l.mapM f = .ok bs ↔ List.Forall₂ (fun a b => f a = .ok b) l bs := by
  induction l generalizing bs with
  | nil =>
    rw [List.mapM_nil, List.forall₂_nil_left_iff]
    exact ⟨fun h => (Except.ok.inj h).symm, fun h => h ▸ rfl⟩
  | cons a l ih =>
    simp only [List.mapM_cons, bind_ok_iff, ih, List.forall₂_cons_left_iff]
    constructor
    · rintro ⟨b, first, bs', rest, put⟩
      exact ⟨b, bs', first, rest, (Except.ok.inj put).symm⟩
    · rintro ⟨b, bs', first, rest, rfl⟩
      exact ⟨b, first, bs', rest, rfl⟩

/-- Computations that come to the same up to maps of items and results. -/
theorem mapM_map {α' β' : Type} {f : α → Except ε β} {f' : α' → Except ε β'} {g : α → α'}
    {h : β → β'} (same : ∀ a, f' (g a) = (f a).map h) (l : List α) :
    (l.map g).mapM f' = (l.mapM f).map (List.map h) := by
  induction l with
  | nil => rfl
  | cons a l ih =>
    rw [List.map_cons, List.mapM_cons, List.mapM_cons, same, ih]
    cases f a with
    | error e => rfl
    | ok b => cases l.mapM f <;> rfl

/-- The first item whose computation fails decides how all of them fail. -/
theorem mapM_error_iff {f : α → Except ε β} {l : List α} {e : ε} :
    l.mapM f = .error e ↔ ∃ before a after, l = before ++ a :: after ∧
      (∀ b ∈ before, Succeeds (f b)) ∧ f a = .error e := by
  induction l with
  | nil => simp [pure, Except.pure]
  | cons a l ih =>
    simp only [List.mapM_cons, bind_error_iff, ih]
    constructor
    · rintro (first | ⟨b, first, ⟨before, c, after, rfl, fine, fails⟩ | ⟨_, _, put⟩⟩)
      · exact ⟨[], a, l, rfl, List.forall_mem_nil _, first⟩
      · exact ⟨a :: before, c, after, rfl, List.forall_mem_cons.mpr ⟨⟨b, first⟩, fine⟩, fails⟩
      · cases put
    · rintro ⟨before, c, after, split, fine, fails⟩
      rcases List.cons_eq_append_iff.mp split with ⟨rfl, same⟩ | ⟨before', rfl, rfl⟩
      · cases same
        exact .inl fails
      · obtain ⟨⟨b, first⟩, fine⟩ := List.forall_mem_cons.mp fine
        exact .inr ⟨b, first, .inl ⟨before', c, after, rfl, fine, fails⟩⟩

theorem forall₂_congr_left {R S : α → β → Prop} {l : List α} {bs : List β}
    (same : ∀ a ∈ l, ∀ b, R a b ↔ S a b) : List.Forall₂ R l bs ↔ List.Forall₂ S l bs := by
  induction l generalizing bs with
  | nil => simp only [List.forall₂_nil_left_iff]
  | cons a l ih =>
    obtain ⟨first, rest⟩ := List.forall_mem_cons.mp same
    simp only [List.forall₂_cons_left_iff, first, ih rest]

/-- Lists that are related item by item through a third one. -/
theorem forall₂_trans {γ : Type} {R : α → β → Prop} {S : β → γ → Prop} {T : α → γ → Prop}
    (step : ∀ a b c, R a b → S b c → T a c) {as : List α} {bs : List β} {cs : List γ}
    (first : List.Forall₂ R as bs) (second : List.Forall₂ S bs cs) : List.Forall₂ T as cs := by
  induction first generalizing cs with
  | nil =>
    cases second
    exact .nil
  | cons r _ ih =>
    cases second with
    | cons s rest => exact .cons (step _ _ _ r s) (ih rest)

theorem mapM_eq_some_iff {f : α → Option β} {l : List α} {bs : List β} :
    l.mapM f = some bs ↔ List.Forall₂ (fun a b => f a = some b) l bs := by
  induction l generalizing bs with
  | nil =>
    rw [List.mapM_nil, List.forall₂_nil_left_iff]
    exact ⟨fun h => (Option.some.inj h).symm, fun h => h ▸ rfl⟩
  | cons a l ih =>
    simp only [List.mapM_cons, Option.bind_eq_bind, Option.bind_eq_some_iff, ih,
      List.forall₂_cons_left_iff]
    constructor
    · rintro ⟨b, first, bs', rest, put⟩
      exact ⟨b, bs', first, rest, (Option.some.inj put).symm⟩
    · rintro ⟨b, bs', first, rest, rfl⟩
      exact ⟨b, first, bs', rest, rfl⟩

end ComponentWiring
