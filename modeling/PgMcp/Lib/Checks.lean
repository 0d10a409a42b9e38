import Mathlib.Data.List.Forall2
import Mathlib.Tactic

/-!
# Checks that stop at the first error

A check is a value of `Except`; checks in a row accept when all of them do, and a fold of
checks carries a total.

## Main results

* `bind_eq_ok_iff` — checks in a row.
* `forIn_eq_ok_iff` — a check of every element of a list.
* `mapM_eq_ok_iff` — a computation over every element of a list.
* `foldlM_weight` — a fold that adds up weights under a bound.
* `foldlM_error` — the error of a fold is that of one of its steps.
* `FailsOnly.bind`, `FailsOnly.foldlM` — the errors of checks in a row are those of one of them.
-/

namespace Checks

/-! ### Checks in a row -/

theorem ok_bind {ε α β : Type} (a : α) (f : α → Except ε β) : (Except.ok a >>= f) = f a := rfl

theorem error_bind {ε α β : Type} (e : ε) (f : α → Except ε β) : (Except.error e >>= f) = .error e := rfl

theorem bind_eq_ok_iff {ε α β : Type} {x : Except ε α} {f : α → Except ε β} {b : β} :
    (x >>= f) = .ok b ↔ ∃ a, x = .ok a ∧ f a = .ok b := by
  cases x with
  | error e => exact ⟨nofun, fun ⟨_, h, _⟩ => nomatch h⟩
  | ok a => exact ⟨fun h => ⟨a, rfl, h⟩, fun ⟨_, h, hf⟩ => by cases h; exact hf⟩

theorem pure_eq_ok_iff {ε α : Type} {a b : α} : (pure a : Except ε α) = .ok b ↔ b = a := by
  constructor
  · rintro h
    cases h
    rfl
  · rintro rfl
    rfl

theorem bind_eq_error {ε α β : Type} {x : Except ε α} {f : α → Except ε β} {e : ε}
    (h : (x >>= f) = .error e) : x = .error e ∨ ∃ a, x = .ok a ∧ f a = .error e := by
  cases x with
  | error e' => cases h; exact .inl rfl
  | ok a => exact .inr ⟨a, rfl, h⟩

/-- The check that fails when the condition holds. -/
def failIf {ε : Type} (p : Prop) [Decidable p] (e : ε) : Except ε Unit := if p then .error e else .ok ()

theorem failIf_eq_ok_iff {ε : Type} {p : Prop} [Decidable p] {e : ε} {u : Unit} :
    failIf p e = .ok u ↔ ¬ p := by
  unfold failIf
  by_cases hp : p
  · rw [if_pos hp]
    constructor
    · intro h
      cases h
    · intro h
      exact absurd hp h
  · rw [if_neg hp]
    exact iff_of_true rfl hp

/-- A computation over every element. -/
theorem mapM_eq_ok_iff {ε α β : Type} {f : α → Except ε β} {l : List α} {l' : List β} :
    l.mapM f = .ok l' ↔ List.Forall₂ (fun a b => f a = .ok b) l l' := by
  induction l generalizing l' with
  | nil =>
    rw [List.mapM_nil, pure_eq_ok_iff, List.forall₂_nil_left_iff]
  | cons a l ih =>
    rw [List.mapM_cons, bind_eq_ok_iff, List.forall₂_cons_left_iff]
    constructor
    · intro h
      obtain ⟨b, hb, hrest⟩ := h
      obtain ⟨bs, hbs, hpure⟩ := bind_eq_ok_iff.mp hrest
      exact ⟨b, bs, hb, ih.mp hbs, pure_eq_ok_iff.mp hpure⟩
    · intro h
      obtain ⟨b, bs, hb, hbs, hl'⟩ := h
      exact ⟨b, hb, bind_eq_ok_iff.mpr ⟨bs, ih.mpr hbs, pure_eq_ok_iff.mpr hl'⟩⟩

/-- A loop that checks every element accepts when all of them are good. -/
theorem forIn_eq_ok_iff {ε α : Type} {f : α → Unit → Except ε (ForInStep Unit)} (good : α → Prop)
    (accepts : ∀ a, good a → f a () = .ok (.yield ())) (rejects : ∀ a, ¬ good a → ∃ e, f a () = .error e) :
    ∀ {l : List α} {u : Unit}, forIn l () f = .ok u ↔ ∀ a ∈ l, good a := by
  intro l u
  induction l with
  | nil => exact ⟨fun _ => by simp, fun _ => rfl⟩
  | cons a l ih =>
    rw [List.forall_mem_cons, ← ih, List.forIn_cons]
    by_cases ha : good a
    · rw [accepts a ha, ok_bind]
      exact ⟨fun h => ⟨ha, h⟩, fun h => h.2⟩
    · obtain ⟨e, he⟩ := rejects a ha
      rw [he, error_bind]
      exact ⟨nofun, fun h => absurd h.1 ha⟩

/-- A check of every element. -/
theorem forIn_check_eq_ok_iff {ε α : Type} {check : α → Except ε Unit} {l : List α} {u : Unit} :
    (forIn l () fun a _ => do
      check a
      pure (ForInStep.yield ())) = .ok u ↔ ∀ a ∈ l, check a = .ok () := by
  refine forIn_eq_ok_iff (fun a => check a = .ok ()) (fun a ha => by rw [ha]; rfl) fun a ha => ?_
  cases h : check a with
  | error e => exact ⟨e, rfl⟩
  | ok u => exact absurd h ha

/-! ### Folds -/

/-- A fold that adds the weight of every element, checking the elements and the running
total, accepts when the elements pass and the last total does. -/
theorem foldlM_weight {ε α : Type} {step : ℕ → α → Except ε ℕ} (weight : α → ℕ) (good : α → Prop)
    {bound : ℕ} (hstep : ∀ u a v, u ≤ bound →
      (step u a = .ok v ↔ v = u + weight a ∧ v ≤ bound ∧ good a)) :
    ∀ (l : List α) (u v : ℕ), u ≤ bound →
      (l.foldlM step u = .ok v ↔
        v = u + (l.map weight).sum ∧ v ≤ bound ∧ ∀ a ∈ l, good a) := by
  intro l
  induction l with
  | nil =>
    intro u v hu
    simp only [List.foldlM_nil, List.map_nil, List.sum_nil, List.not_mem_nil]
    constructor
    · intro h
      cases h
      exact ⟨rfl, hu, by simp⟩
    · rintro ⟨rfl, -, -⟩
      rfl
  | cons a l ih =>
    intro u v hu
    rw [List.foldlM_cons, bind_eq_ok_iff, List.map_cons, List.sum_cons, List.forall_mem_cons]
    constructor
    · rintro ⟨u', hstep', hrest⟩
      obtain ⟨rfl, hbound, hgood⟩ := (hstep u a u' hu).mp hstep'
      obtain ⟨rfl, hbound', hall⟩ := (ih _ v hbound).mp hrest
      exact ⟨by omega, hbound', hgood, hall⟩
    · rintro ⟨rfl, hbound, hgood, hall⟩
      have hbound' : u + weight a ≤ bound := by omega
      exact ⟨u + weight a, (hstep u a _ hu).mpr ⟨rfl, hbound', hgood⟩,
        (ih _ _ hbound').mpr ⟨by omega, hbound, hall⟩⟩

theorem foldlM_error {ε α σ : Type} {step : σ → α → Except ε σ} {e : ε}
    (hstep : ∀ u a e', step u a = .error e' → e' = e) :
    ∀ {l : List α} {u : σ} {e' : ε}, l.foldlM step u = .error e' → e' = e := by
  intro l
  induction l with
  | nil => intro u e' h; cases h
  | cons a l ih =>
    intro u e' h
    rw [List.foldlM_cons] at h
    cases hs : step u a with
    | error e'' =>
      rw [hs] at h
      cases h
      exact hstep _ _ _ hs
    | ok u' =>
      rw [hs] at h
      exact ih h

/-! ### The errors of checks -/

/-- Every error of `x` has the property `p`. -/
def FailsOnly {ε α : Type} (p : ε → Prop) (x : Except ε α) : Prop := ∀ e, x = .error e → p e

namespace FailsOnly

variable {ε ε' α β σ : Type} {p : ε → Prop}

theorem ok (a : α) : FailsOnly p (.ok a : Except ε α) := by
  intro e h
  cases h

theorem error {e : ε} (h : p e) : FailsOnly p (.error e : Except ε α) := by
  intro e' h'
  cases h'
  exact h

theorem bind {x : Except ε α} {f : α → Except ε β} (hx : FailsOnly p x) (hf : ∀ a, FailsOnly p (f a)) :
    FailsOnly p (x >>= f) := by
  intro e h
  rcases bind_eq_error h with h | ⟨a, -, h⟩
  · exact hx e h
  · exact hf a e h

theorem mapError {q : ε' → Prop} {x : Except ε α} {f : ε → ε'} (h : ∀ e, q (f e)) :
    FailsOnly q (x.mapError f) := by
  intro e' he'
  cases x with
  | ok a => cases he'
  | error e =>
    cases he'
    exact h e

theorem foldlM {step : σ → α → Except ε σ} (hstep : ∀ u a, FailsOnly p (step u a)) (l : List α) (u : σ) :
    FailsOnly p (l.foldlM step u) := by
  induction l generalizing u with
  | nil => exact ok u
  | cons a l ih =>
    rw [List.foldlM_cons]
    exact bind (hstep u a) fun u' => ih u'

end FailsOnly

end Checks
