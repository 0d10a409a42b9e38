import Mathlib.Tactic

/-!
# Runs of a labelled transition system

A run is a finite sequence of labelled steps; the label of a step carries what is said
about the step, so that a condition on a run is a condition on its labels.

## Main definitions

* `Run step s ls t` — a run from `s` to `t` with labels `ls`, the last one last.

## Main results

* `Run.invariant` — what every step whose label is good preserves, every run with good
  labels preserves.
* `Run.forall_iff` — the same as an equivalence, when a bad label shows at once.
* `Run.log_invariant` — the same for invariants that speak of the labels so far.
* `Run.append_inv` — a run can be cut anywhere.
-/

/-- A run from `s` to `t`. -/
inductive Run {σ ℓ : Type} (step : σ → ℓ → σ → Prop) : σ → List ℓ → σ → Prop where
  | nil (s : σ) : Run step s [] s
  | snoc {s t u : σ} {ls : List ℓ} {l : ℓ} (run : Run step s ls t) (last : step t l u) :
      Run step s (ls ++ [l]) u

namespace Run

variable {σ ℓ : Type} {step : σ → ℓ → σ → Prop} {s t u : σ} {ls ls' : List ℓ}

/-- An invariant that may speak of the labels so far. -/
theorem log_invariant {I : List ℓ → σ → Prop} {G : ℓ → Prop}
    (hstep : ∀ ls s l t, I ls s → G l → step s l t → I (ls ++ [l]) t)
    (run : Run step s ls t) (hgood : ∀ l ∈ ls, G l) (h : I [] s) : I ls t := by
  induction run with
  | nil => exact h
  | snoc run last ih =>
    refine hstep _ _ _ _ (ih fun l hl => hgood l ?_) (hgood _ ?_) last
    · exact List.mem_append_left _ hl
    · simp

/-- An invariant of the states. -/
theorem invariant {I : σ → Prop} {G : ℓ → Prop}
    (hstep : ∀ s l t, I s → G l → step s l t → I t) (run : Run step s ls t)
    (hgood : ∀ l ∈ ls, G l) (h : I s) : I t :=
  log_invariant (I := fun _ => I) (fun _ => hstep) run hgood h

/-- Where each step from a good state is good exactly when `P` holds of its label, and a good
step keeps the state good, `P` holds of all labels exactly when they are all good. -/
theorem forall_iff {I : σ → Prop} {G P : ℓ → Prop}
    (hstep : ∀ s l t, I s → step s l t → (P l ↔ G l) ∧ (G l → I t))
    (run : Run step s ls t) (h : I s) : (∀ l ∈ ls, P l) ↔ ∀ l ∈ ls, G l := by
  induction run with
  | nil => simp
  | @snoc t u ls l run last ih =>
    have hlast : (∀ l ∈ ls, G l) → (P l ↔ G l) := by
      intro hgood
      have ht : I t := run.invariant (fun s l t hI hl hs => (hstep s l t hI hs).2 hl) hgood h
      exact (hstep t l u ht last).1
    simp only [List.forall_mem_append, List.forall_mem_singleton]
    rw [ih]
    exact and_congr_right hlast

/-- The last step of a run. -/
theorem snoc_inv {l : ℓ} (run : Run step s (ls ++ [l]) u) : ∃ t, Run step s ls t ∧ step t l u := by
  generalize hls : ls ++ [l] = all at run
  cases run with
  | nil => simp at hls
  | snoc run last =>
    obtain ⟨rfl, h⟩ := List.append_inj' hls rfl
    cases h
    exact ⟨_, run, last⟩

/-- A run is cut where its labels are. -/
theorem append_inv (run : Run step s (ls ++ ls') u) :
    ∃ t, Run step s ls t ∧ Run step t ls' u := by
  induction ls' using List.reverseRecOn generalizing u with
  | nil => exact ⟨u, by simpa using run, .nil u⟩
  | append_singleton ls' l ih =>
    rw [← List.append_assoc] at run
    obtain ⟨u', run', last⟩ := run.snoc_inv
    obtain ⟨t, h, h'⟩ := ih run'
    exact ⟨t, h, .snoc h' last⟩

theorem single {l : ℓ} (h : step s l t) : Run step s [l] t :=
  List.nil_append [l] ▸ .snoc (.nil s) h

/-- Runs follow one another. -/
theorem append (h : Run step s ls t) (h' : Run step t ls' u) : Run step s (ls ++ ls') u := by
  induction h' with
  | nil => simpa using h
  | snoc _ last ih =>
    rw [← List.append_assoc]
    exact .snoc ih last

theorem cons {l : ℓ} (h : step s l t) (h' : Run step t ls u) : Run step s (l :: ls) u :=
  (single h).append h'

/-- The first step of a run. -/
theorem cons_inv {l : ℓ} (run : Run step s (l :: ls) u) : ∃ t, step s l t ∧ Run step t ls u := by
  obtain ⟨t, h, h'⟩ : ∃ t, Run step s [l] t ∧ Run step t ls u := append_inv run
  obtain ⟨s', start, last⟩ : ∃ s', Run step s [] s' ∧ step s' l t := snoc_inv h
  generalize hnil : ([] : List ℓ) = labels at start
  cases start with
  | nil => exact ⟨t, last, h'⟩
  | snoc => simp at hnil

/-- Every label of a run is the label of a step from a state the run has reached. -/
theorem mem_step (run : Run step s ls u) {l : ℓ} (hl : l ∈ ls) :
    ∃ pre post t t', ls = pre ++ l :: post ∧ Run step s pre t ∧ step t l t' ∧
      Run step t' post u := by
  obtain ⟨pre, post, rfl⟩ := List.append_of_mem hl
  rw [show pre ++ l :: post = (pre ++ [l]) ++ post by simp] at run
  obtain ⟨t', h, h'⟩ := run.append_inv
  obtain ⟨t, run', last⟩ := h.snoc_inv
  exact ⟨pre, post, t, t', rfl, run', last, h'⟩

end Run
