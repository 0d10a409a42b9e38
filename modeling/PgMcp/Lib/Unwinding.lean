import PgMcp.Lib.Run

/-!
# What an observer sees of a run

An observer of a transition system sees a part of each state, and some of the steps are its
own.  Where the other steps leave alone what it sees, and its own steps go by what it sees,
a run shows it what its own steps alone would show.

## Main definitions

* `Unseen step I G own view` — from states with `I`, the good steps that are not the
  observer's own leave its view alone.

## Main results

* `Unseen.alone` — the observer's own steps of a run can be taken alone.
* `Unseen.view_eq` — two runs with the same own steps end with the same view.
-/

variable {σ ℓ α : Type}

/-- Good steps keep `I`, and those that are not the observer's own leave its view alone. -/
structure Unseen (step : σ → ℓ → σ → Prop) (I : σ → Prop) (G : ℓ → Prop) (own : ℓ → Bool)
    (view : σ → α) : Prop where
  keep : ∀ {s t : σ} {l : ℓ}, I s → G l → step s l t → I t
  frame : ∀ {s t : σ} {l : ℓ}, I s → G l → step s l t → own l = false → view t = view s

namespace Unseen

variable {step : σ → ℓ → σ → Prop} {I : σ → Prop} {G : ℓ → Prop} {own : ℓ → Bool} {view : σ → α}
  {s s' t t' : σ} {ls ls' : List ℓ}

/-- The steps at the end of a run that are not the observer's own show nothing. -/
theorem last_own (h : Unseen step I G own view) (run : Run step s ls t) (hgood : ∀ l ∈ ls, G l)
    (hs : I s) : (ls.filter own = [] ∧ view t = view s) ∨
      ∃ pre l post u u', ls = pre ++ l :: post ∧ Run step s pre u ∧ step u l u' ∧ I u ∧ G l ∧
        own l = true ∧ ls.filter own = pre.filter own ++ [l] ∧ view t = view u' := by
  induction run with
  | nil => exact .inl ⟨rfl, rfl⟩
  | @snoc t v ls l run last ih =>
    have hpre : ∀ l ∈ ls, G l := fun l hl => hgood l (List.mem_append_left _ hl)
    have hl : G l := hgood l (by simp)
    have ht : I t := run.invariant (fun _ _ _ hI hG hstep => h.keep hI hG hstep) hpre hs
    by_cases hown : own l = true
    · refine .inr ⟨ls, l, [], t, v, rfl, run, last, ht, hl, hown, ?_, rfl⟩
      simp [hown]
    · have hframe := h.frame ht hl last (by simpa using hown)
      rcases ih hpre with ⟨hnone, hview⟩ |
        ⟨pre, m, post, u, u', rfl, hrun, hm, hu, hgm, hom, hlast, hview⟩
      · exact .inl ⟨by simp [hnone, hown], hframe.trans hview⟩
      · refine .inr ⟨pre, m, post ++ [l], u, u', by simp, hrun, hm, hu, hgm, hom, ?_,
          hframe.trans hview⟩
        rw [List.filter_append, hlast]
        simp [hown]

/-- Two runs with the same own steps, from states with the same view, end with the same
view. -/
theorem view_eq (h : Unseen step I G own view) {R : ℓ → ℓ → Prop}
    (follow : ∀ {s s' t t' : σ} {l l' : ℓ}, I s → I s' → G l → G l' → step s l t → step s' l' t' →
      own l = true → own l' = true → R l l' → view s = view s' → view t = view t')
    (run : Run step s ls t) (run' : Run step s' ls' t') (hgood : ∀ l ∈ ls, G l)
    (hgood' : ∀ l ∈ ls', G l) (hs : I s) (hs' : I s')
    (same : List.Forall₂ R (ls.filter own) (ls'.filter own)) (hview : view s = view s') :
    view t = view t' := by
  induction run generalizing ls' t' with
  | nil =>
    rw [List.filter_nil, List.forall₂_nil_left_iff] at same
    rcases h.last_own run' hgood' hs' with ⟨-, hlast⟩ |
      ⟨pre, l, post, u, u', -, -, -, -, -, -, hlast, -⟩
    · exact hview.trans hlast.symm
    · simp [hlast] at same
  | @snoc t v ls l run last ih =>
    have hpre : ∀ l ∈ ls, G l := fun l hl => hgood l (List.mem_append_left _ hl)
    have hl : G l := hgood l (by simp)
    have ht : I t := run.invariant (fun _ _ _ hI hG hstep => h.keep hI hG hstep) hpre hs
    by_cases hown : own l = true
    · rw [List.filter_append, List.filter_cons_of_pos hown, List.filter_nil] at same
      rcases h.last_own run' hgood' hs' with
        ⟨hnone, -⟩ | ⟨pre, m, post, u, u', rfl, hrun, hm, hu, hgm, hom, hlast, hend⟩
      · rw [hnone, List.forall₂_nil_right_iff] at same
        simp at same
      · -- the last own steps of the two runs go together
        rw [hlast] at same
        obtain ⟨hsame, hlm⟩ : List.Forall₂ R (ls.filter own) (pre.filter own) ∧ R l m := by
          have hrev := List.rel_reverse same
          simp only [List.reverse_append, List.reverse_cons, List.reverse_nil, List.nil_append,
            List.singleton_append, List.forall₂_cons] at hrev
          refine ⟨?_, hrev.1⟩
          simpa using List.rel_reverse hrev.2
        have hgpre : ∀ l ∈ pre, G l := fun l hl => hgood' l (List.mem_append_left _ hl)
        exact (follow ht hu hl hgm last hm hown hom hlm (ih hrun hpre hgpre hsame)).trans hend.symm
    · rw [List.filter_append, List.filter_cons_of_neg hown, List.filter_nil, List.append_nil] at same
      exact (h.frame ht hl last (by simpa using hown)).trans (ih run' hpre hgood' same)

/-- The observer's own steps of a run can be taken alone, from any state that shows it the
same and leaves it the same freedom. -/
theorem alone (h : Unseen step I G own view) {F : σ → σ → Prop} {R : ℓ → ℓ → Prop}
    (free : ∀ {s s' t : σ} {l : ℓ}, I s → G l → step s l t → own l = false → F s s' → F t s')
    (lift : ∀ {s s' t : σ} {l : ℓ}, I s → I s' → G l → step s l t → own l = true →
      view s = view s' → F s s' → ∃ l' t', step s' l' t' ∧ G l' ∧ own l' = true ∧ R l l' ∧
        view t = view t' ∧ F t t')
    (run : Run step s ls t) (hgood : ∀ l ∈ ls, G l) (hs : I s) (hs' : I s')
    (hview : view s = view s') (hfree : F s s') :
    ∃ ls' t', Run step s' ls' t' ∧ (∀ l ∈ ls', G l) ∧ (∀ l ∈ ls', own l = true) ∧
      List.Forall₂ R (ls.filter own) ls' ∧ view t = view t' ∧ F t t' := by
  induction run with
  | nil => exact ⟨[], s', .nil s', by simp, by simp, .nil, hview, hfree⟩
  | @snoc t v ls l run last ih =>
    have hpre : ∀ l ∈ ls, G l := fun l hl => hgood l (List.mem_append_left _ hl)
    have hl : G l := hgood l (by simp)
    have ht : I t := run.invariant (fun _ _ _ hI hG hstep => h.keep hI hG hstep) hpre hs
    obtain ⟨ls', t', run', hgood', hown', hsame, hview', hfree'⟩ := ih hpre
    by_cases hown : own l = true
    · have ht' : I t' := run'.invariant (fun _ _ _ hI hG hstep => h.keep hI hG hstep) hgood' hs'
      obtain ⟨l', v', hstep, hgl, hol, hll, hvv, hfv⟩ := lift ht ht' hl last hown hview' hfree'
      refine ⟨ls' ++ [l'], v', run'.snoc hstep, ?_, ?_, ?_, hvv, hfv⟩
      · exact List.forall_mem_append.mpr ⟨hgood', List.forall_mem_singleton.mpr hgl⟩
      · exact List.forall_mem_append.mpr ⟨hown', List.forall_mem_singleton.mpr hol⟩
      · rw [List.filter_append, List.filter_cons_of_pos hown, List.filter_nil]
        exact List.rel_append hsame (.cons hll .nil)
    · have hother : own l = false := by simpa using hown
      refine ⟨ls', t', run', hgood', hown', ?_, (h.frame ht hl last hother).trans hview',
        free ht hl last hother hfree'⟩
      rwa [List.filter_append, List.filter_cons_of_neg hown, List.filter_nil, List.append_nil]

end Unseen
