import PgMcp.Lib.Program

/-!
# Programs that return

`Program.Post` says nothing of a run that is out of rounds.  Total correctness says that the
program returns as well, and composes along the same operations.

## Main definitions

* `Program.Total` — the program returns, with an outcome and a last state as specified.

## Main results

* `total_of_post` — termination and a specification.
* `Total.bind`, `Total.attempt_bind` — the rules for sequencing.
-/

namespace Program

variable {σ τ ε ε' α β : Type}

/-- `x` returns from `s`, and `Q` holds of its outcome and its last state. -/
def Total (x : Program σ ε α) (s : σ) (Q : Except ε α → σ → Prop) : Prop :=
  ∃ r s', x.Returns s r s' ∧ Q r s'

theorem total_of_post {x : Program σ ε α} {s : σ} {Q : Except ε α → σ → Prop} (h : x.Terminates s)
    (hQ : x.Post s Q) : x.Total s Q := by
  obtain ⟨r, s', hr⟩ := h
  exact ⟨r, s', hr, hQ.returns hr⟩

/-- A program has one outcome. -/
theorem Total.returns {x : Program σ ε α} {s s' : σ} {r : Except ε α} {Q : Except ε α → σ → Prop}
    (h : x.Total s Q) (hr : x.Returns s r s') : Q r s' := by
  obtain ⟨r₁, s₁, h₁, hQ⟩ := h
  obtain ⟨rfl, rfl⟩ := h₁.unique hr
  exact hQ

theorem Total.mono {x : Program σ ε α} {s : σ} {Q Q' : Except ε α → σ → Prop} (h : x.Total s Q)
    (hQ : ∀ r s', Q r s' → Q' r s') : x.Total s Q' := by
  obtain ⟨r, s', hr, hs⟩ := h
  exact ⟨r, s', hr, hQ r s' hs⟩

theorem total_pure {a : α} {s : σ} {Q : Except ε α → σ → Prop} (h : Q (.ok a) s) :
    (pure a : Program σ ε α).Total s Q := ⟨.ok a, s, rfl, h⟩

theorem total_fail {e : ε} {s : σ} {Q : Except ε α → σ → Prop} (h : Q (.error e) s) :
    (fail e : Program σ ε α).Total s Q := ⟨.error e, s, rfl, h⟩

theorem total_read {f : σ → α} {s : σ} {Q : Except ε α → σ → Prop} (h : Q (.ok (f s)) s) :
    (read f : Program σ ε α).Total s Q := ⟨.ok (f s), s, rfl, h⟩

theorem total_ofExcept {r : Except ε α} {s : σ} {Q : Except ε α → σ → Prop} (h : Q r s) :
    (ofExcept r : Program σ ε α).Total s Q := ⟨r, s, by cases r <;> rfl, h⟩

theorem total_require {b : Bool} {e : ε} {s : σ} {Q : Except ε Unit → σ → Prop}
    (h : Q (if b then .ok () else .error e) s) : (require b e : Program σ ε Unit).Total s Q := by
  cases b with
  | true => exact ⟨.ok (), s, rfl, h⟩
  | false => exact ⟨.error e, s, rfl, h⟩

/-- Sequencing through a specification of the first program. -/
theorem Total.bind {x : Program σ ε α} {f : α → Program σ ε β} {s : σ} {P : Except ε α → σ → Prop}
    {Q : Except ε β → σ → Prop} (hx : x.Total s P) (hok : ∀ a s', P (.ok a) s' → (f a).Total s' Q)
    (herror : ∀ e s', P (.error e) s' → Q (.error e) s') : (x >>= f).Total s Q := by
  obtain ⟨r, s₁, hr, hP⟩ := hx
  cases r with
  | ok a =>
    obtain ⟨r', s', hr', hQ⟩ := hok a s₁ hP
    exact ⟨r', s', returns_bind_iff.mpr (.inl ⟨a, s₁, hr, hr'⟩), hQ⟩
  | error e => exact ⟨.error e, s₁, returns_bind_iff.mpr (.inr ⟨e, hr, rfl⟩), herror e s₁ hP⟩

theorem Total.attempt {x : Program σ ε α} {s : σ} {Q : Except ε' (Except ε α) → σ → Prop}
    (h : x.Total s fun r s' => Q (.ok r) s') : (attempt x : Program σ ε' _).Total s Q := by
  obtain ⟨r, s', hr, hQ⟩ := h
  exact ⟨.ok r, s', returns_attempt_iff.mpr ⟨r, rfl, hr⟩, hQ⟩

/-- Sequencing when the outcome of the first program is handed on as a value. -/
theorem Total.attempt_bind {x : Program σ ε α} {f : Except ε α → Program σ ε' β} {s : σ}
    {P : Except ε α → σ → Prop} {Q : Except ε' β → σ → Prop} (hx : x.Total s P)
    (hr : ∀ r s', P r s' → (f r).Total s' Q) : (Program.attempt x >>= f).Total s Q := by
  refine Total.bind (P := fun r s' => ∃ r', r = .ok r' ∧ P r' s') (Total.attempt ?_) ?_ ?_
  · exact hx.mono fun r s' h => ⟨r, rfl, h⟩
  · rintro r s' ⟨r', h, hP⟩
    cases h
    exact hr r s' hP
  · rintro e s' ⟨r', h, -⟩
    cases h

theorem Total.mapError {f : ε → σ → ε'} {x : Program σ ε α} {s : σ} {Q : Except ε' α → σ → Prop}
    (h : x.Total s fun r s' => Q (r.mapError (f · s')) s') : (x.mapError f).Total s Q := by
  obtain ⟨r, s', hr, hQ⟩ := h
  exact ⟨_, s', returns_mapError_iff.mpr ⟨r, rfl, hr⟩, hQ⟩

theorem Total.zoom {get : τ → σ} {set : σ → τ → τ} {x : Program σ ε α} {t : τ}
    {Q : Except ε α → τ → Prop} (h : x.Total (get t) fun r s => Q r (set s t)) :
    (x.zoom get set).Total t Q := by
  obtain ⟨r, s, hr, hQ⟩ := h
  exact ⟨r, set s t, returns_zoom_iff.mpr ⟨s, rfl, hr⟩, hQ⟩

end Program
