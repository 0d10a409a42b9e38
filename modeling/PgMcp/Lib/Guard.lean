import PgMcp.Lib.Program

/-!
# Programs with a guard

A guarded program is followed by a change of the state however it ends: what is done when a guard is
dropped at the end of its scope.

## Main definitions

* `Program.guarded` — a program and what follows it.

## Main results

* `Program.post_guarded`, `Program.terminates_guarded` — the rules for it.
-/

namespace Program

variable {σ ε α : Type} {s : σ}

/-- Run `x`, and change the state by `release` however it ends. -/
def guarded (release : σ → σ) (x : Program σ ε α) : Program σ ε α := do
  let r ← x.attempt
  update release
  ofExcept r

/-- What holds after the release has to hold of the released state. -/
@[simp] theorem post_guarded {release : σ → σ} {x : Program σ ε α} {Q : Except ε α → σ → Prop} :
    (x.guarded release).Post s Q ↔ x.Post s fun r s' => Q r (release s') := by
  unfold guarded
  simp only [post_bind, post_attempt, andThen_ok, post_update, post_ofExcept]

/-- A guarded program ends when the program in it does. -/
theorem terminates_guarded {release : σ → σ} {x : Program σ ε α} (h : x.Terminates s) :
    (x.guarded release).Terminates s := by
  apply terminates_bind (terminates_attempt h)
  intro r s' _
  rw [terminates_update_bind]
  exact terminates_ofExcept r

end Program
