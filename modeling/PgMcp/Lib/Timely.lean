import PgMcp.Lib.Program
import Mathlib.Order.Monotone.Basic

/-!
# What an outcome says about the time it comes at

The states of a program carry a time that never goes back.  Something is said of each outcome at
the time the program returns it: `P` of a value, `V` of an error.  What is kept for later, an error
that was caught or a value that was read, is still true then if it lasts.

## Main definitions

* `Program.Justified V P` — what is said of an outcome at a time.
* `Program.Timely time V P x s` — time passes only forward, and the outcome is justified.

## Main results

* `Program.Timely.bind`, `Program.Timely.attempt_bind` — the rules for sequencing, and one rule for
  each operation.
* `Program.Justified.later` — what lasts is still true at a later time.
-/

namespace Program

variable {σ σ' τ ε ε' α β : Type}

/-- What is said of an outcome at a time: `V` of an error, `P` of a value. -/
def Justified (V : ε → τ → Prop) (P : α → τ → Prop) : Except ε α → τ → Prop
  | .ok a, t => P a t
  | .error e, t => V e t

@[simp] theorem justified_ok {V : ε → τ → Prop} {P : α → τ → Prop} {a : α} {t : τ} :
    Justified V P (.ok a) t ↔ P a t := Iff.rfl

@[simp] theorem justified_error {V : ε → τ → Prop} {P : α → τ → Prop} {e : ε} {t : τ} :
    Justified V P (.error e) t ↔ V e t := Iff.rfl

variable [Preorder τ]

/-- From `s` on time passes only forward, and what is said of the outcome of `x` is true when it
comes. -/
def Timely (time : σ → τ) (V : ε → τ → Prop) (P : α → τ → Prop) (x : Program σ ε α) (s : σ) : Prop :=
  x.Post s fun r s' => time s ≤ time s' ∧ Justified V P r (time s')

/-- What lasts is still true at a later time. -/
theorem Justified.later {V : ε → τ → Prop} {P : α → τ → Prop} (hV : ∀ e, Monotone (V e))
    (hP : ∀ a, Monotone (P a)) {r : Except ε α} {t t' : τ} (h : Justified V P r t) (htt' : t ≤ t') :
    Justified V P r t' := by
  cases r with
  | ok a => exact hP a htt' h
  | error e => exact hV e htt' h

namespace Timely

variable {time : σ → τ} {V : ε → τ → Prop} {V' : ε' → τ → Prop} {P : α → τ → Prop} {Q : β → τ → Prop}
  {s s' : σ} {x : Program σ ε α}

theorem returns (h : x.Timely time V P s) {r : Except ε α} (hr : x.Returns s r s') :
    time s ≤ time s' ∧ Justified V P r (time s') := Post.returns h hr

/-! ### One rule for each operation -/

theorem pure {a : α} (h : P a (time s)) : (Pure.pure a : Program σ ε α).Timely time V P s :=
  ⟨le_rfl, h⟩

theorem fail {e : ε} (h : V e (time s)) : (Program.fail e : Program σ ε α).Timely time V P s :=
  ⟨le_rfl, h⟩

theorem outOfRounds : (Program.outOfRounds : Program σ ε α).Timely time V P s := trivial

theorem ofExcept {r : Except ε α} (h : Justified V P r (time s)) :
    (Program.ofExcept r : Program σ ε α).Timely time V P s := post_ofExcept.mpr ⟨le_rfl, h⟩

theorem require {P : Unit → τ → Prop} {b : Bool} {e : ε} (hP : b = true → P () (time s))
    (hV : b = false → V e (time s)) : (Program.require b e : Program σ ε Unit).Timely time V P s :=
  post_require.mpr ⟨fun h => ⟨le_rfl, hP h⟩, fun h => ⟨le_rfl, hV h⟩⟩

theorem read {f : σ → α} (h : P (f s) (time s)) :
    (Program.read f : Program σ ε α).Timely time V P s := ⟨le_rfl, h⟩

theorem update {P : Unit → τ → Prop} {f : σ → σ} (hle : time s ≤ time (f s)) (h : P () (time (f s))) :
    (Program.update f : Program σ ε Unit).Timely time V P s := ⟨hle, h⟩

theorem act {f : σ → α × σ} (hle : time s ≤ time (f s).2) (h : P (f s).1 (time (f s).2)) :
    (Program.act f : Program σ ε α).Timely time V P s := ⟨hle, h⟩

/-- A call that takes no time. -/
theorem act_still {f : σ → α × σ} (h : time (f s).2 = time s) :
    (Program.act f : Program σ ε α).Timely time V (fun _ t => t = time s) s := act h.ge h

/-- Less may be said. -/
theorem mono {V₁ : ε → τ → Prop} {P₁ : α → τ → Prop} (h : x.Timely time V P s)
    (hV : ∀ e t, V e t → V₁ e t) (hP : ∀ a t, P a t → P₁ a t) : x.Timely time V₁ P₁ s := by
  refine Post.mono h fun r s' h' => ⟨h'.1, ?_⟩
  cases r with
  | ok a => exact hP a _ h'.2
  | error e => exact hV e _ h'.2

/-- Sequencing: what is said of the first value may be used at any later time of the run. -/
theorem bind {f : α → Program σ ε β} (hx : x.Timely time V P s)
    (hf : ∀ a s', time s ≤ time s' → P a (time s') → (f a).Timely time V Q s') :
    (x >>= f).Timely time V Q s := by
  apply Post.bind hx
  · intro a s' h
    refine Post.mono (hf a s' h.1 h.2) fun r s'' h' => ?_
    exact ⟨h.1.trans h'.1, h'.2⟩
  · intro e s' h
    exact h

/-- Sequencing when an error of the first program is handed on as a value. -/
theorem attempt_bind {f : Except ε α → Program σ ε' β} (hx : x.Timely time V P s)
    (hf : ∀ r s', time s ≤ time s' → Justified V P r (time s') → (f r).Timely time V' Q s') :
    (attempt x >>= f).Timely time V' Q s := by
  apply Post.attempt_bind hx
  intro r s' h
  refine Post.mono (hf r s' h.1 h.2) fun r' s'' h' => ?_
  exact ⟨h.1.trans h'.1, h'.2⟩

theorem mapError {f : ε → σ → ε'} (hx : x.Timely time V P s)
    (hV : ∀ e s', V e (time s') → V' (f e s') (time s')) : (x.mapError f).Timely time V' P s := by
  refine post_mapError.mpr (Post.mono hx fun r s' h => ⟨h.1, ?_⟩)
  cases r with
  | ok a => exact h.2
  | error e => exact hV e s' h.2

/-- A program on a part of the state that carries the time. -/
theorem zoom {get : σ' → σ} {set : σ → σ' → σ'} {time' : σ' → τ} {t : σ'}
    (hget : time' t = time (get t)) (hset : ∀ s, time' (set s t) = time s)
    (hx : x.Timely time V P (get t)) : (x.zoom get set).Timely time' V P t := by
  refine post_zoom.mpr (Post.mono hx fun r s' h => ?_)
  rw [hget, hset]
  exact h

end Timely

end Program
