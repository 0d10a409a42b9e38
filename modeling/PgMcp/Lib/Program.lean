import Mathlib.Tactic

/-!
# Programs with state, errors and unfinished runs

A `Program σ ε α` runs from a state and ends with a value or with an error.
Errors keep the state they were raised in, so a caller that ignores an error goes
on from there.  A loop is written with the number of rounds it may run; a run that
uses them up is `unfinished`, in the state it has reached.  A statement about
termination says that some number of rounds suffices, and a statement about every
moment of a run is one about every number of rounds.

## Main definitions

* `Exit`, `Program` — the outcomes and the programs, with their monad.
* `Program.Returns x s r s'` — `x`, started at `s`, ends with `r` in state `s'`.
* `Program.Post x s Q` — whenever `x` returns from `s`, `Q` holds of the outcome.
* `Program.last x s` — the state a run has reached, ended or not.
* `Program.Keeps I x` — `x` keeps the invariant `I`, whether its run ends or not.
* `Program.Within R x` — `x` moves the state only along the preorder `R`.
* `Program.Le x y` — `y` returns what `x` returns.
* `Program.Yields P x` — what `x` returns has the property `P`.

## Main results

* `Program.post_bind` — the rule for sequencing, and one rule for each operation.
* `Program.terminates_bind` — a sequence ends when both parts do.
* `Program.returns_ok_bind` — a value is reached through values.
* `Program.Within.bind` — relations between the states before and after compose.
-/

/-- How a run ends: with a value, with an error, or out of rounds. -/
inductive Exit (σ ε α : Type) where
  /-- The run returns `a` in state `s`. -/
  | ok (a : α) (s : σ) : Exit σ ε α
  /-- The run fails with `e` in state `s`. -/
  | error (e : ε) (s : σ) : Exit σ ε α
  /-- The run has used up its rounds and has reached `s`. -/
  | unfinished (s : σ) : Exit σ ε α
  deriving Repr

/-- The exit with outcome `r` in state `s`. -/
def Exit.of {σ ε α : Type} : Except ε α → σ → Exit σ ε α
  | .ok a, s => .ok a s
  | .error e, s => .error e s

/-- The state of an exit. -/
def Exit.state {σ ε α : Type} : Exit σ ε α → σ
  | .ok _ s => s
  | .error _ s => s
  | .unfinished s => s

/-- The run has come to an end. -/
def Exit.ended {σ ε α : Type} : Exit σ ε α → Bool
  | .ok _ _ | .error _ _ => true
  | .unfinished _ => false

/-- What a run has come to an end with. -/
def Exit.result? {σ ε α : Type} : Exit σ ε α → Option (Except ε α)
  | .ok a _ => some (.ok a)
  | .error e _ => some (.error e)
  | .unfinished _ => none

/-- A program over states `σ` with errors `ε`. -/
def Program (σ ε α : Type) : Type := σ → Exit σ ε α

namespace Program

variable {σ τ ε ε' α β : Type}

/-! ### Operations -/

/-- Sequencing: an error of the first program is that of the whole. -/
protected def bind (x : Program σ ε α) (f : α → Program σ ε β) : Program σ ε β := fun s =>
  match x s with
  | .ok a s' => f a s'
  | .error e s' => .error e s'
  | .unfinished s' => .unfinished s'

instance : Monad (Program σ ε) where
  pure a := fun s => .ok a s
  bind := Program.bind

/-- Fail with `e`. -/
def fail (e : ε) : Program σ ε α := fun s => .error e s

/-- The rounds are used up. -/
def outOfRounds : Program σ ε α := fun s => .unfinished s

/-- Fail with `e` unless `b`. -/
def require (b : Bool) (e : ε) : Program σ ε Unit := if b then pure () else fail e

/-- Read the state. -/
def read (f : σ → α) : Program σ ε α := fun s => .ok (f s) s

/-- Change the state. -/
def update (f : σ → σ) : Program σ ε Unit := fun s => .ok () (f s)

/-- Run a function of the state. -/
def act (f : σ → α × σ) : Program σ ε α := fun s => .ok (f s).1 (f s).2

/-- Return or fail as `r` says. -/
def ofExcept (r : Except ε α) : Program σ ε α := fun s => Exit.of r s

/-- Run `x` and return its outcome, an error as a value. -/
def attempt (x : Program σ ε α) : Program σ ε' (Except ε α) := fun s =>
  match x s with
  | .ok a s' => .ok (.ok a) s'
  | .error e s' => .ok (.error e) s'
  | .unfinished s' => .unfinished s'

/-- Rewrite an error, looking at the state it was raised in. -/
def mapError (f : ε → σ → ε') (x : Program σ ε α) : Program σ ε' α := fun s =>
  match x s with
  | .ok a s' => .ok a s'
  | .error e s' => .error (f e s') s'
  | .unfinished s' => .unfinished s'

/-- Run `x` on a part of the state. -/
def zoom (get : τ → σ) (set : σ → τ → τ) (x : Program σ ε α) : Program τ ε α := fun t =>
  match x (get t) with
  | .ok a s => .ok a (set s t)
  | .error e s => .error e (set s t)
  | .unfinished s => .unfinished (set s t)

/-! ### Outcomes -/

/-- `x`, started at `s`, ends with `r` in state `s'`. -/
def Returns (x : Program σ ε α) (s : σ) (r : Except ε α) (s' : σ) : Prop := x s = Exit.of r s'

/-- `x`, started at `s`, ends. -/
def Terminates (x : Program σ ε α) (s : σ) : Prop := ∃ r s', x.Returns s r s'

/-- The state the run of `x` from `s` has reached. -/
def last (x : Program σ ε α) (s : σ) : σ := (x s).state

/-- Whenever `x` returns from `s`, `Q` holds of its outcome and its last state. -/
def Post (x : Program σ ε α) (s : σ) (Q : Except ε α → σ → Prop) : Prop :=
  match x s with
  | .ok a s' => Q (.ok a) s'
  | .error e s' => Q (.error e) s'
  | .unfinished _ => True

theorem Returns.unique {x : Program σ ε α} {s : σ} {r r' : Except ε α} {s₁ s₂ : σ}
    (h : x.Returns s r s₁) (h' : x.Returns s r' s₂) : r = r' ∧ s₁ = s₂ := by
  unfold Returns at h h'
  rw [h] at h'
  cases r <;> cases r' <;> simp_all [Exit.of]

theorem Returns.last {x : Program σ ε α} {s : σ} {r : Except ε α} {s' : σ}
    (h : x.Returns s r s') : x.last s = s' := by
  unfold Returns at h
  unfold Program.last
  rw [h]
  cases r <;> rfl

theorem post_iff {x : Program σ ε α} {s : σ} {Q : Except ε α → σ → Prop} :
    x.Post s Q ↔ ∀ r s', x.Returns s r s' → Q r s' := by
  constructor
  · rintro h (e | a) s' hr <;> · unfold Returns Exit.of at hr; simpa [Post, hr] using h
  · intro h
    unfold Post
    cases hx : x s with
    | ok a s' => exact h (.ok a) s' hx
    | error e s' => exact h (.error e) s' hx
    | unfinished s' => trivial

theorem Post.returns {x : Program σ ε α} {s : σ} {Q : Except ε α → σ → Prop} (h : x.Post s Q)
    {r : Except ε α} {s' : σ} (hr : x.Returns s r s') : Q r s' :=
  post_iff.mp h r s' hr

theorem Post.mono {x : Program σ ε α} {s : σ} {Q Q' : Except ε α → σ → Prop}
    (h : x.Post s Q) (hQ : ∀ r s', Q r s' → Q' r s') : x.Post s Q' :=
  post_iff.mpr fun r s' hr => hQ r s' (h.returns hr)

/-! ### One rule for each operation -/

theorem Post.and {x : Program σ ε α} {s : σ} {Q Q' : Except ε α → σ → Prop} (h : x.Post s Q)
    (h' : x.Post s Q') : x.Post s fun r s' => Q r s' ∧ Q' r s' :=
  post_iff.mpr fun _ _ hr => ⟨h.returns hr, h'.returns hr⟩

@[simp] theorem post_pure {a : α} {s : σ} {Q : Except ε α → σ → Prop} :
    (pure a : Program σ ε α).Post s Q ↔ Q (.ok a) s := Iff.rfl

/-- What is left to show after the first of two programs. -/
def andThen (f : α → Program σ ε β) (Q : Except ε β → σ → Prop) : Except ε α → σ → Prop
  | .ok a, s => (f a).Post s Q
  | .error e, s => Q (.error e) s

@[simp] theorem andThen_ok {f : α → Program σ ε β} {Q : Except ε β → σ → Prop} {a : α} {s : σ} :
    andThen f Q (.ok a) s ↔ (f a).Post s Q := Iff.rfl

@[simp] theorem andThen_error {f : α → Program σ ε β} {Q : Except ε β → σ → Prop} {e : ε}
    {s : σ} : andThen f Q (.error e) s ↔ Q (.error e) s := Iff.rfl

@[simp] theorem post_bind {x : Program σ ε α} {f : α → Program σ ε β} {s : σ}
    {Q : Except ε β → σ → Prop} : (x >>= f).Post s Q ↔ x.Post s (andThen f Q) := by
  show (Program.bind x f).Post s Q ↔ _
  unfold Post Program.bind
  cases x s with
  | ok a s' => simp [andThen, Post]
  | error e s' => simp [andThen]
  | unfinished s' => simp

/-- Sequencing through a specification of the first program. -/
theorem Post.bind {x : Program σ ε α} {f : α → Program σ ε β} {s : σ}
    {P : Except ε α → σ → Prop} {Q : Except ε β → σ → Prop} (hx : x.Post s P)
    (hok : ∀ a s', P (.ok a) s' → (f a).Post s' Q)
    (herror : ∀ e s', P (.error e) s' → Q (.error e) s') : (x >>= f).Post s Q := by
  rw [post_bind]
  refine hx.mono fun r s' h => ?_
  cases r with
  | ok a => exact hok a s' h
  | error e => exact herror e s' h

@[simp] theorem post_fail {e : ε} {s : σ} {Q : Except ε α → σ → Prop} :
    (fail e : Program σ ε α).Post s Q ↔ Q (.error e) s := Iff.rfl

@[simp] theorem post_outOfRounds {s : σ} {Q : Except ε α → σ → Prop} :
    (outOfRounds : Program σ ε α).Post s Q ↔ True := Iff.rfl

@[simp] theorem post_require {b : Bool} {e : ε} {s : σ} {Q : Except ε Unit → σ → Prop} :
    (require b e : Program σ ε Unit).Post s Q ↔
      (b = true → Q (.ok ()) s) ∧ (b = false → Q (.error e) s) := by
  cases b <;> simp [require]

@[simp] theorem post_read {f : σ → α} {s : σ} {Q : Except ε α → σ → Prop} :
    (read f : Program σ ε α).Post s Q ↔ Q (.ok (f s)) s := Iff.rfl

@[simp] theorem post_update {f : σ → σ} {s : σ} {Q : Except ε Unit → σ → Prop} :
    (update f : Program σ ε Unit).Post s Q ↔ Q (.ok ()) (f s) := Iff.rfl

@[simp] theorem post_act {f : σ → α × σ} {s : σ} {Q : Except ε α → σ → Prop} :
    (act f : Program σ ε α).Post s Q ↔ Q (.ok (f s).1) (f s).2 := Iff.rfl

@[simp] theorem post_ofExcept {r : Except ε α} {s : σ} {Q : Except ε α → σ → Prop} :
    (ofExcept r : Program σ ε α).Post s Q ↔ Q r s := by
  cases r <;> exact Iff.rfl

@[simp] theorem post_attempt {x : Program σ ε α} {s : σ} {Q : Except ε' (Except ε α) → σ → Prop} :
    (attempt x : Program σ ε' _).Post s Q ↔ x.Post s fun r s' => Q (.ok r) s' := by
  unfold Post attempt
  cases x s <;> simp

/-- Sequencing when the outcome of the first program is handed on as a value. -/
theorem Post.attempt_bind {x : Program σ ε α} {f : Except ε α → Program σ ε' β} {s : σ}
    {P : Except ε α → σ → Prop} {Q : Except ε' β → σ → Prop} (hx : x.Post s P)
    (hr : ∀ r s', P r s' → (f r).Post s' Q) : (attempt x >>= f).Post s Q := by
  rw [post_bind, post_attempt]
  exact hx.mono hr

@[simp] theorem post_mapError {f : ε → σ → ε'} {x : Program σ ε α} {s : σ}
    {Q : Except ε' α → σ → Prop} :
    (x.mapError f).Post s Q ↔ x.Post s fun r s' => Q (r.mapError (f · s')) s' := by
  unfold Post mapError
  cases x s <;> simp [Except.mapError]

@[simp] theorem post_zoom {get : τ → σ} {set : σ → τ → τ} {x : Program σ ε α} {t : τ}
    {Q : Except ε α → τ → Prop} :
    (x.zoom get set).Post t Q ↔ x.Post (get t) fun r s => Q r (set s t) := by
  unfold Post zoom
  cases x (get t) <;> simp

/-! ### Running a sequence -/

section Running

variable {s s' : σ} {a : α}

theorem bind_ok {x : Program σ ε α} {f : α → Program σ ε β} (h : x s = .ok a s') :
    (x >>= f) s = f a s' := by
  show Program.bind x f s = _
  rw [Program.bind, h]

theorem attempt_ok {x : Program σ ε α} (h : x s = .ok a s') :
    (attempt x : Program σ ε' _) s = .ok (.ok a) s' := by
  rw [attempt, h]

theorem mapError_ok {x : Program σ ε α} {f : ε → σ → ε'} (h : x s = .ok a s') :
    x.mapError f s = .ok a s' := by
  rw [mapError, h]

theorem zoom_ok {get : τ → σ} {set : σ → τ → τ} {x : Program σ ε α} {t : τ}
    (h : x (get t) = .ok a s') : x.zoom get set t = .ok a (set s' t) := by
  rw [zoom, h]

end Running

/-! ### Termination -/

theorem terminates_iff {x : Program σ ε α} {s : σ} :
    x.Terminates s ↔ ∀ s', x s ≠ .unfinished s' := by
  unfold Terminates Returns
  constructor
  · rintro ⟨r, s', h⟩ s₁ hs
    rw [h] at hs
    cases r <;> cases hs
  · intro h
    cases hx : x s with
    | ok a s' => exact ⟨.ok a, s', rfl⟩
    | error e s' => exact ⟨.error e, s', rfl⟩
    | unfinished s' => exact absurd hx (h s')

/-- A run with a result has returned it in the state it has reached. -/
theorem returns_of_result? {x : Program σ ε α} {s : σ} {r : Except ε α} (h : (x s).result? = some r) :
    x.Returns s r (x.last s) := by
  unfold Returns last
  cases hx : x s with
  | ok a s' =>
    rw [hx] at h
    cases h
    rfl
  | error e s' =>
    rw [hx] at h
    cases h
    rfl
  | unfinished s' =>
    rw [hx] at h
    cases h

/-- A run that has ended has returned in the state it has reached. -/
theorem returns_last {x : Program σ ε α} {s : σ} (h : (x s).ended = true) :
    ∃ r, x.Returns s r (x.last s) := by
  unfold Returns last
  cases hx : x s with
  | ok a s' => exact ⟨.ok a, rfl⟩
  | error e s' => exact ⟨.error e, rfl⟩
  | unfinished s' =>
    rw [hx] at h
    cases h

theorem terminates_bind {x : Program σ ε α} {f : α → Program σ ε β} {s : σ}
    (hx : x.Terminates s) (hf : ∀ a s', x.Returns s (.ok a) s' → (f a).Terminates s') :
    (x >>= f).Terminates s := by
  obtain ⟨r, s', h⟩ := hx
  cases r with
  | ok a =>
    obtain ⟨r', s'', h'⟩ := hf a s' h
    refine ⟨r', s'', ?_⟩
    show Program.bind x f s = _
    unfold Returns Exit.of at h
    simp only [Program.bind, h]
    exact h'
  | error e =>
    refine ⟨.error e, s', ?_⟩
    show Program.bind x f s = _
    unfold Returns Exit.of at h
    simp only [Program.bind, h, Exit.of]

/-- Termination of a sequence through a specification of its first part. -/
theorem Terminates.bind {x : Program σ ε α} {f : α → Program σ ε β} {s : σ}
    {P : Except ε α → σ → Prop} (hx : x.Terminates s) (hP : x.Post s P)
    (hf : ∀ a s', P (.ok a) s' → (f a).Terminates s') : (x >>= f).Terminates s :=
  terminates_bind hx fun a s' h => hf a s' (hP.returns h)

theorem terminates_attempt {x : Program σ ε α} {s : σ} (hx : x.Terminates s) :
    (attempt x : Program σ ε' _).Terminates s := by
  rw [terminates_iff] at hx ⊢
  unfold attempt
  cases h : x s with
  | ok a s' => simp
  | error e s' => simp
  | unfinished s' => exact absurd h (hx s')

theorem Terminates.attempt_bind {x : Program σ ε α} {f : Except ε α → Program σ ε' β} {s : σ}
    {P : Except ε α → σ → Prop} (hx : x.Terminates s) (hP : x.Post s P)
    (hf : ∀ r s', P r s' → (f r).Terminates s') : (attempt x >>= f).Terminates s := by
  refine Terminates.bind (terminates_attempt hx) (post_attempt.mpr (Post.mono hP ?_))
    (P := fun r s' => ∃ r', r = .ok r' ∧ P r' s') ?_
  · exact fun r s' h => ⟨r, rfl, h⟩
  · rintro r s' ⟨r', h, hr⟩
    cases h
    exact hf r s' hr

theorem terminates_mapError {f : ε → σ → ε'} {x : Program σ ε α} {s : σ} (hx : x.Terminates s) :
    (x.mapError f).Terminates s := by
  rw [terminates_iff] at hx ⊢
  unfold mapError
  cases h : x s with
  | ok a s' => simp
  | error e s' => simp
  | unfinished s' => exact absurd h (hx s')

theorem terminates_zoom {get : τ → σ} {set : σ → τ → τ} {x : Program σ ε α} {t : τ}
    (hx : x.Terminates (get t)) : (x.zoom get set).Terminates t := by
  rw [terminates_iff] at hx ⊢
  unfold zoom
  cases h : x (get t) with
  | ok a s' => simp
  | error e s' => simp
  | unfinished s' => exact absurd h (hx s')

section Simple

variable {s : σ}

@[simp] theorem terminates_pure (a : α) : (pure a : Program σ ε α).Terminates s := ⟨.ok a, s, rfl⟩

@[simp] theorem terminates_fail (e : ε) : (fail e : Program σ ε α).Terminates s :=
  ⟨.error e, s, rfl⟩

@[simp] theorem terminates_read (f : σ → α) : (read f : Program σ ε α).Terminates s :=
  ⟨.ok (f s), s, rfl⟩

@[simp] theorem terminates_update (f : σ → σ) : (update f : Program σ ε Unit).Terminates s :=
  ⟨.ok (), f s, rfl⟩

@[simp] theorem terminates_act (f : σ → α × σ) : (act f : Program σ ε α).Terminates s :=
  ⟨.ok (f s).1, (f s).2, rfl⟩

@[simp] theorem terminates_ofExcept (r : Except ε α) :
    (ofExcept r : Program σ ε α).Terminates s := ⟨r, s, rfl⟩

@[simp] theorem terminates_require (b : Bool) (e : ε) :
    (require b e : Program σ ε Unit).Terminates s := by
  cases b <;> simp [require]

@[simp] theorem terminates_read_bind {f : σ → α} {g : α → Program σ ε β} :
    (read f >>= g).Terminates s ↔ (g (f s)).Terminates s := Iff.rfl

@[simp] theorem terminates_update_bind {f : σ → σ} {g : Unit → Program σ ε β} :
    (update f >>= g).Terminates s ↔ (g ()).Terminates (f s) := Iff.rfl

@[simp] theorem terminates_act_bind {f : σ → α × σ} {g : α → Program σ ε β} :
    (act f >>= g).Terminates s ↔ (g (f s).1).Terminates (f s).2 := Iff.rfl

@[simp] theorem terminates_require_bind {b : Bool} {e : ε} {g : Unit → Program σ ε β} :
    (require b e >>= g).Terminates s ↔ (b = true → (g ()).Terminates s) := by
  cases b with
  | true => exact ⟨fun h _ => h, fun h => h rfl⟩
  | false => exact ⟨fun _ => nofun, fun _ => ⟨.error e, s, rfl⟩⟩

@[simp] theorem terminates_ofExcept_bind {r : Except ε α} {g : α → Program σ ε β} :
    (ofExcept r >>= g).Terminates s ↔ ∀ a, r = .ok a → (g a).Terminates s := by
  cases r with
  | ok a => exact ⟨fun h a' ha => by cases ha; exact h, fun h => h a rfl⟩
  | error e => exact ⟨fun _ a' => nofun, fun _ => ⟨.error e, s, rfl⟩⟩

end Simple

/-! ### More rounds -/

/-- Where `x` returns, `y` returns the same. -/
def Le (x y : Program σ ε α) : Prop := ∀ s r s', x.Returns s r s' → y.Returns s r s'

theorem Le.refl (x : Program σ ε α) : x.Le x := fun _ _ _ h => h

theorem Le.outOfRounds (x : Program σ ε α) : (outOfRounds : Program σ ε α).Le x := by
  intro s r s' h
  unfold Returns at h
  cases r <;> cases h

/-- Where more rounds return the same, any two numbers of rounds return the same. -/
theorem Returns.unique_of_le {x : ℕ → Program σ ε α} (le : ∀ {m n}, m ≤ n → (x m).Le (x n))
    {m n : ℕ} {s s₁ s₂ : σ} {r r' : Except ε α} (h : (x m).Returns s r s₁)
    (h' : (x n).Returns s r' s₂) : r = r' ∧ s₁ = s₂ :=
  (le (Nat.le_max_left m n) s r s₁ h).unique (le (Nat.le_max_right m n) s r' s₂ h')

/-- A sequence returns through a return of its first part. -/
theorem returns_bind_iff {x : Program σ ε α} {f : α → Program σ ε β} {s : σ}
    {r : Except ε β} {s' : σ} : (x >>= f).Returns s r s' ↔
      (∃ a s₁, x.Returns s (.ok a) s₁ ∧ (f a).Returns s₁ r s') ∨
        ∃ e, x.Returns s (.error e) s' ∧ r = .error e := by
  unfold Returns
  show Program.bind x f s = _ ↔ _
  unfold Program.bind
  cases x s with
  | ok a s₁ =>
    constructor
    · exact fun h => .inl ⟨a, s₁, rfl, h⟩
    · rintro (⟨a', s₁', h, h'⟩ | ⟨e, h, -⟩)
      · cases h
        exact h'
      · cases h
  | error e s₁ =>
    constructor
    · intro h
      cases r with
      | ok b => cases h
      | error e' =>
        cases h
        exact .inr ⟨e, rfl, rfl⟩
    · rintro (⟨a', s₁', h, -⟩ | ⟨e', h, rfl⟩)
      · cases h
      · cases h
        rfl
  | unfinished s₁ =>
    constructor
    · intro h
      cases r <;> cases h
    · rintro (⟨a', s₁', h, -⟩ | ⟨e', h, -⟩) <;> cases h

theorem Le.bind {x y : Program σ ε α} {f g : α → Program σ ε β} (h : x.Le y)
    (hf : ∀ a, (f a).Le (g a)) : (x >>= f).Le (y >>= g) := by
  intro s r s' hr
  rw [returns_bind_iff] at hr ⊢
  rcases hr with ⟨a, s₁, h₁, h₂⟩ | ⟨e, h₁, rfl⟩
  · exact .inl ⟨a, s₁, h _ _ _ h₁, hf a _ _ _ h₂⟩
  · exact .inr ⟨e, h _ _ _ h₁, rfl⟩

theorem returns_attempt_iff {x : Program σ ε α} {s : σ} {r : Except ε' (Except ε α)} {s' : σ} :
    (attempt x : Program σ ε' _).Returns s r s' ↔ ∃ r', r = .ok r' ∧ x.Returns s r' s' := by
  unfold Returns attempt
  cases x s with
  | ok a s₁ =>
    constructor
    · intro h
      cases r <;> cases h
      exact ⟨.ok a, rfl, rfl⟩
    · rintro ⟨_ | a', rfl, h⟩ <;> cases h
      rfl
  | error e s₁ =>
    constructor
    · intro h
      cases r <;> cases h
      exact ⟨.error e, rfl, rfl⟩
    · rintro ⟨_ | a', rfl, h⟩ <;> cases h
      rfl
  | unfinished s₁ =>
    constructor
    · intro h
      cases r <;> cases h
    · rintro ⟨_ | a', rfl, h⟩ <;> cases h

theorem Le.attempt {x y : Program σ ε α} (h : x.Le y) :
    (Program.attempt x : Program σ ε' _).Le (Program.attempt y) := by
  intro s r s' hr
  rw [returns_attempt_iff] at hr ⊢
  obtain ⟨r', rfl, h'⟩ := hr
  exact ⟨r', rfl, h _ _ _ h'⟩

theorem returns_mapError_iff {f : ε → σ → ε'} {x : Program σ ε α} {s : σ} {r : Except ε' α} {s' : σ} :
    (x.mapError f).Returns s r s' ↔ ∃ r', r = r'.mapError (f · s') ∧ x.Returns s r' s' := by
  unfold Returns mapError
  cases x s with
  | ok a s₁ =>
    constructor
    · intro h
      cases r <;> cases h
      exact ⟨.ok a, rfl, rfl⟩
    · rintro ⟨_ | a', rfl, h⟩ <;> cases h
      rfl
  | error e s₁ =>
    constructor
    · intro h
      cases r <;> cases h
      exact ⟨.error e, rfl, rfl⟩
    · rintro ⟨_ | a', rfl, h⟩ <;> cases h
      rfl
  | unfinished s₁ =>
    constructor
    · intro h
      cases r <;> cases h
    · rintro ⟨_ | a', rfl, h⟩ <;> cases h

theorem Le.mapError {f : ε → σ → ε'} {x y : Program σ ε α} (h : x.Le y) :
    (x.mapError f).Le (y.mapError f) := by
  intro s r s' hr
  rw [returns_mapError_iff] at hr ⊢
  obtain ⟨r', rfl, h'⟩ := hr
  exact ⟨r', rfl, h _ _ _ h'⟩

theorem returns_zoom_iff {get : τ → σ} {set : σ → τ → τ} {x : Program σ ε α} {t : τ}
    {r : Except ε α} {t' : τ} :
    (x.zoom get set).Returns t r t' ↔ ∃ s', t' = set s' t ∧ x.Returns (get t) r s' := by
  unfold Returns zoom
  cases x (get t) with
  | ok a s₁ =>
    constructor
    · intro h
      cases r <;> cases h
      exact ⟨s₁, rfl, rfl⟩
    · rintro ⟨s', rfl, h⟩
      cases r <;> cases h
      rfl
  | error e s₁ =>
    constructor
    · intro h
      cases r <;> cases h
      exact ⟨s₁, rfl, rfl⟩
    · rintro ⟨s', rfl, h⟩
      cases r <;> cases h
      rfl
  | unfinished s₁ =>
    constructor
    · intro h
      cases r <;> cases h
    · rintro ⟨s', rfl, h⟩
      cases r <;> cases h

theorem Le.zoom {get : τ → σ} {set : σ → τ → τ} {x y : Program σ ε α} (h : x.Le y) :
    (x.zoom get set).Le (y.zoom get set) := by
  intro t r t' hr
  rw [returns_zoom_iff] at hr ⊢
  obtain ⟨s', rfl, h'⟩ := hr
  exact ⟨s', rfl, h _ _ _ h'⟩

/-! ### Ends with a value -/

section Values

variable {s s' : σ}

/-- A sequence ends with a value through a value of its first part. -/
theorem returns_ok_bind {x : Program σ ε α} {f : α → Program σ ε β} {b : β} :
    (x >>= f).Returns s (.ok b) s' ↔ ∃ a s₁, x.Returns s (.ok a) s₁ ∧ (f a).Returns s₁ (.ok b) s' := by
  rw [returns_bind_iff]
  constructor
  · intro h
    rcases h with h | ⟨e, -, he⟩
    · exact h
    · cases he
  · exact .inl

theorem returns_ok_pure {a b : α} :
    (pure a : Program σ ε α).Returns s (.ok b) s' ↔ b = a ∧ s' = s := by
  constructor
  · intro h
    cases h
    exact ⟨rfl, rfl⟩
  · intro h
    rw [h.1, h.2]
    rfl

theorem returns_ok_ofExcept {r : Except ε α} {a : α} :
    (ofExcept r : Program σ ε α).Returns s (.ok a) s' ↔ r = .ok a ∧ s' = s := by
  cases r with
  | error e =>
    constructor
    · intro h
      cases h
    · intro h
      cases h.1
  | ok b =>
    constructor
    · intro h
      cases h
      exact ⟨rfl, rfl⟩
    · intro h
      rw [h.1, h.2]
      rfl

theorem returns_ok_ofExcept_bind {r : Except ε α} {f : α → Program σ ε β} {b : β} :
    (ofExcept r >>= f).Returns s (.ok b) s' ↔ ∃ a, r = .ok a ∧ (f a).Returns s (.ok b) s' := by
  rw [returns_ok_bind]
  constructor
  · intro h
    obtain ⟨a, s₁, hr, hf⟩ := h
    obtain ⟨ha, rfl⟩ := returns_ok_ofExcept.mp hr
    exact ⟨a, ha, hf⟩
  · intro h
    obtain ⟨a, ha, hf⟩ := h
    exact ⟨a, s, returns_ok_ofExcept.mpr ⟨ha, rfl⟩, hf⟩

theorem returns_ok_update_bind {g : σ → σ} {f : Unit → Program σ ε β} {b : β} :
    (update g >>= f).Returns s (.ok b) s' ↔ (f ()).Returns (g s) (.ok b) s' := Iff.rfl

theorem returns_ok_fail {e : ε} {a : α} : ¬ (fail e : Program σ ε α).Returns s (.ok a) s' := by
  intro h
  cases h

/-- A sequence has come to where its second part is, or to where its first part has stopped. -/
theorem last_bind (x : Program σ ε α) (f : α → Program σ ε β) (s : σ) :
    (∃ a s₁, x.Returns s (.ok a) s₁ ∧ (x >>= f).last s = (f a).last s₁) ∨
      (∀ a s₁, ¬ x.Returns s (.ok a) s₁) ∧ (x >>= f).last s = x.last s := by
  unfold Returns Program.last
  change (∃ a s₁, x s = Exit.of (.ok a) s₁ ∧ (Program.bind x f s).state = _) ∨ _ ∧
    (Program.bind x f s).state = _
  unfold Program.bind
  cases x s with
  | ok a s₁ => exact .inl ⟨a, s₁, rfl, rfl⟩
  | error e s₁ =>
    refine .inr ⟨fun a s₂ h => ?_, rfl⟩
    cases h
  | unfinished s₁ =>
    refine .inr ⟨fun a s₂ h => ?_, rfl⟩
    cases h

end Values

/-! ### What a run keeps -/

/-- Wherever a run of `x` has come to, `I` holds if it held at first. -/
def Keeps (I : σ → Prop) (x : Program σ ε α) : Prop := ∀ s, I s → I (x.last s)

section Keeps

variable {I : σ → Prop}

theorem Keeps.bind {x : Program σ ε α} {f : α → Program σ ε β} (hx : x.Keeps I)
    (hf : ∀ a, (f a).Keeps I) : (x >>= f).Keeps I := by
  intro s hs
  rcases last_bind x f s with ⟨a, s₁, h, hlast⟩ | ⟨-, hlast⟩
  · rw [hlast]
    exact hf a s₁ (h.last ▸ hx s hs)
  · rw [hlast]
    exact hx s hs

theorem Keeps.pure (a : α) : (pure a : Program σ ε α).Keeps I := fun _ h => h

theorem Keeps.fail (e : ε) : (Program.fail e : Program σ ε α).Keeps I := fun _ h => h

theorem Keeps.ofExcept (r : Except ε α) : (Program.ofExcept r : Program σ ε α).Keeps I := by
  intro s hs
  cases r with
  | ok a => exact hs
  | error e => exact hs

theorem Keeps.update {f : σ → σ} (h : ∀ s, I s → I (f s)) : (Program.update f : Program σ ε Unit).Keeps I := h

end Keeps

/-! ### What a program returns -/

/-- Whatever `x` returns has the property `P`. -/
def Yields (P : α → Prop) (x : Program σ ε α) : Prop :=
  ∀ s, x.Post s fun r _ => ∀ a, r = .ok a → P a

section Yields

variable {P : α → Prop} {Q : β → Prop}

theorem Yields.returns {x : Program σ ε α} (h : x.Yields P) {s s' : σ} {a : α}
    (hr : x.Returns s (.ok a) s') : P a := (h s).returns hr a rfl

/-- A sequence returns what its last part returns. -/
theorem Yields.bind {x : Program σ ε α} {f : α → Program σ ε β} (hf : ∀ a, (f a).Yields Q) :
    (x >>= f).Yields Q := by
  refine fun s => post_iff.mpr fun r s' hr => ?_
  rcases returns_bind_iff.mp hr with ⟨a, s₁, -, h⟩ | ⟨e, -, rfl⟩
  · exact (hf a s₁).returns h
  · exact nofun

/-- What the first part returns is what the second one starts with. -/
theorem Yields.through {x : Program σ ε α} {f : α → Program σ ε β} (hx : x.Yields P)
    (hf : ∀ a, P a → (f a).Yields Q) : (x >>= f).Yields Q := by
  refine fun s => post_iff.mpr fun r s' hr => ?_
  rcases returns_bind_iff.mp hr with ⟨a, s₁, h₁, h⟩ | ⟨e, -, rfl⟩
  · exact (hf a (hx.returns h₁) s₁).returns h
  · exact nofun

theorem Yields.attempt {x : Program σ ε α} (hx : x.Yields P) :
    (attempt x : Program σ ε' _).Yields fun r => ∀ a, r = .ok a → P a := by
  intro s
  rw [post_attempt]
  refine (hx s).mono fun r s' h r' hr' => ?_
  cases hr'
  exact h

theorem Yields.pure {a : α} (h : P a) : (pure a : Program σ ε α).Yields P := by
  rintro s a' ⟨⟩
  exact h

theorem Yields.fail (e : ε) : (Program.fail e : Program σ ε α).Yields P := fun _ => nofun

theorem Yields.outOfRounds : (outOfRounds : Program σ ε α).Yields P := fun _ => trivial

theorem Yields.ofExcept {r : Except ε α} (h : ∀ a, r = .ok a → P a) :
    (Program.ofExcept r : Program σ ε α).Yields P := fun _ => post_ofExcept.mpr h

theorem Yields.mapError {f : ε → σ → ε'} {x : Program σ ε α} (hx : x.Yields P) :
    (x.mapError f).Yields P := by
  intro s
  rw [post_mapError]
  refine (hx s).mono fun r s' h a ha => ?_
  cases r with
  | ok b => exact h a (by cases ha; rfl)
  | error e => cases ha

theorem Yields.zoom {get : τ → σ} {set : σ → τ → τ} {x : Program σ ε α} (hx : x.Yields P) :
    (x.zoom get set).Yields P := by
  intro t
  rw [post_zoom]
  exact hx (get t)

end Yields

/-! ### Relations between the states before and after -/

/-- Whenever `x` returns, its last state is related to the first. -/
def Within (R : σ → σ → Prop) (x : Program σ ε α) : Prop := ∀ s, x.Post s fun _ s' => R s s'

section Within

variable {R : σ → σ → Prop}

theorem Within.bind [IsTrans σ R] {x : Program σ ε α} {f : α → Program σ ε β}
    (hx : x.Within R) (hf : ∀ a, (f a).Within R) : (x >>= f).Within R := by
  intro s
  rw [post_bind]
  refine (hx s).mono fun r s' hs => ?_
  cases r with
  | error e => exact hs
  | ok a => exact (hf a s').mono fun _ _ h => IsTrans.trans _ _ _ hs h

/-- A program that leaves the state alone. -/
theorem Within.of_eq [Std.Refl R] {x : Program σ ε α} (hx : ∀ s, x.Post s fun _ s' => s' = s) :
    x.Within R := by
  intro s
  refine (hx s).mono ?_
  rintro r s' rfl
  exact Std.Refl.refl s'

theorem Within.pure [Std.Refl R] (a : α) : (pure a : Program σ ε α).Within R :=
  .of_eq fun _ => rfl

theorem Within.fail [Std.Refl R] (e : ε) : (Program.fail e : Program σ ε α).Within R :=
  .of_eq fun _ => rfl

theorem Within.read [Std.Refl R] (f : σ → α) : (Program.read f : Program σ ε α).Within R :=
  .of_eq fun _ => rfl

theorem Within.require [Std.Refl R] (b : Bool) (e : ε) :
    (Program.require b e : Program σ ε Unit).Within R :=
  .of_eq fun _ => by simp

theorem Within.ofExcept [Std.Refl R] (r : Except ε α) :
    (Program.ofExcept r : Program σ ε α).Within R :=
  .of_eq fun _ => by simp

theorem Within.attempt {x : Program σ ε α} (hx : x.Within R) :
    (attempt x : Program σ ε' _).Within R := fun s => by simpa using hx s

theorem Within.mapError {f : ε → σ → ε'} {x : Program σ ε α} (hx : x.Within R) :
    (x.mapError f).Within R := fun s => by simpa using hx s

end Within

end Program
