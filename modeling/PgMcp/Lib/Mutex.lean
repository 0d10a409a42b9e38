import PgMcp.Lib.Program

/-!
# A lock that its holder cannot take again

The state behind a mutex together with the fact whether the running thread holds it.  A
critical section takes the lock, runs, and releases the lock however it ends.  A thread
that asks for the lock it holds waits for ever: its run stays `unfinished`.

## Main definitions

* `Guarded σ` — the state behind the lock.
* `Mutex.withLock` — a critical section.

## Main results

* `Mutex.terminates_withLock` — a section entered without the lock ends when its body does.
* `Mutex.withLock_blocks` — a section inside a section never ends.
* `Mutex.Returns.free` — after a section the lock is free.
-/

/-- The state behind a lock, and whether the running thread holds the lock. -/
structure Guarded (σ : Type) where
  held : Bool
  value : σ
  deriving DecidableEq, Repr

/-- The state seen by a thread that does not hold the lock. -/
def Guarded.free {σ : Type} (value : σ) : Guarded σ := { held := false, value := value }

namespace Mutex

open Program

variable {σ ε α β : Type}

/-- Take the lock, run `x`, release the lock. -/
def withLock (x : Program (Guarded σ) ε α) : Program (Guarded σ) ε α := fun s =>
  if s.held then .unfinished s
  else
    match x { s with held := true } with
    | .ok a s' => .ok a { s' with held := false }
    | .error e s' => .error e { s' with held := false }
    | .unfinished s' => .unfinished s'

/-- Read the guarded state. -/
def get : Program (Guarded σ) ε σ := .read Guarded.value

/-- Change the guarded state. -/
def modify (f : σ → σ) : Program (Guarded σ) ε Unit :=
  .update fun s => { s with value := f s.value }

theorem returns_withLock {x : Program (Guarded σ) ε α} {v : σ} {r : Except ε α} {s : Guarded σ} :
    (withLock x).Returns (.free v) r s ↔
      ∃ s', x.Returns { held := true, value := v } r s' ∧ s = { s' with held := false } := by
  show (match x { held := true, value := v } with
    | .ok a s' => Exit.ok a { s' with held := false }
    | .error e s' => .error e { s' with held := false }
    | .unfinished s' => .unfinished s') = Exit.of r s ↔ _
  unfold Returns
  cases x { held := true, value := v } with
  | ok a s' =>
    constructor
    · intro h
      cases r <;> cases h
      exact ⟨s', rfl, rfl⟩
    · rintro ⟨s'', h, rfl⟩
      cases r <;> cases h
      rfl
  | error e s' =>
    constructor
    · intro h
      cases r <;> cases h
      exact ⟨s', rfl, rfl⟩
    · rintro ⟨s'', h, rfl⟩
      cases r <;> cases h
      rfl
  | unfinished s' =>
    constructor
    · intro h
      cases r <;> cases h
    · rintro ⟨s'', h, -⟩
      cases r <;> cases h

/-- After a section the lock is free. -/
theorem Returns.free {x : Program (Guarded σ) ε α} {v : σ} {r : Except ε α} {s : Guarded σ}
    (h : (withLock x).Returns (.free v) r s) : s.held = false := by
  obtain ⟨s', -, rfl⟩ := returns_withLock.mp h
  rfl

/-- A section entered without the lock ends when its body does. -/
theorem terminates_withLock {x : Program (Guarded σ) ε α} {v : σ} :
    (withLock x).Terminates (.free v) ↔ x.Terminates { held := true, value := v } := by
  constructor
  · rintro ⟨r, s, h⟩
    obtain ⟨s', h', -⟩ := returns_withLock.mp h
    exact ⟨r, s', h'⟩
  · rintro ⟨r, s', h⟩
    exact ⟨r, _, returns_withLock.mpr ⟨s', h, rfl⟩⟩

/-- A section inside a section never ends. -/
theorem withLock_blocks {x : Program (Guarded σ) ε α} {f : α → Program (Guarded σ) ε β} {v : σ} :
    ¬ (withLock x >>= f).Terminates { held := true, value := v } := by
  rintro ⟨r, s, h⟩
  rcases returns_bind_iff.mp h with ⟨a, s₁, h₁, -⟩ | ⟨e, h₁, -⟩ <;> cases h₁

end Mutex
