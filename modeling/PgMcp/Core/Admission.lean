import PgMcp.Core.Limits

/-!
# Requests and the lock

The admission of a request for a closed handle never ends, and the server stands still
from then on.  Every other admission ends, and releases the lock.

## Main definitions

* `Label.Completes` — what is asked of the two sections of a request.
* `Label.ForClosed` — a request for a closed handle is to be admitted on a running server.

## Main results

* `completes_of_run_iff` — the sections of all requests complete exactly when no request for
  a closed handle is to be admitted.
-/

namespace PgMcp

open Program

/-- The refusal of a request for a handle that is closed. -/
def closedFailure (entry : WorkerEntry) : CoreFailure where
  error := coreError .handleUnknown
  handleState := some entry.published.state
  sqlstate := none
  outcomeUnknown := false

namespace Server

variable {core : Core} {s t : Server} {ls : List Label}

/-- The sections of a request end with the lock released, and a request for a closed handle
is refused with the closed snapshot. -/
structure Label.Completes (l : Label) : Prop where
  limits : ∀ n handle operation, l.action = .dispatch n handle operation →
    (dispatchLimits handle).Terminates (.free l.before.registry) ∧ l.after.stuck = false
  admission : ∀ n c, l.action = .admitCall n → l.before.requests.lookup n = some c →
    (dispatchAdmit l.before.trySend c.handle).Terminates (.free l.before.registry) ∧
      l.after.stuck = false
  refusal : ∀ n c entry, l.action = .admitCall n → l.before.requests.lookup n = some c →
    l.before.registry.lifecycle = .running →
    l.before.registry.handles.lookup c.handle = some entry → entry.published.closed = true →
      l.after.requests.lookup n = some { c with stage := .answered (.error (closedFailure entry)) }

/-- A request for a closed handle is to be admitted on a running server. -/
def Label.ForClosed (l : Label) : Prop :=
  ∃ n c, l.action = .admitCall n ∧ l.before.requests.lookup n = some c ∧
    l.before.registry.lifecycle = .running ∧ l.before.registry.Closed c.handle

theorem Step.dispatch_free {n : ℕ} {handle : String} {operation : Operation}
    (h : Step core s (.dispatch n handle operation) t) : t.stuck = false := by
  cases h with
  | dispatch _ _ _ _ free => exact free
  | unknown _ _ _ _ free => exact free

/-- An admission that ends leaves the lock to the others. -/
theorem Step.admitCall_free {n : ℕ} {c : RequestCall} (h : Step core s (.admitCall n) t)
    (call : s.requests.lookup n = some c)
    (ends : (dispatchAdmit s.trySend c.handle).Terminates (.free s.registry)) :
    t.stuck = false := by
  cases h with
  | admitted _ _ _ _ free => exact free
  | unadmitted _ _ _ _ free => exact free
  | stuck _ c' free call' stage never =>
    rw [call, Option.some.injEq] at call'
    subst call'
    exact absurd ends never

/-- The sections of a request complete exactly when it is not for a closed handle. -/
theorem Step.completes_iff {l : Label} (h : Step core l.before l.action l.after) :
    l.Completes ↔ ¬ l.ForClosed := by
  constructor
  · rintro hl ⟨n, c, haction, hcall, hrunning, hclosed⟩
    exact dispatchAdmit_live (hl.admission n c haction hcall).1 hrunning hclosed
  · intro hl
    constructor
    · intro n handle operation haction
      refine ⟨dispatchLimits_terminates _ _, ?_⟩
      rw [haction] at h
      exact h.dispatch_free
    · intro n c haction hcall
      have hends := (dispatchAdmit_terminates_iff l.before.trySend).mpr fun hclosed =>
        hl ⟨n, c, haction, hcall, hclosed⟩
      rw [haction] at h
      exact ⟨hends, h.admitCall_free hcall hends⟩
    · intro n c entry haction hcall hrunning hentry hclosed
      exact absurd ⟨n, c, haction, hcall, hrunning, entry, hentry, hclosed⟩ hl

/-- The sections of all requests complete exactly when no request for a closed handle is to
be admitted on a running server. -/
theorem completes_of_run_iff (run : Run (Acts core) new ls s) :
    (∀ l ∈ ls, l.Completes) ↔ ∀ l ∈ ls, ¬ l.ForClosed := by
  refine run.forall_iff (I := fun _ => True) (fun s l t _ hl => ⟨?_, fun _ => trivial⟩) trivial
  obtain ⟨rfl, rfl, hstep⟩ := hl
  exact hstep.completes_iff

/-- A request for a live handle is admitted. -/
theorem completes_of_run_iff_admitted : ∃ ls s c, Run (Acts localProfile) new ls s ∧
    s.requests.lookup 0 = some c ∧ c.stage = .waiting ∧ ∀ l ∈ ls, l.Completes := by
  have hadmits := admits_new (by decide : "local" ≠ "") localProfile_admissionConfig
  obtain ⟨ls, run, -, hopens⟩ := run_open hadmits
  obtain ⟨ls', t, run', -, hasks, -, hrequests⟩ :=
    hadmits.atRest.admitCall localProfile (n := 0) (AList.notMem_empty _) .getSchema
  have hrun := run.append run'
  have hlive : ∀ l ∈ ls ++ ls', ¬ l.ForClosed := by
    rintro l hl ⟨n, c, haction, -, -, entry, present, hclosed⟩
    rcases List.mem_append.mp hl with hl | hl
    · have hopen := hopens l hl
      rw [haction] at hopen
      cases hopen
    · -- the only handle is live
      rw [((hasks l hl).admissions n haction).1] at present
      have hhandles : (AList.insert (handleName 1) (new.freshEntry 0 "local" Config.default) ∅ :
          Table String WorkerEntry).lookup c.handle = some entry := present
      rw [Table.lookup_insert] at hhandles
      split at hhandles
      · cases hhandles
        cases hclosed
      · cases hhandles
  have hwaiting : t.requests.lookup 0 =
      some { handle := handleName 1, operation := .getSchema, stage := .waiting } := by
    rw [hrequests]
    exact AList.lookup_insert _
  exact ⟨_, t, _, hrun, hwaiting, rfl, (completes_of_run_iff hrun).mpr hlive⟩

/-- A handle is opened and closed; the next request for it takes the lock for good. -/
theorem run_deadlock : ∃ ls s, Run (Acts localProfile) new ls s ∧ s.stuck = true ∧
    s.registry.lifecycle = .running ∧ ∃ l ∈ ls, ¬ l.Completes := by
  obtain ⟨ls, t, entry, thread, run, -, hserving, hclosed⟩ :=
    run_openClose (by decide) localProfile_admissionConfig
  obtain ⟨n, hn⟩ := t.requests.exists_fresh
  have hdispatch : Step localProfile t (.dispatch n (handleName 1) .getSchema) _ :=
    .dispatch n _ _ _ hserving.free hn (dispatchLimits_returns hserving.present)
  have hstuck := @Step.stuck localProfile
    { t with requests := t.requests.insert n
              { handle := handleName 1, operation := .getSchema, stage := .admitting } }
    n _ hserving.free (AList.lookup_insert _) rfl
    fun h => dispatchAdmit_live h hserving.running ⟨entry, hserving.present, hclosed⟩
  refine ⟨_, _, run.append (hdispatch.cons hstuck.run), rfl, hserving.running, _,
    List.mem_append_right _ (List.mem_cons_of_mem _ (List.mem_singleton_self _)), fun h => ?_⟩
  exact Bool.noConfusion (h.admission n _ rfl (AList.lookup_insert _)).2

theorem admission_deadlock : ∃ ls s, Run (Acts localProfile) new ls s ∧ s.stuck = true ∧
    ∃ l ∈ ls, ¬ l.Completes := by
  obtain ⟨ls, s, run, hstuck, -, hnot⟩ := run_deadlock
  exact ⟨ls, s, run, hstuck, hnot⟩

end Server

end PgMcp
