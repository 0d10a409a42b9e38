import PgMcp.Core.Registry
import PgMcp.Lib.Mutex

/-!
# Admission of a request

A request takes the registry lock twice before it is queued: to read the limits of its
handle, and to be admitted.  A request for a closed handle asks for the lock a third time,
for the snapshot of its refusal, while it is still being admitted.

## Main definitions

* `dispatchLimits`, `dispatchAdmit` — the two critical sections of `dispatch`.

## Main results

* `dispatchLimits_terminates` — the first section ends.
* `dispatchAdmit_terminates_iff` — the second ends exactly when it is not a request for a
  closed handle on a running server.
* `dispatchAdmit_returns` — how it ends.
-/

namespace PgMcp

open Program Mutex

/-- What a queue answers to an attempt to send. -/
inductive TrySend where
  | sent | full | closed
  deriving DecidableEq, Repr

/-- A thread's access to the registry. -/
abbrev Locked := Program (Guarded Registry) CoreFailure

/-- The published state of a handle. -/
def currentState (handle : String) : Locked (Option HandleState) :=
  withLock do return (← get).currentState handle

/-- A failure with the published state of the handle. -/
def CoreFailure.forHandle (handle : String) (error : CoreError) : Locked CoreFailure := do
  let state ← PgMcp.currentState handle
  return { error := error, handleState := state, sqlstate := none,
           outcomeUnknown := error.outcomeUnknown }

/-- The limits a request runs under: its timeout and the grace for draining. -/
def dispatchLimits (handle : String) : Locked (ℕ × ℕ) :=
  withLock do
    match (← get).handles.lookup handle with
    | none => .fail (.process (coreError .handleUnknown))
    | some entry => return (entry.config.requestTimeout, entry.config.cancelDrainGrace)

/-- The refusal of a request that is not admitted, with the snapshot it was refused at. -/
def admissionFailure (entry : WorkerEntry) (code : ErrorCode) : CoreFailure where
  error := coreError code
  handleState := some entry.published.state
  sqlstate := none
  outcomeUnknown := code == .connectionLost

/-- Admit a request and send it; `send` is what the queue of each thread answers.  The
thread it was sent to is returned. -/
def dispatchAdmit (send : ℕ → TrySend) (handle : String) : Locked ℕ :=
  withLock do
    let registry ← get
    if registry.lifecycle ≠ .running then .fail (.process (coreError .serverStopping))
    else
      match registry.handles.lookup handle with
      | none => .fail (.process (coreError .handleUnknown))
      | some entry =>
        if entry.published.closed then
          -- the guard of the section is still alive here
          .fail (← CoreFailure.forHandle handle (coreError .handleUnknown))
        else if entry.config.outstandingRequests ≤ entry.admitted then
          .fail (admissionFailure entry .queueFull)
        else do
          modify (·.modify handle fun entry => { entry with admitted := entry.admitted + 1 })
          match send entry.sender with
          | .sent => return entry.sender
          | outcome =>
            modify (·.modify handle fun entry => { entry with admitted := entry.admitted - 1 })
            .fail (admissionFailure entry
              (match outcome with | .full => .queueFull | _ => .connectionLost))

/-- The handle is in the registry, and closed. -/
def Registry.Closed (r : Registry) (handle : String) : Prop :=
  ∃ entry, r.handles.lookup handle = some entry ∧ entry.published.closed = true

instance Registry.decidableClosed (r : Registry) (handle : String) : Decidable (r.Closed handle) :=
  match h : r.handles.lookup handle with
  | none => .isFalse (by rintro ⟨entry, he, -⟩; rw [h] at he; cases he)
  | some entry =>
    decidable_of_iff (entry.published.closed = true)
      ⟨fun hc => ⟨entry, h, hc⟩, by rintro ⟨e, he, hc⟩; rw [h] at he; cases he; exact hc⟩

theorem dispatchLimits_terminates (r : Registry) (handle : String) :
    (dispatchLimits handle).Terminates (.free r) := by
  refine terminates_withLock.mpr ?_
  show (Program.read Guarded.value >>= _).Terminates _
  rw [terminates_read_bind]
  simp only
  cases r.handles.lookup handle <;> simp

/-- How a request is admitted. -/
inductive Admission (send : ℕ → TrySend) (r : Registry) (handle : String) :
    Except CoreFailure ℕ → Registry → Prop where
  | stopping (lifecycle : r.lifecycle ≠ .running) :
      Admission send r handle (.error (.process (coreError .serverStopping))) r
  | unknown (running : r.lifecycle = .running) (absent : r.handles.lookup handle = none) :
      Admission send r handle (.error (.process (coreError .handleUnknown))) r
  | busy (entry : WorkerEntry) (running : r.lifecycle = .running)
      (present : r.handles.lookup handle = some entry) (live : entry.published.closed = false)
      (full : entry.config.outstandingRequests ≤ entry.admitted) :
      Admission send r handle (.error (admissionFailure entry .queueFull)) r
  | rejected (entry : WorkerEntry) (code : ErrorCode) (running : r.lifecycle = .running)
      (present : r.handles.lookup handle = some entry) (live : entry.published.closed = false)
      (free : entry.admitted < entry.config.outstandingRequests)
      (queue : send entry.sender ≠ .sent) (r' : Registry)
      (same : r' = (r.modify handle fun entry => { entry with admitted := entry.admitted + 1 }).modify
        handle fun entry => { entry with admitted := entry.admitted - 1 })
      (rule : code = if send entry.sender = .full then .queueFull else .connectionLost) :
      Admission send r handle (.error (admissionFailure entry code)) r'
  | sent (entry : WorkerEntry) (running : r.lifecycle = .running)
      (present : r.handles.lookup handle = some entry) (live : entry.published.closed = false)
      (free : entry.admitted < entry.config.outstandingRequests)
      (queue : send entry.sender = .sent) :
      Admission send r handle (.ok entry.sender)
        (r.modify handle fun entry => { entry with admitted := entry.admitted + 1 })

/-- A request that is not for a closed handle on a running server is admitted or refused, and
the lock is free afterwards. -/
theorem dispatchAdmit_returns (send : ℕ → TrySend) {r : Registry} {handle : String}
    (h : r.lifecycle = .running → ¬ r.Closed handle) :
    ∃ result r', (dispatchAdmit send handle).Returns (.free r) result (.free r') ∧
      Admission send r handle result r' := by
  have hfree : ∀ {x : Locked ℕ} {result : Except CoreFailure ℕ} {r' : Registry},
      x.Returns { held := true, value := r } result { held := true, value := r' } →
        (withLock x).Returns (.free r) result (.free r') := fun hx =>
    returns_withLock.mpr ⟨_, hx, rfl⟩
  by_cases hrunning : r.lifecycle = .running
  · cases hentry : r.handles.lookup handle with
    | none =>
      refine ⟨_, r, hfree ?_, .unknown hrunning hentry⟩
      show (if _ then _ else _ : Locked ℕ) _ = _
      simp only [hrunning, ne_eq, not_true_eq_false, if_false, hentry]
      rfl
    | some entry =>
      have hlive : entry.published.closed = false := by
        rw [← Bool.not_eq_true]
        exact fun hc => h hrunning ⟨entry, hentry, hc⟩
      by_cases hfull : entry.config.outstandingRequests ≤ entry.admitted
      · refine ⟨_, r, hfree ?_, .busy entry hrunning hentry hlive hfull⟩
        show (if _ then _ else _ : Locked ℕ) _ = _
        simp only [hrunning, ne_eq, not_true_eq_false, if_false, hentry, hlive, Bool.false_eq_true,
          if_pos hfull]
        rfl
      · cases hsend : send entry.sender with
        | sent =>
          refine ⟨_, _, hfree ?_, .sent entry hrunning hentry hlive (Nat.lt_of_not_le hfull) hsend⟩
          show (if _ then _ else _ : Locked ℕ) _ = _
          simp only [hrunning, ne_eq, not_true_eq_false, if_false, hentry, hlive,
            Bool.false_eq_true, if_neg hfull, hsend]
          rfl
        | full =>
          refine ⟨_, _, hfree ?_, .rejected entry .queueFull hrunning hentry hlive
            (Nat.lt_of_not_le hfull) (by simp [hsend]) _ rfl (by simp [hsend])⟩
          show (if _ then _ else _ : Locked ℕ) _ = _
          simp only [hrunning, ne_eq, not_true_eq_false, if_false, hentry, hlive,
            Bool.false_eq_true, if_neg hfull, hsend]
          rfl
        | closed =>
          refine ⟨_, _, hfree ?_, .rejected entry .connectionLost hrunning hentry hlive
            (Nat.lt_of_not_le hfull) (by simp [hsend]) _ rfl (by simp [hsend])⟩
          show (if _ then _ else _ : Locked ℕ) _ = _
          simp only [hrunning, ne_eq, not_true_eq_false, if_false, hentry, hlive,
            Bool.false_eq_true, if_neg hfull, hsend]
          rfl
  · refine ⟨_, r, hfree ?_, .stopping hrunning⟩
    show (if _ then _ else _ : Locked ℕ) _ = _
    simp only [ne_eq, hrunning, not_false_eq_true, if_true]
    rfl

/-- A request that is admitted or refused is not for a closed handle on a running server. -/
theorem dispatchAdmit_live {send : ℕ → TrySend} {r : Registry} {handle : String}
    (h : (dispatchAdmit send handle).Terminates (.free r)) (hrunning : r.lifecycle = .running) :
    ¬ r.Closed handle := by
  rintro ⟨entry, hentry, hclosed⟩
  have hbody := terminates_withLock.mp h
  revert hbody
  show ¬ (if _ then _ else _ : Locked ℕ).Terminates _
  simp only [hrunning, ne_eq, not_true_eq_false, if_false, hentry, hclosed, if_true]
  rintro ⟨result, s, hr⟩
  rcases returns_bind_iff.mp hr with ⟨a, s₁, h₁, -⟩ | ⟨e, h₁, -⟩ <;>
    exact withLock_blocks ⟨_, _, h₁⟩

/-- Whatever the second section returns, it returns as an admission says. -/
theorem Admission.of_returns {send : ℕ → TrySend} {r : Registry} {handle : String}
    {result : Except CoreFailure ℕ} {s : Guarded Registry}
    (h : (dispatchAdmit send handle).Returns (.free r) result s) :
    ∃ r', s = .free r' ∧ Admission send r handle result r' := by
  obtain ⟨result', r', h', hadmission⟩ :=
    dispatchAdmit_returns send (dispatchAdmit_live ⟨result, s, h⟩)
  obtain ⟨rfl, rfl⟩ := h.unique h'
  exact ⟨r', rfl, hadmission⟩

/-- A request for a live handle with room in its counter and its queue is sent. -/
theorem dispatchAdmit_sent {send : ℕ → TrySend} {r : Registry} {handle : String} {entry : WorkerEntry}
    (running : r.lifecycle = .running) (present : r.handles.lookup handle = some entry)
    (live : entry.published.closed = false)
    (room : entry.admitted < entry.config.outstandingRequests) (queue : send entry.sender = .sent) :
    (dispatchAdmit send handle).Returns (.free r) (.ok entry.sender)
      (.free (r.modify handle fun entry => { entry with admitted := entry.admitted + 1 })) := by
  have hlive : ¬ r.Closed handle := by
    rintro ⟨entry', hentry', hclosed⟩
    rw [present, Option.some.injEq] at hentry'
    rw [← hentry', live] at hclosed
    cases hclosed
  obtain ⟨result, r', h, hadmission⟩ := dispatchAdmit_returns send fun _ => hlive
  cases hadmission with
  | stopping lifecycle => exact absurd running lifecycle
  | unknown _ absent =>
    rw [present] at absent
    cases absent
  | busy entry' _ present' _ full =>
    rw [present, Option.some.injEq] at present'
    subst present'
    omega
  | rejected entry' code _ present' _ _ queue' =>
    rw [present, Option.some.injEq] at present'
    subst present'
    exact absurd queue queue'
  | sent entry' _ present' =>
    rw [present, Option.some.injEq] at present'
    subst present'
    exact h

/-- A request for a live handle with no room in its counter is refused. -/
theorem dispatchAdmit_busy {send : ℕ → TrySend} {r : Registry} {handle : String} {entry : WorkerEntry}
    (running : r.lifecycle = .running) (present : r.handles.lookup handle = some entry)
    (live : entry.published.closed = false)
    (full : entry.config.outstandingRequests ≤ entry.admitted) :
    (dispatchAdmit send handle).Returns (.free r) (.error (admissionFailure entry .queueFull))
      (.free r) := by
  refine Mutex.returns_withLock.mpr ⟨{ held := true, value := r }, ?_, rfl⟩
  show (if _ then _ else _ : Locked ℕ) _ = _
  simp only [running, ne_eq, not_true_eq_false, if_false, present, live, Bool.false_eq_true,
    if_pos full]
  rfl

/-- The second section ends exactly when the request is not for a closed handle on a running
server. -/
theorem dispatchAdmit_terminates_iff (send : ℕ → TrySend) {r : Registry} {handle : String} :
    (dispatchAdmit send handle).Terminates (.free r) ↔
      ¬ (r.lifecycle = .running ∧ r.Closed handle) := by
  constructor
  · rintro h ⟨hrunning, hclosed⟩
    exact dispatchAdmit_live h hrunning hclosed
  · intro h
    have hlive : r.lifecycle = .running → ¬ r.Closed handle := fun hrunning hclosed =>
      h ⟨hrunning, hclosed⟩
    obtain ⟨result, r', hr, -⟩ := dispatchAdmit_returns send hlive
    exact ⟨result, _, hr⟩

end PgMcp
