import PgMcp.Backend.Operations

/-!
# The outcome of a commit

A commit has two outcomes in an open transaction: it succeeds, and then the server has
completed COMMIT and its response was fetched to the end without an error, a COPY result
or a control event; or its outcome is reported as unknown.

## Main results

* `commit_terminates` — every commit ends.
* `commit_outcome` — the two outcomes.
-/

namespace PgMcp

open Program

/-- The failure of a commit whose outcome is unknown. -/
def BackendFailure.IsCommitUnknown (f : BackendFailure) : Prop :=
  f.error.code = .commitOutcomeUnknown ∧ f.outcomeUnknown = true

namespace Backend

variable {rounds : ℕ} {ctx : RequestContext} {b : LibpqBackend}

/-- A command ends when there are rounds enough for its response. -/
theorem executeCommand_terminates (sql : String) (ignoreClientCancel : Bool)
    (hrounds : b.wire.nextRounds ≤ rounds) :
    (executeCommand rounds ctx sql ignoreClientCancel).Terminates b := by
  simp only [executeCommand, onConnection, terminates_read_bind]
  split
  · exact terminates_mapError (terminates_zoom (execute_terminates sql hrounds))
  · exact terminates_bind (terminates_read _) fun _ _ _ => terminates_fail _

theorem failWith_terminates {α : Type} (f : LibpqBackend → BackendFailure) (b : LibpqBackend) :
    (failWith f : BackendM α).Terminates b :=
  terminates_bind (terminates_read _) fun _ _ _ => terminates_fail _

/-- Every commit ends. -/
theorem commit_terminates (hrounds : b.wire.nextRounds ≤ rounds) :
    (commit rounds ctx).Terminates b := by
  simp only [commit, observe, terminates_read_bind]
  cases b.observation.transactionStatus with
  | inTransaction =>
    refine terminates_bind (terminates_attempt (executeCommand_terminates _ _ hrounds)) ?_
    rintro (f | rs) b' _
    · exact failWith_terminates _ _
    · simp only [terminates_read_bind]
      split
      · exact terminates_pure _
      · exact failWith_terminates _ _
  | idle | active | inError | unknown => exact failWith_terminates _ _

/-- COMMIT was sent and its response was fetched to the final NULL, without an error or a
COPY result and without a control event; the server completed it with its own tag and
outside a transaction. -/
def CommitAnswered (calls : List Call) : Prop :=
  ∃ xact mid blocked commits,
    calls = [.leave, .getResult blocked (.null (some ⟨"COMMIT", commits, .idle⟩))] ++ mid ++
      [.send "COMMIT" xact] ∧ ∀ call ∈ mid, call.smooth = true

/-- A successful call left the connection at rest, with the status of its completion. -/
theorem status_of_ok {ctl : PollControl} {deadline : ℕ} {sql : String} {w w' : Wire}
    {rs : ResultSet} (h : Exchange ctl deadline sql w (.ok rs) w') :
    ∃ xact mid blocked commits after,
      w'.calls = ([.leave, .getResult blocked (.null (some ⟨rs.commandTag, commits, after⟩))] ++
        mid ++ [.send sql xact]) ++ w.calls ∧
      (∀ call ∈ mid, call.smooth = true) ∧ w'.transactionStatus = after.status := by
  generalize hr : (Except.ok rs : Except AdapterError ResultSet) = r at h
  cases h with
  | unsent => cases hr
  | sent c answer last mid conn usable free next quiet inner calls ending =>
    cases ending with
    | interrupted | failed | disposed => cases hr
    | drained blocked completion mid conn' whole answer' ok known unknown =>
      obtain ⟨rfl, hsmooth⟩ := ok rs hr.symm
      refine ⟨c.xact, mid, blocked, (answer.statement sql).commits, (answer.statement sql).after,
        by simp [calls], hsmooth, ?_⟩
      simp [Wire.transactionStatus, conn', PgConn.drained, PgConn.transactionStatus, usable,
        PgConn.inFlight]

/-- The native status of a connection that is present. -/
theorem observation_status (h : b.present = true) :
    b.observation.transactionStatus = b.wire.transactionStatus := by
  simp [LibpqBackend.observation, h, Wire.observation]

/-- A commit ends; it succeeds only in an open transaction whose COMMIT was answered, with
the native status idle afterwards, and any other commit of an open transaction is
reported as unknown. -/
theorem commit_outcome (ctx : RequestContext) (b : LibpqBackend) :
    ∃ enough, ∀ rounds, enough ≤ rounds → ∃ r b' new,
      (commit rounds ctx).Returns b r b' ∧ b'.wire.calls = new ++ b.wire.calls ∧
      (∀ result, r = .ok result → b.observation.transactionStatus = .inTransaction ∧
        CommitAnswered new ∧ b'.observation.transactionStatus = .idle) ∧
      (b.observation.transactionStatus = .inTransaction →
        (∃ observation, r = .ok (.committed observation)) ∨
          ∃ f, r = .error f ∧ f.IsCommitUnknown) := by
  refine ⟨b.wire.nextRounds, fun rounds hrounds => ?_⟩
  obtain ⟨r, b', hreturns⟩ : (commit rounds ctx).Terminates b := commit_terminates hrounds
  have hended := commit_post.returns hreturns
  cases hended with
  | refused code status code' =>
    exact ⟨_, _, [], hreturns, rfl, nofun, fun h => absurd h status⟩
  | committed rs status present same call tag idle =>
    obtain ⟨xact, mid, blocked, commits, after, hcalls, hsmooth, hafter⟩ := status_of_ok call
    have hpresent : b'.present = true := by rw [same, present]
    rw [observation_status hpresent, hafter] at idle
    have hidle : after = .idle := by cases after <;> first | rfl | cases idle
    subst hidle
    rw [tag] at hcalls
    refine ⟨_, b', _, hreturns, hcalls, fun result _ => ⟨status, ?_, ?_⟩,
      fun _ => .inl ⟨_, rfl⟩⟩
    · exact ⟨xact, mid, blocked, commits, rfl, hsmooth⟩
    · rw [observation_status hpresent, hafter]
      rfl
  | unknown r sqlstate status present same call =>
    obtain ⟨new, hcalls, -⟩ := call.accounts
    exact ⟨_, b', new, hreturns, hcalls, nofun, fun _ => .inr ⟨_, rfl, rfl, rfl⟩⟩

end Backend

end PgMcp
