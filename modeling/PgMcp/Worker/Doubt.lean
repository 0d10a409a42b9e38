import PgMcp.Worker.Publication
import PgMcp.Backend.Truthful

/-!
# When the outcome of a request is in doubt

A statement that was sent and is read to its end has an unknown outcome only when a control event
came up before its end, or when libpq refused single-row mode for it.  Both last: a request that has
met one of them ends with it, whatever it sends afterwards.  So doubt is a time that never goes back,
and the rules of `Program.Timely` apply to it.

## Main definitions

* `Operation.control` — the control events an operation heeds.
* `Wire.Doubtful` — a control event has come up, or single-row mode was refused, or the connection is
  not at rest.

## Main results

* `runOperation_tracks` — the answers to an operation account for the standing after it.
* `runOperation_doubtful` — an unknown outcome is left in doubt.
-/

namespace PgMcp

open Program Backend

/-- The control events an operation heeds. -/
def Operation.control (ctx : RequestContext) : Operation → PollControl
  | .commit | .rollback => .noClientCancel ctx
  | .getSchema | .openRead | .openWrite | .query _ | .close => .libpq ctx

/-! ### The standing after an operation -/

theorem Session.tracks {ctl : PollControl} {deadline : ℕ} {w w' : Wire}
    (h : Session ctl deadline w w') : Tracks w w' := by
  induction h with
  | nil => exact .refl _
  | snoc _ call ih => exact ih.trans call.tracks

/-- Disposing a connection leaves none. -/
theorem Wire.disposed_tracks (w : Wire) : Tracks w w.disposed := by
  cases hconn : w.conn with
  | none => exact .of_eq (by simp [Wire.disposed, hconn]) (by simp [Wire.disposed, hconn])
  | some c => exact ⟨[.finish], by simp [Wire.disposed, hconn], rfl⟩

theorem Backend.AfterFailure.tracks {rounds : ℕ} {ctx : RequestContext} {w w' : Wire}
    {r : Except AdapterError Unit} (h : AfterFailure rounds ctx w r w') : Tracks w w' := by
  cases h with
  | left ticked quiet calm => exact ticked.tracks
  | drained reason deadline r ticked raised drain found =>
    exact ticked.tracks.trans ((cancelAndDrain_tracks rounds _).returns drain)

theorem Backend.QueryEnded.tracks {rounds : ℕ} {ctx : RequestContext} {request : QueryRequest}
    {config : Config} {b b' : LibpqBackend} {r : Except BackendFailure BackendResult}
    (h : QueryEnded rounds ctx request config b r b') : Tracks b.wire b'.wire := by
  cases h with
  | absent => exact .refl _
  | answered rs present same call => exact call.tracks
  | failed e f unknown present same call after look =>
    have hlook := ((cancelledOrExpired_post _).returns look).1
    exact (call.tracks.trans after.tracks).trans hlook.tracks
  | undrained e e' present same call after => exact call.tracks.trans after.tracks

/-- The answers to an operation account for the standing after it. -/
theorem runOperation_tracks {rounds : ℕ} {config : Config} {ctx : RequestContext}
    {operation : Operation} {b b' : LibpqBackend} {r : Except BackendFailure BackendResult}
    (h : (runOperation rounds config ctx operation).Returns b r b') : Tracks b.wire b'.wire := by
  cases operation with
  | openRead | openWrite =>
    rcases (openTransaction_post _ _).returns h with _ | ⟨rs, _, _, _, call⟩ | ⟨r, f, _, _, call, _⟩
    · exact .refl _
    · exact call.tracks
    · exact call.tracks
  | getSchema =>
    rcases (getSchema_post config).returns h with _ | ⟨schema, _, _, hr⟩ | ⟨e, _, _, hr⟩
    · exact .refl _
    · exact ((retrieve_session _).returns hr).tracks
    · exact ((retrieve_session _).returns hr).tracks
  | query request => exact ((Backend.query_post request config).returns h).tracks
  | commit =>
    rcases commit_post.returns h with _ | ⟨rs, _, _, _, call, _⟩ | ⟨r, state, _, _, _, call⟩
    · exact .refl _
    · exact call.tracks
    · exact call.tracks
  | rollback =>
    rcases rollback_post.returns h with _ | _ | ⟨rs, _, _, _, call, _⟩ | ⟨r, f, _, _, _, call, _⟩
    · exact .refl _
    · exact .refl _
    · exact call.tracks
    · exact call.tracks
  | close =>
    rcases close_post.returns h with _ | _
    · exact .refl _
    · exact Wire.disposed_tracks _

/-! ### Doubt -/

/-- A control event has come up, or single-row mode was refused, or the connection is not at rest. -/
def Wire.Doubtful (ctl : PollControl) (w : Wire) : Prop :=
  (∀ x, w.standing ≠ .resting x) ∨ ctl.Raised ctl.context.deadline w.tick ∨ .singleRowRefused ∈ w.calls

/-- An unknown outcome is left in doubt. -/
def AdapterError.Doubts (e : AdapterError) (doubt : Prop) : Prop := e.outcomeUnknown = true → doubt

theorem AdapterError.Doubts.monotone (e : AdapterError) : Monotone e.Doubts :=
  fun _ _ hle h hunknown => hle (h hunknown)

section Doubtful

variable {ctl : PollControl} {sql : String} {w w' : Wire} {r : Except AdapterError ResultSet}

theorem Ticked.doubtful (h : Ticked w w') (hw : w.Doubtful ctl) : w'.Doubtful ctl := by
  rcases hw with hrest | hraised | hrefused
  · exact .inl (by rwa [Wire.standing_congr h.conn])
  · exact .inr (.inl (hraised.mono h.tick_le))
  · exact .inr (.inr (by rwa [h.calls]))

/-- A call cannot end a doubt: nothing is sent where something is in flight. -/
theorem Exchange.doubtful_of (h : Exchange ctl ctl.context.deadline sql w r w') (htick : w.tick ≤ w'.tick)
    (hw : w.Doubtful ctl) : w'.Doubtful ctl := by
  obtain ⟨new, hcalls, haccounts⟩ := h.accounts
  rcases hw with hrest | hraised | hrefused
  -- a call that ends at rest was made at rest
  · refine .inl fun x hx => ?_
    rw [hx] at haccounts
    obtain ⟨-, -, x₀, hbefore, -⟩ := haccounts
    exact hrest x₀ hbefore
  · exact .inr (.inl (hraised.mono htick))
  · exact .inr (.inr (by simp [hcalls, hrefused]))

/-- A call with an unknown outcome is left in doubt. -/
theorem Exchange.doubtful {e : AdapterError} (h : Exchange ctl ctl.context.deadline sql w (.error e) w')
    (hunknown : e.outcomeUnknown = true) : w'.Doubtful ctl := by
  generalize hr : (Except.error e : Except AdapterError ResultSet) = r at h
  cases h with
  | unsent e' pre known =>
    cases hr
    rw [known] at hunknown
    cases hunknown
  | sent c answer last mid conn usable free next quiet inner calls ending =>
    -- only what was sent can be in doubt, by the way the exchange ended
    cases ending with
    | interrupted reason flush conn' raised => exact .inr (.inl raised)
    -- the statement is still in flight, or the connection is lost: it is not at rest
    | failed e' usable' flush events mid unknown whole conn' =>
      refine .inl fun x hx => ?_
      cases usable' <;> simp [Wire.standing, conn'] at hx
    | disposed e' mid unknown conn' => exact .inl (by simp [Wire.standing_none conn'])
    -- an error that is drained says what it is about
    | drained blocked completion mid conn' whole answer' ok known unknown =>
      rcases unknown e hr.symm hunknown with hraised | hmem
      · exact .inr (.inl hraised)
      · exact .inr (.inr (by simp [calls, hmem]))

/-- A call takes place in time, and its unknown outcome is left in doubt. -/
theorem Exchange.doubts (htick : w.tick ≤ w'.tick) (h : Exchange ctl ctl.context.deadline sql w r w') :
    (w.Doubtful ctl → w'.Doubtful ctl) ∧
      Justified AdapterError.Doubts (fun _ _ => True) r (w'.Doubtful ctl) := by
  refine ⟨h.doubtful_of htick, ?_⟩
  cases r with
  | ok rs => trivial
  | error e => exact h.doubtful

theorem execute_doubts (ctl : PollControl) (rounds : ℕ) (sql : String) :
    (Connection.execute rounds sql ctl.context.deadline ctl).Timely (Wire.Doubtful ctl)
      AdapterError.Doubts (fun _ _ => True) w :=
  Post.mono ((execute_truthful ctl rounds sql).and (execute_post rounds)) fun _ _ h => h.2.doubts h.1.1

theorem query_doubts (ctl : PollControl) (rounds : ℕ) (sql : String) (parameters : List Parameter)
    (limits : QueryLimits) :
    (Connection.query rounds sql parameters limits ctl.context.deadline ctl).Timely (Wire.Doubtful ctl)
      AdapterError.Doubts (fun _ _ => True) w :=
  Post.mono ((query_truthful ctl rounds sql parameters limits).and (query_post rounds parameters limits))
    fun _ _ h => h.2.doubts h.1.1

end Doubtful

/-! ### Operations -/

section Operations

variable {rounds : ℕ} {config : Config} {ctx : RequestContext}

/-- Cancelling and draining takes place after a control event has come up. -/
theorem Backend.AfterFailure.drained_doubtful {w w' : Wire} {reason : CancelReason} {deadline : ℕ}
    {r : Except AdapterError Bool} (raised : (PollControl.libpq ctx).Raised ctx.deadline w.tick)
    (drain : (cancelAndDrain ctx.clock rounds reason deadline).Returns w r w') :
    w'.Doubtful (.libpq ctx) := by
  have hdrain : (cancelAndDrain ctx.clock rounds reason deadline).Timely Wire.tick (fun _ _ => True)
      (fun _ _ => True) w := cancelAndDrain_timely (fun _ _ _ h => h) rounds trivial
  exact .inr (.inl (raised.mono (hdrain.returns drain).1))

theorem Backend.AfterFailure.doubtful {w w' : Wire} {r : Except AdapterError Unit}
    (h : AfterFailure rounds ctx w r w') (hw : w.Doubtful (.libpq ctx)) : w'.Doubtful (.libpq ctx) := by
  cases h with
  | left ticked quiet calm => exact ticked.doubtful hw
  | drained reason deadline r ticked raised drain found => exact drained_doubtful raised drain

/-- A query with an unknown outcome: its call left it in doubt, or the flags were found up after it. -/
theorem Backend.QueryEnded.doubtful {request : QueryRequest} {b b' : LibpqBackend}
    {r : Except BackendFailure BackendResult} (h : QueryEnded rounds ctx request config b r b')
    (hpresent : b'.present = true) (hunknown : leavesUnknown r = true) :
    b'.wire.Doubtful (.libpq ctx) := by
  cases h with
  | absent habsent =>
    rw [hpresent] at habsent
    cases habsent
  | answered => cases hunknown
  | failed e f unknown present same call after look outcome code =>
    obtain ⟨htick, _, hlook, hraised, -⟩ := (cancelledOrExpired_post _).returns look
    cases hlook
    simp only [leavesUnknown, outcome, code, Bool.or_eq_true] at hunknown
    -- the call says so, or the flags read after it, or the code
    rcases hunknown with (hunknown | rfl) | hcode
    · exact htick.doubtful (after.doubtful (call.doubtful hunknown))
    · exact .inr (.inl (.inr (.inl (hraised rfl))))
    · cases hcode
  | undrained e e' present same call after =>
    generalize hr : (Except.error e' : Except AdapterError Unit) = r' at after
    cases after with
    | left => cases hr
    | drained reason deadline r' ticked raised drain found => exact AfterFailure.drained_doubtful raised drain

/-- An inspection passes the errors of its statements on. -/
theorem Backend.SchemaRead.doubtful {b b' : LibpqBackend} {r : Except BackendFailure BackendResult}
    (h : SchemaRead rounds ctx config b r b') (hpresent : b'.present = true)
    (hunknown : leavesUnknown r = true) : b'.wire.Doubtful (.libpq ctx) := by
  cases h with
  | absent habsent =>
    rw [hpresent] at habsent
    cases habsent
  | read => cases hunknown
  | failed e present same retrieved =>
    have htimely : (retrieve rounds config ctx.deadline (.libpq ctx)).Timely
        (Wire.Doubtful (.libpq ctx)) (SchemaError.Passes AdapterError.Doubts) (fun _ _ => True) b.wire :=
      retrieve_timely AdapterError.Doubts.monotone (fun sql _ => execute_doubts (.libpq ctx) rounds sql)
        fun sql limits _ => query_doubts (.libpq ctx) rounds sql [] limits
    -- a limit and a malformed catalog are known outcomes
    cases e with
    | limit | malformed => cases hunknown
    | backend e =>
      refine (htimely.returns retrieved).2 e rfl ?_
      simpa [leavesUnknown, schemaFailure, adapterFailure, LibpqBackend.failure, coreError] using hunknown

/-- ROLLBACK was completed, and the server still reports a transaction. -/
def RolledBackInside (calls : List Call) : Prop := reported calls = some .inTransaction

theorem Backend.RollbackEnded.doubtful {b b' : LibpqBackend} {r : Except BackendFailure BackendResult}
    (h : RollbackEnded ctx b r b') (hpresent : b'.present = true) (hunknown : leavesUnknown r = true)
    (hopen : b'.wire.transactionStatus = .inTransaction) :
    b'.wire.Doubtful (.noClientCancel ctx) ∨ RolledBackInside b'.wire.calls := by
  cases h with
  | absent habsent =>
    rw [hpresent] at habsent
    cases habsent
  | noop | rolledBack => cases hunknown
  | failed r f status present same call unknown code =>
    rw [leavesUnknown, code, Bool.or_false] at hunknown
    cases r with
    | error e => exact .inl (call.doubtful ((unknown e rfl).symm.trans hunknown))
    | ok rs =>
      -- the response was read to its end, so the status is the one reported
      obtain ⟨xact, mid, blocked, commits, after, hcalls, -, hafter⟩ := status_of_ok call
      refine .inr ?_
      rw [hopen] at hafter
      have hinside : after = .inTransaction := by cases after <;> first | rfl | cases hafter
      rw [RolledBackInside, hcalls, hinside]
      rfl

theorem Backend.Opened.doubtful {sql mode : String} {b b' : LibpqBackend}
    {r : Except BackendFailure BackendResult} (h : Opened ctx sql mode b r b')
    (hpresent : b'.present = true) (hunknown : leavesUnknown r = true) :
    b'.wire.Doubtful (.libpq ctx) := by
  cases h with
  | absent habsent =>
    rw [hpresent] at habsent
    cases habsent
  | opened => cases hunknown
  | failed r f present same call unknown code =>
    rw [leavesUnknown, code, unknown, Bool.or_false] at hunknown
    cases r with
    | ok rs => cases hunknown
    | error e => exact call.doubtful hunknown

/-- An operation other than a commit that leaves an open transaction with an unknown outcome is in
doubt, or it is a ROLLBACK after which the server still reports the transaction. -/
theorem runOperation_doubtful {operation : Operation} {b b' : LibpqBackend}
    {r : Except BackendFailure BackendResult} (h : (runOperation rounds config ctx operation).Returns b r b')
    (hpresent : b'.present = true) (hunknown : leavesUnknown r = true) (hop : operation ≠ .commit)
    (hopen : b'.wire.transactionStatus = .inTransaction) :
    b'.wire.Doubtful (operation.control ctx) ∨ operation = .rollback ∧ RolledBackInside b'.wire.calls := by
  cases operation with
  | getSchema => exact .inl (((getSchema_post config).returns h).doubtful hpresent hunknown)
  | openRead | openWrite => exact .inl (((openTransaction_post _ _).returns h).doubtful hpresent hunknown)
  | query request =>
    exact .inl (((Backend.query_post request config).returns h).doubtful hpresent hunknown)
  | commit => exact absurd rfl hop
  -- the one operation that can fail after a completed statement
  | rollback =>
    exact ((rollback_post.returns h).doubtful hpresent hunknown hopen).imp_right fun h => ⟨rfl, h⟩
  | close =>
    rcases close_post.returns h with _ | _
    · cases hunknown
    · cases hunknown

end Operations

end PgMcp
