import PgMcp.Worker.Requests

/-!
# Statements left in flight

Whether an operation of the backend leaves a statement in flight on a usable connection.
The calls of the adapter settle their statement, except when a control event is observed
while it is flushed, or when the socket or libpq fails and the connection stays usable;
only a failed query is drained afterwards, and only when a control flag is raised.

## Main definitions

* `Operated.Completes` — no statement is stranded, or it is drained afterwards.

## Main results

* `Operates.settled_iff` — the step lemma.
* `settled_of_run_iff` — the connection is settled after every operation of a run exactly
  when every operation completes.
-/

namespace PgMcp

open Program Backend

/-- The call of the query fails, and the next read of the control state is `tick`. -/
def Operated.FailsAt (config : Config) (l : Operated) (request : QueryRequest) (tick : ℕ) : Prop :=
  ∃ rounds e w, CallReturns rounds l.env.ctx request config (l.before.install l.env).wire (.error e) w ∧
    w.tick = tick

/-- The operation does not leave a statement stranded.  A query for which the socket or libpq
fails and leaves the connection usable is drained when a control flag is raised right after
its call. -/
def Operated.Completes (config : Config) (l : Operated) : Prop :=
  match l.operation with
  | .query request => .failed true ∈ l.trace →
      ∃ tick, l.FailsAt config request tick ∧ interruptedAt l.env.ctx tick = true
  | _ => l.trace.any Call.loses = true ∨ l.trace.any Call.strands = false

/-- A status of a usable connection is ACTIVE when a statement is in flight. -/
theorem Wire.settled_iff_not_active {w : Wire} :
    w.Settled ↔ ¬ (w.connectionStatus = .ok ∧ w.transactionStatus = .active) := by
  unfold Wire.Settled Wire.connectionStatus Wire.transactionStatus Wire.statement
    PgConn.transactionStatus
  cases w.conn with
  | none => simp
  | some c =>
    cases hok : c.ok with
    | false => simp [hok]
    | true =>
      cases hfree : c.inFlight with
      | none =>
        have hstatus : c.xact.status ≠ .active := by
          rcases c.xact with _ | ⟨begunBy, _ | _⟩ <;> exact nofun
        simp [hok, hfree, hstatus]
      | some s => simp [hok, hfree]

/-- After a sequence of calls a statement is in flight exactly when one was stranded and
the connection was not lost. -/
theorem Accounts.settled_iff {w w' : Wire} {calls : List Call}
    (h : Accounts w.standing calls w'.standing) (hsettled : w.Settled) :
    w'.Settled ↔ calls.any Call.loses = true ∨ calls.any Call.strands = false := by
  rw [Wire.settled_iff] at hsettled ⊢
  cases hst : w'.standing with
  | gone =>
    rw [hst] at h
    exact iff_of_true nofun (h.symm.imp_right And.right)
  | waiting x sql =>
    rw [hst] at h
    obtain ⟨-, hloses, ⟨hbefore, -⟩ | hstrands⟩ := h
    · exact absurd hbefore (hsettled x sql)
    · exact iff_of_false (fun hall => hall x sql rfl) (by simp [hloses, hstrands])
  | resting y =>
    rw [hst] at h
    exact iff_of_true nofun (.inr h.2.1)

/-! ### After a failed query -/

theorem Wire.settled_of_free {w : Wire} {c : PgConn} (hconn : w.conn = some c)
    (hfree : c.inFlight = none) : w.Settled := .inr (by simp [Wire.statement, hconn, hfree])

theorem Wire.settled_of_none {w : Wire} (hconn : w.conn = none) : w.Settled :=
  .inl (by simp [Wire.connectionStatus, hconn])

theorem Wire.settled_congr {w w' : Wire} (hconn : w'.conn = w.conn) : w'.Settled ↔ w.Settled := by
  simp [Wire.Settled, Wire.connectionStatus, Wire.statement, hconn]

/-- A response fetched to the final NULL leaves nothing in flight. -/
theorem PgConn.drained_inFlight (c : PgConn) (s : Statement) (gets : List Call)
    (completion : Option Completion) : (c.drained s gets completion).inFlight = none := by
  cases completion <;> rfl

/-- Cancelling and draining settles the connection. -/
theorem cancelAndDrain_settled (clock : Clock) (rounds : ℕ) (reason : CancelReason)
    (deadline : ℕ) (w : Wire) (hsome : w.conn.isSome = true) :
    (cancelAndDrain clock rounds reason deadline).Post w fun _ w' => w'.Settled := by
  obtain ⟨c, hconn⟩ := Option.isSome_iff_exists.mp hsome
  cases hact : c.activity with
  | resting trailing =>
    refine (cancelAndDrain_resting hconn hact rounds).mono ?_
    rintro r w' (⟨hconn', -, dispatched, hcalls⟩ | ⟨e, entries, -, -, -, hd⟩)
    · exact Wire.settled_of_free (hconn'.trans hconn) (by simp [PgConn.inFlight, hact])
    · exact Wire.settled_of_none hd.conn
  | running s =>
    have hconn' : w.conn = some (c.carrying s) := by rw [hconn, PgConn.carrying, ← hact]
    refine (cancelAndDrain_post hconn' rounds).mono ?_
    rintro r w' (⟨waits, gets, completion, -, -, drained, -⟩ | ⟨e, waits, -, -, hd⟩)
    · exact Wire.settled_of_free drained.conn (c.drained_inFlight s gets completion)
    · exact Wire.settled_of_none hd.conn

/-- After a failed call the connection is gone already, or is settled by the drain. -/
theorem drained_settled {clock : Clock} {rounds : ℕ} {reason : CancelReason} {deadline : ℕ}
    {w w₁ w' : Wire} {r : Except AdapterError Bool} (ticked : Ticked w w₁)
    (drain : (cancelAndDrain clock rounds reason deadline).Returns w₁ r w') : w'.Settled := by
  cases hconn : w.conn with
  | none =>
    have hconn₁ := ticked.conn.trans hconn
    have hw' := (cancelAndDrain_none hconn₁ rounds).returns drain
    subst hw'
    exact Wire.settled_of_none hconn₁
  | some c =>
    refine (cancelAndDrain_settled clock rounds reason deadline w₁ ?_).returns drain
    rw [ticked.conn, hconn]
    rfl

/-! ### One operation -/

/-- The call of a query is settled, or its statement was interrupted or has failed on a
usable connection. -/
theorem Exchange.settled_or {ctl : PollControl} {deadline : ℕ} {sql : String} {w w' : Wire}
    {r : Except AdapterError ResultSet} (h : Exchange ctl deadline sql w r w') (hw : w.Settled) :
    ∃ older, w'.calls = .leave :: older ++ w.calls ∧
      ((w'.Settled ∧ .failed true ∉ older) ∨
        (ctl.Raised deadline w'.tick ∧ .failed true ∉ older ∧ w'.conn.isSome = true) ∨
        .failed true ∈ older ∧ ¬ w'.Settled ∧ w'.conn.isSome = true) := by
  cases h with
  | unsent e pre known refused conn calls =>
    refine ⟨pre, calls, .inl ⟨?_, fun hmem => ?_⟩⟩
    · rcases conn with ⟨conn, -⟩ | ⟨c, -, -, conn⟩
      · exact (Wire.settled_congr conn).mpr hw
      · exact .inl (by simp [Wire.connectionStatus, conn])
    · obtain ⟨usable, h⟩ := refused _ hmem
      cases h
  | sent c answer last mid conn usable free next quiet inner calls ending =>
    have hmid : .failed true ∉ mid ++ [Call.send sql c.xact] := by
      intro hmem
      rcases List.mem_append.mp hmem with hmem | hmem
      · exact absurd (inner _ hmem) (by decide)
      · cases List.mem_singleton.mp hmem
    refine ⟨last :: (mid ++ [.send sql c.xact]), by simp [calls], ?_⟩
    cases ending with
    | interrupted reason flush conn' raised =>
      exact .inr (.inl ⟨raised, by simp, by rw [conn']; rfl⟩)
    | failed e usable' flush events mid unknown whole conn' =>
      cases usable' with
      | true =>
        refine .inr (.inr ⟨List.mem_cons_self .., ?_, by rw [conn']; rfl⟩)
        rintro (h | h)
        · exact h (by simp [Wire.connectionStatus, conn'])
        · simp [Wire.statement, conn', PgConn.inFlight] at h
      | false =>
        exact .inl ⟨.inl (by simp [Wire.connectionStatus, conn']), by simpa using hmid⟩
    | disposed e mid unknown conn' =>
      exact .inl ⟨Wire.settled_of_none conn', by simpa using hmid⟩
    | drained blocked completion mid conn' whole answer' ok known unknown =>
      exact .inl ⟨Wire.settled_of_free conn' (c.drained_inFlight ..), by simpa using hmid⟩

/-- An operation other than a query runs a sequence of calls, or closes the backend. -/
theorem runOperation_session {rounds : ℕ} {config : Config} {ctx : RequestContext}
    {operation : Operation} {b b' : LibpqBackend} {r : Except BackendFailure BackendResult}
    (hop : ∀ request, operation ≠ .query request)
    (h : (runOperation rounds config ctx operation).Returns b r b') :
    (∃ ctl, Session ctl ctx.deadline b.wire b'.wire) ∨ b' = b.take := by
  cases operation with
  | query request => exact absurd rfl (hop request)
  | openRead | openWrite =>
    rcases (openTransaction_post _ _).returns h with _ | ⟨rs, _, _, _, call⟩ | ⟨r, f, _, _, call, _⟩
    · exact .inl ⟨.libpq ctx, .nil _⟩
    · exact .inl ⟨_, .of_exchange call⟩
    · exact .inl ⟨_, .of_exchange call⟩
  | getSchema =>
    rcases (getSchema_post config).returns h with _ | ⟨schema, _, _, hr⟩ | ⟨e, _, _, hr⟩
    · exact .inl ⟨.libpq ctx, .nil _⟩
    · exact .inl ⟨_, (retrieve_session _).returns hr⟩
    · exact .inl ⟨_, (retrieve_session _).returns hr⟩
  | commit =>
    rcases commit_post.returns h with _ | ⟨rs, _, _, _, call, _⟩ | ⟨r, state, _, _, _, call⟩
    · exact .inl ⟨.libpq ctx, .nil _⟩
    · exact .inl ⟨_, .of_exchange call⟩
    · exact .inl ⟨_, .of_exchange call⟩
  | rollback =>
    rcases rollback_post.returns h with _ | _ | ⟨rs, _, _, _, call, _⟩ | ⟨r, f, _, _, _, call, _⟩
    · exact .inl ⟨.libpq ctx, .nil _⟩
    · exact .inl ⟨.libpq ctx, .nil _⟩
    · exact .inl ⟨_, .of_exchange call⟩
    · exact .inl ⟨_, .of_exchange call⟩
  | close =>
    rcases close_post.returns h with _ | _
    · exact .inl ⟨.libpq ctx, .nil _⟩
    · exact .inr rfl

/-- The query of a settled backend leaves it settled, unless its call has failed on a usable
connection and no control flag was raised right afterwards. -/
theorem Backend.QueryEnded.settled_iff {rounds : ℕ} {ctx : RequestContext} {request : QueryRequest}
    {config : Config} {b b' : LibpqBackend} {r : Except BackendFailure BackendResult}
    (h : QueryEnded rounds ctx request config b r b') (hb : b.wire.Settled) (hcalls : b.wire.calls = []) :
    b'.wire.Settled ↔ (.failed true ∈ b'.wire.calls → ∃ tick, (∃ rounds e w,
      CallReturns rounds ctx request config b.wire (.error e) w ∧ w.tick = tick) ∧
        interruptedAt ctx tick = true) := by
  cases h with
  | absent => exact iff_of_true hb (by simp [hcalls])
  | answered rs present same call =>
    obtain ⟨xact, mid, blocked, commits, after, hcalls', hsmooth, hstatus⟩ := status_of_ok call
    have hsettled : b'.wire.Settled := by
      rw [Wire.settled_iff_not_active, hstatus]
      rintro ⟨-, h⟩
      cases after <;> cases h
    refine iff_of_true hsettled fun hmem => ?_
    rw [hcalls', hcalls] at hmem
    simp only [List.append_nil, List.mem_append, List.mem_cons, reduceCtorEq, List.not_mem_nil,
      or_false, false_or] at hmem
    exact absurd (hsmooth _ hmem) (by decide)
  | @failed _ w₁ w₂ e f unknown present same call after look outcome code sqlstate returned =>
    obtain ⟨htick, -⟩ := (cancelledOrExpired_post _).returns look
    obtain ⟨older, hcalls', hcases⟩ := call.settled_or hb
    rw [hcalls, List.append_nil] at hcalls'
    rw [Wire.settled_congr htick.conn, htick.calls]
    generalize hr : (Except.ok () : Except AdapterError Unit) = r' at after
    cases after with
    | left ticked quiet calm =>
      rw [Wire.settled_congr ticked.conn, ticked.calls, hcalls']
      rcases hcases with ⟨hsettled, hfailed⟩ | ⟨hraised, -, -⟩ | ⟨hfailed, hsettled, -⟩
      · exact iff_of_true hsettled fun hmem => absurd hmem (by simpa using hfailed)
      · exact absurd hraised quiet
      · refine iff_of_false hsettled fun h => ?_
        obtain ⟨tick, ⟨rounds', e', w', hreturns, rfl⟩, hfound⟩ := h (by simp [hfailed])
        -- more rounds return the same, so this is the failed call
        obtain ⟨-, rfl⟩ := Returns.unique_of_le (fun hmn => PgMcp.query_le hmn _ _ _) hreturns returned
        rw [hfound] at calm
        cases calm
    | drained reason deadline r' ticked raised drain found =>
      exact iff_of_true (drained_settled ticked drain) fun _ => ⟨_, ⟨rounds, e, w₁, returned, rfl⟩, found⟩
  | @undrained _ w₁ e e' present same call after returned =>
    generalize hr : (Except.error e' : Except AdapterError Unit) = r' at after
    cases after with
    | left => cases hr
    | drained reason deadline r' ticked raised drain found =>
      exact iff_of_true (drained_settled ticked drain) fun _ => ⟨_, ⟨rounds, e, w₁, returned, rfl⟩, found⟩

/-- One operation of a settled backend leaves it settled exactly when it completes. -/
theorem Operates.settled_iff {config : Config} {b b' : LibpqBackend} {l : Operated}
    (h : Operates config b l b') (hb : b.wire.Settled) : l.after.wire.Settled ↔ l.Completes config := by
  obtain ⟨rfl, rfl, rounds, hreturns⟩ := h
  have hinstall : (l.before.install l.env).wire.Settled := hb
  unfold Operated.Completes Operated.trace
  have other : (∀ request, l.operation ≠ .query request) →
      (l.after.wire.Settled ↔ l.after.wire.calls.any Call.loses = true ∨
        l.after.wire.calls.any Call.strands = false) := by
    intro hop
    rcases runOperation_session hop hreturns with ⟨ctl, session⟩ | htake
    · obtain ⟨new, hcalls, haccounts⟩ := session.accounts
      rw [LibpqBackend.install_calls, List.append_nil] at hcalls
      rw [hcalls]
      exact haccounts.settled_iff hinstall
    · rw [htake]
      refine iff_of_true (Wire.settled_of_none rfl) ?_
      rw [LibpqBackend.take, Wire.disposed]
      cases (l.before.install l.env).wire.conn with
      | none => exact .inr rfl
      | some c => exact .inl rfl
  cases hop : l.operation with
  | query request =>
    rw [hop] at hreturns
    exact ((Backend.query_post request config).returns hreturns).settled_iff hinstall rfl
  | getSchema | openRead | openWrite | commit | rollback | close =>
    exact other (by simp [hop])

/-- The connection is settled after every operation of a run exactly when every operation
completes. -/
theorem settled_of_run_iff {config : Config} {b b' : LibpqBackend} {ls : List Operated}
    (run : Run (Operates config) b ls b') (hb : b.wire.Settled) :
    (∀ l ∈ ls, l.after.wire.Settled) ↔ ∀ l ∈ ls, l.Completes config := by
  refine run.forall_iff (I := fun b => b.wire.Settled) ?_ hb
  intro s l t hs hstep
  refine ⟨hstep.settled_iff hs, fun hgood => ?_⟩
  rw [← hstep.2.1]
  exact (hstep.settled_iff hs).mpr hgood

/-- A client that gives up between the send of BEGIN and its flush. -/
def cancelledAtFlush : Environment where
  ctx := .timed none (some 4) 1000
  scripts := [.completed "BEGIN" false .inTransaction]
  cancels := []

/-- One operation of a backend that was just connected. -/
theorem exists_operate (operation : Operation) (env : Environment) {p : Operated → Bool}
    (h : (operate 3 .default Worker.opened.backend operation env).any p = true) :
    ∃ l, p l = true ∧ Run (Operates .default) Worker.opened.backend [l] l.after := by
  cases hl : operate 3 .default Worker.opened.backend operation env with
  | none =>
    rw [hl] at h
    cases h
  | some l =>
    rw [hl] at h
    exact ⟨l, h, operate_run 3 .default hl⟩

theorem settled_of_run_iff_cancelledAtFlush :
    ∃ l, Run (Operates .default) Worker.opened.backend [l] l.after ∧
      ((∀ l' ∈ [l], l'.after.wire.Settled) ↔ ∀ l' ∈ [l], l'.Completes .default) := by
  obtain ⟨l, -, run⟩ := exists_operate .openRead cancelledAtFlush
    (p := fun _ => true) (by decide +kernel)
  exact ⟨l, run, settled_of_run_iff run (by decide)⟩

/-- BEGIN is left in flight. -/
theorem open_leaves_statement_in_flight :
    ¬ ∀ (config : Config) (b b' : LibpqBackend) (ls : List Operated), b.wire.Settled →
      Run (Operates config) b ls b' → ∀ l ∈ ls, l.after.wire.Settled := by
  intro h
  obtain ⟨l, hl, run⟩ := exists_operate .openRead cancelledAtFlush
    (p := fun l => !decide l.after.wire.Settled) (by decide +kernel)
  have hsettled := h _ _ _ _ (by decide) run l (List.mem_singleton_self l)
  simp [hsettled] at hl

end PgMcp
