import PgMcp.Backend
import PgMcp.Schema.Retrieval

/-!
# What the operations of a backend do on the wire

One specification for each operation: nothing is sent, or the connection runs the calls
of the operation, and the outcome follows from theirs.

## Main results

* `openTransaction_post`, `getSchema_post`, `Backend.query_post`, `commit_post`,
  `rollback_post`, `close_post` — one for each operation.
* `drainAfterFailure_post` — after a failed query the connection is drained when a
  control flag is raised.
-/

namespace PgMcp

open Program

/-- The error of a call says that its outcome is unknown. -/
def outcomeUnknown {ε α : Type} (unknown : ε → Bool) : Except ε α → Bool
  | .ok _ => false
  | .error e => unknown e

/-- The outcome of a call of the adapter is unknown. -/
abbrev unknownCall (r : Except AdapterError ResultSet) : Bool :=
  outcomeUnknown AdapterError.outcomeUnknown r

namespace Backend

variable {rounds : ℕ} {ctx : RequestContext} {b : LibpqBackend}

/-- A program on the connection runs on its wire, or fails without one. -/
theorem onConnection_post {ε α : Type} {x : Program Wire ε α} {f : ε → LibpqBackend → BackendFailure}
    {Q : Except BackendFailure α → LibpqBackend → Prop}
    (habsent : b.present = false → Q (.error (absent b)) b)
    (hpresent : b.present = true →
      x.Post b.wire fun r w => Q (r.mapError (f · { b with wire := w })) { b with wire := w }) :
    (onConnection x f).Post b Q := by
  simp only [onConnection, post_bind, post_read, andThen_ok]
  cases hp : b.present with
  | false =>
    simp only [Bool.false_eq_true, if_false, failWith, post_bind, post_read, andThen_ok, post_fail]
    exact habsent hp
  | true =>
    simp only [if_true, post_mapError, post_zoom]
    exact hpresent hp

/-- The control object of a command. -/
def commandControl (ctx : RequestContext) (ignoreClientCancel : Bool) : PollControl :=
  if ignoreClientCancel then .noClientCancel ctx else .libpq ctx

/-- How a command ends: without a connection nothing is sent, otherwise it is one call. -/
inductive Commanded (ctx : RequestContext) (ignoreClientCancel : Bool) (sql : String)
    (b : LibpqBackend) : Except BackendFailure ResultSet → LibpqBackend → Prop
  | absent (absent : b.present = false) : Commanded ctx ignoreClientCancel sql b (.error (Backend.absent b)) b
  | called {w : Wire} (r : Except AdapterError ResultSet) (present : b.present = true)
      (call : Exchange (commandControl ctx ignoreClientCancel) ctx.deadline sql b.wire r w) :
      Commanded ctx ignoreClientCancel sql b (r.mapError (adapterFailure · { b with wire := w }))
        { b with wire := w }

theorem executeCommand_post (sql : String) (ignoreClientCancel : Bool) :
    (executeCommand rounds ctx sql ignoreClientCancel).Post b
      (Commanded ctx ignoreClientCancel sql b) := by
  rw [executeCommand]
  refine onConnection_post .absent fun hp => ?_
  exact (execute_post rounds).mono fun r w h => .called r hp h

theorem Commanded.of_ok {ignoreClientCancel : Bool} {sql : String} {rs : ResultSet}
    {b' : LibpqBackend} (h : Commanded ctx ignoreClientCancel sql b (.ok rs) b') :
    b.present = true ∧ ∃ w, b' = { b with wire := w } ∧
      Exchange (commandControl ctx ignoreClientCancel) ctx.deadline sql b.wire (.ok rs) w := by
  generalize hr : (Except.ok rs : Except BackendFailure ResultSet) = r' at h
  cases h with
  | absent => cases hr
  | called r present call =>
    rcases r with e | rs'
    · cases hr
    · cases hr
      exact ⟨present, _, rfl, call⟩

theorem Commanded.of_error {ignoreClientCancel : Bool} {sql : String} {f : BackendFailure}
    {b' : LibpqBackend} (h : Commanded ctx ignoreClientCancel sql b (.error f) b') :
    (b.present = false ∧ f = Backend.absent b ∧ b' = b) ∨
      b.present = true ∧ ∃ w e, b' = { b with wire := w } ∧ f = adapterFailure e b' ∧
        Exchange (commandControl ctx ignoreClientCancel) ctx.deadline sql b.wire (.error e) w := by
  generalize hr : (Except.error f : Except BackendFailure ResultSet) = r' at h
  cases h with
  | absent habsent =>
    cases hr
    exact .inl ⟨habsent, rfl, rfl⟩
  | called r present call =>
    rcases r with e | rs'
    · cases hr
      exact .inr ⟨present, _, e, rfl, rfl, call⟩
    · cases hr

/-- A code of the adapter, or that of a statement that did something else. -/
def AdapterCode (code : ErrorCode) : Prop := code = .databaseError ∨ ∃ c : ErrorClass, code = c.code

theorem adapterCode_adapterFailure (e : AdapterError) (b : LibpqBackend) :
    AdapterCode (adapterFailure e b).error.code := .inr ⟨e.errorClass, rfl⟩

/-! ### Opening -/

/-- How an open ends: the tag of the response has to be BEGIN. -/
inductive Opened (ctx : RequestContext) (sql mode : String) (b : LibpqBackend) :
    Except BackendFailure BackendResult → LibpqBackend → Prop
  | absent (absent : b.present = false) : Opened ctx sql mode b (.error (Backend.absent b)) b
  | opened {b' : LibpqBackend} (rs : ResultSet) (present : b.present = true)
      (same : b' = { b with wire := b'.wire }) (tag : rs.commandTag = "BEGIN")
      (call : Exchange (.libpq ctx) ctx.deadline sql b.wire (.ok rs) b'.wire) :
      Opened ctx sql mode b (.ok (.opened mode b'.observation)) b'
  | failed {b' : LibpqBackend} (r : Except AdapterError ResultSet) (f : BackendFailure)
      (present : b.present = true) (same : b' = { b with wire := b'.wire })
      (call : Exchange (.libpq ctx) ctx.deadline sql b.wire r b'.wire)
      (unknown : f.outcomeUnknown = unknownCall r) (code : f.error.outcomeUnknown = false)
      (named : AdapterCode f.error.code) (observed : f.observation = b'.observation) :
      Opened ctx sql mode b (.error f) b'

theorem openTransaction_post (sql mode : String) :
    (openTransaction rounds ctx sql mode).Post b (Opened ctx sql mode b) := by
  rw [openTransaction]
  refine (executeCommand_post sql false).bind ?_ ?_
  · intro rs b' h
    obtain ⟨present, w, rfl, call⟩ := h.of_ok
    by_cases htag : rs.commandTag = "BEGIN"
    · simp only [htag, if_true, observe, post_bind, post_read, andThen_ok, post_pure]
      exact .opened rs present rfl htag call
    · simp only [htag, if_false, failWith, post_bind, post_read, andThen_ok, post_fail]
      exact .failed (.ok rs) _ present rfl call rfl rfl (.inl rfl) rfl
  · intro f b' h
    rcases h.of_error with ⟨absent, rfl, rfl⟩ | ⟨present, w, e, rfl, rfl, call⟩
    · exact .absent absent
    · exact .failed (.error e) _ present rfl call rfl rfl (adapterCode_adapterFailure e _) rfl

/-! ### Schema -/

/-- How `get_schema` ends: as `retrieve` does. -/
inductive SchemaRead (rounds : ℕ) (ctx : RequestContext) (config : Config) (b : LibpqBackend) :
    Except BackendFailure BackendResult → LibpqBackend → Prop
  | absent (absent : b.present = false) : SchemaRead rounds ctx config b (.error (Backend.absent b)) b
  | read {b' : LibpqBackend} (schema : SchemaResult) (present : b.present = true)
      (same : b' = { b with wire := b'.wire })
      (retrieved : (retrieve rounds config ctx.deadline (.libpq ctx)).Returns b.wire (.ok schema)
        b'.wire) : SchemaRead rounds ctx config b (.ok (.schema schema b'.observation)) b'
  | failed {b' : LibpqBackend} (e : SchemaError) (present : b.present = true)
      (same : b' = { b with wire := b'.wire })
      (retrieved : (retrieve rounds config ctx.deadline (.libpq ctx)).Returns b.wire (.error e)
        b'.wire) : SchemaRead rounds ctx config b (.error (schemaFailure e b')) b'

theorem getSchema_post (config : Config) :
    (getSchema rounds ctx config).Post b (SchemaRead rounds ctx config b) := by
  simp only [getSchema, post_bind]
  refine onConnection_post (fun habsent => .absent habsent) fun hp => post_iff.mpr ?_
  rintro (e | schema) w h
  · exact SchemaRead.failed e hp rfl h
  · exact SchemaRead.read schema hp rfl h

/-! ### Commit -/

/-- How a commit ends: it is refused outside an open transaction, and in one it succeeds or
its outcome is unknown. -/
inductive CommitEnded (ctx : RequestContext) (b : LibpqBackend) :
    Except BackendFailure BackendResult → LibpqBackend → Prop
  | refused (code : ErrorCode) (status : b.observation.transactionStatus ≠ .inTransaction)
      (code' : code = .txFailed ∨ code = .noTxOpen) :
      CommitEnded ctx b (.error (Backend.refused code b)) b
  | committed {b' : LibpqBackend} (rs : ResultSet)
      (status : b.observation.transactionStatus = .inTransaction) (present : b.present = true)
      (same : b' = { b with wire := b'.wire })
      (call : Exchange (.noClientCancel ctx) ctx.deadline "COMMIT" b.wire (.ok rs) b'.wire)
      (tag : rs.commandTag = "COMMIT") (idle : b'.observation.transactionStatus = .idle) :
      CommitEnded ctx b (.ok (.committed b'.observation)) b'
  | unknown {b' : LibpqBackend} (r : Except AdapterError ResultSet) (sqlstate : Option String)
      (status : b.observation.transactionStatus = .inTransaction) (present : b.present = true)
      (same : b' = { b with wire := b'.wire })
      (call : Exchange (.noClientCancel ctx) ctx.deadline "COMMIT" b.wire r b'.wire) :
      CommitEnded ctx b (.error (commitUnknown sqlstate b')) b'

/-- A status other than unknown is that of a connection that is present. -/
theorem present_of_status (h : b.observation.transactionStatus ≠ .unknown) : b.present = true := by
  unfold LibpqBackend.observation at h
  cases hp : b.present with
  | true => rfl
  | false =>
    rw [hp] at h
    exact absurd rfl h

theorem commit_post : (commit rounds ctx).Post b (CommitEnded ctx b) := by
  simp only [commit, observe, post_bind, post_read, andThen_ok]
  cases hstatus : b.observation.transactionStatus with
  | inError =>
    simp only [failWith, post_bind, post_read, andThen_ok, post_fail]
    exact .refused _ (by simp [hstatus]) (.inl rfl)
  | idle | active | unknown =>
    simp only [failWith, post_bind, post_read, andThen_ok, post_fail]
    exact .refused _ (by simp [hstatus]) (.inr rfl)
  | inTransaction =>
    refine Post.attempt_bind (executeCommand_post "COMMIT" true) ?_
    rintro (f | rs) b' h
    · simp only [failWith, post_bind, post_read, andThen_ok, post_fail]
      rcases h.of_error with ⟨absent, -, -⟩ | ⟨present, w, e, rfl, -, call⟩
      · have := present_of_status (b := b) (by simp [hstatus])
        rw [absent] at this
        cases this
      · exact .unknown (.error e) _ hstatus present rfl call
    · obtain ⟨present, w, rfl, call⟩ := h.of_ok
      simp only [post_bind, post_read, andThen_ok]
      split
      · rename_i hdone
        exact .committed rs hstatus present rfl call hdone.1 hdone.2
      · simp only [failWith, post_bind, post_read, andThen_ok, post_fail]
        exact .unknown (.ok rs) _ hstatus present rfl call

/-! ### Rollback -/

/-- How a rollback ends: with no transaction open it is a no-op. -/
inductive RollbackEnded (ctx : RequestContext) (b : LibpqBackend) :
    Except BackendFailure BackendResult → LibpqBackend → Prop
  | noop (status : b.observation.transactionStatus = .idle) :
      RollbackEnded ctx b (.ok (.rolledBack false b.observation)) b
  | absent (absent : b.present = false) : RollbackEnded ctx b (.error (Backend.absent b)) b
  | rolledBack {b' : LibpqBackend} (rs : ResultSet)
      (status : b.observation.transactionStatus ≠ .idle) (present : b.present = true)
      (same : b' = { b with wire := b'.wire })
      (call : Exchange (.noClientCancel ctx) ctx.deadline "ROLLBACK" b.wire (.ok rs) b'.wire)
      (tag : rs.commandTag = "ROLLBACK") (idle : b'.observation.transactionStatus = .idle) :
      RollbackEnded ctx b (.ok (.rolledBack true b'.observation)) b'
  | failed {b' : LibpqBackend} (r : Except AdapterError ResultSet) (f : BackendFailure)
      (status : b.observation.transactionStatus ≠ .idle) (present : b.present = true)
      (same : b' = { b with wire := b'.wire })
      (call : Exchange (.noClientCancel ctx) ctx.deadline "ROLLBACK" b.wire r b'.wire)
      (unknown : ∀ e, r = .error e → f.outcomeUnknown = e.outcomeUnknown)
      (code : f.error.outcomeUnknown = false) (named : AdapterCode f.error.code)
      (observed : f.observation = b'.observation) : RollbackEnded ctx b (.error f) b'

theorem rollback_post : (rollback rounds ctx).Post b (RollbackEnded ctx b) := by
  simp only [rollback, observe, post_bind, post_read, andThen_ok]
  split
  · rename_i hidle
    exact .noop hidle
  · rename_i hidle
    refine (executeCommand_post "ROLLBACK" true).bind ?_ ?_
    · intro rs b' h
      obtain ⟨present, w, rfl, call⟩ := h.of_ok
      simp only [post_bind, post_read, andThen_ok]
      split
      · rename_i hdone
        exact .rolledBack rs hidle present rfl call hdone.1 hdone.2
      · simp only [failWith, post_bind, post_read, andThen_ok, post_fail]
        exact .failed (.ok rs) _ hidle present rfl call (by simp) rfl (.inr ⟨.connectionLost, rfl⟩) rfl
    · intro f b' h
      rcases h.of_error with ⟨absent, rfl, rfl⟩ | ⟨present, w, e, rfl, rfl, call⟩
      · exact .absent absent
      · refine .failed (.error e) _ hidle present rfl call ?_ rfl (adapterCode_adapterFailure e _) rfl
        rintro e' ⟨⟩
        rfl

/-! ### Closing -/

/-- How a close ends: it is refused while a transaction is open. -/
inductive CloseEnded (b : LibpqBackend) : Except BackendFailure BackendResult → LibpqBackend → Prop
  | refused (status : openOrFailed b.observation.transactionStatus = true) :
      CloseEnded b (.error (Backend.refused .activeTransaction b)) b
  | closed (status : openOrFailed b.observation.transactionStatus = false) :
      CloseEnded b (.ok (.closed .none true)) b.take

theorem close_post : close.Post b (CloseEnded b) := by
  simp only [close, observe, post_bind, post_read, andThen_ok]
  split
  · rename_i hopen
    simp only [failWith, post_bind, post_read, andThen_ok, post_fail]
    exact .refused hopen
  · rename_i hopen
    simp only [post_bind, post_update, andThen_ok, post_pure]
    exact .closed (by simpa using hopen)

/-- A connection that is in no transaction is taken by its close. -/
theorem present_close {b : LibpqBackend} (h : openOrFailed b.observation.transactionStatus = false) :
    (close.last b).present = false := by
  have hends : close.Terminates b := by
    unfold close
    simp only [observe, terminates_read_bind, h, Bool.false_eq_true, if_false, terminates_update_bind,
      terminates_pure]
  obtain ⟨r, b', hr⟩ := hends
  rw [hr.last]
  have hclosed := close_post.returns hr
  cases hclosed with
  | refused status =>
    rw [h] at status
    cases status
  | closed => rfl

/-! ### Queries -/

/-- The flags that `interruption` reads, from read `tick` on. -/
def interruptedAt (ctx : RequestContext) (tick : ℕ) : Bool :=
  ctx.shutdown tick || ctx.cancellation (tick + 1) || decide (ctx.deadline ≤ ctx.clock.now (tick + 2))

/-- What happens to a connection after a failed query: nothing when no control flag is
raised, otherwise it is cancelled and drained. -/
inductive AfterFailure (rounds : ℕ) (ctx : RequestContext) (w : Wire) :
    Except AdapterError Unit → Wire → Prop
  | left {w' : Wire} (ticked : Ticked w w') (quiet : ¬ (PollControl.libpq ctx).Raised ctx.deadline w.tick)
      (calm : interruptedAt ctx w.tick = false) : AfterFailure rounds ctx w (.ok ()) w'
  | drained {w₁ w' : Wire} (reason : CancelReason) (deadline : ℕ) (r : Except AdapterError Bool)
      (ticked : Ticked w w₁) (raised : (PollControl.libpq ctx).Raised ctx.deadline w₁.tick)
      (drain : (cancelAndDrain ctx.clock rounds reason deadline).Returns w₁ r w')
      (found : interruptedAt ctx w.tick = true) : AfterFailure rounds ctx w (r.map fun _ => ()) w'

/-- The flags are read in the order of a control poll. -/
theorem interruption_post (w : Wire) :
    (interruption ctx).Post w fun r w' => Ticked w w' ∧ ∃ found, r = .ok found ∧
      found = interruptedAt ctx w.tick ∧
      (found = true → (PollControl.libpq ctx).Raised ctx.deadline w'.tick) ∧
      (found = false → ¬ (PollControl.libpq ctx).Raised ctx.deadline w.tick) := by
  simp only [interruption, interruptedAt, RequestContext.stopping, post_bind, post_act, andThen_ok]
  cases hs : ctx.shutdown w.tick with
  | true =>
    simp only [if_true, post_pure]
    exact ⟨⟨1, rfl⟩, true, rfl, rfl, fun _ => .inl (ctx.shutdown_of_le (Nat.le_succ _) hs), (by simp)⟩
  | false =>
    simp only [Bool.false_eq_true, if_false]
    have hread : (do if ← ctx.cancelled then return true else ctx.expired : Adapter Bool).Post
        { w with tick := w.tick + 1 } fun r _ => ∀ found, r = .ok found →
          found = (ctx.cancellation (w.tick + 1) || decide (ctx.deadline ≤ ctx.clock.now (w.tick + 2))) := by
      simp only [RequestContext.cancelled, RequestContext.expired, Clock.read, post_bind,
        post_act, andThen_ok]
      cases ctx.cancellation (w.tick + 1) <;> simp
    refine ((cancelled_post (.libpq ctx) { w with tick := w.tick + 1 }).and hread).mono ?_
    rintro r w' ⟨⟨ht, found, rfl, htrue, hfalse⟩, hfound⟩
    refine ⟨Ticked.trans ⟨1, rfl⟩ ht, found, rfl, by simpa using hfound found rfl,
      fun h => .inr (.inl (htrue h)), fun h hr => ?_⟩
    rcases hr with hr | hr | hr
    · exact absurd (hs.symm.trans hr) (by decide)
    · exact absurd (hfalse (hr.mono (Nat.le_succ _))) (by simp [h])
    · exact absurd (hfalse (.inr (ctx.clock.le_now (Nat.le_succ _) hr))) (by simp [h])

theorem drainReason_post (w : Wire) :
    (drainReason ctx).Post w fun r w' => Ticked w w' ∧ ∃ reason, r = .ok reason := by
  simp only [drainReason, RequestContext.stopping, RequestContext.cancelled, post_bind, post_act,
    andThen_ok]
  split
  · exact ⟨⟨1, rfl⟩, _, rfl⟩
  · simp only [post_bind, post_act, andThen_ok]
    split <;> exact ⟨⟨2, rfl⟩, _, rfl⟩

theorem drainAfterFailure_post (w : Wire) :
    (drainAfterFailure rounds ctx).Post w (AfterFailure rounds ctx w) := by
  rw [drainAfterFailure]
  refine (interruption_post w).bind ?_ ?_
  swap
  · rintro e w' ⟨-, _, h, -⟩
    cases h
  rintro found w₁ ⟨ht, _, h, hfound, hraised, hquiet⟩
  cases h
  cases found with
  | false => exact .left ht (hquiet rfl) hfound.symm
  | true =>
    simp only [if_true]
    refine (drainReason_post w₁).bind ?_ ?_
    swap
    · rintro e w' ⟨-, _, h⟩
      cases h
    rintro reason w₂ ⟨ht₂, -⟩
    simp only [Clock.read, post_bind, post_act, andThen_ok]
    have hticked : Ticked w { w₂ with tick := w₂.tick + 1 } := (ht.trans ht₂).trans ⟨1, rfl⟩
    refine post_iff.mpr fun r w' hr => ?_
    have hdrained := AfterFailure.drained reason _ r hticked
      ((hraised rfl).mono (ht₂.tick_le.trans (Nat.le_succ _))) hr hfound.symm
    cases r with
    | ok b => exact hdrained
    | error e => exact hdrained

/-- The call of a query returns. -/
def CallReturns (rounds : ℕ) (ctx : RequestContext) (request : QueryRequest) (config : Config) (w : Wire)
    (r : Except AdapterError ResultSet) (w' : Wire) : Prop :=
  (Connection.query rounds request.sql request.parameters (queryLimits config) ctx.deadline
    (.libpq ctx)).Returns w r w'

/-- How a query ends: a failed call is followed by what `AfterFailure` says, and by one more
look at the token and the deadline. -/
inductive QueryEnded (rounds : ℕ) (ctx : RequestContext) (request : QueryRequest) (config : Config)
    (b : LibpqBackend) : Except BackendFailure BackendResult → LibpqBackend → Prop
  | absent (absent : b.present = false) :
      QueryEnded rounds ctx request config b (.error (Backend.absent b)) b
  | answered {b' : LibpqBackend} (rs : ResultSet) (present : b.present = true)
      (same : b' = { b with wire := b'.wire })
      (call : Exchange (.libpq ctx) ctx.deadline request.sql b.wire (.ok rs) b'.wire) :
      QueryEnded rounds ctx request config b
        (.ok (.query (publicResult rs) b'.observation (directDdlCommandTag rs.commandTag))) b'
  | failed {b' : LibpqBackend} {w₁ w₂ : Wire} (e : AdapterError) (f : BackendFailure)
      (unknown : Bool) (present : b.present = true) (same : b' = { b with wire := b'.wire })
      (call : Exchange (.libpq ctx) ctx.deadline request.sql b.wire (.error e) w₁)
      (after : AfterFailure rounds ctx w₁ (.ok ()) w₂)
      (look : (cancelledOrExpired ctx).Returns w₂ (.ok unknown) b'.wire)
      (outcome : f.outcomeUnknown = (e.outcomeUnknown || unknown))
      (code : f.error = coreError e.errorClass.code) (sqlstate : f.sqlstate = e.sqlstate)
      (returned : CallReturns rounds ctx request config b.wire (.error e) w₁) :
      QueryEnded rounds ctx request config b (.error f) b'
  | undrained {b' : LibpqBackend} {w₁ : Wire} (e e' : AdapterError) (present : b.present = true)
      (same : b' = { b with wire := b'.wire })
      (call : Exchange (.libpq ctx) ctx.deadline request.sql b.wire (.error e) w₁)
      (after : AfterFailure rounds ctx w₁ (.error e') b'.wire)
      (returned : CallReturns rounds ctx request config b.wire (.error e) w₁) :
      QueryEnded rounds ctx request config b (.error (adapterFailure e' b')) b'

/-- The last look of a failed query is that of a control poll. -/
theorem cancelledOrExpired_post (w : Wire) :
    (cancelledOrExpired ctx).Post w fun r w' => Ticked w w' ∧ ∃ b, r = .ok b ∧
      (b = true → (PollControl.libpq ctx).CancelledAt w'.tick) ∧
      ((PollControl.libpq ctx).CancelledAt w.tick → b = true) :=
  cancelled_post (.libpq ctx) w

theorem query_post (request : QueryRequest) (config : Config) :
    (query rounds ctx request config).Post b (QueryEnded rounds ctx request config b) := by
  simp only [query, post_bind, post_read, andThen_ok]
  cases hp : b.present with
  | false =>
    simp only [Bool.false_eq_true, if_false, failWith, post_bind, post_read, andThen_ok, post_fail]
    exact .absent hp
  | true =>
    simp only [if_true]
    refine Post.attempt_bind (P := fun r b' => b' = { b with wire := b'.wire } ∧
      Exchange (.libpq ctx) ctx.deadline request.sql b.wire r b'.wire ∧
      CallReturns rounds ctx request config b.wire r b'.wire) ?_ ?_
    · rw [post_zoom]
      exact post_iff.mpr fun r w hr => ⟨rfl, (PgMcp.query_post rounds _ _).returns hr, hr⟩
    · rintro (e | rs) b₁ ⟨hsame, call, returned⟩
      · simp only [observe, post_bind, post_read, andThen_ok]
        have hpresent : b₁.present = true := by rw [hsame, hp]
        refine onConnection_post (fun h => by rw [hpresent] at h; cases h) fun _ => ?_
        rw [afterFailedQuery]
        refine (drainAfterFailure_post b₁.wire).bind ?_ ?_
        · rintro u w₂ after
          refine post_iff.mpr fun r w₃ look => ?_
          cases r with
          | error e' =>
            obtain ⟨-, _, h, -⟩ := (cancelledOrExpired_post w₂).returns look
            cases h
          | ok unknown =>
            exact .failed e _ unknown hp (by rw [hsame]) call after look rfl rfl rfl returned
        · intro e' w₂ after
          exact .undrained e e' hp (by rw [hsame]) call after returned
      · simp only [observe, post_bind, post_read, andThen_ok, post_pure]
        exact .answered rs hp hsame call

end Backend

end PgMcp
