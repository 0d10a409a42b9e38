import PgMcp.Libpq.Connection

/-!
# Polling, flushing and cancelling

One specification for each phase of a statement before its response: polling the
control state, waiting on a socket, flushing and cancelling.  Each says how the phase
ends, what it does to the connection and which entries it adds to the trace.

## Main definitions

* `PollControl.Raised` — every control poll from a given read on finds a reason.
* `Ticked` — only the number of control reads has grown.
* `Flushed`, `Cancelling` — how the phases end.

## Main results

* `pollReason_post`, `pollFd_post`, `flushOutput_post`, `dispatchCancel_post` — one
  for each phase.
-/

namespace PgMcp

open Program

/-! ### Control -/

/-- The client's token or the request's deadline, where the control object looks. -/
def PollControl.CancelledAt : PollControl → ℕ → Prop
  | .libpq ctx, n => ctx.cancellation n = true ∨ ctx.deadline ≤ ctx.clock.now n
  | .noClientCancel _, _ => False

/-- A control poll that starts at read `n` or later finds a reason. -/
def PollControl.Raised (ctl : PollControl) (deadline n : ℕ) : Prop :=
  ctl.context.shutdown n = true ∨ ctl.CancelledAt n ∨ deadline ≤ ctl.clock.now n

theorem PollControl.CancelledAt.mono {ctl : PollControl} {m n : ℕ} (h : ctl.CancelledAt m)
    (hmn : m ≤ n) : ctl.CancelledAt n := by
  cases ctl with
  | libpq ctx =>
    rcases h with h | h
    · exact .inl (ctx.cancellation_of_le hmn h)
    · exact .inr (ctx.clock.le_now hmn h)
  | noClientCancel ctx => exact h

theorem PollControl.Raised.mono {ctl : PollControl} {deadline m n : ℕ}
    (h : ctl.Raised deadline m) (hmn : m ≤ n) : ctl.Raised deadline n := by
  rcases h with h | h | h
  · exact .inl (ctl.context.shutdown_of_le hmn h)
  · exact .inr (.inl (h.mono hmn))
  · exact .inr (.inr (ctl.clock.le_now hmn h))

/-- Only the number of control reads has grown. -/
def Ticked (w w' : Wire) : Prop := ∃ n, w' = { w with tick := w.tick + n }

theorem Ticked.refl (w : Wire) : Ticked w w := ⟨0, rfl⟩

theorem Ticked.trans {w₁ w₂ w₃ : Wire} (h : Ticked w₁ w₂) (h' : Ticked w₂ w₃) : Ticked w₁ w₃ := by
  obtain ⟨m, rfl⟩ := h
  obtain ⟨n, rfl⟩ := h'
  exact ⟨m + n, by simp [Nat.add_assoc]⟩

instance : IsTrans Wire Ticked := ⟨fun _ _ _ => Ticked.trans⟩

theorem Ticked.tick_le {w w' : Wire} (h : Ticked w w') : w.tick ≤ w'.tick := by
  obtain ⟨n, rfl⟩ := h
  exact Nat.le_add_right _ _

@[simp] theorem Ticked.conn {w w' : Wire} (h : Ticked w w') : w'.conn = w.conn := by
  obtain ⟨n, rfl⟩ := h; rfl

@[simp] theorem Ticked.calls {w w' : Wire} (h : Ticked w w') : w'.calls = w.calls := by
  obtain ⟨n, rfl⟩ := h; rfl

@[simp] theorem Ticked.busy {w w' : Wire} (h : Ticked w w') : w'.busy = w.busy := by
  obtain ⟨n, rfl⟩ := h; rfl

@[simp] theorem Ticked.scripts {w w' : Wire} (h : Ticked w w') : w'.scripts = w.scripts := by
  obtain ⟨n, rfl⟩ := h; rfl

@[simp] theorem Ticked.cancels {w w' : Wire} (h : Ticked w w') : w'.cancels = w.cancels := by
  obtain ⟨n, rfl⟩ := h; rfl

section Control

variable {ε : Type}

theorem cancelled_post (ctl : PollControl) (w : Wire) :
    (ctl.cancelled : Program Wire ε Bool).Post w fun r w' => Ticked w w' ∧
      ∃ b, r = .ok b ∧ (b = true → ctl.CancelledAt w'.tick) ∧ (ctl.CancelledAt w.tick → b = true) := by
  cases ctl with
  | noClientCancel ctx =>
    simp only [PollControl.cancelled, post_pure]
    exact ⟨.refl w, false, rfl, (by simp), False.elim⟩
  | libpq ctx =>
    simp only [PollControl.cancelled, RequestContext.cancelled, RequestContext.expired, Clock.read,
      post_bind, post_act, andThen_ok]
    cases hc : ctx.cancellation w.tick with
    | true =>
      simp only [if_true, post_pure]
      exact ⟨⟨1, rfl⟩, true, rfl, fun _ => .inl (ctx.cancellation_of_le (Nat.le_succ _) hc),
        fun _ => rfl⟩
    | false =>
      simp only [Bool.false_eq_true, if_false, post_bind, post_act, andThen_ok, post_pure]
      refine ⟨⟨2, rfl⟩, _, rfl, fun h => ?_, fun h => ?_⟩
      · exact .inr (ctx.clock.le_now (Nat.le_succ _) (of_decide_eq_true h))
      · rcases h with h | h
        · rw [hc] at h; cases h
        · exact decide_eq_true (ctx.clock.le_now (Nat.le_succ _) h)

/-- A poll changes nothing but the number of reads; a reason stays one, and where
there is one it is found. -/
theorem pollReason_post (ctl : PollControl) (deadline : ℕ) (w : Wire) :
    (pollReason ctl deadline : Program Wire ε _).Post w fun r w' => Ticked w w' ∧
      ∃ found : Option CancelReason, r = .ok found ∧
        (found.isSome → ctl.Raised deadline w'.tick) ∧
        (found = none → ¬ ctl.Raised deadline w.tick) := by
  simp only [pollReason, PollControl.shutdownRequested, RequestContext.stopping, post_bind,
    post_act, andThen_ok]
  cases hs : ctl.context.shutdown w.tick with
  | true =>
    simp only [if_true, post_pure]
    exact ⟨⟨1, rfl⟩, _, rfl, fun _ => .inl (ctl.context.shutdown_of_le (Nat.le_succ _) hs), (by simp)⟩
  | false =>
    simp only [Bool.false_eq_true, if_false, post_bind]
    refine (cancelled_post ctl _).mono fun r w₁ h => ?_
    obtain ⟨ht, b, rfl, hb, hb'⟩ := h
    have ht₁ : Ticked w w₁ := Ticked.trans ⟨1, rfl⟩ ht
    simp only [andThen_ok]
    cases b with
    | true =>
      simp only [if_true, post_pure]
      exact ⟨ht₁, _, rfl, fun _ => .inr (.inl (hb rfl)), (by simp)⟩
    | false =>
      simp only [Bool.false_eq_true, if_false, Clock.read, post_bind, post_act, andThen_ok]
      have ht₂ : Ticked w { w₁ with tick := w₁.tick + 1 } := ht₁.trans ⟨1, rfl⟩
      split
      · rename_i hd
        simp only [post_pure]
        exact ⟨ht₂, _, rfl, fun _ => .inr (.inr (ctl.clock.le_now (Nat.le_succ _) hd)), (by simp)⟩
      · rename_i hd
        simp only [post_pure]
        refine ⟨ht₂, none, rfl, (by simp), fun _ hr => ?_⟩
        rcases hr with h | h | h
        · rw [hs] at h; cases h
        · exact absurd (hb' (h.mono (Nat.le_succ _))) (by simp)
        · exact hd (ctl.clock.le_now ht₁.tick_le h)

end Control

/-- `check_control` sends nothing when a reason is raised. -/
theorem checkControl_post (ctl : PollControl) (deadline : ℕ) (w : Wire) :
    (checkControl ctl deadline).Post w fun r w' => Ticked w w' ∧
      ((r = .ok () ∧ ¬ ctl.Raised deadline w.tick) ∨
        ∃ reason : CancelReason, r = .error reason.error ∧ ctl.Raised deadline w'.tick) := by
  simp only [checkControl, post_bind]
  refine (pollReason_post ctl deadline w).mono fun r w₁ h => ?_
  obtain ⟨ht, found, rfl, hsome, hnone⟩ := h
  cases found with
  | none => exact ⟨ht, .inl ⟨rfl, hnone rfl⟩⟩
  | some reason => exact ⟨ht, .inr ⟨reason, rfl, hsome rfl⟩⟩

/-! ### Waiting -/

theorem checkRemaining_post (clock : Clock) (deadline : ℕ) (w : Wire) :
    (checkRemaining clock deadline).Post w fun r w' => Ticked w w' ∧
      ∀ e, r = .error e → e.outcomeUnknown = true := by
  simp only [checkRemaining, Clock.read, post_bind, post_act, andThen_ok]
  split
  · refine ⟨⟨1, rfl⟩, fun e he => ?_⟩
    cases he
    rfl
  · exact ⟨⟨1, rfl⟩, (by simp)⟩

/-- A wait changes nothing but the number of reads; its errors have an unknown outcome. -/
theorem pollFd_post (clock : Clock) (deadline : ℕ) (poll : Poll) (w : Wire) :
    (pollFd clock deadline poll).Post w fun r w' => Ticked w w' ∧
      ∀ e, r = .error e → e.outcomeUnknown = true := by
  have slice : ∀ {rest : Adapter Bool} {w : Wire},
      (∀ w', Ticked w w' → rest.Post w' fun r w'' => Ticked w w'' ∧
        ∀ e, r = .error e → e.outcomeUnknown = true) →
      (do checkRemaining clock deadline; rest : Adapter Bool).Post w fun r w'' => Ticked w w'' ∧
        ∀ e, r = .error e → e.outcomeUnknown = true := by
    intro rest w hrest
    refine (checkRemaining_post clock deadline w).bind (fun _ w' h => hrest w' h.1) ?_
    rintro e w' ⟨ht, he⟩
    exact ⟨ht, fun e' h => by cases h; exact he _ rfl⟩
  induction poll generalizing w with
  | ready readable =>
    rw [pollFd]
    exact slice fun w' ht => ⟨ht, nofun⟩
  | hangup | failed =>
    rw [pollFd]
    refine slice fun w' ht => ⟨ht, fun e he => ?_⟩
    cases he
    rfl
  | timeout next ih =>
    rw [pollFd]
    refine slice fun w₁ ht => Post.mono (slice fun w₂ ht' => (ih w₂).mono fun r w₃ h => ?_)
      fun r w₃ h => ⟨ht.trans h.1, h.2⟩
    exact ⟨ht'.trans h.1, h.2⟩
  | eintr next ih =>
    rw [pollFd]
    exact slice fun w₁ ht => (ih w₁).mono fun r w₂ h => ⟨ht.trans h.1, h.2⟩

/-! ### Flushing -/

/-- The connection with `s` in flight. -/
def PgConn.carrying (c : PgConn) (s : Statement) : PgConn :=
  { c with activity := .running s }

@[simp] theorem PgConn.carrying_ok (c : PgConn) (s : Statement) : (c.carrying s).ok = c.ok := rfl

@[simp] theorem PgConn.carrying_inFlight (c : PgConn) (s : Statement) :
    (c.carrying s).inFlight = some s := rfl

@[simp] theorem PgConn.carrying_xact (c : PgConn) (s : Statement) : (c.carrying s).xact = c.xact :=
  rfl

@[simp] theorem PgConn.carrying_activity (c : PgConn) (s : Statement) :
    (c.carrying s).activity = .running s := rfl

/-- The calls on a statement in flight see that statement. -/
theorem Wire.statement_carrying {w : Wire} {c : PgConn} {s : Statement}
    (h : w.conn = some (c.carrying s)) : w.statement = some s := by
  simp [Wire.statement, h]

theorem Wire.events_carrying {w : Wire} {c : PgConn} {s : Statement}
    (h : w.conn = some (c.carrying s)) : w.events = s.events := by
  simp [Wire.events, Wire.statement_carrying h]

/-- Replacing the statement in flight. -/
theorem Wire.withStatement_carrying {w : Wire} {c : PgConn} {s : Statement} (s' : Statement)
    (h : w.conn = some (c.carrying s)) : (w.withStatement s').conn = some (c.carrying s') := by
  simp [Wire.withStatement, Wire.withConn, h, PgConn.carrying]

/-- How flushing `s` ends. -/
inductive Flushed (ctl : PollControl) (deadline : ℕ) (c : PgConn) (s : Statement) (w : Wire) :
    Except AdapterError Unit → Wire → Prop
  /-- Everything is sent. -/
  | passed {w' : Wire} (flush : List FlushStep)
      (conn : w'.conn = some (c.carrying { s with flush := flush })) (calls : w'.calls = w.calls) :
      Flushed ctl deadline c s w (.ok ()) w'
  /-- A control event is reported as if nothing had been sent. -/
  | interrupted {w' : Wire} (reason : CancelReason) (flush : List FlushStep)
      (conn : w'.conn = some (c.carrying { s with flush := flush }))
      (calls : w'.calls = .interrupted reason :: w.calls)
      (raised : ctl.Raised deadline w'.tick) :
      Flushed ctl deadline c s w (.error reason.error) w'
  /-- The socket or libpq fails. -/
  | failed {w' : Wire} (e : AdapterError) (usable : Bool) (flush : List FlushStep)
      (unknown : e.outcomeUnknown = true)
      (conn : w'.conn = some { c.carrying { s with flush := flush } with ok := usable })
      (calls : w'.calls = .failed usable :: w.calls) :
      Flushed ctl deadline c s w (.error e) w'

theorem giveUp_post {α : Type} {c : PgConn} {usable : Bool} {e : AdapterError} (w : Wire)
    (hconn : w.conn = some c) :
    (giveUp usable e : Adapter α).Post w fun r w' => r = .error e ∧
      w'.conn = some { c with ok := c.ok && usable } ∧ w'.calls = .failed usable :: w.calls := by
  simp [giveUp, Wire.logged, Wire.withConn, hconn]

/-- Flushing changes only the number of reads and what is left to flush, and is the
one phase that reports a control event with a known outcome. -/
theorem flushOutput_post {ctl : PollControl} {deadline : ℕ} {c : PgConn} {s : Statement} {w : Wire}
    (hok : c.ok = true) (hconn : w.conn = some (c.carrying s)) (rounds : ℕ) :
    (flushOutput ctl deadline rounds).Post w (Flushed ctl deadline c s w) := by
  -- what was flushed in the rounds before leaves the connection as it is
  suffices h : ∀ (flush : List FlushStep) (w₁ : Wire),
      w₁.conn = some (c.carrying { s with flush := flush }) → w₁.calls = w.calls →
      (flushOutput ctl deadline rounds).Post w₁ (Flushed ctl deadline c s w) from
    h s.flush w hconn rfl
  induction rounds with
  | zero => intro flush w₁ _ _; trivial
  | succ rounds ih =>
    intro flush w₁ hconn₁ hcalls₁
    rw [flushOutput]
    refine (pollReason_post ctl deadline w₁).bind ?_ (by rintro e w' ⟨_, _, h, _⟩; cases h)
    rintro found w₂ ⟨ht, found', hfound, hraised, -⟩
    cases hfound
    have hconn₂ : w₂.conn = some (c.carrying { s with flush := flush }) := by rw [ht.conn, hconn₁]
    have hcalls₂ : w₂.calls = w.calls := by rw [ht.calls, hcalls₁]
    cases found with
    | some reason =>
      simp only [log, post_bind, post_update, andThen_ok, post_fail]
      exact .interrupted reason flush hconn₂ (by simp [Wire.logged, hcalls₂]) (hraised rfl)
    | none =>
      simp only [connected, post_bind, post_read, andThen_ok, post_require, hconn₂,
        Option.isSome_some, Bool.true_eq_false, false_imp_iff, and_true, true_imp_iff]
      simp only [pqFlush, post_act, Wire.statement_carrying hconn₂]
      have lost : (AdapterError.new .connectionLost).unknown.outcomeUnknown = true := rfl
      have up : ∀ {flush' : List FlushStep} {usable : Bool} {e : AdapterError} {w₃ : Wire},
          w₃.conn = some (c.carrying { s with flush := flush' }) → w₃.calls = w.calls →
          e.outcomeUnknown = true →
          (giveUp usable e : Adapter Unit).Post w₃ (Flushed ctl deadline c s w) := by
        intro flush' usable e w₃ h₁ h₂ h₃
        refine (giveUp_post w₃ h₁).mono ?_
        rintro r w' ⟨rfl, hconn', hcalls'⟩
        rw [PgConn.carrying_ok, hok, Bool.true_and] at hconn'
        exact .failed e usable flush' h₃ hconn' (by rw [hcalls', h₂])
      cases flush with
      | nil => exact .passed [] hconn₂ hcalls₂
      | cons step steps =>
        have hconn₃ := Wire.withStatement_carrying { s with flush := steps } hconn₂
        have hcalls₃ : (w₂.withStatement { s with flush := steps }).calls = w.calls := hcalls₂
        simp only [andThen_ok]
        rcases step with ⟨_ | socket, trouble⟩ | usable
        · exact up hconn₃ hcalls₃ lost
        · dsimp only
          refine (pollFd_post _ _ socket _).attempt_bind ?_
          rintro r w₄ ⟨ht', hr⟩
          have hconn₄ := ht'.conn.trans hconn₃
          have hcalls₄ := ht'.calls.trans hcalls₃
          cases r with
          | error e => exact up hconn₄ hcalls₄ (hr e rfl)
          | ok readable =>
            dsimp only
            cases readable <;> rcases trouble with _ | usable
            · exact ih steps w₄ hconn₄ hcalls₄
            · exact ih steps w₄ hconn₄ hcalls₄
            · exact ih steps w₄ hconn₄ hcalls₄
            · exact up hconn₄ hcalls₄ lost
        · exact up hconn₃ hcalls₃ lost

/-! ### Cancelling -/

/-- The connection is disposed, `entries` are added to the trace and then `PQfinish`. -/
structure Disposed (w : Wire) (entries : List Call) (w' : Wire) : Prop where
  conn : w'.conn = none
  calls : w'.calls = .finish :: entries ++ w.calls

theorem disposeAndFail_post {α : Type} {e : AdapterError} {w : Wire} {entries : List Call}
    (w₁ : Wire) (hconn : w₁.conn.isSome = true) (hcalls : w₁.calls = entries ++ w.calls) :
    (disposeAndFail e : Adapter α).Post w₁ fun r w' => r = .error e ∧ Disposed w entries w' := by
  simp only [disposeAndFail, post_bind, post_update, andThen_ok, post_fail, true_and]
  exact ⟨rfl, by simp [Wire.disposed, hconn, hcalls]⟩

/-- How dispatching a cancel request ends: with the connection as it was, or with an
error of unknown outcome on a disposed connection. -/
inductive Cancelling (w : Wire) (entries : List Call) : Except AdapterError Bool → Wire → Prop
  | dispatched {w' : Wire} (b : Bool) (conn : w'.conn = w.conn)
      (calls : w'.calls = .cancelPolled b :: entries ++ w.calls) (tick : w.tick ≤ w'.tick) :
      Cancelling w entries (.ok b) w'
  | disposed {w' : Wire} (e : AdapterError) (unknown : e.outcomeUnknown = true)
      (disposed : Disposed w entries w') : Cancelling w entries (.error e) w'

section Cancel

variable {clock : Clock} {reason : CancelReason} {deadline : ℕ} {w : Wire} {entries : List Call}

theorem disposeAndFail_cancelling {w₁ : Wire} (hconn : w₁.conn.isSome = true)
    (hcalls : w₁.calls = entries ++ w.calls) :
    (disposeAndFail reason.error.unknown : Adapter Bool).Post w₁ (Cancelling w entries) := by
  refine (disposeAndFail_post w₁ hconn hcalls).mono ?_
  rintro r w' ⟨rfl, h⟩
  exact .disposed _ rfl h

theorem checkCancelDeadline_post {w₁ : Wire} (hconn : w₁.conn.isSome = true)
    (hcalls : w₁.calls = entries ++ w.calls) :
    (checkCancelDeadline clock reason deadline).Post w₁ fun r w' =>
      (r = .ok () ∧ Ticked w₁ w') ∨
        ∃ e : AdapterError, r = .error e ∧ e.outcomeUnknown = true ∧ Disposed w entries w' := by
  simp only [checkCancelDeadline, Clock.read, post_bind, post_act, andThen_ok]
  split
  · refine (disposeAndFail_post { w₁ with tick := w₁.tick + 1 } hconn hcalls).mono ?_
    rintro r w' ⟨rfl, h⟩
    exact .inr ⟨_, rfl, rfl, h⟩
  · exact .inl ⟨rfl, 1, rfl⟩

theorem cancelLoop_post (hsome : w.conn.isSome = true) : ∀ (poll : CancelPoll) (w₁ : Wire),
    w₁.conn = w.conn → w₁.calls = entries ++ w.calls → w.tick ≤ w₁.tick →
    (cancelLoop clock reason deadline poll).Post w₁ (Cancelling w entries) := by
  -- every round begins by looking at the deadline
  have round : ∀ {rest : Adapter Bool} {w₁ : Wire}, w₁.conn = w.conn →
      w₁.calls = entries ++ w.calls → w.tick ≤ w₁.tick →
      (∀ w₂, w₂.conn = w.conn → w₂.calls = entries ++ w.calls → w.tick ≤ w₂.tick →
        rest.Post w₂ (Cancelling w entries)) →
      (do checkCancelDeadline clock reason deadline; rest : Adapter Bool).Post w₁
        (Cancelling w entries) := by
    intro rest w₁ hconn hcalls htick hrest
    refine (checkCancelDeadline_post (by rw [hconn, hsome]) hcalls).bind ?_ ?_
    · rintro u w₂ (⟨-, ht⟩ | ⟨e, h, -⟩)
      · exact hrest w₂ (ht.conn.trans hconn) (ht.calls.trans hcalls) (htick.trans ht.tick_le)
      · cases h
    · rintro e w₂ (⟨h, -⟩ | ⟨e', h, he, hd⟩)
      · cases h
      · cases h
        exact .disposed e he hd
  intro poll
  induction poll with
  | ok =>
    intro w₁ hconn hcalls htick
    rw [cancelLoop]
    exact round hconn hcalls htick fun w₂ hconn₂ hcalls₂ htick₂ =>
      .dispatched true hconn₂ (by simp [Wire.logged, hcalls₂]) htick₂
  | failed =>
    intro w₁ hconn hcalls htick
    rw [cancelLoop]
    exact round hconn hcalls htick fun w₂ hconn₂ hcalls₂ htick₂ =>
      .dispatched false hconn₂ (by simp [Wire.logged, hcalls₂]) htick₂
  | waiting socket next ih =>
    intro w₁ hconn hcalls htick
    cases socket with
    | none =>
      rw [cancelLoop]
      exact round hconn hcalls htick fun w₂ hconn₂ hcalls₂ _ =>
        disposeAndFail_cancelling (by rw [hconn₂, hsome]) hcalls₂
    | some socket =>
      rw [cancelLoop]
      refine round hconn hcalls htick fun w₂ hconn₂ hcalls₂ htick₂ => ?_
      refine (pollFd_post clock deadline socket w₂).attempt_bind ?_
      rintro r w₃ ⟨ht, -⟩
      cases r with
      | error e =>
        exact disposeAndFail_cancelling (by rw [ht.conn, hconn₂, hsome]) (ht.calls.trans hcalls₂)
      | ok readable =>
        exact ih w₃ (ht.conn.trans hconn₂) (ht.calls.trans hcalls₂) (htick₂.trans ht.tick_le)
  | active next ih =>
    intro w₁ hconn hcalls htick
    rw [cancelLoop]
    exact round hconn hcalls htick ih

/-- The original connection is disposed or left as it was. -/
theorem dispatchCancel_post (hsome : w.conn.isSome = true) :
    (dispatchCancel clock reason deadline).Post w (Cancelling w [.cancelCreate]) := by
  simp only [dispatchCancel, connected, post_bind, post_read, andThen_ok, hsome, if_true,
    pqCancelCreate, post_act]
  have hsome' : ({ w with cancels := w.cancels.tail }.logged .cancelCreate).conn.isSome = true :=
    hsome
  cases w.cancels.headD .createFailed with
  | createFailed => exact disposeAndFail_cancelling hsome' rfl
  | startFailed => exact disposeAndFail_cancelling hsome' rfl
  | started socket next => exact cancelLoop_post hsome _ _ rfl rfl le_rfl

end Cancel

end PgMcp
