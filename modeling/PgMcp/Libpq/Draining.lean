import PgMcp.Libpq.Response

/-!
# When a cancel request and a drain come to their end

Whether the connection survives a cancel request and the drain after it is decided before
either is made: by the answers to the request, by the waits on the sockets and by the clock.
The answer of `PQcancelPoll` itself plays no part: a request that failed is followed by a
drain all the same.

## Main definitions

* `Poll.ends`, `CancelScript.ends`, `drainEnds` — the read of the clock at which a wait, a
  cancel request and a drain come to their end.
* `cancelDrainEnds` — the same for the request and the drain together.
* `PollControl.polled` — what a poll of the control state finds, by the read it starts at.

## Main results

* `cancelAndDrain_conn` — the connection is kept exactly when the request and the drain
  come to their end.
* `pollReason_eq` — what a poll finds is decided by the read it starts at.
-/

namespace PgMcp

open Program

/-! ### The ends of the waits -/

/-- A slice is started, and the read after it; none once the deadline is reached. -/
def Clock.slice (clock : Clock) (deadline tick : ℕ) : Option ℕ :=
  if deadline ≤ clock.now tick then none else some (tick + 1)

/-- The wait on a socket ends with the socket ready. -/
def Poll.ends (clock : Clock) (deadline : ℕ) : Poll → ℕ → Option ℕ
  | .ready _, tick => clock.slice deadline tick
  | .hangup, _ | .failed, _ => none
  | .timeout next, tick =>
    (clock.slice deadline tick).bind fun tick =>
      (clock.slice deadline tick).bind fun tick => next.ends clock deadline tick
  | .eintr next, tick =>
    (clock.slice deadline tick).bind fun tick => next.ends clock deadline tick

/-- `PQcancelPoll` is answered by success or by failure. -/
def CancelPoll.ends (clock : Clock) (deadline : ℕ) : CancelPoll → ℕ → Option ℕ
  | .ok, tick | .failed, tick => clock.slice deadline tick
  | .waiting none _, _ => none
  | .waiting (some socket) next, tick =>
    (clock.slice deadline tick).bind fun tick =>
      (socket.ends clock deadline tick).bind fun tick => next.ends clock deadline tick
  | .active next, tick =>
    (clock.slice deadline tick).bind fun tick => next.ends clock deadline tick

/-- The cancel request is created, started and answered. -/
def CancelScript.ends (clock : Clock) (deadline : ℕ) : CancelScript → ℕ → Option ℕ
  | .createFailed, _ | .startFailed, _ => none
  | .started socket next, tick => (CancelPoll.waiting socket next).ends clock deadline tick

/-- The first result, or the end of the response, is waited for without a failure. -/
def drainEnds (clock : Clock) (deadline : ℕ) : List Event → ℕ → Option ℕ
  | .busy (some socket) :: events, tick =>
    (socket.ends clock deadline tick).bind fun tick => drainEnds clock deadline events tick
  | .busy none :: _, _ | .trouble _ :: _, _ => none
  | .result _ :: _, tick | [], tick => some tick

/-- The cancel request comes to its end, and the drain after it. -/
def cancelDrainEnds (clock : Clock) (deadline : ℕ) (cancel : CancelScript) (events : List Event)
    (tick : ℕ) : Option ℕ :=
  (cancel.ends clock deadline tick).bind fun tick => drainEnds clock deadline events tick

/-! ### A run ends where its waits do -/

/-- A run returns at the read `ends`, and fails where there is none. -/
def EndsAt {α : Type} (ends : Option ℕ) (r : Except AdapterError α) (w' : Wire) : Prop :=
  (∃ a, r = .ok a ∧ ends = some w'.tick) ∨ (∃ e, r = .error e) ∧ ends = none

section Ends

variable {α β : Type} {clock : Clock} {deadline : ℕ} {reason : CancelReason} {w : Wire}

theorem EndsAt.bind {x : Adapter α} {f : α → Adapter β} {ends : Option ℕ} {g : ℕ → Option ℕ}
    (hx : x.Post w (EndsAt ends)) (hf : ∀ a w', (f a).Post w' (EndsAt (g w'.tick))) :
    (x >>= f).Post w (EndsAt (ends.bind g)) := by
  refine Post.bind hx (fun a w' h => ?_) (fun e w' h => ?_)
  · rcases h with ⟨_, -, hends⟩ | ⟨⟨_, h⟩, -⟩
    · rw [hends]
      exact hf a w'
    · cases h
  · rcases h with ⟨_, h, -⟩ | ⟨-, hends⟩
    · cases h
    · rw [hends]
      exact .inr ⟨⟨e, rfl⟩, rfl⟩

theorem disposeAndFail_endsAt (e : AdapterError) :
    (disposeAndFail e : Adapter α).Post w (EndsAt none) := .inr ⟨⟨e, rfl⟩, rfl⟩

/-- An attempt whose failure is turned into a disposal. -/
theorem EndsAt.attempt_bind {x : Adapter α} {f : Except AdapterError α → Adapter β} {e : AdapterError}
    {ends : Option ℕ} {g : ℕ → Option ℕ} (hx : x.Post w (EndsAt ends))
    (hok : ∀ a w', (f (.ok a)).Post w' (EndsAt (g w'.tick)))
    (herror : ∀ e', f (.error e') = disposeAndFail e) :
    (x.attempt >>= f).Post w (EndsAt (ends.bind g)) := by
  refine hx.attempt_bind fun r w' h => ?_
  rcases h with ⟨a, rfl, hends⟩ | ⟨⟨e', rfl⟩, hends⟩
  · rw [hends]
    exact hok a w'
  · rw [hends, herror]
    exact disposeAndFail_endsAt e

theorem checkRemaining_endsAt :
    (checkRemaining clock deadline).Post w (EndsAt (clock.slice deadline w.tick)) := by
  simp only [checkRemaining, Clock.read, Clock.slice, post_bind, post_act, andThen_ok]
  split
  · exact .inr ⟨⟨_, rfl⟩, rfl⟩
  · exact .inl ⟨(), rfl, rfl⟩

theorem checkCancelDeadline_endsAt :
    (checkCancelDeadline clock reason deadline).Post w (EndsAt (clock.slice deadline w.tick)) := by
  simp only [checkCancelDeadline, Clock.read, Clock.slice, post_bind, post_act, andThen_ok]
  split
  · exact disposeAndFail_endsAt _
  · exact .inl ⟨(), rfl, rfl⟩

/-- What ends well adds nothing to the read reached before. -/
theorem EndsAt.last {ends : Option ℕ} {x : Adapter α} {f : α → Adapter β}
    (hx : x.Post w (EndsAt ends)) (hf : ∀ a w', (f a).Post w' (EndsAt (some w'.tick))) :
    (x >>= f).Post w (EndsAt ends) := by
  have := EndsAt.bind (g := some) hx hf
  rwa [Option.bind_fun_some] at this

/-- What fails in the end has no end, wherever it fails. -/
theorem EndsAt.never {ends : Option ℕ} {x : Adapter α} {f : α → Adapter β}
    (hx : x.Post w (EndsAt ends)) (hf : ∀ a w', (f a).Post w' (EndsAt none)) :
    (x >>= f).Post w (EndsAt none) := by
  have := EndsAt.bind (g := fun _ => none) hx hf
  rwa [Option.bind_fun_none] at this

theorem pollFd_endsAt (poll : Poll) :
    (pollFd clock deadline poll).Post w (EndsAt (poll.ends clock deadline w.tick)) := by
  -- a poll that times out or is interrupted starts over
  induction poll generalizing w with
  | ready readable =>
    rw [pollFd, Poll.ends]
    exact EndsAt.last checkRemaining_endsAt fun _ _ => .inl ⟨readable, rfl, rfl⟩
  | hangup | failed =>
    rw [pollFd, Poll.ends]
    exact EndsAt.never checkRemaining_endsAt fun _ _ => .inr ⟨⟨_, rfl⟩, rfl⟩
  | timeout next ih =>
    rw [pollFd, Poll.ends]
    exact EndsAt.bind checkRemaining_endsAt fun _ _ => EndsAt.bind checkRemaining_endsAt fun _ _ => ih
  | eintr next ih =>
    rw [pollFd, Poll.ends]
    exact EndsAt.bind checkRemaining_endsAt fun _ _ => ih

theorem cancelLoop_endsAt (poll : CancelPoll) :
    (cancelLoop clock reason deadline poll).Post w (EndsAt (poll.ends clock deadline w.tick)) := by
  induction poll generalizing w with
  | ok =>
    rw [cancelLoop, CancelPoll.ends]
    exact EndsAt.last checkCancelDeadline_endsAt fun _ _ => .inl ⟨true, rfl, rfl⟩
  | failed =>
    rw [cancelLoop, CancelPoll.ends]
    exact EndsAt.last checkCancelDeadline_endsAt fun _ _ => .inl ⟨false, rfl, rfl⟩
  | waiting socket next ih =>
    cases socket with
    | none =>
      rw [cancelLoop, CancelPoll.ends]
      exact EndsAt.never checkCancelDeadline_endsAt fun _ _ => disposeAndFail_endsAt _
    | some socket =>
      rw [cancelLoop, CancelPoll.ends]
      exact EndsAt.bind checkCancelDeadline_endsAt fun _ _ =>
        EndsAt.attempt_bind (pollFd_endsAt socket) (fun _ _ => ih) fun _ => rfl
  | active next ih =>
    rw [cancelLoop, CancelPoll.ends]
    exact EndsAt.bind checkCancelDeadline_endsAt fun _ _ => ih

/-- The cancel request is made where there is a connection. -/
theorem dispatchCancel_endsAt (hsome : w.conn.isSome = true) :
    (dispatchCancel clock reason deadline).Post w
      (EndsAt ((w.cancels.headD .createFailed).ends clock deadline w.tick)) := by
  simp only [dispatchCancel, connected, post_bind, post_read, andThen_ok, hsome, if_true,
    pqCancelCreate, post_act]
  cases w.cancels.headD .createFailed with
  | createFailed | startFailed => exact disposeAndFail_endsAt _
  | started socket next => exact cancelLoop_endsAt _

end Ends

/-! ### The drain -/

section Drain

variable {clock : Clock} {deadline : ℕ} {c : PgConn} {s : Statement} {w : Wire}

/-- Waiting for the response to `s` fails on a trouble and on a wait that fails. -/
theorem awaitIdle_endsAt (hok : c.ok = true) (hconn : w.conn = some (c.carrying s)) (rounds : ℕ) :
    (awaitIdle clock deadline rounds).Post w (EndsAt (drainEnds clock deadline s.events w.tick)) := by
  induction rounds generalizing w s with
  | zero => trivial
  | succ rounds ih =>
    simp only [awaitIdle, connected, post_bind, post_read, andThen_ok, hconn, Option.isSome_some,
      if_true]
    -- a trouble fails the read; otherwise the next event decides
    refine (pqConsumeInput_post hok hconn).mono ?_
    intro r w₁ h
    rcases h with ⟨rfl, rfl, htrouble⟩ | ⟨usable, events, rfl, hevents, -, -⟩
    swap
    · rw [hevents]
      exact .inr ⟨⟨_, rfl⟩, rfl⟩
    simp only [andThen_ok, post_bind, post_require, true_imp_iff, Bool.true_eq_false,
      false_imp_iff, and_true, pqIsBusy, post_act]
    rw [Wire.events_carrying hconn]
    cases hevents : s.events with
    | nil => exact .inl ⟨true, rfl, rfl⟩
    | cons event events =>
      cases event with
      | result r => exact .inl ⟨true, rfl, rfl⟩
      | trouble usable => exact absurd hevents (htrouble usable events)
      -- the response is not there yet: the wait on the socket comes first
      | busy socket =>
        have hconn₁ : (w₁.logged (.isBusy true)).conn = some (c.carrying s) := hconn
        have hconn₂ := Wire.withStatement_carrying { s with events := events } hconn₁
        simp only [isBusy, andThen_ok, if_true, pqSocket, post_bind, post_act,
          Wire.statement_carrying hconn₁, hevents]
        cases socket with
        | none => exact .inr ⟨⟨_, rfl⟩, rfl⟩
        | some socket =>
          rw [drainEnds]
          refine ((pollFd_post clock deadline socket _).and (pollFd_endsAt socket)).bind ?_ ?_
          · intro readable w₃ h
            obtain ⟨⟨ht, -⟩, ⟨_, -, hends⟩ | ⟨⟨_, h⟩, -⟩⟩ := h
            · have hends : socket.ends clock deadline w₁.tick = some w₃.tick := hends
              rw [hends]
              exact ih (s := { s with events := events }) (ht.conn.trans hconn₂)
            · cases h
          · intro e w₃ h
            obtain ⟨-, ⟨_, h, -⟩ | ⟨-, hends⟩⟩ := h
            · cases h
            · have hends : socket.ends clock deadline w₁.tick = none := hends
              rw [hends]
              exact .inr ⟨⟨e, rfl⟩, rfl⟩

/-- Fetching up to the final NULL keeps the connection, whatever the results are. -/
theorem drainUntilIdle_conn (hok : c.ok = true) (hconn : w.conn = some (c.carrying s)) (rounds : ℕ) :
    (drainUntilIdle clock rounds deadline).Post w fun r w' => w'.conn.isSome = true ∧
      ((∃ u, r = .ok u) ↔ (drainEnds clock deadline s.events w.tick).isSome = true) := by
  rw [drainUntilIdle]
  refine ((awaitIdle_post hconn rounds).and (awaitIdle_endsAt hok hconn rounds)).bind ?_ ?_
  · intro present w₁ h
    obtain ⟨hidle, ⟨_, -, hends⟩ | ⟨⟨_, h⟩, -⟩⟩ := h
    · cases hidle with
      | ready waits rest polled arrives arrived conn calls =>
        -- once the first result is there, fetching cannot fail
        refine (fetchIdle_post conn rounds).mono fun r w' h => ?_
        obtain ⟨rfl, gets, completion, drained⟩ := h
        rw [drained.conn, hends]
        simp
    · cases h
  · intro e w₁ h
    obtain ⟨hidle, ⟨_, h, -⟩ | ⟨-, hends⟩⟩ := h
    · cases h
    · cases hidle with
      | failed e waits polled conn calls =>
        rw [hends]
        simpa using conn

/-- The connection is kept exactly when the request and the drain come to their end. -/
theorem cancelAndDrain_conn {reason : CancelReason} (hok : c.ok = true)
    (hconn : w.conn = some (c.carrying s)) (rounds : ℕ) :
    (cancelAndDrain clock rounds reason deadline).Post w fun _ w' => (w'.conn.isSome = true ↔
      (cancelDrainEnds clock deadline (w.cancels.headD .createFailed) s.events w.tick).isSome = true) := by
  have hsome : w.conn.isSome = true := by rw [hconn]; rfl
  rw [cancelAndDrain, cancelDrainEnds]
  refine ((dispatchCancel_post hsome).and (dispatchCancel_endsAt hsome)).bind ?_ ?_
  · intro dispatched w₁ h
    obtain ⟨hcancel, ⟨_, -, hends⟩ | ⟨⟨_, h⟩, -⟩⟩ := h
    · cases hcancel with
      | dispatched _ conn calls tick =>
        rw [hends, Option.bind_some]
        refine (drainUntilIdle_conn hok (conn.trans hconn) rounds).attempt_bind fun r w₂ h => ?_
        cases r with
        -- a drain that fails is followed by `PQfinish`
        | error e =>
          have hnone : ¬ (drainEnds clock deadline s.events w₁.tick).isSome = true :=
            h.2.not.mp (by simp)
          simpa [disposeAndFail, Wire.disposed] using hnone
        | ok u =>
          have hdrained := h.2.mp ⟨u, rfl⟩
          cases dispatched <;> simpa [hdrained] using h.1
    · cases h
  · intro e w₁ h
    obtain ⟨hcancel, ⟨_, h, -⟩ | ⟨-, hends⟩⟩ := h
    · cases h
    · cases hcancel with
      | disposed _ unknown disposed =>
        rw [hends, disposed.conn]
        simp

end Drain

/-! ### Before the send -/

/-- A poll of the control state that starts at read `tick`: what it finds, and the read after
it. -/
def PollControl.polled (ctl : PollControl) (deadline tick : ℕ) : Option CancelReason × ℕ :=
  if ctl.context.shutdown tick then (some .shutdown, tick + 1)
  else
    match ctl with
    | .libpq ctx =>
      if ctx.cancellation (tick + 1) then (some .cancelled, tick + 2)
      else if ctx.deadline ≤ ctx.clock.now (tick + 2) then (some .cancelled, tick + 3)
      else if deadline ≤ ctx.clock.now (tick + 3) then (some .deadline, tick + 4)
      else (none, tick + 4)
    | .noClientCancel ctx =>
      if deadline ≤ ctx.clock.now (tick + 1) then (some .deadline, tick + 2) else (none, tick + 2)

/-- What a poll finds is decided by the read it starts at. -/
theorem pollReason_eq {ε : Type} (ctl : PollControl) (deadline : ℕ) (w : Wire) :
    (pollReason ctl deadline : Program Wire ε _).Post w fun r w' =>
      r = .ok (ctl.polled deadline w.tick).1 ∧ w' = { w with tick := (ctl.polled deadline w.tick).2 } := by
  simp only [pollReason, PollControl.shutdownRequested, RequestContext.stopping, PollControl.polled,
    Clock.read, post_bind, post_act, andThen_ok]
  cases hs : ctl.context.shutdown w.tick with
  | true => simp
  | false =>
    cases ctl with
    | noClientCancel ctx =>
      simp only [Bool.false_eq_true, if_false, PollControl.cancelled, post_bind, post_pure, andThen_ok,
        post_act, PollControl.clock, PollControl.context]
      split <;> simp
    | libpq ctx =>
      simp only [Bool.false_eq_true, if_false, PollControl.cancelled, RequestContext.cancelled,
        RequestContext.expired, Clock.read, post_bind, post_act, andThen_ok, PollControl.clock,
        PollControl.context]
      cases hc : ctx.cancellation (w.tick + 1) with
      | true => simp
      | false =>
        simp only [Bool.false_eq_true, if_false, post_bind, post_act, andThen_ok, post_pure]
        by_cases hexpired : ctx.deadline ≤ ctx.clock.now (w.tick + 2)
        · simp [hexpired]
        · simp only [hexpired, decide_false, Bool.false_eq_true, if_false, post_bind, post_act, andThen_ok]
          split <;> simp_all

/-- A statement is only sent when the poll before it finds nothing. -/
theorem checkControl_polled (ctl : PollControl) (deadline : ℕ) (w : Wire) :
    (checkControl ctl deadline).Post w fun r w' => w' = { w with tick := (ctl.polled deadline w.tick).2 } ∧
      ((∃ u, r = .ok u) ↔ (ctl.polled deadline w.tick).1 = none) := by
  simp only [checkControl, post_bind]
  refine (pollReason_eq ctl deadline w).mono fun r w' h => ?_
  obtain ⟨rfl, rfl⟩ := h
  cases (ctl.polled deadline w.tick).1 <;> simp

end PgMcp
