import PgMcp.Libpq.Draining
import PgMcp.Libpq.Session

/-!
# How a call ends, by what it meets

A call of the adapter is driven by the reads of the control state and by the answers of libpq
and of the server.  These decide, before the call is made, how it will leave the connection;
what the collector makes of the results does not.  Each phase has a function that follows
them and a lemma that the phase does what the function says.

## Main definitions

* `flushEnd`, `awaitEnd`, `fetchEnd` — how the phases of a statement end.
* `CallEnd`, `Wire.callEnd` — how a call ends.
* `CallEnd.standing` — how it leaves the connection.

## Main results

* `sendChecked_standing`, `execute_standing` — a call leaves the connection as its end says.
-/

namespace PgMcp

open Program

/-! ### The phases -/

/-- The socket is readable when the wait on it ends. -/
def Poll.readable : Poll → Bool
  | .ready readable => readable
  | .hangup | .failed => false
  | .timeout next | .eintr next => next.readable

/-- How flushing a statement ends. -/
inductive FlushEnd where
  /-- Everything is sent; the next read is `tick`. -/
  | passed (tick : ℕ)
  /-- A control poll finds a reason. -/
  | interrupted
  /-- The socket or libpq fails; `usable` says whether `PQstatus` is still OK. -/
  | failed (usable : Bool)
  deriving DecidableEq, Repr

/-- Flushing, from the read `tick` on. -/
def flushEnd (ctl : PollControl) (deadline : ℕ) : List FlushStep → ℕ → FlushEnd
  | [], tick =>
    match ctl.polled deadline tick with
    | (some _, _) => .interrupted
    | (none, tick) => .passed tick
  | step :: steps, tick =>
    match ctl.polled deadline tick with
    | (some _, _) => .interrupted
    | (none, tick) =>
      match step with
      | .failed usable => .failed usable
      | .pending none _ => .failed true
      | .pending (some socket) trouble =>
        match socket.ends ctl.clock deadline tick with
        | none => .failed true
        | some tick =>
          match socket.readable, trouble with
          | true, some usable => .failed usable
          | _, _ => flushEnd ctl deadline steps tick

/-- How waiting for the first result ends. -/
inductive AwaitEnd where
  /-- The first result is there; `observed` says whether a control poll has found a reason. -/
  | ready (observed : Bool)
  /-- Reading fails; `usable` says whether `PQstatus` is still OK. -/
  | failed (usable : Bool)
  /-- A wait or the cancel request fails. -/
  | disposed
  deriving DecidableEq, Repr

/-- The control poll at the head of the wait: the deadline of the drain, once a reason has been
found, and the read after it; nothing when the cancel request fails. -/
def observeEnd (ctl : PollControl) (deadline : ℕ) (cancel : CancelScript) :
    Option ℕ → ℕ → Option (Option ℕ × ℕ)
  | some drain, tick => some (some drain, tick)
  | none, tick =>
    match ctl.polled deadline tick with
    | (none, tick) => some (none, tick)
    | (some _, tick) =>
      let drain := ctl.clock.now tick + ctl.context.cancelDrainGrace
      (cancel.ends ctl.clock drain (tick + 1)).map fun tick => (some drain, tick)

/-- Waiting for the first result, from the read `tick` on. -/
def awaitEnd (ctl : PollControl) (deadline : ℕ) (cancel : CancelScript) :
    List Event → Option ℕ → ℕ → AwaitEnd
  | [], drain, tick =>
    match observeEnd ctl deadline cancel drain tick with
    | none => .disposed
    | some (drain, _) => .ready drain.isSome
  | event :: events, drain, tick =>
    match observeEnd ctl deadline cancel drain tick with
    | none => .disposed
    | some (drain, tick) =>
      match event with
      | .result _ => .ready drain.isSome
      | .trouble usable => .failed usable
      | .busy none => .disposed
      | .busy (some socket) =>
        match socket.ends ctl.clock (drain.getD deadline) tick with
        | none => .disposed
        | some tick => awaitEnd ctl deadline cancel events drain tick

/-- How fetching a response ends. -/
inductive FetchEnd where
  /-- The server has completed the statement. -/
  | completed
  /-- A read fails; `usable` says whether `PQstatus` is still OK. -/
  | broken (usable : Bool)
  /-- A COPY result. -/
  | copied
  deriving DecidableEq, Repr

def fetchEnd : List Event → FetchEnd
  | [] => .completed
  | .busy _ :: events => fetchEnd events
  | .trouble usable :: _ => .broken usable
  | .result r :: events => if r.status.isCopy then .copied else fetchEnd events

/-! ### The call -/

/-- How a call ends. -/
inductive CallEnd where
  /-- Nothing is sent; `usable` says whether the refusal left `PQstatus` alone. -/
  | unsent (usable : Bool)
  /-- A control poll finds a reason while the statement is flushed. -/
  | interrupted
  /-- The socket or libpq fails before the first result. -/
  | failed (usable : Bool)
  /-- A wait or a cancel request fails, or a COPY result is fetched. -/
  | disposed
  /-- A read fails while the results are fetched. -/
  | broken (usable : Bool)
  /-- The response is fetched to the end, and the server reports the status `after`. -/
  | completed (after : XactStatus)
  deriving DecidableEq, Repr

/-- The end of a statement whose first result was waited for, where the server completes it with
the status `after`. -/
def FetchEnd.callEnd (after : XactStatus) : FetchEnd → CallEnd
  | .completed => .completed after
  | .broken usable => .broken usable
  | .copied => .disposed

/-- The end of a statement that was sent, from the read `tick` on. -/
def Answer.callEnd (ctl : PollControl) (deadline : ℕ) (cancel : CancelScript) (a : Answer)
    (tick : ℕ) : CallEnd :=
  match flushEnd ctl deadline a.flush tick with
  | .interrupted => .interrupted
  | .failed usable => .failed usable
  | .passed tick =>
    match awaitEnd ctl deadline cancel a.events none tick with
    | .disposed => .disposed
    | .failed usable => .failed usable
    | .ready _ => (fetchEnd a.events).callEnd a.after

/-- The end of a call made in `w` that does not ask for single-row mode. -/
def Wire.callEnd (ctl : PollControl) (deadline : ℕ) (w : Wire) : CallEnd :=
  match ctl.polled deadline w.tick with
  | (some _, _) => .unsent true
  | (none, tick) =>
    match w.standing, w.scripts with
    | .resting _, .accept a :: _ => a.callEnd ctl deadline (w.cancels.headD .createFailed) tick
    | .resting _, .refuse usable :: _ => .unsent usable
    | _, _ => .unsent true

/-- The standing after a call for `sql`. -/
def CallEnd.standing (sql : String) (before : Standing) : CallEnd → Standing
  | .unsent true => before
  | .unsent false | .disposed | .failed false | .broken false => .gone
  | .interrupted | .failed true =>
    match before with
    | .resting x => .waiting x sql
    | before => before
  | .broken true => before
  | .completed after =>
    match before with
    | .resting x => .resting (x.next sql after)
    | before => before

/-! ### The phases end as foreseen -/

section Phases

variable {ctl : PollControl} {clock : Clock} {deadline rounds : ℕ} {c : PgConn} {s : Statement} {w : Wire}

/-- The standing after a statement that was left in flight. -/
def Standing.left (x : Xact) (sql : String) (usable : Bool) : Standing :=
  if usable then .waiting x sql else .gone

theorem Wire.standing_left {v : Wire} {p : Statement} {usable : Bool} (hsql : p.sql = s.sql)
    (hconn : v.conn = some { c.carrying p with ok := usable }) :
    v.standing = .left c.xact s.sql usable := by
  cases usable <;> simp [Wire.standing, Standing.left, hconn, hsql]

/-- A wait that ends returns what the socket is ready for. -/
theorem pollFd_readable (poll : Poll) :
    (pollFd clock deadline poll).Post w fun r _ => ∀ b, r = .ok b → b = poll.readable := by
  have slice : ∀ {rest : Adapter Bool} {w : Wire} {b : Bool},
      (∀ w', rest.Post w' fun r _ => ∀ b', r = .ok b' → b' = b) →
      (do checkRemaining clock deadline; rest : Adapter Bool).Post w fun r _ => ∀ b', r = .ok b' → b' = b :=
    fun hrest => (checkRemaining_post clock deadline _).bind (fun _ w' _ => hrest w') (by simp)
  induction poll generalizing w with
  | ready readable =>
    rw [pollFd]
    exact slice fun _ => by simp [Poll.readable]
  | hangup | failed =>
    rw [pollFd]
    exact slice fun _ => by simp
  | timeout next ih =>
    rw [pollFd]
    exact slice fun _ => slice fun _ => ih
  | eintr next ih =>
    rw [pollFd]
    exact slice fun _ => ih

/-- How flushing leaves the connection. -/
def FlushEnd.Leaves (c : PgConn) (s : Statement) (w : Wire) (e : FlushEnd)
    (r : Except AdapterError Unit) (w' : Wire) : Prop :=
  match e with
  | .passed tick => r = .ok () ∧ w'.tick = tick ∧ w'.cancels = w.cancels ∧
      ∃ flush, w'.conn = some (c.carrying { s with flush := flush })
  | .interrupted => (∃ e, r = .error e) ∧ w'.standing = .left c.xact s.sql true
  | .failed usable => (∃ e, r = .error e) ∧ w'.standing = .left c.xact s.sql usable

theorem flushOutput_leaves (hok : c.ok = true) : ∀ {flush : List FlushStep} {w₁ : Wire},
    w₁.conn = some (c.carrying { s with flush := flush }) → w₁.cancels = w.cancels →
      (flushOutput ctl deadline rounds).Post w₁ ((flushEnd ctl deadline flush w₁.tick).Leaves c s w) := by
  induction rounds with
  | zero => intros; trivial
  | succ rounds ih =>
    intro flush w₁ hconn₁ hcancels₁
    rw [flushOutput]
    refine (pollReason_eq ctl deadline w₁).bind ?_ (fun e w' h => by cases h.1)
    intro found w₂ h
    obtain ⟨hfound, hw₂⟩ := h
    cases hfound
    have hconn₂ : w₂.conn = some (c.carrying { s with flush := flush }) := by rw [hw₂]; exact hconn₁
    have hcancels₂ : w₂.cancels = w.cancels := by rw [hw₂]; exact hcancels₁
    have htick₂ : w₂.tick = (ctl.polled deadline w₁.tick).2 := by rw [hw₂]
    -- a failure leaves the statement in flight
    have up : ∀ {flush : List FlushStep} {usable : Bool} {e : AdapterError} {w₃ : Wire},
        w₃.conn = some (c.carrying { s with flush := flush }) → (giveUp usable e : Adapter Unit).Post w₃
          ((FlushEnd.failed usable).Leaves c s w) := by
      intro flush usable e w₃ hconn₃
      refine (giveUp_post w₃ hconn₃).mono fun r w' h => ?_
      obtain ⟨rfl, hconn', -⟩ := h
      rw [PgConn.carrying_ok, hok, Bool.true_and] at hconn'
      exact ⟨⟨e, rfl⟩, Wire.standing_left (p := { s with flush := flush }) rfl hconn'⟩
    cases hpolled : ctl.polled deadline w₁.tick with
    | mk found tick =>
      rw [hpolled] at htick₂
      cases found with
      -- a control event ends the flush, and the statement stays in flight
      | some reason =>
        have hend : flushEnd ctl deadline flush w₁.tick = .interrupted := by
          cases flush <;> simp [flushEnd, hpolled]
        rw [hend]
        simp only [log, post_bind, post_update, andThen_ok, post_fail]
        refine ⟨⟨_, rfl⟩, Wire.standing_left (p := { s with flush := flush }) rfl (v := w₂.logged _) ?_⟩
        rw [← hok]
        exact hconn₂
      | none =>
        simp only [connected, post_bind, post_read, andThen_ok, post_require, hconn₂,
          Option.isSome_some, Bool.true_eq_false, false_imp_iff, and_true, true_imp_iff, pqFlush, post_act,
          Wire.statement_carrying hconn₂]
        cases flush with
        | nil =>
          rw [flushEnd, hpolled]
          exact ⟨rfl, htick₂, hcancels₂, [], hconn₂⟩
        | cons step steps =>
          have hconn₃ := Wire.withStatement_carrying { s with flush := steps } hconn₂
          simp only [flushEnd, hpolled]
          -- the socket is missing, or waited for; or the flush itself fails
          rcases step with ⟨_ | socket, trouble⟩ | usable
          · exact up hconn₃
          · dsimp only
            refine (((pollFd_post _ _ socket _).and (pollFd_endsAt socket)).and
              (pollFd_readable socket)).attempt_bind ?_
            intro r w₄ h
            obtain ⟨⟨⟨ht, -⟩, hends⟩, hreadable⟩ := h
            have hconn₄ := ht.conn.trans hconn₃
            have hstart : (w₂.withStatement { s with flush := steps }).tick = tick := htick₂
            rw [hstart] at hends
            rcases hends with ⟨readable, rfl, hends⟩ | ⟨⟨e, rfl⟩, hends⟩
            · rw [hends, ← hreadable readable rfl]
              dsimp only
              have hcancels₄ := ht.cancels.trans hcancels₂
              cases readable <;> rcases trouble with _ | usable
              · exact ih hconn₄ hcancels₄
              · exact ih hconn₄ hcancels₄
              · exact ih hconn₄ hcancels₄
              · exact up hconn₄
            · rw [hends]
              exact up hconn₄
          · exact up hconn₃

/-- What a wait has recorded, by the deadline of its drain. -/
structure Observed.Records (seen : Observed) (deadline : ℕ) (drain : Option ℕ) : Prop where
  error : seen.firstError.isSome = drain.isSome
  deadline : seen.drainDeadline = drain.getD deadline

/-- How the control poll at the head of the wait leaves the connection. -/
theorem observeControl_leaves {seen : Observed} {drain : Option ℕ} (hrecords : seen.Records deadline drain)
    (hsome : w.conn.isSome = true) :
    (observeControl ctl deadline seen).Post w fun r w' =>
      (∃ seen' drain', r = .ok seen' ∧ seen'.Records deadline drain' ∧ w'.conn = w.conn ∧
        (drain' = none → w'.cancels = w.cancels) ∧
        observeEnd ctl deadline (w.cancels.headD .createFailed) drain w.tick = some (drain', w'.tick)) ∨
      (∃ e, r = .error e) ∧ w'.conn = none ∧
        observeEnd ctl deadline (w.cancels.headD .createFailed) drain w.tick = none := by
  rw [observeControl]
  cases drain with
  -- the cancel request was made in an earlier round
  | some d =>
    obtain ⟨e, he⟩ := Option.isSome_iff_exists.mp hrecords.error
    rw [he]
    exact .inl ⟨seen, some d, rfl, hrecords, rfl, by simp, rfl⟩
  | none =>
    have hnone : seen.firstError = none := by simpa using hrecords.error
    rw [hnone]
    dsimp only
    refine (pollReason_eq ctl deadline w).bind ?_ (fun e w' h => by cases h.1)
    intro found w₁ h
    obtain ⟨hfound, hw₁⟩ := h
    cases hfound
    have htick : w₁.tick = (ctl.polled deadline w.tick).2 := by rw [hw₁]
    cases hpolled : ctl.polled deadline w.tick with
    | mk found tick =>
      rw [hpolled] at htick
      cases found with
      | none =>
        refine .inl ⟨seen, none, rfl, hrecords, by rw [hw₁], fun _ => by rw [hw₁], ?_⟩
        rw [observeEnd, hpolled, htick]
      | some reason =>
        simp only [log, Clock.read, post_bind, post_update, post_act, andThen_ok]
        rw [← post_bind]
        have hsome₁ :
            ({ w₁ with tick := tick + 1, calls := .observed reason :: w₁.calls } : Wire).conn.isSome =
              true := by
          rw [hw₁]
          exact hsome
        have hcancels : w₁.cancels = w.cancels := by rw [hw₁]
        simp only [observeEnd, hpolled, Wire.logged, htick]
        refine ((dispatchCancel_post hsome₁).and (dispatchCancel_endsAt hsome₁)).bind ?_ ?_
        · intro dispatched w₂ h
          obtain ⟨hcancel, ⟨_, -, hends⟩ | ⟨⟨_, h⟩, -⟩⟩ := h
          · cases hcancel with
            | dispatched _ conn calls tick' =>
              rw [hcancels] at hends
              refine .inl ⟨_, some _, rfl, ⟨rfl, rfl⟩, ?_, by simp, ?_⟩
              · rw [conn, hw₁]
              · rw [hends]
                rfl
          · cases h
        · intro e w₂ h
          obtain ⟨hcancel, ⟨_, h, -⟩ | ⟨-, hends⟩⟩ := h
          · cases h
          · cases hcancel with
            | disposed _ unknown disposed =>
              rw [hcancels] at hends
              refine .inr ⟨⟨e, rfl⟩, disposed.conn, ?_⟩
              rw [hends]
              rfl

/-- How waiting for the first result leaves the connection. -/
def AwaitEnd.Leaves (c : PgConn) (s : Statement) (events : List Event) (e : AwaitEnd)
    (r : Except AdapterError Observed) (w' : Wire) : Prop :=
  match e with
  | .ready _ => (∃ seen, r = .ok seen) ∧ ∃ rest, fetchEnd rest = fetchEnd events ∧
      w'.conn = some (c.carrying { s with events := rest })
  | .failed usable => (∃ e, r = .error e) ∧ w'.standing = .left c.xact s.sql usable
  | .disposed => (∃ e, r = .error e) ∧ w'.standing = .gone

theorem awaitResult_leaves (hok : c.ok = true) : ∀ {events : List Event} {seen : Observed} {drain : Option ℕ}
    {w₁ : Wire}, w₁.conn = some (c.carrying { s with events := events }) → seen.Records deadline drain →
      (drain = none → w₁.cancels = w.cancels) →
      (awaitResult ctl deadline rounds seen).Post w₁
        ((awaitEnd ctl deadline (w.cancels.headD .createFailed) events drain w₁.tick).Leaves c s events) := by
  induction rounds with
  | zero => intros; trivial
  | succ rounds ih =>
    intro events seen drain w₁ hconn₁ hrecords hcancels₁
    rw [awaitResult]
    have hsome₁ : w₁.conn.isSome = true := by rw [hconn₁]; rfl
    -- a cancel request is only made when none was made before
    have hobserve : observeEnd ctl deadline (w₁.cancels.headD .createFailed) drain w₁.tick =
        observeEnd ctl deadline (w.cancels.headD .createFailed) drain w₁.tick := by
      cases drain with
      | none => rw [hcancels₁ rfl]
      | some d => rfl
    refine (observeControl_leaves hrecords hsome₁).bind ?_ ?_
    swap
    · intro e w₂ h
      rcases h with ⟨_, _, h, -⟩ | ⟨-, hnone, hend⟩
      · cases h
      · rw [hobserve] at hend
        have hawait : awaitEnd ctl deadline (w.cancels.headD .createFailed) events drain w₁.tick =
          .disposed := by
          cases events <;> · rw [awaitEnd, hend]
        rw [hawait]
        exact ⟨⟨e, rfl⟩, Wire.standing_none hnone⟩
    intro seen₂ w₂ h
    rcases h with ⟨_, drain₂, h, hrecords₂, hconn₂, hcancels₂, hend⟩ | ⟨⟨_, h⟩, -⟩
    swap
    · cases h
    cases h
    rw [hobserve] at hend
    have hcancels : drain₂ = none → w₂.cancels = w.cancels := by
      intro hnone
      refine (hcancels₂ hnone).trans (hcancels₁ ?_)
      cases drain with
      | none => rfl
      | some d =>
        rw [observeEnd, hnone] at hend
        cases hend
    rw [hconn₁] at hconn₂
    simp only [connected, post_bind, post_read, andThen_ok, post_require, hconn₂,
      Option.isSome_some, Bool.true_eq_false, false_imp_iff, and_true, true_imp_iff]
    -- reading succeeds unless the next event is a trouble
    refine (pqConsumeInput_post (s := { s with events := events }) hok hconn₂).mono ?_
    intro r w₃ h
    rcases h with ⟨rfl, rfl, htrouble⟩ | ⟨usable, events', rfl, hevents, hcalls₃, hconn₃⟩
    · simp only [andThen_ok, if_true, pqIsBusy, post_bind, post_act]
      rw [Wire.events_carrying hconn₂]
      cases events with
      | nil =>
        rw [awaitEnd, hend]
        exact ⟨⟨_, rfl⟩, [], rfl, hconn₂⟩
      | cons event events =>
        cases event with
        | result r =>
          rw [awaitEnd, hend]
          exact ⟨⟨_, rfl⟩, _, rfl, hconn₂⟩
        | trouble usable => exact absurd rfl (htrouble usable events)
        | busy socket =>
          have hconn₄ : (w₃.logged (.isBusy true)).conn =
            some (c.carrying { s with events := .busy socket :: events }) := hconn₂
          have hconn₅ := Wire.withStatement_carrying { s with events := events } hconn₄
          have lost : ∀ {w₆ : Wire}, w₆.conn = some (c.carrying { s with events := events }) →
              (disposeAndFail seen₂.lost : Adapter Observed).Post w₆
                (AwaitEnd.disposed.Leaves c s (.busy socket :: events)) := by
            intro w₆ hconn₆
            exact ⟨⟨_, rfl⟩, Wire.standing_none rfl⟩
          simp only [isBusy, andThen_ok, if_true, pqSocket, post_bind, post_act,
            Wire.statement_carrying hconn₄]
          cases socket with
          | none =>
            rw [awaitEnd, hend]
            exact lost hconn₅
          | some socket =>
            rw [awaitEnd, hend]
            dsimp only
            rw [← hrecords₂.deadline]
            refine ((pollFd_post _ _ socket _).and (pollFd_endsAt socket)).attempt_bind ?_
            intro r w₆ h
            obtain ⟨⟨ht, -⟩, hends⟩ := h
            have hconn₆ := ht.conn.trans hconn₅
            have hstart : ((w₃.logged (.isBusy true)).withStatement
              { s with events := events }).tick = w₃.tick := rfl
            rw [hstart] at hends
            rcases hends with ⟨readable, rfl, hends⟩ | ⟨⟨e, rfl⟩, hends⟩
            · rw [hends]
              exact ih hconn₆ hrecords₂ fun hnone => ht.cancels.trans (hcancels hnone)
            · rw [hends]
              exact lost hconn₆
    · have hany : (w₃.conn.any fun x => x.ok) = usable := by rw [hconn₃]; rfl
      have hevents : events = .trouble usable :: events' := hevents
      simp only [andThen_ok, Bool.false_eq_true, if_false, setBusy, post_bind, post_update,
        post_read, hany]
      rw [hevents, awaitEnd, hend]
      refine (giveUp_post { w₃ with busy := false } hconn₃).mono fun r w' h => ?_
      obtain ⟨rfl, hconn', -⟩ := h
      refine ⟨⟨_, rfl⟩, Wire.standing_left (p := { s with events := events' }) rfl ?_⟩
      simpa using hconn'

/-- What is fetched next decides how fetching ends. -/
theorem fetchEnd_of_arrival (events : List Event) :
    (arrival events = .finished → fetchEnd events = .completed) ∧
      (∀ usable, arrival events = .trouble usable → fetchEnd events = .broken usable) ∧
      ∀ r rest, arrival events = .result r rest →
        fetchEnd events = if r.status.isCopy then .copied else fetchEnd rest := by
  induction events with
  | nil => simp [arrival, fetchEnd]
  | cons event events ih =>
    cases event with
    | busy socket => exact ih
    | trouble usable => simp [arrival, fetchEnd]
    | result r =>
      refine ⟨by simp [arrival], by simp [arrival], fun r' rest h => ?_⟩
      simp only [arrival, Arrival.result.injEq] at h
      rw [fetchEnd, h.1, h.2]

/-- After a read that failed only the final NULL is left to fetch. -/
theorem fetchResults_lost {collector : ResultCollector} {first : Option AdapterError}
    (hconn : w.conn = some (c.carrying s)) (hevents : s.events = []) (hlost : s.lost = true) :
    (fetchResults rounds collector first).Post w fun _ w' =>
      w'.standing = if c.ok then .resting c.xact else .gone := by
  cases rounds with
  | zero => trivial
  | succ rounds =>
    simp only [fetchResults, pqGetResult, post_bind, post_act, hconn, PgConn.carrying_inFlight,
      PgConn.fetch, hevents, arrival, hlost, if_true, andThen_ok, setBusy, post_update, post_ofExcept]
    cases hok : c.ok <;> simp [Wire.standing, Wire.logged, PgConn.carrying, hok]

/-- Collecting the results leaves the connection as the events say. -/
theorem fetchResults_standing (hok : c.ok = true) : ∀ {s : Statement} {collector : ResultCollector}
    {first : Option AdapterError} {w : Wire}, s.lost = false → w.conn = some (c.carrying s) →
      (fetchResults rounds collector first).Post w fun _ w' =>
        w'.standing = ((fetchEnd s.events).callEnd s.after).standing s.sql (.resting c.xact) := by
  induction rounds with
  | zero => intros; trivial
  | succ rounds ih =>
    intro s collector first w hlost hconn
    simp only [fetchResults, pqGetResult, post_bind, post_act, hconn, PgConn.carrying_inFlight, PgConn.fetch]
    obtain ⟨hfinished, htrouble, hresult⟩ := fetchEnd_of_arrival s.events
    cases harrival : arrival s.events with
    -- the final NULL: the server has completed the statement
    | finished =>
      rw [hfinished harrival]
      simp only [hlost, Bool.false_eq_true, if_false, andThen_ok, setBusy, post_bind, post_update,
        post_ofExcept]
      simp [Wire.standing, Wire.logged, PgConn.complete, PgConn.carrying, hok, FetchEnd.callEnd,
        CallEnd.standing]
    | trouble usable =>
      rw [htrouble usable harrival]
      simp only [andThen_ok]
      have hconsume := consumeResult_accepts (c := collector) (r := .readFailed) rfl
      have hstanding : ∀ {w' : Wire}, (w'.standing = if c.ok && usable then .resting c.xact else .gone) →
          w'.standing = ((FetchEnd.broken usable).callEnd s.after).standing s.sql (.resting c.xact) := by
        intro w' h
        rw [h, hok]
        cases usable <;> rfl
      rcases hc : consumeResult collector .readFailed with ⟨_ | _, collector'⟩
      · rename_i e
        rw [hc] at hconsume
        obtain ⟨-, hclass⟩ := hconsume.1 e rfl
        simp only [hclass, if_false]
        exact (fetchResults_lost (c := { c with ok := c.ok && usable })
          (s := { s with events := [], lost := true }) rfl rfl rfl).mono fun _ _ h => hstanding h
      · rw [hc] at hconsume
        exact absurd (hconsume.2 rfl).1 (by decide)
    | result r rest =>
      rw [hresult r rest harrival]
      simp only [andThen_ok]
      -- a COPY result disposes of the connection at once
      cases hcopy : r.status.isCopy with
      | true =>
        rw [consumeResult_copy hcopy]
        simp only [errorClass_new, if_true]
        exact Wire.standing_none rfl
      | false =>
        have hconsume := consumeResult_accepts (c := collector) hcopy
        simp only [Bool.false_eq_true, if_false]
        have hnext := @ih { s with events := rest, tag := if r.carriesTag then r.cmdStatus.getD "" else s.tag }
        rcases hc : consumeResult collector r with ⟨_ | _, collector'⟩
        · rename_i e
          rw [hc] at hconsume
          obtain ⟨-, hclass⟩ := hconsume.1 e rfl
          simp only [hclass, if_false]
          exact hnext hlost rfl
        · exact hnext hlost rfl

end Phases

/-! ### The call ends as foreseen -/

section Call

variable {ctl : PollControl} {deadline rounds : ℕ} {sql : String} {w : Wire}

/-- Collecting the response to a statement that was just sent. -/
theorem collectResults_standing {c : PgConn} {a : Answer} (hok : c.ok = true)
    (hconn : w.conn = some (c.carrying (a.statement sql))) (limits : QueryLimits) :
    (collectResults rounds limits deadline ctl).Post w fun _ w' =>
      w'.standing = (a.callEnd ctl deadline (w.cancels.headD .createFailed) w.tick).standing sql
        (.resting c.xact) := by
  have hleft : ∀ usable, Standing.left c.xact sql usable =
      (CallEnd.failed usable).standing sql (.resting c.xact) := by
    intro usable
    cases usable <;> rfl
  rw [collectResults, Answer.callEnd]
  -- the three phases, each from where the one before has ended
  refine (flushOutput_leaves (s := a.statement sql) hok hconn rfl).bind ?_ ?_
  swap
  · intro e w₁ h
    change (flushEnd ctl deadline a.flush w.tick).Leaves c _ w (.error e) w₁ at h
    cases hflush : flushEnd ctl deadline a.flush w.tick with
    | passed tick =>
      rw [hflush] at h
      cases h.1
    | interrupted =>
      rw [hflush] at h
      exact h.2
    | failed usable =>
      rw [hflush] at h
      exact h.2.trans (hleft usable)
  intro u w₁ h
  change (flushEnd ctl deadline a.flush w.tick).Leaves c _ w (.ok u) w₁ at h
  cases hflush : flushEnd ctl deadline a.flush w.tick with
  | interrupted | failed usable =>
    rw [hflush] at h
    obtain ⟨⟨_, h⟩, -⟩ := h
    cases h
  | passed tick =>
    rw [hflush] at h
    obtain ⟨-, rfl, hcancels, flush, hconn₁⟩ := h
    have hrecords : ({ firstError := none, drainDeadline := deadline } : Observed).Records deadline none :=
      ⟨rfl, rfl⟩
    refine (awaitResult_leaves (s := { a.statement sql with flush := flush }) (w := w) hok hconn₁ hrecords
      fun _ => hcancels).bind ?_ ?_
    · intro seen w₂ h
      dsimp only
      change (awaitEnd ctl deadline (w.cancels.headD .createFailed) a.events none w₁.tick).Leaves
        c _ _ _ w₂ at h
      cases hawait : awaitEnd ctl deadline (w.cancels.headD .createFailed) a.events none w₁.tick with
      | disposed | failed usable =>
        rw [hawait] at h
        obtain ⟨⟨_, h⟩, -⟩ := h
        cases h
      | ready observed =>
        rw [hawait] at h
        obtain ⟨-, rest, hrest, hconn₂⟩ := h
        refine Post.mono (fetchResults_standing hok
          (s := { a.statement sql with flush := flush, events := rest }) rfl hconn₂) fun r w' h => ?_
        have hrest : fetchEnd rest = fetchEnd a.events := hrest
        rw [h]
        show ((fetchEnd rest).callEnd a.after).standing sql _ = _
        rw [hrest]
    · intro e w₂ h
      dsimp only
      change (awaitEnd ctl deadline (w.cancels.headD .createFailed) a.events none w₁.tick).Leaves
        c _ _ _ w₂ at h
      cases hawait : awaitEnd ctl deadline (w.cancels.headD .createFailed) a.events none w₁.tick with
      | ready observed =>
        rw [hawait] at h
        obtain ⟨⟨_, h⟩, -⟩ := h
        cases h
      | disposed =>
        rw [hawait] at h
        exact h.2
      | failed usable =>
        rw [hawait] at h
        exact h.2.trans (hleft usable)

/-- A call that does not ask for single-row mode leaves the connection as its end says. -/
theorem sendChecked_standing (limits : QueryLimits) :
    (sendChecked rounds sql limits false deadline ctl).Post w fun _ w' =>
      w'.standing = (w.callEnd ctl deadline).standing sql w.standing := by
  rw [sendChecked]
  refine (checkControl_polled ctl deadline w).bind ?_ ?_
  swap
  · intro e w₁ h
    obtain ⟨hw₁, hpolled⟩ := h
    have hend : w.callEnd ctl deadline = .unsent true := by
      unfold Wire.callEnd
      cases hp : ctl.polled deadline w.tick with
      | mk found tick =>
        cases found with
        | none =>
          obtain ⟨_, h⟩ := hpolled.mpr (by rw [hp])
          cases h
        | some reason => rfl
    rw [hend, hw₁]
    rfl
  intro u w₁ h
  obtain ⟨hw₁, hpolled⟩ := h
  have hfree := hpolled.mp ⟨u, rfl⟩
  have hstanding₁ : w₁.standing = w.standing := by rw [hw₁]; rfl
  have hend : w.callEnd ctl deadline = match w₁.standing, w₁.scripts with
      | .resting _, .accept a :: _ => a.callEnd ctl deadline (w₁.cancels.headD .createFailed) w₁.tick
      | .resting _, .refuse usable :: _ => .unsent usable
      | _, _ => .unsent true := by
    unfold Wire.callEnd
    cases hp : ctl.polled deadline w.tick with
    | mk found tick =>
      rw [hp] at hfree hw₁
      cases hfree
      rw [hw₁]
      rfl
  rw [hend, ← hstanding₁]
  clear hend hstanding₁ hfree hpolled hw₁
  simp only [connected, post_bind, post_read, andThen_ok, post_require]
  cases hc : w₁.conn with
  | none =>
    rw [Wire.standing_none hc]
    simp only [Option.isSome_none, Bool.false_eq_true, false_imp_iff, true_and, true_imp_iff, andThen_error]
    rw [Wire.standing_none hc]
    rfl
  | some c =>
    simp only [Option.isSome_some, true_imp_iff, Bool.true_eq_false, false_imp_iff, and_true,
      pqSendQueryParams, post_act, hc]
    -- libpq takes nothing on a bad connection and nothing while a statement is in flight
    cases hrefused : !c.ok || c.inFlight.isSome with
    | true =>
      have hresting : ∀ x, w₁.standing ≠ .resting x := by
        intro x hx
        rw [Wire.standing, hc] at hx
        unfold PgConn.inFlight at hrefused
        cases hok : c.ok <;> cases hact : c.activity <;> simp_all
      have hend : (match w₁.standing, w₁.scripts with
          | .resting _, .accept a :: _ => a.callEnd ctl deadline (w₁.cancels.headD .createFailed) w₁.tick
          | .resting _, .refuse usable :: _ => .unsent usable
          | _, _ => .unsent true) = CallEnd.unsent true := by
        split
        · rename_i x _ _ hx _
          exact absurd hx (hresting x)
        · rename_i x _ _ hx _
          exact absurd hx (hresting x)
        · rfl
      rw [hend]
      rfl
    | false =>
      obtain ⟨hok, hfree⟩ : c.ok = true ∧ c.inFlight = none := by
        simpa [Bool.or_eq_false_iff] using hrefused
      rw [Wire.standing_free hc hok hfree]
      cases hscripts : w₁.scripts with
      | nil => exact Wire.standing_free hc hok hfree
      | cons script scripts =>
        cases script with
        | refuse usable =>
          simp only [Bool.false_eq_true, if_false, andThen_ok, post_bind, post_require,
            false_imp_iff, true_and, true_imp_iff, andThen_error]
          cases usable with
          | true => exact Wire.standing_free (c := { c with ok := true }) rfl rfl hfree
          | false => exact Wire.standing_bad rfl rfl
        | accept a =>
          simp only [Bool.false_eq_true, if_false, andThen_ok, post_bind, post_require,
            true_imp_iff, and_true,
            setBusy, post_update, pqSetSingleRowMode, Bool.not_false, Bool.true_or, if_true, post_act,
            Bool.true_eq_false, false_imp_iff]
          rw [post_attempt]
          refine Post.mono (collectResults_standing (c := c) (a := a) hok rfl limits) fun r w₂ h => ?_
          simp only [post_bind, post_update, andThen_ok, post_ofExcept]
          exact h

/-- `execute` leaves the connection as the end of its call says. -/
theorem execute_standing (hnul : hasNul sql = false) :
    (Connection.execute rounds sql deadline ctl).Post w fun _ w' =>
      w'.standing = (w.callEnd ctl deadline).standing sql w.standing := by
  rw [Connection.execute, sendAndCollect]
  refine leaving_post ?_
  have hvalid : validateParameters [] (.unbounded sql.utf8ByteSize) = .ok () := rfl
  simp only [hnul, hvalid, post_bind, post_require, post_ofExcept, andThen_ok, Bool.not_false, true_imp_iff,
    Bool.true_eq_false, false_imp_iff, and_true, List.length_nil, Nat.zero_le, decide_true]
  exact sendChecked_standing _

end Call

end PgMcp
