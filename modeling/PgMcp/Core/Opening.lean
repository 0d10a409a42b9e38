import PgMcp.Libpq.Startup
import PgMcp.Core.Server
import PgMcp.Backend.Truthful

/-!
# Opening a connection

`LibpqFactory::connect`: what an open makes of a connection string.  A connection that comes out of
it is what the worker of a handle starts with: usable, idle, and to the database that the string
names, which is the one the handle is published with.

## Main definitions

* `LibpqFactory.connect` — parse the string, connect, and wrap the connection.

## Main results

* `LibpqFactory.connect_opens` — what is true of a connection that was opened.
* `LibpqFactory.connect_settles` — an attempt leaves one connection or none.
* `LibpqFactory.connect_truthful` — an attempt that is interrupted says what has interrupted it.
-/

namespace PgMcp

open Program

/-- `FactoryControl` answers as `LibpqControl` does. -/
def PollControl.factory (ctx : RequestContext) : PollControl := .libpq ctx

/-! ### The reads of an attempt -/

/-- What the error of a control event says about the reads from `start` on and before the `n`-th. -/
def CancelReason.TruthfulSince (ctx : RequestContext) (start : ℕ) : CancelReason → ℕ → Prop
  | .shutdown, n => ∃ m, start ≤ m ∧ m < n ∧ ctx.shutdown m = true
  | .cancelled, n => ∃ m, start ≤ m ∧ m + 1 < n ∧ ctx.shutdown m = false ∧
      (ctx.cancellation (m + 1) = true ∨ m + 2 < n ∧ ctx.deadline ≤ ctx.clock.now (m + 2))
  | .deadline, n => ∃ m, start ≤ m ∧ m < n ∧ ctx.deadline ≤ ctx.clock.now m

section Since

variable {ctx : RequestContext} {reason : CancelReason} {start n : ℕ}

theorem polled_libpq (deadline : ℕ) : (PollControl.libpq ctx).polled deadline start =
    if ctx.shutdown start then (some .shutdown, start + 1)
    else if ctx.cancellation (start + 1) then (some .cancelled, start + 2)
    else if ctx.deadline ≤ ctx.clock.now (start + 2) then (some .cancelled, start + 3)
    else if deadline ≤ ctx.clock.now (start + 3) then (some .deadline, start + 4)
    else (none, start + 4) := rfl

/-- A poll that finds a reason has just read it. -/
theorem CancelReason.truthfulSince_of_polled
    (h : ((PollControl.libpq ctx).polled ctx.deadline start).1 = some reason) :
    reason.TruthfulSince ctx start ((PollControl.libpq ctx).polled ctx.deadline start).2 := by
  rw [polled_libpq] at h ⊢
  by_cases hs : ctx.shutdown start = true
  · rw [if_pos hs] at h ⊢
    cases h
    exact ⟨start, le_rfl, Nat.lt_succ_self _, hs⟩
  rw [if_neg hs] at h ⊢
  by_cases hc : ctx.cancellation (start + 1) = true
  · rw [if_pos hc] at h ⊢
    cases h
    exact ⟨start, le_rfl, Nat.lt_succ_self _, by simpa using hs, .inl hc⟩
  rw [if_neg hc] at h ⊢
  by_cases hd : ctx.deadline ≤ ctx.clock.now (start + 2)
  · rw [if_pos hd] at h ⊢
    cases h
    exact ⟨start, le_rfl, by simp, by simpa using hs, .inr ⟨Nat.lt_succ_self _, hd⟩⟩
  rw [if_neg hd] at h ⊢
  -- the factory looks at its own deadline once more
  by_cases hd' : ctx.deadline ≤ ctx.clock.now (start + 3)
  · rw [if_pos hd'] at h ⊢
    cases h
    exact ⟨start + 3, by omega, Nat.lt_succ_self _, hd'⟩
  · rw [if_neg hd'] at h
    cases h

/-- What was read before a poll that finds nothing cannot have been a reason. -/
theorem CancelReason.Truthful.since (h : reason.Truthful ctx true n)
    (hpolled : ((PollControl.libpq ctx).polled ctx.deadline start).1 = none) :
    reason.TruthfulSince ctx start n := by
  rw [polled_libpq] at hpolled
  split_ifs at hpolled with hs hc hd
  -- the flags only go up, so a read that found one up comes after the poll
  cases reason with
  | shutdown =>
    obtain ⟨m, hm, hraised⟩ := h
    refine ⟨m, ?_, hm, hraised⟩
    by_contra hlt
    exact hs (ctx.shutdown_of_le (by omega) hraised)
  | deadline =>
    obtain ⟨m, hm, hraised⟩ := h
    refine ⟨m, ?_, hm, hraised⟩
    by_contra hlt
    exact hd (ctx.clock.le_now (by omega) hraised)
  | cancelled =>
    obtain ⟨m, hm, hcalm, htoken | ⟨-, hm', hdeadline⟩⟩ := h
    · refine ⟨m, ?_, hm, hcalm, .inl htoken⟩
      by_contra hlt
      exact hc (ctx.cancellation_of_le (by omega) htoken)
    · refine ⟨m, ?_, hm, hcalm, .inr ⟨hm', hdeadline⟩⟩
      by_contra hlt
      exact hd (ctx.clock.le_now (by omega) hdeadline)

end Since

/-! ### Interruptions -/

section Truthful

variable (ctl : PollControl) {s : Startup}

/-- The number of reads an attempt has made. -/
def Startup.tick (s : Startup) : ℕ := s.wire.tick

theorem onWire_timely {α : Type} {V : AdapterError → ℕ → Prop} {P : α → ℕ → Prop} {x : Adapter α}
    (hx : x.Timely Wire.tick V P s.wire) : (onWire x).Timely Startup.tick V P s :=
  Timely.zoom rfl (fun _ => rfl) hx

/-- On a silent socket only the deadline is ever read. -/
theorem pollSilent_truthful (rounds : ℕ) {w : Wire} :
    (pollSilent ctl.clock ctl.context.deadline rounds).Timely Wire.tick (AdapterError.Truthful ctl)
      (fun _ _ => True) w := by
  induction rounds generalizing w with
  | zero => exact .outOfRounds
  | succ rounds ih =>
    apply (checkRemaining_timely truthful_of_expired).bind
    intro _ w₁ _ _
    exact (checkRemaining_timely truthful_of_expired).bind fun _ _ _ _ => ih

theorem waitConnection_truthful (rounds : ℕ) (socket : Option Wait) :
    (waitConnection ctl.clock ctl.context.deadline rounds socket).Timely Startup.tick
      (AdapterError.Truthful ctl) (fun _ _ => True) s := by
  rcases socket with _ | reports | _
  · exact .fail (AdapterError.truthful_of_calm rfl)
  · exact (onWire_timely (pollFd_truthful reports)).bind fun _ _ _ _ => .pure trivial
  · exact onWire_timely (pollSilent_truthful ctl rounds)

theorem checkedPoll_truthful (made : Bool) :
    (checkedPoll ctl ctl.context.deadline made).Timely Startup.tick (AdapterError.Truthful ctl)
      (fun _ _ => True) s := by
  apply (onWire_timely checkControl_truthful).bind
  intro _ s₁ _ _
  apply Timely.bind (P := fun _ _ => True) (.update (by cases made <;> exact le_rfl) trivial)
  intro _ s₂ _ _
  exact onWire_timely checkControl_truthful

theorem pollConnection_truthful (polls : ConnectPolls) (rounds n : ℕ) :
    (pollConnection ctl ctl.context.deadline polls rounds n).Timely Startup.tick (AdapterError.Truthful ctl)
      (fun _ _ => True) s := by
  induction rounds generalizing n s with
  | zero => exact .outOfRounds
  | succ rounds ih =>
    unfold pollConnection
    cases polls n with
    | ok => exact checkedPoll_truthful ctl true
    | failed =>
      exact (checkedPoll_truthful ctl false).bind fun _ _ _ _ => .fail (AdapterError.truthful_of_calm rfl)
    | active => exact (checkedPoll_truthful ctl false).bind fun _ _ _ _ => ih _
    | reading socket | writing socket =>
      apply (checkedPoll_truthful ctl false).bind
      intro _ s₁ _ _
      exact (waitConnection_truthful ctl rounds socket).bind fun _ _ _ _ => ih _

/-- The checks of the connection fail for what the server is. -/
theorem checkEndpoint_truthful (dsn : Dsn) :
    (checkEndpoint dsn).Timely Startup.tick (AdapterError.Truthful ctl) (fun _ _ => True) s := by
  have check : ∀ {b : Bool} {e : AdapterError} {s : Startup}, e.errorClass.interrupts = false →
      (Program.require b e : Opener Unit).Timely Startup.tick (AdapterError.Truthful ctl)
        (fun _ _ => True) s :=
    fun h => .require (fun _ => trivial) fun _ => AdapterError.truthful_of_calm h
  apply Timely.bind (P := fun _ _ => True) (.read trivial)
  intro usable s₁ _ _
  apply (check rfl).bind
  intro _ s₂ _ _
  apply Timely.bind (P := fun _ _ => True) (.read trivial)
  intro idle s₃ _ _
  apply (check rfl).bind
  intro _ s₄ _ _
  apply Timely.bind (P := fun _ _ => True) (.read trivial)
  intro database s₅ _ _
  cases database with
  | none => exact .fail (AdapterError.truthful_of_calm rfl)
  | some actual =>
    apply (check rfl).bind
    intro _ s₆ _ _
    exact Timely.bind (P := fun _ _ => True) (.read trivial) fun _ _ _ _ => check rfl

theorem setupUtf8_truthful (rounds : ℕ) :
    (setupUtf8 rounds ctl.context.deadline ctl).Timely Startup.tick (AdapterError.Truthful ctl)
      (fun _ _ => True) s := by
  apply (onWire_timely (execute_truthful ctl rounds setEncodingSql)).bind
  intro result s₁ _ _
  -- what follows the statement only looks at its answer
  apply Timely.bind (P := fun _ _ => True)
  · exact .require (fun _ => trivial) fun _ => AdapterError.truthful_of_calm rfl
  · intro _ s₂ _ _
    apply Timely.bind (P := fun _ _ => True) (.read trivial)
    intro encoding s₃ _ _
    exact .require (fun _ => trivial) fun _ => AdapterError.truthful_of_calm rfl

theorem establish_truthful (rounds : ℕ) (dsn : Dsn) (polls : ConnectPolls) :
    (establish rounds dsn ctl.context.deadline ctl polls).Timely Startup.tick (AdapterError.Truthful ctl)
      (fun _ _ => True) s := by
  apply Timely.bind (P := fun _ _ => True) (.update le_rfl trivial)
  intro _ s₁ _ _
  apply (pollConnection_truthful ctl polls rounds 0).bind
  intro _ s₂ _ _
  apply (onWire_timely checkControl_truthful).bind
  intro _ s₃ _ _
  apply Timely.bind (P := fun _ _ => True)
  · apply Timely.bind (P := fun _ _ => True) (.act le_rfl trivial)
    exact fun _ _ _ _ => .require (fun _ => trivial) fun _ => AdapterError.truthful_of_calm rfl
  intro _ s₄ _ _
  apply (setupUtf8_truthful ctl rounds).bind
  intro _ s₅ _ _
  apply (onWire_timely checkControl_truthful).bind
  intro _ s₆ _ _
  exact checkEndpoint_truthful ctl dsn

theorem connection_connect_truthful (rounds : ℕ) (dsn : Dsn) :
    (Connection.connect rounds dsn ctl.context.deadline ctl).Timely Startup.tick (AdapterError.Truthful ctl)
      (fun _ _ => True) s := by
  apply (onWire_timely checkControl_truthful).bind
  intro _ s₁ _ _
  apply Timely.bind (P := fun _ _ => True)
  · refine .act ?_ trivial
    split <;> exact le_rfl
  intro polls s₂ _ _
  cases polls with
  | none => exact .fail (AdapterError.truthful_of_calm rfl)
  | some polls =>
    apply (establish_truthful ctl rounds dsn polls).attempt_bind
    intro r s₃ _ hr
    cases r with
    | ok u => exact .pure trivial
    -- `PQfinish` reads nothing, so the error stays true
    | error e =>
      apply Timely.bind (P := fun _ n => n = s₃.tick) (.update le_rfl rfl)
      intro _ s₄ _ hn
      exact .fail (hn ▸ hr)

end Truthful

namespace LibpqFactory

/-- The code of a connection string that is refused. -/
def dsnCode : ErrorClass → ErrorCode
  | .unsupportedServer => .unsupportedServer
  | _ => .configError

/-- The code of an attempt that has failed. -/
def connectCode : ErrorClass → ErrorCode
  | .unsupportedServer => .unsupportedServer
  | .config => .configError
  | .databaseMismatch => .databaseMismatch
  | .connectionLost => .connectionLost
  | .cancelled => .cancelled
  | .deadlineExceeded => .deadlineExceeded
  | .serverStopping => .serverStopping
  | _ => .databaseError

/-- The failure of an attempt, before there is anything to observe. -/
def failure (code : ErrorClass → ErrorCode) (outcomeUnknown : Bool) (e : AdapterError) : BackendFailure where
  error := coreError (code e.errorClass)
  observation := .none
  sqlstate := e.sqlstate
  outcomeUnknown := outcomeUnknown

def connect (conninfo : ConninfoParse) (rounds : ℕ) (dsn : String) (ctx : RequestContext) :
    Program Startup BackendFailure (LibpqBackend × String) :=
  match Dsn.parse conninfo dsn with
  | .error e => .fail (failure dsnCode false e)
  | .ok parsed => do
    (Connection.connect rounds parsed ctx.deadline (.factory ctx)).mapError fun e _ =>
      failure connectCode e.outcomeUnknown e
    let wire ← .read Startup.wire
    return ({ present := true, wire }, parsed.database)

/-- An attempt that has not begun. -/
structure Untouched (s : Startup) : Prop where
  conn : s.wire.conn = none
  sent : s.wire.calls = []
  calls : s.calls = []

section Connect

variable {conninfo : ConninfoParse} {rounds : ℕ} {dsn : String} {ctx : RequestContext} {s s' : Startup}

/-- A string that is refused, an attempt that fails, or a connection. -/
theorem returns_connect {r : Except BackendFailure (LibpqBackend × String)}
    (h : (connect conninfo rounds dsn ctx).Returns s r s') :
    (s' = s ∧ (∃ f, r = .error f) ∧ ∃ e, Dsn.parse conninfo dsn = .error e) ∨
      ∃ parsed, Dsn.parse conninfo dsn = .ok parsed ∧
        ((∃ e, r = .error (failure connectCode e.outcomeUnknown e) ∧
            (Connection.connect rounds parsed ctx.deadline (.factory ctx)).Returns s (.error e) s') ∨
          ∃ u, r = .ok ({ present := true, wire := s'.wire }, parsed.database) ∧
            (Connection.connect rounds parsed ctx.deadline (.factory ctx)).Returns s (.ok u) s') := by
  unfold connect at h
  cases hparse : Dsn.parse conninfo dsn with
  | error e =>
    rw [hparse] at h
    cases r with
    | ok a => exact absurd h returns_ok_fail
    | error f =>
      cases h
      exact .inl ⟨rfl, ⟨_, rfl⟩, e, rfl⟩
  | ok parsed =>
    rw [hparse] at h
    refine .inr ⟨parsed, rfl, ?_⟩
    -- only the class of the error is changed on the way out
    rcases returns_bind_iff.mp h with ⟨u, s₁, hconnect, hrest⟩ | ⟨f, hconnect, rfl⟩
    · obtain ⟨r', hr', hreturns⟩ := returns_mapError_iff.mp hconnect
      cases r' with
      | error e => cases hr'
      | ok u' =>
        cases r with
        | error f => cases hrest
        | ok a =>
          cases hrest
          exact .inr ⟨u', rfl, hreturns⟩
    · obtain ⟨r', hr', hreturns⟩ := returns_mapError_iff.mp hconnect
      cases r' with
      | ok u' => cases hr'
      | error e =>
        cases hr'
        exact .inl ⟨e, rfl, hreturns⟩

/-- What an open has when its string was accepted and its connection made. -/
theorem connect_opens {backend : LibpqBackend} {database : String}
    (h : (connect conninfo rounds dsn ctx).Returns s (.ok (backend, database)) s') (hs : Untouched s) :
    (∃ options, conninfo dsn = some options ∧ (∃ o ∈ options, Dsn.Names o database) ∧
        ∀ o ∈ options, ¬ Dsn.NamesService o) ∧
      s.endpoint.database = some database ∧ serverVersionMinimum ≤ s.endpoint.version ∧
      s.endpoint.encoding = some "UTF8" ∧
      (∃ xact blocked commits after mid, (∀ call ∈ mid, call.smooth = true) ∧
        backend.wire.calls = .leave :: .getResult blocked (.null (some ⟨"SET", commits, after⟩)) :: mid ++
          [.send setEncodingSql xact]) ∧
      (∃ polls, (∀ call ∈ polls, call = .poll) ∧
        s'.calls = .setNonblocking :: polls ++ [.setNoticeProcessor, .start true]) ∧
      OpenCall.usable backend.observation = true ∧
      ∀ c : OpenCall, Worker.Fresh { published := c.snapshot database backend, backend } := by
  rcases returns_connect h with ⟨-, ⟨f, hf⟩, -⟩ | ⟨parsed, hparse, ⟨e, hf, -⟩ | ⟨u, hok, hconnect⟩⟩
  · cases hf
  · cases hf
  · cases hok
    obtain ⟨-, -, -, hoptions⟩ := Dsn.parse_ok hparse
    obtain ⟨-, -, hconnected, -⟩ :=
      (Connection.connect_post rounds parsed ctx.deadline _ hs.conn).returns hconnect
    have hconnected := hconnected u rfl
    obtain ⟨trailing, hconn⟩ := hconnected.conn
    -- a connection that was made is at rest
    have hstatus : s'.wire.connectionStatus = .ok ∧ s'.wire.transactionStatus = .idle := by
      unfold Wire.connectionStatus Wire.transactionStatus
      rw [hconn]
      exact ⟨rfl, rfl⟩
    have hsent := hconnected.sent
    have hcalls := hconnected.calls
    rw [hs.sent] at hsent
    rw [hs.calls] at hcalls
    refine ⟨hoptions, hconnected.database, hconnected.version, hconnected.encoding, hsent, hcalls,
      ?_, fun c => ?_⟩
    · unfold OpenCall.usable LibpqBackend.observation Wire.observation
      rw [if_pos rfl, hstatus.1, hstatus.2]
      rfl
    · exact ⟨rfl, hstatus.1, hstatus.2, rfl, rfl, rfl, rfl⟩

/-- The native connection an attempt has started, if it came so far, is the one it returns, or is
finished; and nothing is finished twice. -/
theorem connect_settles {r : Except BackendFailure (LibpqBackend × String)}
    (h : (connect conninfo rounds dsn ctx).Returns s r s') (hs : Untouched s) :
    s'.wire.calls.count .finish + s'.wire.conn.isSome.toNat = s'.calls.count (.start true) ∧
      s'.calls.count (.start true) ≤ 1 ∧
      (∀ backend database, r = .ok (backend, database) → backend.wire = s'.wire ∧
        s'.wire.conn.isSome = true) ∧
      ∀ f, r = .error f → s'.wire.conn = none := by
  have hbefore : s.wire.owned = 0 ∧ s.calls.count (.start true) = 0 := by
    rw [Wire.owned, hs.conn, hs.sent, hs.calls]
    exact ⟨rfl, rfl⟩
  rcases returns_connect h with ⟨rfl, ⟨f, rfl⟩, -⟩ | ⟨parsed, -, ⟨e, rfl, hconnect⟩ | ⟨u, rfl, hconnect⟩⟩
  · refine ⟨hbefore.1.trans hbefore.2.symm, by omega, fun _ _ hr => ?_, fun _ _ => hs.conn⟩
    cases hr
  -- a failed attempt has finished what it had started
  · obtain ⟨howned, hmost, -, hnone⟩ :=
      (Connection.connect_post rounds parsed ctx.deadline _ hs.conn).returns hconnect
    rw [hbefore.1, hbefore.2, Nat.zero_add, Nat.add_zero] at howned
    refine ⟨howned, by omega, fun _ _ hr => ?_, fun _ _ => hnone e rfl⟩
    cases hr
  · obtain ⟨howned, hmost, hconnected, -⟩ :=
      (Connection.connect_post rounds parsed ctx.deadline _ hs.conn).returns hconnect
    rw [hbefore.1, hbefore.2, Nat.zero_add, Nat.add_zero] at howned
    obtain ⟨trailing, hconn⟩ := (hconnected u rfl).conn
    refine ⟨howned, by omega, fun backend database hr => ?_, fun f hr => ?_⟩
    · cases hr
      exact ⟨rfl, by rw [hconn]; rfl⟩
    · cases hr

/-! ### What has interrupted an attempt -/

/-- The code keeps the class of a control event, and makes none of another class. -/
theorem connectCode_truthful {e : AdapterError} {n : ℕ} (h : e.Truthful (.factory ctx) n) :
    (connectCode e.errorClass).Truthful ctx true n := by
  intro reason hreason
  apply h reason
  cases hclass : e.errorClass <;> rw [hclass] at hreason <;> cases reason <;> first | rfl | cases hreason

/-- The code of a string that is refused is not that of a control event. -/
theorem dsnCode_calm (c : ErrorClass) : (dsnCode c).interrupts = false := by
  cases c <;> rfl

/-- The first look at the control state finds a reason, which is the one that is returned; or it finds
none, and the attempt is one that has begun before any of the flags was up. -/
theorem checked_of_connect {dsn : Dsn} {e : AdapterError}
    (h : (Connection.connect rounds dsn ctx.deadline (.factory ctx)).Returns s (.error e) s') :
    (∃ reason, ((PollControl.libpq ctx).polled ctx.deadline s.wire.tick).1 = some reason ∧
        e = reason.error ∧ s'.tick = ((PollControl.libpq ctx).polled ctx.deadline s.wire.tick).2) ∨
      ((PollControl.libpq ctx).polled ctx.deadline s.wire.tick).1 = none := by
  cases hpolled : ((PollControl.libpq ctx).polled ctx.deadline s.wire.tick).1 with
  | none => exact .inr rfl
  | some reason =>
    refine .inl ⟨reason, rfl, ?_⟩
    -- the poll at the head of the attempt, before anything is started
    have hfirst : (onWire (checkControl (.factory ctx) ctx.deadline)).Post s fun r s' =>
        r = .error reason.error ∧ s'.tick = ((PollControl.libpq ctx).polled ctx.deadline s.wire.tick).2 := by
      rw [onWire, post_zoom, checkControl, post_bind]
      refine (pollReason_eq (.factory ctx) ctx.deadline s.wire).mono fun r w h => ?_
      obtain ⟨rfl, rfl⟩ := h
      have hpolled' : ((PollControl.factory ctx).polled ctx.deadline s.wire.tick).1 = some reason := hpolled
      rw [hpolled']
      exact ⟨rfl, rfl⟩
    rw [Connection.connect] at h
    rcases returns_bind_iff.mp h with ⟨u, s₁, hcheck, -⟩ | ⟨e', hcheck, he⟩
    · cases (hfirst.returns hcheck).1
    · obtain ⟨h₁, h₂⟩ := hfirst.returns hcheck
      cases he
      cases h₁
      exact ⟨rfl, h₂⟩

/-- An attempt that fails with the code of a control event tells the truth of the reads it made, and a
string that is refused never gets such a code. -/
theorem connect_truthful {f : BackendFailure}
    (h : (connect conninfo rounds dsn ctx).Returns s (.error f) s') :
    (∀ reason : CancelReason, f.error.code = reason.errorClass.code →
        reason.TruthfulSince ctx s.tick s'.tick) ∧
      ∀ e, Dsn.parse conninfo dsn = .error e → f.error.code.interrupts = false := by
  have refused : ∀ e, Dsn.parse conninfo dsn = .error e → f.error.code.interrupts = false := by
    intro e hparse
    unfold connect at h
    rw [hparse] at h
    cases h
    exact dsnCode_calm e.errorClass
  refine ⟨fun reason hreason => ?_, refused⟩
  cases hparse : Dsn.parse conninfo dsn with
  | error e =>
    have hcalm := refused e hparse
    rw [hreason] at hcalm
    cases reason <;> cases hcalm
  | ok parsed =>
    rcases returns_connect h with ⟨-, -, e, hrefused⟩ | ⟨parsed', -, ⟨e, hf, hconnect⟩ | ⟨u, hf, -⟩⟩
    · rw [hparse] at hrefused
      cases hrefused
    · cases hf
      have htruthful :=
        (Timely.returns (connection_connect_truthful (.factory ctx) rounds parsed') hconnect).2
      have hcode : reason.Truthful ctx true s'.tick := connectCode_truthful htruthful reason hreason
      rcases checked_of_connect hconnect with ⟨first, hpolled, rfl, htick⟩ | hpolled
      -- the two reasons have the same code
      · have hsame : first = reason := by cases first <;> cases reason <;> first | rfl | cases hreason
        rw [htick, ← hsame]
        exact CancelReason.truthfulSince_of_polled hpolled
      · exact hcode.since hpolled
    · cases hf

end Connect

/-! ### A ledger that can be opened -/

/-- The options of the string that names the ledger. -/
def ledgerOptions : List ConninfoOption :=
  [⟨some "service", .null⟩, ⟨some "user", .null⟩, ⟨some "password", .null⟩,
    ⟨some "connect_timeout", .null⟩, ⟨some "dbname", .text "ledger"⟩, ⟨some "host", .null⟩]

def ledgerConninfo : ConninfoParse := fun value =>
  if value = "dbname=ledger" then some ledgerOptions else none

/-- What successive polls of the connection report: the socket is waited for once, and the connection is
made. -/
def ledgerPolls : ConnectPolls
  | 0 => .reading (some (.poll (.ready true)))
  | _ => .ok

def ledgerStartup : Startup where
  wire := { Wire.fresh [.completed "SET" false .idle] [] with conn := none }
  start := some ledgerPolls
  endpoint :=
    { conn := { ok := true, xact := .idle, activity := .resting none }
      nonblocking := true
      encoding := some "UTF8"
      database := some "ledger"
      version := 170000 }
  calls := []

/-- The same, on a network that nothing comes from. -/
def silentStartup : Startup := { ledgerStartup with start := some fun _ => .reading (some .silent) }

theorem ledgerStartup_untouched : Untouched ledgerStartup := ⟨rfl, rfl, rfl⟩

theorem connect_opens_ledger : ∃ backend s',
    (connect ledgerConninfo 6 "dbname=ledger" (.timed none none 1000)).Returns ledgerStartup
      (.ok (backend, "ledger")) s' ∧
    OpenCall.usable backend.observation = true ∧ serverVersionMinimum ≤ ledgerStartup.endpoint.version := by
  have hrun : (connect ledgerConninfo 6 "dbname=ledger" (.timed none none 1000)).Returns ledgerStartup
      (.ok ({ present := true, wire := (connect ledgerConninfo 6 "dbname=ledger" (.timed none none 1000)
        |>.last ledgerStartup).wire }, "ledger")) _ := returns_of_result? (by decide +kernel)
  obtain ⟨-, -, hversion, -, -, -, husable, -⟩ := connect_opens hrun ledgerStartup_untouched
  exact ⟨_, _, hrun, husable, hversion⟩

/-- The outcome is a failure with the given code. -/
def failedWith (code : ErrorCode) : Except BackendFailure (LibpqBackend × String) → Bool
  | .ok _ => false
  | .error f => f.error.code == code

/-- Nothing comes from the network: the deadline ends the attempt, and the connection is finished. -/
theorem connect_settles_silent : ∃ f s',
    (connect ledgerConninfo 20 "dbname=ledger" (.timed none none 30)).Returns silentStartup (.error f) s' ∧
    f.error.code = .deadlineExceeded ∧ s'.wire.conn = none ∧ s'.wire.calls.count .finish = 1 := by
  have hany : ((connect ledgerConninfo 20 "dbname=ledger" (.timed none none 30)) silentStartup).result?.any
      (failedWith .deadlineExceeded) = true := by decide +kernel
  obtain ⟨r, hr, hcode⟩ := (Option.any_eq_true _ _).mp hany
  cases r with
  | ok opened => cases hcode
  | error f =>
    have hrun := returns_of_result? hr
    obtain ⟨howned, -, -, hnone⟩ := connect_settles hrun ⟨rfl, rfl, rfl⟩
    refine ⟨f, _, hrun, beq_iff_eq.mp hcode, hnone f rfl, ?_⟩
    rw [hnone f rfl] at howned
    exact howned.trans (by decide +kernel)

/-- The deadline passes between two polls, and the second takes it for the client. -/
theorem connect_truthful_expired : ∃ f s',
    (connect ledgerConninfo 6 "dbname=ledger" (.timed none none 9)).Returns ledgerStartup (.error f) s' ∧
    f.error.code = .cancelled ∧ ∃ m, m + 2 < s'.wire.tick ∧ 9 ≤ m + 2 := by
  have hany : ((connect ledgerConninfo 6 "dbname=ledger" (.timed none none 9)) ledgerStartup).result?.any
      (failedWith .cancelled) = true := by decide +kernel
  obtain ⟨r, hr, hcode⟩ := (Option.any_eq_true _ _).mp hany
  cases r with
  | ok opened => cases hcode
  | error f =>
    have hrun := returns_of_result? hr
    have hcancelled : f.error.code = .cancelled := beq_iff_eq.mp hcode
    obtain ⟨m, -, -, -, htoken | ⟨hm, hdeadline⟩⟩ := (connect_truthful hrun).1 .cancelled hcancelled
    · cases htoken
    · exact ⟨f, _, hrun, hcancelled, m, hm, hdeadline⟩

end LibpqFactory

end PgMcp
