import PgMcp.Lib.Run
import PgMcp.Libpq.Draining
import PgMcp.Libpq.Session

/-!
# The busy bit

`Connection` keeps a bit that says whether a statement is in flight.  The senders set it
after the send and clear it when the collection of the results has come back, whether or not
the results were fetched; a drain leaves it alone, and a disposal clears it.

## Main definitions

* `Wire.statusBusy` — the bit that `status()` reports.
* `Wire.Honest` — the bit says whether the last statement is still to be fetched.
* `ConnectionCall`, `Invokes` — a call of the connection, as a step.
* `Invoked.Clears` — no control event and no failure ends the flush or the waits of the call,
  and where libpq refuses single-row mode the cancel request or the drain fails.

## Main results

* `cancelAndDrain_keepsFlag` — draining leaves the bit alone.
* `sendChecked_flags` — what a statement that was sent does to the bit.
* `honest_of_run_iff` — the bit is honest throughout a run exactly when every call clears it
  with its statement.
-/

namespace PgMcp

open Program

/-- The busy bit of `status()`. -/
def Wire.statusBusy (w : Wire) : Bool := w.conn.isSome && w.busy

/-- The bit is set exactly while the last statement sent, on a connection that is not
disposed, is not fetched to the final NULL. -/
def Wire.Honest (w : Wire) : Prop :=
  w.statusBusy = true ↔ w.conn.isSome = true ∧ w.statement.isSome = true

instance (w : Wire) : Decidable w.Honest := inferInstanceAs (Decidable (_ ↔ _))

/-- No statement is in flight, and the bit says so. -/
structure Wire.Clear (w : Wire) : Prop where
  statement : w.statement = none
  busy : w.statusBusy = false

theorem Wire.Clear.honest {w : Wire} (h : w.Clear) : w.Honest := by
  unfold Wire.Honest
  rw [h.busy, h.statement]
  simp

theorem Wire.clear_of_none {w : Wire} (h : w.conn = none) : w.Clear where
  statement := by simp [Wire.statement, h]
  busy := by simp [Wire.statusBusy, h]

/-! ### Draining leaves the bit alone -/

/-- The bit is as it was, or the connection is gone. -/
structure KeepsFlag (w w' : Wire) : Prop where
  gone : w.conn = none → w'.conn = none
  busy : w'.busy = w.busy ∨ w'.conn = none

instance : Std.Refl KeepsFlag := ⟨fun _ => ⟨id, .inl rfl⟩⟩

theorem KeepsFlag.trans {w₁ w₂ w₃ : Wire} (h : KeepsFlag w₁ w₂) (h' : KeepsFlag w₂ w₃) :
    KeepsFlag w₁ w₃ where
  gone := fun hnone => h'.gone (h.gone hnone)
  busy := by
    rcases h'.busy with heq | hnone
    · rcases h.busy with heq' | hnone
      · exact .inl (heq.trans heq')
      · exact .inr (h'.gone hnone)
    · exact .inr hnone

instance : IsTrans Wire KeepsFlag := ⟨fun _ _ _ => KeepsFlag.trans⟩

theorem Ticked.keepsFlag {w w' : Wire} (h : Ticked w w') : KeepsFlag w w' where
  gone := fun hnone => h.conn.trans hnone
  busy := .inl h.busy

section Drain

variable {clock : Clock} {deadline : ℕ}

/-- A change of the native connection. -/
theorem update_keepsFlag {ε : Type} {f : Wire → Wire} (h : ∀ w, KeepsFlag w (f w)) :
    (update f : Program Wire ε Unit).Within KeepsFlag := fun w => post_update.mpr (h w)

theorem act_keepsFlag {ε α : Type} {f : Wire → α × Wire} (h : ∀ w, KeepsFlag w (f w).2) :
    (act f : Program Wire ε α).Within KeepsFlag := fun w => post_act.mpr (h w)

theorem disposeAndFail_keepsFlag {α : Type} (e : AdapterError) :
    (disposeAndFail e : Adapter α).Within KeepsFlag :=
  .bind (update_keepsFlag fun _ => ⟨fun _ => rfl, .inr rfl⟩) fun _ => .fail e

theorem clockRead_keepsFlag : (clock.read : Adapter ℕ).Within KeepsFlag :=
  act_keepsFlag fun _ => ⟨id, .inl rfl⟩

theorem log_keepsFlag (call : Call) : (log call).Within KeepsFlag :=
  update_keepsFlag fun _ => ⟨id, .inl rfl⟩

theorem pollFd_keepsFlag (poll : Poll) : (pollFd clock deadline poll).Within KeepsFlag := fun w =>
  (pollFd_post clock deadline poll w).mono fun _ _ h => h.1.keepsFlag

theorem checkCancelDeadline_keepsFlag (reason : CancelReason) :
    (checkCancelDeadline clock reason deadline).Within KeepsFlag := by
  refine Within.bind clockRead_keepsFlag fun now => ?_
  split
  · exact disposeAndFail_keepsFlag _
  · exact Within.pure ()

theorem cancelLoop_keepsFlag (reason : CancelReason) (poll : CancelPoll) :
    (cancelLoop clock reason deadline poll).Within KeepsFlag := by
  induction poll with
  | ok | failed =>
    exact Within.bind (checkCancelDeadline_keepsFlag reason) fun _ =>
      Within.bind (log_keepsFlag _) fun _ => Within.pure _
  | waiting socket next ih =>
    cases socket with
    | none =>
      exact Within.bind (checkCancelDeadline_keepsFlag reason) fun _ => disposeAndFail_keepsFlag _
    | some socket =>
      refine Within.bind (checkCancelDeadline_keepsFlag reason) fun _ => ?_
      refine Within.bind (pollFd_keepsFlag socket).attempt fun r => ?_
      cases r with
      | error e => exact disposeAndFail_keepsFlag _
      | ok readable => exact ih
  | active next ih => exact Within.bind (checkCancelDeadline_keepsFlag reason) fun _ => ih

theorem dispatchCancel_keepsFlag (reason : CancelReason) :
    (dispatchCancel clock reason deadline).Within KeepsFlag := by
  refine Within.bind (Within.read _) fun present => ?_
  cases present with
  | false => exact Within.pure false
  | true =>
    refine Within.bind (act_keepsFlag fun _ => ⟨id, .inl rfl⟩) fun script => ?_
    cases script with
    | createFailed | startFailed => exact disposeAndFail_keepsFlag _
    | started socket next => exact cancelLoop_keepsFlag reason _

theorem pqConsumeInput_keepsFlag : pqConsumeInput.Within KeepsFlag := by
  intro w
  simp only [pqConsumeInput, post_act]
  cases hconn : w.conn with
  | none => exact Std.Refl.refl w
  | some c =>
    have absurd_none : w.conn = none → False := by simp [hconn]
    dsimp only
    split
    · exact Std.Refl.refl w
    · split
      · exact Std.Refl.refl w
      · exact ⟨fun h => (absurd_none h).elim, .inl rfl⟩
      · split
        · exact ⟨fun h => (absurd_none h).elim, .inl rfl⟩
        · exact Std.Refl.refl w

theorem pqSocket_keepsFlag : pqSocket.Within KeepsFlag := by
  intro w
  simp only [pqSocket, post_act]
  split
  · exact Std.Refl.refl w
  · split
    · exact ⟨fun h => by simp [Wire.withStatement, Wire.withConn, h], .inl rfl⟩
    · exact Std.Refl.refl w

theorem pqGetResult_keepsFlag : pqGetResult.Within KeepsFlag := by
  intro w
  simp only [pqGetResult, post_act]
  cases hconn : w.conn with
  | none => exact Std.Refl.refl w
  | some c =>
    dsimp only
    split
    · exact ⟨id, .inl rfl⟩
    · exact ⟨fun h => by simp [hconn] at h, .inl rfl⟩

theorem awaitIdle_keepsFlag (rounds : ℕ) : (awaitIdle clock deadline rounds).Within KeepsFlag := by
  induction rounds with
  | zero => exact fun w => trivial
  | succ rounds ih =>
    refine Within.bind (Within.read _) fun present => ?_
    cases present with
    | false => exact Within.pure false
    | true =>
      refine Within.bind pqConsumeInput_keepsFlag fun consumed => ?_
      refine Within.bind (Within.require _ _) fun _ => ?_
      refine Within.bind (act_keepsFlag fun _ => ⟨id, .inl rfl⟩) fun busy => ?_
      cases busy with
      | false => exact Within.pure true
      | true =>
        refine Within.bind pqSocket_keepsFlag fun socket => ?_
        cases socket with
        | none => exact Within.fail _
        | some socket => exact Within.bind (pollFd_keepsFlag socket) fun _ => ih

theorem fetchIdle_keepsFlag (rounds : ℕ) : (fetchIdle rounds).Within KeepsFlag := by
  induction rounds with
  | zero => exact fun w => trivial
  | succ rounds ih =>
    refine Within.bind pqGetResult_keepsFlag fun result => ?_
    cases result with
    | none => exact Within.pure ()
    | some r => exact ih

/-- Cancelling and draining leaves the bit alone, or disposes of the connection. -/
theorem cancelAndDrain_keepsFlag (rounds : ℕ) (reason : CancelReason) :
    (cancelAndDrain clock rounds reason deadline).Within KeepsFlag := by
  have hdrain : (drainUntilIdle clock rounds deadline).Within KeepsFlag := by
    refine Within.bind (awaitIdle_keepsFlag rounds) fun present => ?_
    cases present with
    | false => exact Within.pure ()
    | true => exact fetchIdle_keepsFlag rounds
  refine Within.bind (dispatchCancel_keepsFlag reason) fun dispatched => ?_
  refine Within.bind hdrain.attempt fun r => ?_
  cases r with
  | error e => exact disposeAndFail_keepsFlag _
  | ok u =>
    cases dispatched with
    | true => exact Within.pure true
    | false => exact Within.fail _

end Drain

/-! ### What the senders do to the bit -/

section Send

variable {ctl : PollControl} {deadline : ℕ} {sql : String} {w : Wire}

/-- An entry after which the statement is left in flight. -/
def Call.abandons : Call → Bool
  | .interrupted _ | .failed _ => true
  | _ => false

/-- What is between the send and the end of a statement does not abandon it. -/
theorem Call.inner_abandons {call : Call} (h : call.inner = true) : call.abandons = false := by
  cases call with
  | interrupted reason => cases h
  | failed usable => cases h
  | _ => rfl

/-- The events of the response to the next statement. -/
def Wire.nextEvents (w : Wire) : List Event :=
  match w.scripts with
  | .accept answer :: _ => answer.events
  | _ => []

/-- A cancel request made after the next send, and the drain of the response to it: where they
come to their end, if they do. -/
def Wire.drainsAt (w : Wire) (ctl : PollControl) (deadline : ℕ) : Option ℕ :=
  cancelDrainEnds ctl.clock deadline (w.cancels.headD .createFailed) w.nextEvents
    (ctl.polled deadline w.tick).2

/-- A call made in `w` that met with the answers `trace` clears its statement: nothing abandons
it, and where single-row mode is refused, the cancel request or the drain fails. -/
def ClearsFrom (ctl : PollControl) (deadline : ℕ) (w : Wire) (trace : List Call) : Prop :=
  (∀ call ∈ trace, call.abandons = false) ∧ (.singleRowRefused ∈ trace → w.drainsAt ctl deadline = none)

instance (ctl : PollControl) (deadline : ℕ) (w : Wire) (trace : List Call) :
    Decidable (ClearsFrom ctl deadline w trace) := inferInstanceAs (Decidable (_ ∧ _))

/-- How the bit comes out of a call that started with it clear. -/
def Flags (ctl : PollControl) (deadline : ℕ) (w w' : Wire) : Prop :=
  ∃ trace, w'.calls = trace ++ w.calls ∧ (ClearsFrom ctl deadline w trace → w'.Clear) ∧
    (¬ ClearsFrom ctl deadline w trace → ¬ w'.Honest)

/-- A call that has left the statement and the bit alone. -/
theorem Flags.of_same {w' : Wire} {trace : List Call} (hw : w.Clear) (hcalls : w'.calls = trace ++ w.calls)
    (hclears : ClearsFrom ctl deadline w trace) (hstatement : w'.statement = none) (hbusy : w'.busy = w.busy)
    (hconn : w'.conn.isSome = w.conn.isSome) : Flags ctl deadline w w' := by
  refine ⟨trace, hcalls, fun _ => ⟨hstatement, ?_⟩, fun h => absurd hclears h⟩
  have := hw.busy
  unfold Wire.statusBusy at this ⊢
  rw [hconn, hbusy, this]

/-- The note of the return says nothing about the statement. -/
theorem Flags.leave {w' : Wire} (h : Flags ctl deadline w w') : Flags ctl deadline w (w'.logged .leave) := by
  obtain ⟨trace, hcalls, hclear, hdirty⟩ := h
  have hiff : ClearsFrom ctl deadline w (.leave :: trace) ↔ ClearsFrom ctl deadline w trace := by
    simp [ClearsFrom, Call.abandons]
  refine ⟨.leave :: trace, by simp [Wire.logged, hcalls], fun h => ?_, fun h => ?_⟩
  · have := hclear (hiff.mp h)
    exact ⟨this.statement, this.busy⟩
  · exact hdirty (hiff.not.mp h)

variable {c : PgConn} {s : Statement} {w₁ w' : Wire} {x : Xact}

theorem Wire.not_honest {w : Wire} (hconn : w.conn.isSome = true) (h : w.busy = !w.statement.isSome) :
    ¬ w.Honest := by
  unfold Wire.Honest Wire.statusBusy
  rw [hconn, h]
  cases w.statement <;> simp

theorem drained_inFlight (gets : List Call) (completion : Option Completion) :
    (c.drained s gets completion).inFlight = none := by
  cases completion <;> simp [PgConn.drained, PgConn.inFlight]

/-- A statement whose results were collected: the bit is cleared in any case. -/
theorem Flags.of_collected {last : Call} {mid : List Call} {r : Except AdapterError ResultSet}
    (hmid : ∀ call ∈ mid, call.collecting = true) (hbase : w₁.calls = .send sql x :: w.calls)
    (hcalls : w'.calls = last :: mid ++ w₁.calls) (hending : Ending ctl deadline c s last mid r w')
    (hbusy : w'.busy = false) : Flags ctl deadline w w' := by
  have hmid' : ∀ call ∈ mid ++ [.send sql x], call.abandons = false ∧ call ≠ .singleRowRefused := by
    intro call hcall
    rcases List.mem_append.mp hcall with h | h
    · refine ⟨Call.inner_abandons (inner_of_collecting hmid call h), ?_⟩
      intro heq
      rw [heq] at h
      exact absurd (hmid _ h) (by decide)
    · rw [List.mem_singleton.mp h]
      exact ⟨rfl, by simp⟩
  have clears : last.abandons = false → last ≠ .singleRowRefused →
      ClearsFrom ctl deadline w (last :: (mid ++ [.send sql x])) := by
    intro hlast hne
    refine ⟨fun call hcall => ?_, fun hmem => ?_⟩
    · rcases List.mem_cons.mp hcall with rfl | hcall
      · exact hlast
      · exact (hmid' call hcall).1
    · rcases List.mem_cons.mp hmem with heq | hmem
      · exact absurd heq.symm hne
      · exact absurd rfl (hmid' _ hmem).2
  -- a statement left in flight is one that an entry abandons
  have dirty : last.abandons = true → w'.conn.isSome = true → w'.statement.isSome = true →
      Flags ctl deadline w w' := by
    intro hlast hconn hstatement
    refine ⟨last :: (mid ++ [.send sql x]), by simp [hcalls, hbase], fun h => ?_, fun _ => ?_⟩
    · have := h.1 last (List.mem_cons_self ..)
      rw [hlast] at this
      cases this
    · exact Wire.not_honest hconn (by rw [hbusy, hstatement]; rfl)
  have clear : last.abandons = false → last ≠ .singleRowRefused → w'.statement = none →
      Flags ctl deadline w w' := by
    intro hlast hne hstatement
    refine ⟨last :: (mid ++ [.send sql x]), by simp [hcalls, hbase], fun _ => ⟨hstatement, ?_⟩,
      fun h => absurd (clears hlast hne) h⟩
    rw [Wire.statusBusy, hbusy, Bool.and_false]
  cases hending with
  | interrupted reason flush conn raised =>
    exact dirty rfl (by rw [conn]; rfl) (by simp [Wire.statement, conn])
  | failed e usable flush events mid unknown whole conn =>
    exact dirty rfl (by rw [conn]; rfl) (by simp [Wire.statement, conn, PgConn.carrying, PgConn.inFlight])
  | disposed e mid unknown conn => exact clear rfl (by simp) (by simp [Wire.statement, conn])
  | drained blocked completion mid conn whole answer ok known unknown =>
    exact clear rfl (by simp) (by simp [Wire.statement, conn, drained_inFlight])

/-- A statement without single-row mode: a drain leaves the bit set. -/
theorem Flags.of_refused {r : Except AdapterError Bool}
    (hbase : w₁.calls = .singleRowRefused :: .send sql x :: w.calls)
    (h : CancelDrained c s w₁ r w') (hbusy : w'.busy = true ∨ w'.conn = none)
    (hends : w'.conn.isSome = true ↔ (w.drainsAt ctl deadline).isSome = true) : Flags ctl deadline w w' := by
  cases h with
  | disposed e waits unknown cancelling disposed =>
    have hnone : w.drainsAt ctl deadline = none := by
      rw [disposed.conn] at hends
      simpa using hends
    refine ⟨.finish :: (waits ++ [.singleRowRefused, .send sql x]), by simp [disposed.calls, hbase],
      fun _ => Wire.clear_of_none disposed.conn, fun h => absurd ⟨fun call hcall => ?_, fun _ => hnone⟩ h⟩
    rcases List.mem_cons.mp hcall with rfl | hcall
    · rfl
    · rcases List.mem_append.mp hcall with hcall | hcall
      · exact Call.inner_abandons (inner_of_cancelling cancelling call hcall)
      · rcases List.mem_pair.mp hcall with rfl | rfl <;> rfl
  | @drained _ _ w₂ waits gets completion cancelling base drained error =>
    obtain ⟨blocked, hcalls⟩ := drained.calls
    have hconn : w'.conn.isSome = true := by
      rw [drained.conn]
      rfl
    have hset : w'.busy = true := by
      rcases hbusy with h | h
      · exact h
      · rw [h] at hconn
        cases hconn
    refine ⟨.getResult blocked (.null completion) :: (gets ++ (waits ++ [.singleRowRefused, .send sql x])),
      by simp [hcalls, base, hbase], fun h => ?_, fun _ => ?_⟩
    · -- the request and the drain came to their end
      have hdrains := hends.mp hconn
      rw [h.2 (by simp)] at hdrains
      cases hdrains
    · refine Wire.not_honest hconn ?_
      have hstatement : w'.statement = none := by simp [Wire.statement, drained.conn, drained_inFlight]
      rw [hset, hstatement]
      rfl

/-- Nothing is added to the trace but refusals. -/
theorem clearsFrom_of_refused {trace : List Call} (h : ∀ call ∈ trace, ∃ usable, call = .refused usable) :
    ClearsFrom ctl deadline w trace := by
  constructor
  · intro call hcall
    obtain ⟨usable, rfl⟩ := h call hcall
    rfl
  · intro hmem
    obtain ⟨usable, heq⟩ := h _ hmem
    cases heq

/-- A send leaves the bit and the cancel requests to come alone. -/
theorem pqSendQueryParams_busy : (pqSendQueryParams sql).Post w fun _ w' =>
    w'.busy = w.busy ∧ w'.cancels = w.cancels := by
  simp only [pqSendQueryParams, post_act]
  split
  · exact ⟨rfl, rfl⟩
  · split
    · exact ⟨rfl, rfl⟩
    · split <;> exact ⟨rfl, rfl⟩

/-- Nothing is added to the trace, and the connection and the bit are left alone. -/
theorem Flags.of_silent {w' : Wire} (hw : w.Clear) (hcalls : w'.calls = w.calls)
    (hstatement : w'.statement = none)
    (hbusy : w'.busy = w.busy) (hconn : w'.conn.isSome = w.conn.isSome) : Flags ctl deadline w w' :=
  .of_same hw (List.nil_append w.calls ▸ hcalls) (clearsFrom_of_refused (by simp)) hstatement hbusy hconn

/-- What sending and collecting does to the bit. -/
theorem sendChecked_flags (hw : w.Clear) (rounds : ℕ) (limits : QueryLimits) (singleRow : Bool) :
    (sendChecked rounds sql limits singleRow deadline ctl).Post w fun _ w' => Flags ctl deadline w w' := by
  have unsent : ∀ {w' : Wire}, w'.conn = w.conn → w'.busy = w.busy → w'.calls = w.calls →
    Flags ctl deadline w w' :=
    fun hconn hbusy hcalls =>
      .of_silent hw hcalls (by rw [Wire.statement, hconn]; exact hw.statement) hbusy (by rw [hconn])
  rw [sendChecked]
  refine ((checkControl_post ctl deadline w).and (checkControl_polled ctl deadline w)).bind ?_ ?_
  swap
  · intro e w₁ h
    obtain ⟨n, rfl⟩ := h.1.1
    exact unsent rfl rfl rfl
  intro u w₁ h
  obtain ⟨⟨ht, -⟩, hw₁, -⟩ := h
  have htick : w₁.tick = (ctl.polled deadline w.tick).2 := by rw [hw₁]
  simp only [connected, post_bind, post_read, andThen_ok, post_require]
  cases hc : w.conn with
  | none =>
    simp only [ht.conn, hc, Option.isSome_none, Bool.false_eq_true, false_imp_iff, true_and, true_imp_iff,
      andThen_error]
    exact unsent ht.conn ht.busy ht.calls
  | some c =>
    simp only [ht.conn, hc, Option.isSome_some, true_imp_iff, Bool.true_eq_false, false_imp_iff, and_true]
    refine ((pqSendQueryParams_post (ht.conn.trans hc)).and pqSendQueryParams_busy).mono ?_
    intro r w₂ hsend
    obtain ⟨⟨htick₂, hsend⟩, hbusy₂, hcancels₂⟩ := hsend
    rcases hsend with ⟨rfl, usable, hcalls₂, hconn₂⟩ |
      ⟨answer, rfl, hok, hfree, ⟨rest, hscripts⟩, hconn₂, hcalls₂⟩
    · -- the send is refused
      have hinFlight : c.inFlight = none := by
        have := hw.statement
        rwa [Wire.statement, hc] at this
      have hsame : w₂.statement = none ∧ w₂.conn.isSome = true := by
        rcases hconn₂ with ⟨-, hconn₂⟩ | ⟨-, hconn₂⟩
        · exact ⟨by rw [Wire.statement, hconn₂]; exact hinFlight, by rw [hconn₂]; rfl⟩
        · exact ⟨by rw [Wire.statement, hconn₂]; exact hinFlight, by rw [hconn₂]; rfl⟩
      show Flags ctl deadline w w₂
      have htrace : w₂.calls = [.refused usable] ++ w.calls := by
        rw [hcalls₂, ht.calls]
        rfl
      refine .of_same hw htrace
        (clearsFrom_of_refused (by simp)) hsame.1 (hbusy₂.trans ht.busy) ?_
      rw [hsame.2, hc]
      rfl
    · simp only [andThen_ok, post_require, true_imp_iff, Bool.true_eq_false, false_imp_iff,
        and_true, setBusy, post_update, post_bind]
      rw [ht.calls] at hcalls₂
      have hconn₃ : ({ w₂ with busy := true } : Wire).conn = some (c.carrying (answer.statement sql)) :=
        hconn₂
      simp only [pqSetSingleRowMode, post_act, andThen_ok]
      split
      · simp only [if_true]
        refine (collectResults_ends hok rfl rfl hconn₃ rounds limits).attempt_bind ?_
        intro r w₄ h
        obtain ⟨last, mid, hmid, hcalls₄, hending⟩ := h
        simp only [post_bind, post_update, andThen_ok, post_ofExcept]
        have hbase : ({ w₂ with busy := true } : Wire).calls = .send sql c.xact :: w.calls := hcalls₂
        exact .of_collected hmid hbase hcalls₄ (hending.congr rfl rfl) rfl
      · simp only [Bool.false_eq_true, if_false]
        have hconn₄ : (({ w₂ with busy := true } : Wire).logged .singleRowRefused).conn =
          some (c.carrying (answer.statement sql)) := hconn₂
        refine (((cancelAndDrain_post hconn₄ rounds).and (cancelAndDrain_keepsFlag rounds _ _)).and
          (cancelAndDrain_conn hok hconn₄ rounds)).attempt_bind ?_
        intro r w₄ h
        obtain ⟨⟨h, hkeeps⟩, hends⟩ := h
        -- the request finds the clock where the poll before the send has left it
        have hdrains : cancelDrainEnds ctl.clock deadline (w₂.cancels.headD .createFailed)
            (answer.statement sql).events w₂.tick = w.drainsAt ctl deadline := by
          rw [Wire.drainsAt, Wire.nextEvents, hcancels₂, htick₂, htick, ← ht.scripts, hscripts,
            ht.cancels]
          rfl
        have hbase : (({ w₂ with busy := true } : Wire).logged .singleRowRefused).calls =
            .singleRowRefused :: .send sql c.xact :: w.calls := by
          rw [Wire.logged]
          exact congrArg _ hcalls₂
        exact .of_refused hbase h hkeeps.busy (hdrains ▸ hends)

/-- A query or a command keeps the bit clear, or leaves it dishonest. -/
theorem leaving_flags {α : Type} {x : Adapter α} (h : x.Post w fun _ w' => Flags ctl deadline w w') :
    (leaving x).Post w fun _ w' => Flags ctl deadline w w' :=
  leaving_post (h.mono fun _ _ h => h.leave)

/-- The checks before the send leave everything alone. -/
theorem post_require_flags (hw : w.Clear) {b : Bool} {e : AdapterError} {x : Adapter ResultSet}
    (hx : x.Post w fun _ w' => Flags ctl deadline w w') :
    (do require b e; x : Adapter ResultSet).Post w fun _ w' => Flags ctl deadline w w' := by
  rw [post_bind, post_require]
  refine ⟨fun _ => hx, fun _ => ?_⟩
  exact .of_silent hw rfl hw.statement rfl rfl

theorem post_ofExcept_flags (hw : w.Clear) {r : Except AdapterError Unit} {x : Adapter ResultSet}
    (hx : x.Post w fun _ w' => Flags ctl deadline w w') :
    (do .ofExcept r; x : Adapter ResultSet).Post w fun _ w' => Flags ctl deadline w w' := by
  rw [post_bind, post_ofExcept]
  cases r with
  | ok u => exact hx
  | error e => exact .of_silent hw rfl hw.statement rfl rfl

theorem query_flags (hw : w.Clear) (rounds : ℕ) (parameters : List Parameter) (limits : QueryLimits) :
    (Connection.query rounds sql parameters limits deadline ctl).Post w fun _ w' => Flags ctl deadline w w' :=
  leaving_flags <| post_require_flags hw <| post_ofExcept_flags hw <| post_require_flags hw <|
    sendChecked_flags hw rounds limits true

theorem execute_flags (hw : w.Clear) (rounds : ℕ) :
    (Connection.execute rounds sql deadline ctl).Post w fun _ w' => Flags ctl deadline w w' :=
  leaving_flags <| post_require_flags hw <| post_ofExcept_flags hw <| post_require_flags hw <|
    sendChecked_flags hw rounds _ false

end Send

/-! ### Cancelling and draining -/

/-- With nothing in flight, cancelling and draining keeps the bit clear. -/
theorem cancelAndDrain_flags {ctl : PollControl} {deadline : ℕ} {w : Wire} (hw : w.Clear) (rounds : ℕ)
    (reason : CancelReason) :
    (cancelAndDrain ctl.clock rounds reason deadline).Post w fun _ w' => Flags ctl deadline w w' := by
  have clears : ∀ {trace : List Call}, (∀ call ∈ trace, call.abandons = false ∧ call ≠ .singleRowRefused) →
      ClearsFrom ctl deadline w trace :=
    fun h => ⟨fun call hcall => (h call hcall).1, fun hmem => absurd rfl (h _ hmem).2⟩
  cases hconn : w.conn with
  | none =>
    refine (cancelAndDrain_none hconn rounds).mono ?_
    intro r w' h
    subst h
    exact .of_silent hw rfl hw.statement rfl rfl
  | some c =>
    cases hact : c.activity with
    | running s =>
      have := hw.statement
      simp [Wire.statement, hconn, PgConn.inFlight, hact] at this
    | resting trailing =>
      refine ((cancelAndDrain_resting hconn hact rounds).and
        (cancelAndDrain_keepsFlag rounds reason w)).mono ?_
      intro r w' h
      obtain ⟨h, hkeeps⟩ := h
      rcases h with ⟨hconn', -, dispatched, hcalls⟩ | ⟨e, entries, -, -, cancelling, disposed⟩
      · refine .of_same hw hcalls (clears ?_) (by rw [Wire.statement, hconn']; exact hw.statement)
          ?_ (by rw [hconn'])
        · simp [Call.abandons]
        · rcases hkeeps.busy with h | h
          · exact h
          · rw [hconn', hconn] at h
            cases h
      · refine ⟨.finish :: entries, disposed.calls, fun _ => Wire.clear_of_none disposed.conn,
          fun h => absurd (clears ?_) h⟩
        intro call hcall
        rcases List.mem_cons.mp hcall with rfl | hcall
        · exact ⟨rfl, by simp⟩
        · refine ⟨Call.inner_abandons (inner_of_cancelling cancelling call hcall), ?_⟩
          intro heq
          rw [heq] at hcall
          exact absurd (cancelling _ hcall) (by decide)

/-! ### Sequences of calls -/

/-- The calls of `Connection` that may touch a statement. -/
inductive ConnectionCall where
  | query (sql : String) (parameters : List Parameter) (limits : QueryLimits)
  | execute (sql : String)
  | cancelAndDrain (reason : CancelReason)

/-- Make the call; what it returns plays no part here. -/
def ConnectionCall.perform (rounds deadline : ℕ) (ctl : PollControl) : ConnectionCall → Adapter Unit
  | .query sql parameters limits => do
    let _ ← (Connection.query rounds sql parameters limits deadline ctl).attempt
  | .execute sql => do
    let _ ← (Connection.execute rounds sql deadline ctl).attempt
  | .cancelAndDrain reason => do
    let _ ← (PgMcp.cancelAndDrain ctl.clock rounds reason deadline).attempt

/-- One call, with its control and the answers it met with. -/
structure Invoked where
  call : ConnectionCall
  ctl : PollControl
  deadline : ℕ
  before : Wire
  trace : List Call
  after : Wire

/-- The call `l` is made in `w` and returns in `w'`. -/
def Invokes (w : Wire) (l : Invoked) (w' : Wire) : Prop :=
  l.before = w ∧ l.after = w' ∧ w'.calls = l.trace ++ w.calls ∧
    ∃ rounds, (l.call.perform rounds l.deadline l.ctl).Returns w (.ok ()) w'

/-- No control event and no failure ends the flush or the waits of the call, and where libpq
refuses single-row mode the cancel request or the drain fails. -/
def Invoked.Clears (l : Invoked) : Prop := ClearsFrom l.ctl l.deadline l.before l.trace

theorem perform_flags {w : Wire} (hw : w.Clear) (rounds deadline : ℕ) (ctl : PollControl)
    (call : ConnectionCall) :
    (call.perform rounds deadline ctl).Post w fun _ w' => Flags ctl deadline w w' := by
  cases call with
  | query sql parameters limits => exact (query_flags hw rounds parameters limits).attempt_bind fun _ _ h => h
  | execute sql => exact (execute_flags hw rounds).attempt_bind fun _ _ h => h
  | cancelAndDrain reason => exact (cancelAndDrain_flags hw rounds reason).attempt_bind fun _ _ h => h

/-- One call in a state whose bit is clear: the bit comes out honest exactly when the call
clears its statement, and then it is clear again. -/
theorem Invokes.honest_iff {w w' : Wire} {l : Invoked} (h : Invokes w l w') (hw : w.Clear) :
    (l.after.Honest ↔ l.Clears) ∧ (l.Clears → w'.Clear) := by
  obtain ⟨rfl, rfl, hcalls, rounds, hreturns⟩ := h
  obtain ⟨trace, hcalls', hclear, hdirty⟩ :=
    (perform_flags hw rounds l.deadline l.ctl l.call).returns hreturns
  have htrace : l.trace = trace := List.append_cancel_right (hcalls.symm.trans hcalls')
  subst htrace
  refine ⟨⟨fun hhonest => ?_, fun h => (hclear h).honest⟩, hclear⟩
  by_contra h
  exact hdirty h hhonest

/-- The bit is honest after every call of a run exactly when every call clears its statement. -/
theorem honest_of_run_iff {w w' : Wire} {ls : List Invoked} (hw : w.Clear) (run : Run Invokes w ls w') :
    (∀ l ∈ ls, l.after.Honest) ↔ ∀ l ∈ ls, l.Clears :=
  run.forall_iff (I := Wire.Clear) (fun _ _ _ hs h => h.honest_iff hs) hw

/-! ### The bit left set on a drained connection -/

/-- The call made in `w`, with a control state that raises nothing. -/
def callFrom (w : Wire) (call : ConnectionCall) : Invoked :=
  let after := (call.perform 6 1000 (.libpq (.timed none none 1000))).last w
  { call := call
    ctl := .libpq (.timed none none 1000)
    deadline := 1000
    before := w
    trace := after.calls.take (after.calls.length - w.calls.length)
    after := after }

theorem clear_fresh (scripts : List Script) (cancels : List CancelScript) :
    (Wire.fresh scripts cancels).Clear where
  statement := rfl
  busy := rfl

theorem invokes_callFrom {w : Wire} {call : ConnectionCall}
    (hcalls : (callFrom w call).after.calls = (callFrom w call).trace ++ w.calls)
    (h : (call.perform 6 1000 (.libpq (.timed none none 1000)) w).result? = some (.ok ())) :
    Invokes w (callFrom w call) (callFrom w call).after :=
  ⟨rfl, rfl, hcalls, 6, returns_of_result? h⟩

/-- The response to a statement that libpq does not put into single-row mode. -/
def wholeResponse : Script :=
  .accept
    { singleRow := false
      events := [.result { status := .fatalError, shape := PgResult.noTuples }]
      after := .idle }

/-- A query that is answered with a command tag, on a connection whose next statement is not
put into single-row mode and cannot be cancelled. -/
def answeredQuery : Invoked :=
  callFrom (.fresh [.completed "SET" false .idle, wholeResponse] [.createFailed])
    (.query "SELECT 1" [] (.unbounded 100))

/-- The query after it: its cancel request fails. -/
def uncancelledQuery : Invoked := callFrom answeredQuery.after (.query "SELECT 2" [] (.unbounded 100))

/-- A query whose statement cannot be put into single-row mode, and which is cancelled and
drained. -/
def refusedQuery : Invoked :=
  callFrom (.fresh [wholeResponse] [.succeeding]) (.query "SELECT 1" [] (.unbounded 100))

/-- An answered query clears its bit, and one that is not in single-row mode and cannot be
cancelled is disposed of. -/
theorem honest_of_run_iff_answered : ∃ w w', w.Clear ∧ Run Invokes w [answeredQuery, uncancelledQuery] w' ∧
    w'.conn = none ∧ ∀ l ∈ [answeredQuery, uncancelledQuery], l.after.Honest := by
  have hrun : Run Invokes _ [answeredQuery, uncancelledQuery] uncancelledQuery.after :=
    .snoc (.single (invokes_callFrom (by decide +kernel) (by decide +kernel)))
      (invokes_callFrom (by decide +kernel) (by decide +kernel))
  have hclear := clear_fresh [.completed "SET" false .idle, wholeResponse] [.createFailed]
  refine ⟨_, _, hclear, hrun, by decide +kernel, (honest_of_run_iff hclear hrun).mpr fun l hl => ?_⟩
  rcases List.mem_pair.mp hl with rfl | rfl
  · show ClearsFrom _ _ _ _
    decide +kernel
  · show ClearsFrom _ _ _ _
    decide +kernel

/-- The connection is drained and the bit is still set. -/
theorem busy_after_drain : ¬ ∀ (w w' : Wire) (ls : List Invoked), w.Clear → Run Invokes w ls w' →
    ∀ l ∈ ls, l.after.Honest := by
  intro h
  have hrun : Run Invokes _ [refusedQuery] _ :=
    .single (invokes_callFrom (by decide +kernel) (by decide +kernel))
  have hhonest := h _ _ _ (clear_fresh _ _) hrun refusedQuery (List.mem_singleton_self _)
  exact absurd hhonest (by decide +kernel)

end PgMcp
