import PgMcp.Lib.Timely
import PgMcp.Lib.Checks
import PgMcp.Libpq.Phases

/-!
# What an interruption says

A call that is interrupted fails with the error of a control event: shutdown, cancellation or the
deadline.  Whatever the polls, the waits and the server do, such an error is only returned after the
control state was read and found as the error says.  The control object of the operations that a
client can cancel takes the deadline for a cancellation, so there that error says less than its name.

## Main definitions

* `CancelReason.Truthful` — what the error of a control event says about the reads so far.
* `AdapterError.Truthful` — the same for any error: one of another class says nothing.

## Main results

* `query_truthful`, `execute_truthful` — an error a call returns is truthful when it comes.
-/

namespace PgMcp

open Program Checks

/-! ### Interruptions -/

/-- The control object takes the deadline for the client's token. -/
def PollControl.merges : PollControl → Bool
  | .libpq _ => true
  | .noClientCancel _ => false

/-- What the error of a control event says about the reads of the control state before the `n`-th. -/
def CancelReason.Truthful (ctx : RequestContext) (merged : Bool) : CancelReason → ℕ → Prop
  | .shutdown, n => ∃ m < n, ctx.shutdown m = true
  | .cancelled, n => ∃ m, m + 1 < n ∧ ctx.shutdown m = false ∧
      (ctx.cancellation (m + 1) = true ∨
        merged = true ∧ m + 2 < n ∧ ctx.deadline ≤ ctx.clock.now (m + 2))
  | .deadline, n => ∃ m < n, ctx.deadline ≤ ctx.clock.now m

/-- What was read stays read. -/
theorem CancelReason.Truthful.monotone (ctx : RequestContext) (merged : Bool) (reason : CancelReason) :
    Monotone (reason.Truthful ctx merged) := by
  intro n n' hn h
  cases reason with
  | shutdown =>
    obtain ⟨m, hm, hraised⟩ := h
    exact ⟨m, hm.trans_le hn, hraised⟩
  | cancelled =>
    obtain ⟨m, hm, hcalm, htoken | ⟨hmerged, hm', hdeadline⟩⟩ := h
    · exact ⟨m, hm.trans_le hn, hcalm, .inl htoken⟩
    · exact ⟨m, hm.trans_le hn, hcalm, .inr ⟨hmerged, hm'.trans_le hn, hdeadline⟩⟩
  | deadline =>
    obtain ⟨m, hm, hdeadline⟩ := h
    exact ⟨m, hm.trans_le hn, hdeadline⟩

/-- An error that is not of a control event says nothing. -/
def AdapterError.Truthful (ctl : PollControl) (e : AdapterError) (n : ℕ) : Prop :=
  ∀ reason : CancelReason, e.errorClass = reason.errorClass → reason.Truthful ctl.context ctl.merges n

theorem AdapterError.Truthful.monotone (ctl : PollControl) (e : AdapterError) :
    Monotone (e.Truthful ctl) := by
  intro n n' hn h reason hreason
  exact CancelReason.Truthful.monotone _ _ reason hn (h reason hreason)

/-- The error of a control event. -/
theorem CancelReason.Truthful.error {ctl : PollControl} {reason : CancelReason} {n : ℕ}
    (h : reason.Truthful ctl.context ctl.merges n) : reason.error.Truthful ctl n := by
  intro reason' hreason
  cases reason <;> cases reason' <;> first | exact h | cases hreason

/-- The classes control events are reported as. -/
def ErrorClass.interrupts : ErrorClass → Bool
  | .cancelled | .deadlineExceeded | .serverStopping => true
  | _ => false

/-- An error of another class is truthful. -/
theorem AdapterError.truthful_of_calm {ctl : PollControl} {e : AdapterError} {n : ℕ}
    (h : e.errorClass.interrupts = false) : e.Truthful ctl n := by
  intro reason hreason
  rw [hreason] at h
  cases reason <;> cases h

/-! ### What the server sends -/

namespace ResultCollector

/-- No error of the outcome is that of a control event. -/
def Calm (o : Except AdapterError Unit × ResultCollector) : Prop :=
  ∀ e, o.1 = .error e → e.errorClass.interrupts = false

theorem calm_ok (c : ResultCollector) : Calm (.ok (), c) := by
  intro e he
  cases he

theorem calm_error {e : AdapterError} {c : ResultCollector} (h : e.errorClass.interrupts = false) :
    Calm (.error e, c) := by
  intro e' he
  cases he
  exact h

theorem calm_ensureCandidateFits {c : ResultCollector} {e : AdapterError}
    (h : c.ensureCandidateFits = .error e) : e.errorClass.interrupts = false := by
  unfold ensureCandidateFits at h
  split at h
  · cases h
  · cases h
    rfl

theorem calm_readRow {limits : QueryLimits} {cells : List Cell} {e : AdapterError}
    (h : readRow limits cells = .error e) : e.errorClass.interrupts = false := by
  induction cells with
  | nil => cases h
  | cons cell cells ih =>
    cases cell with
    | null =>
      rcases bind_eq_error h with h | ⟨row, -, h⟩
      · exact ih h
      · cases h
    | text s =>
      unfold readRow at h
      split at h
      · cases h
        rfl
      · rcases bind_eq_error h with h | ⟨row, -, h⟩
        · exact ih h
        · cases h
    | invalidUtf8 length =>
      unfold readRow at h
      split at h
      · cases h
        rfl
      · cases h
        rfl

theorem calm_addColumns (fields : List (Option String × ℕ)) (c : ResultCollector) :
    Calm (c.addColumns fields) := by
  induction fields generalizing c with
  | nil => exact calm_ok c
  | cons field fields ih =>
    rcases field with ⟨_ | name, typeOid⟩
    · exact calm_error rfl
    · rw [addColumns]
      cases h : ResultCollector.ensureCandidateFits _ with
      | ok u => exact ih _
      | error e => exact calm_error (calm_ensureCandidateFits h)

theorem calm_addTuples (tuples : List (List Cell)) (c : ResultCollector) : Calm (c.addTuples tuples) := by
  induction tuples generalizing c with
  | nil => exact calm_ok c
  | cons tuple tuples ih =>
    rw [addTuples]
    split
    · exact calm_error rfl
    · cases hr : readRow c.limits tuple with
      | error e => exact calm_error (calm_readRow hr)
      | ok row =>
        dsimp only
        cases h : ResultCollector.ensureCandidateFits _ with
        | ok u => exact ih _
        | error e => exact calm_error (calm_ensureCandidateFits h)

theorem calm_consumeRows (c : ResultCollector) (r : PgResult) : Calm (c.consumeRows r) := by
  unfold consumeRows
  split
  · exact calm_error rfl
  · split
    · have h := calm_addColumns r.columns c
      rcases hc : c.addColumns r.columns with ⟨_ | _, c'⟩
      · rw [hc] at h
        exact calm_error (h _ rfl)
      · exact calm_addTuples r.tuples c'
    · split
      · exact calm_error rfl
      · exact calm_addTuples r.tuples c

theorem calm_consumeAffected (c : ResultCollector) (r : PgResult) : Calm (c.consumeAffected r) := by
  unfold consumeAffected
  split
  · exact calm_error rfl
  · split
    · exact calm_ok c
    · split
      · exact calm_error rfl
      · dsimp only
        cases h : ResultCollector.ensureCandidateFits _ with
        | ok u => exact calm_ok _
        | error e => exact calm_error (calm_ensureCandidateFits h)

theorem calm_consumeCommand (c : ResultCollector) (r : PgResult) : Calm (c.consumeCommand r) := by
  unfold consumeCommand
  split
  · exact calm_error rfl
  · dsimp only
    cases h : ResultCollector.ensureCandidateFits _ with
    | ok u => exact calm_consumeAffected _ r
    | error e => exact calm_error (calm_ensureCandidateFits h)

end ResultCollector

/-- What the server sends is never rejected with the error of a control event. -/
theorem calm_consumeResult (c : ResultCollector) (r : PgResult) :
    ResultCollector.Calm (consumeResult c r) := by
  unfold consumeResult
  cases hs : r.status with
  | singleTuple | tuplesChunk => exact c.calm_consumeRows r
  | commandOk => exact c.calm_consumeCommand r
  | tuplesOk =>
    dsimp only
    have h := c.calm_consumeRows r
    rcases hc : c.consumeRows r with ⟨_ | _, c'⟩
    · rw [hc] at h
      exact ResultCollector.calm_error (h _ rfl)
    · exact c'.calm_consumeCommand r
  | copyIn | copyOut | copyBoth | fatalError | badResponse | nonfatalError | emptyQuery | pipelineSync
    | pipelineAborted => exact ResultCollector.calm_error rfl

/-! ### Control -/

section Control

variable {ctl : PollControl} {ctx : RequestContext} {w : Wire}

section Reads

variable {ε : Type} {V : ε → ℕ → Prop}

theorem stopping_timely : (ctx.stopping : Program Wire ε Bool).Timely Wire.tick V
    (fun b n => n = w.tick + 1 ∧ ctx.shutdown w.tick = b) w := .act (Nat.le_succ _) ⟨rfl, rfl⟩

theorem cancelled_timely : (ctx.cancelled : Program Wire ε Bool).Timely Wire.tick V
    (fun b n => n = w.tick + 1 ∧ ctx.cancellation w.tick = b) w := .act (Nat.le_succ _) ⟨rfl, rfl⟩

theorem clock_read_timely (c : Clock) : (c.read : Program Wire ε ℕ).Timely Wire.tick V
    (fun now n => n = w.tick + 1 ∧ now = c.now w.tick) w := .act (Nat.le_succ _) ⟨rfl, rfl⟩

theorem expired_timely : (ctx.expired : Program Wire ε Bool).Timely Wire.tick V
    (fun b n => n = w.tick + 1 ∧ decide (ctx.deadline ≤ ctx.clock.now w.tick) = b) w := by
  apply (clock_read_timely ctx.clock).bind
  rintro now w' _ ⟨hn, rfl⟩
  exact .pure ⟨hn, rfl⟩

/-- What the control object takes for a cancellation. -/
theorem PollControl.cancelled_timely (ctl : PollControl) :
    (ctl.cancelled : Program Wire ε Bool).Timely Wire.tick V
    (fun b n => b = true → w.tick < n ∧ ctl.context.cancellation w.tick = true ∨
      ctl.merges = true ∧ w.tick + 1 < n ∧ ctl.context.deadline ≤ ctl.context.clock.now (w.tick + 1)) w := by
  cases ctl with
  | noClientCancel ctx => exact .pure fun h => Bool.noConfusion h
  | libpq ctx =>
    apply PgMcp.cancelled_timely.bind
    rintro b w₁ _ ⟨hn, hb⟩
    cases b with
    | true => exact .pure fun _ => .inl ⟨by omega, hb⟩
    | false =>
      refine expired_timely.mono (fun _ _ h => h) ?_
      rintro b n ⟨hn', hb'⟩ rfl
      rw [hn] at hn' hb'
      exact .inr ⟨rfl, by omega, of_decide_eq_true hb'⟩

/-- A poll finds what it reads: shutdown first, then what counts as a cancellation, then the deadline. -/
theorem pollReason_truthful :
    (pollReason ctl ctl.context.deadline : Program Wire ε _).Timely Wire.tick V
      (fun found n => ∀ reason ∈ found, reason.Truthful ctl.context ctl.merges n) w := by
  unfold pollReason
  apply stopping_timely.bind
  rintro b w₁ _ ⟨hn, hb⟩
  cases b with
  | true =>
    refine .pure fun reason hreason => ?_
    cases hreason
    exact ⟨w.tick, by omega, hb⟩
  | false =>
    apply ctl.cancelled_timely.bind
    intro b w₂ hle hcancelled
    cases b with
    | true =>
      refine .pure fun reason hreason => ?_
      cases hreason
      rw [hn] at hcancelled
      rcases hcancelled rfl with ⟨hm, htoken⟩ | ⟨hmerged, hm, hdeadline⟩
      · exact ⟨w.tick, hm, hb, .inl htoken⟩
      · exact ⟨w.tick, by omega, hb, .inr ⟨hmerged, hm, hdeadline⟩⟩
    | false =>
      apply (clock_read_timely ctl.clock).bind
      rintro now w₃ _ ⟨hn₃, rfl⟩
      by_cases hd : ctl.context.deadline ≤ ctl.clock.now w₂.tick
      · simp only [if_pos hd]
        refine .pure fun reason hreason => ?_
        cases hreason
        exact ⟨w₂.tick, by omega, hd⟩
      · simp only [if_neg hd]
        refine .pure fun reason hreason => ?_
        cases hreason

end Reads

theorem checkControl_truthful :
    (checkControl ctl ctl.context.deadline).Timely Wire.tick (AdapterError.Truthful ctl)
    (fun _ _ => True) w := by
  unfold checkControl
  apply Timely.bind pollReason_truthful
  intro found w' _ hfound
  cases found with
  | none => exact .pure trivial
  | some reason => exact .fail (hfound reason rfl).error

/-- A look at the clock fails because the deadline it was given has passed. -/
theorem checkRemaining_timely {V : AdapterError → ℕ → Prop} {clock : Clock} {deadline : ℕ}
    (hexpired : ∀ m n, m < n → deadline ≤ clock.now m → V (AdapterError.new .deadlineExceeded).unknown n) :
    (checkRemaining clock deadline).Timely Wire.tick V (fun _ _ => True) w := by
  unfold checkRemaining
  apply (clock_read_timely clock).bind
  rintro now w' _ ⟨hn, rfl⟩
  by_cases hd : deadline ≤ clock.now w.tick
  · rw [if_pos hd]
    exact .fail (hexpired w.tick _ (by omega) hd)
  · rw [if_neg hd]
    exact .pure trivial

/-- A wait fails because the socket does, or because the deadline it was given has passed. -/
theorem pollFd_timely {V : AdapterError → ℕ → Prop} {clock : Clock} {deadline : ℕ}
    (hexpired : ∀ m n, m < n → deadline ≤ clock.now m → V (AdapterError.new .deadlineExceeded).unknown n)
    (hlost : ∀ n, V (AdapterError.new .connectionLost).unknown n) (poll : Poll) :
    (pollFd clock deadline poll).Timely Wire.tick V (fun _ _ => True) w := by
  have slice : ∀ {w : Wire},
      (checkRemaining clock deadline).Timely Wire.tick V (fun _ _ => True) w :=
    checkRemaining_timely hexpired
  induction poll generalizing w with
  | ready readable => exact slice.bind fun _ w' _ _ => .pure trivial
  | hangup | failed => exact slice.bind fun _ w' _ _ => .fail (hlost _)
  | timeout next ih => exact slice.bind fun _ w' _ _ => slice.bind fun _ w'' _ _ => ih
  | eintr next ih => exact slice.bind fun _ w' _ _ => ih

end Control

/-! ### The calls of libpq -/

section Calls

variable {V : AdapterError → ℕ → Prop} {w : Wire}

theorem log_timely {call : Call} : (log call).Timely Wire.tick V (fun _ n => n = w.tick) w :=
  .update le_rfl rfl

theorem setBusy_timely {busy : Bool} : (setBusy busy).Timely Wire.tick V (fun _ n => n = w.tick) w :=
  .update le_rfl rfl

theorem connected_timely : connected.Timely Wire.tick V (fun _ n => n = w.tick) w := .read rfl

theorem pqFlush_timely : pqFlush.Timely Wire.tick V (fun _ n => n = w.tick) w := by
  refine .act_still ?_
  split
  · rfl
  · split <;> rfl

theorem pqConsumeInput_timely : pqConsumeInput.Timely Wire.tick V (fun _ n => n = w.tick) w := by
  refine .act_still ?_
  split
  · rfl
  · split
    · rfl
    · split
      · rfl
      · rfl
      · split <;> rfl

theorem pqIsBusy_timely : pqIsBusy.Timely Wire.tick V (fun _ n => n = w.tick) w := .act_still rfl

theorem pqSocket_timely : pqSocket.Timely Wire.tick V (fun _ n => n = w.tick) w := by
  refine .act_still ?_
  split
  · rfl
  · split <;> rfl

theorem pqGetResult_timely : pqGetResult.Timely Wire.tick V (fun _ n => n = w.tick) w := by
  refine .act_still ?_
  split
  · rfl
  · split <;> rfl

theorem pqSendQueryParams_timely (sql : String) :
    (pqSendQueryParams sql).Timely Wire.tick V (fun _ n => n = w.tick) w := by
  refine .act_still ?_
  split
  · rfl
  · split
    · rfl
    · split <;> rfl

theorem pqSetSingleRowMode_timely (singleRow : Bool) :
    (pqSetSingleRowMode singleRow).Timely Wire.tick V (fun _ n => n = w.tick) w := by
  refine .act_still ?_
  split <;> rfl

theorem pqCancelCreate_timely : pqCancelCreate.Timely Wire.tick V (fun _ n => n = w.tick) w :=
  .act_still rfl

end Calls

/-! ### Giving up -/

section GivingUp

variable {α : Type} {V : AdapterError → ℕ → Prop} {P : α → ℕ → Prop} {w : Wire} {e : AdapterError}

theorem giveUp_timely {usable : Bool} (h : V e w.tick) :
    (giveUp usable e : Adapter α).Timely Wire.tick V P w :=
  Timely.bind (P := fun _ n => n = w.tick) (.update le_rfl rfl) fun _ _ _ hn => .fail (hn ▸ h)

theorem disposeAndFail_timely (h : V e w.tick) :
    (disposeAndFail e : Adapter α).Timely Wire.tick V P w :=
  Timely.bind (P := fun _ n => n = w.tick) (.update le_rfl rfl) fun _ _ _ hn => .fail (hn ▸ h)

end GivingUp

/-! ### Flushing -/

/-- The deadline of a request that has passed was read. -/
theorem truthful_of_expired {ctl : PollControl} (m n : ℕ) (hm : m < n)
    (hd : ctl.context.deadline ≤ ctl.clock.now m) :
    (AdapterError.new .deadlineExceeded).unknown.Truthful ctl n := by
  intro reason hreason
  cases reason <;> cases hreason
  exact ⟨m, hm, hd⟩

/-- A wait for the socket before the request's deadline. -/
theorem pollFd_truthful {ctl : PollControl} {w : Wire} (socket : Poll) :
    (pollFd ctl.clock ctl.context.deadline socket).Timely Wire.tick (AdapterError.Truthful ctl)
      (fun _ _ => True) w :=
  pollFd_timely truthful_of_expired (fun _ => AdapterError.truthful_of_calm rfl) socket

theorem flushOutput_truthful {ctl : PollControl} (rounds : ℕ) {w : Wire} :
    (flushOutput ctl ctl.context.deadline rounds).Timely Wire.tick (AdapterError.Truthful ctl)
      (fun _ _ => True) w := by
  have lost : ∀ n, (AdapterError.new .connectionLost).unknown.Truthful ctl n :=
    fun n => AdapterError.truthful_of_calm rfl
  induction rounds generalizing w with
  | zero => exact .outOfRounds
  | succ rounds ih =>
    unfold flushOutput
    apply pollReason_truthful.bind
    intro found w₁ _ hfound
    cases found with
    | some reason =>
      apply log_timely.bind
      rintro _ w₂ _ hn
      exact .fail (hn ▸ (hfound reason rfl).error)
    | none =>
      apply connected_timely.bind
      intro there w₂ _ _
      apply Timely.bind (P := fun _ _ => True) (.require (fun _ => trivial) fun _ => lost _)
      intro _ w₃ _ _
      apply pqFlush_timely.bind
      intro step w₄ _ _
      rcases step with _ | ⟨_ | socket, trouble⟩ | usable
      · exact .pure trivial
      · exact giveUp_timely (lost _)
      · apply (pollFd_truthful socket).attempt_bind
        intro r w₅ _ hr
        cases r with
        | error e => exact giveUp_timely hr
        | ok readable =>
          rcases readable with _ | _
          · exact ih
          · cases trouble with
            | none => exact ih
            | some usable => exact giveUp_timely (lost _)
      · exact giveUp_timely (lost _)

/-! ### Cancelling -/

section Cancelling

variable {V : AdapterError → ℕ → Prop} {clock : Clock} {reason : CancelReason} {deadline : ℕ} {w : Wire}

/-- What is said of an error of the wait is of no interest here: it is replaced. -/
theorem pollFd_passes (poll : Poll) :
    (pollFd clock deadline poll).Timely Wire.tick (fun _ _ => True) (fun _ _ => True) w :=
  pollFd_timely (fun _ _ _ _ => trivial) (fun _ => trivial) poll

theorem checkCancelDeadline_timely (hV : Monotone (V reason.error.unknown))
    (h : V reason.error.unknown w.tick) :
    (checkCancelDeadline clock reason deadline).Timely Wire.tick V (fun _ _ => True) w := by
  unfold checkCancelDeadline
  apply (clock_read_timely clock).bind
  intro now w' hle _
  by_cases hd : deadline ≤ now
  · rw [if_pos hd]
    exact disposeAndFail_timely (hV hle h)
  · rw [if_neg hd]
    exact .pure trivial

theorem cancelLoop_timely (hV : Monotone (V reason.error.unknown)) (poll : CancelPoll)
    (h : V reason.error.unknown w.tick) :
    (cancelLoop clock reason deadline poll).Timely Wire.tick V (fun _ _ => True) w := by
  induction poll generalizing w with
  | ok =>
    apply (checkCancelDeadline_timely hV h).bind
    intro _ w₁ _ _
    exact log_timely.bind fun _ w₂ _ _ => .pure trivial
  | failed =>
    apply (checkCancelDeadline_timely hV h).bind
    intro _ w₁ _ _
    exact log_timely.bind fun _ w₂ _ _ => .pure trivial
  | waiting socket next ih =>
    cases socket with
    | none =>
      apply (checkCancelDeadline_timely hV h).bind
      intro _ w₁ hle _
      exact disposeAndFail_timely (hV hle h)
    | some socket =>
      apply (checkCancelDeadline_timely hV h).bind
      intro _ w₁ hle _
      apply (pollFd_passes socket).attempt_bind
      intro r w₂ hle₂ _
      cases r with
      | error e => exact disposeAndFail_timely (hV (hle.trans hle₂) h)
      | ok readable => exact ih (hV (hle.trans hle₂) h)
  | active next ih =>
    apply (checkCancelDeadline_timely hV h).bind
    intro _ w₁ hle _
    exact ih (hV hle h)

/-- A cancel request fails with the error it was made for. -/
theorem dispatchCancel_timely (hV : Monotone (V reason.error.unknown))
    (h : V reason.error.unknown w.tick) :
    (dispatchCancel clock reason deadline).Timely Wire.tick V (fun _ _ => True) w := by
  unfold dispatchCancel
  apply connected_timely.bind
  intro there w₁ _ hn
  cases there with
  | false => exact .pure trivial
  | true =>
    apply pqCancelCreate_timely.bind
    intro script w₂ hle hn₂
    have h₂ : V reason.error.unknown w₂.tick := by
      rw [hn₂, hn]
      exact h
    cases script with
    | createFailed => exact disposeAndFail_timely h₂
    | startFailed => exact disposeAndFail_timely h₂
    | started socket next => exact cancelLoop_timely hV (.waiting socket next) h₂

theorem awaitIdle_passes (rounds : ℕ) :
    (awaitIdle clock deadline rounds).Timely Wire.tick (fun _ _ => True) (fun _ _ => True) w := by
  induction rounds generalizing w with
  | zero => exact .outOfRounds
  | succ rounds ih =>
    unfold awaitIdle
    apply connected_timely.bind
    intro there w₁ _ _
    cases there with
    | false => exact .pure trivial
    | true =>
      apply pqConsumeInput_timely.bind
      intro consumed w₂ _ _
      apply Timely.bind (P := fun _ _ => True) (.require (fun _ => trivial) fun _ => trivial)
      intro _ w₃ _ _
      apply pqIsBusy_timely.bind
      intro busy w₄ _ _
      cases busy with
      | false => exact .pure trivial
      | true =>
        apply pqSocket_timely.bind
        intro socket w₅ _ _
        cases socket with
        | none => exact .fail trivial
        | some socket => exact (pollFd_passes socket).bind fun _ w₆ _ _ => ih

theorem fetchIdle_passes (rounds : ℕ) :
    (fetchIdle rounds).Timely Wire.tick (fun _ _ => True) (fun _ _ => True) w := by
  induction rounds generalizing w with
  | zero => exact .outOfRounds
  | succ rounds ih =>
    apply pqGetResult_timely.bind
    intro result w₁ _ _
    cases result with
    | none => exact .pure trivial
    | some result => exact ih

theorem drainUntilIdle_passes (rounds : ℕ) :
    (drainUntilIdle clock rounds deadline).Timely Wire.tick (fun _ _ => True) (fun _ _ => True) w := by
  apply (awaitIdle_passes rounds).bind
  intro idle w₁ _ _
  cases idle with
  | false => exact .pure trivial
  | true => exact fetchIdle_passes rounds

/-- Whatever happens to the drain, its error is the one it was called with. -/
theorem cancelAndDrain_timely (hV : Monotone (V reason.error.unknown)) (rounds : ℕ)
    (h : V reason.error.unknown w.tick) :
    (cancelAndDrain clock rounds reason deadline).Timely Wire.tick V (fun _ _ => True) w := by
  apply (dispatchCancel_timely hV h).bind
  intro dispatched w₁ hle _
  apply (drainUntilIdle_passes rounds).attempt_bind
  intro r w₂ hle₂ _
  have h₂ := hV (hle.trans hle₂) h
  cases r with
  | error e => exact disposeAndFail_timely h₂
  | ok u =>
    cases dispatched with
    | true => exact .pure trivial
    | false => exact .fail h₂

end Cancelling

/-! ### Collecting -/

/-- The error to report, if one is recorded, is truthful. -/
def Observed.Truthful (ctl : PollControl) (seen : Observed) (n : ℕ) : Prop :=
  ∀ e ∈ seen.firstError, e.Truthful ctl n

section Collecting

variable {ctl : PollControl} {w : Wire} {seen : Observed}

theorem Observed.Truthful.lost {n : ℕ} (h : seen.Truthful ctl n) : seen.lost.Truthful ctl n := by
  unfold Observed.lost
  cases hseen : seen.firstError with
  | none => exact AdapterError.truthful_of_calm rfl
  | some e => exact h e hseen

theorem Observed.Truthful.monotone (ctl : PollControl) (seen : Observed) : Monotone (seen.Truthful ctl) :=
  fun _ _ hn h e he => AdapterError.Truthful.monotone ctl e hn (h e he)

theorem observeControl_truthful (h : seen.Truthful ctl w.tick) :
    (observeControl ctl ctl.context.deadline seen).Timely Wire.tick (AdapterError.Truthful ctl)
      (fun seen n => seen.Truthful ctl n) w := by
  unfold observeControl
  cases hseen : seen.firstError with
  | some e => exact .pure h
  | none =>
    apply pollReason_truthful.bind
    intro found w₁ hle hfound
    cases found with
    | none => exact .pure (Observed.Truthful.monotone ctl seen hle h)
    | some reason =>
      have hreason : reason.error.unknown.Truthful ctl w₁.tick := (hfound reason rfl).error
      have hlast := AdapterError.Truthful.monotone ctl reason.error.unknown
      apply log_timely.bind
      intro _ w₂ hle₂ _
      apply (clock_read_timely ctl.clock).bind
      intro now w₃ hle₃ _
      apply (dispatchCancel_timely hlast (hlast (hle₂.trans hle₃) hreason)).bind
      intro dispatched w₄ hle₄ _
      refine .pure fun e he => ?_
      cases he
      exact hlast (hle₂.trans (hle₃.trans hle₄)) hreason

theorem awaitResult_truthful (rounds : ℕ) (h : seen.Truthful ctl w.tick) :
    (awaitResult ctl ctl.context.deadline rounds seen).Timely Wire.tick (AdapterError.Truthful ctl)
      (fun seen n => seen.Truthful ctl n) w := by
  have lost : ∀ n, (AdapterError.new .connectionLost).unknown.Truthful ctl n :=
    fun n => AdapterError.truthful_of_calm rfl
  induction rounds generalizing w seen with
  | zero => exact .outOfRounds
  | succ rounds ih =>
    unfold awaitResult
    apply (observeControl_truthful h).bind
    intro seen w₁ _ h₁
    apply connected_timely.bind
    intro there w₂ hle₂ _
    apply Timely.bind (P := fun _ _ => True) (.require (fun _ => trivial) fun _ => lost _)
    intro _ w₃ hle₃ _
    apply pqConsumeInput_timely.bind
    intro consumed w₄ hle₄ _
    have h₄ := Observed.Truthful.monotone ctl seen (hle₂.trans (hle₃.trans hle₄)) h₁
    cases consumed with
    | false =>
      apply setBusy_timely.bind
      intro _ w₅ _ _
      apply Timely.bind (P := fun _ _ => True) (.read trivial)
      intro usable w₆ _ _
      exact giveUp_timely (lost _)
    | true =>
      apply pqIsBusy_timely.bind
      intro busy w₅ hle₅ _
      have h₅ := Observed.Truthful.monotone ctl seen hle₅ h₄
      cases busy with
      | false => exact .pure h₅
      | true =>
        apply pqSocket_timely.bind
        intro socket w₆ hle₆ _
        have h₆ := Observed.Truthful.monotone ctl seen hle₆ h₅
        cases socket with
        | none => exact disposeAndFail_timely h₆.lost
        | some socket =>
          apply (pollFd_passes socket).attempt_bind
          intro r w₇ hle₇ _
          have h₇ := Observed.Truthful.monotone ctl seen hle₇ h₆
          cases r with
          | error e => exact disposeAndFail_timely h₇.lost
          | ok readable => exact ih h₇

/-- The first error is kept: one recorded by a poll is that of a control event, one recorded by a
result is not. -/
theorem fetchResults_truthful (rounds : ℕ) (collector : ResultCollector) {firstError : Option AdapterError}
    (h : ∀ e ∈ firstError, e.Truthful ctl w.tick) :
    (fetchResults rounds collector firstError).Timely Wire.tick (AdapterError.Truthful ctl)
      (fun _ _ => True) w := by
  induction rounds generalizing w collector firstError with
  | zero => exact .outOfRounds
  | succ rounds ih =>
    unfold fetchResults
    apply pqGetResult_timely.bind
    intro result w₁ hle _
    have h₁ : ∀ e ∈ firstError, e.Truthful ctl w₁.tick :=
      fun e he => AdapterError.Truthful.monotone ctl e hle (h e he)
    cases result with
    | none =>
      apply setBusy_timely.bind
      intro _ w₂ hle₂ _
      apply Timely.ofExcept
      cases firstError with
      | none => exact trivial
      | some e => exact AdapterError.Truthful.monotone ctl e hle₂ (h₁ e rfl)
    | some result =>
      have hcalm := calm_consumeResult collector result
      rcases hconsumed : consumeResult collector result with ⟨e | u, collector'⟩
      · rw [hconsumed] at hcalm
        simp only [hconsumed]
        by_cases hcopy : e.errorClass = .copyUnsupported
        · rw [if_pos hcopy]
          exact disposeAndFail_timely (AdapterError.truthful_of_calm rfl)
        · rw [if_neg hcopy]
          refine ih collector' fun e' he' => ?_
          cases firstError with
          | none =>
            cases he'
            exact AdapterError.truthful_of_calm (hcalm e rfl)
          | some e₀ =>
            cases he'
            exact h₁ e₀ rfl
      · simp only [hconsumed]
        exact ih collector' h₁

theorem collectResults_truthful (rounds : ℕ) (limits : QueryLimits) :
    (collectResults rounds limits ctl.context.deadline ctl).Timely Wire.tick (AdapterError.Truthful ctl)
      (fun _ _ => True) w := by
  apply (flushOutput_truthful rounds).bind
  intro _ w₁ _ _
  apply (awaitResult_truthful rounds (fun e he => by cases he)).bind
  intro seen w₂ _ hseen
  exact fetchResults_truthful rounds (.new limits) hseen

end Collecting

/-! ### Calls -/

theorem calm_validateParameters {parameters : List Parameter} {limits : QueryLimits} {e : AdapterError}
    (h : validateParameters parameters limits = .error e) : e.errorClass.interrupts = false := by
  have total : ∀ {n : ℕ} {e : AdapterError}, valueTotal n parameters = .error e →
      e.errorClass.interrupts = false := by
    clear h
    induction parameters with
    | nil => intro n e h; cases h
    | cons p parameters ih =>
      intro n e h
      unfold valueTotal at h
      split at h
      · exact ih h
      · split at h
        · cases h
          rfl
        · split at h
          · cases h
            rfl
          · exact ih h
  unfold validateParameters at h
  split at h
  · cases h
    rfl
  · split at h
    · next e' htotal =>
      cases h
      exact total htotal
    · split at h
      · cases h
        rfl
      · cases h

section Calls

variable (ctl : PollControl) {w : Wire} (rounds : ℕ)

theorem sendChecked_truthful (sql : String) (limits : QueryLimits) (singleRow : Bool) :
    (sendChecked rounds sql limits singleRow ctl.context.deadline ctl).Timely Wire.tick
      (AdapterError.Truthful ctl) (fun _ _ => True) w := by
  have calm : ∀ {e : AdapterError} {n : ℕ}, e.errorClass.interrupts = false → e.Truthful ctl n :=
    fun h => AdapterError.truthful_of_calm h
  unfold sendChecked
  apply checkControl_truthful.bind
  intro _ w₁ _ _
  apply connected_timely.bind
  intro there w₂ _ _
  apply Timely.bind (P := fun _ _ => True) (.require (fun _ => trivial) fun _ => calm rfl)
  intro _ w₃ _ _
  apply (pqSendQueryParams_timely sql).bind
  intro sent w₄ _ _
  apply Timely.bind (P := fun _ _ => True) (.require (fun _ => trivial) fun _ => calm rfl)
  intro _ w₅ _ _
  apply setBusy_timely.bind
  intro _ w₆ _ _
  apply (pqSetSingleRowMode_timely singleRow).bind
  intro single w₇ _ _
  cases single with
  | true =>
    apply (collectResults_truthful rounds limits).attempt_bind
    intro r w₈ _ hr
    apply setBusy_timely.bind
    intro _ w₉ hle₉ _
    exact .ofExcept (hr.later (AdapterError.Truthful.monotone ctl) (fun _ _ _ _ h => h) hle₉)
  | false =>
    -- the statement is drained as if it had been cancelled, which is not what is reported
    apply Timely.attempt_bind (cancelAndDrain_timely (V := fun _ _ => True) (fun _ _ _ h => h) rounds trivial)
    intro r w₈ _ _
    exact .fail (calm rfl)

/-- The entry at the end of a call takes no time. -/
theorem leaving_timely {α : Type} {x : Adapter α}
    (hx : x.Timely Wire.tick (AdapterError.Truthful ctl) (fun _ _ => True) w) :
    (leaving x).Timely Wire.tick (AdapterError.Truthful ctl) (fun _ _ => True) w := by
  apply hx.attempt_bind
  intro r w₁ _ hr
  apply log_timely.bind
  intro _ w₂ hle _
  exact .ofExcept (hr.later (AdapterError.Truthful.monotone ctl) (fun _ _ _ _ h => h) hle)

/-- An interruption of a client's query is truthful. -/
theorem query_truthful (sql : String) (parameters : List Parameter) (limits : QueryLimits) :
    (Connection.query rounds sql parameters limits ctl.context.deadline ctl).Timely Wire.tick
      (AdapterError.Truthful ctl) (fun _ _ => True) w := by
  have calm : ∀ {e : AdapterError} {n : ℕ}, e.errorClass.interrupts = false → e.Truthful ctl n :=
    fun h => AdapterError.truthful_of_calm h
  apply leaving_timely ctl
  apply Timely.bind (P := fun _ _ => True) (.require (fun _ => trivial) fun _ => calm rfl)
  intro _ w₁ _ _
  apply Timely.bind (P := fun _ _ => True)
  · apply Timely.ofExcept
    cases hparameters : validateParameters parameters limits with
    | ok u => exact trivial
    | error e => exact calm (calm_validateParameters hparameters)
  · intro _ w₂ _ _
    apply Timely.bind (P := fun _ _ => True) (.require (fun _ => trivial) fun _ => calm rfl)
    intro _ w₃ _ _
    exact sendChecked_truthful ctl rounds sql limits true

/-- An interruption of a statement of the worker is truthful. -/
theorem execute_truthful (sql : String) :
    (Connection.execute rounds sql ctl.context.deadline ctl).Timely Wire.tick (AdapterError.Truthful ctl)
      (fun _ _ => True) w := by
  have calm : ∀ {e : AdapterError} {n : ℕ}, e.errorClass.interrupts = false → e.Truthful ctl n :=
    fun h => AdapterError.truthful_of_calm h
  apply leaving_timely ctl
  apply Timely.bind (P := fun _ _ => True) (.require (fun _ => trivial) fun _ => calm rfl)
  intro _ w₁ _ _
  apply Timely.bind (P := fun _ _ => True)
  · apply Timely.ofExcept
    cases hparameters : validateParameters [] (.unbounded sql.utf8ByteSize) with
    | ok u => exact trivial
    | error e => exact calm (calm_validateParameters hparameters)
  · intro _ w₂ _ _
    apply Timely.bind (P := fun _ _ => True) (.require (fun _ => trivial) fun _ => calm rfl)
    intro _ w₃ _ _
    exact sendChecked_truthful ctl rounds sql (.unbounded sql.utf8ByteSize) false

end Calls

end PgMcp
