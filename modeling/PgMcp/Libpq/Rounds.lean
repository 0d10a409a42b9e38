import PgMcp.Libpq.Exchange

/-!
# Rounds of the adapter's loops

The loops take the number of rounds they may run.  More rounds return the same, and
the rounds needed are bounded by what is left to flush and to read of the statement in
flight; only `drain_until_idle` has no such bound, since it fetches COPY results again
and again.

## Main results

* `flushOutput_le`, `awaitResult_le`, `fetchResults_le`, `cancelAndDrain_le`, `query_le`
  — more rounds return the same.
* `execute_terminates` — every call of `execute` ends.
-/

namespace PgMcp

open Program

/-! ### More rounds return the same -/

section Le

variable {ctl : PollControl} {clock : Clock} {deadline : ℕ}

theorem flushOutput_le {m n : ℕ} (hmn : m ≤ n) :
    (flushOutput ctl deadline m).Le (flushOutput ctl deadline n) := by
  induction m generalizing n with
  | zero => exact .outOfRounds _
  | succ m ih =>
    obtain ⟨n, rfl⟩ : ∃ k, n = k + 1 := ⟨n - 1, by omega⟩
    rw [flushOutput, flushOutput]
    refine .bind (.refl _) fun found => ?_
    cases found with
    | some reason => exact .refl _
    | none =>
      refine .bind (.refl _) fun _ => .bind (.refl _) fun _ => .bind (.refl _) fun step => ?_
      rcases step with _ | ⟨_ | socket, trouble⟩ | usable
      · exact .refl _
      · exact .refl _
      · refine .bind (.refl _) fun result => ?_
        rcases result with e | readable
        · exact .refl _
        · cases readable <;> cases trouble
          · exact ih (by omega)
          · exact ih (by omega)
          · exact ih (by omega)
          · exact .refl _
      · exact .refl _

theorem awaitResult_le {m n : ℕ} (hmn : m ≤ n) (seen : Observed) :
    (awaitResult ctl deadline m seen).Le (awaitResult ctl deadline n seen) := by
  induction m generalizing n seen with
  | zero => exact .outOfRounds _
  | succ m ih =>
    obtain ⟨n, rfl⟩ : ∃ k, n = k + 1 := ⟨n - 1, by omega⟩
    rw [awaitResult, awaitResult]
    refine .bind (.refl _) fun seen => .bind (.refl _) fun _ => .bind (.refl _) fun _ =>
      .bind (.refl _) fun consumed => ?_
    cases consumed with
    | false => exact .refl _
    | true =>
      simp only [if_true]
      refine .bind (.refl _) fun busy => ?_
      cases busy with
      | false => exact .refl _
      | true =>
        simp only [if_true]
        refine .bind (.refl _) fun socket => ?_
        cases socket with
        | none => exact .refl _
        | some socket =>
          refine .bind (.refl _) fun result => ?_
          cases result with
          | error e => exact .refl _
          | ok readable => exact ih (by omega) seen

theorem fetchResults_le {m n : ℕ} (hmn : m ≤ n) (collector : ResultCollector)
    (firstError : Option AdapterError) :
    (fetchResults m collector firstError).Le (fetchResults n collector firstError) := by
  induction m generalizing n collector firstError with
  | zero => exact .outOfRounds _
  | succ m ih =>
    obtain ⟨n, rfl⟩ : ∃ k, n = k + 1 := ⟨n - 1, by omega⟩
    rw [fetchResults, fetchResults]
    refine .bind (.refl _) fun result => ?_
    cases result with
    | none => exact .refl _
    | some r =>
      dsimp only
      rcases consumeResult collector r with ⟨_ | _, collector'⟩
      · dsimp only
        split
        · exact .refl _
        · exact ih (by omega) _ _
      · exact ih (by omega) _ _

theorem awaitIdle_le {m n : ℕ} (hmn : m ≤ n) :
    (awaitIdle clock deadline m).Le (awaitIdle clock deadline n) := by
  induction m generalizing n with
  | zero => exact .outOfRounds _
  | succ m ih =>
    obtain ⟨n, rfl⟩ : ∃ k, n = k + 1 := ⟨n - 1, by omega⟩
    rw [awaitIdle, awaitIdle]
    refine .bind (.refl _) fun isConnected => ?_
    cases isConnected with
    | false => exact .refl _
    | true =>
      simp only [if_true]
      refine .bind (.refl _) fun _ => .bind (.refl _) fun _ => .bind (.refl _) fun busy => ?_
      cases busy with
      | false => exact .refl _
      | true =>
        simp only [if_true]
        refine .bind (.refl _) fun socket => ?_
        cases socket with
        | none => exact .refl _
        | some socket => exact .bind (.refl _) fun _ => ih (by omega)

theorem fetchIdle_le {m n : ℕ} (hmn : m ≤ n) : (fetchIdle m).Le (fetchIdle n) := by
  induction m generalizing n with
  | zero => exact .outOfRounds _
  | succ m ih =>
    obtain ⟨n, rfl⟩ : ∃ k, n = k + 1 := ⟨n - 1, by omega⟩
    rw [fetchIdle, fetchIdle]
    refine .bind (.refl _) fun result => ?_
    cases result with
    | none => exact .refl _
    | some r => exact ih (by omega)

theorem collectResults_le {m n : ℕ} (hmn : m ≤ n) (limits : QueryLimits) :
    (collectResults m limits deadline ctl).Le (collectResults n limits deadline ctl) := by
  rw [collectResults, collectResults]
  exact .bind (flushOutput_le hmn) fun _ => .bind (awaitResult_le hmn _) fun _ =>
    fetchResults_le hmn _ _

theorem drainUntilIdle_le {m n : ℕ} (hmn : m ≤ n) :
    (drainUntilIdle clock m deadline).Le (drainUntilIdle clock n deadline) := by
  rw [drainUntilIdle, drainUntilIdle]
  refine .bind (awaitIdle_le hmn) fun isConnected => ?_
  cases isConnected with
  | false => exact .refl _
  | true => exact fetchIdle_le hmn

theorem cancelAndDrain_le {m n : ℕ} (hmn : m ≤ n) (reason : CancelReason) :
    (cancelAndDrain clock m reason deadline).Le (cancelAndDrain clock n reason deadline) := by
  rw [cancelAndDrain, cancelAndDrain]
  exact .bind (.refl _) fun _ => .bind (.attempt (drainUntilIdle_le hmn)) fun _ => .refl _

theorem sendChecked_le {m n : ℕ} (hmn : m ≤ n) (sql : String) (limits : QueryLimits)
    (singleRow : Bool) : (sendChecked m sql limits singleRow deadline ctl).Le
      (sendChecked n sql limits singleRow deadline ctl) := by
  rw [sendChecked, sendChecked]
  refine .bind (.refl _) fun _ => .bind (.refl _) fun _ => .bind (.refl _) fun _ =>
    .bind (.refl _) fun _ => .bind (.refl _) fun _ => .bind (.refl _) fun _ =>
    .bind (.refl _) fun rows => ?_
  cases rows with
  | true => exact .bind (.attempt (collectResults_le hmn limits)) fun _ => .refl _
  | false => exact .bind (.attempt (cancelAndDrain_le hmn _)) fun _ => .refl _

theorem leaving_le {α : Type} {x y : Adapter α} (h : x.Le y) : (leaving x).Le (leaving y) := by
  rw [leaving, leaving]
  exact .bind (.attempt h) fun _ => .refl _

theorem query_le {m n : ℕ} (hmn : m ≤ n) (sql : String) (parameters : List Parameter)
    (limits : QueryLimits) : (Connection.query m sql parameters limits deadline ctl).Le
      (Connection.query n sql parameters limits deadline ctl) := by
  rw [Connection.query, Connection.query, sendQuery, sendQuery]
  exact leaving_le (.bind (.refl _) fun _ => .bind (.refl _) fun _ => .bind (.refl _) fun _ =>
    sendChecked_le hmn sql limits true)

theorem execute_le {m n : ℕ} (hmn : m ≤ n) (sql : String) :
    (Connection.execute m sql deadline ctl).Le (Connection.execute n sql deadline ctl) := by
  rw [Connection.execute, Connection.execute, sendAndCollect, sendAndCollect]
  exact leaving_le (.bind (.refl _) fun _ => .bind (.refl _) fun _ => .bind (.refl _) fun _ =>
    sendChecked_le hmn sql _ false)

end Le

/-! ### Programs without loops over the response end -/

section Terminates

variable {ε : Type} {ctl : PollControl} {clock : Clock} {deadline : ℕ} {c : PgConn} {s : Statement}
  {w : Wire}

theorem pollReason_terminates (ctl : PollControl) (deadline : ℕ) (w : Wire) :
    (pollReason ctl deadline : Program Wire ε _).Terminates w := by
  have read : ∀ (clock : Clock) (w : Wire), (clock.read : Program Wire ε ℕ).Terminates w :=
    fun clock w => terminates_act _
  have cancelled : ∀ w : Wire, (ctl.cancelled : Program Wire ε Bool).Terminates w := by
    intro w
    cases ctl with
    | noClientCancel ctx => exact terminates_pure _
    | libpq ctx =>
      refine terminates_bind (terminates_act _) fun b w' _ => ?_
      cases b with
      | true => exact terminates_pure _
      | false => exact terminates_bind (read _ _) fun _ _ _ => terminates_pure _
  refine terminates_bind (terminates_act _) fun b w₁ _ => ?_
  cases b with
  | true => exact terminates_pure _
  | false =>
    refine terminates_bind (cancelled w₁) fun b w₂ _ => ?_
    cases b with
    | true => exact terminates_pure _
    | false =>
      refine terminates_bind (read _ _) fun now w₃ _ => ?_
      split <;> exact terminates_pure _

theorem checkControl_terminates (ctl : PollControl) (deadline : ℕ) (w : Wire) :
    (checkControl ctl deadline).Terminates w := by
  refine terminates_bind (pollReason_terminates ctl deadline w) fun found w' _ => ?_
  cases found with
  | none => exact terminates_pure _
  | some reason => exact terminates_fail _

theorem pollFd_terminates (clock : Clock) (deadline : ℕ) (poll : Poll) (w : Wire) :
    (pollFd clock deadline poll).Terminates w := by
  have slice : ∀ {α : Type} {rest : Adapter α} {w : Wire}, (∀ w', rest.Terminates w') →
      (do checkRemaining clock deadline; rest : Adapter α).Terminates w := by
    intro α rest w hrest
    refine terminates_bind ?_ fun _ w' _ => hrest w'
    refine terminates_bind (terminates_act _) fun now w' _ => ?_
    split
    · exact terminates_fail _
    · exact terminates_pure _
  induction poll generalizing w with
  | ready readable => exact slice fun _ => terminates_pure _
  | hangup | failed => exact slice fun _ => terminates_fail _
  | timeout next ih => exact slice fun _ => slice fun w' => ih w'
  | eintr next ih => exact slice fun w' => ih w'

theorem disposeAndFail_terminates {α : Type} (e : AdapterError) (w : Wire) :
    (disposeAndFail e : Adapter α).Terminates w :=
  terminates_bind (terminates_update _) fun _ _ _ => terminates_fail _

theorem giveUp_terminates {α : Type} (usable : Bool) (e : AdapterError) (w : Wire) :
    (giveUp usable e : Adapter α).Terminates w :=
  terminates_bind (terminates_update _) fun _ _ _ => terminates_fail _

theorem dispatchCancel_terminates (clock : Clock) (reason : CancelReason) (deadline : ℕ) (w : Wire) :
    (dispatchCancel clock reason deadline).Terminates w := by
  have round : ∀ {rest : Adapter Bool} {w : Wire}, (∀ w', rest.Terminates w') →
      (do checkCancelDeadline clock reason deadline; rest : Adapter Bool).Terminates w := by
    intro rest w hrest
    refine terminates_bind ?_ fun _ w' _ => hrest w'
    refine terminates_bind (terminates_act _) fun now w' _ => ?_
    split
    · exact disposeAndFail_terminates _ _
    · exact terminates_pure _
  have loop : ∀ (poll : CancelPoll) (w : Wire),
      (cancelLoop clock reason deadline poll).Terminates w := by
    intro poll
    induction poll with
    | ok | failed => intro w; exact round fun _ => terminates_pure _
    | waiting socket next ih =>
      intro w
      cases socket with
      | none => exact round fun _ => disposeAndFail_terminates _ _
      | some socket =>
        refine round fun w' => terminates_bind (terminates_attempt (pollFd_terminates _ _ _ _)) ?_
        intro result w'' _
        cases result with
        | error e => exact disposeAndFail_terminates _ _
        | ok readable => exact ih w''
    | active next ih => intro w; exact round fun w' => ih w'
  refine terminates_bind (terminates_read _) fun isConnected w₁ _ => ?_
  cases isConnected with
  | false => exact terminates_pure _
  | true =>
    refine terminates_bind (terminates_act _) fun script w₂ _ => ?_
    cases script with
    | createFailed | startFailed => exact disposeAndFail_terminates _ _
    | started socket next => exact loop _ _

theorem observeControl_terminates (ctl : PollControl) (deadline : ℕ) (seen : Observed) (w : Wire) :
    (observeControl ctl deadline seen).Terminates w := by
  unfold observeControl
  cases seen.firstError with
  | some e => exact terminates_pure _
  | none =>
    refine terminates_bind (pollReason_terminates ctl deadline w) fun found w₁ _ => ?_
    cases found with
    | none => exact terminates_pure _
    | some reason =>
      exact terminates_bind (terminates_update _) fun _ _ _ =>
        terminates_bind (terminates_act _) fun _ _ _ =>
        terminates_bind (dispatchCancel_terminates _ _ _ _) fun _ _ _ => terminates_pure _

/-! ### Loops over the response end -/

/-- Each round but the last takes an answer off the flush. -/
theorem flushOutput_terminates {rounds : ℕ} (hconn : w.conn = some (c.carrying s))
    (hrounds : s.flush.length < rounds) : (flushOutput ctl deadline rounds).Terminates w := by
  induction rounds generalizing s w with
  | zero => omega
  | succ rounds ih =>
    rw [flushOutput]
    refine (pollReason_terminates ctl deadline w).bind (pollReason_post ctl deadline w) ?_
    rintro found w₁ ⟨ht, -⟩
    have hconn₁ := ht.conn.trans hconn
    cases found with
    | some reason => exact terminates_fail _
    | none =>
      simp only [connected, pqFlush, terminates_read_bind, terminates_require_bind,
        terminates_act_bind, Wire.statement_carrying hconn₁]
      intro _
      cases hflush : s.flush with
      | nil => exact terminates_pure _
      | cons step steps =>
        rw [hflush, List.length_cons] at hrounds
        have hconn₂ := Wire.withStatement_carrying { s with flush := steps } hconn₁
        rcases step with ⟨_ | socket, trouble⟩ | usable
        · exact giveUp_terminates _ _ _
        · refine (pollFd_terminates _ _ socket _).attempt_bind (pollFd_post _ _ socket _) ?_
          rintro result w₂ ⟨ht', -⟩
          have hnext := ih (ht'.conn.trans hconn₂) (by simpa using hrounds)
          rcases result with e | readable
          · exact giveUp_terminates _ _ _
          · cases readable <;> cases trouble
            · exact hnext
            · exact hnext
            · exact hnext
            · exact giveUp_terminates _ _ _
        · exact giveUp_terminates _ _ _

/-- Recording a control event leaves the connection as it was, or fails. -/
theorem observeControl_conn (hsome : w.conn.isSome = true) (seen : Observed) :
    (observeControl ctl deadline seen).Post w fun r w' => ∀ seen', r = .ok seen' →
      w'.conn = w.conn := by
  rw [observeControl]
  cases seen.firstError with
  | some e => exact fun _ _ => rfl
  | none =>
    refine (pollReason_post ctl deadline w).bind ?_ fun _ _ _ => by simp
    rintro found w₁ ⟨ht, -⟩
    cases found with
    | none => exact fun _ _ => ht.conn
    | some reason =>
      simp only [log, Clock.read, post_bind, post_update, post_act, andThen_ok]
      rw [← post_bind]
      refine (dispatchCancel_post (by simpa [Wire.logged, ht.conn] using hsome)).bind ?_ fun _ _ _ => by simp
      rintro b w₂ (⟨_, hconn₂, -, -⟩ | _)
      intro seen' _
      exact hconn₂.trans ht.conn

/-- Each round but the last takes a delay off the response. -/
theorem awaitResult_terminates {rounds : ℕ} (hok : c.ok = true)
    (hconn : w.conn = some (c.carrying s)) (hrounds : s.events.length < rounds)
    (seen : Observed) : (awaitResult ctl deadline rounds seen).Terminates w := by
  induction rounds generalizing s w seen with
  | zero => omega
  | succ rounds ih =>
    rw [awaitResult]
    refine (observeControl_terminates ctl deadline seen w).bind
      (observeControl_conn (by rw [hconn]; rfl) seen) ?_
    intro seen₁ w₁ hkeep
    have hconn₁ := (hkeep seen₁ rfl).trans hconn
    simp only [connected, terminates_read_bind, terminates_require_bind]
    intro _
    refine Terminates.bind (terminates_act _) (pqConsumeInput_post hok hconn₁) ?_
    rintro consumed w₂ (⟨h, rfl, htrouble⟩ | ⟨usable, events, h, -, -, -⟩)
    · cases h
      simp only [if_true, pqIsBusy, terminates_act_bind, Wire.events_carrying hconn₁]
      cases hevents : s.events with
      | nil => exact terminates_pure _
      | cons event events =>
        rw [hevents, List.length_cons] at hrounds
        cases event with
        | result r => exact terminates_pure _
        | trouble usable => exact absurd hevents (htrouble usable events)
        | busy socket =>
          have hconn₂ : (w₂.logged (.isBusy true)).conn = some (c.carrying s) := hconn₁
          have hconn₃ := Wire.withStatement_carrying { s with events := events } hconn₂
          simp only [isBusy, if_true, pqSocket, terminates_act_bind,
            Wire.statement_carrying hconn₂, hevents]
          cases socket with
          | none => exact disposeAndFail_terminates _ _
          | some socket =>
            refine (pollFd_terminates _ _ socket _).attempt_bind (pollFd_post _ _ socket _) ?_
            rintro result w₄ ⟨ht, -⟩
            rcases result with e | readable
            · exact disposeAndFail_terminates _ _
            · exact ih (ht.conn.trans hconn₃) (by simpa using hrounds) seen₁
    · cases h
      exact giveUp_terminates _ _ _

theorem arrival_result_length {r : PgResult} {rest : List Event} : ∀ {events : List Event},
    arrival events = .result r rest → rest.length < events.length
  | [], h => by cases h
  | .busy _ :: events, h =>
    have h : arrival events = .result r rest := h
    (arrival_result_length h).trans (Nat.lt_succ_self _)
  | .trouble _ :: _, h => by cases h
  | .result _ :: _, h => by cases h; exact Nat.lt_succ_self _

theorem arrival_trouble_length {usable : Bool} {events : List Event}
    (h : arrival events = .trouble usable) : 0 < events.length := by
  cases events with
  | nil => cases h
  | cons event events => exact Nat.succ_pos _

/-- Each fetch but the last takes a result off the response; COPY ends the loop. -/
theorem fetchResults_terminates {rounds : ℕ} (hconn : w.conn = some (c.carrying s))
    (hrounds : s.events.length < rounds) (collector : ResultCollector)
    (firstError : Option AdapterError) :
    (fetchResults rounds collector firstError).Terminates w := by
  suffices h : ∀ (gets : List Call) (c₁ : PgConn) (s₁ : Statement) (w₁ : Wire)
      (collector : ResultCollector) (firstError : Option AdapterError),
      Fetching c s w gets c₁ s₁ w₁ → s₁.events.length < rounds →
      (fetchResults rounds collector firstError).Terminates w₁ from
    h [] c s w collector firstError (.start hconn) hrounds
  clear hrounds collector firstError
  induction rounds with
  | zero => intro gets c₁ s₁ w₁ collector firstError _ h; omega
  | succ rounds ih =>
    intro gets c₁ s₁ w₁ collector firstError hfetch hrounds
    rw [fetchResults]
    refine Terminates.bind (terminates_act _) (pqGetResult_post hfetch) ?_
    rintro result w₂ (⟨h, -, -⟩ | ⟨usable, h, harr, hfetch₂⟩ | ⟨r, rest, h, harr, hfetch₂⟩)
    · cases h
      exact terminates_ofExcept _
    · cases h
      have hpos := arrival_trouble_length harr
      dsimp only
      rcases consumeResult collector .readFailed with ⟨e | _, collector'⟩
      · dsimp only
        split
        · exact disposeAndFail_terminates _ _
        · exact ih _ _ _ _ _ _ hfetch₂ (by simp only [List.length_nil]; omega)
      · exact ih _ _ _ _ _ _ hfetch₂ (by simp only [List.length_nil]; omega)
    · cases h
      have hlen := arrival_result_length harr
      dsimp only
      cases hcopy : r.status.isCopy with
      | true =>
        rw [consumeResult_copy hcopy]
        exact disposeAndFail_terminates _ _
      | false =>
        simp only [hcopy, Bool.false_eq_true, if_false] at hfetch₂
        rcases consumeResult collector r with ⟨e | _, collector'⟩
        · dsimp only
          split
          · exact disposeAndFail_terminates _ _
          · exact ih _ _ _ _ _ _ hfetch₂ (by dsimp only; omega)
        · exact ih _ _ _ _ _ _ hfetch₂ (by dsimp only; omega)

/-- What has arrived is no more than what was to come. -/
theorem Arrived.length_le {rest events : List Event} (h : Arrived rest)
    (harr : arrival rest = arrival events) : rest.length ≤ events.length := by
  unfold Arrived at h
  split at h
  · exact Nat.zero_le _
  · exact arrival_result_length harr.symm
  · exact h.elim

/-- The rounds that suffice for a statement: what is left to flush and to read. -/
def Statement.rounds (s : Statement) : ℕ := s.flush.length + s.events.length + 1

/-- Collecting a response needs as many rounds as the statement has answers. -/
theorem collectResults_terminates {rounds : ℕ} (hok : c.ok = true)
    (hconn : w.conn = some (c.carrying s)) (hrounds : s.rounds ≤ rounds) (limits : QueryLimits) :
    (collectResults rounds limits deadline ctl).Terminates w := by
  unfold Statement.rounds at hrounds
  rw [collectResults]
  refine (flushOutput_terminates hconn (by omega)).bind (flushOutput_post hok hconn rounds) ?_
  rintro u w₁ (⟨flush, hconn₁, -⟩ | _ | _)
  refine (awaitResult_terminates (s := { s with flush := flush }) hok hconn₁
    (by dsimp only; omega) _).bind (awaitResult_post hok hconn₁ rounds) ?_
  rintro seen w₂ (⟨_, waits, rest, -, harr, harrived, hconn₂, -⟩ | _ | _)
  have hle := harrived.length_le harr
  dsimp only at hle
  exact fetchResults_terminates hconn₂ (by dsimp only; omega) _ _

/-- The rounds that suffice for the next statement. -/
def Wire.nextRounds (w : Wire) : ℕ :=
  match w.scripts with
  | .accept answer :: _ => (answer.statement "").rounds
  | _ => 0

theorem leaving_terminates {α : Type} {x : Adapter α} (h : x.Terminates w) :
    (leaving x).Terminates w :=
  terminates_bind (terminates_attempt h) fun _ _ _ => terminates_ofExcept _

/-- A statement whose single-row mode is not refused needs as many rounds as its answer has. -/
theorem sendChecked_terminates {rounds : ℕ} {singleRow : Bool} (sql : String) (limits : QueryLimits)
    (hrounds : w.nextRounds ≤ rounds) (hmode : singleRow = true → ∀ answer rest,
      w.scripts = .accept answer :: rest → answer.singleRow = true) :
    (sendChecked rounds sql limits singleRow deadline ctl).Terminates w := by
  rw [sendChecked]
  refine (checkControl_terminates ctl deadline w).bind (checkControl_post ctl deadline w) ?_
  rintro u w₁ ⟨ht, -⟩
  simp only [connected, terminates_read_bind, terminates_require_bind]
  intro hsome
  obtain ⟨c, hc⟩ := Option.isSome_iff_exists.mp hsome
  refine Terminates.bind (terminates_act _) (pqSendQueryParams_post hc) ?_
  rintro sent w₂ ⟨-, ⟨h, -⟩ | ⟨answer, h, hok, -, ⟨rest, hnext⟩, hconn₂, -⟩⟩
  · cases h
    exact terminates_bind (terminates_require _ _) fun _ _ h => by cases h
  · cases h
    have hconn₃ : ({ w₂ with busy := true } : Wire).conn =
      some (c.carrying (answer.statement sql)) := hconn₂
    rw [ht.scripts] at hnext
    have hmode₃ : (!singleRow || ({ w₂ with busy := true } : Wire).statement.any (·.singleRow)) = true := by
      rw [Wire.statement_carrying hconn₃]
      cases singleRow with
      | false => rfl
      | true => exact hmode rfl answer rest hnext
    simp only [setBusy, pqSetSingleRowMode, terminates_require_bind, terminates_update_bind,
      terminates_act_bind, hmode₃, if_true]
    intro _
    refine terminates_bind (terminates_attempt (collectResults_terminates hok hconn₃ ?_ _))
      fun _ _ _ => terminates_ofExcept _
    simpa [Wire.nextRounds, hnext, Statement.rounds, Answer.statement] using hrounds

/-- A call that does not ask for single-row mode needs as many rounds as the answer
to its statement has. -/
theorem execute_terminates {rounds : ℕ} (sql : String) (hrounds : w.nextRounds ≤ rounds) :
    (Connection.execute rounds sql deadline ctl).Terminates w := by
  rw [Connection.execute, sendAndCollect]
  refine leaving_terminates ?_
  simp only [terminates_require_bind, terminates_ofExcept_bind]
  intro _ _ _ _
  exact sendChecked_terminates sql _ hrounds nofun

end Terminates

end PgMcp
