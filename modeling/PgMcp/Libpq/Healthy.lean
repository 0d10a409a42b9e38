import PgMcp.Lib.Total
import PgMcp.Libpq.Rounds
import PgMcp.Libpq.Stream

/-!
# A healthy exchange

When no control event is raised and neither the socket nor libpq fails, a statement is sent,
its response is read to the final NULL whatever the delays in between, and the outcome is
what the collector makes of the results.

## Main definitions

* `PollControl.Calm` — no control event is ever raised.
* `Answer.Healthy` — an answer without failures.

## Main results

* `sendChecked_healthy` — a statement with a healthy answer returns what is collected.
-/

namespace PgMcp

open Program

/-! ### Calm requests and healthy answers -/

/-- No control event is ever raised. -/
def PollControl.Calm (ctl : PollControl) (deadline : ℕ) : Prop := ∀ n, ¬ ctl.Raised deadline n

/-- The socket becomes ready. -/
def Poll.Responds : Poll → Prop
  | .ready _ => True
  | .hangup | .failed => False
  | .timeout next | .eintr next => next.Responds

def FlushStep.Responds : FlushStep → Prop
  | .pending (some socket) none => socket.Responds
  | _ => False

def Event.Responds : Event → Prop
  | .busy (some socket) => socket.Responds
  | .busy none | .trouble _ => False
  | .result _ => True

/-- An answer in which the socket and libpq do not fail. -/
structure Answer.Healthy (answer : Answer) : Prop where
  singleRow : answer.singleRow = true
  flush : ∀ step ∈ answer.flush, step.Responds
  events : ∀ event ∈ answer.events, event.Responds

/-- A usable connection with no statement in flight. -/
def Wire.Rests (w : Wire) : Prop := ∃ c, w.conn = some c ∧ c.ok = true ∧ c.inFlight = none

/-- The answers to come are the same. -/
def SameScripts (w w' : Wire) : Prop := w'.scripts = w.scripts

instance : Std.Refl SameScripts := ⟨fun _ => rfl⟩

instance : IsTrans Wire SameScripts := ⟨fun _ _ _ h h' => h'.trans h⟩

theorem fetchResults_scripts (rounds : ℕ) (collector : ResultCollector) (first : Option AdapterError) :
    (fetchResults rounds collector first).Within SameScripts := by
  have hget : pqGetResult.Within SameScripts := by
    intro w
    unfold pqGetResult
    simp only [post_act, SameScripts]
    split
    · rfl
    · split <;> rfl
  have hupdate : ∀ {f : Wire → Wire}, (∀ w, (f w).scripts = w.scripts) →
      (update f : Adapter Unit).Within SameScripts := fun hf w => post_update.mpr (hf w)
  induction rounds generalizing collector first with
  | zero => exact fun w => trivial
  | succ rounds ih =>
    rw [fetchResults]
    refine Within.bind hget fun result => ?_
    cases result with
    | none => exact Within.bind (hupdate fun _ => rfl) fun _ => Within.ofExcept _
    | some r =>
      dsimp only
      rcases consumeResult collector r with ⟨e | _, collector'⟩
      · dsimp only
        split
        · exact Within.bind (hupdate fun _ => rfl) fun _ => Within.fail _
        · exact ih _ _
      · exact ih _ _

section Calm

variable {ctl : PollControl} {deadline : ℕ} (calm : ctl.Calm deadline)

include calm

theorem PollControl.Calm.now_lt (n : ℕ) : ctl.clock.now n < deadline := by
  by_contra h
  exact calm n (.inr (.inr (not_lt.mp h)))

theorem pollReason_of_calm {ε : Type} (w : Wire) :
    (pollReason ctl deadline : Program Wire ε _).Post w fun r w' => Ticked w w' ∧ r = .ok none := by
  refine (pollReason_post ctl deadline w).mono ?_
  rintro r w' ⟨ht, found, rfl, hsome, -⟩
  cases found with
  | none => exact ⟨ht, rfl⟩
  | some reason => exact absurd (hsome rfl) (calm _)

theorem checkRemaining_calm (w : Wire) :
    (checkRemaining ctl.clock deadline).Post w fun r w' => Ticked w w' ∧ r = .ok () := by
  simp only [checkRemaining, Clock.read, post_bind, post_act, andThen_ok]
  rw [if_neg (not_le.mpr (calm.now_lt w.tick))]
  exact ⟨⟨1, rfl⟩, rfl⟩

/-- A socket that becomes ready is waited for. -/
theorem pollFd_calm {poll : Poll} (responds : poll.Responds) (w : Wire) :
    (pollFd ctl.clock deadline poll).Post w fun r w' => Ticked w w' ∧ ∃ readable, r = .ok readable := by
  have slice : ∀ {rest : Adapter Bool} {w : Wire},
      (∀ w', Ticked w w' → rest.Post w' fun r w'' => Ticked w w'' ∧ ∃ readable, r = .ok readable) →
      (do checkRemaining ctl.clock deadline; rest : Adapter Bool).Post w fun r w'' =>
        Ticked w w'' ∧ ∃ readable, r = .ok readable := by
    intro rest w hrest
    refine (checkRemaining_calm calm w).bind (fun _ w' h => hrest w' h.1) ?_
    rintro e w' ⟨-, h⟩
    cases h
  induction poll generalizing w with
  | ready readable =>
    rw [pollFd]
    exact slice fun w' ht => ⟨ht, readable, rfl⟩
  | hangup | failed => exact responds.elim
  | timeout next ih =>
    rw [pollFd]
    refine slice fun w₁ ht => Post.mono (slice fun w₂ ht' => (ih responds w₂).mono fun r w₃ h => ?_)
      fun r w₃ h => ⟨ht.trans h.1, h.2⟩
    exact ⟨ht'.trans h.1, h.2⟩
  | eintr next ih =>
    rw [pollFd]
    exact slice fun w₁ ht => (ih responds w₁).mono fun r w₂ h => ⟨ht.trans h.1, h.2⟩

variable {c : PgConn} {s : Statement} {w : Wire}

/-- Everything is sent. -/
theorem flushOutput_calm (hconn : w.conn = some (c.carrying s)) (hflush : ∀ step ∈ s.flush, step.Responds)
    (rounds : ℕ) :
    (flushOutput ctl deadline rounds).Post w fun r w' => r = .ok () ∧
      (∃ flush, w'.conn = some (c.carrying { s with flush := flush })) ∧ w'.scripts = w.scripts := by
  induction rounds generalizing s w with
  | zero => trivial
  | succ rounds ih =>
    rw [flushOutput]
    refine (pollReason_of_calm calm w).bind ?_ (by rintro e w' ⟨-, h⟩; cases h)
    rintro found w₁ ⟨ht, h⟩
    cases h
    have hconn₁ := ht.conn.trans hconn
    simp only [connected, post_bind, post_read, andThen_ok, post_require, hconn₁, Option.isSome_some,
      Bool.true_eq_false, false_imp_iff, and_true, true_imp_iff]
    simp only [pqFlush, post_act, Wire.statement_carrying hconn₁]
    cases hsteps : s.flush with
    | nil => exact ⟨rfl, ⟨s.flush, hconn₁⟩, ht.scripts⟩
    | cons step steps =>
      rw [hsteps, List.forall_mem_cons] at hflush
      have hconn₂ := Wire.withStatement_carrying { s with flush := steps } hconn₁
      simp only [andThen_ok]
      rcases step with ⟨_ | socket, _ | usable⟩ | usable
      · exact hflush.1.elim
      · exact hflush.1.elim
      · dsimp only
        refine (pollFd_calm calm hflush.1 _).attempt_bind ?_
        rintro r w₃ ⟨ht', readable, rfl⟩
        have hscripts : w₃.scripts = w.scripts := ht'.scripts.trans ht.scripts
        have hrest := (ih (s := { s with flush := steps }) (ht'.conn.trans hconn₂) hflush.2).mono
          fun r w' h => (⟨h.1, h.2.1, h.2.2.trans hscripts⟩ : r = .ok () ∧ (∃ flush, w'.conn =
            some (c.carrying { s with flush := flush })) ∧ w'.scripts = w.scripts)
        cases readable <;> exact hrest
      · exact hflush.1.elim
      · exact hflush.1.elim

/-- The next result comes, and no error is recorded. -/
theorem awaitResult_calm (hok : c.ok = true) (hconn : w.conn = some (c.carrying s))
    (hevents : ∀ event ∈ s.events, event.Responds) (rounds : ℕ) :
    (awaitResult ctl deadline rounds { firstError := none, drainDeadline := deadline }).Post w
      fun r w' => r = .ok { firstError := none, drainDeadline := deadline } ∧
        (∃ rest, arrival rest = arrival s.events ∧ w'.conn = some (c.carrying { s with events := rest })) ∧
        w'.scripts = w.scripts := by
  induction rounds generalizing s w with
  | zero => trivial
  | succ rounds ih =>
    rw [awaitResult]
    have hobserve : (observeControl ctl deadline { firstError := none, drainDeadline := deadline }).Post w
        fun r w' => Ticked w w' ∧ r = .ok { firstError := none, drainDeadline := deadline } := by
      rw [observeControl]
      refine (pollReason_of_calm calm w).bind ?_ (by rintro e w' ⟨-, h⟩; cases h)
      rintro found w₁ ⟨ht, h⟩
      cases h
      exact ⟨ht, rfl⟩
    refine hobserve.bind ?_ (by rintro e w' ⟨-, h⟩; cases h)
    rintro seen w₁ ⟨ht, h⟩
    cases h
    have hconn₁ := ht.conn.trans hconn
    simp only [connected, post_bind, post_read, andThen_ok, post_require, hconn₁, Option.isSome_some,
      Bool.true_eq_false, false_imp_iff, and_true, true_imp_iff]
    have hconsume : pqConsumeInput.Post w₁ fun r w' => r = .ok true ∧ w' = w₁ := by
      simp only [pqConsumeInput, post_act, hconn₁, PgConn.carrying_ok, PgConn.carrying_activity, hok,
        Bool.not_true, Bool.false_eq_true, if_false]
      split
      · next usable events h =>
        rw [h, List.forall_mem_cons] at hevents
        exact hevents.1.elim
      · exact ⟨rfl, rfl⟩
    refine hconsume.mono ?_
    rintro r w₂ ⟨rfl, rfl⟩
    simp only [andThen_ok, if_true, pqIsBusy, post_bind, post_act]
    rw [Wire.events_carrying hconn₁]
    cases hlist : s.events with
    | nil => exact ⟨rfl, ⟨s.events, by rw [hlist], hconn₁⟩, ht.scripts⟩
    | cons event events =>
      rw [hlist, List.forall_mem_cons] at hevents
      cases event with
      | result r => exact ⟨rfl, ⟨s.events, by rw [hlist], hconn₁⟩, ht.scripts⟩
      | trouble usable => exact hevents.1.elim
      | busy socket =>
        have hconn₂ : (w₂.logged (.isBusy true)).conn = some (c.carrying s) := hconn₁
        have hconn₃ := Wire.withStatement_carrying { s with events := events } hconn₂
        simp only [isBusy, andThen_ok, if_true, pqSocket, post_bind, post_act,
          Wire.statement_carrying hconn₂, hlist]
        cases socket with
        | none => exact hevents.1.elim
        | some socket =>
          dsimp only
          refine (pollFd_calm calm hevents.1 _).attempt_bind ?_
          rintro r w₄ ⟨ht', readable, rfl⟩
          have hscripts : w₄.scripts = w.scripts := ht'.scripts.trans ht.scripts
          refine (ih (s := { s with events := events }) (ht'.conn.trans hconn₃) hevents.2).mono ?_
          rintro r w' ⟨hr, hrest, hscripts'⟩
          exact ⟨hr, hrest, hscripts'.trans hscripts⟩

/-- The collection of a healthy response returns what is collected. -/
theorem collectResults_healthy (hok : c.ok = true) (hlost : s.lost = false) (htag : s.tag = "")
    (hconn : w.conn = some (c.carrying s)) (hflush : ∀ step ∈ s.flush, step.Responds)
    (hevents : ∀ event ∈ s.events, event.Responds) (rounds : ℕ) (limits : QueryLimits) :
    (collectResults rounds limits deadline ctl).Post w fun r w' =>
      r = collectAll (.new limits) none (received s.events) ∧ w'.scripts = w.scripts ∧
        ∀ rs, r = .ok rs → w'.Rests := by
  rw [collectResults]
  refine (flushOutput_calm calm hconn hflush rounds).bind ?_ (by rintro e w' ⟨h, -⟩; cases h)
  rintro u w₁ ⟨-, ⟨flush, hconn₁⟩, hscripts₁⟩
  refine (awaitResult_calm (s := { s with flush := flush }) calm hok hconn₁ hevents rounds).bind ?_
    (by rintro e w' ⟨h, -⟩; cases h)
  rintro seen w₂ ⟨h, ⟨rest, harr, hconn₂⟩, hscripts₂⟩
  cases h
  refine post_iff.mpr fun r w₃ hr => ?_
  have hcollect := (fetchResults_collects hconn₂ rounds (.new limits) none).returns hr
  rw [received_congr harr] at hcollect
  refine ⟨hcollect, ((fetchResults_scripts rounds _ _ w₂).returns hr).trans (hscripts₂.trans hscripts₁), ?_⟩
  rintro rs rfl
  have hpost := (fetchResults_post (s := { s with flush := flush, events := rest }) rounds none limits hlost
    htag hconn₂).returns hr
  generalize hrs : Except.ok rs = r at hpost
  cases hpost with
  | copied => cases hrs
  | drained gets completion drained _ ok =>
    obtain ⟨-, rfl, -⟩ := ok rs hrs.symm
    exact ⟨_, drained.conn, hok, rfl⟩

/-- A statement with a healthy answer returns what is collected. -/
theorem sendChecked_healthy {sql : String} {limits : QueryLimits} {singleRow : Bool} {answer : Answer}
    {rest : List Script} (rests : w.Rests) (next : w.scripts = .accept answer :: rest)
    (healthy : answer.Healthy) (rounds : ℕ) :
    (sendChecked rounds sql limits singleRow deadline ctl).Post w fun r w' =>
      r = collectAll (.new limits) none (received answer.events) ∧ w'.scripts = rest ∧
        ∀ rs, r = .ok rs → w'.Rests := by
  obtain ⟨c, hconn, hok, hfree⟩ := rests
  rw [sendChecked, checkControl]
  simp only [post_bind]
  refine (pollReason_of_calm calm w).mono ?_
  rintro r w₁ ⟨ht, rfl⟩
  have hconn₁ := ht.conn.trans hconn
  simp only [andThen_ok, post_pure, connected, post_bind, post_read, post_require, hconn₁,
    Option.isSome_some, Bool.true_eq_false, false_imp_iff, and_true, true_imp_iff]
  have hsend : pqSendQueryParams sql w₁ = .ok true
      (({ w₁ with
          conn := some (c.carrying (answer.statement sql))
          scripts := rest } : Wire).logged (.send sql c.xact)) := by
    have hidle : (!c.ok || c.inFlight.isSome) = false := by rw [hok, hfree]; rfl
    simp only [pqSendQueryParams, act, hconn₁, hidle, ht.scripts, next]
    rfl
  rw [Post, hsend]
  simp only [andThen_ok, post_require, true_imp_iff, Bool.true_eq_false, false_imp_iff, and_true, setBusy,
    post_bind, post_update, pqSetSingleRowMode, post_act]
  have hmode : (!singleRow || (Wire.statement { (({ w₁ with
      conn := some (c.carrying (answer.statement sql))
      scripts := rest } : Wire).logged (.send sql c.xact)) with busy := true }).any
        (·.singleRow)) = true := by
    rw [Wire.statement_carrying rfl]
    simp [Answer.statement, healthy.singleRow]
  rw [if_pos hmode]
  simp only [andThen_ok, if_true, post_bind, post_attempt]
  refine (collectResults_healthy (s := answer.statement sql) calm hok rfl rfl rfl healthy.flush healthy.events
    rounds limits).mono ?_
  rintro r w' ⟨hr, hscripts, hrests⟩
  simp only [andThen_ok, post_update, post_ofExcept]
  exact ⟨hr, hscripts, hrests⟩

end Calm

/-! ### Queries and commands -/

/-- A statement is empty, longer than the limit, or has an embedded NUL. -/
def unsendable (sql : String) (limit : ℕ) : Bool :=
  sql.isEmpty || limit < sql.utf8ByteSize || hasNul sql

section Total

variable {ctl : PollControl} {deadline rounds : ℕ} {w : Wire}

/-- The rounds suffice for every answer to come. -/
def Wire.Provided (w : Wire) (rounds : ℕ) : Prop :=
  ∀ answer, .accept answer ∈ w.scripts → (answer.statement "").rounds ≤ rounds

theorem Wire.Provided.suffix {w' : Wire} (h : w.Provided rounds) (hsuffix : w'.scripts <:+ w.scripts) :
    w'.Provided rounds := fun answer hanswer => h answer (hsuffix.subset hanswer)

theorem Wire.Provided.nextRounds_le (h : w.Provided rounds) : w.nextRounds ≤ rounds := by
  unfold Wire.nextRounds
  split
  · next answer rest hscripts => exact h answer (by rw [hscripts]; simp)
  · exact Nat.zero_le _

theorem leaving_total {α : Type} {x : Adapter α} {Q : Except AdapterError α → Wire → Prop}
    (h : x.Total w fun r w' => Q r (w'.logged .leave)) : (leaving x).Total w Q := by
  rw [leaving]
  refine Total.attempt_bind h fun r w' hQ => ?_
  exact total_of_post (terminates_bind (terminates_update _) fun _ _ _ => terminates_ofExcept _)
    (by simpa [log] using hQ)

theorem sendChecked_total {sql : String} {limits : QueryLimits} {singleRow : Bool} {answer : Answer}
    {rest : List Script} (calm : ctl.Calm deadline) (rests : w.Rests)
    (next : w.scripts = .accept answer :: rest) (healthy : answer.Healthy) (provided : w.Provided rounds) :
    (leaving (sendChecked rounds sql limits singleRow deadline ctl)).Total w fun r w' =>
      r = collectAll (.new limits) none (received answer.events) ∧ w'.scripts = rest ∧
        ∀ rs, r = .ok rs → w'.Rests := by
  refine leaving_total (total_of_post (sendChecked_terminates sql limits provided.nextRounds_le ?_)
    (sendChecked_healthy calm rests next healthy rounds))
  intro _ answer' rest' hnext
  rw [next] at hnext
  cases hnext
  exact healthy.singleRow

/-- What a query without parameters makes of the results of its statement. -/
def queried (sql : String) (limits : QueryLimits) (results : List PgResult) : Except AdapterError ResultSet :=
  if unsendable sql limits.sqlBytes then .error (.new .invalidInput)
  else collectAll (.new limits) none results

/-- A query with a healthy answer. -/
theorem query_total {sql : String} {limits : QueryLimits} {answer : Answer} {rest : List Script}
    (calm : ctl.Calm deadline) (rests : w.Rests) (next : w.scripts = .accept answer :: rest)
    (healthy : answer.Healthy) (provided : w.Provided rounds) :
    (Connection.query rounds sql [] limits deadline ctl).Total w fun r w' =>
      r = queried sql limits (received answer.events) ∧ w'.scripts <:+ w.scripts ∧
        ∀ rs, r = .ok rs → w'.Rests ∧ w'.scripts = rest := by
  have hsuffix : rest <:+ w.scripts := by
    rw [next]
    exact List.suffix_cons _ _
  rw [Connection.query, sendQuery, queried]
  cases hsql : unsendable sql limits.sqlBytes with
  | true =>
    have hchecks : (sql.isEmpty || limits.sqlBytes < sql.utf8ByteSize || hasNul sql) = true := hsql
    rw [hchecks]
    exact ⟨.error (.new .invalidInput), w.logged .leave, rfl, rfl, List.suffix_refl _, (by simp)⟩
  | false =>
    have hchecks : (sql.isEmpty || limits.sqlBytes < sql.utf8ByteSize || hasNul sql) = false := hsql
    rw [hchecks]
    refine (sendChecked_total calm rests next healthy provided).mono ?_
    rintro r w' ⟨hr, hscripts, hrests⟩
    exact ⟨hr, hscripts ▸ hsuffix, fun rs hrs => ⟨hrests rs hrs, hscripts⟩⟩

/-- A result that carries only a tag. -/
def PgResult.command (tag : String) : PgResult where
  status := .commandOk
  cmdStatus := some tag
  shape := PgResult.noTuples

/-- A command whose answer carries only a tag. -/
theorem execute_total {sql tag : String} {answer : Answer} {rest : List Script} (calm : ctl.Calm deadline)
    (rests : w.Rests) (next : w.scripts = .accept answer :: rest) (healthy : answer.Healthy)
    (provided : w.Provided rounds) (sendable : hasNul sql = false)
    (answered : received answer.events = [.command tag])
    (collected : collectAll (.new (.unbounded sql.utf8ByteSize)) none [.command tag] =
      .ok { columns := [], rows := [], commandTag := tag, affectedRows := none }) :
    (Connection.execute rounds sql deadline ctl).Total w fun r w' =>
      r = .ok { columns := [], rows := [], commandTag := tag, affectedRows := none } ∧ w'.Rests ∧
        w'.scripts = rest := by
  rw [Connection.execute, sendAndCollect, sendable]
  refine (sendChecked_total calm rests next healthy provided).mono ?_
  rintro r w' ⟨hr, hscripts, hrests⟩
  rw [answered, collected] at hr
  exact ⟨hr, hrests _ hr, hscripts⟩

end Total

end PgMcp
