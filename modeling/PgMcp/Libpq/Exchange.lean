import PgMcp.Libpq.Response

/-!
# One statement

What a call of `Connection::query` or `Connection::execute` does, put together from
its phases: nothing is sent, or the statement is sent and ends in one of five ways.
Only two of them, an interrupted flush and a failure that leaves the statement in
flight, do not settle the statement.

## Main definitions

* `Ending` — how a statement that was sent ends.
* `Exchange` — how a call ends.

## Main results

* `execute_post`, `query_post` — every call ends as `Exchange` says.
-/

namespace PgMcp

open Program

/-- Entries added between the send and the end of a statement. -/
def Call.inner : Call → Bool
  | .observed _ | .isBusy _ | .cancelCreate | .cancelPolled _ | .singleRowRefused => true
  | .getResult _ (.result _) | .getResult _ (.broken _) => true
  | _ => false

/-- Entries of a statement that succeeds. -/
def Call.smooth : Call → Bool
  | .isBusy _ | .cancelCreate | .cancelPolled _ => true
  | .getResult _ (.result status) => status.accepted
  | _ => false

/-- How the statement `s`, sent on `c`, ends.  `last` is the entry that ends it and
`mid` are the entries before. -/
inductive Ending (ctl : PollControl) (deadline : ℕ) (c : PgConn) (s : Statement) :
    Call → List Call → Except AdapterError ResultSet → Wire → Prop
  /-- A control event is observed while flushing: the statement stays in flight, and
  the error does not say so. -/
  | interrupted {w' : Wire} (reason : CancelReason) (flush : List FlushStep)
      (conn : w'.conn = some (c.carrying { s with flush := flush }))
      (raised : ctl.Raised deadline w'.tick) :
      Ending ctl deadline c s (.interrupted reason) [] (.error reason.error) w'
  /-- The socket or libpq fails: the statement stays in flight. -/
  | failed {w' : Wire} (e : AdapterError) (usable : Bool) (flush : List FlushStep)
      (events : List Event) (mid : List Call) (unknown : e.outcomeUnknown = true)
      (whole : mid.any Call.breaks = false)
      (conn : w'.conn = some { c.carrying { s with flush := flush, events := events } with
        ok := usable }) :
      Ending ctl deadline c s (.failed usable) mid (.error e) w'
  /-- The connection is disposed. -/
  | disposed {w' : Wire} (e : AdapterError) (mid : List Call) (unknown : e.outcomeUnknown = true)
      (conn : w'.conn = none) : Ending ctl deadline c s .finish mid (.error e) w'
  /-- The response is fetched to the final NULL. -/
  | drained {r : Except AdapterError ResultSet} {w' : Wire} (blocked : Bool)
      (completion : Option Completion) (mid : List Call)
      (conn : w'.conn = some (c.drained s mid completion))
      (whole : completion.isSome = true → mid.any Call.breaks = false)
      (answer : ∀ done, completion = some done → done.after = s.after ∧ done.commits = s.commits)
      (ok : ∀ rs, r = .ok rs → completion = some ⟨rs.commandTag, s.commits, s.after⟩ ∧
        ∀ call ∈ mid, call.smooth = true)
      (known : ∀ e, r = .error e → e.outcomeUnknown = false → .singleRowRefused ∉ mid)
      (unknown : ∀ e, r = .error e → e.outcomeUnknown = true →
        ctl.Raised deadline w'.tick ∨ .singleRowRefused ∈ mid) :
      Ending ctl deadline c s (.getResult blocked (.null completion)) mid r w'

/-- How a call for `sql` ends. -/
inductive Exchange (ctl : PollControl) (deadline : ℕ) (sql : String) (w : Wire) :
    Except AdapterError ResultSet → Wire → Prop
  /-- Nothing is sent. -/
  | unsent {w' : Wire} (e : AdapterError) (pre : List Call) (known : e.outcomeUnknown = false)
      (refused : ∀ call ∈ pre, ∃ usable, call = .refused usable)
      (conn : w'.conn = w.conn ∧ pre ⊆ [.refused (w.conn.any (·.ok))] ∨
        ∃ c, w.conn = some c ∧ pre = [.refused false] ∧ w'.conn = some { c with ok := false })
      (calls : w'.calls = .leave :: pre ++ w.calls) : Exchange ctl deadline sql w (.error e) w'
  /-- The statement is sent, in a moment in which no control event is raised. -/
  | sent {r : Except AdapterError ResultSet} {w' : Wire} (c : PgConn) (answer : Answer)
      (last : Call) (mid : List Call) (conn : w.conn = some c) (usable : c.ok = true)
      (free : c.inFlight = none) (next : ∃ rest, w.scripts = .accept answer :: rest)
      (quiet : ¬ ctl.Raised deadline w.tick)
      (inner : ∀ call ∈ mid, call.inner = true)
      (calls : w'.calls = .leave :: last :: mid ++ .send sql c.xact :: w.calls)
      (ending : Ending ctl deadline c (answer.statement sql) last mid r w') :
      Exchange ctl deadline sql w r w'

section Ending

variable {ctl : PollControl} {deadline : ℕ} {c : PgConn} {s : Statement} {last : Call}
  {mid : List Call} {r : Except AdapterError ResultSet} {w w' : Wire}

/-- The busy flag and the trace play no part in how a statement ended. -/
theorem Ending.congr (h : Ending ctl deadline c s last mid r w) (hconn : w'.conn = w.conn)
    (htick : w'.tick = w.tick) : Ending ctl deadline c s last mid r w' := by
  cases h with
  | interrupted reason flush conn raised =>
    exact .interrupted reason flush (hconn.trans conn) (by rwa [htick])
  | failed e usable flush events mid unknown whole conn =>
    exact .failed e usable flush events mid unknown whole (hconn.trans conn)
  | disposed e mid unknown conn => exact .disposed e mid unknown (hconn.trans conn)
  | drained blocked completion mid conn whole answer ok known unknown =>
    exact .drained blocked completion mid (hconn.trans conn) whole answer ok known (by rwa [htick])

/-- The statement sent on `c` has ended; `mid` and `last` are its entries. -/
def Ended (ctl : PollControl) (deadline : ℕ) (c : PgConn) (s : Statement) (w : Wire)
    (r : Except AdapterError ResultSet) (w' : Wire) : Prop :=
  ∃ last mid, (∀ call ∈ mid, call.inner = true) ∧ w'.calls = last :: mid ++ w.calls ∧
    Ending ctl deadline c s last mid r w'

end Ending

/-! ### Membership in traces -/

/-- Entries added while a response is collected. -/
def Call.collecting (call : Call) : Bool := call.waiting || call.fetched

theorem collecting_of_waiting {calls : List Call} (h : ∀ call ∈ calls, call.waiting = true) :
    ∀ call ∈ calls, call.collecting = true := fun call hcall => by
  rw [Call.collecting, h call hcall, Bool.true_or]

theorem collecting_of_fetched {calls : List Call} (h : ∀ call ∈ calls, call.fetched = true) :
    ∀ call ∈ calls, call.collecting = true := fun call hcall => by
  rw [Call.collecting, h call hcall, Bool.or_true]

theorem breaks_of_waiting {calls : List Call} (h : ∀ call ∈ calls, call.waiting = true) :
    calls.any Call.breaks = false := by
  rw [List.any_eq_false]
  intro call hcall
  have := h call hcall
  cases call <;> simp_all [Call.waiting, Call.breaks]

theorem inner_of_fetched {calls : List Call} (h : ∀ call ∈ calls, call.fetched = true) :
    ∀ call ∈ calls, call.inner = true := by
  intro call hcall
  have := h call hcall
  unfold Call.fetched at this
  split at this <;> first | rfl | cases this

theorem inner_of_collecting {calls : List Call} (h : ∀ call ∈ calls, call.collecting = true) :
    ∀ call ∈ calls, call.inner = true := by
  intro call hcall
  rcases Bool.or_eq_true_iff.mp (h call hcall) with hwaiting | hfetched
  · cases call <;> simp_all [Call.waiting, Call.inner]
  · have hone : ∀ other ∈ [call], other.fetched = true := by simpa using hfetched
    exact inner_of_fetched hone call (by simp)

theorem inner_of_cancelling {calls : List Call} (h : ∀ call ∈ calls, call.cancelling = true) :
    ∀ call ∈ calls, call.inner = true := by
  intro call hcall
  have := h call hcall
  cases call <;> simp_all [Call.cancelling, Call.inner]

theorem breaks_of_cancelling {calls : List Call} (h : ∀ call ∈ calls, call.cancelling = true) :
    calls.any Call.breaks = false := by
  rw [List.any_eq_false]
  intro call hcall
  have := h call hcall
  cases call <;> simp_all [Call.cancelling, Call.breaks]

/-- Fetches in which libpq broke decide alone whether the connection is still usable. -/
theorem drained_append {c : PgConn} {s : Statement} {gets rest : List Call}
    {completion : Option Completion} (hrest : rest.any Call.breaks = false) :
    c.drained s gets completion = c.drained s (gets ++ rest) completion := by
  cases completion <;> simp [PgConn.drained, hrest]

/-! ### The statement -/

section Collect

variable {ctl : PollControl} {deadline : ℕ} {c : PgConn} {s : Statement} {w : Wire}

/-- Collecting the response to a statement that was just sent. -/
theorem collectResults_ends (hok : c.ok = true) (hlost : s.lost = false) (htag : s.tag = "")
    (hconn : w.conn = some (c.carrying s)) (rounds : ℕ) (limits : QueryLimits) :
    (collectResults rounds limits deadline ctl).Post w fun r w' =>
      ∃ last mid, (∀ call ∈ mid, call.collecting = true) ∧ w'.calls = last :: mid ++ w.calls ∧
        Ending ctl deadline c s last mid r w' := by
  rw [collectResults]
  -- the three phases; the first two can end the exchange
  refine (flushOutput_post hok hconn rounds).bind ?_ ?_
  swap
  · rintro e w₁ (_ | ⟨reason, flush, conn, calls, raised⟩ | ⟨_, usable, flush, unknown, conn, calls⟩)
    · exact ⟨_, [], by simp, calls, .interrupted reason flush conn raised⟩
    · exact ⟨_, [], by simp, calls, .failed e usable flush s.events [] unknown rfl conn⟩
  rintro u w₁ (⟨flush, hconn₁, hcalls₁⟩ | _ | _)
  refine (awaitResult_post (s := { s with flush := flush }) hok hconn₁ rounds).bind ?_ ?_
  swap
  · rintro e w₂ (_ | ⟨_, usable, waits, rest, unknown, waiting, conn, calls⟩ |
      ⟨_, waits, unknown, waiting, disposed⟩)
    · exact ⟨_, waits, collecting_of_waiting waiting, by rw [calls, hcalls₁],
        .failed e usable flush rest waits unknown (breaks_of_waiting waiting) conn⟩
    · exact ⟨_, waits, collecting_of_waiting waiting, by rw [disposed.calls, hcalls₁],
        .disposed e waits unknown disposed.conn⟩
  rintro seen w₂ (⟨_, waits, rest, noted, -, -, hconn₂, hcalls₂⟩ | _ | _)
  rw [hcalls₁] at hcalls₂
  have hwaits : ∀ call ∈ Call.isBusy false :: waits, call.waiting = true := by
    simpa [Call.waiting] using noted.waiting
  have hbreaks := breaks_of_waiting hwaits
  have collecting : ∀ {gets : List Call}, (∀ call ∈ gets, call.fetched = true) →
      ∀ call ∈ gets ++ .isBusy false :: waits, call.collecting = true := by
    intro gets hgets call hcall
    rcases List.mem_append.mp hcall with hcall | hcall
    · exact collecting_of_fetched hgets call hcall
    · exact collecting_of_waiting hwaits call hcall
  refine (fetchResults_post (s := { s with flush := flush, events := rest }) rounds seen.firstError
    limits hlost htag hconn₂).mono ?_
  rintro r w₃ (⟨e, blocked, status, gets, unknown, copy, fetched, plain, disposed⟩ |
    ⟨gets, completion, drained, plain, ok, error⟩)
  · refine ⟨_, .getResult blocked (.result status) :: gets ++ .isBusy false :: waits, ?_, ?_,
      .disposed e _ unknown disposed.conn⟩
    · exact collecting (by simpa [Call.fetched] using fetched)
    · simp [disposed.calls, hcalls₂]
  · obtain ⟨blocked, hcalls₃⟩ := drained.calls
    -- single-row mode was not refused on this way
    have norefusal : .singleRowRefused ∉ gets ++ .isBusy false :: waits := by
      intro hmem
      rcases List.mem_append.mp hmem with hmem | hmem
      · exact absurd (drained.fetched _ hmem) (by decide)
      · exact absurd (hwaits _ hmem) (by decide)
    refine ⟨_, gets ++ .isBusy false :: waits, collecting drained.fetched, by simp [hcalls₃, hcalls₂],
      .drained blocked completion _ ?_ ?_ drained.answer ?_ (fun _ _ _ => norefusal) ?_⟩
    · rw [← drained_append hbreaks]
      exact drained.conn
    · intro h
      rw [List.any_append, drained.whole h, hbreaks]
      rfl
    · intro rs hrs
      obtain ⟨hfirst, hcompletion, haccepted⟩ := ok rs hrs
      refine ⟨hcompletion, fun call hcall => ?_⟩
      rcases List.mem_append.mp hcall with hcall | hcall
      · have := haccepted call hcall
        unfold Call.fetchedAccepted at this
        split at this
        · exact this
        · cases this
      · have hwait := hwaits call hcall
        have hquiet := noted.quiet hfirst
        cases call <;> simp_all [Call.waiting, Call.smooth]
    · intro e he hunknown
      -- the error is that of the event that was found, or the outcome is known
      rcases error e he with hfirst | ⟨-, hknown⟩
      · refine .inl ?_
        rw [drained.tick]
        exact (noted.raised e hfirst).2
      · rw [hknown] at hunknown
        cases hunknown

theorem collectResults_post (hok : c.ok = true) (hlost : s.lost = false) (htag : s.tag = "")
    (hconn : w.conn = some (c.carrying s)) (rounds : ℕ) (limits : QueryLimits) :
    (collectResults rounds limits deadline ctl).Post w (Ended ctl deadline c s w) := by
  refine (collectResults_ends hok hlost htag hconn rounds limits).mono ?_
  rintro r w' ⟨last, mid, hmid, hcalls, hending⟩
  exact ⟨last, mid, inner_of_collecting hmid, hcalls, hending⟩

/-- A statement for which single-row mode was refused is cancelled and drained. -/
theorem CancelDrained.ended {r : Except AdapterError Bool} {e : AdapterError} {w' : Wire}
    (h : CancelDrained c s (w.logged .singleRowRefused) r w') (he : e.outcomeUnknown = true) :
    Ended ctl deadline c s w (.error e) w' := by
  have inner : ∀ {waits : List Call}, (∀ call ∈ waits, call.cancelling = true) →
      ∀ call ∈ waits ++ [.singleRowRefused], call.inner = true := by
    intro waits hwaits call hcall
    rcases List.mem_append.mp hcall with hcall | hcall
    · exact inner_of_cancelling hwaits call hcall
    · rw [List.mem_singleton.mp hcall]
      rfl
  cases h with
  | disposed e' waits unknown cancelling disposed =>
    refine ⟨_, waits ++ [.singleRowRefused], inner cancelling, ?_, .disposed e _ he disposed.conn⟩
    simp [disposed.calls, Wire.logged]
  | drained waits gets completion cancelling base drained error =>
    obtain ⟨blocked, hcalls⟩ := drained.calls
    have hbreaks : (waits ++ [Call.singleRowRefused]).any Call.breaks = false := by
      rw [List.any_append, breaks_of_cancelling cancelling]
      rfl
    refine ⟨_, gets ++ (waits ++ [.singleRowRefused]), ?_, by simp [hcalls, base, Wire.logged],
      .drained blocked completion _ ?_ ?_ drained.answer (by simp) ?_ fun _ _ _ => .inr (by simp)⟩
    · intro call hcall
      rcases List.mem_append.mp hcall with hcall | hcall
      · exact inner_of_fetched drained.fetched call hcall
      · exact inner cancelling call hcall
    · rw [← drained_append hbreaks]
      exact drained.conn
    · intro h
      rw [List.any_append, drained.whole h, hbreaks]
      rfl
    · rintro e' ⟨⟩ hknown
      rw [he] at hknown
      cases hknown

end Collect

section Call

variable {ctl : PollControl} {deadline : ℕ} {sql : String} {w : Wire}

/-- The checks before the send leave the connection and the trace alone. -/
theorem Exchange.of_error {e : AdapterError} {w' : Wire} (known : e.outcomeUnknown = false)
    (hconn : w'.conn = w.conn) (hcalls : w'.calls = w.calls) :
    Exchange ctl deadline sql w (.error e) (w'.logged .leave) :=
  .unsent e [] known (by simp) (.inl ⟨hconn, by simp⟩) (by simp [Wire.logged, hcalls])

/-- A refused send is noted; an accepted one puts the statement in flight. -/
theorem pqSendQueryParams_post {c : PgConn} (hconn : w.conn = some c) :
    (pqSendQueryParams sql).Post w fun r w' => w'.tick = w.tick ∧
      ((r = .ok false ∧ ∃ usable, w'.calls = .refused usable :: w.calls ∧
        (usable = c.ok ∧ w'.conn = some c ∨ usable = false ∧ w'.conn = some { c with ok := false })) ∨
      ∃ answer : Answer, r = .ok true ∧ c.ok = true ∧ c.inFlight = none ∧
        (∃ rest, w.scripts = .accept answer :: rest) ∧
        w'.conn = some (c.carrying (answer.statement sql)) ∧
        w'.calls = .send sql c.xact :: w.calls) := by
  simp only [pqSendQueryParams, post_act, hconn]
  split
  · exact ⟨rfl, .inl ⟨rfl, c.ok, rfl, .inl ⟨rfl, hconn⟩⟩⟩
  · rename_i hfree
    simp only [Bool.or_eq_true, Bool.not_eq_true', not_or, Bool.not_eq_false,
      Option.not_isSome_iff_eq_none] at hfree
    split
    · exact ⟨rfl, .inl ⟨rfl, true, rfl, .inl ⟨hfree.1.symm, hconn⟩⟩⟩
    · rename_i usable scripts _
      refine ⟨rfl, .inl ⟨rfl, usable, rfl, ?_⟩⟩
      cases usable with
      | true =>
        refine .inl ⟨hfree.1.symm, ?_⟩
        rw [← hfree.1]
        rfl
      | false => exact .inr ⟨rfl, rfl⟩
    · rename_i answer scripts hscripts
      exact ⟨rfl, .inr ⟨answer, rfl, hfree.1, hfree.2, ⟨scripts, hscripts⟩, rfl, rfl⟩⟩

theorem sendChecked_post (rounds : ℕ) (limits : QueryLimits) (singleRow : Bool) :
    (sendChecked rounds sql limits singleRow deadline ctl).Post w fun r w' =>
      Exchange ctl deadline sql w r (w'.logged .leave) := by
  rw [sendChecked]
  refine (checkControl_post ctl deadline w).bind ?_ ?_
  swap
  · rintro e w₁ ⟨ht, ⟨h, -⟩ | ⟨reason, h, -⟩⟩
    · cases h
    · cases h
      exact .of_error rfl ht.conn ht.calls
  rintro u w₁ ⟨ht, ⟨-, hquiet⟩ | ⟨reason, h, -⟩⟩
  swap
  · cases h
  simp only [connected, post_bind, post_read, andThen_ok, post_require]
  cases hc : w.conn with
  | none =>
    simp only [ht.conn, hc, Option.isSome_none, Bool.false_eq_true, false_imp_iff, true_and,
      true_imp_iff, andThen_error]
    exact .of_error rfl ht.conn ht.calls
  | some c =>
    simp only [ht.conn, hc, Option.isSome_some, true_imp_iff, Bool.true_eq_false, false_imp_iff,
      and_true]
    refine (pqSendQueryParams_post (ht.conn.trans hc)).mono ?_
    rintro r w₂ ⟨htick₂, ⟨rfl, usable, hcalls₂, hconn₂⟩ |
      ⟨answer, rfl, hok, hfree, hnext, hconn₂, hcalls₂⟩⟩
    · show Exchange ctl deadline sql w (.error (AdapterError.new .database)) (w₂.logged .leave)
      rw [ht.calls] at hcalls₂
      refine .unsent _ [.refused usable] rfl (by simp) ?_ (by simp [Wire.logged, hcalls₂])
      rcases hconn₂ with ⟨rfl, hconn₂⟩ | ⟨rfl, hconn₂⟩
      · exact .inl ⟨hconn₂.trans hc.symm, by simp [hc]⟩
      · exact .inr ⟨c, hc, rfl, hconn₂⟩
    · simp only [andThen_ok, post_require, true_imp_iff, Bool.true_eq_false, false_imp_iff,
        and_true, setBusy, post_update, post_bind]
      rw [ht.calls] at hcalls₂
      -- whatever follows the send makes an exchange that was sent
      have sent : ∀ {r : Except AdapterError ResultSet} {w' : Wire},
          Ended ctl deadline c (answer.statement sql) w₂ r w' →
          Exchange ctl deadline sql w r (w'.logged .leave) := by
        rintro r w' ⟨last, mid, hmid, hcalls', hending⟩
        exact .sent c answer last mid hc hok hfree (by rwa [← ht.scripts]) hquiet hmid
          (by simp [Wire.logged, hcalls', hcalls₂]) (hending.congr rfl rfl)
      have hconn₃ : ({ w₂ with busy := true } : Wire).conn =
        some (c.carrying (answer.statement sql)) := hconn₂
      simp only [pqSetSingleRowMode, post_act, andThen_ok]
      split
      · simp only [if_true]
        refine (collectResults_post hok rfl rfl hconn₃ rounds limits).attempt_bind ?_
        rintro r w' ⟨last, mid, hmid, hcalls', hending⟩
        simp only [post_bind, post_update, andThen_ok, post_ofExcept]
        exact sent ⟨last, mid, hmid, hcalls', hending.congr rfl rfl⟩
      · simp only [Bool.false_eq_true, if_false]
        have hconn₄ : (({ w₂ with busy := true } : Wire).logged .singleRowRefused).conn =
          some (c.carrying (answer.statement sql)) := hconn₂
        refine (cancelAndDrain_post hconn₄ rounds).attempt_bind ?_
        intro r w' h
        exact sent (h.ended rfl)

theorem leaving_post {α : Type} {x : Adapter α} {Q : Except AdapterError α → Wire → Prop}
    (h : x.Post w fun r w' => Q r (w'.logged .leave)) : (leaving x).Post w Q := by
  rw [leaving]
  refine h.attempt_bind ?_
  intro r w' hr
  simpa [log] using hr

/-- A check that fails before the send. -/
theorem post_checked {b : Bool} {e : AdapterError} {x : Adapter ResultSet}
    (he : e.outcomeUnknown = false)
    (hx : x.Post w fun r w' => Exchange ctl deadline sql w r (w'.logged .leave)) :
    (do require b e; x : Adapter ResultSet).Post w fun r w' =>
      Exchange ctl deadline sql w r (w'.logged .leave) := by
  rw [post_bind, post_require]
  exact ⟨fun _ => hx, fun _ => .of_error he rfl rfl⟩

theorem valueTotal_error {parameters : List Parameter} {total : ℕ} {e : AdapterError}
    (h : valueTotal total parameters = .error e) : e = .new .invalidInput := by
  induction parameters generalizing total with
  | nil => cases h
  | cons p parameters ih =>
    rw [valueTotal] at h
    split at h
    · exact ih h
    · split_ifs at h with hnul hover
      · cases h
        rfl
      · cases h
        rfl
      · exact ih h

/-- The parameter checks have one error. -/
theorem validateParameters_error {parameters : List Parameter} {limits : QueryLimits}
    {e : AdapterError} (h : validateParameters parameters limits = .error e) :
    e = .new .invalidInput := by
  unfold validateParameters at h
  split_ifs at h with hcount
  · cases h
    rfl
  · cases htotal : valueTotal 0 parameters with
    | error e' =>
      rw [htotal] at h
      cases h
      exact valueTotal_error htotal
    | ok total =>
      rw [htotal] at h
      simp only at h
      split_ifs at h
      cases h
      rfl

/-- The parameter checks fail before the send. -/
theorem post_validated {parameters : List Parameter} {limits : QueryLimits} {x : Adapter ResultSet}
    (hx : x.Post w fun r w' => Exchange ctl deadline sql w r (w'.logged .leave)) :
    (do .ofExcept (validateParameters parameters limits); x : Adapter ResultSet).Post w
      fun r w' => Exchange ctl deadline sql w r (w'.logged .leave) := by
  rw [post_bind, post_ofExcept]
  cases h : validateParameters parameters limits with
  | ok u => exact hx
  | error e => exact .of_error (by rw [validateParameters_error h]; rfl) rfl rfl

/-- Every call of `query` ends as `Exchange` says. -/
theorem query_post (rounds : ℕ) (parameters : List Parameter) (limits : QueryLimits) :
    (Connection.query rounds sql parameters limits deadline ctl).Post w
      (Exchange ctl deadline sql w) := by
  rw [Connection.query, sendQuery]
  exact leaving_post (post_checked rfl (post_validated (post_checked rfl
    (sendChecked_post rounds limits true))))

/-- Every call of `execute` ends as `Exchange` says. -/
theorem execute_post (rounds : ℕ) :
    (Connection.execute rounds sql deadline ctl).Post w (Exchange ctl deadline sql w) := by
  rw [Connection.execute, sendAndCollect]
  exact leaving_post (post_checked rfl (post_validated (post_checked rfl
    (sendChecked_post rounds _ false))))

end Call

end PgMcp
