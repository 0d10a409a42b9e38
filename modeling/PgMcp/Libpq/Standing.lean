import PgMcp.Libpq.Rounds

/-!
# What the answers of the environment say about a connection

The purpose of the adapter's bookkeeping, in its own terms: a connection is gone, or at
rest in some transaction, or waiting for the response to one statement.  The answers of
libpq and of the server move it from one to another; nothing else does.  The adapter
simulates this automaton: after any call, the standing of the connection is what the
entries added to the trace make of its standing before.

## Main definitions

* `Standing`, `Call.step` — the automaton.
* `Wire.standing` — the standing of the adapter's connection.
* `Tracks` — the simulation relation of a program.

## Main results

* `Exchange.tracks` — every call of the adapter simulates the automaton.
* `cancelAndDrain_tracks` — so does cancelling and draining, from any state.
-/

namespace PgMcp

open Program

/-! ### The automaton -/

/-- The standing of a connection. -/
inductive Standing where
  /-- Disposed or bad. -/
  | gone : Standing
  /-- No statement is in flight. -/
  | resting (xact : Xact) : Standing
  /-- `sql` was sent with `xact` as the open transaction, and is not fetched to NULL. -/
  | waiting (xact : Xact) (sql : String) : Standing
  deriving DecidableEq, Repr

/-- The transaction after the response to `sql` was fetched to NULL: without a
completion by the server it is the one before. -/
def Xact.finish (x : Xact) (sql : String) : Option Completion → Xact
  | some done => x.next sql done.after
  | none => x

/-- The standing after one more answer. -/
def Call.step : Call → Standing → Standing
  | .refused false, _ | .failed false, _ | .getResult _ (.broken false), _ | .finish, _ => .gone
  | .send sql _, .resting x => .waiting x sql
  | .getResult _ (.null completion), .waiting x sql => .resting (x.finish sql completion)
  | _, standing => standing

/-- The standing after the entries of a trace, newest first. -/
def Standing.after (standing : Standing) (calls : List Call) : Standing :=
  calls.foldr Call.step standing

@[simp] theorem Standing.after_nil (st : Standing) : st.after [] = st := rfl

@[simp] theorem Standing.after_cons (st : Standing) (call : Call) (calls : List Call) :
    st.after (call :: calls) = call.step (st.after calls) := rfl

theorem Standing.after_append (st : Standing) (newer older : List Call) :
    st.after (newer ++ older) = (st.after older).after newer := by
  simp [Standing.after]

/-- A connection that is gone stays gone. -/
@[simp] theorem Standing.after_gone (calls : List Call) : Standing.gone.after calls = .gone := by
  induction calls with
  | nil => rfl
  | cons call calls ih =>
    rw [Standing.after_cons, ih]
    cases call with
    | refused usable | failed usable => cases usable <;> rfl
    | getResult blocked fetched =>
      rcases fetched with status | usable | completion
      · rfl
      · cases usable <;> rfl
      · rfl
    | _ => rfl

/-- Between the send and the end of a statement only a read that breaks the connection
changes its standing. -/
theorem Standing.after_inner {calls : List Call} (st : Standing)
    (h : ∀ call ∈ calls, call.inner = true) :
    st.after calls = if calls.any Call.breaks then .gone else st := by
  induction calls with
  | nil => rfl
  | cons call calls ih =>
    have hcall := h call (List.mem_cons_self ..)
    rw [Standing.after_cons, ih fun call hc => h call (List.mem_cons_of_mem _ hc), List.any_cons]
    cases call with
    | getResult blocked fetched =>
      rcases fetched with status | usable | completion
      · cases calls.any Call.breaks <;> rfl
      · cases usable <;> cases calls.any Call.breaks <;> rfl
      · cases hcall
    | observed | isBusy | cancelCreate | cancelPolled | singleRowRefused =>
      cases calls.any Call.breaks <;> rfl
    | _ => cases hcall

/-! ### The adapter simulates it -/

/-- The standing of the adapter's connection. -/
def Wire.standing (w : Wire) : Standing :=
  match w.conn with
  | none => .gone
  | some c =>
    if c.ok then
      match c.activity with
      | .resting _ => .resting c.xact
      | .running s => .waiting c.xact s.sql
    else .gone

theorem Wire.standing_none {w : Wire} (h : w.conn = none) : w.standing = .gone := by
  simp [Wire.standing, h]

theorem Wire.standing_bad {w : Wire} {c : PgConn} (h : w.conn = some c) (hok : c.ok = false) :
    w.standing = .gone := by
  simp [Wire.standing, h, hok]

theorem Wire.standing_carrying {w : Wire} {c : PgConn} {s : Statement}
    (h : w.conn = some (c.carrying s)) (hok : c.ok = true) :
    w.standing = .waiting c.xact s.sql := by
  simp [Wire.standing, h, hok]

theorem Wire.standing_free {w : Wire} {c : PgConn} (h : w.conn = some c) (hok : c.ok = true)
    (hfree : c.inFlight = none) : w.standing = .resting c.xact := by
  unfold PgConn.inFlight at hfree
  cases hact : c.activity with
  | resting trailing => simp [Wire.standing, h, hok, hact]
  | running s => simp [hact] at hfree

theorem Wire.standing_congr {w w' : Wire} (h : w'.conn = w.conn) : w'.standing = w.standing := by
  simp [Wire.standing, h]

theorem Wire.standing_gone_iff {w : Wire} : w.standing = .gone ↔ w.connectionStatus ≠ .ok := by
  unfold Wire.standing Wire.connectionStatus
  cases w.conn with
  | none => simp
  | some c =>
    cases hok : c.ok with
    | false => simp [hok]
    | true => cases hact : c.activity <;> simp [hok, hact]

theorem Wire.standing_resting {w : Wire} {x : Xact} (h : w.standing = .resting x) :
    w.connectionStatus = .ok ∧ w.transactionStatus = x.status := by
  unfold Wire.standing at h
  cases hc : w.conn with
  | none => simp [hc] at h
  | some c =>
    cases hok : c.ok with
    | false => simp [hc, hok] at h
    | true =>
      cases hact : c.activity with
      | running s => simp [hc, hok, hact] at h
      | resting trailing =>
        simp only [hc, hok, hact, if_true, Standing.resting.injEq] at h
        simp [Wire.connectionStatus, Wire.transactionStatus, PgConn.transactionStatus,
          PgConn.inFlight, hc, hok, hact, h]

theorem Wire.standing_waiting {w : Wire} {x : Xact} {sql : String} (h : w.standing = .waiting x sql) :
    w.connectionStatus = .ok ∧ w.transactionStatus = .active := by
  unfold Wire.standing at h
  cases hc : w.conn with
  | none => simp [hc] at h
  | some c =>
    cases hok : c.ok with
    | false => simp [hc, hok] at h
    | true =>
      cases hact : c.activity with
      | resting trailing => simp [hc, hok, hact] at h
      | running s =>
        simp [Wire.connectionStatus, Wire.transactionStatus, PgConn.transactionStatus,
          PgConn.inFlight, hc, hok, hact]

/-- No statement is in flight on a usable connection. -/
def Wire.Settled (w : Wire) : Prop := w.connectionStatus ≠ .ok ∨ w.statement = none

instance (w : Wire) : Decidable w.Settled := inferInstanceAs (Decidable (_ ∨ _))

theorem Wire.settled_iff {w : Wire} : w.Settled ↔ ∀ x sql, w.standing ≠ .waiting x sql := by
  unfold Wire.Settled Wire.standing Wire.connectionStatus Wire.statement PgConn.inFlight
  cases w.conn with
  | none => simp
  | some c =>
    cases hok : c.ok with
    | false => simp [hok]
    | true => cases hact : c.activity <;> simp [hok, hact]

/-- The entries added to the trace account for the standing after. -/
def Tracks (w w' : Wire) : Prop :=
  ∃ new, w'.calls = new ++ w.calls ∧ w'.standing = w.standing.after new

theorem Tracks.refl (w : Wire) : Tracks w w := ⟨[], rfl, rfl⟩

theorem Tracks.trans {w₁ w₂ w₃ : Wire} (h : Tracks w₁ w₂) (h' : Tracks w₂ w₃) : Tracks w₁ w₃ := by
  obtain ⟨new, hcalls, hst⟩ := h
  obtain ⟨new', hcalls', hst'⟩ := h'
  refine ⟨new' ++ new, ?_, ?_⟩
  · rw [hcalls', hcalls, List.append_assoc]
  · rw [hst', hst, Standing.after_append]

instance : IsTrans Wire Tracks := ⟨fun _ _ _ => Tracks.trans⟩

theorem Tracks.of_eq {w w' : Wire} (hconn : w'.conn = w.conn) (hcalls : w'.calls = w.calls) :
    Tracks w w' :=
  ⟨[], hcalls, Wire.standing_congr hconn⟩

theorem Ticked.tracks {w w' : Wire} (h : Ticked w w') : Tracks w w' := .of_eq h.conn h.calls

/-- A statement fetched to the final NULL is at rest, unless the connection broke. -/
theorem standing_drained {c : PgConn} {s : Statement} {mid : List Call}
    {completion : Option Completion} {w : Wire} (hok : c.ok = true)
    (hconn : w.conn = some (c.drained s mid completion))
    (hwhole : completion.isSome = true → mid.any Call.breaks = false) :
    w.standing =
      if mid.any Call.breaks then .gone else .resting (c.xact.finish s.sql completion) := by
  cases completion with
  | some done => simp [Wire.standing, hconn, PgConn.drained, hok, hwhole rfl, Xact.finish]
  | none =>
    cases hbreaks : mid.any Call.breaks with
    | true => simp [Wire.standing, hconn, PgConn.drained, hbreaks]
    | false => simp [Wire.standing, hconn, PgConn.drained, hbreaks, hok, Xact.finish]

/-- Every call of the adapter simulates the automaton. -/
theorem Exchange.tracks {ctl : PollControl} {deadline : ℕ} {sql : String} {w w' : Wire}
    {r : Except AdapterError ResultSet} (h : Exchange ctl deadline sql w r w') : Tracks w w' := by
  cases h with
  | unsent e pre known refused conn calls =>
    refine ⟨.leave :: pre, calls, ?_⟩
    show w'.standing = w.standing.after pre
    rcases conn with ⟨conn, hpre⟩ | ⟨c, hc, rfl, conn⟩
    · rw [Wire.standing_congr conn]
      have hid : ∀ call ∈ pre, call.step w.standing = w.standing := by
        intro call hcall
        rw [List.mem_singleton.mp (hpre hcall)]
        cases hany : w.conn.any (·.ok) with
        | true => rfl
        | false =>
          show Standing.gone = w.standing
          cases hc : w.conn with
          | none => rw [Wire.standing_none hc]
          | some c =>
            rw [hc] at hany
            rw [Wire.standing_bad hc hany]
      clear hpre calls refused
      induction pre with
      | nil => rfl
      | cons call pre ih =>
        rw [Standing.after_cons, ← ih fun call hc => hid call (List.mem_cons_of_mem _ hc)]
        exact (hid call (List.mem_cons_self ..)).symm
    · rw [Wire.standing_bad conn rfl]
      rfl
  | sent c answer last mid conn usable free next quiet inner calls ending =>
    refine ⟨.leave :: last :: mid ++ [.send sql c.xact], by simp [calls], ?_⟩
    show w'.standing = last.step (w.standing.after (mid ++ [.send sql c.xact]))
    rw [Standing.after_append, Wire.standing_free conn usable free]
    show w'.standing = last.step ((Standing.waiting c.xact sql).after mid)
    rw [Standing.after_inner _ inner]
    cases ending with
    | interrupted reason flush conn' raised => exact Wire.standing_carrying conn' usable
    | failed e usable' flush events mid unknown whole conn' =>
      rw [whole]
      cases usable' with
      | true => simp [Wire.standing, conn', Call.step, Answer.statement]
      | false => simp [Wire.standing, conn', Call.step]
    | disposed e mid unknown conn' => exact Wire.standing_none conn'
    | drained blocked completion mid conn' whole answer' ok known unknown =>
      rw [standing_drained usable conn' whole]
      cases mid.any Call.breaks <;> rfl

/-! ### Cancelling and draining, from any state -/

section CancelAndDrain

variable {clock : Clock} {reason : CancelReason} {deadline : ℕ} {w : Wire}

theorem Disposed.tracks {entries : List Call} {w' : Wire} (h : Disposed w entries w') :
    Tracks w w' :=
  ⟨.finish :: entries, h.calls, Wire.standing_none h.conn⟩

theorem CancelDrained.tracks {c : PgConn} {s : Statement} {r : Except AdapterError Bool} {w' : Wire}
    (hconn : w.conn = some (c.carrying s)) (h : CancelDrained c s w r w') : Tracks w w' := by
  cases h with
  | disposed e waits unknown cancelling disposed => exact disposed.tracks
  | drained waits gets completion cancelling base drained error =>
    obtain ⟨blocked, hcalls⟩ := drained.calls
    refine ⟨.getResult blocked (.null completion) :: gets ++ waits, by simp [hcalls, base], ?_⟩
    rw [List.cons_append, Standing.after_cons, Standing.after_append,
      Standing.after_inner w.standing (inner_of_cancelling cancelling),
      breaks_of_cancelling cancelling]
    simp only [Bool.false_eq_true, if_false]
    rw [Standing.after_inner _ (inner_of_fetched drained.fetched)]
    cases hok : c.ok with
    | false =>
      rw [Wire.standing_bad (c := c.carrying s) hconn hok]
      have : w'.standing = .gone := by
        refine Wire.standing_bad drained.conn ?_
        cases completion <;> simp [PgConn.drained, hok]
      rw [this]
      cases gets.any Call.breaks <;> rfl
    | true =>
      rw [Wire.standing_carrying hconn hok, standing_drained hok drained.conn drained.whole]
      cases gets.any Call.breaks <;> rfl

/-- With no statement in flight, `PQconsumeInput` succeeds and changes nothing, or fails. -/
theorem pqConsumeInput_resting {c : PgConn} {trailing : Option Bool} (hconn : w.conn = some c)
    (hact : c.activity = .resting trailing) : pqConsumeInput.Post w fun r w' =>
      (r = .ok true ∧ w' = w) ∨ r = .ok false ∧ w'.conn.isSome = true ∧ w'.calls = w.calls := by
  simp only [pqConsumeInput, post_act, hconn]
  cases hok : c.ok with
  | false => exact .inr ⟨rfl, by simp [hconn], rfl⟩
  | true =>
    rw [hact]
    rcases trailing with _ | usable
    · exact .inl ⟨rfl, rfl⟩
    · exact .inr ⟨rfl, rfl, rfl⟩

/-- `drain_until_idle` with no statement in flight fetches one NULL, or fails. -/
theorem drainUntilIdle_resting {c : PgConn} {trailing : Option Bool} (hconn : w.conn = some c)
    (hact : c.activity = .resting trailing) (rounds : ℕ) :
    (drainUntilIdle clock rounds deadline).Post w fun r w' =>
      (r = .ok () ∧ w'.conn = w.conn ∧
        w'.calls = .getResult false (.null none) :: .isBusy false :: w.calls) ∨
      ∃ e, r = .error e ∧ w'.conn.isSome = true ∧ w'.calls = w.calls := by
  cases rounds with
  | zero => trivial
  | succ rounds =>
    have hevents : w.events = [] := by
      simp [Wire.events, Wire.statement, hconn, PgConn.inFlight, hact]
    simp only [drainUntilIdle, awaitIdle, connected, post_bind, post_read, andThen_ok, hconn,
      Option.isSome_some, if_true]
    refine (pqConsumeInput_resting hconn hact).mono ?_
    rintro r w₁ (⟨rfl, rfl⟩ | ⟨rfl, hsome, hcalls⟩)
    · simp [pqIsBusy, hevents, isBusy, fetchIdle, pqGetResult, Wire.logged, hconn, PgConn.inFlight,
        hact]
    · simp only [andThen_ok, post_bind, post_require, Bool.false_eq_true, false_imp_iff, true_and,
        true_imp_iff, andThen_error]
      exact .inr ⟨_, rfl, hsome, hcalls⟩

/-- Without a connection nothing is done. -/
theorem cancelAndDrain_none (hconn : w.conn = none) (rounds : ℕ) :
    (cancelAndDrain clock rounds reason deadline).Post w fun _ w' => w' = w := by
  cases rounds with
  | zero =>
    simp [cancelAndDrain, dispatchCancel, connected, hconn, drainUntilIdle, awaitIdle]
  | succ rounds =>
    simp [cancelAndDrain, dispatchCancel, connected, hconn, drainUntilIdle, awaitIdle]

/-- With no statement in flight, the connection is left as it was, or disposed. -/
theorem cancelAndDrain_resting {c : PgConn} {trailing : Option Bool} (hconn : w.conn = some c)
    (hact : c.activity = .resting trailing) (rounds : ℕ) :
    (cancelAndDrain clock rounds reason deadline).Post w fun r w' =>
      (w'.conn = w.conn ∧ (∀ e, r = .error e → e.outcomeUnknown = true) ∧
        ∃ dispatched, w'.calls = [.getResult false (.null none), .isBusy false,
          .cancelPolled dispatched, .cancelCreate] ++ w.calls) ∨
      ∃ e entries, r = .error e ∧ e.outcomeUnknown = true ∧
        (∀ call ∈ entries, call.cancelling = true) ∧ Disposed w entries w' := by
  rw [cancelAndDrain]
  refine (dispatchCancel_post (by rw [hconn]; rfl)).bind ?_ ?_
  swap
  · rintro e w₁ (_ | ⟨_, he, hd⟩)
    exact .inr ⟨e, _, rfl, he, by simp [Call.cancelling], hd⟩
  rintro b w₁ (⟨_, hconn₁, hcalls₁, -⟩ | _)
  refine (drainUntilIdle_resting (hconn₁.trans hconn) hact rounds).attempt_bind ?_
  rintro r w₂ (⟨rfl, hconn₂, hcalls₂⟩ | ⟨e, rfl, hsome, hcalls₂⟩)
  · have hconn' := hconn₂.trans hconn₁
    have hcalls' : w₂.calls = [.getResult false (.null none), .isBusy false, .cancelPolled b,
        .cancelCreate] ++ w.calls := by simp [hcalls₂, hcalls₁]
    cases b with
    | true => exact .inl ⟨hconn', (by simp), true, hcalls'⟩
    | false => exact .inl ⟨hconn', by rintro e ⟨⟩; rfl, false, hcalls'⟩
  · refine (disposeAndFail_post w₂ hsome (hcalls₂.trans hcalls₁)).mono ?_
    rintro r w' ⟨rfl, hd⟩
    exact .inr ⟨_, _, rfl, rfl, by simp [Call.cancelling], hd⟩

/-- Cancelling and draining simulates the automaton, from any state. -/
theorem cancelAndDrain_tracks (rounds : ℕ) :
    (cancelAndDrain clock rounds reason deadline).Within Tracks := by
  intro w
  cases hconn : w.conn with
  | none =>
    refine (cancelAndDrain_none hconn rounds).mono ?_
    rintro r w' rfl
    exact .refl _
  | some c =>
    cases hact : c.activity with
    | resting trailing =>
      refine (cancelAndDrain_resting hconn hact rounds).mono ?_
      rintro r w' (⟨hconn', -, dispatched, hcalls'⟩ | ⟨e, entries, -, -, -, hd⟩)
      · refine ⟨_, hcalls', ?_⟩
        rw [Wire.standing_congr hconn']
        have : w.standing = .gone ∨ ∃ x, w.standing = .resting x := by
          cases hok : c.ok with
          | false => exact .inl (Wire.standing_bad hconn hok)
          | true => exact .inr ⟨_, Wire.standing_free hconn hok (by simp [PgConn.inFlight, hact])⟩
        rcases this with h | ⟨x, h⟩ <;> · rw [h]; rfl
      · exact hd.tracks
    | running s =>
      have hconn' : w.conn = some (c.carrying s) := by
        rw [hconn, PgConn.carrying, ← hact]
      exact (cancelAndDrain_post hconn' rounds).mono fun _ _ h => h.tracks hconn'

end CancelAndDrain

end PgMcp
