import PgMcp.Schema
import PgMcp.Libpq.CallEnd

/-!
# The internal transaction of get_schema

`retrieve` begins a transaction, reads the catalog in it and commits; when a step after BEGIN
fails, it sends one ROLLBACK and drops its outcome.  Which call is the last one is decided by
the first step that fails, and what the last call leaves behind is decided by the control
events and the answers it meets: none is sent when BEGIN itself fails, and the cleanup ROLLBACK
makes the same control checks as the step that failed.

## Main definitions

* `LastCall` — the last call of `retrieve`, and the state it is made in.
* `CallEnd.Closes` — the ends of a call that leave no transaction open.

## Main results

* `retrieve_session` — the statements of `retrieve` are calls of the adapter.
* `retrieve_last` — `retrieve` ends with its last call.
* `retrieve_closed_iff` — when the internal transaction is closed.
-/

namespace PgMcp

open Program

section Retrieve

variable {rounds : ℕ} {config : Config} {deadline : ℕ} {ctl : PollControl}

theorem schemaQuery_session (sql : String) (limits : QueryLimits) :
    (schemaQuery rounds deadline ctl sql limits).Within (Session ctl deadline) := by
  rw [schemaQuery]
  exact (query_session ctl deadline rounds sql [] limits).mapError

theorem executeChecked_session (sql : String) :
    (executeChecked rounds deadline ctl sql).Within (Session ctl deadline) := by
  rw [executeChecked]
  refine Within.bind ?_ fun result => Within.require _ _
  exact (execute_session ctl deadline rounds sql).mapError

theorem retrieveInner_session :
    (retrieveInner rounds config deadline ctl).Within (Session ctl deadline) := by
  rw [retrieveInner]
  refine Within.bind (schemaQuery_session relationsSql _) fun relations => ?_
  refine Within.bind (schemaQuery_session columnsSql _) fun columns => ?_
  exact Within.bind (schemaQuery_session constraintsSql _) fun constraints => Within.ofExcept _

theorem rollbackSchema_session {α : Type} (e : SchemaError) :
    (rollbackSchema rounds deadline ctl e : Retrieval α).Within (Session ctl deadline) := by
  rw [rollbackSchema]
  exact .bind (execute_session ctl deadline rounds "ROLLBACK").attempt fun _ => .fail _

/-- The statements of `retrieve` are calls of the adapter. -/
theorem retrieve_session : (retrieve rounds config deadline ctl).Within (Session ctl deadline) := by
  rw [retrieve]
  refine Within.bind (executeChecked_session _) fun _ => Within.bind ?_ ?_
  · exact Within.attempt retrieveInner_session
  · rintro (e | snapshot)
    · exact rollbackSchema_session e
    · refine Within.bind ?_ ?_
      · exact Within.attempt (executeChecked_session "COMMIT")
      · rintro (e | u)
        · exact rollbackSchema_session e
        · exact Within.pure _

end Retrieve

/-! ### The transaction is closed -/

/-- No transaction is open on a usable connection, and no statement is in flight. -/
def Wire.Closed (w : Wire) : Prop := w.connectionStatus ≠ .ok ∨ w.transactionStatus = .idle

instance (w : Wire) : Decidable w.Closed := inferInstanceAs (Decidable (_ ∨ _))

/-- No transaction is open in the standing, and no statement is in flight. -/
def Standing.Closed (st : Standing) : Prop := st = .gone ∨ st = .resting .idle

theorem Xact.status_idle_iff {x : Xact} : x.status = .idle ↔ x = .idle := by
  rcases x with _ | ⟨begunBy, _ | _⟩ <;> simp [Xact.status]

theorem Wire.closed_iff {w : Wire} : w.Closed ↔ w.standing.Closed := by
  unfold Wire.Closed Standing.Closed
  cases hst : w.standing with
  | gone => exact iff_of_true (.inl (Wire.standing_gone_iff.mp hst)) (.inl rfl)
  | waiting x sql =>
    obtain ⟨hok, hactive⟩ := Wire.standing_waiting hst
    simp [hok, hactive]
  | resting x =>
    obtain ⟨hok, hstatus⟩ := Wire.standing_resting hst
    simp [hok, hstatus, Xact.status_idle_iff]

/-- The ends of a call, made in `before`, that leave no transaction open: the connection is lost
in it, or the server reports IDLE with the response, or none was open and the response is not
read to its end. -/
def CallEnd.Closes (before : Standing) : CallEnd → Prop
  | .unsent usable | .broken usable => usable = false ∨ before.Closed
  | .interrupted => False
  | .failed usable => usable = false
  | .disposed => True
  | .completed after => after = .idle

/-- A statement is only sent on a usable connection on which nothing is in flight. -/
theorem Wire.resting_of_callEnd (ctl : PollControl) (deadline : ℕ) (w : Wire) :
    (∃ usable, w.callEnd ctl deadline = .unsent usable) ∨ ∃ x, w.standing = .resting x := by
  unfold Wire.callEnd
  split
  · exact .inl ⟨true, rfl⟩
  · split
    · rename_i x _ _ hx _
      exact .inr ⟨x, hx⟩
    · rename_i x _ _ hx _
      exact .inr ⟨x, hx⟩
    · exact .inl ⟨true, rfl⟩

theorem Wire.callEnd_closes {ctl : PollControl} {deadline : ℕ} {w : Wire} (sql : String) :
    ((w.callEnd ctl deadline).standing sql w.standing).Closed ↔
      (w.callEnd ctl deadline).Closes w.standing := by
  rcases w.resting_of_callEnd ctl deadline with ⟨usable, hend⟩ | ⟨x, hx⟩
  · rw [hend]
    cases usable <;> simp [CallEnd.standing, CallEnd.Closes, Standing.Closed]
  · rw [hx]
    cases w.callEnd ctl deadline with
    | unsent usable | broken usable | failed usable =>
      cases usable <;> simp [CallEnd.standing, CallEnd.Closes, Standing.Closed]
    | interrupted | disposed => simp [CallEnd.standing, CallEnd.Closes, Standing.Closed]
    | completed after => cases after <;> simp [CallEnd.standing, CallEnd.Closes, Standing.Closed, Xact.next]

/-! ### The last call -/

section Last

variable {rounds : ℕ} {config : Config} {deadline : ℕ} {ctl : PollControl} {w w' : Wire}
  {r : Except SchemaError SchemaResult}

/-- The last call of a `retrieve` that started in `w` and returned `r` in `w'`: its statement,
and the state it was made in. -/
inductive LastCall (rounds : ℕ) (config : Config) (deadline : ℕ) (ctl : PollControl) (w : Wire) :
    Except SchemaError SchemaResult → String → Wire → Wire → Prop
  /-- BEGIN fails. -/
  | opening {w' : Wire} (e : SchemaError)
      (failed : (executeChecked rounds deadline ctl beginSchemaSql).Returns w (.error e) w') :
      LastCall rounds config deadline ctl w (.error e) beginSchemaSql w w'
  /-- Every step succeeds. -/
  | committing {w₁ v w' : Wire} (snapshot : SchemaResult)
      (begun : (executeChecked rounds deadline ctl beginSchemaSql).Returns w (.ok ()) w₁)
      (read : (retrieveInner rounds config deadline ctl).Returns w₁ (.ok snapshot) v)
      (committed : (executeChecked rounds deadline ctl "COMMIT").Returns v (.ok ()) w') :
      LastCall rounds config deadline ctl w (.ok snapshot) "COMMIT" v w'
  /-- A step after BEGIN fails, and its error is returned. -/
  | rollingBack {w₁ v w' : Wire} (e : SchemaError)
      (begun : (executeChecked rounds deadline ctl beginSchemaSql).Returns w (.ok ()) w₁)
      (failed : (retrieveInner rounds config deadline ctl).Returns w₁ (.error e) v ∨
        ∃ snapshot v₀, (retrieveInner rounds config deadline ctl).Returns w₁ (.ok snapshot) v₀ ∧
          (executeChecked rounds deadline ctl "COMMIT").Returns v₀ (.error e) v)
      (cleaned : ∃ r, (Connection.execute rounds "ROLLBACK" deadline ctl).Returns v r w') :
      LastCall rounds config deadline ctl w (.error e) "ROLLBACK" v w'

/-- The cleanup is one call, whose outcome is dropped. -/
theorem rollbackSchema_returns {α : Type} {e : SchemaError} {r : Except SchemaError α}
    (h : (rollbackSchema rounds deadline ctl e : Retrieval α).Returns w r w') : r = .error e ∧
      ∃ r', (Connection.execute rounds "ROLLBACK" deadline ctl).Returns w r' w' := by
  rw [rollbackSchema] at h
  rcases returns_bind_iff.mp h with ⟨a, w₁, hcall, hfail⟩ | ⟨e', hcall, -⟩
  · obtain ⟨r', -, hcall⟩ := returns_attempt_iff.mp hcall
    cases r with
    | ok a => exact absurd hfail returns_ok_fail
    | error e' =>
      cases hfail
      exact ⟨rfl, r', hcall⟩
  · obtain ⟨_, h, -⟩ := returns_attempt_iff.mp hcall
    cases h

/-- `retrieve` ends with its last call. -/
theorem retrieve_last (h : (retrieve rounds config deadline ctl).Returns w r w') :
    ∃ sql v, LastCall rounds config deadline ctl w r sql v w' := by
  rw [retrieve] at h
  rcases returns_bind_iff.mp h with ⟨u, w₁, hbegin, h⟩ | ⟨e, hbegin, rfl⟩
  swap
  · exact ⟨_, _, .opening e hbegin⟩
  rcases returns_bind_iff.mp h with ⟨inner, w₂, hinner, h⟩ | ⟨e, hinner, -⟩
  swap
  · obtain ⟨_, h, -⟩ := returns_attempt_iff.mp hinner
    cases h
  obtain ⟨inner', h', hinner⟩ := returns_attempt_iff.mp hinner
  cases h'
  cases inner with
  | error e =>
    obtain ⟨rfl, hcleaned⟩ := rollbackSchema_returns h
    exact ⟨_, _, .rollingBack e hbegin (.inl hinner) hcleaned⟩
  | ok snapshot =>
    rcases returns_bind_iff.mp h with ⟨commit, w₃, hcommit, h⟩ | ⟨e, hcommit, -⟩
    swap
    · obtain ⟨_, h, -⟩ := returns_attempt_iff.mp hcommit
      cases h
    obtain ⟨commit', h', hcommit⟩ := returns_attempt_iff.mp hcommit
    cases h'
    cases commit with
    | error e =>
      obtain ⟨rfl, hcleaned⟩ := rollbackSchema_returns h
      exact ⟨_, _, .rollingBack e hbegin (.inr ⟨snapshot, w₂, hinner, hcommit⟩) hcleaned⟩
    | ok u' =>
      cases r with
      | error e => cases h
      | ok snapshot' =>
        obtain ⟨rfl, rfl⟩ := returns_ok_pure.mp h
        exact ⟨_, _, .committing snapshot' hbegin hinner hcommit⟩

/-- A checked command leaves the connection as its call does. -/
theorem executeChecked_standing {sql : String} (hnul : hasNul sql = false) :
    (executeChecked rounds deadline ctl sql).Post w fun _ w' =>
      w'.standing = (w.callEnd ctl deadline).standing sql w.standing := by
  rw [executeChecked]
  refine Post.bind (P := fun _ w' => w'.standing = (w.callEnd ctl deadline).standing sql w.standing)
    (post_mapError.mpr (execute_standing hnul)) ?_ fun _ _ h => h
  intro result w₁ h
  rw [post_require]
  exact ⟨fun _ => h, fun _ => h⟩

/-- The last call leaves the connection as its end says. -/
theorem LastCall.standing {sql : String} {v : Wire} (h : LastCall rounds config deadline ctl w r sql v w') :
    w'.standing = (v.callEnd ctl deadline).standing sql v.standing := by
  cases h with
  | opening e failed => exact (executeChecked_standing (by decide)).returns failed
  | committing snapshot begun read committed => exact (executeChecked_standing (by decide)).returns committed
  | rollingBack e begun failed cleaned =>
    obtain ⟨r, hcleaned⟩ := cleaned
    exact (execute_standing (by decide)).returns hcleaned

/-- When `retrieve` returns, its transaction is closed exactly when its last call ends so that
no transaction is left open. -/
theorem retrieve_closed_iff (h : (retrieve rounds config deadline ctl).Returns w r w') :
    ∃ sql v, LastCall rounds config deadline ctl w r sql v w' ∧
      (w'.Closed ↔ (v.callEnd ctl deadline).Closes v.standing) := by
  obtain ⟨sql, v, hlast⟩ := retrieve_last h
  refine ⟨sql, v, hlast, ?_⟩
  rw [Wire.closed_iff, hlast.standing]
  exact Wire.callEnd_closes sql

end Last

/-- A request whose client gives up while the response to BEGIN is awaited: BEGIN is
completed, and no ROLLBACK is sent. -/
def cancelledAtBegin : PollControl := .libpq (.timed none (some 8) 1000)

def beginCompleted : Wire :=
  .fresh [.completed "BEGIN" false .inTransaction] [.succeeding]

theorem retrieve_closed_iff_cancelledAtBegin : ∃ sql v,
    LastCall 3 .default 1000 cancelledAtBegin beginCompleted
      (.error (.backend (AdapterError.new .cancelled).unknown)) sql v
      ((retrieve 3 .default 1000 cancelledAtBegin).last beginCompleted) ∧
    (((retrieve 3 .default 1000 cancelledAtBegin).last beginCompleted).Closed ↔
      (v.callEnd cancelledAtBegin 1000).Closes v.standing) :=
  retrieve_closed_iff (returns_of_result? (by decide +kernel))

/-- The internal transaction is left open. -/
theorem retrieve_leaves_transaction_open :
    ¬ ∀ (rounds : ℕ) (config : Config) (deadline : ℕ) (ctl : PollControl) (w w' : Wire)
      (r : Except SchemaError SchemaResult), w.Closed →
      (retrieve rounds config deadline ctl).Returns w r w' → w'.Closed := by
  intro h
  obtain ⟨r, hr⟩ := returns_last (x := retrieve 3 .default 1000 cancelledAtBegin)
    (s := beginCompleted) (by decide +kernel)
  have hopen : ¬ ((retrieve 3 .default 1000 cancelledAtBegin).last beginCompleted).Closed := by
    decide +kernel
  exact hopen (h _ _ _ _ _ _ r (by decide) hr)

end PgMcp
