import PgMcp.Protocol

/-!
# libpq and the server behind it

What the adapter can see of libpq: one native connection, and the calls made on
it.  Everything the server and the network decide is data of the model: how each
statement handed to libpq will be answered (`Script`), which results arrive
between which calls (`Event`), what each wait on a socket reports (`Poll`), and
when the request's cancellation, deadline and shutdown become visible
(`RequestContext`).  A statement about every server and every timing quantifies
over these.

The data may be any finite sequences: a wait that never ends is one whose slices
outlast the deadline.  A cancel request has no effect of its own on the response:
the response a server gives to a cancelled statement is one of those quantified
over.

## Main definitions

* `Clock`, `RequestContext` — time and control flags, read by read.
* `Event`, `Script` — the answers of the server.
* `PgConn` — the native connection, with `PgConn.fetch` for `PQgetResult`.
* `Call` — the trace entries.
-/

namespace PgMcp

/-! ### Time and control -/

/-- The clock: the instant returned by the `n`-th read. -/
structure Clock where
  now : ℕ → ℕ
  mono : Monotone now

/-- The control state of one request.  Each read of a flag or of the clock has a
number; once set, a flag stays set. -/
structure RequestContext where
  clock : Clock
  shutdown : ℕ → Bool
  cancellation : ℕ → Bool
  deadline : ℕ
  cancelDrainGrace : ℕ
  shutdown_mono : Monotone shutdown
  cancellation_mono : Monotone cancellation

theorem Clock.le_now (c : Clock) {d m n : ℕ} (hmn : m ≤ n) (h : d ≤ c.now m) : d ≤ c.now n :=
  h.trans (c.mono hmn)

theorem RequestContext.shutdown_of_le (ctx : RequestContext) {m n : ℕ} (hmn : m ≤ n)
    (h : ctx.shutdown m = true) : ctx.shutdown n = true := by
  have := ctx.shutdown_mono hmn
  rw [h] at this
  exact top_unique this

theorem RequestContext.cancellation_of_le (ctx : RequestContext) {m n : ℕ} (hmn : m ≤ n)
    (h : ctx.cancellation m = true) : ctx.cancellation n = true := by
  have := ctx.cancellation_mono hmn
  rw [h] at this
  exact top_unique this

/-- A flag that is raised from read `n` on. -/
def raisedFrom (n : ℕ) : ℕ → Bool := fun k => decide (n ≤ k)

theorem raisedFrom_mono (n : ℕ) : Monotone (raisedFrom n) := by
  intro a b hab
  unfold raisedFrom
  by_cases h : n ≤ a
  · simp [h, h.trans hab]
  · simp [h]

/-- A flag that may be raised, from a given read on. -/
def raisedAt : Option ℕ → ℕ → Bool
  | none => fun _ => false
  | some n => raisedFrom n

theorem raisedAt_mono : ∀ n, Monotone (raisedAt n)
  | none => fun _ _ _ => le_rfl
  | some n => raisedFrom_mono n

/-- The context whose flags are raised at the given reads and whose clock counts reads. -/
def RequestContext.timed (shutdown cancellation : Option ℕ) (deadline : ℕ) : RequestContext where
  clock := { now := id, mono := monotone_id }
  shutdown := raisedAt shutdown
  cancellation := raisedAt cancellation
  deadline := deadline
  cancelDrainGrace := 5
  shutdown_mono := raisedAt_mono shutdown
  cancellation_mono := raisedAt_mono cancellation

/-- What a poll of the control state found. -/
inductive CancelReason where
  | shutdown | cancelled | deadline
  deriving DecidableEq, Repr

/-! ### Results -/

/-- `ExecStatusType`. -/
inductive ExecStatus where
  | emptyQuery | commandOk | tuplesOk | copyOut | copyIn | badResponse | nonfatalError
  | fatalError | copyBoth | singleTuple | pipelineSync | pipelineAborted | tuplesChunk
  deriving DecidableEq, Repr

/-- The three COPY states. -/
def ExecStatus.isCopy : ExecStatus → Bool
  | .copyIn | .copyOut | .copyBoth => true
  | _ => false

/-- A cell of a tuple; bytes that are not UTF-8 are kept by their number. -/
inductive Cell where
  | null
  | text (s : String)
  | invalidUtf8 (length : ℕ)
  deriving DecidableEq, Repr

/-- A `PGresult`: names and tags are absent when they are not UTF-8. -/
structure PgResult where
  status : ExecStatus
  columns : List (Option String × ℕ) := []
  tuples : List (List Cell) := []
  cmdStatus : Option String := some ""
  cmdTuples : Option String := some ""
  sqlstate : Option String := none
  /-- Every tuple has a cell for each field. -/
  shape : ∀ row ∈ tuples, row.length = columns.length := by simp
  deriving DecidableEq, Repr

/-- A result without tuples has any shape. -/
theorem PgResult.noTuples : ∀ row ∈ ([] : List (List Cell)), row.length = 0 := by simp

/-- Results that carry the tag of a completed command. -/
def PgResult.carriesTag (r : PgResult) : Bool := r.status == .tuplesOk || r.status == .commandOk

/-! ### The answers of the server -/

/-- What successive `poll(2)` slices on a socket report. -/
inductive Poll where
  /-- The socket is ready. -/
  | ready (readable : Bool) : Poll
  /-- `POLLERR`, `POLLHUP` or `POLLNVAL`. -/
  | hangup : Poll
  /-- `poll` fails with an error other than `EINTR`. -/
  | failed : Poll
  /-- The slice elapses. -/
  | timeout (next : Poll) : Poll
  /-- `EINTR`. -/
  | eintr (next : Poll) : Poll
  deriving DecidableEq, Repr

/-- A descriptor by what polling it will report; absent when `PQsocket` is negative. -/
abbrev Socket := Option Poll

/-- One answer of `PQflush` other than "all sent". -/
inductive FlushStep where
  /-- `PQflush` returns 1.  Then the socket is polled and, when it is readable,
  `PQconsumeInput` is called; it fails when `trouble` is present, which also says
  whether `PQstatus` is still OK. -/
  | pending (socket : Socket) (trouble : Option Bool) : FlushStep
  /-- `PQflush` returns -1; `usable` says whether `PQstatus` is still OK. -/
  | failed (usable : Bool) : FlushStep
  deriving DecidableEq, Repr

/-- One event of a response, in order of arrival. -/
inductive Event where
  /-- The next result is not there yet: `PQisBusy` returns 1 once more. -/
  | busy (socket : Socket) : Event
  /-- The next read fails.  `usable` says whether `PQstatus` is still OK; if it is,
  the read after that goes on with the events that follow. -/
  | trouble (usable : Bool) : Event
  /-- A result is there. -/
  | result (r : PgResult) : Event
  deriving DecidableEq, Repr

/-- The transaction status of a `ReadyForQuery` message. -/
inductive XactStatus where
  | idle | inTransaction | inError
  deriving DecidableEq, Repr

/-- The answer to a statement libpq has accepted.  The end of `events` is the
final NULL.  `commits` says whether the statement made the work of the open
transaction permanent, and `after` is the transaction status it leaves.  When
`trailing` is present, reads fail once the statement is completed. -/
structure Answer where
  singleRow : Bool := true
  flush : List FlushStep := []
  events : List Event := []
  commits : Bool := false
  after : XactStatus
  trailing : Option Bool := none
  deriving DecidableEq, Repr

/-- What becomes of one `PQsendQueryParams`. -/
inductive Script where
  /-- libpq refuses; `usable` says whether `PQstatus` is still OK. -/
  | refuse (usable : Bool) : Script
  | accept (answer : Answer) : Script
  deriving DecidableEq, Repr

/-- A statement that is completed at once, without rows. -/
def Script.completed (tag : String) (commits : Bool) (after : XactStatus) : Script :=
  .accept
    { events := [.result { status := .commandOk, cmdStatus := some tag }], commits, after }

/-- What successive `PQcancelPoll` calls report. -/
inductive CancelPoll where
  | ok : CancelPoll
  | failed : CancelPoll
  /-- Wait for the socket, then poll again. -/
  | waiting (socket : Socket) (next : CancelPoll) : CancelPoll
  /-- Poll again at once. -/
  | active (next : CancelPoll) : CancelPoll
  deriving DecidableEq, Repr

/-- What becomes of one cancel request. -/
inductive CancelScript where
  | createFailed | startFailed
  /-- `PQcancelStart` succeeds; the first wait is for the write phase. -/
  | started (socket : Socket) (next : CancelPoll)
  deriving DecidableEq, Repr

/-! ### The native connection -/

/-- A cancel request that succeeds at once. -/
def CancelScript.succeeding : CancelScript := .started (some (.ready true)) .ok

/-- A statement in flight: what libpq still has to flush and the server to answer. -/
structure Statement where
  sql : String
  singleRow : Bool
  flush : List FlushStep
  events : List Event
  /-- The tag of the last command-carrying result fetched. -/
  tag : String
  /-- The connection broke while a result was fetched. -/
  lost : Bool
  commits : Bool
  after : XactStatus
  trailing : Option Bool
  deriving DecidableEq, Repr

/-- The statement libpq has just accepted. -/
def Answer.statement (a : Answer) (sql : String) : Statement where
  sql := sql
  singleRow := a.singleRow
  flush := a.flush
  events := a.events
  tag := ""
  lost := false
  commits := a.commits
  after := a.after
  trailing := a.trailing

/-- The transaction of a session, with the statement that began it. -/
inductive Xact where
  | idle : Xact
  | opened (begunBy : String) (failed : Bool) : Xact
  deriving DecidableEq, Repr

/-- The statement that began the open transaction. -/
def Xact.begunBy : Xact → Option String
  | .idle => none
  | .opened sql _ => some sql

/-- `xactStatus` of the native connection. -/
def Xact.status : Xact → TransactionStatus
  | .idle => .idle
  | .opened _ false => .inTransaction
  | .opened _ true => .inError

/-- The transaction after `sql` has been completed with status `after`. -/
def Xact.next (x : Xact) (sql : String) : XactStatus → Xact
  | .idle => .idle
  | .inTransaction => .opened (x.begunBy.getD sql) false
  | .inError => .opened (x.begunBy.getD sql) true

/-- What a connection is doing. -/
inductive Activity where
  /-- No statement is in flight.  When `trailing` is present, reads fail, and it says
  whether `PQstatus` is OK then. -/
  | resting (trailing : Option Bool) : Activity
  | running (statement : Statement) : Activity
  deriving DecidableEq, Repr

/-- A `PGconn`. -/
structure PgConn where
  /-- `PQstatus` is `CONNECTION_OK`. -/
  ok : Bool
  xact : Xact
  activity : Activity
  deriving DecidableEq, Repr

/-- The statement in flight. -/
def PgConn.inFlight (c : PgConn) : Option Statement :=
  match c.activity with
  | .resting _ => none
  | .running s => some s

/-- `PQtransactionStatus`: unknown on a bad connection, active while a statement
is in flight. -/
def PgConn.transactionStatus (c : PgConn) : TransactionStatus :=
  if !c.ok then .unknown else if c.inFlight.isSome then .active else c.xact.status

/-- The end of a statement, as the server completed it. -/
structure Completion where
  tag : String
  commits : Bool
  after : XactStatus
  deriving DecidableEq, Repr

/-- What `PQgetResult` came back with. -/
inductive Fetched where
  | result (status : ExecStatus)
  /-- The error result of a read that failed; `usable` says whether `PQstatus` is
  still OK. -/
  | broken (usable : Bool)
  /-- The final NULL, with the completion the server reported. -/
  | null (completion : Option Completion)
  deriving DecidableEq, Repr

/-- The trace of a request: the answers of libpq, of the server and of the control
state, in the order they were received. -/
inductive Call where
  /-- `PQsendQueryParams` accepted `sql`, with `xact` as the open transaction. -/
  | send (sql : String) (xact : Xact)
  /-- `PQsendQueryParams` refused; `usable` says whether `PQstatus` is still OK. -/
  | refused (usable : Bool)
  /-- `PQsetSingleRowMode` failed. -/
  | singleRowRefused
  /-- A control poll of `flush_output` found `reason`. -/
  | interrupted (reason : CancelReason)
  /-- A control poll of `collect_results` found `reason`. -/
  | observed (reason : CancelReason)
  /-- A socket or libpq failure ended the flush or the collection; `usable` says
  whether `PQstatus` is still OK. -/
  | failed (usable : Bool)
  | isBusy (busy : Bool)
  /-- `PQgetResult`; `blocked` says whether it had to block. -/
  | getResult (blocked : Bool) (fetched : Fetched)
  | cancelCreate
  /-- `PQcancelPoll` came to an end; `dispatched` says whether it succeeded. -/
  | cancelPolled (dispatched : Bool)
  /-- `PQfinish`. -/
  | finish
  /-- The adapter call that was to send a statement returned. -/
  | leave
  deriving DecidableEq, Repr

/-! ### The calls on a statement in flight -/

/-- What reading the response up to its next result finds. -/
inductive Arrival where
  | finished
  | trouble (usable : Bool)
  | result (r : PgResult) (rest : List Event)
  deriving DecidableEq, Repr

/-- Waiting for the next result passes over the times it was not there. -/
def arrival : List Event → Arrival
  | [] => .finished
  | .busy _ :: events => arrival events
  | .trouble usable :: _ => .trouble usable
  | .result r :: events => .result r events

/-- `PQisBusy`: the next result is not there yet. -/
def isBusy : List Event → Bool
  | .busy _ :: _ => true
  | _ => false

/-- The connection after the statement in flight is completed. -/
def PgConn.complete (c : PgConn) (s : Statement) : PgConn where
  ok := c.ok
  xact := c.xact.next s.sql s.after
  activity := .resting s.trailing

/-- The error result of a read that failed. -/
def PgResult.readFailed : PgResult := { status := .fatalError }

/-- `PQgetResult` with `s` in flight: what it comes back with, the result if there
is one, and the connection after it.  A connection that breaks yields one error
result and then NULL; in a COPY state the same result is returned again. -/
def PgConn.fetch (c : PgConn) (s : Statement) : Fetched × Option PgResult × PgConn :=
  match arrival s.events with
  | .finished =>
    if s.lost then (.null none, none, { c with activity := .resting none })
    else (.null (some ⟨s.tag, s.commits, s.after⟩), none, c.complete s)
  | .trouble usable =>
    (.broken usable, some .readFailed,
      { c with ok := c.ok && usable, activity := .running { s with events := [], lost := true } })
  | .result r rest =>
    let events := if r.status.isCopy then .result r :: rest else rest
    let tag := if r.carriesTag then r.cmdStatus.getD "" else s.tag
    (.result r.status, some r,
      { c with activity := .running { s with events := events, tag := tag } })

end PgMcp
