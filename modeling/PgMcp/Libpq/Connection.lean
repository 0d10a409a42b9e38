import PgMcp.Lib.Program
import PgMcp.Libpq.Collector

/-!
# The libpq adapter

`Connection` of the source: control polls, socket waits, flushing, collecting,
cancelling and draining, as programs over the adapter's state.  Loops take the
number of rounds they may run.

The draining loops of the source fetch in an inner loop that is only left by
returning, so each is written as two functions: waiting until `PQisBusy` is 0
(`awaitResult`, `awaitIdle`), and fetching up to NULL (`fetchResults`,
`fetchIdle`).

## Main definitions

* `Wire` — the connection, what is still to come, and the trace.
* `PollControl`, `checkControl` — shutdown, cancellation and deadline.
* `flushOutput`, `collectResults`, `dispatchCancel`, `drainUntilIdle`,
  `cancelAndDrain` — the loops.
* `Connection.query`, `Connection.execute`, `Wire.connectionStatus`,
  `Wire.transactionStatus` — the interface.
-/

namespace PgMcp

/-- The state the adapter runs on: the native connection and the busy flag of
`Connection`, the number of control reads made, the answers to come, and the
trace, newest entry first. -/
structure Wire where
  conn : Option PgConn
  busy : Bool
  tick : ℕ
  scripts : List Script
  cancels : List CancelScript
  calls : List Call
  deriving DecidableEq, Repr

/-- A usable connection at rest outside a transaction. -/
def Wire.fresh (scripts : List Script) (cancels : List CancelScript) : Wire where
  conn := some { ok := true, xact := .idle, activity := .resting none }
  busy := false
  tick := 0
  scripts := scripts
  cancels := cancels
  calls := []

abbrev Adapter := Program Wire AdapterError

/-! ### Control -/

section Control

variable {ε : Type}

/-- `Instant::now()`. -/
def Clock.read (c : Clock) : Program Wire ε ℕ :=
  .act fun w => (c.now w.tick, { w with tick := w.tick + 1 })

/-- The shutdown token is cancelled. -/
def RequestContext.stopping (ctx : RequestContext) : Program Wire ε Bool :=
  .act fun w => (ctx.shutdown w.tick, { w with tick := w.tick + 1 })

/-- The client's token is cancelled. -/
def RequestContext.cancelled (ctx : RequestContext) : Program Wire ε Bool :=
  .act fun w => (ctx.cancellation w.tick, { w with tick := w.tick + 1 })

/-- The deadline has passed. -/
def RequestContext.expired (ctx : RequestContext) : Program Wire ε Bool := do
  return decide (ctx.deadline ≤ (← ctx.clock.read))

/-- The control objects of the worker: `LibpqControl`, and `NoClientCancelControl`
for commit and rollback. -/
inductive PollControl where
  | libpq (ctx : RequestContext) : PollControl
  | noClientCancel (ctx : RequestContext) : PollControl

def PollControl.context : PollControl → RequestContext
  | .libpq ctx => ctx
  | .noClientCancel ctx => ctx

def PollControl.clock (ctl : PollControl) : Clock := ctl.context.clock

def PollControl.shutdownRequested (ctl : PollControl) : Program Wire ε Bool := ctl.context.stopping

def PollControl.cancelled : PollControl → Program Wire ε Bool
  | .libpq ctx => do if ← ctx.cancelled then return true else ctx.expired
  | .noClientCancel _ => return false

/-- Shutdown, then client cancellation, then the deadline. -/
def pollReason (ctl : PollControl) (deadline : ℕ) : Program Wire ε (Option CancelReason) := do
  if ← ctl.shutdownRequested then return some .shutdown
  else if ← ctl.cancelled then return some .cancelled
  else if deadline ≤ (← ctl.clock.read) then return some .deadline
  else return none

end Control

def checkControl (ctl : PollControl) (deadline : ℕ) : Adapter Unit := do
  match ← pollReason ctl deadline with
  | some reason => .fail reason.error
  | none => return ()

/-! ### libpq calls -/

/-- The trace with one more entry. -/
def Wire.logged (w : Wire) (c : Call) : Wire := { w with calls := c :: w.calls }

/-- Log an entry of the trace. -/
def log (c : Call) : Adapter Unit := .update (·.logged c)

def setBusy (busy : Bool) : Adapter Unit := .update fun w => { w with busy := busy }

/-- `self.conn` is present. -/
def connected : Adapter Bool := .read fun w => w.conn.isSome

/-- The statement in flight. -/
def Wire.statement (w : Wire) : Option Statement := w.conn.bind (·.inFlight)

/-- Change the native connection, if there is one. -/
def Wire.withConn (w : Wire) (f : PgConn → PgConn) : Wire := { w with conn := w.conn.map f }

/-- Replace the statement in flight. -/
def Wire.withStatement (w : Wire) (s : Statement) : Wire :=
  w.withConn fun c => { c with activity := .running s }

/-- `PQsendQueryParams`: refused on a bad connection and while a statement is in
flight, otherwise answered by the next script. -/
def pqSendQueryParams (sql : String) : Adapter Bool := .act fun w =>
  match w.conn with
  | none => (false, w)
  | some c =>
    if !c.ok || c.inFlight.isSome then (false, w.logged (.refused c.ok))
    else
      match w.scripts with
      | [] => (false, w.logged (.refused true))
      | .refuse usable :: scripts =>
        (false, { w with conn := some { c with ok := usable }, scripts := scripts }.logged
          (.refused usable))
      | .accept answer :: scripts =>
        (true, { w with
          conn := some { c with activity := .running (answer.statement sql) }
          scripts := scripts }.logged (.send sql c.xact))

/-- `PQsetSingleRowMode`, when it is asked for; false when it fails. -/
def pqSetSingleRowMode (singleRow : Bool) : Adapter Bool := .act fun w =>
  if !singleRow || w.statement.any (·.singleRow) then (true, w)
  else (false, w.logged .singleRowRefused)

/-- `PQflush`; `none` when everything is sent. -/
def pqFlush : Adapter (Option FlushStep) := .act fun w =>
  match w.statement with
  | none => (none, w)
  | some s =>
    match s.flush with
    | [] => (none, w)
    | step :: steps => (some step, w.withStatement { s with flush := steps })

/-- `PQconsumeInput` returns 1. -/
def pqConsumeInput : Adapter Bool := .act fun w =>
  match w.conn with
  | none => (false, w)
  | some c =>
    if !c.ok then (false, w)
    else
      match c.activity with
      | .resting none => (true, w)
      | .resting (some usable) => (false, { w with conn := some { c with ok := usable } })
      | .running s =>
        match s.events with
        | .trouble usable :: events =>
          (false, { w with
            conn := some
              { c with ok := usable, activity := .running { s with events := events } } })
        | _ => (true, w)

/-- The events still to come on the statement in flight. -/
def Wire.events (w : Wire) : List Event := (w.statement.map (·.events)).getD []

/-- `PQisBusy` is not 0. -/
def pqIsBusy : Adapter Bool := .act fun w =>
  (PgMcp.isBusy w.events, w.logged (.isBusy (PgMcp.isBusy w.events)))

/-- `PQsocket` while the next result is not there; the wait for it follows. -/
def pqSocket : Adapter Socket := .act fun w =>
  match w.statement with
  | none => (none, w)
  | some s =>
    match s.events with
    | .busy socket :: events => (socket, w.withStatement { s with events := events })
    | _ => (none, w)

/-- `PQgetResult`. -/
def pqGetResult : Adapter (Option PgResult) := .act fun w =>
  match w.conn with
  | none => (none, w)
  | some c =>
    match c.inFlight with
    | none => (none, w.logged (.getResult false (.null none)))
    | some s =>
      let (fetched, result, c) := c.fetch s
      (result, { w with conn := some c }.logged (.getResult (PgMcp.isBusy s.events) fetched))

/-- `Connection::dispose`: `PQfinish` on the connection, if it is still there. -/
def Wire.disposed (w : Wire) : Wire :=
  { w with
    conn := none
    busy := false
    calls := if w.conn.isSome then .finish :: w.calls else w.calls }

/-- Dispose the connection and fail with `e`. -/
def disposeAndFail {α : Type} (e : AdapterError) : Adapter α := do
  .update Wire.disposed
  .fail e

/-- Fail with `e` and leave the statement in flight. -/
def giveUp {α : Type} (usable : Bool) (e : AdapterError) : Adapter α := do
  .update fun w => (w.withConn fun c => { c with ok := c.ok && usable }).logged (.failed usable)
  .fail e

/-! ### Waiting and flushing -/

/-- A slice is only started before the deadline. -/
def checkRemaining (clock : Clock) (deadline : ℕ) : Adapter Unit := do
  if deadline ≤ (← clock.read) then .fail (AdapterError.new .deadlineExceeded).unknown
  else return ()

/-- `poll_fd`, on a valid descriptor; returns whether the socket is readable. -/
def pollFd (clock : Clock) (deadline : ℕ) : Poll → Adapter Bool
  | .ready readable => do
    checkRemaining clock deadline
    return readable
  | .hangup | .failed => do
    checkRemaining clock deadline
    .fail (AdapterError.new .connectionLost).unknown
  | .timeout next => do
    checkRemaining clock deadline
    checkRemaining clock deadline
    pollFd clock deadline next
  | .eintr next => do
    checkRemaining clock deadline
    pollFd clock deadline next

def flushOutput (ctl : PollControl) (deadline : ℕ) : ℕ → Adapter Unit
  | 0 => .outOfRounds
  | rounds + 1 => do
    match ← pollReason ctl deadline with
    | some reason =>
      log (.interrupted reason)
      .fail reason.error
    | none =>
      .require (← connected) (AdapterError.new .connectionLost).unknown
      match ← pqFlush with
      | none => return ()
      | some (.failed usable) => giveUp usable (AdapterError.new .connectionLost).unknown
      | some (.pending none _) => giveUp true (AdapterError.new .connectionLost).unknown
      | some (.pending (some socket) trouble) =>
        match ← (pollFd ctl.clock deadline socket).attempt with
        | .error e => giveUp true e
        | .ok readable =>
          -- readability is serviced before the next flush
          match readable, trouble with
          | true, some usable => giveUp usable (AdapterError.new .connectionLost).unknown
          | _, _ => flushOutput ctl deadline rounds

/-! ### Cancelling -/

/-- Each round of the poll loop of `dispatch_cancel` starts before the deadline. -/
def checkCancelDeadline (clock : Clock) (reason : CancelReason) (deadline : ℕ) : Adapter Unit := do
  if deadline ≤ (← clock.read) then disposeAndFail reason.error.unknown
  else return ()

/-- The poll loop of `dispatch_cancel`. -/
def cancelLoop (clock : Clock) (reason : CancelReason) (deadline : ℕ) : CancelPoll → Adapter Bool
  | .ok => do
    checkCancelDeadline clock reason deadline
    log (.cancelPolled true)
    return true
  | .failed => do
    checkCancelDeadline clock reason deadline
    log (.cancelPolled false)
    return false
  | .waiting none _ => do
    checkCancelDeadline clock reason deadline
    disposeAndFail reason.error.unknown
  | .waiting (some socket) next => do
    checkCancelDeadline clock reason deadline
    match ← (pollFd clock deadline socket).attempt with
    | .error _ => disposeAndFail reason.error.unknown
    | .ok _ => cancelLoop clock reason deadline next
  | .active next => do
    checkCancelDeadline clock reason deadline
    cancelLoop clock reason deadline next

/-- `PQcancelCreate` and `PQcancelStart`, answered by the next script. -/
def pqCancelCreate : Adapter CancelScript := .act fun w =>
  (w.cancels.headD .createFailed, { w with cancels := w.cancels.tail }.logged .cancelCreate)

def dispatchCancel (clock : Clock) (reason : CancelReason) (deadline : ℕ) : Adapter Bool := do
  if ← connected then
    match ← pqCancelCreate with
    | .createFailed | .startFailed => disposeAndFail reason.error.unknown
    | .started socket next => cancelLoop clock reason deadline (.waiting socket next)
  else return false

/-! ### Collecting -/

/-- What the polls of `collect_results` have recorded: the error to report, and the
deadline of the socket waits. -/
structure Observed where
  firstError : Option AdapterError
  drainDeadline : ℕ

/-- The control poll at the head of the loop.  A control event after the send does
not abandon the response: it is recorded, and a cancel request is dispatched.  The
error it records keeps a second one from being dispatched. -/
def observeControl (ctl : PollControl) (deadline : ℕ) (seen : Observed) : Adapter Observed := do
  match seen.firstError with
  | some _ => return seen
  | none =>
    match ← pollReason ctl deadline with
    | none => return seen
    | some reason =>
      log (.observed reason)
      let drainDeadline := (← ctl.clock.read) + ctl.context.cancelDrainGrace
      let _ ← dispatchCancel ctl.clock reason drainDeadline
      return { firstError := some reason.error.unknown, drainDeadline := drainDeadline }

/-- The error of a wait that fails. -/
def Observed.lost (seen : Observed) : AdapterError :=
  seen.firstError.getD (AdapterError.new .connectionLost).unknown

/-- The outer loop of `collect_results`, up to the first fetch. -/
def awaitResult (ctl : PollControl) (deadline : ℕ) : ℕ → Observed → Adapter Observed
  | 0, _ => .outOfRounds
  | rounds + 1, seen => do
    let seen ← observeControl ctl deadline seen
    .require (← connected) (AdapterError.new .connectionLost).unknown
    if ← pqConsumeInput then
      if ← pqIsBusy then
        match ← pqSocket with
        | none => disposeAndFail seen.lost
        | some socket =>
          match ← (pollFd ctl.clock seen.drainDeadline socket).attempt with
          | .error _ => disposeAndFail seen.lost
          | .ok _ => awaitResult ctl deadline rounds seen
      else return seen
    else
      setBusy false
      giveUp (← .read fun w => w.conn.any (·.ok)) (AdapterError.new .connectionLost).unknown

/-- The inner loop of `collect_results`: every result up to NULL. -/
def fetchResults : ℕ → ResultCollector → Option AdapterError → Adapter ResultSet
  | 0, _, _ => .outOfRounds
  | rounds + 1, collector, firstError => do
    match ← pqGetResult with
    | none =>
      setBusy false
      .ofExcept (collector.outcome firstError)
    | some result =>
      match consumeResult collector result with
      | (.ok (), collector) => fetchResults rounds collector firstError
      | (.error e, collector) =>
        if e.errorClass = .copyUnsupported then
          disposeAndFail (AdapterError.new .copyUnsupported).unknown
        else fetchResults rounds collector (some (firstError.getD e))

def collectResults (rounds : ℕ) (limits : QueryLimits) (deadline : ℕ) (ctl : PollControl) :
    Adapter ResultSet := do
  flushOutput ctl deadline rounds
  let seen ← awaitResult ctl deadline rounds { firstError := none, drainDeadline := deadline }
  fetchResults rounds (.new limits) seen.firstError

/-! ### Draining -/

/-- The outer loop of `drain_until_idle`; false when there is no connection. -/
def awaitIdle (clock : Clock) (deadline : ℕ) : ℕ → Adapter Bool
  | 0 => .outOfRounds
  | rounds + 1 => do
    if ← connected then
      .require (← pqConsumeInput) (AdapterError.new .connectionLost).unknown
      if ← pqIsBusy then
        match ← pqSocket with
        | none => .fail (AdapterError.new .connectionLost).unknown
        | some socket =>
          let _ ← pollFd clock deadline socket
          awaitIdle clock deadline rounds
      else return true
    else return false

/-- The inner loop of `drain_until_idle`. -/
def fetchIdle : ℕ → Adapter Unit
  | 0 => .outOfRounds
  | rounds + 1 => do
    match ← pqGetResult with
    | some _ => fetchIdle rounds
    | none => return ()

def drainUntilIdle (clock : Clock) (rounds deadline : ℕ) : Adapter Unit := do
  if ← awaitIdle clock deadline rounds then fetchIdle rounds else return ()

/-- Dispatch a cancel request and drain the original connection. -/
def cancelAndDrain (clock : Clock) (rounds : ℕ) (reason : CancelReason) (deadline : ℕ) :
    Adapter Bool := do
  let dispatched ← dispatchCancel clock reason deadline
  match ← (drainUntilIdle clock rounds deadline).attempt with
  | .error _ => disposeAndFail reason.error.unknown
  | .ok () => if dispatched then return true else .fail reason.error.unknown

/-! ### Sending -/

/-- The loop of `validate_parameters`: the running total of the value bytes, which ends at a
NUL and at an overflow. -/
def valueTotal : ℕ → List Parameter → Except AdapterError ℕ
  | total, [] => .ok total
  | total, p :: parameters =>
    match p.value with
    | none => valueTotal total parameters
    | some value =>
      if hasNul value then .error (.new .invalidInput)
      else if usizeMax < total + value.utf8ByteSize then .error (.new .invalidInput)
      else valueTotal (total + value.utf8ByteSize) parameters

/-- The adapter's own parameter checks. -/
def validateParameters (parameters : List Parameter) (limits : QueryLimits) :
    Except AdapterError Unit :=
  if limits.parameters < parameters.length then .error (.new .invalidInput)
  else
    match valueTotal 0 parameters with
    | .error e => .error e
    | .ok total =>
      if limits.parameterBytes < total then .error (.new .invalidInput) else .ok ()

/-- The largest `c_int`. -/
def cIntMax : ℕ := 2 ^ 31 - 1

/-- What is sent and collected once the checks have passed. -/
def sendChecked (rounds : ℕ) (sql : String) (limits : QueryLimits) (singleRow : Bool)
    (deadline : ℕ) (ctl : PollControl) : Adapter ResultSet := do
  checkControl ctl deadline
  .require (← connected) (AdapterError.new .connectionLost)
  .require (← pqSendQueryParams sql) (AdapterError.new .database)
  setBusy true
  if ← pqSetSingleRowMode singleRow then
    let result ← (collectResults rounds limits deadline ctl).attempt
    setBusy false
    .ofExcept result
  else
    -- falling back would silently lose streaming
    let _ ← (cancelAndDrain ctl.clock rounds .cancelled deadline).attempt
    .fail (AdapterError.new .internal).unknown

def sendQuery (rounds : ℕ) (sql : String) (parameters : List Parameter) (limits : QueryLimits)
    (deadline : ℕ) (ctl : PollControl) : Adapter ResultSet := do
  .require (!(sql.isEmpty || limits.sqlBytes < sql.utf8ByteSize || hasNul sql))
    (AdapterError.new .invalidInput)
  .ofExcept (validateParameters parameters limits)
  .require (parameters.length ≤ cIntMax) (AdapterError.new .invalidInput)
  sendChecked rounds sql limits true deadline ctl

def sendAndCollect (rounds : ℕ) (sql : String) (parameters : List Parameter) (singleRow : Bool)
    (deadline : ℕ) (ctl : PollControl) : Adapter ResultSet := do
  .require (!hasNul sql) (AdapterError.new .invalidInput)
  .ofExcept (validateParameters parameters (.unbounded sql.utf8ByteSize))
  .require (parameters.length ≤ cIntMax) (AdapterError.new .invalidInput)
  sendChecked rounds sql (.unbounded sql.utf8ByteSize) singleRow deadline ctl

/-! ### The interface -/

/-- Note in the trace that the adapter call has returned. -/
def leaving {α : Type} (x : Adapter α) : Adapter α := do
  let result ← x.attempt
  log .leave
  .ofExcept result

namespace Connection

def query (rounds : ℕ) (sql : String) (parameters : List Parameter) (limits : QueryLimits)
    (deadline : ℕ) (ctl : PollControl) : Adapter ResultSet :=
  leaving (sendQuery rounds sql parameters limits deadline ctl)

def execute (rounds : ℕ) (sql : String) (deadline : ℕ) (ctl : PollControl) : Adapter ResultSet :=
  leaving (sendAndCollect rounds sql [] false deadline ctl)

end Connection

/-- The connection statuses of the adapter. -/
inductive WireStatus where
  | ok | bad | closed
  deriving DecidableEq, Repr

/-- `PQstatus`; closed once the connection is disposed. -/
def Wire.connectionStatus (w : Wire) : WireStatus :=
  match w.conn with
  | none => .closed
  | some c => if c.ok then .ok else .bad

/-- `PQtransactionStatus`; unknown once the connection is disposed. -/
def Wire.transactionStatus (w : Wire) : TransactionStatus :=
  match w.conn with
  | none => .unknown
  | some c => c.transactionStatus

end PgMcp
