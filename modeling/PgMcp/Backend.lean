import PgMcp.Schema

/-!
# The libpq backend of a handle

`LibpqBackend` of the source: the operations of a handle as commands on its
connection, and the translation of the adapter's errors into failures with a fresh
observation of the native status.

## Main definitions

* `LibpqBackend`, `BackendObservation`, `BackendFailure`, `BackendResult`.
* `Backend.openRead`, `Backend.openWrite`, `Backend.getSchema`, `Backend.query`,
  `Backend.commit`, `Backend.rollback`, `Backend.close`, `Backend.shutdown`.
-/

namespace PgMcp

open Program

/-! ### Observations, results and failures -/

/-- Connection health as the backend observes it. -/
inductive BackendConnectionStatus where
  | ok | bad | unknown
  deriving DecidableEq, Repr

/-- The published form: anything but a healthy connection is bad. -/
def BackendConnectionStatus.protocol : BackendConnectionStatus → ConnectionStatus
  | .ok => .ok
  | .bad | .unknown => .bad

/-- The last native status observed. -/
structure BackendObservation where
  connectionStatus : BackendConnectionStatus
  transactionStatus : TransactionStatus
  busy : Bool
  deriving DecidableEq, Repr

/-- What is observed when there is no connection. -/
def BackendObservation.none : BackendObservation where
  connectionStatus := .unknown
  transactionStatus := .unknown
  busy := false

inductive BackendResult where
  | opened (mode : String) (observation : BackendObservation)
  | schema (schema : SchemaResult) (observation : BackendObservation)
  | query (query : QueryResult) (observation : BackendObservation) (directDdl : Bool)
  | committed (observation : BackendObservation)
  | rolledBack (changed : Bool) (observation : BackendObservation)
  | closed (observation : BackendObservation) (cleanupVerified : Bool)
  deriving DecidableEq, Repr

structure BackendFailure where
  error : CoreError
  observation : BackendObservation
  sqlstate : Option String
  outcomeUnknown : Bool
  deriving DecidableEq, Repr

/-- The outcome of the cleanup at shutdown. -/
inductive ShutdownWorkerResult where
  | verified
  | uncertain (stage : String)
  deriving DecidableEq, Repr

/-! ### The backend -/

/-- The backend: the connection is present until it is taken. -/
structure LibpqBackend where
  present : Bool
  wire : Wire
  deriving DecidableEq, Repr

abbrev BackendM := Program LibpqBackend BackendFailure

def ErrorClass.code : ErrorClass → ErrorCode
  | .config => .configError
  | .invalidInput => .invalidInput
  | .database => .databaseError
  | .databaseMismatch => .databaseMismatch
  | .connectionLost => .connectionLost
  | .unsupportedServer => .unsupportedServer
  | .resultLimit => .resultLimit
  | .copyUnsupported => .copyUnsupported
  | .cancelled => .cancelled
  | .deadlineExceeded => .deadlineExceeded
  | .serverStopping => .serverStopping
  | .internal => .internal

def WireStatus.backend : WireStatus → BackendConnectionStatus
  | .ok => .ok
  | .bad => .bad
  | .closed => .unknown

/-- The observation of a present connection; the busy flag is that of `Connection`. -/
def Wire.observation (w : Wire) : BackendObservation where
  connectionStatus := w.connectionStatus.backend
  transactionStatus := w.transactionStatus
  busy := w.conn.isSome && w.busy

namespace LibpqBackend

def failure (error : AdapterError) (observation : BackendObservation) : BackendFailure where
  error := coreError error.errorClass.code
  observation := observation
  sqlstate := error.sqlstate
  outcomeUnknown := error.outcomeUnknown

def observation (b : LibpqBackend) : BackendObservation :=
  if b.present then b.wire.observation else .none

/-- `self.connection.take()`: the connection is dropped. -/
def take (b : LibpqBackend) : LibpqBackend := { present := false, wire := b.wire.disposed }

end LibpqBackend

namespace Backend

/-! ### Commands -/

/-- The failure of an operation on a backend without connection. -/
def absent (b : LibpqBackend) : BackendFailure where
  error := coreError .connectionLost
  observation := b.observation
  sqlstate := none
  outcomeUnknown := true

/-- A failure with a known outcome. -/
def refused (code : ErrorCode) (b : LibpqBackend) : BackendFailure where
  error := coreError code
  observation := b.observation
  sqlstate := none
  outcomeUnknown := false

/-- Fail in a way that depends on the state. -/
def failWith {α : Type} (f : LibpqBackend → BackendFailure) : BackendM α := do
  .fail (← .read f)

def observe : BackendM BackendObservation := .read LibpqBackend.observation

/-- Run a program of the adapter on the connection, which has to be present. -/
def onConnection {ε α : Type} (x : Program Wire ε α) (f : ε → LibpqBackend → BackendFailure) :
    BackendM α := do
  if ← .read LibpqBackend.present then
    (Program.zoom LibpqBackend.wire (fun w b => { b with wire := w }) x).mapError f
  else failWith absent

def adapterFailure (e : AdapterError) (b : LibpqBackend) : BackendFailure :=
  LibpqBackend.failure e b.observation

variable (rounds : ℕ) (ctx : RequestContext)

def executeCommand (sql : String) (ignoreClientCancel : Bool) : BackendM ResultSet :=
  let control : PollControl := if ignoreClientCancel then .noClientCancel ctx else .libpq ctx
  onConnection (Connection.execute rounds sql ctx.deadline control) adapterFailure

/-! ### The operations -/

/-- Begin a transaction of the given mode. -/
def openTransaction (sql mode : String) : BackendM BackendResult := do
  let result ← executeCommand rounds ctx sql false
  if result.commandTag = "BEGIN" then return .opened mode (← observe)
  else failWith (refused .databaseError)

def openRead : BackendM BackendResult := openTransaction rounds ctx "BEGIN READ ONLY" "read"

def openWrite : BackendM BackendResult := openTransaction rounds ctx "BEGIN READ WRITE" "write"

def schemaFailure : SchemaError → LibpqBackend → BackendFailure
  | .limit => refused .schemaLimit
  | .malformed => refused .internal
  | .backend e => adapterFailure e

def getSchema (config : Config) : BackendM BackendResult := do
  let schema ← onConnection (retrieve rounds config ctx.deadline (.libpq ctx)) schemaFailure
  return .schema schema (← observe)

/-- The retention budget of a client query. -/
def queryLimits (config : Config) : QueryLimits where
  sqlBytes := config.sqlBytes
  parameters := config.parameters
  parameterBytes := config.parameterBytes
  resultRows := config.resultRows
  columns := config.columns
  cellBytes := config.cellBytes
  resultJsonBytes := config.resultJsonBytes

/-- Shutdown, the client's token or the deadline, in that order. -/
def interruption : Adapter Bool := do
  if ← ctx.stopping then return true
  else if ← ctx.cancelled then return true
  else ctx.expired

/-- The reason a failed query is cancelled with; the flags are read again. -/
def drainReason : Adapter CancelReason := do
  if ← ctx.stopping then return .shutdown
  else if ← ctx.cancelled then return .cancelled
  else return .deadline

/-- With a control flag raised after a failed query, the connection is drained. -/
def drainAfterFailure : Adapter Unit := do
  if ← interruption ctx then
    let reason ← drainReason ctx
    let now ← ctx.clock.read
    let _ ← cancelAndDrain ctx.clock rounds reason (now + ctx.cancelDrainGrace)
    return ()
  else return ()

/-- The client's token or the deadline: draining cannot prove the effects of the
statement, so its outcome is unknown. -/
def cancelledOrExpired : Adapter Bool := do
  if ← ctx.cancelled then return true
  else ctx.expired

/-- What follows a failed query on the connection; returns whether the outcome has
become unknown. -/
def afterFailedQuery : Adapter Bool := do
  drainAfterFailure rounds ctx
  cancelledOrExpired ctx

/-- The public form of an adapter result. -/
def publicResult (result : ResultSet) : QueryResult where
  columns := result.columns
  rows := result.rows
  commandTag := result.commandTag
  affectedRows := result.affectedRows

def query (request : QueryRequest) (config : Config) : BackendM BackendResult := do
  if ← .read LibpqBackend.present then
    let x := Connection.query rounds request.sql request.parameters (queryLimits config) ctx.deadline
      (.libpq ctx)
    match ← (Program.zoom LibpqBackend.wire (fun w b => { b with wire := w }) x).attempt with
    | .ok result =>
      return .query (publicResult result) (← observe) (directDdlCommandTag result.commandTag)
    | .error e =>
      let observation ← observe
      let unknown ← onConnection (afterFailedQuery rounds ctx) adapterFailure
      let failure := LibpqBackend.failure e observation
      .fail { failure with outcomeUnknown := failure.outcomeUnknown || unknown }
  else failWith absent

/-- The failure of a commit whose command failed. -/
def commitUnknown (sqlstate : Option String) (b : LibpqBackend) : BackendFailure where
  error := coreError .commitOutcomeUnknown
  observation := b.observation
  sqlstate := sqlstate
  outcomeUnknown := true

def commit : BackendM BackendResult := do
  match (← observe).transactionStatus with
  | .inError => failWith (refused .txFailed)
  | .inTransaction =>
    match ← (executeCommand rounds ctx "COMMIT" true).attempt with
    | .error failure => failWith (commitUnknown failure.sqlstate)
    | .ok result =>
      let observation ← observe
      if result.commandTag = "COMMIT" ∧ observation.transactionStatus = .idle then
        return .committed observation
      else failWith (commitUnknown none)
  | _ => failWith (refused .noTxOpen)

/-- The failure of a rollback that did not end the transaction. -/
def rollbackUnverified (b : LibpqBackend) : BackendFailure where
  error := coreError .connectionLost
  observation := b.observation
  sqlstate := none
  outcomeUnknown := true

def rollback : BackendM BackendResult := do
  let before ← observe
  if before.transactionStatus = .idle then return .rolledBack false before
  else
    let result ← executeCommand rounds ctx "ROLLBACK" true
    let observation ← observe
    if result.commandTag = "ROLLBACK" ∧ observation.transactionStatus = .idle then
      return .rolledBack true observation
    else failWith rollbackUnverified

/-- A transaction is open, failed or not. -/
def openOrFailed (status : TransactionStatus) : Bool :=
  status == .inTransaction || status == .inError

def close : BackendM BackendResult := do
  if openOrFailed (← observe).transactionStatus then failWith (refused .activeTransaction)
  else
    .update LibpqBackend.take
    return .closed .none true

def shutdown : BackendM ShutdownWorkerResult := do
  if openOrFailed (← observe).transactionStatus then
    let result ← (executeCommand rounds ctx "ROLLBACK" true).attempt
    let after ← observe
    .update LibpqBackend.take
    match result with
    | .error _ => return .uncertain "rollback"
    | .ok _ =>
      if after.transactionStatus = .idle then return .verified else return .uncertain "rollback"
  else
    .update LibpqBackend.take
    return .verified

end Backend

end PgMcp
