import PgMcp.Backend

/-!
# The worker of a handle

Each open handle is owned by one worker, which takes requests from its queue in order.
A request is checked against the published snapshot, runs on the backend, and is
published with a fresh native observation before its reply is sent.

The registry entry of the handle is in the map as long as its worker takes requests,
so the worker's state holds the published snapshot itself.

## Main definitions

* `PublishedHandle`, `PublishedHandle.state` — the snapshot of a handle.
* `operationPrecondition` — the lifecycle checks.
* `executeOperation`, `serve` — one request, up to its reply.
-/

namespace PgMcp

open Program

/-! ### The published snapshot -/

structure PublishedHandle where
  id : String
  database : String
  observation : BackendObservation
  schemaObserved : Bool
  /-- Direct DDL was seen in the open transaction. -/
  schemaDirty : Bool
  closed : Bool
  deriving DecidableEq, Repr

namespace PublishedHandle

/-- The public projection. -/
def state (p : PublishedHandle) : HandleState :=
  .new p.id p.database
    (if p.closed then .closed else p.observation.connectionStatus.protocol)
    (if p.closed then .unknown else p.observation.transactionStatus)
    p.observation.busy
    (if p.closed then false else p.schemaObserved)

def updateObservation (p : PublishedHandle) (observation : BackendObservation)
    (schema : Option Bool) : PublishedHandle :=
  { p with observation := observation, schemaObserved := schema.getD p.schemaObserved }

def updateSchemaDirty (p : PublishedHandle) (dirty : Bool) : PublishedHandle :=
  { p with schemaDirty := dirty }

def publishUnknown (p : PublishedHandle) : PublishedHandle :=
  { p with
    observation := { connectionStatus := .bad, transactionStatus := .unknown, busy := false }
    schemaObserved := false
    schemaDirty := false }

def publishClosed (p : PublishedHandle) : PublishedHandle :=
  { p with
    closed := true
    schemaObserved := false
    schemaDirty := false
    observation := .none }

end PublishedHandle

/-! ### Requests -/

inductive Operation where
  | getSchema | openRead | openWrite
  | query (request : QueryRequest)
  | commit | rollback | close
  deriving DecidableEq, Repr

/-- An error of the core, with the snapshot of the handle it is about. -/
structure CoreFailure where
  error : CoreError
  handleState : Option HandleState
  sqlstate : Option String
  outcomeUnknown : Bool
  deriving DecidableEq, Repr

def CoreFailure.process (error : CoreError) : CoreFailure where
  error := error
  handleState := none
  sqlstate := none
  outcomeUnknown := error.outcomeUnknown

/-- The reply to a request. -/
abbrev Reply := Except CoreFailure Envelope

/-- The reply says that the outcome is unknown. -/
def Reply.outcomeUnknown : Reply → Bool
  | .ok envelope => envelope.outcomeUnknown
  | .error failure => failure.outcomeUnknown

/-- The lifecycle checks on the published snapshot. -/
def operationPrecondition (p : PublishedHandle) (operation : Operation) : Option CoreError :=
  let status := p.observation.transactionStatus
  if p.closed then some (coreError .handleUnknown)
  else
    match operation with
    | .getSchema => if status ≠ .idle then some (coreError .txAlreadyOpen) else none
    | .openRead | .openWrite =>
      if !p.schemaObserved then some (coreError .schemaRequired)
      else if status ≠ .idle then
        some (if status = .inError then coreError .txFailed else coreError .txAlreadyOpen)
      else none
    | .query _ =>
      if !p.schemaObserved then some (coreError .schemaRequired)
      else
        match status with
        | .inTransaction => none
        | .inError => some (coreError .txFailed)
        | .active => some (coreError .queueFull)
        | .idle => some (coreError .noTxOpen)
        | .unknown => some (coreError .connectionLost)
    | .commit =>
      match status with
      | .inTransaction => none
      | .inError => some (coreError .txFailed)
      | _ => some (coreError .noTxOpen)
    | .rollback =>
      -- an idle rollback is a supported no-op
      if status = .active ∨ status = .unknown then some (coreError .connectionLost) else none
    | .close => if Backend.openOrFailed status then some (coreError .activeTransaction) else none

/-! ### The worker -/

structure Worker where
  published : PublishedHandle
  backend : LibpqBackend
  deriving DecidableEq, Repr

abbrev WorkerM := Program Worker CoreFailure

namespace Worker

def currentState (w : Worker) : Option HandleState := some w.published.state

/-- The failure of a request on the handle. -/
def failureForHandle (error : CoreError) (w : Worker) : CoreFailure where
  error := error
  handleState := w.currentState
  sqlstate := none
  outcomeUnknown := error.outcomeUnknown

end Worker

section Worker

variable {ε : Type}

/-- Change the published snapshot. -/
def publish (f : PublishedHandle → PublishedHandle) : Program Worker ε Unit :=
  .update fun w => { w with published := f w.published }

def errorEnvelopeFor (error : CoreError) : Program Worker ε Envelope :=
  .read fun w => errorEnvelope w.currentState error error.outcomeUnknown

def successEnvelope (result : Json) : Program Worker ε Envelope :=
  .read fun w => .success w.currentState (movesOf w.currentState) result

def failForHandle {α : Type} (error : CoreError) : WorkerM α := do
  .fail (← .read (Worker.failureForHandle error))

/-- Read a control flag. -/
def control {α : Type} (x : Program Wire ε α) : Program Worker ε α :=
  x.zoom (fun w => w.backend.wire) fun wire w =>
    { w with backend := { w.backend with wire := wire } }

/-- Run an operation of the backend. -/
def onBackend {α : Type} (x : BackendM α) : Program Worker ε (Except BackendFailure α) :=
  (x.zoom Worker.backend fun b w => { w with backend := b }).attempt

end Worker

/-- The error with which a request is refused when its control flags are raised: a
queued query keeps an unknown outcome. -/
def refusalError (operation : Operation) (code : ErrorCode) : CoreError :=
  match operation with
  | .query _ => .unknown code
  | _ => coreError code

def errorCodeForValidation : ValidationError → ErrorCode
  | .parameterCountLimit | .parameterByteLimit | .embeddedNul | .invalidQuery => .invalidInput
  | .schemaLimit => .schemaLimit
  | _ => .resultLimit

/-- The backend method of an operation. -/
def runOperation (rounds : ℕ) (config : Config) (ctx : RequestContext) :
    Operation → BackendM BackendResult
  | .getSchema => Backend.getSchema rounds ctx config
  | .openRead => Backend.openRead rounds ctx
  | .openWrite => Backend.openWrite rounds ctx
  | .query request => Backend.query rounds ctx request config
  | .commit => Backend.commit rounds ctx
  | .rollback => Backend.rollback rounds ctx
  | .close => Backend.close

/-- The textual checks of a query come before the backend. -/
def operationValidate (config : Config) : Operation → Except ValidationError Unit
  | .query request => request.validate config
  | _ => .ok ()

/-- The snapshot and the reply for a result of the backend. -/
def publishResult (config : Config) : BackendResult → WorkerM Envelope
  | .opened mode observation => do
    publish (·.updateObservation observation none)
    successEnvelope (.obj [("opened", .str mode)])
  | .schema schema observation =>
    match schema.validate config with
    | .error _ => failForHandle (coreError .schemaLimit)
    | .ok () => do
      publish (·.updateObservation observation (some true))
      publish (·.updateSchemaDirty false)
      successEnvelope schema.toJson
  | .query query observation directDdl =>
    match query.validate config with
    | .error _ => failForHandle (coreError .resultLimit)
    | .ok () => do
      publish fun p => if directDdl then p.updateSchemaDirty true else p
      publish (·.updateObservation observation none)
      successEnvelope query.toJson
  | .committed observation => do
    publish fun p => p.updateObservation observation (if p.schemaDirty then some false else none)
    publish (·.updateSchemaDirty false)
    successEnvelope (.obj [("committed", .bool true)])
  | .rolledBack changed observation => do
    publish (·.updateObservation observation none)
    publish (·.updateSchemaDirty false)
    successEnvelope (.obj [("rolled_back", .bool changed)])
  | .closed observation cleanupVerified => do
    publish (·.updateObservation observation (some false))
    if cleanupVerified then
      publish PublishedHandle.publishClosed
      let state ← .read fun w => HandleState.closed w.published.id w.published.database
      return .success (some state) (movesOf (some state))
        (.obj [("disposed", .bool true), ("cleanup_verified", .bool true),
          ("transaction_outcome", .null)])
    else failForHandle (.unknown .cleanupUncertain)

/-- The snapshot and the reply for a failure of the backend. -/
def publishFailure (failure : BackendFailure) : WorkerM Envelope := do
  publish (·.updateObservation failure.observation none)
  .read fun w => errorEnvelopeWithSqlstate w.currentState failure.error failure.outcomeUnknown
    failure.sqlstate

def executeOperation (rounds : ℕ) (config : Config) (operation : Operation)
    (ctx : RequestContext) : WorkerM Envelope := do
  match ← .read fun w => operationPrecondition w.published operation with
  | some error => errorEnvelopeFor error
  | none =>
    if ← control ctx.stopping then errorEnvelopeFor (coreError .serverStopping)
    else if ← control ctx.cancelled then errorEnvelopeFor (refusalError operation .cancelled)
    else if ← control ctx.expired then errorEnvelopeFor (refusalError operation .deadlineExceeded)
    else
      match operationValidate config operation with
      | .error error => errorEnvelopeFor (coreError (errorCodeForValidation error))
      | .ok () =>
        match ← onBackend (runOperation rounds config ctx operation) with
        | .ok result => publishResult config result
        | .error failure => publishFailure failure

/-! ### Publication -/

/-- The snapshot with a fresh observation; an unknown outcome withdraws the schema
observation, and that of a commit also the status. -/
def settle (operation : Operation) (unknown : Bool) (observation : BackendObservation)
    (p : PublishedHandle) : PublishedHandle :=
  let p := p.updateObservation observation none
  if !unknown then p
  else
    match operation with
    | .commit => p.publishUnknown
    | _ => p.updateObservation observation (some false)

/-- The reply with the snapshot it was published with; a verified close keeps its own. -/
def refreshEnvelopeState (envelope : Envelope) (verifiedClose : Bool) (w : Worker) : Envelope :=
  if verifiedClose then envelope
  else { envelope with handleState := w.currentState, nextMoves := movesOf w.currentState }

/-- The reply is that of a close that succeeded. -/
def closeSucceeded (operation : Operation) (reply : Reply) : Bool :=
  match operation, reply with
  | .close, .ok envelope => envelope.result.isSome
  | _, _ => false

/-- One request of the worker's loop, up to its reply. -/
def serve (rounds : ℕ) (config : Config) (operation : Operation) (ctx : RequestContext) :
    WorkerM Reply := do
  let result ← (executeOperation rounds config operation ctx).attempt
  let observation ← .read fun w => w.backend.observation
  publish (settle operation (Reply.outcomeUnknown result) observation)
  .read fun w => result.map fun envelope =>
    refreshEnvelopeState envelope (closeSucceeded operation result) w

end PgMcp
