import PgMcp.Json

/-!
# The version-1 protocol

The values a tool call is answered with: the closed vocabulary of error codes,
the snapshot of a handle, the moves recommended from it, and the envelope that
carries them with either a result or an error.

## Main definitions

* `ErrorCode`, `CoreError`, `ErrorPayload` — errors and their static messages.
* `HandleState` — the published snapshot of a handle.
* `movesForState` — the recommended moves of a snapshot.
* `Envelope`, `errorEnvelopeWithSqlstate` — replies.
-/

namespace PgMcp

/-! ### Statuses -/

/-- Connection health as published. -/
inductive ConnectionStatus where
  | ok | bad | closed
  deriving DecidableEq, Repr

/-- The five transaction statuses of the protocol. -/
inductive TransactionStatus where
  | idle | active | inTransaction | inError | unknown
  deriving DecidableEq, Repr

/-- The nullable projection: unknown while a command is in flight, not false. -/
def TransactionStatus.transactionOpen : TransactionStatus → Option Bool
  | .idle => some false
  | .inTransaction | .inError => some true
  | .active | .unknown => none

/-! ### Errors -/

/-- The closed error vocabulary. -/
inductive ErrorCode where
  | unsupportedServer | handleUnknown | handleLimit | databaseUnknown | databaseMismatch
  | configError | queueFull | serverStopping | schemaRequired | schemaLimit | txAlreadyOpen
  | noTxOpen | txFailed | activeTransaction | invalidInput | databaseError | resultLimit
  | copyUnsupported | cancelled | deadlineExceeded | connectionLost | commitOutcomeUnknown
  | cleanupUncertain | internal
  deriving DecidableEq, Repr

/-- The wire spelling of a code. -/
def ErrorCode.code : ErrorCode → String
  | .unsupportedServer => "UNSUPPORTED_SERVER"
  | .handleUnknown => "HANDLE_UNKNOWN"
  | .handleLimit => "HANDLE_LIMIT"
  | .databaseUnknown => "DATABASE_UNKNOWN"
  | .databaseMismatch => "DATABASE_MISMATCH"
  | .configError => "CONFIG_ERROR"
  | .queueFull => "QUEUE_FULL"
  | .serverStopping => "SERVER_STOPPING"
  | .schemaRequired => "SCHEMA_REQUIRED"
  | .schemaLimit => "SCHEMA_LIMIT"
  | .txAlreadyOpen => "TX_ALREADY_OPEN"
  | .noTxOpen => "NO_TX_OPEN"
  | .txFailed => "TX_FAILED"
  | .activeTransaction => "ACTIVE_TRANSACTION"
  | .invalidInput => "INVALID_INPUT"
  | .databaseError => "DATABASE_ERROR"
  | .resultLimit => "RESULT_LIMIT"
  | .copyUnsupported => "COPY_UNSUPPORTED"
  | .cancelled => "CANCELLED"
  | .deadlineExceeded => "DEADLINE_EXCEEDED"
  | .connectionLost => "CONNECTION_LOST"
  | .commitOutcomeUnknown => "COMMIT_OUTCOME_UNKNOWN"
  | .cleanupUncertain => "CLEANUP_UNCERTAIN"
  | .internal => "INTERNAL"

/-- The static message of a code. -/
def ErrorCode.message : ErrorCode → String
  | .unsupportedServer => "PostgreSQL server 12 or newer is required."
  | .handleUnknown => "Unknown handle."
  | .handleLimit => "Handle limit reached."
  | .databaseUnknown => "Database is not configured."
  | .databaseMismatch => "Connected database does not match configuration."
  | .configError => "Invalid server configuration."
  | .queueFull => "Request queue is full."
  | .serverStopping => "Server is stopping."
  | .schemaRequired => "Inspect schema before opening a transaction."
  | .schemaLimit => "Schema response exceeds configured limits."
  | .txAlreadyOpen => "A transaction is already open."
  | .noTxOpen => "No transaction is open."
  | .txFailed => "Transaction failed; roll back before continuing."
  | .activeTransaction => "Resolve the transaction before closing this handle."
  | .invalidInput => "Invalid query or parameters."
  | .databaseError => "PostgreSQL rejected the operation."
  | .resultLimit => "Result exceeds configured limits; execution may have taken effect."
  | .copyUnsupported => "COPY streaming is unsupported; connection disposed."
  | .cancelled => "Request cancelled; execution may have taken effect."
  | .deadlineExceeded => "Request deadline exceeded; execution may have taken effect."
  | .connectionLost => "Connection lost; operation outcome may be unknown."
  | .commitOutcomeUnknown => "Commit outcome is unknown; do not retry automatically."
  | .cleanupUncertain => "Cleanup could not be verified."
  | .internal => "Internal adapter failure."

/-- An error of the worker or the registry. -/
structure CoreError where
  code : ErrorCode
  outcomeUnknown : Bool := false
  deriving DecidableEq, Repr

/-- The error with a known outcome. -/
def coreError (code : ErrorCode) : CoreError := { code }

/-- The error with an unknown outcome. -/
def CoreError.unknown (code : ErrorCode) : CoreError := { code, outcomeUnknown := true }

/-- SQLSTATEs are exactly five ASCII alphanumeric characters. -/
def validSqlstate (state : String) : Bool :=
  state.utf8ByteSize == 5 && state.toList.all Char.isAlphanum

/-- The only uncertain outcome. -/
inductive TransactionOutcome where
  | unknown
  deriving DecidableEq, Repr

/-- The error body of an envelope. -/
structure ErrorPayload where
  code : ErrorCode
  message : String
  sqlstate : Option String
  transactionOutcome : Option TransactionOutcome
  deriving DecidableEq, Repr

/-- The body with the static message of its code. -/
def ErrorPayload.new (code : ErrorCode) : ErrorPayload where
  code := code
  message := code.message
  sqlstate := none
  transactionOutcome := none

/-- The message is the static one, and a SQLSTATE is well formed. -/
def ErrorPayload.validate (error : ErrorPayload) : Bool :=
  error.message == error.code.message && error.sqlstate.all validSqlstate

/-! ### Snapshots -/

/-- The snapshot of a handle carried by an envelope. -/
structure HandleState where
  handle : String
  database : String
  connectionStatus : ConnectionStatus
  transactionStatus : TransactionStatus
  transactionOpen : Option Bool
  busy : Bool
  schemaObserved : Bool
  deriving DecidableEq, Repr

/-- A snapshot, with the projection of its transaction status. -/
def HandleState.new (handle database : String) (connectionStatus : ConnectionStatus)
    (transactionStatus : TransactionStatus) (busy schemaObserved : Bool) : HandleState where
  handle := handle
  database := database
  connectionStatus := connectionStatus
  transactionStatus := transactionStatus
  transactionOpen := transactionStatus.transactionOpen
  busy := busy
  schemaObserved := schemaObserved

/-- The snapshot of a closed handle. -/
def HandleState.closed (handle database : String) : HandleState where
  handle := handle
  database := database
  connectionStatus := .closed
  transactionStatus := .unknown
  transactionOpen := none
  busy := false
  schemaObserved := false

/-- The projection agrees with the status, and a closed snapshot is unknown. -/
def HandleState.validate (state : HandleState) : Bool :=
  state.transactionOpen == state.transactionStatus.transactionOpen &&
    !(state.connectionStatus == .closed &&
      (state.transactionStatus != .unknown || state.transactionOpen.isSome || state.busy ||
        state.schemaObserved))

/-! ### Moves -/

/-- A recommended tool call. -/
structure Move where
  tool : String
  arguments : Json
  guidance : String

/-- A move whose only argument is the handle. -/
def Move.forHandle (tool handle guidance : String) : Move where
  tool := tool
  arguments := .obj [("handle", .str handle)]
  guidance := guidance

/-- A move names its tool, and no argument but the handle; only a move to another handle names
none. -/
def Move.validate (move : Move) : Bool :=
  move.tool != "" && move.guidance != "" &&
    match move.arguments with
    | .obj members =>
      members.all (fun member => member.1 == "handle") &&
        (move.tool == "list_handles" || move.tool == "open_database" ||
          match members.lookup "handle" with
          | some (.str _) => true
          | _ => false)
    | _ => false

def queryGuidance := "Provide SQL and parameters; do not replay a failed statement blindly."
def schemaGuidance := "Inspect schema before opening a transaction."
def openReadGuidance := "Start a PostgreSQL read-only transaction."
def openWriteGuidance := "Start a PostgreSQL read-write transaction."
def commitGuidance := "Commit the current transaction."
def rollbackGuidance := "Roll back the current transaction."
def closeGuidance := "Dispose this handle locally."
def inerrorRollbackGuidance := "Transaction failed; roll back before continuing."
def unknownCloseGuidance :=
  "Connection unusable; dispose locally. Transaction outcome may be unknown."

/-- The moves of a snapshot; `none` when the snapshot is inconsistent. -/
def movesForState (state : HandleState) (closeRefusal : Bool) : Option (List Move) :=
  if !state.validate then none
  else if state.connectionStatus = .closed then some []
  else if state.connectionStatus = .bad ∨ state.transactionStatus = .unknown then
    some [.forHandle "close_database" state.handle unknownCloseGuidance]
  else if state.busy ∨ state.transactionStatus = .active then some []
  else
    match state.transactionStatus with
    | .inError => some [.forHandle "rollback" state.handle inerrorRollbackGuidance]
    | .inTransaction =>
      if closeRefusal then
        some [.forHandle "commit" state.handle commitGuidance,
          .forHandle "rollback" state.handle rollbackGuidance]
      else
        some [.forHandle "query" state.handle queryGuidance,
          .forHandle "commit" state.handle commitGuidance,
          .forHandle "rollback" state.handle rollbackGuidance]
    | .idle =>
      if state.schemaObserved then
        some [.forHandle "open_read" state.handle openReadGuidance,
          .forHandle "open_write" state.handle openWriteGuidance,
          .forHandle "get_schema" state.handle schemaGuidance,
          .forHandle "close_database" state.handle closeGuidance]
      else
        some [.forHandle "get_schema" state.handle schemaGuidance,
          .forHandle "close_database" state.handle closeGuidance]
    | .unknown | .active => some []

/-- The moves of a snapshot. -/
def nextMoves (state : HandleState) : List Move := (movesForState state false).getD []

/-! ### Envelopes -/

/-- A reply: a snapshot, its moves, and either a result or an error. -/
structure Envelope where
  envelopeVersion : ℕ
  handleState : Option HandleState
  nextMoves : List Move
  result : Option Json
  error : Option ErrorPayload

/-- A reply with a result. -/
def Envelope.success (handleState : Option HandleState) (nextMoves : List Move) (result : Json) :
    Envelope where
  envelopeVersion := 1
  handleState := handleState
  nextMoves := nextMoves
  result := some result
  error := none

/-- A reply with an error. -/
def Envelope.failure (handleState : Option HandleState) (nextMoves : List Move)
    (error : ErrorPayload) : Envelope where
  envelopeVersion := 1
  handleState := handleState
  nextMoves := nextMoves
  result := none
  error := some error

/-- The version is right, there is either a result or an error, and all parts are valid. -/
def Envelope.validate (envelope : Envelope) : Bool :=
  envelope.envelopeVersion == 1 && envelope.result.isSome != envelope.error.isSome &&
    envelope.handleState.all HandleState.validate && envelope.nextMoves.all Move.validate &&
    envelope.error.all ErrorPayload.validate

/-- The moves of the snapshot, if there is one. -/
def movesOf (handleState : Option HandleState) : List Move :=
  (handleState.map PgMcp.nextMoves).getD []

/-- An error reply; an ill-formed SQLSTATE is left out. -/
def errorEnvelopeWithSqlstate (handleState : Option HandleState) (error : CoreError)
    (outcomeUnknown : Bool) (sqlstate : Option String) : Envelope :=
  let payload := { ErrorPayload.new error.code with sqlstate := sqlstate.filter validSqlstate }
  let payload :=
    if outcomeUnknown || error.outcomeUnknown then
      { payload with transactionOutcome := some .unknown }
    else payload
  Envelope.failure handleState (movesOf handleState) payload

/-- An error reply without a SQLSTATE. -/
def errorEnvelope (handleState : Option HandleState) (error : CoreError) (outcomeUnknown : Bool) :
    Envelope :=
  errorEnvelopeWithSqlstate handleState error outcomeUnknown none

/-- Whether the reply says that the outcome is unknown. -/
def Envelope.outcomeUnknown (envelope : Envelope) : Bool :=
  envelope.error.any fun error => error.transactionOutcome == some .unknown

@[simp] theorem outcomeUnknown_success (st : Option HandleState) (ms : List Move) (v : Json) :
    (Envelope.success st ms v).outcomeUnknown = false := rfl

@[simp] theorem result_success (st : Option HandleState) (ms : List Move) (v : Json) :
    (Envelope.success st ms v).result = some v := rfl

@[simp] theorem result_errorEnvelopeWithSqlstate (st : Option HandleState) (e : CoreError)
    (u : Bool) (s : Option String) : (errorEnvelopeWithSqlstate st e u s).result = none := rfl

/-- The flag of an error reply is the caller's or the error's own. -/
@[simp] theorem outcomeUnknown_errorEnvelopeWithSqlstate (st : Option HandleState) (e : CoreError)
    (u : Bool) (s : Option String) :
    (errorEnvelopeWithSqlstate st e u s).outcomeUnknown = (u || e.outcomeUnknown) := by
  unfold errorEnvelopeWithSqlstate Envelope.outcomeUnknown Envelope.failure ErrorPayload.new
  cases u <;> cases e.outcomeUnknown <;> rfl

/-- The code of an error reply is that of the error. -/
@[simp] theorem code_errorEnvelopeWithSqlstate (st : Option HandleState) (e : CoreError)
    (u : Bool) (s : Option String) :
    (errorEnvelopeWithSqlstate st e u s).error.map ErrorPayload.code = some e.code := by
  unfold errorEnvelopeWithSqlstate Envelope.failure ErrorPayload.new
  cases u <;> cases e.outcomeUnknown <;> rfl

@[simp] theorem outcomeUnknown_errorEnvelope (st : Option HandleState) (e : CoreError)
    (u : Bool) : (errorEnvelope st e u).outcomeUnknown = (u || e.outcomeUnknown) :=
  outcomeUnknown_errorEnvelopeWithSqlstate st e u none

end PgMcp
