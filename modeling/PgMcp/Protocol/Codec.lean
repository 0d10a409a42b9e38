import PgMcp.Json.Canonical
import PgMcp.Lib.Checks
import PgMcp.Tools

/-!
# Reading envelopes back

An envelope is written out by hand and read back by hand, with derived readers for the parts in
it.  A document is read as a JSON value, whose objects are maps: no key repeats in them.  The
derived readers take a structure from an object and also from an array of its fields in order,
and the name of a choice from a string and also from an object with that one key.

## Main definitions

* `HandleState.fromValue`, `Move.fromValue`, `decodeEnum` — the derived readers.
* `ErrorPayload.decode`, `Envelope.decode` — the readers written by hand.
* `Envelope.Reads` — what it takes for an object to be read as an envelope, and so for each part.

## Main results

* `Envelope.decode_eq_ok_iff` — the reader accepts exactly what is read.
* `Envelope.decode_toJson` — a valid envelope is read back from what it is written as.
-/

namespace PgMcp

/-! ### Readers of the parts -/

/-- Why a document is rejected; the text of an error inside a field is left out. -/
inductive DecodeError where
  /-- "{what} must be an object" -/
  | notAnObject (what : String)
  | missingField (key : String)
  | unknownField (key : String)
  | invalidField (key : String)
  /-- "error message does not match its static code template" -/
  | staticMessage
  /-- The SQLSTATE is not five letters or digits. -/
  | sqlstate
  /-- "envelope must contain exactly one result or error" -/
  | oneOutcome
  /-- The envelope that was read is not valid. -/
  | invalidEnvelope
  deriving DecidableEq, Repr

def asString : Json → Option String
  | .str s => some s
  | _ => none

def asBool : Json → Option Bool
  | .bool b => some b
  | _ => none

/-- A number of at most eight bits, written without a fraction, an exponent or a sign. -/
def asU8 : Json → Option ℕ
  | .num text => (List.range 256).find? fun n => toString n == text
  | _ => none

/-- A value or `null`. -/
def asOption {α : Type} (read : Json → Option α) : Json → Option (Option α)
  | .null => some none
  | v => (read v).map some

def asVec {α : Type} (read : Json → Option α) : Json → Option (List α)
  | .arr items => items.mapM read
  | _ => none

/-- A choice, by its name or by an object with the name for its key and no value. -/
def decodeEnum {α : Type} (all : List α) (name : α → String) : Json → Option α
  | .str s => all.find? fun a => name a == s
  | .obj [(s, .null)] => all.find? fun a => name a == s
  | _ => none

def ConnectionStatus.all : List ConnectionStatus := [.ok, .bad, .closed]

def TransactionStatus.all : List TransactionStatus := [.idle, .active, .inTransaction, .inError, .unknown]

def TransactionOutcome.all : List TransactionOutcome := [.unknown]

def ErrorCode.all : List ErrorCode :=
  [.unsupportedServer, .handleUnknown, .handleLimit, .databaseUnknown, .databaseMismatch,
    .configError, .queueFull, .serverStopping, .schemaRequired, .schemaLimit, .txAlreadyOpen,
    .noTxOpen, .txFailed, .activeTransaction, .invalidInput, .databaseError, .resultLimit,
    .copyUnsupported, .cancelled, .deadlineExceeded, .connectionLost, .commitOutcomeUnknown,
    .cleanupUncertain, .internal]

/-! ### Derived readers -/

namespace HandleState

def fields : List String :=
  ["handle", "database", "connection_status", "transaction_status", "transaction_open", "busy",
    "schema_observed"]

def fromFields (handle database connectionStatus transactionStatus transactionOpen busy
    schemaObserved : Json) : Option HandleState := do
  let handle ← asString handle
  let database ← asString database
  let connectionStatus ← decodeEnum ConnectionStatus.all ConnectionStatus.name connectionStatus
  let transactionStatus ← decodeEnum TransactionStatus.all TransactionStatus.name transactionStatus
  let transactionOpen ← asOption asBool transactionOpen
  let busy ← asBool busy
  let schemaObserved ← asBool schemaObserved
  pure { handle, database, connectionStatus, transactionStatus, transactionOpen, busy, schemaObserved }

/-- An unknown key is rejected, and so is a missing one but for the one that may be `null`. -/
def fromValue : Json → Option HandleState
  | .arr [handle, database, connectionStatus, transactionStatus, transactionOpen, busy, schemaObserved] =>
    fromFields handle database connectionStatus transactionStatus transactionOpen busy schemaObserved
  | .obj members =>
    if members.all fun m => fields.contains m.1 then do
      let handle ← members.lookup "handle"
      let database ← members.lookup "database"
      let connectionStatus ← members.lookup "connection_status"
      let transactionStatus ← members.lookup "transaction_status"
      let busy ← members.lookup "busy"
      let schemaObserved ← members.lookup "schema_observed"
      fromFields handle database connectionStatus transactionStatus
        ((members.lookup "transaction_open").getD .null) busy schemaObserved
    else none
  | _ => none

end HandleState

namespace Move

def fields : List String := ["tool", "arguments", "guidance"]

def fromFields (tool arguments guidance : Json) : Option Move := do
  let tool ← asString tool
  let guidance ← asString guidance
  pure { tool, arguments, guidance }

def fromValue : Json → Option Move
  | .arr [tool, arguments, guidance] => fromFields tool arguments guidance
  | .obj members =>
    if members.all fun m => fields.contains m.1 then do
      let tool ← members.lookup "tool"
      let arguments ← members.lookup "arguments"
      let guidance ← members.lookup "guidance"
      fromFields tool arguments guidance
    else none
  | _ => none

end Move

/-! ### Readers written by hand -/

/-- The keys that must be there. -/
def requireKeys (members : List (String × Json)) (required : List String) : Except DecodeError Unit :=
  match required.find? fun key => (members.lookup key).isNone with
  | some key => .error (.missingField key)
  | none => .ok ()

/-- The keys that may be there. -/
def allowedObjectKeys (members : List (String × Json)) (allowed : List String) :
    Except DecodeError Unit :=
  match members.find? fun m => !allowed.contains m.1 with
  | some m => .error (.unknownField m.1)
  | none => .ok ()

def exactObjectKeys (members : List (String × Json)) (required : List String) : Except DecodeError Unit := do
  requireKeys members required
  allowedObjectKeys members required

def decodeValue {α : Type} (read : Json → Option α) (members : List (String × Json)) (key : String) :
    Except DecodeError α :=
  match members.lookup key with
  | none => .error (.missingField key)
  | some v => (read v).elim (.error (.invalidField key)) .ok

def asObject (what : String) : Json → Except DecodeError (List (String × Json))
  | .obj members => .ok members
  | _ => .error (.notAnObject what)

def Json.isNull : Json → Bool
  | .null => true
  | _ => false

def ErrorPayload.fields : List String := ["code", "message", "sqlstate", "transaction_outcome"]

def ErrorPayload.decode (v : Json) : Except DecodeError ErrorPayload := do
  let members ← asObject "error payload" v
  exactObjectKeys members ErrorPayload.fields
  let code ← decodeValue (decodeEnum ErrorCode.all ErrorCode.code) members "code"
  let message ← decodeValue asString members "message"
  let sqlstate ← decodeValue (asOption asString) members "sqlstate"
  let transactionOutcome ← decodeValue
    (asOption (decodeEnum TransactionOutcome.all TransactionOutcome.name)) members "transaction_outcome"
  if message ≠ code.message then .error .staticMessage
  else if !sqlstate.all validSqlstate then .error .sqlstate
  else .ok { code, message, sqlstate, transactionOutcome }

def Envelope.required : List String := ["envelope_version", "handle_state", "next_moves"]

/-- An envelope that was read, if it is valid. -/
def Envelope.accept (envelope : Envelope) : Except DecodeError Envelope :=
  if envelope.validate then .ok envelope else .error .invalidEnvelope

def Envelope.decode (v : Json) : Except DecodeError Envelope := do
  let members ← asObject "envelope" v
  requireKeys members Envelope.required
  allowedObjectKeys members (Envelope.required ++ ["result", "error"])
  let envelopeVersion ← decodeValue asU8 members "envelope_version"
  let handleState ← decodeValue (asOption HandleState.fromValue) members "handle_state"
  let nextMoves ← decodeValue (asVec Move.fromValue) members "next_moves"
  -- a value that is `null` counts as none
  match (members.lookup "result").filter fun v => !v.isNull,
    (members.lookup "error").filter fun v => !v.isNull with
  | some result, none =>
    Envelope.accept { envelopeVersion, handleState, nextMoves, result := some result, error := none }
  | none, some error => do
    let error ← ErrorPayload.decode error
    Envelope.accept { envelopeVersion, handleState, nextMoves, result := none, error := some error }
  | _, _ => .error .oneOutcome

/-! ### What the readers accept -/

/-- The key is there, with a value that has the property `P`. -/
def Has (members : List (String × Json)) (key : String) (P : Json → Prop) : Prop :=
  ∃ v, members.lookup key = some v ∧ P v

theorem Has.mono {members : List (String × Json)} {key : String} {P Q : Json → Prop}
    (h : Has members key P) (hPQ : ∀ v, P v → Q v) : Has members key Q := by
  obtain ⟨v, hv, hP⟩ := h
  exact ⟨v, hv, hPQ v hP⟩

theorem requireKeys_eq_ok_iff {members : List (String × Json)} {required : List String} {u : Unit} :
    requireKeys members required = .ok u ↔ ∀ key ∈ required, Has members key fun _ => True := by
  have hfind : required.find? (fun key => (members.lookup key).isNone) = none ↔
      ∀ key ∈ required, Has members key fun _ => True := by
    rw [List.find?_eq_none]
    simp only [Has, and_true, Option.isNone_iff_eq_none, ← ne_eq, Option.ne_none_iff_exists']
  rw [← hfind, requireKeys]
  cases required.find? fun key => (members.lookup key).isNone with
  | none => simp
  | some key => simp

theorem allowedObjectKeys_eq_ok_iff {members : List (String × Json)} {allowed : List String} {u : Unit} :
    allowedObjectKeys members allowed = .ok u ↔ ∀ m ∈ members, m.1 ∈ allowed := by
  have hfind : members.find? (fun m => !allowed.contains m.1) = none ↔ ∀ m ∈ members, m.1 ∈ allowed := by
    rw [List.find?_eq_none]
    simp
  rw [← hfind, allowedObjectKeys]
  cases members.find? fun m => !allowed.contains m.1 with
  | none => simp
  | some m => simp

theorem decodeValue_eq_ok_iff {α : Type} {read : Json → Option α} {members : List (String × Json)}
    {key : String} {a : α} :
    decodeValue read members key = .ok a ↔ Has members key fun v => read v = some a := by
  unfold decodeValue Has
  cases members.lookup key with
  | none => simp
  | some v =>
    cases hread : read v with
    | none => simp [hread]
    | some b => simp [hread]

theorem asObject_eq_ok_iff {what : String} {v : Json} {members : List (String × Json)} :
    asObject what v = .ok members ↔ v = .obj members := by
  cases v <;> simp [asObject]

/-- The object is read as the snapshot. -/
structure HandleState.Reads (members : List (String × Json)) (state : HandleState) : Prop where
  keys : ∀ m ∈ members, m.1 ∈ HandleState.fields
  handle : Has members "handle" fun v => asString v = some state.handle
  database : Has members "database" fun v => asString v = some state.database
  connectionStatus : Has members "connection_status" fun v =>
    decodeEnum ConnectionStatus.all ConnectionStatus.name v = some state.connectionStatus
  transactionStatus : Has members "transaction_status" fun v =>
    decodeEnum TransactionStatus.all TransactionStatus.name v = some state.transactionStatus
  transactionOpen : asOption asBool ((members.lookup "transaction_open").getD .null) = some state.transactionOpen
  busy : Has members "busy" fun v => asBool v = some state.busy
  schemaObserved : Has members "schema_observed" fun v => asBool v = some state.schemaObserved

theorem HandleState.fromFields_eq_some_iff {handle database connectionStatus transactionStatus transactionOpen
    busy schemaObserved : Json} {state : HandleState} :
    fromFields handle database connectionStatus transactionStatus transactionOpen busy schemaObserved
        = some state ↔
      asString handle = some state.handle ∧ asString database = some state.database ∧
        decodeEnum ConnectionStatus.all ConnectionStatus.name connectionStatus = some state.connectionStatus ∧
        decodeEnum TransactionStatus.all TransactionStatus.name transactionStatus
          = some state.transactionStatus ∧
        asOption asBool transactionOpen = some state.transactionOpen ∧ asBool busy = some state.busy ∧
        asBool schemaObserved = some state.schemaObserved := by
  simp only [fromFields, Option.bind_eq_bind, Option.bind_eq_some_iff, Option.pure_def, Option.some.injEq]
  constructor
  · intro h
    obtain ⟨_, h₁, _, h₂, _, h₃, _, h₄, _, h₅, _, h₆, _, h₇, rfl⟩ := h
    exact ⟨h₁, h₂, h₃, h₄, h₅, h₆, h₇⟩
  · intro h
    obtain ⟨h₁, h₂, h₃, h₄, h₅, h₆, h₇⟩ := h
    exact ⟨_, h₁, _, h₂, _, h₃, _, h₄, _, h₅, _, h₆, _, h₇, rfl⟩

theorem HandleState.fromValue_obj {members : List (String × Json)} {state : HandleState} :
    fromValue (.obj members) = some state ↔ Reads members state := by
  by_cases hkeys : (members.all fun m => fields.contains m.1) = true
  · have hallowed : ∀ m ∈ members, m.1 ∈ fields := by simpa using hkeys
    simp only [fromValue, if_pos hkeys, Option.bind_eq_bind, Option.bind_eq_some_iff, fromFields_eq_some_iff]
    constructor
    · intro h
      obtain ⟨_, g₁, _, g₂, _, g₃, _, g₄, _, g₆, _, g₇, h₁, h₂, h₃, h₄, h₅, h₆, h₇⟩ := h
      exact ⟨hallowed, ⟨_, g₁, h₁⟩, ⟨_, g₂, h₂⟩, ⟨_, g₃, h₃⟩, ⟨_, g₄, h₄⟩, h₅, ⟨_, g₆, h₆⟩, ⟨_, g₇, h₇⟩⟩
    · intro h
      obtain ⟨-, ⟨_, g₁, h₁⟩, ⟨_, g₂, h₂⟩, ⟨_, g₃, h₃⟩, ⟨_, g₄, h₄⟩, h₅, ⟨_, g₆, h₆⟩, ⟨_, g₇, h₇⟩⟩ := h
      exact ⟨_, g₁, _, g₂, _, g₃, _, g₄, _, g₆, _, g₇, h₁, h₂, h₃, h₄, h₅, h₆, h₇⟩
  · rw [fromValue, if_neg hkeys]
    constructor
    · intro h
      cases h
    · intro h
      exact absurd (by simpa using h.keys) hkeys

/-- The object is read as the move. -/
structure Move.Reads (members : List (String × Json)) (move : Move) : Prop where
  keys : ∀ m ∈ members, m.1 ∈ Move.fields
  tool : Has members "tool" fun v => asString v = some move.tool
  arguments : Has members "arguments" fun v => v = move.arguments
  guidance : Has members "guidance" fun v => asString v = some move.guidance

theorem Move.fromValue_obj {members : List (String × Json)} {move : Move}
    (h : fromValue (.obj members) = some move) : Reads members move := by
  by_cases hkeys : (members.all fun m => fields.contains m.1) = true
  · simp only [fromValue, if_pos hkeys, fromFields, Option.bind_eq_bind, Option.bind_eq_some_iff,
      Option.pure_def, Option.some.injEq] at h
    obtain ⟨_, g₁, _, g₂, _, g₃, _, h₁, _, h₃, rfl⟩ := h
    exact ⟨by simpa using hkeys, ⟨_, g₁, h₁⟩, ⟨_, g₂, rfl⟩, ⟨_, g₃, h₃⟩⟩
  · rw [fromValue, if_neg hkeys] at h
    cases h

/-- The object is read as the error. -/
structure ErrorPayload.Reads (members : List (String × Json)) (error : ErrorPayload) : Prop where
  keys : ∀ m ∈ members, m.1 ∈ ErrorPayload.fields
  code : Has members "code" fun v => decodeEnum ErrorCode.all ErrorCode.code v = some error.code
  message : Has members "message" fun v => asString v = some error.message
  sqlstate : Has members "sqlstate" fun v => asOption asString v = some error.sqlstate
  transactionOutcome : Has members "transaction_outcome" fun v =>
    asOption (decodeEnum TransactionOutcome.all TransactionOutcome.name) v = some error.transactionOutcome
  valid : error.validate = true

theorem ErrorPayload.decode_eq_ok_iff {v : Json} {error : ErrorPayload} :
    ErrorPayload.decode v = .ok error ↔ ∃ members, v = .obj members ∧ Reads members error := by
  simp only [ErrorPayload.decode, exactObjectKeys, Checks.bind_eq_ok_iff, asObject_eq_ok_iff,
    requireKeys_eq_ok_iff, allowedObjectKeys_eq_ok_iff, decodeValue_eq_ok_iff]
  constructor
  · intro h
    obtain ⟨members, hv, -, ⟨-, -, hkeys⟩, code, hcode, message, hmessage, sqlstate, hsqlstate, outcome,
      houtcome, hchecks⟩ := h
    split at hchecks
    · cases hchecks
    · next hstatic =>
      split at hchecks
      · cases hchecks
      · next hstate =>
        cases hchecks
        refine ⟨members, hv, hkeys, hcode, hmessage, hsqlstate, houtcome, ?_⟩
        simp only [Bool.not_eq_true', Bool.not_eq_false] at hstate
        rw [ErrorPayload.validate, hstate, Bool.and_true, beq_iff_eq]
        exact not_not.mp hstatic
  · intro h
    obtain ⟨members, hv, hreads⟩ := h
    have hvalid := hreads.valid
    rw [ErrorPayload.validate, Bool.and_eq_true, beq_iff_eq] at hvalid
    refine ⟨members, hv, (), ⟨(), ?_, hreads.keys⟩, error.code, hreads.code, error.message, hreads.message,
      error.sqlstate, hreads.sqlstate, error.transactionOutcome, hreads.transactionOutcome, ?_⟩
    · simp only [ErrorPayload.fields, List.forall_mem_cons, List.not_mem_nil, false_imp_iff, implies_true,
        and_true]
      exact ⟨hreads.code.mono fun _ _ => trivial, hreads.message.mono fun _ _ => trivial,
        hreads.sqlstate.mono fun _ _ => trivial, hreads.transactionOutcome.mono fun _ _ => trivial⟩
    · rw [if_neg (not_not.mpr hvalid.1), if_neg (by simp [hvalid.2])]

/-- The object is read as the envelope. -/
structure Envelope.Reads (members : List (String × Json)) (envelope : Envelope) : Prop where
  keys : ∀ m ∈ members, m.1 ∈ Envelope.required ++ ["result", "error"]
  version : Has members "envelope_version" fun v => asU8 v = some envelope.envelopeVersion
  handleState : Has members "handle_state" fun v =>
    asOption HandleState.fromValue v = some envelope.handleState
  nextMoves : Has members "next_moves" fun v => asVec Move.fromValue v = some envelope.nextMoves
  outcome :
    (∃ result, envelope.result = some result ∧ envelope.error = none ∧
        (members.lookup "result").filter (fun v => !v.isNull) = some result ∧
        (members.lookup "error").filter (fun v => !v.isNull) = none) ∨
      ∃ v error, envelope.result = none ∧ envelope.error = some error ∧
        (members.lookup "result").filter (fun v => !v.isNull) = none ∧
        (members.lookup "error").filter (fun v => !v.isNull) = some v ∧ ErrorPayload.decode v = .ok error
  valid : envelope.validate = true

theorem Envelope.accept_eq_ok_iff {envelope envelope' : Envelope} :
    Envelope.accept envelope = .ok envelope' ↔ envelope.validate = true ∧ envelope = envelope' := by
  unfold Envelope.accept
  by_cases h : envelope.validate = true
  · simp [h]
  · simp [h]

/-- The reader accepts exactly the objects that are read as the envelope. -/
theorem Envelope.decode_eq_ok_iff {v : Json} {envelope : Envelope} :
    Envelope.decode v = .ok envelope ↔ ∃ members, v = .obj members ∧ Reads members envelope := by
  simp only [Envelope.decode, Checks.bind_eq_ok_iff, asObject_eq_ok_iff, requireKeys_eq_ok_iff,
    allowedObjectKeys_eq_ok_iff, decodeValue_eq_ok_iff]
  constructor
  · intro h
    obtain ⟨members, hv, -, -, -, hkeys, version, hversion, state, hstate, moves, hmoves, houtcome⟩ := h
    refine ⟨members, hv, ?_⟩
    -- one outcome is there and the other one is not
    split at houtcome
    · next result hresult herror =>
      obtain ⟨hvalid, rfl⟩ := Envelope.accept_eq_ok_iff.mp houtcome
      exact ⟨hkeys, hversion, hstate, hmoves, .inl ⟨result, rfl, rfl, hresult, herror⟩, hvalid⟩
    · next error hresult herror =>
      obtain ⟨payload, hpayload, haccept⟩ := Checks.bind_eq_ok_iff.mp houtcome
      obtain ⟨hvalid, rfl⟩ := Envelope.accept_eq_ok_iff.mp haccept
      exact ⟨hkeys, hversion, hstate, hmoves,
        .inr ⟨error, payload, rfl, rfl, hresult, herror, hpayload⟩, hvalid⟩
    · cases houtcome
  · intro h
    obtain ⟨members, hv, hreads⟩ := h
    refine ⟨members, hv, (), ?_, (), hreads.keys, envelope.envelopeVersion, hreads.version,
      envelope.handleState, hreads.handleState, envelope.nextMoves, hreads.nextMoves, ?_⟩
    · simp only [Envelope.required, List.forall_mem_cons, List.not_mem_nil, false_imp_iff, implies_true,
        and_true]
      exact ⟨hreads.version.mono fun _ _ => trivial, hreads.handleState.mono fun _ _ => trivial,
        hreads.nextMoves.mono fun _ _ => trivial⟩
    · have hvalid := hreads.valid
      obtain ⟨version, state, moves, result, error⟩ := envelope
      rcases hreads.outcome with ⟨r, hr, he, hresult, herror⟩
        | ⟨w, payload, hr, he, hresult, herror, hpayload⟩
      · cases hr
        cases he
        rw [hresult, herror]
        exact Envelope.accept_eq_ok_iff.mpr ⟨hvalid, rfl⟩
      · cases hr
        cases he
        rw [hresult, herror]
        exact Checks.bind_eq_ok_iff.mpr ⟨payload, hpayload, Envelope.accept_eq_ok_iff.mpr ⟨hvalid, rfl⟩⟩

/-! ### What is written is read back -/

/-- A choice is read back from its name, where names are distinct. -/
theorem decodeEnum_name {α : Type} {all : List α} {name : α → String} {a : α} (hmem : a ∈ all)
    (hnodup : (all.map name).Nodup) : decodeEnum all name (.str (name a)) = some a := by
  induction all with
  | nil => cases hmem
  | cons b all ih =>
    rw [List.map_cons, List.nodup_cons] at hnodup
    rcases List.mem_cons.mp hmem with rfl | hmem
    · simp [decodeEnum]
    · have hne : name b ≠ name a := fun h => hnodup.1 (h ▸ List.mem_map_of_mem hmem)
      have hrest := ih hmem hnodup.2
      rw [decodeEnum] at hrest ⊢
      rw [List.find?_cons_of_neg (by simpa using hne), hrest]

theorem decodeEnum_connectionStatus (status : ConnectionStatus) :
    decodeEnum ConnectionStatus.all ConnectionStatus.name (.str status.name) = some status :=
  decodeEnum_name (by cases status <;> decide) (by decide)

theorem decodeEnum_transactionStatus (status : TransactionStatus) :
    decodeEnum TransactionStatus.all TransactionStatus.name (.str status.name) = some status :=
  decodeEnum_name (by cases status <;> decide) (by decide)

theorem decodeEnum_transactionOutcome (outcome : TransactionOutcome) :
    decodeEnum TransactionOutcome.all TransactionOutcome.name (.str outcome.name) = some outcome :=
  decodeEnum_name (by cases outcome; decide) (by decide)

/-- The codes are distinct, so each is read back as itself. -/
theorem decodeEnum_errorCode (code : ErrorCode) :
    decodeEnum ErrorCode.all ErrorCode.code (.str code.code) = some code :=
  decodeEnum_name (by cases code <;> decide) (by decide +kernel)

theorem asOption_bool (b : Option Bool) : asOption asBool ((b.map Json.bool).getD .null) = some b := by
  cases b with
  | none => rfl
  | some b => rfl

theorem asOption_string (s : Option String) : asOption asString (.optStr s) = some s := by
  cases s with
  | none => rfl
  | some s => rfl

/-- A snapshot is read back. -/
theorem HandleState.fromValue_toJson (state : HandleState) : fromValue state.toJson = some state := by
  have hfields : fromFields (.str state.handle) (.str state.database) (.str state.connectionStatus.name)
      (.str state.transactionStatus.name) ((state.transactionOpen.map Json.bool).getD .null)
      (.bool state.busy) (.bool state.schemaObserved) = some state := by
    simp [fromFields, asString, asBool, decodeEnum_connectionStatus, decodeEnum_transactionStatus,
      asOption_bool]
  exact hfields

/-- A move is read back, whatever its arguments are. -/
theorem Move.fromValue_toJson (move : Move) : fromValue move.toJson = some move := rfl

theorem mapM_fromValue_toJson (moves : List Move) :
    (moves.map Move.toJson).mapM Move.fromValue = some moves := by
  induction moves with
  | nil => rfl
  | cons move moves ih =>
    rw [List.map_cons, List.mapM_cons, Move.fromValue_toJson, ih]
    rfl

/-- An error that carries the message of its code is read back. -/
theorem ErrorPayload.decode_written {error : ErrorPayload} (h : error.validate = true) :
    ErrorPayload.decode error.toJson = .ok error := by
  obtain ⟨code, message, sqlstate, outcome⟩ := error
  simp only [ErrorPayload.validate, Bool.and_eq_true, beq_iff_eq] at h
  obtain ⟨hmessage, hsqlstate⟩ := h
  subst hmessage
  have houtcome : asOption (decodeEnum TransactionOutcome.all TransactionOutcome.name)
      (.optStr (outcome.map TransactionOutcome.name)) = some outcome := by
    cases outcome with
    | none => rfl
    | some outcome =>
      have hname := decodeEnum_transactionOutcome outcome
      rw [Option.map_some, Json.optStr, asOption, hname]
      · rfl
      · intro h
        cases h
  refine ErrorPayload.decode_eq_ok_iff.mpr ⟨_, rfl, ?_⟩
  exact {
    keys := by simp [ErrorPayload.fields]
    code := ⟨_, rfl, decodeEnum_errorCode code⟩
    message := ⟨_, rfl, rfl⟩
    sqlstate := ⟨_, rfl, asOption_string sqlstate⟩
    transactionOutcome := ⟨_, rfl, houtcome⟩
    valid := by simp [ErrorPayload.validate, hsqlstate] }

/-- A valid envelope is read back from what it is written as. -/
theorem Envelope.decode_toJson {envelope : Envelope} (h : envelope.validate = true)
    (hresult : ∀ v, envelope.result = some v → ∃ members, v = .obj members) :
    ∃ v, envelope.toJson = some v ∧ Envelope.decode v = .ok envelope := by
  obtain ⟨hversion, hexclusive, herror⟩ := (Envelope.validate_iff.mp h).1
  obtain ⟨version, state, moves, result, error⟩ := envelope
  dsimp only at hversion hexclusive herror hresult
  subst hversion
  have hstate : asOption HandleState.fromValue ((state.map HandleState.toJson).getD .null) = some state := by
    cases state with
    | none => rfl
    | some state => exact congrArg (Option.map some) state.fromValue_toJson
  have hone : asU8 (.nat 1) = some 1 := by decide +kernel
  rw [Envelope.toJson, if_neg (by simp [h])]
  refine ⟨_, rfl, Envelope.decode_eq_ok_iff.mpr ⟨_, rfl, ?_⟩⟩
  cases result with
  | some result =>
    obtain ⟨members, rfl⟩ := hresult result rfl
    cases error with
    | some error => cases hexclusive
    | none =>
      exact {
        keys := by simp [Envelope.required]
        version := ⟨_, rfl, hone⟩
        handleState := ⟨_, rfl, hstate⟩
        nextMoves := ⟨_, rfl, mapM_fromValue_toJson moves⟩
        outcome := .inl ⟨_, rfl, rfl, rfl, rfl⟩
        valid := h }
  | none =>
    cases error with
    | none => cases hexclusive
    | some error =>
      exact {
        keys := by simp [Envelope.required]
        version := ⟨_, rfl, hone⟩
        handleState := ⟨_, rfl, hstate⟩
        nextMoves := ⟨_, rfl, mapM_fromValue_toJson moves⟩
        outcome := .inr ⟨_, error, rfl, rfl, rfl, rfl, ErrorPayload.decode_written herror⟩
        valid := h }

/-- A snapshot with its moves, and a result with members of its own. -/
theorem Envelope.decode_toJson_query :
    let envelope := Envelope.success (some (.new "h" "db" .ok .inError false true))
      [.forHandle "rollback" "h" inerrorRollbackGuidance] (.obj [("rows", .arr [.null, .obj [("a", .num "1.5")]])])
    ∃ v, envelope.toJson = some v ∧ Envelope.decode v = .ok envelope := by
  intro envelope
  refine Envelope.decode_toJson (by decide) fun v hv => ?_
  cases hv
  exact ⟨_, rfl⟩

end PgMcp
