import PgMcp.Worker

/-!
# The tools

What the tool layer makes of a reply: one canonical JSON object, and a flag that says whether
it is an error.  A reply is validated when it is serialized; one that is not valid becomes
the body of an internal error.

## Main definitions

* `Envelope.toJson` — the serialization of a reply, if it is valid.
* `canonicalValue`, `Tools.result` — what a tool call is answered with.

## Main results

* `Tools.result_of_valid` — a valid reply is serialized, and flagged as an error exactly when the
  JSON object has an error.
-/

namespace PgMcp

/-! ### Serialization -/

def ConnectionStatus.name : ConnectionStatus → String
  | .ok => "ok"
  | .bad => "bad"
  | .closed => "closed"

def TransactionStatus.name : TransactionStatus → String
  | .idle => "idle"
  | .active => "active"
  | .inTransaction => "in_transaction"
  | .inError => "in_error"
  | .unknown => "unknown"

def HandleState.toJson (state : HandleState) : Json :=
  .obj [("handle", .str state.handle), ("database", .str state.database),
    ("connection_status", .str state.connectionStatus.name),
    ("transaction_status", .str state.transactionStatus.name),
    ("transaction_open", (state.transactionOpen.map Json.bool).getD .null),
    ("busy", .bool state.busy), ("schema_observed", .bool state.schemaObserved)]

def Move.toJson (move : Move) : Json :=
  .obj [("tool", .str move.tool), ("arguments", move.arguments), ("guidance", .str move.guidance)]

def TransactionOutcome.name : TransactionOutcome → String
  | .unknown => "unknown"

/-- The message is always the static one. -/
def ErrorPayload.toJson (error : ErrorPayload) : Json :=
  .obj [("code", .str error.code.code), ("message", .str error.code.message),
    ("sqlstate", .optStr error.sqlstate),
    ("transaction_outcome", .optStr (error.transactionOutcome.map TransactionOutcome.name))]

/-- The serialization of a reply, which validates it. -/
def Envelope.toJson (envelope : Envelope) : Option Json :=
  if !envelope.validate then none
  else
    some (.obj ([("envelope_version", .nat envelope.envelopeVersion),
      ("handle_state", (envelope.handleState.map HandleState.toJson).getD .null),
      ("next_moves", .arr (envelope.nextMoves.map Move.toJson))] ++
      match envelope.result, envelope.error with
      | some result, _ => [("result", result)]
      | none, some error => [("error", error.toJson)]
      | none, none => []))

/-- The body of a reply that could not be serialized. -/
def internalValue : Json :=
  .obj [("envelope_version", .nat 1), ("handle_state", .null), ("next_moves", .arr []),
    ("error", .obj [("code", .str "INTERNAL"), ("message", .str ErrorCode.internal.message),
      ("sqlstate", .null), ("transaction_outcome", .null)])]

/-- The canonical JSON object of a reply. -/
def canonicalValue (envelope : Envelope) : Json := (envelope.toJson.getD internalValue).canonicalize

/-! ### Results of tool calls -/

/-- The envelope of a failure. -/
def CoreFailure.envelope (failure : CoreFailure) : Envelope :=
  errorEnvelopeWithSqlstate failure.handleState failure.error failure.outcomeUnknown failure.sqlstate

/-- The envelope a reply is handed on in. -/
def Reply.envelope : Reply → Envelope
  | .ok envelope => envelope
  | .error failure => failure.envelope

structure CallToolResult where
  isError : Bool
  structuredContent : Json

namespace Tools

def success (envelope : Envelope) : CallToolResult where
  isError := envelope.error.isSome
  structuredContent := canonicalValue envelope

/-- The result of a call that is rejected before it comes to the core. -/
def failure (code : ErrorCode) : CallToolResult where
  isError := true
  structuredContent := canonicalValue (.failure none [] (.new code))

def failureFor (failure : CoreFailure) : CallToolResult where
  isError := true
  structuredContent := canonicalValue failure.envelope

/-- The result of a call the core has replied to. -/
def result : Reply → CallToolResult
  | .ok envelope => success envelope
  | .error failure => failureFor failure

end Tools

/-! ### Valid envelopes -/

/-- An envelope but for its snapshot and its moves: its version, its result and its error. -/
structure Envelope.Formed (envelope : Envelope) : Prop where
  version : envelope.envelopeVersion = 1
  exclusive : envelope.result.isSome = !envelope.error.isSome
  error : envelope.error.all ErrorPayload.validate = true

theorem Envelope.formed_success (st : Option HandleState) (moves : List Move) (v : Json) :
    (success st moves v).Formed := ⟨rfl, rfl, rfl⟩

/-- An ill-formed SQLSTATE is left out. -/
theorem formed_errorEnvelopeWithSqlstate (st : Option HandleState) (error : CoreError)
    (unknown : Bool) (sqlstate : Option String) :
    (errorEnvelopeWithSqlstate st error unknown sqlstate).Formed := by
  have hsqlstate : (sqlstate.filter validSqlstate).all validSqlstate = true := by
    cases sqlstate with
    | none => rfl
    | some state => cases h : validSqlstate state <;> simp [Option.filter, h]
  refine ⟨rfl, rfl, ?_⟩
  unfold errorEnvelopeWithSqlstate Envelope.failure
  simp only [Option.all_some, ErrorPayload.validate, ErrorPayload.new]
  split <;> simp only [hsqlstate, beq_self_eq_true, Bool.and_self]

theorem Move.validate_forHandle {tool handle guidance : String} (named : tool ≠ "")
    (guided : guidance ≠ "") : (forHandle tool handle guidance).validate = true := by
  simp [forHandle, validate, named, guided]

/-- The moves of a snapshot are valid. -/
theorem validate_movesForState {state : HandleState} {closeRefusal : Bool} {moves : List Move}
    (h : movesForState state closeRefusal = some moves) : moves.all Move.validate = true := by
  have hmove : ∀ {tool guidance}, tool ≠ "" → guidance ≠ "" →
      (Move.forHandle tool state.handle guidance).validate = true := Move.validate_forHandle
  unfold movesForState at h
  split at h
  · cases h
  split at h
  · cases h
    rfl
  split at h
  · cases h
    simp only [List.all_cons, List.all_nil, Bool.and_true]
    exact hmove (by decide) (by decide)
  split at h
  · cases h
    rfl
  split at h
  · cases h
    simp only [List.all_cons, List.all_nil, Bool.and_true]
    exact hmove (by decide) (by decide)
  · split at h <;> cases h <;> simp only [List.all_cons, List.all_nil, Bool.and_true, Bool.and_eq_true]
    · exact ⟨hmove (by decide) (by decide), hmove (by decide) (by decide)⟩
    · exact ⟨hmove (by decide) (by decide), hmove (by decide) (by decide), hmove (by decide) (by decide)⟩
  · split at h <;> cases h <;> simp only [List.all_cons, List.all_nil, Bool.and_true, Bool.and_eq_true]
    · exact ⟨hmove (by decide) (by decide), hmove (by decide) (by decide), hmove (by decide) (by decide),
        hmove (by decide) (by decide)⟩
    · exact ⟨hmove (by decide) (by decide), hmove (by decide) (by decide)⟩
  · cases h
    rfl
  · cases h
    rfl

theorem validate_movesOf (st : Option HandleState) : (movesOf st).all Move.validate = true := by
  cases st with
  | none => rfl
  | some state =>
    show ((movesForState state false).getD []).all _ = true
    cases h : movesForState state false with
    | none => rfl
    | some moves => exact validate_movesForState h

/-- An envelope is valid when it is well formed, and its snapshot and its moves are valid. -/
theorem Envelope.validate_iff {envelope : Envelope} : envelope.validate = true ↔
    envelope.Formed ∧ envelope.handleState.all HandleState.validate = true ∧
      envelope.nextMoves.all Move.validate = true := by
  unfold validate
  simp only [Bool.and_eq_true, beq_iff_eq, bne_iff_ne]
  constructor
  · rintro ⟨⟨⟨⟨version, exclusive⟩, state⟩, moves⟩, error⟩
    refine ⟨⟨version, ?_, error⟩, state, moves⟩
    cases hresult : envelope.result.isSome <;> cases herror : envelope.error.isSome <;>
      simp_all
  · rintro ⟨⟨version, exclusive, error⟩, state, moves⟩
    refine ⟨⟨⟨⟨version, ?_⟩, state⟩, moves⟩, error⟩
    rw [exclusive]
    cases envelope.error.isSome <;> decide

/-- A reply with the moves of its snapshot is valid when the snapshot is. -/
theorem Envelope.Formed.validate {envelope : Envelope} (h : envelope.Formed)
    (moves : envelope.nextMoves = movesOf envelope.handleState)
    (state : ∀ state ∈ envelope.handleState, state.validate = true) : envelope.validate = true := by
  refine Envelope.validate_iff.mpr ⟨h, ?_, moves ▸ validate_movesOf _⟩
  rw [Option.all_eq_true]
  exact state

/-- The envelope of a failure is valid when its snapshot is. -/
theorem CoreFailure.validate_envelope {failure : CoreFailure}
    (state : ∀ state ∈ failure.handleState, state.validate = true) :
    failure.envelope.validate = true :=
  (formed_errorEnvelopeWithSqlstate ..).validate rfl state

/-! ### What is emitted -/

/-- The object has a member of that name. -/
def Json.has (v : Json) (key : String) : Bool :=
  match v with
  | .obj members => members.any fun member => member.1 == key
  | _ => false

theorem Json.any_canonicalizeMembers (members : List (String × Json)) (key : String) :
    (canonicalizeMembers members).any (fun member => member.1 == key) =
      members.any fun member => member.1 == key := by
  induction members with
  | nil => rfl
  | cons member members ih =>
    obtain ⟨name, v⟩ := member
    rw [canonicalizeMembers, List.any_cons, List.any_cons, ih]

/-- Canonicalizing an object keeps the names of its members. -/
theorem Json.has_canonicalize (v : Json) (key : String) : v.canonicalize.has key = v.has key := by
  cases v with
  | obj members =>
    rw [canonicalize]
    show (sortMembers _).any _ = members.any _
    rw [← any_canonicalizeMembers members key]
    exact (List.perm_insertionSort _ _).any_eq
  | null | bool | num | str | arr => rfl

/-- A valid reply is serialized, with an error exactly when it has one. -/
theorem Envelope.toJson_of_validate {envelope : Envelope} (h : envelope.validate = true) :
    ∃ v, envelope.toJson = some v ∧ v.has "error" = envelope.error.isSome := by
  obtain ⟨⟨-, exclusive, -⟩, -⟩ := Envelope.validate_iff.mp h
  unfold toJson
  rw [h]
  refine ⟨_, rfl, ?_⟩
  cases hresult : envelope.result <;> cases herror : envelope.error <;>
    rw [hresult, herror] at exclusive <;> first | rfl | cases exclusive

/-- A reply that is handed on in a valid envelope. -/
def Reply.Valid (reply : Reply) : Prop := (Reply.envelope reply).validate = true

/-- What a valid reply is handed on as: its serialization, flagged as an error exactly when the
object has an error. -/
theorem Tools.result_of_valid {reply : Reply} (h : reply.Valid) :
    ∃ v, (Reply.envelope reply).toJson = some v ∧
      (Tools.result reply).structuredContent = v.canonicalize ∧
      (Tools.result reply).isError = (Tools.result reply).structuredContent.has "error" := by
  obtain ⟨v, hv, hhas⟩ := Envelope.toJson_of_validate h
  have hcontent : (Tools.result reply).structuredContent = canonicalValue (Reply.envelope reply) := by
    cases reply <;> rfl
  have hcanonical : canonicalValue (Reply.envelope reply) = v.canonicalize := by
    unfold canonicalValue
    rw [hv]
    rfl
  refine ⟨v, hv, hcontent.trans hcanonical, ?_⟩
  rw [hcontent, hcanonical, Json.has_canonicalize, hhas]
  cases reply <;> rfl

end PgMcp
