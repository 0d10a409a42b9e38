import PgMcp.Libpq.Native
import PgMcp.Results

/-!
# Collecting the results of a statement

The adapter's errors, and the collector that copies rows, columns, the command
tag and the affected-row text out of libpq results.  Each candidate is validated
against the limits before it is retained; a rejected candidate is taken out again.

## Main definitions

* `AdapterError`, `CancelReason.error` — the errors of the adapter.
* `ResultCollector` — what has been retained so far.
* `consumeResult` — the collector after one libpq result.
* `directDdlCommandTag` — tags that invalidate a schema observation.
-/

namespace PgMcp

/-! ### Errors of the adapter -/

/-- The classes of adapter errors. -/
inductive ErrorClass where
  | config | invalidInput | database | databaseMismatch | connectionLost | unsupportedServer
  | resultLimit | copyUnsupported | cancelled | deadlineExceeded | serverStopping | internal
  deriving DecidableEq, Repr

/-- An adapter error; `outcomeUnknown` is meant for requests that were sent and
whose completion was not established. -/
structure AdapterError where
  errorClass : ErrorClass
  sqlstate : Option String := none
  outcomeUnknown : Bool := false
  deriving DecidableEq, Repr

/-- An error without SQLSTATE and with a known outcome. -/
def AdapterError.new (errorClass : ErrorClass) : AdapterError := { errorClass }

/-- The same error with an unknown outcome. -/
def AdapterError.unknown (e : AdapterError) : AdapterError := { e with outcomeUnknown := true }

@[simp] theorem outcomeUnknown_new (c : ErrorClass) : (AdapterError.new c).outcomeUnknown = false :=
  rfl

@[simp] theorem errorClass_new (c : ErrorClass) : (AdapterError.new c).errorClass = c := rfl

@[simp] theorem outcomeUnknown_unknown (e : AdapterError) : e.unknown.outcomeUnknown = true := rfl

@[simp] theorem errorClass_unknown (e : AdapterError) : e.unknown.errorClass = e.errorClass := rfl

/-- The class a control event is reported as. -/
def CancelReason.errorClass : CancelReason → ErrorClass
  | .shutdown => .serverStopping
  | .cancelled => .cancelled
  | .deadline => .deadlineExceeded

/-- The error a control event is reported as. -/
def CancelReason.error (r : CancelReason) : AdapterError := AdapterError.new r.errorClass

@[simp] theorem outcomeUnknown_reason_error (r : CancelReason) : r.error.outcomeUnknown = false :=
  rfl

/-! ### The collector -/

/-- The retention budget of one query result. -/
structure QueryLimits where
  sqlBytes : ℕ
  parameters : ℕ
  parameterBytes : ℕ
  resultRows : ℕ
  columns : ℕ
  cellBytes : ℕ
  resultJsonBytes : ℕ
  deriving DecidableEq, Repr

/-- The limits of the adapter's own statements. -/
def QueryLimits.unbounded (sqlBytes : ℕ) : QueryLimits where
  sqlBytes := sqlBytes
  parameters := usizeMax
  parameterBytes := usizeMax
  resultRows := usizeMax
  columns := usizeMax
  cellBytes := usizeMax
  resultJsonBytes := usizeMax

/-- A complete result. -/
structure ResultSet where
  columns : List ResultColumn
  rows : List (List (Option String))
  commandTag : String
  affectedRows : Option String
  deriving DecidableEq, Repr

/-- What has been retained so far. -/
structure ResultCollector where
  limits : QueryLimits
  columns : List ResultColumn
  rows : List (List (Option String))
  commandTag : Option String
  affectedRows : Option String
  deriving DecidableEq, Repr

namespace ResultCollector

/-- Nothing retained. -/
def new (limits : QueryLimits) : ResultCollector where
  limits := limits
  columns := []
  rows := []
  commandTag := none
  affectedRows := none

/-- The public result the retained parts would make. -/
def candidate (c : ResultCollector) : QueryResult where
  columns := c.columns
  rows := c.rows
  commandTag := c.commandTag.getD ""
  affectedRows := c.affectedRows

/-- The limits as a configuration. -/
def config (c : ResultCollector) : Config :=
  { Config.default with
    resultJsonBytes := c.limits.resultJsonBytes
    resultRows := c.limits.resultRows
    columns := c.limits.columns
    cellBytes := c.limits.cellBytes }

/-- The candidate passes the public validation. -/
def ensureCandidateFits (c : ResultCollector) : Except AdapterError Unit :=
  match c.candidate.validate c.config with
  | .ok () => .ok ()
  | .error _ => .error (.new .resultLimit)

/-- Retain the column metadata of the first result with fields. -/
def addColumns : ResultCollector → List (Option String × ℕ) →
    Except AdapterError Unit × ResultCollector
  | c, [] => (.ok (), c)
  | c, (none, _) :: _ => (.error (.new .database), c)
  | c, (some name, typeOid) :: fields =>
    let next : ResultCollector := { c with columns := c.columns ++ [⟨name, typeOid⟩] }
    match next.ensureCandidateFits with
    | .ok () => addColumns next fields
    | .error e => (.error e, c)

/-- Copy the cells of a tuple.  Lengths reported by libpq are not negative and
pointers to cells that are not NULL are not null. -/
def readRow (limits : QueryLimits) : List Cell → Except AdapterError (List (Option String))
  | [] => .ok []
  | .null :: cells => do return none :: (← readRow limits cells)
  | .text s :: cells => do
    if limits.cellBytes < s.utf8ByteSize then throw (.new .resultLimit)
    return some s :: (← readRow limits cells)
  | .invalidUtf8 length :: _ =>
    if limits.cellBytes < length then .error (.new .resultLimit) else .error (.new .database)

/-- Retain tuples one by one. -/
def addTuples : ResultCollector → List (List Cell) → Except AdapterError Unit × ResultCollector
  | c, [] => (.ok (), c)
  | c, tuple :: tuples =>
    if c.limits.resultRows ≤ c.rows.length then (.error (.new .resultLimit), c)
    else
      match readRow c.limits tuple with
      | .error e => (.error e, c)
      | .ok row =>
        let next := { c with rows := c.rows ++ [row] }
        match next.ensureCandidateFits with
        | .ok () => addTuples next tuples
        | .error e => (.error e, c)

/-- Retain the rows of a result, and its columns if none are retained yet. -/
def consumeRows (c : ResultCollector) (r : PgResult) : Except AdapterError Unit × ResultCollector :=
  if c.limits.columns < r.columns.length then (.error (.new .resultLimit), c)
  else if c.columns.isEmpty ∧ 0 < r.columns.length then
    match c.addColumns r.columns with
    | (.ok (), c) => c.addTuples r.tuples
    | (.error e, c) => (.error e, c)
  else if c.columns.length ≠ r.columns.length then (.error (.new .database), c)
  else c.addTuples r.tuples

/-- Retain the affected-row text of a result. -/
def consumeAffected (c : ResultCollector) (r : PgResult) :
    Except AdapterError Unit × ResultCollector :=
  match r.cmdTuples with
  | none => (.error (.new .database), c)
  | some affected =>
    if affected.isEmpty then (.ok (), c)
    else if !affected.toList.all Char.isDigit then (.error (.new .database), c)
    else
      let next := { c with affectedRows := some affected }
      match next.ensureCandidateFits with
      | .ok () => (.ok (), next)
      | .error e => (.error e, c)

/-- Retain the command tag and the affected-row text of a result. -/
def consumeCommand (c : ResultCollector) (r : PgResult) :
    Except AdapterError Unit × ResultCollector :=
  match r.cmdStatus with
  | none => (.error (.new .database), c)
  | some tag =>
    let next := { c with commandTag := some tag }
    match next.ensureCandidateFits with
    | .ok () => next.consumeAffected r
    | .error e => (.error e, c)

/-- The complete result. -/
def finish (c : ResultCollector) : ResultSet where
  columns := c.columns
  rows := c.rows
  commandTag := c.commandTag.getD ""
  affectedRows := c.affectedRows

/-- What is returned at the final NULL: the first error, if there was one. -/
def outcome (c : ResultCollector) : Option AdapterError → Except AdapterError ResultSet
  | some e => .error e
  | none => .ok c.finish

end ResultCollector

/-- The SQLSTATE of an error result, when it is well-formed. -/
def resultSqlstate (r : PgResult) : Option String := r.sqlstate.filter validSqlstate

/-- The collector after one result. -/
def consumeResult (c : ResultCollector) (r : PgResult) :
    Except AdapterError Unit × ResultCollector :=
  match r.status with
  | .singleTuple | .tuplesChunk => c.consumeRows r
  -- single-row mode ends with TUPLES_OK, which carries the tag
  | .tuplesOk =>
    match c.consumeRows r with
    | (.ok (), c) => c.consumeCommand r
    | (.error e, c) => (.error e, c)
  | .commandOk => c.consumeCommand r
  | .copyIn | .copyOut | .copyBoth => (.error (.new .copyUnsupported), c)
  | .fatalError | .badResponse | .nonfatalError =>
    (.error { errorClass := .database, sqlstate := resultSqlstate r }, c)
  | .emptyQuery => (.error (.new .invalidInput), c)
  | .pipelineSync | .pipelineAborted => (.error (.new .database), c)

/-! ### Command tags -/

/-- The ASCII whitespace `split_ascii_whitespace` splits at. -/
def isAsciiWhitespace (c : Char) : Bool :=
  c == ' ' || c == '\t' || c == '\n' || c == '\x0c' || c == '\r'

/-- The first word of a tag. -/
def firstWord (tag : String) : String :=
  String.ofList ((tag.toList.dropWhile isAsciiWhitespace).takeWhile (!isAsciiWhitespace ·))

/-- First words of tags that leave the catalog alone. -/
def rowOnlyCommands : List String :=
  ["SELECT", "INSERT", "UPDATE", "DELETE", "MERGE", "VALUES", "FETCH", "MOVE", "SET", "SHOW",
    "BEGIN", "COMMIT", "ROLLBACK", "ABORT", "END", "SAVEPOINT", "RELEASE", "DISCARD", "NOTIFY",
    "LISTEN", "UNLISTEN"]

/-- First words of tags that change the catalog. -/
def ddlCommands : List String :=
  ["CREATE", "ALTER", "DROP", "TRUNCATE", "REINDEX", "GRANT", "REVOKE", "COMMENT", "REFRESH",
    "SECURITY", "DO", "CALL", "EXECUTE"]

/-- Tags that invalidate a schema observation: every tag that is not known to be
row-only, except the empty one. -/
def directDdlCommandTag (tag : String) : Bool :=
  if rowOnlyCommands.contains (firstWord tag) then false
  else ddlCommands.contains (firstWord tag) || !tag.isEmpty

example : directDdlCommandTag "CREATE TABLE" = true ∧ directDdlCommandTag "INSERT 0 1" = false ∧
    directDdlCommandTag "VACUUM" = true ∧ directDdlCommandTag "" = false := by decide

/-! ### Steps of the collector

Every rejection is an error with a known outcome, and only a COPY result is rejected
as COPY. -/

/-- An error of a result that is not a COPY result. -/
def AdapterError.Plain (e : AdapterError) : Prop :=
  e.outcomeUnknown = false ∧ e.errorClass ≠ .copyUnsupported

theorem plain_new {c : ErrorClass} (h : c ≠ .copyUnsupported) : (AdapterError.new c).Plain :=
  ⟨rfl, h⟩

/-- Every error of an outcome is plain, and acceptance keeps `P`. -/
def Accepts (o : Except AdapterError Unit × ResultCollector) (P : ResultCollector → Prop) : Prop :=
  (∀ e, o.1 = .error e → e.Plain) ∧ (o.1 = .ok () → P o.2)

theorem accepts_error {e : AdapterError} {c : ResultCollector} {P : ResultCollector → Prop}
    (h : e.Plain) : Accepts (.error e, c) P := by
  refine ⟨fun e' he => ?_, fun h' => by cases h'⟩
  cases he
  exact h

theorem accepts_ok {c : ResultCollector} {P : ResultCollector → Prop} (h : P c) :
    Accepts (.ok (), c) P :=
  ⟨fun e he => (by cases he), fun _ => h⟩

theorem Accepts.mono {o : Except AdapterError Unit × ResultCollector} {P Q : ResultCollector → Prop}
    (h : Accepts o P) (hPQ : ∀ c, P c → Q c) : Accepts o Q :=
  ⟨h.1, fun hok => hPQ _ (h.2 hok)⟩

namespace ResultCollector

/-- What is retained passes the public validation. -/
def Fits (c : ResultCollector) : Prop := c.candidate.validate c.config = .ok ()

/-- The limits are the same, and what is retained still fits. -/
structure Keeps (c c' : ResultCollector) : Prop where
  limits : c'.limits = c.limits
  fits : c.Fits → c'.Fits

theorem Keeps.refl (c : ResultCollector) : c.Keeps c := ⟨rfl, id⟩

theorem Keeps.trans {c c' c'' : ResultCollector} (h : c.Keeps c') (h' : c'.Keeps c'') :
    c.Keeps c'' :=
  ⟨h'.limits.trans h.limits, fun hc => h'.fits (h.fits hc)⟩

theorem fits_of_ensureCandidateFits {c : ResultCollector} {u : Unit}
    (check : c.ensureCandidateFits = .ok u) : c.Fits := by
  unfold ensureCandidateFits at check
  split at check
  · next h => exact h
  · cases check

/-- A candidate is retained after its check. -/
theorem Keeps.checked (c : ResultCollector) {c' : ResultCollector}
    (check : c'.ensureCandidateFits = .ok ()) (limits : c'.limits = c.limits) : c.Keeps c' :=
  ⟨limits, fun _ => fits_of_ensureCandidateFits check⟩

theorem plain_ensureCandidateFits {c : ResultCollector} {e : AdapterError}
    (h : c.ensureCandidateFits = .error e) : e.Plain := by
  unfold ensureCandidateFits at h
  split at h
  · cases h
  · cases h
    exact plain_new (by decide)

theorem plain_readRow {limits : QueryLimits} {e : AdapterError} :
    ∀ {cells : List Cell}, readRow limits cells = .error e → e.Plain := by
  intro cells
  induction cells with
  | nil => intro h; simp [readRow] at h
  | cons cell cells ih =>
    intro h
    cases cell with
    | null =>
      simp only [readRow] at h
      cases hr : readRow limits cells with
      | ok row => rw [hr] at h; cases h
      | error e' => rw [hr] at h; cases h; exact ih hr
    | text s =>
      simp only [readRow] at h
      split at h
      · cases h; exact plain_new (by decide)
      · cases hr : readRow limits cells with
        | ok row => rw [hr] at h; cases h
        | error e' => rw [hr] at h; cases h; exact ih hr
    | invalidUtf8 n =>
      simp only [readRow] at h
      split at h <;> · cases h; exact plain_new (by decide)

theorem accepts_addColumns : ∀ (fields : List (Option String × ℕ)) (c : ResultCollector),
    Accepts (c.addColumns fields) fun c' => c'.commandTag = c.commandTag ∧ c.Keeps c' := by
  intro fields
  induction fields with
  | nil => intro c; exact accepts_ok ⟨rfl, .refl c⟩
  | cons field fields ih =>
    intro c
    rcases field with ⟨_ | name, typeOid⟩
    · exact accepts_error (plain_new (by decide))
    · rw [addColumns]
      cases h : ResultCollector.ensureCandidateFits _ with
      | ok u => exact (ih _).mono fun c' hc' => ⟨hc'.1, (Keeps.checked c h rfl).trans hc'.2⟩
      | error e => exact accepts_error (plain_ensureCandidateFits h)

theorem accepts_addTuples : ∀ (tuples : List (List Cell)) (c : ResultCollector),
    Accepts (c.addTuples tuples) fun c' => c'.commandTag = c.commandTag ∧ c.Keeps c' := by
  intro tuples
  induction tuples with
  | nil => intro c; exact accepts_ok ⟨rfl, .refl c⟩
  | cons tuple tuples ih =>
    intro c
    rw [addTuples]
    split
    · exact accepts_error (plain_new (by decide))
    · cases hr : readRow c.limits tuple with
      | error e => exact accepts_error (plain_readRow hr)
      | ok row =>
        dsimp only
        cases h : ResultCollector.ensureCandidateFits _ with
        | ok u => exact (ih _).mono fun c' hc' => ⟨hc'.1, (Keeps.checked c h rfl).trans hc'.2⟩
        | error e => exact accepts_error (plain_ensureCandidateFits h)

theorem accepts_consumeRows (c : ResultCollector) (r : PgResult) :
    Accepts (c.consumeRows r) fun c' => c'.commandTag = c.commandTag ∧ c.Keeps c' := by
  unfold consumeRows
  split
  · exact accepts_error (plain_new (by decide))
  · split
    · have h := accepts_addColumns r.columns c
      rcases hc : c.addColumns r.columns with ⟨_ | _, c'⟩
      · rw [hc] at h
        exact accepts_error (h.1 _ rfl)
      · rw [hc] at h
        obtain ⟨hcols, hkeeps⟩ : c'.commandTag = c.commandTag ∧ c.Keeps c' := h.2 rfl
        rw [← hcols]
        exact (accepts_addTuples r.tuples c').mono fun c'' h'' => ⟨h''.1, hkeeps.trans h''.2⟩
    · split
      · exact accepts_error (plain_new (by decide))
      · exact accepts_addTuples r.tuples c

theorem accepts_consumeAffected (c : ResultCollector) (r : PgResult) :
    Accepts (c.consumeAffected r) fun c' => c'.commandTag = c.commandTag ∧ c.Keeps c' := by
  unfold consumeAffected
  split
  · exact accepts_error (plain_new (by decide))
  · split
    · exact accepts_ok ⟨rfl, .refl c⟩
    · split
      · exact accepts_error (plain_new (by decide))
      · dsimp only
        cases h : ResultCollector.ensureCandidateFits _ with
        | ok u => exact accepts_ok ⟨rfl, .checked c h rfl⟩
        | error e => exact accepts_error (plain_ensureCandidateFits h)

theorem accepts_consumeCommand (c : ResultCollector) (r : PgResult) :
    Accepts (c.consumeCommand r) fun c' => c'.commandTag = r.cmdStatus ∧ c.Keeps c' := by
  unfold consumeCommand
  split
  · exact accepts_error (plain_new (by decide))
  · rename_i tag htag
    dsimp only
    cases h : ResultCollector.ensureCandidateFits _ with
    | ok u =>
      rw [htag]
      exact (accepts_consumeAffected _ r).mono fun c' hc' =>
        ⟨hc'.1, (Keeps.checked c h rfl).trans hc'.2⟩
    | error e => exact accepts_error (plain_ensureCandidateFits h)

end ResultCollector

/-- The statuses of results the collector may accept. -/
def ExecStatus.accepted : ExecStatus → Bool
  | .singleTuple | .tuplesChunk | .tuplesOk | .commandOk => true
  | _ => false

/-- The tag a result leaves behind. -/
def PgResult.tagAfter (r : PgResult) (tag : String) : String :=
  if r.carriesTag then r.cmdStatus.getD "" else tag

/-- A COPY result is rejected as COPY. -/
theorem consumeResult_copy {c : ResultCollector} {r : PgResult} (h : r.status.isCopy = true) :
    consumeResult c r = (.error (.new .copyUnsupported), c) := by
  unfold consumeResult
  cases hs : r.status <;> simp_all [ExecStatus.isCopy]

/-- Any other result is rejected with a plain error, or is of an accepted status, leaves its
tag, and what is retained of it fits. -/
theorem consumeResult_accepts {c : ResultCollector} {r : PgResult}
    (h : r.status.isCopy = false) :
    Accepts (consumeResult c r) fun c' =>
      r.status.accepted = true ∧ c'.commandTag.getD "" = r.tagAfter (c.commandTag.getD "") ∧
        c.Keeps c' := by
  unfold consumeResult PgResult.tagAfter PgResult.carriesTag
  have rows := ResultCollector.accepts_consumeRows c r
  have command := fun c => ResultCollector.accepts_consumeCommand c r
  cases hs : r.status with
  | copyIn | copyOut | copyBoth => rw [hs] at h; cases h
  | singleTuple | tuplesChunk =>
    refine ⟨rows.1, fun hok => ⟨rfl, ?_, (rows.2 hok).2⟩⟩
    rw [(rows.2 hok).1]
    rfl
  | commandOk =>
    refine ⟨(command c).1, fun hok => ⟨rfl, ?_, ((command c).2 hok).2⟩⟩
    rw [((command c).2 hok).1]
    rfl
  | tuplesOk =>
    dsimp only
    rcases hr : c.consumeRows r with ⟨_ | _, c'⟩
    · rw [hr] at rows
      exact accepts_error (rows.1 _ rfl)
    · have hkeeps : c.Keeps c' := by
        rw [hr] at rows
        exact (rows.2 rfl).2
      refine ⟨(command c').1, fun hok => ⟨rfl, ?_, hkeeps.trans ((command c').2 hok).2⟩⟩
      rw [((command c').2 hok).1]
      rfl
  | fatalError | badResponse | nonfatalError =>
    exact accepts_error ⟨rfl, by simp⟩
  | emptyQuery | pipelineSync | pipelineAborted => exact accepts_error (plain_new (by decide))

end PgMcp
