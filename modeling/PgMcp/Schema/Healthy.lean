import PgMcp.Backend.Budget
import PgMcp.Libpq.Healthy
import PgMcp.Schema.Snapshots

/-!
# Inspections on a healthy server

On a healthy server an inspection comes down to the results of the three catalog queries:
each is collected under the limits of a client query, and the rows are assembled.

## Main definitions

* `CatalogAnswers` — the answers to the statements of an inspection.
* `inspected` — what they come down to.

## Main results

* `retrieve_total`, `getSchema_total` — an inspection returns, and as `inspected` says.
* `getSchema_classifies_iff` — it tells the limits of a snapshot apart exactly when the three
  queries keep to the limits of a client query.
-/

namespace PgMcp

open Program Backend

/-! ### What an inspection comes down to -/

/-- The rows of a catalog query, from the results of its statement. -/
def readCatalog (config : Config) (sql : String) (results : List PgResult) : Except SchemaError ResultSet :=
  (queried sql (catalogLimits config) results).mapError .backend

/-- The snapshot, from the results of the three queries. -/
def inspected (config : Config) (relations columns constraints : List PgResult) :
    Except SchemaError SchemaResult := do
  let relations ← readCatalog config relationsSql relations
  let columns ← readCatalog config columnsSql columns
  let constraints ← readCatalog config constraintsSql constraints
  assemble config relations.rows columns.rows constraints.rows

/-- The answers to BEGIN, to the three catalog queries, and to COMMIT. -/
structure CatalogAnswers where
  opening : Answer
  relations : Answer
  columns : Answer
  constraints : Answer
  closing : Answer

/-- The answers, in the order of the statements. -/
def CatalogAnswers.queries (a : CatalogAnswers) : List Script :=
  [.accept a.relations, .accept a.columns, .accept a.constraints, .accept a.closing]

def CatalogAnswers.scripts (a : CatalogAnswers) : List Script := .accept a.opening :: a.queries

/-- The server begins and commits the transaction and answers the queries without a failure. -/
structure CatalogAnswers.Healthy (a : CatalogAnswers) : Prop where
  opening : a.opening.Healthy ∧ received a.opening.events = [.command "BEGIN"]
  relations : a.relations.Healthy
  columns : a.columns.Healthy
  constraints : a.constraints.Healthy
  closing : a.closing.Healthy ∧ received a.closing.events = [.command "COMMIT"]

/-- What the three queries come down to. -/
def CatalogAnswers.inspected (a : CatalogAnswers) (config : Config) : Except SchemaError SchemaResult :=
  PgMcp.inspected config (received a.relations.events) (received a.columns.events)
    (received a.constraints.events)

section Healthy

variable {config : Config} {ctl : PollControl} {deadline rounds : ℕ} {w : Wire} {a : CatalogAnswers}
  (calm : ctl.Calm deadline) (healthy : a.Healthy)

include calm

theorem schemaQuery_total {sql : String} {answer : Answer} {rest : List Script} (rests : w.Rests)
    (next : w.scripts = .accept answer :: rest) (answered : answer.Healthy) (provided : w.Provided rounds) :
    (schemaQuery rounds deadline ctl sql (catalogLimits config)).Total w fun r w' =>
      r = readCatalog config sql (received answer.events) ∧ w'.scripts <:+ w.scripts ∧
        ∀ rs, r = .ok rs → w'.Rests ∧ w'.scripts = rest := by
  refine Total.mapError ((query_total calm rests next answered provided).mono ?_)
  rintro r w' ⟨rfl, hsuffix, hok⟩
  refine ⟨rfl, hsuffix, fun rs hrs => hok rs ?_⟩
  cases hq : queried sql (catalogLimits config) (received answer.events) with
  | ok rs' =>
    rw [hq] at hrs
    cases hrs
    rfl
  | error e =>
    rw [hq] at hrs
    cases hrs

include healthy

theorem retrieveInner_total (rests : w.Rests) (scripts : w.scripts = a.queries)
    (provided : w.Provided rounds) :
    (retrieveInner rounds config deadline ctl).Total w fun r w' =>
      r = a.inspected config ∧ w'.Provided rounds ∧
        ∀ snapshot, r = .ok snapshot → w'.Rests ∧ w'.scripts = [.accept a.closing] := by
  rw [retrieveInner]
  refine (schemaQuery_total calm rests scripts healthy.relations provided).bind ?_ ?_
  swap
  · rintro e w₁ ⟨hr, hsuffix, -⟩
    refine ⟨?_, provided.suffix hsuffix, nofun⟩
    rw [CatalogAnswers.inspected, inspected, ← hr]
    rfl
  rintro relations w₁ ⟨hr₁, hsuffix₁, hok₁⟩
  obtain ⟨rests₁, scripts₁⟩ := hok₁ relations rfl
  have provided₁ := provided.suffix hsuffix₁
  refine (schemaQuery_total calm rests₁ scripts₁ healthy.columns provided₁).bind ?_ ?_
  swap
  · rintro e w₂ ⟨hr, hsuffix, -⟩
    refine ⟨?_, provided₁.suffix hsuffix, nofun⟩
    rw [CatalogAnswers.inspected, inspected, ← hr₁, ← hr]
    rfl
  rintro columns w₂ ⟨hr₂, hsuffix₂, hok₂⟩
  obtain ⟨rests₂, scripts₂⟩ := hok₂ columns rfl
  have provided₂ := provided₁.suffix hsuffix₂
  refine (schemaQuery_total calm rests₂ scripts₂ healthy.constraints provided₂).bind ?_ ?_
  swap
  · rintro e w₃ ⟨hr, hsuffix, -⟩
    refine ⟨?_, provided₂.suffix hsuffix, nofun⟩
    rw [CatalogAnswers.inspected, inspected, ← hr₁, ← hr₂, ← hr]
    rfl
  rintro constraints w₃ ⟨hr₃, hsuffix₃, hok₃⟩
  obtain ⟨rests₃, scripts₃⟩ := hok₃ constraints rfl
  refine total_ofExcept ⟨?_, provided₂.suffix hsuffix₃, fun _ _ => ⟨rests₃, scripts₃⟩⟩
  rw [CatalogAnswers.inspected, inspected, ← hr₁, ← hr₂, ← hr₃]
  rfl

omit healthy in
theorem executeChecked_total (sql tag : String) {answer : Answer} {rest : List Script} (rests : w.Rests)
    (next : w.scripts = .accept answer :: rest)
    (answered : answer.Healthy ∧ received answer.events = [.command tag]) (provided : w.Provided rounds)
    (sendable : hasNul sql = false) (word : commandWord sql = tag)
    (collected : collectAll (.new (.unbounded sql.utf8ByteSize)) none [.command tag] =
      .ok { columns := [], rows := [], commandTag := tag, affectedRows := none }) :
    (executeChecked rounds deadline ctl sql).Total w fun r w' =>
      r = .ok () ∧ w'.Rests ∧ w'.scripts = rest := by
  rw [executeChecked]
  refine Total.bind (P := fun r w' =>
      r = .ok { columns := [], rows := [], commandTag := tag, affectedRows := none } ∧
      w'.Rests ∧ w'.scripts = rest) (Total.mapError ?_) ?_ ?_
  · refine (execute_total calm rests next answered.1 provided sendable answered.2 collected).mono ?_
    rintro r w' ⟨rfl, h⟩
    exact ⟨rfl, h⟩
  · rintro rs w' ⟨hr, h⟩
    cases hr
    exact total_require ⟨if_pos (beq_iff_eq.mpr word.symm), h⟩
  · rintro e w' ⟨hr, -⟩
    cases hr

/-- An inspection on a healthy server returns what the results of its queries come down to. -/
theorem retrieve_total (rests : w.Rests) (scripts : w.scripts = a.scripts) (provided : w.Provided rounds) :
    (retrieve rounds config deadline ctl).Total w fun r _ => r = a.inspected config := by
  have hrollback : ∀ {e : SchemaError} {w' : Wire}, w'.Provided rounds →
      (rollbackSchema rounds deadline ctl e : Retrieval SchemaResult).Total w' fun r _ => r = .error e := by
    intro e w' hprovided
    exact Total.attempt_bind (total_of_post (execute_terminates "ROLLBACK" hprovided.nextRounds_le)
      (post_iff.mpr fun _ _ _ => trivial)) fun _ _ _ => total_fail rfl
  rw [retrieve]
  have hbegin := executeChecked_total calm beginSchemaSql "BEGIN" rests scripts healthy.opening provided
    (by decide) (by decide) rfl
  refine hbegin.bind ?_ (by rintro e w' ⟨h, -⟩; cases h)
  rintro u w₁ ⟨-, rests₁, scripts₁⟩
  have provided₁ : w₁.Provided rounds := provided.suffix (by
    rw [scripts₁, scripts]
    exact List.suffix_cons _ _)
  refine (retrieveInner_total calm healthy rests₁ scripts₁ provided₁).attempt_bind ?_
  rintro r w₂ ⟨hr, provided₂, hok⟩
  cases r with
  | error e =>
    rw [← hr]
    exact hrollback provided₂
  | ok snapshot =>
    obtain ⟨rests₂, scripts₂⟩ := hok snapshot rfl
    refine (executeChecked_total calm "COMMIT" "COMMIT" rests₂ scripts₂ healthy.closing provided₂
      (by decide) (by decide) rfl).attempt_bind ?_
    rintro r w₃ ⟨rfl, -⟩
    exact total_pure hr

end Healthy

/-- What the operation answers on a healthy server. -/
theorem getSchema_total {rounds : ℕ} {config : Config} {ctx : RequestContext} {b : LibpqBackend}
    {a : CatalogAnswers} (calm : (PollControl.libpq ctx).Calm ctx.deadline) (healthy : a.Healthy)
    (present : b.present = true) (rests : b.wire.Rests) (scripts : b.wire.scripts = a.scripts)
    (provided : b.wire.Provided rounds) :
    (getSchema rounds ctx config).Total b fun r b' => r = match a.inspected config with
      | .ok snapshot => .ok (.schema snapshot b'.observation)
      | .error e => .error (schemaFailure e b') := by
  rw [getSchema]
  have hretrieve : (onConnection (retrieve rounds config ctx.deadline (.libpq ctx)) schemaFailure).Total b
      fun r b' => r = (a.inspected config).mapError (schemaFailure · b') := by
    rw [onConnection]
    refine Total.bind (P := fun r b' => r = .ok true ∧ b' = b) (total_read ⟨by rw [present], rfl⟩) ?_
      (by rintro e b' ⟨h, -⟩; cases h)
    rintro found b' ⟨h, rfl⟩
    cases h
    exact Total.mapError (Total.zoom ((retrieve_total calm healthy rests scripts provided).mono
      fun r w' h => by rw [h]))
  refine hretrieve.bind ?_ ?_
  · intro snapshot b' h
    cases hi : a.inspected config with
    | ok snapshot' =>
      rw [hi] at h
      cases h
      refine Total.bind (P := fun r b'' => r = .ok b'.observation ∧ b'' = b') (total_read ⟨rfl, rfl⟩) ?_
        (by rintro e b'' ⟨h, -⟩; cases h)
      rintro observation b'' ⟨h, rfl⟩
      cases h
      exact total_pure rfl
    | error e =>
      rw [hi] at h
      cases h
  · intro f b' h
    cases hi : a.inspected config with
    | ok snapshot =>
      rw [hi] at h
      cases h
    | error e =>
      rw [hi] at h
      cases h
      rfl

/-! ### The limits of a client query -/

/-- The result of a catalog query keeps to the limits of a client query. -/
structure ReadsWithin (config : Config) (sql : String) (rs : ResultSet) : Prop where
  sendable : unsendable sql config.sqlBytes = false
  validates : (publicResult rs).validate (ResultCollector.new (catalogLimits config)).config = .ok ()
  room : Room (catalogLimits config) rs

/-- The results of a query without an error, and the result they make together. -/
structure Complete (results : List PgResult) (rs : ResultSet) : Prop where
  wellFormed : WellFormed results
  assembled : PgMcp.assembled results = some rs

/-- A complete catalog is read when it keeps to the limits. -/
theorem readCatalog_of_within {config : Config} {sql : String} {results : List PgResult} {rs : ResultSet}
    (complete : Complete results rs) (within : ReadsWithin config sql rs) :
    readCatalog config sql results = .ok rs := by
  have hcollect : collectAll (.new (catalogLimits config)) none results = .ok rs :=
    collectAll_eq_ok_iff.mpr (consumeAll_of_room complete.wellFormed complete.assembled
      (QueryResult.validate_iff.mp within.validates) within.room)
  unfold readCatalog queried
  rw [if_neg (by rw [catalogLimits, within.sendable]; nofun), hcollect]
  rfl

/-- What is read is the complete catalog, and keeps to the limits. -/
theorem within_of_readCatalog {config : Config} {sql : String} {results : List PgResult} {rs rs' : ResultSet}
    (complete : Complete results rs) (h : readCatalog config sql results = .ok rs') :
    rs' = rs ∧ ReadsWithin config sql rs := by
  unfold readCatalog queried at h
  cases hsql : unsendable sql (catalogLimits config).sqlBytes with
  | true =>
    rw [hsql] at h
    cases h
  | false =>
    rw [hsql, if_neg Bool.false_ne_true] at h
    cases hcollect : collectAll (.new (catalogLimits config)) none results with
    | error e =>
      rw [hcollect] at h
      cases h
    | ok rs₁ =>
      rw [hcollect] at h
      cases h
      obtain ⟨c, hall, hfinish⟩ := collectAll_eq_ok_iff.mp hcollect
      have hsame : c.finish = rs := Option.some.inj
        ((assembled_of_consumeAll hall).2.symm.trans complete.assembled)
      obtain ⟨hlimits, hfits⟩ := checked_consumeAll hall
      have hfits : c.Fits := by
        rcases hfits with rfl | hfits
        · exact ResultCollector.fits_new (show 1024 ≤ usizeMax by decide)
        · exact hfits
      have hvalidates : (publicResult rs).validate (ResultCollector.new (catalogLimits config)).config
          = .ok () := by
        unfold ResultCollector.Fits ResultCollector.config at hfits
        rw [hlimits] at hfits
        rw [← hsame]
        exact hfits
      exact ⟨hfinish.symm.trans hsame, hsql, hvalidates, room_of_consumeAll complete.wellFormed
        (QueryResult.validate_iff.mp hvalidates) hall hsame⟩

theorem readCatalog_error {config : Config} {sql : String} {results : List PgResult} {e : SchemaError}
    (h : readCatalog config sql results = .error e) : ∃ e', e = .backend e' := by
  unfold readCatalog at h
  cases hq : queried sql (catalogLimits config) results with
  | ok rs =>
    rw [hq] at h
    cases h
  | error e' =>
    rw [hq] at h
    cases h
    exact ⟨e', rfl⟩

/-- The three queries are answered with complete results. -/
structure CatalogAnswers.Answers (a : CatalogAnswers) (relations columns constraints : ResultSet) : Prop where
  relations : Complete (received a.relations.events) relations
  columns : Complete (received a.columns.events) columns
  constraints : Complete (received a.constraints.events) constraints

/-- All three catalog queries keep to the limits of a client query. -/
structure InspectsWithin (config : Config) (relations columns constraints : ResultSet) : Prop where
  relations : ReadsWithin config relationsSql relations
  columns : ReadsWithin config columnsSql columns
  constraints : ReadsWithin config constraintsSql constraints

section Answers

variable {config : Config} {a : CatalogAnswers} {relations columns constraints : ResultSet}
  (answers : a.Answers relations columns constraints)

include answers

theorem inspected_of_within (within : InspectsWithin config relations columns constraints) :
    a.inspected config = assemble config relations.rows columns.rows constraints.rows := by
  unfold CatalogAnswers.inspected inspected
  rw [readCatalog_of_within answers.relations within.relations,
    readCatalog_of_within answers.columns within.columns,
    readCatalog_of_within answers.constraints within.constraints]
  rfl

/-- A query beyond the limits is reported as the adapter classifies it. -/
theorem inspected_of_not_within (h : ¬ InspectsWithin config relations columns constraints) :
    ∃ e, a.inspected config = .error (.backend e) := by
  unfold CatalogAnswers.inspected inspected
  cases hrelations : readCatalog config relationsSql (received a.relations.events) with
  | error e =>
    obtain ⟨e', rfl⟩ := readCatalog_error hrelations
    exact ⟨e', rfl⟩
  | ok rs₁ =>
    cases hcolumns : readCatalog config columnsSql (received a.columns.events) with
    | error e =>
      obtain ⟨e', rfl⟩ := readCatalog_error hcolumns
      exact ⟨e', rfl⟩
    | ok rs₂ =>
      cases hconstraints : readCatalog config constraintsSql (received a.constraints.events) with
      | error e =>
        obtain ⟨e', rfl⟩ := readCatalog_error hconstraints
        exact ⟨e', rfl⟩
      | ok rs₃ =>
        exact absurd ⟨(within_of_readCatalog answers.relations hrelations).2,
          (within_of_readCatalog answers.columns hcolumns).2,
          (within_of_readCatalog answers.constraints hconstraints).2⟩ h

end Answers

/-! ### The texts of the catalog queries -/

theorem sendable_ofList {l : List Char} {limit : ℕ} (hne : l.isEmpty = false)
    (hlen : 4 * l.length ≤ limit) (hnul : l.contains '\x00' = false) :
    unsendable (String.ofList l) limit = false := by
  have hsize := (Json.utf8ByteSize_ofList_le l).trans hlen
  rw [List.contains_eq_mem, decide_eq_false_iff_not] at hnul
  simp only [unsendable, hasNul, String.toList_ofList, String.isEmpty_eq_false_iff,
    Bool.or_eq_false_iff, decide_eq_false_iff_not, Nat.not_lt, hsize, and_true,
    List.contains_eq_mem, hnul, not_false_eq_true]
  simpa using hne

set_option maxRecDepth 20000 in
theorem sendable_relationsSql : unsendable relationsSql Config.default.sqlBytes = false := by
  rw [relationsSql]
  exact sendable_ofList (by decide) (by decide +kernel) (by decide +kernel)

set_option maxRecDepth 20000 in
theorem sendable_columnsSql : unsendable columnsSql Config.default.sqlBytes = false := by
  rw [columnsSql]
  exact sendable_ofList (by decide) (by decide +kernel) (by decide +kernel)

set_option maxRecDepth 20000 in
theorem sendable_constraintsSql : unsendable constraintsSql Config.default.sqlBytes = false := by
  rw [constraintsSql]
  exact sendable_ofList (by decide) (by decide +kernel) (by decide +kernel)

/-! ### The classification -/

/-- The snapshot, or its own limit when it fails its validation. -/
def Classified (config : Config) (snapshot : SchemaResult) (r : Except BackendFailure BackendResult) : Prop :=
  (snapshot.validate config = .ok () → ∃ observation, r = .ok (.schema snapshot observation)) ∧
    (snapshot.validate config ≠ .ok () → ∃ f, r = .error f ∧ f.error.code = .schemaLimit)

/-- The adapter has no class for the limit of a snapshot. -/
theorem not_classified_adapterFailure {config : Config} {snapshot : SchemaResult} {e : AdapterError}
    {b : LibpqBackend} : ¬ Classified config snapshot (.error (adapterFailure e b)) := by
  rintro ⟨hvalid, hlimit⟩
  by_cases h : snapshot.validate config = .ok ()
  · obtain ⟨observation, hr⟩ := hvalid h
    cases hr
  · obtain ⟨f, hf, hcode⟩ := hlimit h
    cases hf
    have hcode : e.errorClass.code = .schemaLimit := hcode
    revert hcode
    cases e.errorClass <;> nofun

theorem classified_assemble {config : Config} {c : Catalog} (readable : c.Readable) {b : LibpqBackend} :
    Classified config c.snapshot (match assemble config c.relations c.columns c.constraints with
      | .ok snapshot => .ok (.schema snapshot b.observation)
      | .error e => .error (schemaFailure e b)) := by
  obtain ⟨hlimit, hok⟩ := assemble_agrees c config readable
  constructor
  · intro hvalid
    rw [hok (mt hlimit.mp (not_not_intro hvalid))]
    exact ⟨_, rfl⟩
  · intro hvalid
    rw [hlimit.mpr hvalid]
    exact ⟨_, rfl, rfl⟩

section Classification

variable {rounds : ℕ} {config : Config} {ctx : RequestContext} {b : LibpqBackend} {a : CatalogAnswers}
  {relations columns constraints : ResultSet} (calm : (PollControl.libpq ctx).Calm ctx.deadline)
  (healthy : a.Healthy) (present : b.present = true) (rests : b.wire.Rests)
  (scripts : b.wire.scripts = a.scripts) (provided : b.wire.Provided rounds)
  (answers : a.Answers relations columns constraints)
  (readable : (Catalog.mk relations.rows columns.rows constraints.rows).Readable)

include calm healthy present rests scripts provided answers

theorem getSchema_beyond (h : ¬ InspectsWithin config relations columns constraints) :
    (getSchema rounds ctx config).Total b fun r b' => ∃ e, r = .error (adapterFailure e b') := by
  obtain ⟨e, he⟩ := inspected_of_not_within answers h
  refine (getSchema_total calm healthy present rests scripts provided).mono ?_
  rintro r b' rfl
  rw [he]
  exact ⟨e, rfl⟩

include readable

theorem getSchema_within (h : InspectsWithin config relations columns constraints) :
    (getSchema rounds ctx config).Total b fun r _ => Classified config
      (Catalog.mk relations.rows columns.rows constraints.rows).snapshot r := by
  refine (getSchema_total calm healthy present rests scripts provided).mono ?_
  rintro r b' rfl
  rw [inspected_of_within answers h]
  exact classified_assemble readable

/-- On a healthy server and without a control event, an inspection returns the snapshot or its
limit exactly when the three catalog queries keep to the limits of a client query. -/
theorem getSchema_classifies_iff :
    ∃ r b', (getSchema rounds ctx config).Returns b r b' ∧
      (Classified config (Catalog.mk relations.rows columns.rows constraints.rows).snapshot r ↔
        InspectsWithin config relations columns constraints) := by
  by_cases h : InspectsWithin config relations columns constraints
  · obtain ⟨r, b', hr, hclassified⟩ := getSchema_within calm healthy present rests scripts provided answers
      readable h
    exact ⟨r, b', hr, iff_of_true hclassified h⟩
  · obtain ⟨r, b', hr, e, rfl⟩ := getSchema_beyond calm healthy present rests scripts provided answers h
    exact ⟨_, b', hr, iff_of_false not_classified_adapterFailure h⟩

end Classification

/-! ### A small shop -/

/-- A request that is not disturbed, at a time that stands still. -/
def undisturbed : RequestContext :=
  { RequestContext.timed none none 1000 with clock := { now := fun _ => 0, mono := monotone_const } }

theorem calm_undisturbed : (PollControl.libpq undisturbed).Calm undisturbed.deadline := by
  rintro n (h | (h | h) | h)
  · cases h
  · cases h
  · exact absurd h (by decide : ¬ 1000 ≤ 0)
  · exact absurd h (by decide : ¬ 1000 ≤ 0)

/-- The results of a catalog query, one for each row. -/
def catalogResults (fields : List (Option String × ℕ)) (rows : List CatalogRow) (tag count : String) :
    List PgResult :=
  rows.filterMap (fun row => if h : row.length = fields.length then
      some
        { status := .singleTuple
          columns := fields
          tuples := [row.map fun value => value.elim .null .text]
          shape := by simp [h] }
    else none) ++
  [{ status := .tuplesOk, columns := fields, cmdStatus := some tag, cmdTuples := some count }]

theorem wellFormed_catalogResults {fields : List (Option String × ℕ)} {rows : List CatalogRow}
    {tag count : String} (names : ∀ field ∈ fields, field.1.isSome = true)
    (digits : count.toList.all Char.isDigit = true) : WellFormed (catalogResults fields rows tag count) := by
  have hmem : ∀ r ∈ catalogResults fields rows tag count, r.columns = fields ∧
      ((r.status = .singleTuple ∧ r.cmdStatus = some "" ∧ r.cmdTuples = some "" ∧
          ∃ row : CatalogRow, r.tuples = [row.map fun value => value.elim .null .text]) ∨
        r.status = .tuplesOk ∧ r.cmdStatus = some tag ∧ r.cmdTuples = some count ∧ r.tuples = []) := by
    intro r hr
    rcases List.mem_append.mp hr with hr | hr
    · obtain ⟨row, -, hrow⟩ := List.mem_filterMap.mp hr
      split at hrow
      · cases hrow
        exact ⟨rfl, .inl ⟨rfl, rfl, rfl, row, rfl⟩⟩
      · cases hrow
    · cases List.mem_singleton.mp hr
      exact ⟨rfl, .inr ⟨rfl, rfl, rfl, rfl⟩⟩
  constructor
  case statuses =>
    refine ⟨_, _, rfl, fun r hr => ?_, .inl rfl⟩
    obtain ⟨row, -, hrow⟩ := List.mem_filterMap.mp hr
    split at hrow
    · cases hrow
      exact .inl rfl
    · cases hrow
  case width => exact ⟨fields.length, fun r hr _ => by rw [(hmem r hr).1]⟩
  case utf8Names =>
    intro r hr
    rw [(hmem r hr).1]
    exact names
  case utf8Cells =>
    intro r hr
    rcases (hmem r hr).2 with ⟨-, -, -, row, htuples⟩ | ⟨-, -, -, htuples⟩ <;> rw [htuples]
    · simp only [List.mem_singleton, forall_eq, List.mem_map]
      rintro cell ⟨value, -, rfl⟩
      cases value <;> rfl
    · simp
  case utf8Tags =>
    intro r hr
    rcases (hmem r hr).2 with ⟨-, htag, hcount, -⟩ | ⟨-, htag, hcount, -⟩ <;> simp [htag, hcount]
  case decimal =>
    intro r hr text htext
    rcases (hmem r hr).2 with ⟨-, -, hcount, -⟩ | ⟨-, -, hcount, -⟩ <;> rw [hcount] at htext <;> cases htext
    · rfl
    · exact digits

/-- What the results of a catalog query make together. -/
def catalogSet (fields : List (Option String × ℕ)) (rows : List CatalogRow) (tag count : String) :
    ResultSet where
  columns := fields.filterMap fieldColumn
  rows := rows
  commandTag := tag
  affectedRows := some count

def relationsFields : List (Option String × ℕ) :=
  [(some "nspname", 19), (some "relname", 19), (some "relkind", 25), (some "oid", 25)]

def columnsFields : List (Option String × ℕ) :=
  [(some "nspname", 19), (some "relname", 19), (some "attname", 19), (some "attnum", 25),
    (some "atttypid", 25), (some "format_type", 25), (some "case", 25), (some "pg_get_expr", 25),
    (some "attidentity", 25), (some "case", 25)]

def constraintsFields : List (Option String × ℕ) :=
  [(some "nspname", 19), (some "relname", 19), (some "conname", 19), (some "contype", 25),
    (some "pg_get_constraintdef", 25)]

/-- The answer with the results of a catalog query. -/
def catalogAnswer (results : List PgResult) : Answer :=
  { events := results.map .result, after := .inTransaction }

/-- The answers of a server with the catalog `shop`. -/
def shopAnswers : CatalogAnswers where
  opening := catalogAnswer [.command "BEGIN"]
  relations := catalogAnswer (catalogResults relationsFields shop.relations "SELECT 3" "3")
  columns := catalogAnswer (catalogResults columnsFields shop.columns "SELECT 2" "2")
  constraints := catalogAnswer (catalogResults constraintsFields shop.constraints "SELECT 1" "1")
  closing := { events := [.result (.command "COMMIT")], commits := true, after := .idle }

def shopBackend : LibpqBackend where
  present := true
  wire := Wire.fresh shopAnswers.scripts []

theorem received_map (results : List PgResult) : received (results.map .result) = results := by
  induction results with
  | nil => rfl
  | cons r results ih => exact congrArg (r :: ·) ih

theorem healthy_catalogAnswer (results : List PgResult) : (catalogAnswer results).Healthy where
  singleRow := rfl
  flush := by simp [catalogAnswer]
  events := by simp [catalogAnswer, Event.Responds]

theorem healthy_shopAnswers : shopAnswers.Healthy where
  opening := ⟨healthy_catalogAnswer _, rfl⟩
  relations := healthy_catalogAnswer _
  columns := healthy_catalogAnswer _
  constraints := healthy_catalogAnswer _
  closing := ⟨⟨rfl, by simp [shopAnswers], by simp [shopAnswers, Event.Responds]⟩, rfl⟩

theorem complete_catalogAnswer {fields : List (Option String × ℕ)} {rows : List CatalogRow}
    {tag count : String} (names : ∀ field ∈ fields, field.1.isSome = true)
    (digits : count.toList.all Char.isDigit = true)
    (h : assembled (catalogResults fields rows tag count) = some (catalogSet fields rows tag count)) :
    Complete (received (catalogAnswer (catalogResults fields rows tag count)).events)
      (catalogSet fields rows tag count) := by
  unfold catalogAnswer
  rw [received_map]
  exact ⟨wellFormed_catalogResults names digits, h⟩

theorem answers_shopAnswers : shopAnswers.Answers (catalogSet relationsFields shop.relations "SELECT 3" "3")
    (catalogSet columnsFields shop.columns "SELECT 2" "2")
    (catalogSet constraintsFields shop.constraints "SELECT 1" "1") where
  relations := complete_catalogAnswer (by decide) (by decide) (by decide +kernel)
  columns := complete_catalogAnswer (by decide) (by decide) (by decide +kernel)
  constraints := complete_catalogAnswer (by decide) (by decide) (by decide +kernel)

theorem rests_shopBackend : shopBackend.wire.Rests := ⟨_, rfl, rfl, rfl⟩

theorem provided_shopBackend : shopBackend.wire.Provided 20 := by
  have hall : ∀ script ∈ shopAnswers.scripts, ∀ answer, script = .accept answer →
      (answer.statement "").rounds ≤ 20 := by
    simp only [CatalogAnswers.scripts, CatalogAnswers.queries, List.forall_mem_cons, List.not_mem_nil,
      Script.accept.injEq, forall_eq', false_imp_iff, implies_true, and_true]
    decide +kernel
  exact fun answer hanswer => hall _ hanswer answer rfl

theorem getSchema_classifies_iff_shop :
    ∃ r b', (getSchema 20 undisturbed .default).Returns shopBackend r b' ∧
      (Classified .default shop.snapshot r ↔
        InspectsWithin .default (catalogSet relationsFields shop.relations "SELECT 3" "3")
          (catalogSet columnsFields shop.columns "SELECT 2" "2")
          (catalogSet constraintsFields shop.constraints "SELECT 1" "1")) := by
  obtain ⟨r, b', hr, hiff⟩ := @getSchema_classifies_iff 20 .default undisturbed shopBackend shopAnswers _ _ _
    calm_undisturbed healthy_shopAnswers rfl rests_shopBackend rfl provided_shopBackend answers_shopAnswers
    readable_shop
  exact ⟨r, b', hr, hiff⟩

/-- Rows of a client query are limited to two. -/
def fewRows : Config := { Config.default with resultRows := 2 }

/-- The limit of rows of a client query is reported before that of the snapshot. -/
theorem getSchema_answers_resultLimit :
    ¬ ∀ (rounds : ℕ) (config : Config) (ctx : RequestContext) (b : LibpqBackend) (a : CatalogAnswers)
      (relations columns constraints : ResultSet) (r : Except BackendFailure BackendResult)
      (b' : LibpqBackend),
      config.validate = .ok () → (PollControl.libpq ctx).Calm ctx.deadline → a.Healthy → b.present = true →
      b.wire.Rests → b.wire.scripts = a.scripts → a.Answers relations columns constraints →
      (Catalog.mk relations.rows columns.rows constraints.rows).Readable →
      (getSchema rounds ctx config).Returns b r b' →
        Classified config (Catalog.mk relations.rows columns.rows constraints.rows).snapshot r := by
  intro h
  have hrows : ¬ InspectsWithin fewRows (catalogSet relationsFields shop.relations "SELECT 3" "3")
      (catalogSet columnsFields shop.columns "SELECT 2" "2")
      (catalogSet constraintsFields shop.constraints "SELECT 1" "1") := by
    intro hwithin
    have hthree := (QueryResult.validate_iff.mp hwithin.relations.validates).rows
    revert hthree
    decide
  obtain ⟨r, b', hr, e, rfl⟩ := getSchema_beyond calm_undisturbed healthy_shopAnswers rfl
    rests_shopBackend rfl
    provided_shopBackend answers_shopAnswers hrows
  exact not_classified_adapterFailure (h 20 fewRows undisturbed shopBackend shopAnswers _ _ _ _ b'
    (by decide +kernel) calm_undisturbed healthy_shopAnswers rfl rests_shopBackend rfl answers_shopAnswers
    readable_shop hr)

end PgMcp
