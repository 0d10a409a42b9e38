import PgMcp.Schema.Healthy
import PgMcp.Worker.Publication

/-!
# A catalog inspection that goes well

On a connection that is usable and idle, a `get_schema` request that is neither
cancelled nor refused and whose statements are all completed leaves the connection idle
and the schema observed.  The trace of a request is gone when the next one is taken up, so
a run may go on from any worker with the same snapshot and the same connection.

## Main results

* `retrieve_inspection`, `serve_inspection` — the catalog queries and the request.
* `Serves.congr` — the next request does not see the trace of the last one.
* `inspected_play` — requests played after an inspection make a run.
-/

namespace PgMcp

open Program Backend

/-! ### The textual checks of the catalog queries -/

theorem schemaQuery_sendable {rounds deadline : ℕ} {ctl : PollControl} {sql : String}
    (h : unsendable sql Config.default.sqlBytes = false) :
    schemaQuery rounds deadline ctl sql (catalogLimits .default) =
      (leaving (sendChecked rounds sql (catalogLimits .default) true deadline ctl)).mapError
        fun e _ => .backend e := by
  have hchecks : (sql.isEmpty || (catalogLimits .default).sqlBytes < sql.utf8ByteSize ||
      hasNul sql) = false := h
  rw [schemaQuery, Connection.query, sendQuery, hchecks]
  rfl

/-! ### A statement answered at once -/

/-- The control state of a calm request. -/
def calmContext : RequestContext := .timed none none 1000

/-- A usable connection of a calm request. -/
def Wire.calm (x : Xact) (activity : Activity) (busy : Bool) (tick : ℕ) (scripts : List Script)
    (calls : List Call) : Wire where
  conn := some { ok := true, xact := x, activity := activity }
  busy := busy
  tick := tick
  scripts := scripts
  cancels := []
  calls := calls

/-- The connection at rest. -/
abbrev Wire.resting (x : Xact) : ℕ → List Script → List Call → Wire := .calm x (.resting none) false

/-- The statement the server answers with `r`. -/
def answeredBy (r : PgResult) (commits : Bool) (after : XactStatus) : Answer :=
  { events := [.result r], commits, after }

/-- A control poll of a calm request finds nothing. -/
theorem pollReason_calm {ε : Type} {w : Wire} (h : w.tick + 3 < 1000) :
    (pollReason (.libpq calmContext) 1000 : Program Wire ε _) w =
      .ok none { w with tick := w.tick + 4 } := by
  have hexpired : ¬ 1000 ≤ w.tick + 1 + 1 := by omega
  have hdeadline : ¬ 1000 ≤ w.tick + 1 + 1 + 1 := by omega
  have hcancelled : (PollControl.cancelled (.libpq calmContext) : Program Wire ε Bool)
      { w with tick := w.tick + 1 } = .ok false { w with tick := w.tick + 3 } := by
    rw [PollControl.cancelled]
    refine (bind_ok rfl).trans ?_
    simp only [calmContext, RequestContext.timed, raisedAt, Bool.false_eq_true,
      RequestContext.expired, Clock.read]
    refine (bind_ok rfl).trans ?_
    simp only [id, hexpired, decide_false]
    rfl
  rw [pollReason]
  refine (bind_ok rfl).trans ?_
  simp only [calmContext, RequestContext.timed, raisedAt, PollControl.context, Bool.false_eq_true]
  refine (bind_ok hcancelled).trans ?_
  simp only [Bool.false_eq_true, if_false, PollControl.clock, PollControl.context, Clock.read]
  refine (bind_ok rfl).trans ?_
  simp only [id]
  rw [if_neg hdeadline]
  rfl

section Answered

variable {r : PgResult} (commits : Bool) (after : XactStatus) (sql : String) (x : Xact) {tick : ℕ}
  (scripts : List Script) (calls : List Call) {limits : QueryLimits} {c : ResultCollector}
  {rs : ResultSet}

theorem fetchResults_answered (hcopy : r.status.isCopy = false)
    (hr : consumeResult (.new limits) r = (.ok (), c)) (hrs : c.outcome none = .ok rs) :
    ∃ calls', fetchResults 3 (.new limits) none
        (.calm x (.running ((answeredBy r commits after).statement sql)) true tick scripts calls) =
      .ok rs (.resting (x.next sql after) tick scripts calls') := by
  have hget : pqGetResult
      (.calm x (.running ((answeredBy r commits after).statement sql)) true tick scripts calls) =
      .ok (some r) (.calm x (.running
        { (answeredBy r commits after).statement sql with
          events := []
          tag := if r.carriesTag then r.cmdStatus.getD "" else "" })
        true tick scripts (.getResult false (.result r.status) :: calls)) := by
    simp only [pqGetResult, act, Wire.calm, PgConn.inFlight, PgConn.fetch, Answer.statement,
      answeredBy, arrival, hcopy]
    rfl
  apply Exists.intro
  rw [fetchResults]
  refine (bind_ok hget).trans ?_
  simp only [hr]
  rw [fetchResults]
  refine (bind_ok rfl).trans ?_
  refine (bind_ok rfl).trans ?_
  rw [hrs]
  rfl

/-- A statement that is answered at once by one result returns what is made of it. -/
theorem sendChecked_answered (singleRow : Bool) (hcopy : r.status.isCopy = false)
    (hr : consumeResult (.new limits) r = (.ok (), c)) (hrs : c.outcome none = .ok rs)
    (htick : tick + 12 ≤ 1000) :
    ∃ calls', leaving (sendChecked 3 sql limits singleRow 1000 (.libpq calmContext))
        (.resting x tick (.accept (answeredBy r commits after) :: scripts) calls) =
      .ok rs (.resting (x.next sql after) (tick + 12) scripts calls') := by
  let sent := (answeredBy r commits after).statement sql
  let seen : Observed := { firstError := none, drainDeadline := 1000 }
  have hcheck : checkControl (.libpq calmContext) 1000
      (.resting x tick (.accept (answeredBy r commits after) :: scripts) calls) =
      .ok () (.resting x (tick + 4) (.accept (answeredBy r commits after) :: scripts) calls) :=
    (bind_ok (pollReason_calm (by show tick + 3 < 1000; omega))).trans rfl
  have hflush : ∀ calls, flushOutput (.libpq calmContext) 1000 3
      (.calm x (.running sent) true (tick + 4) scripts calls) =
      .ok () (.calm x (.running sent) true (tick + 8) scripts calls) := fun calls =>
    (bind_ok (pollReason_calm (by show tick + 4 + 3 < 1000; omega))).trans rfl
  have hobserve : ∀ calls, observeControl (.libpq calmContext) 1000 seen
      (.calm x (.running sent) true (tick + 8) scripts calls) =
      .ok seen (.calm x (.running sent) true (tick + 12) scripts calls) := fun calls =>
    (bind_ok (pollReason_calm (by show tick + 8 + 3 < 1000; omega))).trans rfl
  have hawait : ∀ calls, ∃ calls', awaitResult (.libpq calmContext) 1000 3 seen
      (.calm x (.running sent) true (tick + 8) scripts calls) =
      .ok seen (.calm x (.running sent) true (tick + 12) scripts calls') := fun calls =>
    ⟨_, (bind_ok (hobserve calls)).trans rfl⟩
  have hmode : ∀ calls, pqSetSingleRowMode singleRow
      (.calm x (.running sent) true (tick + 4) scripts calls) =
      .ok true (.calm x (.running sent) true (tick + 4) scripts calls) := fun calls => by
    cases singleRow <;> rfl
  obtain ⟨calls₁, hawait⟩ := hawait (.send sql x :: calls)
  obtain ⟨calls₂, hfetch⟩ := fetchResults_answered commits after sql x scripts calls₁ hcopy hr hrs
  have hcollect : collectResults 3 limits 1000 (.libpq calmContext)
      (.calm x (.running sent) true (tick + 4) scripts (.send sql x :: calls)) =
      .ok rs (.resting (x.next sql after) (tick + 12) scripts calls₂) :=
    (bind_ok (hflush _)).trans ((bind_ok hawait).trans hfetch)
  have hsend : sendChecked 3 sql limits singleRow 1000 (.libpq calmContext)
      (.resting x tick (.accept (answeredBy r commits after) :: scripts) calls) =
      .ok rs (.resting (x.next sql after) (tick + 12) scripts calls₂) := by
    rw [sendChecked]
    refine (bind_ok hcheck).trans ?_
    -- the connection is there, the statement is accepted, and the busy flag is set
    refine (bind_ok rfl).trans ?_
    refine (bind_ok rfl).trans ?_
    refine (bind_ok rfl).trans ?_
    refine (bind_ok rfl).trans ?_
    refine (bind_ok rfl).trans ?_
    refine (bind_ok (hmode _)).trans ?_
    exact (bind_ok (attempt_ok hcollect)).trans rfl
  exact ⟨_, (bind_ok (attempt_ok hsend)).trans rfl⟩

end Answered

/-! ### The catalog queries -/

/-- A result without rows. -/
def emptyResult (width : ℕ) : PgResult where
  status := .tuplesOk
  columns := List.replicate width (some "c", 25)
  cmdStatus := some "SELECT 0"
  cmdTuples := some "0"

/-- The answers of the server to the inspection of an empty database. -/
def inspection : List Script :=
  [.completed "BEGIN" false .inTransaction,
    .accept (answeredBy (emptyResult 4) false .inTransaction),
    .accept (answeredBy (emptyResult 10) false .inTransaction),
    .accept (answeredBy (emptyResult 5) false .inTransaction), .completed "COMMIT" true .idle]

/-- An empty result is collected without an error. -/
def collects (limits : QueryLimits) (width : ℕ) : Bool :=
  match consumeResult (.new limits) (emptyResult width) with
  | (.ok (), collector) => (collector.outcome none).toOption.any (·.rows == [])
  | (.error _, _) => false

section Inspection

variable (calls : List Call)

theorem catalogQuery_inspection {sql : String} {width : ℕ} (tick : ℕ) (scripts : List Script)
    (hsql : unsendable sql Config.default.sqlBytes = false)
    (hwidth : collects (catalogLimits .default) width = true) (htick : tick + 12 ≤ 1000) :
    ∃ rs calls', schemaQuery 3 1000 (.libpq calmContext) sql (catalogLimits .default)
        (.resting (.opened beginSchemaSql false) tick
          (.accept (answeredBy (emptyResult width) false .inTransaction) :: scripts) calls) =
      .ok rs (.resting (.opened beginSchemaSql false) (tick + 12) scripts calls') ∧ rs.rows = [] := by
  rw [schemaQuery_sendable hsql]
  unfold collects at hwidth
  cases hr : consumeResult (.new (catalogLimits .default)) (emptyResult width) with
  | mk r c =>
    rw [hr] at hwidth
    rcases r with e | ⟨⟩
    · cases hwidth
    · cases hrs : c.outcome none with
      | error e =>
        simp only [hrs] at hwidth
        cases hwidth
      | ok rs =>
        simp only [hrs] at hwidth
        obtain ⟨calls', h⟩ := sendChecked_answered false .inTransaction sql
          (.opened beginSchemaSql false) scripts calls true rfl hr hrs htick
        exact ⟨rs, calls', mapError_ok h, by simpa [Except.toOption] using hwidth⟩

set_option maxRecDepth 4000 in
theorem begin_inspection (scripts : List Script) : ∃ calls',
    executeChecked 3 1000 (.libpq calmContext) beginSchemaSql
      (.resting .idle 3 (.completed "BEGIN" false .inTransaction :: scripts) calls) =
    .ok () (.resting (.opened beginSchemaSql false) 15 scripts calls') := ⟨_, rfl⟩

set_option maxRecDepth 4000 in
theorem commit_inspection (scripts : List Script) : ∃ calls',
    executeChecked 3 1000 (.libpq calmContext) "COMMIT"
      (.resting (.opened beginSchemaSql false) 51 (.completed "COMMIT" true .idle :: scripts) calls) =
    .ok () (.resting .idle 63 scripts calls') := ⟨_, rfl⟩

theorem assemble_empty : assemble .default [] [] [] = .ok { schemas := [] } := by decide +kernel

/-- The inspection of an empty database. -/
theorem retrieve_inspection : ∃ calls',
    retrieve 3 .default 1000 (.libpq calmContext) (.resting .idle 3 inspection calls) =
      .ok { schemas := [] } (.resting .idle 63 [] calls') := by
  obtain ⟨calls₁, h₁⟩ := begin_inspection calls inspection.tail
  obtain ⟨relations, calls₂, h₂, hrelations⟩ := catalogQuery_inspection calls₁ 15
    (inspection.drop 2) sendable_relationsSql (by decide +kernel : collects _ 4 = true) (by decide)
  obtain ⟨columns, calls₃, h₃, hcolumns⟩ := catalogQuery_inspection calls₂ 27
    (inspection.drop 3) sendable_columnsSql (by decide +kernel : collects _ 10 = true) (by decide)
  obtain ⟨constraints, calls₄, h₄, hconstraints⟩ := catalogQuery_inspection calls₃ 39
    (inspection.drop 4) sendable_constraintsSql (by decide +kernel : collects _ 5 = true) (by decide)
  obtain ⟨calls₅, h₅⟩ := commit_inspection calls₄ []
  have hinner : retrieveInner 3 .default 1000 (.libpq calmContext)
      (.resting (.opened beginSchemaSql false) 15 inspection.tail calls₁) =
      .ok { schemas := [] } (.resting (.opened beginSchemaSql false) 51 (inspection.drop 4) calls₄) := by
    rw [retrieveInner]
    refine (bind_ok h₂).trans ((bind_ok h₃).trans ((bind_ok h₄).trans ?_))
    rw [hrelations, hcolumns, hconstraints, assemble_empty]
    rfl
  refine ⟨calls₅, ?_⟩
  rw [retrieve]
  exact (bind_ok h₁).trans ((bind_ok (attempt_ok hinner)).trans (bind_ok (attempt_ok h₅)))

end Inspection

/-! ### The request -/

/-- A worker with a usable connection at rest outside a transaction. -/
def Worker.atRest (p : PublishedHandle) (wire : Wire) : Worker where
  published := p
  backend := { present := true, wire := wire }

/-- The observation of a connection at rest outside a transaction. -/
def BackendObservation.idle : BackendObservation where
  connectionStatus := .ok
  transactionStatus := .idle
  busy := false

theorem onConnection_ok {ε α : Type} {x : Program Wire ε α} {f : ε → LibpqBackend → BackendFailure}
    {b : LibpqBackend} {a : α} {w : Wire} (hpresent : b.present = true) (h : x b.wire = .ok a w) :
    onConnection x f b = .ok a { b with wire := w } := by
  rw [onConnection]
  refine (bind_ok rfl).trans ?_
  rw [if_pos hpresent]
  exact mapError_ok (zoom_ok h)

/-- A calm inspection of an idle connection leaves it idle, with the schema observed. -/
theorem serve_inspection {p : PublishedHandle} (hidle : p.observation.transactionStatus = .idle)
    (hlive : p.closed = false) : ∃ reply calls,
    serve 3 .default .getSchema calmContext (.atRest p (.resting .idle 0 inspection [])) =
      .ok reply (.atRest
        { p with observation := .idle, schemaObserved := true, schemaDirty := false }
        (.resting .idle 63 [] calls)) := by
  obtain ⟨calls, hretrieve⟩ := retrieve_inspection []
  have hpre : operationPrecondition p .getSchema = none := by
    simp [operationPrecondition, hidle, hlive]
  have hget : Backend.getSchema 3 calmContext .default
      { present := true, wire := .resting .idle 3 inspection [] } =
      .ok (.schema { schemas := [] } .idle)
        { present := true, wire := .resting .idle 63 [] calls } := by
    have hwire : onConnection (retrieve 3 .default 1000 (.libpq calmContext)) schemaFailure
        { present := true, wire := .resting .idle 3 inspection [] } =
        .ok { schemas := [] } { present := true, wire := .resting .idle 63 [] calls } :=
      onConnection_ok rfl hretrieve
    exact (bind_ok hwire).trans rfl
  -- three reads of the flags come before the inspection
  have hstopping : (control calmContext.stopping : WorkerM Bool)
      (.atRest p (.resting .idle 0 inspection [])) =
      .ok false (.atRest p (.resting .idle 1 inspection [])) := rfl
  have hcancelled : (control calmContext.cancelled : WorkerM Bool)
      (.atRest p (.resting .idle 1 inspection [])) =
      .ok false (.atRest p (.resting .idle 2 inspection [])) := rfl
  have hexpired : (control calmContext.expired : WorkerM Bool)
      (.atRest p (.resting .idle 2 inspection [])) =
      .ok false (.atRest p (.resting .idle 3 inspection [])) := rfl
  have hbackend : (onBackend (runOperation 3 .default calmContext .getSchema) : WorkerM _)
      (.atRest p (.resting .idle 3 inspection [])) =
      .ok (.ok (.schema { schemas := [] } .idle)) (.atRest p (.resting .idle 63 [] calls)) := by
    rw [onBackend, runOperation]
    exact attempt_ok (zoom_ok hget)
  have hvalid : ({ schemas := [] } : SchemaResult).validate .default = .ok () := by decide +kernel
  have hexecute : ∃ state moves json, executeOperation 3 .default .getSchema calmContext
      (.atRest p (.resting .idle 0 inspection [])) = .ok (.success state moves json) (.atRest
        { p with observation := .idle, schemaObserved := true, schemaDirty := false }
        (.resting .idle 63 [] calls)) := by
    apply Exists.intro
    apply Exists.intro
    apply Exists.intro
    rw [executeOperation]
    refine (bind_ok rfl).trans ?_
    have hpre' : operationPrecondition (Worker.atRest p (.resting .idle 0 inspection [])).published
        .getSchema = none := hpre
    simp only [hpre']
    refine (bind_ok hstopping).trans ?_
    simp only [Bool.false_eq_true, if_false]
    refine (bind_ok hcancelled).trans ?_
    simp only [Bool.false_eq_true, if_false]
    refine (bind_ok hexpired).trans ?_
    simp only [Bool.false_eq_true, if_false, operationValidate]
    refine (bind_ok hbackend).trans ?_
    simp only [publishResult, hvalid]
    rfl
  obtain ⟨state, moves, json, hexecute⟩ := hexecute
  exact ⟨_, _, (bind_ok (attempt_ok hexecute)).trans rfl⟩

/-! ### Runs after an inspection -/

/-- A worker that differs from another only in the trace of its last request serves the
next one alike. -/
theorem Serves.congr {config : Config} {s s' t : Worker} {l : Served} (h : Serves config s l t)
    (hpublished : s'.published = s.published)
    (hinstall : ∀ env, s'.backend.install env = s.backend.install env) :
    Serves config s' { l with before := s' } t := by
  obtain ⟨hbefore, hafter, hlive, rounds, hserve⟩ := h
  refine ⟨rfl, hafter, by rw [hpublished]; exact hlive, rounds, ?_⟩
  have hsame : s'.install l.env = s.install l.env := by
    rw [Worker.install, Worker.install, hinstall, hpublished]
  rw [hsame]
  exact hserve

/-- The worker of a handle whose schema was inspected after it was opened. -/
def Worker.inspected : Worker :=
  .atRest { Worker.opened.published with observation := .idle, schemaObserved := true }
    (.resting .idle 0 [] [])

/-- What a worker can do once its schema was inspected, it can do after it was opened. -/
theorem inspected_run {l : Served} {ls : List Served} {t : Worker}
    (run : Run (Serves .default) .inspected (l :: ls) t) : ∃ first before,
    (∀ env, before.install env = Worker.inspected.install env) ∧
      Run (Serves .default) .opened (first :: { l with before := before } :: ls) t := by
  obtain ⟨u, step, rest⟩ := run.cons_inv
  obtain ⟨reply, calls, hserve⟩ := serve_inspection (p := Worker.opened.published) rfl rfl
  let s : Worker := .atRest { Worker.opened.published with observation := .idle, schemaObserved := true }
    (.resting .idle 63 [] calls)
  have first : Serves .default .opened
      { operation := .getSchema, env := .calm inspection, before := .opened, reply, after := s } s :=
    ⟨rfl, rfl, rfl, 3, hserve⟩
  exact ⟨_, s, fun _ => rfl, .cons first (.cons (step.congr rfl fun _ => rfl) rest)⟩

end PgMcp
