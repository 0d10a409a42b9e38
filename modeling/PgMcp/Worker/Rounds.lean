import PgMcp.Libpq.Rounds
import PgMcp.Worker

/-!
# Rounds of a request

A request takes the number of rounds that the loops of the adapter may run.  It ends the
same with any number of rounds with which it ends, so how it ends is a matter of the
connection and of what happens around it alone.

## Main results

* `retrieve_le`, `runOperation_le`, `Backend.shutdown_le`, `executeOperation_le` — more
  rounds return the same.
* `executeOperation_unique`, `Backend.shutdown_unique` — a request and a cleanup end in one
  way.
-/

namespace PgMcp

open Program

section Le

variable {m n : ℕ} {ctx : RequestContext}

/-! ### The schema -/

section Schema

variable {config : Config} {deadline : ℕ} {ctl : PollControl}

theorem schemaQuery_le (hmn : m ≤ n) (sql : String) (limits : QueryLimits) :
    (schemaQuery m deadline ctl sql limits).Le (schemaQuery n deadline ctl sql limits) := by
  rw [schemaQuery, schemaQuery]
  exact .mapError (query_le hmn sql [] limits)

theorem executeChecked_le (hmn : m ≤ n) (sql : String) :
    (executeChecked m deadline ctl sql).Le (executeChecked n deadline ctl sql) := by
  rw [executeChecked, executeChecked]
  exact .bind (.mapError (execute_le hmn sql)) fun _ => .refl _

theorem retrieveInner_le (hmn : m ≤ n) :
    (retrieveInner m config deadline ctl).Le (retrieveInner n config deadline ctl) := by
  rw [retrieveInner, retrieveInner]
  exact .bind (schemaQuery_le hmn _ _) fun _ => .bind (schemaQuery_le hmn _ _) fun _ =>
    .bind (schemaQuery_le hmn _ _) fun _ => .refl _

theorem rollbackSchema_le {α : Type} (hmn : m ≤ n) (e : SchemaError) :
    (rollbackSchema m deadline ctl e : Retrieval α).Le (rollbackSchema n deadline ctl e) := by
  rw [rollbackSchema, rollbackSchema]
  exact .bind (.attempt (execute_le hmn _)) fun _ => .refl _

theorem retrieve_le (hmn : m ≤ n) :
    (retrieve m config deadline ctl).Le (retrieve n config deadline ctl) := by
  rw [retrieve, retrieve]
  refine .bind (executeChecked_le hmn _) fun _ =>
    .bind (.attempt (retrieveInner_le hmn)) fun snapshot => ?_
  cases snapshot with
  | error e => exact rollbackSchema_le hmn e
  | ok snapshot =>
    refine .bind (.attempt (executeChecked_le hmn _)) fun committed => ?_
    cases committed with
    | error e => exact rollbackSchema_le hmn e
    | ok _ => exact .refl _

end Schema

/-! ### The backend -/

namespace Backend

theorem onConnection_le {ε α : Type} {x y : Program Wire ε α} {f : ε → LibpqBackend → BackendFailure}
    (h : x.Le y) : (onConnection x f).Le (onConnection y f) := by
  rw [onConnection, onConnection]
  refine .bind (.refl _) fun present => ?_
  cases present with
  | false => exact .refl _
  | true => exact .mapError (.zoom h)

theorem executeCommand_le (hmn : m ≤ n) (sql : String) (ignoreClientCancel : Bool) :
    (executeCommand m ctx sql ignoreClientCancel).Le
      (executeCommand n ctx sql ignoreClientCancel) := by
  rw [executeCommand, executeCommand]
  exact onConnection_le (execute_le hmn sql)

theorem openTransaction_le (hmn : m ≤ n) (sql mode : String) :
    (openTransaction m ctx sql mode).Le (openTransaction n ctx sql mode) := by
  rw [openTransaction, openTransaction]
  exact .bind (executeCommand_le hmn sql false) fun _ => .refl _

theorem afterFailedQuery_le (hmn : m ≤ n) : (afterFailedQuery m ctx).Le (afterFailedQuery n ctx) := by
  rw [afterFailedQuery, afterFailedQuery, drainAfterFailure, drainAfterFailure]
  refine .bind (.bind (.refl _) fun found => ?_) fun _ => .refl _
  cases found with
  | false => exact .refl _
  | true =>
    exact .bind (.refl _) fun reason => .bind (.refl _) fun _ =>
      .bind (cancelAndDrain_le hmn reason) fun _ => .refl _

theorem query_le (hmn : m ≤ n) (request : QueryRequest) (config : Config) :
    (query m ctx request config).Le (query n ctx request config) := by
  rw [query, query]
  refine .bind (.refl _) fun present => ?_
  cases present with
  | false => exact .refl _
  | true =>
    refine .bind (.attempt (.zoom (PgMcp.query_le hmn _ _ _))) fun result => ?_
    cases result with
    | ok result => exact .refl _
    | error e =>
      exact .bind (.refl _) fun _ => .bind (onConnection_le (afterFailedQuery_le hmn)) fun _ => .refl _

theorem commit_le (hmn : m ≤ n) : (commit m ctx).Le (commit n ctx) := by
  rw [commit, commit]
  refine .bind (.refl _) fun before => ?_
  cases before.transactionStatus with
  | inTransaction => exact .bind (.attempt (executeCommand_le hmn _ _)) fun _ => .refl _
  | idle | active | inError | unknown => exact .refl _

theorem rollback_le (hmn : m ≤ n) : (rollback m ctx).Le (rollback n ctx) := by
  rw [rollback, rollback]
  refine .bind (.refl _) fun before => ?_
  split
  · exact .refl _
  · exact .bind (executeCommand_le hmn _ _) fun _ => .refl _

theorem shutdown_le (hmn : m ≤ n) : (shutdown m ctx).Le (shutdown n ctx) := by
  rw [shutdown, shutdown]
  refine .bind (.refl _) fun before => ?_
  split
  · exact .bind (.attempt (executeCommand_le hmn _ _)) fun _ => .refl _
  · exact .refl _

end Backend

/-! ### The request -/

variable {config : Config}

theorem runOperation_le (hmn : m ≤ n) (operation : Operation) :
    (runOperation m config ctx operation).Le (runOperation n config ctx operation) := by
  cases operation with
  | getSchema => exact .bind (Backend.onConnection_le (retrieve_le hmn)) fun _ => .refl _
  | openRead => exact Backend.openTransaction_le hmn _ _
  | openWrite => exact Backend.openTransaction_le hmn _ _
  | query request => exact Backend.query_le hmn request config
  | commit => exact Backend.commit_le hmn
  | rollback => exact Backend.rollback_le hmn
  | close => exact .refl _

theorem onBackend_le {ε α : Type} {x y : BackendM α} (h : x.Le y) :
    (onBackend x : Program Worker ε _).Le (onBackend y) := by
  rw [onBackend, onBackend]
  exact .attempt (.zoom h)

theorem executeOperation_le (hmn : m ≤ n) (operation : Operation) :
    (executeOperation m config operation ctx).Le (executeOperation n config operation ctx) := by
  have refused : ∀ error, (errorEnvelopeFor error : WorkerM Envelope).Le (errorEnvelopeFor error) :=
    fun error => .refl _
  rw [executeOperation, executeOperation]
  refine .bind (.refl _) fun precondition => ?_
  cases precondition with
  | some error => exact refused error
  | none =>
    -- the control flags are read without a loop, and before the backend is asked
    refine .bind (.refl _) fun stopping => ?_
    cases stopping with
    | true => exact refused _
    | false =>
      refine .bind (.refl _) fun cancelled => ?_
      cases cancelled with
      | true => exact refused _
      | false =>
        refine .bind (.refl _) fun expired => ?_
        cases expired with
        | true => exact refused _
        | false =>
          simp only [Bool.false_eq_true, if_false]
          cases operationValidate config operation with
          | error error => exact refused _
          | ok _ => exact .bind (onBackend_le (runOperation_le hmn operation)) fun _ => .refl _

end Le

/-- A request ends in one way. -/
theorem executeOperation_unique {m n : ℕ} {config : Config} {operation : Operation}
    {ctx : RequestContext} {w w₁ w₂ : Worker} {r r' : Reply}
    (h : (executeOperation m config operation ctx).Returns w r w₁)
    (h' : (executeOperation n config operation ctx).Returns w r' w₂) : r = r' ∧ w₁ = w₂ :=
  Returns.unique_of_le (x := fun n => executeOperation n config operation ctx)
    (fun hmn => executeOperation_le hmn operation) h h'

/-- A cleanup ends in one way. -/
theorem Backend.shutdown_unique {m n : ℕ} {ctx : RequestContext} {b b₁ b₂ : LibpqBackend}
    {r r' : Except BackendFailure ShutdownWorkerResult}
    (h : (Backend.shutdown m ctx).Returns b r b₁) (h' : (Backend.shutdown n ctx).Returns b r' b₂) :
    r = r' ∧ b₁ = b₂ :=
  Returns.unique_of_le (x := fun n => Backend.shutdown n ctx)
    (fun hmn => Backend.shutdown_le hmn) h h'

end PgMcp
