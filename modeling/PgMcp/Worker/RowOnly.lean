import PgMcp.Worker.Gate

/-!
# Row-only work

Statements that change rows only do not withdraw the schema observation: neither their
transactions, nor their errors as long as the outcome is known.

## Main definitions

* `PublishedHandle.Current` — the schema was inspected, and no direct DDL was seen since.
* `Served.RowOnly` — a request that opens or ends a transaction, or works on rows.

## Main results

* `current_of_run` — the observation stays, and another transaction can be opened.
-/

namespace PgMcp

open Program Backend

/-- The schema was inspected, and no direct DDL was seen since. -/
structure PublishedHandle.Current (p : PublishedHandle) : Prop where
  observed : p.schemaObserved = true
  clean : p.schemaDirty = false

/-- A request that opens or ends a transaction, or a query whose tag is not one of direct DDL
if it succeeds; if the request fails, its outcome is known. -/
structure Served.RowOnly (l : Served) : Prop where
  operation : l.operation ≠ .getSchema ∧ l.operation ≠ .close
  rows : ∀ request (query : QueryResult), l.operation = .query request →
    Reply.result l.reply = some query.toJson → directDdlCommandTag query.commandTag = false
  known : Reply.succeeded l.reply = false → Reply.outcomeUnknown l.reply = false

/-- The snapshots that are published while a request is served: the one its execution leaves,
and the one it is answered with. -/
def Served.Publishes (config : Config) (l : Served) (p : PublishedHandle) : Prop :=
  p = l.after.published ∨ ∃ rounds result w,
    (serve rounds config l.operation l.env.ctx).Returns (l.before.install l.env) (.ok l.reply) l.after ∧
      (executeOperation rounds config l.operation l.env.ctx).Returns (l.before.install l.env) result w ∧
      p = w.published

/-! ### One request -/

theorem current_record {config : Config} {p : PublishedHandle} {r : Except BackendFailure BackendResult}
    (h : p.Current) (open' : ∀ observation verified, r ≠ .ok (.closed observation verified))
    (rows : ∀ query observation, r = .ok (.query query observation true) →
      (BackendResult.query query observation true).fits config = false) : (p.record config r).Current := by
  cases r with
  | error f => exact ⟨h.observed, h.clean⟩
  | ok result =>
    cases result with
    | opened mode observation => exact ⟨h.observed, h.clean⟩
    | schema schema observation =>
      unfold PublishedHandle.record
      dsimp only
      split
      · exact ⟨rfl, rfl⟩
      · exact h
    | query query observation directDdl =>
      cases directDdl with
      | true =>
        unfold PublishedHandle.record
        simp only [rows query observation rfl, Bool.false_eq_true, if_false]
        exact h
      | false =>
        unfold PublishedHandle.record
        dsimp only
        split
        · exact ⟨h.observed, h.clean⟩
        · exact h
    | committed observation =>
      refine ⟨?_, rfl⟩
      show (if p.schemaDirty then some false else none).getD p.schemaObserved = true
      rw [h.clean]
      exact h.observed
    | rolledBack changed observation => exact ⟨h.observed, rfl⟩
    | closed observation verified => exact absurd rfl (open' observation verified)

/-- Serving a request is executing it, and publishing a fresh observation. -/
theorem serve_executed {rounds : ℕ} {config : Config} {operation : Operation} {ctx : RequestContext}
    {s t : Worker} {reply : Reply} (h : (serve rounds config operation ctx).Returns s (.ok reply) t) :
    ∃ result w, (executeOperation rounds config operation ctx).Returns s result w ∧
      t.published = settle operation (Reply.outcomeUnknown result) w.backend.observation w.published ∧
      reply = result.map fun envelope => refreshEnvelopeState envelope
        (closeSucceeded operation result) t := by
  have hpost : (serve rounds config operation ctx).Post s fun r t => ∃ result w,
      (executeOperation rounds config operation ctx).Returns s result w ∧
        t.published = settle operation (Reply.outcomeUnknown result) w.backend.observation w.published ∧
        r = .ok (result.map fun envelope =>
          refreshEnvelopeState envelope (closeSucceeded operation result) t) := by
    rw [serve]
    refine Post.attempt_bind (P := fun result w =>
      (executeOperation rounds config operation ctx).Returns s result w) (post_iff.mpr fun _ _ h => h) ?_
    intro result w hw
    simp only [publish, post_bind, post_read, andThen_ok, post_update]
    exact ⟨result, w, hw, rfl, rfl⟩
  obtain ⟨result, w, hw, hpublished, hreply⟩ := hpost.returns h
  cases hreply
  exact ⟨result, w, hw, hpublished, rfl⟩

section Serves

variable {config : Config} {s t : Worker} {l : Served}

/-- A reply with a result leaves no outcome unknown. -/
theorem leavesUnknown_of_succeeded {r : Except BackendFailure BackendResult}
    (h : endSucceeded config r = true) : leavesUnknown r = false := by
  cases r with
  | error f => cases h
  | ok result =>
    cases result with
    | closed observation verified =>
      have h : verified = true := h
      simp [leavesUnknown, h]
    | opened | schema | query | committed | rolledBack => rfl

/-- Only a query returns rows, and it says whether their tag is one of direct DDL. -/
theorem query_of_runOperation {rounds : ℕ} {operation : Operation} {ctx : RequestContext}
    {b b' : LibpqBackend} {query : QueryResult} {observation : BackendObservation} {directDdl : Bool}
    (h : (runOperation rounds config ctx operation).Returns b (.ok (.query query observation directDdl)) b') :
    (∃ request, operation = .query request) ∧ directDdl = directDdlCommandTag query.commandTag := by
  cases operation with
  | query request =>
    refine ⟨⟨request, rfl⟩, ?_⟩
    have hended := (Backend.query_post request config).returns h
    generalize hr : (Except.ok (BackendResult.query query observation directDdl) :
      Except BackendFailure BackendResult) = r at hended
    cases hended with
    | answered rs =>
      cases hr
      rfl
    | absent | failed | undrained => cases hr
  | getSchema => cases (getSchema_post config).returns h
  | openRead | openWrite => cases (openTransaction_post _ _).returns h
  | commit => cases commit_post.returns h
  | rollback => cases rollback_post.returns h
  | close => cases close_post.returns h

theorem executed_current {rounds : ℕ} {reply result : Reply} {w : Worker} {operation : Operation}
    {ctx : RequestContext} (hserve : (serve rounds config operation ctx).Returns s (.ok reply) t)
    (hexec : (executeOperation rounds config operation ctx).Returns s result w) (open' : operation ≠ .close)
    (rows : ∀ request (query : QueryResult), operation = .query request →
      Reply.result reply = some query.toJson → directDdlCommandTag query.commandTag = false)
    (known : Reply.succeeded reply = false → Reply.outcomeUnknown reply = false)
    (current : s.published.Current) : w.published.Current ∧ t.published.Current := by
  obtain ⟨result', w', hexec', hpublished, hreply⟩ := serve_executed hserve
  obtain ⟨rfl, rfl⟩ := hexec.unique hexec'
  obtain ⟨hunknown, -, hsucceeded, hresult⟩ := refresh_reply (closeSucceeded operation) t result
  rw [← hreply] at hunknown hsucceeded hresult
  have hboth : w.published.Current ∧ Reply.outcomeUnknown result = false := by
    rw [hunknown, hsucceeded] at known
    rw [hresult] at rows
    cases (executeOperation_post rounds config operation ctx s).returns hexec with
    | refused error ticked refusal =>
      refine ⟨?_, known rfl⟩
      rw [ticked.published]
      exact current
    | ran r free ticked returns same published =>
      rw [published.succeeded, published.unknown] at known
      refine ⟨?_, ?_⟩
      · rw [published.published, same]
        refine current_record current ?_ ?_
        · rintro observation verified rfl
          exact open' (closed_of_runOperation returns).1
        · rintro query observation rfl
          by_contra hfits
          rw [Bool.not_eq_false] at hfits
          have hrows : Reply.result result = some query.toJson := by
            rw [published.result, endResult, if_pos hfits]
            rfl
          obtain ⟨⟨request, hop⟩, hddl⟩ := query_of_runOperation returns
          rw [rows request query hop hrows] at hddl
          cases hddl
      · rw [published.unknown]
        cases hend : endSucceeded config r with
        | true => exact leavesUnknown_of_succeeded hend
        | false => exact known hend
  refine ⟨hboth.1, ?_⟩
  rw [hpublished, hboth.2]
  exact ⟨hboth.1.observed, hboth.1.clean⟩

/-- Row-only work leaves the observation alone in every snapshot it publishes. -/
theorem Serves.current (h : Serves config s l t) (rowOnly : l.RowOnly) (current : s.published.Current) :
    t.published.Current ∧ ∀ p, l.Publishes config p → p.Current := by
  obtain ⟨rfl, rfl, -, rounds, hserve⟩ := h
  have hafter : l.after.published.Current := by
    obtain ⟨result, w, hexec, -⟩ := serve_executed hserve
    exact (executed_current hserve hexec rowOnly.operation.2 rowOnly.rows rowOnly.known current).2
  refine ⟨hafter, ?_⟩
  rintro p (rfl | ⟨rounds', result, w, hserve', hexec, rfl⟩)
  · exact hafter
  · exact (executed_current hserve' hexec rowOnly.operation.2 rowOnly.rows rowOnly.known current).1

/-- A commit or a rollback that succeeds leaves the connection idle. -/
theorem Serves.ended_idle (h : Serves config s l t) (ends : l.operation = .commit ∨ l.operation = .rollback)
    (succeeded : Reply.succeeded l.reply = true) :
    t.published.closed = false ∧ t.published.observation.transactionStatus = .idle := by
  obtain ⟨rounds, handled⟩ := h.handled
  obtain ⟨-, -, hlive, -⟩ := h
  cases handled with
  | refused error refusal conn calls present observation published flag coded failed =>
    rw [failed] at succeeded
    cases succeeded
  | ran r free conn calls present observation returns published flag coded succeeded' =>
    rw [succeeded'] at succeeded
    rw [published, leavesUnknown_of_succeeded succeeded, settle_closed]
    constructor
    · by_contra hclosed
      rw [Bool.not_eq_false] at hclosed
      have hclose := (closed_of_record hlive returns hclosed).1
      rcases ends with hop | hop <;> rw [hop] at hclose <;> cases hclose
    · show t.backend.observation.transactionStatus = .idle
      rcases ends with hop | hop <;> rw [hop] at returns
      · have hended := commit_post.returns returns
        cases hended with
        | refused | unknown => cases succeeded
        | committed rs status present same call tag idle => exact idle
      · have hended := rollback_post.returns returns
        generalize t.backend = b' at hended
        cases hended with
        | noop status => exact status
        | absent | failed => cases succeeded
        | rolledBack rs status present same call tag idle => exact idle

end Serves

/-- From a handle whose schema was inspected, row-only work keeps the observation in every
snapshot that is published, and after a commit or a rollback that succeeds another transaction
can be opened. -/
theorem current_of_run {config : Config} {s t : Worker} {ls : List Served}
    (observed : s.published.schemaObserved = true) (clean : s.published.schemaDirty = false)
    (run : Run (Serves config) s ls t) (rowOnly : ∀ l ∈ ls, l.RowOnly) :
    t.published.Current ∧ ∀ l ∈ ls, (∀ p, l.Publishes config p → p.Current) ∧
      (l.operation = .commit ∨ l.operation = .rollback → Reply.succeeded l.reply = true →
        operationPrecondition l.after.published .openRead = none ∧
          operationPrecondition l.after.published .openWrite = none) := by
  induction run with
  | nil => exact ⟨⟨observed, clean⟩, by simp⟩
  | @snoc t u ls l run last ih =>
    rw [List.forall_mem_append, List.forall_mem_singleton] at rowOnly
    obtain ⟨hcurrent, hbefore⟩ := ih rowOnly.1
    obtain ⟨hafter, hpublishes⟩ := last.current rowOnly.2 hcurrent
    refine ⟨hafter, ?_⟩
    rw [List.forall_mem_append, List.forall_mem_singleton]
    refine ⟨hbefore, hpublishes, fun ends succeeded => ?_⟩
    obtain ⟨hlive, hidle⟩ := last.ended_idle ends succeeded
    obtain ⟨-, rfl, -⟩ := last
    simp [operationPrecondition, hlive, hidle, hafter.observed]

/-- A reply whose tag, if it has one, is not one of direct DDL. -/
def Served.changesRows (l : Served) : Bool :=
  Reply.succeeded l.reply && (Reply.result l.reply).any fun
    | .obj [_, _, (_, .str tag), _] => !directDdlCommandTag tag
    | _ => true

theorem rowOnly_of_changesRows {l : Served} (h : l.changesRows = true)
    (operation : l.operation ≠ .getSchema ∧ l.operation ≠ .close) : l.RowOnly where
  operation := operation
  rows := by
    intro request query _ hresult
    rw [Served.changesRows, hresult] at h
    simpa [QueryResult.toJson] using (Bool.and_eq_true_iff.mp h).2
  known hfailed := by
    rw [Served.changesRows, hfailed] at h
    cases h

/-- A transaction with one INSERT after an inspection. -/
theorem current_of_run_insert : ∃ ls t, ls.length = 3 ∧ Run (Serves .default) .inspected ls t ∧
    t.published.Current ∧ ∀ l ∈ ls, (∀ p, l.Publishes .default p → p.Current) ∧
      (l.operation = .commit ∨ l.operation = .rollback → Reply.succeeded l.reply = true →
        operationPrecondition l.after.published .openRead = none ∧
          operationPrecondition l.after.published .openWrite = none) := by
  obtain ⟨ls, t, hls, -, run⟩ := exists_play 3 .default (s := .inspected)
    [(.commit, .calm [.completed "COMMIT" true .idle]),
      (.query { sql := "INSERT INTO log VALUES (1)", parameters := [] },
        .calm [.completed "INSERT 0 1" false .inTransaction]),
      (.openWrite, .calm [.completed "BEGIN" false .inTransaction])]
    (p := fun played => played.1.length == 3 && played.1.all fun l =>
      l.changesRows && l.operation != .getSchema && l.operation != .close) (by decide +kernel)
  simp only [Bool.and_eq_true, beq_iff_eq, List.all_eq_true, bne_iff_ne] at hls
  exact ⟨ls, t, hls.1, run, current_of_run rfl rfl run fun l hl =>
    rowOnly_of_changesRows (hls.2 l hl).1.1 ⟨(hls.2 l hl).1.2, (hls.2 l hl).2⟩⟩

end PgMcp
