import PgMcp.Worker.Doubt
import PgMcp.Worker.Fits
import PgMcp.Worker.Lost

/-!
# The moves of a reply

A reply names the tools that can be called next.  They are read off the published
snapshot, while the lifecycle checks of the next request look at the snapshot and, for a
commit and a close, at the native status as well.

## Main definitions

* `Served.MovesSound` — no move of the reply is refused by a lifecycle check.
* `Served.Doubted` — how a request comes to be in doubt: a control event, or an answer.
* `Served.Certain` — a request that leaves a transaction open is not in doubt.

## Main results

* `Serves.inspected` — after such a request the schema of an open transaction was observed.
* `movesSound_of_run` — in a run of such requests the moves of every reply can be made.
-/

namespace PgMcp

open Program Backend

/-! ### Tools -/

/-- The tool of an operation. -/
def Operation.tool : Operation → String
  | .getSchema => "get_schema"
  | .openRead => "open_read"
  | .openWrite => "open_write"
  | .query _ => "query"
  | .commit => "commit"
  | .rollback => "rollback"
  | .close => "close_database"

/-- The codes of the lifecycle checks. -/
def lifecycleCodes : List ErrorCode :=
  [.schemaRequired, .txAlreadyOpen, .noTxOpen, .txFailed, .activeTransaction, .queueFull]

/-- No control event intervenes. -/
def RequestContext.Quiet (ctx : RequestContext) : Prop :=
  ∀ n, ctx.shutdown n = false ∧ ctx.cancellation n = false ∧ ctx.clock.now n < ctx.deadline

/-- No move of the reply is refused by a lifecycle check when it is the next request. -/
def Served.MovesSound (config : Config) (l : Served) : Prop :=
  ∀ next t, Serves config l.after next t → next.env.ctx.Quiet →
    next.operation.tool ∈ (Reply.moves l.reply).map Move.tool →
    ∀ code, Reply.code next.reply = some code → code ∉ lifecycleCodes

/-! ### What is offered -/

/-- The snapshot offers the tool of an operation. -/
def PublishedHandle.Offers (p : PublishedHandle) : Operation → Prop
  | .getSchema => p.observation.transactionStatus = .idle
  | .openRead | .openWrite =>
    p.observation.transactionStatus = .idle ∧ p.schemaObserved = true
  | .query _ => p.observation.transactionStatus = .inTransaction ∧ p.observation.busy = false
  | .commit => p.observation.transactionStatus = .inTransaction
  | .rollback =>
    p.observation.transactionStatus = .inTransaction ∨ p.observation.transactionStatus = .inError
  | .close =>
    p.observation.connectionStatus ≠ .ok ∨ p.observation.transactionStatus = .unknown ∨
      p.observation.transactionStatus = .idle

/-- The tools a snapshot offers. -/
theorem tools_of_live {p : PublishedHandle} (hlive : p.closed = false) :
    p.moves.map Move.tool =
      if p.observation.connectionStatus ≠ .ok ∨ p.observation.transactionStatus = .unknown then
        ["close_database"]
      else if p.observation.busy ∨ p.observation.transactionStatus = .active then []
      else
        match p.observation.transactionStatus with
        | .inError => ["rollback"]
        | .inTransaction => ["query", "commit", "rollback"]
        | .idle =>
          if p.schemaObserved then ["open_read", "open_write", "get_schema", "close_database"]
          else ["get_schema", "close_database"]
        | .unknown | .active => [] := by
  obtain ⟨id, database, ⟨connection, status, busy⟩, observed, dirty, closed⟩ := p
  simp only at hlive
  subst hlive
  cases connection <;> cases status <;> cases busy <;> cases observed <;> rfl

theorem offers_of_moves {p : PublishedHandle} {operation : Operation}
    (h : operation.tool ∈ p.moves.map Move.tool) : p.Offers operation := by
  cases hlive : p.closed with
  | true => simp [PublishedHandle.moves_closed hlive] at h
  | false =>
    rw [tools_of_live hlive] at h
    by_cases hbad : p.observation.connectionStatus ≠ .ok ∨ p.observation.transactionStatus = .unknown
    · rw [if_pos hbad] at h
      cases operation with
      | close => exact hbad.imp_right .inl
      | getSchema | openRead | openWrite | query | commit | rollback => simp [Operation.tool] at h
    rw [if_neg hbad] at h
    by_cases hbusy : p.observation.busy = true ∨ p.observation.transactionStatus = .active
    · simp [if_pos hbusy] at h
    rw [if_neg hbusy] at h
    have hfree : p.observation.busy = false := by simpa using mt Or.inl hbusy
    cases hstatus : p.observation.transactionStatus with
    | inError | inTransaction | unknown | active =>
      simp only [hstatus] at h
      cases operation <;> simp_all [Operation.tool, PublishedHandle.Offers]
    | idle =>
      simp only [hstatus] at h
      cases hobserved : p.schemaObserved <;> simp only [hobserved] at h <;>
        cases operation <;> simp_all [Operation.tool, PublishedHandle.Offers]

/-! ### What the checks say to an offer -/

/-- An offer passes the lifecycle checks. -/
theorem precondition_of_offers {p q : PublishedHandle} {operation : Operation}
    (h : p.Offers operation) (hlive : q.closed = false)
    (hstatus : q.observation.transactionStatus = p.observation.transactionStatus)
    (hobserved : q.schemaObserved = p.schemaObserved)
    (hbad : p.observation.connectionStatus ≠ .ok → p.observation.transactionStatus = .unknown)
    (hinspected : p.observation.transactionStatus = .inTransaction → p.observation.busy = false →
      p.schemaObserved = true) :
    operationPrecondition q operation = none := by
  unfold operationPrecondition
  rw [hlive, hstatus, hobserved]
  cases operation with
  | getSchema => simp [show p.observation.transactionStatus = .idle from h]
  | openRead | openWrite =>
    obtain ⟨hidle, hobserved⟩ := h
    simp [hidle, hobserved]
  | query request =>
    obtain ⟨hopen, hbusy⟩ := h
    simp [hopen, hinspected hopen hbusy]
  | commit => simp [show p.observation.transactionStatus = .inTransaction from h]
  | rollback => rcases h with h | h <;> simp [h]
  | close =>
    -- a bad connection is published with an unknown status
    have hrest : p.observation.transactionStatus = .unknown ∨ p.observation.transactionStatus = .idle :=
      h.elim (fun hconn => .inl (hbad hconn)) id
    rcases hrest with h | h <;> simp [h, openOrFailed]

/-- A request that passes the lifecycle checks is refused for another reason. -/
theorem Worker.refusal_of_free {config : Config} {operation : Operation} {ctx : RequestContext}
    {s : Worker} {error : CoreError} (h : s.refusal config operation ctx = some error)
    (hpre : operationPrecondition s.published operation = none) : error.code ∉ lifecycleCodes := by
  unfold refusal at h
  simp only [hpre] at h
  split_ifs at h
  · cases h
    decide
  · cases h
    rw [refusalError_code]
    decide
  · cases h
    rw [refusalError_code]
    decide
  · cases hvalid : operationValidate config operation with
    | error e =>
      rw [hvalid] at h
      cases h
      cases e <;> decide
    | ok u =>
      rw [hvalid] at h
      cases h

theorem not_lifecycle_of_adapterCode {code : ErrorCode} (h : AdapterCode code) :
    code ∉ lifecycleCodes := by
  rcases h with rfl | ⟨c, rfl⟩
  · decide
  · cases c <;> decide

/-- Of the operations of the backend only a commit outside an open transaction and a close in
one are refused by a lifecycle check. -/
theorem runOperation_code {rounds : ℕ} {config : Config} {ctx : RequestContext}
    {operation : Operation} {b b' : LibpqBackend} {r : Except BackendFailure BackendResult}
    (h : (runOperation rounds config ctx operation).Returns b r b') {code : ErrorCode}
    (hcode : endCode config r = some code)
    (hcommit : operation = .commit → b.observation.transactionStatus = .inTransaction)
    (hclose : operation = .close → openOrFailed b.observation.transactionStatus = false) :
    code ∉ lifecycleCodes := by
  cases r with
  | ok result =>
    simp only [endCode] at hcode
    split at hcode
    · cases hcode
    · cases result <;> · cases hcode; decide
  | error f =>
    cases hcode
    have hlost : ErrorCode.connectionLost ∉ lifecycleCodes := by decide
    cases operation with
    | openRead | openWrite =>
      generalize hr : (Except.error f : Except BackendFailure BackendResult) = r at h
      rcases (openTransaction_post _ _).returns h with _ | ⟨rs, _, _, _, _⟩ | ⟨r, f', _, _, _, _, _, named, _⟩
      · cases hr
        exact hlost
      · cases hr
      · cases hr
        exact not_lifecycle_of_adapterCode named
    | getSchema =>
      generalize hr : (Except.error f : Except BackendFailure BackendResult) = r at h
      rcases (getSchema_post config).returns h with _ | ⟨schema, _, _, _⟩ | ⟨e, _, _, _⟩
      · cases hr
        exact hlost
      · cases hr
      · cases hr
        cases e with
        | backend e => exact not_lifecycle_of_adapterCode (adapterCode_adapterFailure e _)
        | limit => exact (by decide : ErrorCode.schemaLimit ∉ lifecycleCodes)
        | malformed => exact (by decide : ErrorCode.internal ∉ lifecycleCodes)
    | query request =>
      generalize hr : (Except.error f : Except BackendFailure BackendResult) = r at h
      rcases (Backend.query_post request config).returns h with
        _ | ⟨rs, _, _, _⟩ | ⟨e, f', unknown, _, _, _, _, _, _, named, _⟩ | ⟨e, e', _, _, _, _⟩
      · cases hr
        exact hlost
      · cases hr
      · cases hr
        rw [named]
        exact not_lifecycle_of_adapterCode (.inr ⟨e.errorClass, rfl⟩)
      · cases hr
        exact not_lifecycle_of_adapterCode (adapterCode_adapterFailure e' _)
    -- a commit outside a transaction is the one refusal of its own
    | commit =>
      generalize hr : (Except.error f : Except BackendFailure BackendResult) = r at h
      rcases commit_post.returns h with ⟨code, status, _⟩ | ⟨rs, _, _, _, _, _⟩ | ⟨r, state, _, _, _, _⟩
      · exact absurd (hcommit rfl) status
      · cases hr
      · cases hr
        exact (by decide : ErrorCode.commitOutcomeUnknown ∉ lifecycleCodes)
    | rollback =>
      generalize hr : (Except.error f : Except BackendFailure BackendResult) = r at h
      rcases rollback_post.returns h with
        _ | _ | ⟨rs, _, _, _, _, _⟩ | ⟨r, f', _, _, _, _, _, _, named, _⟩
      · cases hr
      · cases hr
        exact hlost
      · cases hr
      · cases hr
        exact not_lifecycle_of_adapterCode named
    -- and a close inside one
    | close =>
      generalize hr : (Except.error f : Except BackendFailure BackendResult) = r at h
      rcases close_post.returns h with ⟨status⟩ | _
      · rw [hclose rfl] at status
        cases status
      · cases hr

/-! ### What a request leaves behind -/

/-- The standing of the connection after the answers to the request. -/
def Served.left (l : Served) : Standing := l.before.backend.wire.standing.after l.trace

/-- How a request puts its own outcome, or that of the transaction it leaves open, in doubt. -/
inductive Served.Doubted (config : Config) (l : Served) : Prop
  /-- A query is refused because its token is cancelled or its deadline has passed. -/
  | refused (error : CoreError) (refusal : l.refusal config = some error)
      (unknown : error.outcomeUnknown = true)
  /-- A control event the operation heeds has come up by its end. -/
  | interrupted (taken : l.refusal config = none)
      (raised : (l.operation.control l.env.ctx).Raised (l.operation.control l.env.ctx).context.deadline
        l.after.backend.wire.tick)
  /-- libpq refuses single-row mode. -/
  | singleRow (refused : .singleRowRefused ∈ l.trace)
  /-- An inspection or a ROLLBACK is run on a handle whose schema is not observed. -/
  | uninspected (op : l.operation = .getSchema ∨ l.operation = .rollback)
      (taken : l.refusal config = none) (unobserved : l.before.published.schemaObserved = false)
  /-- The server completes ROLLBACK and still reports a transaction. -/
  | inside (op : l.operation = .rollback) (inside : RolledBackInside l.trace)
  /-- A commit is run. -/
  | committing (op : l.operation = .commit) (taken : l.refusal config = none)

/-- A request that leaves a transaction open, or a commit that leaves a failed one, is not in doubt. -/
def Served.Certain (config : Config) (l : Served) : Prop :=
  ∀ x, l.left = .resting x → x.status = .inTransaction ∨ l.operation = .commit ∧ x.status = .inError →
    ¬ l.Doubted config

/-- The schema of an open transaction was observed. -/
def Worker.Inspected (s : Worker) : Prop :=
  s.backend.observation.transactionStatus = .inTransaction → s.published.schemaObserved = true

/-- A status of an open or failed transaction is that of a connection at rest. -/
theorem LibpqBackend.resting_of_open {b : LibpqBackend}
    (h : openOrFailed b.observation.transactionStatus = true) :
    b.present = true ∧ ∃ x, b.wire.standing = .resting x ∧ x.status = b.observation.transactionStatus := by
  have hpresent : b.present = true := by
    refine present_of_status fun hunknown => ?_
    rw [hunknown] at h
    cases h
  refine ⟨hpresent, ?_⟩
  rw [observation_status hpresent] at h ⊢
  cases hst : b.wire.standing with
  | gone =>
    have hbad := (LibpqBackend.observation_lost (Wire.standing_gone_iff.mp hst)).2
    rw [observation_status hpresent] at hbad
    rw [hbad] at h
    cases h
  | waiting x sql =>
    rw [(Wire.standing_waiting hst).2] at h
    cases h
  | resting x => exact ⟨x, rfl, (Wire.standing_resting hst).2.symm⟩

section Serves

variable {config : Config} {s t : Worker} {l : Served}

/-- The answers to a request account for the standing after it. -/
theorem Serves.left (h : Serves config s l t) : l.left = t.backend.wire.standing := by
  obtain ⟨rounds, handled⟩ := h.handled
  obtain ⟨rfl, rfl, -⟩ := h
  unfold Served.left Served.trace
  cases handled with
  | refused error refusal conn calls =>
    rw [show l.after.backend.wire.calls = [] from calls, Standing.after_nil]
    exact (Wire.standing_congr conn).symm
  | ran r free conn calls present observation returns =>
    obtain ⟨new, hcalls, hst⟩ := runOperation_tracks returns
    rw [show _ = [] from calls, List.append_nil] at hcalls
    rw [hcalls, hst, Wire.standing_congr conn]
    rfl

/-- A commit that was answered with an unknown outcome was run. -/
theorem Served.LostCommit.taken (h : Serves config s l t) (hl : l.LostCommit) :
    l.refusal config = none := by
  obtain ⟨rounds, handled⟩ := h.handled
  obtain ⟨rfl, -⟩ := h
  cases handled with
  | refused error refusal conn calls present observation published flag =>
    obtain ⟨⟨request, hop⟩, -⟩ := Worker.refusal_unknown refusal (flag.symm.trans hl.2)
    rw [hl.1] at hop
    cases hop
  | ran r free => exact free

/-- A commit that leaves a transaction open is certain to be answered. -/
theorem Served.Certain.closable (h : Serves config s l t) (hl : l.Certain config) (hlost : l.LostCommit) :
    openOrFailed t.backend.observation.transactionStatus = false := by
  by_contra hopen
  rw [Bool.not_eq_false] at hopen
  obtain ⟨-, x, hx, hstatus⟩ := LibpqBackend.resting_of_open hopen
  -- the open transaction would put the commit among the requests in doubt
  refine hl x (h.left.trans hx) ?_ (.committing hlost.1 (hlost.taken h))
  rw [hstatus]
  cases hcase : t.backend.observation.transactionStatus with
  | inTransaction => exact .inl rfl
  | inError => exact .inr ⟨hlost.1, rfl⟩
  | idle | active | unknown =>
    rw [hcase] at hopen
    cases hopen

/-- A transaction is only opened, and a query only run in it, after an inspection. -/
theorem observed_of_precondition {p : PublishedHandle} {operation : Operation}
    (h : operationPrecondition p operation = none)
    (hop : operation = .openRead ∨ operation = .openWrite ∨ ∃ request, operation = .query request) :
    p.schemaObserved = true := by
  unfold operationPrecondition at h
  by_cases hclosed : p.closed = true
  · obtain rfl | rfl | ⟨request, rfl⟩ := hop <;> simp [hclosed] at h
  cases hobserved : p.schemaObserved with
  | true => rfl
  | false =>
    obtain rfl | rfl | ⟨request, rfl⟩ := hop <;> simp [hclosed, hobserved] at h

/-- An operation that leaves a transaction open, not in doubt, leaves the schema observed. -/
theorem record_inspected {rounds : ℕ} {operation : Operation} {ctx : RequestContext} {b b' : LibpqBackend}
    {r : Except BackendFailure BackendResult} {p : PublishedHandle}
    (h : (runOperation rounds config ctx operation).Returns b r b') (hop : operation ≠ .commit)
    (hopen : b'.observation.transactionStatus = .inTransaction)
    (hpre : operationPrecondition p operation = none)
    (hbefore : b.observation.transactionStatus = .inTransaction → p.schemaObserved = true)
    (hinspected : operation = .getSchema ∨ operation = .rollback → p.schemaObserved = true) :
    (p.record config r).schemaObserved = true := by
  cases operation with
  | commit => exact absurd rfl hop
  | openRead | openWrite =>
    have hobserved := observed_of_precondition hpre (by simp)
    rcases (openTransaction_post _ _).returns h with _ | _ | _ <;> exact hobserved
  | query request =>
    have hobserved := observed_of_precondition hpre (by simp)
    rcases (Backend.query_post request config).returns h with _ | ⟨rs, _, _, _⟩ | _ | _
    · exact hobserved
    · simp only [PublishedHandle.record]
      split
      · split <;> exact hobserved
      · exact hobserved
    · exact hobserved
    · exact hobserved
  -- a schema that is retrieved is recorded as observed; a failure records nothing
  | getSchema =>
    have hobserved := hinspected (.inl rfl)
    rcases (getSchema_post config).returns h with _ | ⟨schema, _, _, _⟩ | _
    · exact hobserved
    · simp only [PublishedHandle.record]
      split
      · rfl
      · exact hobserved
    · exact hobserved
  | rollback =>
    have hobserved := hinspected (.inr rfl)
    rcases rollback_post.returns h with _ | _ | _ | _ <;> exact hobserved
  | close =>
    rcases close_post.returns h with _ | _
    -- a refused close leaves the backend as it was
    · exact hbefore hopen
    · cases hopen

/-- After a request that is not in doubt the schema of an open transaction was observed. -/
theorem Serves.inspected (h : Serves config s l t) (hl : l.Certain config)
    (hs : s.Inspected) : t.Inspected := by
  intro hopen
  obtain ⟨hpresent, x, hx, hstatus⟩ := LibpqBackend.resting_of_open (b := t.backend) (by rw [hopen]; rfl)
  have hsure : ¬ l.Doubted config := hl x (h.left.trans hx) (.inl (hstatus.trans hopen))
  obtain ⟨rounds, handled⟩ := h.handled
  obtain ⟨rfl, rfl, -⟩ := h
  cases handled with
  | refused error refusal conn calls present observation published =>
    rw [published]
    cases hunknown : error.outcomeUnknown with
    | false => exact hs ((congrArg _ observation).symm.trans hopen)
    | true => exact absurd (.refused error refusal hunknown) hsure
  | @ran b _ _ r free conn calls present observation returns published =>
    have hop : l.operation ≠ .commit := fun hop => hsure (.committing hop free)
    rw [published]
    -- an unknown outcome withdraws the observation
    cases hunknown : leavesUnknown r with
    | false =>
      refine record_inspected returns hop hopen (Worker.precondition_of_refusal free) ?_ ?_
      · exact fun hbefore => hs ((congrArg _ observation).symm.trans hbefore)
      · intro hop
        by_contra hunobserved
        exact hsure (.uninspected hop free ((Bool.not_eq_true _).mp hunobserved))
    | true =>
      rw [observation_status hpresent] at hopen
      rcases runOperation_doubtful returns hpresent hunknown hop hopen with
        (hrest | hraised | hrefused) | ⟨hop, hinside⟩
      · exact absurd hx (hrest x)
      · exact absurd (.interrupted free hraised) hsure
      · exact absurd (.singleRow hrefused) hsure
      · exact absurd (.inside hop hinside) hsure

end Serves

/-! ### Replies -/

section Replies

variable {config : Config} {s t : Worker} {l : Served}

/-- A bad connection is published with an unknown status. -/
theorem Serves.published_bad (h : Serves config s l t)
    (hbad : t.published.observation.connectionStatus ≠ .ok) :
    t.published.observation.transactionStatus = .unknown := by
  by_cases hlost : l.LostCommit
  · rw [(h.published_lost hlost).1]
  · have hagree := h.observation hlost
    rw [hagree] at hbad ⊢
    exact LibpqBackend.observation_bad hbad

/-- A reply carries the snapshot that is published when it is sent, and its moves. -/
theorem Serves.shown (inRange : config.InRange) (h : Serves config s l t) :
    Reply.handleState l.reply = some t.published.state ∧ Reply.moves l.reply = t.published.moves := by
  obtain ⟨rounds, handled⟩ := h.handled
  cases handled with
  | refused error refusal conn calls present observation published flag coded failed moves state =>
    exact ⟨state, moves⟩
  | ran r free conn calls present observation returns published flag coded succeeded moves failed state =>
    rw [runOperation_fits inRange returns] at moves state
    exact ⟨state, moves⟩

/-- An open transaction is published as what it is: its schema was observed. -/
theorem Serves.published_inspected (h : Serves config s l t) (ht : t.Inspected)
    (hopen : t.published.observation.transactionStatus = .inTransaction) :
    t.published.schemaObserved = true := by
  by_cases hlost : l.LostCommit
  · rw [(h.published_lost hlost).1] at hopen
    cases hopen
  · refine ht ?_
    rw [← h.observation hlost]
    exact hopen

/-- The moves of a reply can be made when the request is not in doubt, and an open transaction was
inspected. -/
theorem Serves.movesSound (inRange : config.InRange) (step : Serves config s l t) (hl : l.Certain config)
    (ht : t.Inspected) : l.MovesSound config := by
  obtain ⟨-, hafter, -⟩ := id step
  intro next u hnext _ hoffer code hcode
  rw [(step.shown inRange).2] at hoffer
  have hoffers := offers_of_moves hoffer
  obtain ⟨rounds, handled⟩ := hnext.handled
  obtain ⟨-, -, hlive, -⟩ := hnext
  rw [hafter] at hlive handled
  have hpre : operationPrecondition t.published next.operation = none :=
    precondition_of_offers hoffers hlive rfl rfl step.published_bad fun hopen _ =>
      step.published_inspected ht hopen
  cases handled with
  | refused error refusal conn calls present observation published flag coded failed moves =>
    rw [coded] at hcode
    cases hcode
    exact Worker.refusal_of_free refusal hpre
  | ran r free conn calls present observation returns published flag coded succeeded moves failed =>
    rw [coded] at hcode
    -- commit and close look at the native status too
    refine runOperation_code returns hcode (fun hop => ?_) fun hop => ?_
    · have hopen : t.published.observation.transactionStatus = .inTransaction := by
        rw [hop] at hoffers
        exact hoffers
      by_cases hlost : l.LostCommit
      · rw [(step.published_lost hlost).1] at hopen
        cases hopen
      · rw [observation]
        exact (congrArg _ (step.observation hlost)).symm.trans hopen
    · rw [observation]
      by_cases hlost : l.LostCommit
      · exact hl.closable (t := t) step hlost
      · have hrest : t.published.observation.transactionStatus = .unknown ∨
            t.published.observation.transactionStatus = .idle := by
          rw [hop] at hoffers
          exact hoffers.elim (fun hconn => .inl (step.published_bad hconn)) id
        have hnative : t.backend.observation.transactionStatus =
            t.published.observation.transactionStatus :=
          (congrArg _ (step.observation hlost)).symm
        show openOrFailed t.backend.observation.transactionStatus = false
        rw [hnative]
        rcases hrest with h | h <;> simp [h, openOrFailed]

end Replies

theorem Worker.Fresh.inspected {s : Worker} (fresh : s.Fresh) : s.Inspected := by
  intro hopen
  rw [observation_status fresh.present, fresh.idle] at hopen
  cases hopen

/-- In a run whose requests are not in doubt the moves of every reply can be made. -/
theorem movesSound_of_run {config : Config} (inRange : config.InRange) {s₀ t : Worker}
    {ls : List Served} (fresh : s₀.Fresh) (run : Run (Serves config) s₀ ls t)
    (certain : ∀ l ∈ ls, l.Certain config) : ∀ l ∈ ls, l.MovesSound config := by
  intro l hl
  obtain ⟨earlier, later, s, s', hls, earlierRun, last, -⟩ := run.mem_step hl
  -- the snapshot before the request, by the requests before it
  have hs : s.Inspected :=
    earlierRun.invariant (I := Worker.Inspected) (G := fun l => l.Certain config)
      (fun _ _ _ hs hl hstep => hstep.inspected hl hs)
      (fun l hmem => certain l (by rw [hls]; exact List.mem_append_left _ hmem)) fresh.inspected
  exact last.movesSound inRange (certain l hl) (last.inspected (certain l hl) hs)

/-- A request that leaves no transaction open is not in doubt. -/
theorem Served.certain_of_idle {config : Config} {l : Served} (h : l.left = .resting .idle) :
    l.Certain config := by
  intro x hx hstatus
  rw [h] at hx
  cases hx
  rcases hstatus with hstatus | ⟨-, hstatus⟩ <;> cases hstatus

/-- No control event comes up in a calm request before its deadline. -/
theorem Environment.raised_calm {scripts : List Script} {n : ℕ}
    (h : (PollControl.libpq (Environment.calm scripts).ctx).Raised 1000 n) : 1000 ≤ n := by
  rcases h with h | (h | h) | h
  · cases h
  · cases h
  · exact h
  · exact h

/-- A transaction after an inspection: BEGIN is answered without an event, and a query is offered. -/
theorem movesSound_of_run_committed : ∃ first l₁ l₂ t, Run (Serves .default) .opened [first, l₁, l₂] t ∧
    "query" ∈ (Reply.moves l₁.reply).map Move.tool ∧
    ∀ l ∈ [first, l₁, l₂], l.MovesSound .default := by
  obtain ⟨ls, t, hls, henv, run⟩ := exists_play 3 .default (s := .inspected)
    [(.commit, .calm [.completed "COMMIT" true .idle]),
      (.openRead, .calm [.completed "BEGIN" false .inTransaction])]
    (p := fun played => played.1.length == 2 && (played.1.head?.any (fun l : Served =>
      (l.refusal .default).isNone && decide (l.after.backend.wire.tick < 1000) &&
        !l.trace.contains .singleRowRefused && ((Reply.moves l.reply).map Move.tool).contains "query") &&
      played.1.getLast?.any fun l : Served => l.left == .resting .idle))
    (by decide +kernel)
  rw [Bool.and_eq_true, beq_iff_eq] at hls
  obtain ⟨l₁, l₂, rfl⟩ := List.length_eq_two.mp hls.1
  simp only [List.head?_cons, List.getLast?_cons_cons, List.getLast?_singleton, Option.any_some,
    Bool.and_eq_true, beq_iff_eq, Option.isNone_iff_eq_none, decide_eq_true_eq, Bool.not_eq_true',
    List.contains_eq_mem, decide_eq_false_iff_not] at hls
  simp only [List.map_cons, List.map_nil, List.reverse_cons, List.reverse_nil, List.nil_append,
    List.singleton_append, List.cons.injEq, Prod.mk.injEq, and_true] at henv
  obtain ⟨-, ⟨⟨⟨htaken, htick⟩, hrow⟩, hoffers⟩, hidle⟩ := hls
  obtain ⟨⟨hop, henv⟩, -⟩ := henv
  have hstart : l₁.before = .inspected := by
    obtain ⟨s, ⟨hstart, -⟩, -⟩ := run.cons_inv
    exact hstart
  -- the inspection that leaves the handle as the played run finds it
  obtain ⟨first, before, hbefore, run⟩ := inspected_run run
  have hfirst : first.left = .resting .idle := by
    obtain ⟨s, step, rest⟩ := run.cons_inv
    obtain ⟨s', ⟨hs, -⟩, -⟩ := rest.cons_inv
    have hwire := congrArg (fun s => s.backend.wire.standing) (hbefore l₁.env)
    rw [step.left, ← hs]
    exact hwire
  have hopened : ({ l₁ with before := before } : Served).Certain .default := by
    rintro x - - hdoubt
    cases hdoubt with
    | refused error refusal =>
      rw [Served.refusal, hstart, ← hbefore] at htaken
      rw [Served.refusal, htaken] at refusal
      cases refusal
    | interrupted taken raised =>
      rw [hop, henv] at raised
      have hlate : 1000 ≤ l₁.after.backend.wire.tick := Environment.raised_calm raised
      omega
    | singleRow refused => exact hrow refused
    | uninspected op => simp [hop] at op
    | inside op => simp [hop] at op
    | committing op => simp [hop] at op
  refine ⟨first, _, l₂, t, run, hoffers,
    movesSound_of_run Config.default_inRange Worker.opened_fresh run ?_⟩
  intro l hl
  simp only [List.mem_cons, List.not_mem_nil, or_false] at hl
  rcases hl with rfl | rfl | rfl
  · exact Served.certain_of_idle hfirst
  · exact hopened
  · exact Served.certain_of_idle hidle

/-- After a cancelled inspection a query is offered, and refused. -/
theorem moves_offer_query_unobserved :
    ¬ ∀ (config : Config) (s₀ t : Worker) (ls : List Served) (l : Served), s₀.Fresh →
      Run (Serves config) s₀ (ls ++ [l]) t → l.MovesSound config := by
  intro h
  obtain ⟨ls, t, hls, henv, run⟩ := exists_play 3 .default (s := .opened)
    [(.query { sql := "SELECT 1", parameters := [] }, .still []), (.getSchema, .cancelledAtBegin)]
    (p := fun played => played.1.length == 2 &&
      (played.1.head?.any (fun l => (Reply.moves l.reply).any (·.tool == "query")) &&
      played.1.getLast?.any fun l => Reply.code l.reply == some .schemaRequired))
    (by decide +kernel)
  rw [Bool.and_eq_true, beq_iff_eq] at hls
  obtain ⟨l₁, l₂, rfl⟩ := List.length_eq_two.mp hls.1
  simp only [List.head?_cons, List.getLast?_cons_cons, List.getLast?_singleton, Option.any_some,
    Bool.and_eq_true, beq_iff_eq, List.any_eq_true] at hls
  obtain ⟨-, ⟨move, hmove, htool⟩, hcode⟩ := hls
  simp only [List.map_cons, List.map_nil, List.reverse_cons, List.reverse_nil, List.nil_append,
    List.singleton_append, List.cons.injEq, Prod.mk.injEq, and_true] at henv
  obtain ⟨-, hop, henv⟩ := henv
  obtain ⟨s, step₁, rest⟩ := run.cons_inv
  obtain ⟨t', step₂, -⟩ := rest.cons_inv
  have hfirst := h .default _ _ [] l₁ Worker.opened_fresh (.single step₁)
  obtain ⟨-, rfl, -⟩ := step₁
  -- the second request meets no event, and its tool is among the moves
  refine hfirst l₂ t' step₂ ?_ ?_ _ hcode (by decide)
  · rw [henv]
    exact fun n => ⟨rfl, rfl, Nat.one_pos⟩
  · rw [hop]
    exact List.mem_map.mpr ⟨move, hmove, htool⟩

end PgMcp
