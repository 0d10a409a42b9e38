import PgMcp.Worker.Requests

/-!
# What a request publishes

A request is refused before the backend is called, or the backend runs its operation.
Either way the snapshot published afterwards is a function of the snapshot before and of
how the operation ended, with the native observation of the moment of publication.

## Main definitions

* `PublishedHandle.record` — the snapshot before the final observation.
* `Handled` — how a request ends.

## Main results

* `serve_post` — every request ends as `Handled` says.
-/

namespace PgMcp

open Program

/-! ### Replies -/

/-- The error code of a reply. -/
def Reply.code : Reply → Option ErrorCode
  | .ok envelope => envelope.error.map ErrorPayload.code
  | .error failure => some failure.error.code

/-- The reply carries a result. -/
def Reply.succeeded : Reply → Bool
  | .ok envelope => envelope.result.isSome
  | .error _ => false

/-- The moves a snapshot recommends. -/
def PublishedHandle.moves (p : PublishedHandle) : List Move := movesOf (some p.state)

/-- The moves a reply carries; the tool layer adds those of its snapshot to a failure. -/
def Reply.moves : Reply → List Move
  | .ok envelope => envelope.nextMoves
  | .error failure => movesOf failure.handleState

/-- The snapshot a reply carries. -/
def Reply.handleState : Reply → Option HandleState
  | .ok envelope => envelope.handleState
  | .error failure => failure.handleState

/-- Nothing is recommended once the handle is closed. -/
theorem PublishedHandle.moves_closed {p : PublishedHandle} (h : p.closed = true) : p.moves = [] := by
  simp only [moves, movesOf, Option.map_some, Option.getD_some, nextMoves, movesForState, state, h,
    if_true, HandleState.new]
  split <;> rfl

/-- A validation has found nothing to reject. -/
def accepted {ε : Type} : Except ε Unit → Bool
  | .ok () => true
  | .error _ => false

/-- The schema or the query result a backend returned fits the limits of the handle. -/
def BackendResult.fits (config : Config) : BackendResult → Bool
  | .schema result _ => accepted (result.validate config)
  | .query result _ _ => accepted (result.validate config)
  | .closed _ cleanupVerified => cleanupVerified
  | _ => true

/-- The reply to an operation that ended with `r` says that the outcome is unknown. -/
def leavesUnknown : Except BackendFailure BackendResult → Bool
  | .ok (.closed _ cleanupVerified) => !cleanupVerified
  | .ok _ => false
  | .error f => f.outcomeUnknown || f.error.outcomeUnknown

/-- The reply to an operation that ended with `r` carries a result. -/
def endSucceeded (config : Config) : Except BackendFailure BackendResult → Bool
  | .ok result => result.fits config
  | .error _ => false

/-- The result a reply carries. -/
def Reply.result : Reply → Option Json
  | .ok envelope => envelope.result
  | .error _ => none

/-- The result of a successful operation, as the reply carries it. -/
def BackendResult.toJson : BackendResult → Json
  | .opened mode _ => .obj [("opened", .str mode)]
  | .schema result _ => result.toJson
  | .query result _ _ => result.toJson
  | .committed _ => .obj [("committed", .bool true)]
  | .rolledBack changed _ => .obj [("rolled_back", .bool changed)]
  | .closed _ _ => .obj [("disposed", .bool true), ("cleanup_verified", .bool true),
      ("transaction_outcome", .null)]

/-- The result in the reply to an operation that ended with `r`. -/
def endResult (config : Config) : Except BackendFailure BackendResult → Option Json
  | .ok result => if result.fits config then some result.toJson else none
  | .error _ => none

/-- The error code of the reply to an operation that ended with `r`. -/
def endCode (config : Config) : Except BackendFailure BackendResult → Option ErrorCode
  | .ok result =>
    if result.fits config then none
    else
      match result with
      | .schema _ _ => some .schemaLimit
      | .closed _ _ => some .cleanupUncertain
      | _ => some .resultLimit
  | .error f => some f.error.code

/-- The result of an operation that ended with `r` was rejected: the reply is made before
anything of it is published. -/
def outgrown (config : Config) : Except BackendFailure BackendResult → Bool
  | .ok result => !result.fits config
  | .error _ => false

/-- The snapshot after an operation that ended with `r`, before the final observation. -/
def PublishedHandle.record (config : Config) (p : PublishedHandle) :
    Except BackendFailure BackendResult → PublishedHandle
  | .ok (.opened _ observation) => p.updateObservation observation none
  | .ok (.schema schema observation) =>
    if (BackendResult.schema schema observation).fits config then
      (p.updateObservation observation (some true)).updateSchemaDirty false
    else p
  | .ok (.query query observation directDdl) =>
    if (BackendResult.query query observation directDdl).fits config then
      (if directDdl then p.updateSchemaDirty true else p).updateObservation observation none
    else p
  | .ok (.committed observation) =>
    (p.updateObservation observation (if p.schemaDirty then some false else none)).updateSchemaDirty
      false
  | .ok (.rolledBack _ observation) =>
    (p.updateObservation observation none).updateSchemaDirty false
  | .ok (.closed observation cleanupVerified) =>
    let p := p.updateObservation observation (some false)
    if cleanupVerified then p.publishClosed else p
  | .error f => p.updateObservation f.observation none

/-- What publishing the end `r` of an operation makes of the worker, and the reply. -/
structure Published (config : Config) (r : Except BackendFailure BackendResult) (before : Worker)
    (reply : Reply) (after : Worker) : Prop where
  backend : after.backend = before.backend
  published : after.published = before.published.record config r
  unknown : reply.outcomeUnknown = leavesUnknown r
  code : reply.code = endCode config r
  succeeded : reply.succeeded = endSucceeded config r
  moves : reply.moves = after.published.moves
  failed : reply.isOk = !outgrown config r
  state : reply.handleState = some after.published.state
  result : reply.result = endResult config r

theorem publishFailure_post (config : Config) (f : BackendFailure) (s : Worker) :
    (publishFailure f).Post s (Published config (.error f) s) := by
  simp only [publishFailure, publish, post_bind, post_update, andThen_ok, post_read]
  exact ⟨rfl, rfl, by simp [Reply.outcomeUnknown, leavesUnknown],
    by simp [Reply.code, endCode], rfl, rfl, rfl, rfl, rfl⟩

theorem publishResult_post (config : Config) (result : BackendResult) (s : Worker) :
    (publishResult config result).Post s (Published config (.ok result) s) := by
  cases result with
  | opened mode observation =>
    simp only [publishResult, publish, successEnvelope, post_bind, post_update, andThen_ok,
      post_read]
    exact ⟨rfl, rfl, rfl, rfl, rfl, rfl, rfl, rfl, rfl⟩
  | schema schema observation =>
    simp only [publishResult]
    cases h : schema.validate config with
    | error e =>
      have hfits : (BackendResult.schema schema observation).fits config = false := by
        simp [BackendResult.fits, h, accepted]
      simp only [failForHandle, post_bind, post_read, andThen_ok, post_fail]
      exact ⟨rfl, by simp [PublishedHandle.record, hfits], rfl, by simp [endCode, hfits]; rfl,
        hfits.symm, rfl, by rw [outgrown, hfits]; rfl, rfl, by simp [endResult, hfits]; rfl⟩
    | ok u =>
      have hfits : (BackendResult.schema schema observation).fits config = true := by
        simp [BackendResult.fits, h, accepted]
      simp only [publish, successEnvelope, post_bind, post_update, andThen_ok, post_read]
      exact ⟨rfl, by simp [PublishedHandle.record, hfits], rfl, by simp [endCode, hfits]; rfl,
        hfits.symm, rfl, by rw [outgrown, hfits]; rfl, rfl, by simp [endResult, hfits]; rfl⟩
  | query query observation directDdl =>
    simp only [publishResult]
    cases h : query.validate config with
    | error e =>
      have hfits : (BackendResult.query query observation directDdl).fits config = false := by
        simp [BackendResult.fits, h, accepted]
      simp only [failForHandle, post_bind, post_read, andThen_ok, post_fail]
      exact ⟨rfl, by simp [PublishedHandle.record, hfits], rfl, by simp [endCode, hfits]; rfl,
        hfits.symm, rfl, by rw [outgrown, hfits]; rfl, rfl, by simp [endResult, hfits]; rfl⟩
    | ok u =>
      have hfits : (BackendResult.query query observation directDdl).fits config = true := by
        simp [BackendResult.fits, h, accepted]
      simp only [publish, successEnvelope, post_bind, post_update, andThen_ok, post_read]
      exact ⟨rfl, by simp [PublishedHandle.record, hfits], rfl, by simp [endCode, hfits]; rfl,
        hfits.symm, rfl, by rw [outgrown, hfits]; rfl, rfl, by simp [endResult, hfits]; rfl⟩
  | committed observation =>
    simp only [publishResult, publish, successEnvelope, post_bind, post_update, andThen_ok,
      post_read]
    exact ⟨rfl, rfl, rfl, rfl, rfl, rfl, rfl, rfl, rfl⟩
  | rolledBack changed observation =>
    simp only [publishResult, publish, successEnvelope, post_bind, post_update, andThen_ok,
      post_read]
    exact ⟨rfl, rfl, rfl, rfl, rfl, rfl, rfl, rfl, rfl⟩
  | closed observation cleanupVerified =>
    simp only [publishResult, publish, post_bind, post_update, andThen_ok]
    cases cleanupVerified with
    | true =>
      simp only [if_true, post_bind, post_update, andThen_ok, post_read, post_pure]
      exact ⟨rfl, rfl, rfl, rfl, rfl, (PublishedHandle.moves_closed rfl).symm, rfl, rfl, rfl⟩
    | false =>
      simp only [Bool.false_eq_true, if_false, failForHandle, post_bind, post_read, andThen_ok,
        post_fail]
      exact ⟨rfl, rfl, rfl, rfl, rfl, rfl, rfl, rfl, rfl⟩

/-! ### Requests -/

/-- Only the number of control reads of the worker's backend has grown. -/
def Worker.Ticked (s t : Worker) : Prop := ∃ n, t =
  { s with backend := { s.backend with wire := { s.backend.wire with tick := s.backend.wire.tick + n } } }

theorem Worker.Ticked.refl (s : Worker) : s.Ticked s := ⟨0, rfl⟩

theorem Worker.Ticked.trans {s t u : Worker} (h : s.Ticked t) (h' : t.Ticked u) : s.Ticked u := by
  obtain ⟨m, rfl⟩ := h
  obtain ⟨n, rfl⟩ := h'
  exact ⟨m + n, by simp [Nat.add_assoc]⟩

@[simp] theorem Worker.Ticked.published {s t : Worker} (h : s.Ticked t) :
    t.published = s.published := by
  obtain ⟨n, rfl⟩ := h
  rfl

@[simp] theorem Worker.Ticked.conn {s t : Worker} (h : s.Ticked t) :
    t.backend.wire.conn = s.backend.wire.conn := by
  obtain ⟨n, rfl⟩ := h
  rfl

@[simp] theorem Worker.Ticked.calls {s t : Worker} (h : s.Ticked t) :
    t.backend.wire.calls = s.backend.wire.calls := by
  obtain ⟨n, rfl⟩ := h
  rfl

@[simp] theorem Worker.Ticked.present {s t : Worker} (h : s.Ticked t) :
    t.backend.present = s.backend.present := by
  obtain ⟨n, rfl⟩ := h
  rfl

@[simp] theorem Worker.Ticked.observation {s t : Worker} (h : s.Ticked t) :
    t.backend.observation = s.backend.observation := by
  obtain ⟨n, rfl⟩ := h
  rfl

/-- A control read of the worker. -/
theorem control_post {ε α : Type} {x : Program Wire ε α} {Q : Except ε α → Worker → Prop} {s : Worker}
    (hx : x.Post s.backend.wire fun r w => PgMcp.Ticked s.backend.wire w ∧
      ∀ t, s.Ticked t → t.backend.wire = w → Q r t) : (control x).Post s Q := by
  simp only [control, post_zoom]
  refine hx.mono ?_
  rintro r w ⟨⟨n, rfl⟩, h⟩
  exact h _ ⟨n, rfl⟩ rfl

/-- The codes a request is refused with before the backend is called. -/
def refusalCodes : List ErrorCode :=
  [.handleUnknown, .txAlreadyOpen, .schemaRequired, .txFailed, .queueFull, .noTxOpen,
    .connectionLost, .activeTransaction, .serverStopping, .cancelled, .deadlineExceeded,
    .invalidInput, .schemaLimit, .resultLimit]

/-- The error a request is refused with before the backend is called. -/
def Worker.refusal (config : Config) (operation : Operation) (ctx : RequestContext) (s : Worker) :
    Option CoreError :=
  let tick := s.backend.wire.tick
  match operationPrecondition s.published operation with
  | some error => some error
  | none =>
    if ctx.shutdown tick then some (coreError .serverStopping)
    else if ctx.cancellation (tick + 1) then some (refusalError operation .cancelled)
    else if ctx.deadline ≤ ctx.clock.now (tick + 2) then
      some (refusalError operation .deadlineExceeded)
    else
      match operationValidate config operation with
      | .error error => some (coreError (errorCodeForValidation error))
      | .ok () => none

/-- The lifecycle checks refuse with a known outcome. -/
theorem precondition_known {p : PublishedHandle} {operation : Operation} {error : CoreError}
    (h : operationPrecondition p operation = some error) :
    error.code ∈ refusalCodes ∧ error.outcomeUnknown = false := by
  unfold operationPrecondition at h
  cases operation with
  | query request =>
    cases hstatus : p.observation.transactionStatus <;> simp only [hstatus] at h <;>
      split_ifs at h <;> cases h <;> exact ⟨by decide, rfl⟩
  | commit =>
    cases hstatus : p.observation.transactionStatus <;> simp only [hstatus] at h <;>
      split_ifs at h <;> cases h <;> exact ⟨by decide, rfl⟩
  | getSchema | openRead | openWrite | rollback | close =>
    simp only at h
    split_ifs at h <;> cases h <;> exact ⟨by decide, rfl⟩

theorem validation_code (e : ValidationError) : errorCodeForValidation e ∈ refusalCodes := by
  cases e <;> decide

theorem refusalError_code (operation : Operation) (code : ErrorCode) :
    (refusalError operation code).code = code := by
  cases operation <;> rfl

namespace Worker

variable {config : Config} {operation : Operation} {ctx : RequestContext} {s : Worker}

theorem refusal_code {error : CoreError} (h : s.refusal config operation ctx = some error) :
    error.code ∈ refusalCodes := by
  unfold refusal at h
  cases hpre : operationPrecondition s.published operation with
  | some e =>
    simp only [hpre] at h
    cases h
    exact (precondition_known hpre).1
  | none =>
    simp only [hpre] at h
    split_ifs at h
    · cases h
      decide
    · cases h
      rw [refusalError_code]
      decide
    · cases h
      rw [refusalError_code]
      decide
    · cases hvalid : operationValidate config operation with
      | error e =>
        rw [hvalid] at h
        cases h
        exact validation_code e
      | ok u =>
        rw [hvalid] at h
        cases h

/-- Only a query that passes the lifecycle checks is refused with an unknown outcome. -/
theorem refusal_unknown {error : CoreError} (h : s.refusal config operation ctx = some error)
    (hunknown : error.outcomeUnknown = true) :
    (∃ request, operation = .query request) ∧ operationPrecondition s.published operation = none := by
  unfold refusal at h
  cases hpre : operationPrecondition s.published operation with
  | some e =>
    simp only [hpre] at h
    cases h
    rw [(precondition_known hpre).2] at hunknown
    cases hunknown
  | none =>
    refine ⟨?_, rfl⟩
    cases operation with
    | query request => exact ⟨request, rfl⟩
    | getSchema | openRead | openWrite | commit | rollback | close =>
      simp only [hpre, refusalError, operationValidate] at h
      split_ifs at h <;> cases h <;> cases hunknown

/-- A request that is not refused has passed the lifecycle checks. -/
theorem precondition_of_refusal (h : s.refusal config operation ctx = none) :
    operationPrecondition s.published operation = none := by
  unfold refusal at h
  cases hpre : operationPrecondition s.published operation with
  | some e =>
    simp only [hpre] at h
    cases h
  | none => rfl

end Worker

/-- How executing an operation ends: it is refused, or its end is published. -/
inductive Executed (rounds : ℕ) (config : Config) (operation : Operation) (ctx : RequestContext)
    (s : Worker) : Reply → Worker → Prop
  | refused {t : Worker} (error : CoreError) (ticked : s.Ticked t)
      (refusal : s.refusal config operation ctx = some error) :
      Executed rounds config operation ctx s
        (.ok (errorEnvelope t.currentState error error.outcomeUnknown)) t
  | ran {t u v : Worker} {reply : Reply} (r : Except BackendFailure BackendResult)
      (free : s.refusal config operation ctx = none) (ticked : s.Ticked t)
      (returns : (runOperation rounds config ctx operation).Returns t.backend r u.backend)
      (same : u.published = s.published) (published : Published config r u reply v) :
      Executed rounds config operation ctx s reply v

/-- A request is refused, or its operation runs and its end is published. -/
theorem executeOperation_post (rounds : ℕ) (config : Config) (operation : Operation)
    (ctx : RequestContext) (s : Worker) :
    (executeOperation rounds config operation ctx).Post s (Executed rounds config operation ctx s) := by
  -- all refusals have one form; the checks before them decide which it is
  have refused : ∀ {t : Worker} {error : CoreError}, s.Ticked t →
      s.refusal config operation ctx = some error →
      (errorEnvelopeFor error : WorkerM Envelope).Post t
        (Executed rounds config operation ctx s) := by
    intro t error ht hrefusal
    simp only [errorEnvelopeFor, post_read]
    exact .refused error ht hrefusal
  simp only [executeOperation, post_bind, post_read, andThen_ok]
  cases hpre : operationPrecondition s.published operation with
  | some error => exact refused (.refl s) (by simp [Worker.refusal, hpre])
  | none =>
    simp only [post_bind]
    refine control_post ?_
    simp only [RequestContext.stopping, post_act]
    refine ⟨⟨1, rfl⟩, fun t ht hw => ?_⟩
    simp only [andThen_ok]
    cases hstop : ctx.shutdown s.backend.wire.tick with
    | true => exact refused ht (by simp [Worker.refusal, hpre, hstop])
    -- the reads of the flags move the tick, and nothing else
    | false =>
    simp only [Bool.false_eq_true, if_false, post_bind]
    refine control_post ?_
    simp only [RequestContext.cancelled, post_act]
    refine ⟨⟨1, rfl⟩, fun t₂ ht₂ hw₂ => ?_⟩
    simp only [andThen_ok, hw]
    cases hcancel : ctx.cancellation (s.backend.wire.tick + 1) with
    | true => exact refused (ht.trans ht₂) (by simp [Worker.refusal, hpre, hstop, hcancel])
    | false =>
    simp only [Bool.false_eq_true, if_false, post_bind]
    refine control_post ?_
    simp only [RequestContext.expired, Clock.read, post_bind, post_act, andThen_ok, post_pure]
    refine ⟨⟨1, rfl⟩, fun t₃ ht₃ _ => ?_⟩
    have hticked := (ht.trans ht₂).trans ht₃
    simp only [hw₂, hw, decide_eq_true_eq]
    by_cases hexpired : ctx.deadline ≤ ctx.clock.now (s.backend.wire.tick + 1 + 1)
    · rw [if_pos hexpired]
      exact refused hticked (by simp [Worker.refusal, hpre, hstop, hcancel, hexpired])
    rw [if_neg hexpired]
    cases hvalid : operationValidate config operation with
    | error e =>
      exact refused hticked (by simp [Worker.refusal, hpre, hstop, hcancel, hexpired, hvalid])
    | ok u =>
      have hfree : s.refusal config operation ctx = none := by
        simp [Worker.refusal, hpre, hstop, hcancel, hexpired, hvalid]
      simp only [onBackend, post_bind, post_attempt, post_zoom]
      refine post_iff.mpr fun r b hr => ?_
      cases r with
      | ok result =>
        simp only [andThen_ok]
        exact (publishResult_post config result _).mono fun reply v h =>
          .ran (u := { t₃ with backend := b }) (.ok result) hfree hticked hr hticked.published h
      | error f =>
        simp only [andThen_ok]
        exact (publishFailure_post config f _).mono fun reply v h =>
          .ran (u := { t₃ with backend := b }) (.error f) hfree hticked hr hticked.published h

/-- How a request ends. -/
inductive Handled (rounds : ℕ) (config : Config) (operation : Operation) (ctx : RequestContext)
    (s : Worker) : Reply → Worker → Prop
  /-- The backend is not called. -/
  | refused {t : Worker} {reply : Reply} (error : CoreError)
      (refusal : s.refusal config operation ctx = some error)
      (conn : t.backend.wire.conn = s.backend.wire.conn)
      (calls : t.backend.wire.calls = s.backend.wire.calls)
      (present : t.backend.present = s.backend.present)
      (observation : t.backend.observation = s.backend.observation)
      (published : t.published =
        settle operation error.outcomeUnknown s.backend.observation s.published)
      (flag : reply.outcomeUnknown = error.outcomeUnknown) (coded : reply.code = some error.code)
      (failed : reply.succeeded = false) (moves : reply.moves = t.published.moves)
      (state : reply.handleState = some t.published.state) (result : reply.result = none) :
      Handled rounds config operation ctx s reply t
  /-- The backend runs the operation. -/
  | ran {b : LibpqBackend} {t : Worker} {reply : Reply} (r : Except BackendFailure BackendResult)
      (free : s.refusal config operation ctx = none)
      (conn : b.wire.conn = s.backend.wire.conn) (calls : b.wire.calls = s.backend.wire.calls)
      (present : b.present = s.backend.present)
      (observation : b.observation = s.backend.observation)
      (returns : (runOperation rounds config ctx operation).Returns b r t.backend)
      (published : t.published = settle operation (leavesUnknown r) t.backend.observation
        (s.published.record config r))
      (flag : reply.outcomeUnknown = leavesUnknown r) (coded : reply.code = endCode config r)
      (succeeded : reply.succeeded = endSucceeded config r)
      (moves : reply.moves =
        (if outgrown config r then s.published.record config r else t.published).moves)
      (failed : reply.isOk = !outgrown config r)
      (state : reply.handleState = some
        (if outgrown config r then s.published.record config r else t.published).state)
      (result : reply.result = endResult config r) :
      Handled rounds config operation ctx s reply t

/-- Refreshing the snapshot of a reply changes neither its result nor its error. -/
theorem refresh_reply (verifiedClose : Reply → Bool) (w : Worker) (reply : Reply) :
    let refreshed : Reply := reply.map fun envelope =>
      refreshEnvelopeState envelope (verifiedClose reply) w
    refreshed.outcomeUnknown = reply.outcomeUnknown ∧ refreshed.code = reply.code ∧
      refreshed.succeeded = reply.succeeded ∧ refreshed.result = reply.result := by
  cases reply with
  | error failure => exact ⟨rfl, rfl, rfl, rfl⟩
  | ok envelope =>
    simp only [Except.map, Reply.outcomeUnknown, Reply.code, Reply.succeeded, Reply.result,
      refreshEnvelopeState]
    split <;> exact ⟨rfl, rfl, rfl, rfl⟩

/-- A reply other than that of a verified close, and other than a failure, carries the moves
of the snapshot it is published with. -/
theorem refresh_moves (verifiedClose : Reply → Bool) (w : Worker) (reply : Reply) :
    Reply.moves (reply.map fun envelope =>
      refreshEnvelopeState envelope (verifiedClose reply) w) =
      if reply.isOk && !verifiedClose reply then w.published.moves else reply.moves := by
  cases reply with
  | error failure => rfl
  | ok envelope =>
    simp only [Except.map, Reply.moves, refreshEnvelopeState, Except.isOk, Except.toBool,
      Bool.true_and]
    cases verifiedClose (.ok envelope) <;> rfl

/-- A reply other than that of a verified close, and other than a failure, carries the
snapshot it is published with. -/
theorem refresh_handleState (verifiedClose : Reply → Bool) (w : Worker) (reply : Reply) :
    Reply.handleState (reply.map fun envelope =>
      refreshEnvelopeState envelope (verifiedClose reply) w) =
      if reply.isOk && !verifiedClose reply then some w.published.state else reply.handleState := by
  cases reply with
  | error failure => rfl
  | ok envelope =>
    simp only [Except.map, Reply.handleState, refreshEnvelopeState, Except.isOk, Except.toBool,
      Bool.true_and]
    cases verifiedClose (.ok envelope) <;> rfl

@[simp] theorem settle_closed (operation : Operation) (unknown : Bool)
    (observation : BackendObservation) (p : PublishedHandle) :
    (settle operation unknown observation p).closed = p.closed := by
  cases unknown with
  | false => rfl
  | true => cases operation <;> rfl

/-- A close that succeeds closes the handle. -/
theorem record_closed {rounds : ℕ} {config : Config} {operation : Operation} {ctx : RequestContext}
    {b b' : LibpqBackend} {r : Except BackendFailure BackendResult} (p : PublishedHandle)
    (h : (runOperation rounds config ctx operation).Returns b r b') (hop : operation = .close)
    (hr : endSucceeded config r = true) : (p.record config r).closed = true := by
  subst hop
  rcases (Backend.close_post (b := b)).returns h with _ | _
  · cases hr
  · rfl

/-- Nothing is left to observe after a close that succeeds. -/
theorem settle_close {rounds : ℕ} {config : Config} {operation : Operation} {ctx : RequestContext}
    {b b' : LibpqBackend} {r : Except BackendFailure BackendResult} (p : PublishedHandle)
    (h : (runOperation rounds config ctx operation).Returns b r b') (hop : operation = .close)
    (hr : endSucceeded config r = true) :
    settle operation (leavesUnknown r) b'.observation (p.record config r) = p.record config r := by
  subst hop
  rcases (Backend.close_post (b := b)).returns h with _ | _
  · cases hr
  · rfl

/-- Only a close returns that the connection is closed. -/
theorem closed_of_runOperation {rounds : ℕ} {config : Config} {operation : Operation}
    {ctx : RequestContext} {b b' : LibpqBackend} {observation : BackendObservation} {verified : Bool}
    (h : (runOperation rounds config ctx operation).Returns b (.ok (.closed observation verified)) b') :
    operation = .close ∧ verified = true := by
  cases operation with
  | getSchema => cases (Backend.getSchema_post config).returns h
  | openRead => cases (Backend.openTransaction_post "BEGIN READ ONLY" "read").returns h
  | openWrite => cases (Backend.openTransaction_post "BEGIN READ WRITE" "write").returns h
  | query request => cases (Backend.query_post request config).returns h
  | commit => cases Backend.commit_post.returns h
  | rollback => cases Backend.rollback_post.returns h
  | close =>
    cases Backend.close_post.returns h
    exact ⟨rfl, rfl⟩

/-- A live handle is closed by a close that succeeds only. -/
theorem closed_of_record {rounds : ℕ} {config : Config} {operation : Operation} {ctx : RequestContext}
    {b b' : LibpqBackend} {r : Except BackendFailure BackendResult} {p : PublishedHandle}
    (live : p.closed = false) (h : (runOperation rounds config ctx operation).Returns b r b')
    (hclosed : (p.record config r).closed = true) :
    operation = .close ∧ endSucceeded config r = true := by
  have hlive : p.closed ≠ true := by simp [live]
  cases r with
  | error f => exact absurd hclosed hlive
  | ok result =>
    cases result with
    | opened | committed | rolledBack => exact absurd hclosed hlive
    | schema | query =>
      refine absurd ?_ hlive
      unfold PublishedHandle.record at hclosed
      simp only at hclosed
      split at hclosed
      · first | exact hclosed | (split at hclosed <;> exact hclosed)
      · exact hclosed
    | closed observation verified =>
      obtain ⟨rfl, rfl⟩ := closed_of_runOperation h
      exact ⟨rfl, rfl⟩

theorem closeSucceeded_eq (operation : Operation) (reply : Reply) :
    closeSucceeded operation reply = (operation == .close && reply.succeeded) := by
  cases operation <;> cases reply <;> rfl

/-- A request closes a live handle exactly when it is a close that succeeds. -/
theorem Executed.closed {rounds : ℕ} {config : Config} {operation : Operation} {ctx : RequestContext}
    {s t : Worker} {reply : Reply} (h : Executed rounds config operation ctx s reply t)
    (live : s.published.closed = false) :
    t.published.closed = closeSucceeded operation reply := by
  rw [closeSucceeded_eq]
  cases h with
  | refused error ticked refusal =>
    rw [ticked.published, live]
    simp [Reply.succeeded, errorEnvelope]
  | @ran _ u _ _ r free ticked returns same published =>
    rw [published.published, same, published.succeeded]
    cases hclosed : (s.published.record config r).closed with
    | true =>
      obtain ⟨rfl, hsucceeds⟩ := closed_of_record live returns hclosed
      rw [hsucceeds]
      rfl
    | false =>
      rw [eq_comm, Bool.and_eq_false_iff]
      by_contra hnot
      obtain ⟨hop, hsucceeds⟩ := not_or.mp hnot
      rw [Bool.not_eq_false, beq_iff_eq] at hop
      rw [Bool.not_eq_false] at hsucceeds
      rw [record_closed s.published returns hop hsucceeds] at hclosed
      cases hclosed

/-- Every request ends as `Handled` says. -/
theorem serve_post (rounds : ℕ) (config : Config) (operation : Operation) (ctx : RequestContext)
    (s : Worker) : (serve rounds config operation ctx).Post s fun r t =>
      ∃ reply, r = .ok reply ∧ Handled rounds config operation ctx s reply t := by
  rw [serve]
  refine (executeOperation_post rounds config operation ctx s).attempt_bind ?_
  intro reply t h
  simp only [publish, post_bind, post_read, andThen_ok, post_update]
  refine ⟨_, rfl, ?_⟩
  -- the refreshed reply keeps the outcome, the code and the result
  obtain ⟨hflag, hcode, hsucceeded, hresult⟩ := refresh_reply (closeSucceeded operation)
    { t with published := settle operation (Reply.outcomeUnknown reply) t.backend.observation t.published }
    reply
  have hmoves := refresh_moves (closeSucceeded operation)
    { t with published := settle operation (Reply.outcomeUnknown reply) t.backend.observation t.published }
    reply
  have hstate := refresh_handleState (closeSucceeded operation)
    { t with published := settle operation (Reply.outcomeUnknown reply) t.backend.observation t.published }
    reply
  cases h with
  | refused error ticked refusal =>
    refine .refused error refusal ticked.conn ticked.calls ticked.present ticked.observation ?_
      (hflag.trans ?_) (hcode.trans ?_) (hsucceeded.trans rfl) (hmoves.trans ?_) (hstate.trans ?_)
      (hresult.trans rfl)
    · simp [Reply.outcomeUnknown, ticked.published, ticked.observation]
    · simp [Reply.outcomeUnknown]
    · simp [Reply.code, errorEnvelope]
    · cases operation <;> rfl
    · cases operation <;> rfl
  | @ran u v w _ r free ticked returns same published =>
    refine .ran r free ticked.conn ticked.calls ticked.present ticked.observation ?_ ?_
      (hflag.trans published.unknown) (hcode.trans published.code)
      (hsucceeded.trans published.succeeded) (hmoves.trans ?_) (Eq.trans ?_ published.failed)
      (hstate.trans ?_) (hresult.trans published.result)
    · rw [published.backend]
      exact returns
    · simp only [published.unknown, published.published, same]
    · rw [published.failed]
      cases hout : outgrown config r with
      | true =>
        rw [published.moves, published.published, same]
        rfl
      | false =>
        simp only [Bool.not_false, Bool.true_and, Bool.false_eq_true, if_false]
        cases hclose : closeSucceeded operation reply with
        | false => rfl
        | true =>
          have hop : operation = .close := by
            cases operation <;> first | rfl | cases hclose
          have hsucceeds : endSucceeded config r = true := by
            rw [← published.succeeded]
            subst hop
            cases reply <;> exact hclose
          have hclosed := record_closed s.published returns hop hsucceeds
          rw [if_neg (by decide), published.moves, published.published, same,
            PublishedHandle.moves_closed hclosed, PublishedHandle.moves_closed]
          rw [settle_closed]
          exact hclosed
    · cases reply <;> rfl
    · rw [published.failed]
      cases hout : outgrown config r with
      | true =>
        rw [published.state, published.published, same]
        rfl
      | false =>
        simp only [Bool.not_false, Bool.true_and, Bool.false_eq_true, if_false]
        cases hclose : closeSucceeded operation reply with
        | false => rfl
        | true =>
          have hop : operation = .close := by
            cases operation <;> first | rfl | cases hclose
          have hsucceeds : endSucceeded config r = true := by
            rw [← published.succeeded]
            subst hop
            cases reply <;> exact hclose
          rw [if_neg (by decide), published.state, published.published, same, published.backend,
            published.unknown, settle_close s.published returns hop hsucceeds]

end PgMcp
