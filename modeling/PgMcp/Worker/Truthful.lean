import PgMcp.Backend.Truthful
import PgMcp.Worker.Publication

/-!
# Interruptions, as a client reads them

A client that is told SERVER_STOPPING, CANCELLED or DEADLINE_EXCEEDED is told something about the
control state of its request.  In every run of requests SERVER_STOPPING means that the shutdown flag was
read and raised, and DEADLINE_EXCEEDED that the clock was read at the deadline or later.  CANCELLED means
that the client's token was read and cancelled, when the shutdown flag had just been read and was not
raised; or, where the statements of the operation can be cancelled, that the deadline had passed then.

## Main results

* `serve_truthful` — the step lemma.
* `truthful_of_run` — every reply of a run.
* `truthful_of_run_expired` — a client that has cancelled nothing is told CANCELLED.
-/

namespace PgMcp

open Program

/-- The number of reads the worker has made for its request. -/
def Worker.tick (w : Worker) : ℕ := w.backend.tick

/-- The code of the failure says what it says. -/
def CoreFailure.Truthful (ctx : RequestContext) (merged : Bool) (failure : CoreFailure) (n : ℕ) : Prop :=
  failure.error.code.Truthful ctx merged n

/-- The code of the reply, if it is one of an error, says what it says. -/
def Envelope.Truthful (ctx : RequestContext) (merged : Bool) (envelope : Envelope) (n : ℕ) : Prop :=
  ∀ payload ∈ envelope.error, payload.code.Truthful ctx merged n

section Envelopes

variable {ctx : RequestContext} {merged : Bool} {n : ℕ}

theorem errorEnvelopeWithSqlstate_truthful {state : Option HandleState} {error : CoreError} {unknown : Bool}
    {sqlstate : Option String} (h : error.code.Truthful ctx merged n) :
    (errorEnvelopeWithSqlstate state error unknown sqlstate).Truthful ctx merged n := by
  intro payload hpayload
  cases hpayload
  unfold ErrorPayload.new
  dsimp only
  split <;> exact h

theorem success_truthful {state : Option HandleState} {moves : List Move} {result : Json} :
    (Envelope.success state moves result).Truthful ctx merged n := by
  intro payload hpayload
  cases hpayload

end Envelopes

/-! ### One request -/

theorem precondition_calm {p : PublishedHandle} {operation : Operation} {error : CoreError}
    (h : operationPrecondition p operation = some error) : error.code.interrupts = false := by
  unfold operationPrecondition at h
  cases operation with
  | query request =>
    cases hstatus : p.observation.transactionStatus <;> simp only [hstatus] at h <;>
      split_ifs at h <;> cases h <;> rfl
  | commit =>
    cases hstatus : p.observation.transactionStatus <;> simp only [hstatus] at h <;>
      split_ifs at h <;> cases h <;> rfl
  | getSchema | openRead | openWrite | rollback | close =>
    simp only at h
    split_ifs at h <;> cases h <;> rfl

section Serve

variable {ctx : RequestContext} {merged : Bool} {w : Worker}

theorem failForHandle_truthful {α : Type} {P : α → ℕ → Prop} {error : CoreError}
    (h : error.code.interrupts = false) :
    (failForHandle error : WorkerM α).Timely Worker.tick (CoreFailure.Truthful ctx merged) P w :=
  Timely.bind (P := fun failure _ => failure.error = error) (.read rfl)
    fun failure _ _ hf => .fail (by rw [CoreFailure.Truthful, hf]; exact ErrorCode.truthful_of_calm h)

theorem errorEnvelopeFor_truthful {V : CoreFailure → ℕ → Prop} {error : CoreError}
    (h : error.code.Truthful ctx merged w.tick) :
    (errorEnvelopeFor error : WorkerM Envelope).Timely Worker.tick V (Envelope.Truthful ctx merged) w :=
  .read (errorEnvelopeWithSqlstate_truthful h)

theorem publish_timely {V : CoreFailure → ℕ → Prop} {f : PublishedHandle → PublishedHandle} :
    (publish f : WorkerM Unit).Timely Worker.tick V (fun _ n => n = w.tick) w := .update le_rfl rfl

theorem successEnvelope_truthful {V : CoreFailure → ℕ → Prop} {result : Json} :
    (successEnvelope result : WorkerM Envelope).Timely Worker.tick V (Envelope.Truthful ctx merged) w :=
  .read success_truthful

theorem control_timely {α : Type} {V : CoreFailure → ℕ → Prop} {P : α → ℕ → Prop}
    {x : Program Wire CoreFailure α} (hx : x.Timely Wire.tick V P w.backend.wire) :
    (control x).Timely Worker.tick V P w := Timely.zoom rfl (fun _ => rfl) hx

/-- A result is published, or it is rejected for its size. -/
theorem publishResult_truthful (config : Config) (result : BackendResult) :
    (publishResult config result).Timely Worker.tick (CoreFailure.Truthful ctx merged)
      (Envelope.Truthful ctx merged) w := by
  cases result with
  | opened mode observation => exact publish_timely.bind fun _ _ _ _ => successEnvelope_truthful
  | schema schema observation =>
    rw [publishResult]
    cases schema.validate config with
    | error e => exact failForHandle_truthful rfl
    | ok u => exact publish_timely.bind fun _ _ _ _ => publish_timely.bind fun _ _ _ _ =>
      successEnvelope_truthful
  | query query observation directDdl =>
    rw [publishResult]
    cases query.validate config with
    | error e => exact failForHandle_truthful rfl
    | ok u => exact publish_timely.bind fun _ _ _ _ => publish_timely.bind fun _ _ _ _ =>
      successEnvelope_truthful
  | committed observation =>
    exact publish_timely.bind fun _ _ _ _ => publish_timely.bind fun _ _ _ _ => successEnvelope_truthful
  | rolledBack changed observation =>
    exact publish_timely.bind fun _ _ _ _ => publish_timely.bind fun _ _ _ _ => successEnvelope_truthful
  | closed observation cleanupVerified =>
    apply publish_timely.bind
    intro _ w₁ _ _
    cases cleanupVerified with
    | false => exact failForHandle_truthful rfl
    | true =>
      apply publish_timely.bind
      intro _ w₂ _ _
      exact Timely.bind (P := fun _ _ => True) (.read trivial) fun _ _ _ _ => .pure success_truthful

theorem publishFailure_truthful {failure : BackendFailure} (h : failure.Truthful ctx merged w.tick) :
    (publishFailure failure).Timely Worker.tick (CoreFailure.Truthful ctx merged)
      (Envelope.Truthful ctx merged) w :=
  publish_timely.bind fun _ _ _ hn => .read (errorEnvelopeWithSqlstate_truthful (hn ▸ h))

theorem validation_calm (e : ValidationError) : (errorCodeForValidation e).interrupts = false := by
  unfold errorCodeForValidation
  split <;> rfl

/-- The worker's own checks come in the order of their codes, and find what they say. -/
theorem executeOperation_truthful (rounds : ℕ) (config : Config) (operation : Operation) :
    (executeOperation rounds config operation ctx).Timely Worker.tick
      (CoreFailure.Truthful ctx operation.merges) (Envelope.Truthful ctx operation.merges) w := by
  unfold executeOperation
  apply Timely.bind (P := fun error _ => ∀ e ∈ error, e.code.interrupts = false)
  · exact .read fun e he => precondition_calm he
  intro error w₁ _ herror
  cases error with
  | some error => exact errorEnvelopeFor_truthful (ErrorCode.truthful_of_calm (herror error rfl))
  | none =>
    apply (control_timely stopping_timely).bind
    rintro b w₂ _ ⟨hn₂, hb₂⟩
    change w₂.tick = w₁.tick + 1 at hn₂
    change ctx.shutdown w₁.tick = b at hb₂
    cases b with
    | true =>
      apply errorEnvelopeFor_truthful
      intro reason hreason
      cases reason <;> cases hreason
      exact ⟨w₁.tick, by omega, hb₂⟩
    | false =>
      apply (control_timely cancelled_timely).bind
      rintro b w₃ _ ⟨hn₃, hb₃⟩
      change w₃.tick = w₂.tick + 1 at hn₃
      change ctx.cancellation w₂.tick = b at hb₃
      rw [hn₂] at hn₃ hb₃
      cases b with
      | true =>
        apply errorEnvelopeFor_truthful
        rw [refusalError_code]
        intro reason hreason
        cases reason <;> cases hreason
        exact ⟨w₁.tick, by omega, hb₂, .inl hb₃⟩
      | false =>
        apply (control_timely expired_timely).bind
        rintro b w₄ _ ⟨hn₄, hb₄⟩
        change w₄.tick = w₃.tick + 1 at hn₄
        cases b with
        | true =>
          apply errorEnvelopeFor_truthful
          rw [refusalError_code]
          intro reason hreason
          cases reason <;> cases hreason
          exact ⟨w₃.tick, by omega, of_decide_eq_true hb₄⟩
        | false =>
          cases hvalid : operationValidate config operation with
          | error error =>
            simp only [Bool.false_eq_true, if_false]
            exact errorEnvelopeFor_truthful (ErrorCode.truthful_of_calm (validation_calm error))
          | ok u =>
            simp only [Bool.false_eq_true, if_false]
            -- past the flags the backend answers for itself
            have hbackend := runOperation_truthful rounds config ctx operation w₄.backend
            apply Timely.attempt_bind (Timely.zoom rfl (fun _ => rfl) hbackend)
            intro r w₅ _ hr
            cases r with
            | ok result => exact publishResult_truthful config result
            | error failure => exact publishFailure_truthful hr

/-- What is told of a request when it has been served. -/
def Reply.Truthful (ctx : RequestContext) (merged : Bool) (reply : Reply) (n : ℕ) : Prop :=
  ∀ reason : CancelReason, Reply.code reply = some reason.errorClass.code → reason.Truthful ctx merged n

theorem serve_truthful (rounds : ℕ) (config : Config) (operation : Operation) :
    (serve rounds config operation ctx).Timely Worker.tick (fun _ _ => True)
      (Reply.Truthful ctx operation.merges) w := by
  unfold serve
  apply (executeOperation_truthful rounds config operation).attempt_bind
  intro r w₁ hle hr
  apply Timely.bind (P := fun _ n => n = w₁.tick) (.read rfl)
  intro observation w₂ _ hn₂
  apply publish_timely.bind
  intro _ w₃ _ hn₃
  refine .read fun reason hreason => ?_
  rw [hn₃, hn₂]
  have hcode : Reply.code r = some reason.errorClass.code := by
    rw [← hreason]
    exact (refresh_reply (closeSucceeded operation) w₃ r).2.1.symm
  cases r with
  | error failure => exact hr reason (Option.some.inj hcode)
  | ok envelope =>
    obtain ⟨payload, hpayload, hpayload'⟩ := Option.map_eq_some_iff.mp hcode
    exact hr payload hpayload reason hpayload'

end Serve

/-! ### Runs -/

/-- In every run of requests, a reply with the code of a control event tells the truth of the reads
that were made for its request. -/
theorem truthful_of_run {config : Config} {s t : Worker} {ls : List Served}
    (run : Run (Serves config) s ls t) :
    ∀ l ∈ ls, Reply.Truthful l.env.ctx l.operation.merges l.reply l.after.tick := by
  intro l hl
  obtain ⟨pre, post, t₁, t₂, -, -, ⟨-, rfl, -, rounds, hserve⟩, -⟩ := run.mem_step hl
  exact ((serve_truthful rounds config l.operation).returns hserve).2

/-- A request whose deadline passes after the worker has looked at it. -/
def Environment.expiring : Environment where
  ctx := .timed none none 4
  scripts := []
  cancels := []

/-- The deadline of an inspection passes at the first poll of the adapter: the client, which has
cancelled nothing, is told CANCELLED, and the clock was read at the deadline. -/
theorem truthful_of_run_expired : ∃ (ls : List Served) (t : Worker) (l : Served),
    Run (Serves .default) .opened ls t ∧ l ∈ ls ∧ Reply.code l.reply = some .cancelled ∧
      (∀ n, l.env.ctx.cancellation n = false) ∧
      ∃ m, m + 2 < l.after.tick ∧ l.env.ctx.deadline ≤ l.env.ctx.clock.now (m + 2) := by
  obtain ⟨ls, t, hls, henv, run⟩ := exists_play 3 .default (s := .opened) [(.getSchema, .expiring)]
    (p := fun played => played.1.length == 1 && played.1[0]?.any fun l =>
      Reply.code l.reply == some .cancelled)
    (by decide +kernel)
  rw [Bool.and_eq_true, beq_iff_eq] at hls
  obtain ⟨l, rfl⟩ := List.length_eq_one_iff.mp hls.1
  simp only [List.getElem?_cons_zero, Option.any_some, beq_iff_eq] at hls
  simp only [List.map_cons, List.map_nil, List.reverse_cons, List.reverse_nil, List.nil_append,
    List.cons.injEq, Prod.mk.injEq, and_true] at henv
  have hcalm : ∀ n, l.env.ctx.cancellation n = false := by
    intro n
    rw [henv.2]
    rfl
  refine ⟨[l], t, l, run, List.mem_singleton_self l, hls.2, hcalm, ?_⟩
  obtain ⟨m, -, -, htoken | ⟨-, hm, hdeadline⟩⟩ :=
    truthful_of_run run l (List.mem_singleton_self l) .cancelled hls.2
  · rw [hcalm] at htoken
    cases htoken
  · exact ⟨m, hm, hdeadline⟩

end PgMcp
