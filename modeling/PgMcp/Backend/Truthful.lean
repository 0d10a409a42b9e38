import PgMcp.Worker
import PgMcp.Libpq.Truthful

/-!
# Interruptions of the backend

What the adapter says of an interruption, the schema retrieval and the operations of the backend pass
on: none of them has an error of a control event of its own, except the drain of a failed query, which
reads the flags again.  A commit never passes one on.

## Main definitions

* `ErrorCode.Truthful` — what a public code says about the reads so far.

## Main results

* `retrieve_truthful` — a retrieval passes on what interrupted it.
* `runOperation_truthful` — and so does every operation.
-/

namespace PgMcp

open Program Checks

/-- What a public code says about the reads of the control state, when it is that of a control event. -/
def ErrorCode.Truthful (ctx : RequestContext) (merged : Bool) (code : ErrorCode) (n : ℕ) : Prop :=
  ∀ reason : CancelReason, code = reason.errorClass.code → reason.Truthful ctx merged n

theorem ErrorCode.Truthful.monotone (ctx : RequestContext) (merged : Bool) (code : ErrorCode) :
    Monotone (code.Truthful ctx merged) := by
  intro n n' hn h reason hreason
  exact CancelReason.Truthful.monotone _ _ reason hn (h reason hreason)

/-- The codes of control events. -/
def ErrorCode.interrupts : ErrorCode → Bool
  | .cancelled | .deadlineExceeded | .serverStopping => true
  | _ => false

/-- A code of another kind says nothing. -/
theorem ErrorCode.truthful_of_calm {ctx : RequestContext} {merged : Bool} {code : ErrorCode} {n : ℕ}
    (h : code.interrupts = false) : code.Truthful ctx merged n := by
  intro reason hreason
  rw [hreason] at h
  cases reason <;> cases h

/-- The code of an error of the adapter says what the error says. -/
theorem AdapterError.Truthful.code {ctl : PollControl} {e : AdapterError} {n : ℕ} (h : e.Truthful ctl n) :
    e.errorClass.code.Truthful ctl.context ctl.merges n := by
  intro reason hreason
  apply h reason
  cases hclass : e.errorClass <;> rw [hclass] at hreason <;> cases reason <;> first | rfl | cases hreason

/-! ### Assembling the snapshot -/

/-- The error is not one of the adapter. -/
def SchemaError.Own (e : SchemaError) : Prop := ∀ e', e ≠ .backend e'

theorem SchemaError.own_malformed : SchemaError.malformed.Own := fun _ h => by cases h

theorem SchemaError.own_limit : SchemaError.limit.Own := fun _ h => by cases h

section Assemble

open SchemaError

theorem required_own (row : CatalogRow) (index : ℕ) : FailsOnly Own (required row index) := by
  unfold required
  split
  · exact .ok _
  · exact .error own_malformed

theorem parseU32_own (s : String) : FailsOnly Own (parseU32 s) := by
  unfold parseU32
  dsimp only
  split <;> split <;> first | exact .ok _ | exact .error own_malformed

theorem parseBool_own (s : String) : FailsOnly Own (parseBool s) := by
  unfold parseBool
  split <;> first | exact .ok _ | exact .error own_malformed

theorem relationKind_own (s : String) : FailsOnly Own (relationKind s) := by
  unfold relationKind
  split <;> first | exact .ok _ | exact .error own_malformed

theorem constraintKind_own (s : String) : FailsOnly Own (constraintKind s) := by
  unfold constraintKind
  split <;> first | exact .ok _ | exact .error own_malformed

theorem identityKind_own (s : Option String) : FailsOnly Own (identityKind s) := by
  unfold identityKind
  split <;> first | exact .ok _ | exact .error own_malformed

theorem checkWidth_own (row : CatalogRow) (width : ℕ) : FailsOnly Own (checkWidth row width) := by
  unfold checkWidth
  split
  · exact .ok _
  · exact .error own_malformed

theorem validateSchema_own (schema : SchemaResult) (config : Config) :
    FailsOnly Own (validateSchema schema config) := by
  apply FailsOnly.mapError
  intro e
  unfold schemaErrorOf
  split <;> first | exact own_limit | exact own_malformed

theorem addRelation_own (config : Config) (schemas : SchemaMap) (row : CatalogRow) :
    FailsOnly Own (addRelation config schemas row) :=
  (checkWidth_own row 4).bind fun _ => (required_own row 0).bind fun _ => (required_own row 1).bind fun _ =>
    (required_own row 2).bind fun kind => (relationKind_own kind).bind fun _ =>
      (required_own row 3).bind fun oid => (parseU32_own oid).bind fun _ =>
        (validateSchema_own _ config).bind fun _ => .ok _

theorem addColumn_own (config : Config) (schemas : SchemaMap) (row : CatalogRow) :
    FailsOnly Own (addColumn config schemas row) := by
  refine (checkWidth_own row 10).bind fun _ => (required_own row 0).bind fun schema =>
    (required_own row 1).bind fun relation => ?_
  dsimp only
  split
  · exact FailsOnly.error own_malformed
  · exact (required_own row 3).bind fun ordinal => (parseU32_own ordinal).bind fun _ =>
      (required_own row 4).bind fun typeOid => (parseU32_own typeOid).bind fun _ =>
        (required_own row 6).bind fun nullable => (parseBool_own nullable).bind fun _ =>
          (identityKind_own _).bind fun _ => (required_own row 2).bind fun _ =>
            (required_own row 5).bind fun _ => (required_own row 9).bind fun generated =>
              (parseBool_own generated).bind fun _ => (validateSchema_own _ config).bind fun _ => .ok _

theorem addConstraint_own (config : Config) (schemas : SchemaMap) (row : CatalogRow) :
    FailsOnly Own (addConstraint config schemas row) := by
  refine (checkWidth_own row 5).bind fun _ => (required_own row 0).bind fun schema =>
    (required_own row 1).bind fun relation => ?_
  dsimp only
  split
  · exact FailsOnly.error own_malformed
  · exact (required_own row 2).bind fun _ => (required_own row 3).bind fun kind =>
      (constraintKind_own kind).bind fun _ => (required_own row 4).bind fun _ =>
        (validateSchema_own _ config).bind fun _ => .ok _

theorem assemble_own (config : Config) (relations columns constraints : List CatalogRow) :
    FailsOnly Own (assemble config relations columns constraints) :=
  (FailsOnly.foldlM (addRelation_own config) relations _).bind fun schemas =>
    (FailsOnly.foldlM (addColumn_own config) columns schemas).bind fun schemas =>
      (FailsOnly.foldlM (addConstraint_own config) constraints schemas).bind fun _ =>
        (validateSchema_own _ config).bind fun _ => .ok _

end Assemble

/-! ### The retrieval -/

/-- Only an error of the adapter says anything, and it says what it says to the adapter. -/
def SchemaError.Passes {τ : Type} (V : AdapterError → τ → Prop) (e : SchemaError) (t : τ) : Prop :=
  ∀ e', e = .backend e' → V e' t

/-- What an error says of the reads of the control state. -/
abbrev SchemaError.Truthful (ctl : PollControl) : SchemaError → ℕ → Prop :=
  SchemaError.Passes (AdapterError.Truthful ctl)

theorem SchemaError.Own.passes {τ : Type} {V : AdapterError → τ → Prop} {e : SchemaError} {t : τ}
    (h : e.Own) : e.Passes V t := fun e' he => absurd he (h e')

section Retrieve

variable {τ : Type} [Preorder τ] {time : Wire → τ} {V : AdapterError → τ → Prop} {rounds deadline : ℕ}
  {ctl : PollControl} {w : Wire}

theorem SchemaError.Passes.monotone (hV : ∀ e, Monotone (V e)) (e : SchemaError) :
    Monotone (e.Passes V) := fun _ _ ht h e' he => hV e' ht (h e' he)

/-- The error of a statement is passed on. -/
theorem passed_timely {x : Adapter ResultSet} (hx : x.Timely time V (fun _ _ => True) w) :
    (x.mapError fun e _ => SchemaError.backend e).Timely time (SchemaError.Passes V) (fun _ _ => True) w := by
  apply hx.mapError
  intro e w' h e' he
  cases he
  exact h

theorem executeChecked_timely {sql : String}
    (hexecute : (Connection.execute rounds sql deadline ctl).Timely time V (fun _ _ => True) w) :
    (executeChecked rounds deadline ctl sql).Timely time (SchemaError.Passes V) (fun _ _ => True) w := by
  apply (passed_timely hexecute).bind
  intro result w₁ _ _
  exact .require (fun _ => trivial) fun _ => SchemaError.own_malformed.passes

theorem retrieveInner_timely {config : Config}
    (hquery : ∀ sql limits w,
      (Connection.query rounds sql [] limits deadline ctl).Timely time V (fun _ _ => True) w) :
    (retrieveInner rounds config deadline ctl).Timely time (SchemaError.Passes V) (fun _ _ => True) w := by
  apply (passed_timely (hquery _ _ _)).bind
  intro relations w₁ _ _
  apply (passed_timely (hquery _ _ _)).bind
  intro columns w₂ _ _
  apply (passed_timely (hquery _ _ _)).bind
  intro constraints w₃ _ _
  apply Timely.ofExcept
  cases hassemble : assemble config relations.rows columns.rows constraints.rows with
  | ok schema => exact trivial
  | error e => exact (assemble_own _ _ _ _ e hassemble).passes

/-- The error that is reported is the one the retrieval was given up for, and not that of the
rollback after it. -/
theorem rollbackSchema_timely {α : Type} {P : α → τ → Prop} {e : SchemaError} (hV : ∀ e, Monotone (V e))
    (hexecute : (Connection.execute rounds "ROLLBACK" deadline ctl).Timely time V (fun _ _ => True) w)
    (h : e.Passes V (time w)) :
    (rollbackSchema rounds deadline ctl e).Timely time (SchemaError.Passes V) P w := by
  apply hexecute.attempt_bind
  intro r w₁ hle _
  exact .fail (SchemaError.Passes.monotone hV e hle h)

/-- What is said of the errors of statements is said of those of the retrieval. -/
theorem retrieve_timely {config : Config} (hV : ∀ e, Monotone (V e))
    (hexecute : ∀ sql w, (Connection.execute rounds sql deadline ctl).Timely time V (fun _ _ => True) w)
    (hquery : ∀ sql limits w,
      (Connection.query rounds sql [] limits deadline ctl).Timely time V (fun _ _ => True) w) :
    (retrieve rounds config deadline ctl).Timely time (SchemaError.Passes V) (fun _ _ => True) w := by
  apply (executeChecked_timely (hexecute _ _)).bind
  intro _ w₁ _ _
  apply (retrieveInner_timely hquery).attempt_bind
  intro r w₂ _ hr
  cases r with
  | error e => exact rollbackSchema_timely hV (hexecute _ _) hr
  | ok snapshot =>
    apply (executeChecked_timely (hexecute _ _)).attempt_bind
    intro r w₃ _ hr
    cases r with
    | error e => exact rollbackSchema_timely hV (hexecute _ _) hr
    | ok u => exact .pure trivial

theorem retrieve_truthful (ctl : PollControl) (rounds : ℕ) (config : Config) :
    (retrieve rounds config ctl.context.deadline ctl).Timely Wire.tick (SchemaError.Truthful ctl)
      (fun _ _ => True) w :=
  retrieve_timely (AdapterError.Truthful.monotone ctl) (fun sql _ => execute_truthful ctl rounds sql)
    fun sql limits _ => query_truthful ctl rounds sql [] limits

end Retrieve

/-! ### The operations -/

/-- The number of reads a backend has made. -/
def LibpqBackend.tick (b : LibpqBackend) : ℕ := b.wire.tick

/-- The code of the failure says what it says. -/
def BackendFailure.Truthful (ctx : RequestContext) (merged : Bool) (f : BackendFailure) (n : ℕ) : Prop :=
  f.error.code.Truthful ctx merged n

/-- The operations whose statements a client can cancel. -/
def Operation.merges : Operation → Bool
  | .getSchema | .openRead | .openWrite | .query _ => true
  | .commit | .rollback | .close => false

namespace Backend

section Operations

variable {ctx : RequestContext} {merged : Bool} {b : LibpqBackend} (rounds : ℕ)

theorem failWith_truthful {α : Type} {P : α → ℕ → Prop} {f : LibpqBackend → BackendFailure}
    (h : (f b).error.code.interrupts = false) :
    (failWith f : BackendM α).Timely LibpqBackend.tick (BackendFailure.Truthful ctx merged) P b :=
  Timely.bind (P := fun failure _ => failure.error.code.interrupts = false) (.read h)
    fun _ _ _ hf => .fail (ErrorCode.truthful_of_calm hf)

theorem observe_timely {V : BackendFailure → ℕ → Prop} :
    observe.Timely LibpqBackend.tick V (fun _ n => n = b.tick) b := .read rfl

/-- A program of the adapter is run on the connection, with its errors rewritten. -/
theorem onConnection_truthful {ε α : Type} {V : ε → ℕ → Prop} {x : Program Wire ε α}
    {f : ε → LibpqBackend → BackendFailure} (hx : ∀ w, x.Timely Wire.tick V (fun _ _ => True) w)
    (hf : ∀ e b, V e b.tick → (f e b).error.code.Truthful ctx merged b.tick) :
    (onConnection x f).Timely LibpqBackend.tick (BackendFailure.Truthful ctx merged) (fun _ _ => True) b := by
  unfold onConnection
  apply Timely.bind (P := fun _ _ => True) (.read trivial)
  intro present b₁ _ _
  cases present with
  | false => exact failWith_truthful rfl
  | true =>
    apply Timely.mapError (V := V)
    · exact Timely.zoom rfl (fun _ => rfl) (hx b₁.wire)
    · exact fun e b h => hf e b h

/-- A statement of the worker is interrupted as its control object says. -/
theorem executeCommand_truthful (sql : String) (ignoreClientCancel : Bool) :
    (executeCommand rounds ctx sql ignoreClientCancel).Timely LibpqBackend.tick
      (BackendFailure.Truthful ctx !ignoreClientCancel) (fun _ _ => True) b := by
  cases ignoreClientCancel with
  | false =>
    exact onConnection_truthful (V := AdapterError.Truthful (.libpq ctx))
      (fun _ => execute_truthful (.libpq ctx) rounds sql) fun e b h => h.code
  | true =>
    exact onConnection_truthful (V := AdapterError.Truthful (.noClientCancel ctx))
      (fun _ => execute_truthful (.noClientCancel ctx) rounds sql) fun e b h => h.code

theorem openTransaction_truthful (sql mode : String) :
    (openTransaction rounds ctx sql mode).Timely LibpqBackend.tick (BackendFailure.Truthful ctx true)
      (fun _ _ => True) b := by
  apply (executeCommand_truthful rounds sql false).bind
  intro result b₁ _ _
  by_cases htag : result.commandTag = "BEGIN"
  · simp only [if_pos htag]
    exact observe_timely.bind fun _ _ _ _ => .pure trivial
  · simp only [if_neg htag]
    exact failWith_truthful rfl

theorem getSchema_truthful (config : Config) :
    (getSchema rounds ctx config).Timely LibpqBackend.tick (BackendFailure.Truthful ctx true)
      (fun _ _ => True) b := by
  apply Timely.bind (P := fun _ _ => True)
  · apply onConnection_truthful (V := SchemaError.Truthful (.libpq ctx))
    · exact fun _ => retrieve_truthful (.libpq ctx) rounds config
    · intro e b h
      cases e with
      | limit => exact ErrorCode.truthful_of_calm rfl
      | malformed => exact ErrorCode.truthful_of_calm rfl
      | backend e => exact (h e rfl).code
  · exact fun _ _ _ _ => observe_timely.bind fun _ _ _ _ => .pure trivial

/-- The flags are read again, and the one that was found is found again, but a deadline counts as
such now. -/
theorem drainAfterFailure_truthful {w : Wire} :
    (drainAfterFailure rounds ctx).Timely Wire.tick (AdapterError.Truthful (.libpq ctx))
    (fun _ _ => True) w := by
  have drain : ∀ {reason : CancelReason} {w : Wire}, reason.Truthful ctx true w.tick →
      (do
        let now ← ctx.clock.read
        let _ ← cancelAndDrain ctx.clock rounds reason (now + ctx.cancelDrainGrace)
        return () : Adapter Unit).Timely Wire.tick (AdapterError.Truthful (.libpq ctx))
          (fun _ _ => True) w := by
    intro reason w h
    have herror : reason.error.unknown.Truthful (.libpq ctx) w.tick := CancelReason.Truthful.error h
    have hlast := AdapterError.Truthful.monotone (.libpq ctx) reason.error.unknown
    apply (clock_read_timely ctx.clock).bind
    intro now w₁ hle _
    exact (cancelAndDrain_timely hlast rounds (hlast hle herror)).bind fun _ _ _ _ => .pure trivial
  unfold drainAfterFailure
  -- what was read of a flag that is not raised when it is read again
  apply Timely.bind (P := fun found n => found = true → (∀ m, n ≤ m → ctx.shutdown m = false →
    ctx.cancellation (m + 1) = false → ∃ k < n, ctx.deadline ≤ ctx.clock.now k))
  · apply stopping_timely.bind
    rintro b w₁ _ ⟨hn, hb⟩
    cases b with
    | true =>
      refine .pure fun _ m hm hcalm _ => ?_
      rw [ctx.shutdown_of_le (by omega) hb] at hcalm
      cases hcalm
    | false =>
      apply cancelled_timely.bind
      rintro b w₂ _ ⟨hn₂, hb₂⟩
      cases b with
      | true =>
        refine .pure fun _ m hm _ hcalm => ?_
        rw [ctx.cancellation_of_le (by omega) hb₂] at hcalm
        cases hcalm
      | false =>
        refine expired_timely.mono (fun _ _ h => h) ?_
        rintro b n ⟨hn₃, hb₃⟩ rfl m hm _ _
        exact ⟨w₂.tick, by omega, of_decide_eq_true hb₃⟩
  · intro found w₁ _ hfound
    cases found with
    | false => exact .pure trivial
    | true =>
      apply Timely.bind (P := fun reason n => reason.Truthful ctx true n)
      · unfold drainReason
        apply stopping_timely.bind
        rintro b w₂ _ ⟨hn, hb⟩
        cases b with
        | true => exact .pure ⟨w₁.tick, by omega, hb⟩
        | false =>
          apply cancelled_timely.bind
          rintro b w₃ _ ⟨hn₃, hb₃⟩
          rw [hn] at hn₃ hb₃
          cases b with
          | true => exact .pure ⟨w₁.tick, by omega, hb, .inl hb₃⟩
          | false =>
            obtain ⟨k, hk, hd⟩ := hfound rfl w₁.tick le_rfl hb hb₃
            exact .pure ⟨k, by omega, hd⟩
      · exact fun reason w₂ _ hreason => drain hreason

theorem query_truthful (request : QueryRequest) (config : Config) :
    (query rounds ctx request config).Timely LibpqBackend.tick (BackendFailure.Truthful ctx true)
      (fun _ _ => True) b := by
  unfold query
  apply Timely.bind (P := fun _ _ => True) (.read trivial)
  intro present b₁ _ _
  cases present with
  | false => exact failWith_truthful rfl
  | true =>
    apply Timely.attempt_bind (V := AdapterError.Truthful (.libpq ctx)) (P := fun _ _ => True)
    · exact Timely.zoom rfl (fun _ => rfl) (PgMcp.query_truthful (.libpq ctx) rounds _ _ _)
    · intro r b₂ _ hr
      cases r with
      | ok result => exact observe_timely.bind fun _ _ _ _ => .pure trivial
      | error e =>
        have hlast := ErrorCode.Truthful.monotone ctx true e.errorClass.code
        apply observe_timely.bind
        intro observation b₃ hle _
        apply Timely.bind (P := fun _ _ => True)
        · apply onConnection_truthful (V := AdapterError.Truthful (.libpq ctx))
          · intro w
            apply (drainAfterFailure_truthful rounds).bind
            intro _ w₁ _ _
            refine (PollControl.libpq ctx).cancelled_timely.mono (fun _ _ h => h) ?_
            exact fun _ _ _ => trivial
          · exact fun e b h => h.code
        · intro unknown b₄ hle₄ _
          exact .fail (hlast (hle.trans hle₄) hr.code)

theorem commit_truthful :
    (commit rounds ctx).Timely LibpqBackend.tick (BackendFailure.Truthful ctx merged)
    (fun _ _ => True) b := by
  unfold commit
  apply observe_timely.bind
  intro observation b₁ _ _
  split
  · exact failWith_truthful rfl
  · apply (executeCommand_truthful rounds "COMMIT" true).attempt_bind
    intro r b₂ _ _
    cases r with
    | error failure => exact failWith_truthful rfl
    | ok result =>
      apply observe_timely.bind
      intro observation b₃ _ _
      split
      · exact .pure trivial
      · exact failWith_truthful rfl
  · exact failWith_truthful rfl

theorem rollback_truthful :
    (rollback rounds ctx).Timely LibpqBackend.tick (BackendFailure.Truthful ctx false)
    (fun _ _ => True) b := by
  unfold rollback
  apply observe_timely.bind
  intro before b₁ _ _
  split
  · exact .pure trivial
  · apply (executeCommand_truthful rounds "ROLLBACK" true).bind
    intro result b₂ _ _
    apply observe_timely.bind
    intro observation b₃ _ _
    split
    · exact .pure trivial
    · exact failWith_truthful rfl

theorem close_truthful :
    close.Timely LibpqBackend.tick (BackendFailure.Truthful ctx merged) (fun _ _ => True) b := by
  unfold close
  apply observe_timely.bind
  intro observation b₁ _ _
  split
  · exact failWith_truthful rfl
  · exact Timely.bind (P := fun _ _ => True) (.update le_rfl trivial) fun _ _ _ _ => .pure trivial

end Operations

end Backend

/-- An operation that fails with the code of a control event tells the truth of the reads it made. -/
theorem runOperation_truthful (rounds : ℕ) (config : Config) (ctx : RequestContext) (operation : Operation)
    (b : LibpqBackend) :
    (runOperation rounds config ctx operation).Timely LibpqBackend.tick
      (BackendFailure.Truthful ctx operation.merges) (fun _ _ => True) b := by
  cases operation with
  | getSchema => exact Backend.getSchema_truthful rounds config
  | openRead => exact Backend.openTransaction_truthful rounds "BEGIN READ ONLY" "read"
  | openWrite => exact Backend.openTransaction_truthful rounds "BEGIN READ WRITE" "write"
  | query request => exact Backend.query_truthful rounds request config
  | commit => exact Backend.commit_truthful rounds
  | rollback => exact Backend.rollback_truthful rounds
  | close => exact Backend.close_truthful

end PgMcp
