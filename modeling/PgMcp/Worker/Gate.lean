import PgMcp.Worker.Guidance

/-!
# The schema gate

A transaction is opened only after the schema was inspected.  The observation flag of the
snapshot remembers an inspection that succeeded: its catalog transaction was committed and
its snapshot fits the limits; the flag is withdrawn with every reply that leaves an outcome
unknown.

## Main definitions

* `Served.Inspected` — an inspection that succeeded.
* `Observes` — an inspection succeeded, and no outcome was left unknown since.

## Main results

* `gated_of_run` — every statement that opens a transaction comes after such an inspection.
-/

namespace PgMcp

open Program Backend

/-- The statement was sent last and completed with its own command tag, without an error, a
COPY result or a control event. -/
def CompletedLast (sql tag : String) (calls : List Call) : Prop :=
  ∃ xact mid blocked commits after older,
    calls = ([.leave, .getResult blocked (.null (some ⟨tag, commits, after⟩))] ++ mid ++
      [.send sql xact]) ++ older ∧ ∀ call ∈ mid, call.smooth = true

/-- An inspection that succeeded: its catalog transaction was committed with the tag COMMIT,
and the snapshot it was answered with passes its validation. -/
structure Served.Inspected (config : Config) (l : Served) : Prop where
  operation : l.operation = .getSchema
  committed : CompletedLast "COMMIT" "COMMIT" l.trace
  validated : ∃ schema : SchemaResult, schema.validate config = .ok () ∧
    Reply.result l.reply = some schema.toJson

/-- An inspection has succeeded, and no request since was answered with an unknown
outcome. -/
def Observes (config : Config) (ls : List Served) : Prop :=
  ∃ pre inspection later, ls = pre ++ inspection :: later ∧ inspection.Inspected config ∧
    ∀ l ∈ later, Reply.outcomeUnknown l.reply = false

theorem Observes.snoc {config : Config} {ls : List Served} {l : Served} (h : Observes config ls)
    (known : Reply.outcomeUnknown l.reply = false) : Observes config (ls ++ [l]) := by
  obtain ⟨pre, inspection, later, rfl, hinspected, hlater⟩ := h
  refine ⟨pre, inspection, later ++ [l], by simp, hinspected, ?_⟩
  rw [List.forall_mem_append, List.forall_mem_singleton]
  exact ⟨hlater, known⟩

theorem Observes.of_inspected {config : Config} {ls : List Served} {l : Served}
    (h : l.Inspected config) : Observes config (ls ++ [l]) := 
  ⟨ls, l, [], rfl, h, by simp⟩

/-! ### Inspections -/

/-- A call that succeeds completes its statement last. -/
theorem completedLast_of_ok {ctl : PollControl} {deadline : ℕ} {sql : String} {w w' : Wire}
    {rs : ResultSet} (h : Exchange ctl deadline sql w (.ok rs) w') :
    CompletedLast sql rs.commandTag w'.calls := by
  obtain ⟨xact, mid, blocked, commits, after, hcalls, hsmooth, -⟩ := status_of_ok h
  exact ⟨xact, mid, blocked, commits, after, w.calls, hcalls, hsmooth⟩

/-- A checked command that succeeds is completed with its first word as its tag. -/
theorem executeChecked_ok {rounds : ℕ} {deadline : ℕ} {ctl : PollControl} {sql : String} {w : Wire} :
    (executeChecked rounds deadline ctl sql).Post w fun r w' =>
      r = .ok () → CompletedLast sql (commandWord sql) w'.calls := by
  rw [executeChecked, post_bind, post_mapError]
  refine (execute_post rounds).mono fun r w' h => ?_
  cases r with
  | error e =>
    intro h
    cases h
  | ok rs =>
    simp only [Except.mapError, andThen_ok, post_require, decide_eq_true_eq]
    refine ⟨fun htag _ => ?_, fun _ h => by cases h⟩
    rw [← htag]
    exact completedLast_of_ok h

theorem rollbackSchema_post {α : Type} {rounds : ℕ} {deadline : ℕ} {ctl : PollControl}
    {e : SchemaError} {w : Wire} :
    (rollbackSchema rounds deadline ctl e : Retrieval α).Post w fun r _ => r = .error e := by
  rw [rollbackSchema]
  refine Post.attempt_bind (post_iff.mpr fun _ _ _ => trivial) fun r w' _ => ?_
  rw [post_fail]

/-- An inspection that succeeds has committed its catalog transaction. -/
theorem retrieve_ok {rounds : ℕ} {config : Config} {deadline : ℕ} {ctl : PollControl} {w : Wire} :
    (retrieve rounds config deadline ctl).Post w fun r w' =>
      r.isOk = true → CompletedLast "COMMIT" "COMMIT" w'.calls := by
  have hrollback : ∀ {e : SchemaError} {w : Wire},
      (rollbackSchema rounds deadline ctl e : Retrieval SchemaResult).Post w fun r w' =>
        r.isOk = true → CompletedLast "COMMIT" "COMMIT" w'.calls := by
    intro e w
    refine rollbackSchema_post.mono ?_
    rintro r w' rfl
    exact nofun
  rw [retrieve]
  refine Post.bind (post_iff.mpr fun _ _ _ => trivial) (fun _ w₁ _ => ?_) fun _ _ _ => nofun
  refine Post.attempt_bind (post_iff.mpr fun _ _ _ => trivial) fun r w₂ _ => ?_
  cases r with
  | error e => exact hrollback
  | ok snapshot =>
    refine Post.attempt_bind executeChecked_ok fun r w₃ h => ?_
    cases r with
    | error e => exact hrollback
    | ok u =>
      simp only [post_pure]
      exact fun _ => h rfl

/-! ### The observation flag -/

/-- What is published with an unknown outcome has no schema observation. -/
theorem settle_schemaObserved {operation : Operation} {unknown : Bool}
    {observation : BackendObservation} {p : PublishedHandle}
    (h : (settle operation unknown observation p).schemaObserved = true) :
    unknown = false ∧ p.schemaObserved = true := by
  cases unknown with
  | false => exact ⟨rfl, h⟩
  | true => cases operation <;> cases h

/-- The end of an operation sets the schema observation only if it is that of an
inspection. -/
theorem record_schemaObserved {config : Config} {p : PublishedHandle}
    {r : Except BackendFailure BackendResult} (h : (p.record config r).schemaObserved = true) :
    p.schemaObserved = true ∨ ∃ schema observation, r = .ok (.schema schema observation) ∧
      (BackendResult.schema schema observation).fits config = true := by
  cases r with
  | error f => exact .inl h
  | ok result =>
    cases result with
    | opened | rolledBack => exact .inl h
    | schema schema observation =>
      cases hfits : (BackendResult.schema schema observation).fits config with
      | true => exact .inr ⟨schema, observation, rfl, hfits⟩
      | false =>
        simp only [PublishedHandle.record, hfits, Bool.false_eq_true, if_false] at h
        exact .inl h
    | query query observation directDdl =>
      unfold PublishedHandle.record at h
      simp only at h
      split at h
      · cases directDdl <;> exact .inl h
      · exact .inl h
    | committed observation =>
      unfold PublishedHandle.record PublishedHandle.updateObservation at h
      cases hdirty : p.schemaDirty <;> simp only [hdirty] at h
      · exact .inl h
      · cases h
    | closed observation cleanupVerified => cases cleanupVerified <;> cases h

theorem accepted_iff {ε : Type} {r : Except ε Unit} : accepted r = true ↔ r = .ok () := by
  cases r <;> simp [accepted]

/-- Only an inspection returns a snapshot of the schema. -/
theorem schema_of_runOperation {rounds : ℕ} {config : Config} {operation : Operation}
    {ctx : RequestContext} {b b' : LibpqBackend} {schema : SchemaResult}
    {observation : BackendObservation}
    (h : (runOperation rounds config ctx operation).Returns b (.ok (.schema schema observation)) b') :
    operation = .getSchema ∧ CompletedLast "COMMIT" "COMMIT" b'.wire.calls := by
  cases operation with
  | openRead | openWrite => cases (openTransaction_post _ _).returns h
  | query request => cases (Backend.query_post request config).returns h
  | commit => cases commit_post.returns h
  | rollback => cases rollback_post.returns h
  | close => cases close_post.returns h
  | getSchema =>
    refine ⟨rfl, ?_⟩
    cases (getSchema_post config).returns h with
    | read _ _ _ retrieved => exact retrieve_ok.returns retrieved rfl

/-- While the flag is set, an inspection has succeeded and no outcome was left unknown
since. -/
theorem Serves.observes {config : Config} {s t : Worker} {ls : List Served} {l : Served}
    (h : Serves config s l t) (before : s.published.schemaObserved = true → Observes config ls)
    (observed : t.published.schemaObserved = true) : Observes config (ls ++ [l]) := by
  obtain ⟨rounds, handled⟩ := h.handled
  obtain ⟨-, hafter, -⟩ := h
  cases handled with
  | refused error refusal conn calls present observation published flag =>
    rw [published] at observed
    obtain ⟨hknown, hobserved⟩ := settle_schemaObserved observed
    exact (before hobserved).snoc (flag.trans hknown)
  | ran r free conn calls present observation returns published flag coded succeeded moves failed state
      result =>
    rw [published] at observed
    obtain ⟨hknown, hrecorded⟩ := settle_schemaObserved observed
    rcases record_schemaObserved hrecorded with hobserved | ⟨schema, o, rfl, hfits⟩
    · exact (before hobserved).snoc (flag.trans hknown)
    · obtain ⟨hop, hcommitted⟩ := schema_of_runOperation returns
      refine .of_inspected ⟨hop, ?_, schema, accepted_iff.mp hfits, ?_⟩
      · rw [Served.trace, hafter]
        exact hcommitted
      · rw [result, endResult, if_pos hfits]
        rfl

theorem observes_of_run {config : Config} {s₀ t : Worker} {ls : List Served} (fresh : s₀.Fresh)
    (run : Run (Serves config) s₀ ls t) (observed : t.published.schemaObserved = true) :
    Observes config ls := by
  refine run.log_invariant (I := fun ls t => t.published.schemaObserved = true → Observes config ls)
    (G := fun _ => True) (fun ls s l t before _ step => step.observes before) (fun _ _ => trivial)
    (fun h => ?_) observed
  rw [fresh.unobserved] at h
  cases h

/-- Every statement an open_read or an open_write sends comes after an inspection that
succeeded, and no request between them was answered with an unknown outcome. -/
theorem gated_of_run {config : Config} {s₀ t : Worker} {ls : List Served} {l : Served}
    (fresh : s₀.Fresh) (run : Run (Serves config) s₀ (ls ++ [l]) t)
    (opens : l.operation = .openRead ∨ l.operation = .openWrite) {sql : String} {xact : Xact}
    (sent : .send sql xact ∈ l.trace) : Observes config ls := by
  obtain ⟨s, earlier, step⟩ := run.snoc_inv
  refine observes_of_run fresh earlier ?_
  obtain ⟨rounds, handled⟩ := step.handled
  obtain ⟨-, hafter, hlive, -⟩ := step
  cases handled with
  | refused error refusal conn calls =>
    rw [Served.trace, hafter, calls] at sent
    cases sent
  | ran r free =>
    have hpre : operationPrecondition s.published l.operation = none :=
      Worker.precondition_of_refusal (s := s.install l.env) free
    unfold operationPrecondition at hpre
    by_contra hnot
    rw [Bool.not_eq_true] at hnot
    rcases opens with hop | hop <;> simp [hop, hlive, hnot] at hpre

/-- A transaction is opened after an inspection. -/
theorem gated_of_run_inspected : ∃ first l t, Run (Serves .default) .opened ([first] ++ [l]) t ∧
    l.operation = .openRead ∧ (∃ sql xact, .send sql xact ∈ l.trace) ∧ Observes .default [first] := by
  obtain ⟨ls, t, hls, henv, run⟩ := exists_play 3 .default (s := .inspected)
    [(.openRead, .calm [.completed "BEGIN" false .inTransaction])]
    (p := fun played => played.1.length == 1 && played.1.all fun l =>
      l.trace.any fun call => call matches .send _ _) (by decide +kernel)
  rw [Bool.and_eq_true, beq_iff_eq] at hls
  obtain ⟨l, rfl⟩ := List.length_eq_one_iff.mp hls.1
  obtain ⟨first, before, -, run⟩ := inspected_run run
  have hop : l.operation = .openRead := by simpa using congrArg (List.map Prod.fst) henv
  obtain ⟨sql, xact, hsent⟩ : ∃ sql xact, .send sql xact ∈ l.trace := by
    have hany := hls.2
    simp only [List.all_cons, List.all_nil, Bool.and_true, List.any_eq_true] at hany
    obtain ⟨call, hmem, hsend⟩ := hany
    split at hsend
    · exact ⟨_, _, hmem⟩
    · cases hsend
  exact ⟨first, _, t, run, hop, ⟨sql, xact, hsent⟩,
    gated_of_run Worker.opened_fresh run (.inl hop) hsent⟩

end PgMcp
