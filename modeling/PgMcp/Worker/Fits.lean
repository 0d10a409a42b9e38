import PgMcp.Config.Profiles
import PgMcp.Libpq.Retention
import PgMcp.Worker.Publication

/-!
# Results fit their limits

The adapter retains nothing of a result that does not fit the limits of the handle, and an
inspection checks the snapshot it has assembled.  The worker makes the same checks again
before it publishes a result; they never reject one.

## Main results

* `query_yields`, `retrieve_yields` — what the adapter and the inspection return fits.
* `runOperation_fits` — the worker rejects no result of the backend.
* `retained_validates` — what a collector retains fits after every call, accepted or not.
-/

namespace PgMcp

open Checks Program Backend

/-! ### Query results -/

/-- The results retained up to the final NULL fit. -/
theorem fetchResults_yields {limits : QueryLimits} (rounds : ℕ) (collector : ResultCollector)
    (firstError : Option AdapterError)
    (h : firstError = none → (ResultCollector.new limits).Keeps collector ∧ collector.Fits) :
    (fetchResults rounds collector firstError).Yields fun rs =>
      (Backend.publicResult rs).validate (ResultCollector.new limits).config = .ok () := by
  induction rounds generalizing collector firstError with
  | zero => exact .outOfRounds
  | succ rounds ih =>
    rw [fetchResults]
    refine .bind fun result => ?_
    cases result with
    | none =>
      refine .bind fun _ => .ofExcept fun rs hrs => ?_
      cases firstError with
      | some e => cases hrs
      | none =>
        cases hrs
        obtain ⟨keeps, fits⟩ := h rfl
        have hconfig : collector.config = (ResultCollector.new limits).config := by
          unfold ResultCollector.config
          rw [keeps.limits]
        rw [← hconfig]
        exact fits
    | some r =>
      dsimp only
      cases hcopy : r.status.isCopy with
      | true =>
        rw [consumeResult_copy hcopy]
        exact .bind fun _ => .fail _
      | false =>
        have haccepts := consumeResult_accepts (c := collector) hcopy
        rcases hc : consumeResult collector r with ⟨e | _, collector'⟩
        · rw [hc] at haccepts
          simp only [(haccepts.1 e rfl).2, if_false]
          exact ih collector' _ (by simp)
        · rw [hc] at haccepts
          obtain ⟨-, -, hkeeps⟩ := haccepts.2 rfl
          exact ih collector' firstError fun hnone =>
            ⟨(h hnone).1.trans hkeeps, hkeeps.fits (h hnone).2⟩

/-- What a query returns fits the limits of the handle. -/
theorem query_yields {config : Config} (inRange : config.InRange) (rounds : ℕ) (sql : String)
    (parameters : List Parameter) (deadline : ℕ) (ctl : PollControl) :
    (Connection.query rounds sql parameters (Backend.queryLimits config) deadline ctl).Yields
      fun rs => (Backend.publicResult rs).validate config = .ok () := by
  have hbytes : 1024 ≤ config.resultJsonBytes := (inRange .resultJsonBytes).1
  have hcollect : (collectResults rounds (Backend.queryLimits config) deadline ctl).Yields fun rs =>
      (Backend.publicResult rs).validate config = .ok () :=
    .bind fun _ => .bind fun seen => fetchResults_yields rounds _ _ fun _ =>
      ⟨.refl _, ResultCollector.fits_new hbytes⟩
  have hchecked : (sendChecked rounds sql (Backend.queryLimits config) true deadline ctl).Yields
      fun rs => (Backend.publicResult rs).validate config = .ok () := by
    refine .bind fun _ => .bind fun _ => .bind fun _ => .bind fun _ => .bind fun _ => .bind fun _ =>
      .bind fun single => ?_
    cases single with
    | true => exact .through hcollect.attempt fun result h => .bind fun _ => .ofExcept h
    | false => exact .bind fun _ => .fail _
  refine .through (Yields.attempt (.bind fun _ => .bind fun _ => .bind fun _ => hchecked))
    fun result h => .bind fun _ => .ofExcept h

/-! ### Snapshots -/

/-- A snapshot is checked when it is assembled. -/
theorem validate_of_assemble {config : Config} {relations columns constraints : List CatalogRow}
    {schema : SchemaResult} (h : assemble config relations columns constraints = .ok schema) :
    schema.validate config = .ok () := by
  unfold assemble at h
  obtain ⟨related, -, h⟩ := bind_eq_ok_iff.mp h
  obtain ⟨described, -, h⟩ := bind_eq_ok_iff.mp h
  obtain ⟨constrained, -, h⟩ := bind_eq_ok_iff.mp h
  obtain ⟨u, hvalid, h⟩ := bind_eq_ok_iff.mp h
  cases h
  unfold validateSchema at hvalid
  cases hresult : (schemaFromMaps constrained).validate config with
  | ok => rfl
  | error e =>
    rw [hresult] at hvalid
    cases hvalid

/-- What an inspection returns fits the limits of the handle. -/
theorem retrieve_yields (rounds : ℕ) (config : Config) (deadline : ℕ) (ctl : PollControl) :
    (retrieve rounds config deadline ctl).Yields fun schema => schema.validate config = .ok () := by
  have hinner : (retrieveInner rounds config deadline ctl).Yields fun schema =>
      schema.validate config = .ok () :=
    .bind fun _ => .bind fun _ => .bind fun _ => .ofExcept fun _ => validate_of_assemble
  have hrollback : ∀ e, (rollbackSchema rounds deadline ctl e : Retrieval SchemaResult).Yields
      fun schema => schema.validate config = .ok () := fun e => .bind fun _ => .fail e
  refine .bind fun _ => .through hinner.attempt fun result h => ?_
  cases result with
  | error e => exact hrollback e
  | ok schema =>
    refine .bind fun committed => ?_
    cases committed with
    | error e => exact hrollback e
    | ok => exact .pure (h schema rfl)

/-! ### Operations -/

/-- A result that is rejected is a snapshot or a query result. -/
theorem record_outgrown {rounds : ℕ} {config : Config} {ctx : RequestContext} {operation : Operation}
    {b b' : LibpqBackend} {r : Except BackendFailure BackendResult} (p : PublishedHandle)
    (h : (runOperation rounds config ctx operation).Returns b r b')
    (hout : outgrown config r = true) :
    p.record config r = p ∧ leavesUnknown r = false ∧
      (operation = .getSchema ∨ ∃ request, operation = .query request) := by
  -- only a schema and a row set are measured
  have never : ∀ {result : BackendResult}, result.fits config = true →
    outgrown config (.ok result) ≠ true := by
    intro result hfits
    simp [outgrown, hfits]
  cases operation with
  | openRead | openWrite =>
    rcases (openTransaction_post _ _).returns h with _ | ⟨rs, _, _, _, _⟩ | ⟨r, f, _, _, _⟩
    · cases hout
    · exact absurd hout (never rfl)
    · cases hout
  | getSchema =>
    rcases (getSchema_post config).returns h with _ | ⟨schema, _, _, _⟩ | ⟨e, _, _, _⟩
    · cases hout
    · refine ⟨?_, rfl, .inl rfl⟩
      have hfits : (BackendResult.schema schema b'.observation).fits config = false := by
        simpa [outgrown] using hout
      simp [PublishedHandle.record, hfits]
    · cases hout
  | query request =>
    rcases (Backend.query_post request config).returns h with
      _ | ⟨rs, _, _, _⟩ | ⟨e, f', unknown, _, _, _⟩ | ⟨e, e', _, _, _⟩
    · cases hout
    · refine ⟨?_, rfl, .inr ⟨request, rfl⟩⟩
      have hfits : (BackendResult.query (publicResult rs) b'.observation
          (directDdlCommandTag rs.commandTag)).fits config = false := by
        simpa [outgrown] using hout
      simp [PublishedHandle.record, hfits]
    · cases hout
    · cases hout
  | commit =>
    rcases commit_post.returns h with _ | ⟨rs, _, _, _, _⟩ | ⟨r, state, _, _⟩
    · cases hout
    · exact absurd hout (never rfl)
    · cases hout
  | rollback =>
    rcases rollback_post.returns h with _ | _ | ⟨rs, _, _, _⟩ | ⟨r, f', _, _, _⟩
    · exact absurd hout (never rfl)
    · cases hout
    · exact absurd hout (never rfl)
    · cases hout
  | close =>
    rcases close_post.returns h with _ | _
    · cases hout
    · exact absurd hout (never rfl)

/-- The worker rejects no result of the backend. -/
theorem runOperation_fits {rounds : ℕ} {config : Config} (inRange : config.InRange)
    {ctx : RequestContext} {operation : Operation} {b b' : LibpqBackend}
    {r : Except BackendFailure BackendResult}
    (h : (runOperation rounds config ctx operation).Returns b r b') : outgrown config r = false := by
  cases hout : outgrown config r with
  | false => rfl
  | true =>
    have hyields : (runOperation rounds config ctx operation).Yields fun result =>
        result.fits config = true := by
      obtain ⟨-, -, rfl | ⟨request, rfl⟩⟩ := record_outgrown Worker.opened.published h hout
      · have hretrieve := retrieve_yields rounds config ctx.deadline (.libpq ctx)
        refine .through (P := fun schema => schema.validate config = .ok ()) ?_ fun schema h =>
          .bind fun observation => .pure (by simp [BackendResult.fits, h, accepted])
        refine .bind fun present => ?_
        cases present with
        | true => exact hretrieve.zoom.mapError
        | false => exact .bind fun _ => .fail _
      · refine .bind fun present => ?_
        cases present with
        | false => exact .bind fun _ => .fail _
        | true =>
          refine .through (query_yields inRange rounds request.sql request.parameters ctx.deadline
            (.libpq ctx)).zoom.attempt fun result h => ?_
          cases result with
          | ok rs => exact .bind fun observation => .pure (by simp [BackendResult.fits, h rs rfl, accepted])
          | error e => exact .bind fun _ => .bind fun _ => .fail _
    cases r with
    | error f => cases hout
    | ok result =>
      unfold outgrown at hout
      simp only [hyields.returns h, Bool.not_true, Bool.false_eq_true] at hout

/-- Whatever is called on a collector and whatever the calls answer, what is retained passes the
validation of the handle, and so does every query result of the backend. -/
theorem retained_validates {config : Config} (inRange : config.InRange) :
    (∀ calls : List CollectorCall,
      ((ResultCollector.new (queryLimits config)).afterCalls calls).candidate.validate config = .ok ()) ∧
      ∀ {rounds : ℕ} {ctx : RequestContext} {operation : Operation} {b b' : LibpqBackend}
        {query : QueryResult} {observation : BackendObservation} {directDdl : Bool},
        (runOperation rounds config ctx operation).Returns b (.ok (.query query observation directDdl)) b' →
          query.validate config = .ok () := by
  constructor
  · intro calls
    obtain ⟨hlimits, hfits⟩ := (ResultCollector.new (queryLimits config)).checked_afterCalls calls
    have hfits : ((ResultCollector.new (queryLimits config)).afterCalls calls).Fits := by
      rcases hfits with heq | hfits
      · rw [heq]
        exact ResultCollector.fits_new (inRange .resultJsonBytes).1
      · exact hfits
    unfold ResultCollector.Fits ResultCollector.config at hfits
    rw [hlimits] at hfits
    exact hfits
  · intro rounds ctx operation b b' query observation directDdl h
    have hfits := runOperation_fits inRange h
    cases hvalid : query.validate config with
    | ok u => rfl
    | error e => simp [outgrown, BackendResult.fits, accepted, hvalid] at hfits

theorem retained_validates_default :
    (∀ calls : List CollectorCall,
      ((ResultCollector.new (queryLimits .default)).afterCalls calls).candidate.validate .default = .ok ()) ∧
      ∀ {rounds : ℕ} {ctx : RequestContext} {operation : Operation} {b b' : LibpqBackend}
        {query : QueryResult} {observation : BackendObservation} {directDdl : Bool},
        (runOperation rounds .default ctx operation).Returns b (.ok (.query query observation directDdl))
          b' → query.validate .default = .ok () :=
  retained_validates Config.default_inRange

end PgMcp
