import PgMcp.Json.Size
import PgMcp.Lib.Checks
import PgMcp.Libpq.Collector

/-!
# What a collector retains

The collector validates each candidate before it retains it, and takes a rejected one out
again.  So whatever the calls on it answer, what is retained afterwards is what was retained
before, or has passed the validation.

## Main definitions

* `QueryResult.Fits` — the limits and the shape of a result, without the order of the checks.
* `Checked` — the collector after a call.

## Main results

* `validate_iff` — a result passes its validation exactly when it fits.
* `checked_consumeRows`, `checked_consumeCommand` — the calls, whatever they answer.
-/

namespace PgMcp

open Checks

/-! ### The validation of a result -/

/-- The limits and the shape of a result. -/
structure QueryResult.Fits (r : QueryResult) (config : Config) : Prop where
  columns : r.columns.length ≤ config.columns
  rows : r.rows.length ≤ config.resultRows
  names : ∀ c ∈ r.columns, c.name.utf8ByteSize ≤ config.cellBytes
  tag : r.commandTag.utf8ByteSize ≤ config.cellBytes
  affected : ∀ a, r.affectedRows = some a → isDecimalText a = true ∧ a.utf8ByteSize ≤ config.cellBytes
  shape : ∀ row ∈ r.rows, row.length = r.columns.length
  cells : ∀ row ∈ r.rows, ∀ s, some s ∈ row → s.utf8ByteSize ≤ config.cellBytes
  bytes : r.toJson.canonicalJsonBytes ≤ config.resultJsonBytes

theorem checkCell_eq_ok_iff {limit : ℕ} {s : String} {u : Unit} :
    checkCell limit s = .ok u ↔ s.utf8ByteSize ≤ limit := by
  unfold checkCell
  split
  · next h => exact ⟨nofun, fun hle => by omega⟩
  · next h => exact ⟨fun _ => by omega, fun _ => rfl⟩

/-- A row of the right width with cells within the limit. -/
theorem checkRow_eq_ok_iff {limit width : ℕ} {row : List (Option String)} :
    checkRow limit width row = .ok () ↔
      row.length = width ∧ ∀ s, some s ∈ row → s.utf8ByteSize ≤ limit := by
  unfold checkRow
  by_cases hwidth : row.length = width
  · rw [if_neg (not_not_intro hwidth)]
    refine (bind_eq_ok_iff.trans (exists_congr fun u => and_congr_left' (forIn_eq_ok_iff
      (fun value : Option String => ∀ s, value = some s → s.utf8ByteSize ≤ limit) ?_ ?_))).trans ?_
    · rintro (_ | s) hs
      · rfl
      · show (checkCell limit s >>= fun _ => pure (ForInStep.yield ())) = _
        rw [(checkCell_eq_ok_iff (u := ())).mpr (hs s rfl)]
        rfl
    · rintro (_ | s) hs
      · simp at hs
      · refine ⟨.resultLimit, ?_⟩
        show (checkCell limit s >>= fun _ => pure (ForInStep.yield ())) = _
        rw [checkCell, if_pos (by simpa using hs)]
        rfl
    · constructor
      · rintro ⟨u, hcells, -⟩
        exact ⟨hwidth, fun s hs => hcells _ hs s rfl⟩
      · rintro ⟨-, hcells⟩
        exact ⟨(), fun value hvalue s hs => hcells s (hs ▸ hvalue), rfl⟩
  · rw [if_pos hwidth]
    exact ⟨nofun, fun h => absurd h.1 hwidth⟩

/-- A result passes its validation exactly when it fits. -/
theorem QueryResult.validate_iff {r : QueryResult} {config : Config} :
    r.validate config = .ok () ↔ r.Fits config := by
  unfold validate
  by_cases hsize : (decide (config.columns < r.columns.length) ||
      decide (config.resultRows < r.rows.length)) = true
  · rw [if_pos hsize]
    refine ⟨nofun, fun h => ?_⟩
    have hcolumns := h.columns
    have hrows := h.rows
    simp only [Bool.or_eq_true, decide_eq_true_eq] at hsize
    omega
  by_cases haffected : (!r.affectedRows.all isDecimalText) = true
  · rw [if_neg hsize, if_pos haffected]
    refine ⟨nofun, fun h => ?_⟩
    cases ha : r.affectedRows with
    | none => simp [ha] at haffected
    | some a => simp [ha, (h.affected a ha).1] at haffected
  rw [if_neg hsize, if_neg haffected]
  have hbytes : ∀ {u : Unit}, (if config.resultJsonBytes < r.toJson.canonicalJsonBytes then
      throw ValidationError.resultLimit else pure () : Except ValidationError Unit) = .ok u ↔
        r.toJson.canonicalJsonBytes ≤ config.resultJsonBytes := by
    intro u
    split
    · next h => exact ⟨nofun, fun hle => by omega⟩
    · next h => exact ⟨fun _ => by omega, fun _ => rfl⟩
  simp only [Bool.or_eq_true, decide_eq_true_eq, not_or, not_lt] at hsize
  have hfits : r.Fits config ↔ (∀ c ∈ r.columns, c.name.utf8ByteSize ≤ config.cellBytes) ∧
      r.commandTag.utf8ByteSize ≤ config.cellBytes ∧
      (∀ a, r.affectedRows = some a → a.utf8ByteSize ≤ config.cellBytes) ∧
      (∀ row ∈ r.rows, row.length = r.columns.length ∧ ∀ s, some s ∈ row →
        s.utf8ByteSize ≤ config.cellBytes) ∧
      r.toJson.canonicalJsonBytes ≤ config.resultJsonBytes := by
    constructor
    · rintro ⟨-, -, names, tag, affected, shape, cells, bytes⟩
      exact ⟨names, tag, fun a ha => (affected a ha).2, fun row hrow =>
        ⟨shape row hrow, cells row hrow⟩, bytes⟩
    · rintro ⟨names, tag, affected, rows, bytes⟩
      refine ⟨hsize.1, hsize.2, names, tag, fun a ha => ⟨?_, affected a ha⟩,
        fun row hrow => (rows row hrow).1, fun row hrow => (rows row hrow).2, bytes⟩
      simpa [ha] using haffected
  rw [hfits]
  cases ha : r.affectedRows with
  | none =>
    simp only [bind_eq_ok_iff, forIn_check_eq_ok_iff, checkCell_eq_ok_iff, checkRow_eq_ok_iff, hbytes]
    grind
  | some a =>
    simp only [bind_eq_ok_iff, forIn_check_eq_ok_iff, checkCell_eq_ok_iff, checkRow_eq_ok_iff, hbytes]
    grind

/-! ### The calls on a collector -/

namespace ResultCollector

/-- With nothing retained, the limits are kept. -/
theorem fits_new {limits : QueryLimits} (h : 1024 ≤ limits.resultJsonBytes) :
    (new limits).Fits := by
  have hsize : (new limits).candidate.toJson.canonicalJsonBytes ≤ 1024 := by
    show Json.canonicalJsonBytes (.obj [("columns", .arr []), ("rows", .arr []),
      ("command_tag", .str ""), ("affected_rows", .null)]) ≤ 1024
    decide
  have hbytes : ¬ limits.resultJsonBytes <
      (new limits).candidate.toJson.canonicalJsonBytes := by omega
  unfold Fits QueryResult.validate
  show (if limits.resultJsonBytes < _ then _ else _ : Except ValidationError Unit) = _
  rw [if_neg hbytes]
  rfl

/-- The collector `c'` after a call on `c`: nothing has changed, or what is retained has passed
the validation. -/
structure Checked (c c' : ResultCollector) : Prop where
  limits : c'.limits = c.limits
  fits : c' = c ∨ c'.Fits

theorem Checked.refl (c : ResultCollector) : c.Checked c := ⟨rfl, .inl rfl⟩

theorem Checked.trans {c c' c'' : ResultCollector} (h : c.Checked c') (h' : c'.Checked c'') :
    c.Checked c'' := by
  refine ⟨h'.limits.trans h.limits, ?_⟩
  rcases h'.fits with rfl | hfits
  · exact h.fits
  · exact .inr hfits

/-- A candidate is retained after its check. -/
theorem Checked.candidate (c : ResultCollector) {c' : ResultCollector}
    (check : c'.ensureCandidateFits = .ok ()) (limits : c'.limits = c.limits) : c.Checked c' :=
  ⟨limits, .inr (fits_of_ensureCandidateFits check)⟩

theorem checked_addColumns (fields : List (Option String × ℕ)) (c : ResultCollector) :
    c.Checked (c.addColumns fields).2 := by
  induction fields generalizing c with
  | nil => exact .refl c
  | cons field fields ih =>
    rcases field with ⟨_ | name, typeOid⟩
    · exact .refl c
    · rw [addColumns]
      cases h : ResultCollector.ensureCandidateFits _ with
      | ok u => exact (Checked.candidate c h rfl).trans (ih _)
      | error e => exact .refl c

theorem checked_addTuples (tuples : List (List Cell)) (c : ResultCollector) :
    c.Checked (c.addTuples tuples).2 := by
  induction tuples generalizing c with
  | nil => exact .refl c
  | cons tuple tuples ih =>
    rw [addTuples]
    split
    · exact .refl c
    · cases readRow c.limits tuple with
      | error e => exact .refl c
      | ok row =>
        dsimp only
        cases h : ResultCollector.ensureCandidateFits _ with
        | ok u => exact (Checked.candidate c h rfl).trans (ih _)
        | error e => exact .refl c

/-- The columns that were retained before the first rejected one stay. -/
theorem checked_consumeRows (c : ResultCollector) (r : PgResult) : c.Checked (c.consumeRows r).2 := by
  unfold consumeRows
  split
  · exact .refl c
  split
  · have hcolumns := checked_addColumns r.columns c
    rcases hc : c.addColumns r.columns with ⟨e | _, c'⟩ <;> rw [hc] at hcolumns
    · exact hcolumns
    · exact hcolumns.trans (checked_addTuples r.tuples c')
  split
  · exact .refl c
  · exact checked_addTuples r.tuples c

theorem checked_consumeAffected (c : ResultCollector) (r : PgResult) :
    c.Checked (c.consumeAffected r).2 := by
  unfold consumeAffected
  split
  · exact .refl c
  split
  · exact .refl c
  split
  · exact .refl c
  · dsimp only
    cases h : ResultCollector.ensureCandidateFits _ with
    | ok u => exact .candidate c h rfl
    | error e => exact .refl c

/-- The tag stays when the affected-row text is rejected. -/
theorem checked_consumeCommand (c : ResultCollector) (r : PgResult) :
    c.Checked (c.consumeCommand r).2 := by
  unfold consumeCommand
  split
  · exact .refl c
  · dsimp only
    cases h : ResultCollector.ensureCandidateFits _ with
    | ok u => exact (Checked.candidate c h rfl).trans (checked_consumeAffected _ r)
    | error e => exact .refl c

end ResultCollector

/-- The collector after one result, whether it was rejected or not. -/
theorem checked_consumeResult (c : ResultCollector) (r : PgResult) : c.Checked (consumeResult c r).2 := by
  unfold consumeResult
  cases r.status with
  | singleTuple | tuplesChunk => exact c.checked_consumeRows r
  | commandOk => exact c.checked_consumeCommand r
  | tuplesOk =>
    have hrows := c.checked_consumeRows r
    dsimp only
    rcases hc : c.consumeRows r with ⟨e | _, c'⟩ <;> rw [hc] at hrows
    · exact hrows
    · exact hrows.trans (c'.checked_consumeCommand r)
  | copyIn | copyOut | copyBoth | fatalError | badResponse | nonfatalError | emptyQuery | pipelineSync
  | pipelineAborted => exact .refl c

/-! ### Sequences of calls -/

/-- A call on a collector. -/
inductive CollectorCall where
  | consumeRows (r : PgResult)
  | consumeCommand (r : PgResult)

def CollectorCall.run (c : ResultCollector) :
    CollectorCall → Except AdapterError Unit × ResultCollector
  | .consumeRows r => c.consumeRows r
  | .consumeCommand r => c.consumeCommand r

/-- The collector after calls, whatever they answered. -/
def ResultCollector.afterCalls (c : ResultCollector) (calls : List CollectorCall) : ResultCollector :=
  calls.foldl (fun c call => (call.run c).2) c

theorem ResultCollector.checked_afterCalls (c : ResultCollector) (calls : List CollectorCall) :
    c.Checked (c.afterCalls calls) := by
  induction calls generalizing c with
  | nil => exact .refl c
  | cons call calls ih =>
    have hcall : c.Checked (call.run c).2 := by
      cases call with
      | consumeRows r => exact c.checked_consumeRows r
      | consumeCommand r => exact c.checked_consumeCommand r
    exact hcall.trans (ih _)

end PgMcp
