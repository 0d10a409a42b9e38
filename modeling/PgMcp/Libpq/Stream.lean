import PgMcp.Libpq.Exchange
import PgMcp.Libpq.Retention

/-!
# The results of a statement, put together

Whatever the schedule in which they arrive, the results libpq comes back with for a
statement are those of its response, in their order.  When none of them is rejected, what is
collected is put together from all of them: the tuples in their order, the columns of the
first result with fields, and the tag and the affected-row text of the last ones that carry
them.

## Main definitions

* `received` — the results `PQgetResult` comes back with.
* `collectAll`, `consumeAll` — what the fetching loop makes of them.
* `assembled` — the result they add up to.

## Main results

* `fetchResults_collects` — the loop computes `collectAll` of the results received.
* `assembled_of_consumeAll` — what is collected is what the results add up to.
* `collectResults_assembles` — the same for the whole collection, which then saw no control
  event, no failure and no rejected result.
-/

namespace PgMcp

open Program

/-! ### The loop over the results -/

/-- The results `PQgetResult` comes back with, up to the final NULL.  A read that fails
yields an error result and ends the response. -/
def received : List Event → List PgResult
  | [] => []
  | .busy _ :: events => received events
  | .trouble _ :: _ => [.readFailed]
  | .result r :: events => r :: received events

/-- The inner loop of `collect_results` over the results still to come. -/
def collectAll (c : ResultCollector) (first : Option AdapterError) :
    List PgResult → Except AdapterError ResultSet
  | [] => c.outcome first
  | r :: results =>
    match consumeResult c r with
    | (.ok (), c) => collectAll c first results
    | (.error e, c) =>
      if e.errorClass = .copyUnsupported then .error (AdapterError.new .copyUnsupported).unknown
      else collectAll c (some (first.getD e)) results

/-- The collector after results none of which is rejected. -/
def consumeAll (c : ResultCollector) : List PgResult → Option ResultCollector
  | [] => some c
  | r :: results =>
    match consumeResult c r with
    | (.ok (), c) => consumeAll c results
    | (.error _, _) => none

theorem received_eq (events : List Event) : received events =
    match arrival events with
    | .finished => []
    | .trouble _ => [.readFailed]
    | .result r rest => r :: received rest := by
  induction events with
  | nil => rfl
  | cons event events ih =>
    cases event with
    | busy socket => exact ih
    | trouble usable => rfl
    | result r => rfl

theorem received_congr {events events' : List Event} (h : arrival events = arrival events') :
    received events = received events' := by
  rw [received_eq, h, ← received_eq]

/-- The fetching loop computes `collectAll` of the results received. -/
theorem fetchResults_collects {c : PgConn} {s : Statement} {w : Wire}
    (hconn : w.conn = some (c.carrying s)) (rounds : ℕ) (collector : ResultCollector)
    (first : Option AdapterError) :
    (fetchResults rounds collector first).Post w fun r _ =>
      r = collectAll collector first (received s.events) := by
  induction rounds generalizing collector first c s w with
  | zero => trivial
  | succ rounds ih =>
    rw [fetchResults, received_eq]
    refine (pqGetResult_post (.start hconn)).bind ?_ ?_
    swap
    · rintro e w' (⟨h, -⟩ | ⟨_, h, -⟩ | ⟨_, _, h, -⟩) <;> cases h
    rintro result w₁ (⟨h, harr, -⟩ | ⟨usable, h, harr, hfetch⟩ | ⟨r, rest, h, harr, hfetch⟩)
    · cases h
      rw [harr]
      simp only [setBusy, post_bind, post_update, andThen_ok, post_ofExcept]
      rfl
    · cases h
      rw [harr]
      dsimp only
      have hread : consumeResult collector .readFailed =
          (.error { errorClass := .database, sqlstate := none }, collector) := rfl
      rw [hread]
      simp only [collectAll, hread, reduceCtorEq, if_false]
      exact (ih hfetch.conn _ _).mono fun r' w' h => h
    · cases h
      rw [harr]
      dsimp only
      rw [collectAll]
      cases hcopy : r.status.isCopy with
      | true =>
        rw [consumeResult_copy hcopy]
        simp only [errorClass_new, if_true, disposeAndFail, post_bind, post_update, andThen_ok, post_fail]
      | false =>
        have hconn₁ := hfetch.conn
        simp only [hcopy, Bool.false_eq_true, if_false] at hconn₁
        have hplain := (consumeResult_accepts (c := collector) hcopy).1
        rcases hc : consumeResult collector r with ⟨e | _, collector'⟩
        · rw [hc] at hplain
          simp only [(hplain e rfl).2, if_false]
          exact ih hconn₁ _ _
        · exact ih hconn₁ _ _

theorem collectAll_first {c : ResultCollector} {e : AdapterError} {results : List PgResult}
    {rs : ResultSet} : collectAll c (some e) results ≠ .ok rs := by
  induction results generalizing c with
  | nil => nofun
  | cons r results ih =>
    rw [collectAll]
    split
    · exact ih
    · split
      · nofun
      · exact ih

/-- A result is returned exactly when no result is rejected. -/
theorem collectAll_eq_ok_iff {c : ResultCollector} {results : List PgResult} {rs : ResultSet} :
    collectAll c none results = .ok rs ↔ ∃ c', consumeAll c results = some c' ∧ c'.finish = rs := by
  induction results generalizing c with
  | nil => simp [collectAll, consumeAll, ResultCollector.outcome]
  | cons r results ih =>
    rw [collectAll, consumeAll]
    rcases hc : consumeResult c r with ⟨e | _, c'⟩
    · refine iff_of_false ?_ (by simp)
      dsimp only
      split
      · nofun
      · exact collectAll_first
    · exact ih

/-! ### What results add up to -/

/-- Results with tuples. -/
def PgResult.carriesRows (r : PgResult) : Bool :=
  r.status == .singleTuple || r.status == .tuplesChunk || r.status == .tuplesOk

/-- The tuples of a result. -/
def PgResult.rows (r : PgResult) : List (List Cell) := if r.carriesRows then r.tuples else []

/-- The fields of a result with tuples. -/
def PgResult.fields (r : PgResult) : List (Option String × ℕ) := if r.carriesRows then r.columns else []

/-- The tag of a result that carries one. -/
def PgResult.tag (r : PgResult) : Option String := if r.carriesTag then r.cmdStatus else none

/-- The affected-row text of a result that carries one. -/
def PgResult.affected (r : PgResult) : Option String :=
  if r.carriesTag then r.cmdTuples.filter (!·.isEmpty) else none

/-- The value of a cell; SQL NULL is not the empty text. -/
def Cell.value : Cell → Option (Option String)
  | .null => some none
  | .text s => some (some s)
  | .invalidUtf8 _ => none

/-- The values of a tuple, unless one of them is not UTF-8. -/
def readTuple (tuple : List Cell) : Option (List (Option String)) := tuple.mapM Cell.value

/-- A column, unless its name is not UTF-8. -/
def fieldColumn (field : Option String × ℕ) : Option ResultColumn := field.1.map (⟨·, field.2⟩)

/-- The fields of the first result that has any. -/
def firstFields (results : List PgResult) : List (Option String × ℕ) :=
  ((results.map PgResult.fields).find? (!·.isEmpty)).getD []

/-- All tuples in their order, the columns of the first result with fields, and the tag and
the affected-row text of the last results that carry them. -/
def assembled (results : List PgResult) : Option ResultSet := do
  let rows ← (results.flatMap PgResult.rows).mapM readTuple
  let columns ← (firstFields results).mapM fieldColumn
  return {
    columns
    rows
    commandTag := (results.filterMap PgResult.tag).getLast?.getD ""
    affectedRows := (results.filterMap PgResult.affected).getLast? }

/-! ### One result -/

namespace ResultCollector

theorem readRow_eq_ok {limits : QueryLimits} : ∀ {cells : List Cell} {row : List (Option String)},
    readRow limits cells = .ok row → readTuple cells = some row := by
  intro cells
  induction cells with
  | nil =>
    intro row h
    cases h
    rfl
  | cons cell cells ih =>
    intro row h
    have hrest : ∀ {v : Option String}, (do return v :: (← readRow limits cells)) = .ok row →
        ∃ row', readTuple cells = some row' ∧ row = v :: row' := by
      intro v h
      cases hr : readRow limits cells with
      | error e =>
        rw [hr] at h
        cases h
      | ok row' =>
        rw [hr] at h
        cases h
        exact ⟨row', ih hr, rfl⟩
    have hcons : ∀ {v : Option String} {row'}, Cell.value cell = some v → readTuple cells = some row' →
        readTuple (cell :: cells) = some (v :: row') := by
      intro v row' hv hrow
      rw [readTuple, List.mapM_cons, hv, Option.bind_eq_bind, Option.bind_some, ← readTuple, hrow]
      rfl
    cases cell with
    | null =>
      obtain ⟨row', hrow, rfl⟩ := hrest h
      exact hcons rfl hrow
    | text s =>
      simp only [readRow] at h
      split at h
      · cases h
      · obtain ⟨row', hrow, rfl⟩ := hrest h
        exact hcons rfl hrow
    | invalidUtf8 n =>
      simp only [readRow] at h
      split at h <;> cases h

/-- The collector `c'` has the rows of `tuples` after those of `c`, and nothing else new. -/
structure AddsRows (c : ResultCollector) (tuples : List (List Cell)) (c' : ResultCollector) : Prop where
  rows : ∃ rows, tuples.mapM readTuple = some rows ∧ c'.rows = c.rows ++ rows
  columns : c'.columns = c.columns
  commandTag : c'.commandTag = c.commandTag
  affectedRows : c'.affectedRows = c.affectedRows

theorem addTuples_ok : ∀ {tuples : List (List Cell)} {c c' : ResultCollector},
    c.addTuples tuples = (.ok (), c') → c.AddsRows tuples c' := by
  intro tuples
  induction tuples with
  | nil =>
    intro c c' h
    cases h
    exact ⟨⟨[], rfl, by simp⟩, rfl, rfl, rfl⟩
  | cons tuple tuples ih =>
    intro c c' h
    rw [addTuples] at h
    split at h
    · cases h
    · cases hr : readRow c.limits tuple with
      | error e =>
        rw [hr] at h
        cases h
      | ok row =>
        rw [hr] at h
        dsimp only at h
        split at h
        · obtain ⟨⟨rows, hrows, happ⟩, hcolumns, htag, haffected⟩ := ih h
          refine ⟨⟨row :: rows, ?_, by simpa using happ⟩, hcolumns, htag, haffected⟩
          rw [List.mapM_cons, readRow_eq_ok hr, Option.bind_eq_bind, Option.bind_some, hrows]
          rfl
        · cases h

/-- The collector `c'` has the columns of `fields` after those of `c`, and nothing else new. -/
structure AddsColumns (c : ResultCollector) (fields : List (Option String × ℕ)) (c' : ResultCollector) :
    Prop where
  columns : ∃ columns, fields.mapM fieldColumn = some columns ∧ c'.columns = c.columns ++ columns
  rows : c'.rows = c.rows
  commandTag : c'.commandTag = c.commandTag
  affectedRows : c'.affectedRows = c.affectedRows

theorem addColumns_ok : ∀ {fields : List (Option String × ℕ)} {c c' : ResultCollector},
    c.addColumns fields = (.ok (), c') → c.AddsColumns fields c' := by
  intro fields
  induction fields with
  | nil =>
    intro c c' h
    cases h
    exact ⟨⟨[], rfl, by simp⟩, rfl, rfl, rfl⟩
  | cons field fields ih =>
    intro c c' h
    rcases field with ⟨_ | name, typeOid⟩
    · cases h
    · rw [addColumns] at h
      split at h
      · obtain ⟨⟨columns, hcolumns, happ⟩, hrows, htag, haffected⟩ := ih h
        refine ⟨⟨⟨name, typeOid⟩ :: columns, ?_, by simpa using happ⟩, hrows, htag, haffected⟩
        rw [List.mapM_cons, hcolumns]
        rfl
      · cases h

/-- What the rows of a result add to the collector. -/
structure AddsResult (c : ResultCollector) (r : PgResult) (c' : ResultCollector) : Prop where
  rows : ∃ rows, r.tuples.mapM readTuple = some rows ∧ c'.rows = c.rows ++ rows
  columns : if c.columns = [] then r.columns.mapM fieldColumn = some c'.columns
    else c'.columns = c.columns
  commandTag : c'.commandTag = c.commandTag
  affectedRows : c'.affectedRows = c.affectedRows

theorem consumeRows_ok {c c' : ResultCollector} {r : PgResult} (h : c.consumeRows r = (.ok (), c')) :
    c.AddsResult r c' := by
  unfold consumeRows at h
  split at h
  · cases h
  split at h
  · next hfirst =>
    have hnone : c.columns = [] := List.isEmpty_iff.mp hfirst.1
    rcases hc : c.addColumns r.columns with ⟨e | _, c₁⟩
    · rw [hc] at h
      cases h
    · rw [hc] at h
      obtain ⟨⟨columns, hcolumns, happ⟩, hrows₁, htag₁, haffected₁⟩ := addColumns_ok hc
      obtain ⟨hrows, hcolumns', htag, haffected⟩ := addTuples_ok h
      refine ⟨by rwa [hrows₁] at hrows, ?_, htag.trans htag₁, haffected.trans haffected₁⟩
      rw [if_pos hnone, hcolumns', happ, hnone, List.nil_append, hcolumns]
  split at h
  · cases h
  · next hfirst hwidth =>
    obtain ⟨hrows, hcolumns, htag, haffected⟩ := addTuples_ok h
    refine ⟨hrows, ?_, htag, haffected⟩
    split
    · next hnone =>
      -- no columns are retained, and the result has no fields
      have hlength : r.columns.length = c.columns.length := by omega
      rw [hnone, List.length_nil, List.length_eq_zero_iff] at hlength
      rw [hlength, hcolumns, hnone]
      rfl
    · exact hcolumns

/-- What the tag and the affected-row text of a result add to the collector. -/
structure AddsCommand (c : ResultCollector) (r : PgResult) (c' : ResultCollector) : Prop where
  commandTag : c'.commandTag = r.cmdStatus ∧ r.cmdStatus.isSome = true
  affectedRows : c'.affectedRows = (r.cmdTuples.filter (!·.isEmpty)).or c.affectedRows
  rows : c'.rows = c.rows
  columns : c'.columns = c.columns

theorem consumeCommand_ok {c c' : ResultCollector} {r : PgResult}
    (h : c.consumeCommand r = (.ok (), c')) : c.AddsCommand r c' := by
  unfold consumeCommand at h
  split at h
  · cases h
  next tag htag =>
  dsimp only at h
  split at h
  swap
  · cases h
  unfold consumeAffected at h
  split at h
  · cases h
  next affected haffected =>
  split at h
  · next hempty =>
    cases h
    exact ⟨⟨htag.symm, by rw [htag]; rfl⟩, by simp [haffected, Option.filter_some, hempty], rfl, rfl⟩
  · next hempty =>
    split at h
    · cases h
    · dsimp only at h
      split at h
      · cases h
        exact ⟨⟨htag.symm, by rw [htag]; rfl⟩, by simp [haffected, Option.filter_some, hempty], rfl, rfl⟩
      · cases h

/-- What one result adds to the collector. -/
structure Adds (c : ResultCollector) (r : PgResult) (c' : ResultCollector) : Prop where
  accepted : r.status.accepted = true
  rows : ∃ rows, r.rows.mapM readTuple = some rows ∧ c'.rows = c.rows ++ rows
  columns : if c.columns = [] then r.fields.mapM fieldColumn = some c'.columns
    else c'.columns = c.columns
  commandTag : c'.commandTag = r.tag.or c.commandTag
  affectedRows : c'.affectedRows = r.affected.or c.affectedRows

theorem consumeResult_ok {c c' : ResultCollector} {r : PgResult} (h : consumeResult c r = (.ok (), c')) :
    c.Adds r c' := by
  have tuples : ∀ {c' : ResultCollector}, r.carriesRows = true → r.carriesTag = false →
      r.status.accepted = true → c.consumeRows r = (.ok (), c') → c.Adds r c' := by
    intro c' hrows htag haccepted h
    obtain ⟨rows, columns, tag, affected⟩ := consumeRows_ok h
    exact ⟨haccepted, by rwa [PgResult.rows, hrows, if_pos rfl], by rwa [PgResult.fields, hrows, if_pos rfl],
      by simpa [PgResult.tag, htag] using tag, by simpa [PgResult.affected, htag] using affected⟩
  unfold consumeResult at h
  cases hs : r.status with
  | singleTuple | tuplesChunk =>
    rw [hs] at h
    exact tuples (by simp [PgResult.carriesRows, hs]) (by simp [PgResult.carriesTag, hs]) (by rw [hs]; rfl) h
  | commandOk =>
    rw [hs] at h
    obtain ⟨⟨htag, hsome⟩, haffected, hrows, hcolumns⟩ := consumeCommand_ok h
    have hno : r.carriesRows = false := by simp [PgResult.carriesRows, hs]
    have hcarries : r.carriesTag = true := by simp [PgResult.carriesTag, hs]
    refine ⟨by rw [hs]; rfl, ⟨[], by simp [PgResult.rows, hno], by simpa using hrows⟩, ?_, ?_, ?_⟩
    · split
      · next hnone => simp [PgResult.fields, hno, hcolumns, hnone]
      · exact hcolumns
    · rw [htag, PgResult.tag, hcarries, if_pos rfl]
      obtain ⟨tag, htag⟩ := Option.isSome_iff_exists.mp hsome
      rw [htag, Option.some_or]
    · rw [haffected, PgResult.affected, hcarries, if_pos rfl]
  | tuplesOk =>
    rw [hs] at h
    dsimp only at h
    rcases hr : c.consumeRows r with ⟨e | _, c₁⟩
    · rw [hr] at h
      cases h
    · rw [hr] at h
      obtain ⟨hrows₁, hcolumns₁, htag₁, haffected₁⟩ := consumeRows_ok hr
      obtain ⟨⟨htag, hsome⟩, haffected, hrows, hcolumns⟩ := consumeCommand_ok h
      have hyes : r.carriesRows = true := by simp [PgResult.carriesRows, hs]
      have hcarries : r.carriesTag = true := by simp [PgResult.carriesTag, hs]
      refine ⟨by rw [hs]; rfl, ?_, ?_, ?_, ?_⟩
      · rw [PgResult.rows, hyes, if_pos rfl, hrows]
        exact hrows₁
      · rw [PgResult.fields, hyes, if_pos rfl, hcolumns]
        exact hcolumns₁
      · rw [htag, PgResult.tag, hcarries, if_pos rfl]
        obtain ⟨tag, htag⟩ := Option.isSome_iff_exists.mp hsome
        rw [htag, Option.some_or]
      · rw [haffected, PgResult.affected, hcarries, if_pos rfl, haffected₁]
  | copyIn | copyOut | copyBoth | fatalError | badResponse | nonfatalError | emptyQuery | pipelineSync
  | pipelineAborted =>
    rw [hs] at h
    cases h

end ResultCollector

/-! ### All results -/

theorem getLast?_filterMap_cons {α β : Type} (f : α → Option β) (a : α) (l : List α) :
    ((a :: l).filterMap f).getLast? = ((l.filterMap f).getLast?).or (f a) := by
  rw [List.filterMap_cons]
  cases f a with
  | none => simp
  | some b => cases hl : (l.filterMap f).getLast? <;> simp [List.getLast?_cons, hl]

theorem firstFields_cons (r : PgResult) (results : List PgResult) :
    firstFields (r :: results) = if r.fields = [] then firstFields results else r.fields := by
  unfold firstFields
  rw [List.map_cons, List.find?_cons]
  cases r.fields with
  | nil => rfl
  | cons field fields => rfl

theorem fieldColumns_eq_nil_iff {fields : List (Option String × ℕ)} {columns : List ResultColumn}
    (h : fields.mapM fieldColumn = some columns) : columns = [] ↔ fields = [] := by
  cases fields with
  | nil =>
    cases h
    simp
  | cons field fields =>
    rw [List.mapM_cons] at h
    obtain ⟨column, -, h⟩ := Option.bind_eq_some_iff.mp h
    obtain ⟨rest, -, h⟩ := Option.bind_eq_some_iff.mp h
    cases h
    simp

/-- What is collected is put together from all results. -/
theorem consumeAll_ok : ∀ {results : List PgResult} {c c' : ResultCollector},
    consumeAll c results = some c' →
      (∀ r ∈ results, r.status.accepted = true) ∧
      (∃ rows, (results.flatMap PgResult.rows).mapM readTuple = some rows ∧ c'.rows = c.rows ++ rows) ∧
      (if c.columns = [] then (firstFields results).mapM fieldColumn = some c'.columns
        else c'.columns = c.columns) ∧
      c'.commandTag = ((results.filterMap PgResult.tag).getLast?).or c.commandTag ∧
      c'.affectedRows = ((results.filterMap PgResult.affected).getLast?).or c.affectedRows := by
  intro results
  induction results with
  | nil =>
    intro c c' h
    cases h
    refine ⟨by simp, ⟨[], rfl, by simp⟩, ?_, by simp, by simp⟩
    split
    · next hnone => rw [hnone]; rfl
    · rfl
  | cons r results ih =>
    intro c c' h
    rw [consumeAll] at h
    rcases hr : consumeResult c r with ⟨e | _, c₁⟩
    · rw [hr] at h
      cases h
    · rw [hr] at h
      obtain ⟨haccepted, ⟨rows₁, hrows₁, happ₁⟩, hcolumns₁, htag₁, haffected₁⟩ :=
        ResultCollector.consumeResult_ok hr
      obtain ⟨hall, ⟨rows, hrows, happ⟩, hcolumns, htag, haffected⟩ := ih h
      refine ⟨by simpa using ⟨haccepted, hall⟩, ⟨rows₁ ++ rows, ?_, by rw [happ, happ₁, List.append_assoc]⟩,
        ?_, ?_, ?_⟩
      · rw [List.flatMap_cons, List.mapM_append, hrows₁, hrows]
        rfl
      · rw [firstFields_cons]
        split
        · next hnone =>
          rw [if_pos hnone] at hcolumns₁
          split
          · next hfields => rwa [if_pos ((fieldColumns_eq_nil_iff hcolumns₁).mpr hfields)] at hcolumns
          · next hfields =>
            rw [if_neg (mt (fieldColumns_eq_nil_iff hcolumns₁).mp hfields)] at hcolumns
            rw [hcolumns, hcolumns₁]
        · next hsome =>
          rw [if_neg hsome] at hcolumns₁
          rw [if_neg (hcolumns₁ ▸ hsome)] at hcolumns
          rw [hcolumns, hcolumns₁]
      · rw [htag, htag₁, getLast?_filterMap_cons, Option.or_assoc]
      · rw [haffected, haffected₁, getLast?_filterMap_cons, Option.or_assoc]

/-- What is collected from nothing on is what the results add up to. -/
theorem assembled_of_consumeAll {limits : QueryLimits} {results : List PgResult} {c : ResultCollector}
    (h : consumeAll (.new limits) results = some c) :
    (∀ r ∈ results, r.status.accepted = true) ∧ assembled results = some c.finish := by
  obtain ⟨hall, ⟨rows, hrows, happ⟩, hcolumns, htag, haffected⟩ := consumeAll_ok h
  refine ⟨hall, ?_⟩
  rw [if_pos (show (ResultCollector.new limits).columns = [] from rfl)] at hcolumns
  have hrows' : c.rows = rows := happ
  rw [assembled, hrows, hcolumns]
  show some _ = some _
  unfold ResultCollector.finish
  rw [hrows', htag, haffected]
  simp [ResultCollector.new]

theorem checked_consumeAll {results : List PgResult} {c c' : ResultCollector}
    (h : consumeAll c results = some c') : c.Checked c' := by
  induction results generalizing c with
  | nil =>
    cases h
    exact .refl _
  | cons r results ih =>
    have hr := checked_consumeResult c r
    rw [consumeAll] at h
    rcases hc : consumeResult c r with ⟨e | _, c₁⟩
    · rw [hc] at h
      cases h
    · rw [hc] at h hr
      exact hr.trans (ih h)

/-- Retained rows are as wide as the retained columns. -/
theorem width_of_consumeAll {limits : QueryLimits} {results : List PgResult} {c : ResultCollector}
    (h : consumeAll (.new limits) results = some c) : ∀ row ∈ c.rows, row.length = c.columns.length := by
  rcases (checked_consumeAll h).fits with rfl | hfits
  · simp [ResultCollector.new]
  · exact (QueryResult.validate_iff.mp hfits).shape

/-! ### The whole collection -/

/-- A read that fails leaves its error result. -/
theorem readFailed_mem_received {usable : Bool} {events : List Event} (h : .trouble usable ∈ events) :
    ∃ r ∈ received events, r.status.accepted = false := by
  induction events with
  | nil => cases h
  | cons event events ih =>
    cases event with
    | busy socket => exact ih (by simpa using h)
    | trouble usable => exact ⟨.readFailed, by simp [received], rfl⟩
    | result r =>
      obtain ⟨r', hr', hrejected⟩ := ih (by simpa using h)
      exact ⟨r', by simp [received, hr'], hrejected⟩

/-- The results `rs` was collected from: none is an error or a COPY result, the collector has
rejected none, and `rs` is what they add up to. -/
structure CollectedFrom (limits : QueryLimits) (results : List PgResult) (rs : ResultSet) : Prop where
  accepted : ∀ r ∈ results, r.status.accepted = true
  retained : ∃ c, consumeAll (.new limits) results = some c ∧ c.finish = rs
  assembled : assembled results = some rs
  width : ∀ row ∈ rs.rows, row.length = rs.columns.length

theorem collectedFrom_of_collectAll {limits : QueryLimits} {results : List PgResult} {rs : ResultSet}
    (h : collectAll (.new limits) none results = .ok rs) : CollectedFrom limits results rs := by
  obtain ⟨c, hall, rfl⟩ := collectAll_eq_ok_iff.mp h
  obtain ⟨haccepted, hassembled⟩ := assembled_of_consumeAll hall
  exact ⟨haccepted, ⟨c, hall, rfl⟩, hassembled, width_of_consumeAll hall⟩

theorem collectResults_collects {ctl : PollControl} {deadline : ℕ} {c : PgConn} {s : Statement} {w : Wire}
    (hok : c.ok = true) (hconn : w.conn = some (c.carrying s)) (rounds : ℕ) (limits : QueryLimits) :
    (collectResults rounds limits deadline ctl).Post w fun r _ =>
      ∀ rs, r = .ok rs → collectAll (.new limits) none (received s.events) = .ok rs := by
  rw [collectResults]
  refine (flushOutput_post hok hconn rounds).bind ?_ fun e w' _ => by simp
  rintro u w₁ (⟨flush, hconn₁, -⟩ | _ | _)
  refine (awaitResult_post (s := { s with flush := flush }) hok hconn₁ rounds).bind ?_ fun e w' _ => by simp
  rintro seen w₂ (⟨_, waits, rest, noted, arrives, -, hconn₂, -⟩ | _ | _)
  refine (fetchResults_collects hconn₂ rounds (.new limits) seen.firstError).mono ?_
  rintro r w₃ hr rs rfl
  rw [received_congr arrives] at hr
  cases hfirst : seen.firstError with
  | none => rw [hr, hfirst]
  | some e =>
    rw [hfirst] at hr
    exact absurd hr.symm collectAll_first

/-- When the collection of a response returns a result, the response was read to its final
NULL, no read failed and no control event was found on the way, and the result is what the
results of the response add up to. -/
theorem collectResults_assembles {ctl : PollControl} {deadline rounds : ℕ} {limits : QueryLimits}
    {c : PgConn} {s : Statement} {w w' : Wire} {rs : ResultSet} (usable : c.ok = true)
    (whole : s.lost = false) (unfetched : s.tag = "") (inFlight : w.conn = some (c.carrying s))
    (h : (collectResults rounds limits deadline ctl).Returns w (.ok rs) w') :
    CollectedFrom limits (received s.events) rs ∧ (∀ usable, .trouble usable ∉ s.events) ∧
      ∃ blocked mid, w'.calls =
          .getResult blocked (.null (some ⟨rs.commandTag, s.commits, s.after⟩)) :: mid ++ w.calls ∧
        ∀ call ∈ mid, call.smooth = true := by
  have hcollected := collectedFrom_of_collectAll
    ((collectResults_collects usable inFlight rounds limits).returns h rs rfl)
  refine ⟨hcollected, fun usable hmem => ?_, ?_⟩
  · obtain ⟨r, hr, hrejected⟩ := readFailed_mem_received hmem
    rw [hcollected.accepted r hr] at hrejected
    cases hrejected
  · obtain ⟨last, mid, -, hcalls, hending⟩ :=
      (collectResults_post usable whole unfetched inFlight rounds limits).returns h
    generalize hr : Except.ok rs = r at hending
    cases hending with
    | interrupted | failed | disposed => cases hr
    | drained blocked completion _ _ _ _ ok =>
      obtain ⟨rfl, hsmooth⟩ := ok rs hr.symm
      exact ⟨blocked, mid, hcalls, hsmooth⟩

/-- The fields of two columns. -/
def twoFields : List (Option String × ℕ) := [(some "id", 23), (some "note", 25)]

/-- A response of two rows, the second of them late. -/
def twoRows : List Event :=
  [.result { status := .singleTuple, columns := twoFields, tuples := [[.text "1", .null]], shape := by decide },
    .busy (some (.ready true)),
    .result { status := .singleTuple, columns := twoFields, tuples := [[.text "2", .text ""]], shape := by decide },
    .result { status := .tuplesOk, columns := twoFields, cmdStatus := some "SELECT 2", cmdTuples := some "2" }]

def answeringTwoRows : Wire :=
  { Wire.fresh [] [] with
    conn := some
      { ok := true
        xact := .idle
        activity := .running
          ({ events := twoRows, after := .idle : Answer }.statement "SELECT id, note FROM notes") } }

def collectingTwoRows : Adapter ResultSet :=
  collectResults 6 (.unbounded 100) 1000 (.libpq (.timed none none 1000))

def twoRowsCollected : ResultSet where
  columns := [⟨"id", 23⟩, ⟨"note", 25⟩]
  rows := [[some "1", none], [some "2", some ""]]
  commandTag := "SELECT 2"
  affectedRows := some "2"

theorem collectResults_assembles_twoRows :
    CollectedFrom (.unbounded 100) (received twoRows) twoRowsCollected ∧
      (∀ usable, .trouble usable ∉ twoRows) ∧
      ∃ blocked mid, (collectingTwoRows.last answeringTwoRows).calls =
          .getResult blocked (.null (some ⟨"SELECT 2", false, .idle⟩)) :: mid ++ answeringTwoRows.calls ∧
        ∀ call ∈ mid, call.smooth = true :=
  collectResults_assembles
    (c := { ok := true, xact := .idle, activity := .resting none })
    (s := { events := twoRows, after := .idle : Answer }.statement "SELECT id, note FROM notes")
    rfl rfl rfl rfl (returns_of_result? (by decide +kernel))

end PgMcp
