import PgMcp.Backend
import PgMcp.Config.Profiles
import PgMcp.Libpq.Stream

/-!
# The budget of a result

The collector validates its candidate after every column, row, tag and count.  The canonical
size only grows on the way to the complete result, with one exception: until the affected-row
text is retained `null` stands in its place, which is one byte longer than a text of one
digit.

## Main definitions

* `WellFormed` — the results of one statement, without an error.
* `Towards` — a collector on the way to a result.

## Main results

* `collectAll_assembled_iff` — when the complete result fits, the collector accepts every step
  unless the text has one digit and the result is exactly as long as it may be.
-/

namespace PgMcp

open Backend Json Ordered

/-! ### The canonical size of a result -/

/-- The length of the affected-row text, or of `null`. -/
def affectedBytes : Option String → ℕ
  | none => 4
  | some text => quotedBytes text

/-- The length of a result without its keys and brackets. -/
def QueryResult.parts (r : QueryResult) : ℕ :=
  separated (r.columns.map fun c => c.toJson.canonicalJsonBytes) +
    separated (r.rows.map fun row => (Json.arr (row.map Json.optStr)).canonicalJsonBytes) +
    quotedBytes r.commandTag + affectedBytes r.affectedRows

theorem canonicalJsonBytes_optStr (text : Option String) :
    (Json.optStr text).canonicalJsonBytes = affectedBytes text := by
  cases text with
  | none => exact canonicalJsonBytes_null
  | some text => rfl

theorem QueryResult.bytes_eq (r : QueryResult) : r.toJson.canonicalJsonBytes = 56 + r.parts := by
  have hkeys : quotedBytes "columns" = 9 ∧ quotedBytes "rows" = 6 ∧ quotedBytes "command_tag" = 13 ∧
      quotedBytes "affected_rows" = 15 := by decide
  obtain ⟨hcolumns, hrows, htag, haffected⟩ := hkeys
  unfold QueryResult.toJson QueryResult.parts
  simp only [canonicalJsonBytes_obj, canonicalJsonBytes_arr, canonicalJsonBytes_str,
    canonicalJsonBytes_optStr, List.map_cons, List.map_nil, List.map_map, Function.comp_def,
    separated_cons_cons, separated_singleton, hcolumns, hrows, htag, haffected]
  omega

/-- A decimal text is at most one byte shorter than `null`. -/
theorem affectedBytes_decimal {text : String} (h : isDecimalText text = true) :
    affectedBytes (some text) = 2 + text.length ∧ 1 ≤ text.length := by
  unfold isDecimalText at h
  obtain ⟨hne, hdigits⟩ := Bool.and_eq_true_iff.mp h
  refine ⟨quotedBytes_digits hdigits, ?_⟩
  have hempty : text ≠ "" := by simpa using hne
  rw [← String.length_toList]
  exact List.length_pos_iff.mpr (by simpa using hempty)

/-! ### On the way to a result -/

/-- The collector has retained part of `rs`. -/
structure Towards (c : ResultCollector) (rs : ResultSet) : Prop where
  columns : c.columns <+: rs.columns
  rows : c.rows <+: rs.rows
  ready : c.rows = [] ∨ c.columns = rs.columns
  commandTag : c.commandTag = none ∨ c.commandTag = some rs.commandTag
  affectedRows : c.affectedRows = none ∨ c.affectedRows = rs.affectedRows

/-- Until the affected-row text is retained, one more byte may be needed. -/
def Room (limits : QueryLimits) (rs : ResultSet) : Prop :=
  rs.affectedRows.all (fun text => text.length ≠ 1) = true ∨
    (publicResult rs).toJson.canonicalJsonBytes < limits.resultJsonBytes

theorem Towards.parts {c : ResultCollector} {rs : ResultSet} (h : Towards c rs) :
    c.candidate.parts ≤ (publicResult rs).parts + (4 - affectedBytes rs.affectedRows) := by
  have hcolumns := separated_subperm (fun c : ResultColumn => c.toJson.canonicalJsonBytes)
    h.columns.sublist.subperm
  have hrows := separated_subperm
    (fun row : List (Option String) => (Json.arr (row.map Json.optStr)).canonicalJsonBytes)
    h.rows.sublist.subperm
  have htag : quotedBytes (c.commandTag.getD "") ≤ quotedBytes rs.commandTag := by
    rcases h.commandTag with htag | htag <;> rw [htag]
    · rw [quotedBytes_eq rs.commandTag]
      exact Nat.le_add_right _ _
    · rfl
  have haffected : affectedBytes c.affectedRows ≤
      affectedBytes rs.affectedRows + (4 - affectedBytes rs.affectedRows) := by
    rcases h.affectedRows with haffected | haffected <;> rw [haffected]
    · show 4 ≤ _
      omega
    · omega
  unfold QueryResult.parts ResultCollector.candidate publicResult
  dsimp only
  omega

theorem readRow_complete {limits : QueryLimits} {tuple : List Cell} {row : List (Option String)}
    (hread : readTuple tuple = some row)
    (hcells : ∀ s, some s ∈ row → s.utf8ByteSize ≤ limits.cellBytes) :
    ResultCollector.readRow limits tuple = .ok row := by
  induction tuple generalizing row with
  | nil =>
    cases hread
    rfl
  | cons cell tuple ih =>
    rw [readTuple, List.mapM_cons] at hread
    obtain ⟨value, hvalue, hread⟩ := Option.bind_eq_some_iff.mp hread
    obtain ⟨rest, hrest, hrow⟩ := Option.bind_eq_some_iff.mp hread
    cases hrow
    have htail := ih hrest fun s hs => hcells s (List.mem_cons_of_mem _ hs)
    cases cell with
    | null =>
      cases hvalue
      rw [ResultCollector.readRow, htail]
      rfl
    | text s =>
      cases hvalue
      have hsize := hcells s (by simp)
      rw [ResultCollector.readRow, if_neg (by omega), htail]
      rfl
    | invalidUtf8 n => cases hvalue

section Accepted

variable {limits : QueryLimits} {rs : ResultSet}
  (complete : (publicResult rs).Fits (ResultCollector.new limits).config) (room : Room limits rs)

include complete room

/-- What is retained on the way to a result that fits with room, fits. -/
theorem Towards.fits {c : ResultCollector} (h : Towards c rs) (hlimits : c.limits = limits) : c.Fits := by
  have hconfig : c.config = (ResultCollector.new limits).config := by
    unfold ResultCollector.config
    rw [hlimits]
    rfl
  unfold ResultCollector.Fits
  rw [QueryResult.validate_iff, hconfig]
  have hbytes : c.candidate.toJson.canonicalJsonBytes ≤ limits.resultJsonBytes := by
    have hparts := h.parts
    have hfinal : (publicResult rs).toJson.canonicalJsonBytes ≤ limits.resultJsonBytes := complete.bytes
    rw [QueryResult.bytes_eq] at hfinal ⊢
    -- `null` is longer than a one-digit text only
    rcases room with hlong | hshort
    · have hfour : 4 ≤ affectedBytes rs.affectedRows := by
        cases htext : rs.affectedRows with
        | none => exact le_refl _
        | some text =>
          obtain ⟨heq, hpos⟩ := affectedBytes_decimal (complete.affected text htext).1
          rw [htext] at hlong
          have hone : text.length ≠ 1 := by simpa using hlong
          omega
      omega
    · have hthree : 3 ≤ affectedBytes rs.affectedRows := by
        cases htext : rs.affectedRows with
        | none => exact Nat.le_succ 3
        | some text =>
          obtain ⟨heq, hpos⟩ := affectedBytes_decimal (complete.affected text htext).1
          omega
      rw [QueryResult.bytes_eq] at hshort
      omega
  exact {
    columns := h.columns.length_le.trans complete.columns
    rows := h.rows.length_le.trans complete.rows
    names := fun x hx => complete.names x (h.columns.subset hx)
    tag := by
      show (c.commandTag.getD "").utf8ByteSize ≤ _
      rcases h.commandTag with htag | htag <;> rw [htag]
      · exact Nat.zero_le _
      · exact complete.tag
    affected := fun text htext => by
      have htext : c.affectedRows = some text := htext
      rcases h.affectedRows with hnone | hsame
      · rw [hnone] at htext
        cases htext
      · exact complete.affected text (hsame.symm.trans htext)
    shape := fun row hrow => by
      rcases h.ready with hnone | hcolumns
      · have hrow : row ∈ c.rows := hrow
        rw [hnone] at hrow
        cases hrow
      · exact (complete.shape row (h.rows.subset hrow)).trans (congrArg List.length hcolumns.symm)
    cells := fun row hrow => complete.cells row (h.rows.subset hrow)
    bytes := hbytes }

theorem Towards.ensureCandidateFits {c : ResultCollector} (h : Towards c rs) (hlimits : c.limits = limits) :
    c.ensureCandidateFits = .ok () := by
  have hfits : c.candidate.validate c.config = .ok () := h.fits complete room hlimits
  unfold ResultCollector.ensureCandidateFits
  rw [hfits]

theorem addColumns_towards : ∀ {fields : List (Option String × ℕ)} {columns : List ResultColumn}
    {c : ResultCollector}, fields.mapM fieldColumn = some columns → c.columns ++ columns <+: rs.columns →
    c.rows = [] → Towards c rs → c.limits = limits →
    c.addColumns fields = (.ok (), { c with columns := c.columns ++ columns }) := by
  intro fields
  induction fields with
  | nil =>
    intro columns c hfields _ _ _ _
    cases hfields
    simp [ResultCollector.addColumns]
  | cons field fields ih =>
    intro columns c hfields hprefix hempty htowards hlimits
    rw [List.mapM_cons] at hfields
    obtain ⟨column, hcolumn, hfields⟩ := Option.bind_eq_some_iff.mp hfields
    obtain ⟨rest, hrest, hcolumns⟩ := Option.bind_eq_some_iff.mp hfields
    cases hcolumns
    rcases field with ⟨_ | name, typeOid⟩
    · cases hcolumn
    · cases hcolumn
      have happ : c.columns ++ ⟨name, typeOid⟩ :: rest = (c.columns ++ [⟨name, typeOid⟩]) ++ rest := by simp
      rw [happ] at hprefix ⊢
      have hnext : Towards { c with columns := c.columns ++ [⟨name, typeOid⟩] } rs :=
        { htowards with
          columns := (List.prefix_append _ _).trans hprefix
          ready := .inl hempty }
      rw [ResultCollector.addColumns]
      simp only [hnext.ensureCandidateFits complete room hlimits]
      exact ih hrest hprefix hempty hnext hlimits

theorem addTuples_towards : ∀ {tuples : List (List Cell)} {rows : List (List (Option String))}
    {c : ResultCollector}, tuples.mapM readTuple = some rows → c.rows ++ rows <+: rs.rows →
    c.columns = rs.columns → Towards c rs → c.limits = limits →
    c.addTuples tuples = (.ok (), { c with rows := c.rows ++ rows }) := by
  intro tuples
  induction tuples with
  | nil =>
    intro rows c htuples _ _ _ _
    cases htuples
    simp [ResultCollector.addTuples]
  | cons tuple tuples ih =>
    intro rows c htuples hprefix hcolumns htowards hlimits
    rw [List.mapM_cons] at htuples
    obtain ⟨row, hrow, htuples⟩ := Option.bind_eq_some_iff.mp htuples
    obtain ⟨rest, hrest, hrows⟩ := Option.bind_eq_some_iff.mp htuples
    cases hrows
    have happ : c.rows ++ row :: rest = (c.rows ++ [row]) ++ rest := by simp
    have hroom : ¬ c.limits.resultRows ≤ c.rows.length := by
      have hlength := hprefix.length_le
      have htotal : rs.rows.length ≤ limits.resultRows := complete.rows
      simp only [List.length_append, List.length_cons] at hlength
      rw [hlimits]
      omega
    rw [happ] at hprefix ⊢
    have hmem : row ∈ rs.rows := hprefix.subset (by simp)
    have hread : ResultCollector.readRow c.limits tuple = .ok row := by
      rw [hlimits]
      exact readRow_complete hrow fun s hs => complete.cells row hmem s hs
    have hnext : Towards { c with rows := c.rows ++ [row] } rs :=
      { htowards with
        rows := (List.prefix_append _ _).trans hprefix
        ready := .inr hcolumns }
    rw [ResultCollector.addTuples, if_neg hroom, hread]
    simp only [hnext.ensureCandidateFits complete room hlimits]
    exact ih hrest hprefix hcolumns hnext hlimits

/-- What is left of a result that is collected so far. -/
structure Pending (limits : QueryLimits) (c : ResultCollector) (results : List PgResult) (rs : ResultSet) :
    Prop where
  limits : c.limits = limits
  rows : ∃ rows, (results.flatMap PgResult.rows).mapM readTuple = some rows ∧ c.rows ++ rows = rs.rows
  columns : c.columns = rs.columns ∨
    c.columns = [] ∧ c.rows = [] ∧ (firstFields results).mapM fieldColumn = some rs.columns
  width : ∀ r ∈ results, r.carriesRows = true → r.columns.length = rs.columns.length
  commandTag : c.commandTag = none
  affectedRows : c.affectedRows = none

omit complete room in
theorem Pending.towards {c : ResultCollector} {results : List PgResult}
    (h : Pending limits c results rs) : Towards c rs where
  columns := by
    rcases h.columns with hcolumns | ⟨hcolumns, -, -⟩ <;> rw [hcolumns]
    exact List.nil_prefix
  rows := by
    obtain ⟨rows, -, hrows⟩ := h.rows
    exact ⟨rows, hrows⟩
  ready := h.columns.symm.imp (fun h => h.2.1) id
  commandTag := .inl h.commandTag
  affectedRows := .inl h.affectedRows

/-- The rows of the next result are retained. -/
theorem consumeRows_pending {c : ResultCollector} {r : PgResult} {results : List PgResult}
    (h : Pending limits c (r :: results) rs) (hrows : r.carriesRows = true) :
    ∃ c', c.consumeRows r = (.ok (), c') ∧ c'.columns = rs.columns ∧ Pending limits c' results rs := by
  obtain ⟨all, hall, happ⟩ := h.rows
  rw [List.flatMap_cons, List.mapM_append] at hall
  obtain ⟨rows, hthis, hall⟩ := Option.bind_eq_some_iff.mp hall
  obtain ⟨rest, hrest, hall⟩ := Option.bind_eq_some_iff.mp hall
  cases hall
  rw [PgResult.rows, hrows, if_pos rfl] at hthis
  have hwidth := h.width r (by simp) hrows
  have hlimit : ¬ c.limits.columns < r.columns.length := by
    have hcolumns : rs.columns.length ≤ limits.columns := complete.columns
    rw [h.limits]
    omega
  -- the tuples are retained once the columns are there
  have tuples : ∀ {c' : ResultCollector}, c'.columns = rs.columns → c'.rows = c.rows → c'.commandTag = none →
      c'.affectedRows = none → c'.limits = limits →
      c'.addTuples r.tuples = (.ok (), { c' with rows := c'.rows ++ rows }) ∧
        Pending limits { c' with rows := c'.rows ++ rows } results rs := by
    intro c' hcolumns' hrows' htag' haffected' hlimits'
    have hprefix : c'.rows ++ rows <+: rs.rows := ⟨rest, by rw [hrows', List.append_assoc, happ]⟩
    have htowards : Towards c' rs :=
      { columns := by rw [hcolumns']
        rows := (List.prefix_append _ _).trans hprefix
        ready := .inr hcolumns'
        commandTag := .inl htag'
        affectedRows := .inl haffected' }
    refine ⟨addTuples_towards complete room hthis hprefix hcolumns' htowards hlimits', ?_⟩
    exact
      { limits := hlimits'
        rows := ⟨rest, hrest, by rw [hrows', List.append_assoc, happ]⟩
        columns := .inl hcolumns'
        width := fun r' hr' => h.width r' (List.mem_cons_of_mem _ hr')
        commandTag := htag'
        affectedRows := haffected' }
  unfold ResultCollector.consumeRows
  rw [if_neg hlimit]
  by_cases hfirst : c.columns.isEmpty ∧ 0 < r.columns.length
  · have hempty : c.columns = [] := List.isEmpty_iff.mp hfirst.1
    have hfields : r.fields = r.columns := by rw [PgResult.fields, hrows, if_pos rfl]
    have hcolumns : r.columns.mapM fieldColumn = some rs.columns := by
      rcases h.columns with hcolumns | ⟨-, -, hcolumns⟩
      · rw [hempty] at hcolumns
        have hnone : rs.columns.length = 0 := by rw [← hcolumns]; rfl
        omega
      · rw [firstFields_cons, if_neg] at hcolumns
        · rwa [hfields] at hcolumns
        · rw [hfields]
          exact List.ne_nil_of_length_pos hfirst.2
    have hnorows : c.rows = [] := by
      rcases h.columns with hcolumns | ⟨-, hnorows, -⟩
      · rw [hempty] at hcolumns
        have hnone : rs.columns.length = 0 := by rw [← hcolumns]; rfl
        omega
      · exact hnorows
    have hadd := addColumns_towards complete room hcolumns (by rw [hempty]; exact List.prefix_refl _) hnorows
      h.towards h.limits
    rw [hempty, List.nil_append] at hadd
    obtain ⟨htuples, hpending⟩ := @tuples { c with columns := rs.columns } rfl rfl h.commandTag
      h.affectedRows h.limits
    rw [if_pos hfirst, hadd]
    exact ⟨_, htuples, rfl, hpending⟩
  · have hcolumns : c.columns = rs.columns := by
      rcases h.columns with hcolumns | ⟨hempty, -, -⟩
      · exact hcolumns
      · have hnone : rs.columns.length = 0 := by
          simp only [hempty, List.isEmpty_nil, true_and, Nat.not_lt] at hfirst
          omega
        rw [hempty, List.length_eq_zero_iff.mp hnone]
    obtain ⟨htuples, hpending⟩ := tuples hcolumns rfl h.commandTag h.affectedRows h.limits
    rw [if_neg hfirst, if_neg (by rw [hcolumns, hwidth]; simp)]
    exact ⟨_, htuples, hcolumns, hpending⟩

/-- The tag and the affected-row text of the last result are retained. -/
theorem consumeCommand_complete {c : ResultCollector} {r : PgResult} (hlimits : c.limits = limits)
    (hcolumns : c.columns = rs.columns) (hrows : c.rows = rs.rows) (hnone : c.affectedRows = none)
    (htag : r.cmdStatus = some rs.commandTag) (hsome : r.cmdTuples.isSome = true)
    (haffected : r.cmdTuples.filter (!·.isEmpty) = rs.affectedRows) :
    ∃ c', c.consumeCommand r = (.ok (), c') ∧ c'.finish = rs := by
  obtain ⟨text, htext⟩ := Option.isSome_iff_exists.mp hsome
  have htagged : Towards { c with commandTag := some rs.commandTag } rs :=
    { columns := by rw [hcolumns]
      rows := by rw [hrows]
      ready := .inr hcolumns
      commandTag := .inr rfl
      affectedRows := .inl hnone }
  unfold ResultCollector.consumeCommand
  rw [htag]
  simp only [htagged.ensureCandidateFits complete room hlimits]
  unfold ResultCollector.consumeAffected
  rw [htext]
  dsimp only
  rw [htext, Option.filter_some] at haffected
  cases hempty : text.isEmpty with
  | true =>
    rw [hempty] at haffected
    have hsame : c.affectedRows = rs.affectedRows := hnone.trans haffected
    exact ⟨_, rfl, by simp [ResultCollector.finish, hcolumns, hrows, hsame]⟩
  | false =>
    rw [hempty] at haffected
    have haffected : some text = rs.affectedRows := haffected
    have hdecimal : text.toList.all Char.isDigit = true :=
      (Bool.and_eq_true_iff.mp (complete.affected text haffected.symm).1).2
    have hcounted : Towards { c with commandTag := some rs.commandTag, affectedRows := some text } rs :=
      { htagged with affectedRows := .inr haffected }
    simp only [hdecimal, Bool.not_true, Bool.false_eq_true, if_false,
      hcounted.ensureCandidateFits complete room hlimits]
    exact ⟨_, rfl, by simp [ResultCollector.finish, hcolumns, hrows, haffected]⟩

end Accepted

/-! ### The results of one statement -/

/-- The results of one statement, without an error: tuples of one width, and last the result
that carries the tag; texts are UTF-8, and the affected-row text is decimal or empty. -/
structure WellFormed (results : List PgResult) : Prop where
  statuses : ∃ init last, results = init ++ [last] ∧
    (∀ r ∈ init, r.status = .singleTuple ∨ r.status = .tuplesChunk) ∧
    (last.status = .tuplesOk ∨ last.status = .commandOk)
  width : ∃ width, ∀ r ∈ results, r.carriesRows = true → r.columns.length = width
  utf8Names : ∀ r ∈ results, ∀ field ∈ r.columns, field.1.isSome = true
  utf8Cells : ∀ r ∈ results, ∀ tuple ∈ r.tuples, ∀ cell ∈ tuple, (Cell.value cell).isSome = true
  utf8Tags : ∀ r ∈ results, r.cmdStatus.isSome = true ∧ r.cmdTuples.isSome = true
  decimal : ∀ r ∈ results, ∀ text, r.cmdTuples = some text → text.toList.all Char.isDigit = true

/-- Tuples of a result that is not the last one. -/
theorem carriesRows_of_streamed {r : PgResult} (h : r.status = .singleTuple ∨ r.status = .tuplesChunk) :
    r.carriesRows = true ∧ r.carriesTag = false ∧ ∀ c, consumeResult c r = c.consumeRows r := by
  rcases h with h | h <;> simp [PgResult.carriesRows, PgResult.carriesTag, consumeResult, h]

theorem consumeAll_append {c : ResultCollector} {results results' : List PgResult} :
    consumeAll c (results ++ results') = (consumeAll c results).bind fun c => consumeAll c results' := by
  induction results generalizing c with
  | nil => rfl
  | cons r results ih =>
    rw [List.cons_append, consumeAll, consumeAll]
    rcases consumeResult c r with ⟨e | _, c'⟩
    · rfl
    · exact ih

/-- Only the last result carries a tag and an affected-row text. -/
theorem tags_of_streamed {init : List PgResult} {last : PgResult}
    (hinit : ∀ r ∈ init, r.status = .singleTuple ∨ r.status = .tuplesChunk) :
    (init ++ [last]).filterMap PgResult.tag = last.tag.toList ∧
      (init ++ [last]).filterMap PgResult.affected = last.affected.toList := by
  have htags : init.filterMap PgResult.tag = [] ∧ init.filterMap PgResult.affected = [] := by
    simp only [List.filterMap_eq_nil_iff]
    constructor <;>
      · intro r hr
        simp [PgResult.tag, PgResult.affected, (carriesRows_of_streamed (hinit r hr)).2.1]
  rw [List.filterMap_append, List.filterMap_append, htags.1, htags.2]
  cases htag : last.tag <;> cases haffected : last.affected <;> simp [htag, haffected]

theorem assembled_eq_some {results : List PgResult} {rs : ResultSet} (h : assembled results = some rs) :
    (results.flatMap PgResult.rows).mapM readTuple = some rs.rows ∧
      (firstFields results).mapM fieldColumn = some rs.columns ∧
      rs.commandTag = (results.filterMap PgResult.tag).getLast?.getD "" ∧
      rs.affectedRows = (results.filterMap PgResult.affected).getLast? := by
  unfold assembled at h
  obtain ⟨rows, hrows, h⟩ := Option.bind_eq_some_iff.mp h
  obtain ⟨columns, hcolumns, h⟩ := Option.bind_eq_some_iff.mp h
  cases h
  exact ⟨hrows, hcolumns, rfl, rfl⟩

theorem length_mapM {α β : Type} {f : α → Option β} : ∀ {l : List α} {l' : List β},
    l.mapM f = some l' → l'.length = l.length := by
  intro l
  induction l with
  | nil =>
    intro l' h
    cases h
    rfl
  | cons a l ih =>
    intro l' h
    rw [List.mapM_cons] at h
    obtain ⟨b, -, h⟩ := Option.bind_eq_some_iff.mp h
    obtain ⟨rest, hrest, h⟩ := Option.bind_eq_some_iff.mp h
    cases h
    rw [List.length_cons, List.length_cons, ih hrest]

/-- Every result with tuples is as wide as the complete result. -/
theorem WellFormed.width_complete {results : List PgResult} {rs : ResultSet} (h : WellFormed results)
    (hcolumns : (firstFields results).mapM fieldColumn = some rs.columns) :
    ∀ r ∈ results, r.carriesRows = true → r.columns.length = rs.columns.length := by
  obtain ⟨width, hwidth⟩ := h.width
  intro r hr hrows
  rw [hwidth r hr hrows, length_mapM hcolumns]
  unfold firstFields
  cases hfind : (results.map PgResult.fields).find? (!·.isEmpty) with
  | none =>
    rw [List.find?_eq_none] at hfind
    have hnone : r.columns = [] := by
      have := hfind r.fields (List.mem_map_of_mem hr)
      rw [PgResult.fields, hrows, if_pos rfl] at this
      simpa using this
    rw [← hwidth r hr hrows, hnone]
    rfl
  | some fields =>
    obtain ⟨r', hr', rfl⟩ := List.mem_map.mp (List.mem_of_find?_eq_some hfind)
    have hsome := List.find?_some hfind
    unfold PgResult.fields at hsome ⊢
    cases hrows' : r'.carriesRows with
    | false => simp [hrows'] at hsome
    | true => exact (hwidth r' hr' hrows').symm

section WellFormed

variable {limits : QueryLimits} {results : List PgResult} {rs : ResultSet}

/-- With room, the collector accepts every step. -/
theorem consumeAll_of_room (wellFormed : WellFormed results) (hassembled : assembled results = some rs)
    (complete : (publicResult rs).Fits (ResultCollector.new limits).config) (room : Room limits rs) :
    ∃ c, consumeAll (.new limits) results = some c ∧ c.finish = rs := by
  obtain ⟨hrows, hcolumns, htag, haffected⟩ := assembled_eq_some hassembled
  have hwidth := wellFormed.width_complete hcolumns
  obtain ⟨init, last, rfl, hinit, hlast⟩ := wellFormed.statuses
  rw [(tags_of_streamed hinit).1] at htag
  rw [(tags_of_streamed hinit).2] at haffected
  have hstart : Pending limits (.new limits) (init ++ [last]) rs :=
    { limits := rfl
      rows := ⟨rs.rows, hrows, rfl⟩
      columns := .inr ⟨rfl, rfl, hcolumns⟩
      width := hwidth
      commandTag := rfl
      affectedRows := rfl }
  -- all results but the last carry rows, and leave the rest pending
  obtain ⟨c, hc, hpending⟩ : ∃ c, consumeAll (.new limits) init = some c ∧ Pending limits c [last] rs := by
    generalize ResultCollector.new limits = start at hstart
    clear hrows hcolumns hwidth htag haffected wellFormed hassembled
    induction init generalizing start with
    | nil => exact ⟨start, rfl, hstart⟩
    | cons r init ih =>
      obtain ⟨hcarries, -, hconsume⟩ := carriesRows_of_streamed (hinit r (by simp))
      obtain ⟨c', hc', -, hpending⟩ := consumeRows_pending complete room hstart hcarries
      rw [consumeAll, hconsume, hc']
      exact ih (fun r hr => hinit r (List.mem_cons_of_mem _ hr)) c' hpending
  rw [consumeAll_append, hc, Option.bind_some]
  have hsome := wellFormed.utf8Tags last (by simp)
  have hcarries : last.carriesTag = true := by
    rcases hlast with hlast | hlast <;> simp [PgResult.carriesTag, hlast]
  obtain ⟨tag, hstatus⟩ := Option.isSome_iff_exists.mp hsome.1
  have htag : last.cmdStatus = some rs.commandTag := by
    rw [htag, PgResult.tag, hcarries, hstatus]
    rfl
  have haffected : last.cmdTuples.filter (!·.isEmpty) = rs.affectedRows := by
    rw [haffected, PgResult.affected, hcarries, if_pos rfl]
    cases last.cmdTuples.filter (!·.isEmpty) <;> rfl
  -- the last result carries the tag
  have hcommand : ∀ {c' : ResultCollector}, Pending limits c' [] rs → c'.columns = rs.columns →
      ∃ c'', c'.consumeCommand last = (.ok (), c'') ∧ c''.finish = rs := by
    intro c' hpending hcolumns
    obtain ⟨rows, hnil, happ⟩ := hpending.rows
    have hnil : rows = [] := (Option.some.inj hnil).symm
    rw [hnil, List.append_nil] at happ
    exact consumeCommand_complete complete room hpending.limits hcolumns happ hpending.affectedRows htag
      hsome.2 haffected
  rcases hlast with hlast | hlast
  · obtain ⟨c', hrows', hcolumns', hpending'⟩ := consumeRows_pending complete room hpending
      (by simp [PgResult.carriesRows, hlast])
    obtain ⟨c'', hc'', hfinish⟩ := hcommand hpending' hcolumns'
    refine ⟨c'', ?_, hfinish⟩
    rw [consumeAll, consumeResult, hlast]
    simp only [hrows', hc'']
    rfl
  · have hno : last.carriesRows = false := by simp [PgResult.carriesRows, hlast]
    have hcolumns' : c.columns = rs.columns := by
      rcases hpending.columns with hcolumns | ⟨hempty, -, hcolumns⟩
      · exact hcolumns
      · have hnone : firstFields [last] = [] := by simp [firstFields, PgResult.fields, hno]
        rw [hnone] at hcolumns
        exact hempty.trans (Option.some.inj hcolumns)
    have hpending' : Pending limits c [] rs :=
      { hpending with
        rows := by
          obtain ⟨rows, hnil, happ⟩ := hpending.rows
          refine ⟨rows, ?_, happ⟩
          simpa [PgResult.rows, hno] using hnil
        columns := .inl hcolumns'
        width := by simp }
    obtain ⟨c'', hc'', hfinish⟩ := hcommand hpending' hcolumns'
    refine ⟨c'', ?_, hfinish⟩
    rw [consumeAll, consumeResult, hlast]
    simp only [hc'']
    rfl

/-- Before the affected-row text is retained, the collector holds all the rest of the result. -/
theorem fits_tagged {c c' : ResultCollector} {r : PgResult} (h : c.consumeCommand r = (.ok (), c')) :
    ({ c with commandTag := r.cmdStatus } : ResultCollector).Fits := by
  unfold ResultCollector.consumeCommand at h
  split at h
  · cases h
  · next tag htag =>
    dsimp only at h
    split at h
    · next hcheck =>
      rw [htag]
      exact ResultCollector.fits_of_ensureCandidateFits hcheck
    · cases h

/-- Without room, `null` in place of the affected-row text is one byte too long. -/
theorem room_of_consumeAll {c : ResultCollector} (wellFormed : WellFormed results)
    (complete : (publicResult rs).Fits (ResultCollector.new limits).config)
    (h : consumeAll (.new limits) results = some c) (hfinish : c.finish = rs) : Room limits rs := by
  obtain ⟨init, last, rfl, hinit, hlast⟩ := wellFormed.statuses
  rw [consumeAll_append] at h
  obtain ⟨c₁, hinit', h⟩ := Option.bind_eq_some_iff.mp h
  -- before the last result no affected rows are known, so `null` is counted
  have hnone : c₁.affectedRows = none := by
    have hnothing : init.filterMap PgResult.affected = [] := by
      rw [List.filterMap_eq_nil_iff]
      intro r hr
      simp [PgResult.affected, (carriesRows_of_streamed (hinit r hr)).2.1]
    have haffected := (consumeAll_ok hinit').2.2.2.2
    rw [hnothing] at haffected
    exact haffected
  obtain ⟨c₂, hlimits, hnone, hcommand⟩ : ∃ c₂ : ResultCollector, c₂.limits = limits ∧
      c₂.affectedRows = none ∧ c₂.consumeCommand last = (.ok (), c) := by
    have hlimits := (checked_consumeAll hinit').limits
    rw [consumeAll] at h
    rcases hr : consumeResult c₁ last with ⟨e | _, c'⟩ <;> rw [hr] at h
    · cases h
    cases h
    rcases hlast with hlast | hlast <;> rw [consumeResult, hlast] at hr
    · dsimp only at hr
      have hchecked := c₁.checked_consumeRows last
      rcases hrows : c₁.consumeRows last with ⟨e | _, c₂⟩ <;> rw [hrows] at hr hchecked
      · cases hr
      · exact ⟨c₂, hchecked.limits.trans hlimits,
          (ResultCollector.consumeRows_ok hrows).affectedRows.trans hnone, hr⟩
    · exact ⟨c₁, hlimits, hnone, hr⟩
  obtain ⟨⟨htag, -⟩, -, hrows, hcolumns⟩ := ResultCollector.consumeCommand_ok hcommand
  have hbytes : (ResultCollector.candidate { c₂ with commandTag := last.cmdStatus }).toJson.canonicalJsonBytes
      ≤ limits.resultJsonBytes := by
    have hfits := (QueryResult.validate_iff.mp (fits_tagged hcommand)).bytes
    rw [← hlimits]
    exact hfits
  -- the candidate differs from the result in the affected rows alone
  have hparts : (ResultCollector.candidate { c₂ with commandTag := last.cmdStatus }).parts +
      affectedBytes rs.affectedRows = (publicResult rs).parts + 4 := by
    rw [← hfinish]
    unfold QueryResult.parts ResultCollector.candidate publicResult ResultCollector.finish
    dsimp only
    rw [hrows, hcolumns, htag, hnone]
    show _ + 4 + _ = _ + 4
    omega
  unfold Room
  rw [QueryResult.bytes_eq] at hbytes ⊢
  cases htext : rs.affectedRows with
  | none => exact .inl rfl
  | some text =>
    rw [htext, (affectedBytes_decimal (complete.affected text htext).1).1] at hparts
    by_cases hone : text.length = 1
    · exact .inr (by omega)
    · exact .inl (by simpa using hone)

end WellFormed

/-- The limits of a query are those of the handle. -/
theorem fits_queryLimits {config : Config} {r : QueryResult} (h : r.validate config = .ok ()) :
    r.Fits (ResultCollector.new (queryLimits config)).config :=
  QueryResult.validate_iff.mp h

/-- Where the complete result fits, the collector accepts every step and returns that result
exactly when the affected-row text is absent or has more than one digit, or the result is
shorter than it may be. -/
theorem collectAll_assembled_iff {config : Config} {results : List PgResult} {rs : ResultSet}
    (wellFormed : WellFormed results) (complete : assembled results = some rs)
    (validates : (publicResult rs).validate config = .ok ()) :
    collectAll (.new (queryLimits config)) none results = .ok rs ↔
      rs.affectedRows.all (fun text => text.length ≠ 1) = true ∨
        (publicResult rs).toJson.canonicalJsonBytes < config.resultJsonBytes := by
  have fits := fits_queryLimits validates
  rw [collectAll_eq_ok_iff]
  constructor
  · rintro ⟨c, hall, hfinish⟩
    exact room_of_consumeAll wellFormed fits hall hfinish
  · exact consumeAll_of_room wellFormed complete fits

/-- A row with one text of `n` characters, in single-row mode. -/
def oneLine (n : ℕ) : List PgResult :=
  [{ status := .singleTuple, columns := [(some "line", 25)],
      tuples := [[.text (String.ofList (List.replicate n '1'))]] },
    { status := .tuplesOk, columns := [(some "line", 25)], cmdStatus := some "SELECT 1",
      cmdTuples := some "1" }]

def oneLineResult (n : ℕ) : ResultSet where
  columns := [⟨"line", 25⟩]
  rows := [[some (String.ofList (List.replicate n '1'))]]
  commandTag := "SELECT 1"
  affectedRows := some "1"

theorem wellFormed_oneLine (n : ℕ) : WellFormed (oneLine n) where
  statuses := ⟨[_], _, rfl, by simp, .inl rfl⟩
  width := ⟨1, by simp [oneLine]⟩
  utf8Names := by simp [oneLine]
  utf8Cells := by simp [oneLine, Cell.value]
  utf8Tags := by simp [oneLine]
  decimal := by
    simp only [oneLine, List.forall_mem_cons, Option.some.injEq, forall_eq']
    decide

theorem assembled_oneLine (n : ℕ) : assembled (oneLine n) = some (oneLineResult n) := rfl

theorem bytes_oneLine (n : ℕ) : (publicResult (oneLineResult n)).toJson.canonicalJsonBytes = 118 + n := by
  have hline : quotedBytes (String.ofList (List.replicate n '1')) = 2 + n := by
    rw [quotedBytes_digits]
    · rw [← String.length_toList]
      simp
    · simp
  have hcolumn : (ResultColumn.toJson ⟨"line", 25⟩).canonicalJsonBytes = 45 := by decide
  have htag : quotedBytes "SELECT 1" = 10 ∧ quotedBytes "1" = 3 := by decide
  rw [QueryResult.bytes_eq]
  unfold QueryResult.parts publicResult oneLineResult affectedBytes
  simp only [List.map_cons, List.map_nil, separated_singleton, canonicalJsonBytes_arr,
    canonicalJsonBytes_optStr, affectedBytes, hline, hcolumn, htag]
  omega

theorem validates_oneLine {n : ℕ} {config : Config} (hbytes : 118 + n ≤ config.resultJsonBytes)
    (hcell : 4 * n ≤ config.cellBytes) (hsmall : 8 ≤ config.cellBytes) (hcolumns : 1 ≤ config.columns)
    (hrows : 1 ≤ config.resultRows) : (publicResult (oneLineResult n)).validate config = .ok () := by
  rw [QueryResult.validate_iff]
  have hsize := (utf8ByteSize_ofList_le (List.replicate n '1')).trans (by simpa using hcell)
  exact {
    columns := hcolumns
    rows := hrows
    names := by
      simp only [publicResult, oneLineResult, List.mem_singleton, forall_eq]
      exact (by decide : "line".utf8ByteSize ≤ 8).trans hsmall
    tag := (by decide : "SELECT 1".utf8ByteSize ≤ 8).trans hsmall
    affected := by
      rintro text htext
      cases htext
      exact ⟨by decide, (by decide : "1".utf8ByteSize ≤ 8).trans hsmall⟩
    shape := by simp [publicResult, oneLineResult]
    cells := by
      simp only [publicResult, oneLineResult, List.mem_singleton, forall_eq, Option.some.injEq]
      exact hsize
    bytes := by rwa [bytes_oneLine] }

theorem collectAll_assembled_iff_oneLine :
    collectAll (.new (queryLimits .default)) none (oneLine 3) = .ok (oneLineResult 3) ↔
      (oneLineResult 3).affectedRows.all (fun text => text.length ≠ 1) = true ∨
        (publicResult (oneLineResult 3)).toJson.canonicalJsonBytes < Config.default.resultJsonBytes :=
  collectAll_assembled_iff (wellFormed_oneLine 3) (assembled_oneLine 3)
    (validates_oneLine (by decide) (by decide) (by decide) (by decide) (by decide))

/-- The smallest size limit. -/
def smallResults : Config := { Config.default with resultJsonBytes := 1024 }

/-- A result that is exactly as long as it may be is rejected. -/
theorem collector_rejects_full_result :
    ¬ ∀ (config : Config) (results : List PgResult) (rs : ResultSet), config.validate = .ok () →
      WellFormed results → assembled results = some rs → (publicResult rs).validate config = .ok () →
        collectAll (.new (queryLimits config)) none results = .ok rs := by
  intro h
  have hvalidates : (publicResult (oneLineResult 906)).validate smallResults = .ok () :=
    validates_oneLine (by decide) (by decide) (by decide) (by decide) (by decide)
  have hcollect := h smallResults (oneLine 906) (oneLineResult 906) (by decide +kernel)
    (wellFormed_oneLine 906)
    (assembled_oneLine 906) hvalidates
  obtain ⟨c, hall, hfinish⟩ := collectAll_eq_ok_iff.mp hcollect
  rcases room_of_consumeAll (wellFormed_oneLine 906) (fits_queryLimits hvalidates) hall hfinish with
    hlong | hshort
  · revert hlong
    decide
  · rw [bytes_oneLine] at hshort
    revert hshort
    decide

end PgMcp
