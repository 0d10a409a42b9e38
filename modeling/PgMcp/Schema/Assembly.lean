import PgMcp.Json.Size
import PgMcp.Schema

/-!
# The assembly of a snapshot

The rows of the three catalog queries are decoded one by one and retained in maps that are
ordered by the bytes of the names.  What is written out in the end depends on the rows
alone, not on their order: every relation with its columns by ordinal and its constraints
by name, under its schema.

## Main definitions

* `RelationRow`, `ColumnRow`, `ConstraintRow` — what the rows of the three queries say.
* `Catalog` — the rows of the three queries; `Catalog.snapshot` is the snapshot of all of
  them, assembled without a check in between.
* `SchemaResult.Sorted` — the order of a snapshot.

## Main results

* `relationOf_retained` — what is retained under a schema and a relation name.
* `sorted_snapshot`, `relationRows_snapshot`, `columnRows_snapshot`,
  `constraintRows_snapshot` — the snapshot is sorted and has exactly the rows.
* `snapshot_perm` — it does not depend on the order of the rows.
-/

namespace PgMcp

/-! ### Byte order -/

instance : Std.LawfulEqCmp byteCompare where
  compare_self {a} := @Std.ReflCmp.compare_self String (compareOn Json.utf8) _ a
  eq_of_compare h := Json.utf8_injective (Std.LawfulEqOrd.eq_of_compare h)

theorem compare_eq_lt_iff (a b : List UInt8) : compare a b = .lt ↔ a < b := by
  induction a generalizing b with
  | nil => cases b <;> simp
  | cons x a ih =>
    cases b with
    | nil => simp
    | cons y b =>
      rw [List.compare_eq_compareLex] at ih ⊢
      rw [List.compareLex_cons_cons, List.cons_lt_cons_iff, ← ih b, Ordering.then_eq_lt,
        Std.compare_eq_lt, Std.compare_eq_iff_eq]

theorem byteCompare_eq_lt_iff (a b : String) :
    byteCompare a b = .lt ↔ Json.utf8 a < Json.utf8 b :=
  compare_eq_lt_iff _ _

/-! ### Decoded rows -/

/-- A row of the first query. -/
structure RelationRow where
  schema : String
  relation : String
  kind : RelationKind
  deriving DecidableEq, Repr

/-- A row of the second query. -/
structure ColumnRow where
  schema : String
  relation : String
  column : SchemaColumn
  deriving DecidableEq, Repr

/-- A row of the third query. -/
structure ConstraintRow where
  schema : String
  relation : String
  constraint : Constraint
  deriving DecidableEq, Repr

/-- The relation a row is about. -/
def RelationRow.key (d : RelationRow) : String × String := (d.schema, d.relation)

def ColumnRow.key (d : ColumnRow) : String × String := (d.schema, d.relation)

def ConstraintRow.key (d : ConstraintRow) : String × String := (d.schema, d.relation)

def decodeRelation (row : CatalogRow) : Except SchemaError RelationRow := do
  checkWidth row 4
  let schema ← required row 0
  let relation ← required row 1
  let kind ← relationKind (← required row 2)
  let _ ← parseU32 (← required row 3)
  return { schema, relation, kind }

/-- The cells of a column row that describe the column. -/
def columnFields (row : CatalogRow) : Except SchemaError SchemaColumn := do
  let ordinal ← parseU32 (← required row 3)
  let typeOid ← parseU32 (← required row 4)
  let nullable ← parseBool (← required row 6)
  let identity ← identityKind (optional row 8)
  let name ← required row 2
  let typeName ← required row 5
  let generated ← parseBool (← required row 9)
  return { name, ordinal, typeOid, typeName, nullable, defaultExpression := optional row 7, identity,
           generated }

def decodeColumn (row : CatalogRow) : Except SchemaError ColumnRow := do
  checkWidth row 10
  let schema ← required row 0
  let relation ← required row 1
  return { schema, relation, column := ← columnFields row }

def constraintFields (row : CatalogRow) : Except SchemaError Constraint := do
  let name ← required row 2
  let kind ← constraintKind (← required row 3)
  let definition ← required row 4
  return { name, kind, definition }

def decodeConstraint (row : CatalogRow) : Except SchemaError ConstraintRow := do
  checkWidth row 5
  let schema ← required row 0
  let relation ← required row 1
  return { schema, relation, constraint := ← constraintFields row }

/-! ### Retaining decoded rows -/

/-- The relation a row begins. -/
def RelationRow.begun (d : RelationRow) : Relation :=
  { name := d.relation, kind := d.kind, columns := [], constraints := [] }

def retainRelation (schemas : SchemaMap) (d : RelationRow) : SchemaMap :=
  schemas.alter d.schema fun relations =>
    some ((relations.getD ∅).alter d.relation fun r => some (r.getD d.begun))

def retainColumn (schemas : SchemaMap) (d : ColumnRow) : SchemaMap :=
  modifyRelation schemas d.schema d.relation fun r => { r with columns := r.columns ++ [d.column] }

def retainConstraint (schemas : SchemaMap) (d : ConstraintRow) : SchemaMap :=
  modifyRelation schemas d.schema d.relation fun r =>
    { r with constraints := r.constraints ++ [d.constraint] }

theorem relationOf_empty (s r : String) : relationOf ∅ s r = none := by
  simp [relationOf]

theorem relationOf_retainRelation (schemas : SchemaMap) (d : RelationRow) (s r : String) :
    relationOf (retainRelation schemas d) s r =
      if d.key = (s, r) then some ((relationOf schemas s r).getD d.begun)
      else relationOf schemas s r := by
  unfold relationOf retainRelation RelationRow.key
  rw [Std.TreeMap.getElem?_alter]
  by_cases hs : d.schema = s
  · subst hs
    simp only [Std.ReflCmp.compare_self, if_true, Option.bind_some, Std.TreeMap.getElem?_alter,
      Std.LawfulEqCmp.compare_eq_iff_eq, Prod.mk.injEq, true_and]
    cases schemas[d.schema]? with
    | none => split <;> simp_all
    | some relations => split <;> simp_all
  · simp [hs, Std.LawfulEqCmp.compare_eq_iff_eq]

theorem relationOf_modifyRelation (schemas : SchemaMap) (s r s' r' : String)
    (f : Relation → Relation) :
    relationOf (modifyRelation schemas s r f) s' r' =
      if (s, r) = (s', r') then (relationOf schemas s' r').map f else relationOf schemas s' r' := by
  unfold relationOf modifyRelation
  rw [Std.TreeMap.getElem?_modify]
  by_cases hs : s = s'
  · subst hs
    simp only [Std.ReflCmp.compare_self, if_true, Prod.mk.injEq, true_and]
    cases schemas[s]? with
    | none => simp
    | some relations =>
      simp only [Option.map_some, Option.bind_some, Std.TreeMap.getElem?_modify,
        Std.LawfulEqCmp.compare_eq_iff_eq]
      split <;> simp_all
  · simp [hs, Std.LawfulEqCmp.compare_eq_iff_eq]

theorem relationOf_retainColumn (schemas : SchemaMap) (d : ColumnRow) (s r : String) :
    relationOf (retainColumn schemas d) s r =
      if d.key = (s, r) then
        (relationOf schemas s r).map fun x => { x with columns := x.columns ++ [d.column] }
      else relationOf schemas s r :=
  relationOf_modifyRelation ..

theorem relationOf_retainConstraint (schemas : SchemaMap) (d : ConstraintRow) (s r : String) :
    relationOf (retainConstraint schemas d) s r =
      if d.key = (s, r) then
        (relationOf schemas s r).map fun x => { x with constraints := x.constraints ++ [d.constraint] }
      else relationOf schemas s r :=
  relationOf_modifyRelation ..

/-! ### What is retained of all rows -/

section Fold

variable (schemas : SchemaMap) (s r : String)

/-- A relation is begun by the first of its rows. -/
theorem relationOf_foldl_retainRelation (rows : List RelationRow) :
    relationOf (rows.foldl retainRelation schemas) s r =
      (relationOf schemas s r).or ((rows.find? (·.key = (s, r))).map RelationRow.begun) := by
  induction rows generalizing schemas with
  | nil => simp
  | cons d rows ih =>
    rw [List.foldl_cons, ih, relationOf_retainRelation, List.find?_cons]
    by_cases hd : d.key = (s, r) <;> cases relationOf schemas s r <;> simp [hd]

/-- Its columns are those of its rows, in their order. -/
theorem relationOf_foldl_retainColumn (rows : List ColumnRow) :
    relationOf (rows.foldl retainColumn schemas) s r = (relationOf schemas s r).map fun x =>
      { x with columns := x.columns ++ (rows.filter (·.key = (s, r))).map ColumnRow.column } := by
  induction rows generalizing schemas with
  | nil => simp
  | cons d rows ih =>
    rw [List.foldl_cons, ih, relationOf_retainColumn, List.filter_cons]
    by_cases hd : d.key = (s, r)
    · rw [if_pos hd, if_pos (by simpa using hd), Option.map_map]
      simp [Function.comp_def]
    · rw [if_neg hd, if_neg (by simpa using hd)]

theorem relationOf_foldl_retainConstraint (rows : List ConstraintRow) :
    relationOf (rows.foldl retainConstraint schemas) s r = (relationOf schemas s r).map fun x =>
      { x with
        constraints := x.constraints ++ (rows.filter (·.key = (s, r))).map ConstraintRow.constraint } := by
  induction rows generalizing schemas with
  | nil => simp
  | cons d rows ih =>
    rw [List.foldl_cons, ih, relationOf_retainConstraint, List.filter_cons]
    by_cases hd : d.key = (s, r)
    · rw [if_pos hd, if_pos (by simpa using hd), Option.map_map]
      simp [Function.comp_def]
    · rw [if_neg hd, if_neg (by simpa using hd)]

end Fold

/-- The rows of the three queries. -/
structure Catalog where
  relations : List CatalogRow
  columns : List CatalogRow
  constraints : List CatalogRow
  deriving DecidableEq, Repr

/-- What the rows that can be decoded say. -/
def decoded {α : Type} (decode : CatalogRow → Except SchemaError α) (rows : List CatalogRow) : List α :=
  rows.filterMap fun row => (decode row).toOption

namespace Catalog

variable (c : Catalog)

def relationRows : List RelationRow := decoded decodeRelation c.relations

def columnRows : List ColumnRow := decoded decodeColumn c.columns

def constraintRows : List ConstraintRow := decoded decodeConstraint c.constraints

/-- The maps after the rows of the first query, of the first two, and after all rows,
without a check in between. -/
def related : SchemaMap := c.relationRows.foldl retainRelation ∅

def described : SchemaMap := c.columnRows.foldl retainColumn c.related

def retained : SchemaMap := c.constraintRows.foldl retainConstraint c.described

/-- The snapshot of all rows. -/
def snapshot : SchemaResult := schemaFromMaps c.retained

/-- The relation of a key, as its rows say. -/
def relationAt (key : String × String) : Option Relation :=
  (c.relationRows.find? (·.key = key)).map fun d =>
    { d.begun with
      columns := (c.columnRows.filter (·.key = key)).map ColumnRow.column
      constraints := (c.constraintRows.filter (·.key = key)).map ConstraintRow.constraint }

theorem relationOf_retained (s r : String) : relationOf c.retained s r = c.relationAt (s, r) := by
  unfold retained described related relationAt
  rw [relationOf_foldl_retainConstraint, relationOf_foldl_retainColumn,
    relationOf_foldl_retainRelation, relationOf_empty, Option.none_or, Option.map_map, Option.map_map]
  simp [Function.comp_def, RelationRow.begun]

/-- The rows can be decoded, and those of the last two queries name listed relations. -/
structure Readable : Prop where
  relations : ∀ row ∈ c.relations, (decodeRelation row).isOk
  columns : ∀ row ∈ c.columns, (decodeColumn row).isOk
  constraints : ∀ row ∈ c.constraints, (decodeConstraint row).isOk
  listedColumns : ∀ d ∈ c.columnRows, d.key ∈ c.relationRows.map RelationRow.key
  listedConstraints : ∀ d ∈ c.constraintRows, d.key ∈ c.relationRows.map RelationRow.key

/-- No two rows are about the same relation, column or constraint. -/
structure Distinct : Prop where
  relations : (c.relationRows.map RelationRow.key).Nodup
  columns : (c.columnRows.map fun d => (d.key, d.column.ordinal)).Nodup
  constraints : (c.constraintRows.map fun d => (d.key, d.constraint.name)).Nodup

end Catalog

/-! ### The relations of a snapshot -/

namespace SchemaResult

variable (s : SchemaResult)

/-- The relations, each with the name of its schema. -/
def entries : List (String × Relation) :=
  s.schemas.flatMap fun info => info.relations.map fun x => (info.name, x)

/-- The rows a snapshot would be made of. -/
def relationRows : List RelationRow :=
  s.entries.map fun e => { schema := e.1, relation := e.2.name, kind := e.2.kind }

def columnRows : List ColumnRow :=
  s.entries.flatMap fun e => e.2.columns.map fun column =>
    { schema := e.1, relation := e.2.name, column }

def constraintRows : List ConstraintRow :=
  s.entries.flatMap fun e => e.2.constraints.map fun constraint =>
    { schema := e.1, relation := e.2.name, constraint }

/-- Names increase by bytes, columns by ordinal, and no schema is empty. -/
structure Sorted : Prop where
  schemas : s.schemas.Pairwise fun a b => Json.utf8 a.name < Json.utf8 b.name
  relations : ∀ info ∈ s.schemas,
    info.relations.Pairwise fun a b => Json.utf8 a.name < Json.utf8 b.name
  nonempty : ∀ info ∈ s.schemas, info.relations ≠ []
  columns : ∀ e ∈ s.entries, e.2.columns.Pairwise fun a b => a.ordinal < b.ordinal
  constraints : ∀ e ∈ s.entries,
    e.2.constraints.Pairwise fun a b => Json.utf8 a.name < Json.utf8 b.name

/-- Each row appears once, under its own relation, and nothing else does. -/
structure Exact (c : Catalog) : Prop where
  relations : s.relationRows.Perm c.relationRows
  columns : s.columnRows.Perm c.columnRows
  constraints : s.constraintRows.Perm c.constraintRows

end SchemaResult

/-- Every relation is retained under its name. -/
def Named (schemas : SchemaMap) : Prop :=
  ∀ s r x, relationOf schemas s r = some x → x.name = r

theorem relationOf_eq_some {schemas : SchemaMap} {relations : RelationMap} {s r : String} {x : Relation}
    (hs : schemas[s]? = some relations) (hr : relations[r]? = some x) :
    relationOf schemas s r = some x := by
  unfold relationOf
  rw [hs, Option.bind_some, hr]

theorem mem_schemas {schemas : SchemaMap} {info : SchemaInfo} :
    info ∈ (schemaFromMaps schemas).schemas ↔ ∃ relations, schemas[info.name]? = some relations ∧
      relations.isEmpty = false ∧ info.relations = relations.values.map Relation.sorted := by
  unfold schemaFromMaps
  simp only [List.mem_filterMap, Prod.exists, Std.TreeMap.mem_toList_iff_getElem?_eq_some]
  constructor
  · rintro ⟨name, relations, hlookup, h⟩
    split at h
    · cases h
    · next hempty =>
      cases h
      exact ⟨relations, hlookup, by simpa using hempty, rfl⟩
  · rintro ⟨relations, hlookup, hempty, hrelations⟩
    refine ⟨info.name, relations, hlookup, ?_⟩
    rw [if_neg (by simp [hempty]), ← hrelations]

theorem mem_values {relations : RelationMap} {x : Relation} :
    x ∈ relations.values ↔ ∃ r : String, relations[r]? = some x := by
  simp only [Std.TreeMap.values_eq_map_toList, List.mem_map, Prod.exists, exists_eq_right,
    Std.TreeMap.mem_toList_iff_getElem?_eq_some]

theorem isEmpty_of_lookup {relations : RelationMap} {r : String} {x : Relation}
    (h : relations[r]? = some x) : relations.isEmpty = false := by
  cases hempty : relations.isEmpty with
  | false => rfl
  | true =>
    rw [Std.TreeMap.getElem?_of_isEmpty hempty] at h
    cases h

/-- The relations of the snapshot are the retained ones. -/
theorem mem_entries {schemas : SchemaMap} {e : String × Relation} :
    e ∈ (schemaFromMaps schemas).entries ↔
      ∃ r x, relationOf schemas e.1 r = some x ∧ e.2 = x.sorted := by
  unfold SchemaResult.entries
  simp only [List.mem_flatMap, mem_schemas, List.mem_map]
  constructor
  · rintro ⟨info, ⟨relations, hlookup, -, hrelations⟩, x, hx, rfl⟩
    rw [hrelations, List.mem_map] at hx
    obtain ⟨y, hy, rfl⟩ := hx
    obtain ⟨r, hr⟩ := mem_values.mp hy
    exact ⟨r, y, relationOf_eq_some hlookup hr, rfl⟩
  · rintro ⟨r, x, hx, hsorted⟩
    unfold relationOf at hx
    obtain ⟨relations, hlookup, hr⟩ := Option.bind_eq_some_iff.mp hx
    refine ⟨⟨e.1, relations.values.map Relation.sorted⟩, ⟨relations, hlookup, isEmpty_of_lookup hr, rfl⟩,
      x.sorted, List.mem_map_of_mem (mem_values.mpr ⟨r, hr⟩), ?_⟩
    rw [← hsorted]

/-! ### The order of a snapshot -/

theorem pairwise_schemas (schemas : SchemaMap) :
    (schemaFromMaps schemas).schemas.Pairwise fun a b => Json.utf8 a.name < Json.utf8 b.name := by
  unfold schemaFromMaps
  rw [List.pairwise_filterMap]
  refine Std.TreeMap.ordered_keys_toList.imp fun {a b} hlt info hinfo info' hinfo' => ?_
  have hname : info.name = a.1 := by grind
  have hname' : info'.name = b.1 := by grind
  rw [hname, hname', ← byteCompare_eq_lt_iff]
  exact hlt

theorem pairwise_relations {schemas : SchemaMap} (named : Named schemas) {info : SchemaInfo}
    (h : info ∈ (schemaFromMaps schemas).schemas) :
    info.relations.Pairwise fun a b => Json.utf8 a.name < Json.utf8 b.name := by
  obtain ⟨relations, hlookup, -, hrelations⟩ := mem_schemas.mp h
  rw [hrelations, Std.TreeMap.values_eq_map_toList, List.pairwise_map, List.pairwise_map]
  refine Std.TreeMap.ordered_keys_toList.imp_of_mem fun {a b} ha hb hlt => ?_
  rw [Std.TreeMap.mem_toList_iff_getElem?_eq_some] at ha hb
  show Json.utf8 a.2.name < Json.utf8 b.2.name
  rw [named _ _ _ (relationOf_eq_some hlookup ha), named _ _ _ (relationOf_eq_some hlookup hb),
    ← byteCompare_eq_lt_iff]
  exact hlt

theorem nonempty_relations {schemas : SchemaMap} {info : SchemaInfo}
    (h : info ∈ (schemaFromMaps schemas).schemas) : info.relations ≠ [] := by
  obtain ⟨relations, -, hempty, hrelations⟩ := mem_schemas.mp h
  rw [hrelations, Std.TreeMap.values_eq_map_toList]
  intro hnil
  rw [List.map_eq_nil_iff, List.map_eq_nil_iff, ← List.isEmpty_iff, Std.TreeMap.isEmpty_toList,
    hempty] at hnil
  cases hnil

theorem pairwise_sorted_columns {x : Relation} (h : (x.columns.map SchemaColumn.ordinal).Nodup) :
    x.sorted.columns.Pairwise fun a b => a.ordinal < b.ordinal := by
  refine Ordered.pairwise_lt_of_le SchemaColumn.ordinal (fun hle hne => lt_of_le_of_ne hle hne)
    (List.pairwise_insertionSort _ _) ?_
  exact ((List.perm_insertionSort _ x.columns).map _).nodup_iff.mpr h

theorem pairwise_sorted_constraints {x : Relation} (h : (x.constraints.map Constraint.name).Nodup) :
    x.sorted.constraints.Pairwise fun a b => Json.utf8 a.name < Json.utf8 b.name := by
  refine Ordered.pairwise_lt_of_le (fun y : Constraint => Json.utf8 y.name) Ordered.bytes_lt_of_le
    (List.pairwise_insertionSort _ _) ?_
  rw [← Function.comp_def, ← List.map_map]
  exact (((List.perm_insertionSort _ x.constraints).map _).nodup_iff.mpr h).map Json.utf8_injective

/-- Rows with distinct keys and marks have distinct marks under one key. -/
theorem nodup_of_keys {δ κ μ : Type} [DecidableEq κ] {key : δ → κ} {mark : δ → μ} {rows : List δ}
    (h : (rows.map fun d => (key d, mark d)).Nodup) (k : κ) :
    ((rows.filter (key · = k)).map mark).Nodup := by
  unfold List.Nodup at h ⊢
  rw [List.pairwise_map] at h ⊢
  refine (h.filter _).imp_of_mem fun {a b} ha hb hne hmark => hne ?_
  have hka : key a = k := by simpa using (List.mem_filter.mp ha).2
  have hkb : key b = k := by simpa using (List.mem_filter.mp hb).2
  rw [hka, hkb, hmark]

/-- No two relations of a sorted snapshot have one key. -/
theorem SchemaResult.Sorted.nodup_entries {s : SchemaResult} (h : s.Sorted) :
    s.entries.Pairwise fun a b => (a.1, a.2.name) ≠ (b.1, b.2.name) := by
  have hne : ∀ {a b : String}, Json.utf8 a < Json.utf8 b → a ≠ b := fun hlt heq =>
    List.lt_irrefl _ (heq ▸ hlt)
  unfold SchemaResult.entries
  refine List.pairwise_flatMap.mpr ⟨fun info hinfo => List.pairwise_map.mpr ?_, ?_⟩
  · refine (h.relations info hinfo).imp fun {a b} hlt heq => ?_
    exact hne hlt (Prod.mk.inj heq).2
  · refine h.schemas.imp fun {info info'} hlt a ha b hb heq => ?_
    obtain ⟨x, -, rfl⟩ := List.mem_map.mp ha
    obtain ⟨y, -, rfl⟩ := List.mem_map.mp hb
    exact hne hlt (Prod.mk.inj heq).1

namespace Catalog

variable (c : Catalog)

theorem relationAt_eq_some {c : Catalog} {key : String × String} {x : Relation}
    (h : c.relationAt key = some x) :
    x.name = key.2 ∧ (∃ d ∈ c.relationRows, d.key = key ∧ d.kind = x.kind) ∧
      x.columns = (c.columnRows.filter (·.key = key)).map ColumnRow.column ∧
      x.constraints = (c.constraintRows.filter (·.key = key)).map ConstraintRow.constraint := by
  obtain ⟨d, hd, rfl⟩ := Option.map_eq_some_iff.mp h
  have hkey : d.key = key := by simpa using List.find?_some hd
  exact ⟨by rw [← hkey]; rfl, ⟨d, List.mem_of_find?_eq_some hd, hkey, rfl⟩, rfl, rfl⟩

theorem named_retained : Named c.retained := by
  intro s r x hx
  rw [relationOf_retained] at hx
  exact (relationAt_eq_some hx).1

/-- The relations of the snapshot are those of the rows. -/
theorem mem_entries_snapshot {e : String × Relation} :
    e ∈ c.snapshot.entries ↔ ∃ r x, c.relationAt (e.1, r) = some x ∧ e.2 = x.sorted := by
  simp only [snapshot, mem_entries, relationOf_retained]

theorem sorted_snapshot {c : Catalog} (distinct : c.Distinct) : c.snapshot.Sorted where
  schemas := pairwise_schemas _
  relations := fun _ h => pairwise_relations c.named_retained h
  nonempty := fun _ h => nonempty_relations h
  columns := by
    intro e he
    obtain ⟨r, x, hx, hsorted⟩ := c.mem_entries_snapshot.mp he
    obtain ⟨-, -, hcolumns, -⟩ := relationAt_eq_some hx
    rw [hsorted]
    refine pairwise_sorted_columns ?_
    rw [hcolumns, List.map_map]
    exact nodup_of_keys distinct.columns _
  constraints := by
    intro e he
    obtain ⟨r, x, hx, hsorted⟩ := c.mem_entries_snapshot.mp he
    obtain ⟨-, -, -, hconstraints⟩ := relationAt_eq_some hx
    rw [hsorted]
    refine pairwise_sorted_constraints ?_
    rw [hconstraints, List.map_map]
    exact nodup_of_keys distinct.constraints _

/-! ### The rows of the snapshot -/

/-- A listed relation has the columns and the constraints of its key. -/
theorem relationAt_of_listed {key : String × String} (h : key ∈ c.relationRows.map RelationRow.key) :
    ∃ x, c.relationAt key = some x := by
  obtain ⟨d, hd, hkey⟩ := List.mem_map.mp h
  have hsome : (c.relationRows.find? (·.key = key)).isSome :=
    List.find?_isSome.mpr ⟨d, hd, by simpa using hkey⟩
  obtain ⟨d', hd'⟩ := Option.isSome_iff_exists.mp hsome
  exact ⟨_, by rw [relationAt, hd', Option.map_some]⟩

/-- The kind of a relation is that of its row. -/
theorem kind_relationAt {c : Catalog} (distinct : c.Distinct) {d : RelationRow}
    (hd : d ∈ c.relationRows) {x : Relation} (h : c.relationAt d.key = some x) : x.kind = d.kind := by
  obtain ⟨-, ⟨d', hd', hkey, hkind⟩, -, -⟩ := relationAt_eq_some h
  rw [← hkind, List.inj_on_of_nodup_map distinct.relations hd' hd hkey]

theorem mem_relationRows_snapshot {c : Catalog} (distinct : c.Distinct) (d : RelationRow) :
    d ∈ c.snapshot.relationRows ↔ d ∈ c.relationRows := by
  unfold SchemaResult.relationRows
  rw [List.mem_map]
  constructor
  · rintro ⟨e, he, rfl⟩
    obtain ⟨r, x, hx, hsorted⟩ := c.mem_entries_snapshot.mp he
    obtain ⟨hname, ⟨d, hd, hkey, hkind⟩, -, -⟩ := relationAt_eq_some hx
    obtain ⟨hschema, hrelation⟩ := Prod.mk.inj hkey
    rw [hsorted]
    show RelationRow.mk e.1 x.name x.kind ∈ c.relationRows
    rw [hname, ← hkind, ← hschema, ← hrelation]
    exact hd
  · intro hd
    obtain ⟨x, hx⟩ := c.relationAt_of_listed (List.mem_map_of_mem hd)
    refine ⟨(d.schema, x.sorted), c.mem_entries_snapshot.mpr ⟨d.relation, x, hx, rfl⟩, ?_⟩
    show RelationRow.mk d.schema x.name x.kind = d
    rw [(relationAt_eq_some hx).1, kind_relationAt distinct hd hx]
    rfl

theorem mem_columnRows_snapshot {c : Catalog} (readable : c.Readable) (d : ColumnRow) :
    d ∈ c.snapshot.columnRows ↔ d ∈ c.columnRows := by
  unfold SchemaResult.columnRows
  simp only [List.mem_flatMap, List.mem_map]
  constructor
  · rintro ⟨e, he, column, hcolumn, rfl⟩
    obtain ⟨r, x, hx, hsorted⟩ := c.mem_entries_snapshot.mp he
    obtain ⟨hname, -, hcolumns, -⟩ := relationAt_eq_some hx
    rw [hsorted, Relation.sorted, List.mem_insertionSort, hcolumns] at hcolumn
    obtain ⟨d, hd, rfl⟩ := List.mem_map.mp hcolumn
    obtain ⟨hmem, hkey⟩ := List.mem_filter.mp hd
    obtain ⟨hschema, hrelation⟩ := Prod.mk.inj (of_decide_eq_true hkey)
    rw [hsorted]
    show ColumnRow.mk e.1 x.name d.column ∈ c.columnRows
    rw [hname, ← hschema, ← hrelation]
    exact hmem
  · intro hd
    obtain ⟨x, hx⟩ := c.relationAt_of_listed (readable.listedColumns d hd)
    obtain ⟨hname, -, hcolumns, -⟩ := relationAt_eq_some hx
    refine ⟨(d.schema, x.sorted), c.mem_entries_snapshot.mpr ⟨d.relation, x, hx, rfl⟩, d.column, ?_, ?_⟩
    · rw [Relation.sorted, List.mem_insertionSort, hcolumns]
      exact List.mem_map_of_mem (List.mem_filter.mpr ⟨hd, by simp⟩)
    · show ColumnRow.mk d.schema x.name d.column = d
      rw [hname]
      rfl

theorem mem_constraintRows_snapshot {c : Catalog} (readable : c.Readable) (d : ConstraintRow) :
    d ∈ c.snapshot.constraintRows ↔ d ∈ c.constraintRows := by
  unfold SchemaResult.constraintRows
  simp only [List.mem_flatMap, List.mem_map]
  constructor
  · rintro ⟨e, he, constraint, hconstraint, rfl⟩
    obtain ⟨r, x, hx, hsorted⟩ := c.mem_entries_snapshot.mp he
    obtain ⟨hname, -, -, hconstraints⟩ := relationAt_eq_some hx
    rw [hsorted, Relation.sorted, List.mem_insertionSort, hconstraints] at hconstraint
    obtain ⟨d, hd, rfl⟩ := List.mem_map.mp hconstraint
    obtain ⟨hmem, hkey⟩ := List.mem_filter.mp hd
    obtain ⟨hschema, hrelation⟩ := Prod.mk.inj (of_decide_eq_true hkey)
    rw [hsorted]
    show ConstraintRow.mk e.1 x.name d.constraint ∈ c.constraintRows
    rw [hname, ← hschema, ← hrelation]
    exact hmem
  · intro hd
    obtain ⟨x, hx⟩ := c.relationAt_of_listed (readable.listedConstraints d hd)
    obtain ⟨hname, -, -, hconstraints⟩ := relationAt_eq_some hx
    refine ⟨(d.schema, x.sorted), c.mem_entries_snapshot.mpr ⟨d.relation, x, hx, rfl⟩, d.constraint,
      ?_, ?_⟩
    · rw [Relation.sorted, List.mem_insertionSort, hconstraints]
      exact List.mem_map_of_mem (List.mem_filter.mpr ⟨hd, by simp⟩)
    · show ConstraintRow.mk d.schema x.name d.constraint = d
      rw [hname]
      rfl

/-- The snapshot has exactly the rows. -/
theorem exact_snapshot {c : Catalog} (readable : c.Readable) (distinct : c.Distinct) :
    c.snapshot.Exact c := by
  have sorted := sorted_snapshot distinct
  refine ⟨?_, ?_, ?_⟩
  · refine (List.perm_ext_iff_of_nodup ?_ (List.Nodup.of_map _ distinct.relations)).mpr
      (mem_relationRows_snapshot distinct)
    exact List.pairwise_map.mpr (sorted.nodup_entries.imp fun hne heq => hne (by
      obtain ⟨hschema, hrelation, -⟩ := RelationRow.mk.inj heq
      rw [hschema, hrelation]))
  · refine (List.perm_ext_iff_of_nodup ?_ (List.Nodup.of_map _ distinct.columns)).mpr
      (mem_columnRows_snapshot readable)
    refine List.pairwise_flatMap.mpr ⟨fun e he => List.pairwise_map.mpr ?_, ?_⟩
    · refine (sorted.columns e he).imp fun {a b} hlt heq => ?_
      rw [(ColumnRow.mk.inj heq).2.2] at hlt
      exact lt_irrefl _ hlt
    · refine sorted.nodup_entries.imp fun hne d hd d' hd' heq => hne ?_
      obtain ⟨_, -, rfl⟩ := List.mem_map.mp hd
      obtain ⟨_, -, rfl⟩ := List.mem_map.mp hd'
      obtain ⟨hschema, hrelation, -⟩ := ColumnRow.mk.inj heq
      rw [hschema, hrelation]
  · refine (List.perm_ext_iff_of_nodup ?_ (List.Nodup.of_map _ distinct.constraints)).mpr
      (mem_constraintRows_snapshot readable)
    refine List.pairwise_flatMap.mpr ⟨fun e he => List.pairwise_map.mpr ?_, ?_⟩
    · refine (sorted.constraints e he).imp fun {a b} hlt heq => ?_
      rw [(ConstraintRow.mk.inj heq).2.2] at hlt
      exact List.lt_irrefl _ hlt
    · refine sorted.nodup_entries.imp fun hne d hd d' hd' heq => hne ?_
      obtain ⟨_, -, rfl⟩ := List.mem_map.mp hd
      obtain ⟨_, -, rfl⟩ := List.mem_map.mp hd'
      obtain ⟨hschema, hrelation, -⟩ := ConstraintRow.mk.inj heq
      rw [hschema, hrelation]

end Catalog

/-! ### The order of the rows -/

/-- What is retained under a key, sorted, determines what the maps are written out as. -/
theorem schemaFromMaps_congr {schemas schemas' : SchemaMap}
    (h : ∀ s r, (relationOf schemas s r).map Relation.sorted =
      (relationOf schemas' s r).map Relation.sorted) :
    schemaFromMaps schemas = schemaFromMaps schemas' := by
  have hinfo : ∀ {m m' : SchemaMap} {info : SchemaInfo},
      (∀ s r, (relationOf m s r).map Relation.sorted = (relationOf m' s r).map Relation.sorted) →
        info ∈ (schemaFromMaps m).schemas → info ∈ (schemaFromMaps m').schemas := by
    intro m m' info h hmem
    obtain ⟨relations, hlookup, hempty, hrelations⟩ := mem_schemas.mp hmem
    have hlookups : ∀ r : String, relations[r]?.map Relation.sorted =
        (relationOf m' info.name r).map Relation.sorted := by
      intro r
      rw [← h, relationOf, hlookup, Option.bind_some]
    -- a retained relation of the schema shows that the other map has the schema too
    obtain ⟨r, x, hx⟩ : ∃ (r : String) (x : Relation), relations[r]? = some x := by
      obtain ⟨x, hx⟩ := List.exists_mem_of_ne_nil _ (nonempty_relations hmem)
      rw [hrelations, List.mem_map] at hx
      obtain ⟨y, hy, -⟩ := hx
      obtain ⟨r, hr⟩ := mem_values.mp hy
      exact ⟨r, y, hr⟩
    obtain ⟨x', hx'⟩ : ∃ x', relationOf m' info.name r = some x' := by
      have := hlookups r
      rw [hx, Option.map_some] at this
      obtain ⟨x', hx', -⟩ := Option.map_eq_some_iff.mp this.symm
      exact ⟨x', hx'⟩
    obtain ⟨relations', hlookup', hr'⟩ := Option.bind_eq_some_iff.mp hx'
    refine mem_schemas.mpr ⟨relations', hlookup', isEmpty_of_lookup hr', ?_⟩
    have hlist := Std.TreeMap.toList_map_congr (m := relations) (n := relations') (f := Relation.sorted)
      (g := Relation.sorted) fun r => by rw [hlookups, relationOf, hlookup', Option.bind_some]
    have hsnd := congrArg (List.map Prod.snd) hlist
    rw [List.map_map, List.map_map] at hsnd
    rw [hrelations, Std.TreeMap.values_eq_map_toList, Std.TreeMap.values_eq_map_toList, List.map_map,
      List.map_map]
    exact hsnd
  have hschemas : (schemaFromMaps schemas).schemas = (schemaFromMaps schemas').schemas :=
    Ordered.eq_of_mem_iff (r := fun a b => Json.utf8 a.name < Json.utf8 b.name)
      (fun _ => List.lt_irrefl _) List.lt_trans (pairwise_schemas _) (pairwise_schemas _)
      fun _ => ⟨hinfo h, hinfo fun s r => (h s r).symm⟩
  exact congrArg SchemaResult.mk hschemas

namespace Catalog

variable {c c' : Catalog}

/-- The same rows, in other orders. -/
structure Perm (c c' : Catalog) : Prop where
  relations : c.relations.Perm c'.relations
  columns : c.columns.Perm c'.columns
  constraints : c.constraints.Perm c'.constraints

theorem Perm.symm (h : c.Perm c') : c'.Perm c := ⟨h.1.symm, h.2.symm, h.3.symm⟩

theorem Perm.relationRows (h : c.Perm c') : c.relationRows.Perm c'.relationRows := h.relations.filterMap _

theorem Perm.columnRows (h : c.Perm c') : c.columnRows.Perm c'.columnRows := h.columns.filterMap _

theorem Perm.constraintRows (h : c.Perm c') : c.constraintRows.Perm c'.constraintRows :=
  h.constraints.filterMap _

theorem Perm.readable (h : c.Perm c') (readable : c.Readable) : c'.Readable where
  relations := fun row hrow => readable.relations row (h.relations.mem_iff.mpr hrow)
  columns := fun row hrow => readable.columns row (h.columns.mem_iff.mpr hrow)
  constraints := fun row hrow => readable.constraints row (h.constraints.mem_iff.mpr hrow)
  listedColumns := fun d hd =>
    (h.relationRows.map _).mem_iff.mp (readable.listedColumns d (h.columnRows.mem_iff.mpr hd))
  listedConstraints := fun d hd =>
    (h.relationRows.map _).mem_iff.mp (readable.listedConstraints d (h.constraintRows.mem_iff.mpr hd))

theorem Perm.distinct (h : c.Perm c') (distinct : c.Distinct) : c'.Distinct where
  relations := (h.relationRows.map _).nodup_iff.mp distinct.relations
  columns := (h.columnRows.map _).nodup_iff.mp distinct.columns
  constraints := (h.constraintRows.map _).nodup_iff.mp distinct.constraints

/-- The relation of a key does not depend on the order of the rows. -/
theorem relationAt_perm (distinct : c.Distinct) (h : c.Perm c') (key : String × String) :
    (c.relationAt key).map Relation.sorted = (c'.relationAt key).map Relation.sorted := by
  by_cases hlisted : key ∈ c.relationRows.map RelationRow.key
  · obtain ⟨x, hx⟩ := c.relationAt_of_listed hlisted
    obtain ⟨x', hx'⟩ := c'.relationAt_of_listed ((h.relationRows.map _).mem_iff.mp hlisted)
    obtain ⟨hname, -, hcolumns, hconstraints⟩ := relationAt_eq_some hx
    obtain ⟨hname', ⟨d, hd, rfl, hkind⟩, hcolumns', hconstraints'⟩ := relationAt_eq_some hx'
    rw [hx, hx', Option.map_some, Option.map_some, Option.some_inj]
    have hsame : x.kind = x'.kind := by
      rw [← hkind, kind_relationAt distinct (h.relationRows.mem_iff.mpr hd) hx]
    unfold Relation.sorted
    rw [hname, hname', hsame, hcolumns, hcolumns', hconstraints, hconstraints']
    congr 1
    · refine Ordered.insertionSort_perm SchemaColumn.ordinal le_antisymm ((h.columnRows.filter _).map _) ?_
      rw [List.map_map]
      exact nodup_of_keys distinct.columns _
    · refine Ordered.insertionSort_perm (fun y : Constraint => Json.utf8 y.name) List.le_antisymm
        ((h.constraintRows.filter _).map _) ?_
      have hnodup := (nodup_of_keys distinct.constraints d.key).map Json.utf8_injective
      rw [List.map_map] at hnodup ⊢
      exact hnodup
  · have hnone : ∀ {c : Catalog}, key ∉ c.relationRows.map RelationRow.key → c.relationAt key = none := by
      intro c hkey
      rw [relationAt, List.find?_eq_none.mpr, Option.map_none]
      intro d hd hdkey
      exact hkey (List.mem_map.mpr ⟨d, hd, by simpa using hdkey⟩)
    rw [hnone hlisted, hnone (mt (h.relationRows.map _).mem_iff.mpr hlisted)]

/-- The snapshot does not depend on the order of the rows. -/
theorem snapshot_perm (distinct : c.Distinct) (h : c.Perm c') : c.snapshot = c'.snapshot :=
  schemaFromMaps_congr fun s r => by
    rw [relationOf_retained, relationOf_retained, relationAt_perm distinct h]

end Catalog

end PgMcp
