import PgMcp.Json.Size
import PgMcp.Lib.Checks
import PgMcp.Schema.Assembly

/-!
# The budget of a snapshot

A snapshot is validated after every row that is retained.  The number of its units, its
cells and its canonical size only grow while rows are added, so that the checks in between
reject nothing that the check of the complete snapshot accepts.

## Main definitions

* `SchemaResult.Fits` — the limits of a snapshot, without the order of the checks.
* `SchemaResult.Within` — one snapshot is part of another one.

## Main results

* `validate_iff` — a snapshot passes its validation exactly when it fits.
* `Fits.of_within` — a part of a snapshot that fits, fits.
* `assemble_cases` — the assembly meets a limit exactly when the complete snapshot does not
  fit.
-/

namespace PgMcp

open Checks Ordered

/-! ### What a validation checks -/

/-- The strings of a column the cell limit is about. -/
def SchemaColumn.cells (c : SchemaColumn) : List String := c.name :: c.typeName :: c.defaultExpression.toList

def Constraint.cells (c : Constraint) : List String := [c.name, c.definition]

def Relation.cells (r : Relation) : List String :=
  r.name :: (r.columns.flatMap SchemaColumn.cells ++ r.constraints.flatMap Constraint.cells)

def SchemaInfo.cells (info : SchemaInfo) : List String := info.name :: info.relations.flatMap Relation.cells

def SchemaResult.cells (s : SchemaResult) : List String := s.schemas.flatMap SchemaInfo.cells

/-- A relation counts for itself, its columns and its constraints. -/
def Relation.units (r : Relation) : ℕ := 1 + r.columns.length + r.constraints.length

def SchemaInfo.units (info : SchemaInfo) : ℕ := 1 + (info.relations.map Relation.units).sum

def SchemaResult.units (s : SchemaResult) : ℕ := (s.schemas.map SchemaInfo.units).sum

/-- The limits of a snapshot. -/
structure SchemaResult.Fits (s : SchemaResult) (config : Config) : Prop where
  units : s.units ≤ min usizeMax config.resultRows
  cells : ∀ cell ∈ s.cells, cell.utf8ByteSize ≤ config.cellBytes
  bytes : s.toJson.canonicalJsonBytes ≤ config.resultJsonBytes

theorem checkedUnit_eq_ok_iff {u v : ℕ} : checkedUnit u = .ok v ↔ v = u + 1 ∧ v ≤ usizeMax := by
  unfold checkedUnit
  split
  · next h => exact ⟨nofun, fun ⟨hv, hle⟩ => by omega⟩
  · next h =>
    constructor
    · intro heq
      cases heq
      exact ⟨rfl, by omega⟩
    · rintro ⟨rfl, -⟩
      rfl

theorem checkSchemaCell_eq_ok_iff {limit : ℕ} {s : String} {u : Unit} :
    checkSchemaCell limit s = .ok u ↔ s.utf8ByteSize ≤ limit := by
  unfold checkSchemaCell
  split
  · next h => exact ⟨nofun, fun hle => by omega⟩
  · next h => exact ⟨fun _ => by omega, fun _ => rfl⟩

/-- The cells of an element. -/
def CellsFit {α : Type} (limit : ℕ) (cells : α → List String) (a : α) : Prop :=
  ∀ cell ∈ cells a, cell.utf8ByteSize ≤ limit

theorem columnUnits_eq_ok_iff {limit u v : ℕ} {columns : List SchemaColumn} (hu : u ≤ usizeMax) :
    columnUnits limit u columns = .ok v ↔
      v = u + columns.length ∧ v ≤ usizeMax ∧ ∀ c ∈ columns, CellsFit limit SchemaColumn.cells c := by
  unfold columnUnits
  rw [foldlM_weight (fun _ => 1) (CellsFit limit SchemaColumn.cells) ?_ columns u v hu]
  · simp
  · intro u c v hu
    cases hdefault : c.defaultExpression <;>
      · simp only [bind_eq_ok_iff, checkedUnit_eq_ok_iff, checkSchemaCell_eq_ok_iff, pure_eq_ok_iff, CellsFit,
          SchemaColumn.cells, hdefault]
        grind

theorem constraintUnits_eq_ok_iff {limit u v : ℕ} {constraints : List Constraint} (hu : u ≤ usizeMax) :
    constraintUnits limit u constraints = .ok v ↔
      v = u + constraints.length ∧ v ≤ usizeMax ∧
        ∀ c ∈ constraints, CellsFit limit Constraint.cells c := by
  unfold constraintUnits
  rw [foldlM_weight (fun _ => 1) (CellsFit limit Constraint.cells) ?_ constraints u v hu]
  · simp
  · intro u c v hu
    simp only [bind_eq_ok_iff, checkedUnit_eq_ok_iff, checkSchemaCell_eq_ok_iff, pure_eq_ok_iff, CellsFit,
      Constraint.cells]
    grind

theorem relationUnits_eq_ok_iff {config : Config} {u v : ℕ} {relations : List Relation}
    (hu : u ≤ min usizeMax config.resultRows) :
    relationUnits config u relations = .ok v ↔
      v = u + (relations.map Relation.units).sum ∧ v ≤ min usizeMax config.resultRows ∧
        ∀ r ∈ relations, CellsFit config.cellBytes Relation.cells r := by
  unfold relationUnits
  refine foldlM_weight Relation.units (CellsFit config.cellBytes Relation.cells) ?_ relations u v hu
  intro u r v hu
  have hcells : CellsFit config.cellBytes Relation.cells r ↔ r.name.utf8ByteSize ≤ config.cellBytes ∧
      (∀ c ∈ r.columns, CellsFit config.cellBytes SchemaColumn.cells c) ∧
        ∀ c ∈ r.constraints, CellsFit config.cellBytes Constraint.cells c := by
    simp only [CellsFit, Relation.cells, List.forall_mem_cons, List.forall_mem_append,
      List.forall_mem_flatMap]
  rw [hcells]
  unfold Relation.units
  simp only [bind_eq_ok_iff, checkedUnit_eq_ok_iff, checkSchemaCell_eq_ok_iff]
  constructor
  · rintro ⟨_, ⟨rfl, hone⟩, _, hname, v₁, hcolumns, v₂, hconstraints, h⟩
    obtain ⟨rfl, hle, hcolumns⟩ := (columnUnits_eq_ok_iff hone).mp hcolumns
    obtain ⟨rfl, hle', hconstraints⟩ := (constraintUnits_eq_ok_iff hle).mp hconstraints
    split at h
    · cases h
    · cases h
      exact ⟨by omega, by omega, hname, hcolumns, hconstraints⟩
  · rintro ⟨rfl, hle, hname, hcolumns, hconstraints⟩
    have hone : u + 1 ≤ usizeMax := by omega
    have htwo : u + 1 + r.columns.length ≤ usizeMax := by omega
    refine ⟨_, ⟨rfl, hone⟩, (), hname, _, (columnUnits_eq_ok_iff hone).mpr ⟨rfl, htwo, hcolumns⟩, _,
      (constraintUnits_eq_ok_iff htwo).mpr ⟨rfl, by omega, hconstraints⟩, ?_⟩
    rw [if_neg (by omega)]
    exact congrArg Except.ok (by omega)

/-- The total of a snapshot is accepted when its units and cells are within the limits. -/
theorem schemaUnits_eq_ok_iff {config : Config} {s : SchemaResult} {v : ℕ} :
    (s.schemas.foldlM (fun units info => do
      let units ← checkedUnit units
      checkSchemaCell config.cellBytes info.name
      if config.resultRows < units then throw .schemaLimit
      relationUnits config units info.relations) 0 : Except ValidationError ℕ) = .ok v ↔
      v = s.units ∧ v ≤ min usizeMax config.resultRows ∧
        ∀ cell ∈ s.cells, cell.utf8ByteSize ≤ config.cellBytes := by
  have hcells : (∀ cell ∈ s.cells, cell.utf8ByteSize ≤ config.cellBytes) ↔
      ∀ info ∈ s.schemas, CellsFit config.cellBytes SchemaInfo.cells info := by
    simp only [SchemaResult.cells, CellsFit, List.forall_mem_flatMap]
  rw [hcells, foldlM_weight SchemaInfo.units
    (CellsFit config.cellBytes SchemaInfo.cells) ?_ s.schemas 0 v (Nat.zero_le _), Nat.zero_add]
  · rfl
  · intro u info v hu
    have hcells : CellsFit config.cellBytes SchemaInfo.cells info ↔
        info.name.utf8ByteSize ≤ config.cellBytes ∧
          ∀ r ∈ info.relations, CellsFit config.cellBytes Relation.cells r := by
      simp only [CellsFit, SchemaInfo.cells, List.forall_mem_cons, List.forall_mem_flatMap]
    rw [hcells]
    unfold SchemaInfo.units
    simp only [bind_eq_ok_iff, checkedUnit_eq_ok_iff, checkSchemaCell_eq_ok_iff]
    constructor
    · rintro ⟨_, ⟨rfl, hone⟩, _, hname, h⟩
      split at h
      · cases h
      · obtain ⟨rfl, hle, hrelations⟩ := (relationUnits_eq_ok_iff (by omega)).mp h
        exact ⟨by omega, hle, hname, hrelations⟩
    · rintro ⟨rfl, hle, hname, hrelations⟩
      refine ⟨_, ⟨rfl, by omega⟩, (), hname, ?_⟩
      rw [if_neg (by omega)]
      exact (relationUnits_eq_ok_iff (by omega)).mpr ⟨by omega, hle, hrelations⟩

/-- A snapshot passes its validation exactly when it fits. -/
theorem validate_iff {s : SchemaResult} {config : Config} :
    s.validate config = .ok () ↔ s.Fits config := by
  unfold SchemaResult.validate
  simp only [bind_eq_ok_iff, schemaUnits_eq_ok_iff]
  constructor
  · rintro ⟨_, ⟨rfl, hunits, hcells⟩, h⟩
    split at h
    · cases h
    · exact ⟨hunits, hcells, by omega⟩
  · rintro ⟨hunits, hcells, hbytes⟩
    refine ⟨_, ⟨rfl, hunits, hcells⟩, ?_⟩
    rw [if_neg (by omega)]
    rfl

/-! ### What a validation answers -/

theorem checkedUnit_error {u : ℕ} {e : ValidationError} (h : checkedUnit u = .error e) :
    e = .schemaLimit := by
  unfold checkedUnit at h
  split at h
  · cases h
    rfl
  · cases h

theorem checkSchemaCell_error {limit : ℕ} {s : String} {e : ValidationError}
    (h : checkSchemaCell limit s = .error e) : e = .schemaLimit := by
  unfold checkSchemaCell at h
  split at h
  · cases h
    rfl
  · cases h

theorem columnUnits_error {limit u : ℕ} {columns : List SchemaColumn} {e : ValidationError}
    (h : columnUnits limit u columns = .error e) : e = .schemaLimit := by
  refine foldlM_error (fun u c e h => ?_) h
  rcases bind_eq_error h with h | ⟨_, -, h⟩
  · exact checkedUnit_error h
  rcases bind_eq_error h with h | ⟨_, -, h⟩
  · exact checkSchemaCell_error h
  rcases bind_eq_error h with h | ⟨_, -, h⟩
  · exact checkSchemaCell_error h
  split at h
  · rcases bind_eq_error h with h | ⟨_, -, h⟩
    · exact checkSchemaCell_error h
    · cases h
  · cases h

theorem constraintUnits_error {limit u : ℕ} {constraints : List Constraint} {e : ValidationError}
    (h : constraintUnits limit u constraints = .error e) : e = .schemaLimit := by
  refine foldlM_error (fun u c e h => ?_) h
  rcases bind_eq_error h with h | ⟨_, -, h⟩
  · exact checkedUnit_error h
  rcases bind_eq_error h with h | ⟨_, -, h⟩
  · exact checkSchemaCell_error h
  rcases bind_eq_error h with h | ⟨_, -, h⟩
  · exact checkSchemaCell_error h
  · cases h

theorem relationUnits_error {config : Config} {u : ℕ} {relations : List Relation} {e : ValidationError}
    (h : relationUnits config u relations = .error e) : e = .schemaLimit := by
  refine foldlM_error (fun u c e h => ?_) h
  rcases bind_eq_error h with h | ⟨_, -, h⟩
  · exact checkedUnit_error h
  rcases bind_eq_error h with h | ⟨_, -, h⟩
  · exact checkSchemaCell_error h
  rcases bind_eq_error h with h | ⟨_, -, h⟩
  · exact columnUnits_error h
  rcases bind_eq_error h with h | ⟨_, -, h⟩
  · exact constraintUnits_error h
  split at h
  · cases h
    rfl
  · cases h

/-- A snapshot is rejected for its size only. -/
theorem validate_error {s : SchemaResult} {config : Config} {e : ValidationError}
    (h : s.validate config = .error e) : e = .schemaLimit := by
  unfold SchemaResult.validate at h
  rcases bind_eq_error h with h | ⟨_, -, h⟩
  · refine foldlM_error (fun u info e h => ?_) h
    rcases bind_eq_error h with h | ⟨_, -, h⟩
    · exact checkedUnit_error h
    rcases bind_eq_error h with h | ⟨_, -, h⟩
    · exact checkSchemaCell_error h
    split at h
    · cases h
      rfl
    · exact relationUnits_error h
  · split at h
    · cases h
      rfl
    · cases h

/-- Validation for the assembly: accepted, or at a limit. -/
theorem validateSchema_eq (s : SchemaResult) (config : Config) [Decidable (s.Fits config)] :
    validateSchema s config = if s.Fits config then .ok () else .error .limit := by
  unfold validateSchema
  cases h : s.validate config with
  | ok u => rw [if_pos (validate_iff.mp h)]; rfl
  | error e =>
    rw [if_neg fun hfits => ?_, validate_error h]
    · rfl
    · rw [validate_iff.mpr hfits] at h
      cases h

/-! ### Parts of a snapshot -/

/-- A relation with some of the columns and constraints of another one. -/
structure Relation.Within (r r' : Relation) : Prop where
  name : r.name = r'.name
  kind : r.kind = r'.kind
  columns : r.columns.Subperm r'.columns
  constraints : r.constraints.Subperm r'.constraints

/-- A schema with parts of some of the relations of another one. -/
structure SchemaInfo.Within (info info' : SchemaInfo) : Prop where
  name : info.name = info'.name
  relations : List.SublistForall₂ Relation.Within info.relations info'.relations

/-- A snapshot with parts of some of the schemas of another one. -/
def SchemaResult.Within (s s' : SchemaResult) : Prop :=
  List.SublistForall₂ SchemaInfo.Within s.schemas s'.schemas

theorem Relation.Within.units {r r' : Relation} (h : r.Within r') : r.units ≤ r'.units := by
  have hcolumns := h.columns.length_le
  have hconstraints := h.constraints.length_le
  unfold Relation.units
  omega

theorem SchemaInfo.Within.units {info info' : SchemaInfo} (h : info.Within info') :
    info.units ≤ info'.units := by
  have hsum := (sum_length_mono (R := Relation.Within) (fun _ _ h => h.units) h.relations).1
  unfold SchemaInfo.units
  omega

theorem SchemaResult.Within.units {s s' : SchemaResult} (h : s.Within s') : s.units ≤ s'.units :=
  (sum_length_mono (R := SchemaInfo.Within) (fun _ _ h => h.units) h).1

theorem Relation.Within.cells {r r' : Relation} (h : r.Within r') : r.cells ⊆ r'.cells := by
  intro cell hcell
  simp only [Relation.cells, List.mem_cons, List.mem_append, List.mem_flatMap] at hcell ⊢
  rcases hcell with rfl | ⟨c, hc, hcell⟩ | ⟨c, hc, hcell⟩
  · exact .inl h.name
  · exact .inr (.inl ⟨c, h.columns.subset hc, hcell⟩)
  · exact .inr (.inr ⟨c, h.constraints.subset hc, hcell⟩)

theorem SchemaInfo.Within.cells {info info' : SchemaInfo} (h : info.Within info') :
    info.cells ⊆ info'.cells := by
  intro cell hcell
  simp only [SchemaInfo.cells, List.mem_cons, List.mem_flatMap] at hcell ⊢
  rcases hcell with rfl | ⟨r, hr, hcell⟩
  · exact .inl h.name
  · obtain ⟨r', hr', hwithin⟩ := exists_of_sublistForall₂ h.relations r hr
    exact .inr ⟨r', hr', hwithin.cells hcell⟩

theorem SchemaResult.Within.cells {s s' : SchemaResult} (h : s.Within s') : s.cells ⊆ s'.cells := by
  intro cell hcell
  simp only [SchemaResult.cells, List.mem_flatMap] at hcell ⊢
  obtain ⟨info, hinfo, hcell⟩ := hcell
  obtain ⟨info', hinfo', hwithin⟩ := exists_of_sublistForall₂ h info hinfo
  exact ⟨info', hinfo', hwithin.cells hcell⟩

/-! ### Canonical sizes -/

open Json in
theorem Relation.Within.bytes {r r' : Relation} (h : r.Within r') :
    r.toJson.canonicalJsonBytes ≤ r'.toJson.canonicalJsonBytes := by
  have hcolumns := separated_subperm (fun c : SchemaColumn => c.toJson.canonicalJsonBytes) h.columns
  have hconstraints := separated_subperm (fun c : Constraint => c.toJson.canonicalJsonBytes) h.constraints
  unfold Relation.toJson
  simp only [canonicalJsonBytes_obj, canonicalJsonBytes_arr, List.map_cons, List.map_nil,
    separated_cons_cons, separated_singleton, List.map_map, Function.comp_def, h.name, h.kind]
  omega

open Json in
theorem SchemaResult.Within.bytes {s s' : SchemaResult} (h : s.Within s') :
    s.toJson.canonicalJsonBytes ≤ s'.toJson.canonicalJsonBytes := by
  unfold SchemaResult.toJson
  simp only [canonicalJsonBytes_obj, canonicalJsonBytes_arr, List.map_cons, List.map_nil,
    separated_singleton, List.map_map, Function.comp_def]
  refine Nat.add_le_add_left (Nat.add_le_add_left (Nat.add_le_add_left
    (separated_mono (fun info info' hinfo => ?_) h) _) _) _
  have hrelations := separated_mono (R := Relation.Within)
    (f := fun r => r.toJson.canonicalJsonBytes) (fun _ _ h => h.bytes) hinfo.relations
  simp only [separated_cons_cons, separated_singleton, hinfo.name]
  omega

/-- A part of a snapshot that fits, fits. -/
theorem SchemaResult.Fits.of_within {s s' : SchemaResult} {config : Config} (h : s'.Fits config)
    (within : s.Within s') : s.Fits config where
  units := within.units.trans h.units
  cells := fun cell hcell => h.cells cell (within.cells hcell)
  bytes := within.bytes.trans h.bytes

/-! ### Parts of the maps -/

theorem Relation.Within.refl (r : Relation) : r.Within r := ⟨rfl, rfl, .refl _, .refl _⟩

theorem Relation.Within.trans {r r' r'' : Relation} (h : r.Within r') (h' : r'.Within r'') :
    r.Within r'' :=
  ⟨h.name.trans h'.name, h.kind.trans h'.kind, h.columns.trans h'.columns,
    h.constraints.trans h'.constraints⟩

theorem Relation.Within.sorted {r r' : Relation} (h : r.Within r') : r.sorted.Within r'.sorted where
  name := h.name
  kind := h.kind
  columns := (List.perm_insertionSort _ _).subperm.trans
    (h.columns.trans (List.perm_insertionSort _ _).symm.subperm)
  constraints := (List.perm_insertionSort _ _).subperm.trans
    (h.constraints.trans (List.perm_insertionSort _ _).symm.subperm)

/-- Every retained relation is part of one retained under its key later. -/
def Extends (schemas schemas' : SchemaMap) : Prop :=
  ∀ s r x, relationOf schemas s r = some x → ∃ y, relationOf schemas' s r = some y ∧ x.Within y

theorem Extends.refl (schemas : SchemaMap) : Extends schemas schemas :=
  fun _ _ x hx => ⟨x, hx, .refl x⟩

theorem Extends.trans {m m' m'' : SchemaMap} (h : Extends m m') (h' : Extends m' m'') :
    Extends m m'' := by
  intro s r x hx
  obtain ⟨y, hy, hwithin⟩ := h s r x hx
  obtain ⟨z, hz, hwithin'⟩ := h' s r y hy
  exact ⟨z, hz, hwithin.trans hwithin'⟩

/-- What is written out of the earlier maps is part of what is written out later. -/
theorem Extends.within {schemas schemas' : SchemaMap} (h : Extends schemas schemas') :
    (schemaFromMaps schemas).Within (schemaFromMaps schemas') := by
  refine sublistForall₂_of_keys (fun a b => Json.utf8 a < Json.utf8 b)
    (f := SchemaInfo.name) (g := SchemaInfo.name) (fun _ => List.lt_irrefl _) List.lt_trans
    (pairwise_schemas _) (pairwise_schemas _) fun info hinfo => ?_
  obtain ⟨relations, hlookup, -, hrelations⟩ := mem_schemas.mp hinfo
  obtain ⟨x, hx⟩ := List.exists_mem_of_ne_nil _ (nonempty_relations hinfo)
  rw [hrelations, List.mem_map] at hx
  obtain ⟨z, hz, -⟩ := hx
  obtain ⟨r, hr⟩ := mem_values.mp hz
  obtain ⟨y, hy, -⟩ := h info.name r z (relationOf_eq_some hlookup hr)
  obtain ⟨relations', hlookup', hr'⟩ := Option.bind_eq_some_iff.mp hy
  refine ⟨⟨info.name, relations'.values.map Relation.sorted⟩,
    mem_schemas.mpr ⟨relations', hlookup', isEmpty_of_lookup hr', rfl⟩, rfl, rfl, ?_⟩
  have hembed := Std.TreeMap.toList_sublistForall₂ (R := Relation.Within) (m := relations) (n := relations')
    fun r x hx => by
      obtain ⟨y, hy, hwithin⟩ := h info.name r x (relationOf_eq_some hlookup hx)
      rw [relationOf, hlookup', Option.bind_some] at hy
      exact ⟨y, hy, hwithin⟩
  rw [hrelations, Std.TreeMap.values_eq_map_toList, Std.TreeMap.values_eq_map_toList, List.map_map,
    List.map_map]
  exact sublistForall₂_map (fun e e' h => h.2.sorted) hembed

theorem extends_retainRelation (schemas : SchemaMap) (d : RelationRow) :
    Extends schemas (retainRelation schemas d) := by
  intro s r x hx
  refine ⟨x, ?_, .refl x⟩
  rw [relationOf_retainRelation, hx, Option.getD_some, ite_self]

theorem extends_modifyRelation (schemas : SchemaMap) (s r : String) {f : Relation → Relation}
    (hf : ∀ x : Relation, x.Within (f x)) : Extends schemas (modifyRelation schemas s r f) := by
  intro s' r' x hx
  rw [relationOf_modifyRelation, hx]
  split
  · exact ⟨f x, rfl, hf x⟩
  · exact ⟨x, rfl, .refl x⟩

theorem extends_retainColumn (schemas : SchemaMap) (d : ColumnRow) :
    Extends schemas (retainColumn schemas d) :=
  extends_modifyRelation _ _ _ fun x =>
    ⟨rfl, rfl, (List.sublist_append_left x.columns _).subperm, .refl _⟩

theorem extends_retainConstraint (schemas : SchemaMap) (d : ConstraintRow) :
    Extends schemas (retainConstraint schemas d) :=
  extends_modifyRelation _ _ _ fun x =>
    ⟨rfl, rfl, .refl _, (List.sublist_append_left x.constraints _).subperm⟩

theorem extends_foldl {α : Type} {retain : SchemaMap → α → SchemaMap}
    (hretain : ∀ m d, Extends m (retain m d)) (rows : List α) (m : SchemaMap) :
    Extends m (rows.foldl retain m) := by
  induction rows generalizing m with
  | nil => exact .refl m
  | cons d rows ih => exact (hretain m d).trans (ih _)

/-! ### The checked steps -/

theorem required_error {row : CatalogRow} {i : ℕ} {e : SchemaError} (h : required row i = .error e) :
    e = .malformed := by
  unfold required at h
  split at h <;> cases h
  rfl

theorem parseU32_error {s : String} {e : SchemaError} (h : parseU32 s = .error e) : e = .malformed := by
  unfold parseU32 at h
  extract_lets digits value at h
  split at h <;> cases h
  rfl

theorem parseBool_error {s : String} {e : SchemaError} (h : parseBool s = .error e) : e = .malformed := by
  unfold parseBool at h
  split at h <;> cases h
  rfl

theorem constraintKind_error {s : String} {e : SchemaError} (h : constraintKind s = .error e) :
    e = .malformed := by
  unfold constraintKind at h
  split at h <;> cases h
  rfl

theorem identityKind_error {o : Option String} {e : SchemaError} (h : identityKind o = .error e) :
    e = .malformed := by
  unfold identityKind at h
  split at h <;> cases h
  rfl

theorem addRelation_eq (config : Config) (m : SchemaMap) (row : CatalogRow) :
    addRelation config m row = (do
      let d ← decodeRelation row
      validatePartial (retainRelation m d) config
      return retainRelation m d) := by
  unfold addRelation decodeRelation
  simp only [bind_assoc, pure_bind]
  rfl

theorem columnFields_error {row : CatalogRow} {e : SchemaError} (h : columnFields row = .error e) :
    e = .malformed := by
  unfold columnFields at h
  rcases bind_eq_error h with h | ⟨_, -, h⟩
  · exact required_error h
  rcases bind_eq_error h with h | ⟨_, -, h⟩
  · exact parseU32_error h
  rcases bind_eq_error h with h | ⟨_, -, h⟩
  · exact required_error h
  rcases bind_eq_error h with h | ⟨_, -, h⟩
  · exact parseU32_error h
  rcases bind_eq_error h with h | ⟨_, -, h⟩
  · exact required_error h
  rcases bind_eq_error h with h | ⟨_, -, h⟩
  · exact parseBool_error h
  rcases bind_eq_error h with h | ⟨_, -, h⟩
  · exact identityKind_error h
  rcases bind_eq_error h with h | ⟨_, -, h⟩
  · exact required_error h
  rcases bind_eq_error h with h | ⟨_, -, h⟩
  · exact required_error h
  rcases bind_eq_error h with h | ⟨_, -, h⟩
  · exact required_error h
  rcases bind_eq_error h with h | ⟨_, -, h⟩
  · exact parseBool_error h
  · cases h

theorem constraintFields_error {row : CatalogRow} {e : SchemaError}
    (h : constraintFields row = .error e) : e = .malformed := by
  unfold constraintFields at h
  rcases bind_eq_error h with h | ⟨_, -, h⟩
  · exact required_error h
  rcases bind_eq_error h with h | ⟨_, -, h⟩
  · exact required_error h
  rcases bind_eq_error h with h | ⟨_, -, h⟩
  · exact constraintKind_error h
  rcases bind_eq_error h with h | ⟨_, -, h⟩
  · exact required_error h
  · cases h

/-- The relation of a row is looked up before its other cells are decoded; whichever fails,
the answer is the same. -/
theorem addColumn_eq (config : Config) (m : SchemaMap) (row : CatalogRow) :
    addColumn config m row = (do
      let d ← decodeColumn row
      if (relationOf m d.schema d.relation).isNone then throw .malformed
      validatePartial (retainColumn m d) config
      return retainColumn m d) := by
  unfold addColumn decodeColumn
  simp only [bind_assoc, pure_bind]
  refine bind_congr fun _ => bind_congr fun schema => bind_congr fun relation => ?_
  by_cases hlisted : (relationOf m schema relation).isNone = true
  · simp only [if_pos hlisted]
    cases hfields : columnFields row with
    | ok column => rfl
    | error e => rw [columnFields_error hfields]; rfl
  · simp only [if_neg hlisted]
    unfold columnFields
    simp only [bind_assoc, pure_bind]
    rfl

theorem addConstraint_eq (config : Config) (m : SchemaMap) (row : CatalogRow) :
    addConstraint config m row = (do
      let d ← decodeConstraint row
      if (relationOf m d.schema d.relation).isNone then throw .malformed
      validatePartial (retainConstraint m d) config
      return retainConstraint m d) := by
  unfold addConstraint decodeConstraint
  simp only [bind_assoc, pure_bind]
  refine bind_congr fun _ => bind_congr fun schema => bind_congr fun relation => ?_
  by_cases hlisted : (relationOf m schema relation).isNone = true
  · simp only [if_pos hlisted]
    cases hfields : constraintFields row with
    | ok constraint => rfl
    | error e => rw [constraintFields_error hfields]; rfl
  · simp only [if_neg hlisted]
    unfold constraintFields
    simp only [bind_assoc, pure_bind]
    rfl

/-! ### The checked assembly -/

theorem isNone_find? {rows : List RelationRow} {key : String × String}
    (h : key ∈ rows.map RelationRow.key) : (rows.find? (·.key = key)).isNone = false := by
  obtain ⟨d, hd, hkey⟩ := List.mem_map.mp h
  rw [Option.isNone_eq_false_iff, List.find?_isSome]
  exact ⟨d, hd, by simpa using hkey⟩

/-- Rows that can be retained are all retained, or a limit is met, which the complete maps
exceed too. -/
theorem foldlM_retained {α : Type} {add : SchemaMap → CatalogRow → Except SchemaError SchemaMap}
    {decode : CatalogRow → Except SchemaError α} {retain : SchemaMap → α → SchemaMap}
    (Listed : SchemaMap → α → Prop) {config : Config}
    (hadd : ∀ m row d, decode row = .ok d → Listed m d → add m row = (do
      validatePartial (retain m d) config
      return retain m d))
    (hextends : ∀ m d, Extends m (retain m d)) (hlisted : ∀ m d d', Listed m d → Listed (retain m d') d) :
    ∀ (rows : List CatalogRow) (m : SchemaMap), (∀ row ∈ rows, (decode row).isOk) →
      (∀ d ∈ decoded decode rows, Listed m d) →
      rows.foldlM add m = .ok ((decoded decode rows).foldl retain m) ∨
        rows.foldlM add m = .error .limit ∧
          ¬ (schemaFromMaps ((decoded decode rows).foldl retain m)).Fits config := by
  intro rows
  induction rows with
  | nil => intro m _ _; exact .inl rfl
  | cons row rows ih =>
    intro m hdecode hall
    rw [List.forall_mem_cons] at hdecode
    cases hd : decode row with
    | error e =>
      rw [hd] at hdecode
      cases hdecode.1
    | ok d =>
      have hcons : decoded decode (row :: rows) = d :: decoded decode rows := by
        rw [decoded, List.filterMap_cons, hd]
        rfl
      rw [hcons, List.forall_mem_cons] at hall
      rw [hcons, List.foldlM_cons, List.foldl_cons, hadd m row d hd hall.1]
      classical
      rw [validatePartial, validateSchema_eq]
      by_cases hfits : (schemaFromMaps (retain m d)).Fits config
      · rw [if_pos hfits]
        exact ih (retain m d) hdecode.2 fun d' hd' => hlisted m d' d (hall.2 d' hd')
      · rw [if_neg hfits]
        refine .inr ⟨rfl, fun hfinal => hfits ?_⟩
        exact hfinal.of_within (extends_foldl hextends _ _).within

namespace Catalog

variable {c : Catalog}

theorem relations_retained (readable : c.Readable) (config : Config) :
    c.relations.foldlM (addRelation config) ∅ = .ok c.related ∨
      c.relations.foldlM (addRelation config) ∅ = .error .limit ∧
        ¬ (schemaFromMaps c.related).Fits config := by
  refine foldlM_retained (fun _ _ => True) (fun m row d hd _ => ?_) extends_retainRelation
    (fun _ _ _ h => h) c.relations ∅ readable.relations fun _ _ => trivial
  rw [addRelation_eq, hd]
  rfl

theorem columns_retained (readable : c.Readable) (config : Config) :
    c.columns.foldlM (addColumn config) c.related = .ok c.described ∨
      c.columns.foldlM (addColumn config) c.related = .error .limit ∧
        ¬ (schemaFromMaps c.described).Fits config := by
  refine foldlM_retained (fun m d => (relationOf m d.schema d.relation).isNone = false)
    (fun m row d hd hlisted => ?_) extends_retainColumn (fun m d d' hlisted => ?_) c.columns c.related
    readable.columns fun d hd => ?_
  · rw [addColumn_eq, hd, ok_bind, hlisted]
    rfl
  · rw [relationOf_retainColumn]
    split <;> simpa using hlisted
  · rw [related, relationOf_foldl_retainRelation, relationOf_empty, Option.none_or, Option.isNone_map]
    exact isNone_find? (readable.listedColumns d hd)

theorem constraints_retained (readable : c.Readable) (config : Config) :
    c.constraints.foldlM (addConstraint config) c.described = .ok c.retained ∨
      c.constraints.foldlM (addConstraint config) c.described = .error .limit ∧
        ¬ (schemaFromMaps c.retained).Fits config := by
  refine foldlM_retained (fun m d => (relationOf m d.schema d.relation).isNone = false)
    (fun m row d hd hlisted => ?_) extends_retainConstraint (fun m d d' hlisted => ?_) c.constraints
    c.described readable.constraints fun d hd => ?_
  · rw [addConstraint_eq, hd, ok_bind, hlisted]
    rfl
  · rw [relationOf_retainConstraint]
    split <;> simpa using hlisted
  · rw [described, relationOf_foldl_retainColumn, Option.isNone_map, related,
      relationOf_foldl_retainRelation, relationOf_empty, Option.none_or, Option.isNone_map]
    exact isNone_find? (readable.listedConstraints d hd)

/-- The assembly meets no malformed row, and it meets a limit exactly when the snapshot of
all rows does not fit. -/
theorem assemble_cases (readable : c.Readable) (config : Config) :
    c.snapshot.Fits config ∧
        assemble config c.relations c.columns c.constraints = .ok c.snapshot ∨
      ¬ c.snapshot.Fits config ∧
        assemble config c.relations c.columns c.constraints = .error .limit := by
  have hdescribed : Extends c.described c.retained := extends_foldl extends_retainConstraint _ _
  have hrelated : Extends c.related c.retained :=
    (extends_foldl extends_retainColumn _ _).trans hdescribed
  have hpart : ∀ {m}, Extends m c.retained → ¬ (schemaFromMaps m).Fits config → ¬ c.snapshot.Fits config :=
    fun hextends hnot hfits => hnot (hfits.of_within hextends.within)
  unfold assemble
  rcases relations_retained readable config with h₁ | ⟨h₁, hnot⟩
  · rcases columns_retained readable config with h₂ | ⟨h₂, hnot⟩
    · rcases constraints_retained readable config with h₃ | ⟨h₃, hnot⟩
      · classical
        simp only [h₁, h₂, h₃, ok_bind, validateSchema_eq]
        by_cases hfits : c.snapshot.Fits config
        · exact .inl ⟨hfits, by rw [if_pos (show (schemaFromMaps c.retained).Fits config from hfits)]; rfl⟩
        · exact .inr ⟨hfits, by rw [if_neg (show ¬ (schemaFromMaps c.retained).Fits config from hfits)]; rfl⟩
      · exact .inr ⟨hnot, by simp only [h₁, h₂, h₃, ok_bind, error_bind]⟩
    · exact .inr ⟨hpart hdescribed hnot, by simp only [h₁, h₂, ok_bind, error_bind]⟩
  · exact .inr ⟨hpart hrelated hnot, by simp only [h₁, error_bind]⟩

end Catalog

end PgMcp
