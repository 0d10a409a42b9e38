import Mathlib.Data.List.TakeWhile
import PgMcp.Schema.Healthy

/-!
# Catalogs of a server

What the three catalog queries return is rendered from the server's own catalogs: coded
characters, decimal texts, booleans as `t` and `f`.  The relation and identity codes are
all decoded.  The constraint query does not select on `contype`, and two of the codes a
server stores there, constraint triggers and not-null constraints, have no place in the
decoder.

## Main definitions

* `PgClass`, `PgAttribute`, `PgConstraint` — the objects the queries select.
* `ServerCatalog.rows` — the rows they are rendered as.

## Main results

* `retrieveInner_answers_iff` — no row is malformed exactly when every constraint has a code
  the decoder knows, or a limit is met before the first one without.
-/

namespace PgMcp

open Catalog Checks Program

/-! ### What a server stores -/

/-- The relations the queries filter on. -/
inductive Relkind where
  | ordinary | partitioned | view | materialized | foreign
  deriving DecidableEq, Repr

def Relkind.code : Relkind → String
  | .ordinary => "r"
  | .partitioned => "p"
  | .view => "v"
  | .materialized => "m"
  | .foreign => "f"

inductive Attidentity where
  | no | always | byDefault
  deriving DecidableEq, Repr

def Attidentity.code : Attidentity → String
  | .no => ""
  | .always => "a"
  | .byDefault => "d"

/-- The constraints of a table. -/
inductive Contype where
  | check | foreign | primary | unique | exclusion
  /-- A constraint trigger. -/
  | trigger
  /-- A not-null constraint, on newer servers. -/
  | notNull
  deriving DecidableEq, Repr

def Contype.code : Contype → String
  | .check => "c"
  | .foreign => "f"
  | .primary => "p"
  | .unique => "u"
  | .exclusion => "x"
  | .trigger => "t"
  | .notNull => "n"

/-- A relation, with the name of its namespace. -/
structure PgClass where
  nspname : String
  relname : String
  relkind : Relkind
  oid : UInt32
  deriving DecidableEq, Repr

/-- A column of a relation; system columns have no positive number. -/
structure PgAttribute where
  nspname : String
  relname : String
  attname : String
  attnum : UInt32
  positive : 0 < attnum
  atttypid : UInt32
  typeName : String
  attnotnull : Bool
  defaultExpr : Option String
  attidentity : Attidentity
  generated : Bool

structure PgConstraint where
  nspname : String
  relname : String
  conname : String
  contype : Contype
  definition : String
  deriving DecidableEq, Repr

/-- The text of a boolean. -/
def pgBool : Bool → String
  | true => "t"
  | false => "f"

def PgClass.row (x : PgClass) : CatalogRow :=
  [some x.nspname, some x.relname, some x.relkind.code, some (toString x.oid.toNat)]

def PgAttribute.row (x : PgAttribute) : CatalogRow :=
  [some x.nspname, some x.relname, some x.attname, some (toString x.attnum.toNat),
    some (toString x.atttypid.toNat), some x.typeName, some (pgBool !x.attnotnull), x.defaultExpr,
    some x.attidentity.code, some (pgBool x.generated)]

def PgConstraint.row (x : PgConstraint) : CatalogRow :=
  [some x.nspname, some x.relname, some x.conname, some x.contype.code, some x.definition]

/-- The catalogs of a server, as far as the queries select them; columns and constraints
belong to listed relations. -/
structure ServerCatalog where
  classes : List PgClass
  attributes : List PgAttribute
  constraints : List PgConstraint
  attributesListed : ∀ x ∈ attributes, (x.nspname, x.relname) ∈ classes.map fun y => (y.nspname, y.relname)
  constraintsListed : ∀ x ∈ constraints, (x.nspname, x.relname) ∈ classes.map fun y => (y.nspname, y.relname)

/-- The rows of the three queries. -/
def ServerCatalog.rows (pg : ServerCatalog) : Catalog where
  relations := pg.classes.map PgClass.row
  columns := pg.attributes.map PgAttribute.row
  constraints := pg.constraints.map PgConstraint.row

/-! ### Decoding what a server stores -/

theorem parseU32_toString {n : ℕ} (h : n < 2 ^ 32) : parseU32 (toString n) = .ok n := by
  have hlist : (toString n).toList = Nat.toDigits 10 n := Nat.toList_repr
  have hdigits : ∀ c ∈ Nat.toDigits 10 n, c.isDigit = true := fun c hc =>
    Nat.isDigit_of_mem_toDigits (by decide) (by decide) hc
  have hplus : ∀ cs, Nat.toDigits 10 n ≠ '+' :: cs := by
    intro cs heq
    have hplus := hdigits '+' (heq ▸ List.mem_cons_self)
    revert hplus
    decide
  have hvalue : (Nat.toDigits 10 n).foldl (fun n c => 10 * n + (c.toNat - 48)) 0 = n :=
    Nat.ofDigitChars_ten_toDigits
  unfold parseU32
  simp only [hlist, hvalue]
  rw [if_neg]
  simp only [Bool.or_eq_true, decide_eq_true_eq, Bool.not_eq_true', not_or, Bool.not_eq_false,
    List.isEmpty_iff, List.all_eq_true]
  exact ⟨⟨Nat.toDigits_ne_nil, hdigits⟩, by omega⟩

/-- The kind a relation is reported as. -/
def Relkind.kind : Relkind → RelationKind
  | .ordinary => .table
  | .partitioned => .partitionedTable
  | .view => .view
  | .materialized => .materializedView
  | .foreign => .foreignTable

def Attidentity.kind : Attidentity → IdentityKind
  | .no => .none
  | .always => .always
  | .byDefault => .byDefault

/-- The kind a constraint is reported as, when there is one. -/
def Contype.kind : Contype → Option ConstraintKind
  | .check => some .check
  | .foreign => some .foreignKey
  | .primary => some .primaryKey
  | .unique => some .unique
  | .exclusion => some .exclusion
  | .trigger | .notNull => none

theorem decodeRelation_row (x : PgClass) :
    decodeRelation x.row = .ok { schema := x.nspname, relation := x.relname, kind := x.relkind.kind } := by
  have hkind : relationKind x.relkind.code = .ok x.relkind.kind := by cases x.relkind <;> rfl
  have hoid := parseU32_toString x.oid.toNat_lt
  show (do
    let kind ← relationKind x.relkind.code
    let _ ← parseU32 (toString x.oid.toNat)
    return ({ schema := x.nspname, relation := x.relname, kind } : RelationRow)) = _
  rw [hkind, hoid]
  rfl

/-- The column a row of the second query describes. -/
def PgAttribute.column (x : PgAttribute) : SchemaColumn where
  name := x.attname
  ordinal := x.attnum.toNat
  typeOid := x.atttypid.toNat
  typeName := x.typeName
  nullable := !x.attnotnull
  defaultExpression := x.defaultExpr
  identity := x.attidentity.kind
  generated := x.generated

theorem columnFields_row (x : PgAttribute) : columnFields x.row = .ok x.column := by
  have hnullable : parseBool (pgBool !x.attnotnull) = .ok !x.attnotnull := by
    cases x.attnotnull <;> rfl
  have hidentity : identityKind (some x.attidentity.code) = .ok x.attidentity.kind := by
    cases x.attidentity <;> rfl
  have hgenerated : parseBool (pgBool x.generated) = .ok x.generated := by cases x.generated <;> rfl
  show (do
    let ordinal ← parseU32 (toString x.attnum.toNat)
    let typeOid ← parseU32 (toString x.atttypid.toNat)
    let nullable ← parseBool (pgBool !x.attnotnull)
    let identity ← identityKind (some x.attidentity.code)
    let generated ← parseBool (pgBool x.generated)
    return { x.column with ordinal, typeOid, nullable, identity, generated }) = _
  rw [parseU32_toString x.attnum.toNat_lt, parseU32_toString x.atttypid.toNat_lt, hnullable, hidentity,
    hgenerated]
  rfl

theorem decodeColumn_row (x : PgAttribute) :
    decodeColumn x.row = .ok { schema := x.nspname, relation := x.relname, column := x.column } := by
  show (do
    return ({ schema := x.nspname, relation := x.relname, column := ← columnFields x.row } : ColumnRow)) = _
  rw [columnFields_row]
  rfl

theorem constraintFields_row (x : PgConstraint) : constraintFields x.row =
    match x.contype.kind with
    | some kind => .ok { name := x.conname, kind, definition := x.definition }
    | none => .error .malformed := by
  have hkind : constraintKind x.contype.code = match x.contype.kind with
      | some kind => .ok kind
      | none => .error .malformed := by
    cases x.contype <;> rfl
  show (do
    let kind ← constraintKind x.contype.code
    return ({ name := x.conname, kind, definition := x.definition } : Constraint)) = _
  rw [hkind]
  cases x.contype.kind <;> rfl

/-- A constraint can be decoded exactly when its code has a kind. -/
theorem decodeConstraint_row (x : PgConstraint) : decodeConstraint x.row =
    match x.contype.kind with
    | some kind => .ok
        { schema := x.nspname, relation := x.relname,
          constraint := { name := x.conname, kind, definition := x.definition } }
    | none => .error .malformed := by
  show (do
    return ({ schema := x.nspname, relation := x.relname, constraint := ← constraintFields x.row } :
      ConstraintRow)) = _
  rw [constraintFields_row]
  cases x.contype.kind <;> rfl

theorem decoded_map {α β : Type} {decode : CatalogRow → Except SchemaError β} {row : α → CatalogRow}
    {f : α → β} {xs : List α} (h : ∀ x ∈ xs, decode (row x) = .ok (f x)) :
    decoded decode (xs.map row) = xs.map f := by
  unfold decoded
  rw [List.filterMap_map, ← List.filterMap_eq_map]
  refine List.filterMap_congr fun x hx => ?_
  rw [Function.comp_apply, h x hx]
  rfl

/-! ### The catalog up to the first code that is not decoded -/

/-- The decoder has a kind for the code. -/
def PgConstraint.Decodes (x : PgConstraint) : Prop := x.contype.kind.isSome = true

instance (x : PgConstraint) : Decidable x.Decodes := inferInstanceAs (Decidable (_ = _))

namespace ServerCatalog

variable (pg : ServerCatalog)

/-- The catalog with the constraints before the first one whose code is not decoded. -/
def known : ServerCatalog where
  classes := pg.classes
  attributes := pg.attributes
  constraints := pg.constraints.takeWhile fun x => x.Decodes
  attributesListed := pg.attributesListed
  constraintsListed := fun x hx => pg.constraintsListed x ((List.takeWhile_sublist _).subset hx)

theorem relationRows_rows : (pg.rows.relationRows.map RelationRow.key) =
    pg.classes.map fun y => (y.nspname, y.relname) := by
  unfold rows Catalog.relationRows
  rw [decoded_map fun x _ => decodeRelation_row x, List.map_map]
  rfl

/-- Where every code is decoded, every row is. -/
theorem readable_rows (h : ∀ x ∈ pg.constraints, x.Decodes) : pg.rows.Readable where
  relations := by
    intro row hrow
    obtain ⟨x, -, rfl⟩ := List.mem_map.mp hrow
    rw [decodeRelation_row]
    rfl
  columns := by
    intro row hrow
    obtain ⟨x, -, rfl⟩ := List.mem_map.mp hrow
    rw [decodeColumn_row]
    rfl
  constraints := by
    intro row hrow
    obtain ⟨x, hx, rfl⟩ := List.mem_map.mp hrow
    obtain ⟨kind, hkind⟩ := Option.isSome_iff_exists.mp (h x hx)
    rw [decodeConstraint_row, hkind]
    rfl
  listedColumns := by
    intro d hd
    rw [relationRows_rows]
    unfold rows Catalog.columnRows at hd
    rw [decoded_map fun x _ => decodeColumn_row x] at hd
    obtain ⟨x, hx, rfl⟩ := List.mem_map.mp hd
    exact pg.attributesListed x hx
  listedConstraints := by
    intro d hd
    rw [relationRows_rows]
    obtain ⟨row, hrow, hdecode⟩ := List.mem_filterMap.mp hd
    obtain ⟨x, hx, rfl⟩ := List.mem_map.mp hrow
    rw [decodeConstraint_row] at hdecode
    cases hkind : x.contype.kind with
    | none =>
      rw [hkind] at hdecode
      cases hdecode
    | some kind =>
      rw [hkind] at hdecode
      cases hdecode
      exact pg.constraintsListed x hx

theorem readable_known : pg.known.rows.Readable :=
  pg.known.readable_rows fun x hx => of_decide_eq_true <| List.all_eq_true.mp
    (List.all_takeWhile (p := fun x : PgConstraint => decide x.Decodes) (l := pg.constraints)) x hx

end ServerCatalog

/-! ### The last check of a fold -/

/-- After a row that was retained, the maps have been checked. -/
theorem fits_of_foldlM {add : SchemaMap → CatalogRow → Except SchemaError SchemaMap} {config : Config}
    (hadd : ∀ m row m', add m row = .ok m' → (schemaFromMaps m').Fits config) {rows : List CatalogRow}
    {m m' : SchemaMap} (h : rows.foldlM add m = .ok m')
    (hstart : rows ≠ [] ∨ (schemaFromMaps m).Fits config) : (schemaFromMaps m').Fits config := by
  induction rows generalizing m with
  | nil =>
    cases h
    exact hstart.resolve_left fun hne => hne rfl
  | cons row rows ih =>
    rw [List.foldlM_cons, bind_eq_ok_iff] at h
    obtain ⟨m₁, hrow, hrest⟩ := h
    exact ih hrest (.inr (hadd m row m₁ hrow))

theorem validatePartial_ok {m : SchemaMap} {config : Config} {u : Unit}
    (h : validatePartial m config = .ok u) : (schemaFromMaps m).Fits config := by
  classical
  rw [validatePartial, validateSchema_eq] at h
  by_contra hfits
  rw [if_neg hfits] at h
  cases h

theorem fits_addRelation {config : Config} (m : SchemaMap) (row : CatalogRow) (m' : SchemaMap)
    (h : addRelation config m row = .ok m') : (schemaFromMaps m').Fits config := by
  rw [addRelation_eq] at h
  simp only [bind_eq_ok_iff, pure_eq_ok_iff] at h
  obtain ⟨d, -, u, hvalid, rfl⟩ := h
  exact validatePartial_ok hvalid

theorem fits_addColumn {config : Config} (m : SchemaMap) (row : CatalogRow) (m' : SchemaMap)
    (h : addColumn config m row = .ok m') : (schemaFromMaps m').Fits config := by
  rw [addColumn_eq] at h
  obtain ⟨d, -, h⟩ := bind_eq_ok_iff.mp h
  split at h
  · cases h
  · simp only [bind_eq_ok_iff, pure_eq_ok_iff] at h
    obtain ⟨u, hvalid, rfl⟩ := h
    exact validatePartial_ok hvalid

theorem fits_addConstraint {config : Config} (m : SchemaMap) (row : CatalogRow) (m' : SchemaMap)
    (h : addConstraint config m row = .ok m') : (schemaFromMaps m').Fits config := by
  rw [addConstraint_eq] at h
  obtain ⟨d, -, h⟩ := bind_eq_ok_iff.mp h
  split at h
  · cases h
  · simp only [bind_eq_ok_iff, pure_eq_ok_iff] at h
    obtain ⟨u, hvalid, rfl⟩ := h
    exact validatePartial_ok hvalid

namespace ServerCatalog

variable (pg : ServerCatalog)

/-- A constraint whose code is not decoded is malformed, unless a limit is met before it. -/
theorem assemble_of_undecoded {bad : PgConstraint} {rest : List PgConstraint}
    (hsplit : pg.constraints = pg.known.constraints ++ bad :: rest) (hbad : ¬ bad.Decodes)
    (config : Config) :
    pg.known.rows.snapshot.Fits config ∧
        assemble config pg.rows.relations pg.rows.columns pg.rows.constraints = .error .malformed ∨
      ¬ pg.known.rows.snapshot.Fits config ∧
        assemble config pg.rows.relations pg.rows.columns pg.rows.constraints = .error .limit := by
  have hrows : pg.rows.constraints = pg.known.rows.constraints ++ bad.row :: rest.map PgConstraint.row := by
    show pg.constraints.map PgConstraint.row = pg.known.constraints.map PgConstraint.row ++ _
    rw [hsplit, List.map_append, List.map_cons]
  have hmalformed : ∀ m, addConstraint config m bad.row = .error .malformed := by
    intro m
    have hkind : bad.contype.kind = none := by simpa [PgConstraint.Decodes] using hbad
    rw [addConstraint_eq, decodeConstraint_row, hkind]
    rfl
  have hrelations : pg.known.rows.relations ≠ [] := by
    have hlisted := pg.constraintsListed bad (by rw [hsplit]; simp)
    obtain ⟨x, hx, -⟩ := List.mem_map.mp hlisted
    exact List.ne_nil_of_mem (List.mem_map_of_mem hx)
  have readable := pg.readable_known
  have hdescribed : Extends pg.known.rows.described pg.known.rows.retained :=
    extends_foldl extends_retainConstraint _ _
  have hrelated : Extends pg.known.rows.related pg.known.rows.retained :=
    (extends_foldl extends_retainColumn _ _).trans hdescribed
  have hpart : ∀ {m}, Extends m pg.known.rows.retained → ¬ (schemaFromMaps m).Fits config →
      ¬ pg.known.rows.snapshot.Fits config :=
    fun hextends hnot hfits => hnot (hfits.of_within hextends.within)
  unfold assemble
  have hsame : pg.rows.relations = pg.known.rows.relations ∧ pg.rows.columns = pg.known.rows.columns :=
    ⟨rfl, rfl⟩
  rw [hrows, hsame.1, hsame.2]
  simp only [List.foldlM_append, List.foldlM_cons, hmalformed, error_bind]
  rcases relations_retained readable config with h₁ | ⟨h₁, hnot⟩
  · have hfits₁ := fits_of_foldlM fits_addRelation h₁ (.inl hrelations)
    rcases columns_retained readable config with h₂ | ⟨h₂, hnot⟩
    · have hfits₂ := fits_of_foldlM fits_addColumn h₂ (.inr hfits₁)
      rcases constraints_retained readable config with h₃ | ⟨h₃, hnot⟩
      · have hfits₃ := fits_of_foldlM fits_addConstraint h₃ (.inr hfits₂)
        exact .inl ⟨hfits₃, by simp only [h₁, h₂, h₃, ok_bind, error_bind]⟩
      · exact .inr ⟨hnot, by simp only [h₁, h₂, h₃, ok_bind, error_bind]⟩
    · exact .inr ⟨hpart hdescribed hnot, by simp only [h₁, h₂, ok_bind, error_bind]⟩
  · exact .inr ⟨hpart hrelated hnot, by simp only [h₁, error_bind]⟩

/-- What the assembly makes of a server's catalog. -/
theorem assemble_rows (config : Config) :
    assemble config pg.rows.relations pg.rows.columns pg.rows.constraints =
        (if ∀ x ∈ pg.constraints, x.Decodes then .ok pg.rows.snapshot else .error .malformed) ∧
          pg.known.rows.snapshot.Fits config ∨
      assemble config pg.rows.relations pg.rows.columns pg.rows.constraints = .error .limit ∧
        ¬ pg.known.rows.snapshot.Fits config := by
  by_cases h : ∀ x ∈ pg.constraints, x.Decodes
  · have hconstraints : pg.known.constraints = pg.constraints :=
      List.takeWhile_eq_self_iff.mpr fun x hx => decide_eq_true (h x hx)
    have hknown : pg.known.rows = pg.rows := by
      show Catalog.mk _ _ (pg.known.constraints.map PgConstraint.row) = _
      rw [hconstraints]
      rfl
    rw [hknown, if_pos h]
    rcases assemble_cases (pg.readable_rows h) config with ⟨hfits, hassemble⟩ | ⟨hfits, hassemble⟩
    · exact .inl ⟨hassemble, hfits⟩
    · exact .inr ⟨hassemble, hfits⟩
  · rw [if_neg h]
    have hsplit := List.takeWhile_append_dropWhile (p := fun x : PgConstraint => decide x.Decodes)
      (l := pg.constraints)
    cases hdrop : pg.constraints.dropWhile fun x => decide x.Decodes with
    | nil =>
      exfalso
      rw [hdrop, List.append_nil] at hsplit
      exact h fun x hx => of_decide_eq_true (List.takeWhile_eq_self_iff.mp hsplit x hx)
    | cons bad rest =>
      rw [hdrop] at hsplit
      have hbad : ¬ bad.Decodes := by
        have := List.head_dropWhile_not (fun x : PgConstraint => decide x.Decodes) (l := pg.constraints)
          (by rw [hdrop]; simp)
        simpa [hdrop] using this
      rcases pg.assemble_of_undecoded hsplit.symm hbad config with ⟨hfits, hassemble⟩ | ⟨hfits, hassemble⟩
      · exact .inl ⟨hassemble, hfits⟩
      · exact .inr ⟨hassemble, hfits⟩

/-- Every constraint has a code the decoder knows, or a limit is met before the first one without. -/
def Assembles (config : Config) : Prop :=
  (∀ x ∈ pg.constraints, x.Decodes) ∨ pg.known.rows.snapshot.validate config ≠ .ok ()

theorem assemble_answers (config : Config) :
    ((∃ snapshot, assemble config pg.rows.relations pg.rows.columns pg.rows.constraints = .ok snapshot) ∨
        assemble config pg.rows.relations pg.rows.columns pg.rows.constraints = .error .limit) ∧
      pg.Assembles config ∨
    assemble config pg.rows.relations pg.rows.columns pg.rows.constraints = .error .malformed ∧
      ¬ pg.Assembles config := by
  unfold Assembles
  rw [Ne, validate_iff]
  rcases pg.assemble_rows config with ⟨h, hfits⟩ | ⟨h, hfits⟩
  · by_cases hdecodes : ∀ x ∈ pg.constraints, x.Decodes
    · rw [if_pos hdecodes] at h
      exact .inl ⟨.inl ⟨_, h⟩, .inl hdecodes⟩
    · rw [if_neg hdecodes] at h
      exact .inr ⟨h, not_or.mpr ⟨hdecodes, not_not_intro hfits⟩⟩
  · exact .inl ⟨.inr h, .inr hfits⟩

end ServerCatalog

section Answers

variable {rounds : ℕ} {config : Config} {ctl : PollControl} {deadline : ℕ} {w : Wire} {a : CatalogAnswers}
  {relations columns constraints : ResultSet} {pg : ServerCatalog} (calm : ctl.Calm deadline)
  (healthy : a.Healthy) (rests : w.Rests) (scripts : w.scripts = a.queries) (provided : w.Provided rounds)
  (answers : a.Answers relations columns constraints)
  (rows : pg.rows = ⟨relations.rows, columns.rows, constraints.rows⟩)

include calm healthy rests scripts provided answers rows

/-- On a healthy server a catalog is answered with a snapshot or its limit exactly when its
queries keep to the limits of a client query and every constraint has a code the decoder knows,
or a limit is met before the first one without; otherwise no row is malformed when the queries do not. -/
theorem retrieveInner_answers_iff :
    ∃ r w', (retrieveInner rounds config deadline ctl).Returns w r w' ∧
      (r ≠ .error .malformed ↔ ¬ InspectsWithin config relations columns constraints ∨ pg.Assembles config) ∧
      ((∃ snapshot, r = .ok snapshot) ∨ r = .error .limit ↔
        InspectsWithin config relations columns constraints ∧ pg.Assembles config) := by
  obtain ⟨r, w', hr, hinspected, -⟩ := @retrieveInner_total config ctl deadline rounds w a calm healthy rests
    scripts provided
  refine ⟨r, w', hr, ?_⟩
  rw [hinspected]
  by_cases h : InspectsWithin config relations columns constraints
  · have hassemble := pg.assemble_answers config
    rw [rows] at hassemble
    rw [inspected_of_within answers h]
    rcases hassemble with ⟨hgood, hcond⟩ | ⟨hbad, hcond⟩
    · refine ⟨iff_of_true ?_ (.inr hcond), iff_of_true hgood ⟨h, hcond⟩⟩
      rcases hgood with ⟨snapshot, hgood⟩ | hgood <;> rw [hgood] <;> nofun
    · rw [hbad]
      exact ⟨iff_of_false (not_not_intro rfl) (not_or.mpr ⟨not_not_intro h, hcond⟩),
        iff_of_false (by simp) fun hboth => hcond hboth.2⟩
  · obtain ⟨e, he⟩ := inspected_of_not_within answers h
    rw [he]
    exact ⟨iff_of_true nofun (.inl h), iff_of_false (by simp) fun hboth => h hboth.1⟩

end Answers

/-! ### A table with a constraint trigger -/

/-- One table with a constraint. -/
def ledger (contype : Contype) : ServerCatalog where
  classes := [⟨"public", "ledger", .ordinary, 16384⟩]
  attributes := []
  constraints := [⟨"public", "ledger", "balanced", contype, "CONSTRAINT TRIGGER"⟩]
  attributesListed := by simp
  constraintsListed := by simp

/-- The answers of a server with the catalog `ledger`. -/
def ledgerAnswers (contype : Contype) : CatalogAnswers where
  opening := catalogAnswer [.command "BEGIN"]
  relations := catalogAnswer (catalogResults relationsFields (ledger contype).rows.relations "SELECT 1" "1")
  columns := catalogAnswer (catalogResults columnsFields [] "SELECT 0" "0")
  constraints := catalogAnswer (catalogResults constraintsFields (ledger contype).rows.constraints "SELECT 1" "1")
  closing := { events := [.result (.command "COMMIT")], commits := true, after := .idle }

theorem healthy_ledgerAnswers (contype : Contype) : (ledgerAnswers contype).Healthy where
  opening := ⟨healthy_catalogAnswer _, rfl⟩
  relations := healthy_catalogAnswer _
  columns := healthy_catalogAnswer _
  constraints := healthy_catalogAnswer _
  closing := ⟨⟨rfl, by simp [ledgerAnswers], by simp [ledgerAnswers, Event.Responds]⟩, rfl⟩

theorem answers_ledgerAnswers (contype : Contype) : (ledgerAnswers contype).Answers
    (catalogSet relationsFields (ledger contype).rows.relations "SELECT 1" "1")
    (catalogSet columnsFields [] "SELECT 0" "0")
    (catalogSet constraintsFields (ledger contype).rows.constraints "SELECT 1" "1") where
  relations := complete_catalogAnswer (by decide) (by decide) (by cases contype <;> decide +kernel)
  columns := complete_catalogAnswer (by decide) (by decide) (by decide +kernel)
  constraints := complete_catalogAnswer (by decide) (by decide) (by cases contype <;> decide +kernel)

def ledgerWire (contype : Contype) : Wire := Wire.fresh (ledgerAnswers contype).queries []

theorem provided_ledgerWire (contype : Contype) : (ledgerWire contype).Provided 20 := by
  have hall : ∀ script ∈ (ledgerAnswers contype).queries, ∀ answer, script = .accept answer →
      (answer.statement "").rounds ≤ 20 := by
    simp only [CatalogAnswers.queries, List.forall_mem_cons, List.not_mem_nil,
      Script.accept.injEq, forall_eq', false_imp_iff, implies_true, and_true]
    cases contype <;> decide +kernel
  exact fun answer hanswer => hall _ hanswer answer rfl

theorem retrieveInner_answers_iff_ledger :
    ∃ r w', (retrieveInner 20 .default 1000 (.libpq undisturbed)).Returns (ledgerWire .check) r w' ∧
      (r ≠ .error .malformed ↔ ¬ InspectsWithin .default
          (catalogSet relationsFields (ledger .check).rows.relations "SELECT 1" "1")
          (catalogSet columnsFields [] "SELECT 0" "0")
          (catalogSet constraintsFields (ledger .check).rows.constraints "SELECT 1" "1") ∨
        (ledger .check).Assembles .default) ∧
      ((∃ snapshot, r = .ok snapshot) ∨ r = .error .limit ↔ InspectsWithin .default
          (catalogSet relationsFields (ledger .check).rows.relations "SELECT 1" "1")
          (catalogSet columnsFields [] "SELECT 0" "0")
          (catalogSet constraintsFields (ledger .check).rows.constraints "SELECT 1" "1") ∧
        (ledger .check).Assembles .default) :=
  retrieveInner_answers_iff calm_undisturbed (healthy_ledgerAnswers .check) ⟨_, rfl, rfl, rfl⟩ rfl
    (provided_ledgerWire .check) (answers_ledgerAnswers .check) rfl

/-- The catalog of one constraint trigger is read, but not decoded. -/
theorem trigger_malformed :
    ¬ ∀ (rounds : ℕ) (config : Config) (deadline : ℕ) (ctl : PollControl) (w w' : Wire) (a : CatalogAnswers)
      (relations columns constraints : ResultSet) (pg : ServerCatalog) (r : Except SchemaError SchemaResult),
      config.validate = .ok () → ctl.Calm deadline → a.Healthy → w.Rests → w.scripts = a.queries →
      a.Answers relations columns constraints →
      pg.rows = ⟨relations.rows, columns.rows, constraints.rows⟩ →
      (retrieveInner rounds config deadline ctl).Returns w r w' → r ≠ .error .malformed := by
  intro h
  have within : InspectsWithin .default
      (catalogSet relationsFields (ledger .trigger).rows.relations "SELECT 1" "1")
      (catalogSet columnsFields [] "SELECT 0" "0")
      (catalogSet constraintsFields (ledger .trigger).rows.constraints "SELECT 1" "1") :=
    ⟨⟨sendable_relationsSql, by decide +kernel, .inr (by decide +kernel)⟩,
      ⟨sendable_columnsSql, by decide +kernel, .inr (by decide +kernel)⟩,
      ⟨sendable_constraintsSql, by decide +kernel, .inr (by decide +kernel)⟩⟩
  obtain ⟨r, w', hr, hinspected, -⟩ := @retrieveInner_total .default (.libpq undisturbed) 1000 20
    (ledgerWire .trigger) (ledgerAnswers .trigger) calm_undisturbed (healthy_ledgerAnswers .trigger)
    ⟨_, rfl, rfl, rfl⟩ rfl (provided_ledgerWire .trigger)
  rw [inspected_of_within (answers_ledgerAnswers .trigger) within] at hinspected
  refine h 20 .default 1000 (.libpq undisturbed) (ledgerWire .trigger) w' (ledgerAnswers .trigger) _ _ _
    (ledger .trigger) r (by decide +kernel) calm_undisturbed (healthy_ledgerAnswers .trigger)
    ⟨_, rfl, rfl, rfl⟩ rfl (answers_ledgerAnswers .trigger) rfl hr ?_
  rw [hinspected]
  decide +kernel

end PgMcp
