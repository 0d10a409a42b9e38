import PgMcp.Libpq.Exchange

/-!
# Catalog introspection

`get_schema` runs three fixed catalog queries inside one repeatable-read, read-only
transaction that it begins and ends itself, and assembles their rows into a bounded
snapshot.  The transaction is closed by a COMMIT, or by a ROLLBACK after an error.

## Main definitions

* `assemble` — the snapshot made of the rows of the three queries.
* `retrieve` — the transaction around them.
-/

namespace PgMcp

/-- Why a snapshot could not be retrieved. -/
inductive SchemaError where
  | backend (e : AdapterError)
  | limit
  | malformed
  deriving DecidableEq, Repr

/-! ### The catalog queries -/

@[irreducible] def relationsSql : String := "
SELECT n.nspname, c.relname, c.relkind::text, c.oid::text
FROM pg_namespace AS n
JOIN pg_class AS c ON c.relnamespace = n.oid
WHERE has_schema_privilege(n.oid, 'USAGE')
  AND n.nspname <> 'information_schema'
  AND n.nspname !~ '^pg_'
  AND c.relkind IN ('r','p','v','m','f')
  AND (
    has_table_privilege(c.oid, 'SELECT')
    OR has_table_privilege(c.oid, 'INSERT')
    OR has_table_privilege(c.oid, 'UPDATE')
    OR has_table_privilege(c.oid, 'DELETE')
    OR EXISTS (
      SELECT 1 FROM pg_attribute AS pa
      WHERE pa.attrelid = c.oid AND pa.attnum > 0 AND NOT pa.attisdropped
        AND (has_column_privilege(c.oid, pa.attnum, 'SELECT')
          OR has_column_privilege(c.oid, pa.attnum, 'INSERT')
          OR has_column_privilege(c.oid, pa.attnum, 'UPDATE'))
    )
  )
ORDER BY n.nspname, c.relname, c.oid
"

@[irreducible] def columnsSql : String := "
SELECT n.nspname,
       c.relname,
       a.attname,
       a.attnum::text,
       a.atttypid::text,
       format_type(a.atttypid, a.atttypmod),
       CASE WHEN a.attnotnull THEN 'f' ELSE 't' END,
       pg_get_expr(ad.adbin, ad.adrelid),
       a.attidentity::text,
       CASE WHEN a.attgenerated <> '' THEN 't' ELSE 'f' END
FROM pg_namespace AS n
JOIN pg_class AS c ON c.relnamespace = n.oid
JOIN pg_attribute AS a ON a.attrelid = c.oid
LEFT JOIN pg_attrdef AS ad ON ad.adrelid = a.attrelid AND ad.adnum = a.attnum
WHERE has_schema_privilege(n.oid, 'USAGE')
  AND n.nspname <> 'information_schema'
  AND n.nspname !~ '^pg_'
  AND c.relkind IN ('r','p','v','m','f')
  AND a.attnum > 0 AND NOT a.attisdropped
  AND (
    has_table_privilege(c.oid, 'SELECT')
    OR has_table_privilege(c.oid, 'INSERT')
    OR has_table_privilege(c.oid, 'UPDATE')
    OR has_column_privilege(c.oid, a.attnum, 'SELECT')
    OR has_column_privilege(c.oid, a.attnum, 'INSERT')
    OR has_column_privilege(c.oid, a.attnum, 'UPDATE')
  )
ORDER BY n.nspname, c.relname, a.attnum
"

@[irreducible] def constraintsSql : String := "
SELECT n.nspname,
       c.relname,
       con.conname,
       con.contype::text,
       pg_get_constraintdef(con.oid, true)
FROM pg_namespace AS n
JOIN pg_class AS c ON c.relnamespace = n.oid
JOIN pg_constraint AS con ON con.conrelid = c.oid
WHERE has_schema_privilege(n.oid, 'USAGE')
  AND n.nspname <> 'information_schema'
  AND n.nspname !~ '^pg_'
  AND c.relkind IN ('r','p','v','m','f')
  AND (
    has_table_privilege(c.oid, 'SELECT')
    OR has_table_privilege(c.oid, 'INSERT')
    OR has_table_privilege(c.oid, 'UPDATE')
    OR has_table_privilege(c.oid, 'DELETE')
  )
ORDER BY n.nspname, c.relname, con.conname
"

/-! ### Decoding rows -/

abbrev CatalogRow := List (Option String)

def required (row : CatalogRow) (index : ℕ) : Except SchemaError String :=
  match (row[index]?).join with
  | some value => .ok value
  | none => .error .malformed

def optional (row : CatalogRow) (index : ℕ) : Option String := (row[index]?).join

/-- `str::parse::<u32>`: decimal digits after an optional plus sign. -/
def parseU32 (s : String) : Except SchemaError ℕ :=
  let digits := match s.toList with
    | '+' :: cs => cs
    | cs => cs
  let value := digits.foldl (fun n c => 10 * n + (c.toNat - 48)) 0
  if digits.isEmpty || !digits.all Char.isDigit || 2 ^ 32 ≤ value then .error .malformed
  else .ok value

def parseBool : String → Except SchemaError Bool
  | "t" => .ok true
  | "f" => .ok false
  | _ => .error .malformed

def relationKind : String → Except SchemaError RelationKind
  | "r" => .ok .table
  | "p" => .ok .partitionedTable
  | "v" => .ok .view
  | "m" => .ok .materializedView
  | "f" => .ok .foreignTable
  | _ => .error .malformed

def constraintKind : String → Except SchemaError ConstraintKind
  | "p" => .ok .primaryKey
  | "u" => .ok .unique
  | "f" => .ok .foreignKey
  | "c" => .ok .check
  | "x" => .ok .exclusion
  | _ => .error .malformed

def identityKind : Option String → Except SchemaError IdentityKind
  | none | some "" => .ok .none
  | some "a" => .ok .always
  | some "d" => .ok .byDefault
  | some _ => .error .malformed

/-- A row has as many cells as its query selects. -/
def checkWidth (row : CatalogRow) (width : ℕ) : Except SchemaError Unit :=
  if row.length = width then .ok () else .error .malformed

/-! ### Assembling the snapshot -/

/-- The order of a `BTreeMap<String, _>`: by UTF-8 bytes. -/
def byteCompare (a b : String) : Ordering := compareOn Json.utf8 a b

instance : Std.TransCmp byteCompare := inferInstanceAs (Std.TransCmp (compareOn Json.utf8))

/-- The relations of a schema, and the schemas of a database. -/
abbrev RelationMap := Std.TreeMap String Relation byteCompare
abbrev SchemaMap := Std.TreeMap String RelationMap byteCompare

/-- The public form of a relation: columns by ordinal, constraints by name. -/
def Relation.sorted (r : Relation) : Relation :=
  { r with
    columns := r.columns.insertionSort fun a b => a.ordinal ≤ b.ordinal
    constraints := r.constraints.insertionSort fun a b => Json.utf8 a.name ≤ Json.utf8 b.name }

/-- The snapshot of what is retained so far. -/
def schemaFromMaps (schemas : SchemaMap) : SchemaResult where
  schemas := schemas.toList.filterMap fun (name, relations) =>
    if relations.isEmpty then none
    else some { name, relations := relations.values.map Relation.sorted }

/-- Limit violations are told apart from everything else. -/
def schemaErrorOf : ValidationError → SchemaError
  | .schemaLimit | .resultLimit => .limit
  | _ => .malformed

def validateSchema (schema : SchemaResult) (config : Config) : Except SchemaError Unit :=
  (schema.validate config).mapError schemaErrorOf

def validatePartial (schemas : SchemaMap) (config : Config) : Except SchemaError Unit :=
  validateSchema (schemaFromMaps schemas) config

/-- Retain a relation, unless one of its name is already retained in its schema. -/
def addRelation (config : Config) (schemas : SchemaMap) (row : CatalogRow) :
    Except SchemaError SchemaMap := do
  checkWidth row 4
  let schema ← required row 0
  let relation ← required row 1
  let kind ← relationKind (← required row 2)
  -- the OID is only checked for its decimal form
  let _ ← parseU32 (← required row 3)
  let new : Relation := { name := relation, kind, columns := [], constraints := [] }
  let schemas := schemas.alter schema fun relations =>
    some ((relations.getD ∅).alter relation fun r => some (r.getD new))
  validatePartial schemas config
  return schemas

/-- The retained relation a row belongs to. -/
def relationOf (schemas : SchemaMap) (schema relation : String) : Option Relation :=
  schemas[schema]?.bind (·[relation]?)

/-- Change a retained relation. -/
def modifyRelation (schemas : SchemaMap) (schema relation : String) (f : Relation → Relation) :
    SchemaMap :=
  schemas.modify schema fun relations => relations.modify relation f

def addColumn (config : Config) (schemas : SchemaMap) (row : CatalogRow) :
    Except SchemaError SchemaMap := do
  checkWidth row 10
  let schema ← required row 0
  let relation ← required row 1
  if (relationOf schemas schema relation).isNone then throw .malformed
  let ordinal ← parseU32 (← required row 3)
  let typeOid ← parseU32 (← required row 4)
  let nullable ← parseBool (← required row 6)
  let identity ← identityKind (optional row 8)
  let name ← required row 2
  let typeName ← required row 5
  let generated ← parseBool (← required row 9)
  let column : SchemaColumn :=
    { name, ordinal, typeOid, typeName, nullable, defaultExpression := optional row 7, identity,
      generated }
  let schemas := modifyRelation schemas schema relation fun r =>
    { r with columns := r.columns ++ [column] }
  validatePartial schemas config
  return schemas

def addConstraint (config : Config) (schemas : SchemaMap) (row : CatalogRow) :
    Except SchemaError SchemaMap := do
  checkWidth row 5
  let schema ← required row 0
  let relation ← required row 1
  if (relationOf schemas schema relation).isNone then throw .malformed
  let name ← required row 2
  let kind ← constraintKind (← required row 3)
  let definition ← required row 4
  let schemas := modifyRelation schemas schema relation fun r =>
    { r with constraints := r.constraints ++ [{ name, kind, definition }] }
  validatePartial schemas config
  return schemas

/-- The snapshot made of the rows of the three queries. -/
def assemble (config : Config) (relations columns constraints : List CatalogRow) :
    Except SchemaError SchemaResult := do
  let schemas ← relations.foldlM (addRelation config) ∅
  let schemas ← columns.foldlM (addColumn config) schemas
  let schemas ← constraints.foldlM (addConstraint config) schemas
  let output := schemaFromMaps schemas
  validateSchema output config
  return output

/-! ### The transaction -/

abbrev Retrieval := Program Wire SchemaError

section Retrieve

variable (rounds : ℕ) (config : Config) (deadline : ℕ) (ctl : PollControl)

def schemaQuery (sql : String) (limits : QueryLimits) : Retrieval ResultSet :=
  (Connection.query rounds sql [] limits deadline ctl).mapError fun e _ => .backend e

/-- The first word of a statement, which its command tag has to be. -/
def commandWord (sql : String) : String :=
  String.ofList ((sql.toList.dropWhile isWhiteSpace).takeWhile (!isWhiteSpace ·))

def executeChecked (sql : String) : Retrieval Unit := do
  let result ← (Connection.execute rounds sql deadline ctl).mapError fun e _ => SchemaError.backend e
  .require (result.commandTag = commandWord sql) .malformed

/-- The limits of the catalog queries. -/
def catalogLimits : QueryLimits where
  sqlBytes := config.sqlBytes
  parameters := config.parameters
  parameterBytes := config.parameterBytes
  resultRows := config.resultRows
  columns := max config.columns 10
  cellBytes := config.cellBytes
  resultJsonBytes := usizeMax

def retrieveInner : Retrieval SchemaResult := do
  let relations ← schemaQuery rounds deadline ctl relationsSql (catalogLimits config)
  let columns ← schemaQuery rounds deadline ctl columnsSql (catalogLimits config)
  let constraints ← schemaQuery rounds deadline ctl constraintsSql (catalogLimits config)
  .ofExcept (assemble config relations.rows columns.rows constraints.rows)

/-- The statement that begins the internal transaction. -/
def beginSchemaSql : String := "BEGIN ISOLATION LEVEL REPEATABLE READ READ ONLY"

/-- The cleanup after an error; its own outcome is dropped. -/
def rollbackSchema {α : Type} (e : SchemaError) : Retrieval α := do
  let _ ← (Connection.execute rounds "ROLLBACK" deadline ctl).attempt
  .fail e

def retrieve : Retrieval SchemaResult := do
  executeChecked rounds deadline ctl beginSchemaSql
  match ← (retrieveInner rounds config deadline ctl).attempt with
  | .ok snapshot =>
    match ← (executeChecked rounds deadline ctl "COMMIT").attempt with
    | .ok () => return snapshot
    | .error e => rollbackSchema rounds deadline ctl e
  | .error e => rollbackSchema rounds deadline ctl e

end Retrieve

end PgMcp
