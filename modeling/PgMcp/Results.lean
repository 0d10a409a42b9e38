import PgMcp.Config
import PgMcp.Json

/-!
# Requests, query results and schema snapshots

The value types a query is requested with and answered with, the schema snapshot,
and their validation against the limits of a handle.

## Main definitions

* `QueryRequest.validate` — the textual checks made before a query is sent.
* `QueryResult.validate` — shape, cell and canonical-size limits of a result.
* `SchemaResult.validate` — unit, cell and canonical-size limits of a snapshot.
-/

namespace PgMcp

/-- Why a value was rejected. -/
inductive ValidationError where
  | invalidEnvelope | inconsistentState | invalidMove | staticErrorMessage | invalidSqlState
  | embeddedNul | invalidQuery | parameterCountLimit | parameterByteLimit | resultLimit
  | schemaLimit | invalidAffectedRows | invalidResultShape | json
  deriving DecidableEq, Repr

/-! ### Query requests -/

/-- A text parameter; `none` is SQL NULL, and a missing OID asks for inference. -/
structure Parameter where
  typeOid : Option ℕ
  value : Option String
  deriving DecidableEq, Repr

/-- A string without its NUL bytes would be shorter. -/
def hasNul (s : String) : Bool := s.toList.contains '\x00'

/-- A parameter value has no embedded NUL. -/
def Parameter.validate (p : Parameter) : Except ValidationError Unit :=
  if p.value.any hasNul then .error .embeddedNul else .ok ()

/-- The bytes a parameter counts for. -/
def Parameter.valueBytes (p : Parameter) : ℕ := (p.value.map String.utf8ByteSize).getD 0

/-- The arguments of the query tool. -/
structure QueryRequest where
  sql : String
  parameters : List Parameter
  deriving DecidableEq, Repr

/-- The Unicode `White_Space` characters, which `str::trim` removes. -/
def isWhiteSpace (c : Char) : Bool :=
  let n := c.toNat
  (9 ≤ n && n ≤ 13) || n == 0x20 || n == 0x85 || n == 0xA0 || n == 0x1680 ||
    (0x2000 ≤ n && n ≤ 0x200A) || n == 0x2028 || n == 0x2029 || n == 0x202F || n == 0x205F ||
    n == 0x3000

/-- The running byte total of the parameters stays within the limit. -/
def checkParameters (limit : ℕ) : ℕ → List Parameter → Except ValidationError Unit
  | _, [] => .ok ()
  | total, p :: ps => do
    p.validate
    let total := total + p.valueBytes
    if usizeMax < total then throw .parameterByteLimit
    if limit < total then throw .parameterByteLimit
    checkParameters limit total ps

/-- The textual checks of a query. -/
def QueryRequest.validate (request : QueryRequest) (config : Config) :
    Except ValidationError Unit := do
  if request.sql.toList.all isWhiteSpace || hasNul request.sql ||
      config.sqlBytes < request.sql.utf8ByteSize then
    throw .invalidQuery
  if config.parameters < request.parameters.length then throw .parameterCountLimit
  checkParameters config.parameterBytes 0 request.parameters

/-! ### Query results -/

/-- A column of a result; its format is always text. -/
structure ResultColumn where
  name : String
  typeOid : ℕ
  deriving DecidableEq, Repr

/-- A query result in its public shape. -/
structure QueryResult where
  columns : List ResultColumn
  rows : List (List (Option String))
  commandTag : String
  affectedRows : Option String
  deriving DecidableEq, Repr

def ResultColumn.toJson (c : ResultColumn) : Json :=
  .obj [("name", .str c.name), ("type_oid", .nat c.typeOid), ("format", .str "text")]

def QueryResult.toJson (r : QueryResult) : Json :=
  .obj [("columns", .arr (r.columns.map ResultColumn.toJson)),
    ("rows", .arr (r.rows.map fun row => .arr (row.map Json.optStr))),
    ("command_tag", .str r.commandTag), ("affected_rows", Json.optStr r.affectedRows)]

/-- Decimal digits only, and at least one. -/
def isDecimalText (s : String) : Bool := !s.isEmpty && s.toList.all Char.isDigit

/-- A string is no longer than the cell limit. -/
def checkCell (limit : ℕ) (s : String) : Except ValidationError Unit :=
  if limit < s.utf8ByteSize then .error .resultLimit else .ok ()

/-- A row has the width of the result and cells within the limit. -/
def checkRow (limit width : ℕ) (row : List (Option String)) : Except ValidationError Unit := do
  if row.length ≠ width then throw .invalidResultShape
  for value in row do
    if let some s := value then checkCell limit s

/-- The limits of a result, its shape, and its canonical size. -/
def QueryResult.validate (r : QueryResult) (config : Config) : Except ValidationError Unit := do
  if config.columns < r.columns.length || config.resultRows < r.rows.length then
    throw .resultLimit
  if !r.affectedRows.all isDecimalText then throw .invalidAffectedRows
  for column in r.columns do checkCell config.cellBytes column.name
  checkCell config.cellBytes r.commandTag
  if let some affected := r.affectedRows then checkCell config.cellBytes affected
  for row in r.rows do checkRow config.cellBytes r.columns.length row
  if config.resultJsonBytes < r.toJson.canonicalJsonBytes then throw .resultLimit

/-! ### Schema snapshots -/

inductive RelationKind where
  | table | partitionedTable | view | materializedView | foreignTable
  deriving DecidableEq, Repr

inductive IdentityKind where
  | none | always | byDefault
  deriving DecidableEq, Repr

inductive ConstraintKind where
  | primaryKey | unique | foreignKey | check | exclusion
  deriving DecidableEq, Repr

structure SchemaColumn where
  name : String
  ordinal : ℕ
  typeOid : ℕ
  typeName : String
  nullable : Bool
  defaultExpression : Option String
  identity : IdentityKind
  generated : Bool
  deriving DecidableEq, Repr

structure Constraint where
  name : String
  kind : ConstraintKind
  definition : String
  deriving DecidableEq, Repr

structure Relation where
  name : String
  kind : RelationKind
  columns : List SchemaColumn
  constraints : List Constraint
  deriving DecidableEq, Repr

structure SchemaInfo where
  name : String
  relations : List Relation
  deriving DecidableEq, Repr

/-- A role-visible schema snapshot. -/
structure SchemaResult where
  schemas : List SchemaInfo
  deriving DecidableEq, Repr

def RelationKind.spelling : RelationKind → String
  | .table => "table"
  | .partitionedTable => "partitioned_table"
  | .view => "view"
  | .materializedView => "materialized_view"
  | .foreignTable => "foreign_table"

def IdentityKind.spelling : IdentityKind → String
  | .none => "none"
  | .always => "always"
  | .byDefault => "by_default"

def ConstraintKind.spelling : ConstraintKind → String
  | .primaryKey => "primary_key"
  | .unique => "unique"
  | .foreignKey => "foreign_key"
  | .check => "check"
  | .exclusion => "exclusion"

def SchemaColumn.toJson (c : SchemaColumn) : Json :=
  .obj [("name", .str c.name), ("ordinal", .nat c.ordinal), ("type_oid", .nat c.typeOid),
    ("type_name", .str c.typeName), ("nullable", .bool c.nullable),
    ("default_expression", Json.optStr c.defaultExpression),
    ("identity", .str c.identity.spelling), ("generated", .bool c.generated)]

def Constraint.toJson (c : Constraint) : Json :=
  .obj [("name", .str c.name), ("kind", .str c.kind.spelling), ("definition", .str c.definition)]

def Relation.toJson (r : Relation) : Json :=
  .obj [("name", .str r.name), ("kind", .str r.kind.spelling),
    ("columns", .arr (r.columns.map SchemaColumn.toJson)),
    ("constraints", .arr (r.constraints.map Constraint.toJson))]

def SchemaResult.toJson (s : SchemaResult) : Json :=
  .obj [("schemas", .arr (s.schemas.map fun info =>
    .obj [("name", .str info.name), ("relations", .arr (info.relations.map Relation.toJson))]))]

/-- One more unit, unless the count overflows. -/
def checkedUnit (units : ℕ) : Except ValidationError ℕ :=
  if usizeMax < units + 1 then .error .schemaLimit else .ok (units + 1)

/-- A string of a snapshot is no longer than the cell limit. -/
def checkSchemaCell (limit : ℕ) (s : String) : Except ValidationError Unit :=
  if limit < s.utf8ByteSize then .error .schemaLimit else .ok ()

/-- The units of the columns of a relation. -/
def columnUnits (limit : ℕ) (units : ℕ) (columns : List SchemaColumn) :
    Except ValidationError ℕ :=
  columns.foldlM (fun units column => do
    let units ← checkedUnit units
    checkSchemaCell limit column.name
    checkSchemaCell limit column.typeName
    if let some default := column.defaultExpression then checkSchemaCell limit default
    pure units) units

/-- The units of the constraints of a relation. -/
def constraintUnits (limit : ℕ) (units : ℕ) (constraints : List Constraint) :
    Except ValidationError ℕ :=
  constraints.foldlM (fun units constraint => do
    let units ← checkedUnit units
    checkSchemaCell limit constraint.name
    checkSchemaCell limit constraint.definition
    pure units) units

/-- The units of the relations of a schema; the row limit is checked after each. -/
def relationUnits (config : Config) (units : ℕ) (relations : List Relation) :
    Except ValidationError ℕ :=
  relations.foldlM (fun units relation => do
    let units ← checkedUnit units
    checkSchemaCell config.cellBytes relation.name
    let units ← columnUnits config.cellBytes units relation.columns
    let units ← constraintUnits config.cellBytes units relation.constraints
    if config.resultRows < units then throw .schemaLimit
    pure units) units

/-- The limits of a snapshot and its canonical size. -/
def SchemaResult.validate (s : SchemaResult) (config : Config) : Except ValidationError Unit := do
  let _ ← s.schemas.foldlM (fun units info => do
    let units ← checkedUnit units
    checkSchemaCell config.cellBytes info.name
    if config.resultRows < units then throw .schemaLimit
    relationUnits config units info.relations) 0
  if config.resultJsonBytes < s.toJson.canonicalJsonBytes then throw .schemaLimit

end PgMcp
