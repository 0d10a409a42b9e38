import PgMcp.Protocol.Strict
import PgMcp.Worker.Moves

/-!
# The arguments of the tools

A tool is called by its name, with an object of arguments for its derived reader.  The statement
of a query can be read in two ways: as the arguments of the tool, whose parameters are then made
into those of the core, and as the request of the core itself.

## Main definitions

* `HandleArgs.fromMembers`, `QueryArgs.fromMembers` — the readers of the arguments.
* `Tools.call` — what a call of a tool asks for.
* `QueryRequest.fromValue` — the reader of the core.

## Main results

* `Tools.call_handle_iff` — what the tools for a handle take.
* `Tools.call_query_of_wire` — a statement is read back from what it is written as.
* `Tools.call_query_iff` — when the two readers of a statement agree.
-/

namespace PgMcp

/-! ### Fields -/

/-- A field that has to be there. -/
def requiredField {α : Type} (read : Json → Option α) (members : List (String × Json))
    (key : String) : Option α :=
  (members.lookup key).bind read

/-- An unknown key is rejected. -/
def denyUnknown {α : Type} (fields : List String) (members : List (String × Json))
    (x : Option α) : Option α :=
  if members.all fun m => fields.contains m.1 then x else none

theorem requiredField_eq_some_iff {α : Type} {read : Json → Option α}
    {members : List (String × Json)} {key : String}
    {a : α} : requiredField read members key = some a ↔ Has members key fun v => read v = some a := by
  unfold requiredField Has
  rw [Option.bind_eq_some_iff]

theorem denyUnknown_eq_some_iff {α : Type} {fields : List String} {members : List (String × Json)}
    {x : Option α}
    {a : α} : denyUnknown fields members x = some a ↔ (∀ m ∈ members, m.1 ∈ fields) ∧ x = some a := by
  unfold denyUnknown
  by_cases hkeys : (members.all fun m => fields.contains m.1) = true
  · rw [if_pos hkeys]
    have hknown : ∀ m ∈ members, m.1 ∈ fields := by simpa using hkeys
    exact ⟨fun h => ⟨hknown, h⟩, fun h => h.2⟩
  · rw [if_neg hkeys]
    constructor
    · intro h
      cases h
    · intro h
      exact absurd (by simpa using h.1) hkeys

/-- A number of at most 32 bits, written without a fraction, an exponent or a sign. -/
def asU32 : Json → Option ℕ
  | .num text =>
    let n := Nat.ofDigitChars 10 text.toList 0
    if n < 2 ^ 32 ∧ toString n = text then some n else none
  | _ => none

theorem asU32_eq_some_iff {v : Json} {n : ℕ} : asU32 v = some n ↔ v = .nat n ∧ n < 2 ^ 32 := by
  constructor
  · intro h
    cases v with
    | num text =>
      simp only [asU32] at h
      split_ifs at h with hnum
      rw [Option.some.injEq] at h
      rw [h] at hnum
      exact ⟨congrArg Json.num hnum.2.symm, hnum.1⟩
    | null | bool | str | arr | obj => cases h
  · intro h
    obtain ⟨rfl, hlt⟩ := h
    have hdigits : Nat.ofDigitChars 10 (toString n).toList 0 = n := by
      rw [show (toString n).toList = Nat.toDigits 10 n from Nat.toList_repr]
      exact Nat.ofDigitChars_ten_toDigits
    simp only [asU32, Json.nat, hdigits, hlt, and_self, if_true]

/-! ### Arguments -/

structure OpenDatabaseArgs where
  profile : String
  deriving DecidableEq, Repr

def OpenDatabaseArgs.fromMembers (members : List (String × Json)) : Option OpenDatabaseArgs :=
  denyUnknown ["profile"] members do
    let profile ← requiredField asString members "profile"
    return { profile }

structure HandleArgs where
  handle : String
  deriving DecidableEq, Repr

def HandleArgs.fromMembers (members : List (String × Json)) : Option HandleArgs :=
  denyUnknown ["handle"] members do
    let handle ← requiredField asString members "handle"
    return { handle }

structure NoArgs where
  deriving DecidableEq, Repr

def NoArgs.fromMembers (members : List (String × Json)) : Option NoArgs := denyUnknown [] members (some {})

/-- A parameter as the tool takes it, not checked yet. -/
structure ParameterArg where
  typeOid : Option ℕ
  value : Option String
  deriving DecidableEq, Repr

namespace ParameterArg

def fields : List String := ["type_oid", "value"]

def fromFields (typeOid value : Json) : Option ParameterArg := do
  let typeOid ← asOption asU32 typeOid
  let value ← asOption asString value
  return { typeOid, value }

/-- Both keys have to be there, also for a value that is `null`. -/
def fromValue : Json → Option ParameterArg
  | .arr [typeOid, value] => fromFields typeOid value
  | .obj members => denyUnknown fields members do
    let typeOid ← members.lookup "type_oid"
    let value ← members.lookup "value"
    fromFields typeOid value
  | _ => none

def toJson (p : ParameterArg) : Json :=
  .obj [("type_oid", (p.typeOid.map Json.nat).getD .null), ("value", .optStr p.value)]

end ParameterArg

def Parameter.new (typeOid : Option ℕ) (value : Option String) : Except ValidationError Parameter := do
  let parameter : Parameter := { typeOid, value }
  parameter.validate
  return parameter

structure QueryArgs where
  handle : String
  sql : String
  parameters : List ParameterArg
  deriving DecidableEq, Repr

namespace QueryArgs

def fields : List String := ["handle", "sql", "parameters"]

/-- The parameters may be left out. -/
def fromMembers (members : List (String × Json)) : Option QueryArgs := denyUnknown fields members do
  let handle ← requiredField asString members "handle"
  let sql ← requiredField asString members "sql"
  let parameters ← asVec ParameterArg.fromValue ((members.lookup "parameters").getD (.arr []))
  return { handle, sql, parameters }

/-- The request of the core, if none of the parameters has a NUL. -/
def intoCore (args : QueryArgs) : Except ValidationError (String × QueryRequest) := do
  let parameters ← args.parameters.mapM fun p => Parameter.new p.typeOid p.value
  return (args.handle, { sql := args.sql, parameters })

end QueryArgs

/-! ### Calls -/

/-- What a call of a tool asks for. -/
inductive ToolCall where
  | openDatabase (profile : String)
  | listHandles
  | request (handle : String) (operation : Operation)
  /-- The call is answered with `INVALID_INPUT`. -/
  | invalidInput
  deriving DecidableEq, Repr

namespace Tools

/-- `TOOL_NAMES` -/
def names : List String :=
  ["open_database", "list_handles", "get_schema", "open_read", "open_write", "query", "commit", "rollback",
    "close_database"]

def handleCall (operation : Operation) (members : List (String × Json)) : Option ToolCall :=
  (HandleArgs.fromMembers members).map fun args => .request args.handle operation

def query (members : List (String × Json)) : Option ToolCall :=
  (QueryArgs.fromMembers members).map fun args =>
    match args.intoCore with
    | .ok (handle, request) => .request handle (.query request)
    | .error _ => .invalidInput

/-- A call of a tool; there is none when there is no such tool or its arguments are not read, and the
client is told by the router. -/
def call (name : String) (members : List (String × Json)) : Option ToolCall :=
  match name with
  | "open_database" => (OpenDatabaseArgs.fromMembers members).map fun args => .openDatabase args.profile
  | "list_handles" => (NoArgs.fromMembers members).map fun _ => .listHandles
  | "get_schema" => handleCall .getSchema members
  | "open_read" => handleCall .openRead members
  | "open_write" => handleCall .openWrite members
  | "query" => query members
  | "commit" => handleCall .commit members
  | "rollback" => handleCall .rollback members
  | "close_database" => handleCall .close members
  | _ => none

end Tools

/-! ### The reader of the core -/

/-- A parameter is an object with both keys, whose value has no NUL. -/
def Parameter.decode (v : Json) : Option Parameter := do
  let members ← (asObject "parameter" v).toOption
  let _ ← (exactObjectKeys members ParameterArg.fields).toOption
  let typeOid ← (decodeValue (asOption asU32) members "type_oid").toOption
  let value ← (decodeValue (asOption asString) members "value").toOption
  (Parameter.new typeOid value).toOption

namespace QueryRequest

def fields : List String := ["sql", "parameters"]

def fromFields (sql parameters : Json) : Option QueryRequest := do
  let sql ← asString sql
  let parameters ← asVec Parameter.decode parameters
  return { sql, parameters }

def fromValue : Json → Option QueryRequest
  | .arr [sql] => fromFields sql (.arr [])
  | .arr [sql, parameters] => fromFields sql parameters
  | .obj members => denyUnknown fields members do
    let sql ← members.lookup "sql"
    fromFields sql ((members.lookup "parameters").getD (.arr []))
  | _ => none

end QueryRequest

/-! ### What the readers take -/

/-- The object is read as the parameter. -/
structure ParameterArg.Reads (members : List (String × Json)) (p : ParameterArg) : Prop where
  keys : ∀ m ∈ members, m.1 ∈ ParameterArg.fields
  typeOid : Has members "type_oid" fun v => asOption asU32 v = some p.typeOid
  value : Has members "value" fun v => asOption asString v = some p.value

theorem ParameterArg.fromFields_eq_some_iff {typeOid value : Json} {p : ParameterArg} :
    fromFields typeOid value = some p ↔
      asOption asU32 typeOid = some p.typeOid ∧ asOption asString value = some p.value := by
  simp only [fromFields, Option.bind_eq_bind, Option.bind_eq_some_iff, Option.pure_def, Option.some.injEq]
  constructor
  · intro h
    obtain ⟨_, h₁, _, h₂, rfl⟩ := h
    exact ⟨h₁, h₂⟩
  · intro h
    exact ⟨_, h.1, _, h.2, rfl⟩

theorem ParameterArg.fromValue_obj {members : List (String × Json)} {p : ParameterArg} :
    fromValue (.obj members) = some p ↔ Reads members p := by
  simp only [fromValue, denyUnknown_eq_some_iff, Option.bind_eq_bind, Option.bind_eq_some_iff,
    fromFields_eq_some_iff]
  constructor
  · intro h
    obtain ⟨hkeys, _, g₁, _, g₂, h₁, h₂⟩ := h
    exact ⟨hkeys, ⟨_, g₁, h₁⟩, ⟨_, g₂, h₂⟩⟩
  · intro h
    obtain ⟨hkeys, ⟨_, g₁, h₁⟩, ⟨_, g₂, h₂⟩⟩ := h
    exact ⟨hkeys, _, g₁, _, g₂, h₁, h₂⟩

/-- The argument that becomes the parameter. -/
def Parameter.arg (p : Parameter) : ParameterArg where
  typeOid := p.typeOid
  value := p.value

theorem Parameter.new_eq_ok_iff {typeOid : Option ℕ} {value : Option String} {p : Parameter} :
    Parameter.new typeOid value = .ok p ↔ p = { typeOid, value } ∧ p.validate = .ok () := by
  unfold Parameter.new
  rw [Checks.bind_eq_ok_iff]
  constructor
  · intro h
    obtain ⟨⟨⟩, hvalid, hp⟩ := h
    cases hp
    exact ⟨rfl, hvalid⟩
  · intro h
    obtain ⟨rfl, hvalid⟩ := h
    exact ⟨(), hvalid, rfl⟩

theorem toOption_eq_some_iff {ε α : Type} {x : Except ε α} {a : α} : x.toOption = some a ↔ x = .ok a := by
  cases x <;> simp [Except.toOption]

/-- The core takes the objects that the tool takes, if the value has no NUL. -/
theorem Parameter.decode_eq_some_iff {v : Json} {p : Parameter} : Parameter.decode v = some p ↔
    (∃ members, v = .obj members) ∧ ParameterArg.fromValue v = some p.arg ∧ p.validate = .ok () := by
  simp only [Parameter.decode, Option.bind_eq_bind, Option.bind_eq_some_iff, toOption_eq_some_iff,
    asObject_eq_ok_iff, exactObjectKeys, Checks.bind_eq_ok_iff, requireKeys_eq_ok_iff,
    allowedObjectKeys_eq_ok_iff,
    decodeValue_eq_ok_iff, Parameter.new_eq_ok_iff]
  constructor
  · intro h
    obtain ⟨members, rfl, -, ⟨-, -, hkeys⟩, typeOid, htype, value, hvalue, rfl, hvalid⟩ := h
    exact ⟨⟨members, rfl⟩, ParameterArg.fromValue_obj.mpr ⟨hkeys, htype, hvalue⟩, hvalid⟩
  · intro h
    obtain ⟨⟨members, rfl⟩, hreads, hvalid⟩ := h
    obtain ⟨hkeys, htype, hvalue⟩ := ParameterArg.fromValue_obj.mp hreads
    refine ⟨members, rfl, (), ⟨(), ?_, hkeys⟩, p.typeOid, htype, p.value, hvalue, rfl, hvalid⟩
    simp only [ParameterArg.fields, List.forall_mem_cons, List.not_mem_nil, false_imp_iff,
      implies_true, and_true]
    exact ⟨htype.mono fun _ _ => trivial, hvalue.mono fun _ _ => trivial⟩

/-- A list is read item by item. -/
theorem mapM_eq_some_iff {α : Type} {read : Json → Option α} {items : List Json} {xs : List α} :
    items.mapM read = some xs ↔ List.Forall₂ (fun v x => read v = some x) items xs := by
  induction items generalizing xs with
  | nil => simp [List.mapM_nil]
  | cons v items ih =>
    rw [List.mapM_cons]
    simp only [Option.bind_eq_bind, Option.bind_eq_some_iff, Option.pure_def, Option.some.injEq]
    constructor
    · intro h
      obtain ⟨x, hx, ys, hys, rfl⟩ := h
      exact .cons hx (ih.mp hys)
    · intro h
      cases h with
      | cons hx hrest => exact ⟨_, hx, _, ih.mpr hrest, rfl⟩

theorem mapM_new_eq_ok_iff {args : List ParameterArg} {ps : List Parameter} :
    args.mapM (fun p => Parameter.new p.typeOid p.value) = .ok ps ↔
      args = ps.map Parameter.arg ∧ ∀ p ∈ ps, p.validate = .ok () := by
  induction args generalizing ps with
  | nil =>
    simp only [List.mapM_nil]
    constructor
    · intro h
      cases h
      exact ⟨rfl, List.forall_mem_nil _⟩
    · intro h
      rw [List.map_eq_nil_iff.mp h.1.symm]
      rfl
  | cons a args ih =>
    rw [List.mapM_cons, Checks.bind_eq_ok_iff]
    constructor
    · intro h
      obtain ⟨p, hp, hrest⟩ := h
      obtain ⟨qs, hqs, hps⟩ := Checks.bind_eq_ok_iff.mp hrest
      cases hps
      obtain ⟨rfl, hvalid⟩ := Parameter.new_eq_ok_iff.mp hp
      obtain ⟨rfl, hqvalid⟩ := ih.mp hqs
      exact ⟨rfl, List.forall_mem_cons.mpr ⟨hvalid, hqvalid⟩⟩
    · intro h
      obtain ⟨hargs, hvalid⟩ := h
      cases ps with
      | nil => cases hargs
      | cons p ps =>
        obtain ⟨rfl, hrest⟩ := List.cons_eq_cons.mp hargs
        obtain ⟨hp, hps⟩ := List.forall_mem_cons.mp hvalid
        exact ⟨p, Parameter.new_eq_ok_iff.mpr ⟨rfl, hp⟩,
          Checks.bind_eq_ok_iff.mpr ⟨ps, ih.mpr ⟨hrest, hps⟩, rfl⟩⟩

/-- The value of `parameters`, or none of them. -/
def parametersOf (members : List (String × Json)) : Json := (members.lookup "parameters").getD (.arr [])

/-- The object is read as the arguments of a tool for a handle. -/
structure HandleArgs.Reads (members : List (String × Json)) (handle : String) : Prop where
  keys : ∀ m ∈ members, m.1 ∈ ["handle"]
  handle : Has members "handle" fun v => asString v = some handle

/-- The object is read as the arguments of a statement. -/
structure QueryArgs.Reads (members : List (String × Json)) (handle : String)
    (request : QueryRequest) : Prop where
  keys : ∀ m ∈ members, m.1 ∈ QueryArgs.fields
  handle : Has members "handle" fun v => asString v = some handle
  sql : Has members "sql" fun v => asString v = some request.sql
  parameters : asVec ParameterArg.fromValue (parametersOf members) =
    some (request.parameters.map Parameter.arg)
  valid : ∀ p ∈ request.parameters, p.validate = .ok ()

section Readers

variable {members : List (String × Json)} {handle : String}

theorem HandleArgs.fromMembers_eq_some_iff {args : HandleArgs} :
    HandleArgs.fromMembers members = some args ↔ HandleArgs.Reads members args.handle := by
  simp only [HandleArgs.fromMembers, denyUnknown_eq_some_iff, Option.bind_eq_bind, Option.bind_eq_some_iff,
    requiredField_eq_some_iff, Option.pure_def, Option.some.injEq]
  constructor
  · intro h
    obtain ⟨hkeys, handle, hhandle, rfl⟩ := h
    exact ⟨hkeys, hhandle⟩
  · intro h
    exact ⟨h.keys, args.handle, h.handle, rfl⟩

/-- The arguments of a statement come to the core as its request. -/
theorem QueryArgs.intoCore_eq_ok_iff {args : QueryArgs} {request : QueryRequest} :
    args.intoCore = .ok (handle, request) ↔
      args = { handle, sql := request.sql, parameters := request.parameters.map Parameter.arg } ∧
        ∀ p ∈ request.parameters, p.validate = .ok () := by
  unfold QueryArgs.intoCore
  rw [Checks.bind_eq_ok_iff]
  constructor
  · intro h
    obtain ⟨ps, hps, hrequest⟩ := h
    obtain ⟨hargs, hvalid⟩ := mapM_new_eq_ok_iff.mp hps
    cases hrequest
    refine ⟨?_, hvalid⟩
    rw [← hargs]
  · intro h
    obtain ⟨rfl, hvalid⟩ := h
    exact ⟨request.parameters, mapM_new_eq_ok_iff.mpr ⟨rfl, hvalid⟩, rfl⟩

theorem QueryArgs.fromMembers_eq_some_iff {args : QueryArgs} : QueryArgs.fromMembers members = some args ↔
    (∀ m ∈ members, m.1 ∈ QueryArgs.fields) ∧ Has members "handle" (fun v => asString v = some args.handle) ∧
      Has members "sql" (fun v => asString v = some args.sql) ∧
      asVec ParameterArg.fromValue (parametersOf members) = some args.parameters := by
  simp only [QueryArgs.fromMembers, denyUnknown_eq_some_iff, Option.bind_eq_bind, Option.bind_eq_some_iff,
    requiredField_eq_some_iff, Option.pure_def, Option.some.injEq]
  constructor
  · intro h
    obtain ⟨hkeys, handle, hhandle, sql, hsql, parameters, hparameters, rfl⟩ := h
    exact ⟨hkeys, hhandle, hsql, hparameters⟩
  · intro h
    obtain ⟨hkeys, hhandle, hsql, hparameters⟩ := h
    exact ⟨hkeys, args.handle, hhandle, args.sql, hsql, args.parameters, hparameters, rfl⟩

theorem QueryRequest.fromValue_obj {request : QueryRequest} :
    QueryRequest.fromValue (.obj members) = some request ↔
    (∀ m ∈ members, m.1 ∈ QueryRequest.fields) ∧ Has members "sql" (fun v => asString v = some request.sql) ∧
      asVec Parameter.decode (parametersOf members) = some request.parameters := by
  simp only [QueryRequest.fromValue, QueryRequest.fromFields, denyUnknown_eq_some_iff, Option.bind_eq_bind,
    Option.bind_eq_some_iff, Option.pure_def, Option.some.injEq]
  constructor
  · intro h
    obtain ⟨hkeys, v, hv, sql, hsql, parameters, hparameters, rfl⟩ := h
    exact ⟨hkeys, ⟨v, hv, hsql⟩, hparameters⟩
  · intro h
    obtain ⟨hkeys, ⟨v, hv, hsql⟩, hparameters⟩ := h
    exact ⟨hkeys, v, hv, request.sql, hsql, request.parameters, hparameters, rfl⟩

end Readers

/-! ### What the tools take -/

namespace Tools

variable {name : String} {members : List (String × Json)} {handle : String} {operation : Operation}

/-- What the tool of an operation takes. -/
def Takes (members : List (String × Json)) (handle : String) : Operation → Prop
  | .query request => QueryArgs.Reads members handle request
  | .getSchema | .openRead | .openWrite | .commit | .rollback | .close => HandleArgs.Reads members handle

theorem handleCall_eq_some_iff {operation' : Operation} :
    handleCall operation members = some (.request handle operation') ↔
      operation' = operation ∧ HandleArgs.Reads members handle := by
  simp only [handleCall, Option.map_eq_some_iff, HandleArgs.fromMembers_eq_some_iff, ToolCall.request.injEq]
  constructor
  · intro h
    obtain ⟨args, hreads, rfl, rfl⟩ := h
    exact ⟨rfl, hreads⟩
  · intro h
    obtain ⟨rfl, hreads⟩ := h
    exact ⟨{ handle }, hreads, rfl, rfl⟩

theorem query_eq_some_iff : query members = some (.request handle operation) ↔
    ∃ request, operation = .query request ∧ QueryArgs.Reads members handle request := by
  simp only [query, Option.map_eq_some_iff, QueryArgs.fromMembers_eq_some_iff]
  constructor
  · intro h
    obtain ⟨args, ⟨hkeys, hhandle, hsql, hparameters⟩, hcall⟩ := h
    cases hcore : args.intoCore with
    | error e =>
      rw [hcore] at hcall
      cases hcall
    | ok result =>
      rw [hcore] at hcall
      cases hcall
      obtain ⟨rfl, hvalid⟩ := QueryArgs.intoCore_eq_ok_iff.mp hcore
      exact ⟨result.2, rfl, hkeys, hhandle, hsql, hparameters, hvalid⟩
  · intro h
    obtain ⟨request, rfl, hkeys, hhandle, hsql, hparameters, hvalid⟩ := h
    refine ⟨{ handle, sql := request.sql, parameters := request.parameters.map Parameter.arg },
      ⟨hkeys, hhandle, hsql, hparameters⟩, ?_⟩
    rw [QueryArgs.intoCore_eq_ok_iff.mpr ⟨rfl, hvalid⟩]

/-- A call asks for an operation exactly when it names its tool and has the arguments of it. -/
theorem call_request_iff : call name members = some (.request handle operation) ↔
    name = operation.tool ∧ Takes members handle operation := by
  constructor
  · intro h
    unfold call at h
    split at h
    case h_6 =>
      obtain ⟨request, rfl, hreads⟩ := query_eq_some_iff.mp h
      exact ⟨rfl, hreads⟩
    -- the tools without a handle
    case h_1 =>
      obtain ⟨_, -, h⟩ := Option.map_eq_some_iff.mp h
      cases h
    case h_2 =>
      obtain ⟨_, -, h⟩ := Option.map_eq_some_iff.mp h
      cases h
    case h_10 => cases h
    all_goals
      obtain ⟨rfl, hreads⟩ := handleCall_eq_some_iff.mp h
      exact ⟨rfl, hreads⟩
  · intro h
    obtain ⟨rfl, htakes⟩ := h
    cases operation with
    | query request =>
      simp only [call, Operation.tool]
      exact query_eq_some_iff.mpr ⟨request, rfl, htakes⟩
    | getSchema | openRead | openWrite | commit | rollback | close =>
      simp only [call, Operation.tool]
      exact handleCall_eq_some_iff.mpr ⟨rfl, htakes⟩

/-! ### The two readers of a statement -/

/-- The items that the parameters are read from. -/
def parameterItems (members : List (String × Json)) : List Json :=
  match parametersOf members with
  | .arr items => items
  | _ => []

/-- The members of a call that are not its handle. -/
def withoutHandle (members : List (String × Json)) : List (String × Json) :=
  members.filter fun m => m.1 != "handle"

theorem lookup_withoutHandle {key : String} (hkey : key ≠ "handle") :
    (withoutHandle members).lookup key = members.lookup key := by
  induction members with
  | nil => rfl
  | cons m members ih =>
    obtain ⟨k, v⟩ := m
    unfold withoutHandle at ih ⊢
    by_cases hk : k = "handle"
    · rw [List.filter_cons_of_neg (by simp [hk]), ih, List.lookup_cons,
        beq_false_of_ne (fun h => hkey (h.trans hk))]
    · rw [List.filter_cons_of_pos (by simp [hk]), List.lookup_cons, List.lookup_cons, ih]

theorem parametersOf_withoutHandle : parametersOf (withoutHandle members) = parametersOf members := by
  unfold parametersOf
  rw [lookup_withoutHandle (by decide)]

/-- The core takes the list of parameters that the tool takes, if every one of them is an object and
none has a NUL. -/
theorem forall₂_decode_iff {items : List Json} {ps : List Parameter} :
    List.Forall₂ (fun v p => Parameter.decode v = some p) items ps ↔
      (List.Forall₂ (fun v a => ParameterArg.fromValue v = some a) items (ps.map Parameter.arg) ∧
        ∀ p ∈ ps, p.validate = .ok ()) ∧ ∀ v ∈ items, ∃ fields, v = .obj fields := by
  rw [List.forall₂_map_right_iff]
  constructor
  · intro h
    induction h with
    | nil => exact ⟨⟨.nil, List.forall_mem_nil _⟩, List.forall_mem_nil _⟩
    | cons hp _ ih =>
      obtain ⟨hobject, hread, hvalid⟩ := Parameter.decode_eq_some_iff.mp hp
      exact ⟨⟨.cons hread ih.1.1, List.forall_mem_cons.mpr ⟨hvalid, ih.1.2⟩⟩,
        List.forall_mem_cons.mpr ⟨hobject, ih.2⟩⟩
  · intro h
    obtain ⟨⟨hitems, hvalid⟩, hobjects⟩ := h
    induction hitems with
    | nil => exact .nil
    | cons hread _ ih =>
      obtain ⟨hvalid, hvalids⟩ := List.forall_mem_cons.mp hvalid
      obtain ⟨hobject, hobjects⟩ := List.forall_mem_cons.mp hobjects
      exact .cons (Parameter.decode_eq_some_iff.mpr ⟨hobject, hread, hvalid⟩) (ih hobjects hvalids)

theorem asVec_decode_iff {ps : List Parameter} : asVec Parameter.decode (parametersOf members) = some ps ↔
    (asVec ParameterArg.fromValue (parametersOf members) = some (ps.map Parameter.arg) ∧
      ∀ p ∈ ps, p.validate = .ok ()) ∧ ∀ v ∈ parameterItems members, ∃ fields, v = .obj fields := by
  unfold parameterItems
  simp only [asVec_eq_some_iff, mapM_eq_some_iff]
  constructor
  · intro h
    obtain ⟨items, hitems, hdecode⟩ := h
    rw [hitems]
    obtain ⟨⟨hread, hvalid⟩, hobjects⟩ := forall₂_decode_iff.mp hdecode
    exact ⟨⟨⟨items, rfl, hread⟩, hvalid⟩, hobjects⟩
  · intro h
    obtain ⟨⟨⟨items, hitems, hread⟩, hvalid⟩, hobjects⟩ := h
    rw [hitems] at hobjects
    exact ⟨items, hitems, forall₂_decode_iff.mpr ⟨⟨hread, hvalid⟩, hobjects⟩⟩

/-- Without its handle, a statement has the keys of a request. -/
theorem keys_withoutHandle_iff :
    (∀ m ∈ withoutHandle members, m.1 ∈ QueryRequest.fields) ↔ ∀ m ∈ members, m.1 ∈ QueryArgs.fields := by
  simp only [withoutHandle, List.mem_filter, bne_iff_ne, QueryRequest.fields, QueryArgs.fields, List.mem_cons,
    List.not_mem_nil, or_false]
  constructor
  · intro h m hm
    by_cases hhandle : m.1 = "handle"
    · exact .inl hhandle
    · exact .inr (h m ⟨hm, hhandle⟩)
  · intro h m hm
    exact (h m hm.1).resolve_left hm.2

/-- A statement is taken by the reader of the core exactly when the tool takes it with a handle and no
parameter of it is written as an array. -/
theorem call_query_iff {request : QueryRequest} :
    (Has members "handle" (fun v => asString v = some handle) ∧
        QueryRequest.fromValue (.obj (withoutHandle members)) = some request) ↔
      call "query" members = some (.request handle (.query request)) ∧
        ∀ v ∈ parameterItems members, ∃ fields, v = .obj fields := by
  have htool : call "query" members = some (.request handle (.query request)) ↔
      QueryArgs.Reads members handle request := by
    rw [call_request_iff]
    exact ⟨fun h => h.2, fun h => ⟨rfl, h⟩⟩
  have hsql : ∀ P, Has (withoutHandle members) "sql" P ↔ Has members "sql" P := by
    intro P
    unfold Has
    rw [lookup_withoutHandle (by decide)]
  rw [htool, QueryRequest.fromValue_obj, parametersOf_withoutHandle, asVec_decode_iff,
    keys_withoutHandle_iff, hsql]
  constructor
  · intro h
    obtain ⟨hhandle, hkeys, hsql, ⟨hparameters, hvalid⟩, hobjects⟩ := h
    exact ⟨⟨hkeys, hhandle, hsql, hparameters, hvalid⟩, hobjects⟩
  · intro h
    obtain ⟨⟨hkeys, hhandle, hsql, hparameters, hvalid⟩, hobjects⟩ := h
    exact ⟨hhandle, hkeys, hsql, ⟨hparameters, hvalid⟩, hobjects⟩

/-- A parameter written as an array is one for the tool alone. -/
example : call "query" [("handle", .str "h"), ("sql", .str "select $1"), ("parameters", .arr [.arr [.null, .null]])] =
      some (.request "h" (.query { sql := "select $1", parameters := [{ typeOid := none, value := none }] })) ∧
    QueryRequest.fromValue (.obj [("sql", .str "select $1"), ("parameters", .arr [.arr [.null, .null]])]) = none := by
  decide

/-! ### Writing a statement -/

/-- The type of a parameter fits into 32 bits, and its value has no NUL. -/
def Wire (p : Parameter) : Prop := (∀ oid ∈ p.typeOid, oid < 2 ^ 32) ∧ p.validate = .ok ()

/-- The members that a move for a statement is completed with. -/
def statement (request : QueryRequest) : List (String × Json) :=
  [("sql", .str request.sql), ("parameters", .arr (request.parameters.map fun p => p.arg.toJson))]

theorem fromValue_toJson {a : ParameterArg} (h : ∀ oid ∈ a.typeOid, oid < 2 ^ 32) :
    ParameterArg.fromValue a.toJson = some a := by
  obtain ⟨typeOid, value⟩ := a
  refine ParameterArg.fromValue_obj.mpr ⟨?_, ?_, ?_⟩
  · simp [ParameterArg.fields]
  · refine ⟨_, rfl, ?_⟩
    cases typeOid with
    | none => rfl
    | some oid =>
      show (asU32 (.nat oid)).map some = some (some oid)
      rw [asU32_eq_some_iff.mpr ⟨rfl, h oid rfl⟩]
      rfl
  · refine ⟨_, rfl, ?_⟩
    cases value <;> rfl

/-- A statement is read back from what it is written as. -/
theorem call_query_of_wire {request : QueryRequest} (h : ∀ p ∈ request.parameters, Wire p) :
    call "query" (("handle", .str handle) :: statement request) = some (.request handle (.query request)) := by
  rw [call_request_iff]
  refine ⟨rfl, ?_, ⟨_, rfl, rfl⟩, ⟨_, rfl, rfl⟩, ?_, fun p hp => (h p hp).2⟩
  · simp [QueryArgs.fields, statement]
  · rw [asVec_eq_some_iff]
    refine ⟨_, rfl, mapM_eq_some_iff.mpr ?_⟩
    rw [List.forall₂_map_left_iff, List.forall₂_map_right_iff, List.forall₂_same]
    exact fun p hp => fromValue_toJson (h p hp).1

end Tools

end PgMcp
