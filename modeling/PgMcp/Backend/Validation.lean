import PgMcp.Backend
import PgMcp.Config.Profiles
import PgMcp.Libpq.Healthy

/-!
# The two validators of a request

A query request is validated when it is admitted, and its statement and parameters again by
the adapter, before they are sent.  The two agree but for statements of white space only.
What remains is an empty statement that is not white space, which the server reports.

## Main definitions

* `checkSend` — what the checks of `send_query` come to.
* `SendCheck` — refused, a panic, or passed.

## Main results

* `validateParameters_ok_iff`, `checkParameters_ok_iff` — the two parameter loops accept the
  same lists.
* `sendQuery_of_checkSend` — the checks are those that `sendQuery` makes.
* `validate_agrees` — the two validators agree.
-/

namespace PgMcp

open Program Backend

/-! ### The checks of the adapter -/

/-- `CString::new`, which refuses an inner NUL. -/
def cString (s : String) : Option String := if hasNul s then none else some s

/-- What the checks before a send come to. -/
inductive SendCheck where
  | refused (e : AdapterError)
  /-- `CString::new(value).expect("validated parameter")` fails. -/
  | panicked
  | passed
  deriving DecidableEq, Repr

/-- The checks of `send_query`, up to the number of parameters. -/
def checkSend (sql : String) (parameters : List Parameter) (limits : QueryLimits) : SendCheck :=
  if sql.isEmpty || limits.sqlBytes < sql.utf8ByteSize || hasNul sql then
    .refused (.new .invalidInput)
  else
    match validateParameters parameters limits, cString sql with
    | .error e, _ => .refused e
    | .ok (), none => .refused (.new .invalidInput)
    | .ok (), some _ =>
      if parameters.any fun p => p.value.any fun value => (cString value).isNone then .panicked
      else if cIntMax < parameters.length then .refused (.new .invalidInput)
      else .passed

/-! ### The parameter loops -/

/-- No value has an embedded NUL. -/
def NoNul (parameters : List Parameter) : Prop := ∀ p ∈ parameters, p.value.any hasNul = false

/-- The bytes of the values. -/
def totalBytes (parameters : List Parameter) : ℕ := (parameters.map Parameter.valueBytes).sum

theorem totalBytes_cons (p : Parameter) (parameters : List Parameter) :
    totalBytes (p :: parameters) = p.valueBytes + totalBytes parameters := List.sum_cons

theorem noNul_cons {p : Parameter} {parameters : List Parameter} :
    NoNul (p :: parameters) ↔ p.value.any hasNul = false ∧ NoNul parameters :=
  List.forall_mem_cons

/-- The adapter's loop ends with the bytes of all values. -/
theorem valueTotal_ok_iff {parameters : List Parameter} {total n : ℕ} (hroom : total ≤ usizeMax) :
    valueTotal total parameters = .ok n ↔
      NoNul parameters ∧ n = total + totalBytes parameters ∧ n ≤ usizeMax := by
  induction parameters generalizing total with
  | nil =>
    simp only [valueTotal, Except.ok.injEq, NoNul, totalBytes, List.map_nil, List.sum_nil]
    grind
  | cons p parameters ih =>
    rw [valueTotal, noNul_cons, totalBytes_cons, Parameter.valueBytes]
    cases p.value with
    | none => simp [ih hroom]
    | some value =>
      simp only [Option.any_some, Option.map_some, Option.getD_some]
      split_ifs with hnul hover
      · simp [hnul]
      · simp only [false_iff]
        omega
      · rw [Bool.not_eq_true] at hnul
        rw [ih (by omega), hnul, Nat.add_assoc]
        simp only [true_and]

theorem validateParameters_ok_iff {parameters : List Parameter} {limits : QueryLimits}
    (hlimit : limits.parameterBytes ≤ usizeMax) : validateParameters parameters limits = .ok () ↔
      parameters.length ≤ limits.parameters ∧ NoNul parameters ∧
        totalBytes parameters ≤ limits.parameterBytes := by
  unfold validateParameters
  split_ifs with hcount
  · simp only [false_iff]
    omega
  · have hiff := fun n => @valueTotal_ok_iff parameters 0 n (Nat.zero_le _)
    cases htotal : valueTotal 0 parameters with
    | error e =>
      simp only [htotal, reduceCtorEq, false_iff] at hiff ⊢
      rintro ⟨-, hnul, hbytes⟩
      exact hiff (totalBytes parameters) ⟨hnul, (Nat.zero_add _).symm, hbytes.trans hlimit⟩
    | ok total =>
      obtain ⟨hnul, rfl, -⟩ := (hiff total).mp htotal
      simp only [Nat.zero_add]
      split_ifs with hbytes
      · simp only [false_iff]
        omega
      · simp only [true_iff]
        exact ⟨by omega, hnul, by omega⟩

/-- Whatever the limits, the loop has looked for NULs. -/
theorem noNul_of_validateParameters {parameters : List Parameter} {limits : QueryLimits} {u : Unit}
    (h : validateParameters parameters limits = .ok u) : NoNul parameters := by
  unfold validateParameters at h
  split_ifs at h with hcount
  cases htotal : valueTotal 0 parameters with
  | error e =>
    rw [htotal] at h
    cases h
  | ok total => exact ((valueTotal_ok_iff (Nat.zero_le _)).mp htotal).1

/-- The loop of the request tests the limit at every parameter. -/
theorem checkParameters_ok_iff {limit : ℕ} (hlimit : limit ≤ usizeMax) {parameters : List Parameter}
    {total : ℕ} (hroom : total ≤ limit) : checkParameters limit total parameters = .ok () ↔
      NoNul parameters ∧ total + totalBytes parameters ≤ limit := by
  induction parameters generalizing total with
  | nil => simp [checkParameters, NoNul, totalBytes, hroom]
  | cons p parameters ih =>
    rw [checkParameters, noNul_cons, totalBytes_cons, Parameter.validate]
    cases hnul : p.value.any hasNul with
    | true => simp [bind, Except.bind]
    | false =>
      simp only [Bool.false_eq_true, if_false, bind, Except.bind, true_and]
      rcases Nat.lt_or_ge limit (total + p.valueBytes) with hover | hfits
      · have hlt : ¬ total + (p.valueBytes + totalBytes parameters) ≤ limit := by omega
        simp only [hlt, and_false, iff_false]
        split_ifs <;> simp
      · rw [if_neg (by omega), if_neg (by omega)]
        show checkParameters limit (total + p.valueBytes) parameters = .ok () ↔ _
        rw [ih hfits, Nat.add_assoc]

/-- The values without a NUL are those that `CString::new` accepts. -/
theorem noNul_iff_cString {parameters : List Parameter} : NoNul parameters ↔
    (parameters.any fun p => p.value.any fun value => (cString value).isNone) = false := by
  rw [List.any_eq_false, NoNul]
  refine forall₂_congr fun p _ => ?_
  cases p.value with
  | none => simp
  | some value => cases h : hasNul value <;> simp [cString, h]

/-! ### The two validators -/

section Agreement

variable {config : Config}

/-- What the request's own validation accepts. -/
theorem QueryRequest.validate_ok_iff (hbytes : config.parameterBytes ≤ usizeMax)
    (request : QueryRequest) : request.validate config = .ok () ↔
      request.sql.toList.all isWhiteSpace = false ∧ hasNul request.sql = false ∧
        request.sql.utf8ByteSize ≤ config.sqlBytes ∧ request.parameters.length ≤ config.parameters ∧
        NoNul request.parameters ∧ totalBytes request.parameters ≤ config.parameterBytes := by
  have hloop := @checkParameters_ok_iff _ hbytes request.parameters 0 (Nat.zero_le _)
  rw [Nat.zero_add] at hloop
  rw [← hloop, QueryRequest.validate]
  cases htext : request.sql.toList.all isWhiteSpace || hasNul request.sql ||
      config.sqlBytes < request.sql.utf8ByteSize with
  | true =>
    simp only [Bool.or_eq_true, decide_eq_true_eq] at htext
    refine iff_of_false (fun h => by cases h) ?_
    rintro ⟨hblank, hnul, hlength, -⟩
    rcases htext with (h | h) | h
    · rw [h] at hblank
      cases hblank
    · rw [h] at hnul
      cases hnul
    · omega
  | false =>
    simp only [Bool.or_eq_false_iff, decide_eq_false_iff_not] at htext
    rw [if_neg (by simp)]
    by_cases hcount : config.parameters < request.parameters.length
    · rw [if_pos hcount]
      exact iff_of_false (fun h => by cases h) fun h => absurd h.2.2.2.1 (Nat.not_le.mpr hcount)
    · rw [if_neg hcount]
      show checkParameters config.parameterBytes 0 request.parameters = .ok () ↔ _
      exact ⟨fun h => ⟨htext.1.1, htext.1.2, by omega, by omega, h⟩, fun h => h.2.2.2.2⟩

/-- What the checks before a send pass. -/
theorem checkSend_passed_iff {limits : QueryLimits} (hbytes : limits.parameterBytes ≤ usizeMax)
    (hcount : limits.parameters ≤ cIntMax) (sql : String) (parameters : List Parameter) :
    checkSend sql parameters limits = .passed ↔
      sql.isEmpty = false ∧ hasNul sql = false ∧ sql.utf8ByteSize ≤ limits.sqlBytes ∧
        parameters.length ≤ limits.parameters ∧ NoNul parameters ∧
        totalBytes parameters ≤ limits.parameterBytes := by
  have hvalid := @validateParameters_ok_iff parameters limits hbytes
  rw [checkSend]
  cases htext : sql.isEmpty || limits.sqlBytes < sql.utf8ByteSize || hasNul sql with
  | true =>
    simp only [Bool.or_eq_true, decide_eq_true_eq] at htext
    refine iff_of_false (by simp) ?_
    rintro ⟨hempty, hnul, hlength, -⟩
    rcases htext with (h | h) | h
    · rw [h] at hempty
      cases hempty
    · omega
    · rw [h] at hnul
      cases hnul
  | false =>
    simp only [Bool.or_eq_false_iff, decide_eq_false_iff_not] at htext
    have hsql : cString sql = some sql := by rw [cString, htext.2]; rfl
    rw [if_neg (by simp), hsql]
    cases hparameters : validateParameters parameters limits with
    | error e =>
      rw [hparameters] at hvalid
      exact iff_of_false (by simp) fun h => by simpa using hvalid.mpr h.2.2.2
    | ok u =>
      obtain ⟨hlength, hnul, htotal⟩ := hvalid.mp hparameters
      simp only [noNul_iff_cString.mp hnul, Bool.false_eq_true, if_false]
      rw [if_neg (by omega)]
      exact iff_of_true rfl ⟨htext.1.1, htext.2, by omega, hlength, hnul, htotal⟩

/-- The checks are those of `sendQuery`: what has passed them is sent, and what they refuse is
not.  The panic is out of reach, since the values have been searched for NULs before. -/
theorem sendQuery_of_checkSend (sql : String) (parameters : List Parameter) (limits : QueryLimits) :
    (checkSend sql parameters limits = .passed ∧ ∀ rounds deadline ctl,
      sendQuery rounds sql parameters limits deadline ctl =
        sendChecked rounds sql limits true deadline ctl) ∨
    ∃ e, checkSend sql parameters limits = .refused e ∧ ∀ rounds deadline ctl,
      sendQuery rounds sql parameters limits deadline ctl = .fail e := by
  simp only [checkSend, sendQuery]
  cases htext : sql.isEmpty || limits.sqlBytes < sql.utf8ByteSize || hasNul sql with
  | true => exact .inr ⟨_, if_pos rfl, fun _ _ _ => rfl⟩
  | false =>
    rw [if_neg (by simp)]
    cases hparameters : validateParameters parameters limits with
    | error e => exact .inr ⟨e, rfl, fun _ _ _ => rfl⟩
    | ok u =>
      have hsql : cString sql = some sql := by
        rw [cString, (Bool.or_eq_false_iff.mp htext).2]
        rfl
      have hvalues := noNul_iff_cString.mp (noNul_of_validateParameters hparameters)
      rw [hsql]
      simp only [hvalues, Bool.false_eq_true, if_false]
      rcases Nat.lt_or_ge cIntMax parameters.length with hcount | hcount
      · rw [if_pos hcount, decide_eq_false (Nat.not_le.mpr hcount)]
        exact .inr ⟨_, rfl, fun _ _ _ => rfl⟩
      · rw [if_neg (Nat.not_lt.mpr hcount), decide_eq_true hcount]
        exact .inl ⟨rfl, fun _ _ _ => rfl⟩

/-- A text of white space only may be empty. -/
theorem all_isWhiteSpace_of_isEmpty {sql : String} (h : sql.isEmpty = true) :
    sql.toList.all isWhiteSpace = true := by
  rw [String.isEmpty_iff] at h
  rw [h]
  rfl

/-- Under limits that are within range, the two validators agree: what the request's validation
accepts passes every check before the send and is sent, what these checks refuse the request's
validation rejects, no check panics, and only a statement of white space is told apart. -/
theorem validate_agrees (hconfig : config.validate = .ok ()) (request : QueryRequest) :
    (request.validate config = .ok () →
      checkSend request.sql request.parameters (queryLimits config) = .passed ∧
      ∀ rounds deadline ctl,
        sendQuery rounds request.sql request.parameters (queryLimits config) deadline ctl =
          sendChecked rounds request.sql (queryLimits config) true deadline ctl) ∧
    (∀ e, checkSend request.sql request.parameters (queryLimits config) = .refused e →
      request.validate config ≠ .ok ()) ∧
    checkSend request.sql request.parameters (queryLimits config) ≠ .panicked ∧
    (checkSend request.sql request.parameters (queryLimits config) = .passed →
      (request.validate config ≠ .ok () ↔
        request.sql ≠ "" ∧ request.sql.toList.all isWhiteSpace = true)) := by
  have hrange := Config.validate_ok.mp hconfig
  have hcount := (hrange .parameters).2
  have hbytes := (hrange .parameterBytes).2
  change config.parameters ≤ 65535 at hcount
  change config.parameterBytes ≤ 16777216 at hbytes
  have husize : (16777216 : ℕ) ≤ usizeMax := by decide
  have hint : (65535 : ℕ) ≤ cIntMax := by decide
  have hvalid := request.validate_ok_iff (hbytes.trans husize)
  have hpassed := @checkSend_passed_iff (queryLimits config) (hbytes.trans husize)
    (hcount.trans hint) request.sql request.parameters
  have haccepted : request.validate config = .ok () →
      checkSend request.sql request.parameters (queryLimits config) = .passed := by
    intro h
    obtain ⟨hblank, hrest⟩ := hvalid.mp h
    refine hpassed.mpr ⟨?_, hrest⟩
    by_contra hempty
    rw [Bool.not_eq_false] at hempty
    rw [all_isWhiteSpace_of_isEmpty hempty] at hblank
    cases hblank
  have hsends := sendQuery_of_checkSend request.sql request.parameters (queryLimits config)
  refine ⟨fun h => ⟨haccepted h, ?_⟩, fun e he h => ?_, ?_, fun h => ?_⟩
  · rcases hsends with ⟨-, hsent⟩ | ⟨e, he, -⟩
    · exact hsent
    · rw [haccepted h] at he
      cases he
  · rw [haccepted h] at he
    cases he
  · rcases hsends with ⟨h, -⟩ | ⟨e, h, -⟩ <;> rw [h] <;> simp
  · obtain ⟨hempty, hrest⟩ := hpassed.mp h
    rw [ne_eq, hvalid]
    constructor
    · intro hrejected
      refine ⟨fun heq => ?_, ?_⟩
      · rw [heq] at hempty
        cases hempty
      · by_contra hblank
        rw [Bool.not_eq_true] at hblank
        exact hrejected ⟨hblank, hrest⟩
    · rintro ⟨-, hblank⟩ ⟨hnot, -⟩
      rw [hblank] at hnot
      cases hnot

/-- A statement with a parameter under the default limits. -/
theorem validate_agrees_default :
    Config.default.validate = .ok () ∧
    checkSend "SELECT $1" [⟨none, some "1"⟩] (queryLimits .default) = .passed ∧
    checkSend " " [] (queryLimits .default) = .passed ∧
    QueryRequest.validate ⟨" ", []⟩ .default ≠ .ok () := by
  have hconfig : Config.default.validate = .ok () := Config.validate_ok.mpr Config.default_inRange
  have hblank : checkSend " " [] (queryLimits .default) = .passed := by decide +kernel
  exact ⟨hconfig, ((validate_agrees hconfig ⟨"SELECT $1", [⟨none, some "1"⟩]⟩).1 (by decide +kernel)).1,
    hblank, ((validate_agrees hconfig ⟨" ", []⟩).2.2.2 hblank).mpr ⟨by decide, by decide⟩⟩

/-- The server reports a statement without a command, which is no white space. -/
theorem emptyQuery_invalidInput : Config.default.validate = .ok () ∧
    QueryRequest.validate ⟨";", []⟩ .default = .ok () ∧
    ∃ w', (Connection.query 6 ";" [] (queryLimits .default) 1000 (.libpq (.timed none none 1000))).Returns
      (.fresh [.accept { events := [.result { status := .emptyQuery }], after := .idle }] [])
      (.error (.new .invalidInput)) w' :=
  ⟨Config.validate_ok.mpr Config.default_inRange, by decide +kernel, _,
    returns_of_result? (by decide +kernel)⟩

end Agreement

end PgMcp
