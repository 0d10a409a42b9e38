import PgMcp.Libpq.Draining
import PgMcp.Libpq.Exchange
import PgMcp.Libpq.Rounds

/-!
# Connecting

`Dsn::parse` and `Connection::connect`: the connection string is split by libpq and must name its
database, and a connection is polled until it is there, set up, and checked.  What libpq and the
network do is data, as for a connection that is there: what `PQconninfoParse` makes of the string,
whether `PQconnectStart` has memory, what each `PQconnectPoll` answers, and what the server reports
once it can be asked.  `PQconnectPoll` can answer forever without a connection, and nothing need ever
happen on its socket: then it is the deadline that ends the attempt.

A connection that is given up is dropped, and with it the native connection is finished.

## Main definitions

* `Dsn.parse` — the connection string with the database it names.
* `ConnectPolls`, `Endpoint`, `Startup` — what an attempt meets, and the state it runs on.
* `Connection.connect` — the attempt.

## Main results

* `Dsn.parse_ok` — the database a string names, and what a string must not have.
* `Connection.connect_post` — how an attempt ends: with a checked connection, or with none.
* `pollConnection_terminates` — the loop ends when the clock comes to the deadline, on a silent network
  too.
-/

namespace PgMcp

open Program

/-! ### Connection strings -/

/-- The value of an option. -/
inductive OptionValue where
  | null : OptionValue
  | invalidUtf8 : OptionValue
  | text (s : String) : OptionValue
  deriving DecidableEq, Repr

/-- `PQconninfoOption`; the keyword is absent when it is not UTF-8. -/
structure ConninfoOption where
  keyword : Option String
  value : OptionValue
  deriving DecidableEq, Repr

/-- `PQconninfoParse`: the options of a string, unless it cannot be parsed. -/
abbrev ConninfoParse := String → Option (List ConninfoOption)

def asciiLower (s : String) : List Char := s.toList.map Char.toLower

def nestedConnectionString (value : String) : Bool :=
  "postgres://".toList.isPrefixOf (asciiLower value) ||
    "postgresql://".toList.isPrefixOf (asciiLower value) ||
    value.toList.contains '=' || value.toList.contains '\n' || value.toList.contains '\r'

/-- The connection string with the database it names. -/
structure Dsn where
  raw : String
  database : String
  deriving DecidableEq, Repr

namespace Dsn

/-- What the options read so far have shown. -/
structure Seen where
  database : Option String
  sawDbname : Bool
  sawService : Bool

/-- One option that can be read. -/
def Seen.option (seen : Seen) (keyword : String) (value : OptionValue) : Seen where
  database :=
    if asciiLower keyword = asciiLower "dbname" then
      match value with
      | .text s => if s.isEmpty then seen.database else some s
      | _ => seen.database
    else seen.database
  sawDbname := seen.sawDbname || decide (asciiLower keyword = asciiLower "dbname")
  sawService := seen.sawService || decide (asciiLower keyword = asciiLower "service") && value != .null

/-- The loop over the options. -/
def scan : Seen → List ConninfoOption → Except AdapterError Seen
  | seen, [] => .ok seen
  | seen, o :: options =>
    match o.keyword with
    | none => .error (.new .config)
    | some keyword => scan (seen.option keyword o.value) options

def parse (conninfo : ConninfoParse) (value : String) : Except AdapterError Dsn :=
  if hasNul value then .error (.new .config)
  else
    match conninfo value with
    | none => .error (.new .config)
    | some options =>
      match scan ⟨none, false, false⟩ options with
      | .error e => .error e
      | .ok seen =>
        if seen.sawService || !seen.sawDbname then .error (.new .config)
        else
          match seen.database with
          | none => .error (.new .config)
          | some database =>
            if nestedConnectionString database then .error (.new .config)
            else .ok { raw := value, database := database }

/-- The option gives a database. -/
def Names (o : ConninfoOption) (database : String) : Prop :=
  (∃ keyword, o.keyword = some keyword ∧ asciiLower keyword = asciiLower "dbname") ∧
    o.value = .text database ∧ database ≠ ""

/-- The option names a service. -/
def NamesService (o : ConninfoOption) : Prop :=
  (∃ keyword, o.keyword = some keyword ∧ asciiLower keyword = asciiLower "service") ∧ o.value ≠ .null

/-- Every database that the loop ends with is given by an option, or was there before; and the
loop has seen every service. -/
theorem scan_ok {options : List ConninfoOption} {seen seen' : Seen} (h : scan seen options = .ok seen') :
    (∀ database, seen'.database = some database →
        seen.database = some database ∨ ∃ o ∈ options, Names o database) ∧
      (seen'.sawService = false → seen.sawService = false ∧ ∀ o ∈ options, ¬ NamesService o) := by
  induction options generalizing seen with
  | nil =>
    cases h
    exact ⟨fun _ hdatabase => .inl hdatabase, fun hservice => ⟨hservice, List.forall_mem_nil _⟩⟩
  | cons o options ih =>
    unfold scan at h
    cases hkeyword : o.keyword with
    | none =>
      rw [hkeyword] at h
      cases h
    | some keyword =>
      rw [hkeyword] at h
      obtain ⟨hdatabases, hservices⟩ := ih h
      -- later options may name the database again; the service is seen once
      constructor
      · intro database hdatabase
        rcases hdatabases database hdatabase with hhere | ⟨o', ho', hnames⟩
        · simp only [Seen.option] at hhere
          split at hhere
          · next hdbname =>
            split at hhere
            · next s hvalue =>
              split at hhere
              · exact .inl hhere
              · next hne =>
                cases hhere
                refine .inr ⟨o, List.mem_cons_self, ⟨keyword, hkeyword, hdbname⟩, hvalue, ?_⟩
                rintro rfl
                exact hne rfl
            · exact .inl hhere
          · exact .inl hhere
        · exact .inr ⟨o', List.mem_cons_of_mem _ ho', hnames⟩
      · intro hservice
        obtain ⟨hhere, hrest⟩ := hservices hservice
        simp only [Seen.option, Bool.or_eq_false_iff, Bool.and_eq_false_iff, decide_eq_false_iff_not,
          bne_eq_false_iff_eq] at hhere
        refine ⟨hhere.1, List.forall_mem_cons.mpr ⟨?_, hrest⟩⟩
        rintro ⟨⟨keyword', hkeyword', hname⟩, hvalue⟩
        rw [hkeyword] at hkeyword'
        cases hkeyword'
        rcases hhere.2 with hother | hnull
        · exact hother hname
        · exact hvalue hnull

/-- An accepted string names its database and no service, and the name is not itself a connection
string. -/
theorem parse_ok {conninfo : ConninfoParse} {value : String} {dsn : Dsn}
    (h : parse conninfo value = .ok dsn) :
    dsn.raw = value ∧ hasNul value = false ∧ nestedConnectionString dsn.database = false ∧
      ∃ options, conninfo value = some options ∧ (∃ o ∈ options, Names o dsn.database) ∧
        ∀ o ∈ options, ¬ NamesService o := by
  unfold parse at h
  cases hnul : hasNul value with
  | true =>
    rw [hnul, if_pos rfl] at h
    cases h
  | false =>
    rw [hnul, if_neg Bool.false_ne_true] at h
    split at h
    · cases h
    · next options hoptions =>
      split at h
      · cases h
      · next seen hseen =>
        split at h
        · cases h
        · next hflags =>
          split at h
          · cases h
          · next database hdatabase =>
            split at h
            · cases h
            · next hnested =>
              cases h
              obtain ⟨hdatabases, hservices⟩ := scan_ok hseen
              rw [Bool.not_eq_true, Bool.or_eq_false_iff] at hflags
              refine ⟨rfl, rfl, Bool.not_eq_true _ ▸ hnested, options, hoptions, ?_, (hservices hflags.1).2⟩
              rcases hdatabases database hdatabase with hnone | hsome
              · cases hnone
              · exact hsome

end Dsn

/-! ### The attempt -/

/-- What happens on a socket that is waited for while the connection is made. -/
inductive Wait where
  | poll (reports : Poll) : Wait
  /-- Nothing ever happens. -/
  | silent : Wait
  deriving DecidableEq, Repr

/-- What a call of `PQconnectPoll` reports; without a descriptor there is nothing to wait for. -/
inductive ConnectPoll where
  | ok : ConnectPoll
  | failed : ConnectPoll
  /-- Poll again at once. -/
  | active : ConnectPoll
  /-- Wait until the socket can be read, then poll again. -/
  | reading (socket : Option Wait) : ConnectPoll
  /-- Wait until the socket can be written, then poll again. -/
  | writing (socket : Option Wait) : ConnectPoll
  deriving DecidableEq, Repr

/-- What the calls of `PQconnectPoll` report, first to last; they need not come to a connection. -/
abbrev ConnectPolls := ℕ → ConnectPoll

/-- What is there once the connection is made. -/
structure Endpoint where
  conn : PgConn
  /-- `PQsetnonblocking` succeeds. -/
  nonblocking : Bool
  /-- `PQparameterStatus` for the encoding, after it was set. -/
  encoding : Option String
  /-- `PQdb`. -/
  database : Option String
  /-- `PQserverVersion`. -/
  version : ℤ
  deriving DecidableEq, Repr

/-- The calls before the connection is used. -/
inductive ConnectCall where
  /-- `PQconnectStart`, with a connection to show for it or not. -/
  | start (made : Bool)
  | setNoticeProcessor
  | poll
  | setNonblocking
  deriving DecidableEq, Repr

/-- The state of an attempt: the connection, what is still to come, and the calls, newest first. -/
structure Startup where
  wire : Wire
  start : Option ConnectPolls
  endpoint : Endpoint
  calls : List ConnectCall

abbrev Opener := Program Startup AdapterError

def Startup.logged (s : Startup) (call : ConnectCall) : Startup := { s with calls := call :: s.calls }

def Startup.withWire (w : Wire) (s : Startup) : Startup := { s with wire := w }

/-- Run a program on the connection. -/
def onWire {α : Type} (x : Adapter α) : Opener α := x.zoom Startup.wire Startup.withWire

/-- A connection that is being made is not usable yet. -/
def PgConn.connecting : PgConn where
  ok := false
  xact := .idle
  activity := .resting none

/-- `PQconnectStart`; null when there is no memory for a connection. -/
def pqConnectStart : Opener (Option ConnectPolls) := .act fun s =>
  match s.start with
  | none => (none, s.logged (.start false))
  | some polls =>
    (some polls, (s.withWire { s.wire with conn := some .connecting }).logged (.start true))

def pqSetNoticeProcessor : Opener Unit := .update fun s => s.logged .setNoticeProcessor

/-- `PQconnectPoll`; when it reports that the connection is made, it is there. -/
def pqConnectPoll (made : Bool) : Opener Unit := .update fun s =>
  (if made then s.withWire { s.wire with conn := some s.endpoint.conn } else s).logged .poll

def pqSetNonblocking : Opener Bool := .act fun s => (s.endpoint.nonblocking, s.logged .setNonblocking)

/-- `PQparameterStatus`, of the connection if there is one. -/
def clientEncoding : Opener (Option String) :=
  .read fun s => if s.wire.conn.isSome then s.endpoint.encoding else none

def databaseName : Opener (Option String) :=
  .read fun s => if s.wire.conn.isSome then s.endpoint.database else none

def serverVersion : Opener ℤ := .read fun s => if s.wire.conn.isSome then s.endpoint.version else 0

def serverVersionMinimum : ℤ := 120000

/-- `poll_fd` on a socket on which nothing happens: every slice runs out. -/
def pollSilent (clock : Clock) (deadline : ℕ) : ℕ → Adapter Unit
  | 0 => .outOfRounds
  | rounds + 1 => do
    checkRemaining clock deadline
    checkRemaining clock deadline
    pollSilent clock deadline rounds

def waitConnection (clock : Clock) (deadline rounds : ℕ) : Option Wait → Opener Unit
  | none => .fail (AdapterError.new .connectionLost).unknown
  | some (.poll reports) => do
    let _ ← onWire (pollFd clock deadline reports)
    return ()
  | some .silent => onWire (pollSilent clock deadline rounds)

/-- One turn of the loop up to what was reported: the control state is looked at on both sides. -/
def checkedPoll (ctl : PollControl) (deadline : ℕ) (made : Bool) : Opener Unit := do
  onWire (checkControl ctl deadline)
  pqConnectPoll made
  onWire (checkControl ctl deadline)

/-- The loop of `connect`, from the `n`-th poll on. -/
def pollConnection (ctl : PollControl) (deadline : ℕ) (polls : ConnectPolls) : ℕ → ℕ → Opener Unit
  | 0, _ => .outOfRounds
  | rounds + 1, n =>
    match polls n with
    | .ok => checkedPoll ctl deadline true
    | .failed => do
      checkedPoll ctl deadline false
      .fail (.new .connectionLost)
    | .active => do
      checkedPoll ctl deadline false
      pollConnection ctl deadline polls rounds (n + 1)
    | .reading socket | .writing socket => do
      checkedPoll ctl deadline false
      waitConnection ctl.clock deadline rounds socket
      pollConnection ctl deadline polls rounds (n + 1)

def setNonblocking : Opener Unit := do
  .require (← pqSetNonblocking) (.new .connectionLost)

def setEncodingSql : String := "SET client_encoding TO 'UTF8'"

def setupUtf8 (rounds deadline : ℕ) (ctl : PollControl) : Opener Unit := do
  let result ← onWire (Connection.execute rounds setEncodingSql deadline ctl)
  .require (result.commandTag = "SET") (.new .database)
  .require ((← clientEncoding) = some "UTF8") (.new .database)

/-- The checks at the end of `connect`. -/
def checkEndpoint (dsn : Dsn) : Opener Unit := do
  .require (← .read fun s => decide (s.wire.connectionStatus = .ok)) (.new .connectionLost)
  .require (← .read fun s => decide (s.wire.transactionStatus = .idle)) (.new .database)
  match ← databaseName with
  | none => .fail (.new .database)
  | some actual =>
    .require (actual = dsn.database) (.new .databaseMismatch)
    .require (serverVersionMinimum ≤ (← serverVersion)) (.new .unsupportedServer)

/-- What is done with a connection that has been started. -/
def establish (rounds : ℕ) (dsn : Dsn) (deadline : ℕ) (ctl : PollControl) (polls : ConnectPolls) :
    Opener Unit := do
  pqSetNoticeProcessor
  pollConnection ctl deadline polls rounds 0
  onWire (checkControl ctl deadline)
  setNonblocking
  setupUtf8 rounds deadline ctl
  onWire (checkControl ctl deadline)
  checkEndpoint dsn

/-- `Connection::connect`.  A connection that is not returned is dropped. -/
def Connection.connect (rounds : ℕ) (dsn : Dsn) (deadline : ℕ) (ctl : PollControl) : Opener Unit := do
  onWire (checkControl ctl deadline)
  match ← pqConnectStart with
  | none => .fail (.new .connectionLost)
  | some polls =>
    match ← (establish rounds dsn deadline ctl polls).attempt with
    | .ok () => return ()
    | .error e =>
      .update fun s => s.withWire s.wire.disposed
      .fail e

/-! ### Polling -/

/-- Polling for the connection: it may have been made, and nothing is sent on it. -/
structure Polled (s s' : Startup) : Prop where
  endpoint : s'.endpoint = s.endpoint
  calls : ∃ polls, s'.calls = polls ++ s.calls ∧ ∀ call ∈ polls, call = .poll
  sent : s'.wire.calls = s.wire.calls
  scripts : s'.wire.scripts = s.wire.scripts
  busy : s'.wire.busy = s.wire.busy
  conn : s'.wire.conn = s.wire.conn ∨ s'.wire.conn = some s.endpoint.conn

theorem Polled.refl (s : Startup) : Polled s s where
  endpoint := rfl
  calls := ⟨[], rfl, List.forall_mem_nil _⟩
  sent := rfl
  scripts := rfl
  busy := rfl
  conn := .inl rfl

theorem Polled.trans {s₁ s₂ s₃ : Startup} (h : Polled s₁ s₂) (h' : Polled s₂ s₃) : Polled s₁ s₃ := by
  obtain ⟨polls, hcalls, hpolls⟩ := h.calls
  obtain ⟨polls', hcalls', hpolls'⟩ := h'.calls
  constructor
  · rw [h'.endpoint, h.endpoint]
  · refine ⟨polls' ++ polls, by rw [hcalls', hcalls, List.append_assoc], fun call hcall => ?_⟩
    rcases List.mem_append.mp hcall with hcall | hcall
    · exact hpolls' call hcall
    · exact hpolls call hcall
  · rw [h'.sent, h.sent]
  · rw [h'.scripts, h.scripts]
  · rw [h'.busy, h.busy]
  · rcases h'.conn with hconn | hconn
    · rw [hconn]
      exact h.conn
    · rw [hconn, h.endpoint]
      exact .inr rfl

instance : Std.Refl Polled := ⟨Polled.refl⟩

instance : IsTrans Startup Polled := ⟨fun _ _ _ => Polled.trans⟩

theorem Polled.of_ticked {s : Startup} {w : Wire} (h : Ticked s.wire w) : Polled s (s.withWire w) where
  endpoint := rfl
  calls := ⟨[], rfl, List.forall_mem_nil _⟩
  sent := h.calls
  scripts := h.scripts
  busy := h.busy
  conn := .inl h.conn

theorem onWire_checkControl_post (ctl : PollControl) (deadline : ℕ) (s : Startup) :
    (onWire (checkControl ctl deadline)).Post s fun _ s' => ∃ w, Ticked s.wire w ∧ s' = s.withWire w := by
  rw [onWire, post_zoom]
  exact (checkControl_post ctl deadline s.wire).mono fun _ w h => ⟨w, h.1, rfl⟩

theorem pqConnectPoll_polled (made : Bool) (s : Startup) :
    Polled s
      ((if made then s.withWire { s.wire with conn := some s.endpoint.conn } else s).logged .poll) := by
  cases made with
  | false =>
    refine ⟨rfl, ⟨[.poll], rfl, by simp⟩, rfl, rfl, rfl, .inl rfl⟩
  | true =>
    refine ⟨rfl, ⟨[.poll], rfl, by simp⟩, rfl, rfl, rfl, .inr rfl⟩

/-- When a turn reports that the connection is made, it is there. -/
theorem checkedPoll_post (ctl : PollControl) (deadline : ℕ) (made : Bool) (s : Startup) :
    (checkedPoll ctl deadline made).Post s fun r s' =>
      Polled s s' ∧ (made = true → ∀ u, r = .ok u → s'.wire.conn = some s.endpoint.conn) := by
  rw [checkedPoll]
  refine (onWire_checkControl_post ctl deadline s).bind ?_ ?_
  · intro u s₁ h
    obtain ⟨w, ht, rfl⟩ := h
    rw [pqConnectPoll, post_bind, post_update, andThen_ok]
    have hpolled := (Polled.of_ticked ht).trans (pqConnectPoll_polled made _)
    refine (onWire_checkControl_post ctl deadline _).mono fun r s' h => ?_
    obtain ⟨w', ht', rfl⟩ := h
    refine ⟨hpolled.trans (.of_ticked ht'), fun hmade u hr => ?_⟩
    subst hmade
    exact ht'.conn
  · intro e s₁ h
    obtain ⟨w, ht, rfl⟩ := h
    refine ⟨.of_ticked ht, fun _ u hr => ?_⟩
    cases hr

theorem pollSilent_ticked (clock : Clock) (deadline rounds : ℕ) :
    (pollSilent clock deadline rounds).Within Ticked := by
  induction rounds with
  | zero => exact fun w => trivial
  | succ rounds ih =>
    have slice : (checkRemaining clock deadline).Within Ticked := fun w =>
      (checkRemaining_post clock deadline w).mono fun _ _ h => h.1
    exact slice.bind fun _ => slice.bind fun _ => ih

theorem waitConnection_ticked (clock : Clock) (deadline rounds : ℕ) (socket : Option Wait) (s : Startup) :
    (waitConnection clock deadline rounds socket).Post s fun _ s' =>
      ∃ w, Ticked s.wire w ∧ s' = s.withWire w := by
  rcases socket with _ | reports | _
  · exact ⟨s.wire, .refl _, rfl⟩
  · rw [waitConnection, onWire, post_bind, post_zoom]
    refine (pollFd_post clock deadline reports s.wire).mono fun r w h => ?_
    cases r <;> exact ⟨w, h.1, rfl⟩
  · rw [waitConnection, onWire, post_zoom]
    exact (pollSilent_ticked clock deadline rounds s.wire).mono fun _ w h => ⟨w, h, rfl⟩

theorem waitConnection_within (clock : Clock) (deadline rounds : ℕ) (socket : Option Wait) :
    (waitConnection clock deadline rounds socket).Within Polled := by
  intro s
  refine (waitConnection_ticked clock deadline rounds socket s).mono fun r s' h => ?_
  obtain ⟨w, ht, rfl⟩ := h
  exact .of_ticked ht

/-- Polling that comes to a connection has it. -/
theorem pollConnection_post (ctl : PollControl) (deadline : ℕ) (polls : ConnectPolls) (rounds n : ℕ)
    (s : Startup) : (pollConnection ctl deadline polls rounds n).Post s fun r s' =>
      Polled s s' ∧ ∀ u, r = .ok u → s'.wire.conn = some s.endpoint.conn := by
  -- one turn, and what comes after it
  have turn : ∀ {rest : Opener Unit} {s : Startup},
      (∀ s₁, Polled s s₁ → rest.Post s₁ fun r s' =>
        Polled s₁ s' ∧ ∀ u, r = .ok u → s'.wire.conn = some s₁.endpoint.conn) →
      (checkedPoll ctl deadline false >>= fun _ => rest).Post s fun r s' =>
        Polled s s' ∧ ∀ u, r = .ok u → s'.wire.conn = some s.endpoint.conn := by
    intro rest s hrest
    refine (checkedPoll_post ctl deadline false s).bind ?_ ?_
    · intro u s₁ h
      refine (hrest s₁ h.1).mono fun r s' h' => ⟨h.1.trans h'.1, fun u hr => ?_⟩
      rw [h'.2 u hr, h.1.endpoint]
    · intro e s₁ h
      exact ⟨h.1, fun u hr => by cases hr⟩
  have waiting : ∀ {rest : Opener Unit} {rounds : ℕ} {socket : Option Wait} {s : Startup},
      (∀ s₁, rest.Post s₁ fun r s' => Polled s₁ s' ∧ ∀ u, r = .ok u → s'.wire.conn = some s₁.endpoint.conn) →
      (waitConnection ctl.clock deadline rounds socket >>= fun _ => rest).Post s fun r s' =>
        Polled s s' ∧ ∀ u, r = .ok u → s'.wire.conn = some s.endpoint.conn := by
    intro rest rounds socket s hrest
    refine (waitConnection_within ctl.clock deadline rounds socket s).bind ?_ ?_
    · intro u s₁ h
      refine (hrest s₁).mono fun r s' h' => ⟨h.trans h'.1, fun u hr => ?_⟩
      rw [h'.2 u hr, h.endpoint]
    · intro e s₁ h
      exact ⟨h, fun u hr => by cases hr⟩
  induction rounds generalizing n s with
  | zero => trivial
  | succ rounds ih =>
    unfold pollConnection
    cases polls n with
    | ok => exact (checkedPoll_post ctl deadline true s).mono fun r s' h => ⟨h.1, h.2 rfl⟩
    | failed =>
      refine turn fun s₁ _ => ?_
      exact ⟨.refl s₁, fun u hr => by cases hr⟩
    | active => exact turn fun s₁ _ => ih (n + 1) s₁
    | reading socket | writing socket => exact turn fun s₁ _ => waiting fun s₂ => ih (n + 1) s₂

/-! ### The encoding -/

/-- The native connections of a trace: those that are finished, and the one that is there. -/
def Wire.owned (w : Wire) : ℕ := w.calls.count .finish + w.conn.isSome.toNat

theorem Ticked.owned {w w' : Wire} (h : Ticked w w') : w'.owned = w.owned := by
  rw [Wire.owned, Wire.owned, h.calls, h.conn]

theorem Wire.owned_disposed (w : Wire) : w.disposed.owned = w.owned := by
  unfold Wire.owned Wire.disposed
  cases h : w.conn with
  | none => rfl
  | some c =>
    show List.count .finish (.finish :: w.calls) + 0 = _
    rw [List.count_cons_self]
    rfl

theorem count_finish_of_inner {calls : List Call} (h : ∀ call ∈ calls, call.inner = true) :
    calls.count .finish = 0 := by
  rw [List.count_eq_zero]
  intro hmem
  exact absurd (h _ hmem) (by decide)

/-- A statement finishes the connection or leaves it there. -/
theorem Exchange.owned {ctl : PollControl} {deadline : ℕ} {sql : String} {w w' : Wire}
    {r : Except AdapterError ResultSet} (h : Exchange ctl deadline sql w r w') : w'.owned = w.owned := by
  cases h with
  | unsent e pre known refused conn calls =>
    have hpre : pre.count .finish = 0 := by
      rw [List.count_eq_zero]
      intro hmem
      obtain ⟨usable, husable⟩ := refused _ hmem
      cases husable
    have hsome : w'.conn.isSome = w.conn.isSome := by
      rcases conn with ⟨hconn, -⟩ | ⟨c, hc, -, hconn⟩
      · rw [hconn]
      · rw [hconn, hc]
        rfl
    rw [Wire.owned, Wire.owned, calls, hsome, List.cons_append, List.count_cons_of_ne (by decide),
      List.count_append, hpre, Nat.zero_add]
  | sent c answer last mid conn usable free next quiet inner calls ending =>
    have hsend : Call.send sql c.xact ≠ .finish := by
      intro heq
      cases heq
    have hcalls : w'.calls.count .finish = [last].count .finish + w.calls.count .finish := by
      rw [calls, List.cons_append, List.cons_append, List.count_cons_of_ne (by decide), List.count_cons,
        List.count_append, count_finish_of_inner inner, List.count_cons_of_ne hsend, List.count_singleton]
      omega
    rw [Wire.owned, Wire.owned, hcalls, conn]
    cases ending with
    | disposed e mid unknown conn =>
      rw [conn]
      simp [Nat.add_comm]
    | interrupted reason flush conn raised =>
      rw [conn]
      simp
    | failed e usable flush events mid unknown whole conn =>
      rw [conn]
      simp
    | drained blocked completion mid conn whole answer ok known unknown =>
      rw [conn]
      simp

/-- A statement that succeeds is fetched to its end. -/
theorem Exchange.fetched {ctl : PollControl} {deadline : ℕ} {sql : String} {w w' : Wire} {rs : ResultSet}
    (h : Exchange ctl deadline sql w (.ok rs) w') : ∃ c blocked commits after mid, w.conn = some c ∧
      (∀ call ∈ mid, call.smooth = true) ∧ w'.calls = .leave ::
        .getResult blocked (.null (some ⟨rs.commandTag, commits, after⟩)) :: mid ++
          .send sql c.xact :: w.calls := by
  cases h with
  | sent c answer last mid conn usable free next quiet inner calls ending =>
    cases ending with
    | drained blocked completion mid conn' whole answer' ok known unknown =>
      obtain ⟨rfl, hsmooth⟩ := ok rs rfl
      exact ⟨c, blocked, _, _, mid, conn, hsmooth, calls⟩

/-- A statement that returns a result leaves the busy flag clear. -/
theorem sendChecked_busy (rounds : ℕ) (sql : String) (limits : QueryLimits) (singleRow : Bool) (deadline : ℕ)
    (ctl : PollControl) (w : Wire) : (sendChecked rounds sql limits singleRow deadline ctl).Post w
      fun r w' => ∀ rs, r = .ok rs → w'.busy = false := by
  have failing : ∀ {e : AdapterError} {w' : Wire} (rs : ResultSet),
      (.error e : Except AdapterError ResultSet) = .ok rs → w'.busy = false := by
    intro e w' rs hr
    cases hr
  -- only the last part returns a result
  have through : ∀ {α : Type} {x : Adapter α} {f : α → Adapter ResultSet} {w : Wire},
      (∀ a w₁, (f a).Post w₁ fun r w' => ∀ rs, r = .ok rs → w'.busy = false) →
      (x >>= f).Post w fun r w' => ∀ rs, r = .ok rs → w'.busy = false := by
    intro α x f w hf
    have hx : x.Post w fun _ _ => True := post_iff.mpr fun _ _ _ => trivial
    exact hx.bind (fun a w₁ _ => hf a w₁) fun _ _ _ => failing
  rw [sendChecked]
  refine through fun _ _ => through fun _ _ => through fun _ _ => through fun _ _ => through fun _ _ =>
    through fun _ _ => through fun single w₁ => ?_
  cases single with
  | true =>
    refine through fun result w₂ => ?_
    simp only [setBusy, post_bind, post_update, andThen_ok, post_ofExcept]
    intro rs _
    trivial
  | false => exact through fun _ _ => failing

theorem execute_busy (rounds deadline : ℕ) (ctl : PollControl) (sql : String) (w : Wire) :
    (Connection.execute rounds sql deadline ctl).Post w fun r w' => ∀ rs, r = .ok rs → w'.busy = false := by
  rw [Connection.execute, sendAndCollect]
  refine leaving_post ?_
  rw [post_bind, post_require]
  refine ⟨fun _ => ?_, fun _ rs hr => by cases hr⟩
  rw [andThen_ok, post_bind, post_ofExcept]
  cases validateParameters [] (.unbounded sql.utf8ByteSize) with
  | error e =>
    intro rs hr
    cases hr
  | ok u =>
    rw [andThen_ok, post_bind, post_require]
    exact ⟨fun _ => sendChecked_busy rounds sql _ _ deadline ctl w, fun _ rs hr => by cases hr⟩

/-! ### A whole attempt -/

/-- The native connections that were made are those that were made before, and each is still there
or finished. -/
structure Steady (s s' : Startup) : Prop where
  endpoint : s'.endpoint = s.endpoint
  started : s'.calls.count (.start true) = s.calls.count (.start true)
  owned : s'.wire.owned = s.wire.owned

theorem Steady.refl (s : Startup) : Steady s s := ⟨rfl, rfl, rfl⟩

theorem Steady.trans {s₁ s₂ s₃ : Startup} (h : Steady s₁ s₂) (h' : Steady s₂ s₃) : Steady s₁ s₃ where
  endpoint := h'.endpoint.trans h.endpoint
  started := h'.started.trans h.started
  owned := h'.owned.trans h.owned

theorem Steady.of_ticked {s : Startup} {w : Wire} (h : Ticked s.wire w) : Steady s (s.withWire w) :=
  ⟨rfl, rfl, h.owned⟩

theorem Polled.conn_isSome {s s' : Startup} (h : Polled s s') (hsome : s.wire.conn.isSome = true) :
    s'.wire.conn.isSome = true := by
  rcases h.conn with hconn | hconn
  · rw [hconn, hsome]
  · rw [hconn]
    rfl

theorem Polled.steady {s s' : Startup} (h : Polled s s') (hsome : s.wire.conn.isSome = true) :
    Steady s s' where
  endpoint := h.endpoint
  started := by
    obtain ⟨polls, hcalls, hpolls⟩ := h.calls
    have hnone : polls.count (.start true) = 0 := by
      rw [List.count_eq_zero]
      intro hmem
      cases hpolls _ hmem
    rw [hcalls, List.count_append, hnone, Nat.zero_add]
  owned := by rw [Wire.owned, Wire.owned, h.sent, h.conn_isSome hsome, hsome]

/-- The encoding is set by one statement that is fetched to its end. -/
structure Encoded (s s' : Startup) : Prop where
  encoding : s.endpoint.encoding = some "UTF8"
  busy : s'.wire.busy = false
  sent : ∃ c blocked commits after mid, s.wire.conn = some c ∧ (∀ call ∈ mid, call.smooth = true) ∧
    s'.wire.calls = .leave :: .getResult blocked (.null (some ⟨"SET", commits, after⟩)) :: mid ++
      .send setEncodingSql c.xact :: s.wire.calls

theorem setupUtf8_post (rounds deadline : ℕ) (ctl : PollControl) (s : Startup) :
    (setupUtf8 rounds deadline ctl).Post s fun r s' =>
      Steady s s' ∧ s'.calls = s.calls ∧ ∀ u, r = .ok u → Encoded s s' := by
  have failing : ∀ {e : AdapterError} {s' : Startup} (u : Unit),
      (.error e : Except AdapterError Unit) = .ok u → Encoded s s' := by
    intro e s' u hr
    cases hr
  rw [setupUtf8, post_bind, onWire, post_zoom]
  refine ((execute_post rounds).and (execute_busy rounds deadline ctl setEncodingSql s.wire)).mono ?_
  intro r w h
  obtain ⟨hexchange, hbusy⟩ := h
  have hsteady : Steady s (s.withWire w) := ⟨rfl, rfl, hexchange.owned⟩
  cases r with
  | error e => exact ⟨hsteady, rfl, failing⟩
  | ok rs =>
    simp only [andThen_ok, post_bind, post_require, clientEncoding, post_read, decide_eq_true_eq]
    refine ⟨fun htag => ⟨fun hencoding => ⟨hsteady, rfl, fun u _ => ?_⟩, fun _ => ⟨hsteady, rfl, failing⟩⟩,
      fun _ => ⟨hsteady, rfl, failing⟩⟩
    obtain ⟨c, blocked, commits, after, mid, hc, hmid, hcalls⟩ := hexchange.fetched
    rw [htag] at hcalls
    refine ⟨?_, hbusy rs rfl, c, blocked, commits, after, mid, hc, hmid, hcalls⟩
    split at hencoding
    · exact hencoding
    · cases hencoding

/-- A connection that is OK and idle has no statement in flight. -/
theorem Wire.resting_of_status {w : Wire} (hok : w.connectionStatus = .ok)
    (hidle : w.transactionStatus = .idle) :
    ∃ trailing, w.conn = some { ok := true, xact := .idle, activity := .resting trailing } := by
  unfold Wire.connectionStatus at hok
  unfold Wire.transactionStatus PgConn.transactionStatus at hidle
  cases hconn : w.conn with
  | none =>
    rw [hconn] at hok
    cases hok
  | some c =>
    obtain ⟨ok, xact, activity⟩ := c
    rw [hconn] at hok hidle
    cases ok with
    | false => cases hok
    | true =>
      cases activity with
      | running statement => cases hidle
      | resting trailing =>
        cases xact with
        | idle => exact ⟨trailing, rfl⟩
        | opened begunBy failed => cases failed <;> cases hidle

/-- The checks at the end are passed by a connection to the database of the string alone. -/
theorem checkEndpoint_post (dsn : Dsn) (s : Startup) : (checkEndpoint dsn).Post s fun r s' => s' = s ∧
    ∀ u, r = .ok u → s.wire.connectionStatus = .ok ∧ s.wire.transactionStatus = .idle ∧
      s.endpoint.database = some dsn.database ∧ serverVersionMinimum ≤ s.endpoint.version := by
  have failing : ∀ {e : AdapterError} (u : Unit), (.error e : Except AdapterError Unit) = .ok u →
      s.wire.connectionStatus = .ok ∧ s.wire.transactionStatus = .idle ∧
        s.endpoint.database = some dsn.database ∧ serverVersionMinimum ≤ s.endpoint.version := by
    intro e u hr
    cases hr
  simp only [checkEndpoint, databaseName, serverVersion, post_bind, post_read, andThen_ok, post_require,
    decide_eq_true_eq, decide_eq_false_iff_not]
  refine ⟨fun hok => ⟨fun hidle => ?_, fun _ => ⟨rfl, failing⟩⟩, fun _ => ⟨rfl, failing⟩⟩
  obtain ⟨trailing, hconn⟩ := Wire.resting_of_status hok hidle
  simp only [hconn, Option.isSome_some, if_true]
  cases hdatabase : s.endpoint.database with
  | none => exact ⟨rfl, fun u hr => by cases hr⟩
  | some actual =>
    simp only [post_bind, post_require, andThen_ok, post_read, decide_eq_true_eq, decide_eq_false_iff_not,
      hconn, Option.isSome_some, if_true]
    refine ⟨fun hsame => ⟨fun hversion => ⟨trivial, fun u _ => ?_⟩, fun _ =>
      ⟨trivial, fun u hr => by cases hr⟩⟩,
      fun _ => ⟨rfl, fun u hr => by cases hr⟩⟩
    exact ⟨hok, hidle, congrArg some hsame, hversion⟩

/-- A connection that is at rest outside a transaction, set up for UTF-8, and that of the database. -/
structure Connected (dsn : Dsn) (s s' : Startup) : Prop where
  conn : ∃ trailing, s'.wire.conn = some { ok := true, xact := .idle, activity := .resting trailing }
  busy : s'.wire.busy = false
  database : s.endpoint.database = some dsn.database
  version : serverVersionMinimum ≤ s.endpoint.version
  encoding : s.endpoint.encoding = some "UTF8"
  /-- One statement was sent, and its results were fetched to the end. -/
  sent : ∃ xact blocked commits after mid, (∀ call ∈ mid, call.smooth = true) ∧
    s'.wire.calls = .leave :: .getResult blocked (.null (some ⟨"SET", commits, after⟩)) :: mid ++
      .send setEncodingSql xact :: s.wire.calls
  /-- Notices are discarded before the first poll. -/
  calls : ∃ polls, (∀ call ∈ polls, call = .poll) ∧
    s'.calls = .setNonblocking :: polls ++ .setNoticeProcessor :: .start true :: s.calls

theorem setNonblocking_post (s : Startup) :
    setNonblocking.Post s fun _ s' => s' = s.logged .setNonblocking := by
  simp only [setNonblocking, pqSetNonblocking, post_bind, post_act, andThen_ok, post_require, implies_true,
    and_self]

/-- What becomes of a connection that has been started. -/
theorem establish_post (rounds : ℕ) (dsn : Dsn) (deadline : ℕ) (ctl : PollControl) (polls : ConnectPolls)
    {s₀ s : Startup}
    (hstarted : s = (s₀.withWire { s₀.wire with conn := some .connecting }).logged (.start true)) :
    (establish rounds dsn deadline ctl polls).Post s fun r s' =>
      Steady s s' ∧ ∀ u, r = .ok u → Connected dsn s₀ s' := by
  have failing : ∀ {e : AdapterError} {s' : Startup} (u : Unit),
      (.error e : Except AdapterError Unit) = .ok u → Connected dsn s₀ s' := by
    intro e s' u hr
    cases hr
  have hsome : (s.logged .setNoticeProcessor).wire.conn.isSome = true := by
    subst hstarted
    rfl
  have hnotice : Steady s (s.logged .setNoticeProcessor) :=
    ⟨rfl, List.count_cons_of_ne (by decide), rfl⟩
  rw [establish, pqSetNoticeProcessor, post_bind, post_update, andThen_ok]
  -- the connection is polled for
  refine (pollConnection_post ctl deadline polls rounds 0 _).bind ?_ fun e s₁ h =>
    ⟨hnotice.trans (h.1.steady hsome), failing⟩
  intro u s₁ h₁
  refine (onWire_checkControl_post ctl deadline s₁).bind ?_ ?_
  swap
  · intro e s₂ h₂
    obtain ⟨w, ht, rfl⟩ := h₂
    exact ⟨hnotice.trans ((h₁.1.trans (.of_ticked ht)).steady hsome), failing⟩
  intro u s₂ h₂
  obtain ⟨w₂, ht₂, rfl⟩ := h₂
  have hpolled := h₁.1.trans (.of_ticked ht₂)
  have hsteady := hnotice.trans (hpolled.steady hsome)
  have hnonblocking : ∀ s : Startup, Steady s (s.logged .setNonblocking) := fun s =>
    ⟨rfl, List.count_cons_of_ne (by decide), rfl⟩
  -- it is set up
  refine (setNonblocking_post _).bind ?_ fun e s₃ h₃ => ⟨hsteady.trans (h₃ ▸ hnonblocking _), failing⟩
  intro u s₃ h₃
  subst h₃
  refine (setupUtf8_post rounds deadline ctl _).bind ?_ fun e s₃ h₃ =>
    ⟨(hsteady.trans (hnonblocking _)).trans h₃.1, failing⟩
  intro u s₃ h₃
  obtain ⟨hset, hcalls, hencoded⟩ := h₃
  have hencoded := hencoded u rfl
  have hsteady₃ := (hsteady.trans (hnonblocking _)).trans hset
  refine (onWire_checkControl_post ctl deadline s₃).bind ?_ ?_
  swap
  · intro e s₄ h₄
    obtain ⟨w, ht, rfl⟩ := h₄
    exact ⟨hsteady₃.trans (.of_ticked ht), failing⟩
  intro u s₄ h₄
  obtain ⟨w₄, ht₄, rfl⟩ := h₄
  have hsteady₄ := hsteady₃.trans (.of_ticked ht₄)
  refine (checkEndpoint_post dsn _).mono fun r s' h' => ?_
  obtain ⟨rfl, hchecked⟩ := h'
  refine ⟨hsteady₄, fun u hr => ?_⟩
  obtain ⟨hok, hidle, hdatabase, hversion⟩ := hchecked u hr
  have hendpoint : (s₃.withWire w₄).endpoint = s₀.endpoint := hsteady₄.endpoint.trans (by rw [hstarted]; rfl)
  rw [hendpoint] at hdatabase hversion
  obtain ⟨c, blocked, commits, after, mid, -, hmid, hsent⟩ := hencoded.sent
  obtain ⟨polled, hpollcalls, hpolls⟩ := hpolled.calls
  constructor
  · exact Wire.resting_of_status hok hidle
  · exact ht₄.busy.trans hencoded.busy
  · exact hdatabase
  · exact hversion
  · have hencoding : (s₁.withWire w₂).endpoint.encoding = some "UTF8" := hencoded.encoding
    rw [hsteady.endpoint, hstarted] at hencoding
    exact hencoding
  · refine ⟨c.xact, blocked, commits, after, mid, hmid, ?_⟩
    have hbefore : (s₁.withWire w₂).wire.calls = s₀.wire.calls := hpolled.sent.trans (by rw [hstarted]; rfl)
    rw [← hbefore]
    exact ht₄.calls.trans hsent
  · refine ⟨polled, hpolls, ?_⟩
    have hafter : (s₃.withWire w₄).calls = .setNonblocking :: (s₁.withWire w₂).calls := hcalls
    rw [hafter, hpollcalls, hstarted]
    rfl

/-- How an attempt ends: with a connection that was checked; or with none, the connection that was
started being finished, once. -/
theorem Connection.connect_post (rounds : ℕ) (dsn : Dsn) (deadline : ℕ) (ctl : PollControl) {s : Startup}
    (hnone : s.wire.conn = none) : (Connection.connect rounds dsn deadline ctl).Post s fun r s' =>
      s'.wire.owned + s.calls.count (.start true) = s.wire.owned + s'.calls.count (.start true) ∧
        s'.calls.count (.start true) ≤ s.calls.count (.start true) + 1 ∧
        (∀ u, r = .ok u → Connected dsn s s') ∧ ∀ e, r = .error e → s'.wire.conn = none := by
  -- nothing is connected by an attempt that fails
  have failing : ∀ {e : AdapterError} {s' : Startup} (u : Unit),
      (.error e : Except AdapterError Unit) = .ok u → Connected dsn s s' := by
    intro e s' u hr
    cases hr
  rw [Connection.connect]
  refine (onWire_checkControl_post ctl deadline s).bind ?_ ?_
  swap
  · intro e s₁ h
    obtain ⟨w, ht, rfl⟩ := h
    refine ⟨?_, Nat.le_succ _, failing, fun _ _ => ht.conn.trans hnone⟩
    show w.owned + _ = s.wire.owned + _
    rw [ht.owned]
    rfl
  intro u s₁ h
  obtain ⟨w, ht, rfl⟩ := h
  have howned : w.owned = s.wire.owned := ht.owned
  have hnone₁ : w.conn = none := ht.conn.trans hnone
  rw [pqConnectStart, post_bind, post_act]
  cases hstart : (s.withWire w).start with
  | none =>
    have hcount : List.count (.start true) (.start false :: s.calls) = s.calls.count (.start true) :=
      List.count_cons_of_ne (by decide)
    refine ⟨?_, ?_, failing, fun _ _ => hnone₁⟩
    · show w.owned + _ = s.wire.owned + List.count (.start true) (.start false :: s.calls)
      rw [howned, hcount]
    · show List.count (.start true) (.start false :: s.calls) ≤ _
      rw [hcount]
      exact Nat.le_succ _
  | some polls =>
    simp only [andThen_ok]
    refine (@establish_post rounds dsn deadline ctl polls (s.withWire w) _ rfl).attempt_bind ?_
    intro r s' h'
    obtain ⟨hsteady, hconnected⟩ := h'
    -- one connection is started, and it is the one that is owned
    have hstarted : s'.calls.count (.start true) = s.calls.count (.start true) + 1 :=
      hsteady.started.trans List.count_cons_self
    have hmade : s'.wire.owned = s.wire.owned + 1 := by
      refine hsteady.owned.trans ?_
      rw [← howned, Wire.owned, Wire.owned, hnone₁]
      rfl
    cases r with
    | ok u =>
      refine ⟨by omega, hstarted.le, fun _ _ => ?_, fun e hr => by cases hr⟩
      have hsame := hconnected u rfl
      exact ⟨hsame.conn, hsame.busy, hsame.database, hsame.version, hsame.encoding,
        ht.calls ▸ hsame.sent, hsame.calls⟩
    | error e =>
      simp only [post_bind, post_update, andThen_ok, post_fail]
      refine ⟨?_, hstarted.le, failing, fun _ _ => rfl⟩
      show s'.wire.disposed.owned + _ = s.wire.owned + s'.calls.count (.start true)
      rw [Wire.owned_disposed]
      omega

/-! ### The loop ends -/

/-- A poll of the control state reads something. -/
theorem PollControl.lt_polled (ctl : PollControl) (deadline tick : ℕ) :
    tick < (ctl.polled deadline tick).2 := by
  unfold PollControl.polled
  split
  · exact Nat.lt_succ_self _
  · cases ctl with
    | libpq ctx =>
      simp only
      split_ifs <;> simp
    | noClientCancel ctx =>
      simp only
      split_ifs <;> simp

/-- A poll that finds nothing is one before the deadline. -/
theorem PollControl.early_of_polled {ctl : PollControl} {deadline tick : ℕ}
    (h : (ctl.polled deadline tick).1 = none) : ctl.clock.now tick < deadline := by
  unfold PollControl.polled at h
  split at h
  · cases h
  · by_contra hlate
    rw [not_lt] at hlate
    cases ctl with
    | libpq ctx =>
      have hlast : deadline ≤ ctx.clock.now (tick + 3) := ctx.clock.le_now (by omega) hlate
      simp only [hlast, if_true] at h
      split_ifs at h
    | noClientCancel ctx =>
      have hlast : deadline ≤ ctx.clock.now (tick + 1) := ctx.clock.le_now (by omega) hlate
      simp only [hlast, if_true] at h
      cases h

/-- A turn that goes on has begun before the deadline, and has read something. -/
theorem checkedPoll_early (ctl : PollControl) (deadline : ℕ) (made : Bool) (s : Startup) :
    (checkedPoll ctl deadline made).Post s fun r s' => ∀ u, r = .ok u →
      ctl.clock.now s.wire.tick < deadline ∧ s.wire.tick < s'.wire.tick := by
  have checked : ∀ s : Startup, (onWire (checkControl ctl deadline)).Post s fun r s' =>
    s.wire.tick < s'.wire.tick ∧
      ∀ u, r = .ok u → ctl.clock.now s.wire.tick < deadline := by
    intro s
    rw [onWire, post_zoom]
    refine (checkControl_polled ctl deadline s.wire).mono fun r w h => ?_
    obtain ⟨rfl, hfound⟩ := h
    exact ⟨ctl.lt_polled deadline _, fun u hr => PollControl.early_of_polled (hfound.mp ⟨u, hr⟩)⟩
  rw [checkedPoll]
  refine (checked s).bind ?_ fun e s₁ _ u hr => by cases hr
  intro u s₁ h
  rw [pqConnectPoll, post_bind, post_update, andThen_ok]
  refine (checked _).mono fun r s' h' u hr => ⟨h.2 _ rfl, h.1.trans ?_⟩
  cases made <;> exact h'.1

theorem onWire_checkControl_terminates (ctl : PollControl) (deadline : ℕ) (s : Startup) :
    (onWire (checkControl ctl deadline)).Terminates s :=
  terminates_zoom (checkControl_terminates ctl deadline s.wire)

theorem checkedPoll_terminates (ctl : PollControl) (deadline : ℕ) (made : Bool) (s : Startup) :
    (checkedPoll ctl deadline made).Terminates s := by
  rw [checkedPoll]
  refine terminates_bind (onWire_checkControl_terminates ctl deadline s) fun u s₁ _ => ?_
  rw [pqConnectPoll, terminates_update_bind]
  exact onWire_checkControl_terminates ctl deadline _

/-- On a silent socket it is the deadline that ends the wait. -/
theorem pollSilent_terminates {clock : Clock} {deadline rounds : ℕ} {w : Wire}
    (hdeadline : deadline ≤ clock.now (w.tick + rounds)) :
    (pollSilent clock deadline (rounds + 1)).Terminates w := by
  have slice : ∀ {rest : Adapter Unit} {w : Wire},
      (clock.now w.tick < deadline → rest.Terminates { w with tick := w.tick + 1 }) →
      (do checkRemaining clock deadline; rest : Adapter Unit).Terminates w := by
    intro rest w hrest
    refine Terminates.bind (P := fun r w' => ∀ u, r = .ok u → clock.now w.tick < deadline ∧
      w' = { w with tick := w.tick + 1 }) ?_ ?_ fun u w' h => ?_
    · refine terminates_bind (terminates_act _) fun now w' _ => ?_
      split
      · exact terminates_fail _
      · exact terminates_pure _
    · simp only [checkRemaining, Clock.read, post_bind, post_act, andThen_ok]
      split
      · intro u hr
        cases hr
      · rename_i hearly
        exact fun _ _ => ⟨not_le.mp hearly, rfl⟩
    · obtain ⟨hearly, rfl⟩ := h u rfl
      exact hrest hearly
  induction rounds generalizing w with
  | zero => exact slice fun hearly => absurd hdeadline (not_le.mpr hearly)
  | succ rounds ih =>
    refine slice fun _ => slice fun _ => ih ?_
    exact clock.le_now (by simp only; omega) hdeadline

theorem waitConnection_terminates {clock : Clock} {deadline rounds : ℕ} (socket : Option Wait) {s : Startup}
    (hdeadline : deadline ≤ clock.now (s.wire.tick + rounds)) :
    (waitConnection clock deadline (rounds + 1) socket).Terminates s := by
  rcases socket with _ | reports | _
  · exact terminates_fail _
  · rw [waitConnection]
    exact terminates_bind (terminates_zoom (pollFd_terminates clock deadline reports s.wire)) fun _ _ _ =>
      terminates_pure ()
  · exact terminates_zoom (pollSilent_terminates hdeadline)

/-- The loop ends by the turn in which the clock has come to the deadline, whatever `PQconnectPoll`
reports, and whether or not anything happens on its sockets. -/
theorem pollConnection_terminates {ctl : PollControl} {deadline rounds : ℕ} (polls : ConnectPolls) {n : ℕ}
    {s : Startup} (hdeadline : deadline ≤ ctl.clock.now (s.wire.tick + rounds)) :
    (pollConnection ctl deadline polls (rounds + 1) n).Terminates s := by
  -- a round that goes on has read the clock before the deadline, and is one read further
  have turn : ∀ {rest : Opener Unit} {s : Startup},
      (∀ s₁, ctl.clock.now s.wire.tick < deadline → s.wire.tick < s₁.wire.tick → rest.Terminates s₁) →
      (checkedPoll ctl deadline false >>= fun _ => rest).Terminates s := by
    intro rest s hrest
    refine (checkedPoll_terminates ctl deadline false s).bind (checkedPoll_early ctl deadline false s) ?_
    intro u s₁ h
    obtain ⟨hearly, htick⟩ := h u rfl
    exact hrest s₁ hearly htick
  induction rounds generalizing n s with
  | zero =>
    unfold pollConnection
    cases polls n with
    | ok => exact checkedPoll_terminates ctl deadline true s
    | failed => exact turn fun _ _ _ => terminates_fail _
    | active => exact turn fun _ hearly _ => absurd hdeadline (not_le.mpr hearly)
    | reading socket | writing socket => exact turn fun _ hearly _ => absurd hdeadline (not_le.mpr hearly)
  | succ rounds ih =>
    have later : ∀ {s₁ : Startup}, s.wire.tick < s₁.wire.tick →
        deadline ≤ ctl.clock.now (s₁.wire.tick + rounds) := fun htick =>
      ctl.clock.le_now (by omega) hdeadline
    unfold pollConnection
    cases polls n with
    | ok => exact checkedPoll_terminates ctl deadline true s
    | failed => exact turn fun _ _ _ => terminates_fail _
    | active => exact turn fun s₁ _ htick => ih (later htick)
    | reading socket | writing socket =>
      refine turn fun s₁ _ htick => ?_
      refine (waitConnection_terminates socket (later htick)).bind
        (waitConnection_ticked ctl.clock deadline (rounds + 1) socket s₁) ?_
      intro u s₂ h
      obtain ⟨w, ht, rfl⟩ := h
      exact ih (later (htick.trans_le ht.tick_le))

end PgMcp
