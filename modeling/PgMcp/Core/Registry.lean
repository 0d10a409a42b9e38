import PgMcp.Config.Profiles
import PgMcp.Worker

/-!
# The registry

The registry holds the entries of the open handles and the reservations of the opens that
are under way, with the lifecycle of the server.  Handles stay in the registry after they
are closed.

## Main definitions

* `Core` — what a server is started with.
* `WorkerEntry`, `PendingOpen`, `Registry` — the state behind the registry lock.
* `Registry.allocateHandle` — the next handle id.
* `Core.reserveOpen`, `Registry.finishOpen`, `Registry.publishOpen` — the critical sections
  of an open.

## Main results

* `handleName_injective` — different counters below `2 ^ 64` give different handle ids.
* `Core.reserveOpen_ok` — what a granted reservation says.
-/

namespace PgMcp

/-- The largest `u64`. -/
@[irreducible] def u64Max : ℕ := 2 ^ 64 - 1

theorem u64Max_eq : u64Max = 2 ^ 64 - 1 := by
  unfold u64Max
  rfl

/-! ### The shutdown report -/

inductive ShutdownOutcome where
  | verified | uncertain
  deriving DecidableEq, Repr

structure WorkerShutdownEntry where
  handle : String
  outcome : ShutdownOutcome
  stage : Option String
  deriving DecidableEq, Repr

namespace WorkerShutdownEntry

def verified (handle : String) : WorkerShutdownEntry where
  handle := handle
  outcome := .verified
  stage := none

def uncertain (handle stage : String) : WorkerShutdownEntry where
  handle := handle
  outcome := .uncertain
  stage := some stage

end WorkerShutdownEntry

/-- The entry a worker answers its shutdown with. -/
def ShutdownWorkerResult.entry (handle : String) : ShutdownWorkerResult → WorkerShutdownEntry
  | .verified => .verified handle
  | .uncertain stage => .uncertain handle stage

structure ShutdownReport where
  workers : List WorkerShutdownEntry
  deriving DecidableEq, Repr

def ShutdownReport.verified (report : ShutdownReport) : Bool :=
  report.workers.all fun entry => entry.outcome == .verified

/-! ### The registry -/

inductive RegistryLifecycle where
  | running | stopping | stopped
  deriving DecidableEq, Repr

/-- The entry of a handle.  A worker thread, its queue and its join handle go by the number
of the open that started it. -/
structure WorkerEntry where
  published : PublishedHandle
  profile : String
  config : Config
  /-- The thread whose queue requests are sent to. -/
  sender : ℕ
  /-- The thread to join, until it is joined. -/
  join : Option ℕ
  /-- The requests admitted and not yet released. -/
  admitted : ℕ
  deriving DecidableEq, Repr

/-- A reservation. -/
structure PendingOpen where
  profile : String
  /-- The open whose shutdown token this is. -/
  shutdown : ℕ
  deriving DecidableEq, Repr

/-- The state behind the registry lock. -/
structure Registry where
  lifecycle : RegistryLifecycle
  handles : Table String WorkerEntry
  pendingOpens : Table String PendingOpen
  nextHandle : ℕ
  frozenReport : Option ShutdownReport
  deriving DecidableEq

namespace Registry

def new : Registry where
  lifecycle := .running
  handles := ∅
  pendingOpens := ∅
  nextHandle := 1
  frozenReport := none

/-- Change the entry of a handle. -/
def modify (r : Registry) (handle : String) (f : WorkerEntry → WorkerEntry) : Registry :=
  { r with handles := r.handles.modify handle f }

/-- Change the published snapshot of a handle. -/
def publish (r : Registry) (handle : String) (f : PublishedHandle → PublishedHandle) : Registry :=
  r.modify handle fun entry => { entry with published := f entry.published }

/-- The published state of a handle. -/
def currentState (r : Registry) (handle : String) : Option HandleState :=
  (r.handles.lookup handle).map fun entry => entry.published.state

/-- The states of the handles, in the order of their ids. -/
def listHandles (r : Registry) : List HandleState :=
  r.handles.values.map fun entry => entry.published.state

end Registry

/-! ### Handle ids -/

/-- The last `width` hexadecimal digits of `n`, the highest first. -/
def hexDigits : ℕ → ℕ → List Char
  | 0, _ => []
  | width + 1, n => hexDigits width (n / 16) ++ [Nat.digitChar (n % 16)]

/-- The handle id of a counter. -/
def handleName (n : ℕ) : String := "h-" ++ String.ofList (hexDigits 16 n)

/-- A fresh handle id; the counter saturates. -/
def Registry.allocateHandle (r : Registry) : String × Registry :=
  (handleName r.nextHandle, { r with nextHandle := min (r.nextHandle + 1) u64Max })

theorem digitChar_injective : ∀ m < 16, ∀ n < 16, Nat.digitChar m = Nat.digitChar n → m = n := by
  decide

theorem hexDigits_injective (width : ℕ) {m n : ℕ} (hm : m < 16 ^ width) (hn : n < 16 ^ width)
    (h : hexDigits width m = hexDigits width n) : m = n := by
  induction width generalizing m n with
  | zero =>
    rw [pow_zero] at hm hn
    omega
  | succ width ih =>
    rw [hexDigits, hexDigits] at h
    obtain ⟨hhigh, hlow⟩ := List.append_inj' h rfl
    have hdiv : m / 16 = n / 16 := by
      refine ih ?_ ?_ hhigh <;> rw [pow_succ] at hm hn <;> omega
    have hmod : m % 16 = n % 16 := by
      refine digitChar_injective _ (Nat.mod_lt m (by omega)) _ (Nat.mod_lt n (by omega)) ?_
      simpa using hlow
    omega

/-- Different counters have different handle ids. -/
theorem handleName_injective {m n : ℕ} (hm : m ≤ u64Max) (hn : n ≤ u64Max)
    (h : handleName m = handleName n) : m = n := by
  have hpow : u64Max < 16 ^ 16 := by
    rw [u64Max_eq]
    decide
  refine hexDigits_injective 16 (by omega) (by omega) ?_
  unfold handleName at h
  exact String.ofList_injective ((String.append_right_inj _).mp h)

/-! ### What a server is started with -/

/-- The immutable part of a server: its limits, its profiles, and the DSN of a server
without profiles. -/
structure Core where
  config : Config
  profiles : Option ConfigFile
  dsn : String
  inRange : config.InRange

/-- Milliseconds of the model's clock. -/
def seconds (n : ℕ) : ℕ := 1000 * n

def Config.requestTimeout (c : Config) : ℕ := seconds c.requestTimeoutSeconds

def Config.connectionTimeout (c : Config) : ℕ := seconds c.connectionTimeoutSeconds

def Config.cancelDrainGrace (c : Config) : ℕ := seconds c.cancelDrainGraceSeconds

def Config.shutdownTotal (c : Config) : ℕ := seconds c.shutdownTotalSeconds

def ConfigFile.shutdownTotal (file : ConfigFile) : ℕ := seconds file.shutdownTotalSeconds

namespace Core

/-- A server for one DSN; `libpq` says whether the client library is usable. -/
def new (libpq : Bool) (config : Config) (dsn : String) : Except CoreError Core :=
  match h : config.validate with
  | .error _ => .error (coreError .configError)
  | .ok () =>
    if libpq then
      .ok { config := config, profiles := none, dsn := dsn, inRange := Config.validate_ok.mp h }
    else .error (coreError .configError)

/-- A server for the profiles of a document. -/
def newWithProfiles (libpq : Bool) (file : ConfigFile) : Except CoreError Core :=
  match h : file.validate with
  | .error _ => .error (coreError .configError)
  | .ok () =>
    if libpq then
      .ok
        { config := file.baseConfig
          profiles := some file
          dsn := ""
          inRange := Config.validate_ok.mp (file.validate_eq ▸ h) }
    else .error (coreError .configError)

/-- The limits an open of a profile is admitted with. -/
def admissionConfig (core : Core) (profile : String) : Except CoreError Config :=
  match core.profiles with
  | some file =>
    match file.profileConfig profile with
    | .ok config => .ok config
    | .error .unknownProfile => .error (coreError .databaseUnknown)
    | .error _ => .error (coreError .configError)
  | none => .ok core.config

/-- The limits an open is admitted with are within range. -/
theorem admissionConfig_inRange {core : Core} {profile : String} {config : Config}
    (h : core.admissionConfig profile = .ok config) : config.InRange := by
  unfold admissionConfig at h
  cases hprofiles : core.profiles with
  | none =>
    rw [hprofiles] at h
    cases h
    exact core.inRange
  | some file =>
    rw [hprofiles] at h
    simp only at h
    cases hconfig : file.profileConfig profile with
    | error e =>
      rw [hconfig] at h
      cases e <;> cases h
    | ok c =>
      rw [hconfig] at h
      cases h
      exact file.profileConfig_inRange hconfig

/-- The time a shutdown may take. -/
def shutdownTotal (core : Core) : ℕ :=
  match core.profiles with
  | some file => file.shutdownTotal
  | none => core.config.shutdownTotal

end Core

/-! ### The critical sections of an open -/

/-- The entries of a profile, closed or not. -/
def Registry.profileHandles (r : Registry) (profile : String) : ℕ :=
  r.handles.count fun entry => entry.profile == profile

/-- The reservations of a profile. -/
def Registry.profilePending (r : Registry) (profile : String) : ℕ :=
  r.pendingOpens.count fun entry => entry.profile == profile

/-- What an open has to keep: its id, its deadline, and the grace for draining. -/
structure Reservation where
  id : String
  deadline : ℕ
  cancelDrainGrace : ℕ
  deriving DecidableEq, Repr

/-- Reserve a slot for open number `call`, at time `now`. -/
def Core.reserveOpen (core : Core) (r : Registry) (profile : String) (call now : ℕ) :
    Except CoreError (Reservation × Registry) :=
  if r.lifecycle ≠ .running then .error (coreError .serverStopping)
  else if profile = "" then .error (coreError .databaseUnknown)
  else
    match core.admissionConfig profile with
    | .error error => .error error
    | .ok config =>
      if config.maxHandles ≤ min (r.profileHandles profile + r.profilePending profile) usizeMax then
        .error (coreError .handleLimit)
      else
        let (id, r) := r.allocateHandle
        .ok
          ({ id := id
             deadline := now + config.connectionTimeout
             cancelDrainGrace := config.cancelDrainGrace },
           { r with pendingOpens := r.pendingOpens.insert id { profile := profile, shutdown := call } })

/-- Release a reservation. -/
def Registry.finishOpen (r : Registry) (id : String) : Registry :=
  { r with pendingOpens := r.pendingOpens.erase id }

/-- Publish an open whose worker runs; nothing is registered once the server is stopping. -/
def Registry.publishOpen (r : Registry) (id : String) (entry : WorkerEntry) : Option Registry :=
  if r.lifecycle ≠ .running then none
  else
    some { r with
      pendingOpens := r.pendingOpens.erase id
      handles := r.handles.insert id entry }

/-- What a granted reservation says. -/
theorem Core.reserveOpen_ok {core : Core} {r r' : Registry} {profile : String} {call now : ℕ}
    {reservation : Reservation}
    (h : core.reserveOpen r profile call now = .ok (reservation, r')) :
    ∃ config, r.lifecycle = .running ∧ core.admissionConfig profile = .ok config ∧
      min (r.profileHandles profile + r.profilePending profile) usizeMax < config.maxHandles ∧
      reservation = { id := handleName r.nextHandle
                      deadline := now + config.connectionTimeout
                      cancelDrainGrace := config.cancelDrainGrace } ∧
      r' = { r with
        nextHandle := min (r.nextHandle + 1) u64Max
        pendingOpens := r.pendingOpens.insert (handleName r.nextHandle)
          { profile := profile, shutdown := call } } := by
  unfold reserveOpen at h
  split_ifs at h with hrunning hempty
  cases hconfig : core.admissionConfig profile with
  | error error =>
    rw [hconfig] at h
    cases h
  | ok config =>
    rw [hconfig] at h
    simp only at h
    split_ifs at h with hlimit
    simp only [Registry.allocateHandle, Except.ok.injEq, Prod.mk.injEq] at h
    obtain ⟨rfl, rfl⟩ := h
    exact ⟨config, not_not.mp hrunning, rfl, Nat.lt_of_not_le hlimit, rfl, rfl⟩

end PgMcp
