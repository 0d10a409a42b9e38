import PgMcp.Core.Reservations
import PgMcp.Worker.Inspection

/-!
# What a server can always do

On a running server whose lock is free, an open that is admitted can fail at its connection
or succeed, and a live handle at rest can be closed.

## Main definitions

* `Server.withOpen` — a server with one more open.
* `Server.afterOpen` — a server with one more handle.

## Main results

* `Server.run_failedOpen`, `Server.run_open` — the two courses of an open.
* `Server.run_failedOpens` — ids are used up by opens that fail.
* `Server.run_close` — a live handle is closed.
* `Server.run_exhausted`, `Server.Frames.admits` — the last id is given over and over.
-/

namespace PgMcp

open Program

namespace Server

variable {core : Core} {s t : Server}

/-- One step as a run. -/
theorem Step.run {a : Action} (h : Step core s a t) :
    Run (Acts core) s [{ action := a, before := s, after := t }] t :=
  .single ⟨rfl, rfl, h⟩

/-- A step in front of a run. -/
theorem Step.cons {a : Action} {u : Server} {ls : List Label} (h : Step core s a t)
    (run : Run (Acts core) t ls u) :
    Run (Acts core) s ({ action := a, before := s, after := t } :: ls) u :=
  .cons ⟨rfl, rfl, h⟩ run

/-! ### Opens -/

/-- The server with open `k` and the registry `r`. -/
def withOpen (s : Server) (r : Registry) (k : ℕ) (c : OpenCall) : Server :=
  { s with registry := r, opens := s.opens.insert k c }

theorem setOpen_withOpen (r : Registry) (k : ℕ) (c : OpenCall) (stage : OpenStage) :
    (s.withOpen r k c).setOpen k stage = s.withOpen r k { c with stage := stage } := by
  simp only [setOpen, withOpen, Table.modify_insert]

theorem lookup_withOpen (r : Registry) (k : ℕ) (c : OpenCall) :
    (s.withOpen r k c).opens.lookup k = some c :=
  AList.lookup_insert _

theorem Moves.withOpen {r : Registry} {k : ℕ} {c : OpenCall} {stage : OpenStage}
    (h : c.Moves core s.now stage) :
    Step core (s.withOpen r k c) (.open k stage) (s.withOpen r k { c with stage := stage }) := by
  have hstep := Step.open k c stage (lookup_withOpen r k c) h
  rwa [setOpen_withOpen] at hstep

/-- An open can be admitted now. -/
structure Admits (core : Core) (s : Server) (k : ℕ) (profile : String) (config : Config) : Prop where
  free : s.stuck = false
  running : s.registry.lifecycle = .running
  fresh : k ∉ s.opens
  named : profile ≠ ""
  limits : core.admissionConfig profile = .ok config
  room : s.registry.profileHandles profile + s.registry.profilePending profile < config.maxHandles
  unreserved : handleName s.registry.nextHandle ∉ s.registry.pendingOpens

/-- The open when its slot is reserved. -/
def reservedCall (s : Server) (profile : String) (config : Config) : OpenCall where
  reservation :=
    { id := handleName s.registry.nextHandle
      deadline := s.now + config.connectionTimeout
      cancelDrainGrace := config.cancelDrainGrace }
  profile := profile
  cancelled := false
  stopping := false
  stage := .resolving

/-- The registry when the slot of open `k` is reserved. -/
def reservedRegistry (s : Server) (k : ℕ) (profile : String) : Registry :=
  { s.registry with
    nextHandle := min (s.registry.nextHandle + 1) u64Max
    pendingOpens := s.registry.pendingOpens.insert (handleName s.registry.nextHandle)
      { profile := profile, shutdown := k } }

variable {k : ℕ} {profile : String} {config : Config}

theorem Admits.reserve (h : s.Admits core k profile config) :
    Step core s (.reserve k profile (.ok (s.reservedCall profile config).reservation))
      (s.withOpen (s.reservedRegistry k profile) k (s.reservedCall profile config)) := by
  refine .reserved k profile _ _ h.free h.fresh ?_
  have hroom := h.room
  -- below the cap the saturating sum is the plain one
  have hlimit : ¬ config.maxHandles ≤
      min (s.registry.profileHandles profile + s.registry.profilePending profile) usizeMax := by
    omega
  unfold Core.reserveOpen
  rw [if_neg (not_not.mpr h.running), if_neg h.named, h.limits]
  simp only [if_neg hlimit]
  rfl

/-- The profile's DSN can be resolved. -/
theorem Core.resolve_ok (hconfig : core.admissionConfig profile = .ok config) :
    ∃ command dsn, core.resolve profile command = .ok (config, dsn) := by
  unfold Core.admissionConfig at hconfig
  unfold Core.resolve
  cases hprofiles : core.profiles with
  | none =>
    rw [hprofiles] at hconfig
    cases hconfig
    exact ⟨.ok "", core.dsn, rfl⟩
  | some file =>
    rw [hprofiles] at hconfig
    simp only at hconfig ⊢
    cases hfile : file.profileConfig profile with
    | ok c =>
      rw [hfile] at hconfig
      cases hconfig
      exact ⟨.ok "dbname=postgres", _, rfl⟩
    | error e =>
      rw [hfile] at hconfig
      cases e <;> cases hconfig

/-- An open whose connection is refused gives its slot back; its id is used up. -/
theorem run_failedOpen (h : s.Admits core k profile config) : ∃ ls c,
    Run (Acts core) s ls (s.withOpen
      { s.registry with nextHandle := min (s.registry.nextHandle + 1) u64Max } k c) ∧
      reservations ls = 1 := by
  obtain ⟨command, dsn, hresolve⟩ := Core.resolve_ok h.limits
  let failure : BackendFailure :=
    { error := coreError .connectionLost, observation := .none, sqlstate := none,
      outcomeUnknown := false }
  let refusal : OpenRefusal := .failed (.fromBackend none failure)
  have hreleased : (s.reservedRegistry k profile).finishOpen (handleName s.registry.nextHandle) =
      { s.registry with nextHandle := min (s.registry.nextHandle + 1) u64Max } := by
    simp only [Registry.finishOpen, reservedRegistry, Table.erase_insert h.unreserved]
  generalize hr : s.reservedRegistry k profile = r at hreleased
  have hreserve := h.reserve
  rw [hr] at hreserve
  generalize hc : s.reservedCall profile config = c at hreserve
  have hid : c.reservation.id = handleName s.registry.nextHandle := by rw [← hc]; rfl
  have hprofile : c.profile = profile := by rw [← hc]; rfl
  have hstage : c.stage = .resolving := by rw [← hc]; rfl
  have hfinish := @Step.finishOpen core
    (s.withOpen r k { c with stage := .finishing refusal none }) k _ refusal none h.free
    (lookup_withOpen _ _ _) rfl
  have hset : (s.withOpen r k { c with stage := .finishing refusal none }).setRegistry
      (r.finishOpen (handleName s.registry.nextHandle)) =
      s.withOpen (r.finishOpen (handleName s.registry.nextHandle)) k
        { c with stage := .finishing refusal none } := rfl
  change Step core _ _ ((setRegistry _ (r.finishOpen c.reservation.id)).setOpen k _) at hfinish
  rw [hid, hset, setOpen_withOpen, hreleased] at hfinish
  -- reserve, resolve, fail to connect, give the slot back, return
  refine ⟨_, _, hreserve.cons <|
    (Moves.withOpen (.resolved command config dsn hstage (hprofile ▸ hresolve))).cons <|
    (Moves.withOpen (.unconnected config dsn failure rfl)).cons <|
    hfinish.cons <| (Moves.withOpen (.returned refusal none rfl)).run, rfl⟩

/-- Any number of ids is used up by opens that fail. -/
theorem run_failedOpens {core : Core} {profile : String} {config : Config} (named : profile ≠ "")
    (limits : core.admissionConfig profile = .ok config) (room : 0 < config.maxHandles) (n : ℕ) :
    ∃ ls opens, Run (Acts core) new ls
      { new with
        registry := { Registry.new with nextHandle := min (n + 1) u64Max }
        opens := opens } ∧
      reservations ls = n ∧ ∀ k ∈ opens, k < n := by
  induction n with
  | zero =>
    refine ⟨[], ∅, ?_, rfl, nofun⟩
    have hone : min (0 + 1) u64Max = 1 := by
      rw [u64Max_eq]
      decide
    rw [hone]
    exact .nil new
  | succ n ih =>
    obtain ⟨ls, opens, run, hcount, hopens⟩ := ih
    have hadmits : Admits core
        { new with
          registry := { Registry.new with nextHandle := min (n + 1) u64Max }
          opens := opens } n profile config :=
      { free := rfl
        running := rfl
        fresh := fun hn => Nat.lt_irrefl n (hopens n hn)
        named := named
        limits := limits
        room := room
        unreserved := AList.notMem_empty _ }
    obtain ⟨ls', c, run', hcount'⟩ := run_failedOpen hadmits
    -- the counter saturates
    have hnext : min (min (n + 1) u64Max + 1) u64Max = min (n + 1 + 1) u64Max := by omega
    refine ⟨ls ++ ls', opens.insert n c, ?_, ?_, ?_⟩
    · have := run.append run'
      simp only [withOpen, hnext] at this
      exact this
    · unfold reservations at hcount hcount' ⊢
      rw [List.countP_append, hcount, hcount']
    · intro k hk
      rw [AList.mem_insert] at hk
      rcases hk with rfl | hk
      · exact Nat.lt_succ_self _
      · exact Nat.lt_succ_of_lt (hopens k hk)

/-- The snapshot of a handle that was just opened. -/
def freshSnapshot (s : Server) : PublishedHandle where
  id := handleName s.registry.nextHandle
  database := "postgres"
  observation := .idle
  schemaObserved := false
  schemaDirty := false
  closed := false

/-- The entry open `k` registers. -/
def freshEntry (s : Server) (k : ℕ) (profile : String) (config : Config) : WorkerEntry where
  published := s.freshSnapshot
  profile := profile
  config := config
  sender := k
  join := some k
  admitted := 0

/-- The thread open `k` starts. -/
def freshThread (s : Server) (config : Config) : Thread where
  handle := handleName s.registry.nextHandle
  config := config
  backend := Worker.opened.backend
  queue := []
  stage := .idle

/-- The server when open `k` has started its thread. -/
def startedServer (s : Server) (k : ℕ) (profile : String) (config : Config) : Server :=
  { (s.withOpen (s.reservedRegistry k profile) k
      { s.reservedCall profile config with stage := .publishing config s.freshSnapshot }) with
    threads := s.threads.insert k (s.freshThread config) }

/-- The registry when open `k` has registered its handle. -/
def openedRegistry (s : Server) (k : ℕ) (profile : String) (config : Config) : Registry :=
  { s.registry with
    nextHandle := min (s.registry.nextHandle + 1) u64Max
    handles := s.registry.handles.insert (handleName s.registry.nextHandle)
      (s.freshEntry k profile config) }

/-- The server when open `k` has registered its handle. -/
def afterOpen (s : Server) (k : ℕ) (profile : String) (config : Config) : Server :=
  { (s.withOpen (s.openedRegistry k profile config) k
      { s.reservedCall profile config with stage := .returned (openReply s.freshSnapshot) }) with
    threads := s.threads.insert k (s.freshThread config) }

/-- An open whose connection succeeds comes to the point where its thread runs. -/
theorem run_started (h : s.Admits core k profile config) : ∃ ls,
    Run (Acts core) s ls (s.startedServer k profile config) ∧ reservations ls = 1 ∧
      ∀ l ∈ ls, l.action.isOpen = true := by
  obtain ⟨command, dsn, hresolve⟩ := Core.resolve_ok h.limits
  -- the timeout is at least a second, so the deadline is still to come
  have hcalm : ∀ stage, OpenCall.raised { s.reservedCall profile config with stage := stage } s.now =
      false := by
    intro stage
    have htimeout := (core.admissionConfig_inRange h.limits .connectionTimeoutSeconds).1
    change 1 ≤ config.connectionTimeoutSeconds at htimeout
    show (false || false || decide (s.now + config.connectionTimeout ≤ s.now)) = false
    unfold Config.connectionTimeout seconds
    simp only [Bool.or_self, Bool.false_or, decide_eq_false_iff_not]
    omega
  have hspawn := @Step.spawn core
    (s.withOpen (s.reservedRegistry k profile) k
      { s.reservedCall profile config with
        stage := .spawning config "postgres" Worker.opened.backend }) k _ config "postgres"
    Worker.opened.backend (lookup_withOpen _ _ _) rfl
  rw [setOpen_withOpen] at hspawn
  refine ⟨_, h.reserve.cons <|
    (Moves.withOpen (.resolved command config dsn rfl hresolve)).cons <|
    (Moves.withOpen (.connected config dsn "postgres" Worker.opened.backend rfl rfl)).cons <|
    (Moves.withOpen (.accepted config "postgres" Worker.opened.backend rfl (hcalm _)
      (by decide))).cons <| hspawn.run, rfl, by simp [Action.isOpen]⟩

/-- An open whose connection succeeds registers a handle. -/
theorem run_open (h : s.Admits core k profile config) : ∃ ls,
    Run (Acts core) s ls (s.afterOpen k profile config) ∧ reservations ls = 1 ∧
      ∀ l ∈ ls, l.action.isOpen = true := by
  obtain ⟨ls, run, hcount, hopens⟩ := run_started h
  have hpublish : (s.reservedRegistry k profile).publishOpen (handleName s.registry.nextHandle)
      (s.freshEntry k profile config) = some (s.openedRegistry k profile config) := by
    have hrunning : (s.reservedRegistry k profile).lifecycle = .running := h.running
    unfold Registry.publishOpen
    rw [if_neg (not_not.mpr hrunning)]
    simp only [reservedRegistry, openedRegistry, Table.erase_insert h.unreserved]
  have hstep := @Step.published core (s.startedServer k profile config) k _ config
    s.freshSnapshot (s.openedRegistry k profile config) h.free (AList.lookup_insert _) rfl hpublish
  have hafter : ((s.startedServer k profile config).setRegistry
      (s.openedRegistry k profile config)).setOpen k (.returned (openReply s.freshSnapshot)) =
      s.afterOpen k profile config := by
    simp only [startedServer, afterOpen, setRegistry, setOpen, withOpen, Table.modify_insert]
  rw [hafter] at hstep
  refine ⟨_, run.append hstep.run, ?_, fun l hl => ?_⟩
  · unfold reservations at hcount ⊢
    rw [List.countP_append, hcount]
    rfl
  · rcases List.mem_append.mp hl with hl | hl
    · exact hopens l hl
    · rw [List.mem_singleton] at hl
      subst hl
      rfl

/-! ### Closing a handle -/

/-- The worker of a handle at rest that has read its control flags `n` times. -/
def closingWorker (p : PublishedHandle) (n : ℕ) : Worker := .atRest p (.resting .idle n [] [])

/-- A calm close of a handle at rest is verified. -/
theorem execute_close (config : Config) {p : PublishedHandle} (live : p.closed = false)
    (idle : p.observation.transactionStatus = .idle) : ∃ envelope w,
    (executeOperation 0 config .close (Environment.still []).ctx).Returns
      { published := p, backend := Worker.opened.backend.install (.still []) } (.ok envelope) w ∧
      envelope.result.isSome = true ∧ w.published.closed = true := by
  have hpre : operationPrecondition p .close = none := by
    simp [operationPrecondition, live, idle, Backend.openOrFailed]
  -- the three flags are read in turn, and none is up
  have hstopping : (control (Environment.still []).ctx.stopping : WorkerM Bool) (closingWorker p 0) =
      .ok false (closingWorker p 1) := rfl
  have hcancelled : (control (Environment.still []).ctx.cancelled : WorkerM Bool) (closingWorker p 1) =
      .ok false (closingWorker p 2) := rfl
  have hexpired : (control (Environment.still []).ctx.expired : WorkerM Bool) (closingWorker p 2) =
      .ok false (closingWorker p 3) := rfl
  have hexecute : ∃ moves json backend, executeOperation 0 config .close
      (Environment.still []).ctx (closingWorker p 0) =
      .ok (.success (some (HandleState.closed p.id p.database)) moves json)
        { published := (p.updateObservation .none (some false)).publishClosed
          backend := backend } := by
    apply Exists.intro
    apply Exists.intro
    apply Exists.intro
    rw [executeOperation]
    refine (bind_ok rfl).trans ?_
    have hpre' : operationPrecondition (closingWorker p 0).published .close = none := hpre
    simp only [hpre']
    refine (bind_ok hstopping).trans ?_
    simp only [Bool.false_eq_true, if_false]
    refine (bind_ok hcancelled).trans ?_
    simp only [Bool.false_eq_true, if_false]
    refine (bind_ok hexpired).trans ?_
    simp only [Bool.false_eq_true, if_false, operationValidate]
    rfl
  obtain ⟨moves, json, backend, h⟩ := hexecute
  exact ⟨_, _, h, rfl, rfl⟩

/-- A server in which only one handle, its thread and the requests have moved since `s`. -/
structure Serving (s t : Server) (id : String) (entry : WorkerEntry) (thread : Thread) : Prop where
  free : t.stuck = false
  running : t.registry.lifecycle = .running
  frames : s.Frames t
  present : t.registry.handles.lookup id = some entry
  worker : t.threads.lookup entry.sender = some thread
  handle : thread.handle = id
  others : ∀ k, k ≠ entry.sender → t.threads.lookup k = s.threads.lookup k

/-- A handle at rest that can take a request. -/
structure AtRest (s : Server) (id : String) (entry : WorkerEntry) (thread : Thread) : Prop where
  free : s.stuck = false
  running : s.registry.lifecycle = .running
  present : s.registry.handles.lookup id = some entry
  live : entry.published.closed = false
  idle : entry.published.observation.transactionStatus = .idle
  unadmitted : entry.admitted = 0
  room : 0 < entry.config.outstandingRequests
  worker : s.threads.lookup entry.sender = some thread
  handle : thread.handle = id
  backend : thread.backend = Worker.opened.backend
  queue : thread.queue = []
  stage : thread.stage = .idle

theorem dispatchLimits_returns {r : Registry} {id : String} {entry : WorkerEntry}
    (present : r.handles.lookup id = some entry) :
    (dispatchLimits id).Returns (.free r)
      (.ok (entry.config.requestTimeout, entry.config.cancelDrainGrace)) (.free r) := by
  refine Mutex.returns_withLock.mpr ⟨{ held := true, value := r }, ?_, rfl⟩
  refine (bind_ok rfl).trans ?_
  simp only [present]
  rfl

/-- The step takes up no request, or it finds the handles and the workers as in `s`. -/
structure Label.Asks (s : Server) (l : Label) : Prop where
  dispatches : ∀ n id operation, l.action = .dispatch n id operation → l.before = s
  admissions : ∀ n, l.action = .admitCall n →
    l.before.registry = s.registry ∧ l.before.threads = s.threads

/-- A request is dispatched and admitted to a handle at rest. -/
theorem AtRest.admitCall (core : Core) {id : String} {entry : WorkerEntry} {thread : Thread} {n : ℕ}
    (h : s.AtRest id entry thread) (fresh : n ∉ s.requests) (operation : Operation) :
    ∃ ls t, Run (Acts core) s ls t ∧ reservations ls = 0 ∧
      (∀ l ∈ ls, l.Asks s) ∧
      s.Serving t id { entry with admitted := entry.admitted + 1 }
        { thread with queue := [.operation n operation] } ∧
      t.requests = s.requests.insert n
        { handle := id, operation := operation, stage := .waiting } := by
  have hdispatch := @Step.dispatch core s n id operation _ h.free fresh
    (dispatchLimits_returns h.present)
  have hsend : s.trySend entry.sender = .sent := by
    have hroom := h.room
    simp only [trySend, h.worker, Thread.trySend, h.stage, ThreadStage.receives, h.queue,
      List.length_nil]
    rw [if_neg (by simp), if_neg (by omega)]
  have hadmitted := @Step.admitted core
    { s with requests := s.requests.insert n
              { handle := id, operation := operation, stage := .admitting } }
    n _ entry.sender _ h.free (AList.lookup_insert _) rfl
    (dispatchAdmit_sent h.running h.present h.live (by rw [h.unadmitted]; exact h.room) hsend)
  refine ⟨_, _, hdispatch.cons hadmitted.run, rfl, ?_, ?_, ?_⟩
  · intro l hl
    simp only [List.mem_cons, List.not_mem_nil, or_false] at hl
    rcases hl with rfl | rfl
    · exact ⟨fun _ _ _ _ => rfl, by simp⟩
    · exact ⟨by simp, fun _ _ => ⟨rfl, rfl⟩⟩
  · refine ⟨h.free, h.running, (hdispatch.frames rfl).trans ( hadmitted.frames rfl), ?_, ?_, h.handle,
      fun k hk => Table.lookup_modify_ne hk⟩
    · show (s.registry.modify id _).handles.lookup id = _
      unfold Registry.modify
      rw [Table.lookup_modify_self, h.present]
      rfl
    · show (s.threads.modify entry.sender _).lookup entry.sender = _
      rw [Table.lookup_modify_self, h.worker]
      simp [Thread.push, h.queue]
  · simp only [setRequest, setThread, setRegistry, Table.modify_insert]

/-- Whatever a worker publishes of its handle, its entry has. -/
theorem lookup_publish {r : Registry} {id : String} {entry : WorkerEntry}
    (present : r.handles.lookup id = some entry) (f : PublishedHandle → PublishedHandle) :
    (r.publish id f).handles.lookup id = some { entry with published := f entry.published } := by
  unfold Registry.publish Registry.modify
  rw [Table.lookup_modify_self, present]
  rfl

/-- A change of the thread that is served. -/
theorem Serving.setThread {u : Server} {id : String} {entry : WorkerEntry} {thread : Thread}
    (h : s.Serving t id entry thread) {a : Action} {f : Thread → Thread} {entry' : WorkerEntry}
    (step : Step core t a u) (quiet : a.isOpen = false) (handle : (f thread).handle = id)
    (free : u.stuck = false) (running : u.registry.lifecycle = .running)
    (present : u.registry.handles.lookup id = some entry') (sender : entry'.sender = entry.sender)
    (threads : u.threads = t.threads.modify entry.sender f) :
    s.Serving u id entry' (f thread) where
  free := free
  running := running
  frames := h.frames.trans (step.frames quiet)
  present := present
  worker := by
    rw [sender, threads, Table.lookup_modify_self, h.worker]
    rfl
  handle := handle
  others k hk := by
    rw [sender] at hk
    rw [threads, Table.lookup_modify_ne hk, h.others k hk]

variable {id : String} {entry : WorkerEntry} {thread : Thread} {n : ℕ}

/-- A request is taken. -/
theorem Serving.take (core : Core) (h : s.Serving t id entry thread) {operation : Operation}
    (queue : thread.queue = [.operation n operation]) (stage : thread.stage = .idle) :
    ∃ u, Step core t (.take entry.sender) u ∧
      s.Serving u id entry { thread with queue := [], stage := .serving n operation } :=
  have step := Step.take entry.sender thread _ [] h.worker stage queue
  ⟨_, step, h.setThread step rfl h.handle h.free h.running h.present rfl rfl⟩

/-- A request is executed. -/
theorem Serving.execute (core : Core) (h : s.Serving t id entry thread) {operation : Operation}
    (stage : thread.stage = .serving n operation) {env : Environment} {rounds : ℕ} {result : Reply}
    {w : Worker} (runs : (executeOperation rounds thread.config operation env.ctx).Returns
      { published := entry.published, backend := thread.backend.install env } result w) :
    ∃ u, Step core t (.execute entry.sender env) u ∧
      s.Serving u id entry { thread with
        backend := w.backend, stage := .publishing n operation result w.published } :=
  have step := Step.execute entry.sender thread n operation entry env rounds result w h.free h.worker
    stage (h.handle ▸ h.present) runs
  ⟨_, step, h.setThread step rfl h.handle h.free h.running h.present rfl rfl⟩

/-- The snapshot of a request is published. -/
theorem Serving.record (core : Core) (h : s.Serving t id entry thread) {operation : Operation}
    {result : Reply}
    {published : PublishedHandle} (stage : thread.stage = .publishing n operation result published) :
    ∃ u, Step core t (.record entry.sender) u ∧
      s.Serving u id { entry with published := published }
        { thread with stage := .settling n operation result } := by
  have step := @Step.record core t entry.sender thread n operation result published h.free h.worker
    stage
  refine ⟨_, step, h.setThread step rfl h.handle h.free h.running
    (?_ : _ = some { entry with published := published }) rfl rfl⟩
  rw [h.handle]
  exact lookup_publish h.present _

/-- The final observation of a request is published. -/
theorem Serving.settle (core : Core) (h : s.Serving t id entry thread) {operation : Operation}
    {result : Reply}
    (stage : thread.stage = .settling n operation result) {w : Worker}
    (settled : w = Worker.settled operation result
      { published := entry.published, backend := thread.backend }) :
    ∃ u, Step core t (.settle entry.sender) u ∧
      s.Serving u id { entry with published := w.published }
        { thread with
          stage := .replying n (closeSucceeded operation result) (w.settledReply operation result) } := by
  have step := @Step.settle core t entry.sender thread n operation result entry w h.free h.worker
    stage (h.handle ▸ h.present) settled
  refine ⟨_, step, h.setThread step rfl h.handle h.free h.running
    (?_ : _ = some { entry with published := w.published }) rfl rfl⟩
  rw [h.handle]
  exact lookup_publish h.present _

/-- A request is answered. -/
theorem Serving.reply (core : Core) (h : s.Serving t id entry thread) {closed : Bool} {reply : Reply}
    (stage : thread.stage = .replying n closed reply) :
    ∃ u, Step core t (.reply entry.sender) u ∧
      s.Serving u id entry { thread with stage := .releasing closed } :=
  have step := Step.reply entry.sender thread n closed reply h.worker stage
  ⟨_, step, h.setThread step rfl h.handle h.free h.running h.present rfl rfl⟩

/-- The place of a request is released, and its worker is idle again. -/
theorem Serving.release (core : Core) (h : s.Serving t id entry thread)
    (stage : thread.stage = .releasing false) :
    ∃ u, Step core t (.release entry.sender) u ∧
      s.Serving u id { entry with admitted := entry.admitted - 1 } { thread with stage := .idle } := by
  have step := @Step.release core t entry.sender thread false h.free h.worker stage
  refine ⟨_, step, h.setThread step rfl h.handle h.free h.running
    (?_ : _ = some { entry with admitted := entry.admitted - 1 }) rfl rfl⟩
  rw [h.handle]
  exact Table.lookup_modify_self.trans (congrArg _ h.present)

/-- A request that is refused by its precondition changes nothing. -/
theorem execute_refused (config : Config) (operation : Operation) (env : Environment) {w : Worker}
    {error : CoreError} (refused : operationPrecondition w.published operation = some error) :
    (executeOperation 0 config operation env.ctx).Returns w
      (.ok (errorEnvelope w.currentState error error.outcomeUnknown)) w := by
  unfold Returns
  rw [executeOperation]
  refine (bind_ok rfl).trans ?_
  simp only [refused]
  rfl

/-- A request for a handle at rest is refused by its precondition, and the worker is about to
release it. -/
theorem AtRest.refused (h : s.AtRest id entry thread) (core : Core) (fresh : n ∉ s.requests)
    (unobserved : entry.published.schemaObserved = false) : ∃ ls t entry' thread' answer,
    Run (Acts core) s ls t ∧ reservations ls = 0 ∧ (∀ l ∈ ls, l.Asks s) ∧
      s.Serving t id entry' thread' ∧ thread' = { thread with stage := .releasing false } ∧
      entry' = { entry with
        published := { entry.published with observation := .idle }, admitted := 1 } ∧
      t.requests = s.requests.insert n
        { handle := id, operation := .openRead, stage := .answered answer } := by
  obtain ⟨ls, t, run, hcount, hasks, hserving, hrequests⟩ := h.admitCall core fresh .openRead
  have hrefused : operationPrecondition entry.published .openRead = some (coreError .schemaRequired) := by
    simp [operationPrecondition, h.live, unobserved]
  have runs := execute_refused thread.config .openRead (.still [])
    (w := { published := entry.published, backend := thread.backend.install (.still []) }) hrefused
  -- the worker goes through its stations
  obtain ⟨t₁, take, h₁⟩ := hserving.take core rfl h.stage
  obtain ⟨t₂, execute, h₂⟩ := h₁.execute core rfl runs
  obtain ⟨t₃, record, h₃⟩ := h₂.record core rfl
  obtain ⟨t₄, settle, h₄⟩ := h₃.settle core rfl rfl
  obtain ⟨t₅, reply, h₅⟩ := h₄.reply core rfl
  -- only the last of them touches the request
  have hr₁ : t₁.requests = t.requests := by
    cases take
    rfl
  have hr₂ : t₂.requests = t₁.requests := by
    cases execute
    rfl
  have hr₃ : t₃.requests = t₂.requests := by
    cases record
    rfl
  have hr₄ : t₄.requests = t₃.requests := by
    cases settle
    rfl
  have hr₅ : ∃ answer, t₅.requests =
      t₄.requests.modify n fun c => { c with stage := .answered answer } := by
    cases reply with
    | reply _ served call closed answer lookup stage =>
      have hserved := lookup.symm.trans h₄.worker
      rw [Option.some.injEq] at hserved
      subst hserved
      cases stage
      exact ⟨_, rfl⟩
  obtain ⟨answer, hr₅⟩ := hr₅
  refine ⟨_, t₅, _, _, answer,
    run.append (take.cons <| execute.cons <| record.cons <| settle.cons reply.run), ?_, ?_, h₅, ?_,
    ?_, ?_⟩
  · unfold reservations at hcount ⊢
    rw [List.countP_append, hcount]
    rfl
  · intro l hl
    rcases List.mem_append.mp hl with hl | hl
    · exact hasks l hl
    · simp only [List.mem_cons, List.not_mem_nil, or_false] at hl
      rcases hl with rfl | rfl | rfl | rfl | rfl <;> exact ⟨by simp, by simp⟩
  · -- the environment installs nothing in a connection at rest
    rw [h.backend, ← h.queue]
    rfl
  · rw [h.unadmitted, h.backend]
    rfl
  · rw [hr₅, hr₄, hr₃, hr₂, hr₁, hrequests, Table.modify_insert]

/-- A request for a handle at rest is answered, and the handle is at rest again. -/
theorem AtRest.answered (h : s.AtRest id entry thread) (core : Core) (fresh : n ∉ s.requests)
    (unobserved : entry.published.schemaObserved = false) : ∃ ls t entry' answer,
    Run (Acts core) s ls t ∧ reservations ls = 0 ∧ (∀ l ∈ ls, l.Asks s) ∧
      t.AtRest id entry' { thread with stage := .idle } ∧ entry'.published.schemaObserved = false ∧
      entry'.config = entry.config ∧
      t.requests = s.requests.insert n
        { handle := id, operation := .openRead, stage := .answered answer } := by
  obtain ⟨ls, t, entry', thread', answer, run, hcount, hasks, hserving, hthread, hentry, hrequests⟩ :=
    h.refused core fresh unobserved
  subst hthread hentry
  obtain ⟨u, release, hserving'⟩ := hserving.release core rfl
  have hsame : u.requests = t.requests := by
    cases release
    rfl
  have hrest : u.AtRest id
      { entry with published := { entry.published with observation := .idle }, admitted := 0 }
      { thread with stage := .idle } :=
    ⟨hserving'.free, hserving'.running, hserving'.present, h.live, rfl, rfl, h.room, hserving'.worker,
      h.handle, h.backend, h.queue, rfl⟩
  refine ⟨_, u, _, answer, run.append release.run, ?_, ?_, hrest, unobserved, rfl, hsame.trans hrequests⟩
  · unfold reservations at hcount ⊢
    rw [List.countP_append, hcount]
    rfl
  · intro l hl
    rcases List.mem_append.mp hl with hl | hl
    · exact hasks l hl
    · rw [List.mem_singleton] at hl
      subst hl
      exact ⟨by simp, by simp⟩

/-- A worker closes its handle, and is about to answer. -/
theorem Serving.close (core : Core) (h : s.Serving t id entry thread) (live : entry.published.closed = false)
    (idle : entry.published.observation.transactionStatus = .idle)
    (backend : thread.backend = Worker.opened.backend)
    (queue : thread.queue = [.operation n .close]) (stage : thread.stage = .idle) :
    ∃ ls u entry' thread' reply, Run (Acts core) t ls u ∧ reservations ls = 0 ∧
      s.Serving u id entry' thread' ∧ entry'.published.closed = true ∧
      thread'.stage = .replying n true reply := by
  obtain ⟨envelope, w, runs, hresult, hclosed⟩ := execute_close thread.config live idle
  obtain ⟨t₁, take, h₁⟩ := h.take core queue stage
  obtain ⟨t₂, execute, h₂⟩ := h₁.execute core rfl (by rw [backend]; exact runs)
  obtain ⟨t₃, record, h₃⟩ := h₂.record core rfl
  obtain ⟨t₄, settle, h₄⟩ := h₃.settle core rfl rfl
  have hflag : closeSucceeded .close (.ok envelope) = true := hresult
  rw [hflag] at h₄
  exact ⟨_, t₄, _, _, _, take.cons <| execute.cons <| record.cons settle.run, rfl, h₄,
    (settle_closed _ _ _ _).trans hclosed, rfl⟩

/-- A live handle at rest is closed, and its worker is about to answer. -/
theorem run_closing (core : Core) (h : s.AtRest id entry thread) (fresh : n ∉ s.requests) :
    ∃ ls t entry' thread' reply, Run (Acts core) s ls t ∧ reservations ls = 0 ∧
      s.Serving t id entry' thread' ∧ entry'.published.closed = true ∧
      thread'.stage = .replying n true reply := by
  obtain ⟨ls, t, run, hcount, -, hserving, -⟩ := h.admitCall core fresh .close
  obtain ⟨ls', u, entry', thread', reply, run', hcount', hclosed⟩ :=
    hserving.close core h.live h.idle h.backend rfl h.stage
  refine ⟨ls ++ ls', u, entry', thread', reply, run.append run', ?_, hclosed⟩
  unfold reservations at hcount hcount' ⊢
  rw [List.countP_append, hcount, hcount']

/-- A live handle at rest is closed. -/
theorem run_close (core : Core) (h : s.AtRest id entry thread) (fresh : n ∉ s.requests) :
    ∃ ls t entry' thread',
    Run (Acts core) s ls t ∧ reservations ls = 0 ∧ s.Serving t id entry' thread' ∧
      entry'.published.closed = true := by
  obtain ⟨ls, t, entry', thread', reply, run, hcount, hserving, hclosed, hstage⟩ :=
    run_closing core h fresh
  obtain ⟨u, step, h'⟩ := hserving.reply core hstage
  refine ⟨_, u, _, _, run.append step.run, ?_, h', hclosed⟩
  unfold reservations at hcount ⊢
  rw [List.countP_append, hcount]
  rfl

/-- The first open of a server. -/
theorem admits_new (named : profile ≠ "") (limits : core.admissionConfig profile = .ok config) :
    new.Admits core 0 profile config where
  free := rfl
  running := rfl
  fresh := AList.notMem_empty _
  named := named
  limits := limits
  room := (core.admissionConfig_inRange limits .maxHandles).1
  unreserved := AList.notMem_empty _

/-- A handle that was just opened is at rest. -/
theorem Admits.atRest (h : s.Admits core k profile config) :
    (s.afterOpen k profile config).AtRest (handleName s.registry.nextHandle)
      (s.freshEntry k profile config) (s.freshThread config) where
  free := h.free
  running := h.running
  present := AList.lookup_insert _
  live := rfl
  idle := rfl
  unadmitted := rfl
  room := (core.admissionConfig_inRange h.limits .outstandingRequests).1
  worker := AList.lookup_insert _
  handle := rfl
  backend := rfl
  queue := rfl
  stage := rfl

/-- A handle is opened and closed again. -/
theorem run_openClose (named : profile ≠ "") (limits : core.admissionConfig profile = .ok config) :
    ∃ ls t entry thread, Run (Acts core) new ls t ∧ reservations ls = 1 ∧
      (new.afterOpen 0 profile config).Serving t (handleName 1) entry thread ∧
      entry.published.closed = true := by
  have hadmits := admits_new named limits
  obtain ⟨ls, run, hcount, -⟩ := run_open hadmits
  obtain ⟨ls', t, entry, thread, run', hcount', hserving, hclosed⟩ :=
    run_close core (n := 0) hadmits.atRest (AList.notMem_empty _)
  refine ⟨ls ++ ls', t, entry, thread, run.append run', ?_, hserving, hclosed⟩
  unfold reservations at hcount hcount' ⊢
  rw [List.countP_append, hcount, hcount']

/-! ### An id is given twice -/

/-- A server without handles at the end of its ids. -/
def exhausted (opens : Table ℕ OpenCall) : Server :=
  { new with registry := { Registry.new with nextHandle := u64Max }, opens := opens }

/-- The ids are used up by opens that fail. -/
theorem run_exhausted (named : profile ≠ "") (limits : core.admissionConfig profile = .ok config) :
    ∃ ls opens, Run (Acts core) new ls (exhausted opens) ∧
      (exhausted opens).Admits core (u64Max - 1) profile config ∧ u64Max ∉ opens := by
  have room := (core.admissionConfig_inRange limits .maxHandles).1
  change 1 ≤ config.maxHandles at room
  -- every open before the last one fails, so nothing but the counter changes
  obtain ⟨ls, opens, run, -, hopens⟩ := run_failedOpens named limits room (u64Max - 1)
  have hnext : min (u64Max - 1 + 1) u64Max = u64Max := by
    rw [u64Max_eq]
    decide
  rw [hnext] at run
  refine ⟨ls, opens, run, ?_, fun h => absurd (hopens _ h) (by omega)⟩
  exact
    { free := rfl
      running := rfl
      fresh := fun h => Nat.lt_irrefl _ (hopens _ h)
      named := named
      limits := limits
      room := room
      unreserved := AList.notMem_empty _ }

/-- The last id is given again as long as it is not reserved. -/
theorem Frames.admits {opens : Table ℕ OpenCall}
    (h : ((exhausted opens).afterOpen (u64Max - 1) profile config).Frames t)
    (named : profile ≠ "") (limits : core.admissionConfig profile = .ok config)
    (room : 1 < config.maxHandles) (fresh : u64Max ∉ opens) (free : t.stuck = false)
    (running : t.registry.lifecycle = .running) :
    t.Admits core u64Max profile config ∧ t.registry.nextHandle = u64Max := by
  have hnext : t.registry.nextHandle = u64Max := by
    rw [h.next]
    exact min_eq_right (Nat.le_succ u64Max)
  have hhandles : t.registry.profileHandles profile =
      Table.count (fun entry : WorkerEntry => entry.profile == profile)
        (AList.insert (handleName u64Max)
          ((exhausted opens).freshEntry (u64Max - 1) profile config) ∅) :=
    Table.count_of_view (q := fun key => key.1 == profile) (fun _ => rfl) h.handles
  have hpending : t.registry.pendingOpens = ∅ := h.pending
  refine ⟨⟨free, running, ?_, named, limits, ?_, ?_⟩, hnext⟩
  · rw [Table.mem_of_view h.opens]
    show u64Max ∉ opens.insert _ _
    rw [AList.mem_insert]
    rintro (h | h)
    · rw [u64Max_eq] at h
      omega
    · exact fresh h
  -- the first handle is the only one of its profile
  · rw [hhandles, Table.count_insert (AList.notMem_empty _)]
    unfold Registry.profilePending
    rw [hpending]
    show 0 + (profile == profile).toNat + 0 < _
    rw [beq_self_eq_true]
    exact room
  · rw [hpending]
    exact AList.notMem_empty _

end Server

end PgMcp
