import PgMcp.Core.Dispatch
import PgMcp.Worker.Requests

/-!
# The server

Opens, requests, worker threads and shutdowns run side by side.  Each takes the registry
lock for its critical sections, and a step of the server is one critical section, or one
thing an activity does between two of them.  A thread that waits for the lock it holds
keeps the lock from everybody else.

Opens, requests and shutdowns go by numbers.  A worker thread goes by the number of the
open that has started it.

## Main definitions

* `OpenCall`, `OpenCall.Moves` — an open, and what it does without the lock.
* `Thread` — a worker thread with its queue.
* `RequestCall`, `ShutdownCall`, `Cleanup` — the callers of the server.
* `Server`, `Action`, `Server.Step` — the whole server.

## Main results

* `serve_returns` — the steps of a worker with one request are what `serve` does with it.
-/

namespace PgMcp

open Program

/-! ### Opens -/

/-- Why an open fails. -/
inductive OpenRefusal where
  | failed (failure : CoreFailure)
  /-- The DSN command was given up. -/
  | dsnTimeout
  /-- A control flag was raised when the connection was there. -/
  | interrupted
  deriving DecidableEq, Repr

/-- How far an open has come. -/
inductive OpenStage where
  /-- The slot is reserved; the DSN is resolved. -/
  | resolving
  | connecting (config : Config) (dsn : String)
  /-- The connection is there; it is observed. -/
  | connected (config : Config) (database : String) (backend : LibpqBackend)
  /-- The connection is closed again. -/
  | closing (refusal : OpenRefusal) (backend : LibpqBackend)
  /-- The worker thread is started. -/
  | spawning (config : Config) (database : String) (backend : LibpqBackend)
  /-- The worker runs; the handle is published. -/
  | publishing (config : Config) (published : PublishedHandle)
  /-- The server was stopping: the worker is told to shut down. -/
  | dismissing
  /-- The reservation is released. -/
  | finishing (refusal : OpenRefusal) (backend : Option LibpqBackend)
  /-- The reservation is released, and the open returns. -/
  | returning (refusal : OpenRefusal) (backend : Option LibpqBackend)
  | returned (reply : Reply)

/-- An open with a reservation, and its two tokens. -/
structure OpenCall where
  reservation : Reservation
  profile : String
  cancelled : Bool
  stopping : Bool
  stage : OpenStage

/-- The DSN of a profile; `command` is what became of its command. -/
def Core.resolve (core : Core) (profile : String) (command : Except ConfigError String) :
    Except ConfigError (Config × String) :=
  match core.profiles with
  | none => .ok (core.config, core.dsn)
  | some file => do
    let config ← file.profileConfig profile
    let dsn ← command
    return (config, dsn)

/-- The failure of an open that could not resolve its DSN. -/
def ConfigError.refusal : ConfigError → OpenRefusal
  | .unknownProfile => .failed (.process (coreError .databaseUnknown))
  | .dsnTimeout => .dsnTimeout
  | _ => .failed (.process (coreError .configError))

def CoreFailure.fromBackend (state : Option HandleState) (failure : BackendFailure) :
    CoreFailure where
  error := failure.error
  handleState := state
  sqlstate := failure.sqlstate
  outcomeUnknown := failure.outcomeUnknown

namespace OpenCall

def expired (c : OpenCall) (now : ℕ) : Bool := decide (c.reservation.deadline ≤ now)

/-- A control flag is raised. -/
def raised (c : OpenCall) (now : ℕ) : Bool := c.stopping || c.cancelled || c.expired now

/-- The failure an open returns, from the control flags at that moment. -/
def failure (c : OpenCall) (now : ℕ) : OpenRefusal → CoreFailure
  | .failed failure => failure
  | .dsnTimeout =>
    .process
      (if c.stopping then coreError .serverStopping
       else if c.cancelled then coreError .cancelled
       else .unknown .deadlineExceeded)
  -- here the deadline comes before the client's token
  | .interrupted =>
    .process
      (if c.stopping then coreError .serverStopping
       else if c.expired now then .unknown .deadlineExceeded
       else .unknown .cancelled)

/-- The snapshot a handle is published with. -/
def snapshot (c : OpenCall) (database : String) (backend : LibpqBackend) : PublishedHandle where
  id := c.reservation.id
  database := database
  observation := backend.observation
  schemaObserved := false
  schemaDirty := false
  closed := false

/-- A fresh connection can be used. -/
def usable (observation : BackendObservation) : Bool :=
  observation.connectionStatus == .ok && observation.transactionStatus == .idle

/-- What an open does between its critical sections, at time `now`. -/
inductive Moves (core : Core) (now : ℕ) (c : OpenCall) : OpenStage → Prop where
  | resolved (command : Except ConfigError String) (config : Config) (dsn : String)
      (stage : c.stage = .resolving)
      (result : core.resolve c.profile command = .ok (config, dsn)) :
      Moves core now c (.connecting config dsn)
  | unresolved (command : Except ConfigError String) (error : ConfigError)
      (stage : c.stage = .resolving)
      (result : core.resolve c.profile command = .error error)
      (timeout : command = .error .dsnTimeout → c.raised now = true) :
      Moves core now c (.finishing error.refusal none)
  | connected (config : Config) (dsn database : String) (backend : LibpqBackend)
      (stage : c.stage = .connecting config dsn) (present : backend.present = true) :
      Moves core now c (.connected config database backend)
  | unconnected (config : Config) (dsn : String) (failure : BackendFailure)
      (stage : c.stage = .connecting config dsn) :
      Moves core now c (.finishing (.failed (.fromBackend none failure)) none)
  | interrupted (config : Config) (database : String) (backend : LibpqBackend)
      (stage : c.stage = .connected config database backend) (raised : c.raised now = true) :
      Moves core now c (.closing .interrupted backend)
  | unusable (config : Config) (database : String) (backend : LibpqBackend)
      (stage : c.stage = .connected config database backend) (calm : c.raised now = false)
      (bad : usable backend.observation = false) :
      Moves core now c (.closing (.failed (.process (.unknown .connectionLost))) backend)
  | accepted (config : Config) (database : String) (backend : LibpqBackend)
      (stage : c.stage = .connected config database backend) (calm : c.raised now = false)
      (good : usable backend.observation = true) :
      Moves core now c (.spawning config database backend)
  | closed (refusal : OpenRefusal) (backend : LibpqBackend)
      (stage : c.stage = .closing refusal backend) :
      Moves core now c (.finishing refusal (some (Backend.close.last backend)))
  | unspawned (config : Config) (database : String) (backend : LibpqBackend)
      (stage : c.stage = .spawning config database backend) :
      Moves core now c (.finishing (.failed (.process (coreError .internal))) none)
  /-- The open panics: its connection is dropped, and its caller releases the slot. -/
  | panicked (working : match c.stage with
        | .resolving | .connecting _ _ | .connected _ _ _ | .closing _ _ | .spawning _ _ _ => True
        | _ => False) :
      Moves core now c (.finishing (.failed (.process (coreError .internal))) none)
  /-- What is left of the connection is dropped when the open returns. -/
  | returned (refusal : OpenRefusal) (backend : Option LibpqBackend)
      (stage : c.stage = .returning refusal backend) :
      Moves core now c (.returned (.error (c.failure now refusal)))

end OpenCall

/-- The reply to an open that has published its handle. -/
def openReply (published : PublishedHandle) : Reply :=
  .ok (.success (some published.state) (movesOf (some published.state))
    (.obj [("handle", .str published.id)]))

/-! ### Worker threads -/

/-- What a queue holds. -/
inductive Request where
  | operation (call : ℕ) (operation : Operation)
  /-- With the shutdown owner waiting for the answer, or not. -/
  | shutdown (reply : Bool)
  deriving DecidableEq, Repr

/-- How far a worker thread has come with what it has taken from its queue. -/
inductive ThreadStage where
  | idle
  /-- The request is taken, and its admission guard held. -/
  | serving (call : ℕ) (operation : Operation)
  /-- The operation has run; its snapshot is published. -/
  | publishing (call : ℕ) (operation : Operation) (result : Reply) (published : PublishedHandle)
  /-- The final observation is published. -/
  | settling (call : ℕ) (operation : Operation) (result : Reply)
  | replying (call : ℕ) (closed : Bool) (reply : Reply)
  /-- The admission guard is dropped. -/
  | releasing (closed : Bool)
  /-- A shutdown was taken; the backend is cleaned up. -/
  | cleaning (reply : Bool)
  /-- The closed snapshot is published. -/
  | closing (entry : WorkerShutdownEntry) (reply : Bool)
  | reporting (entry : WorkerShutdownEntry) (reply : Bool)
  /-- The loop is left; the queue and the backend are dropped. -/
  | leaving
  /-- They are dropped; the thread is about to end. -/
  | left
  /-- The thread has ended, at the given time. -/
  | finished (time : ℕ)

namespace ThreadStage

/-- The receiving end of the queue is still there. -/
def receives : ThreadStage → Bool
  | .left | .finished _ => false
  | _ => true

def isFinished : ThreadStage → Bool
  | .finished _ => true
  | _ => false

end ThreadStage

/-- What becomes of a thread that has taken a request. -/
def Request.stage : Request → ThreadStage
  | .operation call op => .serving call op
  | .shutdown reply => .cleaning reply

/-- A worker thread. -/
structure Thread where
  handle : String
  config : Config
  backend : LibpqBackend
  queue : List Request
  stage : ThreadStage

/-- What the queue of a thread answers to an attempt to send. -/
def Thread.trySend (t : Thread) : TrySend :=
  if !t.stage.receives then .closed
  else if max t.config.outstandingRequests 1 ≤ t.queue.length then .full
  else .sent

def Thread.push (request : Request) (t : Thread) : Thread := { t with queue := t.queue ++ [request] }

/-- The worker with its final observation published. -/
def Worker.settled (operation : Operation) (result : Reply) (w : Worker) : Worker :=
  { w with
    published := settle operation (Reply.outcomeUnknown result) w.backend.observation w.published }

/-- The reply, with the snapshot it is sent with. -/
def Worker.settledReply (operation : Operation) (result : Reply) (w : Worker) : Reply :=
  result.map fun envelope => refreshEnvelopeState envelope (closeSucceeded operation result) w

/-! ### Callers -/

inductive RequestStage where
  /-- The limits are read; the request is to be admitted. -/
  | admitting
  | waiting
  /-- The request was dropped with the queue it was in. -/
  | orphaned
  | answered (reply : Reply)

/-- A request of a client. -/
structure RequestCall where
  handle : String
  operation : Operation
  stage : RequestStage

/-- The callers of the operations in a dropped queue are left without an answer. -/
def orphan (queue : List Request) (requests : Table ℕ RequestCall) : Table ℕ RequestCall :=
  queue.foldl (fun requests request =>
    match request with
    | .operation call _ => requests.modify call fun c => { c with stage := .orphaned }
    | .shutdown _ => requests) requests

/-- A caller of shutdown. -/
inductive ShutdownCall where
  | owner
  /-- Another caller owns the cleanup; its report is awaited. -/
  | waiting
  | returned (report : ShutdownReport)
  deriving DecidableEq, Repr

/-- How far the owner of the cleanup has come. -/
inductive CleanupStage where
  /-- The shutdown token is cancelled. -/
  | signalling
  /-- The next handle is taken up. -/
  | visiting
  /-- The entry of the handle is read. -/
  | looking (id : String)
  /-- The worker of a closed handle is joined. -/
  | joining (id : String)
  /-- It had not ended; the deadline is checked. -/
  | unfinished (id : String)
  | enqueuing (id : String) (thread : ℕ)
  | enqueued (id : String) (thread : ℕ)
  | awaiting (id : String) (thread : ℕ)
  /-- The worker has answered, and is joined. -/
  | answered (id : String) (entry : WorkerShutdownEntry)
  /-- The reservations are waited for. -/
  | draining
  /-- The next one was still there; the deadline is checked. -/
  | stillPending
  | reported
  deriving DecidableEq, Repr

/-- The cleanup: what is still to be visited, and the report so far. -/
structure Cleanup where
  deadline : ℕ
  handles : List String
  pending : List String
  workers : List WorkerShutdownEntry
  stage : CleanupStage
  deriving DecidableEq, Repr

/-- One more entry of the report; the next handle follows. -/
def Cleanup.record (c : Cleanup) (entry : WorkerShutdownEntry) : Cleanup :=
  { c with workers := c.workers ++ [entry], stage := .visiting }

/-- The report, sorted by handle. -/
def Cleanup.report (c : Cleanup) : ShutdownReport where
  workers := c.workers.insertionSort fun a b => a.handle ≤ b.handle

/-! ### The server -/

structure Server where
  registry : Registry
  /-- A thread waits for the registry lock that it holds itself. -/
  stuck : Bool
  /-- The shutdown token of the server. -/
  shutdown : Bool
  now : ℕ
  opens : Table ℕ OpenCall
  threads : Table ℕ Thread
  requests : Table ℕ RequestCall
  shutdowns : Table ℕ ShutdownCall
  cleanup : Option Cleanup
  /-- What the cleanup owner gets from the threads it has sent a shutdown to: an answer, or
  nothing where the request was dropped. -/
  answers : Table ℕ (Option WorkerShutdownEntry)

namespace Server

def new : Server where
  registry := .new
  stuck := false
  shutdown := false
  now := 0
  opens := ∅
  threads := ∅
  requests := ∅
  shutdowns := ∅
  cleanup := none
  answers := ∅

/-- What the queue of a thread answers to an attempt to send. -/
def trySend (s : Server) (thread : ℕ) : TrySend :=
  match s.threads.lookup thread with
  | none => .closed
  | some t => t.trySend

/-- The thread of a handle has ended, or is joined. -/
def isFinished (s : Server) (handle : String) : Bool :=
  match s.registry.handles.lookup handle with
  | none => true
  | some entry =>
    match entry.join with
    | none => true
    | some thread => (s.threads.lookup thread).any fun t => t.stage.isFinished

def setOpen (s : Server) (k : ℕ) (stage : OpenStage) : Server :=
  { s with opens := s.opens.modify k fun c => { c with stage := stage } }

def setThread (s : Server) (k : ℕ) (f : Thread → Thread) : Server :=
  { s with threads := s.threads.modify k f }

def setStage (s : Server) (k : ℕ) (stage : ThreadStage) : Server :=
  s.setThread k fun t => { t with stage := stage }

def setRequest (s : Server) (n : ℕ) (stage : RequestStage) : Server :=
  { s with requests := s.requests.modify n fun c => { c with stage := stage } }

def setCleanup (s : Server) (c : Cleanup) : Server := { s with cleanup := some c }

def setRegistry (s : Server) (r : Registry) : Server := { s with registry := r }

/-- The reservations' tokens are cancelled. -/
def cancelPending (s : Server) : Table ℕ OpenCall :=
  s.registry.pendingOpens.values.foldl
    (fun opens p => opens.modify p.shutdown fun c => { c with stopping := true }) s.opens

/-- Joining takes the join handle. -/
def join (s : Server) (handle : String) : Server :=
  s.setRegistry (s.registry.modify handle fun entry => { entry with join := none })

/-- What the queue of a thread loses when it is dropped with a shutdown in it. -/
def dropAnswer (s : Server) (k : ℕ) (t : Thread) : Table ℕ (Option WorkerShutdownEntry) :=
  if t.queue.contains (.shutdown true) then s.answers.insert k none else s.answers

end Server

/-- What happens in a step. -/
inductive Action where
  | tick (time : ℕ)
  | reserve (call : ℕ) (profile : String) (result : Except CoreError Reservation)
  | cancelOpen (call : ℕ)
  | open (call : ℕ) (stage : OpenStage)
  | spawn (call : ℕ)
  | publish (call : ℕ) (registered : Bool)
  | dismiss (call : ℕ)
  | finishOpen (call : ℕ)
  | dispatch (request : ℕ) (handle : String) (operation : Operation)
  | admitCall (request : ℕ)
  | lose (request : ℕ)
  | take (thread : ℕ)
  | execute (thread : ℕ) (env : Environment)
  | record (thread : ℕ)
  | settle (thread : ℕ)
  | reply (thread : ℕ)
  | release (thread : ℕ)
  | clean (thread : ℕ) (env : Environment) (result : ShutdownWorkerResult)
  | close (thread : ℕ)
  | report (thread : ℕ)
  | leave (thread : ℕ)
  | finish (thread : ℕ)
  | shutdown (call : ℕ)
  | signal
  | visit
  | look
  | joinClosed
  | expire
  | enqueue
  | check
  | await
  | join
  | drain
  | freeze

namespace Server

/-- One step of the server. -/
inductive Step (core : Core) (s : Server) : Action → Server → Prop where
  | tick (time : ℕ) (later : s.now ≤ time) : Step core s (.tick time) { s with now := time }
  -- opens
  | reserved (k : ℕ) (profile : String) (reservation : Reservation) (r : Registry)
      (free : s.stuck = false) (fresh : k ∉ s.opens)
      (result : core.reserveOpen s.registry profile k s.now = .ok (reservation, r)) :
      Step core s (.reserve k profile (.ok reservation))
        { s with
          registry := r
          opens := s.opens.insert k
            { reservation := reservation, profile := profile, cancelled := false,
              stopping := false, stage := .resolving } }
  | unreserved (k : ℕ) (profile : String) (error : CoreError)
      (free : s.stuck = false) (fresh : k ∉ s.opens)
      (result : core.reserveOpen s.registry profile k s.now = .error error) :
      Step core s (.reserve k profile (.error error)) s
  | cancelOpen (k : ℕ) :
      Step core s (.cancelOpen k)
        { s with opens := s.opens.modify k fun c => { c with cancelled := true } }
  | open (k : ℕ) (c : OpenCall) (stage : OpenStage)
      (call : s.opens.lookup k = some c) (moves : c.Moves core s.now stage) :
      Step core s (.open k stage) (s.setOpen k stage)
  -- the thread owns the backend from here on
  | spawn (k : ℕ) (c : OpenCall) (config : Config) (database : String) (backend : LibpqBackend)
      (call : s.opens.lookup k = some c) (stage : c.stage = .spawning config database backend) :
      Step core s (.spawn k)
        { s.setOpen k (.publishing config (c.snapshot database backend)) with
          threads := s.threads.insert k
            { handle := c.reservation.id, config := config, backend := backend, queue := [],
              stage := .idle } }
  | published (k : ℕ) (c : OpenCall) (config : Config) (published : PublishedHandle) (r : Registry)
      (free : s.stuck = false) (call : s.opens.lookup k = some c)
      (stage : c.stage = .publishing config published)
      (result : s.registry.publishOpen c.reservation.id
        { published := published, profile := c.profile, config := config, sender := k,
          join := some k, admitted := 0 } = some r) :
      Step core s (.publish k true)
        ((s.setRegistry r).setOpen k (.returned (openReply published)))
  -- the registry has begun to stop since the reservation
  | unpublished (k : ℕ) (c : OpenCall) (config : Config) (published : PublishedHandle)
      (free : s.stuck = false) (call : s.opens.lookup k = some c)
      (stage : c.stage = .publishing config published)
      (result : s.registry.publishOpen c.reservation.id
        { published := published, profile := c.profile, config := config, sender := k,
          join := some k, admitted := 0 } = none) :
      Step core s (.publish k false) (s.setOpen k .dismissing)
  -- nobody waits for an answer, and a queue that is full or closed is not tried again
  | dismiss (k : ℕ) (c : OpenCall) (call : s.opens.lookup k = some c)
      (stage : c.stage = .dismissing) :
      Step core s (.dismiss k)
        ((if s.trySend k = .sent then s.setThread k (Thread.push (.shutdown false)) else s).setOpen k
          (.finishing (.failed (.process (coreError .serverStopping))) none))
  | finishOpen (k : ℕ) (c : OpenCall) (refusal : OpenRefusal) (backend : Option LibpqBackend)
      (free : s.stuck = false) (call : s.opens.lookup k = some c)
      (stage : c.stage = .finishing refusal backend) :
      Step core s (.finishOpen k)
        ((s.setRegistry (s.registry.finishOpen c.reservation.id)).setOpen k
          (.returning refusal backend))
  -- requests
  | dispatch (n : ℕ) (handle : String) (operation : Operation) (limits : ℕ × ℕ)
      (free : s.stuck = false) (fresh : n ∉ s.requests)
      (result : (dispatchLimits handle).Returns (.free s.registry) (.ok limits)
        (.free s.registry)) :
      Step core s (.dispatch n handle operation)
        { s with
          requests := s.requests.insert n
            { handle := handle, operation := operation, stage := .admitting } }
  | unknown (n : ℕ) (handle : String) (operation : Operation) (failure : CoreFailure)
      (free : s.stuck = false) (fresh : n ∉ s.requests)
      (result : (dispatchLimits handle).Returns (.free s.registry) (.error failure)
        (.free s.registry)) :
      Step core s (.dispatch n handle operation)
        { s with
          requests := s.requests.insert n
            { handle := handle, operation := operation, stage := .answered (.error failure) } }
  | admitted (n : ℕ) (c : RequestCall) (thread : ℕ) (r : Registry)
      (free : s.stuck = false) (call : s.requests.lookup n = some c)
      (stage : c.stage = .admitting)
      (result : (dispatchAdmit s.trySend c.handle).Returns (.free s.registry) (.ok thread)
        (.free r)) :
      Step core s (.admitCall n)
        (((s.setRegistry r).setThread thread (Thread.push (.operation n c.operation))).setRequest n
          .waiting)
  | unadmitted (n : ℕ) (c : RequestCall) (failure : CoreFailure) (r : Registry)
      (free : s.stuck = false) (call : s.requests.lookup n = some c)
      (stage : c.stage = .admitting)
      (result : (dispatchAdmit s.trySend c.handle).Returns (.free s.registry) (.error failure)
        (.free r)) :
      Step core s (.admitCall n) ((s.setRegistry r).setRequest n (.answered (.error failure)))
  -- the refusal asks for a snapshot while the guard of the registry is still alive
  | stuck (n : ℕ) (c : RequestCall)
      (free : s.stuck = false) (call : s.requests.lookup n = some c)
      (stage : c.stage = .admitting)
      (result : ¬ (dispatchAdmit s.trySend c.handle).Terminates (.free s.registry)) :
      Step core s (.admitCall n) { s with stuck := true }
  -- the queue was dropped, and the answer with it
  | lose (n : ℕ) (c : RequestCall) (failure : CoreFailure)
      (free : s.stuck = false) (call : s.requests.lookup n = some c)
      (stage : c.stage = .orphaned)
      (result : (CoreFailure.forHandle c.handle (.unknown .connectionLost)).Returns
        (.free s.registry) (.ok failure) (.free s.registry)) :
      Step core s (.lose n) (s.setRequest n (.answered (.error failure)))
  -- worker threads
  | take (k : ℕ) (t : Thread) (request : Request) (rest : List Request)
      (thread : s.threads.lookup k = some t) (stage : t.stage = .idle)
      (queue : t.queue = request :: rest) :
      Step core s (.take k)
        (s.setThread k fun t => { t with queue := rest, stage := request.stage })
  -- what the operation makes of the snapshot is published in the next step
  | execute (k : ℕ) (t : Thread) (call : ℕ) (operation : Operation) (entry : WorkerEntry)
      (env : Environment) (rounds : ℕ) (result : Reply) (w : Worker)
      (free : s.stuck = false) (thread : s.threads.lookup k = some t)
      (stage : t.stage = .serving call operation)
      (present : s.registry.handles.lookup t.handle = some entry)
      (runs : (executeOperation rounds t.config operation env.ctx).Returns
        { published := entry.published, backend := t.backend.install env } result w) :
      Step core s (.execute k env)
        (s.setThread k fun t =>
          { t with backend := w.backend, stage := .publishing call operation result w.published })
  | record (k : ℕ) (t : Thread) (call : ℕ) (operation : Operation) (result : Reply)
      (published : PublishedHandle) (free : s.stuck = false)
      (thread : s.threads.lookup k = some t)
      (stage : t.stage = .publishing call operation result published) :
      Step core s (.record k)
        ((s.setRegistry (s.registry.publish t.handle fun _ => published)).setStage k
          (.settling call operation result))
  -- the observation is taken once more before the reply goes out
  | settle (k : ℕ) (t : Thread) (call : ℕ) (operation : Operation) (result : Reply)
      (entry : WorkerEntry) (w : Worker) (free : s.stuck = false)
      (thread : s.threads.lookup k = some t) (stage : t.stage = .settling call operation result)
      (present : s.registry.handles.lookup t.handle = some entry)
      (settled : w = Worker.settled operation result
        { published := entry.published, backend := t.backend }) :
      Step core s (.settle k)
        ((s.setRegistry (s.registry.publish t.handle fun _ => w.published)).setStage k
          (.replying call (closeSucceeded operation result) (w.settledReply operation result)))
  | reply (k : ℕ) (t : Thread) (call : ℕ) (closed : Bool) (reply : Reply)
      (thread : s.threads.lookup k = some t) (stage : t.stage = .replying call closed reply) :
      Step core s (.reply k) ((s.setRequest call (.answered reply)).setStage k (.releasing closed))
  -- the guard is dropped after the reply is sent
  | release (k : ℕ) (t : Thread) (closed : Bool) (free : s.stuck = false)
      (thread : s.threads.lookup k = some t) (stage : t.stage = .releasing closed) :
      Step core s (.release k)
        ((s.setRegistry (s.registry.modify t.handle fun entry =>
            { entry with admitted := entry.admitted - 1 })).setStage k
          (if closed then .leaving else .idle))
  | clean (k : ℕ) (t : Thread) (reply : Bool) (env : Environment) (rounds : ℕ)
      (result : ShutdownWorkerResult) (backend : LibpqBackend)
      (thread : s.threads.lookup k = some t) (stage : t.stage = .cleaning reply)
      (runs : (Backend.shutdown rounds env.ctx).Returns (t.backend.install env) (.ok result)
        backend) :
      Step core s (.clean k env result)
        (s.setThread k fun t =>
          { t with backend := backend, stage := .closing (result.entry t.handle) reply })
  | close (k : ℕ) (t : Thread) (entry : WorkerShutdownEntry) (reply : Bool)
      (free : s.stuck = false) (thread : s.threads.lookup k = some t)
      (stage : t.stage = .closing entry reply) :
      Step core s (.close k)
        ((s.setRegistry (s.registry.publish t.handle PublishedHandle.publishClosed)).setStage k
          (.reporting entry reply))
  | report (k : ℕ) (t : Thread) (entry : WorkerShutdownEntry) (reply : Bool)
      (thread : s.threads.lookup k = some t) (stage : t.stage = .reporting entry reply) :
      Step core s (.report k)
        { s.setStage k .leaving with
          answers := if reply then s.answers.insert k (some entry) else s.answers }
  -- a backend that still has its connection drops it here
  | leave (k : ℕ) (t : Thread) (thread : s.threads.lookup k = some t)
      (stage : t.stage = .leaving) :
      Step core s (.leave k)
        { (s.setThread k fun t =>
            { t with backend := t.backend.take, queue := [], stage := .left }) with
          requests := orphan t.queue s.requests
          answers := s.dropAnswer k t }
  | finish (k : ℕ) (t : Thread) (thread : s.threads.lookup k = some t) (stage : t.stage = .left) :
      Step core s (.finish k) (s.setStage k (.finished s.now))
  -- shutdowns
  | shutdown (n : ℕ) (free : s.stuck = false) (fresh : n ∉ s.shutdowns)
      (unfrozen : s.registry.frozenReport = none) (running : s.registry.lifecycle = .running) :
      Step core s (.shutdown n)
        { s with
          registry := { s.registry with lifecycle := .stopping }
          opens := s.cancelPending
          shutdowns := s.shutdowns.insert n .owner
          cleanup := some
            { deadline := s.now + core.shutdownTotal
              handles := s.registry.handles.sortedKeys
              pending := s.registry.pendingOpens.sortedKeys
              workers := []
              stage := .signalling } }
  -- another caller came first, and owns the cleanup
  | await (n : ℕ) (free : s.stuck = false) (fresh : n ∉ s.shutdowns)
      (unfrozen : s.registry.frozenReport = none) (stopping : s.registry.lifecycle ≠ .running) :
      Step core s (.shutdown n) { s with shutdowns := s.shutdowns.insert n .waiting }
  | reuse (n : ℕ) (report : ShutdownReport) (free : s.stuck = false)
      (call : s.shutdowns.lookup n = some .waiting ∨ n ∉ s.shutdowns)
      (frozen : s.registry.frozenReport = some report) :
      Step core s (.shutdown n) { s with shutdowns := s.shutdowns.insert n (.returned report) }
  | signal (c : Cleanup) (cleanup : s.cleanup = some c) (stage : c.stage = .signalling) :
      Step core s .signal { (s.setCleanup { c with stage := .visiting }) with shutdown := true }
  -- the deadline is looked at before every handle
  | late (c : Cleanup) (id : String) (rest : List String) (cleanup : s.cleanup = some c)
      (stage : c.stage = .visiting) (next : c.handles = id :: rest) (late : c.deadline ≤ s.now) :
      Step core s .visit
        (s.setCleanup ({ c with handles := rest }.record (.uncertain id "deadline")))
  | visit (c : Cleanup) (id : String) (rest : List String) (cleanup : s.cleanup = some c)
      (stage : c.stage = .visiting) (next : c.handles = id :: rest) (early : s.now < c.deadline) :
      Step core s .visit (s.setCleanup { c with handles := rest, stage := .looking id })
  -- all handles are done; the reservations of the snapshot come next
  | visited (c : Cleanup) (cleanup : s.cleanup = some c) (stage : c.stage = .visiting)
      (done : c.handles = []) :
      Step core s .visit (s.setCleanup { c with stage := .draining })
  | missing (c : Cleanup) (id : String) (free : s.stuck = false) (cleanup : s.cleanup = some c)
      (stage : c.stage = .looking id) (absent : s.registry.handles.lookup id = none) :
      Step core s .look (s.setCleanup (c.record (.uncertain id "missing")))
  | closed (c : Cleanup) (id : String) (entry : WorkerEntry) (free : s.stuck = false)
      (cleanup : s.cleanup = some c) (stage : c.stage = .looking id)
      (present : s.registry.handles.lookup id = some entry) (dead : entry.published.closed = true) :
      Step core s .look (s.setCleanup { c with stage := .joining id })
  | live (c : Cleanup) (id : String) (entry : WorkerEntry) (free : s.stuck = false)
      (cleanup : s.cleanup = some c) (stage : c.stage = .looking id)
      (present : s.registry.handles.lookup id = some entry)
      (live : entry.published.closed = false) :
      Step core s .look (s.setCleanup { c with stage := .enqueuing id entry.sender })
  | joined (c : Cleanup) (id : String) (free : s.stuck = false) (cleanup : s.cleanup = some c)
      (stage : c.stage = .joining id) (finished : s.isFinished id = true) :
      Step core s .joinClosed ((s.join id).setCleanup (c.record (.verified id)))
  | unjoined (c : Cleanup) (id : String) (free : s.stuck = false) (cleanup : s.cleanup = some c)
      (stage : c.stage = .joining id) (running : s.isFinished id = false) :
      Step core s .joinClosed (s.setCleanup { c with stage := .unfinished id })
  | rejoin (c : Cleanup) (id : String) (cleanup : s.cleanup = some c)
      (stage : c.stage = .unfinished id) (early : s.now < c.deadline) :
      Step core s .expire (s.setCleanup { c with stage := .joining id })
  | abandoned (c : Cleanup) (id : String) (cleanup : s.cleanup = some c)
      (stage : c.stage = .unfinished id) (late : c.deadline ≤ s.now) :
      Step core s .expire (s.setCleanup (c.record (.uncertain id "join")))
  | enqueue (c : Cleanup) (id : String) (k : ℕ) (cleanup : s.cleanup = some c)
      (stage : c.stage = .enqueuing id k) (room : s.trySend k = .sent) :
      Step core s .enqueue
        ((s.setThread k (Thread.push (.shutdown true))).setCleanup { c with stage := .enqueued id k })
  -- the request is dropped with its answer
  | unreceived (c : Cleanup) (id : String) (k : ℕ) (cleanup : s.cleanup = some c)
      (stage : c.stage = .enqueuing id k) (gone : s.trySend k = .closed) :
      Step core s .enqueue
        { (s.setCleanup { c with stage := .enqueued id k }) with answers := s.answers.insert k none }
  -- a full queue is tried until the deadline
  | unsent (c : Cleanup) (id : String) (k : ℕ) (cleanup : s.cleanup = some c)
      (stage : c.stage = .enqueuing id k) (full : s.trySend k = .full) (late : c.deadline ≤ s.now) :
      Step core s .enqueue (s.setCleanup (c.record (.uncertain id "enqueue")))
  | check (c : Cleanup) (id : String) (k : ℕ) (cleanup : s.cleanup = some c)
      (stage : c.stage = .enqueued id k) (early : s.now < c.deadline) :
      Step core s .check (s.setCleanup { c with stage := .awaiting id k })
  | overdue (c : Cleanup) (id : String) (k : ℕ) (cleanup : s.cleanup = some c)
      (stage : c.stage = .enqueued id k) (late : c.deadline ≤ s.now) :
      Step core s .check (s.setCleanup (c.record (.uncertain id "deadline")))
  | answered (c : Cleanup) (id : String) (k : ℕ) (entry : WorkerShutdownEntry)
      (cleanup : s.cleanup = some c) (stage : c.stage = .awaiting id k)
      (answer : s.answers.lookup k = some (some entry)) :
      Step core s .await (s.setCleanup { c with stage := .answered id entry })
  | dropped (c : Cleanup) (id : String) (k : ℕ) (cleanup : s.cleanup = some c)
      (stage : c.stage = .awaiting id k) (answer : s.answers.lookup k = some none) :
      Step core s .await (s.setCleanup (c.record (.uncertain id "deadline")))
  | unanswered (c : Cleanup) (id : String) (k : ℕ) (cleanup : s.cleanup = some c)
      (stage : c.stage = .awaiting id k) (answer : s.answers.lookup k = none)
      (late : c.deadline ≤ s.now) :
      Step core s .await (s.setCleanup (c.record (.uncertain id "deadline")))
  | join (c : Cleanup) (id : String) (entry : WorkerShutdownEntry) (free : s.stuck = false)
      (cleanup : s.cleanup = some c) (stage : c.stage = .answered id entry)
      (finished : s.isFinished id = true) :
      Step core s .join ((s.join id).setCleanup (c.record entry))
  -- a worker that has answered is given no time to end
  | unready (c : Cleanup) (id : String) (entry : WorkerShutdownEntry) (free : s.stuck = false)
      (cleanup : s.cleanup = some c) (stage : c.stage = .answered id entry)
      (running : s.isFinished id = false) :
      Step core s .join (s.setCleanup (c.record (.uncertain id "join")))
  | released (c : Cleanup) (id : String) (rest : List String) (free : s.stuck = false)
      (cleanup : s.cleanup = some c) (stage : c.stage = .draining) (next : c.pending = id :: rest)
      (gone : id ∉ s.registry.pendingOpens) :
      Step core s .drain (s.setCleanup { c with pending := rest })
  | pending (c : Cleanup) (id : String) (rest : List String) (free : s.stuck = false)
      (cleanup : s.cleanup = some c) (stage : c.stage = .draining) (next : c.pending = id :: rest)
      (there : id ∈ s.registry.pendingOpens) :
      Step core s .drain (s.setCleanup { c with stage := .stillPending })
  | repoll (c : Cleanup) (cleanup : s.cleanup = some c) (stage : c.stage = .stillPending)
      (early : s.now < c.deadline) :
      Step core s .expire (s.setCleanup { c with stage := .draining })
  -- the deadline ends the wait for each reservation that is still there
  | expired (c : Cleanup) (id : String) (rest : List String) (cleanup : s.cleanup = some c)
      (stage : c.stage = .stillPending) (next : c.pending = id :: rest)
      (late : c.deadline ≤ s.now) :
      Step core s .expire
        (s.setCleanup { c with
          pending := rest
          workers := c.workers ++ [.uncertain id "pending-open"]
          stage := .draining })
  -- the first report that is stored is the one everybody gets
  | freeze (c : Cleanup) (n : ℕ) (free : s.stuck = false) (cleanup : s.cleanup = some c)
      (stage : c.stage = .draining) (done : c.pending = [])
      (owner : s.shutdowns.lookup n = some .owner) (report : ShutdownReport)
      (same : report = s.registry.frozenReport.getD c.report) :
      Step core s .freeze
        { (s.setCleanup { c with stage := .reported }) with
          registry :=
            { s.registry with lifecycle := .stopped, frozenReport := some report }
          shutdowns := s.shutdowns.insert n (.returned report) }

/-- A step with the states before and after it. -/
structure Label where
  action : Action
  before : Server
  after : Server

/-- The labelled steps of a server. -/
def Acts (core : Core) (s : Server) (l : Label) (t : Server) : Prop :=
  l.before = s ∧ l.after = t ∧ Step core s l.action t

end Server

/-! ### One request of a worker -/

/-- The steps of a worker with one request are what `serve` does with it. -/
theorem serve_returns {rounds : ℕ} {config : Config} {operation : Operation} {ctx : RequestContext}
    {s w : Worker} {result : Reply}
    (h : (executeOperation rounds config operation ctx).Returns s result w) :
    (serve rounds config operation ctx).Returns s
      (.ok ((w.settled operation result).settledReply operation result))
      (w.settled operation result) := by
  have hattempt : ((executeOperation rounds config operation ctx).attempt :
      Program Worker CoreFailure Reply) s = .ok result w := by
    unfold Returns at h
    unfold attempt
    rw [h]
    cases result <;> rfl
  unfold Returns serve
  rw [bind_ok hattempt]
  rfl

end PgMcp
