import PgMcp.Core.Lifecycle
import PgMcp.Core.Workers

/-!
# One handle of a server

A station is a registered handle with its worker thread.  A step of the server is a step of
the station, or it leaves the station alone but for its join handle.  What the properties of
a single handle need of the server is in this one relation.

## Main definitions

* `Station`, `Server.Hosts` — a handle with its thread, and where it is in a server.
* `Station.Step` — what a step of the server is for a station.
* `Server.Prepared` — the thread of an open that is about to register its handle.

## Main results

* `Server.Step.station` — every step of the server is one of the station.
* `Server.hosts_of_run` — a registered handle has its station, which began with an empty queue.
-/

namespace PgMcp

open Program

/-- A registered handle with its thread. -/
structure Station where
  entry : WorkerEntry
  thread : Thread

/-- A station whose handle was just registered. -/
structure Station.Fresh (x : Station) : Prop where
  worker : Worker.Fresh { published := x.entry.published, backend := x.thread.backend }
  config : x.thread.config = x.entry.config
  admitted : x.entry.admitted = 0
  idle : x.thread.stage = .idle
  queue : x.thread.queue = []

/-- The thread a step is one of. -/
def Action.thread : Action → Option ℕ
  | .take k | .execute k _ | .record k | .settle k | .reply k | .release k | .clean k _ _
  | .close k | .report k | .leave k | .finish k => some k
  | _ => none

/-- What a step of the server `s` is for a station. -/
inductive Station.Step (s : Server) (x : Station) : Action → Station → Prop where
  | admits (n : ℕ) (c : RequestCall) (call : s.requests.lookup n = some c)
      (stage : c.stage = .admitting) (handle : c.handle = x.thread.handle)
      (running : s.registry.lifecycle = .running) (live : x.entry.published.closed = false)
      (room : x.entry.admitted < x.entry.config.outstandingRequests)
      (queue : x.thread.trySend = .sent) :
      Step s x (.admitCall n)
        { entry := { x.entry with admitted := x.entry.admitted + 1 }
          thread := x.thread.push (.operation n c.operation) }
  | enqueue (cleanup : s.cleanup ≠ none) (queue : x.thread.trySend = .sent) :
      Step s x .enqueue { x with thread := x.thread.push (.shutdown true) }
  | take (request : Request) (rest : List Request) (stage : x.thread.stage = .idle)
      (queue : x.thread.queue = request :: rest) :
      Step s x (.take x.entry.sender)
        { x with thread := { x.thread with queue := rest, stage := request.stage } }
  | execute (call : ℕ) (operation : Operation) (env : Environment) (rounds : ℕ) (result : Reply)
      (w : Worker) (stage : x.thread.stage = .serving call operation)
      (runs : (executeOperation rounds x.thread.config operation env.ctx).Returns
        { published := x.entry.published, backend := x.thread.backend.install env } result w) :
      Step s x (.execute x.entry.sender env)
        { x with thread := { x.thread with
            backend := w.backend, stage := .publishing call operation result w.published } }
  | record (call : ℕ) (operation : Operation) (result : Reply) (published : PublishedHandle)
      (stage : x.thread.stage = .publishing call operation result published) :
      Step s x (.record x.entry.sender)
        { entry := { x.entry with published := published }
          thread := { x.thread with stage := .settling call operation result } }
  | settle (call : ℕ) (operation : Operation) (result : Reply) (w : Worker)
      (stage : x.thread.stage = .settling call operation result)
      (settled : w = Worker.settled operation result
        { published := x.entry.published, backend := x.thread.backend }) :
      Step s x (.settle x.entry.sender)
        { entry := { x.entry with published := w.published }
          thread := { x.thread with
            stage := .replying call (closeSucceeded operation result)
              (w.settledReply operation result) } }
  | reply (call : ℕ) (closed : Bool) (reply : Reply)
      (stage : x.thread.stage = .replying call closed reply) :
      Step s x (.reply x.entry.sender) { x with thread := { x.thread with stage := .releasing closed } }
  | release (closed : Bool) (stage : x.thread.stage = .releasing closed) :
      Step s x (.release x.entry.sender)
        { entry := { x.entry with admitted := x.entry.admitted - 1 }
          thread := { x.thread with stage := if closed then .leaving else .idle } }
  | clean (reply : Bool) (env : Environment) (rounds : ℕ) (result : ShutdownWorkerResult)
      (backend : LibpqBackend) (stage : x.thread.stage = .cleaning reply)
      (runs : (Backend.shutdown rounds env.ctx).Returns (x.thread.backend.install env) (.ok result)
        backend) :
      Step s x (.clean x.entry.sender env result)
        { x with thread := { x.thread with
            backend := backend, stage := .closing (result.entry x.thread.handle) reply } }
  | close (entry : WorkerShutdownEntry) (reply : Bool) (stage : x.thread.stage = .closing entry reply) :
      Step s x (.close x.entry.sender)
        { entry := { x.entry with published := x.entry.published.publishClosed }
          thread := { x.thread with stage := .reporting entry reply } }
  | report (entry : WorkerShutdownEntry) (reply : Bool)
      (stage : x.thread.stage = .reporting entry reply) :
      Step s x (.report x.entry.sender) { x with thread := { x.thread with stage := .leaving } }
  | leave (stage : x.thread.stage = .leaving) :
      Step s x (.leave x.entry.sender)
        { x with thread := { x.thread with
            backend := x.thread.backend.take, queue := [], stage := .left } }
  | finish (stage : x.thread.stage = .left) :
      Step s x (.finish x.entry.sender)
        { x with thread := { x.thread with stage := .finished s.now } }
  /-- Somebody else's step. -/
  | aside (a : Action) (y : Station) (other : a.thread ≠ some x.entry.sender)
      (key : y.entry.key = x.entry.key) (published : y.entry.published = x.entry.published)
      (admitted : y.entry.admitted = x.entry.admitted) (thread : y.thread = x.thread) : Step s x a y

/-- A handle stays with its profile, its limits and its worker. -/
theorem Station.Step.key {s : Server} {x y : Station} {a : Action} (h : x.Step s a y) :
    y.entry.key = x.entry.key := by
  cases h with
  | aside a y other key => exact key
  | _ => rfl

namespace Server

variable {core : Core} {s t : Server} {id : String} {x : Station}

/-- The station of a handle. -/
structure Hosts (s : Server) (id : String) (x : Station) : Prop where
  entry : s.registry.handles.lookup id = some x.entry
  thread : s.threads.lookup x.entry.sender = some x.thread

/-- The thread of a station has the id of its handle. -/
theorem Hosts.handle (hx : s.Hosts id x) (hb : s.Booked) (hw : s.Staffed) : x.thread.handle = id :=
  ((hw.sender_iff hb hx.thread hx.entry).mp rfl).symm

/-- Two handles do not share a thread. -/
theorem Hosts.sender_inj (hx : s.Hosts id x) (hb : s.Booked) (hw : s.Staffed) {id' : String}
    {entry : WorkerEntry} (present : s.registry.handles.lookup id' = some entry)
    (same : entry.sender = x.entry.sender) : id' = id :=
  ((hw.sender_iff hb hx.thread present).mp same).trans (hx.handle hb hw)

/-- A step of a thread is one of the station, or leaves it alone. -/
theorem Hosts.work (hx : s.Hosts id x) (hb : s.Booked) (hw : s.Staffed) {k : ℕ} {thread : Thread}
    {f : Thread → Thread} {g : WorkerEntry → WorkerEntry} (lookup : s.threads.lookup k = some thread)
    (threads : t.threads = s.threads.modify k f)
    (handles : t.registry.handles = s.registry.handles.modify thread.handle g)
    (sender : ∀ e, (g e).sender = e.sender) :
    (k = x.entry.sender ∧ thread = x.thread ∧ t.Hosts id ⟨g x.entry, f x.thread⟩) ∨
      (k ≠ x.entry.sender ∧ t.Hosts id x) := by
  have hserves := hw.sender_iff hb lookup hx.entry
  by_cases hk : k = x.entry.sender
  · subst hk
    have hthread := hx.thread
    rw [lookup, Option.some.injEq] at hthread
    subst hthread
    refine .inl ⟨rfl, rfl, ?_, ?_⟩
    · rw [handles, hserves.mp rfl, Table.lookup_modify_self, ← hserves.mp rfl, hx.entry]
      rfl
    · rw [threads, sender, Table.lookup_modify_self, lookup]
      rfl
  · refine .inr ⟨hk, ?_, ?_⟩
    · rw [handles, Table.lookup_modify_ne fun h => hk (hserves.mpr h).symm]
      exact hx.entry
    · rw [threads, Table.lookup_modify_ne (Ne.symm hk)]
      exact hx.thread

/-- A step that publishes nothing. -/
theorem Hosts.turn (hx : s.Hosts id x) {k : ℕ} {thread : Thread}
    {f : Thread → Thread} (lookup : s.threads.lookup k = some thread)
    (threads : t.threads = s.threads.modify k f)
    (handles : t.registry.handles = s.registry.handles) :
    (k = x.entry.sender ∧ thread = x.thread ∧ t.Hosts id ⟨x.entry, f x.thread⟩) ∨
      (k ≠ x.entry.sender ∧ t.Hosts id x) := by
  by_cases hk : k = x.entry.sender
  · subst hk
    have hthread := hx.thread
    rw [lookup, Option.some.injEq] at hthread
    subst hthread
    refine .inl ⟨rfl, rfl, handles ▸ hx.entry, ?_⟩
    rw [threads, Table.lookup_modify_self, lookup]
    rfl
  · refine .inr ⟨hk, handles ▸ hx.entry, ?_⟩
    rw [threads, Table.lookup_modify_ne (Ne.symm hk)]
    exact hx.thread

/-- The station is where it was. -/
theorem Hosts.same (hx : s.Hosts id x) (handles : t.registry.handles = s.registry.handles)
    (threads : t.threads = s.threads) : t.Hosts id x :=
  ⟨handles ▸ hx.entry, threads ▸ hx.thread⟩

theorem Hosts.trySend (hx : s.Hosts id x) : s.trySend x.entry.sender = x.thread.trySend := by
  unfold Server.trySend
  rw [hx.thread]

/-- Joining a thread changes the entry of its handle. -/
theorem Hosts.join (hx : s.Hosts id x) (id' : String) : ∃ y : Station, (s.join id').Hosts id y ∧
    y.entry.key = x.entry.key ∧ y.entry.published = x.entry.published ∧
    y.entry.admitted = x.entry.admitted ∧ y.thread = x.thread := by
  have hlookup : (s.join id').registry.handles.lookup id =
      if id = id' then some { x.entry with join := none } else some x.entry := by
    unfold Server.join setRegistry Registry.modify
    simp only
    rw [Table.lookup_modify]
    split
    · next h =>
      rw [← h, hx.entry]
      rfl
    · exact hx.entry
  by_cases h : id = id'
  · rw [if_pos h] at hlookup
    exact ⟨⟨_, x.thread⟩, ⟨hlookup, hx.thread⟩, rfl, rfl, rfl, rfl⟩
  · rw [if_neg h] at hlookup
    exact ⟨x, ⟨hlookup, hx.thread⟩, rfl, rfl, rfl, rfl⟩

/-- An admission is one of the station, or leaves it alone. -/
theorem Hosts.admits (hx : s.Hosts id x) (hb : s.Booked) (hw : s.Staffed) {c : RequestCall}
    {result : Except CoreFailure ℕ} {r : Registry} (h : Admission s.trySend s.registry c.handle result r) :
    (∃ k, result = .ok k ∧ k = x.entry.sender ∧ c.handle = id ∧ s.registry.lifecycle = .running ∧
        x.entry.published.closed = false ∧ x.entry.admitted < x.entry.config.outstandingRequests ∧
        x.thread.trySend = .sent ∧
        r.handles.lookup id = some { x.entry with admitted := x.entry.admitted + 1 }) ∨
      ((∀ k, result = .ok k → k ≠ x.entry.sender) ∧ r.handles.lookup id = some x.entry) := by
  cases h with
  | stopping | unknown | busy => exact .inr ⟨nofun, hx.entry⟩
  | rejected entry code running present live free queue r same =>
    refine .inr ⟨nofun, ?_⟩
    subst same
    unfold Registry.modify
    simp only
    by_cases hid : id = c.handle
    · rw [← hid, Table.lookup_modify_self, Table.lookup_modify_self, hx.entry]
      rfl
    · rw [Table.lookup_modify_ne hid, Table.lookup_modify_ne hid]
      exact hx.entry
  | sent entry running present live free queue =>
    by_cases hid : c.handle = id
    · rw [hid, hx.entry, Option.some.injEq] at present
      subst present
      refine .inl ⟨_, rfl, rfl, hid, running, live, free, hx.trySend ▸ queue, ?_⟩
      unfold Registry.modify
      simp only
      rw [hid, Table.lookup_modify_self, hx.entry]
      rfl
    · refine .inr ⟨?_, ?_⟩
      · intro k hk
        cases hk
        exact fun h => hid (hx.sender_inj hb hw present h)
      · unfold Registry.modify
        simp only
        rw [Table.lookup_modify_ne (Ne.symm hid)]
        exact hx.entry

/-- Every step of the server is one of the station. -/
theorem Step.station (hb : s.Booked) (hw : s.Staffed) {a : Action} (h : Step core s a t)
    (hx : s.Hosts id x) : ∃ y, t.Hosts id y ∧ x.Step s a y := by
  -- a step that is not one of this worker shows it as it was
  have aside : t.Hosts id x → a.thread ≠ some x.entry.sender → ∃ y, t.Hosts id y ∧ x.Step s a y :=
    fun ht other => ⟨x, ht, .aside a x other rfl rfl rfl rfl⟩
  have others : ∀ {k}, k ≠ x.entry.sender → some k ≠ some x.entry.sender := fun hk h =>
    hk (Option.some.inj h)
  cases h with
  | reserved k profile reservation r free fresh result =>
    obtain ⟨-, -, -, -, -, rfl⟩ := Core.reserveOpen_ok result
    exact aside (hx.same rfl rfl) nofun
  -- the thread of an open without a handle serves no handle
  | spawn k c config database backend call stage =>
    refine aside ⟨hx.entry, ?_⟩ nofun
    have hne := Staffed.not_sender hb call (by rw [stage]; rfl) hx.entry
    exact (AList.lookup_insert_ne hne).trans hx.thread
  | published k c config published r free call stage result =>
    unfold Registry.publishOpen at result
    split_ifs at result
    cases result
    refine aside ⟨?_, hx.thread⟩ nofun
    have hne : id ≠ c.reservation.id := by
      rintro rfl
      exact hb.unregistered call (by rw [stage]; rfl) (Table.mem_of_lookup hx.entry)
    exact (AList.lookup_insert_ne hne).trans hx.entry
  | dismiss k c call stage =>
    have hne := Staffed.not_sender hb call (by rw [stage]; rfl) hx.entry
    refine aside ?_ nofun
    split
    · exact ⟨hx.entry, (Table.lookup_modify_ne hne).trans hx.thread⟩
    · exact hx.same rfl rfl
  -- the request is for this handle, or its queue stays as it is
  | admitted n c k r free call stage result =>
    obtain ⟨r', hr, hadmission⟩ := Admission.of_returns result
    cases hr
    rcases hx.admits hb hw hadmission with
      ⟨k', hk', rfl, hid, running, live, room, queue, hentry⟩ | ⟨hother, hentry⟩
    · cases hk'
      refine ⟨⟨_, _⟩, ⟨hentry, ?_⟩, .admits n c call stage ?_ running live room queue⟩
      · show (s.threads.modify _ _).lookup _ = _
        rw [Table.lookup_modify_self, hx.thread]
        rfl
      · rw [hx.handle hb hw, hid]
    · refine aside ⟨hentry, ?_⟩ nofun
      exact (Table.lookup_modify_ne (Ne.symm (hother k rfl))).trans hx.thread
  | unadmitted n c failure r free call stage result =>
    obtain ⟨r', hr, hadmission⟩ := Admission.of_returns result
    cases hr
    rcases hx.admits hb hw hadmission with ⟨k', hk', -⟩ | ⟨-, hentry⟩
    · cases hk'
    · exact aside ⟨hentry, hx.thread⟩ nofun
  | enqueue c id' k cleanup stage room =>
    by_cases hk : k = x.entry.sender
    · subst hk
      refine ⟨⟨x.entry, x.thread.push (.shutdown true)⟩, ⟨hx.entry, ?_⟩,
        .enqueue (by rw [cleanup]; nofun) (hx.trySend ▸ room)⟩
      show (s.threads.modify _ _).lookup _ = _
      rw [Table.lookup_modify_self, hx.thread]
      rfl
    · exact aside ⟨hx.entry, (Table.lookup_modify_ne (Ne.symm hk)).trans hx.thread⟩ nofun
  | joined c id' free cleanup stage finished =>
    obtain ⟨y, hy, hkey, hpublished, hadmitted, hthread⟩ := hx.join id'
    exact ⟨y, hy.same rfl rfl, .aside _ y nofun hkey hpublished hadmitted hthread⟩
  | join c id' entry free cleanup stage finished =>
    obtain ⟨y, hy, hkey, hpublished, hadmitted, hthread⟩ := hx.join id'
    exact ⟨y, hy.same rfl rfl, .aside _ y nofun hkey hpublished hadmitted hthread⟩
  | take k thread request rest lookup stage queue =>
    rcases hx.turn lookup (t := s.setThread k _) rfl rfl with ⟨rfl, rfl, ht⟩ | ⟨hk, ht⟩
    · exact ⟨_, ht, .take request rest stage queue⟩
    · exact aside ht (others hk)
  | execute k thread call operation entry env rounds result w free lookup stage present runs =>
    rcases hx.turn lookup (t := s.setThread k _) rfl rfl with ⟨rfl, rfl, ht⟩ | ⟨hk, ht⟩
    · rw [hx.handle hb hw, hx.entry, Option.some.injEq] at present
      subst present
      exact ⟨_, ht, .execute call operation env rounds result w stage runs⟩
    · exact aside ht (others hk)
  | record k thread call operation result published free lookup stage =>
    rcases hx.work hb hw lookup (t := (s.setRegistry
        (s.registry.publish thread.handle fun _ => published)).setStage k _)
        (g := fun entry => { entry with published := published }) rfl rfl (fun _ => rfl) with
      ⟨rfl, rfl, ht⟩ | ⟨hk, ht⟩
    · exact ⟨_, ht, .record call operation result published stage⟩
    · exact aside ht (others hk)
  | settle k thread call operation result entry w free lookup stage present settled =>
    rcases hx.work hb hw lookup (t := (s.setRegistry
        (s.registry.publish thread.handle fun _ => w.published)).setStage k _)
        (g := fun entry => { entry with published := w.published }) rfl rfl (fun _ => rfl) with
      ⟨rfl, rfl, ht⟩ | ⟨hk, ht⟩
    · rw [hx.handle hb hw, hx.entry, Option.some.injEq] at present
      subst present
      exact ⟨_, ht, .settle call operation result w stage settled⟩
    · exact aside ht (others hk)
  | reply k thread call closed reply lookup stage =>
    rcases hx.turn lookup (t := (s.setRequest call _).setStage k _) rfl rfl with
      ⟨rfl, rfl, ht⟩ | ⟨hk, ht⟩
    · exact ⟨_, ht, .reply call closed reply stage⟩
    · exact aside ht (others hk)
  | release k thread closed free lookup stage =>
    rcases hx.work hb hw lookup (t := (s.setRegistry
        (s.registry.modify thread.handle _)).setStage k _)
        (g := fun entry => { entry with admitted := entry.admitted - 1 }) rfl rfl (fun _ => rfl) with
      ⟨rfl, rfl, ht⟩ | ⟨hk, ht⟩
    · exact ⟨_, ht, .release closed stage⟩
    · exact aside ht (others hk)
  | clean k thread reply env rounds result backend lookup stage runs =>
    rcases hx.turn lookup (t := s.setThread k _) rfl rfl with ⟨rfl, rfl, ht⟩ | ⟨hk, ht⟩
    · exact ⟨_, ht, .clean reply env rounds result backend stage runs⟩
    · exact aside ht (others hk)
  | close k thread entry reply free lookup stage =>
    rcases hx.work hb hw lookup (t := (s.setRegistry
        (s.registry.publish thread.handle PublishedHandle.publishClosed)).setStage k _)
        (g := fun entry => { entry with published := entry.published.publishClosed }) rfl rfl
        (fun _ => rfl) with
      ⟨rfl, rfl, ht⟩ | ⟨hk, ht⟩
    · exact ⟨_, ht, .close entry reply stage⟩
    · exact aside ht (others hk)
  | report k thread entry reply lookup stage =>
    rcases hx.turn lookup (t := s.setStage k _) rfl rfl with ⟨rfl, rfl, ht⟩ | ⟨hk, ht⟩
    · exact ⟨_, ht.same rfl rfl, .report entry reply stage⟩
    · exact aside (ht.same rfl rfl) (others hk)
  | leave k thread lookup stage =>
    rcases hx.turn lookup (t := s.setThread k fun t =>
        { t with backend := t.backend.take, queue := [], stage := .left }) rfl rfl with
      ⟨rfl, rfl, ht⟩ | ⟨hk, ht⟩
    · exact ⟨_, ht.same rfl rfl, .leave stage⟩
    · exact aside (ht.same rfl rfl) (others hk)
  | finish k thread lookup stage =>
    rcases hx.turn lookup (t := s.setStage k _) rfl rfl with ⟨rfl, rfl, ht⟩ | ⟨hk, ht⟩
    · exact ⟨_, ht, .finish stage⟩
    · exact aside ht (others hk)
  | _ => exact aside (hx.same rfl rfl) nofun

/-! ### Where a station comes from -/

/-- The connections and the threads of the opens that are under way. -/
structure Prepared (s : Server) : Prop where
  connected : ∀ k c config database backend, s.opens.lookup k = some c →
    c.stage = .connected config database backend → backend.present = true
  spawning : ∀ k c config database backend, s.opens.lookup k = some c →
    c.stage = .spawning config database backend →
      backend.present = true ∧ OpenCall.usable backend.observation = true
  publishing : ∀ k c config published, s.opens.lookup k = some c →
    c.stage = .publishing config published → ∃ thread, s.threads.lookup k = some thread ∧
      thread.handle = c.reservation.id ∧ thread.config = config ∧ thread.stage = .idle ∧
      thread.queue = [] ∧ Worker.Fresh { published := published, backend := thread.backend }

theorem prepared_new : new.Prepared where
  connected k c config database backend h := by simp [new] at h
  spawning k c config database backend h := by simp [new] at h
  publishing k c config published h := by simp [new] at h

theorem usable_iff {b : LibpqBackend} (present : b.present = true) :
    OpenCall.usable b.observation = true ↔
      b.wire.connectionStatus = .ok ∧ b.wire.transactionStatus = .idle := by
  unfold OpenCall.usable LibpqBackend.observation
  rw [if_pos present]
  unfold Wire.observation
  cases b.wire.connectionStatus <;> simp [WireStatus.backend]

/-- The worker of a connection that is there and usable. -/
theorem fresh_snapshot {c : OpenCall} {database : String} {backend : LibpqBackend}
    (present : backend.present = true) (usable : OpenCall.usable backend.observation = true) :
    Worker.Fresh { published := c.snapshot database backend, backend := backend } where
  present := present
  usable := ((usable_iff present).mp usable).1
  idle := ((usable_iff present).mp usable).2
  observation := rfl
  unobserved := rfl
  clean := rfl
  live := rfl

/-- An open goes on, and registers nothing. -/
theorem Prepared.setOpen (hp : s.Prepared) {k : ℕ} {c : OpenCall} {stage : OpenStage}
    (call : s.opens.lookup k = some c)
    (connected : ∀ config database backend, stage = .connected config database backend →
      backend.present = true)
    (spawning : ∀ config database backend, stage = .spawning config database backend →
      backend.present = true ∧ OpenCall.usable backend.observation = true)
    (quiet : ∀ config published, stage ≠ .publishing config published) :
    (s.setOpen k stage).Prepared where
  connected k' d config database backend hd hstage := by
    rcases lookup_setOpen call hd with ⟨rfl, rfl⟩ | ⟨-, h⟩
    · exact connected config database backend hstage
    · exact hp.connected k' d config database backend h hstage
  spawning k' d config database backend hd hstage := by
    rcases lookup_setOpen call hd with ⟨rfl, rfl⟩ | ⟨-, h⟩
    · exact spawning config database backend hstage
    · exact hp.spawning k' d config database backend h hstage
  publishing k' d config published hd hstage := by
    rcases lookup_setOpen call hd with ⟨rfl, rfl⟩ | ⟨-, h⟩
    · exact absurd hstage (quiet config published)
    · exact hp.publishing k' d config published h hstage

/-- What an open does between its critical sections. -/
theorem Prepared.moves (hp : s.Prepared) {k : ℕ} {c : OpenCall} {stage : OpenStage}
    (call : s.opens.lookup k = some c) (moves : c.Moves core s.now stage) :
    (s.setOpen k stage).Prepared := by
  refine hp.setOpen call ?_ ?_ moves.started.2
  · intro config database backend hstage
    cases moves with
    | connected config dsn database backend before present =>
      cases hstage
      exact present
    | _ => cases hstage
  · intro config database backend hstage
    cases moves with
    | accepted config database backend before calm good =>
      cases hstage
      exact ⟨hp.connected k c config database backend call before, good⟩
    | _ => cases hstage

/-- The opens after a step. -/
theorem Prepared.step (hp : s.Prepared) (hb : s.Booked) (hw : s.Staffed) {a : Action}
    (h : Step core s a t) : t.Prepared := by
  cases ha : a.isOpen with
  | false =>
    have frames := h.frames ha
    have hopen : ∀ {k c}, t.opens.lookup k = some c → ∃ d, s.opens.lookup k = some d ∧
        d.reservation = c.reservation ∧ d.stage = c.stage := by
      intro k c hc
      obtain ⟨d, hd, hcore⟩ := Table.exists_of_view frames.opens hc
      simp only [OpenCall.core, Prod.mk.injEq] at hcore
      exact ⟨d, hd, hcore.1, hcore.2.2⟩
    constructor
    · intro k c config database backend hc hstage
      obtain ⟨d, hd, -, hsame⟩ := hopen hc
      exact hp.connected k d config database backend hd (hsame.trans hstage)
    · intro k c config database backend hc hstage
      obtain ⟨d, hd, -, hsame⟩ := hopen hc
      exact hp.spawning k d config database backend hd (hsame.trans hstage)
    · intro k c config published hc hstage
      obtain ⟨d, hd, hres, hsame⟩ := hopen hc
      obtain ⟨thread, hthread, hhandle, hconfig, hidle, hqueue, hfresh⟩ :=
        hp.publishing k d config published hd (hsame.trans hstage)
      exact ⟨thread, hw.resting hb (h.effect ha) hd (hsame.trans hstage) hthread hidle hqueue,
        by rw [hhandle, hres], hconfig, hidle, hqueue, hfresh⟩
  | true =>
    cases h with
    | reserved k profile reservation r free fresh result =>
      obtain ⟨config, -, -, -, -, rfl⟩ := Core.reserveOpen_ok result
      have hinsert : ∀ {k' d}, (s.opens.insert k
          { reservation := reservation, profile := profile, cancelled := false, stopping := false,
            stage := .resolving }).lookup k' = some d →
            d.stage = .resolving ∨ s.opens.lookup k' = some d := by
        intro k' d hd
        rw [Table.lookup_insert] at hd
        split at hd
        · cases hd
          exact .inl rfl
        · exact .inr hd
      constructor
      · intro k' d config database backend hd hstage
        rcases hinsert hd with hnew | hold
        · rw [hnew] at hstage
          cases hstage
        · exact hp.connected k' d config database backend hold hstage
      · intro k' d config database backend hd hstage
        rcases hinsert hd with hnew | hold
        · rw [hnew] at hstage
          cases hstage
        · exact hp.spawning k' d config database backend hold hstage
      · intro k' d config published hd hstage
        rcases hinsert hd with hnew | hold
        · rw [hnew] at hstage
          cases hstage
        · exact hp.publishing k' d config published hold hstage
    | unreserved => exact hp
    | «open» k c stage call moves => exact hp.moves call moves
    | spawn k c config database backend call stage =>
      obtain ⟨present, usable⟩ := hp.spawning k c config database backend call stage
      constructor
      · intro k' d config' database' backend' hd hstage
        rcases lookup_setOpen call hd with ⟨rfl, rfl⟩ | ⟨-, h⟩
        · cases hstage
        · exact hp.connected k' d config' database' backend' h hstage
      · intro k' d config' database' backend' hd hstage
        rcases lookup_setOpen call hd with ⟨rfl, rfl⟩ | ⟨-, h⟩
        · cases hstage
        · exact hp.spawning k' d config' database' backend' h hstage
      · intro k' d config' published hd hstage
        rcases lookup_setOpen call hd with ⟨rfl, rfl⟩ | ⟨hk, h⟩
        · cases hstage
          exact ⟨_, AList.lookup_insert _, rfl, rfl, rfl, rfl, fresh_snapshot present usable⟩
        · obtain ⟨thread, hthread, hrest⟩ := hp.publishing k' d config' published h hstage
          exact ⟨thread, (AList.lookup_insert_ne hk).trans hthread, hrest⟩
    | published k c config published r free call stage result =>
      have hregistered : (s.setRegistry r).Prepared := ⟨hp.connected, hp.spawning, hp.publishing⟩
      exact hregistered.setOpen call (by simp) (by simp) (by simp)
    | unpublished k c config published free call stage result =>
      exact hp.setOpen call (by simp) (by simp) (by simp)
    | dismiss k c call stage =>
      split
      · have hsent : (s.setThread k (Thread.push (.shutdown false))).Prepared := by
          refine ⟨hp.connected, hp.spawning, fun k' d config published hd hstage => ?_⟩
          obtain ⟨thread, hthread, hhandle, hconfig, hidle, hqueue, hfresh⟩ :=
            hp.publishing k' d config published hd hstage
          have effect : s.Effect (s.setThread k (Thread.push (.shutdown false))) :=
            .send k _ (.inr (.inr ⟨c, call, stage⟩)) rfl rfl
          exact ⟨thread, hw.resting hb effect hd hstage hthread hidle hqueue, hhandle, hconfig, hidle,
            hqueue, hfresh⟩
        exact hsent.setOpen call (by simp) (by simp) (by simp)
      · exact hp.setOpen call (by simp) (by simp) (by simp)
    | finishOpen k c refusal backend free call stage =>
      have hreleased : (s.setRegistry (s.registry.finishOpen c.reservation.id)).Prepared :=
        ⟨hp.connected, hp.spawning, hp.publishing⟩
      exact hreleased.setOpen call (by simp) (by simp) (by simp)
    | _ => cases ha

/-- What every reachable state of a run that gives no id twice has. -/
structure Sound (s : Server) : Prop where
  booked : s.Booked
  staffed : s.Staffed
  prepared : s.Prepared
  elected : s.Elected

theorem sound_new : new.Sound := ⟨booked_new, staffed_new, prepared_new, elected_new⟩

theorem Sound.step (hs : s.Sound) {l : Label} (hl : Acts core s l t) (hnew : l.NewId) : t.Sound := by
  obtain ⟨rfl, rfl, h⟩ := hl
  exact ⟨hs.booked.step h hnew, hs.staffed.step hs.booked h,
    hs.prepared.step hs.booked hs.staffed h, hs.elected.step h⟩

theorem Sound.run (hs : s.Sound) {ls : List Label} (run : Run (Acts core) s ls t)
    (hnew : ∀ l ∈ ls, l.NewId) : t.Sound := by
  refine run.invariant (I := Sound) (G := Label.NewId) ?_ hnew hs
  exact fun s l t hs hl step => hs.step step hl

/-! ### Runs of a station -/

/-- A step of the server, for the station of handle `id`. -/
structure Visits (id : String) (x : Station) (l : Label) (y : Station) : Prop where
  before : l.before.Hosts id x
  after : l.after.Hosts id y
  sound : l.before.Sound
  step : x.Step l.before l.action y

/-- A run of the server is one of every station it begins with. -/
theorem Hosts.run {ls : List Label} (run : Run (Acts core) s ls t) (hs : s.Sound)
    (hnew : ∀ l ∈ ls, l.NewId) (hx : s.Hosts id x) :
    ∃ y, t.Hosts id y ∧ Run (Visits id) x ls y := by
  induction run with
  | nil => exact ⟨x, hx, .nil x⟩
  | @snoc t u ls l run last ih =>
    have hpre : ∀ l ∈ ls, l.NewId := fun l hl => hnew l (List.mem_append_left _ hl)
    obtain ⟨y, hy, visits⟩ := ih hpre
    have ht := hs.run run hpre
    obtain ⟨rfl, rfl, h⟩ := last
    obtain ⟨z, hz, step⟩ := h.station ht.booked ht.staffed hy
    exact ⟨z, hz, .snoc visits ⟨hy, hz, ht, step⟩⟩

theorem Hosts.unique {y : Station} (hx : s.Hosts id x) (hy : s.Hosts id y) : x = y := by
  obtain ⟨entry, thread⟩ := x
  obtain ⟨entry', thread'⟩ := y
  have hentry := hx.entry.symm.trans hy.entry
  simp only [Option.some.injEq] at hentry
  subst hentry
  have hthread := hx.thread.symm.trans hy.thread
  simp only [Option.some.injEq] at hthread
  rw [hthread]

/-- Every registered handle has a station. -/
theorem Staffed.hosts (hw : s.Staffed) {entry : WorkerEntry}
    (present : s.registry.handles.lookup id = some entry) :
    ∃ thread, s.Hosts id ⟨entry, thread⟩ := by
  obtain ⟨thread, hthread, -⟩ := hw.worker id entry present
  exact ⟨thread, present, hthread⟩

/-- A handle that appears in a step is registered in it. -/
theorem Step.registers (hs : s.Sound) {a : Action} (h : Step core s a t)
    (absent : s.registry.handles.lookup id = none) (hx : t.Hosts id x) :
    a = .publish x.entry.sender true ∧ x.Fresh := by
  have hsame : t.registry.handles = s.registry.handles → a = .publish x.entry.sender true ∧ x.Fresh := by
    intro handles
    have := hx.entry
    rw [handles, absent] at this
    cases this
  cases ha : a.isOpen with
  | false =>
    obtain ⟨entry, present, -⟩ := Table.exists_of_view (h.frames ha).handles hx.entry
    rw [absent] at present
    cases present
  | true =>
    cases h with
    | reserved k profile reservation r free fresh result =>
      obtain ⟨config, -, -, -, -, rfl⟩ := Core.reserveOpen_ok result
      exact hsame rfl
    | published k c config published r free call stage result =>
      obtain ⟨thread, hthread, hhandle, hconfig, hidle, hqueue, hfresh⟩ :=
        hs.prepared.publishing k c config published call stage
      unfold Registry.publishOpen at result
      split_ifs at result
      cases result
      have hentry : (s.registry.handles.insert c.reservation.id _).lookup id = some x.entry := hx.entry
      rw [Table.lookup_insert] at hentry
      split at hentry
      · obtain ⟨entry, thread'⟩ := x
        cases hentry
        have hthread' : s.threads.lookup k = some thread' := hx.thread
        rw [hthread, Option.some.injEq] at hthread'
        subst hthread'
        exact ⟨rfl, hfresh, hconfig, rfl, hidle, hqueue⟩
      · rw [absent] at hentry
        cases hentry
    | dismiss =>
      refine hsame ?_
      split <;> rfl
    | unreserved | «open» | spawn | unpublished | finishOpen => exact hsame rfl
    | _ => cases ha

/-- Every station has come from the step that has registered its handle. -/
theorem Hosts.origin {ls : List Label} (run : Run (Acts core) new ls s) (hnew : ∀ l ∈ ls, l.NewId)
    (hx : s.Hosts id x) : ∃ pre l post x₀, ls = pre ++ l :: post ∧ Run (Acts core) new pre l.before ∧
      l.before.registry.handles.lookup id = none ∧ l.action = .publish x₀.entry.sender true ∧
      x₀.Fresh ∧ Run (Visits id) x₀ post x := by
  induction run generalizing x with
  | nil =>
    have := hx.entry
    simp [new, Registry.new] at this
  | @snoc t u ls l run last ih =>
    have hpre : ∀ l ∈ ls, l.NewId := fun l hl => hnew l (List.mem_append_left _ hl)
    have ht := sound_new.run run hpre
    obtain ⟨rfl, rfl, h⟩ := last
    cases hlookup : l.before.registry.handles.lookup id with
    | none =>
      obtain ⟨haction, hfresh⟩ := h.registers ht hlookup hx
      exact ⟨ls, l, [], x, rfl, run, hlookup, haction, hfresh, .nil x⟩
    | some entry =>
      obtain ⟨thread, hy⟩ := ht.staffed.hosts hlookup
      obtain ⟨pre, l', post, x₀, rfl, before, absent, haction, hfresh, visits⟩ := ih hpre hy
      obtain ⟨z, hz, step⟩ := h.station ht.booked ht.staffed hy
      rw [hx.unique hz]
      exact ⟨pre, l', post ++ [l], x₀, by simp, before, absent, haction, hfresh,
        .snoc visits ⟨hy, hz, ht, step⟩⟩

/-- What holds of a station whose handle was just registered, and is kept by its steps, holds
of every station. -/
theorem station_of_run {I : Server → Station → Prop} {ls : List Label}
    (run : Run (Acts core) new ls s) (hnew : ∀ l ∈ ls, l.NewId)
    (hfresh : ∀ s x, s.Sound → x.Fresh → I s x)
    (hstep : ∀ x l y, I l.before x → Step core l.before l.action l.after → Visits id x l y →
      I l.after y) (hx : s.Hosts id x) : I s x := by
  induction run generalizing x with
  | nil =>
    have := hx.entry
    simp [new, Registry.new] at this
  | @snoc t u ls l run last ih =>
    have hpre : ∀ l ∈ ls, l.NewId := fun l hl => hnew l (List.mem_append_left _ hl)
    have ht := sound_new.run run hpre
    have hu := ht.step last (hnew l (by simp))
    obtain ⟨rfl, rfl, h⟩ := last
    cases hlookup : l.before.registry.handles.lookup id with
    | none => exact hfresh _ _ hu (h.registers ht hlookup hx).2
    | some entry =>
      obtain ⟨thread, hy⟩ := ht.staffed.hosts hlookup
      obtain ⟨z, hz, step⟩ := h.station ht.booked ht.staffed hy
      rw [hx.unique hz]
      exact hstep _ l z (ih hpre hy) h ⟨hy, hz, ht, step⟩

/-- A registered handle has the same limits to the end of the run. -/
theorem config_of_run {ls : List Label} (run : Run (Acts core) s ls t) (hs : s.Sound)
    (hnew : ∀ l ∈ ls, l.NewId) {entry entry' : WorkerEntry}
    (before : s.registry.handles.lookup id = some entry)
    (after : t.registry.handles.lookup id = some entry') : entry'.config = entry.config := by
  obtain ⟨thread, hx⟩ := hs.staffed.hosts before
  obtain ⟨y, hy, visits⟩ := hx.run run hs hnew
  have hkey : y.entry.key = entry.key := by
    refine visits.invariant (I := fun y => y.entry.key = entry.key) (G := fun _ => True) ?_
      (fun _ _ => trivial) rfl
    exact fun x l y hkey _ visit => visit.step.key.trans hkey
  have hentry := hy.entry
  rw [after, Option.some.injEq] at hentry
  rw [hentry]
  exact congrArg (fun key => key.2.1) hkey

end Server

end PgMcp
