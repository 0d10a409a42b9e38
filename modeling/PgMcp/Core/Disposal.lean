import PgMcp.Core.Lifecycle
import PgMcp.Core.Shutdown

/-!
# What a shutdown throws away

A shutdown rolls back a transaction that is open or has failed, and takes the connection.
It is verified when the connection was idle by then.  A statement in flight is neither: the
connection is taken as it is, and the shutdown is verified too.

## Main definitions

* `Backend.endTransaction` — what a shutdown does before it takes the connection.
* `Label.DisposesIdle` — a verified shutdown takes an idle connection.

## Main results

* `disposesIdle_of_run_iff` — verified shutdowns take idle connections exactly when no
  statement is in flight as they begin.
* `disposed_in_flight` — a shutdown is verified with a statement in flight.
-/

namespace PgMcp

open Program

namespace Backend

variable {rounds : ℕ} {ctx : RequestContext} {b b' : LibpqBackend}

/-- The part of a shutdown before the connection is taken. -/
def endTransaction (rounds : ℕ) (ctx : RequestContext) : BackendM ShutdownWorkerResult := do
  if openOrFailed (← observe).transactionStatus then
    let result ← (executeCommand rounds ctx "ROLLBACK" true).attempt
    let after ← observe
    match result with
    | .error _ => return .uncertain "rollback"
    | .ok _ =>
      if after.transactionStatus = .idle then return .verified else return .uncertain "rollback"
  else return .verified

/-- A shutdown ends the transaction and takes the connection. -/
theorem shutdown_eq : shutdown rounds ctx = do
    let result ← endTransaction rounds ctx
    .update LibpqBackend.take
    return result := by
  funext b
  cases hopen : openOrFailed b.observation.transactionStatus with
  | false =>
    simp only [shutdown, endTransaction, observe, bind, Program.bind, Program.read, hopen,
      Bool.false_eq_true, if_false]
    rfl
  | true =>
    simp only [shutdown, endTransaction, observe, bind, Program.bind, Program.read, hopen, if_true,
      attempt]
    cases executeCommand rounds ctx "ROLLBACK" true b with
    | unfinished b' => rfl
    | error e b' => rfl
    | ok rs b' =>
      by_cases hidle : b'.observation.transactionStatus = .idle
      · simp only [Program.update, hidle, if_true]
        rfl
      · simp only [Program.update, hidle, if_false]
        rfl

/-- The transaction of a connection whose shutdown is verified is over, unless there was none to
end. -/
theorem endTransaction_verified (h : (endTransaction rounds ctx).Returns b (.ok .verified) b') :
    b'.observation.transactionStatus = .idle ∨
      b' = b ∧ openOrFailed b.observation.transactionStatus = false := by
  revert h
  cases hopen : openOrFailed b.observation.transactionStatus with
  | false =>
    simp only [endTransaction, observe, bind, Program.bind, Program.read, hopen,
      Bool.false_eq_true, if_false, Returns]
    rintro ⟨⟩
    exact .inr ⟨rfl, trivial⟩
  | true =>
    simp only [endTransaction, observe, bind, Program.bind, Program.read, hopen, if_true,
      attempt, Returns]
    cases executeCommand rounds ctx "ROLLBACK" true b with
    | unfinished b₁ | error e b₁ =>
      intro h
      cases h
    | ok rs b₁ =>
      by_cases hidle : b₁.observation.transactionStatus = .idle
      · simp only [hidle, if_true]
        rintro ⟨⟩
        exact .inl hidle
      · simp only [hidle, if_false]
        intro h
        cases h

/-- A connection with a statement in flight is left as it is. -/
theorem endTransaction_active (active : b.observation.transactionStatus = .active) :
    (endTransaction rounds ctx).Returns b (.ok .verified) b := by
  have hopen : openOrFailed b.observation.transactionStatus = false := by
    rw [active]
    rfl
  simp only [endTransaction, observe, bind, Program.bind, Program.read, hopen,
    Bool.false_eq_true, if_false, Returns]
  rfl

theorem shutdown_active (active : b.observation.transactionStatus = .active) :
    (shutdown rounds ctx).Returns b (.ok .verified) b.take := by
  rw [shutdown_eq]
  exact returns_bind_iff.mpr (.inl ⟨.verified, b, endTransaction_active active, rfl⟩)

end Backend

/-- A usable connection is idle, in a transaction, or has a statement in flight. -/
theorem LibpqBackend.status_known {b : LibpqBackend} (usable : b.observation.connectionStatus = .ok) :
    b.observation.transactionStatus ≠ .unknown := by
  unfold LibpqBackend.observation at usable ⊢
  cases hpresent : b.present with
  | false =>
    rw [hpresent] at usable
    cases usable
  | true =>
    rw [hpresent] at usable
    simp only [if_true, Wire.observation, Wire.connectionStatus, Wire.transactionStatus,
      PgConn.transactionStatus] at usable ⊢
    cases hconn : b.wire.conn with
    | none =>
      rw [hconn] at usable
      cases usable
    | some c =>
      rw [hconn] at usable
      cases hok : c.ok with
      | false => simp [hok, WireStatus.backend] at usable
      | true =>
        simp only [hok, Bool.not_true, Bool.false_eq_true, if_false]
        split
        · simp
        · rcases c.xact with _ | ⟨begunBy, _ | _⟩ <;> (intro h; cases h)

namespace Server

variable {core : Core} {s t : Server} {ls : List Label}

/-- A verified shutdown of a usable connection takes it when it is idle. -/
def Label.DisposesIdle (l : Label) : Prop :=
  ∀ k env thread, l.action = .clean k env .verified → l.before.threads.lookup k = some thread →
    thread.backend.observation.connectionStatus = .ok → ∀ rounds b,
    (Backend.endTransaction rounds env.ctx).Returns (thread.backend.install env) (.ok .verified) b →
    b.observation.transactionStatus = .idle

/-- No statement is in flight on a usable connection as its shutdown begins. -/
def Label.CleansSettled (l : Label) : Prop :=
  ∀ k env result thread, l.action = .clean k env result → l.before.threads.lookup k = some thread →
    thread.backend.observation.connectionStatus = .ok →
    thread.backend.observation.transactionStatus ≠ .active

theorem Step.disposesIdle_iff {a : Action} (h : Step core s a t) :
    (⟨a, s, t⟩ : Label).DisposesIdle ↔ (⟨a, s, t⟩ : Label).CleansSettled := by
  constructor
  · rintro hidle k env result thread rfl hthread usable active
    change s.threads.lookup k = some thread at hthread
    have hverified : result = .verified := by
      cases h with
      | clean _ thread' reply _ rounds _ backend thread₀ stage runs =>
        rw [hthread, Option.some.injEq] at thread₀
        subst thread₀
        have hends : (Backend.shutdown rounds env.ctx).Returns (thread.backend.install env)
            (.ok .verified) (thread.backend.install env).take := Backend.shutdown_active active
        exact Except.ok.inj (runs.unique hends).1
    subst hverified
    have := hidle k env thread rfl hthread usable 0 _ (Backend.endTransaction_active active)
    rw [LibpqBackend.install_observation, active] at this
    cases this
  · intro hsettled k env thread haction hthread usable rounds b ends
    rcases Backend.endTransaction_verified ends with hidle | ⟨rfl, hclosed⟩
    · exact hidle
    · have hactive := hsettled k env _ thread haction hthread usable
      have hknown := LibpqBackend.status_known usable
      rw [LibpqBackend.install_observation] at hclosed ⊢
      cases hstatus : thread.backend.observation.transactionStatus with
      | idle => rfl
      | active => exact absurd hstatus hactive
      | unknown => exact absurd hstatus hknown
      | inTransaction | inError =>
        rw [hstatus] at hclosed
        cases hclosed

/-- Verified shutdowns take idle connections exactly when no statement is in flight as they
begin. -/
theorem disposesIdle_of_run_iff (run : Run (Acts core) new ls s) :
    (∀ l ∈ ls, l.DisposesIdle) ↔ ∀ l ∈ ls, l.CleansSettled := by
  refine run.forall_iff (I := fun _ => True) (fun s l t _ hl => ⟨?_, fun _ => trivial⟩) trivial
  obtain ⟨rfl, rfl, hstep⟩ := hl
  exact hstep.disposesIdle_iff

/-- One idle handle is opened, and the verified shutdown takes its connection. -/
theorem disposesIdle_of_run_iff_idle : ∃ ls s, Run (Acts localProfile) new ls s ∧
    (∃ l ∈ ls, l.action = .clean 0 (.still []) .verified) ∧ ∀ l ∈ ls, l.DisposesIdle := by
  obtain ⟨opening, hopening, -, hopens⟩ := run_open (admits_new (by decide) localProfile_admissionConfig)
  obtain ⟨first, ls, s, report, run, hfirst, hretires, hclean, -⟩ := run_idleShutdown
  obtain ⟨l, hl, haction⟩ := List.mem_map.mp hclean
  have hrun := hopening.append run
  refine ⟨_, s, hrun, ⟨l, by simp [hl], haction⟩, (disposesIdle_of_run_iff hrun).mpr ?_⟩
  intro l hl k env result thread haction hthread _
  rw [List.mem_append, List.mem_cons] at hl
  rcases hl with hl | rfl | hl
  · have hopen := hopens l hl
    rw [haction] at hopen
    cases hopen
  · cases hfirst.symm.trans haction
  · rw [(hretires l hl).idle k env result thread haction hthread]
    decide

/-! ### A handle with a statement in flight -/

/-- The owner of the cleanup comes to the last handle, and its worker takes the shutdown. -/
theorem run_visit (core : Core) {id : String} {entry : WorkerEntry} {thread : Thread} {c : Cleanup}
    (free : s.stuck = false) (cleanup : s.cleanup = some c) (visiting : c.stage = .visiting)
    (handles : c.handles = [id]) (early : s.now < c.deadline)
    (present : s.registry.handles.lookup id = some entry) (live : entry.published.closed = false)
    (worker : s.threads.lookup entry.sender = some thread) (stage : thread.stage = .idle)
    (queue : thread.queue = []) : ∃ ls t, Run (Acts core) s ls t ∧
      t.threads.lookup entry.sender = some { thread with queue := [], stage := .cleaning true } := by
  have hsend : s.trySend entry.sender = .sent := by
    simp only [trySend, worker, Thread.trySend, stage, ThreadStage.receives, queue, List.length_nil]
    rw [if_neg (by simp), if_neg (by omega)]
  have hpushed : thread.push (.shutdown true) = { thread with queue := [.shutdown true] } := by
    unfold Thread.push
    rw [queue]
    rfl
  have hvisit := @Step.visit core s c id [] cleanup visiting handles early
  have hlook := @Step.live core (s.setCleanup { c with handles := [], stage := .looking id }) _ id
    entry free rfl rfl present live
  have henqueue := @Step.enqueue core
    (s.setCleanup { c with handles := [], stage := .enqueuing id entry.sender }) _ id entry.sender rfl
    rfl hsend
  have hlookup : (s.threads.modify entry.sender (Thread.push (.shutdown true))).lookup entry.sender =
      some { thread with queue := [.shutdown true] } := by
    rw [Table.lookup_modify_self, worker, ← hpushed]
    rfl
  have htake := @Step.take core
    ((s.setThread entry.sender (Thread.push (.shutdown true))).setCleanup
      { c with handles := [], stage := .enqueued id entry.sender })
    entry.sender _ (.shutdown true) [] hlookup stage rfl
  refine ⟨_, _, hvisit.cons (hlook.cons (henqueue.cons htake.run)), ?_⟩
  exact Table.lookup_modify_self.trans (congrArg _ hlookup)

/-- A shutdown begins, and its owner comes to the worker of the only handle. -/
theorem Serving.shutdown (core : Core) (time : 0 < core.shutdownTotal) {id : String} {entry : WorkerEntry}
    {thread : Thread} (h : s.Serving t id entry thread) (elected : t.Elected)
    (keys : s.registry.handles.keys = [id]) (live : entry.published.closed = false)
    (stage : thread.stage = .idle) (queue : thread.queue = []) : ∃ ls u, Run (Acts core) t ls u ∧
      u.threads.lookup entry.sender = some { thread with queue := [], stage := .cleaning true } := by
  have hkeys : t.registry.handles.sortedKeys = [id] := by
    unfold Table.sortedKeys
    rw [Table.keys_of_view h.frames.handles, keys]
    rfl
  obtain ⟨n, c, l, ls, v, run, -, -, begun⟩ := elected.begin core h.free h.running
  have hlate : v.now < c.deadline := by
    rw [begun.now, begun.deadline]
    exact Nat.lt_add_of_pos_right time
  obtain ⟨ls', u, run', hworker⟩ := run_visit core begun.free begun.cleanup begun.stage
    (begun.handles.trans hkeys) hlate (begun.entries ▸ h.present) live (begun.threads ▸ h.worker) stage
    queue
  exact ⟨_, u, run.append run', hworker⟩

/-- A client that gives up between the send of the BEGIN of an inspection and its flush. -/
def Environment.cancelledAtFlush : Environment where
  ctx := .timed none (some 7) 1000
  scripts := [.completed "BEGIN" false .inTransaction]
  cancels := []

/-- A worker that is asked by that client for the schema. -/
def stranded : Exit Worker CoreFailure Envelope :=
  executeOperation 3 Config.default .getSchema Environment.cancelledAtFlush.ctx
    { published := new.freshSnapshot
      backend := Worker.opened.backend.install Environment.cancelledAtFlush }

theorem stranded_active : stranded.ended = true ∧ stranded.state.published.closed = false ∧
    stranded.state.backend.observation.connectionStatus = .ok ∧
    stranded.state.backend.observation.transactionStatus = .active := by decide +kernel

theorem exists_stranded : ∃ result w,
    (executeOperation 3 Config.default .getSchema Environment.cancelledAtFlush.ctx).Returns
      { published := new.freshSnapshot
        backend := Worker.opened.backend.install Environment.cancelledAtFlush } result w ∧
    w.published.closed = false ∧ closeSucceeded .getSchema result = false ∧
    w.backend.observation.connectionStatus = .ok ∧ w.backend.observation.transactionStatus = .active := by
  obtain ⟨ended, hlive, husable, hactive⟩ := stranded_active
  obtain ⟨result, hreturns⟩ := returns_last ended
  exact ⟨result, stranded.state, hreturns, hlive, rfl, husable, hactive⟩

/-- The client of the handle gives up between the send of BEGIN and its flush, and the server
is shut down. -/
theorem disposed_in_flight : ∃ ls s l k env thread b, Run (Acts localProfile) new ls s ∧ l ∈ ls ∧
    l.action = .clean k env .verified ∧ l.before.threads.lookup k = some thread ∧
    thread.backend.observation.connectionStatus = .ok ∧
    (Backend.endTransaction 0 env.ctx).Returns (thread.backend.install env) (.ok .verified) b ∧
    b.observation.transactionStatus = .active := by
  have hadmits := @admits_new localProfile "local" _ (by decide) localProfile_admissionConfig
  obtain ⟨ls, run, -⟩ := run_open hadmits
  obtain ⟨ls', t, run', -, -, h, -⟩ :=
    hadmits.atRest.admitCall localProfile (n := 0) (AList.notMem_empty _) .getSchema
  obtain ⟨result, w, runs, hlive, hopen, usable, active⟩ := exists_stranded
  obtain ⟨t₁, take, h₁⟩ := h.take localProfile rfl rfl
  obtain ⟨t₂, execute, h₂⟩ := h₁.execute localProfile rfl runs
  obtain ⟨t₃, record, h₃⟩ := h₂.record localProfile rfl
  obtain ⟨t₄, settle, h₄⟩ := h₃.settle localProfile rfl rfl
  obtain ⟨t₅, reply, h₅⟩ := h₄.reply localProfile rfl
  rw [hopen] at h₅
  obtain ⟨t₆, release, h₆⟩ := h₅.release localProfile rfl
  have hrun := run.append <| run'.append <| take.cons <| execute.cons <| record.cons <|
    settle.cons <| reply.cons release.run
  obtain ⟨ls'', u, run'', hworker⟩ := h₆.shutdown localProfile (by decide)
    (elected_of_run hrun) rfl ((settle_closed _ _ _ _).trans hlive) rfl rfl
  have hclean := @Step.clean localProfile u _ _ true (.still []) 0 .verified _ hworker rfl
    (Backend.shutdown_active active)
  refine ⟨_, _, _, _, _, _, _, hrun.append (run''.append hclean.run),
    List.mem_append_right _ (List.mem_append_right _ (List.mem_singleton_self _)), rfl, hworker, usable,
    Backend.endTransaction_active active, active⟩

end Server

end PgMcp
