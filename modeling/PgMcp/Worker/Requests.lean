import PgMcp.Worker
import PgMcp.Lib.Run
import PgMcp.Backend.Commit

/-!
# Runs of requests

A handle serves one request after another.  What the server, the network and the control
state have in store for a request is the request's environment; the trace of a request is
the trace of its backend from the moment the request is taken up.

## Main definitions

* `Environment`, `LibpqBackend.install` — what a request meets.
* `Operates` — one operation of a backend, as a labelled step.
* `Serves` — one request of a worker, as a labelled step.
* `Worker.Fresh` — a worker whose handle was just opened.

## Main results

* `operate_run`, `play_run` — requests played one after another make a run.
-/

namespace PgMcp

open Program

/-- What a request meets: the control state, the answers to its statements and those to
its cancel requests. -/
structure Environment where
  ctx : RequestContext
  scripts : List Script
  cancels : List CancelScript

/-- A calm request: no control event, and no cancel request to answer. -/
def Environment.calm (scripts : List Script) : Environment where
  ctx := .timed none none 1000
  scripts := scripts
  cancels := []

theorem monotone_stopped : Monotone fun _ : ℕ => (0 : ℕ) := monotone_const

theorem monotone_lowered : Monotone fun _ : ℕ => false := monotone_const

/-- A request during which no time passes and no control event happens. -/
def Environment.still (scripts : List Script) : Environment where
  ctx :=
    { clock := { now := fun _ => 0, mono := monotone_stopped }
      shutdown := fun _ => false
      cancellation := fun _ => false
      deadline := 1
      cancelDrainGrace := 5
      shutdown_mono := monotone_lowered
      cancellation_mono := monotone_lowered }
  scripts := scripts
  cancels := []

/-- A client that gives up while the response to the BEGIN of an inspection is awaited. -/
def Environment.cancelledAtBegin : Environment where
  ctx := .timed none (some 11) 1000
  scripts := [.completed "BEGIN" false .inTransaction]
  cancels := [.succeeding]

/-- The backend when a request is taken up. -/
def LibpqBackend.install (b : LibpqBackend) (env : Environment) : LibpqBackend :=
  { b with
    wire := { b.wire with tick := 0, scripts := env.scripts, cancels := env.cancels, calls := [] } }

@[simp] theorem LibpqBackend.install_present (b : LibpqBackend) (env : Environment) :
    (b.install env).present = b.present := rfl

@[simp] theorem LibpqBackend.install_conn (b : LibpqBackend) (env : Environment) :
    (b.install env).wire.conn = b.wire.conn := rfl

@[simp] theorem LibpqBackend.install_calls (b : LibpqBackend) (env : Environment) :
    (b.install env).wire.calls = [] := rfl

@[simp] theorem LibpqBackend.install_standing (b : LibpqBackend) (env : Environment) :
    (b.install env).wire.standing = b.wire.standing := rfl

@[simp] theorem LibpqBackend.install_observation (b : LibpqBackend) (env : Environment) :
    (b.install env).observation = b.observation := rfl

@[simp] theorem LibpqBackend.install_settled (b : LibpqBackend) (env : Environment) :
    (b.install env).wire.Settled ↔ b.wire.Settled := Iff.rfl

/-! ### Operations of a backend -/

/-- An operation of a backend, with how it ended. -/
structure Operated where
  operation : Operation
  env : Environment
  before : LibpqBackend
  result : Except BackendFailure BackendResult
  after : LibpqBackend

/-- The trace of the operation. -/
def Operated.trace (l : Operated) : List Call := l.after.wire.calls

/-- One operation of a backend. -/
def Operates (config : Config) (b : LibpqBackend) (l : Operated) (b' : LibpqBackend) : Prop :=
  l.before = b ∧ l.after = b' ∧ ∃ rounds,
    (runOperation rounds config l.env.ctx l.operation).Returns (b.install l.env) l.result b'

/-! ### Requests of a worker -/

/-- The worker when a request is taken up. -/
def Worker.install (s : Worker) (env : Environment) : Worker :=
  { s with backend := s.backend.install env }

/-- A request of a worker, with its reply and the state it was published in. -/
structure Served where
  operation : Operation
  env : Environment
  before : Worker
  reply : Reply
  after : Worker

/-- The trace of the request. -/
def Served.trace (l : Served) : List Call := l.after.backend.wire.calls

/-- One request: the worker of a closed handle takes no more. -/
def Serves (config : Config) (s : Worker) (l : Served) (t : Worker) : Prop :=
  l.before = s ∧ l.after = t ∧ s.published.closed = false ∧ ∃ rounds,
    (serve rounds config l.operation l.env.ctx).Returns (s.install l.env) (.ok l.reply) t

/-- A worker whose handle was just opened: its connection is usable and idle. -/
structure Worker.Fresh (s : Worker) : Prop where
  present : s.backend.present = true
  usable : s.backend.wire.connectionStatus = .ok
  idle : s.backend.wire.transactionStatus = .idle
  observation : s.published.observation = s.backend.observation
  unobserved : s.published.schemaObserved = false
  clean : s.published.schemaDirty = false
  live : s.published.closed = false

/-- The worker of a handle that was just opened. -/
def Worker.opened : Worker where
  published :=
    { id := "h-0000000000000001"
      database := "postgres"
      observation := { connectionStatus := .ok, transactionStatus := .idle, busy := false }
      schemaObserved := false
      schemaDirty := false
      closed := false }
  backend := { present := true, wire := .fresh [] [] }

theorem Worker.opened_fresh : Worker.opened.Fresh where
  present := rfl
  usable := rfl
  idle := rfl
  observation := rfl
  unobserved := rfl
  clean := rfl
  live := rfl

/-! ### Playing requests -/

section Play

variable (rounds : ℕ) (config : Config)

/-- Run one operation. -/
def operate (b : LibpqBackend) (operation : Operation) (env : Environment) : Option Operated :=
  match runOperation rounds config env.ctx operation (b.install env) with
  | .ok result after => some { operation, env, before := b, result := .ok result, after }
  | .error f after => some { operation, env, before := b, result := .error f, after }
  | .unfinished _ => none

theorem operate_run {b : LibpqBackend} {operation : Operation} {env : Environment} {l : Operated}
    (h : operate rounds config b operation env = some l) :
    Run (Operates config) b [l] l.after := by
  refine .single ?_
  unfold operate at h
  cases hrun : runOperation rounds config env.ctx operation (b.install env) with
  | ok result after =>
    rw [hrun] at h
    cases h
    exact ⟨rfl, rfl, rounds, hrun⟩
  | error f after =>
    rw [hrun] at h
    cases h
    exact ⟨rfl, rfl, rounds, hrun⟩
  | unfinished s =>
    rw [hrun] at h
    cases h

/-- Serve one request. -/
def Worker.request (s : Worker) (operation : Operation) (env : Environment) : Option Served :=
  if s.published.closed then none
  else
    match serve rounds config operation env.ctx (s.install env) with
    | .ok reply after => some { operation, env, before := s, reply, after }
    | _ => none

/-- Serve requests one after another; the last request is played first. -/
def Worker.play (s : Worker) : List (Operation × Environment) → Option (List Served × Worker)
  | [] => some ([], s)
  | (operation, env) :: earlier =>
    match s.play earlier with
    | none => none
    | some (ls, t) =>
      match t.request rounds config operation env with
      | none => none
      | some l => some (ls ++ [l], l.after)

theorem play_run {s : Worker} : ∀ {requests : List (Operation × Environment)} {ls : List Served}
    {t : Worker}, s.play rounds config requests = some (ls, t) → Run (Serves config) s ls t
  | [], ls, t, h => by
    cases h
    exact .nil s
  | (operation, env) :: earlier, ls, t, h => by
    rw [Worker.play] at h
    split at h
    · cases h
    · rename_i ls' t' hplay
      split at h
      · cases h
      · rename_i l hl
        cases h
        refine .snoc (play_run hplay) ?_
        unfold Worker.request at hl
        split at hl
        · cases hl
        · rename_i hlive
          split at hl
          · rename_i reply after hserve
            cases hl
            exact ⟨rfl, rfl, by simpa using hlive, rounds, hserve⟩
          · cases hl

/-- The requests of a run that is played are those it is played from. -/
theorem play_requests {s : Worker} : ∀ {requests : List (Operation × Environment)}
    {ls : List Served} {t : Worker}, s.play rounds config requests = some (ls, t) →
    ls.map (fun l => (l.operation, l.env)) = requests.reverse
  | [], ls, t, h => by
    cases h
    rfl
  | (operation, env) :: earlier, ls, t, h => by
    rw [Worker.play] at h
    split at h
    · cases h
    · rename_i ls' t' hplay
      split at h
      · cases h
      · rename_i l hl
        cases h
        rw [List.map_append, play_requests hplay, List.reverse_cons]
        unfold Worker.request at hl
        split at hl
        · cases hl
        · split at hl <;> cases hl
          rfl

/-- Requests that can be played make a run. -/
theorem exists_play {s : Worker} (requests : List (Operation × Environment))
    {p : List Served × Worker → Bool} (h : (s.play rounds config requests).any p = true) :
    ∃ ls t, p (ls, t) = true ∧ ls.map (fun l => (l.operation, l.env)) = requests.reverse ∧
      Run (Serves config) s ls t := by
  cases hplay : s.play rounds config requests with
  | none =>
    rw [hplay] at h
    cases h
  | some played =>
    rw [hplay] at h
    exact ⟨played.1, played.2, h, play_requests rounds config hplay, play_run rounds config hplay⟩

end Play

end PgMcp
