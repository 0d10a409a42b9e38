import PgMcp.Core.Admission
import PgMcp.Core.Lifecycle
import PgMcp.Core.Limits
import PgMcp.Core.Shutdown
import PgMcp.Process.Start

/-!
# Serving a session

The process serves one session over its standard streams.  When the session is over, in whatever
way, the server is shut down, and the process leaves with what the report of the shutdown says.
SIGINT asks for the same; only then is there a limit to the time the process waits for it.  The timer
of that limit is turned by the threads that run the tasks, so it stands still when all of them wait for
the lock of the registry.

The session itself is data: how it is over is one step.

## Main definitions

* `SessionEnd`, `cleanupErrors`, `serveOutcome` — the end of a session, and what is made of it.
* `Process`, `Process.Step` — the process around its server.

## Main results

* `Process.exited_of_run` — what an exit code says of the server.
* `Process.hangs_of_stuck` — without an interrupt, a server that stands still keeps the process.
* `Process.hangs_of_starved` — with one too, when it has all threads of the runtime wait for it.
-/

namespace PgMcp

/-! ### The end of a session -/

/-- Why the service of a session is over. -/
inductive SessionEnd where
  /-- The input has ended. -/
  | ended
  | failed (error : String)
  /-- The shutdown token was cancelled first. -/
  | interrupted
  | uninitialized (error : String)
  deriving DecidableEq, Repr

/-- The failure of the session itself; one that comes of an interrupt is none. -/
def SessionEnd.primary (interrupted : Bool) : SessionEnd → Option String
  | .ended | .interrupted => none
  | .failed error => some ("MCP stdio server failed: " ++ error)
  | .uninitialized error =>
    -- an initialization that fails after an interrupt is no failure
    if interrupted then none else some ("failed to initialize MCP stdio server: " ++ error)

structure ServeFailure where
  primary : String
  cleanupErrors : List String
  deriving DecidableEq, Repr

/-- `Display`. -/
def ServeFailure.text (failure : ServeFailure) : String :=
  failure.cleanupErrors.foldl (fun text error => text ++ ("; cleanup failure: " ++ error)) failure.primary

/-- The line of an entry that is not verified. -/
def WorkerShutdownEntry.complaint (entry : WorkerShutdownEntry) : String :=
  "handle " ++ entry.handle ++ ": cleanup uncertain at " ++ entry.stage.getD "unknown"

def cleanupErrors (report : ShutdownReport) : List String :=
  (report.workers.filter fun entry => entry.outcome != .verified).map WorkerShutdownEntry.complaint

/-- What `serve_with_cleanup` returns. -/
def serveOutcome (primary : Option String) (report : ShutdownReport) : Except ServeFailure Unit :=
  match primary, (cleanupErrors report).isEmpty with
  -- the failure of the session comes first, with the clean-up's after it
  | some primary, _ => .error ⟨primary, cleanupErrors report⟩
  | none, true => .ok ()
  | none, false => .error ⟨"server stopped with cleanup uncertainty", cleanupErrors report⟩

/-- The exit code, and what is printed on the standard error. -/
def exitOf : Except ServeFailure Unit → ℕ × String
  | .ok () => (0, "")
  | .error failure => (1, complaint failure.text)

theorem cleanupErrors_eq_nil {report : ShutdownReport} :
    cleanupErrors report = [] ↔ report.verified = true := by
  unfold cleanupErrors ShutdownReport.verified
  rw [List.map_eq_nil_iff, List.filter_eq_nil_iff, List.all_eq_true]
  simp only [bne_iff_ne, beq_iff_eq, not_not]

/-- A session is served without a failure when it had none and everything was verified. -/
theorem serveOutcome_ok {primary : Option String} {report : ShutdownReport} :
    serveOutcome primary report = .ok () ↔ primary = none ∧ report.verified = true := by
  rw [← cleanupErrors_eq_nil]
  unfold serveOutcome
  cases primary with
  | some primary => simp
  | none =>
    cases hempty : (cleanupErrors report).isEmpty with
    | true =>
      rw [List.isEmpty_iff] at hempty
      simp [hempty]
    | false =>
      rw [List.isEmpty_eq_false_iff] at hempty
      simp [hempty]

/-- A failure carries the lines of all entries that are not verified. -/
theorem serveOutcome_error {primary : Option String} {report : ShutdownReport} {failure : ServeFailure}
    (h : serveOutcome primary report = .error failure) : failure.cleanupErrors = cleanupErrors report := by
  unfold serveOutcome at h
  split at h <;> cases h <;> rfl

/-- The text of a failure has every one of its lines. -/
theorem ServeFailure.infix_text (failure : ServeFailure) {error : String}
    (h : error ∈ failure.cleanupErrors) :
    error.toList <:+: failure.text.toList := by
  obtain ⟨primary, errors⟩ := failure
  -- the text only grows
  have hgrows : ∀ (errors : List String) (text : String), text.toList <:+:
      (errors.foldl (fun text error => text ++ ("; cleanup failure: " ++ error)) text).toList := by
    intro errors
    induction errors with
    | nil => exact fun text => List.infix_rfl
    | cons e errors ih =>
      intro text
      refine List.IsInfix.trans ?_ (ih _)
      rw [String.toList_append]
      exact (List.prefix_append _ _).isInfix
  show _ <:+: (errors.foldl (fun text error => text ++ ("; cleanup failure: " ++ error)) primary).toList
  simp only at h
  induction errors generalizing primary with
  | nil => cases h
  | cons e errors ih =>
    rw [List.foldl_cons]
    rcases List.mem_cons.mp h with rfl | h
    · refine List.IsInfix.trans ?_ (hgrows errors _)
      rw [String.toList_append, String.toList_append]
      exact ⟨primary.toList ++ "; cleanup failure: ".toList, [], by simp⟩
    · exact ih _ h

/-- The line of an entry that is not verified is in the list. -/
theorem mem_cleanupErrors {report : ShutdownReport} {entry : WorkerShutdownEntry} (h : entry ∈ report.workers)
    (uncertain : entry.outcome ≠ .verified) : entry.complaint ∈ cleanupErrors report := by
  apply List.mem_map_of_mem
  exact List.mem_filter.mpr ⟨h, bne_iff_ne.mpr uncertain⟩

theorem infix_complaint {text line : String} (h : line.toList <:+: text.toList) :
    line.toList <:+: (complaint text).toList := by
  apply h.trans
  unfold complaint
  rw [String.toList_append, String.toList_append]
  exact ⟨"postgres-mcp: ".toList, "\n".toList, rfl⟩

/-! ### The process -/

/-- How far the task that serves the session has come. -/
inductive ServeStage where
  | serving
  /-- The session is over; the server is about to be shut down. -/
  | stopping (primary : Option String)
  /-- The report of the shutdown is awaited. -/
  | cleaning (primary : Option String) (call : ℕ)
  | done (outcome : Except ServeFailure Unit)
  /-- The task has panicked. -/
  | panicked (error : String)
  | exited (code : ℕ) (stderr : String)

namespace ServeStage

/-- The task is still at work. -/
def working : ServeStage → Bool
  | .serving | .stopping _ | .cleaning _ _ => true
  | .done _ | .panicked _ | .exited _ _ => false

def isExited : ServeStage → Bool
  | .exited _ _ => true
  | _ => false

end ServeStage

structure Process where
  server : Server
  /-- The shutdown token, which the monitor of SIGINT cancels. -/
  interrupted : Bool
  /-- Until when `main` waits, once it has seen the token. -/
  watch : Option ℕ
  /-- All threads that run tasks wait for the lock of the registry. -/
  starved : Bool
  stage : ServeStage

namespace Process

/-- The process when its server is there. -/
def start : Process where
  server := .new
  interrupted := false
  watch := none
  starved := false
  stage := .serving

/-- What happens in a step of the process. -/
inductive Act where
  | server (l : Server.Label)
  | interrupt
  | sessionOver (session : SessionEnd)
  | report
  | panic (error : String)
  | starve
  | watch
  | expire
  | exit

/-- A step of the server that is none of a caller of shutdown. -/
def serves (a : Action) : Bool :=
  match a with
  | .shutdown _ => false
  | _ => true

/-- The text of a panic, from where it is found. -/
def panicText (watching : Bool) (error : String) : String :=
  (if watching then "server task failed during shutdown: " else "server task failed: ") ++ error

/-- One step of the process; `timeout` is the time `main` gives a shutdown. -/
inductive Step (core : Core) (timeout : ℕ) (p : Process) : Act → Process → Prop where
  /-- The tools, the workers and the cleanup go on. -/
  | server (l : Server.Label) (t : Server) (here : p.stage.isExited = false)
      (acts : Server.Acts core p.server l t) (other : serves l.action = true) :
      Step core timeout p (.server l) { p with server := t }
  | interrupt (here : p.stage.isExited = false) : Step core timeout p .interrupt
      { p with interrupted := true }
  | sessionOver (session : SessionEnd) (runs : p.starved = false) (stage : p.stage = .serving)
      (token : session = .interrupted → p.interrupted = true) :
      Step core timeout p (.sessionOver session) { p with stage := .stopping (session.primary p.interrupted) }
  | shutdown (n : ℕ) (primary : Option String) (l : Server.Label) (t : Server)
      (stage : p.stage = .stopping primary) (acts : Server.Acts core p.server l t)
      (action : l.action = .shutdown n) :
      Step core timeout p (.server l) { p with server := t, stage := .cleaning primary n }
  | report (n : ℕ) (primary : Option String) (report : ShutdownReport) (runs : p.starved = false)
      (stage : p.stage = .cleaning primary n)
      (returned : p.server.shutdowns.lookup n = some (.returned report)) :
      Step core timeout p .report { p with stage := .done (serveOutcome primary report) }
  | panic (error : String) (runs : p.starved = false) (working : p.stage.working = true) :
      Step core timeout p (.panic error) { p with stage := .panicked error }
  /-- The last thread of the runtime comes to wait for the lock, which is never given back. -/
  | starve (here : p.stage.isExited = false) (locked : p.server.stuck = true) :
      Step core timeout p .starve { p with starved := true }
  -- `main` waits for the task, or sees the token first
  | watch (here : p.stage.isExited = false) (token : p.interrupted = true) (first : p.watch = none) :
      Step core timeout p .watch { p with watch := some (p.server.now + timeout) }
  -- the timer fires only as long as a thread of the runtime is free
  | expire (deadline : ℕ) (runs : p.starved = false) (working : p.stage.working = true)
      (watching : p.watch = some deadline)
      (late : deadline ≤ p.server.now) :
      Step core timeout p .expire { p with stage := .exited 1 (complaint "shutdown deadline exceeded") }
  | exit (outcome : Except ServeFailure Unit) (stage : p.stage = .done outcome) :
      Step core timeout p .exit { p with stage := .exited (exitOf outcome).1 (exitOf outcome).2 }
  | crash (error : String) (stage : p.stage = .panicked error) :
      Step core timeout p .exit
        { p with stage := .exited 1 (complaint (panicText p.watch.isSome error)) }

variable {core : Core} {timeout : ℕ} {p q : Process} {as : List Act}

/-- The step of the server, if it is one. -/
def Act.label : Act → Option Server.Label
  | .server l => some l
  | _ => none

/-- The steps of the server. -/
def labels (as : List Act) : List Server.Label := as.filterMap Act.label

/-- The server of a process runs. -/
theorem server_of_run (run : Run (Step core timeout) p as q) :
    Run (Server.Acts core) p.server (labels as) q.server := by
  induction run with
  | nil => exact .nil _
  | @snoc q q' as a run last ih =>
    have hlabels : labels (as ++ [a]) = labels as ++ labels [a] := List.filterMap_append
    rw [hlabels]
    cases last with
    | server l t here acts other => exact ih.snoc acts
    | shutdown n primary l t stage acts action => exact ih.snoc acts
    | _ =>
      rw [show labels as ++ labels [_] = labels as from List.append_nil _]
      exact ih

/-! ### What is told of the server -/

/-- The process has the report of its server, and tells what becomes of it. -/
def Reported (p : Process) (outcome : Except ServeFailure Unit) : Prop :=
  ∃ primary report, p.server.registry.frozenReport = some report ∧ outcome = serveOutcome primary report

/-- What the stage of a process tells of its server. -/
structure Told (p : Process) : Prop where
  elected : p.server.Elected
  done : ∀ outcome, p.stage = .done outcome → p.Reported outcome
  exited : ∀ code err, p.stage = .exited code err →
    (∃ outcome, p.Reported outcome ∧ (code, err) = exitOf outcome) ∨
      code = 1 ∧ ((∃ error watching, err = complaint (panicText watching error)) ∨
        err = complaint "shutdown deadline exceeded" ∧
          ∃ deadline, p.watch = some deadline ∧ deadline ≤ p.server.now ∧ p.interrupted = true)
  watching : p.watch ≠ none → p.interrupted = true

theorem told_start : start.Told where
  elected := Server.elected_new
  done outcome h := by cases h
  exited code err h := by cases h
  watching h := absurd rfl h

/-- A report that is there stays. -/
theorem Reported.of_acts {p : Process} {l : Server.Label} {t : Server} {outcome : Except ServeFailure Unit}
    (h : p.Reported outcome) (elected : p.server.Elected) (acts : Server.Acts core p.server l t)
    {q : Process} (server : q.server = t) : q.Reported outcome := by
  obtain ⟨primary, report, hfrozen, houtcome⟩ := h
  refine ⟨primary, report, ?_, houtcome⟩
  rw [server]
  exact elected.frozen acts.2.2 hfrozen

/-- A step of a process keeps what it tells. -/
theorem Told.step (h : p.Told) {a : Act} (step : Step core timeout p a q) : q.Told := by
  cases step with
  | server l t here acts other =>
    refine ⟨h.elected.step acts.2.2, ?_, ?_, h.watching⟩
    · intro outcome hdone
      exact (h.done outcome hdone).of_acts h.elected acts rfl
    · intro code err hexited
      have hstage : p.stage = .exited code err := hexited
      rw [hstage] at here
      cases here
  | interrupt here =>
    refine ⟨h.elected, h.done, ?_, fun _ => rfl⟩
    intro code err hexited
    have hstage : p.stage = .exited code err := hexited
    rw [hstage] at here
    cases here
  -- the task is still at work, so nothing is told yet
  | sessionOver session runs stage token =>
    refine ⟨h.elected, ?_, ?_, h.watching⟩
    · intro outcome hdone
      cases hdone
    · intro code err hexited
      cases hexited
  | shutdown n primary l t stage acts action =>
    refine ⟨h.elected.step acts.2.2, ?_, ?_, h.watching⟩
    · intro outcome hdone
      cases hdone
    · intro code err hexited
      cases hexited
  | report n primary report runs stage returned =>
    refine ⟨h.elected, ?_, ?_, h.watching⟩
    · intro outcome hdone
      cases hdone
      exact ⟨primary, report, h.elected.returned n report returned, rfl⟩
    · intro code err hexited
      cases hexited
  | starve here locked =>
    refine ⟨h.elected, h.done, ?_, h.watching⟩
    intro code err hexited
    have hstage : p.stage = .exited code err := hexited
    rw [hstage] at here
    cases here
  | panic error runs working =>
    refine ⟨h.elected, ?_, ?_, h.watching⟩
    · intro outcome hdone
      cases hdone
    · intro code err hexited
      cases hexited
  | watch here token first =>
    refine ⟨h.elected, h.done, ?_, fun _ => token⟩
    intro code err hexited
    have hstage : p.stage = .exited code err := hexited
    rw [hstage] at here
    cases here
  | expire deadline runs working watching late =>
    refine ⟨h.elected, ?_, ?_, h.watching⟩
    · intro outcome hdone
      cases hdone
    · intro code err hexited
      cases hexited
      have hinterrupted : p.interrupted = true := h.watching (by rw [watching]; simp)
      exact .inr ⟨rfl, .inr ⟨rfl, deadline, watching, late, hinterrupted⟩⟩
  | exit outcome stage =>
    refine ⟨h.elected, ?_, ?_, h.watching⟩
    · intro outcome' hdone
      cases hdone
    · intro code err hexited
      cases hexited
      exact .inl ⟨outcome, h.done outcome stage, rfl⟩
  | crash error stage =>
    refine ⟨h.elected, ?_, ?_, h.watching⟩
    · intro outcome hdone
      cases hdone
    · intro code err hexited
      cases hexited
      exact .inr ⟨rfl, .inl ⟨error, p.watch.isSome, rfl⟩⟩

theorem told_of_run (run : Run (Step core timeout) start as p) : p.Told := by
  refine run.invariant (I := Told) (G := fun _ => True) ?_ (fun _ _ => trivial) told_start
  intro p a q h _ step
  exact h.step step

/-! ### Exit codes -/

/-- The process leaves with 0 only when every worker of its server has ended and no open is left; with
another code it says what went wrong, and names every handle whose cleanup is uncertain. -/
theorem exited_of_run (run : Run (Step core timeout) start as p)
    (hbound : Server.reservations (labels as) < 2 ^ 64) {code : ℕ} {err : String}
    (exited : p.stage = .exited code err) :
    (code = 0 ∧ err = "" ∧ ∃ report, p.server.registry.frozenReport = some report ∧
        report.verified = true ∧ (∀ id, id ∉ p.server.registry.pendingOpens) ∧
        ∀ id entry, p.server.registry.handles.lookup id = some entry → p.server.Ended entry.sender) ∨
      code = 1 ∧ ((∃ primary report failure, p.server.registry.frozenReport = some report ∧
          (primary ≠ none ∨ report.verified = false) ∧ serveOutcome primary report = .error failure ∧
          err = complaint failure.text ∧ ∀ entry ∈ report.workers, entry.outcome ≠ .verified →
            entry.complaint.toList <:+: err.toList) ∨
        (∃ error watching, err = complaint (panicText watching error)) ∨
        err = complaint "shutdown deadline exceeded" ∧
          ∃ deadline, p.watch = some deadline ∧ deadline ≤ p.server.now ∧ p.interrupted = true) := by
  have hserver : Run (Server.Acts core) Server.new (labels as) p.server := server_of_run run
  have hle : Server.reservations (labels as) ≤ u64Max := by
    rw [u64Max_eq]
    omega
  obtain ⟨-, -, htracked⟩ := Server.tracked_of_run hserver hle
  rcases (told_of_run run).exited code err exited with ⟨outcome, hreported, heq⟩ | ⟨rfl, hother⟩
  · obtain ⟨primary, report, hfrozen, rfl⟩ := hreported
    cases houtcome : serveOutcome primary report with
    | ok u =>
      rw [houtcome] at heq
      cases heq
      obtain ⟨-, hverified⟩ := serveOutcome_ok.mp houtcome
      obtain ⟨-, hnone, hended⟩ := htracked.verified hfrozen hverified
      exact .inl ⟨rfl, rfl, report, hfrozen, hverified, hnone, hended⟩
    | error failure =>
      rw [houtcome] at heq
      cases heq
      refine .inr ⟨rfl, .inl ⟨primary, report, failure, hfrozen, ?_, houtcome, rfl, ?_⟩⟩
      -- a session without a failure and a verified report is served well
      · by_contra hcalm
        push Not at hcalm
        have hok := serveOutcome_ok.mpr ⟨hcalm.1, Bool.eq_true_of_not_eq_false hcalm.2⟩
        rw [houtcome] at hok
        cases hok
      · intro entry hentry huncertain
        apply infix_complaint
        apply failure.infix_text
        rw [serveOutcome_error houtcome]
        exact mem_cleanupErrors hentry huncertain
  · exact .inr ⟨rfl, .inr hother⟩

/-- Steps of the server that are none of a caller of shutdown are steps of the process. -/
theorem run_server {s t : Server} {ls : List Server.Label} (run : Run (Server.Acts core) s ls t)
    (others : ∀ l ∈ ls, serves l.action = true) (here : p.stage.isExited = false) :
    Run (Step core timeout) { p with server := s } (ls.map .server) { p with server := t } := by
  induction run with
  | nil => exact .nil _
  | @snoc s t ls l run last ih =>
    rw [List.map_append]
    refine (ih fun l hl => others l (List.mem_append_left _ hl)).snoc ?_
    exact .server l _ here last (others l (by simp))

theorem serves_of_isOpen {a : Action} (h : a.isOpen = true) : serves a = true := by
  cases a with
  | shutdown n => cases h
  | _ => rfl

theorem serves_of_begun {a : Action} (h : ∀ n, a ≠ .shutdown n) : serves a = true := by
  cases a with
  | shutdown n => exact absurd rfl (h n)
  | _ => rfl

/-- One handle is opened, the input ends, and the worker of the handle has ended when the process
leaves. -/
theorem exited_of_run_idle : ∃ as p report, Run (Step localProfile 10) start as p ∧ p.stage = .exited 0 "" ∧
    p.server.registry.frozenReport = some report ∧ report.workers = [.verified (handleName 1)] ∧
    ∀ id entry, p.server.registry.handles.lookup id = some entry → p.server.Ended entry.sender := by
  obtain ⟨opening, hopening, hcount, hopens⟩ :=
    Server.run_open (Server.admits_new (by decide) localProfile_admissionConfig)
  obtain ⟨⟨a, s₀, s₁⟩, ls, s, report, run, hfirst, hretires, -, hfrozen, hworkers, hreturned⟩ :=
    Server.run_idleShutdown
  have hopened : Run (Step localProfile 10) start (opening.map .server)
    { start with server := Server.idleServer } :=
    run_server (p := start) hopening (fun l hl => serves_of_isOpen (hopens l hl)) rfl
  obtain ⟨t, ⟨rfl, rfl, hbegins⟩, hgoes⟩ := run.cons_inv
  cases hfirst
  have hcleaned : Run (Step localProfile 10) { start with server := s₁, stage := .cleaning none 0 }
      (ls.map .server) { start with server := s, stage := .cleaning none 0 } :=
    run_server (p := { start with stage := .cleaning none 0 }) hgoes
      (fun l hl => serves_of_begun (hretires l hl).begun) rfl
  have hserved : serveOutcome none report = .ok () := by
    rw [serveOutcome_ok, ShutdownReport.verified, hworkers]
    exact ⟨rfl, rfl⟩
  have hreports := @Step.report localProfile 10
    { start with server := s, stage := .cleaning none 0 } 0 none report
    rfl rfl hreturned
  rw [hserved] at hreports
  have hprocess := hopened.append <| .cons (.sessionOver .ended rfl rfl (by simp)) <|
    .cons (.shutdown 0 none ⟨.shutdown 0, _, s₁⟩ _ rfl ⟨rfl, rfl, hbegins⟩ rfl) <|
    hcleaned.append <| .cons hreports (.single (.exit _ rfl))
  have hbound : Server.reservations (opening ++ ⟨.shutdown 0, Server.idleServer, s₁⟩ :: ls) < 2 ^ 64 := by
    have hnone : Server.reservations (⟨.shutdown 0, Server.idleServer, s₁⟩ :: ls) = 0 :=
      Server.reservations_idleShutdown rfl hretires
    unfold Server.reservations at hcount hnone ⊢
    rw [List.countP_append, hcount, hnone]
    decide
  rcases exited_of_run hprocess (by simpa [labels, Act.label, List.filterMap_cons,
    List.filterMap_map, Function.comp_def] using hbound)
    rfl with ⟨-, -, report', -, -, -, hended⟩ | ⟨hcode, -⟩
  · exact ⟨_, _, report, hprocess, rfl, hfrozen, hworkers, hended⟩
  · cases hcode

/-! ### A server that stands still -/

/-- A server that stands still goes on standing still, and returns nothing to a caller of shutdown. -/
theorem stuck_of_step {s t : Server} {a : Action} (h : Server.Step core s a t) (stuck : s.stuck = true) :
    t.stuck = true ∧ t.shutdowns = s.shutdowns := by
  have locked : ∀ {P : Prop}, s.stuck = false → P := by
    intro P free
    rw [stuck] at free
    cases free
  cases h with
  | dismiss k c call stage =>
    split
    · exact ⟨stuck, rfl⟩
    · exact ⟨stuck, rfl⟩
  | stuck => exact ⟨rfl, rfl⟩
  | shutdown _ free | await _ free | reuse _ _ free | freeze _ _ free => exact locked free
  | _ => exact ⟨stuck, rfl⟩

/-- The process waits for a server that stands still. -/
structure Hanging (p : Process) : Prop where
  stuck : p.server.stuck = true
  calm : p.interrupted = false
  unwatched : p.watch = none
  waiting : p.stage.working = true
  unanswered : ∀ primary n report, p.stage = .cleaning primary n →
    p.server.shutdowns.lookup n ≠ some (.returned report)

theorem Hanging.step (h : p.Hanging) {a : Act} (step : Step core timeout p a q)
    (quiet : a ≠ .interrupt ∧ ∀ error, a ≠ .panic error) : q.Hanging := by
  have working : ∀ {stage : ServeStage}, p.stage = stage → stage.working = true := by
    intro stage hstage
    rw [← hstage]
    exact h.waiting
  cases step with
  | server l t here acts other =>
    obtain ⟨hstuck, hshutdowns⟩ := stuck_of_step acts.2.2 h.stuck
    refine ⟨hstuck, h.calm, h.unwatched, h.waiting, ?_⟩
    rw [hshutdowns]
    exact h.unanswered
  | interrupt => exact absurd rfl quiet.1
  | sessionOver session runs stage token =>
    refine ⟨h.stuck, h.calm, h.unwatched, rfl, ?_⟩
    intro primary n report hstage
    cases hstage
  | shutdown n primary l t stage acts action =>
    -- the call needs the lock
    have hfree : p.server.stuck = false := by
      have hstep := acts.2.2
      rw [action] at hstep
      cases hstep with
      | shutdown | await | reuse => assumption
    rw [h.stuck] at hfree
    cases hfree
  | report n primary report runs stage returned => exact absurd returned (h.unanswered primary n report stage)
  | panic error => exact absurd rfl (quiet.2 error)
  | starve here locked => exact ⟨h.stuck, h.calm, h.unwatched, h.waiting, h.unanswered⟩
  | watch here token =>
    rw [h.calm] at token
    cases token
  | expire deadline _ _ watching =>
    rw [h.unwatched] at watching
    cases watching
  | exit outcome stage => cases working stage
  | crash error stage => cases working stage

/-- Without an interrupt and without a panic, the process never exits once its server stands still,
also when its input has ended. -/
theorem hangs_of_stuck (run : Run (Step core timeout) p as q) (h : p.Hanging)
    (quiet : ∀ a ∈ as, a ≠ .interrupt ∧ ∀ error, a ≠ .panic error) : q.stage.isExited = false := by
  have hhanging : q.Hanging := by
    refine run.invariant (I := Hanging) (G := fun a => a ≠ .interrupt ∧ ∀ error, a ≠ .panic error) ?_ quiet h
    intro p a q h hquiet step
    exact h.step step hquiet
  have hworking := hhanging.waiting
  cases hstage : q.stage with
  | exited code err =>
    rw [hstage] at hworking
    cases hworking
  | _ => rfl

/-- The calls of a running server are none of shutdown. -/
theorem serves_of_running {s : Server} {ls : List Server.Label} (run : Run (Server.Acts core) Server.new ls s)
    (running : s.registry.lifecycle = .running) : ∀ l ∈ ls, serves l.action = true := by
  generalize hnew : Server.new = s₀ at run
  induction run with
  | nil => exact List.forall_mem_nil _
  | @snoc s t ls l run last ih =>
    subst hnew
    have helected := Server.elected_of_run run
    obtain ⟨hbefore, hlast⟩ : s.registry.lifecycle = .running ∧ serves l.action = true := by
      have hnext := helected.next last.2.2
      rw [running] at hnext
      have hrunning : s.registry.lifecycle = .running := by
        rcases hnext with h | ⟨-, h⟩ | ⟨-, h⟩
        · exact h.symm
        · cases h
        · cases h
      refine ⟨hrunning, serves_of_begun fun n haction => ?_⟩
      have hstep := last.2.2
      rw [haction] at hstep
      -- a call takes the server out of service, or finds it out of it
      cases hstep with
      | shutdown => cases running
      | await _ _ _ _ stopping => exact stopping hrunning
      | reuse _ report _ _ frozen =>
        cases hcleanup : s.cleanup with
        | none => cases (helected.unstarted hcleanup).2.1.symm.trans frozen
        | some c => exact helected.not_running hcleanup hrunning
    intro l' hl'
    rcases List.mem_append.mp hl' with hl' | hl'
    · exact ih hbefore l' hl'
    · rw [List.mem_singleton.mp hl']
      exact hlast

/-- A request for a closed handle has taken the lock twice when the input ends. -/
theorem hangs_of_stuck_deadlock : ∃ as p q, Run (Step localProfile 10) start as p ∧ p.server.stuck = true ∧
    Run (Step localProfile 10) p [.sessionOver .ended] q ∧ q.stage.isExited = false := by
  obtain ⟨ls, s, hserver, hstuck, hrunning, -⟩ := Server.run_deadlock
  have before : Run (Step localProfile 10) start (ls.map .server) { start with server := s } :=
    run_server (p := start) hserver (serves_of_running hserver hrunning) rfl
  have run : Run (Step localProfile 10) { start with server := s } [.sessionOver .ended] _ :=
    .single (.sessionOver .ended rfl rfl (by simp))
  refine ⟨_, _, _, before, hstuck, run, hangs_of_stuck run ⟨hstuck, rfl, rfl, rfl, by simp [start]⟩ ?_⟩
  intro a ha
  cases List.mem_singleton.mp ha
  exact ⟨by simp, by simp⟩

/-- The lock keeps all threads of the runtime from the tasks. -/
structure Starving (p : Process) : Prop where
  stuck : p.server.stuck = true
  starved : p.starved = true
  waiting : p.stage.working = true

theorem Starving.step (h : p.Starving) {a : Act} (step : Step core timeout p a q) : q.Starving := by
  have hangs : ∀ {P : Prop}, p.starved = false → P := by
    intro P runs
    rw [h.starved] at runs
    cases runs
  have working : ∀ {stage : ServeStage}, p.stage = stage → stage.working = true := by
    intro stage hstage
    rw [← hstage]
    exact h.waiting
  cases step with
  | server l t here acts other =>
    obtain ⟨hstuck, -⟩ := stuck_of_step acts.2.2 h.stuck
    exact ⟨hstuck, h.starved, h.waiting⟩
  | interrupt | watch => exact ⟨h.stuck, h.starved, h.waiting⟩
  | starve => exact ⟨h.stuck, rfl, h.waiting⟩
  | sessionOver _ runs | report _ _ _ runs | panic _ runs | expire _ runs => exact hangs runs
  | shutdown n primary l t stage acts action =>
    obtain ⟨hstuck, -⟩ := stuck_of_step acts.2.2 h.stuck
    exact ⟨hstuck, h.starved, rfl⟩
  | exit outcome stage => cases working stage
  | crash error stage => cases working stage

/-- Not even an interrupt makes the process exit when its server keeps all threads of the runtime
waiting. -/
theorem hangs_of_starved (run : Run (Step core timeout) p as q) (h : p.Starving) :
    q.stage.isExited = false := by
  have hstarving : q.Starving := by
    refine run.invariant (I := Starving) (G := fun _ => True) ?_ (fun _ _ => trivial) h
    intro p a q h _ step
    exact h.step step
  have hworking := hstarving.waiting
  cases hstage : q.stage with
  | exited code err =>
    rw [hstage] at hworking
    cases hworking
  | _ => rfl

end Process

end PgMcp
