import PgMcp.Core.Limits
import PgMcp.Lib.Guard
import PgMcp.Lib.Text

/-!
# The command of a profile

`ConfigFile::resolve_with_context`: the connection string of a profile is what a command prints.
The command runs in a process group of its own and writes to a temporary file; it is polled until
it ends, and killed when the open is cancelled, the server stops or the time is up.

What the system does is data: the files in the temporary directory, whether a file can be created
and a process started, what each poll of the child reports, and what the file holds.

## Main definitions

* `Shell` — the state a command runs on.
* `ConfigFile.resolveWithContext` — the connection string of a profile.
* `Printed` — the string that a command has printed.

## Main results

* `ConfigFile.resolve_post` — what is left of a command, and what is made of its output.
* `ConfigFile.resolve_settles` — a command ends by its deadline, and leaves nothing behind.
-/

namespace PgMcp

open Program

/-- What `try_wait` reports of a child. -/
inductive ChildStatus where
  | running
  | exited (success : Bool)
  /-- It cannot be asked. -/
  | failed
  deriving DecidableEq, Repr

inductive ChildStage where
  | absent | running | reaped
  deriving DecidableEq, Repr

/-- What `wait` comes to once the group of a child was signalled. -/
inductive ChildWait where
  | ended
  /-- It cannot be waited for. -/
  | failed
  /-- The child is still there, `kill` having failed, and does not end. -/
  | blocked
  deriving DecidableEq, Repr

inductive ShellCall where
  /-- For the owner alone, and only where there is no such file. -/
  | create (name : String)
  /-- `bash -c`, in a session of its own. -/
  | spawn (script : String)
  | tryWait
  | terminate
  | kill
  | wait
  | openFile (name : String)
  | remove (name : String)
  deriving DecidableEq, Repr

/-- The system as a command meets it, with the number of control reads made and the calls, newest
first. -/
structure Shell where
  tick : ℕ
  pid : ℕ
  nextDsnFile : ℕ
  files : List String
  creates : Bool
  removes : Bool
  spawns : Bool
  /-- What successive polls report; the child runs on afterwards. -/
  waits : List ChildStatus
  /-- What the wait for a child that was given up comes to. -/
  lastWait : ChildWait
  /-- What the command has written, if it can be read. -/
  output : Option (List UInt8)
  child : ChildStage
  calls : List ShellCall
  deriving DecidableEq, Repr

abbrev ShellM := Program Shell ConfigError

def Shell.logged (s : Shell) (call : ShellCall) : Shell := { s with calls := call :: s.calls }

namespace Shell

variable (ctx : RequestContext)

/-- The file of a command. -/
def dsnFile (pid n : ℕ) : String := "postgres-mcp-dsn-" ++ toString pid ++ "-" ++ toString n

/-- The next name, from the counter of the process. -/
def outputPath : ShellM String := .act fun s =>
  -- the counter wraps
  (dsnFile s.pid s.nextDsnFile, { s with nextDsnFile := (s.nextDsnFile + 1) % 2 ^ 64 })

def createNew (name : String) : ShellM Unit := do
  let created ← .act fun s =>
    -- `create_new`: a file of that name is never taken over
    if s.creates && !s.files.contains name then
      (true, { s with files := name :: s.files }.logged (.create name))
    else (false, s)
  .require created .dsnCommand

/-- A file that cannot be removed is left there. -/
def removeFile (name : String) (s : Shell) : Shell :=
  { s with files := if s.removes then s.files.erase name else s.files }.logged (.remove name)

def spawn (script : String) : ShellM Unit := do
  let spawned ← .act fun s =>
    if s.spawns then (true, { s with child := .running }.logged (.spawn script)) else (false, s)
  .require spawned .dsnCommand

/-- `cancellation.is_cancelled()`. -/
def cancelled : ShellM Bool := .act fun s => (ctx.cancellation s.tick, { s with tick := s.tick + 1 })

def stopping : ShellM Bool := .act fun s => (ctx.shutdown s.tick, { s with tick := s.tick + 1 })

def expired : ShellM Bool := .act fun s =>
  (decide (ctx.deadline ≤ ctx.clock.now s.tick), { s with tick := s.tick + 1 })

/-- The command is to be given up. -/
def givenUp : ShellM Bool := do
  if ← cancelled ctx then return true
  else if ← stopping ctx then return true
  else expired ctx

/-- Whether `kill` can signal the group is not asked. -/
def terminateProcessGroup : ShellM Unit := .update fun s => (s.logged .terminate).logged .kill

/-- `child.wait()`, which can block for good. -/
def waitChild : ShellM Unit := do
  match ← .read Shell.lastWait with
  | .ended => .update fun s => { s.logged .wait with child := .reaped }
  | .failed => .update fun s => s.logged .wait
  | .blocked => .outOfRounds

def tryWait : ShellM ChildStatus := .act fun s =>
  match s.waits with
  | [] => (.running, s.logged .tryWait)
  | .exited success :: waits => (.exited success, { s with waits, child := .reaped }.logged .tryWait)
  | status :: waits => (status, { s with waits }.logged .tryWait)

def openFile (name : String) : ShellM (Option (List UInt8)) := .act fun s =>
  -- one byte more than the limit, so that an output that is too long is seen
  (s.output.map (·.take 65537), s.logged (.openFile name))

/-- The text without the white space around it. -/
def trimmed (text : String) : String := String.ofList (Text.trim isWhiteSpace text.toList)

/-- What the output is read as. -/
def readOutput (name : String) : ShellM String := do
  match ← openFile name with
  | none => .fail .dsnCommand
  | some bytes =>
    .require (bytes.length ≤ 65536) .dsnCommand
    match String.fromUTF8? ⟨bytes.toArray⟩ with
    | none => .fail .invalidDsnOutput
    | some text =>
      .require (trimmed text ≠ "") .emptyDsn
      return trimmed text

/-- The loop: poll the child until it has ended or is given up. -/
def pollCommand (name : String) : ℕ → ShellM String
  | 0 => .outOfRounds
  | rounds + 1 => do
    -- the flags come first: a command that has ended by then is still given up
    if ← givenUp ctx then
      terminateProcessGroup
      waitChild
      .fail .dsnTimeout
    else
      match ← tryWait with
      | .exited success =>
        .require success .dsnCommand
        readOutput name
      | .running => pollCommand name rounds
      | .failed =>
        terminateProcessGroup
        waitChild
        .fail .dsnCommand

end Shell

open Shell

/-- `ConfigFile::resolve_with_context`. -/
def ConfigFile.resolveWithContext (file : ConfigFile) (rounds : ℕ) (profile : String) (ctx : RequestContext) :
    ShellM (Config × String) :=
  match file.profiles.lookup profile with
  | none => .fail .unknownProfile
  | some p => do
    let config ← .ofExcept (file.profileConfigForProfile p)
    let name ← outputPath
    createNew name
    -- the guard of the file is dropped on every way out
    Program.guarded (removeFile name) do
      spawn p.dsn
      let dsn ← pollCommand ctx name rounds
      return (config, dsn)

/-! ### Raised flags -/

/-- A reason to give a command up is there at the given read. -/
def RequestContext.Raised (ctx : RequestContext) (tick : ℕ) : Prop :=
  ctx.cancellation tick = true ∨ ctx.shutdown tick = true ∨ ctx.deadline ≤ ctx.clock.now tick

theorem RequestContext.Raised.mono {ctx : RequestContext} {m n : ℕ} (h : ctx.Raised m) (hmn : m ≤ n) :
    ctx.Raised n := by
  rcases h with hcancelled | hstopping | hexpired
  · exact .inl (ctx.cancellation_of_le hmn hcancelled)
  · exact .inr (.inl (ctx.shutdown_of_le hmn hstopping))
  · exact .inr (.inr (ctx.clock.le_now hmn hexpired))

namespace Shell

variable {ctx : RequestContext}

/-- The state after some control reads. -/
def ticked (n : ℕ) (s : Shell) : Shell := { s with tick := s.tick + n }

/-- Giving a command up has a reason, and otherwise each of the three flags was read once. -/
theorem givenUp_post (s : Shell) : (givenUp ctx).Post s fun r s' =>
    (∃ n, s' = s.ticked n ∧ r = .ok true ∧ ctx.Raised s'.tick) ∨
      (s' = s.ticked 3 ∧ r = .ok false ∧ ¬ ctx.deadline ≤ ctx.clock.now (s.tick + 2)) := by
  simp only [givenUp, cancelled, stopping, expired, post_bind, post_act, andThen_ok]
  -- the first flag that is up ends the reading
  by_cases hcancelled : ctx.cancellation s.tick = true
  · rw [if_pos hcancelled, post_pure]
    exact .inl ⟨1, rfl, rfl, .inl (ctx.cancellation_of_le (Nat.le_succ _) hcancelled)⟩
  rw [if_neg hcancelled, post_bind, post_act, andThen_ok]
  by_cases hstopping : ctx.shutdown (s.tick + 1) = true
  · rw [if_pos hstopping, post_pure]
    exact .inl ⟨2, rfl, rfl, .inr (.inl (ctx.shutdown_of_le (Nat.le_succ _) hstopping))⟩
  rw [if_neg hstopping, post_act]
  by_cases hexpired : ctx.deadline ≤ ctx.clock.now (s.tick + 2)
  · exact .inl ⟨3, rfl, by simp [hexpired], .inr (.inr (ctx.clock.le_now (Nat.le_succ _) hexpired))⟩
  · exact .inr ⟨rfl, by simp [hexpired], hexpired⟩

theorem givenUp_terminates (s : Shell) : (givenUp ctx).Terminates s := by
  simp only [givenUp, cancelled, stopping, expired, terminates_act_bind]
  split
  · exact terminates_pure true
  rw [terminates_act_bind]
  split
  · exact terminates_pure true
  · exact terminates_act _

/-! ### The file and the process -/

theorem createNew_post (name : String) (s : Shell) : (createNew name).Post s fun r s' =>
    (r = .ok () ∧ s' = { s with files := name :: s.files }.logged (.create name)) ∨
      (r = .error .dsnCommand ∧ s' = s) := by
  simp only [createNew, post_bind, post_act, andThen_ok, post_require]
  by_cases hcreates : (s.creates && !s.files.contains name) = true
  · simp only [if_pos hcreates]
    exact ⟨fun _ => .inl ⟨trivial, trivial⟩, fun h => absurd h (by simp)⟩
  · simp only [if_neg hcreates]
    exact ⟨fun h => absurd h (by simp), fun _ => .inr ⟨trivial, trivial⟩⟩

theorem createNew_terminates (name : String) (s : Shell) : (createNew name).Terminates s := by
  simp only [createNew, terminates_act_bind, terminates_require]

theorem spawn_post (script : String) (s : Shell) : (spawn script).Post s fun r s' =>
    (r = .ok () ∧ s' = { s with child := .running }.logged (.spawn script)) ∨
      (r = .error .dsnCommand ∧ s' = s) := by
  simp only [spawn, post_bind, post_act, andThen_ok, post_require]
  by_cases hspawns : s.spawns = true
  · simp only [if_pos hspawns]
    exact ⟨fun _ => .inl ⟨trivial, trivial⟩, fun h => absurd h (by simp)⟩
  · simp only [if_neg hspawns]
    exact ⟨fun h => absurd h (by simp), fun _ => .inr ⟨trivial, trivial⟩⟩

theorem spawn_terminates (script : String) (s : Shell) : (spawn script).Terminates s := by
  simp only [spawn, terminates_act_bind, terminates_require]

/-- A file that was just created is the one that is removed. -/
theorem removeFile_files {name : String} {files : List String} {s : Shell} (hfiles : s.files = name :: files)
    (hremoves : s.removes = true) : (removeFile name s).files = files := by
  show (if s.removes then s.files.erase name else s.files) = files
  rw [if_pos hremoves, hfiles]
  exact List.erase_cons_head name files

/-! ### One command -/

/-- What a command has printed: UTF-8 of at most 64 KiB that is not all white space. -/
def Printed (output : Option (List UInt8)) (dsn : String) : Prop :=
  ∃ bytes text, output = some bytes ∧ bytes.length ≤ 65536 ∧
    String.fromUTF8? ⟨bytes.toArray⟩ = some text ∧ dsn = trimmed text ∧ dsn ≠ ""

/-- How a command that was started has ended: it is reaped where it can be waited for, its group is
signalled unless it had ended by itself, and its output is read only then. -/
structure Ran (ctx : RequestContext) (name : String) (s : Shell) (r : Except ConfigError String)
    (s' : Shell) : Prop where
  files : s'.files = s.files
  removes : s'.removes = s.removes
  child : s.lastWait = .ended → s'.child = .reaped
  calls : ∃ polls tail, s'.calls = tail ++ polls ++ s.calls ∧ (∀ call ∈ polls, call = .tryWait) ∧
    (tail = [] ∨ tail = [.openFile name] ∨ tail = [.wait, .kill, .terminate])
  printed : ∀ dsn, r = .ok dsn → Printed s.output dsn
  timeout : r = .error .dsnTimeout → ctx.Raised s'.tick ∧
    ∃ before, s'.calls = .wait :: .kill :: .terminate :: before

/-- A command that has failed has printed nothing. -/
theorem printed_of_error {e : ConfigError} {output : Option (List UInt8)} (dsn : String)
    (h : (.error e : Except ConfigError String) = .ok dsn) : Printed output dsn := by
  cases h

theorem readOutput_post (name : String) (s : Shell) : (readOutput name).Post s fun r s' =>
    s' = s.logged (.openFile name) ∧ (∀ dsn, r = .ok dsn → Printed s.output dsn) ∧
      r ≠ .error .dsnTimeout := by
  simp only [readOutput, openFile, post_bind, post_act, andThen_ok]
  cases houtput : s.output with
  | none => exact ⟨rfl, printed_of_error, by simp⟩
  | some bytes =>
    simp only [Option.map_some, post_bind, post_require, decide_eq_true_eq, decide_eq_false_iff_not,
      andThen_ok, andThen_error]
    constructor
    · intro hlength
      -- what was read up to the limit is all there is
      have htake : bytes.length ≤ 65536 := by
        rw [List.length_take] at hlength
        omega
      rw [List.take_of_length_le (by omega)]
      cases htext : String.fromUTF8? ⟨bytes.toArray⟩ with
      | none => exact ⟨rfl, printed_of_error, by simp⟩
      | some text =>
        simp only [post_bind, post_require, decide_eq_true_eq, decide_eq_false_iff_not, andThen_ok,
          andThen_error, post_pure]
        constructor
        · intro hne
          refine ⟨trivial, ?_, by simp⟩
          intro dsn hdsn
          cases hdsn
          exact ⟨bytes, text, rfl, htake, htext, rfl, hne⟩
        · intro _
          exact ⟨trivial, printed_of_error, by simp⟩
    · intro _
      exact ⟨trivial, printed_of_error, by simp⟩

/-- Giving a command up leaves the child reaped where it can be waited for. -/
theorem giveUp_post {α : Type} (e : ConfigError) (s : Shell) :
    (do terminateProcessGroup; waitChild; .fail e : ShellM α).Post s fun r s' => r = .error e ∧
      s'.tick = s.tick ∧ s'.files = s.files ∧ s'.removes = s.removes ∧
      (s.lastWait = .ended → s'.child = .reaped) ∧ s'.calls = .wait :: .kill :: .terminate :: s.calls := by
  simp only [terminateProcessGroup, waitChild, post_bind, post_update, andThen_ok, post_read]
  cases hwait : ((s.logged .terminate).logged .kill).lastWait with
  | ended =>
    simp only [post_update, andThen_ok, post_fail]
    exact ⟨trivial, rfl, rfl, rfl, fun _ => trivial, rfl⟩
  | failed =>
    simp only [post_update, andThen_ok, post_fail]
    refine ⟨trivial, rfl, rfl, rfl, fun hended => ?_, rfl⟩
    cases hended.symm.trans hwait
  | blocked => trivial

theorem giveUp_terminates {α : Type} (e : ConfigError) {s : Shell} (hwait : s.lastWait ≠ .blocked) :
    (do terminateProcessGroup; waitChild; .fail e : ShellM α).Terminates s := by
  simp only [terminateProcessGroup, terminates_update_bind]
  refine terminates_bind ?_ fun _ _ _ => terminates_fail _
  rw [waitChild, terminates_read_bind]
  have hsame : ((s.logged .terminate).logged .kill).lastWait ≠ .blocked := hwait
  cases hcase : ((s.logged .terminate).logged .kill).lastWait with
  | ended | failed => exact terminates_update _
  | blocked => exact absurd hcase hsame

/-- Every way out of the loop leaves the child as `Ran` says. -/
theorem pollCommand_post (name : String) (rounds : ℕ) (s : Shell) :
    (pollCommand ctx name rounds).Post s (Ran ctx name s) := by
  induction rounds generalizing s with
  | zero => exact post_outOfRounds.mpr trivial
  | succ rounds ih =>
    -- the child runs on, and is polled again
    have goesOn : ∀ {s₁ : Shell}, s₁.files = s.files → s₁.removes = s.removes → s₁.output = s.output →
        s₁.lastWait = s.lastWait → s₁.calls = .tryWait :: s.calls →
        (pollCommand ctx name rounds).Post s₁ (Ran ctx name s) := by
      intro s₁ files removes output lastWait calls
      refine (ih s₁).mono ?_
      intro r s' h
      obtain ⟨polls, tail, hcalls, hpolls, htail⟩ := h.calls
      refine ⟨h.files.trans files, h.removes.trans removes, lastWait ▸ h.child,
        ⟨polls ++ [.tryWait], tail, ?_, ?_, htail⟩, ?_, h.timeout⟩
      · rw [hcalls, calls]
        simp
      · intro call hcall
        rcases List.mem_append.mp hcall with hcall | hcall
        · exact hpolls call hcall
        · exact List.mem_singleton.mp hcall
      · rw [← output]
        exact h.printed
    unfold pollCommand
    refine (givenUp_post s).bind ?_ ?_
    swap
    · intro e s₁ h
      rcases h with ⟨n, -, h, -⟩ | ⟨-, h, -⟩ <;> cases h
    intro b s₁ h
    rcases h with ⟨n, rfl, hb, hraised⟩ | ⟨rfl, hb, -⟩
    · cases hb
      simp only [if_true]
      refine (giveUp_post .dsnTimeout _).mono ?_
      intro r s' h
      obtain ⟨rfl, htick, hfiles, hremoves, hchild, hcalls⟩ := h
      refine ⟨hfiles, hremoves, hchild, ⟨[], _, hcalls, List.forall_mem_nil _, .inr (.inr rfl)⟩,
        printed_of_error, ?_⟩
      exact fun _ => ⟨htick ▸ hraised, _, hcalls⟩
    · cases hb
      simp only [Bool.false_eq_true, if_false, tryWait, post_bind, post_act]
      cases hwaits : (s.ticked 3).waits with
      | nil =>
        exact goesOn rfl rfl rfl rfl rfl
      | cons status waits =>
        cases status with
        | running => exact goesOn rfl rfl rfl rfl rfl
        | exited success =>
          simp only [andThen_ok, post_bind, post_require, andThen_error]
          constructor
          · intro _
            refine (readOutput_post name _).mono ?_
            intro r s' h
            obtain ⟨rfl, hprinted, htimeout⟩ := h
            refine ⟨rfl, rfl, fun _ => rfl, ⟨[.tryWait], _, rfl, ?_, .inr (.inl rfl)⟩, hprinted,
              fun h => absurd h htimeout⟩
            exact fun call hcall => List.mem_singleton.mp hcall
          · intro _
            refine ⟨rfl, rfl, fun _ => rfl, ⟨[.tryWait], [], rfl, ?_, .inl rfl⟩, printed_of_error, by simp⟩
            exact fun call hcall => List.mem_singleton.mp hcall
        | failed =>
          simp only [andThen_ok]
          refine (giveUp_post .dsnCommand _).mono ?_
          intro r s' h
          obtain ⟨rfl, -, hfiles, hremoves, hchild, hcalls⟩ := h
          refine ⟨hfiles, hremoves, hchild, ⟨[.tryWait], _, hcalls, ?_, .inr (.inr rfl)⟩,
            printed_of_error, by simp⟩
          exact fun call hcall => List.mem_singleton.mp hcall

theorem readOutput_terminates (name : String) (s : Shell) : (readOutput name).Terminates s := by
  simp only [readOutput, openFile, terminates_act_bind]
  cases s.output with
  | none => exact terminates_fail _
  | some bytes =>
    simp only [Option.map_some, terminates_require_bind]
    intro _
    cases String.fromUTF8? ⟨(bytes.take 65537).toArray⟩ with
    | none => exact terminates_fail _
    | some text => simp only [terminates_require_bind, terminates_pure, implies_true]

/-- The loop ends in the turn in which the clock has come to the deadline, if not before. -/
theorem pollCommand_terminates (name : String) {rounds : ℕ} {s : Shell}
    (hwait : s.lastWait ≠ .blocked) (h : ctx.deadline ≤ ctx.clock.now (s.tick + 3 * rounds)) :
    (pollCommand ctx name (rounds + 1)).Terminates s := by
  induction rounds generalizing s with
  | zero =>
    unfold pollCommand
    refine (givenUp_terminates s).bind (givenUp_post s) ?_
    intro b s₁ hgiven
    rcases hgiven with ⟨n, rfl, hb, -⟩ | ⟨-, -, hearly⟩
    · cases hb
      exact giveUp_terminates .dsnTimeout hwait
    · exact absurd (ctx.clock.le_now (by omega) h) hearly
  | succ rounds ih =>
    unfold pollCommand
    refine (givenUp_terminates s).bind (givenUp_post s) ?_
    intro b s₁ hgiven
    rcases hgiven with ⟨n, rfl, hb, -⟩ | ⟨rfl, hb, -⟩
    · cases hb
      exact giveUp_terminates .dsnTimeout hwait
    · cases hb
      have hlater : ∀ {s₁ : Shell}, s₁.tick = s.tick + 3 → s₁.lastWait = s.lastWait →
          (pollCommand ctx name (rounds + 1)).Terminates s₁ := by
        intro s₁ htick hsame
        apply ih (hsame ▸ hwait)
        rw [htick, Nat.add_assoc, Nat.add_comm 3]
        exact h
      simp only [Bool.false_eq_true, if_false, tryWait, terminates_act_bind]
      cases (s.ticked 3).waits with
      | nil => exact hlater rfl rfl
      | cons status waits =>
        cases status with
        | running => exact hlater rfl rfl
        | exited success =>
          simp only [terminates_require_bind]
          exact fun _ => readOutput_terminates name _
        | failed => exact giveUp_terminates .dsnCommand hwait

end Shell

/-! ### The profile -/

section Resolve

variable {core : Core} {file : ConfigFile} {profile : String} {command : Except ConfigError String}

theorem Core.resolve_of_config {config : Config} (hprofiles : core.profiles = some file)
    (hconfig : file.profileConfig profile = .ok config) :
    core.resolve profile command = command.map fun dsn => (config, dsn) := by
  unfold Core.resolve
  rw [hprofiles]
  simp only [hconfig]
  cases command <;> rfl

theorem Core.resolve_of_refused {e : ConfigError} (hprofiles : core.profiles = some file)
    (hconfig : file.profileConfig profile = .error e) : core.resolve profile command = .error e := by
  unfold Core.resolve
  rw [hprofiles]
  simp only [hconfig]
  rfl

end Resolve

namespace ConfigFile

variable (file : ConfigFile) {ctx : RequestContext} {rounds : ℕ} {profile : String} {s : Shell}

/-- What is left of a command, and what is made of its output. -/
structure Resolved (ctx : RequestContext) (profile : String) (s : Shell)
    (r : Except ConfigError (Config × String)) (s' : Shell) : Prop where
  /-- The temporary file is gone, and no other file is touched. -/
  files : s.removes = true → s'.files = s.files
  child : s.lastWait = .ended → s.child ≠ .running → s'.child ≠ .running
  /-- What the server makes of a command that has ended so. -/
  answer : ∃ command : Except ConfigError String, (command = .error .dsnTimeout → ctx.Raised s'.tick) ∧
    (∀ dsn, command = .ok dsn → Shell.Printed s.output dsn) ∧
    ∀ core : Core, core.profiles = some file → core.resolve profile command = r

/-- Nothing was started, and the error is that of the configuration if there is one. -/
theorem Resolved.of_error {e : ConfigError} {s' : Shell} (files : s.removes = true → s'.files = s.files)
    (child : s'.child = s.child) (timeout : e ≠ .dsnTimeout)
    (config : ∀ e', file.profileConfig profile = .error e' → e = e') :
    file.Resolved ctx profile s (.error e) s' := by
  refine ⟨files, fun _ h => child ▸ h, .error e, fun h => absurd (Except.error.inj h) timeout,
    Shell.printed_of_error, ?_⟩
  intro core hprofiles
  cases hconfig : file.profileConfig profile with
  | ok config =>
    rw [Core.resolve_of_config hprofiles hconfig]
    rfl
  | error e' => rw [Core.resolve_of_refused hprofiles hconfig, config e' hconfig]

/-- Whatever becomes of the command of a profile, its file is removed, its process does not run on where
it can be waited for, and the profile is resolved to what it has printed. -/
theorem resolve_post : (file.resolveWithContext rounds profile ctx).Post s (file.Resolved ctx profile s) := by
  unfold resolveWithContext
  cases hprofile : file.profiles.lookup profile with
  | none =>
    have hunknown : file.profileConfig profile = .error .unknownProfile := by
      unfold profileConfig
      rw [hprofile]
    apply Resolved.of_error file (fun _ => rfl) rfl (by simp)
    intro e' he'
    rw [hunknown] at he'
    exact Except.error.inj he'
  | some p =>
    have hconfig : file.profileConfig profile = file.profileConfigForProfile p := by
      unfold profileConfig
      rw [hprofile]
    simp only [post_bind, post_ofExcept]
    cases hresult : file.profileConfigForProfile p with
    | error e =>
      refine Resolved.of_error file (fun _ => rfl) rfl ?_ ?_
      · rcases file.profileConfigForProfile_cases p with ⟨c, hok, -⟩ | ⟨f, -, herror⟩
        · rw [hresult] at hok
          cases hok
        · rw [hresult] at herror
          cases herror
          simp
      · intro e' he'
        rw [hconfig, hresult] at he'
        exact Except.error.inj he'
    | ok config =>
      have hok : ∀ e', file.profileConfig profile = .error e' → ConfigError.dsnCommand = e' := by
        intro e' he'
        rw [hconfig, hresult] at he'
        cases he'
      simp only [outputPath, andThen_ok, post_bind, post_act]
      apply (createNew_post _ _).mono
      intro r s₁ hcreated
      rcases hcreated with ⟨rfl, rfl⟩ | ⟨rfl, rfl⟩
      swap
      · exact .of_error file (fun _ => rfl) rfl (by simp) hok
      rw [andThen_ok, post_guarded, post_bind]
      apply (spawn_post _ _).mono
      intro r s₁ hspawned
      rcases hspawned with ⟨rfl, rfl⟩ | ⟨rfl, rfl⟩
      swap
      · exact .of_error file (fun h => removeFile_files rfl h) rfl (by simp) hok
      -- the command runs
      rw [andThen_ok, post_bind]
      apply (pollCommand_post _ rounds _).mono
      intro r s' hran
      have hfiles : s.removes = true → (removeFile (dsnFile s.pid s.nextDsnFile) s').files = s.files := by
        intro hremoves
        exact removeFile_files hran.files (hran.removes.trans hremoves)
      have hchild : s.lastWait = .ended → (removeFile (dsnFile s.pid s.nextDsnFile) s').child ≠ .running := by
        intro hended
        show s'.child ≠ .running
        rw [hran.child hended]
        simp
      cases r with
      | error e =>
        refine ⟨hfiles, fun hended _ => hchild hended, .error e,
          fun h => (hran.timeout h).1, Shell.printed_of_error, ?_⟩
        intro core hprofiles
        rw [Core.resolve_of_config hprofiles (hconfig.trans hresult)]
        rfl
      | ok dsn =>
        refine ⟨hfiles, fun hended _ => hchild hended, .ok dsn, fun h => absurd h (by simp), hran.printed, ?_⟩
        intro core hprofiles
        rw [Core.resolve_of_config hprofiles (hconfig.trans hresult)]
        rfl

/-- An open whose command has ended goes on as the server lets it: to its connection, or to the release of
its slot. -/
theorem Resolved.moves {core : Core} {c : OpenCall} {now : ℕ} {r : Except ConfigError (Config × String)}
    {s' : Shell} (h : file.Resolved ctx c.profile s r s') (hprofiles : core.profiles = some file)
    (hstage : c.stage = .resolving) (hraised : ctx.Raised s'.tick → c.raised now = true) :
    (∃ config dsn, r = .ok (config, dsn) ∧ c.Moves core now (.connecting config dsn)) ∨
      ∃ e, r = .error e ∧ c.Moves core now (.finishing e.refusal none) := by
  obtain ⟨command, htimeout, -, hresolve⟩ := h.answer
  have hanswer := hresolve core hprofiles
  cases r with
  | ok answer => exact .inl ⟨answer.1, answer.2, rfl, .resolved command _ _ hstage hanswer⟩
  | error e => exact .inr ⟨e, rfl, .unresolved command e hstage hanswer fun h => hraised (htimeout h)⟩

theorem resolve_terminates (hwait : s.lastWait ≠ .blocked)
    (h : ctx.deadline ≤ ctx.clock.now (s.tick + 3 * rounds)) :
    (file.resolveWithContext (rounds + 1) profile ctx).Terminates s := by
  unfold resolveWithContext
  cases file.profiles.lookup profile with
  | none => exact terminates_fail _
  | some p =>
    simp only [terminates_ofExcept_bind, outputPath, terminates_act_bind]
    intro config _
    apply (createNew_terminates _ _).bind (createNew_post _ _)
    intro _ s₁ hcreated
    apply terminates_guarded
    apply (spawn_terminates _ _).bind (spawn_post _ _)
    intro _ s₂ hspawned
    -- neither has read the clock
    have hsame : s₂.tick = s.tick ∧ s₂.lastWait = s.lastWait := by
      rcases hcreated with ⟨-, rfl⟩ | ⟨h, -⟩
      · rcases hspawned with ⟨-, rfl⟩ | ⟨h, -⟩
        · exact ⟨rfl, rfl⟩
        · cases h
      · cases h
    apply terminates_bind
    · apply pollCommand_terminates
      · exact hsame.2 ▸ hwait
      · rw [hsame.1]
        exact h
    · exact fun _ _ _ => terminates_pure _

/-- A command ends: when its deadline has come it has been given up, and the wait for it returns. -/
theorem resolve_settles (hwait : s.lastWait ≠ .blocked)
    (h : ctx.deadline ≤ ctx.clock.now (s.tick + 3 * rounds)) :
    ∃ r s', (file.resolveWithContext (rounds + 1) profile ctx).Returns s r s' ∧
      file.Resolved ctx profile s r s' := by
  have hends : (file.resolveWithContext (rounds + 1) profile ctx).Terminates s :=
    resolve_terminates file hwait h
  obtain ⟨r, s', hr⟩ := hends
  exact ⟨r, s', hr, (resolve_post file).returns hr⟩

/-- The command prints a name and a line break, and has ended at the second poll. -/
def printing : Shell where
  tick := 0
  pid := 7
  nextDsnFile := 0
  files := ["notes"]
  creates := true
  removes := true
  spawns := true
  waits := [.running, .exited true]
  lastWait := .ended
  output := some [100, 98, 10]
  child := .absent
  calls := []

theorem resolve_settles_printing : ∃ config s',
    (oneProfile.resolveWithContext 4 "local" (.timed none none 9)).Returns printing (.ok (config, "db")) s' ∧
      oneProfile.Resolved (.timed none none 9) "local" printing (.ok (config, "db")) s' := by
  have hdeadline : (RequestContext.timed none none 9).deadline ≤
      (RequestContext.timed none none 9).clock.now (printing.tick + 3 * 3) := by decide
  obtain ⟨r, s', hr, hresolved⟩ := resolve_settles oneProfile (s := printing) (by decide) hdeadline
  have hprinted : ((oneProfile.resolveWithContext 4 "local" (.timed none none 9)) printing).result?.any
      (fun r => r.toOption.any fun answer => answer.2 == "db") = true := by decide +kernel
  obtain ⟨r', hr', hany⟩ := (Option.any_eq_true _ _).mp hprinted
  obtain ⟨rfl, rfl⟩ := (returns_of_result? hr').unique hr
  cases r' with
  | error e => cases hany
  | ok answer =>
    obtain ⟨config, dsn⟩ := answer
    obtain rfl : dsn = "db" := beq_iff_eq.mp hany
    exact ⟨config, _, hr, hresolved⟩

end ConfigFile

end PgMcp
