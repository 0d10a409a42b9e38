import PgMcp.Lib.Program
import PgMcp.Xtask.Repository

/-!
# Publishing a release

A release is published by taking the draft mark off it.  The draft is either one that an earlier
run has left behind, which the run resumes, or one that the run creates.  What the programs `git`,
`gh`, `tar` and `sha256sum` do, and what the file system does, is the environment of a run; the
run is logged by what it has observed of the releases.

## Main definitions

* `Environment` — the outcomes of the programs and of the file system.
* `Event` — what a run observes, and the command that publishes.
* `publish` — as the source has it.
* `Gated` — before the command that publishes, all that is to be published has been observed.
* `Resumed`, `Created` — the inputs for which one of the two ways comes to that command.

## Main results

* `approve_returns` — a run comes to the command in one of the two ways.
* `gated_iff` — the gate holds exactly when no run publishes what it has created.
-/

namespace PgMcp
namespace Xtask

open Checks Text

/-! ### Releases -/

structure ReleaseAsset where
  name : Str
  size : ℕ
  browserDownloadUrl : Option Str
  deriving DecidableEq, Repr

structure ReleaseJson where
  draft : Bool
  prerelease : Bool
  tagName : Str
  targetCommitish : Str
  body : Str
  publishedAt : Option Str
  assets : List ReleaseAsset
  deriving DecidableEq, Repr

/-- What a program printed that is read as a document. -/
structure Reply (α : Type) where
  output : Output
  document : Except String α

/-- What a run observes of the releases, and the command that publishes one. -/
inductive Event
  /-- The release of the tag is looked up. -/
  | looked (release : ReleaseJson)
  /-- The releases are listed. -/
  | listed (releases : List ReleaseJson)
  /-- A draft is created for the tag. -/
  | created (tag : Str)
  /-- The digests of a file of the directory and of the release's file of that name. -/
  | digests (name local' remote : Str)
  /-- The draft mark is taken off the release of the tag. -/
  | edit (tag : Str)
  deriving DecidableEq, Repr

/-- The outcomes of the programs that a run starts, each at its place, and of the file system. -/
structure Environment where
  repository : Repository
  head : Except String Output
  remote : Except String Output
  tagType : Except String Output
  peeled : Except String Output
  createNotesDir : Except String Unit
  changelog : Except String Str
  writeNotes : Except String Unit
  readNotes : Except String Unit
  notesPath : Option Str
  assets : Directory
  existing : Except String (Reply ReleaseJson)
  list : Except String (Reply (List ReleaseJson))
  runTrue : Except String Unit
  runFalse : Except String Unit
  downloadExists : Bool
  createDownload : Except String Unit
  download : Except String Output
  downloaded : Directory
  tarListing : Str → Except String Output
  size : Str → Except String ℕ
  downloadedSize : Str → Except String ℕ
  create : Except String Output
  createdList : Except String (Reply (List ReleaseJson))
  edit : Except String Output
  confirm : Except String (Reply ReleaseJson)

/-! ### The checks before a release is looked up -/

def repo : String := "tilmon-engineering/pg-mcp"

def product : Str := "postgres-mcp".toList

def trimEndMatches (c : Char) (s : Str) : Str := s.rdropWhile (· == c)

/-- The checks of the working copy, the notes and the assets. -/
def prepare (env : Environment) (tag expectedSha : Str) : Except String (Str × Str) := do
  let version ← validateRepository env.repository tag
  let head ← run "git" env.head
  ok head "git HEAD"
  failIf (trim isWhiteSpace head.stdout ≠ expectedSha) "checked-out HEAD does not match expected SHA"
  let remote ← run "git" env.remote
  ok remote "origin preflight"
  failIf (trimEndMatches '/' (trim isWhiteSpace remote.stdout) ≠
      ("https://github.com/" ++ repo ++ ".git").toList)
    "origin must be canonical HTTPS GitHub URL"
  let tagType ← run "git" env.tagType
  ok tagType "annotated tag check"
  failIf (trim isWhiteSpace tagType.stdout ≠ "tag".toList) "release tag must be annotated"
  let peeled ← run "git" env.peeled
  ok peeled "tag target check"
  failIf (trim isWhiteSpace peeled.stdout ≠ expectedSha) "annotated tag does not resolve to expected SHA"
  env.createNotesDir
  let changelog ← env.changelog
  let notes ← extractNotes changelog version
  env.writeNotes
  let _ ← verifyAssetDir env.assets
  pure (version, notes)

/-! ### The assets of a draft -/

/-- The archives and the file of their checksums. -/
def assetNames : List Str := archiveNames ++ [sha256sums]

def verifyArchiveMembers (env : Environment) (dir : Directory) (name : Str) : Except String Unit := do
  let archive ← (dir.join name).elim (.error "bad archive path") .ok
  let output ← run "tar" (env.tarListing archive)
  ok output "archive listing"
  failIf (lines output.stdout ≠ [product])
    ("archive " ++ String.ofList name ++ " must contain only " ++ String.ofList product)

/-- The release's assets are downloaded and verified. -/
def fetchAssets (env : Environment) : Except String Unit := do
  failIf (env.downloadExists = true) "release download directory already exists; manual recovery required"
  env.createDownload
  let _ ← env.downloaded.path.elim (.error "bad download path") .ok
  let output ← run "gh" env.download
  ok output "release asset download"
  let _ ← verifyAssetDir env.downloaded
  let _ ← archiveNames.mapM (verifyArchiveMembers env env.downloaded)

/-- The digests of a file here and of the one that was downloaded. -/
def compareAsset (env : Environment) (name : Str) : Except String (Str × Str) := do
  let local' ← checksum env.assets.sha256sum (env.assets.join name)
  let fetched ← checksum env.downloaded.sha256sum (env.downloaded.join name)
  -- the file that was downloaded, against the one that is to be published
  failIf (local' ≠ fetched) ("release asset digest mismatch for " ++ String.ofList name)
  let size ← env.size name
  let downloadedSize ← env.downloadedSize name
  failIf (size ≠ downloadedSize) ("release asset size mismatch for " ++ String.ofList name)
  pure (local', fetched)

/-- A run of the command: what it has observed is its state. -/
abbrev Publishing (α : Type) := Program (List Event) String α

def observe (e : Event) : Publishing Unit := Program.update (· ++ [e])

def compareAssets (env : Environment) : List Str → Publishing Unit
  | [] => pure ()
  | name :: names => do
    let digests ← Program.ofExcept (compareAsset env name)
    observe (.digests name digests.1 digests.2)
    compareAssets env names

def compareReleaseAssets (env : Environment) : Publishing Unit := do
  Program.ofExcept (fetchAssets env)
  compareAssets env assetNames

/-! ### The command -/

def decode {α : Type} (what : String) (reply : Reply α) : Except String α :=
  reply.document.mapError fun e => what ++ ": " ++ e

def confirmPublished (env : Environment) : Except String Unit := do
  let reply ← run "gh" env.confirm
  let release ← decode "invalid GitHub release JSON" reply
  failIf (release.draft ∨ release.publishedAt.isNone) "release publish transition was not confirmed"

/-- The draft mark is taken off, and the release looked at once more. -/
def publishDraft (env : Environment) (tag : Str) : Publishing Unit := do
  observe (.edit tag)
  let edit ← Program.ofExcept (run "gh" env.edit)
  Program.ofExcept (ok edit "GitHub release publish")
  Program.ofExcept (confirmPublished env)

/-- The release of the tag among all releases. -/
def selectRelease (env : Environment) (tag : Str) (releases : List ReleaseJson) :
    Publishing (Option ReleaseJson) :=
  match releases.filter fun r => decide (r.tagName = tag) with
  | [] => do
    Program.ofExcept ((run "false" env.runFalse).mapError ("release lookup fallback: " ++ ·))
    pure none
  | [release] => do
    -- the output is made up of the release, which it reads back as
    Program.ofExcept (run "true" env.runTrue)
    pure (some release)
  | _ => Program.fail "multiple releases share this tag; manual recovery required"

/-- The release of the tag, looked up by the tag or else found in the list of all releases. -/
def findRelease (env : Environment) (tag : Str) : Publishing (Option ReleaseJson) := do
  let existing ← Program.ofExcept (run "gh" env.existing)
  -- a lookup that fails is followed by the list, whatever it has failed for
  if existing.output.success then
    let release ← Program.ofExcept (decode "invalid GitHub release JSON" existing)
    observe (.looked release)
    pure (some release)
  else
    let list ← Program.ofExcept (run "gh" env.list)
    Program.ofExcept (ok list.output "release list")
    let releases ← Program.ofExcept (decode "invalid release list JSON" list)
    observe (.listed releases)
    selectRelease env tag releases

/-- The checks of a draft that was there before. -/
def checkDraft (env : Environment) (tag expectedSha version notes : Str) (release : ReleaseJson) :
    Except String Unit := do
  -- a public release is left alone
  failIf (release.draft = false) "release is already published; refusing overwrite"
  failIf (release.tagName ≠ tag ∨ release.targetCommitish ≠ expectedSha ∨
      release.prerelease ≠ version.contains '-')
    "existing draft release metadata mismatch; manual recovery required"
  env.readNotes
  -- up to white space at the end
  failIf (trimEnd isWhiteSpace release.body ≠ trimEnd isWhiteSpace notes)
    "existing draft notes mismatch; manual recovery required"
  failIf (release.assets.map ReleaseAsset.name ≠ assetNames)
    "existing draft assets mismatch; manual recovery required"

def resumeRelease (env : Environment) (tag expectedSha version notes : Str) (release : ReleaseJson) :
    Publishing Unit := do
  Program.ofExcept (checkDraft env tag expectedSha version notes release)
  compareReleaseAssets env

/-- The checks of the draft that was created. -/
def checkCreated (env : Environment) (tag expectedSha notes : Str) (releases : List ReleaseJson) :
    Except String Unit := do
  let release ← (releases.find? fun r => decide (r.tagName = tag)).elim
    (.error "created draft disappeared") .ok
  -- neither the pre-release mark nor the assets are looked at here
  failIf (release.draft = false ∨ release.tagName ≠ tag ∨ release.targetCommitish ≠ expectedSha)
    "created draft metadata mismatch; manual recovery required"
  env.readNotes
  failIf (trimEnd isWhiteSpace release.body ≠ trimEnd isWhiteSpace notes)
    "created draft metadata mismatch; manual recovery required"

/-- The paths that are given to the command that creates the draft. -/
def createArguments (env : Environment) : Except String Unit := do
  let _ ← env.notesPath.elim (.error "bad notes path") .ok
  let _ ← assetNames.mapM fun name => (env.assets.join name).elim (.error "bad asset path") .ok

def createRelease (env : Environment) (tag expectedSha notes : Str) : Publishing Unit := do
  Program.ofExcept (createArguments env)
  let out ← Program.ofExcept (run "gh" env.create)
  Program.ofExcept (ok out "GitHub draft release")
  observe (.created tag)
  let created ← Program.ofExcept (run "gh" env.createdList)
  Program.ofExcept (ok created.output "created release lookup")
  let releases ← Program.ofExcept (decode "invalid created release list JSON" created)
  observe (.listed releases)
  Program.ofExcept (checkCreated env tag expectedSha notes releases)

def publish (env : Environment) (tag expectedSha : Str) : Publishing Unit := do
  let prepared ← Program.ofExcept (prepare env tag expectedSha)
  let found ← findRelease env tag
  match found with
  | some release => do
    resumeRelease env tag expectedSha prepared.1 prepared.2 release
    publishDraft env tag
  | none => do
    createRelease env tag expectedSha prepared.2
    publishDraft env tag

/-- The run up to the command that publishes. -/
def approve (env : Environment) (tag expectedSha : Str) : Publishing Unit := do
  let prepared ← Program.ofExcept (prepare env tag expectedSha)
  let found ← findRelease env tag
  match found with
  | some release => resumeRelease env tag expectedSha prepared.1 prepared.2 release
  | none => createRelease env tag expectedSha prepared.2

/-- What a run has observed when it ends. -/
def trace (env : Environment) (tag expectedSha : Str) : List Event :=
  (publish env tag expectedSha).last []

/-! ### What is to be observed -/

/-- The releases an event shows. -/
def Event.shown : Event → List ReleaseJson
  | .looked release => [release]
  | .listed releases => releases
  | .created _ | .digests .. | .edit _ => []

/-- A draft has been observed that is the release of the tag with the notes, and the digests of
its assets have been found to be those of the files here. -/
def Approved (tag expectedSha version notes : Str) (seen : List Event) : Prop :=
  ∃ release ∈ seen.flatMap Event.shown, release.draft = true ∧ release.tagName = tag ∧
    release.targetCommitish = expectedSha ∧ release.body = notes ∧
    release.prerelease = version.contains '-' ∧ release.assets.map ReleaseAsset.name = assetNames ∧
    ∀ name ∈ assetNames, ∃ digest, .digests name digest digest ∈ seen

/-- No release of the tag has been observed that is public. -/
def Unpublished (tag : Str) (seen : List Event) : Prop :=
  ∀ release ∈ seen.flatMap Event.shown, release.tagName = tag → release.draft = true

/-- Before a run publishes, it has observed what it publishes. -/
def Gated (env : Environment) (tag expectedSha : Str) : Prop :=
  ∀ front back t, trace env tag expectedSha = front ++ .edit t :: back →
    (∃ version changelog notes, validateRepository env.repository tag = .ok version ∧
      env.changelog = .ok changelog ∧ extractNotes changelog version = .ok notes ∧
      Approved t expectedSha version notes front) ∧
      Unpublished t front

/-! ### The two ways -/

/-- The release that the lookup finds, and what it observes. -/
inductive Finds (env : Environment) (tag : Str) : ReleaseJson → List Event → Prop
  /-- The release is found by its tag. -/
  | byTag {existing : Reply ReleaseJson} {release : ReleaseJson} (ran : env.existing = .ok existing)
      (success : existing.output.success = true) (document : existing.document = .ok release) :
      Finds env tag release [.looked release]
  /-- The release is the only one of its tag in the list. -/
  | listed {existing : Reply ReleaseJson} {list : Reply (List ReleaseJson)} {releases : List ReleaseJson}
      {release : ReleaseJson} (ran : env.existing = .ok existing) (failed : existing.output.success = false)
      (listRan : env.list = .ok list) (success : list.output.success = true)
      (document : list.document = .ok releases)
      (only : (releases.filter fun r => decide (r.tagName = tag)) = [release])
      (runTrue : env.runTrue = .ok ()) : Finds env tag release [.listed releases]

/-- There is no release of the tag; the list of all releases is what is observed. -/
inductive Absent (env : Environment) (tag : Str) : List Event → Prop
  | intro {existing : Reply ReleaseJson} {list : Reply (List ReleaseJson)} {releases : List ReleaseJson}
      (ran : env.existing = .ok existing) (failed : existing.output.success = false)
      (listRan : env.list = .ok list) (success : list.output.success = true)
      (document : list.document = .ok releases)
      (none : (releases.filter fun r => decide (r.tagName = tag)) = []) (runFalse : env.runFalse = .ok ()) :
      Absent env tag [.listed releases]

/-- A draft of an earlier run is found and passes its checks and the comparison of its assets. -/
structure Resumed (env : Environment) (tag expectedSha version notes : Str) (release : ReleaseJson)
    (seen : List Event) : Prop where
  found : Finds env tag release seen
  checked : checkDraft env tag expectedSha version notes release = .ok ()
  fetched : fetchAssets env = .ok ()
  compared : ∀ name ∈ assetNames, ∃ digests, compareAsset env name = .ok digests

/-- No release is found, a draft is created, and what is listed then passes its checks. -/
inductive Created (env : Environment) (tag expectedSha notes : Str) (seen : List Event) :
    List ReleaseJson → Prop
  | intro {out : Output} {created : Reply (List ReleaseJson)} {releases : List ReleaseJson}
      (absent : Absent env tag seen) (arguments : createArguments env = .ok ())
      (ran : env.create = .ok out) (createSuccess : out.success = true)
      (listRan : env.createdList = .ok created) (success : created.output.success = true)
      (document : created.document = .ok releases)
      (checked : checkCreated env tag expectedSha notes releases = .ok ()) :
      Created env tag expectedSha notes seen releases

/-! ### What the parts of a run return -/

theorem run_eq_ok_iff {α : Type} {program : String} {outcome : Except String α} {a : α} :
    run program outcome = .ok a ↔ outcome = .ok a := by
  cases outcome with
  | error e => simp [run, Except.mapError]
  | ok b => simp [run, Except.mapError]

theorem ok_eq_ok_iff {o : Output} {what : String} {u : Unit} :
    ok o what = .ok u ↔ o.success = true := by
  unfold ok
  by_cases h : o.success = true
  · simp [h]
  · simp [h]

theorem decode_eq_ok_iff {α : Type} {what : String} {reply : Reply α} {a : α} :
    decode what reply = .ok a ↔ reply.document = .ok a := by
  unfold decode
  cases reply.document with
  | error e => simp [Except.mapError]
  | ok b => simp [Except.mapError]

theorem mapError_eq_ok_iff {α : Type} {x : Except String α} {f : String → String} {a : α} :
    x.mapError f = .ok a ↔ x = .ok a := by
  cases x with
  | error e => simp [Except.mapError]
  | ok b => simp [Except.mapError]

theorem observe_bind {α : Type} {e : Event} {f : Unit → Publishing α} {seen seen' : List Event} {a : α} :
    (observe e >>= f).Returns seen (.ok a) seen' ↔ (f ()).Returns (seen ++ [e]) (.ok a) seen' :=
  Program.returns_ok_update_bind

/-- The lookup ends with a release that it finds, or with none when there is none. -/
theorem findRelease_returns {env : Environment} {tag : Str} {found : Option ReleaseJson}
    {seen seen' : List Event} (h : (findRelease env tag).Returns seen (.ok found) seen') :
    (∃ release events, found = some release ∧ Finds env tag release events ∧ seen' = seen ++ events) ∨
      ∃ events, found = none ∧ Absent env tag events ∧ seen' = seen ++ events := by
  obtain ⟨existing, hran, hbranch⟩ := Program.returns_ok_ofExcept_bind.mp h
  have hran := run_eq_ok_iff.mp hran
  by_cases hsuccess : existing.output.success = true
  · rw [if_pos hsuccess] at hbranch
    obtain ⟨release, hdocument, hlooked⟩ := Program.returns_ok_ofExcept_bind.mp hbranch
    have hpure := observe_bind.mp hlooked
    obtain ⟨rfl, rfl⟩ := Program.returns_ok_pure.mp hpure
    exact .inl ⟨release, _, rfl, .byTag hran hsuccess (decode_eq_ok_iff.mp hdocument), rfl⟩
  · rw [if_neg hsuccess] at hbranch
    obtain ⟨list, hlistRan, hlist⟩ := Program.returns_ok_ofExcept_bind.mp hbranch
    obtain ⟨u, hlisted, hdecode⟩ := Program.returns_ok_ofExcept_bind.mp hlist
    obtain ⟨releases, hdocument, hobserved⟩ := Program.returns_ok_ofExcept_bind.mp hdecode
    have hmatches := observe_bind.mp hobserved
    have hfailed := Bool.eq_false_iff.mpr hsuccess
    have hlistRan := run_eq_ok_iff.mp hlistRan
    have hlisted := ok_eq_ok_iff.mp hlisted
    have hdocument := decode_eq_ok_iff.mp hdocument
    -- the releases of the tag: none, one or several
    rw [selectRelease] at hmatches
    cases hfilter : releases.filter fun r => decide (r.tagName = tag) with
    | nil =>
      rw [hfilter] at hmatches
      obtain ⟨u', hfalse, hpure⟩ := Program.returns_ok_ofExcept_bind.mp hmatches
      obtain ⟨rfl, rfl⟩ := Program.returns_ok_pure.mp hpure
      exact .inr ⟨_, rfl, .intro hran hfailed hlistRan hlisted hdocument hfilter
        (run_eq_ok_iff.mp (mapError_eq_ok_iff.mp hfalse)), rfl⟩
    | cons release others =>
      rw [hfilter] at hmatches
      cases others with
      | nil =>
        obtain ⟨u', htrue, hpure⟩ := Program.returns_ok_ofExcept_bind.mp hmatches
        obtain ⟨rfl, rfl⟩ := Program.returns_ok_pure.mp hpure
        exact .inl ⟨release, _, rfl, .listed hran hfailed hlistRan hlisted hdocument hfilter
          (run_eq_ok_iff.mp htrue), rfl⟩
      | cons other others => exact absurd hmatches Program.returns_ok_fail

/-- What the lookup does with a list of releases. -/
theorem findRelease_listed {env : Environment} {tag : Str} {existing : Reply ReleaseJson}
    {list : Reply (List ReleaseJson)} {releases : List ReleaseJson} {found : Option ReleaseJson}
    {seen seen' : List Event} (ran : env.existing = .ok existing) (failed : existing.output.success = false)
    (listRan : env.list = .ok list) (success : list.output.success = true)
    (document : list.document = .ok releases)
    (h : (selectRelease env tag releases).Returns (seen ++ [.listed releases]) (.ok found) seen') :
    (findRelease env tag).Returns seen (.ok found) seen' := by
  refine Program.returns_ok_ofExcept_bind.mpr ⟨existing, run_eq_ok_iff.mpr ran, ?_⟩
  rw [if_neg (by rw [failed]; decide)]
  refine Program.returns_ok_ofExcept_bind.mpr ⟨list, run_eq_ok_iff.mpr listRan, ?_⟩
  refine Program.returns_ok_ofExcept_bind.mpr ⟨(), ok_eq_ok_iff.mpr success, ?_⟩
  refine Program.returns_ok_ofExcept_bind.mpr ⟨releases, decode_eq_ok_iff.mpr document, ?_⟩
  exact observe_bind.mpr h

/-- A release that is found is what the lookup ends with. -/
theorem Finds.returns {env : Environment} {tag : Str} {release : ReleaseJson} {events : List Event}
    (h : Finds env tag release events) (seen : List Event) :
    (findRelease env tag).Returns seen (.ok (some release)) (seen ++ events) := by
  cases h with
  | @byTag existing _ ran success document =>
    refine Program.returns_ok_ofExcept_bind.mpr ⟨existing, run_eq_ok_iff.mpr ran, ?_⟩
    rw [if_pos success]
    refine Program.returns_ok_ofExcept_bind.mpr ⟨release, decode_eq_ok_iff.mpr document, ?_⟩
    exact observe_bind.mpr (Program.returns_ok_pure.mpr ⟨rfl, rfl⟩)
  | listed ran failed listRan success document only runTrue =>
    refine findRelease_listed ran failed listRan success document ?_
    rw [selectRelease, only]
    exact Program.returns_ok_ofExcept_bind.mpr
      ⟨(), run_eq_ok_iff.mpr runTrue, Program.returns_ok_pure.mpr ⟨rfl, rfl⟩⟩

theorem Absent.returns {env : Environment} {tag : Str} {events : List Event}
    (h : Absent env tag events) (seen : List Event) :
    (findRelease env tag).Returns seen (.ok none) (seen ++ events) := by
  cases h with
  | intro ran failed listRan success document none runFalse =>
    refine findRelease_listed ran failed listRan success document ?_
    rw [selectRelease, none]
    exact Program.returns_ok_ofExcept_bind.mpr
      ⟨(), mapError_eq_ok_iff.mpr (run_eq_ok_iff.mpr runFalse), Program.returns_ok_pure.mpr ⟨rfl, rfl⟩⟩

/-! ### The digests -/

theorem compareAsset_ok {env : Environment} {name : Str} {digests : Str × Str}
    (h : compareAsset env name = .ok digests) : digests.1 = digests.2 := by
  obtain ⟨own, -, h⟩ := bind_eq_ok_iff.mp h
  obtain ⟨fetched, -, h⟩ := bind_eq_ok_iff.mp h
  obtain ⟨u, hequal, h⟩ := bind_eq_ok_iff.mp h
  obtain ⟨size, -, h⟩ := bind_eq_ok_iff.mp h
  obtain ⟨downloadedSize, -, h⟩ := bind_eq_ok_iff.mp h
  obtain ⟨v, -, h⟩ := bind_eq_ok_iff.mp h
  cases h
  exact not_not.mp (failIf_eq_ok_iff.mp hequal)

/-- A comparison that ends has compared every file. -/
theorem compared_of_returns {env : Environment} {names : List Str} {seen seen' : List Event}
    (h : (compareAssets env names).Returns seen (.ok ()) seen') :
    ∀ name ∈ names, ∃ digests, compareAsset env name = .ok digests := by
  induction names generalizing seen with
  | nil => simp
  | cons name names ih =>
    obtain ⟨digests, hdigests, hrest⟩ := Program.returns_ok_ofExcept_bind.mp h
    rw [List.forall_mem_cons]
    exact ⟨⟨digests, hdigests⟩, ih (observe_bind.mp hrest)⟩

/-- The comparison of files that can be compared shows their digests and nothing else. -/
theorem compareAssets_returns {env : Environment} {names : List Str}
    (h : ∀ name ∈ names, ∃ digests, compareAsset env name = .ok digests) (seen : List Event) :
    ∃ events, (compareAssets env names).Returns seen (.ok ()) (seen ++ events) ∧
      events.flatMap Event.shown = [] ∧ ∀ name ∈ names, ∃ digest, .digests name digest digest ∈ events := by
  induction names generalizing seen with
  | nil => exact ⟨[], Program.returns_ok_pure.mpr ⟨rfl, List.append_nil seen⟩, rfl, by simp⟩
  | cons name names ih =>
    rw [List.forall_mem_cons] at h
    obtain ⟨⟨digests, hdigests⟩, hrest⟩ := h
    obtain ⟨events, hreturns, hshown, hnames⟩ :=
      ih hrest (seen ++ [.digests name digests.1 digests.2])
    refine ⟨.digests name digests.1 digests.2 :: events, ?_, by simpa [Event.shown] using hshown, ?_⟩
    · refine Program.returns_ok_ofExcept_bind.mpr ⟨digests, hdigests, observe_bind.mpr ?_⟩
      rw [List.append_assoc] at hreturns
      exact hreturns
    · rw [List.forall_mem_cons]
      constructor
      · refine ⟨digests.1, ?_⟩
        rw [← compareAsset_ok hdigests]
        exact List.mem_cons_self
      · intro other hother
        obtain ⟨digest, hdigest⟩ := hnames other hother
        exact ⟨digest, List.mem_cons_of_mem _ hdigest⟩

/-! ### The run up to the command -/

/-- A run comes to the command in one of the two ways. -/
theorem approve_returns {env : Environment} {tag expectedSha : Str} {seen : List Event}
    (h : (approve env tag expectedSha).Returns [] (.ok ()) seen) :
    ∃ version notes, prepare env tag expectedSha = .ok (version, notes) ∧
      ((∃ release events, Resumed env tag expectedSha version notes release events) ∨
        ∃ events drafts, Created env tag expectedSha notes events drafts) := by
  obtain ⟨⟨version, notes⟩, hprepare, hrest⟩ := Program.returns_ok_ofExcept_bind.mp h
  refine ⟨version, notes, hprepare, ?_⟩
  obtain ⟨found, seen₁, hfind, hway⟩ := Program.returns_ok_bind.mp hrest
  rcases findRelease_returns hfind with ⟨release, events, rfl, hfinds, -⟩ | ⟨events, rfl, habsent, -⟩
  · obtain ⟨u, hchecked, hcompare⟩ := Program.returns_ok_ofExcept_bind.mp hway
    obtain ⟨v, hfetched, hcompared⟩ := Program.returns_ok_ofExcept_bind.mp hcompare
    exact .inl ⟨release, events, hfinds, hchecked, hfetched, compared_of_returns hcompared⟩
  · obtain ⟨u, harguments, hcreate⟩ := Program.returns_ok_ofExcept_bind.mp hway
    obtain ⟨out, hran, hcreated⟩ := Program.returns_ok_ofExcept_bind.mp hcreate
    obtain ⟨v, hsuccess, hobserved⟩ := Program.returns_ok_ofExcept_bind.mp hcreated
    obtain ⟨created, hlistRan, hlisted⟩ := Program.returns_ok_ofExcept_bind.mp (observe_bind.mp hobserved)
    obtain ⟨w, hlistSuccess, hdecode⟩ := Program.returns_ok_ofExcept_bind.mp hlisted
    obtain ⟨drafts, hdocument, hshown⟩ := Program.returns_ok_ofExcept_bind.mp hdecode
    have hlast := observe_bind.mp hshown
    exact .inr ⟨events, drafts, .intro habsent harguments (run_eq_ok_iff.mp hran)
      (ok_eq_ok_iff.mp hsuccess) (run_eq_ok_iff.mp hlistRan) (ok_eq_ok_iff.mp hlistSuccess)
      (decode_eq_ok_iff.mp hdocument) (Program.returns_ok_ofExcept.mp hlast).1⟩

section Ways

variable {env : Environment} {tag expectedSha version notes : Str} {events : List Event}

/-- A run that resumes a draft observes the draft and the digests of its assets. -/
theorem Resumed.returns {release : ReleaseJson}
    (hprepare : prepare env tag expectedSha = .ok (version, notes))
    (h : Resumed env tag expectedSha version notes release events) :
    ∃ digests, (approve env tag expectedSha).Returns [] (.ok ()) (events ++ digests) ∧
      digests.flatMap Event.shown = [] ∧
      ∀ name ∈ assetNames, ∃ digest, .digests name digest digest ∈ digests := by
  obtain ⟨digests, hcompare, hshown, hnames⟩ := compareAssets_returns h.compared events
  refine ⟨digests, ?_, hshown, hnames⟩
  refine Program.returns_ok_ofExcept_bind.mpr ⟨_, hprepare, ?_⟩
  refine Program.returns_ok_bind.mpr ⟨_, _, h.found.returns [], ?_⟩
  refine Program.returns_ok_ofExcept_bind.mpr ⟨_, h.checked, ?_⟩
  exact Program.returns_ok_ofExcept_bind.mpr ⟨_, h.fetched, hcompare⟩

/-- A run that creates a draft observes the lists of releases before and after. -/
theorem Created.returns {drafts : List ReleaseJson}
    (hprepare : prepare env tag expectedSha = .ok (version, notes))
    (h : Created env tag expectedSha notes events drafts) :
    (approve env tag expectedSha).Returns [] (.ok ()) (events ++ [.created tag] ++ [.listed drafts]) := by
  cases h with
  | intro absent arguments ran createSuccess listRan success document checked =>
    refine Program.returns_ok_ofExcept_bind.mpr ⟨_, hprepare, ?_⟩
    refine Program.returns_ok_bind.mpr ⟨_, _, absent.returns [], ?_⟩
    refine Program.returns_ok_ofExcept_bind.mpr ⟨_, arguments, ?_⟩
    refine Program.returns_ok_ofExcept_bind.mpr ⟨_, run_eq_ok_iff.mpr ran, ?_⟩
    refine Program.returns_ok_ofExcept_bind.mpr ⟨(), ok_eq_ok_iff.mpr createSuccess, observe_bind.mpr ?_⟩
    refine Program.returns_ok_ofExcept_bind.mpr ⟨_, run_eq_ok_iff.mpr listRan, ?_⟩
    refine Program.returns_ok_ofExcept_bind.mpr ⟨(), ok_eq_ok_iff.mpr success, ?_⟩
    refine Program.returns_ok_ofExcept_bind.mpr ⟨_, decode_eq_ok_iff.mpr document, observe_bind.mpr ?_⟩
    exact Program.returns_ok_ofExcept.mpr ⟨checked, rfl⟩

end Ways

/-! ### The command in the trace -/

theorem bind_assoc_publishing {α β γ : Type} (x : Publishing α) (f : α → Publishing β)
    (g : β → Publishing γ) :
    (x >>= f) >>= g = x >>= fun a => f a >>= g := by
  funext s
  change Program.bind (Program.bind x f) g s = Program.bind x (fun a => Program.bind (f a) g) s
  unfold Program.bind
  cases x s with
  | ok a s₁ => rfl
  | error e s₁ => rfl
  | unfinished s₁ => rfl

/-- Both ways end with the command. -/
theorem publish_eq (env : Environment) (tag expectedSha : Str) :
    publish env tag expectedSha = approve env tag expectedSha >>= fun _ => publishDraft env tag := by
  unfold publish approve
  rw [bind_assoc_publishing]
  refine congrArg _ (funext fun prepared => ?_)
  rw [bind_assoc_publishing]
  refine congrArg _ (funext fun found => ?_)
  cases found with
  | none => rfl
  | some release => rfl

/-- No event is the command. -/
def Quiet (seen : List Event) : Prop := ∀ t, .edit t ∉ seen

theorem observe_quiet {e : Event} (h : ∀ t, e ≠ .edit t) : (observe e).Keeps Quiet := by
  refine Program.Keeps.update fun seen hseen t ht => ?_
  rcases List.mem_append.mp ht with ht | ht
  · exact hseen t ht
  · exact h t (List.mem_singleton.mp ht).symm

theorem compareAssets_quiet (env : Environment) (names : List Str) :
    (compareAssets env names).Keeps Quiet := by
  induction names with
  | nil => exact .pure ()
  | cons name names ih =>
    refine .bind (.ofExcept _) fun digests => .bind (observe_quiet fun t h => ?_) fun _ => ih
    cases h

theorem selectRelease_quiet (env : Environment) (tag : Str) (releases : List ReleaseJson) :
    (selectRelease env tag releases).Keeps Quiet := by
  unfold selectRelease
  split
  · exact .bind (.ofExcept _) fun _ => .pure _
  · exact .bind (.ofExcept _) fun _ => .pure _
  · exact .fail _

theorem findRelease_quiet (env : Environment) (tag : Str) : (findRelease env tag).Keeps Quiet := by
  refine .bind (.ofExcept _) fun existing => ?_
  split
  · refine .bind (.ofExcept _) fun release => .bind (observe_quiet fun t h => ?_) fun _ => .pure _
    cases h
  · refine .bind (.ofExcept _) fun list => .bind (.ofExcept _) fun _ => .bind (.ofExcept _) fun releases => ?_
    refine .bind (observe_quiet fun t h => ?_) fun _ => selectRelease_quiet env tag releases
    cases h

theorem createRelease_quiet (env : Environment) (tag expectedSha notes : Str) :
    (createRelease env tag expectedSha notes).Keeps Quiet := by
  refine .bind (.ofExcept _) fun _ => .bind (.ofExcept _) fun out => .bind (.ofExcept _) fun _ => ?_
  refine .bind (observe_quiet fun t h => ?_) fun _ => ?_
  · cases h
  · refine .bind (.ofExcept _) fun created => .bind (.ofExcept _) fun _ =>
      .bind (.ofExcept _) fun releases => ?_
    refine .bind (observe_quiet fun t h => ?_) fun _ => .ofExcept _
    cases h

theorem approve_quiet (env : Environment) (tag expectedSha : Str) :
    (approve env tag expectedSha).Keeps Quiet := by
  refine .bind (.ofExcept _) fun prepared => .bind (findRelease_quiet env tag) fun found => ?_
  cases found with
  | none => exact createRelease_quiet env tag expectedSha prepared.2
  | some release => exact .bind (.ofExcept _) fun _ => .bind (.ofExcept _) fun _ =>
    compareAssets_quiet env assetNames

/-- The command is the last thing a run is logged by. -/
theorem publishDraft_last (env : Environment) (tag : Str) (seen : List Event) :
    (publishDraft env tag).last seen = seen ++ [.edit tag] := by
  have hkeeps : (Program.ofExcept (run "gh" env.edit) >>= fun edit =>
      Program.ofExcept (ok edit "GitHub release publish") >>= fun _ =>
        Program.ofExcept (confirmPublished env) : Publishing Unit).Keeps (· = seen ++ [.edit tag]) :=
    .bind (.ofExcept _) fun edit => .bind (.ofExcept _) fun _ => .ofExcept _
  exact hkeeps (seen ++ [.edit tag]) rfl

/-- A run that comes to the command is logged by what it has observed and by the command. -/
theorem trace_of_approve {env : Environment} {tag expectedSha : Str} {seen : List Event}
    (h : (approve env tag expectedSha).Returns [] (.ok ()) seen) :
    trace env tag expectedSha = seen ++ [.edit tag] := by
  rw [trace, publish_eq]
  rcases Program.last_bind (approve env tag expectedSha) (fun _ => publishDraft env tag) [] with
    ⟨u, seen', hreturns, hlast⟩ | ⟨hnot, -⟩
  · obtain ⟨-, rfl⟩ := hreturns.unique h
    rw [hlast, publishDraft_last]
  · exact absurd h (hnot () seen)

/-- A run in which the command stands somewhere has come to it. -/
theorem approve_of_trace {env : Environment} {tag expectedSha t : Str} {front back : List Event}
    (h : trace env tag expectedSha = front ++ .edit t :: back) :
    (approve env tag expectedSha).Returns [] (.ok ()) front ∧ t = tag := by
  have hquiet : Quiet ((approve env tag expectedSha).last []) :=
    approve_quiet env tag expectedSha [] (by simp [Quiet])
  have hmem : .edit t ∈ trace env tag expectedSha := by simp [h]
  rcases Program.last_bind (approve env tag expectedSha) (fun _ => publishDraft env tag) [] with
    ⟨u, seen, hreturns, -⟩ | ⟨-, hlast⟩
  · rw [hreturns.last] at hquiet
    rw [trace_of_approve hreturns] at h
    -- the command stands nowhere but at the end
    rcases List.append_eq_append_iff.mp h with ⟨between, hfront, hback⟩ | ⟨between, hseen, hback⟩
    · cases between with
      | nil =>
        rw [List.nil_append] at hback
        cases hback
        rw [List.append_nil] at hfront
        exact ⟨hfront ▸ hreturns, rfl⟩
      | cons e between =>
        have hlength := congrArg List.length hback
        simp only [List.length_append, List.length_cons, List.length_nil] at hlength
        omega
    · cases between with
      | nil =>
        rw [List.nil_append] at hback
        cases hback
        rw [List.append_nil] at hseen
        exact ⟨hseen ▸ hreturns, rfl⟩
      | cons e between =>
        rw [List.cons_append] at hback
        obtain ⟨rfl, -⟩ := List.cons.inj hback
        exact absurd (by simp [hseen]) (hquiet t)
  · rw [trace, publish_eq, hlast] at hmem
    exact absurd hmem (hquiet t)

/-! ### The gate -/

theorem checkDraft_ok {env : Environment} {tag expectedSha version notes : Str} {release : ReleaseJson}
    (h : checkDraft env tag expectedSha version notes release = .ok ()) :
    release.draft = true ∧ release.tagName = tag ∧ release.targetCommitish = expectedSha ∧
      release.prerelease = version.contains '-' ∧ release.assets.map ReleaseAsset.name = assetNames := by
  obtain ⟨u, hdraft, h⟩ := bind_eq_ok_iff.mp h
  obtain ⟨u, hmetadata, h⟩ := bind_eq_ok_iff.mp h
  obtain ⟨u, -, h⟩ := bind_eq_ok_iff.mp h
  obtain ⟨u, -, hassets⟩ := bind_eq_ok_iff.mp h
  have hmetadata := failIf_eq_ok_iff.mp hmetadata
  simp only [not_or, not_not] at hmetadata
  exact ⟨by simpa using failIf_eq_ok_iff.mp hdraft, hmetadata.1, hmetadata.2.1, hmetadata.2.2,
    not_not.mp (failIf_eq_ok_iff.mp hassets)⟩

/-- The release that is found is the only one of its tag that is shown. -/
theorem Finds.shown {env : Environment} {tag : Str} {release : ReleaseJson} {events : List Event}
    (h : Finds env tag release events) :
    release ∈ events.flatMap Event.shown ∧
      ∀ other ∈ events.flatMap Event.shown, other.tagName = tag → other = release := by
  cases h with
  | byTag => simp [Event.shown]
  | @listed _ _ releases _ _ _ _ _ _ only _ =>
    have hmem : ∀ other, other ∈ releases ∧ other.tagName = tag ↔ other = release := by
      intro other
      have hfilter := @List.mem_filter _ (fun r => decide (r.tagName = tag)) releases other
      rw [only, List.mem_singleton, decide_eq_true_eq] at hfilter
      exact hfilter.symm
    simp only [List.flatMap_singleton, Event.shown]
    exact ⟨((hmem release).mpr rfl).1, fun other hother htag => (hmem other).mp ⟨hother, htag⟩⟩

/-- What the notes are, when the checks before the lookup pass. -/
theorem prepare_ok {env : Environment} {tag expectedSha version notes : Str}
    (h : prepare env tag expectedSha = .ok (version, notes)) :
    ∃ changelog, validateRepository env.repository tag = .ok version ∧ env.changelog = .ok changelog ∧
      extractNotes changelog version = .ok notes := by
  obtain ⟨version', hversion, h⟩ := bind_eq_ok_iff.mp h
  obtain ⟨head, -, h⟩ := bind_eq_ok_iff.mp h
  obtain ⟨u, -, h⟩ := bind_eq_ok_iff.mp h
  obtain ⟨u, -, h⟩ := bind_eq_ok_iff.mp h
  obtain ⟨remote, -, h⟩ := bind_eq_ok_iff.mp h
  obtain ⟨u, -, h⟩ := bind_eq_ok_iff.mp h
  obtain ⟨u, -, h⟩ := bind_eq_ok_iff.mp h
  obtain ⟨tagType, -, h⟩ := bind_eq_ok_iff.mp h
  obtain ⟨u, -, h⟩ := bind_eq_ok_iff.mp h
  obtain ⟨u, -, h⟩ := bind_eq_ok_iff.mp h
  obtain ⟨peeled, -, h⟩ := bind_eq_ok_iff.mp h
  obtain ⟨u, -, h⟩ := bind_eq_ok_iff.mp h
  obtain ⟨u, -, h⟩ := bind_eq_ok_iff.mp h
  obtain ⟨u, -, h⟩ := bind_eq_ok_iff.mp h
  obtain ⟨changelog, hchangelog, h⟩ := bind_eq_ok_iff.mp h
  obtain ⟨notes', hnotes, h⟩ := bind_eq_ok_iff.mp h
  obtain ⟨u, -, h⟩ := bind_eq_ok_iff.mp h
  obtain ⟨paths, -, h⟩ := bind_eq_ok_iff.mp h
  cases h
  exact ⟨changelog, hversion, hchangelog, hnotes⟩

/-- Runs are gated exactly when none comes to the command by the way that creates a draft, and a
draft that is resumed has the notes for its text to the last character. -/
theorem gated_iff (env : Environment) (tag expectedSha : Str) :
    Gated env tag expectedSha ↔
      ∀ version notes, prepare env tag expectedSha = .ok (version, notes) →
        (∀ events drafts, ¬ Created env tag expectedSha notes events drafts) ∧
          ∀ release events, Resumed env tag expectedSha version notes release events →
            release.body = notes := by
  constructor
  · intro hgated version notes hprepare
    obtain ⟨changelog, hversion, hchangelog, hnotes⟩ := prepare_ok hprepare
    constructor
    · intro events drafts hcreated
      obtain ⟨⟨_, _, _, -, -, -, release, -, -, -, -, -, -, -, hdigests⟩, -⟩ :=
        hgated _ _ _ (trace_of_approve (hcreated.returns hprepare))
      -- no digest is compared on this way
      obtain ⟨digest, hdigest⟩ := hdigests sha256sums (by simp [assetNames])
      cases hcreated with
      | intro absent =>
        cases absent
        simp at hdigest
    · intro release events hresumed
      obtain ⟨digests, hreturns, hshown, -⟩ := hresumed.returns hprepare
      obtain ⟨⟨version', changelog', notes', hversion', hchangelog', hnotes', shown, hmem, -,
        htag, -, hbody, -⟩,
        -⟩ := hgated _ _ _ (trace_of_approve hreturns)
      rw [List.flatMap_append, hshown, List.append_nil] at hmem
      rw [hversion] at hversion'
      cases hversion'
      rw [hchangelog] at hchangelog'
      cases hchangelog'
      rw [hnotes] at hnotes'
      cases hnotes'
      rw [← hresumed.found.shown.2 shown hmem htag, hbody]
  · intro h front back t htrace
    obtain ⟨hreturns, rfl⟩ := approve_of_trace htrace
    obtain ⟨version, notes, hprepare, ⟨release, events, hresumed⟩ | ⟨events, drafts, hcreated⟩⟩ :=
      approve_returns hreturns
    · obtain ⟨changelog, hversion, hchangelog, hnotes⟩ := prepare_ok hprepare
      obtain ⟨digests, hreturns', hshown, hdigests⟩ := hresumed.returns hprepare
      obtain ⟨-, rfl⟩ := hreturns'.unique hreturns
      obtain ⟨hdraft, htag, htarget, hprerelease, hassets⟩ := checkDraft_ok hresumed.checked
      obtain ⟨hmem, honly⟩ := hresumed.found.shown
      have hall : (events ++ digests).flatMap Event.shown = events.flatMap Event.shown := by
        rw [List.flatMap_append, hshown, List.append_nil]
      refine ⟨⟨version, changelog, notes, hversion, hchangelog, hnotes, release, hall ▸ hmem, hdraft, htag,
        htarget, (h version notes hprepare).2 release events hresumed, hprerelease, hassets, ?_⟩, ?_⟩
      · intro name hname
        obtain ⟨digest, hdigest⟩ := hdigests name hname
        exact ⟨digest, List.mem_append_right events hdigest⟩
      · intro other hother htagOther
        rw [honly other (hall ▸ hother) htagOther, hdraft]
    · exact absurd hcreated ((h version notes hprepare).1 events drafts)

/-! ### A draft that is published unseen -/

def printed (text : String) : Output := ⟨true, text.toList, []⟩

/-- The documents of a workspace whose members inherit its version. -/
def candidateRepository : Repository where
  workspace := .ok (.table [("workspace".toList, .table [
    ("members".toList, .array [.string "crates/postgres-mcp".toList, .string "crates/postgres-mcp-core".toList]),
    ("package".toList, .table [("version".toList, .string "1.0.0-rc1".toList)])])])
  member := fun _ => .ok (.table [("package".toList, .table [
    ("version".toList, .table [("workspace".toList, .boolean true)])])])
  lock := .ok ("name = \"postgres-mcp\"\nversion = \"1.0.0-rc1\"\n" ++
    "name = \"postgres-mcp-core\"\nversion = \"1.0.0-rc1\"\n").toList
  metadata := .ok (printed "..")
  debug := fun s => "\"" ++ String.ofList s ++ "\""

/-- What is listed after a draft was created for a version before its release: it is marked as no
such version, and it has no assets. -/
def bareDraft : ReleaseJson where
  draft := true
  prerelease := false
  tagName := "v1.0.0-rc1".toList
  targetCommitish := "abc".toList
  body := "- first".toList
  publishedAt := none
  assets := []

/-- A release candidate is published for the first time. -/
def candidate : Environment where
  repository := candidateRepository
  head := .ok (printed "abc\n")
  remote := .ok (printed "https://github.com/tilmon-engineering/pg-mcp.git\n")
  tagType := .ok (printed "tag\n")
  peeled := .ok (printed "abc\n")
  createNotesDir := .ok ()
  changelog := .ok "# Changelog\n\n## [1.0.0-rc1] - 2026-09-17\n- first\n".toList
  writeNotes := .ok ()
  readNotes := .ok ()
  notesPath := some "target/release-notes.md".toList
  assets := paritySums
  existing := .ok ⟨⟨false, [], "Not Found".toList⟩, .error "EOF"⟩
  list := .ok ⟨printed "[]", .ok []⟩
  runTrue := .ok ()
  runFalse := .ok ()
  downloadExists := false
  createDownload := .ok ()
  download := .ok (printed "")
  downloaded := paritySums
  tarListing := fun _ => .ok (printed "postgres-mcp\n")
  size := fun _ => .ok 1
  downloadedSize := fun _ => .ok 1
  create := .ok (printed "")
  createdList := .ok ⟨printed "[..]", .ok [bareDraft]⟩
  edit := .ok (printed "")
  confirm := .ok ⟨printed "..", .ok { bareDraft with draft := false, publishedAt := some "2026-09-17".toList }⟩

set_option maxRecDepth 20000 in
theorem candidate_not_gated :
    trace candidate "v1.0.0-rc1".toList "abc".toList
        = [.listed [], .created "v1.0.0-rc1".toList, .listed [bareDraft], .edit "v1.0.0-rc1".toList] ∧
      ¬ Gated candidate "v1.0.0-rc1".toList "abc".toList := by
  have htrace : trace candidate "v1.0.0-rc1".toList "abc".toList
      = [.listed [], .created "v1.0.0-rc1".toList, .listed [bareDraft]] ++ .edit "v1.0.0-rc1".toList :: [] := by
    decide +kernel
  refine ⟨htrace, fun hgated => ?_⟩
  obtain ⟨⟨version, _, _, hversion, -, -, release, hmem, -, -, -, -, hprerelease, -⟩, -⟩ :=
    hgated _ _ _ htrace
  have hrelease : release = bareDraft := by simpa [Event.shown] using hmem
  -- the tag gives the version
  obtain ⟨htag, -⟩ := validateRepository_ok hversion
  cases htag
  rw [hrelease] at hprerelease
  exact absurd hprerelease (by decide +kernel)

end Xtask
end PgMcp
