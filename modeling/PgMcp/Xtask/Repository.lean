import PgMcp.Xtask.Notes

/-!
# The version of the repository

A release is made for the version that the workspace gives.  Its tag is the version after a `v`, the
members of the workspace inherit it, and the lock file has an entry for each product at it.

What the files hold is data: the documents that the TOML package makes of them, the text of the lock
file, and what `cargo metadata` does.

## Main definitions

* `TomlValue` — a document.
* `validateTag`, `validateRepository` — as the source has them.

## Main results

* `validateTag_ok_iff` — the tags of a version.
* `validateRepository_ok` — the version is the workspace's, and the tag is its tag.
-/

namespace PgMcp
namespace Xtask

open Checks Text

/-! ### Documents -/

inductive TomlValue where
  | string (s : Str)
  | boolean (b : Bool)
  | array (values : List TomlValue)
  | table (entries : List (Str × TomlValue))
  /-- A number or a point in time. -/
  | scalar

namespace TomlValue

def asStr : TomlValue → Option Str
  | .string s => some s
  | _ => none

def asBool : TomlValue → Option Bool
  | .boolean b => some b
  | _ => none

def asArray : TomlValue → Option (List TomlValue)
  | .array values => some values
  | _ => none

def asTable : TomlValue → Option (List (Str × TomlValue))
  | .table entries => some entries
  | _ => none

/-- The value of a key; only tables have keys. -/
def get (key : String) (v : TomlValue) : Option TomlValue := v.asTable.bind (·.lookup key.toList)

end TomlValue

/-- What the repository holds, and what `cargo metadata` says of it. -/
structure Repository where
  /-- The document at its root. -/
  workspace : Except String TomlValue
  /-- The document of a member. -/
  member : String → Except String TomlValue
  lock : Except String Str
  metadata : Except String Output
  /-- A text in quotes, as `{:?}` shows it. -/
  debug : Str → String

/-! ### Tags -/

def expectedTag (version : Str) : Str := 'v' :: version

/-- Three parts between dots, a digit at the front, and no character that is out of place. -/
def versionValid (version : Str) : Bool :=
  -- a fourth part is refused, also in a pre-release
  (version.splitOn '.').length == 3 && version.head?.any isAsciiDigit &&
    version.all fun c => c.isAlphanum || ".-+".toList.contains c

def validateTag (debug : Str → String) (tag version : Str) : Except String Unit :=
  if tag = expectedTag version ∧ versionValid version then .ok ()
  else .error ("invalid release tag " ++ debug tag ++ "; expected v" ++ String.ofList version)

theorem validateTag_ok_iff {debug : Str → String} {tag version : Str} :
    validateTag debug tag version = .ok () ↔ tag = expectedTag version ∧ versionValid version = true := by
  unfold validateTag
  by_cases h : tag = expectedTag version ∧ versionValid version = true
  · simp [h]
  · simp [h]

/-! ### The checks -/

/-- The version of a member, as far as it is text, and whether it is the workspace's. -/
def packageVersion (document : Except String TomlValue) : Except String (Str × Bool) := do
  let document ← document
  let package ← ((document.get "package").bind TomlValue.asTable).elim (.error "missing package") .ok
  let version ← (package.lookup "version".toList).elim (.error "missing version") .ok
  -- a version that is inherited is a table, and reads as the empty text
  pure (version.asStr.getD [], ((version.get "workspace").bind TomlValue.asBool).getD false)

def checkMember (repository : Repository) (members : List TomlValue) (member : String) :
    Except String Unit := do
  failIf (¬ members.any fun m => m.asStr == some member.toList) ("workspace missing " ++ member)
  let package ← packageVersion (repository.member member)
  -- it is inherited; a text of its own is refused
  failIf (package.2 = false ∨ package.1 ≠ []) (member ++ " must use version.workspace = true")

/-- How often a pattern occurs, where no two occurrences share a character; the characters of the last
occurrence that are still to be passed are counted down. -/
def countMatches (pattern : Str) : ℕ → Str → ℕ
  | _, [] => 0
  | passing + 1, _ :: s => countMatches pattern passing s
  | 0, c :: s =>
    if pattern.isPrefixOf (c :: s) then countMatches pattern (pattern.length - 1) s + 1
    else countMatches pattern 0 s

/-- The lines of a package in the lock file. -/
def lockEntry (package : String) (version : Str) : Str :=
  ("name = \"" ++ package ++ "\"\nversion = \"").toList ++ version ++ "\"".toList

def checkLock (lock version : Str) (package : String) : Except String Unit :=
  failIf (countMatches (lockEntry package version) 0 lock ≠ 1)
    ("Cargo.lock entry for " ++ package ++ " does not match " ++ String.ofList version)

def validateRepository (repository : Repository) (tag : Str) : Except String Str := do
  let document ← repository.workspace
  let workspace ← ((document.get "workspace").bind TomlValue.asTable).elim (.error "missing workspace") .ok
  let version ← (((workspace.lookup "package".toList).bind (·.get "version")).bind TomlValue.asStr).elim
    (.error "missing workspace version") .ok
  validateTag repository.debug tag version
  let members ← ((workspace.lookup "members".toList).bind TomlValue.asArray).elim (.error "missing members") .ok
  let _ ← ["crates/postgres-mcp", "crates/postgres-mcp-core"].mapM (checkMember repository members)
  let lock ← repository.lock
  let _ ← ["postgres-mcp", "postgres-mcp-core"].mapM (checkLock lock version)
  let metadata ← run "cargo" repository.metadata
  ok metadata "cargo metadata"
  pure version

/-- A version that is found is one of three parts, and the tag is its tag. -/
theorem validateRepository_ok {repository : Repository} {tag version : Str}
    (h : validateRepository repository tag = .ok version) :
    tag = expectedTag version ∧ versionValid version = true := by
  -- every check passes, in the order of the source
  obtain ⟨document, -, h⟩ := bind_eq_ok_iff.mp h
  obtain ⟨workspace, -, h⟩ := bind_eq_ok_iff.mp h
  obtain ⟨version', -, h⟩ := bind_eq_ok_iff.mp h
  obtain ⟨u, htag, h⟩ := bind_eq_ok_iff.mp h
  obtain ⟨members, -, h⟩ := bind_eq_ok_iff.mp h
  obtain ⟨checked, -, h⟩ := bind_eq_ok_iff.mp h
  obtain ⟨lock, -, h⟩ := bind_eq_ok_iff.mp h
  obtain ⟨entries, -, h⟩ := bind_eq_ok_iff.mp h
  obtain ⟨metadata, -, h⟩ := bind_eq_ok_iff.mp h
  obtain ⟨v, -, h⟩ := bind_eq_ok_iff.mp h
  cases h
  exact validateTag_ok_iff.mp htag

end Xtask
end PgMcp
