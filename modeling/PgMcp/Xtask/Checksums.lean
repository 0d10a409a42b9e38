import PgMcp.Lib.Checks
import PgMcp.Lib.Ordered
import PgMcp.Lib.Text
import PgMcp.Results

/-!
# The checksums of a release

Before a release is published its directory must hold the four archives and the file
`SHA256SUMS`, and the digests of that file must be those of the archives.  The lines of the file
are read twice: once by their words, to see that they name the archives, and once by their ends,
to find the digest of an archive.  A text is the list of its characters here, and a file name the
list of its bytes.

## Main definitions

* `archiveNames`, `verifyChecksums`, `checksum`, `verifyAssetDir` — as the source has them.
* `Names line (digest, name)` — a line that gives the digest of a file.
* `Hashes` — what the program `sha256sum` prints.

## Main results

* `names_of_suffix` — of the lines of a verified text, only that of an archive ends in its name.
* `verifyAssetDir_sound` — a directory that passes holds the archives, with their digests.
-/

namespace PgMcp
namespace Xtask

open Checks Text

/-- A text. -/
abbrev Str := List Char

/-- A file name, which need not be text. -/
abbrev OsString := List UInt8

/-- The bytes of a text. -/
def OsString.ofStr (s : Str) : OsString := s.flatMap String.utf8EncodeChar

/-- The length of a text in bytes. -/
def Str.len (s : Str) : ℕ := (s.map Char.utf8Size).sum

def splitWhitespace (s : Str) : List Str := words isWhiteSpace s

def isAsciiHexdigit (c : Char) : Bool :=
  ('0' ≤ c && c ≤ '9') || ('a' ≤ c && c ≤ 'f') || ('A' ≤ c && c ≤ 'F')

def archiveNames : List Str :=
  ["postgres-mcp-x86_64-unknown-linux-gnu.tar.gz".toList,
    "postgres-mcp-aarch64-unknown-linux-gnu.tar.gz".toList,
    "postgres-mcp-aarch64-apple-darwin.tar.gz".toList,
    "postgres-mcp-x86_64-apple-darwin.tar.gz".toList]

def sha256sums : Str := "SHA256SUMS".toList

/-! ### Programs that are run -/

/-- What a program that ran left behind; its output is read as text. -/
structure Output where
  success : Bool
  stdout : Str
  stderr : Str
  deriving DecidableEq, Repr

/-- A program that cannot be run is an error that names it. -/
def run {α : Type} (program : String) (outcome : Except String α) : Except String α :=
  outcome.mapError fun e => "run " ++ program ++ ": " ++ e

def ok (o : Output) (what : String) : Except String Unit :=
  if o.success then .ok ()
  else .error (what ++ " failed: " ++ String.ofList (trim isWhiteSpace o.stderr))

/-! ### The checks -/

/-- The directory of the assets, as the checks find it: its path where that is text, its entries,
the text of its `SHA256SUMS` and what the program `sha256sum` does with a path. -/
structure Directory where
  path : Option Str
  entries : Except String (List (Except String OsString))
  sums : Except String Str
  sha256sum : Str → Except String Output

/-- The path of a file of the directory. -/
def Directory.join (dir : Directory) (name : Str) : Option Str :=
  dir.path.map fun path =>
    if path = [] ∨ path.getLast? = some '/' then path ++ name else path ++ '/' :: name

def checksum (sha256sum : Str → Except String Output) (path : Option Str) : Except String Str := do
  let p ← path.elim (.error "non-utf8 path") .ok
  let o ← run "sha256sum" (sha256sum p)
  ok o "sha256sum"
  (splitWhitespace o.stdout).head?.elim (.error "missing checksum") .ok

/-- One round of the loop over the lines: the name on a line. -/
def checksumName (line : Str) : Except String Str :=
  match splitWhitespace line with
  | [digest, name] =>
    if Str.len digest ≠ 64 ∨ ¬ digest.all isAsciiHexdigit then .error "invalid checksum line"
    else .ok (name.dropWhile (· == '*'))
  | _ => .error "invalid checksum line"

def verifyChecksums (text : Str) (expected : List Str) : Except String Unit := do
  let names ← (lines text).mapM checksumName
  failIf (names.length ≠ expected.length ∨ expected.any (fun x => (names.filter (· == x)).length ≠ 1))
    "checksums must contain exactly expected archives"

/-- The digest that the text gives for a name: the first word of the first line that ends in it. -/
def recordedDigest (sums name : Str) : Str :=
  (((lines sums).find? fun l => name.isSuffixOf l).bind fun l => (splitWhitespace l).head?).getD []

def expectedEntries : List OsString := (archiveNames ++ [sha256sums]).map OsString.ofStr

/-- The check of one archive. -/
def verifyArchiveDigest (dir : Directory) (sums name : Str) : Except String (Option Str) := do
  let digest ← checksum dir.sha256sum (dir.join name)
  failIf (digest ≠ recordedDigest sums name) ("checksum mismatch for " ++ String.ofList name)
  pure (dir.join name)

def verifyAssetDir (dir : Directory) : Except String (List (Option Str)) := do
  let entries ← dir.entries
  let got ← entries.mapM id
  failIf (got.insertionSort (· ≤ ·) ≠ expectedEntries.insertionSort (· ≤ ·))
    "asset directory must contain exactly four archives and SHA256SUMS"
  let sums ← dir.sums
  verifyChecksums sums archiveNames
  archiveNames.mapM (verifyArchiveDigest dir sums)

/-! ### The lines of the text -/

/-- The line gives a digest for a name, which may be starred. -/
def Names (line : Str) (entry : Str × Str) : Prop :=
  ∃ stars, splitWhitespace line = [entry.1, List.replicate stars '*' ++ entry.2]

theorem checksumName_ok {line name : Str} (h : checksumName line = .ok name) :
    ∃ digest, Names line (digest, name) ∧ digest.all isAsciiHexdigit := by
  unfold checksumName at h
  split at h
  · next digest starred hwords =>
    split at h
    · cases h
    · next hdigest =>
      cases h
      refine ⟨digest, ⟨(starred.takeWhile (· == '*')).length, ?_⟩, by simpa using (not_or.mp hdigest).2⟩
      -- what the trimming takes off is the stars
      have hstars : starred.takeWhile (· == '*')
          = List.replicate (starred.takeWhile (· == '*')).length '*' := by
        refine List.eq_replicate_of_mem fun c hc => ?_
        simpa using List.mem_takeWhile_imp hc
      rw [hwords, ← hstars, List.takeWhile_append_dropWhile]
  · cases h

/-- A name of an archive holds no blank and no star. -/
theorem archiveNames_clean (n : Str) (hn : n ∈ archiveNames) :
    n ≠ [] ∧ '*' ∉ n ∧ ∀ c ∈ n, isWhiteSpace c = false := by
  have hdecided : archiveNames.all (fun n =>
      !n.isEmpty && n.all (fun c => c != '*' && !isWhiteSpace c)) = true := by
    rw [archiveNames, String.toList_ofList, String.toList_ofList, String.toList_ofList,
      String.toList_ofList]
    decide +kernel
  have hclean := List.all_eq_true.mp hdecided n hn
  simp only [Bool.and_eq_true, Bool.not_eq_true', List.isEmpty_eq_false_iff, List.all_eq_true,
    bne_iff_ne] at hclean
  exact ⟨hclean.1, fun hstar => (hclean.2 _ hstar).1 rfl, fun c hc => (hclean.2 c hc).2⟩

/-- No other archive ends in the name of an archive. -/
theorem archiveNames_suffix : ∀ n ∈ archiveNames, ∀ m ∈ archiveNames, n <:+ m → n = m := by
  rw [archiveNames, String.toList_ofList, String.toList_ofList, String.toList_ofList, String.toList_ofList]
  decide +kernel

theorem archiveNames_nodup : archiveNames.Nodup := by
  rw [archiveNames, String.toList_ofList, String.toList_ofList, String.toList_ofList, String.toList_ofList]
  decide +kernel

/-- A text that passes has one line for each name that is expected. -/
theorem verifyChecksums_ok {text : Str} {expected : List Str} (hnodup : expected.Nodup) {u : Unit}
    (h : verifyChecksums text expected = .ok u) :
    ∃ names, List.Forall₂ (fun line name => checksumName line = .ok name) (lines text) names ∧
      names.Perm expected := by
  obtain ⟨names, hnames, hcheck⟩ := bind_eq_ok_iff.mp h
  have hboth := failIf_eq_ok_iff.mp hcheck
  rw [not_or, not_not] at hboth
  have hsubset : expected ⊆ names := by
    intro x hx
    have hcount := List.any_eq_false.mp (Bool.eq_false_iff.mpr hboth.2) x hx
    have hone : (names.filter (· == x)).length = 1 := by simpa using hcount
    have hpos : 0 < names.count x := by
      rw [List.count_eq_countP, List.countP_eq_length_filter]
      omega
    exact List.count_pos_iff.mp hpos
  have hperm : expected.Perm names :=
    (List.subperm_of_subset hnodup hsubset).perm_of_length_le hboth.1.le
  exact ⟨names, mapM_eq_ok_iff.mp hnames, hperm.symm⟩

/-- Of the lines that name archives, only that of an archive ends in its name. -/
theorem names_of_suffix {line name n : Str} (hline : checksumName line = .ok name)
    (hname : name ∈ archiveNames) (hn : n ∈ archiveNames) (h : n <:+ line) : name = n := by
  obtain ⟨digest, ⟨stars, hwords⟩, -⟩ := checksumName_ok hline
  obtain ⟨hne, hstar, hblank⟩ := archiveNames_clean n hn
  obtain ⟨w, hlast, hsuffix⟩ := suffix_last_word isWhiteSpace hne hblank h
  have hw : w = List.replicate stars '*' ++ name := by
    have hlast' : (splitWhitespace line).getLast? = some w := hlast
    rw [hwords] at hlast'
    simpa using hlast'.symm
  -- both names end the second word, so one ends in the other
  rcases List.suffix_or_suffix_of_suffix (hw ▸ hsuffix) (List.suffix_append _ name) with hs | hs
  · exact (archiveNames_suffix n hn name hname hs).symm
  · exact archiveNames_suffix name hname n hn hs

/-- The lines of a text that passes, each with the digest it gives and the archive it names. -/
theorem entries_of_verifyChecksums {text : Str} {u : Unit}
    (h : verifyChecksums text archiveNames = .ok u) :
    ∃ entries : List (Str × Str),
      List.Forall₂ (fun line entry => Names line entry ∧ checksumName line = .ok entry.2 ∧
        entry.1.all isAsciiHexdigit) (lines text) entries ∧
      (entries.map Prod.snd).Perm archiveNames := by
  obtain ⟨names, hnames, hperm⟩ := verifyChecksums_ok archiveNames_nodup h
  clear h
  suffices hentries : ∃ entries : List (Str × Str),
      List.Forall₂ (fun line entry => Names line entry ∧ checksumName line = .ok entry.2 ∧
        entry.1.all isAsciiHexdigit) (lines text) entries ∧ entries.map Prod.snd = names by
    obtain ⟨entries, hforall, hmap⟩ := hentries
    exact ⟨entries, hforall, hmap ▸ hperm⟩
  clear hperm
  generalize lines text = ls at hnames ⊢
  induction hnames with
  | nil => exact ⟨[], .nil, rfl⟩
  | @cons line name _ _ hline _ ih =>
    obtain ⟨entries, hforall, hmap⟩ := ih
    obtain ⟨digest, hnamed, hhex⟩ := checksumName_ok hline
    exact ⟨(digest, name) :: entries, .cons ⟨hnamed, hline, hhex⟩ hforall, by rw [List.map_cons, hmap]⟩

/-- Where a digest is found for an archive, it is that of a line that names the archive. -/
theorem recordedDigest_names {sums n : Str} (hne : recordedDigest sums n ≠ []) :
    ∃ line, (lines sums).find? (fun l => n.isSuffixOf l) = some line ∧ n <:+ line ∧
      (splitWhitespace line).head? = some (recordedDigest sums n) := by
  unfold recordedDigest at hne ⊢
  cases hfind : (lines sums).find? fun l => n.isSuffixOf l with
  | none => simp [hfind] at hne
  | some line =>
    refine ⟨line, rfl, by simpa using List.find?_some hfind, ?_⟩
    cases hwords : splitWhitespace line with
    | nil => simp [hfind, hwords] at hne
    | cons w ws => simp [hwords]

/-! ### The directory -/

/-- What the program prints for the archives of a directory: the digest of what the file holds,
after a backslash where it escapes the name, and after it a blank and the name. -/
structure Hashes {κ : Type} (dir : Directory) (sha256 : κ → Str) (content : Str → κ) : Prop where
  printed : ∀ n ∈ archiveNames, ∀ p o, dir.join n = some p → dir.sha256sum p = .ok o → o.success →
    ∃ escape printed, (escape = [] ∨ escape = ['\\']) ∧
      o.stdout = escape ++ sha256 (content n) ++ ' ' :: printed
  digits : ∀ c, sha256 c ≠ [] ∧ (sha256 c).all isAsciiHexdigit

theorem isWhiteSpace_of_hexdigit {c : Char} (h : isAsciiHexdigit c = true) : isWhiteSpace c = false := by
  have hrange : 48 ≤ c.toNat ∧ c.toNat ≤ 102 := by
    simp only [isAsciiHexdigit, Bool.or_eq_true, Bool.and_eq_true, decide_eq_true_eq, Char.le_def,
      UInt32.le_iff_toNat_le] at h
    have htoNat : c.val.toNat = c.toNat := rfl
    have hbounds : ('0'.val.toNat, '9'.val.toNat, 'a'.val.toNat, 'f'.val.toNat, 'A'.val.toNat,
        'F'.val.toNat) = (48, 57, 97, 102, 65, 70) := rfl
    simp only [Prod.mk.injEq] at hbounds
    omega
  have hupper : ∀ n ∈ [0x85, 0xA0, 0x1680, 0x2028, 0x2029, 0x202F, 0x205F, 0x3000], c.toNat ≠ n := by
    intro n hn
    fin_cases hn <;> omega
  simp only [List.forall_mem_cons] at hupper
  simp only [isWhiteSpace, Bool.or_eq_false_iff, Bool.and_eq_false_iff, decide_eq_false_iff_not,
    beq_eq_false_iff_ne]
  omega

/-- The first word that is printed is the digest, where it holds hexadecimal digits only. -/
theorem checksum_of_hashes {κ : Type} {dir : Directory} {sha256 : κ → Str} {content : Str → κ}
    (hashes : Hashes dir sha256 content) {n digest : Str} (hn : n ∈ archiveNames)
    (h : checksum dir.sha256sum (dir.join n) = .ok digest) (hhex : digest.all isAsciiHexdigit) :
    digest = sha256 (content n) := by
  obtain ⟨p, hp, h⟩ := bind_eq_ok_iff.mp h
  obtain ⟨o, ho, h⟩ := bind_eq_ok_iff.mp h
  obtain ⟨u, hok, h⟩ := bind_eq_ok_iff.mp h
  have hpath : dir.join n = some p := by
    cases hjoin : dir.join n with
    | none => rw [hjoin] at hp; cases hp
    | some q => rw [hjoin] at hp; cases hp; rfl
  have hran : dir.sha256sum p = .ok o := by
    cases hran : dir.sha256sum p with
    | error e => rw [hran] at ho; cases ho
    | ok o' => rw [hran] at ho; cases ho; rfl
  have hsuccess : o.success = true := by
    by_contra hfailed
    rw [ok, if_neg hfailed] at hok
    cases hok
  obtain ⟨escape, printed, hescape, hout⟩ := hashes.printed n hn p o hpath hran hsuccess
  obtain ⟨hne, hdigits⟩ := hashes.digits (content n)
  have hclean : ∀ c ∈ escape ++ sha256 (content n), isWhiteSpace c = false := by
    intro c hc
    rcases List.mem_append.mp hc with hc | hc
    · rcases hescape with rfl | rfl
      · cases hc
      · rw [List.mem_singleton.mp hc]
        rfl
    · exact isWhiteSpace_of_hexdigit (List.all_eq_true.mp hdigits c hc)
  have hfirst := head_words isWhiteSpace (List.append_ne_nil_of_right_ne_nil escape hne) hclean
    (b := ' ') rfl printed
  rw [splitWhitespace, hout, hfirst] at h
  cases h
  rcases hescape with rfl | rfl
  · rfl
  · -- a backslash is not a digit
    cases hhex

theorem checksum_ne_nil {sha256sum : Str → Except String Output} {path : Option Str} {digest : Str}
    (h : checksum sha256sum path = .ok digest) : digest ≠ [] := by
  obtain ⟨p, -, h⟩ := bind_eq_ok_iff.mp h
  obtain ⟨o, -, h⟩ := bind_eq_ok_iff.mp h
  obtain ⟨u, -, h⟩ := bind_eq_ok_iff.mp h
  cases hwords : splitWhitespace o.stdout with
  | nil => rw [hwords] at h; cases h
  | cons w ws =>
    rw [hwords] at h
    cases h
    exact ne_nil_of_mem_words isWhiteSpace (hwords ▸ List.mem_cons_self)

/-- The entries of a directory that is read without an error. -/
theorem entries_of_mapM {entries : List (Except String OsString)} {got : List OsString}
    (h : entries.mapM id = .ok got) : entries = got.map .ok := by
  have hall := mapM_eq_ok_iff.mp h
  clear h
  induction hall with
  | nil => rfl
  | cons hentry _ ih => rw [List.map_cons, ← ih, ← hentry, id]

/-- What a directory that passes holds: its entries are the four archives and `SHA256SUMS`, the
lines of the text give a digest for each archive and for nothing else, the digest is that of the
archive, and the line found by its end is the one that names the archive. -/
theorem verifyAssetDir_sound {κ : Type} {dir : Directory} {sha256 : κ → Str} {content : Str → κ}
    {paths : List (Option Str)} (hashes : Hashes dir sha256 content)
    (h : verifyAssetDir dir = .ok paths) :
    (∃ got : List OsString, dir.entries = .ok (got.map .ok) ∧ got.Perm expectedEntries) ∧
      ∃ sums, dir.sums = .ok sums ∧ ∃ entries, List.Forall₂ Names (lines sums) entries ∧
        (entries.map Prod.snd).Perm archiveNames ∧ (∀ e ∈ entries, e.1 = sha256 (content e.2)) ∧
        ∀ n ∈ archiveNames, ∀ line, (lines sums).find? (fun l => n.isSuffixOf l) = some line →
          ∃ digest, Names line (digest, n) := by
  obtain ⟨listed, hlisted, h⟩ := bind_eq_ok_iff.mp h
  obtain ⟨got, hgot, h⟩ := bind_eq_ok_iff.mp h
  obtain ⟨u, hexact, h⟩ := bind_eq_ok_iff.mp h
  obtain ⟨sums, hsums, h⟩ := bind_eq_ok_iff.mp h
  obtain ⟨v, hverify, h⟩ := bind_eq_ok_iff.mp h
  obtain ⟨entries, hentries, hperm⟩ := entries_of_verifyChecksums hverify
  have hmem : ∀ e ∈ entries, e.2 ∈ archiveNames := fun e he =>
    hperm.mem_iff.mp (List.mem_map_of_mem he)
  -- a line that ends in the name of an archive is its entry
  have hfound : ∀ n ∈ archiveNames, ∀ line ∈ lines sums, n <:+ line →
      ∃ e ∈ entries, e.2 = n ∧ Names line e ∧ e.1.all isAsciiHexdigit := by
    intro n hn line hline hsuffix
    obtain ⟨e, he, hnames, hname, hhex⟩ := Ordered.exists_of_forall₂ hentries line hline
    exact ⟨e, he, names_of_suffix hname (hmem e he) hn hsuffix, hnames, hhex⟩
  refine ⟨⟨got, ?_, ?_⟩, sums, hsums, entries, hentries.imp fun _ _ h => h.1, hperm, ?_, ?_⟩
  · rw [hlisted, entries_of_mapM hgot]
  · have hsorted := not_not.mp (failIf_eq_ok_iff.mp hexact)
    have hgotPerm : (got.insertionSort (· ≤ ·)).Perm got := List.perm_insertionSort _ got
    rw [hsorted] at hgotPerm
    exact hgotPerm.symm.trans (List.perm_insertionSort _ expectedEntries)
  · intro e he
    obtain ⟨path, -, hpath⟩ := Ordered.exists_of_forall₂ (mapM_eq_ok_iff.mp h) e.2 (hmem e he)
    obtain ⟨digest, hdigest, hpath⟩ := bind_eq_ok_iff.mp hpath
    obtain ⟨w, hequal, -⟩ := bind_eq_ok_iff.mp hpath
    have hrecorded : digest = recordedDigest sums e.2 := not_not.mp (failIf_eq_ok_iff.mp hequal)
    have hne : recordedDigest sums e.2 ≠ [] := hrecorded ▸ checksum_ne_nil hdigest
    obtain ⟨line, hfind, hsuffix, hhead⟩ := recordedDigest_names hne
    obtain ⟨e', he', hname, ⟨stars, hwords⟩, hhex⟩ :=
      hfound e.2 (hmem e he) line (List.mem_of_find?_eq_some hfind) hsuffix
    -- the names are distinct, so it is this entry
    have hsame : e' = e :=
      List.inj_on_of_nodup_map (hperm.nodup_iff.mpr archiveNames_nodup) he' he hname
    subst hsame
    rw [hwords] at hhead
    have hfirst : e'.1 = digest := hrecorded ▸ Option.some.inj hhead
    rw [hfirst]
    exact checksum_of_hashes hashes (hmem e' he) hdigest (hfirst ▸ hhex)
  · intro n hn line hfind
    obtain ⟨e, -, rfl, hnames, -⟩ := hfound n hn line (List.mem_of_find?_eq_some hfind)
      (by simpa using List.find?_some hfind)
    exact ⟨e.1, hnames⟩

/-- A digest that tells names of even and of odd length apart. -/
def paritySha256 (content : Str) : Str :=
  List.replicate 64 (if content.length % 2 = 0 then 'e' else '0')

/-- A directory whose files hold their own names; the text names them starred and in reverse. -/
def paritySums : Directory where
  path := some "dist".toList
  entries := .ok (expectedEntries.reverse.map .ok)
  sums := .ok (archiveNames.reverse.flatMap fun n => paritySha256 n ++ [' ', '*'] ++ n ++ ['\n'])
  sha256sum := fun p => .ok ⟨true, paritySha256 (p.drop 5) ++ ' ' :: ' ' :: p, []⟩

theorem paritySums_hashes : Hashes paritySums paritySha256 id where
  printed := by
    intro n _ p o hp ho _
    cases hp
    cases ho
    exact ⟨[], _, .inl rfl, rfl⟩
  digits := by
    intro c
    unfold paritySha256
    split
    · exact ⟨by simp, by decide⟩
    · exact ⟨by simp, by decide⟩

set_option maxRecDepth 20000 in
theorem verifyAssetDir_sound_parity :
    (∃ got : List OsString, paritySums.entries = .ok (got.map .ok) ∧ got.Perm expectedEntries) ∧
      ∃ sums, paritySums.sums = .ok sums ∧ ∃ entries, List.Forall₂ Names (lines sums) entries ∧
        (entries.map Prod.snd).Perm archiveNames ∧ (∀ e ∈ entries, e.1 = paritySha256 (id e.2)) ∧
        ∀ n ∈ archiveNames, ∀ line, (lines sums).find? (fun l => n.isSuffixOf l) = some line →
          ∃ digest, Names line (digest, n) :=
  @verifyAssetDir_sound _ paritySums paritySha256 id (archiveNames.map paritySums.join)
    paritySums_hashes (by decide +kernel)

end Xtask
end PgMcp
