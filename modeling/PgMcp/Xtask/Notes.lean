import PgMcp.Xtask.Checksums

/-!
# Release notes

The notes of a release are its section of the changelog.  The sections are found by a scan of
the lines that keeps track of code fences, so that a heading inside a fence is text; the end of a
section is found by a second search.

## Main definitions

* `dateValid`, `scan`, `extractNotes` — as the source has them.
* `Tidy` — lines that leave no fence open and have no heading of the second level outside one.
* `Changelog` — a changelog made of a preamble and sections.

## Main results

* `scan_tidy` — a scan crosses tidy lines without finding a section.
* `scan_sections` — the scan finds the headings of the sections and nothing else.
* `extractNotes_changelog` — the notes are the section's own text.
-/

namespace PgMcp
namespace Xtask

open Checks Text

/-! ### Dates and headings -/

def isAsciiDigit (c : Char) : Bool := '0' ≤ c && c ≤ '9'

/-- The number a text spells, with at most one sign before it. -/
def parseU32 (s : Str) : Option ℕ :=
  let digits := if s.head? = some '+' then s.tail else s
  let value := digits.foldl (fun n c => n * 10 + (c.toNat - '0'.toNat)) 0
  if digits ≠ [] ∧ digits.all isAsciiDigit ∧ value < 2 ^ 32 then some value else none

def dateValid (s : Str) : Bool :=
  match s.splitOn '-' with
  | [year, month, day] =>
    Str.len year == 4 && Str.len month == 2 && Str.len day == 2 &&
      [year, month, day].all (fun x => x.all isAsciiDigit) &&
      (1 ≤ (parseU32 month).getD 0 && (parseU32 month).getD 0 ≤ 12) &&
      (1 ≤ (parseU32 day).getD 0 && (parseU32 day).getD 0 ≤ 31)
  | _ => false

/-- Where the first occurrence of a pattern begins. -/
def find (pattern : Str) : Str → Option ℕ
  | [] => if pattern = [] then some 0 else none
  | c :: s => if pattern.isPrefixOf (c :: s) then some 0 else (find pattern s).map (· + 1)

/-- The heading of the changes that are in no release yet. -/
def unreleasedHeading : Str := "## [Unreleased]".toList

/-- What a release heading begins with. -/
def headingOpen : Str := "## [".toList

/-- What stands between the version and the date. -/
def headingClose : Str := "] - ".toList

/-- The version of a release heading; the heading of unreleased changes has none. -/
def releaseVersion (h : Str) : Except String (Option Str) :=
  if h = unreleasedHeading then .ok none
  else if headingOpen.isPrefixOf h then
    let rest := h.drop 4
    match find headingClose rest with
    | none => .error "malformed release heading"
    | some at' =>
      if dateValid (rest.drop (at' + 4)) then .ok (some (rest.take at'))
      else .error "release heading date must be YYYY-MM-DD"
  else .error "malformed release heading"

/-! ### The scan -/

/-- A code fence that is open: its character and how many of them opened it. -/
abbrev Fence := Char × ℕ

/-- The fence that a line opens, when none is open. -/
def opens (line : Str) : Option Fence :=
  let trimmed := trimStart isWhiteSpace line
  if "```".toList.isPrefixOf trimmed || "~~~".toList.isPrefixOf trimmed then
    trimmed.head?.map fun ch => (ch, (trimmed.takeWhile (· == ch)).length)
  else none

/-- Whether a line closes the fence. -/
def closes (fence : Fence) (line : Str) : Bool :=
  let trimmed := trimStart isWhiteSpace line
  let close := (trimmed.takeWhile (· == fence.1)).length
  decide (fence.2 ≤ close) && (trim isWhiteSpace (trimmed.drop close)).isEmpty

/-- The loop over the lines: the sections that start, with their positions, and the fence. -/
def scan : ℕ → List (ℕ × Str) → Option Fence → List Str →
    Except String (List (ℕ × Str) × Option Fence)
  | _, starts, fence, [] => .ok (starts, fence)
  | i, starts, some fence, line :: rest =>
    scan (i + 1) starts (if closes fence line then none else some fence) rest
  | i, starts, none, line :: rest =>
    match opens line with
    | some fence => scan (i + 1) starts (some fence) rest
    | none =>
      if "## ".toList.isPrefixOf line then scan (i + 1) (starts ++ [(i, line)]) none rest
      else if "##".toList.isPrefixOf line && !"###".toList.isPrefixOf line then
        .error "malformed level-two heading"
      else scan (i + 1) starts none rest

/-- The loop over the headings: where the sections of the version start. -/
def findSections (version : Str) : List ℕ → List (ℕ × Str) → Except String (List ℕ)
  | found, [] => .ok found
  | found, (i, h) :: starts => do
    let v ← releaseVersion h
    findSections version (if v = some version then found ++ [i] else found) starts

def joinLines (ls : List Str) : Str := ['\n'].intercalate ls

/-- The notes, once the sections of the version are found. -/
def sectionNotes (version : Str) (ls : List Str) (starts : List (ℕ × Str)) : List ℕ → Except String Str
  | [start] => do
    let stop := ((starts.find? fun s => decide (start < s.1)).map Prod.fst).getD ls.length
    let body := joinLines ((ls.take stop).drop (start + 1))
    failIf (trim isWhiteSpace body = []) "release notes are empty"
    .ok (trim isWhiteSpace body ++ ['\n'])
  | _ => .error ("expected exactly one changelog section for " ++ String.ofList version)

def extractNotes (text version : Str) : Except String Str := do
  failIf ((lines text).head? ≠ some "# Changelog".toList) "changelog must begin with # Changelog"
  let scanned ← scan 0 [] none (lines text)
  failIf (scanned.2.isSome = true) "unterminated fenced block"
  let found ← findSections version [] scanned.1
  sectionNotes version (lines text) scanned.1 found

/-! ### Changelogs -/

/-- The fence after a line. -/
def fenceStep : Option Fence → Str → Option Fence
  | some fence, line => if closes fence line then none else some fence
  | none, line => opens line

/-- Lines whose fences are balanced and that have no heading of the second level outside a
fence. -/
structure Tidy (body : List Str) : Prop where
  balanced : body.foldl fenceStep none = none
  headings : ∀ front line back, body = front ++ line :: back → front.foldl fenceStep none = none →
    "##".toList <+: line → "###".toList <+: line

/-- The decision of tidiness, from the fence that is open. -/
def tidyFrom : Option Fence → List Str → Bool
  | fence, [] => fence.isNone
  | fence, line :: rest =>
    (fence.isSome || !"##".toList.isPrefixOf line || "###".toList.isPrefixOf line) &&
      tidyFrom (fenceStep fence line) rest

theorem tidyFrom_sound {body : List Str} : ∀ {fence : Option Fence}, tidyFrom fence body = true →
    body.foldl fenceStep fence = none ∧
      ∀ front line back, body = front ++ line :: back → front.foldl fenceStep fence = none →
        "##".toList <+: line → "###".toList <+: line := by
  induction body with
  | nil =>
    intro fence h
    refine ⟨Option.isNone_iff_eq_none.mp h, fun front line back hbody => ?_⟩
    simp at hbody
  | cons line body ih =>
    intro fence h
    rw [tidyFrom, Bool.and_eq_true] at h
    obtain ⟨hline, hrest⟩ := h
    obtain ⟨hbalanced, hheadings⟩ := ih hrest
    refine ⟨hbalanced, fun front line' back hbody hfence hmark => ?_⟩
    cases front with
    | nil =>
      obtain ⟨rfl, -⟩ := List.cons.inj hbody
      rw [List.foldl_nil] at hfence
      have hprefix : "##".toList.isPrefixOf line = true := List.isPrefixOf_iff_prefix.mpr hmark
      rw [hfence, hprefix] at hline
      exact List.isPrefixOf_iff_prefix.mp hline
    | cons first front =>
      obtain ⟨rfl, hrest⟩ := List.cons.inj hbody
      exact hheadings front line' back hrest hfence hmark

theorem Tidy.of_tidyFrom {body : List Str} (h : tidyFrom none body = true) : Tidy body where
  balanced := (tidyFrom_sound h).1
  headings := (tidyFrom_sound h).2

/-- A section of a changelog. -/
inductive Section
  /-- The changes that are in no release yet. -/
  | unreleased (body : List Str)
  /-- The changes of a release, with its date. -/
  | release (version date : Str) (body : List Str)

namespace Section

def heading : Section → Str
  | unreleased _ => unreleasedHeading
  | release version date _ => headingOpen ++ version ++ headingClose ++ date

def body : Section → List Str
  | unreleased body => body
  | release _ _ body => body

def version? : Section → Option Str
  | unreleased _ => none
  | release version _ _ => some version

def written (s : Section) : List Str := s.heading :: s.body

/-- The version of a release can be read back from its heading, and so can its date. -/
def Readable : Section → Prop
  | unreleased _ => True
  | release version date _ => ']' ∉ version ∧ dateValid date

end Section

/-- A changelog: a preamble and sections for distinct versions, all of tidy lines. -/
structure Changelog where
  preamble : List Str
  sections : List Section
  readable : ∀ s ∈ sections, s.Readable
  distinct : (sections.filterMap Section.version?).Nodup
  tidyPreamble : Tidy preamble
  tidyBodies : ∀ s ∈ sections, Tidy s.body
  oneLine : ∀ l ∈ preamble ++ sections.flatMap Section.written, '\n' ∉ l ∧ '\r' ∉ l

/-- The lines of a changelog. -/
def Changelog.written (c : Changelog) : List Str :=
  "# Changelog".toList :: (c.preamble ++ c.sections.flatMap Section.written)

/-! ### The scan of a changelog -/

/-- A line that opens no fence and is no heading of the second level is passed over. -/
theorem scan_cons {fence : Option Fence} {line : Str} (i : ℕ) (starts : List (ℕ × Str)) (rest : List Str)
    (h : fence = none → "##".toList <+: line → "###".toList <+: line) :
    scan i starts fence (line :: rest) = scan (i + 1) starts (fenceStep fence line) rest := by
  cases fence with
  | some fence => rfl
  | none =>
    rw [scan, fenceStep]
    cases hopens : opens line with
    | some fence => rfl
    | none =>
      have hmark : ¬ "## ".toList <+: line := by
        intro hmark
        have htriple := h rfl (List.IsPrefix.trans (by decide) hmark)
        -- the third character cannot be both a blank and a hash
        have hboth := List.prefix_of_prefix_length_le hmark htriple (by decide)
        revert hboth
        decide
      have hplain : ¬ ("##".toList.isPrefixOf line && !"###".toList.isPrefixOf line) = true := by
        simp only [Bool.and_eq_true, Bool.not_eq_true', List.isPrefixOf_iff_prefix, not_and,
          Bool.not_eq_false]
        exact h rfl
      simp only [List.isPrefixOf_iff_prefix, if_neg hmark, if_neg hplain]

/-- A scan crosses tidy lines without finding a section. -/
theorem scan_tidy {body : List Str} : ∀ {fence : Option Fence} (i : ℕ) (starts : List (ℕ × Str))
    (rest : List Str),
    (∀ front line back, body = front ++ line :: back → front.foldl fenceStep fence = none →
      "##".toList <+: line → "###".toList <+: line) →
    scan i starts fence (body ++ rest) = scan (i + body.length) starts (body.foldl fenceStep fence) rest := by
  induction body with
  | nil =>
    intro fence i starts rest _
    rfl
  | cons line body ih =>
    intro fence i starts rest h
    have hline : fence = none → "##".toList <+: line → "###".toList <+: line := h [] line body rfl
    rw [List.cons_append, scan_cons i starts _ hline, ih, List.foldl_cons, List.length_cons,
      Nat.add_right_comm, Nat.add_assoc]
    intro front line' back hbody hfence
    exact h (line :: front) line' back (by rw [hbody, List.cons_append]) hfence

theorem Section.heading_eq (s : Section) :
    ∃ text, s.heading = '#' :: '#' :: ' ' :: text := by
  cases s with
  | unreleased body => exact ⟨_, rfl⟩
  | release version date body => exact ⟨'[' :: (version ++ headingClose ++ date), by rfl⟩

/-- The heading of a section is found where no fence is open. -/
theorem scan_heading (s : Section) (i : ℕ) (starts : List (ℕ × Str)) (rest : List Str) :
    scan i starts none (s.heading :: rest) = scan (i + 1) (starts ++ [(i, s.heading)]) none rest := by
  obtain ⟨text, htext⟩ := s.heading_eq
  have hopens : opens s.heading = none := by
    rw [opens, htext, trimStart_cons isWhiteSpace (by decide)]
    rfl
  have hmark : "## ".toList.isPrefixOf s.heading = true := by
    rw [htext]
    rfl
  rw [scan, hopens]
  simp only [hmark, if_true]

/-- The headings of sections, with their positions from `i` on. -/
def headings : ℕ → List Section → List (ℕ × Str)
  | _, [] => []
  | i, s :: sections => (i, s.heading) :: headings (i + s.written.length) sections

/-- The scan of sections with tidy bodies finds their headings and nothing else. -/
theorem scan_sections {sections : List Section} (tidy : ∀ s ∈ sections, Tidy s.body) (i : ℕ)
    (starts : List (ℕ × Str)) :
    scan i starts none (sections.flatMap Section.written) = .ok (starts ++ headings i sections, none) := by
  induction sections generalizing i starts with
  | nil => simp [scan, headings]
  | cons s sections ih =>
    rw [List.forall_mem_cons] at tidy
    rw [List.flatMap_cons, Section.written, List.cons_append, scan_heading,
      scan_tidy _ _ _ tidy.1.headings, tidy.1.balanced, ih tidy.2, headings, Section.written,
      List.length_cons, List.append_assoc, List.singleton_append, Nat.add_right_comm, Nat.add_assoc]

theorem scan_changelog (c : Changelog) :
    scan 0 [] none c.written = .ok (headings (c.preamble.length + 1) c.sections, none) := by
  have htitle : scan 0 [] none c.written
      = scan 1 [] none (c.preamble ++ c.sections.flatMap Section.written) :=
    scan_cons 0 [] _ (by decide)
  rw [htitle, scan_tidy 1 [] _ c.tidyPreamble.headings, c.tidyPreamble.balanced,
    scan_sections c.tidyBodies, List.nil_append, Nat.add_comm 1]

/-! ### The section of a version -/

/-- The first place of a pattern that begins with a character the text before it lacks. -/
theorem find_append {c : Char} {pattern : Str} {v : Str} (hv : c ∉ v) (rest : Str) :
    find (c :: pattern) (v ++ (c :: pattern) ++ rest) = some v.length := by
  induction v with
  | nil => simp [find]
  | cons d v ih =>
    rw [List.mem_cons, not_or] at hv
    have hno : (c :: pattern).isPrefixOf (d :: (v ++ (c :: pattern) ++ rest)) = false := by
      simp [List.isPrefixOf, hv.1]
    rw [List.cons_append, List.cons_append, find, hno, ih hv.2]
    rfl

theorem find_close {v : Str} (hv : ']' ∉ v) (rest : Str) :
    find headingClose (v ++ headingClose ++ rest) = some v.length :=
  @find_append ']' " - ".toList v hv rest

/-- A readable heading gives its version back. -/
theorem releaseVersion_heading {s : Section} (h : s.Readable) :
    releaseVersion s.heading = .ok s.version? := by
  cases s with
  | unreleased body => rfl
  | release version date body =>
    obtain ⟨hversion, hdate⟩ := h
    have hmark : (Section.release version date body).heading
        = headingOpen ++ (version ++ headingClose ++ date) := by
      simp only [Section.heading, List.append_assoc]
    have hne : (Section.release version date body).heading ≠ unreleasedHeading := by
      intro heq
      -- the text after the version would have to be empty
      rw [hmark] at heq
      have hopen : headingOpen ++ (version ++ headingClose ++ date) = headingOpen ++ "Unreleased]".toList :=
        heq.trans (by decide +kernel)
      have hrest : version ++ headingClose ++ date = "Unreleased]".toList :=
        List.append_cancel_left hopen
      have hnone : find headingClose "Unreleased]".toList = none := by decide
      rw [← hrest, find_close hversion] at hnone
      cases hnone
    have hprefix : headingOpen.isPrefixOf (Section.release version date body).heading = true := by
      rw [hmark, List.isPrefixOf_iff_prefix]
      exact List.prefix_append _ _
    have hrest : ((Section.release version date body).heading).drop 4
        = version ++ headingClose ++ date := by
      rw [hmark]
      rfl
    have hdateRest : (version ++ headingClose ++ date).drop (version.length + 4) = date := by
      have hlength : (version ++ headingClose).length = version.length + 4 := by
        rw [List.length_append]
        rfl
      rw [← hlength, List.drop_left]
    have hfind : find headingClose (version ++ headingClose ++ date) = some version.length := by
      exact find_close hversion date
    have htake : (version ++ headingClose ++ date).take version.length = version := by
      rw [List.append_assoc, List.take_left]
    rw [releaseVersion, if_neg hne, if_pos hprefix, hrest]
    simp only [hfind, hdateRest, hdate, if_true, htake, Section.version?]

/-- Where the sections of a version start, from `i` on. -/
def positions (version : Str) : ℕ → List Section → List ℕ
  | _, [] => []
  | i, s :: sections =>
    (if s.version? = some version then [i] else []) ++ positions version (i + s.written.length) sections

theorem findSections_headings {version : Str} {sections : List Section}
    (readable : ∀ s ∈ sections, s.Readable) (i : ℕ) (found : List ℕ) :
    findSections version found (headings i sections) = .ok (found ++ positions version i sections) := by
  induction sections generalizing i found with
  | nil => simp [findSections, headings, positions]
  | cons s sections ih =>
    rw [List.forall_mem_cons] at readable
    rw [headings, findSections, releaseVersion_heading readable.1, ok_bind, ih readable.2, positions]
    by_cases h : s.version? = some version
    · rw [if_pos h, if_pos h, List.append_assoc]
    · rw [if_neg h, if_neg h, List.nil_append]

/-- The lines of sections. -/
abbrev lengthWritten (sections : List Section) : ℕ := (sections.flatMap Section.written).length

theorem positions_append (version : Str) (i : ℕ) (before after : List Section) :
    positions version i (before ++ after)
      = positions version i before ++ positions version (i + lengthWritten before) after := by
  induction before generalizing i with
  | nil => rfl
  | cons s before ih =>
    rw [List.cons_append, positions, positions, ih, List.append_assoc, lengthWritten, lengthWritten,
      List.flatMap_cons, List.length_append, Nat.add_assoc]

theorem positions_eq_nil {version : Str} {sections : List Section}
    (h : some version ∉ sections.map Section.version?) (i : ℕ) : positions version i sections = [] := by
  induction sections generalizing i with
  | nil => rfl
  | cons s sections ih =>
    rw [List.map_cons, List.mem_cons, not_or] at h
    rw [positions, if_neg (Ne.symm h.1), ih h.2, List.nil_append]

theorem headings_append (i : ℕ) (before after : List Section) :
    headings i (before ++ after) = headings i before ++ headings (i + lengthWritten before) after := by
  induction before generalizing i with
  | nil => rfl
  | cons s before ih =>
    rw [List.cons_append, headings, headings, ih, List.cons_append, lengthWritten, lengthWritten,
      List.flatMap_cons, List.length_append, Nat.add_assoc]

/-- Headings stand within the lines of their sections. -/
theorem headings_lt (i : ℕ) (sections : List Section) :
    ∀ h ∈ headings i sections, h.1 < i + lengthWritten sections := by
  induction sections generalizing i with
  | nil => simp [headings]
  | cons s sections ih =>
    have hlength : lengthWritten (s :: sections) = s.body.length + 1 + lengthWritten sections := by
      rw [lengthWritten, List.flatMap_cons, List.length_append, Section.written, List.length_cons]
    intro h hh
    rw [headings] at hh
    rcases List.mem_cons.mp hh with rfl | hh
    · rw [hlength]
      omega
    · have hlt := ih _ h hh
      rw [Section.written, List.length_cons] at hlt
      omega

/-- A section ends where the next one starts, or with the lines. -/
theorem find_next (i : ℕ) (before after : List Section) (s : Section) :
    (((headings i (before ++ s :: after)).find? fun h =>
        decide (i + lengthWritten before < h.1)).map Prod.fst).getD
          (i + lengthWritten (before ++ s :: after))
      = i + lengthWritten before + s.written.length := by
  have hbefore : (headings i before).find? (fun h => decide (i + lengthWritten before < h.1)) = none := by
    rw [List.find?_eq_none]
    intro h hh
    have hlt := headings_lt i before h hh
    simp only [decide_eq_true_eq]
    omega
  have hpositive : 0 < s.written.length := by
    rw [Section.written, List.length_cons]
    omega
  rw [headings_append, List.find?_append, hbefore, Option.none_or, headings, List.find?_cons_of_neg (by simp)]
  cases after with
  | nil =>
    simp only [headings, List.find?_nil, Option.map_none, Option.getD_none, lengthWritten,
      List.flatMap_append, List.flatMap_cons, List.flatMap_nil, List.append_nil, List.length_append]
    omega
  | cons next after =>
    rw [headings, List.find?_cons_of_pos (by simpa using hpositive)]
    rfl

/-! ### The notes -/

/-- Two sections of one version are the same one. -/
theorem Changelog.unique_version (c : Changelog) {before after : List Section} {s : Section} {version : Str}
    (h : c.sections = before ++ s :: after) (hs : s.version? = some version) :
    some version ∉ before.map Section.version? ∧ some version ∉ after.map Section.version? := by
  have hdistinct := c.distinct
  rw [h, List.filterMap_append, List.filterMap_cons_some hs, List.nodup_middle, List.nodup_cons,
    List.mem_append, not_or] at hdistinct
  simpa only [List.mem_map, List.mem_filterMap] using hdistinct.1

/-- The lines of a changelog that is written out are read back. -/
theorem Changelog.lines_eq (c : Changelog) {text : Str} (h : Written c.written text) :
    lines text = c.written := by
  refine lines_of_written h fun l hl => ?_
  rcases List.mem_cons.mp hl with rfl | hl
  · decide
  · exact c.oneLine l hl

/-- What is found of a version, once the scan is done. -/
theorem extractNotes_eq (c : Changelog) {text : Str} (h : Written c.written text) (version : Str) :
    extractNotes text version = sectionNotes version c.written
      (headings (c.preamble.length + 1) c.sections)
      (positions version (c.preamble.length + 1) c.sections) := by
  have hhead : c.written.head? = some "# Changelog".toList := rfl
  rw [extractNotes, c.lines_eq h, hhead, scan_changelog, ok_bind]
  simp only [failIf, ne_eq, not_true_eq_false, if_false, ok_bind, Option.isSome_none,
    Bool.false_eq_true, findSections_headings c.readable, List.nil_append]

/-- The lines between the heading of a section and the end of the section. -/
theorem take_drop_body {α : Type} (front : List α) (heading : α) (body rest : List α) :
    ((front ++ heading :: (body ++ rest)).take (front.length + (body.length + 1))).drop (front.length + 1)
      = body := by
  have htake : (front ++ heading :: (body ++ rest)).take (front.length + (body.length + 1))
      = front ++ heading :: body := by
    rw [List.take_length_add_append, List.take_succ_cons, List.take_left]
  rw [htake, List.drop_length_add_append, List.drop_succ_cons, List.drop_zero]

/-- The notes are the section's own text, whatever the other sections hold; a version without a
section has no notes. -/
theorem extractNotes_changelog (c : Changelog) {text : Str} (h : Written c.written text) (version : Str) :
    (∀ date body, .release version date body ∈ c.sections → trim isWhiteSpace (joinLines body) ≠ [] →
        extractNotes text version = .ok (trim isWhiteSpace (joinLines body) ++ ['\n'])) ∧
      ((∀ date body, .release version date body ∉ c.sections) →
        ∃ e, extractNotes text version = .error e) := by
  rw [extractNotes_eq c h]
  constructor
  · intro date body hmem hbody
    obtain ⟨before, after, hsections⟩ := List.append_of_mem hmem
    obtain ⟨hbefore, hafter⟩ := c.unique_version hsections rfl
    have hpositions : positions version (c.preamble.length + 1) c.sections
        = [c.preamble.length + 1 + lengthWritten before] := by
      have hversion : (Section.release version date body).version? = some version := rfl
      rw [hsections, positions_append, positions_eq_nil hbefore, positions, if_pos hversion,
        positions_eq_nil hafter, List.nil_append, List.append_nil]
    -- the lines around the body
    have hwritten : c.written = ("# Changelog".toList :: (c.preamble ++ before.flatMap Section.written)) ++
        (Section.release version date body).heading :: (body ++ after.flatMap Section.written) := by
      rw [Changelog.written, hsections, List.flatMap_append, List.flatMap_cons, Section.written,
        List.cons_append, List.cons_append, List.append_assoc]
      rfl
    have hlength : c.written.length = c.preamble.length + 1 + lengthWritten c.sections := by
      rw [Changelog.written, List.length_cons, List.length_append, lengthWritten]
      omega
    have hfront : ("# Changelog".toList :: (c.preamble ++ before.flatMap Section.written)).length
        = c.preamble.length + 1 + lengthWritten before := by
      rw [List.length_cons, List.length_append, lengthWritten]
      omega
    have hstop : (((headings (c.preamble.length + 1) c.sections).find? fun s =>
        decide (c.preamble.length + 1 + lengthWritten before < s.1)).map Prod.fst).getD c.written.length
          = c.preamble.length + 1 + lengthWritten before + (body.length + 1) := by
      rw [hlength, hsections, find_next]
      rfl
    have hbetween := take_drop_body ("# Changelog".toList :: (c.preamble ++ before.flatMap Section.written))
      (Section.release version date body).heading body (after.flatMap Section.written)
    rw [hfront, ← hwritten] at hbetween
    simp only [hpositions, sectionNotes, hstop, hbetween, failIf, if_neg hbody, ok_bind]
  · intro hnone
    have hnot : some version ∉ c.sections.map Section.version? := by
      intro hmem
      obtain ⟨s, hs, hversion⟩ := List.mem_map.mp hmem
      cases s with
      | unreleased body => cases hversion
      | release v date body =>
        cases hversion
        exact hnone date body hs
    rw [positions_eq_nil hnot]
    exact ⟨_, rfl⟩

/-- Sections of which the first shows the heading of another inside a fence. -/
def fencedSections : List Section :=
  [.release "0.2.0".toList "2026-09-17".toList
      ["````".toList, "## [0.1.0] - 2026-01-01".toList, "```".toList, "````".toList],
    .unreleased ["- next".toList],
    .release "0.1.0".toList "2026-02-28".toList [[], "### Added".toList, "- fixture".toList, []]]

theorem fencedSections_readable : ∀ s ∈ fencedSections, s.Readable := by
  intro s hs
  rcases List.mem_cons.mp hs with rfl | hs
  · exact ⟨by decide +kernel, by decide +kernel⟩
  · rcases List.mem_cons.mp hs with rfl | hs
    · exact trivial
    · rw [List.mem_singleton.mp hs]
      exact ⟨by decide +kernel, by decide +kernel⟩

theorem fencedSections_tidy : ∀ s ∈ fencedSections, Tidy s.body := by
  have hdecided : ∀ s ∈ fencedSections, tidyFrom none s.body = true := by decide +kernel
  exact fun s hs => .of_tidyFrom (hdecided s hs)

theorem fencedSections_distinct : (fencedSections.filterMap Section.version?).Nodup := by decide +kernel

theorem fencedSections_oneLine : ∀ l ∈ [] ++ fencedSections.flatMap Section.written, '\n' ∉ l ∧ '\r' ∉ l := by
  decide +kernel

theorem tidy_nil : Tidy [] := .of_tidyFrom rfl

def fencedChangelog : Changelog where
  preamble := []
  sections := fencedSections
  readable := fencedSections_readable
  distinct := fencedSections_distinct
  tidyPreamble := tidy_nil
  tidyBodies := fencedSections_tidy
  oneLine := fencedSections_oneLine

theorem extractNotes_changelog_fenced :
    extractNotes (fencedChangelog.written.flatMap (· ++ ['\n'])) "0.1.0".toList
        = .ok "### Added\n- fixture\n".toList ∧
      ∃ e, extractNotes (fencedChangelog.written.flatMap (· ++ ['\n'])) "0.3.0".toList = .error e := by
  have hwritten : Written fencedChangelog.written (fencedChangelog.written.flatMap (· ++ ['\n'])) :=
    written_feeds _
  have hmem : .release "0.1.0".toList "2026-02-28".toList [[], "### Added".toList, "- fixture".toList, []]
      ∈ fencedChangelog.sections := by
    simp [fencedChangelog, fencedSections]
  have hnot : ∀ date body, .release "0.3.0".toList date body ∉ fencedChangelog.sections := by
    intro date body h
    have hversion := List.mem_map_of_mem (f := Section.version?) h
    revert hversion
    change some "0.3.0".toList ∉ fencedSections.map Section.version?
    decide +kernel
  constructor
  · exact ((extractNotes_changelog fencedChangelog hwritten _).1 _ _ hmem (by decide +kernel)).trans
      (by decide +kernel)
  · exact (extractNotes_changelog fencedChangelog hwritten _).2 hnot

end Xtask
end PgMcp
