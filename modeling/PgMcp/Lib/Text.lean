import Mathlib.Data.List.DropRight
import Mathlib.Tactic

/-!
# Texts as lists of characters

Cutting a text into lines and into words, and trimming it, over lists of characters; what
counts as a blank is a parameter.

## Main definitions

* `trimStart`, `trimEnd`, `trim` — a text without the blanks around it.
* `words` — the maximal runs of characters that are not blank.
* `lines` — the lines of a text, without their endings.
* `Written ls s` — `s` is the lines `ls` written out, each with an ending of its own.

## Main results

* `suffix_last_word` — a suffix without blanks belongs to the last word.
* `head_words` — the first word of a text.
* `lines_of_written` — the lines of a text written out are the lines it was written from.
-/

namespace Text

/-! ### Trimming -/

section Blanks

variable {α : Type} (blank : α → Bool)

/-- The text without its leading blanks. -/
def trimStart (s : List α) : List α := s.dropWhile blank

/-- The text without its trailing blanks. -/
def trimEnd (s : List α) : List α := s.rdropWhile blank

/-- The text without the blanks at either end. -/
def trim (s : List α) : List α := trimEnd blank (trimStart blank s)

/-- The words of a text: what stands between its blanks. -/
def words [DecidableEq α] (s : List α) : List (List α) := (s.splitOnP blank).filter (· ≠ [])

/-- A text that begins with a character that is not blank has no leading blanks. -/
theorem trimStart_cons {c : α} (hc : blank c = false) (s : List α) :
    trimStart blank (c :: s) = c :: s := by
  simp [trimStart, hc]

/-- What a text without separators at its end adds to the pieces: it extends the last one. -/
theorem splitOnP_append_clean {n : List α} (hn : ∀ c ∈ n, blank c = false) (s : List α) :
    ∃ pieces last, s.splitOnP blank = pieces ++ [last] ∧
      (s ++ n).splitOnP blank = pieces ++ [last ++ n] := by
  induction s with
  | nil => exact ⟨[], [], by simp, by simp [List.splitOnP_eq_singleton hn]⟩
  | cons c s ih =>
    obtain ⟨pieces, last, hs, hsn⟩ := ih
    rw [List.cons_append, List.splitOnP_cons_eq_if_modifyHead, List.splitOnP_cons_eq_if_modifyHead,
      hs, hsn]
    by_cases hc : blank c = true
    · exact ⟨[] :: pieces, last, by simp [hc], by simp [hc]⟩
    · -- the character joins the first piece, which is the last one when there is no other
      cases pieces with
      | nil => exact ⟨[], c :: last, by simp [hc], by simp [hc]⟩
      | cons p ps => exact ⟨(c :: p) :: ps, last, by simp [hc], by simp [hc]⟩

/-- A suffix without blanks is a suffix of the last word. -/
theorem suffix_last_word [DecidableEq α] {n s : List α} (hne : n ≠ [])
    (hn : ∀ c ∈ n, blank c = false) (h : n <:+ s) :
    ∃ w, (words blank s).getLast? = some w ∧ n <:+ w := by
  obtain ⟨front, rfl⟩ := h
  obtain ⟨pieces, last, -, hsplit⟩ := splitOnP_append_clean blank hn front
  refine ⟨last ++ n, ?_, List.suffix_append last n⟩
  simp [words, hsplit, List.filter_append, hne]

/-- The first word of a text that begins with one and a blank. -/
theorem head_words [DecidableEq α] {w : List α} (hne : w ≠ []) (hw : ∀ c ∈ w, blank c = false) {b : α}
    (hb : blank b = true) (s : List α) : (words blank (w ++ b :: s)).head? = some w := by
  rw [words, List.splitOnP_append_cons_of_forall_mem hw b hb, List.filter_cons]
  simp [hne]

/-- A word is not empty. -/
theorem ne_nil_of_mem_words [DecidableEq α] {w s : List α} (h : w ∈ words blank s) : w ≠ [] := by
  simpa using (List.mem_filter.mp h).2

end Blanks

/-! ### Lines -/

/-- A line without the carriage return of its ending. -/
def dropReturn (l : List Char) : List Char := if l.getLast? = some '\r' then l.dropLast else l

/-- The lines of a text: what stands before each line feed, less a carriage return just before
it, and what follows the last line feed, when there is anything. -/
def lines (s : List Char) : List (List Char) :=
  let pieces := s.splitOn '\n'
  pieces.dropLast.map dropReturn ++ (pieces.getLast?.toList).filter (· ≠ [])

/-- `s` is the lines `ls` written out: each ended by a line feed, with or without a carriage
return, the last one perhaps by nothing. -/
inductive Written : List (List Char) → List Char → Prop
  | nil : Written [] []
  | unended {l : List Char} (hl : l ≠ []) : Written [l] l
  | feed {l : List Char} {ls : List (List Char)} {s : List Char} (h : Written ls s) :
      Written (l :: ls) (l ++ '\n' :: s)
  | returnFeed {l : List Char} {ls : List (List Char)} {s : List Char} (h : Written ls s) :
      Written (l :: ls) (l ++ '\r' :: '\n' :: s)

/-- The lines are written out with a line feed after each. -/
theorem written_feeds (ls : List (List Char)) : Written ls (ls.flatMap (· ++ ['\n'])) := by
  induction ls with
  | nil => exact .nil
  | cons l ls ih => simpa using ih.feed

theorem dropReturn_of_notMem {l : List Char} (h : '\r' ∉ l) : dropReturn l = l := by
  unfold dropReturn
  split
  · next hlast => exact absurd (List.mem_of_getLast? hlast) h
  · rfl

theorem dropReturn_append (l : List Char) : dropReturn (l ++ ['\r']) = l := by
  simp [dropReturn]

/-- The first line of a text ends at the first line feed. -/
theorem lines_append_feed {l : List Char} (hl : '\n' ∉ l) (s : List Char) :
    lines (l ++ '\n' :: s) = dropReturn l :: lines s := by
  have hne : s.splitOn '\n' ≠ [] := List.splitOn_ne_nil '\n' s
  unfold lines
  rw [List.splitOn_append_cons_self_of_not_mem hl]
  obtain ⟨p, ps, hps⟩ := List.exists_cons_of_ne_nil hne
  simp [hps]

/-- The lines of a text written out are those it was written from, when none of them holds a
character of a line ending. -/
theorem lines_of_written {ls : List (List Char)} {s : List Char} (h : Written ls s)
    (clean : ∀ l ∈ ls, '\n' ∉ l ∧ '\r' ∉ l) : lines s = ls := by
  induction h with
  | nil => rfl
  | @unended l hl =>
    have hclean := clean l (List.mem_singleton.mpr rfl)
    simp [lines, List.splitOn_eq_singleton hclean.1, hl]
  | @feed l ls s _ ih =>
    have hclean := clean l List.mem_cons_self
    rw [lines_append_feed hclean.1, dropReturn_of_notMem hclean.2,
      ih fun l' hl' => clean l' (List.mem_cons_of_mem l hl')]
  | @returnFeed l ls s _ ih =>
    have hclean := clean l List.mem_cons_self
    have hline : '\n' ∉ l ++ ['\r'] := by simpa using hclean.1
    rw [← List.singleton_append (x := '\r'), ← List.append_assoc, lines_append_feed hline,
      dropReturn_append, ih fun l' hl' => clean l' (List.mem_cons_of_mem l hl')]

end Text
