import PgMcp.Json
import PgMcp.Lib.Ordered

/-!
# The size of canonical JSON

The length of a canonical text is computed from the lengths of its parts: reordering the
members of an object does not change it.

## Main results

* `canonicalJsonBytes_arr`, `canonicalJsonBytes_obj` — the length of an array and of an
  object, whatever the order its members were inserted in.
-/

namespace PgMcp.Json

open Ordered

theorem utf8_injective : Function.Injective utf8 := by
  intro a b h
  unfold utf8 at h
  exact String.toByteArray_inj.mp (ByteArray.ext (Array.toList_inj.mp h))

/-- The length of a string literal. -/
def quotedBytes (s : String) : ℕ := (quote s).utf8ByteSize

theorem canonicalizeItems_eq (items : List Json) : canonicalizeItems items = items.map canonicalize := by
  induction items with
  | nil => rfl
  | cons v items ih => rw [canonicalizeItems, ih, List.map_cons]

theorem canonicalizeMembers_eq (members : List (String × Json)) :
    canonicalizeMembers members = members.map fun m => (m.1, canonicalize m.2) := by
  induction members with
  | nil => rfl
  | cons m members ih => rw [canonicalizeMembers, ih, List.map_cons]

theorem utf8ByteSize_encodeItems (items : List Json) :
    (encodeItems items).utf8ByteSize = separated (items.map fun v => v.encode.utf8ByteSize) := by
  induction items with
  | nil => rfl
  | cons v items ih =>
    cases items with
    | nil => simp [encodeItems]
    | cons w items =>
      rw [encodeItems, String.utf8ByteSize_append, String.utf8ByteSize_append, ih]
      simp only [List.map_cons, separated_cons_cons]
      rfl

/-- The length of a member. -/
def memberBytes (m : String × Json) : ℕ := quotedBytes m.1 + 1 + m.2.encode.utf8ByteSize

theorem utf8ByteSize_encodeMembers (members : List (String × Json)) :
    (encodeMembers members).utf8ByteSize = separated (members.map memberBytes) := by
  induction members with
  | nil => rfl
  | cons m members ih =>
    have hmember : (quote m.1 ++ ":" ++ m.2.encode).utf8ByteSize = memberBytes m := by
      rw [String.utf8ByteSize_append, String.utf8ByteSize_append]
      rfl
    cases members with
    | nil => simpa [encodeMembers] using hmember
    | cons m' members =>
      rw [encodeMembers, String.utf8ByteSize_append, String.utf8ByteSize_append, ih, hmember]
      simp only [List.map_cons, separated_cons_cons]
      rfl

theorem perm_sortMembers (members : List (String × Json)) : (sortMembers members).Perm members :=
  List.perm_insertionSort _ _

theorem brackets (n : ℕ) : 1 + n + 1 = 2 + n := by omega

@[simp] theorem canonicalJsonBytes_null : canonicalJsonBytes .null = 4 := by decide

@[simp] theorem canonicalJsonBytes_str (s : String) : canonicalJsonBytes (.str s) = quotedBytes s := rfl

theorem canonicalJsonBytes_arr (items : List Json) :
    canonicalJsonBytes (.arr items) = 2 + separated (items.map canonicalJsonBytes) := by
  unfold canonicalJsonBytes canonicalJson
  rw [canonicalize, encode, String.utf8ByteSize_append, String.utf8ByteSize_append,
    utf8ByteSize_encodeItems, canonicalizeItems_eq, List.map_map]
  exact brackets _

theorem canonicalJsonBytes_obj (members : List (String × Json)) :
    canonicalJsonBytes (.obj members) =
      2 + separated (members.map fun m => quotedBytes m.1 + 1 + canonicalJsonBytes m.2) := by
  unfold canonicalJsonBytes canonicalJson
  rw [canonicalize, encode, String.utf8ByteSize_append, String.utf8ByteSize_append,
    utf8ByteSize_encodeMembers,
    separated_perm ((perm_sortMembers _).map memberBytes), canonicalizeMembers_eq, List.map_map]
  exact brackets _

/-! ### String literals -/

theorem utf8ByteSize_ofList_le (l : List Char) : (String.ofList l).utf8ByteSize ≤ 4 * l.length := by
  induction l with
  | nil => simp
  | cons c l ih =>
    have hc : (String.ofList [c]).utf8ByteSize ≤ 4 := by simp [Char.utf8Size_le_four]
    rw [← List.singleton_append, String.ofList_append, String.utf8ByteSize_append,
      List.length_append, List.length_singleton]
    omega

theorem utf8ByteSize_join (texts : List String) :
    (String.join texts).utf8ByteSize = (texts.map String.utf8ByteSize).sum := by
  induction texts with
  | nil => rfl
  | cons t texts ih => rw [String.join_cons, String.utf8ByteSize_append, ih, List.map_cons, List.sum_cons]

theorem quotedBytes_eq (s : String) :
    quotedBytes s = 2 + (s.toList.map fun c => (escape c).utf8ByteSize).sum := by
  unfold quotedBytes quote
  rw [String.utf8ByteSize_append, String.utf8ByteSize_append, utf8ByteSize_join, List.map_map]
  exact brackets _

/-- A digit is written as it is. -/
theorem utf8ByteSize_escape_digit {c : Char} (h : c.isDigit = true) : (escape c).utf8ByteSize = 1 := by
  obtain ⟨hlow, hhigh⟩ : 48 ≤ c.toNat ∧ c.toNat ≤ 57 := Char.isDigit_iff_toNat.mp h
  have hquote : c ≠ '"' := by
    rintro rfl
    exact absurd hlow (by decide)
  have hslash : c ≠ '\\' := by
    rintro rfl
    exact absurd hhigh (by decide)
  have hplain : escape c = String.ofList [c] := by
    unfold escape
    rw [if_neg hquote, if_neg hslash, if_neg (by omega), if_neg (by omega), if_neg (by omega),
      if_neg (by omega), if_neg (by omega), if_neg (by omega)]
  rw [hplain]
  have hsize : c.utf8Size = 1 := Char.utf8Size_eq_one_iff.mpr (by
    rw [UInt32.le_iff_toNat_le]
    show c.toNat ≤ 127
    omega)
  simpa using hsize

/-- The length of the literal of a decimal text. -/
theorem quotedBytes_digits {s : String} (h : s.toList.all Char.isDigit = true) :
    quotedBytes s = 2 + s.length := by
  rw [quotedBytes_eq, List.map_congr_left fun c hc => utf8ByteSize_escape_digit (List.all_eq_true.mp h c hc)]
  simp [String.length_toList]

end PgMcp.Json
