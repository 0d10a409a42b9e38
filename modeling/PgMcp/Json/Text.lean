import PgMcp.Json.Canonical
import PgMcp.Lib.Codes

/-!
# Reading a JSON text back

The compact text of a value is the text of no other value, as long as its numbers are written with
the letters of numbers.  So the canonical text of a document tells the document up to the order of
members: nothing that is sent as text can be taken for something else.

## Main definitions

* `Numeric` — every number is written with the letters of numbers.
* `unescape` — takes one character off a string literal.

## Main results

* `encode_readsAs` — a text that starts with that of a value starts with that of no other value.
* `canonicalJson_eq_iff` — equal canonical texts are those of reorderings.
-/

namespace PgMcp.Json

open Code

/-! ### String literals -/

/-- The character with that code. -/
def hexVal (c : Char) : ℕ := if c.isDigit then c.toNat - 48 else c.toNat - 87

/-- Take one character off the inside of a string literal. -/
def unescape : List Char → Option (Char × List Char)
  | '\\' :: 'u' :: '0' :: '0' :: h :: l :: rest => some (Char.ofNat (16 * hexVal h + hexVal l), rest)
  | '\\' :: 'b' :: rest => some (Char.ofNat 8, rest)
  | '\\' :: 't' :: rest => some (Char.ofNat 9, rest)
  | '\\' :: 'n' :: rest => some (Char.ofNat 10, rest)
  | '\\' :: 'f' :: rest => some (Char.ofNat 12, rest)
  | '\\' :: 'r' :: rest => some (Char.ofNat 13, rest)
  | '\\' :: c :: rest => some (c, rest)
  | c :: rest => some (c, rest)
  | [] => none

theorem unescape_cons {c : Char} (h : c ≠ '\\') (rest : List Char) :
    unescape (c :: rest) = some (c, rest) := by
  unfold unescape
  split <;> simp_all

theorem hexVal_digitChar : ∀ d < 16, hexVal (Nat.digitChar d) = d := by decide

theorem Char.eq_ofNat {c : Char} {n : ℕ} (h : c.toNat = n) : c = Char.ofNat n := by
  rw [← h, Char.ofNat_toNat]

theorem unescape_escape (c : Char) (rest : List Char) :
    unescape ((escape c).toList ++ rest) = some (c, rest) := by
  unfold escape
  split
  · next h => rw [h]; rfl
  split
  · next h => rw [h]; rfl
  split
  · next h => rw [Char.eq_ofNat h]; rfl
  split
  · next h => rw [Char.eq_ofNat h]; rfl
  split
  · next h => rw [Char.eq_ofNat h]; rfl
  split
  · next h => rw [Char.eq_ofNat h]; rfl
  split
  · next h => rw [Char.eq_ofNat h]; rfl
  split
  · next h =>
    -- a control character is written with two digits
    have hhigh := hexVal_digitChar (c.toNat / 16) (by omega)
    have hlow := hexVal_digitChar (c.toNat % 16) (by omega)
    have hchar : Char.ofNat (16 * (c.toNat / 16) + c.toNat % 16) = c := by
      rw [Nat.div_add_mod, Char.ofNat_toNat]
    rw [String.toList_append, hexByte, String.toList_ofList, String.toList_ofList]
    show unescape ('\\' :: 'u' :: '0' :: '0' :: _ :: _ :: rest) = _
    rw [unescape, hhigh, hlow, hchar]
  · next hquote hslash _ _ _ _ _ _ =>
    rw [String.toList_ofList, List.singleton_append]
    exact unescape_cons hslash rest

theorem escape_head (c : Char) : ∃ d l, (escape c).toList = d :: l ∧ d ≠ '"' := by
  unfold escape
  repeat' split
  all_goals first
    | exact ⟨'\\', _, rfl, by decide⟩
    | skip
  · rw [String.toList_append]
    exact ⟨'\\', _, rfl, by decide⟩
  · next hquote _ _ _ _ _ _ _ => exact ⟨c, [], String.toList_ofList, hquote⟩

/-- The letters of a string literal. -/
def literal (s : String) : List Char := (quote s).toList

theorem toList_join (texts : List String) : (String.join texts).toList = texts.flatMap String.toList := by
  induction texts with
  | nil => rfl
  | cons t texts ih => rw [String.join_cons, String.toList_append, ih, List.flatMap_cons]

theorem literal_eq (s : String) :
    literal s = '"' :: ((s.toList.flatMap fun c => (escape c).toList) ++ ['"']) := by
  rw [literal, quote, String.toList_append, String.toList_append, toList_join, List.flatMap_map]
  rfl

/-- A string literal stands for one string, whatever comes after it. -/
theorem literal_readsAs (s : String) : ReadsAs (fun _ => True) (fun _ => True) literal s := by
  intro s' r r' _ _ _ heq
  rw [literal_eq, literal_eq, List.cons_append, List.cons_append, List.append_assoc, List.append_assoc] at heq
  obtain ⟨hchars, hr⟩ := closed_inj (Q := fun _ => True) (fun c _ => escape_head c)
    (fun c _ => .of_reader (fun d rest _ => unescape_escape d rest) trivial)
    (fun _ _ => trivial) (fun _ _ => trivial) (List.cons.inj heq).2
  exact ⟨String.toList_inj.mp hchars, hr⟩

/-! ### Numbers -/

/-- The letters numbers are written with. -/
def isNumberLetter (c : Char) : Bool := c.isDigit || c == '-' || c == '+' || c == '.' || c == 'e' || c == 'E'

/-- A text a number may be written with. -/
def IsNumber (text : String) : Prop := text ≠ "" ∧ ∀ c ∈ text.toList, isNumberLetter c = true

theorem isNumber_toString (n : ℕ) : IsNumber (toString n) := by
  have hlist : (toString n).toList = Nat.toDigits 10 n := Nat.toList_repr
  constructor
  · intro hempty
    rw [hempty] at hlist
    exact Nat.toDigits_ne_nil hlist.symm
  · intro c hc
    rw [hlist] at hc
    have hdigit : c.isDigit = true := Nat.isDigit_of_mem_toDigits (by decide) (by decide) hc
    rw [isNumberLetter, hdigit]
    rfl

/-- Every number is written with the letters of numbers. -/
inductive Numeric : Json → Prop where
  | null : Numeric .null
  | bool (b : Bool) : Numeric (.bool b)
  | num {text : String} (number : IsNumber text) : Numeric (.num text)
  | str (s : String) : Numeric (.str s)
  | arr {items : List Json} (each : ∀ v ∈ items, Numeric v) : Numeric (.arr items)
  | obj {members : List (String × Json)} (each : ∀ m ∈ members, Numeric m.2) : Numeric (.obj members)

theorem Numeric.nat (n : ℕ) : Numeric (.nat n) := .num (isNumber_toString n)

theorem Numeric.optStr (s : Option String) : Numeric (.optStr s) := by
  cases s with
  | none => exact .null
  | some s => exact .str s

/-! ### The text of a value -/

/-- The letters of the compact text. -/
def text (v : Json) : List Char := (encode v).toList

/-- The letters of a member. -/
def memberText (m : String × Json) : List Char := literal m.1 ++ ':' :: text m.2

theorem text_arr (items : List Json) : text (.arr items) = '[' :: (joined ',' text items ++ [']']) := by
  have hitems : ∀ items : List Json, (encodeItems items).toList = joined ',' text items := by
    intro items
    induction items with
    | nil => rfl
    | cons v items ih =>
      cases items with
      | nil => rfl
      | cons w items =>
        rw [encodeItems, String.toList_append, String.toList_append, ih, joined, List.append_assoc]
        rfl
  rw [text, encode, String.toList_append, String.toList_append, hitems]
  rfl

theorem text_obj (members : List (String × Json)) :
    text (.obj members) = '\x7b' :: (joined ',' memberText members ++ ['\x7d']) := by
  have hmember : ∀ m : String × Json, (quote m.1 ++ ":" ++ encode m.2).toList = memberText m := by
    intro m
    rw [String.toList_append, String.toList_append, List.append_assoc]
    rfl
  have hmembers : ∀ members : List (String × Json),
      (encodeMembers members).toList = joined ',' memberText members := by
    intro members
    induction members with
    | nil => rfl
    | cons m members ih =>
      cases members with
      | nil => exact hmember m
      | cons m' members =>
        rw [encodeMembers, String.toList_append, String.toList_append, ih, hmember, joined,
          List.append_assoc]
        rfl
  rw [text, encode, String.toList_append, String.toList_append, hmembers]
  rfl

/-- What may stand after a value in a text. -/
def afterValue (c : Char) : Prop := c = ',' ∨ c = ']' ∨ c = '\x7d'

/-- The kind of value a text starts with, by its first letter. -/
def kindOf (c : Char) : ℕ :=
  if isNumberLetter c then 1
  else if c = 'n' then 2
  else if c = 't' then 3
  else if c = 'f' then 4
  else if c = '"' then 5
  else if c = '[' then 6
  else if c = '\x7b' then 7
  else 0

def kind : Json → ℕ
  | .num _ => 1
  | .null => 2
  | .bool true => 3
  | .bool false => 4
  | .str _ => 5
  | .arr _ => 6
  | .obj _ => 7

/-- The first letter tells the kind of the value. -/
theorem text_head {v : Json} (hv : Numeric v) : ∃ c l, text v = c :: l ∧ kindOf c = kind v := by
  cases hv with
  | null => exact ⟨'n', _, rfl, by decide⟩
  | bool b =>
    cases b with
    | true => exact ⟨'t', _, rfl, by decide⟩
    | false => exact ⟨'f', _, rfl, by decide⟩
  | num number =>
    obtain ⟨hne, hletters⟩ := number
    rename_i t
    cases h : t.toList with
    | nil => exact absurd (String.toList_eq_nil_iff.mp h) hne
    | cons c l =>
      refine ⟨c, l, h, ?_⟩
      rw [kindOf, if_pos (hletters c (h ▸ List.mem_cons_self))]
      rfl
  | str s => exact ⟨'"', _, literal_eq s, rfl⟩
  | arr each => exact ⟨'[', _, text_arr _, rfl⟩
  | obj each => exact ⟨'\x7b', _, text_obj _, rfl⟩

theorem kind_of_text {v w : Json} (hv : Numeric v) (hw : Numeric w) {r s : List Char}
    (h : text v ++ r = text w ++ s) : kind v = kind w := by
  obtain ⟨c, l, hc, hkind⟩ := text_head hv
  obtain ⟨d, l', hd, hkind'⟩ := text_head hw
  rw [hc, hd] at h
  rw [← hkind, ← hkind', (List.cons.inj h).1]

/-- No value starts with a letter that closes one. -/
theorem text_open {v : Json} (hv : Numeric v) : ∃ c l, text v = c :: l ∧ c ≠ ']' := by
  obtain ⟨c, l, hc, hkind⟩ := text_head hv
  refine ⟨c, l, hc, ?_⟩
  rintro rfl
  cases v with
  | bool b => cases b <;> cases hkind
  | _ => cases hkind

theorem memberText_open (m : String × Json) : ∃ c l, memberText m = c :: l ∧ c ≠ '\x7d' :=
  ⟨'"', _, by rw [memberText, literal_eq, List.cons_append], by decide⟩

theorem memberText_readsAs {m : String × Json} (h : ReadsAs Numeric afterValue text m.2) :
    ReadsAs (fun m : String × Json => Numeric m.2) afterValue memberText m := by
  intro m' r s hm' hr hs heq
  rw [memberText, memberText, List.append_assoc, List.append_assoc] at heq
  obtain ⟨hkey, hrest⟩ := literal_readsAs m.1 m'.1 _ _ trivial (.cons trivial _) (.cons trivial _) heq
  obtain ⟨hvalue, hrs⟩ := h m'.2 r s hm' hr hs (List.cons.inj hrest).2
  exact ⟨Prod.ext hkey hvalue, hrs⟩

/-- A text that starts with that of a value starts with that of no other value. -/
theorem encode_readsAs {v : Json} (hv : Numeric v) : ReadsAs Numeric afterValue text v := by
  induction v using induct with
  | null =>
    intro w r s hw _ _ heq
    have hkind := kind_of_text hv hw heq
    cases w with
    | null => exact ⟨rfl, List.append_cancel_left heq⟩
    | bool b => cases b <;> cases hkind
    | _ => cases hkind
  | bool b =>
    intro w r s hw _ _ heq
    have hkind := kind_of_text hv hw heq
    cases w with
    | bool b' =>
      have hb : b = b' := by cases b <;> cases b' <;> first | rfl | cases hkind
      subst hb
      exact ⟨rfl, List.append_cancel_left heq⟩
    | _ => cases b <;> cases hkind
  | num t =>
    intro w r s hw hr hs heq
    have hkind := kind_of_text hv hw heq
    cases hv with
    | num number =>
      cases hw with
      | num number' =>
        -- a number goes on as long as its letters do
        have hstop : ∀ c, afterValue c → isNumberLetter c = false := by
          rintro c (rfl | rfl | rfl) <;> rfl
        obtain ⟨htext, hrest⟩ := ReadsAs.span isNumberLetter number.2 _ r s number'.2 (hr.mono hstop)
          (hs.mono hstop) heq
        exact ⟨congrArg Json.num (String.toList_inj.mp htext), hrest⟩
      | bool b => cases b <;> cases hkind
      | _ => cases hkind
  | str x =>
    intro w r s hw _ _ heq
    have hkind := kind_of_text hv hw heq
    cases w with
    | str y =>
      obtain ⟨hxy, hrest⟩ := literal_readsAs x y r s trivial (.mono (fun _ _ => trivial) ‹_›)
        (.mono (fun _ _ => trivial) ‹_›) heq
      exact ⟨congrArg Json.str hxy, hrest⟩
    | bool b => cases b <;> cases hkind
    | _ => cases hkind
  | arr items ih =>
    intro w r s hw _ _ heq
    have hkind := kind_of_text hv hw heq
    cases hv with
    | arr each =>
      cases hw with
      | @arr items' each' =>
        rw [text_arr, text_arr, List.cons_append, List.cons_append, List.append_assoc,
          List.append_assoc] at heq
        obtain ⟨hitems, hrest⟩ := joined_inj (by decide) (.inl rfl) (.inr (.inl rfl))
          (fun v hv => text_open hv) (fun v hv => ih v hv (each v hv)) each each' (List.cons.inj heq).2
        exact ⟨congrArg Json.arr hitems, hrest⟩
      | bool b => cases b <;> cases hkind
      | _ => cases hkind
  | obj members ih =>
    intro w r s hw _ _ heq
    have hkind := kind_of_text hv hw heq
    cases hv with
    | obj each =>
      cases hw with
      | @obj members' each' =>
        rw [text_obj, text_obj, List.cons_append, List.cons_append, List.append_assoc,
          List.append_assoc] at heq
        obtain ⟨hmembers, hrest⟩ := joined_inj (by decide) (.inl rfl) (.inr (.inr rfl))
          (fun m _ => memberText_open m) (fun m hm => memberText_readsAs (ih m hm (each m hm))) each each'
          (List.cons.inj heq).2
        exact ⟨congrArg Json.obj hmembers, hrest⟩
      | bool b => cases b <;> cases hkind
      | _ => cases hkind

/-- The compact text of a value is that of no other value. -/
theorem encode_injective {v w : Json} (hv : Numeric v) (hw : Numeric w) (h : encode v = encode w) :
    v = w := by
  have htext : text v ++ [] = text w ++ [] := by rw [text, text, h]
  exact (encode_readsAs hv w [] [] hw trivial trivial htext).1

theorem numeric_canonicalize {v : Json} (hv : Numeric v) : Numeric (canonicalize v) := by
  induction v using induct with
  | arr items ih =>
    cases hv with
    | arr each =>
      rw [canonicalize_arr]
      refine .arr fun w hw => ?_
      obtain ⟨v, hmem, rfl⟩ := List.mem_map.mp hw
      exact ih v hmem (each v hmem)
  | obj members ih =>
    cases hv with
    | obj each =>
      rw [canonicalize_obj]
      refine .obj fun m' hm' => ?_
      obtain ⟨m, hmem, rfl⟩ := List.mem_map.mp ((perm_sortMembers _).mem_iff.mp hm')
      exact ih m hmem (each m hmem)
  | _ => exact hv

/-- Documents have the same canonical text exactly when they differ only in the order of members. -/
theorem canonicalJson_eq_iff {v w : Json} (hv : Numeric v) (hw : Numeric w) (hdistinct : v.DistinctKeys) :
    canonicalJson v = canonicalJson w ↔ Reordered v w := by
  constructor
  · intro h
    apply reordered_of_canonicalize_eq
    exact encode_injective (numeric_canonicalize hv) (numeric_canonicalize hw) h
  · intro h
    rw [canonicalJson, canonicalJson, h.canonicalize_eq hdistinct]

end PgMcp.Json
