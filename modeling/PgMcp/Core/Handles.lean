import PgMcp.Core.Limits

/-!
# Handle ids

A handle id is `h-` and the sixteen hexadecimal digits of the counter.  Ids of one length
compare by their first different digit, so that they are ordered as the counters are, both
as texts and by their UTF-8 bytes.  As long as the counter has not run out, the opens are
given the ids `1`, `2`, `3`, … in this order, and what is inserted into the registry has a
key that is not there.

## Main definitions

* `Server.allocated` — the ids a run has given to its opens, in the order of the reservations.
* `Label.InsertsNew` — the step overwrites no entry of the registry.

## Main results

* `utf8_handleName_lt`, `handleName_lt` — ids are ordered as their counters are.
* `allocated_eq` — the ids are those of the counters from `1` on.
* `allocated_of_run` — ids are fresh and ordered, and nothing is overwritten.
-/

namespace PgMcp

open Program

/-! ### The order of the ids -/

section Digits

variable {α : Type} [LT α]

/-- Texts of one length compare by their beginnings first. -/
theorem append_lt_append {a b c d : List α} (hlength : a.length = b.length) (h : a < b) :
    a ++ c < b ++ d := by
  induction a generalizing b with
  | nil =>
    cases b with
    | nil => exact absurd h (List.not_lt_nil [])
    | cons y b => cases hlength
  | cons x a ih =>
    cases b with
    | nil => cases hlength
    | cons y b =>
      rw [List.cons_append, List.cons_append, List.cons_lt_cons_iff]
      rcases List.cons_lt_cons_iff.mp h with hhead | ⟨rfl, htail⟩
      · exact .inl hhead
      · exact .inr ⟨rfl, ih (Nat.succ.inj hlength) htail⟩

@[simp] theorem length_hexDigits (width n : ℕ) : (hexDigits width n).length = width := by
  induction width generalizing n with
  | zero => rfl
  | succ width ih => rw [hexDigits, List.length_append, ih, List.length_singleton]

/-- A larger number has larger digits, where larger digits are written larger. -/
theorem hexDigits_lt (f : Char → α)
    (hdigit : ∀ n < 16, ∀ m < n, f (Nat.digitChar m) < f (Nat.digitChar n)) (width : ℕ) {m n : ℕ}
    (h : m < n) (hn : n < 16 ^ width) : (hexDigits width m).map f < (hexDigits width n).map f := by
  induction width generalizing m n with
  | zero =>
    rw [pow_zero] at hn
    omega
  | succ width ih =>
    rw [hexDigits, hexDigits, List.map_append, List.map_append]
    rcases Nat.lt_or_ge (m / 16) (n / 16) with hhigh | hhigh
    · refine append_lt_append (by simp) (ih hhigh ?_)
      rw [pow_succ] at hn
      omega
    · -- the digits above are the same
      have hsame : m / 16 = n / 16 := by omega
      rw [hsame]
      refine List.append_left_lt (List.cons_lt_cons_iff.mpr (.inl ?_))
      exact hdigit _ (Nat.mod_lt n (by omega)) _ (by omega)

end Digits

theorem u64Max_lt_pow : u64Max < 16 ^ 16 := by
  rw [u64Max_eq]
  decide

theorem toList_handleName (n : ℕ) : (handleName n).toList = ['h', '-'] ++ hexDigits 16 n := by
  simp [handleName]

/-- The bytes of a text are those of its characters. -/
theorem utf8_eq_flatMap (s : String) : Json.utf8 s = s.toList.flatMap String.utf8EncodeChar := by
  unfold Json.utf8
  rw [String.toUTF8, ← String.utf8Encode_toList, List.utf8Encode, List.data_toByteArray]

theorem utf8EncodeChar_digitChar :
    ∀ n < 16, String.utf8EncodeChar (Nat.digitChar n) = [(Nat.digitChar n).val.toUInt8] := by
  decide

/-- The bytes of an id. -/
theorem utf8_handleName (n : ℕ) : Json.utf8 (handleName n) =
    ['h', '-'].flatMap String.utf8EncodeChar ++ (hexDigits 16 n).map fun c => c.val.toUInt8 := by
  have hdigits : ∀ width m, (hexDigits width m).flatMap String.utf8EncodeChar =
      (hexDigits width m).map fun c => c.val.toUInt8 := by
    intro width m
    induction width generalizing m with
    | zero => rfl
    | succ width ih =>
      rw [hexDigits, List.flatMap_append, List.map_append, ih, List.flatMap_singleton]
      exact congrArg _ (utf8EncodeChar_digitChar (m % 16) (Nat.mod_lt m (by omega)))
  rw [← hdigits, ← List.flatMap_append, ← toList_handleName, utf8_eq_flatMap]

/-- Ids are ordered as their counters are. -/
theorem handleName_lt {m n : ℕ} (h : m < n) (hn : n ≤ u64Max) : handleName m < handleName n := by
  rw [String.lt_iff_toList_lt, toList_handleName, toList_handleName]
  refine List.append_left_lt ?_
  have hdigits := hexDigits_lt id (by decide) 16 h (hn.trans_lt u64Max_lt_pow)
  rwa [List.map_id, List.map_id] at hdigits

/-- The bytes of ids are ordered as their counters are. -/
theorem utf8_handleName_lt {m n : ℕ} (h : m < n) (hn : n ≤ u64Max) :
    Json.utf8 (handleName m) < Json.utf8 (handleName n) := by
  rw [utf8_handleName, utf8_handleName]
  exact List.append_left_lt
    (hexDigits_lt (fun c => c.val.toUInt8) (by decide) 16 h (hn.trans_lt u64Max_lt_pow))

/-! ### What a run allocates -/

namespace Server

variable {core : Core} {s t : Server} {ls : List Label} {l : Label}

/-- The id given to an open in a step. -/
def Label.allocates (l : Label) : Option String :=
  match l.action with
  | .reserve _ _ (.ok reservation) => some reservation.id
  | _ => none

/-- The ids given to the opens of a run, in the order of the reservations. -/
def allocated (ls : List Label) : List String := ls.filterMap Label.allocates

/-- What the step inserts into the registry has a key that is not there. -/
def Label.InsertsNew (l : Label) : Prop :=
  match l.action with
  | .reserve _ _ (.ok reservation) => reservation.id ∉ l.before.registry.pendingOpens
  | .publish k true => ∀ c, l.before.opens.lookup k = some c →
      c.reservation.id ∉ l.before.registry.handles
  | _ => True

theorem allocated_append (ls : List Label) (l : Label) :
    allocated (ls ++ [l]) = allocated ls ++ l.allocates.toList := by
  unfold allocated
  rw [List.filterMap_append]
  cases h : l.allocates <;> simp [h]

/-- A reservation takes the id of the counter. -/
theorem Acts.allocates (h : Acts core s l t) :
    l.allocates = if l.granted then some (handleName s.registry.nextHandle) else none := by
  obtain ⟨-, -, step⟩ := h
  unfold Label.allocates Label.granted
  revert step
  generalize l.action = a
  intro step
  cases step with
  | reserved k profile reservation r free fresh result =>
    obtain ⟨config, -, -, -, rfl, -⟩ := Core.reserveOpen_ok result
    rfl
  | _ => rfl

/-- The ids are those of the counters from `1` on. -/
theorem allocated_eq (run : Run (Acts core) new ls s) (hbound : reservations ls ≤ u64Max) :
    allocated ls = (List.range' 1 (reservations ls)).map handleName := by
  induction run with
  | nil => rfl
  | @snoc t u ls l run last ih =>
    have hle := (reservations_le_of_append ls [l]).trans hbound
    rw [reservations_append] at hbound ⊢
    rw [allocated_append, ih hle, last.allocates]
    cases hgranted : l.granted with
    | false => simp
    | true =>
      rw [hgranted] at hbound
      change reservations ls + 1 ≤ u64Max at hbound
      have hnext : t.registry.nextHandle = 1 + reservations ls := by
        rw [(booked_of_run run hle).next, length_of_run run]
        omega
      rw [Bool.toNat_true, List.range'_concat, List.map_append, hnext, Nat.one_mul]
      rfl

/-- A step of a run with room for its reservation overwrites nothing. -/
theorem Booked.insertsNew (hs : l.before.Booked) (step : Step core l.before l.action l.after)
    (hroom : l.before.Roomy l.action) : l.InsertsNew := by
  unfold Label.InsertsNew
  revert step hroom
  generalize l.action = a
  generalize l.after = t
  intro step hroom
  cases step with
  | reserved k profile reservation r free fresh result =>
    obtain ⟨config, -, -, -, rfl, -⟩ := Core.reserveOpen_ok result
    exact hs.next_unreserved hroom
  | published k c config published r free call stage result =>
    intro d hd
    rw [call, Option.some.injEq] at hd
    subst hd
    exact hs.unregistered call (by rw [stage]; rfl)
  | _ => trivial

/-- As long as the counter has not run out, the ids of a run are pairwise different, their
order is that of the reservations, and no entry of the registry is overwritten. -/
theorem allocated_of_run (run : Run (Acts core) new ls s) (hbound : reservations ls ≤ u64Max) :
    (allocated ls).Pairwise (fun id id' => id ≠ id' ∧ id < id' ∧ Json.utf8 id < Json.utf8 id') ∧
      ∀ l ∈ ls, l.InsertsNew := by
  constructor
  · rw [allocated_eq run hbound, List.pairwise_map]
    refine (List.pairwise_lt_range' 1).imp_of_mem fun {m n} _ hn hlt => ?_
    have hmax : n ≤ u64Max := by
      rw [List.mem_range'_1] at hn
      omega
    have hless := handleName_lt hlt hmax
    exact ⟨ne_of_lt hless, hless, utf8_handleName_lt hlt hmax⟩
  · intro l hl
    obtain ⟨booked, step, hroom⟩ := roomy_of_run run hbound l hl
    exact booked.insertsNew step hroom

/-- Two opens, one after the other. -/
theorem allocated_of_run_two : ∃ ls s, Run (Acts localProfile) new ls s ∧
    allocated ls = ["h-0000000000000001", "h-0000000000000002"] ∧ reservations ls ≤ u64Max ∧
      ∀ l ∈ ls, l.InsertsNew := by
  have htwo : (2 : ℕ) ≤ u64Max := by
    rw [u64Max_eq]
    decide
  have hfirst := @admits_new localProfile "local" _ (by decide) localProfile_admissionConfig
  have run := hfirst.reserve.run
  have hb : Booked _ := booked_of_run run (Nat.le_of_lt htwo)
  have hsecond : Admits localProfile _ 1 "local" _ :=
    { free := rfl
      running := rfl
      fresh := by decide
      named := by decide
      limits := localProfile_admissionConfig
      room := by decide
      unreserved := hb.next_unreserved (by rw [length_of_run run]; exact htwo) }
  have runs := run.append hsecond.reserve.run
  have hids : (List.range' 1 2).map handleName = ["h-0000000000000001", "h-0000000000000002"] := by
    decide
  exact ⟨_, _, runs, (allocated_eq runs htwo).trans hids, htwo, (allocated_of_run runs htwo).2⟩

end Server

end PgMcp
