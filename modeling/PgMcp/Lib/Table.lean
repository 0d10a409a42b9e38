import Mathlib.Data.List.AList
import Mathlib.Data.List.Sort
import Mathlib.Tactic

/-!
# Finite maps

A table is an association list without duplicate keys, read in the order of its keys.
What is counted in a table is the number of its values with a property: inserting and
erasing a key move the count by at most one, and a change of a value that leaves the
property alone does not move it.

## Main definitions

* `Table` — the maps.
* `Table.sortedKeys`, `Table.values` — the keys and the values, in the order of the keys.
* `Table.modify` — change the value of a key that is there.
* `Table.count` — how many values have a property.
* `Table.view` — the table as seen through a function of its values.
* `Table.part` — the values with a property.

## Main results

* `Table.lookup_modify` — what a change of one value does to every key.
* `Table.count_insert`, `Table.count_erase` — how the count moves.
* `Table.view_modify`, `Table.lookup_of_view` — changes a view does not show.
-/

/-- A finite map from `κ` to `α`. -/
abbrev Table (κ α : Type) : Type := AList fun _ : κ => α

namespace Table

variable {κ α : Type} [DecidableEq κ]

/-- Change the value of `k`, when there is one. -/
def modify (k : κ) (f : α → α) (m : Table κ α) : Table κ α :=
  match m.lookup k with
  | some a => m.replace k (f a)
  | none => m

/-- The number of values with the property `p`. -/
def count (p : α → Bool) (m : Table κ α) : ℕ := m.entries.countP fun e => p e.2

/-- The keys, in order. -/
def sortedKeys [LinearOrder κ] (m : Table κ α) : List κ := m.keys.insertionSort (· ≤ ·)

/-- The values, in the order of their keys. -/
def values [LinearOrder κ] (m : Table κ α) : List α := m.sortedKeys.filterMap m.lookup

/-- The table seen through `f`. -/
def view {β : Type} (f : α → β) (m : Table κ α) : List (κ × β) := m.entries.map fun e => (e.1, f e.2)

/-! ### Keys and values -/

omit [DecidableEq κ] in
@[simp] theorem mem_sortedKeys [LinearOrder κ] {m : Table κ α} {k : κ} :
    k ∈ m.sortedKeys ↔ k ∈ m := by
  unfold sortedKeys
  rw [List.mem_insertionSort]
  exact AList.mem_keys.symm

omit [DecidableEq κ] in
theorem nodup_sortedKeys [LinearOrder κ] (m : Table κ α) : m.sortedKeys.Nodup :=
  (List.perm_insertionSort _ _).nodup_iff.mpr m.keys_nodup

omit [DecidableEq κ] in
/-- The keys come in strictly increasing order. -/
theorem pairwise_sortedKeys [LinearOrder κ] (m : Table κ α) : m.sortedKeys.Pairwise (· < ·) := by
  have hsorted : m.sortedKeys.Pairwise (· ≤ ·) := List.pairwise_insertionSort _ _
  exact (hsorted.and m.nodup_sortedKeys).imp fun h => lt_of_le_of_ne h.1 h.2

/-- Values that know their keys are listed by them. -/
theorem map_values [LinearOrder κ] {m : Table κ α} {f : α → κ}
    (h : ∀ k a, m.lookup k = some a → f a = k) : m.values.map f = m.sortedKeys := by
  unfold values
  rw [List.map_filterMap]
  have hkey : ∀ k ∈ m.sortedKeys, ((m.lookup k).map f) = some k := by
    intro k hk
    obtain ⟨a, ha⟩ := Option.isSome_iff_exists.mp (AList.lookup_isSome.mpr (mem_sortedKeys.mp hk))
    rw [ha, Option.map_some, h k a ha]
  rw [List.filterMap_congr hkey, List.filterMap_some]

theorem mem_values [LinearOrder κ] {m : Table κ α} {a : α} :
    a ∈ m.values ↔ ∃ k, m.lookup k = some a := by
  unfold values
  rw [List.mem_filterMap]
  constructor
  · rintro ⟨k, -, h⟩
    exact ⟨k, h⟩
  · rintro ⟨k, h⟩
    refine ⟨k, ?_, h⟩
    rw [mem_sortedKeys, ← AList.lookup_isSome, h]
    rfl

theorem mem_of_lookup {m : Table κ α} {k : κ} {a : α} (h : m.lookup k = some a) : k ∈ m := by
  rw [← AList.lookup_isSome, h]
  rfl

theorem lookup_insert {m : Table κ α} {k k' : κ} {a : α} :
    (m.insert k a).lookup k' = if k' = k then some a else m.lookup k' := by
  split
  · next h => rw [h, AList.lookup_insert]
  · next h => rw [AList.lookup_insert_ne h]

theorem lookup_erase {m : Table κ α} {k k' : κ} :
    (m.erase k).lookup k' = if k' = k then none else m.lookup k' := by
  split
  · next h => rw [h, AList.lookup_erase]
  · next h => rw [AList.lookup_erase_ne h]

/-! ### Changing a value -/

section Cons

variable (k k₀ : κ) (a a₀ : α) (l : List (Sigma fun _ : κ => α))

theorem dlookup_cons : List.dlookup k (⟨k₀, a₀⟩ :: l) = if k = k₀ then some a₀ else l.dlookup k := by
  split
  · next h =>
    subst h
    exact List.dlookup_cons_eq (β := fun _ => α) l k a₀
  · next h => exact List.dlookup_cons_ne (β := fun _ => α) l ⟨k₀, a₀⟩ h

theorem kerase_cons :
    List.kerase k (⟨k₀, a₀⟩ :: l) = if k = k₀ then l else ⟨k₀, a₀⟩ :: l.kerase k := by
  split
  · next h => exact List.kerase_cons_eq (β := fun _ => α) (s := ⟨k₀, a₀⟩) h
  · next h => exact List.kerase_cons_ne (β := fun _ => α) (s := ⟨k₀, a₀⟩) h

theorem kreplace_cons :
    List.kreplace k a (⟨k₀, a₀⟩ :: l) =
      if k = k₀ then ⟨k, a⟩ :: l else ⟨k₀, a₀⟩ :: l.kreplace k a := by
  unfold List.kreplace
  split
  · next h => exact List.lookmap_cons_some _ _ (by simp [h])
  · next h => exact List.lookmap_cons_none _ _ (by simp [h])

end Cons

theorem dlookup_kreplace (k k' : κ) (a : α) (l : List (Sigma fun _ : κ => α)) :
    (l.kreplace k a).dlookup k' =
      if k' = k then (l.dlookup k).map fun _ => a else l.dlookup k' := by
  induction l with
  | nil => simp [List.kreplace]
  | cons e l ih =>
    obtain ⟨k₀, a₀⟩ := e
    rw [kreplace_cons]
    by_cases hk : k = k₀
    · subst hk
      by_cases hk' : k' = k <;> simp [dlookup_cons, hk']
    · rw [if_neg hk, dlookup_cons, dlookup_cons, dlookup_cons, ih, if_neg hk]
      by_cases hk' : k' = k₀
      · rw [if_pos hk', if_neg (by rintro rfl; exact hk hk'), if_pos hk']
      · rw [if_neg hk', if_neg hk']

theorem lookup_modify {m : Table κ α} {k k' : κ} {f : α → α} :
    (m.modify k f).lookup k' = if k' = k then (m.lookup k).map f else m.lookup k' := by
  unfold modify
  cases h : m.lookup k with
  | none =>
    show m.lookup k' = _
    by_cases hk : k' = k
    · rw [if_pos hk, hk, h]
      rfl
    · rw [if_neg hk]
  | some a =>
    show List.dlookup k' (List.kreplace k (f a) m.entries) = _
    rw [dlookup_kreplace]
    change (if k' = k then (m.lookup k).map _ else m.lookup k') = _
    rw [h]
    rfl

/-- A value of a changed table is the changed one, or it was there. -/
theorem lookup_modify_some {m : Table κ α} {k k' : κ} {f : α → α} {b : α}
    (h : (m.modify k f).lookup k' = some b) :
    (k' = k ∧ ∃ a, m.lookup k = some a ∧ b = f a) ∨ (k' ≠ k ∧ m.lookup k' = some b) := by
  rw [lookup_modify] at h
  split at h
  · next heq =>
    obtain ⟨a, ha, rfl⟩ := Option.map_eq_some_iff.mp h
    exact .inl ⟨heq, a, ha, rfl⟩
  · next hne => exact .inr ⟨hne, h⟩

@[simp] theorem lookup_modify_self {m : Table κ α} {k : κ} {f : α → α} :
    (m.modify k f).lookup k = (m.lookup k).map f := by
  rw [lookup_modify, if_pos rfl]

theorem lookup_modify_ne {m : Table κ α} {k k' : κ} {f : α → α} (h : k' ≠ k) :
    (m.modify k f).lookup k' = m.lookup k' := by
  rw [lookup_modify, if_neg h]

@[simp] theorem keys_modify (m : Table κ α) (k : κ) (f : α → α) : (m.modify k f).keys = m.keys := by
  unfold modify
  split
  · exact AList.keys_replace _ _ _
  · rfl

@[simp] theorem mem_modify {m : Table κ α} {k k' : κ} {f : α → α} :
    k' ∈ m.modify k f ↔ k' ∈ m := by
  rw [AList.mem_keys, keys_modify, AList.mem_keys]

/-! ### Counting -/

variable {p : α → Bool}

omit [DecidableEq κ] in
@[simp] theorem count_empty : count p (∅ : Table κ α) = 0 := rfl

theorem count_insert {m : Table κ α} {k : κ} {a : α} (h : k ∉ m) :
    count p (m.insert k a) = count p m + (p a).toNat := by
  unfold count
  rw [AList.entries_insert_of_notMem h, List.countP_cons]
  cases p a <;> rfl

theorem countP_kerase {k : κ} {a : α} {l : List (Sigma fun _ : κ => α)}
    (h : l.dlookup k = some a) :
    l.countP (fun e => p e.2) = (l.kerase k).countP (fun e => p e.2) + (p a).toNat := by
  induction l with
  | nil => simp at h
  | cons e l ih =>
    obtain ⟨k₀, a₀⟩ := e
    rw [dlookup_cons] at h
    rw [kerase_cons]
    by_cases hk : k = k₀
    · rw [if_pos hk, Option.some.injEq] at h
      rw [if_pos hk, List.countP_cons, h]
      cases p a <;> rfl
    · rw [if_neg hk] at h
      rw [if_neg hk, List.countP_cons, List.countP_cons, ih h]
      omega

theorem count_erase {m : Table κ α} {k : κ} {a : α} (h : m.lookup k = some a) :
    count p m = count p (m.erase k) + (p a).toNat :=
  countP_kerase h

theorem count_pos {m : Table κ α} {k : κ} {a : α} (h : m.lookup k = some a) (hp : p a = true) :
    0 < count p m := by
  rw [count_erase h, hp]
  exact Nat.succ_pos _

theorem erase_of_notMem {m : Table κ α} {k : κ} (h : k ∉ m) : m.erase k = m := by
  refine AList.ext ?_
  exact List.kerase_of_notMem_keys h

theorem count_erase_le (m : Table κ α) (k : κ) : count p (m.erase k) ≤ count p m := by
  cases h : m.lookup k with
  | none => rw [erase_of_notMem (AList.lookup_eq_none.mp h)]
  | some a =>
    rw [count_erase h]
    exact Nat.le_add_right _ _

/-- The count by keys. -/
theorem count_eq_keys (m : Table κ α) : count p m = m.keys.countP fun k => (m.lookup k).any p := by
  unfold count AList.keys List.keys
  rw [List.countP_map]
  refine List.countP_congr fun e he => ?_
  have hlookup : m.lookup e.1 = some e.2 := List.mem_dlookup m.nodupKeys he
  rw [Function.comp_apply, hlookup]
  rfl

/-- A table with the same keys in which fewer values have the property. -/
theorem count_mono {m m' : Table κ α} (keys : m'.keys = m.keys)
    (h : ∀ k a, m'.lookup k = some a → p a = true → ∃ b, m.lookup k = some b ∧ p b = true) :
    count p m' ≤ count p m := by
  rw [count_eq_keys, count_eq_keys, keys]
  refine List.countP_mono_left fun k _ hk => ?_
  obtain ⟨a, ha, hp⟩ := (Option.any_eq_true _ _).mp hk
  obtain ⟨b, hb, hq⟩ := h k a ha hp
  rw [hb]
  exact hq

omit [DecidableEq κ] in
/-- The values with a property split by another one. -/
theorem count_and_add {q : α → Bool} (m : Table κ α) :
    count p m = count (fun a => p a && q a) m + count (fun a => p a && !q a) m := by
  show m.entries.countP (fun e => p e.2) = m.entries.countP (fun e => p e.2 && q e.2) +
    m.entries.countP fun e => p e.2 && !q e.2
  induction m.entries with
  | nil => rfl
  | cons e l ih =>
    simp only [List.countP_cons, ih]
    cases p e.2 <;> cases q e.2 <;> simp <;> omega

/-! ### Views -/

section View

variable {β : Type} {f : α → β} {m m' : Table κ α}

theorem dlookup_map_of_view {l l' : List (Sigma fun _ : κ => α)}
    (h : l.map (fun e => (e.1, f e.2)) = l'.map fun e => (e.1, f e.2)) (k : κ) :
    (l.dlookup k).map f = (l'.dlookup k).map f := by
  induction l generalizing l' with
  | nil =>
    cases l' with
    | nil => rfl
    | cons e l' => cases h
  | cons e l ih =>
    cases l' with
    | nil => cases h
    | cons e' l' =>
      obtain ⟨k₀, a₀⟩ := e
      obtain ⟨k₁, a₁⟩ := e'
      simp only [List.map_cons, List.cons.injEq, Prod.mk.injEq] at h
      obtain ⟨⟨rfl, hf⟩, htail⟩ := h
      rw [dlookup_cons, dlookup_cons]
      split
      · exact congrArg some hf
      · exact ih htail

theorem lookup_of_view (h : view f m = view f m') (k : κ) :
    (m.lookup k).map f = (m'.lookup k).map f :=
  dlookup_map_of_view h k

omit [DecidableEq κ] in
theorem keys_of_view (h : view f m = view f m') : m.keys = m'.keys := by
  have hfst : ∀ m : Table κ α, (view f m).map Prod.fst = m.keys := by
    intro m
    unfold view AList.keys List.keys
    rw [List.map_map]
    rfl
  rw [← hfst m, ← hfst m', h]

omit [DecidableEq κ] in
theorem mem_of_view (h : view f m = view f m') {k : κ} : k ∈ m ↔ k ∈ m' := by
  rw [AList.mem_keys, keys_of_view h, ← AList.mem_keys]

/-- A value of one table is seen in the other. -/
theorem exists_of_view (h : view f m = view f m') {k : κ} {a : α} (hk : m.lookup k = some a) :
    ∃ b, m'.lookup k = some b ∧ f b = f a := by
  have := lookup_of_view h k
  rw [hk, Option.map_some] at this
  obtain ⟨b, hb, hf⟩ := Option.map_eq_some_iff.mp this.symm
  exact ⟨b, hb, hf⟩

omit [DecidableEq κ] in
theorem count_of_view {p : α → Bool} {q : β → Bool} (hp : ∀ a, p a = q (f a))
    (h : view f m = view f m') : count p m = count p m' := by
  have hview : ∀ m : Table κ α, count p m = (view f m).countP fun e => q e.2 := by
    intro m
    unfold count view
    rw [List.countP_map]
    congr 1
    funext e
    exact hp e.2
  rw [hview, hview, h]

omit [DecidableEq κ] in
/-- What one view does not show, a coarser one does not show either. -/
theorem view_comp {γ : Type} (g : β → γ) (h : view f m = view f m') :
    view (fun a => g (f a)) m = view (fun a => g (f a)) m' := by
  have hmap : ∀ m : Table κ α, view (fun a => g (f a)) m = (view f m).map fun e => (e.1, g e.2) := by
    intro m
    unfold view
    rw [List.map_map]
    rfl
  rw [hmap, hmap, h]

theorem map_kreplace {k : κ} {a b : α} {l : List (Sigma fun _ : κ => α)}
    (h : l.dlookup k = some a) (hf : f b = f a) :
    (l.kreplace k b).map (fun e => (e.1, f e.2)) = l.map fun e => (e.1, f e.2) := by
  induction l with
  | nil => rfl
  | cons e l ih =>
    obtain ⟨k₀, a₀⟩ := e
    rw [dlookup_cons] at h
    rw [kreplace_cons]
    by_cases hk : k = k₀
    · subst hk
      rw [if_pos rfl, Option.some.injEq] at h
      subst h
      rw [if_pos rfl]
      simp [hf]
    · rw [if_neg hk] at h
      rw [if_neg hk, List.map_cons, List.map_cons, ih h]

/-- A change the view does not show. -/
theorem view_modify {k : κ} {g : α → α} (h : ∀ a, m.lookup k = some a → f (g a) = f a) :
    view f (m.modify k g) = view f m := by
  unfold modify
  cases hk : m.lookup k with
  | none => rfl
  | some a => exact map_kreplace hk (h a hk)

end View

/-! ### Parts -/

section Part

variable {m : Table κ α} {k : κ} {a : α} {f : α → α}

/-- The values with the property `p`, by their keys. -/
def part (p : α → Bool) (m : Table κ α) : κ → Option α := fun k => (m.lookup k).filter p

theorem part_eq_some {b : α} : m.part p k = some b ↔ m.lookup k = some b ∧ p b = true :=
  Option.filter_eq_some_iff

/-- A value outside the part changes. -/
theorem part_modify_of_not (h : ∀ b, m.lookup k = some b → p b = false ∧ p (f b) = false) :
    (m.modify k f).part p = m.part p := by
  funext k'
  unfold part
  rw [lookup_modify]
  split
  · next heq =>
    subst heq
    cases hk : m.lookup k' with
    | none => rfl
    | some b =>
      obtain ⟨hb, hf⟩ := h b hk
      rw [Option.map_some, Option.filter_some_neg (by simp [hf]), Option.filter_some_neg (by simp [hb])]
  · rfl

/-- A change that leaves the property alone changes the part like the table. -/
theorem part_modify_map (h : ∀ b, p (f b) = p b) :
    (m.modify k f).part p = Function.update (m.part p) k ((m.part p k).map f) := by
  funext k'
  unfold part
  rw [lookup_modify, Function.update_apply]
  split
  · cases m.lookup k with
    | none => rfl
    | some b => by_cases hb : p b <;> simp [Option.filter, h b, hb]
  · rfl

theorem part_insert (hp : p a = true) :
    part p (m.insert k a) = Function.update (part p m) k (some a) := by
  funext k'
  unfold part
  rw [lookup_insert, Function.update_apply]
  split
  · rw [Option.filter_some_pos hp]
  · rfl

theorem part_insert_of_not (hk : k ∉ m) (hp : p a = false) : part p (m.insert k a) = part p m := by
  funext k'
  unfold part
  rw [lookup_insert]
  split
  · next heq =>
    rw [heq, AList.lookup_eq_none.mpr hk, Option.filter_some_neg (by simp [hp])]
    rfl
  · rfl

end Part

theorem modify_insert {m : Table κ α} {k : κ} {a : α} {f : α → α} :
    modify k f (m.insert k a) = m.insert k (f a) := by
  unfold modify
  rw [AList.lookup_insert]
  refine AList.ext ?_
  show List.kreplace k (f a) (m.insert k a).entries = (m.insert k (f a)).entries
  rw [AList.entries_insert, AList.entries_insert, kreplace_cons, if_pos rfl]

theorem length_keys_insert {m : Table κ α} {k : κ} {a : α} (h : k ∉ m) :
    (m.insert k a).keys.length = m.keys.length + 1 := by
  rw [AList.keys_insert, List.length_cons, List.erase_of_not_mem (fun hk => h (AList.mem_keys.mpr hk))]

theorem erase_insert {m : Table κ α} {k : κ} {a : α} (h : k ∉ m) : (m.insert k a).erase k = m := by
  refine AList.ext ?_
  show List.kerase k (m.insert k a).entries = m.entries
  rw [AList.entries_insert_of_notMem h, kerase_cons, if_pos rfl]

/-- There is a number that is not a key. -/
theorem exists_fresh (m : Table ℕ α) : ∃ n, n ∉ m := by
  obtain ⟨n, hn⟩ := Infinite.exists_notMem_finset m.keys.toFinset
  exact ⟨n, fun h => hn (List.mem_toFinset.mpr (AList.mem_keys.mp h))⟩

end Table
