import Mathlib.Data.List.Forall2
import Mathlib.Data.List.Sort
import Mathlib.Tactic

/-!
# Ordered lists and ordered maps

A list that is strictly ordered by a key is determined by its elements, and it embeds into
another such list as soon as each of its elements has a partner with the same key there.
The lists of a tree map are of this kind, so that what a map is written out as is a matter
of its lookups.

## Main results

* `eq_of_mem_iff` — strictly ordered lists with the same elements are equal.
* `sublistForall₂_of_keys` — an embedding from partners with the same key.
* `separated_mono` — the length of a separated text grows along an embedding.
* `TreeMap.toList_map_congr`, `TreeMap.toList_sublistForall₂` — the lists of two maps, by
  their lookups.
-/

namespace Ordered

/-! ### Lists ordered by a key -/

section Keys

variable {α β κ : Type} (lt : κ → κ → Prop)

/-- Lists that are strictly ordered and have the same elements are equal. -/
theorem eq_of_mem_iff {r : α → α → Prop} (irrefl : ∀ a, ¬ r a a) (trans : ∀ {a b c}, r a b → r b c → r a c)
    {l l' : List α} (hl : l.Pairwise r) (hl' : l'.Pairwise r) (h : ∀ a, a ∈ l ↔ a ∈ l') : l = l' := by
  have hne : ∀ {a b}, r a b → a ≠ b := fun hab heq => irrefl _ (heq ▸ hab)
  have hperm : l.Perm l' :=
    (List.perm_ext_iff_of_nodup (hl.imp hne) (hl'.imp hne)).mpr h
  exact hperm.eq_of_pairwise (fun a b _ _ hab hba => absurd (trans hab hba) (irrefl a)) hl hl'

/-- A strictly ordered list embeds where each of its elements has a partner of its key. -/
theorem sublistForall₂_of_keys {R : α → β → Prop} {f : α → κ} {g : β → κ} (irrefl : ∀ k, ¬ lt k k)
    (trans : ∀ {k k' k''}, lt k k' → lt k' k'' → lt k k'') :
    ∀ {l : List α} {l' : List β}, l.Pairwise (fun a b => lt (f a) (f b)) →
      l'.Pairwise (fun a b => lt (g a) (g b)) → (∀ a ∈ l, ∃ b ∈ l', g b = f a ∧ R a b) →
      List.SublistForall₂ R l l' := by
  intro l l'
  induction l' generalizing l with
  | nil =>
    intro _ _ h
    cases l with
    | nil => exact .nil
    | cons a l =>
      obtain ⟨b, hb, -⟩ := h a (by simp)
      cases hb
  | cons b l' ih =>
    intro hl hl' h
    rw [List.pairwise_cons] at hl'
    cases l with
    | nil => exact .nil
    | cons a l =>
      rw [List.pairwise_cons] at hl
      obtain ⟨b', hb', hkey, hR⟩ := h a (by simp)
      rcases List.mem_cons.mp hb' with rfl | hmem
      · -- the partners of the rest come after the partner of the head
        refine .cons hR (ih hl.2 hl'.2 fun c hc => ?_)
        obtain ⟨d, hd, hdkey, hd'⟩ := h c (List.mem_cons_of_mem _ hc)
        rcases List.mem_cons.mp hd with rfl | hd
        · exact absurd (hkey ▸ hdkey ▸ hl.1 c hc) (irrefl _)
        · exact ⟨d, hd, hdkey, hd'⟩
      · -- no element has the first key of `l'`
        refine .cons_right (ih (List.pairwise_cons.mpr hl) hl'.2 fun c hc => ?_)
        obtain ⟨d, hd, hdkey, hd'⟩ := h c hc
        rcases List.mem_cons.mp hd with rfl | hd
        · have hfirst : lt (g d) (f a) := hkey ▸ hl'.1 b' hmem
          rcases List.mem_cons.mp hc with rfl | hc
          · exact absurd (hdkey ▸ hfirst) (irrefl _)
          · exact absurd (trans hfirst (hdkey ▸ hl.1 c hc)) (irrefl _)
        · exact ⟨d, hd, hdkey, hd'⟩

end Keys

/-- A list sorted by a key whose keys are distinct is strictly sorted. -/
theorem pairwise_lt_of_le {α κ : Type} {le lt : κ → κ → Prop} (key : α → κ)
    (hlt : ∀ {k k'}, le k k' → k ≠ k' → lt k k') {l : List α}
    (hle : l.Pairwise fun a b => le (key a) (key b)) (hnodup : (l.map key).Nodup) :
    l.Pairwise fun a b => lt (key a) (key b) := by
  refine (hle.and (List.pairwise_map.mp hnodup)).imp fun {a b} h => hlt h.1 h.2

theorem bytes_lt_of_le {a b : List UInt8} (h : a ≤ b) (hne : a ≠ b) : a < b := by
  by_contra hlt
  exact hne (List.le_antisymm h (List.not_lt.mp hlt))

/-- Permuted lists with distinct keys are sorted into the same list. -/
theorem insertionSort_perm {α κ : Type} {le : κ → κ → Prop} [DecidableRel le] (key : α → κ)
    [Std.Total fun a b => le (key a) (key b)] [IsTrans α fun a b => le (key a) (key b)]
    (antisymm : ∀ {k k'}, le k k' → le k' k → k = k') {l l' : List α} (h : l.Perm l')
    (hnodup : (l.map key).Nodup) :
    l.insertionSort (fun a b => le (key a) (key b)) = l'.insertionSort (fun a b => le (key a) (key b)) := by
  have hperm := ((List.perm_insertionSort (fun a b => le (key a) (key b)) l).trans h).trans
    (List.perm_insertionSort (fun a b => le (key a) (key b)) l').symm
  refine hperm.eq_of_pairwise (fun a b ha hb hab hba => ?_) (List.pairwise_insertionSort _ _)
    (List.pairwise_insertionSort _ _)
  rw [List.mem_insertionSort] at ha hb
  exact List.inj_on_of_nodup_map hnodup ha (h.mem_iff.mpr hb) (antisymm hab hba)

/-- Lists related element by element are related by what follows for the elements they have. -/
theorem forall₂_of_mem {α β : Type} {R R' : α → β → Prop} {l : List α} {l' : List β}
    (h : List.Forall₂ R l l') (hR : ∀ a ∈ l, ∀ b, R a b → R' a b) : List.Forall₂ R' l l' := by
  induction h with
  | nil => exact .nil
  | cons hab _ ih =>
    rw [List.forall_mem_cons] at hR
    exact .cons (hR.1 _ hab) (ih hR.2)

/-- Every element of a list has its partner in a related one. -/
theorem exists_of_forall₂ {α β : Type} {R : α → β → Prop} {l : List α} {l' : List β}
    (h : List.Forall₂ R l l') : ∀ a ∈ l, ∃ b ∈ l', R a b := by
  induction h with
  | nil => simp
  | @cons a b _ _ hab _ ih =>
    intro a' ha'
    rcases List.mem_cons.mp ha' with rfl | ha'
    · exact ⟨b, List.mem_cons_self, hab⟩
    · obtain ⟨b', hb', hR⟩ := ih a' ha'
      exact ⟨b', List.mem_cons_of_mem b hb', hR⟩

/-! ### Embeddings -/

theorem sublistForall₂_map {α β α' β' : Type} {R : α → β → Prop} {R' : α' → β' → Prop} {f : α → α'}
    {g : β → β'} (hR : ∀ a b, R a b → R' (f a) (g b)) {l : List α} {l' : List β}
    (h : List.SublistForall₂ R l l') : List.SublistForall₂ R' (l.map f) (l'.map g) := by
  induction h with
  | nil => exact .nil
  | cons hab _ ih => exact .cons (hR _ _ hab) ih
  | cons_right _ ih => exact .cons_right ih

/-- Every element of an embedded list has a partner. -/
theorem exists_of_sublistForall₂ {α β : Type} {R : α → β → Prop} {l : List α} {l' : List β}
    (h : List.SublistForall₂ R l l') : ∀ a ∈ l, ∃ b ∈ l', R a b := by
  induction h with
  | nil => simp
  | cons hab _ ih =>
    intro a ha
    rcases List.mem_cons.mp ha with rfl | ha
    · exact ⟨_, by simp, hab⟩
    · obtain ⟨b, hb, hR⟩ := ih a ha
      exact ⟨b, List.mem_cons_of_mem _ hb, hR⟩
  | cons_right _ ih =>
    intro a ha
    obtain ⟨b, hb, hR⟩ := ih a ha
    exact ⟨b, List.mem_cons_of_mem _ hb, hR⟩

/-! ### Separated texts -/

/-- The length of texts of these lengths, separated by single characters. -/
def separated (lengths : List ℕ) : ℕ := lengths.sum + (lengths.length - 1)

@[simp] theorem separated_nil : separated [] = 0 := rfl

@[simp] theorem separated_singleton (n : ℕ) : separated [n] = n := by
  simp [separated]

@[simp] theorem separated_cons_cons (n m : ℕ) (lengths : List ℕ) :
    separated (n :: m :: lengths) = n + 1 + separated (m :: lengths) := by
  simp only [separated, List.sum_cons, List.length_cons]
  omega

theorem separated_perm {lengths lengths' : List ℕ} (h : lengths.Perm lengths') :
    separated lengths = separated lengths' := by
  unfold separated
  rw [h.sum_eq, h.length_eq]

/-- Sums and lengths grow along an embedding. -/
theorem sum_length_mono {α β : Type} {R : α → β → Prop} {f : α → ℕ} {g : β → ℕ}
    (hR : ∀ a b, R a b → f a ≤ g b) {l : List α} {l' : List β} (h : List.SublistForall₂ R l l') :
    (l.map f).sum ≤ (l'.map g).sum ∧ l.length ≤ l'.length := by
  induction h with
  | nil => simp
  | cons hab _ ih =>
    have := hR _ _ hab
    simp only [List.map_cons, List.sum_cons, List.length_cons]
    omega
  | cons_right _ ih =>
    simp only [List.map_cons, List.sum_cons, List.length_cons]
    omega

theorem separated_mono {α β : Type} {R : α → β → Prop} {f : α → ℕ} {g : β → ℕ}
    (hR : ∀ a b, R a b → f a ≤ g b) {l : List α} {l' : List β} (h : List.SublistForall₂ R l l') :
    separated (l.map f) ≤ separated (l'.map g) := by
  have := sum_length_mono hR h
  simp only [separated, List.length_map]
  omega

/-- A sublist embeds, and so does a permutation of one as far as sums go. -/
theorem separated_subperm {α : Type} (f : α → ℕ) {l l' : List α} (h : l.Subperm l') :
    separated (l.map f) ≤ separated (l'.map f) := by
  obtain ⟨l₀, hperm, hsub⟩ := h
  rw [← separated_perm (hperm.map f)]
  have hsum := (hsub.map f).sum_le_sum (fun _ _ => Nat.zero_le _)
  have hlength := (hsub.map f).length_le
  simp only [separated, List.length_map] at hlength ⊢
  omega

end Ordered

/-! ### Tree maps -/

namespace Std.TreeMap

variable {κ α β : Type} {cmp : κ → κ → Ordering}

theorem values_eq_map_toList (m : Std.TreeMap κ α cmp) : m.values = m.toList.map Prod.snd := by
  have hfold : m.values = m.foldr (fun _ a l => a :: l) [] := rfl
  rw [hfold, foldr_eq_foldr_toList]
  induction m.toList with
  | nil => rfl
  | cons e l ih => simp [ih]

variable [Std.TransCmp cmp]

theorem irrefl_cmp (k : κ) : ¬ cmp k k = .lt := by
  rw [@Std.ReflCmp.compare_self _ cmp]
  simp

variable [Std.LawfulEqCmp cmp]

/-- Maps with the same lookups through `f` and `g` are written out the same. -/
theorem toList_map_congr {γ : Type} {m : Std.TreeMap κ α cmp} {n : Std.TreeMap κ β cmp} {f : α → γ}
    {g : β → γ} (h : ∀ k : κ, m[k]?.map f = n[k]?.map g) :
    m.toList.map (fun e => (e.1, f e.2)) = n.toList.map (fun e => (e.1, g e.2)) := by
  refine Ordered.eq_of_mem_iff (r := fun a b => cmp a.1 b.1 = .lt) (fun e => irrefl_cmp e.1)
    Std.TransCmp.lt_trans (List.pairwise_map.mpr ordered_keys_toList)
    (List.pairwise_map.mpr ordered_keys_toList) fun e => ?_
  have hm : e ∈ m.toList.map (fun e => (e.1, f e.2)) ↔ m[e.1]?.map f = some e.2 := by
    simp only [List.mem_map, Prod.exists, mem_toList_iff_getElem?_eq_some, Option.map_eq_some_iff]
    constructor
    · rintro ⟨k, a, hk, rfl⟩
      exact ⟨a, hk, rfl⟩
    · rintro ⟨a, ha, hfa⟩
      exact ⟨e.1, a, ha, by rw [hfa]⟩
  have hn : e ∈ n.toList.map (fun e => (e.1, g e.2)) ↔ n[e.1]?.map g = some e.2 := by
    simp only [List.mem_map, Prod.exists, mem_toList_iff_getElem?_eq_some, Option.map_eq_some_iff]
    constructor
    · rintro ⟨k, a, hk, rfl⟩
      exact ⟨a, hk, rfl⟩
    · rintro ⟨a, ha, hga⟩
      exact ⟨e.1, a, ha, by rw [hga]⟩
  rw [hm, hn, h]

/-- A map embeds into another one when each of its values has a partner at its key. -/
theorem toList_sublistForall₂ {R : α → β → Prop} {m : Std.TreeMap κ α cmp} {n : Std.TreeMap κ β cmp}
    (h : ∀ (k : κ) (a : α), m[k]? = some a → ∃ b, n[k]? = some b ∧ R a b) :
    List.SublistForall₂ (fun e e' => e'.1 = e.1 ∧ R e.2 e'.2) m.toList n.toList := by
  refine Ordered.sublistForall₂_of_keys (fun k k' => cmp k k' = .lt) (f := Prod.fst) (g := Prod.fst)
    irrefl_cmp Std.TransCmp.lt_trans ordered_keys_toList ordered_keys_toList fun e he => ?_
  obtain ⟨b, hb, hR⟩ := h e.1 e.2 (mem_toList_iff_getElem?_eq_some.mp he)
  exact ⟨(e.1, b), mem_toList_iff_getElem?_eq_some.mpr hb, rfl, rfl, hR⟩

end Std.TreeMap
