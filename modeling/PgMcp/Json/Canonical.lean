import PgMcp.Json.Size

/-!
# The canonical form of a JSON value

Two values have the same canonical form exactly when they differ only in the order of the
members of their objects, at any depth: the canonical form is a choice of one value from
every class of reorderings.

## Main definitions

* `AllObjects` — what holds of the members of every object, at every depth.
* `DistinctKeys`, `SortedKeys` — no key twice in an object, and the keys in byte order.
* `Reordered` — the same value up to the order of members.

## Main results

* `reordered_canonicalize`, `sortedKeys_canonicalize`, `canonicalize_idem` — the canonical
  form is a sorted reordering, and its own canonical form.
* `canonicalize_canonical` — equal canonical forms are those of reorderings.
* `reordered_obj_iff` — reorderings of objects, key by key.
-/

namespace PgMcp.Json

/-! ### Objects at every depth -/

/-- Induction on a value, through the items of arrays and the members of objects. -/
theorem induct {P : Json → Prop} (null : P .null) (bool : ∀ b, P (.bool b))
    (num : ∀ text, P (.num text)) (str : ∀ s, P (.str s))
    (arr : ∀ items, (∀ v ∈ items, P v) → P (.arr items))
    (obj : ∀ members, (∀ m ∈ members, P m.2) → P (.obj members)) (v : Json) : P v :=
  @Json.rec P (fun items => ∀ v ∈ items, P v) (fun members => ∀ m ∈ members, P m.2)
    (fun m => P m.2) null bool num str arr obj (List.forall_mem_nil _)
    (fun _ _ hv hitems => List.forall_mem_cons.mpr ⟨hv, hitems⟩) (List.forall_mem_nil _)
    (fun _ _ hm hmembers => List.forall_mem_cons.mpr ⟨hm, hmembers⟩) (fun _ _ hv => hv) v

/-- `P` holds of the members of every object, at every depth. -/
inductive AllObjects (P : List (String × Json) → Prop) : Json → Prop where
  | null : AllObjects P .null
  | bool (b : Bool) : AllObjects P (.bool b)
  | num (text : String) : AllObjects P (.num text)
  | str (s : String) : AllObjects P (.str s)
  | arr {items : List Json} (each : ∀ v ∈ items, AllObjects P v) : AllObjects P (.arr items)
  | obj {members : List (String × Json)} (here : P members)
      (each : ∀ m ∈ members, AllObjects P m.2) : AllObjects P (.obj members)

/-- No object has a key twice. -/
def DistinctKeys (v : Json) : Prop := v.AllObjects fun members => (members.map Prod.fst).Nodup

/-- The keys of every object increase strictly by their UTF-8 bytes. -/
def SortedKeys (v : Json) : Prop :=
  v.AllObjects fun members => members.Pairwise fun a b => utf8 a.1 < utf8 b.1

mutual

/-- The values differ only in the order of the members of objects. -/
inductive Reordered : Json → Json → Prop where
  | null : Reordered .null .null
  | bool (b : Bool) : Reordered (.bool b) (.bool b)
  | num (text : String) : Reordered (.num text) (.num text)
  | str (s : String) : Reordered (.str s) (.str s)
  | arr {items items' : List Json} (each : List.Forall₂ Reordered items items') :
      Reordered (.arr items) (.arr items')
  | obj {members same members' : List (String × Json)}
      (each : List.Forall₂ ReorderedMember members same) (order : same.Perm members') :
      Reordered (.obj members) (.obj members')

/-- The keys are the same, and the values differ only in the order of members. -/
inductive ReorderedMember : String × Json → String × Json → Prop where
  | mk (key : String) {v w : Json} (value : Reordered v w) : ReorderedMember (key, v) (key, w)

end

theorem ReorderedMember.of_eq {m m' : String × Json} (hkey : m.1 = m'.1) (h : Reordered m.2 m'.2) :
    ReorderedMember m m' := by
  obtain ⟨key, v⟩ := m
  obtain ⟨key', w⟩ := m'
  cases hkey
  exact .mk key h

/-! ### Sorted members -/

/-- A member with its value in canonical form. -/
def canonicalMember (m : String × Json) : String × Json := (m.1, canonicalize m.2)

theorem canonicalize_arr (items : List Json) :
    canonicalize (.arr items) = .arr (items.map canonicalize) := by
  rw [canonicalize, canonicalizeItems_eq]

theorem canonicalize_obj (members : List (String × Json)) :
    canonicalize (.obj members) = .obj (sortMembers (members.map canonicalMember)) := by
  rw [canonicalize, canonicalizeMembers_eq]
  rfl

theorem sortMembers_eq (members : List (String × Json)) :
    sortMembers members = members.insertionSort fun a b => utf8 a.1 ≤ utf8 b.1 := by
  unfold sortMembers keyLe
  simp only [decide_eq_true_eq]

/-- Sorting does not depend on the order, when the keys are distinct. -/
theorem sortMembers_perm {members members' : List (String × Json)} (h : members.Perm members')
    (hnodup : (members.map Prod.fst).Nodup) : sortMembers members = sortMembers members' := by
  rw [sortMembers_eq, sortMembers_eq]
  have hbytes := hnodup.map utf8_injective
  rw [List.map_map] at hbytes
  exact Ordered.insertionSort_perm (fun m : String × Json => utf8 m.1) List.le_antisymm h hbytes

theorem pairwise_sortMembers {members : List (String × Json)} (hnodup : (members.map Prod.fst).Nodup) :
    (sortMembers members).Pairwise fun a b => utf8 a.1 < utf8 b.1 := by
  refine Ordered.pairwise_lt_of_le (fun m : String × Json => utf8 m.1) Ordered.bytes_lt_of_le ?_ ?_
  · rw [sortMembers_eq]
    exact List.pairwise_insertionSort _ _
  · have hbytes := (((perm_sortMembers members).map Prod.fst).nodup_iff.mpr hnodup).map utf8_injective
    rwa [List.map_map] at hbytes

theorem sortMembers_idem (members : List (String × Json)) :
    sortMembers (sortMembers members) = sortMembers members := by
  have hsorted : (sortMembers members).Pairwise fun a b => utf8 a.1 ≤ utf8 b.1 := by
    rw [sortMembers_eq]
    exact List.pairwise_insertionSort _ _
  rw [sortMembers_eq (sortMembers members)]
  exact hsorted.insertionSort_eq

/-! ### The canonical form -/

/-- The canonical form is a reordering. -/
theorem reordered_canonicalize (v : Json) : Reordered v (canonicalize v) := by
  induction v using induct with
  | null => exact .null
  | bool b => exact .bool b
  | num text => exact .num text
  | str s => exact .str s
  | arr items ih =>
    rw [canonicalize_arr]
    refine .arr ?_
    rw [List.forall₂_map_right_iff, List.forall₂_same]
    exact ih
  | obj members ih =>
    rw [canonicalize_obj]
    refine @Reordered.obj members (members.map canonicalMember) _ ?_ (perm_sortMembers _).symm
    rw [List.forall₂_map_right_iff, List.forall₂_same]
    exact fun m hm => .of_eq rfl (ih m hm)

theorem keys_canonicalMember (members : List (String × Json)) :
    (members.map canonicalMember).map Prod.fst = members.map Prod.fst := by
  rw [List.map_map]
  rfl

/-- Every object of the canonical form has its keys in byte order. -/
theorem sortedKeys_canonicalize {v : Json} (h : v.DistinctKeys) : (canonicalize v).SortedKeys := by
  induction v using induct with
  | null => exact .null
  | bool b => exact .bool b
  | num text => exact .num text
  | str s => exact .str s
  | arr items ih =>
    rw [canonicalize_arr]
    cases h with
    | arr each =>
      refine .arr fun v hv => ?_
      obtain ⟨w, hw, rfl⟩ := List.mem_map.mp hv
      exact ih w hw (each w hw)
  | obj members ih =>
    rw [canonicalize_obj]
    cases h with
    | obj here each =>
      refine .obj (pairwise_sortMembers (by rwa [keys_canonicalMember])) fun m hm => ?_
      obtain ⟨m', hm', rfl⟩ := List.mem_map.mp ((perm_sortMembers _).mem_iff.mp hm)
      exact ih m' hm' (each m' hm')

/-- The canonical form is its own canonical form. -/
theorem canonicalize_idem (v : Json) : canonicalize (canonicalize v) = canonicalize v := by
  induction v using induct with
  | null | bool | num | str => rfl
  | arr items ih =>
    rw [canonicalize_arr, canonicalize_arr, List.map_map]
    exact congrArg Json.arr (List.map_congr_left ih)
  | obj members ih =>
    rw [canonicalize_obj, canonicalize_obj]
    -- the values of the sorted members are canonical already
    have hsame : (sortMembers (members.map canonicalMember)).map canonicalMember =
        sortMembers (members.map canonicalMember) := by
      refine (List.map_congr_left fun m hm => ?_).trans (List.map_id _)
      obtain ⟨m', hm', rfl⟩ := List.mem_map.mp ((perm_sortMembers _).mem_iff.mp hm)
      exact congrArg (Prod.mk m'.1) (ih m' hm')
    rw [hsame, sortMembers_idem]

/-- Lists with the same images are related element by element. -/
theorem map_eq_map_iff_forall₂ {α β γ : Type} {f : α → γ} {g : β → γ} {l : List α} {l' : List β} :
    l.map f = l'.map g ↔ List.Forall₂ (fun a b => f a = g b) l l' := by
  rw [← List.forall₂_map_right_iff (f := g), ← List.forall₂_map_left_iff (f := f), List.forall₂_eq_eq_eq]

/-- Reorderings have the same canonical form. -/
theorem Reordered.canonicalize_eq {v w : Json} (hv : v.DistinctKeys) (h : Reordered v w) :
    canonicalize v = canonicalize w := by
  induction v using induct generalizing w with
  | null | bool | num | str =>
    cases h
    rfl
  | arr items ih =>
    cases hv with
    | arr distinct =>
      cases h with
      | arr each =>
        rw [canonicalize_arr, canonicalize_arr]
        refine congrArg Json.arr (map_eq_map_iff_forall₂.mpr ?_)
        exact Ordered.forall₂_of_mem each fun v hv _ h => ih v hv (distinct v hv) h
  | obj members ih =>
    cases hv with
    | obj here distinct =>
      cases h with
      | @obj _ same members' each order =>
        rw [canonicalize_obj, canonicalize_obj]
        have hvalues : members.map canonicalMember = same.map canonicalMember := by
          refine map_eq_map_iff_forall₂.mpr (Ordered.forall₂_of_mem each fun m hm m' h => ?_)
          cases h with
          | mk key value => exact congrArg (Prod.mk key) (ih _ hm (distinct _ hm) value)
        refine congrArg Json.obj (sortMembers_perm ?_ (by rwa [keys_canonicalMember]))
        rw [hvalues]
        exact order.map canonicalMember

/-- Values with the same canonical form are reorderings. -/
theorem reordered_of_canonicalize_eq {v w : Json} (h : canonicalize v = canonicalize w) :
    Reordered v w := by
  induction v using induct generalizing w with
  | null | bool | num | str =>
    cases w <;> simp only [canonicalize, reduceCtorEq] at h
    all_goals
      cases h
      constructor
  | arr items ih =>
    rw [canonicalize_arr] at h
    cases w with
    | arr items' =>
      rw [canonicalize_arr, Json.arr.injEq, map_eq_map_iff_forall₂] at h
      exact .arr (Ordered.forall₂_of_mem h fun v hv w h => ih v hv h)
    | _ => simp [canonicalize] at h
  | obj members ih =>
    rw [canonicalize_obj] at h
    cases w with
    | obj members' =>
      rw [canonicalize_obj, Json.obj.injEq] at h
      -- the members with canonical values are the same, in some order
      have hperm : (members.map canonicalMember).Perm (members'.map canonicalMember) :=
        (perm_sortMembers _).symm.trans (h ▸ perm_sortMembers _)
      have hself : List.Forall₂ (fun a m => a = canonicalMember m) (members'.map canonicalMember) members' :=
        List.forall₂_map_left_iff.mpr (List.forall₂_same.mpr fun _ _ => rfl)
      obtain ⟨same, hsame, order⟩ := List.perm_comp_forall₂ hperm hself
      refine @Reordered.obj members same members' (Ordered.forall₂_of_mem
        (List.forall₂_map_left_iff.mp hsame) ?_) order
      intro m hm m' heq
      obtain ⟨hkey, hvalue⟩ := Prod.mk.inj heq
      exact .of_eq hkey (ih m hm hvalue)
    | _ => simp [canonicalize] at h

/-! ### Members by key -/

theorem Reordered.refl (v : Json) : Reordered v v := by
  induction v using induct with
  | null => exact .null
  | bool b => exact .bool b
  | num text => exact .num text
  | str s => exact .str s
  | arr items ih => exact .arr (List.forall₂_same.mpr ih)
  | obj members ih =>
    exact .obj (List.forall₂_same.mpr fun m hm => .of_eq rfl (ih m hm)) (.refl members)

/-- Where no key repeats, a key has the value it is a member with. -/
theorem lookup_eq_some_iff_mem {members : List (String × Json)} (hnodup : (members.map Prod.fst).Nodup)
    {key : String} {v : Json} : members.lookup key = some v ↔ (key, v) ∈ members := by
  induction members with
  | nil => simp
  | cons m members ih =>
    obtain ⟨key', v'⟩ := m
    rw [List.map_cons, List.nodup_cons] at hnodup
    rw [List.lookup_cons, List.mem_cons]
    by_cases hkey : key = key'
    · subst hkey
      have hnot : (key, v) ∉ members := fun hmem => hnodup.1 (List.mem_map.mpr ⟨_, hmem, rfl⟩)
      simp [hnot, eq_comm]
    · have hbeq : (key == key') = false := beq_eq_false_iff_ne.mpr hkey
      simp only [hbeq, ih hnodup.2, Prod.mk.injEq, hkey, false_and, false_or]

/-- Reorderings have the same keys. -/
theorem Reordered.keys {members members' : List (String × Json)}
    (h : Reordered (.obj members) (.obj members')) :
    ∀ m ∈ members, m.1 ∈ members'.map Prod.fst := by
  cases h with
  | obj each order =>
    intro m hm
    obtain ⟨m', hm', hmember⟩ := Ordered.exists_of_forall₂ each m hm
    cases hmember with
    | mk key value => exact List.mem_map.mpr ⟨_, order.mem_iff.mp hm', rfl⟩

/-- Objects are reorderings when each key has reorderings for its values. -/
theorem reordered_obj_iff {members members' : List (String × Json)} (hnodup : (members.map Prod.fst).Nodup)
    (hnodup' : (members'.map Prod.fst).Nodup) (hkeys : ∀ m ∈ members, m.1 ∈ members'.map Prod.fst) :
    Reordered (.obj members) (.obj members') ↔
      ∀ m' ∈ members', ∃ v, members.lookup m'.1 = some v ∧ Reordered v m'.2 := by
  constructor
  · intro h m' hm'
    cases h with
    | @obj _ same _ each order =>
      obtain ⟨m, hm, hmember⟩ := Ordered.exists_of_forall₂ each.flip m' (order.mem_iff.mpr hm')
      cases hmember with
      | mk key value => exact ⟨_, (lookup_eq_some_iff_mem hnodup).mpr hm, value⟩
  · intro h
    -- the members in their own order, with the values that the keys have there
    have hvalue : ∀ m ∈ members, ∃ w, (m.1, w) ∈ members' ∧ Reordered m.2 w := by
      intro m hm
      obtain ⟨m', hm', hkey⟩ := List.mem_map.mp (hkeys m hm)
      obtain ⟨v, hv, hreordered⟩ := h m' hm'
      have hmv : m.2 = v := by
        have hlookup := (@lookup_eq_some_iff_mem members hnodup m.1 m.2).mpr hm
        rw [hkey, hlookup] at hv
        exact Option.some.inj hv
      exact ⟨m'.2, by rw [← hkey]; exact hm', hmv ▸ hreordered⟩
    let same := members.map fun m => (m.1, (members'.lookup m.1).getD .null)
    have hsame : ∀ m ∈ members, ∃ w, members'.lookup m.1 = some w ∧ Reordered m.2 w := by
      intro m hm
      obtain ⟨w, hw, hreordered⟩ := hvalue m hm
      exact ⟨w, (lookup_eq_some_iff_mem hnodup').mpr hw, hreordered⟩
    have hfst : same.map Prod.fst = members.map Prod.fst := by
      rw [List.map_map]
      rfl
    refine @Reordered.obj members same members' ?_ ?_
    · rw [List.forall₂_map_right_iff, List.forall₂_same]
      intro m hm
      obtain ⟨w, hw, hreordered⟩ := hsame m hm
      exact .of_eq rfl (by rw [hw]; exact hreordered)
    · refine (List.perm_ext_iff_of_nodup (.of_map _ (hfst ▸ hnodup)) (.of_map _ hnodup')).mpr fun x => ?_
      constructor
      · intro hx
        obtain ⟨m, hm, rfl⟩ := List.mem_map.mp hx
        obtain ⟨w, hw, -⟩ := hsame m hm
        rw [hw]
        exact (lookup_eq_some_iff_mem hnodup').mp hw
      · intro hx
        obtain ⟨v, hv, -⟩ := h x hx
        have hmem := (lookup_eq_some_iff_mem hnodup).mp hv
        refine List.mem_map.mpr ⟨(x.1, v), hmem, ?_⟩
        rw [(@lookup_eq_some_iff_mem members' hnodup' x.1 x.2).mpr hx]
        rfl

/-- Canonical forms: idempotent, sorted at every depth, and the same up to the order of
members; and two values have one canonical form exactly when they differ in this order alone. -/
theorem canonicalize_canonical {v : Json} (hv : v.DistinctKeys) :
    canonicalize (canonicalize v) = canonicalize v ∧ (canonicalize v).SortedKeys ∧
      Reordered v (canonicalize v) ∧
      ∀ w : Json, w.DistinctKeys → (canonicalize v = canonicalize w ↔ Reordered v w) :=
  ⟨canonicalize_idem v, sortedKeys_canonicalize hv, reordered_canonicalize v,
    fun _ _ => ⟨reordered_of_canonicalize_eq, fun h => h.canonicalize_eq hv⟩⟩

/-- Two nested objects, and the same in another order. -/
theorem canonicalize_canonical_nested :
    let v : Json := .obj [("z", .obj [("é", .num "1"), ("a", .null)]), ("a", .arr [.bool true])]
    let w : Json := .obj [("a", .arr [.bool true]), ("z", .obj [("a", .null), ("é", .num "1")])]
    v.DistinctKeys ∧ w.DistinctKeys ∧ canonicalize v = w ∧ Reordered v w := by
  intro v w
  have hinner : ∀ {members : List (String × Json)}, (members.map Prod.fst).Nodup →
      (∀ m ∈ members, m.2 = .null ∨ m.2 = .num "1") → DistinctKeys (.obj members) := by
    intro members hnodup hvalues
    refine .obj hnodup fun m hm => ?_
    rcases hvalues m hm with h | h <;> rw [h]
    · exact .null
    · exact .num _
  have hitems : DistinctKeys (.arr [.bool true]) := .arr (by simpa using AllObjects.bool true)
  have hv : v.DistinctKeys := by
    refine .obj (by decide) ?_
    simp only [List.forall_mem_cons, List.not_mem_nil, false_imp_iff, implies_true, and_true]
    exact ⟨hinner (by decide) (by simp), hitems⟩
  have hw : w.DistinctKeys := by
    refine .obj (by decide) ?_
    simp only [List.forall_mem_cons, List.not_mem_nil, false_imp_iff, implies_true, and_true]
    exact ⟨hitems, hinner (by decide) (by simp)⟩
  have hsame : canonicalize v = w := by rfl
  have hcanonical : canonicalize w = w := by rfl
  exact ⟨hv, hw, hsame, ((canonicalize_canonical hv).2.2.2 w hw).mp (hsame.trans hcanonical.symm)⟩

end PgMcp.Json
