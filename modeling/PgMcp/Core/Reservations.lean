import PgMcp.Core.Frames
import PgMcp.Lib.Run

/-!
# Reservations

An open takes a slot of its profile with a reservation, and either turns it into a
registered handle or gives it back.  As long as the counter of the handle ids has not run
out, ids are never used twice, and reservations and handles can be counted against the
limit of their profile.

## Main definitions

* `OpenStage.reserves`, `OpenStage.registers` — an open holds a reservation, or a handle.
* `Server.Booked` — every reservation and every handle belongs to one open.
* `reservations` — how many reservations a run has granted.

## Main results

* `Server.Booked.step`, `booked_of_run` — the bookkeeping is right in every reachable state.
* `capped_of_run` — no profile exceeds its limit.
* `reservations_sound` — the protocol of the opens, in every reachable state.
-/

namespace PgMcp

open Program

namespace OpenStage

/-- The open holds its reservation. -/
def reserves : OpenStage → Bool
  | .returning _ _ | .returned _ => false
  | _ => true

/-- The open has registered its handle. -/
def registers : OpenStage → Bool
  | .returned (.ok _) => true
  | _ => false

theorem not_reserves_of_registers {stage : OpenStage} (h : stage.registers = true) :
    stage.reserves = false := by
  cases stage with
  | returned reply => rfl
  | _ => cases h

end OpenStage

/-- What of an open matters to the bookkeeping. -/
def OpenCall.claim (c : OpenCall) : Reservation × String × Bool × Bool :=
  (c.reservation, c.profile, c.stage.reserves, c.stage.registers)

theorem OpenCall.claim_inj {c d : OpenCall} (h : c.claim = d.claim) :
    c.reservation = d.reservation ∧ c.profile = d.profile ∧
      c.stage.reserves = d.stage.reserves ∧ c.stage.registers = d.stage.registers := by
  simpa [OpenCall.claim] using h

/-- Between its critical sections an open keeps what it holds. -/
theorem OpenCall.Moves.claim {core : Core} {now : ℕ} {c : OpenCall} {stage : OpenStage}
    (h : c.Moves core now stage) :
    stage.reserves = c.stage.reserves ∧ stage.registers = c.stage.registers := by
  cases h with
  | panicked working =>
    revert working
    cases c.stage <;> simp [OpenStage.reserves, OpenStage.registers]
  | resolved command config dsn stage | unresolved command error stage
  | connected config dsn database backend stage | unconnected config dsn failure stage
  | interrupted config database backend stage | unusable config database backend stage
  | accepted config database backend stage | closed refusal backend stage
  | unspawned config database backend stage | returned refusal backend stage =>
    rw [stage]
    exact ⟨rfl, rfl⟩

namespace Server

variable {core : Core} {s t : Server}

/-! ### The bookkeeping -/

/-- The handles and the reservations are as they were, and so is who holds them. -/
structure SameClaims (s t : Server) : Prop where
  pending : t.registry.pendingOpens = s.registry.pendingOpens
  next : t.registry.nextHandle = s.registry.nextHandle
  handles : t.registry.handles.view WorkerEntry.key = s.registry.handles.view WorkerEntry.key
  opens : t.opens.view OpenCall.claim = s.opens.view OpenCall.claim

theorem Frames.claims (h : s.Frames t) : s.SameClaims t where
  pending := h.pending
  next := h.next
  handles := h.handles
  opens := Table.view_comp (fun c => (c.1, c.2.1, c.2.2.reserves, c.2.2.registers)) h.opens

theorem sameClaims_setOpen (stage : OpenStage) {k : ℕ} {c : OpenCall}
    (call : s.opens.lookup k = some c) (hreserves : stage.reserves = c.stage.reserves)
    (hregisters : stage.registers = c.stage.registers) : s.SameClaims (s.setOpen k stage) where
  pending := rfl
  next := rfl
  handles := rfl
  opens := by
    refine Table.view_modify fun d hd => ?_
    rw [call, Option.some.injEq] at hd
    subst hd
    simp [OpenCall.claim, hreserves, hregisters]

/-- Every reservation and every handle belongs to one open. -/
structure Booked (s : Server) : Prop where
  next : s.registry.nextHandle = min (s.opens.keys.length + 1) u64Max
  numbered : ∀ k c, s.opens.lookup k = some c →
    ∃ n ≤ s.opens.keys.length, c.reservation.id = handleName n
  distinct : ∀ k k' c c', s.opens.lookup k = some c → s.opens.lookup k' = some c' →
    c.reservation.id = c'.reservation.id → k = k'
  pending : ∀ k c, s.opens.lookup k = some c → c.stage.reserves = true →
    s.registry.pendingOpens.lookup c.reservation.id = some { profile := c.profile, shutdown := k }
  owner : ∀ id p, s.registry.pendingOpens.lookup id = some p →
    ∃ c, s.opens.lookup p.shutdown = some c ∧ c.reservation.id = id ∧ c.stage.reserves = true
  registered : ∀ k c, s.opens.lookup k = some c → c.stage.registers = true →
    ∃ entry, s.registry.handles.lookup c.reservation.id = some entry ∧
      entry.profile = c.profile ∧ entry.sender = k
  opener : ∀ id entry, s.registry.handles.lookup id = some entry →
    ∃ c, s.opens.lookup entry.sender = some c ∧ c.reservation.id = id ∧ c.stage.registers = true

theorem booked_new : new.Booked where
  next := by
    show 1 = min (0 + 1) u64Max
    rw [u64Max_eq]
    decide
  numbered k c h := by simp [new] at h
  distinct k k' c c' h := by simp [new] at h
  pending k c h := by simp [new] at h
  owner id p h := by simp [new, Registry.new] at h
  registered k c h := by simp [new] at h
  opener id entry h := by simp [new, Registry.new] at h

theorem Booked.congr (hs : s.Booked) (h : s.SameClaims t) : t.Booked := by
  have hlength : t.opens.keys.length = s.opens.keys.length := by rw [Table.keys_of_view h.opens]
  have hopen : ∀ k c, t.opens.lookup k = some c → ∃ d, s.opens.lookup k = some d ∧
      d.reservation = c.reservation ∧ d.profile = c.profile ∧
      d.stage.reserves = c.stage.reserves ∧ d.stage.registers = c.stage.registers := by
    intro k c hk
    obtain ⟨d, hd, hclaim⟩ := Table.exists_of_view h.opens hk
    exact ⟨d, hd, OpenCall.claim_inj hclaim⟩
  have hback : ∀ k d, s.opens.lookup k = some d → ∃ c, t.opens.lookup k = some c ∧
      c.reservation = d.reservation ∧ c.profile = d.profile ∧
      c.stage.reserves = d.stage.reserves ∧ c.stage.registers = d.stage.registers := by
    intro k d hk
    obtain ⟨c, hc, hclaim⟩ := Table.exists_of_view h.opens.symm hk
    exact ⟨c, hc, OpenCall.claim_inj hclaim⟩
  constructor
  · rw [h.next, hs.next, hlength]
  · intro k c hc
    obtain ⟨d, hd, hres, -⟩ := hopen k c hc
    rw [hlength, ← hres]
    exact hs.numbered k d hd
  · intro k k' c c' hc hc' hid
    obtain ⟨d, hd, hres, -⟩ := hopen k c hc
    obtain ⟨d', hd', hres', -⟩ := hopen k' c' hc'
    rw [← hres, ← hres'] at hid
    exact hs.distinct k k' d d' hd hd' hid
  · intro k c hc hreserves
    obtain ⟨d, hd, hres, hprofile, hr, -⟩ := hopen k c hc
    rw [h.pending, ← hres, ← hprofile]
    exact hs.pending k d hd (hr.trans hreserves)
  · intro id p hp
    rw [h.pending] at hp
    obtain ⟨d, hd, hid, hreserves⟩ := hs.owner id p hp
    obtain ⟨c, hc, hres, -, hr, -⟩ := hback _ d hd
    exact ⟨c, hc, by rw [hres, hid], hr.trans hreserves⟩
  · intro k c hc hregisters
    obtain ⟨d, hd, hres, hprofile, -, hr⟩ := hopen k c hc
    obtain ⟨entry, hentry, hp, hsender⟩ := hs.registered k d hd (hr.trans hregisters)
    obtain ⟨entry', hentry', hkey⟩ := Table.exists_of_view h.handles.symm hentry
    simp only [WorkerEntry.key, Prod.mk.injEq] at hkey
    rw [← hres, ← hprofile]
    exact ⟨entry', hentry', hkey.1.trans hp, hkey.2.2.trans hsender⟩
  · intro id entry hentry
    obtain ⟨entry', hentry', hkey⟩ := Table.exists_of_view h.handles hentry
    simp only [WorkerEntry.key, Prod.mk.injEq] at hkey
    obtain ⟨d, hd, hid, hregisters⟩ := hs.opener id entry' hentry'
    obtain ⟨c, hc, hres, -, -, hr⟩ := hback _ d hd
    rw [hkey.2.2] at hc
    exact ⟨c, hc, by rw [hres, hid], hr.trans hregisters⟩

/-- The id of an open that has not registered it is not registered. -/
theorem Booked.unregistered (hs : s.Booked) {k : ℕ} {c : OpenCall}
    (hc : s.opens.lookup k = some c) (h : c.stage.registers = false) :
    c.reservation.id ∉ s.registry.handles := by
  intro hmem
  rw [← AList.lookup_isSome, Option.isSome_iff_exists] at hmem
  obtain ⟨entry, hentry⟩ := hmem
  obtain ⟨d, hd, hid, hregisters⟩ := hs.opener _ entry hentry
  cases hs.distinct _ k d c hd hc hid
  rw [hc, Option.some.injEq] at hd
  subst hd
  rw [h] at hregisters
  cases hregisters

/-- A reserved id is not registered. -/
theorem Booked.disjoint (hs : s.Booked) {id : String} (h : id ∈ s.registry.pendingOpens) :
    id ∉ s.registry.handles := by
  rw [← AList.lookup_isSome, Option.isSome_iff_exists] at h
  obtain ⟨p, hp⟩ := h
  obtain ⟨c, hc, rfl, hreserves⟩ := hs.owner id p hp
  refine hs.unregistered hc ?_
  by_contra h
  rw [Bool.not_eq_false] at h
  rw [OpenStage.not_reserves_of_registers h] at hreserves
  cases hreserves

/-- The id of an open that holds no reservation is not reserved. -/
theorem Booked.unreserved (hs : s.Booked) {k : ℕ} {c : OpenCall}
    (hc : s.opens.lookup k = some c) (h : c.stage.reserves = false) :
    c.reservation.id ∉ s.registry.pendingOpens := by
  intro hmem
  rw [← AList.lookup_isSome, Option.isSome_iff_exists] at hmem
  obtain ⟨p, hp⟩ := hmem
  obtain ⟨d, hd, hid, hreserves⟩ := hs.owner _ p hp
  cases hs.distinct _ k d c hd hc hid
  rw [hc, Option.some.injEq] at hd
  subst hd
  rw [h] at hreserves
  cases hreserves

/-- The id the counter gives next has not been given yet. -/
theorem Booked.fresh (hs : s.Booked) (hroom : s.opens.keys.length < u64Max) {k : ℕ} {c : OpenCall}
    (hc : s.opens.lookup k = some c) : c.reservation.id ≠ handleName s.registry.nextHandle := by
  obtain ⟨n, hn, hid⟩ := hs.numbered k c hc
  have hnext : s.registry.nextHandle = s.opens.keys.length + 1 := by
    rw [hs.next]
    omega
  rw [hid, hnext]
  intro h
  have := handleName_injective (by omega) (by omega) h
  omega

theorem Booked.next_unreserved (hs : s.Booked) (hroom : s.opens.keys.length < u64Max) :
    handleName s.registry.nextHandle ∉ s.registry.pendingOpens := by
  intro hmem
  rw [← AList.lookup_isSome, Option.isSome_iff_exists] at hmem
  obtain ⟨p, hp⟩ := hmem
  obtain ⟨c, hc, hid, -⟩ := hs.owner _ p hp
  exact hs.fresh hroom hc hid

/-! ### What a step does to the bookkeeping -/

/-- One more open, with the next id. -/
theorem Booked.reserve (hs : s.Booked) {k : ℕ} {c : OpenCall} {r : Registry}
    (fresh : k ∉ s.opens)
    (hfresh : ∀ k' d, s.opens.lookup k' = some d → d.reservation.id ≠ c.reservation.id)
    (hid : c.reservation.id = handleName s.registry.nextHandle) (hreserves : c.stage.reserves = true)
    (hregisters : c.stage.registers = false)
    (hnext : r.nextHandle = min (s.registry.nextHandle + 1) u64Max)
    (hpending : r.pendingOpens =
      s.registry.pendingOpens.insert c.reservation.id { profile := c.profile, shutdown := k })
    (hhandles : r.handles = s.registry.handles) :
    Booked { s with registry := r, opens := s.opens.insert k c } := by
  -- the open is new, so everything known of the others stays
  have hold : ∀ k' d, s.opens.lookup k' = some d → k' ≠ k := by
    rintro k' d hd rfl
    exact fresh (Table.mem_of_lookup hd)
  -- there is one more open, and the counter is one further
  have hlength : (s.opens.insert k c).keys.length = s.opens.keys.length + 1 :=
    Table.length_keys_insert fresh
  have hlookup : ∀ k', (s.opens.insert k c).lookup k' = if k' = k then some c else s.opens.lookup k' :=
    fun k' => Table.lookup_insert
  constructor
  · show r.nextHandle = min ((s.opens.insert k c).keys.length + 1) u64Max
    rw [hlength, hnext, hs.next]
    omega
  · intro k' d hd
    show ∃ n ≤ (s.opens.insert k c).keys.length, _
    rw [hlength]
    change (s.opens.insert k c).lookup k' = some d at hd
    rw [hlookup] at hd
    split at hd
    · cases hd
      exact ⟨_, Nat.min_le_left _ u64Max, hs.next ▸ hid⟩
    · obtain ⟨n, hn, hd'⟩ := hs.numbered k' d hd
      exact ⟨n, by omega, hd'⟩
  · intro k₁ k₂ c₁ c₂ h₁ h₂ heq
    change (s.opens.insert k c).lookup k₁ = some c₁ at h₁
    change (s.opens.insert k c).lookup k₂ = some c₂ at h₂
    rw [hlookup] at h₁ h₂
    split at h₁ <;> split at h₂
    · next hk₁ hk₂ => rw [hk₁, hk₂]
    · cases h₁
      exact absurd heq.symm (hfresh _ _ h₂)
    · cases h₂
      exact absurd heq (hfresh _ _ h₁)
    · exact hs.distinct k₁ k₂ c₁ c₂ h₁ h₂ heq
  · intro k' d hd hres
    show r.pendingOpens.lookup _ = _
    change (s.opens.insert k c).lookup k' = some d at hd
    rw [hlookup] at hd
    rw [hpending, Table.lookup_insert]
    split at hd
    · next hk =>
      cases hd
      rw [if_pos rfl, hk]
    · rw [if_neg (hfresh _ _ hd)]
      exact hs.pending k' d hd hres
  · intro id p hp
    change r.pendingOpens.lookup id = some p at hp
    show ∃ d, (s.opens.insert k c).lookup p.shutdown = some d ∧ _
    rw [hpending, Table.lookup_insert] at hp
    split at hp
    · next hid' =>
      cases hp
      exact ⟨c, by rw [hlookup, if_pos rfl], hid'.symm, hreserves⟩
    · obtain ⟨d, hd, hid', hres⟩ := hs.owner id p hp
      exact ⟨d, by rw [hlookup, if_neg (hold _ _ hd), hd], hid', hres⟩
  · intro k' d hd hreg
    change (s.opens.insert k c).lookup k' = some d at hd
    show ∃ entry, r.handles.lookup _ = some entry ∧ _
    rw [hlookup] at hd
    rw [hhandles]
    split at hd
    · cases hd
      rw [hregisters] at hreg
      cases hreg
    · exact hs.registered k' d hd hreg
  · intro id entry hentry
    change r.handles.lookup id = some entry at hentry
    rw [hhandles] at hentry
    obtain ⟨d, hd, hid', hreg⟩ := hs.opener id entry hentry
    refine ⟨d, ?_, hid', hreg⟩
    show (s.opens.insert k c).lookup _ = _
    rw [hlookup, if_neg (hold _ _ hd), hd]

theorem lookup_setOpen {k k' : ℕ} {c c' : OpenCall} {stage : OpenStage}
    (call : s.opens.lookup k = some c) (h : (s.setOpen k stage).opens.lookup k' = some c') :
    (k' = k ∧ c' = { c with stage := stage }) ∨ (k' ≠ k ∧ s.opens.lookup k' = some c') := by
  simp only [setOpen, Table.lookup_modify, call, Option.map_some] at h
  split at h
  · next hk => exact .inl ⟨hk, (Option.some.inj h).symm⟩
  · next hk => exact .inr ⟨hk, h⟩

theorem lookup_setOpen_self {k : ℕ} {c : OpenCall} {stage : OpenStage}
    (call : s.opens.lookup k = some c) :
    (s.setOpen k stage).opens.lookup k = some { c with stage := stage } := by
  simp [setOpen, call]

theorem lookup_setOpen_ne {k k' : ℕ} {stage : OpenStage} (h : k' ≠ k) :
    (s.setOpen k stage).opens.lookup k' = s.opens.lookup k' := by
  simp [setOpen, Table.lookup_modify_ne h]

/-- The open gives its reservation up, for a handle or for nothing. -/
theorem Booked.release (hs : s.Booked) {k : ℕ} {c : OpenCall} {stage : OpenStage} {r : Registry}
    (call : s.opens.lookup k = some c) (hreserves : c.stage.reserves = true)
    (hdone : stage.reserves = false)
    (hpending : r.pendingOpens = s.registry.pendingOpens.erase c.reservation.id)
    (hnext : r.nextHandle = s.registry.nextHandle)
    (hhandles : ∀ id, r.handles.lookup id = s.registry.handles.lookup id ∨
      (id = c.reservation.id ∧ stage.registers = true))
    (hentry : stage.registers = true → ∃ entry, r.handles.lookup c.reservation.id = some entry ∧
      entry.profile = c.profile ∧ entry.sender = k) :
    ((s.setRegistry r).setOpen k stage).Booked := by
  -- a reservation is given back once, before the handle is there
  have hregisters : c.stage.registers = false := by
    by_contra h
    rw [Bool.not_eq_false] at h
    rw [OpenStage.not_reserves_of_registers h] at hreserves
    cases hreserves
  have call' : (s.setRegistry r).opens.lookup k = some c := call
  have hkeys : ((s.setRegistry r).setOpen k stage).opens.keys.length = s.opens.keys.length := by
    simp [setOpen, setRegistry]
  constructor
  · rw [hkeys]
    exact hnext.trans hs.next
  · intro k' c' hc'
    rw [hkeys]
    rcases lookup_setOpen call' hc' with ⟨-, rfl⟩ | ⟨-, h⟩
    · exact hs.numbered k c call
    · exact hs.numbered k' c' h
  · intro k₁ k₂ c₁ c₂ h₁ h₂ hid
    rcases lookup_setOpen call' h₁ with ⟨rfl, rfl⟩ | ⟨-, g₁⟩ <;>
      rcases lookup_setOpen call' h₂ with ⟨rfl, rfl⟩ | ⟨-, g₂⟩
    · rfl
    · exact hs.distinct _ _ _ _ call g₂ hid
    · exact hs.distinct _ _ _ _ g₁ call hid
    · exact hs.distinct _ _ _ _ g₁ g₂ hid
  · intro k' c' hc' hres
    rcases lookup_setOpen call' hc' with ⟨rfl, rfl⟩ | ⟨hk, h⟩
    · rw [hdone] at hres
      cases hres
    · show r.pendingOpens.lookup _ = _
      -- the reservations of two opens have different ids
      have hne : c'.reservation.id ≠ c.reservation.id := fun hid => hk (hs.distinct _ _ _ _ h call hid)
      rw [hpending, Table.lookup_erase, if_neg hne]
      exact hs.pending k' c' h hres
  · intro id p hp
    change r.pendingOpens.lookup id = some p at hp
    rw [hpending, Table.lookup_erase] at hp
    split at hp
    · cases hp
    · next hid =>
      obtain ⟨c', hc', hid', hres⟩ := hs.owner id p hp
      have hk : p.shutdown ≠ k := by
        intro hk
        rw [hk, call, Option.some.injEq] at hc'
        subst hc'
        exact hid hid'.symm
      exact ⟨c', (lookup_setOpen_ne (s := s.setRegistry r) hk).trans hc', hid', hres⟩
  · intro k' c' hc' hreg
    rcases lookup_setOpen call' hc' with ⟨rfl, rfl⟩ | ⟨hk, h⟩
    · exact hentry hreg
    · obtain ⟨entry, hlookup, hprofile, hsender⟩ := hs.registered k' c' h hreg
      rcases hhandles c'.reservation.id with hsame | ⟨hid, -⟩
      · exact ⟨entry, hsame.trans hlookup, hprofile, hsender⟩
      · exact absurd (hs.distinct _ _ _ _ h call hid) hk
  · intro id entry hlookup
    change r.handles.lookup id = some entry at hlookup
    rcases hhandles id with hsame | ⟨rfl, hreg⟩
    · rw [hsame] at hlookup
      obtain ⟨c', hc', hid, hreg⟩ := hs.opener id entry hlookup
      have hk : entry.sender ≠ k := by
        intro hk
        rw [hk, call, Option.some.injEq] at hc'
        subst hc'
        rw [hregisters] at hreg
        cases hreg
      exact ⟨c', (lookup_setOpen_ne (s := s.setRegistry r) hk).trans hc', hid, hreg⟩
    · obtain ⟨entry', hlookup', -, hsender⟩ := hentry hreg
      rw [hlookup', Option.some.injEq] at hlookup
      subst hlookup
      rw [hsender]
      exact ⟨_, lookup_setOpen_self call', rfl, hreg⟩

/-- A reservation can be granted with a fresh id. -/
def Roomy (s : Server) (a : Action) : Prop :=
  match a with
  | .reserve _ _ (.ok _) => s.opens.keys.length < u64Max
  | _ => True

/-- A reservation is granted with an id that no open has. -/
def NewId (s : Server) (a : Action) : Prop :=
  match a with
  | .reserve _ _ (.ok reservation) =>
    ∀ k c, s.opens.lookup k = some c → c.reservation.id ≠ reservation.id
  | _ => True

theorem Booked.newId (hs : s.Booked) {a : Action} (h : Step core s a t) (hroom : s.Roomy a) :
    s.NewId a := by
  cases h with
  | reserved k profile reservation r free fresh result =>
    obtain ⟨config, -, -, -, rfl, rfl⟩ := Core.reserveOpen_ok result
    exact fun k' d hd => hs.fresh hroom hd
  | _ => trivial

theorem Booked.step (hs : s.Booked) {a : Action} (h : Step core s a t) (hnew : s.NewId a) :
    t.Booked := by
  cases ha : a.isOpen with
  | false => exact hs.congr (h.frames ha).claims
  | true =>
    cases h with
    | reserved k profile reservation r free fresh result =>
      obtain ⟨config, -, -, -, rfl, rfl⟩ := Core.reserveOpen_ok result
      exact hs.reserve fresh hnew rfl rfl rfl rfl rfl rfl
    | unreserved => exact hs
    | «open» k c stage call moves =>
      exact hs.congr (sameClaims_setOpen _ call moves.claim.1 moves.claim.2)
    | spawn k c config database backend call stage =>
      refine hs.congr ?_
      have hsame := sameClaims_setOpen (.publishing config (c.snapshot database backend)) call
        (by rw [stage]; rfl) (by rw [stage]; rfl)
      exact ⟨hsame.pending, hsame.next, hsame.handles, hsame.opens⟩
    | published k c config published r free call stage result =>
      unfold Registry.publishOpen at result
      split_ifs at result
      cases result
      refine hs.release call (by rw [stage]; rfl) rfl rfl rfl (fun id => ?_) fun _ => ?_
      · by_cases hid : id = c.reservation.id
        · exact .inr ⟨hid, rfl⟩
        · exact .inl (AList.lookup_insert_ne hid)
      · exact ⟨_, AList.lookup_insert _, rfl, rfl⟩
    | unpublished k c config published free call stage result =>
      exact hs.congr (sameClaims_setOpen _ call (by rw [stage]; rfl) (by rw [stage]; rfl))
    | dismiss k c call stage =>
      split
      · have hsame := sameClaims_setOpen (s := s.setThread k (Thread.push (.shutdown false)))
          (.finishing (.failed (.process (coreError .serverStopping))) none) call
          (by rw [stage]; rfl) (by rw [stage]; rfl)
        exact hs.congr ⟨hsame.pending, hsame.next, hsame.handles, hsame.opens⟩
      · exact hs.congr (sameClaims_setOpen _ call (by rw [stage]; rfl) (by rw [stage]; rfl))
    | finishOpen k c refusal backend free call stage =>
      refine hs.release call (by rw [stage]; rfl) rfl rfl rfl (fun id => .inl rfl) nofun
    | _ => cases ha

/-! ### Counting -/

/-- A reservation was granted. -/
def Label.granted (l : Label) : Bool :=
  match l.action with
  | .reserve _ _ (.ok _) => true
  | _ => false

theorem Label.granted_iff {l : Label} : l.granted = true ↔
    ∃ k profile reservation, l.action = .reserve k profile (.ok reservation) := by
  unfold Label.granted
  constructor
  · intro h
    split at h
    · next k profile reservation haction => exact ⟨k, profile, reservation, haction⟩
    · cases h
  · rintro ⟨k, profile, reservation, h⟩
    rw [h]

/-- The number of reservations a run has granted. -/
def reservations (ls : List Label) : ℕ := ls.countP Label.granted

theorem Frames.length_opens (h : s.Frames t) : t.opens.keys.length = s.opens.keys.length := by
  rw [Table.keys_of_view h.opens]

@[simp] theorem length_setOpen (k : ℕ) (stage : OpenStage) :
    (s.setOpen k stage).opens.keys.length = s.opens.keys.length := by
  simp [setOpen]

/-- There are as many opens as granted reservations. -/
theorem Acts.length_opens {l : Label} (h : Acts core s l t) :
    t.opens.keys.length = s.opens.keys.length + l.granted.toNat := by
  obtain ⟨-, -, hstep⟩ := h
  unfold Label.granted
  revert hstep
  generalize l.action = a
  intro hstep
  cases ha : a.isOpen with
  | false =>
    rw [(hstep.frames ha).length_opens]
    cases a <;> first | rfl | cases ha
  | true =>
    cases hstep with
    | reserved k profile reservation r free fresh result => exact Table.length_keys_insert fresh
    | unreserved => rfl
    | «open» | unpublished => exact length_setOpen _ _
    | spawn | published | finishOpen => exact length_setOpen _ _
    | dismiss =>
      rw [length_setOpen]
      split <;> rfl
    | _ => cases ha

theorem Acts.roomy {l : Label} (_ : Acts core s l t)
    (hroom : l.granted = true → s.opens.keys.length < u64Max) : s.Roomy l.action := by
  unfold Roomy
  unfold Label.granted at hroom
  split
  · next heq => exact hroom (by rw [heq])
  · trivial

theorem reservations_append (ls : List Label) (l : Label) :
    reservations (ls ++ [l]) = reservations ls + l.granted.toNat := by
  unfold reservations
  rw [List.countP_append, List.countP_singleton]
  cases l.granted <;> rfl

theorem length_of_run {ls : List Label} (run : Run (Acts core) new ls s) :
    s.opens.keys.length = reservations ls := by
  refine run.log_invariant (G := fun _ => True)
    (I := fun ls s => s.opens.keys.length = reservations ls) ?_ (fun _ _ => trivial) rfl
  intro ls s l t hlength _ hl
  rw [hl.length_opens, hlength, reservations_append]

theorem reservations_le_of_append (ls ls' : List Label) :
    reservations ls ≤ reservations (ls ++ ls') := by
  unfold reservations
  rw [List.countP_append]
  exact Nat.le_add_right _ _

/-- The states before and after a step of a run are reached. -/
theorem reached_of_mem {ls : List Label} {l : Label} (run : Run (Acts core) new ls s) (hl : l ∈ ls) :
    ∃ pre post, ls = pre ++ [l] ++ post ∧ Run (Acts core) new pre l.before ∧
      Step core l.before l.action l.after ∧ Run (Acts core) new (pre ++ [l]) l.after := by
  obtain ⟨pre, post, t, t', rfl, before, ⟨rfl, rfl, step⟩, -⟩ := run.mem_step hl
  exact ⟨pre, post, by simp, before, step, before.snoc ⟨rfl, rfl, step⟩⟩

/-- What holds at the start, and is kept by every good step that finds room for its
reservation, holds after every run of good steps with few enough reservations. -/
theorem invariant_of_run {I : Server → Prop} {G : Label → Prop} (hnew : I new)
    (hstep : ∀ s l t, I s → Acts core s l t → s.Roomy l.action → G l → I t) {ls : List Label}
    (run : Run (Acts core) new ls s) (hgood : ∀ l ∈ ls, G l)
    (hbound : reservations ls ≤ u64Max) : I s := by
  induction run with
  | nil => exact hnew
  | @snoc t u ls l run last ih =>
    rw [reservations_append] at hbound
    refine hstep t l u (ih (fun l hl => hgood l (List.mem_append_left _ hl)) (by omega)) last ?_
      (hgood l (by simp))
    refine last.roomy fun hgranted => ?_
    rw [hgranted] at hbound
    rw [length_of_run run]
    exact hbound

/-- The bookkeeping is right in every reachable state. -/
theorem booked_of_run {ls : List Label} (run : Run (Acts core) new ls s)
    (hbound : reservations ls ≤ u64Max) : s.Booked :=
  invariant_of_run (G := fun _ => True) booked_new
    (fun _ _ _ hs hl hroom _ => hs.step hl.2.2 (hs.newId hl.2.2 hroom)) run (fun _ _ => trivial) hbound

/-- The step gives no handle id a second time. -/
def Label.NewId (l : Label) : Prop := l.before.NewId l.action

/-- With too few reservations to come to the end of the counter, every step of a run starts
from right books and finds room for its reservation. -/
theorem roomy_of_run {ls : List Label} (run : Run (Acts core) new ls s)
    (hbound : reservations ls ≤ u64Max) : ∀ l ∈ ls, l.before.Booked ∧
      Step core l.before l.action l.after ∧ l.before.Roomy l.action := by
  intro l hl
  obtain ⟨pre, post, rfl, before, step, -⟩ := reached_of_mem run hl
  have hpre := (reservations_le_of_append (pre ++ [l]) post).trans hbound
  have hacts : Acts core l.before l l.after := ⟨rfl, rfl, step⟩
  refine ⟨booked_of_run before ((reservations_le_of_append pre [l]).trans hpre), step,
    hacts.roomy fun hgranted => ?_⟩
  rw [reservations_append, hgranted] at hpre
  rw [length_of_run before]
  exact hpre

/-- Too few reservations to come to the end of the counter: no id is given twice. -/
theorem newId_of_run {ls : List Label} (run : Run (Acts core) new ls s)
    (hbound : reservations ls ≤ u64Max) : ∀ l ∈ ls, l.NewId := by
  intro l hl
  obtain ⟨booked, step, hroom⟩ := roomy_of_run run hbound l hl
  exact booked.newId step hroom

/-! ### The limits of the profiles -/

/-- No profile has more handles and reservations than it may have. -/
def Capped (core : Core) (s : Server) : Prop :=
  ∀ profile config, core.admissionConfig profile = .ok config →
    s.registry.profileHandles profile + s.registry.profilePending profile ≤ config.maxHandles

theorem SameClaims.capped (h : s.SameClaims t) (hs : s.Capped core) : t.Capped core := by
  intro profile config hconfig
  have hhandles : t.registry.profileHandles profile = s.registry.profileHandles profile :=
    Table.count_of_view (q := fun key => key.1 == profile) (fun _ => rfl) h.handles
  unfold Registry.profilePending
  rw [hhandles, h.pending]
  exact hs profile config hconfig

theorem Core.reserveOpen_room {r r' : Registry} {profile : String} {call now : ℕ}
    {reservation : Reservation} {config : Config}
    (h : core.reserveOpen r profile call now = .ok (reservation, r'))
    (hconfig : core.admissionConfig profile = .ok config) :
    r.profileHandles profile + r.profilePending profile < config.maxHandles := by
  obtain ⟨config', -, hconfig', hroom, -⟩ := Core.reserveOpen_ok h
  rw [hconfig, Except.ok.injEq] at hconfig'
  subst hconfig'
  have hmax := (core.admissionConfig_inRange hconfig .maxHandles).2
  have husize : (128 : ℕ) < usizeMax := by decide
  change config.maxHandles ≤ 128 at hmax
  omega

theorem Capped.step (hcap : s.Capped core) (hs : s.Booked) {a : Action} (h : Step core s a t)
    (hroom : s.Roomy a) : t.Capped core := by
  cases ha : a.isOpen with
  | false => exact (h.frames ha).claims.capped hcap
  | true =>
    cases h with
    | reserved k profile reservation r free fresh result =>
      intro profile' config hconfig
      -- the check before the reservation leaves room for one more
      have hlt : profile = profile' →
          s.registry.profileHandles profile + s.registry.profilePending profile <
            config.maxHandles := by
        rintro rfl
        exact Core.reserveOpen_room result hconfig
      obtain ⟨-, -, -, -, -, rfl⟩ := Core.reserveOpen_ok result
      have hpending : Table.count (fun entry : PendingOpen => entry.profile == profile')
          (s.registry.pendingOpens.insert (handleName s.registry.nextHandle)
            { profile := profile, shutdown := k }) =
          s.registry.profilePending profile' + (profile == profile').toNat :=
        Table.count_insert (hs.next_unreserved hroom)
      show s.registry.profileHandles profile' + Table.count _ (AList.insert _ _ _) ≤ _
      rw [hpending]
      cases hprofile : profile == profile' with
      | false => exact hcap profile' config hconfig
      | true =>
        rw [beq_iff_eq] at hprofile
        have := hlt hprofile
        subst hprofile
        simp only [Bool.toNat_true]
        omega
    | unreserved => exact hcap
    | «open» k c stage call moves =>
      exact (sameClaims_setOpen _ call moves.claim.1 moves.claim.2).capped hcap
    | spawn k c config database backend call stage =>
      exact (sameClaims_setOpen (.publishing config (c.snapshot database backend)) call
        (by rw [stage]; rfl) (by rw [stage]; rfl)).capped hcap
    -- a pending open becomes a handle of the same profile
    | published k c config published r free call stage result =>
      unfold Registry.publishOpen at result
      split_ifs at result
      cases result
      intro profile config' hconfig
      have hpending : s.registry.profilePending profile =
          Table.count (fun entry : PendingOpen => entry.profile == profile)
            (s.registry.pendingOpens.erase c.reservation.id) + (c.profile == profile).toNat :=
        Table.count_erase (hs.pending k c call (by rw [stage]; rfl))
      have hhandles : Table.count (fun entry : WorkerEntry => entry.profile == profile)
          (s.registry.handles.insert c.reservation.id
            { published := published, profile := c.profile, config := config, sender := k,
              join := some k, admitted := 0 }) =
          s.registry.profileHandles profile + (c.profile == profile).toNat :=
        Table.count_insert (hs.unregistered call (by rw [stage]; rfl))
      have := hcap profile config' hconfig
      show Table.count _ (AList.insert _ _ _) + Table.count _ (AList.erase _ _) ≤ _
      rw [hhandles]
      omega
    | unpublished k c config published free call stage result =>
      exact (sameClaims_setOpen _ call (by rw [stage]; rfl) (by rw [stage]; rfl)).capped hcap
    | dismiss k c call stage =>
      split
      · exact (sameClaims_setOpen (s := s.setThread k (Thread.push (.shutdown false)))
          (.finishing (.failed (.process (coreError .serverStopping))) none) call
          (by rw [stage]; rfl) (by rw [stage]; rfl)).capped hcap
      · exact (sameClaims_setOpen _ call (by rw [stage]; rfl) (by rw [stage]; rfl)).capped hcap
    -- giving a slot back can only make room
    | finishOpen k c refusal backend free call stage =>
      intro profile config hconfig
      have := hcap profile config hconfig
      have hle := Table.count_erase_le (p := fun entry : PendingOpen => entry.profile == profile)
        s.registry.pendingOpens c.reservation.id
      show s.registry.profileHandles profile + Table.count _ (AList.erase _ _) ≤ _
      unfold Registry.profilePending at this
      omega
    | _ => cases ha

/-- No profile exceeds its limit in a reachable state. -/
theorem capped_of_run {ls : List Label} (run : Run (Acts core) new ls s)
    (hbound : reservations ls ≤ u64Max) : s.Capped core := by
  have hnew : new.Booked ∧ new.Capped core := ⟨booked_new, fun _ _ _ => Nat.zero_le _⟩
  exact (invariant_of_run (I := fun s => s.Booked ∧ s.Capped core) (G := fun _ => True) hnew
    (fun _ _ _ hs hl hroom _ =>
      ⟨hs.1.step hl.2.2 (hs.1.newId hl.2.2 hroom), hs.2.step hs.1 hl.2.2 hroom⟩) run
    (fun _ _ => trivial) hbound).2

end Server

end PgMcp
