import PgMcp.Core.Progress
import PgMcp.Core.Workers

/-!
# The limits of the profiles

An open is refused when its profile has as many handles and reservations as it may have.
The handles that are closed stay in the registry, and are counted: they take the slots of
their profile for good.

## Main definitions

* `Registry.profileOpen` — the handles of a profile that are not closed.
* `Label.LimitExact` — an open is refused for the limit exactly when the handles that are
  not closed and the reservations have reached it.
* `Label.SlotsReturned` — the closed handles make no difference.

## Main results

* `reservations_sound` — the protocol of the opens, in every reachable state.
* `limitExact_of_run_iff` — when the limit is the one of the handles that are not closed.
-/

namespace PgMcp

open Program

/-- A server for one DSN that allows one handle. -/
def oneHandle : Core where
  config := { Config.default with maxHandles := 1 }
  profiles := none
  dsn := "dbname=postgres"
  inRange := by
    intro f
    cases f <;> decide

/-- A document with one profile. -/
def oneProfile : ConfigFile where
  profiles := AList.singleton "local" { dsn := "printf dbname=postgres", overrides := {} }

/-- A server for the profiles of that document. -/
def localProfile : Core where
  config := oneProfile.baseConfig
  profiles := some oneProfile
  dsn := ""
  inRange := Config.default_inRange

theorem localProfile_admissionConfig : localProfile.admissionConfig "local" = .ok Config.default :=
  rfl

namespace Registry

/-- The handles of a profile that are not closed. -/
def profileOpen (r : Registry) (profile : String) : ℕ :=
  r.handles.count fun entry => entry.profile == profile && !entry.published.closed

/-- The handles of a profile that are closed. -/
def profileClosed (r : Registry) (profile : String) : ℕ :=
  r.handles.count fun entry => entry.profile == profile && entry.published.closed

/-- The handles that are not closed. -/
def liveHandles (r : Registry) : ℕ := r.handles.count fun entry => !entry.published.closed

/-- The reservations. -/
def pendingCount (r : Registry) : ℕ := r.pendingOpens.count fun _ => true

theorem profileHandles_eq (r : Registry) (profile : String) :
    r.profileHandles profile = r.profileOpen profile + r.profileClosed profile := by
  unfold profileHandles profileOpen profileClosed
  rw [Table.count_and_add, Nat.add_comm]

end Registry

namespace Server

variable {core : Core} {s t : Server} {ls : List Label}

/-! ### Reservations -/

/-- With fewer than `2 ^ 64` reservations: no id is reserved and registered; no profile
exceeds its limit; and an open that has returned has no reservation, and is registered
exactly when it has succeeded. -/
theorem reservations_sound (run : Run (Acts core) new ls s) (hbound : reservations ls < 2 ^ 64) :
    (∀ id ∈ s.registry.pendingOpens, id ∉ s.registry.handles) ∧
      (∀ profile config, core.admissionConfig profile = .ok config →
        s.registry.profileHandles profile + s.registry.profilePending profile ≤
          config.maxHandles) ∧
      ∀ k c reply, s.opens.lookup k = some c → c.stage = .returned reply →
        c.reservation.id ∉ s.registry.pendingOpens ∧
          (c.reservation.id ∈ s.registry.handles ↔ reply.toBool = true) := by
  have hle : reservations ls ≤ u64Max := by
    rw [u64Max_eq]
    omega
  have hbooked := booked_of_run run hle
  refine ⟨fun id => hbooked.disjoint, capped_of_run run hle, fun k c reply hc hstage => ⟨?_, ?_⟩⟩
  · exact hbooked.unreserved hc (by rw [hstage]; rfl)
  · cases reply with
    | ok envelope =>
      obtain ⟨entry, hentry, -⟩ := hbooked.registered k c hc (by rw [hstage]; rfl)
      exact ⟨fun _ => rfl, fun _ => Table.mem_of_lookup hentry⟩
    | error failure =>
      have hout := hbooked.unregistered hc (by rw [hstage]; rfl)
      exact ⟨fun h => absurd h hout, nofun⟩

/-- The first open on a server with profiles. -/
theorem reservations_sound_local : ∃ ls s, Run (Acts localProfile) new ls s ∧
    reservations ls < 2 ^ 64 ∧ ∀ id ∈ s.registry.pendingOpens, id ∉ s.registry.handles := by
  obtain ⟨ls, run, hcount, -⟩ := run_open (admits_new (by decide) localProfile_admissionConfig)
  have hlt : reservations ls < 2 ^ 64 := by
    rw [hcount]
    decide
  exact ⟨ls, _, run, hlt, (reservations_sound run hlt).1⟩

/-- When the ids have run out, an id is reserved that is registered. -/
theorem run_reservedTwice : ∃ ls s, Run (Acts localProfile) new ls s ∧ s.stuck = false ∧
    s.registry.lifecycle = .running ∧
    ∃ id, id ∈ s.registry.pendingOpens ∧ id ∈ s.registry.handles := by
  obtain ⟨ls₁, opens, run₁, hadmits, hopens⟩ := run_exhausted
    (by decide : "local" ≠ "") localProfile_admissionConfig
  obtain ⟨ls₂, run₂, -⟩ := run_open hadmits
  obtain ⟨hagain, hnext⟩ := (Frames.refl _).admits (by decide) localProfile_admissionConfig
    (by decide) hopens hadmits.free hadmits.running
  refine ⟨_, _, (run₁.append run₂).append hagain.reserve.run, hagain.free, hagain.running,
    handleName u64Max, ?_, ?_⟩
  · exact (AList.mem_insert _).mpr (.inl (congrArg handleName hnext.symm))
  · exact (AList.mem_insert _).mpr (.inl rfl)

theorem reserved_while_registered : ∃ ls s, Run (Acts localProfile) new ls s ∧
    ∃ id, id ∈ s.registry.pendingOpens ∧ id ∈ s.registry.handles := by
  obtain ⟨ls, s, run, -, -, hid⟩ := run_reservedTwice
  exact ⟨ls, s, run, hid⟩

/-! ### The limit -/

/-- Where the step is a reservation for a profile with limits, before shutdown, `P` holds of
the state, the profile, its limits and the answer. -/
def Label.OnReserve (core : Core) (l : Label)
    (P : Registry → String → Config → Except CoreError Reservation → Prop) : Prop :=
  ∀ k profile result config, l.action = .reserve k profile result →
    l.before.registry.lifecycle = .running → profile ≠ "" →
      core.admissionConfig profile = .ok config → P l.before.registry profile config result

/-- A reservation is refused for the limit exactly when the handles that are not closed and
the reservations have reached it. -/
def Label.LimitExact (core : Core) (l : Label) : Prop :=
  l.OnReserve core fun r profile config result =>
    result = .error (coreError .handleLimit) ↔
      config.maxHandles ≤ r.profileOpen profile + r.profilePending profile

/-- Where the handles that are not closed leave room, the closed ones do not take it. -/
def Label.SlotsReturned (core : Core) (l : Label) : Prop :=
  l.OnReserve core fun r profile config _ =>
    r.profileOpen profile + r.profilePending profile < config.maxHandles →
      r.profileOpen profile + r.profileClosed profile + r.profilePending profile <
        config.maxHandles

/-- A reservation is refused for the limit exactly when all handles, closed or not, and the
reservations have reached it. -/
theorem Step.reserve_limit {k : ℕ} {profile : String} {result : Except CoreError Reservation}
    {config : Config} (h : Step core s (.reserve k profile result) t)
    (running : s.registry.lifecycle = .running) (named : profile ≠ "")
    (limits : core.admissionConfig profile = .ok config) :
    result = .error (coreError .handleLimit) ↔
      config.maxHandles ≤ s.registry.profileHandles profile + s.registry.profilePending profile := by
  have hmax := (core.admissionConfig_inRange limits .maxHandles).2
  have husize : (128 : ℕ) < usizeMax := by decide
  change config.maxHandles ≤ 128 at hmax
  cases h with
  | reserved _ _ reservation r free fresh granted =>
    have hlt := Core.reserveOpen_room granted limits
    exact ⟨nofun, fun hle => absurd hle (Nat.not_le_of_lt hlt)⟩
  | unreserved _ _ error free fresh refused =>
    unfold Core.reserveOpen at refused
    rw [if_neg (not_not.mpr running), if_neg named, limits] at refused
    simp only at refused
    split_ifs at refused with hlimit
    cases refused
    refine ⟨fun _ => ?_, fun _ => rfl⟩
    omega

/-- The limit is that of the handles that are not closed exactly when no reservation comes
where the closed handles make the difference. -/
theorem limitExact_of_run_iff (run : Run (Acts core) new ls s) :
    (∀ l ∈ ls, l.LimitExact core) ↔ ∀ l ∈ ls, l.SlotsReturned core := by
  refine run.forall_iff (I := fun _ => True) (fun s l t _ hl => ⟨?_, fun _ => trivial⟩) trivial
  obtain ⟨rfl, -, hstep⟩ := hl
  have hlimit : ∀ {k profile result config}, l.action = .reserve k profile result →
      l.before.registry.lifecycle = .running → profile ≠ "" →
      core.admissionConfig profile = .ok config →
      (result = .error (coreError .handleLimit) ↔ config.maxHandles ≤
        l.before.registry.profileOpen profile + l.before.registry.profileClosed profile +
          l.before.registry.profilePending profile) := by
    intro k profile result config haction running named limits
    rw [← Registry.profileHandles_eq]
    rw [haction] at hstep
    exact hstep.reserve_limit running named limits
  constructor
  · intro h k profile result config haction running named limits hroom
    by_contra hfull
    have hrefused := (hlimit haction running named limits).mpr (Nat.le_of_not_lt hfull)
    have := (h k profile result config haction running named limits).mp hrefused
    omega
  · intro h k profile result config haction running named limits
    rw [hlimit haction running named limits]
    refine ⟨fun hle => ?_, fun hle => by omega⟩
    by_contra hroom
    have := h k profile result config haction running named limits (Nat.lt_of_not_le hroom)
    omega

/-- The server whose only slot is reserved. -/
def oneReserved : Server :=
  new.withOpen (new.reservedRegistry 0 "local") 0 (new.reservedCall "local" oneHandle.config)

/-- The slot is reserved, and the next open is refused. -/
theorem run_refused : Run (Acts oneHandle) new
    [{ action := .reserve 0 "local" (.ok (new.reservedCall "local" oneHandle.config).reservation)
       before := new, after := oneReserved },
     { action := .reserve 1 "local" (.error (coreError .handleLimit))
       before := oneReserved, after := oneReserved }] oneReserved := by
  have hfirst : new.Admits oneHandle 0 "local" oneHandle.config := admits_new (by decide) rfl
  have hfresh : 1 ∉ oneReserved.opens := by decide
  have hrefused : oneHandle.reserveOpen oneReserved.registry "local" 1 oneReserved.now =
      .error (coreError .handleLimit) := by
    have hrunning : oneReserved.registry.lifecycle = .running := rfl
    unfold Core.reserveOpen
    rw [if_neg (not_not.mpr hrunning), if_neg (by decide)]
    exact if_pos (by decide)
  exact hfirst.reserve.cons (Step.unreserved 1 "local" _ rfl hfresh hrefused).run

/-- The second open of a server with one slot. -/
theorem limitExact_of_run_iff_second : ∃ ls s, Run (Acts oneHandle) new ls s ∧
    (∃ l ∈ ls, l.action = .reserve 1 "local" (.error (coreError .handleLimit))) ∧
    ∀ l ∈ ls, l.LimitExact oneHandle := by
  refine ⟨_, _, run_refused, ⟨_, .tail _ (.head _), rfl⟩, (limitExact_of_run_iff run_refused).mpr
    fun l hl => ?_⟩
  -- no handle is closed in either state
  simp only [List.mem_cons, List.not_mem_nil, or_false] at hl
  rcases hl with rfl | rfl <;> exact fun k profile result config _ _ _ _ hroom => hroom

/-- A handle is opened and closed, and its slot is not there for the next open. -/
theorem slot_not_returned : ∃ ls s, Run (Acts oneHandle) new ls s ∧
    ∃ l ∈ ls, ¬ l.LimitExact oneHandle := by
  obtain ⟨ls, t, entry, thread, run, -, hserving, hclosed⟩ :=
    run_openClose (by decide : "local" ≠ "") (rfl : oneHandle.admissionConfig "local" = .ok _)
  have hopens : 1 ∉ t.opens := by
    rw [Table.mem_of_view hserving.frames.opens]
    intro h
    rcases (AList.mem_insert _).mp h with h | h
    · cases h
    · exact absurd h (AList.notMem_empty _)
  have hpending : t.registry.profilePending "local" = 0 := by
    unfold Registry.profilePending
    rw [hserving.frames.pending]
    rfl
  have hhandles : t.registry.profileHandles "local" = 1 :=
    (Table.count_of_view (q := fun key : String × Config × ℕ => key.1 == "local") (fun _ => rfl)
      hserving.frames.handles).trans rfl
  have hprofile : entry.profile = "local" := by
    obtain ⟨entry', hentry', hkey⟩ := Table.exists_of_view hserving.frames.handles hserving.present
    cases (AList.lookup_insert _).symm.trans hentry'
    exact (congrArg Prod.fst hkey).symm
  have hclosedCount : 0 < t.registry.profileClosed "local" :=
    Table.count_pos hserving.present (by simp [hprofile, hclosed])
  have hrefused : oneHandle.reserveOpen t.registry "local" 1 t.now =
      .error (coreError .handleLimit) := by
    unfold Core.reserveOpen
    rw [if_neg (not_not.mpr hserving.running), if_neg (by decide), hhandles, hpending]
    exact if_pos (by decide)
  refine ⟨_, _, run.append (Step.unreserved 1 "local" _ hserving.free hopens hrefused).run, _,
    List.mem_append_right _ (List.mem_singleton_self _), fun h => ?_⟩
  have hlimit := (h 1 "local" _ _ rfl hserving.running (by decide) rfl).mp rfl
  have hsplit := t.registry.profileHandles_eq "local"
  change 1 ≤ t.registry.profileOpen "local" + t.registry.profilePending "local" at hlimit
  omega

/-! ### The limit of a server for one DSN -/

/-- The handles that are not closed and the reservations are within the limit of the server. -/
def CapKept (core : Core) (s : Server) : Prop :=
  s.registry.liveHandles + s.registry.pendingCount ≤ core.config.maxHandles

/-- No reservation finds room under its name when there is none on the server. -/
def Label.CapChecked (core : Core) (l : Label) : Prop :=
  l.OnReserve core fun r profile config _ =>
    r.profileHandles profile + r.profilePending profile < config.maxHandles →
      r.liveHandles + r.pendingCount < config.maxHandles

/-- What a granted reservation does to the number of reservations. -/
theorem Booked.pendingCount_reserve (hb : s.Booked) {k now : ℕ} {profile : String}
    {reservation : Reservation} {r : Registry}
    (granted : core.reserveOpen s.registry profile k now = .ok (reservation, r))
    (hroom : s.opens.keys.length < u64Max) :
    r.liveHandles = s.registry.liveHandles ∧ r.pendingCount = s.registry.pendingCount + 1 := by
  obtain ⟨-, -, -, -, -, rfl⟩ := Core.reserveOpen_ok granted
  exact ⟨rfl, Table.count_insert (hb.next_unreserved hroom)⟩

/-- A step other than those of opens registers no handle and opens none again. -/
theorem Staffed.liveHandles_le (hs : s.Staffed) (hb : s.Booked) (frames : s.Frames t)
    (h : s.Effect t) : t.registry.liveHandles ≤ s.registry.liveHandles := by
  refine Table.count_mono (Table.keys_of_view frames.handles) fun id entry' present' hlive => ?_
  obtain ⟨entry, present, -, hclosed, -⟩ := hs.entry hb h present'
  refine ⟨entry, present, ?_⟩
  cases hc : entry.published.closed with
  | false => rfl
  | true => simp [hclosed hc] at hlive

/-- What a step does to the number of handles and reservations: only a reservation that is
granted adds to them. -/
theorem Step.total_le {a : Action} (h : Step core s a t) (hs : s.Staffed) (hb : s.Booked)
    (hroom : s.Roomy a) : t.registry.liveHandles + t.registry.pendingCount ≤
      s.registry.liveHandles + s.registry.pendingCount +
        (Label.granted { action := a, before := s, after := t }).toNat := by
  cases ha : a.isOpen with
  | false =>
    have frames := h.frames ha
    have hlive := hs.liveHandles_le hb frames (h.effect ha)
    have hpending : t.registry.pendingCount = s.registry.pendingCount := by
      unfold Registry.pendingCount
      rw [frames.pending]
    omega
  | true =>
    cases h with
    | reserved k profile reservation r free fresh result =>
      obtain ⟨hlive, hpending⟩ := hb.pendingCount_reserve result hroom
      show r.liveHandles + r.pendingCount ≤ s.registry.liveHandles + s.registry.pendingCount + 1
      omega
    | unreserved | «open» | spawn | unpublished => exact Nat.le_refl _
    | published k c config published r free call stage result =>
      unfold Registry.publishOpen at result
      split_ifs at result
      cases result
      have hpending : s.registry.pendingCount =
          Table.count (fun _ : PendingOpen => true) (s.registry.pendingOpens.erase c.reservation.id) +
            true.toNat :=
        Table.count_erase (hb.pending k c call (by rw [stage]; rfl))
      have hhandles : Table.count (fun entry : WorkerEntry => !entry.published.closed)
          (s.registry.handles.insert c.reservation.id
            { published := published, profile := c.profile, config := config, sender := k,
              join := some k, admitted := 0 }) =
          s.registry.liveHandles + (!published.closed).toNat :=
        Table.count_insert (hb.unregistered call (by rw [stage]; rfl))
      have hlive := Bool.toNat_le (!published.closed)
      show Table.count _ (AList.insert _ _ _) + Table.count _ (AList.erase _ _) ≤ _
      rw [hhandles]
      simp only [Bool.toNat_true] at hpending
      omega
    | dismiss k c call stage =>
      split <;> exact Nat.le_refl _
    | finishOpen k c refusal backend free call stage =>
      have hle := Table.count_erase_le (p := fun _ : PendingOpen => true) s.registry.pendingOpens
        c.reservation.id
      exact Nat.add_le_add_left hle _
    | _ => cases ha

/-- A reservation under a name with room is granted. -/
theorem Core.reserveOpen_of_room (k now : ℕ) {r : Registry} {profile : String} {config : Config}
    (running : r.lifecycle = .running) (named : profile ≠ "")
    (limits : core.admissionConfig profile = .ok config)
    (room : r.profileHandles profile + r.profilePending profile < config.maxHandles) :
    ∃ granted, core.reserveOpen r profile k now = .ok granted := by
  have hlimit : ¬ config.maxHandles ≤
      min (r.profileHandles profile + r.profilePending profile) usizeMax := by
    omega
  unfold Core.reserveOpen
  rw [if_neg (not_not.mpr running), if_neg named, limits]
  simp only [if_neg hlimit]
  exact ⟨_, rfl⟩

theorem Core.reserveOpen_named {r : Registry} {profile : String} {k now : ℕ}
    {granted : Reservation × Registry} (h : core.reserveOpen r profile k now = .ok granted) :
    profile ≠ "" := by
  unfold Core.reserveOpen at h
  split_ifs at h with hrunning hempty
  exact hempty

/-- What the answer to a reservation says. -/
theorem Step.reserve_inv {k : ℕ} {profile : String} {result : Except CoreError Reservation}
    (h : Step core s (.reserve k profile result) t) :
    core.reserveOpen s.registry profile k s.now = result.map fun r => (r, t.registry) := by
  cases h with
  | reserved _ _ reservation r free fresh granted => exact granted
  | unreserved _ _ error free fresh refused => exact refused

/-- A checked step keeps the limit. -/
theorem CapKept.step (hcap : s.CapKept core) (single : core.profiles = none) (hs : s.Staffed)
    (hb : s.Booked) {l : Label} (hl : Acts core s l t) (hroom : s.Roomy l.action)
    (checked : l.CapChecked core) : t.CapKept core := by
  obtain ⟨a, s', t'⟩ := l
  obtain ⟨rfl, rfl, h⟩ := hl
  have htotal := h.total_le hs hb hroom
  unfold CapKept at hcap ⊢
  cases hgranted : Label.granted { action := a, before := s', after := t' } with
  | false =>
    rw [hgranted] at htotal
    exact htotal.trans hcap
  | true =>
    obtain ⟨k, profile, reservation, rfl⟩ := Label.granted_iff.mp hgranted
    have hlimits : core.admissionConfig profile = .ok core.config := by
      unfold Core.admissionConfig
      rw [single]
    have granted := h.reserve_inv
    obtain ⟨-, hrunning, -⟩ := Core.reserveOpen_ok granted
    have hless : s'.registry.liveHandles + s'.registry.pendingCount < core.config.maxHandles :=
      checked k profile _ core.config rfl hrunning (Core.reserveOpen_named granted) hlimits
        (Core.reserveOpen_room granted hlimits)
    rw [hgranted] at htotal
    exact htotal.trans hless

/-- Where a reservation finds room under its name and none on the server, the limit is not
kept. -/
theorem CapKept.checked {l : Label} (h : Step core l.before l.action l.after)
    (hb : l.before.Booked) (hroom : l.before.Roomy l.action) (single : core.profiles = none)
    (hcap : l.after.CapKept core) : l.CapChecked core := by
  intro k profile result config haction running named limits room
  by_contra hfull
  have hconfig : config = core.config := by
    unfold Core.admissionConfig at limits
    rw [single] at limits
    exact (Except.ok.inj limits).symm
  obtain ⟨granted, hgranted⟩ := Core.reserveOpen_of_room k l.before.now running named
    limits room
  rw [haction] at h
  have hanswer := h.reserve_inv
  cases result with
  | error error =>
    rw [hgranted] at hanswer
    cases hanswer
  | ok reservation =>
    rw [haction] at hroom
    obtain ⟨hlive, hpending⟩ := hb.pendingCount_reserve hanswer hroom
    unfold CapKept at hcap
    rw [hlive, hpending, ← hconfig] at hcap
    omega

/-- With fewer than `2 ^ 64` reservations, the limit of a server for one DSN is kept exactly
when no reservation finds room under its name where there is none on the server. -/
theorem capKept_of_run_iff (single : core.profiles = none) (run : Run (Acts core) new ls s)
    (hbound : reservations ls < 2 ^ 64) :
    (∀ l ∈ ls, l.after.CapKept core) ↔ ∀ l ∈ ls, l.CapChecked core := by
  have hle : reservations ls ≤ u64Max := by
    rw [u64Max_eq]
    omega
  constructor
  · intro h l hl
    obtain ⟨pre, post, rfl, before, step, -⟩ := reached_of_mem run hl
    have hpre := (reservations_le_of_append (pre ++ [l]) post).trans hle
    refine CapKept.checked step (booked_of_run before
      ((reservations_le_of_append pre [l]).trans hpre)) ?_ single (h l hl)
    refine Acts.roomy (t := l.after) (l := l) ⟨rfl, rfl, step⟩ fun hgranted => ?_
    rw [length_of_run before]
    rw [reservations_append, hgranted] at hpre
    exact hpre
  · intro h l hl
    obtain ⟨pre, post, rfl, -, -, after⟩ := reached_of_mem run hl
    have hnew : new.Booked ∧ new.Staffed ∧ new.CapKept core :=
      ⟨booked_new, staffed_new, Nat.zero_le _⟩
    refine (invariant_of_run (I := fun s => s.Booked ∧ s.Staffed ∧ s.CapKept core)
      (G := fun l => l.CapChecked core) hnew ?_ after (fun l' hl' => h l' ?_)
      ((reservations_le_of_append _ post).trans hle)).2.2
    · rintro s l t ⟨hb, hs, hcap⟩ hl hroom checked
      exact ⟨hb.step hl.2.2 (hb.newId hl.2.2 hroom), hs.step hb hl.2.2, hcap.step single hs hb hl
        hroom checked⟩
    · exact List.mem_append_left _ hl'

/-- The second open of a server with one slot, under the same name. -/
theorem capKept_of_run_iff_second : oneHandle.profiles = none ∧ ∃ ls s,
    Run (Acts oneHandle) new ls s ∧ reservations ls < 2 ^ 64 ∧
      (∃ l ∈ ls, l.action = .reserve 1 "local" (.error (coreError .handleLimit))) ∧
      ∀ l ∈ ls, l.after.CapKept oneHandle := by
  refine ⟨rfl, _, _, run_refused, by decide, ⟨_, .tail _ (.head _), rfl⟩,
    (capKept_of_run_iff rfl run_refused (by decide)).mpr fun l hl => ?_⟩
  simp only [List.mem_cons, List.not_mem_nil, or_false] at hl
  rcases hl with rfl | rfl
  · exact fun k profile result config _ _ _ _ hroom => hroom
  · intro k profile result config haction _ _ limits hroom
    cases haction
    cases limits
    exact absurd hroom (by decide)

/-- Two opens under different names exceed the limit of one handle. -/
theorem cap_exceeded : oneHandle.profiles = none ∧ ∃ ls s, Run (Acts oneHandle) new ls s ∧
    reservations ls = 2 ∧ ∃ l ∈ ls, ¬ l.after.CapKept oneHandle := by
  have hfirst : new.Admits oneHandle 0 "first" oneHandle.config := admits_new (by decide) rfl
  have hone : (1 : ℕ) < u64Max := by
    rw [u64Max_eq]
    decide
  generalize ht : new.withOpen (new.reservedRegistry 0 "first") 0
    (new.reservedCall "first" oneHandle.config) = t at *
  have run := hfirst.reserve.run
  rw [ht] at run
  have hb : t.Booked := booked_of_run run hone.le
  have hlength : t.opens.keys.length < u64Max := by
    rw [length_of_run run]
    exact hone
  have hsecond : t.Admits oneHandle 1 "second" oneHandle.config := by
    refine ⟨?_, ?_, ?_, by decide, rfl, ?_, hb.next_unreserved hlength⟩ <;> subst ht
    · rfl
    · rfl
    · decide
    · decide
  refine ⟨rfl, _, _, run.append hsecond.reserve.run, rfl, _,
    List.mem_append_right _ (List.mem_singleton_self _), fun hcap => ?_⟩
  obtain ⟨hlive, hpending⟩ := hb.pendingCount_reserve hsecond.reserve.reserve_inv hlength
  have hcount : t.registry.pendingCount = 1 := by
    subst ht
    rfl
  unfold CapKept at hcap
  rw [hpending, hcount] at hcap
  change _ ≤ 1 at hcap
  omega

end Server

end PgMcp
