import PgMcp.Core.Reservations
import PgMcp.Worker.Publication

/-!
# The workers of the handles

Every registered handle has the thread its open has started.  A thread that serves a handle
is the only one that publishes its snapshots, and publishes it as closed once.

## Main definitions

* `Thread.Fits` — the stage of a thread tells whether its handle is closed.
* `Server.Effect` — what a step does to the threads and to the entries of the handles.
* `Server.Staffed` — every registered handle has its thread.

## Main results

* `Server.Step.effect` — every step that is not one of an open has such an effect.
* `Server.Staffed.step` — a step keeps the threads.
-/

namespace PgMcp

open Program

/-- The stage of a thread tells whether its handle is published as closed. -/
def Thread.Fits (t : Thread) (closed : Bool) : Prop :=
  match t.stage with
  | .idle | .serving _ _ | .cleaning _ | .closing _ _ => closed = false
  | .publishing _ operation result published =>
    closed = false ∧ published.closed = closeSucceeded operation result
  | .settling _ operation result => closed = closeSucceeded operation result
  | .replying _ flag _ | .releasing flag => closed = flag
  | .reporting _ _ | .leaving | .left | .finished _ => closed = true

theorem Thread.Fits.of_stage {t t' : Thread} {closed : Bool} (h : t.Fits closed)
    (same : t'.stage = t.stage) : t'.Fits closed := by
  unfold Fits at h ⊢
  rw [same]
  exact h

/-- What of an entry matters to its worker: all but the counter of admissions. -/
def WorkerEntry.bond (entry : WorkerEntry) : (String × Config × ℕ) × PublishedHandle × Option ℕ :=
  (entry.key, entry.published, entry.join)

theorem WorkerEntry.sender_of_key {entry entry' : WorkerEntry} (h : entry'.key = entry.key) :
    entry'.sender = entry.sender :=
  congrArg (fun key => key.2.2) h

/-- The entries, without their counters of admissions. -/
def Registry.bonds (r : Registry) :
    List (String × (String × Config × ℕ) × PublishedHandle × Option ℕ) :=
  r.handles.view WorkerEntry.bond

theorem Registry.bonds_publish_id (r : Registry) (handle : String) :
    (r.publish handle id).bonds = r.bonds :=
  Table.view_modify fun _ _ => rfl

theorem Registry.bonds_admitted (r : Registry) (handle : String) (f : ℕ → ℕ) :
    (r.modify handle fun entry => { entry with admitted := f entry.admitted }).bonds = r.bonds :=
  Table.view_modify fun _ _ => rfl

theorem Admission.bonds {send : ℕ → TrySend} {r r' : Registry} {handle : String}
    {result : Except CoreFailure ℕ} (h : Admission send r handle result r') : r'.bonds = r.bonds := by
  cases h with
  | stopping | unknown | busy => rfl
  | rejected entry code running present live free queue r' same =>
    subst same
    exact (Registry.bonds_admitted _ handle (· - 1)).trans (r.bonds_admitted handle (· + 1))
  | sent => exact r.bonds_admitted handle (· + 1)

/-- The open has come past the start of its thread, or it has failed. -/
def OpenStage.started : OpenStage → Bool
  | .resolving | .connecting _ _ | .connected _ _ _ | .closing _ _ | .spawning _ _ _ => false
  | _ => true

/-- Between its critical sections an open that has started its thread stays where it has,
and none comes to the point where it registers its handle. -/
theorem OpenCall.Moves.started {core : Core} {now : ℕ} {c : OpenCall} {stage : OpenStage}
    (h : c.Moves core now stage) : (c.stage.started = true → stage.started = true) ∧
      ∀ config published, stage ≠ .publishing config published := by
  cases h with
  | resolved command config dsn before | connected config dsn database backend before
  | interrupted config database backend before | unusable config database backend before
  | accepted config database backend before =>
    rw [before]
    exact ⟨nofun, nofun⟩
  | unresolved | unconnected | closed | unspawned | panicked | returned =>
    exact ⟨fun _ => rfl, nofun⟩

/-- The worker the cleanup has turned to, with its handle. -/
def CleanupStage.target : CleanupStage → Option (String × ℕ)
  | .enqueuing id k | .enqueued id k | .awaiting id k => some (id, k)
  | _ => none

namespace Server

variable {core : Core} {s t : Server}

/-! ### What a step does to the threads -/

/-- What a step that is not one of an open does to the threads and the entries. -/
inductive Effect (s t : Server) : Prop where
  | quiet (threads : t.threads = s.threads) (bonds : t.registry.bonds = s.registry.bonds)
  /-- A request is put into a queue. -/
  | send (k : ℕ) (request : Request)
      (receiver : (∃ id entry, s.registry.handles.lookup id = some entry ∧ entry.sender = k) ∨
        (∃ c id, s.cleanup = some c ∧ c.stage = .enqueuing id k) ∨
        ∃ c, s.opens.lookup k = some c ∧ c.stage = .dismissing)
      (threads : t.threads = s.threads.modify k (Thread.push request))
      (bonds : t.registry.bonds = s.registry.bonds)
  /-- A thread goes on, and publishes. -/
  | work (k : ℕ) (thread : Thread) (f : Thread → Thread) (g : PublishedHandle → PublishedHandle)
      (lookup : s.threads.lookup k = some thread) (unfinished : thread.stage.isFinished = false)
      (busy : thread.stage = .idle → thread.queue ≠ [])
      (handle : (f thread).handle = thread.handle)
      (ends : ∀ time, (f thread).stage = .finished time → time = s.now)
      (fits : ∀ entry, s.registry.handles.lookup thread.handle = some entry →
        thread.Fits entry.published.closed → (f thread).Fits (g entry.published).closed ∧
          (entry.published.closed = true → (g entry.published).closed = true))
      (threads : t.threads = s.threads.modify k f)
      (bonds : t.registry.bonds = (s.registry.publish thread.handle g).bonds)
  /-- A thread that has ended is joined. -/
  | join (id : String) (finished : s.isFinished id = true) (threads : t.threads = s.threads)
      (bonds : t.registry.bonds = (s.join id).registry.bonds)

/-- A thread goes on without publishing. -/
theorem Effect.silent {k : ℕ} {thread : Thread} {f : Thread → Thread}
    (lookup : s.threads.lookup k = some thread) (unfinished : thread.stage.isFinished = false)
    (busy : thread.stage = .idle → thread.queue ≠ []) (handle : (f thread).handle = thread.handle)
    (ends : ∀ time, (f thread).stage = .finished time → time = s.now)
    (fits : ∀ closed, thread.Fits closed → (f thread).Fits closed)
    (threads : t.threads = s.threads.modify k f) (bonds : t.registry.bonds = s.registry.bonds) :
    s.Effect t :=
  .work k thread f id lookup unfinished busy handle ends (fun _ _ h => ⟨fits _ h, fun hc => hc⟩) threads
    (bonds.trans (s.registry.bonds_publish_id _).symm)

/-- Every step that is not one of an open has such an effect. -/
theorem Step.effect {a : Action} (h : Step core s a t) (ha : a.isOpen = false) : s.Effect t := by
  cases h with
  | reserved | unreserved | «open» | spawn | published | unpublished | dismiss | finishOpen =>
    cases ha
  | admitted n c k r free call stage result =>
    obtain ⟨r', hr, hadmission⟩ := Admission.of_returns result
    cases hr
    refine .send k _ (.inl ?_) rfl hadmission.bonds
    cases hadmission with
    | sent entry running present => exact ⟨_, entry, present, rfl⟩
  | unadmitted n c failure r free call stage result =>
    obtain ⟨r', hr, hadmission⟩ := Admission.of_returns result
    cases hr
    exact .quiet rfl hadmission.bonds
  | take k thread request rest lookup stage queue =>
    refine .silent lookup (by rw [stage]; rfl) (fun _ => by rw [queue]; simp) rfl
      (by cases request <;> nofun) ?_ rfl rfl
    intro closed hfits
    unfold Thread.Fits at hfits
    rw [stage] at hfits
    cases request <;> exact hfits
  -- the snapshot is published by the next step only
  | execute k thread call operation entry env rounds result w free lookup stage present runs =>
    refine .work k thread _ id lookup (by rw [stage]; rfl) (by rw [stage]; nofun) rfl (by nofun) ?_
      rfl (s.registry.bonds_publish_id _).symm
    intro entry' present' hfits
    rw [present, Option.some.injEq] at present'
    subst present'
    unfold Thread.Fits at hfits
    rw [stage] at hfits
    refine ⟨⟨hfits, ?_⟩, fun h => h⟩
    exact ((executeOperation_post _ _ _ _ _).returns runs).closed hfits
  | record k thread call operation result published free lookup stage =>
    refine .work k thread _ (fun _ => published) lookup (by rw [stage]; rfl) (by rw [stage]; nofun)
      rfl (by nofun) ?_ rfl rfl
    intro entry present hfits
    unfold Thread.Fits at hfits
    rw [stage] at hfits
    refine ⟨hfits.2, fun h => ?_⟩
    rw [hfits.1] at h
    cases h
  -- settling touches the observation, never the closed flag
  | settle k thread call operation result entry w free lookup stage present settled =>
    refine .work k thread _ (fun _ => w.published) lookup (by rw [stage]; rfl) (by rw [stage]; nofun)
      rfl (by nofun) ?_ rfl rfl
    intro entry' present' hfits
    rw [present, Option.some.injEq] at present'
    subst present'
    have hclosed : w.published.closed = entry.published.closed := by
      rw [settled]
      exact settle_closed _ _ _ _
    unfold Thread.Fits at hfits
    rw [stage] at hfits
    exact ⟨hclosed.trans hfits, fun h => hclosed.trans h⟩
  | reply k thread call closed reply lookup stage =>
    refine .silent lookup (by rw [stage]; rfl) (by rw [stage]; nofun) rfl (by nofun) ?_ rfl rfl
    intro flag hfits
    unfold Thread.Fits at hfits
    rw [stage] at hfits
    exact hfits
  | release k thread closed free lookup stage =>
    refine .silent lookup (by rw [stage]; rfl) (by rw [stage]; nofun) rfl (by cases closed <;> nofun)
      ?_ rfl
      (s.registry.bonds_admitted _ (· - 1))
    intro flag hfits
    unfold Thread.Fits at hfits
    rw [stage] at hfits
    cases closed <;> exact hfits
  | clean k thread reply env rounds result backend lookup stage runs =>
    refine .silent lookup (by rw [stage]; rfl) (by rw [stage]; nofun) rfl (by nofun) ?_ rfl rfl
    intro flag hfits
    unfold Thread.Fits at hfits
    rw [stage] at hfits
    exact hfits
  | close k thread entry reply free lookup stage =>
    refine .work k thread _ PublishedHandle.publishClosed lookup (by rw [stage]; rfl)
      (by rw [stage]; nofun) rfl (by nofun) ?_ rfl rfl
    intro entry' present hfits
    exact ⟨rfl, fun _ => rfl⟩
  | report k thread entry reply lookup stage =>
    refine .silent lookup (by rw [stage]; rfl) (by rw [stage]; nofun) rfl (by nofun) ?_ rfl rfl
    intro flag hfits
    unfold Thread.Fits at hfits
    rw [stage] at hfits
    exact hfits
  | leave k thread lookup stage =>
    refine .silent lookup (by rw [stage]; rfl) (by rw [stage]; nofun) rfl (by nofun) ?_ rfl rfl
    intro flag hfits
    unfold Thread.Fits at hfits
    rw [stage] at hfits
    exact hfits
  -- a thread ends at the time of the step
  | finish k thread lookup stage =>
    refine .silent lookup (by rw [stage]; rfl) (by rw [stage]; nofun) rfl
      (fun time h => (ThreadStage.finished.inj h).symm) ?_ rfl rfl
    intro flag hfits
    unfold Thread.Fits at hfits
    rw [stage] at hfits
    exact hfits
  | joined c id free cleanup stage finished => exact .join id finished rfl rfl
  | join c id entry free cleanup stage finished => exact .join id finished rfl rfl
  | enqueue c id k cleanup stage room => exact .send k _ (.inr (.inl ⟨c, id, cleanup, stage⟩)) rfl rfl
  | _ => exact .quiet rfl rfl

/-- The threads after a step are those before it, as far as their handles are concerned, and
a thread that has ended stays as it is. -/
theorem Effect.thread (h : s.Effect t) {k : ℕ} {thread' : Thread}
    (hk : t.threads.lookup k = some thread') : ∃ thread, s.threads.lookup k = some thread ∧
      thread'.handle = thread.handle ∧
      (thread.stage.isFinished = true → thread'.stage = thread.stage) := by
  cases h with
  | quiet threads | join _ _ threads =>
    rw [threads] at hk
    exact ⟨thread', hk, rfl, fun _ => rfl⟩
  | send k₀ request receiver threads =>
    rw [threads, Table.lookup_modify] at hk
    split at hk
    · next heq =>
      rw [← heq] at hk
      obtain ⟨thread, hthread, rfl⟩ := Option.map_eq_some_iff.mp hk
      exact ⟨thread, hthread, rfl, fun _ => rfl⟩
    · exact ⟨thread', hk, rfl, fun _ => rfl⟩
  | work k₀ thread f g lookup unfinished busy handle ends fits threads =>
    rw [threads, Table.lookup_modify] at hk
    split at hk
    · next heq =>
      rw [lookup, Option.map_some, Option.some.injEq] at hk
      subst hk heq
      refine ⟨thread, lookup, handle, fun h => ?_⟩
      rw [unfinished] at h
      cases h
    · exact ⟨thread', hk, rfl, fun _ => rfl⟩

/-- A thread is still there after a step. -/
theorem Effect.thread_after (h : s.Effect t) {k : ℕ} {thread : Thread}
    (hk : s.threads.lookup k = some thread) : ∃ thread', t.threads.lookup k = some thread' := by
  cases h with
  | quiet threads | join _ _ threads =>
    rw [threads]
    exact ⟨thread, hk⟩
  | send k₀ request receiver threads | work k₀ _ f g _ _ _ _ _ _ threads =>
    rw [threads, Table.lookup_modify]
    split
    · next heq =>
      subst heq
      rw [hk]
      exact ⟨_, rfl⟩
    · exact ⟨thread, hk⟩

/-- A thread that has ended has ended. -/
theorem Effect.finished (h : s.Effect t) {k : ℕ} {thread : Thread}
    (hk : s.threads.lookup k = some thread) (finished : thread.stage.isFinished = true) :
    ∃ thread', t.threads.lookup k = some thread' ∧ thread'.stage.isFinished = true := by
  obtain ⟨thread', hk'⟩ := h.thread_after hk
  obtain ⟨thread₀, hk₀, -, hsame⟩ := h.thread hk'
  rw [hk, Option.some.injEq] at hk₀
  subst hk₀
  exact ⟨thread', hk', by rw [hsame finished]; exact finished⟩

/-! ### The threads of the handles -/

/-- Every registered handle has the thread its open has started. -/
structure Staffed (s : Server) : Prop where
  starter : ∀ k thread, s.threads.lookup k = some thread → ∃ c, s.opens.lookup k = some c ∧
    thread.handle = c.reservation.id ∧ c.stage.started = true
  waiting : ∀ k c config published, s.opens.lookup k = some c →
    c.stage = .publishing config published → published.closed = false ∧
      ∃ thread, s.threads.lookup k = some thread ∧ thread.stage = .idle ∧ thread.queue = []
  worker : ∀ id entry, s.registry.handles.lookup id = some entry →
    ∃ thread, s.threads.lookup entry.sender = some thread ∧ thread.Fits entry.published.closed
  joined : ∀ id entry, s.registry.handles.lookup id = some entry →
    entry.join = some entry.sender ∨ entry.join = none ∧
      ∃ thread, s.threads.lookup entry.sender = some thread ∧ thread.stage.isFinished = true
  target : ∀ c id k, s.cleanup = some c → c.stage.target = some (id, k) →
    ∃ entry, s.registry.handles.lookup id = some entry ∧ entry.sender = k

theorem staffed_new : new.Staffed where
  starter k thread h := by simp [new] at h
  waiting k c config published h := by simp [new] at h
  worker id entry h := by simp [new, Registry.new] at h
  joined id entry h := by simp [new, Registry.new] at h
  target c id k h := by cases h

/-- The thread of a handle is the one with the handle's id. -/
theorem Staffed.sender_iff (hs : s.Staffed) (hb : s.Booked) {k : ℕ} {thread : Thread} {id : String}
    {entry : WorkerEntry} (hk : s.threads.lookup k = some thread)
    (present : s.registry.handles.lookup id = some entry) :
    entry.sender = k ↔ id = thread.handle := by
  obtain ⟨c, hc, hid, -⟩ := hs.starter k thread hk
  obtain ⟨d, hd, hid', -⟩ := hb.opener id entry present
  constructor
  · rintro rfl
    rw [hc, Option.some.injEq] at hd
    rw [hid, hd, hid']
  · rintro rfl
    exact hb.distinct _ _ _ _ hd hc (hid'.trans hid)

/-- The thread of an open that has not registered its handle serves no handle. -/
theorem Staffed.not_sender (hb : s.Booked) {k : ℕ} {c : OpenCall}
    (hc : s.opens.lookup k = some c) (h : c.stage.registers = false) {id : String}
    {entry : WorkerEntry} (present : s.registry.handles.lookup id = some entry) :
    entry.sender ≠ k := by
  rintro rfl
  obtain ⟨d, hd, -, hregisters⟩ := hb.opener id entry present
  rw [hc, Option.some.injEq] at hd
  subst hd
  rw [h] at hregisters
  cases hregisters

/-- The worker the cleanup turns to is that of a handle. -/
theorem Step.target {a : Action} (h : Step core s a t) {c : Cleanup} {id : String} {k : ℕ}
    (hc : t.cleanup = some c) (htarget : c.stage.target = some (id, k)) :
    (∃ d, s.cleanup = some d ∧ d.stage.target = some (id, k)) ∨
      ∃ entry, s.registry.handles.lookup id = some entry ∧ entry.sender = k := by
  cases h with
  | shutdown | signal | late | visit | visited | missing | closed | joined | unjoined | rejoin
  | abandoned | unsent | overdue | answered | dropped | unanswered | join | unready | pending
  | repoll | expired | freeze =>
    cases hc
    cases htarget
  | live d id' entry free cleanup stage present =>
    cases hc
    cases htarget
    exact .inr ⟨entry, present, rfl⟩
  | enqueue d id' k' cleanup stage | unreceived d id' k' cleanup stage
  | check d id' k' cleanup stage =>
    cases hc
    cases htarget
    exact .inl ⟨d, cleanup, by rw [stage]; rfl⟩
  | released d id' rest free cleanup stage =>
    cases hc
    rw [stage] at htarget
    cases htarget
  | dismiss =>
    refine .inl ⟨c, ?_, htarget⟩
    rw [← hc]
    simp only [setOpen]
    split <;> rfl
  | _ => exact .inl ⟨c, hc, htarget⟩

theorem lookup_publish_some {r : Registry} {id handle : String} {entry' : WorkerEntry}
    {g : PublishedHandle → PublishedHandle}
    (h : (r.publish handle g).handles.lookup id = some entry') :
    ∃ entry, r.handles.lookup id = some entry ∧ entry'.key = entry.key ∧ entry'.join = entry.join ∧
      entry'.published = if id = handle then g entry.published else entry.published := by
  unfold Registry.publish Registry.modify at h
  rw [Table.lookup_modify] at h
  split at h
  · next heq =>
    subst heq
    obtain ⟨entry, hentry, rfl⟩ := Option.map_eq_some_iff.mp h
    exact ⟨entry, hentry, rfl, rfl, (if_pos rfl).symm⟩
  · next hne => exact ⟨entry', h, rfl, rfl, (if_neg hne).symm⟩

theorem lookup_join_some {id handle : String} {entry' : WorkerEntry}
    (h : (s.join handle).registry.handles.lookup id = some entry') :
    ∃ entry, s.registry.handles.lookup id = some entry ∧ entry'.key = entry.key ∧
      entry'.published = entry.published ∧
      entry'.join = if id = handle then none else entry.join := by
  unfold join setRegistry Registry.modify at h
  simp only at h
  rw [Table.lookup_modify] at h
  split at h
  · next heq =>
    subst heq
    obtain ⟨entry, hentry, rfl⟩ := Option.map_eq_some_iff.mp h
    exact ⟨entry, hentry, rfl, rfl, (if_pos rfl).symm⟩
  · next hne => exact ⟨entry', h, rfl, rfl, (if_neg hne).symm⟩

/-- The thread of a handle that is found finished has ended. -/
theorem Staffed.finished (hs : s.Staffed) {id : String} {entry : WorkerEntry}
    (present : s.registry.handles.lookup id = some entry) (h : s.isFinished id = true) :
    ∃ thread, s.threads.lookup entry.sender = some thread ∧ thread.stage.isFinished = true := by
  rcases hs.joined id entry present with hjoin | ⟨-, hended⟩
  · unfold isFinished at h
    rw [present] at h
    simp only [hjoin] at h
    obtain ⟨thread, hthread, -⟩ := hs.worker id entry present
    rw [hthread] at h
    exact ⟨thread, hthread, h⟩
  · exact hended

/-- The thread of a handle that is not found finished has not ended. -/
theorem Staffed.unfinished (hs : s.Staffed) {id : String} {entry : WorkerEntry}
    (present : s.registry.handles.lookup id = some entry) (h : s.isFinished id = false) :
    ∃ thread, s.threads.lookup entry.sender = some thread ∧ thread.stage.isFinished = false := by
  obtain ⟨thread, hthread, -⟩ := hs.worker id entry present
  unfold isFinished at h
  rw [present] at h
  rcases hs.joined id entry present with hjoin | ⟨hjoin, -⟩
  · simp only [hjoin] at h
    rw [hthread] at h
    exact ⟨thread, hthread, h⟩
  · simp only [hjoin] at h
    cases h

/-- The entries after a step are those before it, and a closed handle stays closed. -/
theorem Staffed.entry (hs : s.Staffed) (hb : s.Booked) (h : s.Effect t) {id : String}
    {entry' : WorkerEntry} (present' : t.registry.handles.lookup id = some entry') :
    ∃ entry, s.registry.handles.lookup id = some entry ∧ entry'.key = entry.key ∧
      (entry.published.closed = true → entry'.published.closed = true) ∧
      (∃ thread, t.threads.lookup entry'.sender = some thread ∧
        thread.Fits entry'.published.closed) ∧
      (entry'.join = some entry'.sender ∨ entry'.join = none ∧
        ∃ thread, t.threads.lookup entry'.sender = some thread ∧
          thread.stage.isFinished = true) := by
  -- a join handle is only ever taken
  have hjoined : ∀ {entry : WorkerEntry}, s.registry.handles.lookup id = some entry →
      entry'.sender = entry.sender → entry'.join = entry.join →
      (entry'.join = some entry'.sender ∨ entry'.join = none ∧
        ∃ thread, t.threads.lookup entry'.sender = some thread ∧
          thread.stage.isFinished = true) := by
    intro entry present hsender hjoin
    rw [hsender, hjoin]
    rcases hs.joined id entry present with hsome | ⟨hnone, thread, hthread, hended⟩
    · exact .inl hsome
    · exact .inr ⟨hnone, h.finished hthread hended⟩
  have hsame : t.registry.bonds = s.registry.bonds → ∃ entry,
      s.registry.handles.lookup id = some entry ∧ entry'.key = entry.key ∧
        entry'.published = entry.published ∧ entry'.join = entry.join := by
    intro bonds
    obtain ⟨entry, present, hbond⟩ := Table.exists_of_view bonds present'
    simp only [WorkerEntry.bond, Prod.mk.injEq] at hbond
    exact ⟨entry, present, hbond.1.symm, hbond.2.1.symm, hbond.2.2.symm⟩
  cases h with
  | quiet threads bonds =>
    obtain ⟨entry, present, hkey, hpublished, hjoin⟩ := hsame bonds
    have hsender := WorkerEntry.sender_of_key hkey
    refine ⟨entry, present, hkey, fun hc => by rw [hpublished, hc], ?_, hjoined present hsender hjoin⟩
    rw [threads, hsender, hpublished]
    exact hs.worker id entry present
  | send k request receiver threads bonds =>
    obtain ⟨entry, present, hkey, hpublished, hjoin⟩ := hsame bonds
    have hsender := WorkerEntry.sender_of_key hkey
    refine ⟨entry, present, hkey, fun hc => by rw [hpublished, hc], ?_, hjoined present hsender hjoin⟩
    obtain ⟨thread, hthread, hfits⟩ := hs.worker id entry present
    rw [threads, hsender, hpublished, Table.lookup_modify]
    split
    · next heq =>
      rw [← heq, hthread]
      exact ⟨_, rfl, hfits.of_stage rfl⟩
    · exact ⟨thread, hthread, hfits⟩
  | work k thread f g lookup unfinished busy handle ends fits threads bonds =>
    obtain ⟨entry₁, present₁, hbond⟩ := Table.exists_of_view bonds present'
    simp only [WorkerEntry.bond, Prod.mk.injEq] at hbond
    obtain ⟨entry, present, hkey, hjoin, hpublished⟩ := lookup_publish_some present₁
    have hkey' := hbond.1.symm.trans hkey
    have hsender := WorkerEntry.sender_of_key hkey'
    have hserves := hs.sender_iff hb lookup present
    obtain ⟨thread₁, hthread₁, hfits₁⟩ := hs.worker id entry present
    have hgoes : (entry.published.closed = true → entry'.published.closed = true) ∧
        ∃ thread', t.threads.lookup entry'.sender = some thread' ∧
          thread'.Fits entry'.published.closed := by
      rw [← hbond.2.1, hpublished, threads, hsender, Table.lookup_modify]
      by_cases hk : entry.sender = k
      · have hid := hserves.mp hk
        rw [hk, lookup, Option.some.injEq] at hthread₁
        subst hthread₁
        obtain ⟨hfits, hstays⟩ := fits entry (hid ▸ present) hfits₁
        rw [if_pos hid, if_pos hk, lookup]
        exact ⟨hstays, _, rfl, hfits⟩
      · have hid : id ≠ thread.handle := fun h => hk (hserves.mpr h)
        rw [if_neg hid, if_neg hk]
        exact ⟨fun h => h, thread₁, hthread₁, hfits₁⟩
    exact ⟨entry, present, hkey', hgoes.1, hgoes.2,
      hjoined present hsender (hbond.2.2.symm.trans hjoin)⟩
  | join id₀ finished threads bonds =>
    obtain ⟨entry₁, present₁, hbond⟩ := Table.exists_of_view bonds present'
    simp only [WorkerEntry.bond, Prod.mk.injEq] at hbond
    obtain ⟨entry, present, hkey, hpublished, hjoin⟩ := lookup_join_some present₁
    have hkey' := hbond.1.symm.trans hkey
    have hsender := WorkerEntry.sender_of_key hkey'
    have hpublished' := hbond.2.1.symm.trans hpublished
    refine ⟨entry, present, hkey', fun hc => by rw [hpublished', hc], ?_, ?_⟩
    · rw [threads, hsender, hpublished']
      exact hs.worker id entry present
    · by_cases hid : id = id₀
      · subst hid
        rw [if_pos rfl] at hjoin
        refine .inr ⟨hbond.2.2.symm.trans hjoin, ?_⟩
        rw [threads, hsender]
        exact hs.finished present finished
      · rw [if_neg hid] at hjoin
        exact hjoined present hsender (hbond.2.2.symm.trans hjoin)

/-- Nobody disturbs the thread of an open that is about to register its handle. -/
theorem Staffed.resting (hs : s.Staffed) (hb : s.Booked) (h : s.Effect t) {k : ℕ} {c : OpenCall}
    {config : Config} {published : PublishedHandle} (hc : s.opens.lookup k = some c)
    (hstage : c.stage = .publishing config published) {thread : Thread}
    (hthread : s.threads.lookup k = some thread) (hidle : thread.stage = .idle)
    (hqueue : thread.queue = []) : t.threads.lookup k = some thread := by
  have hunregistered : ∀ id entry, s.registry.handles.lookup id = some entry → entry.sender ≠ k :=
    fun id entry => Staffed.not_sender hb hc (by rw [hstage]; rfl)
  cases h with
  | quiet threads | join _ _ threads => rw [threads, hthread]
  | send k₀ request receiver threads =>
    have hne : k ≠ k₀ := by
      rintro rfl
      rcases receiver with ⟨id, entry, present, hsender⟩ | ⟨d', id, hcleanup, hstage'⟩ |
        ⟨d', hd', hstage'⟩
      · exact hunregistered id entry present hsender
      · obtain ⟨entry, present, hsender⟩ := hs.target d' id k hcleanup (by rw [hstage']; rfl)
        exact hunregistered id entry present hsender
      · rw [hc, Option.some.injEq] at hd'
        subst hd'
        rw [hstage] at hstage'
        cases hstage'
    rw [threads, Table.lookup_modify_ne hne, hthread]
  | work k₀ thread₀ f g lookup unfinished busy handle ends fits threads =>
    have hne : k ≠ k₀ := by
      rintro rfl
      rw [hthread, Option.some.injEq] at lookup
      subst lookup
      exact busy hidle hqueue
    rw [threads, Table.lookup_modify_ne hne, hthread]

/-- What a step that is not one of an open leaves of the threads of the handles. -/
theorem Staffed.effect (hs : s.Staffed) (hb : s.Booked) (frames : s.Frames t) (h : s.Effect t)
    (htarget : ∀ c id k, t.cleanup = some c → c.stage.target = some (id, k) →
      ∃ entry, s.registry.handles.lookup id = some entry ∧ entry.sender = k) : t.Staffed := by
  have hopen : ∀ {k d}, s.opens.lookup k = some d → ∃ c, t.opens.lookup k = some c ∧
      c.reservation = d.reservation ∧ c.stage = d.stage := by
    intro k d hd
    obtain ⟨c, hc, hcore⟩ := Table.exists_of_view frames.opens.symm hd
    simp only [OpenCall.core, Prod.mk.injEq] at hcore
    exact ⟨c, hc, hcore.1, hcore.2.2⟩
  constructor
  · intro k thread' hk
    obtain ⟨thread, hthread, hhandle, -⟩ := h.thread hk
    obtain ⟨d, hd, hid, hstarted⟩ := hs.starter k thread hthread
    obtain ⟨c, hc, hres, hstage⟩ := hopen hd
    exact ⟨c, hc, by rw [hhandle, hid, hres], by rw [hstage, hstarted]⟩
  · intro k c config published hc hstage
    obtain ⟨d, hd, hcore⟩ := Table.exists_of_view frames.opens hc
    simp only [OpenCall.core, Prod.mk.injEq] at hcore
    rw [← hcore.2.2] at hstage
    obtain ⟨hlive, thread, hthread, hidle, hqueue⟩ := hs.waiting k d config published hd hstage
    exact ⟨hlive, thread, hs.resting hb h hd hstage hthread hidle hqueue, hidle, hqueue⟩
  · intro id entry' present'
    obtain ⟨-, -, -, -, hworker, -⟩ := hs.entry hb h present'
    exact hworker
  · intro id entry' present'
    obtain ⟨-, -, -, -, -, hjoin⟩ := hs.entry hb h present'
    exact hjoin
  · intro c id k hc hk
    obtain ⟨entry, present, hsender⟩ := htarget c id k hc hk
    obtain ⟨entry', present', hkey⟩ := Table.exists_of_view frames.handles.symm present
    simp only [WorkerEntry.key, Prod.mk.injEq] at hkey
    exact ⟨entry', present', by rw [hkey.2.2, hsender]⟩

/-- An open goes on, and its thread is not started. -/
theorem Staffed.setOpen (hs : s.Staffed) {k : ℕ} {c : OpenCall} {stage : OpenStage}
    (call : s.opens.lookup k = some c) (started : c.stage.started = true → stage.started = true)
    (quiet : ∀ config published, stage ≠ .publishing config published) :
    (s.setOpen k stage).Staffed where
  starter k' thread hk' := by
    obtain ⟨d, hd, hid, hstarted⟩ := hs.starter k' thread hk'
    by_cases hk : k' = k
    · subst hk
      rw [call, Option.some.injEq] at hd
      subst hd
      exact ⟨_, lookup_setOpen_self call, hid, started hstarted⟩
    · exact ⟨d, (lookup_setOpen_ne hk).trans hd, hid, hstarted⟩
  waiting k' d config published hd hstage := by
    rcases lookup_setOpen call hd with ⟨rfl, rfl⟩ | ⟨-, h⟩
    · exact absurd hstage (quiet config published)
    · exact hs.waiting k' d config published h hstage
  worker := hs.worker
  joined := hs.joined
  target := hs.target

/-- One more open. -/
theorem Staffed.reserve (hs : s.Staffed) {k : ℕ} {c : OpenCall} {r : Registry} (fresh : k ∉ s.opens)
    (stage : c.stage = .resolving) (handles : r.handles = s.registry.handles) :
    Staffed { s with registry := r, opens := s.opens.insert k c } := by
  have hother : ∀ {k' d}, s.opens.lookup k' = some d → k' ≠ k := by
    rintro k' d hd rfl
    exact fresh (Table.mem_of_lookup hd)
  constructor
  · intro k' thread hk'
    obtain ⟨d, hd, hid, hstarted⟩ := hs.starter k' thread hk'
    exact ⟨d, (AList.lookup_insert_ne (hother hd)).trans hd, hid, hstarted⟩
  · intro k' d config published hd hstage
    change (s.opens.insert k c).lookup k' = some d at hd
    rw [Table.lookup_insert] at hd
    split at hd
    · cases hd
      rw [stage] at hstage
      cases hstage
    · exact hs.waiting k' d config published hd hstage
  · intro id entry present
    change r.handles.lookup id = some entry at present
    rw [handles] at present
    exact hs.worker id entry present
  · intro id entry present
    change r.handles.lookup id = some entry at present
    rw [handles] at present
    exact hs.joined id entry present
  · intro d id k' hd htarget
    show ∃ entry, r.handles.lookup id = some entry ∧ _
    rw [handles]
    exact hs.target d id k' hd htarget

/-- An open starts its thread. -/
theorem Staffed.spawn (hs : s.Staffed) (hb : s.Booked) {k : ℕ} {c : OpenCall} {config : Config}
    {database : String} {backend : LibpqBackend} (call : s.opens.lookup k = some c)
    (stage : c.stage = .spawning config database backend) {thread : Thread}
    (handle : thread.handle = c.reservation.id) (idle : thread.stage = .idle)
    (empty : thread.queue = []) :
    Staffed { s.setOpen k (.publishing config (c.snapshot database backend)) with
      threads := s.threads.insert k thread } := by
  have hother : ∀ {id entry}, s.registry.handles.lookup id = some entry → entry.sender ≠ k :=
    fun {id entry} => Staffed.not_sender hb call (by rw [stage]; rfl)
  constructor
  · intro k' thread' hk'
    change (s.threads.insert k thread).lookup k' = some thread' at hk'
    by_cases hk : k' = k
    · subst hk
      rw [AList.lookup_insert, Option.some.injEq] at hk'
      subst hk'
      exact ⟨_, lookup_setOpen_self call, handle, rfl⟩
    · rw [AList.lookup_insert_ne hk] at hk'
      obtain ⟨d, hd, hid, hstarted⟩ := hs.starter k' thread' hk'
      exact ⟨d, (lookup_setOpen_ne hk).trans hd, hid, hstarted⟩
  · intro k' d config' published hd hstage
    rcases lookup_setOpen call hd with ⟨rfl, rfl⟩ | ⟨hk, h⟩
    · cases hstage
      exact ⟨rfl, thread, AList.lookup_insert _, idle, empty⟩
    · obtain ⟨hlive, thread', hthread', hrest⟩ := hs.waiting k' d config' published h hstage
      exact ⟨hlive, thread', (AList.lookup_insert_ne hk).trans hthread', hrest⟩
  · intro id entry present
    obtain ⟨thread', hthread', hfits⟩ := hs.worker id entry present
    exact ⟨thread', (AList.lookup_insert_ne (hother present)).trans hthread', hfits⟩
  · intro id entry present
    rcases hs.joined id entry present with hjoin | ⟨hjoin, thread', hthread', hended⟩
    · exact .inl hjoin
    · exact .inr ⟨hjoin, thread', (AList.lookup_insert_ne (hother present)).trans hthread', hended⟩
  · exact hs.target

/-- An open registers its handle. -/
theorem Staffed.publish (hs : s.Staffed) (hb : s.Booked) {k : ℕ} {c : OpenCall} {config : Config}
    {published : PublishedHandle} (call : s.opens.lookup k = some c)
    (stage : c.stage = .publishing config published) {r : Registry} {entry : WorkerEntry}
    (snapshot : entry.published = published) (sender : entry.sender = k) (join : entry.join = some k)
    (handles : r.handles = s.registry.handles.insert c.reservation.id entry) {reply : Reply} :
    ((s.setRegistry r).setOpen k (.returned reply)).Staffed := by
  have call' : (s.setRegistry r).opens.lookup k = some c := call
  have hinserted : ∀ {id entry'}, r.handles.lookup id = some entry' →
      entry' = entry ∨ s.registry.handles.lookup id = some entry' := by
    intro id entry' h
    rw [handles, Table.lookup_insert] at h
    split at h
    · exact .inl (Option.some.inj h).symm
    · exact .inr h
  obtain ⟨hlive, thread, hthread, hidle, -⟩ := hs.waiting k c config published call stage
  constructor
  · intro k' thread' hk'
    obtain ⟨d, hd, hid, hstarted⟩ := hs.starter k' thread' hk'
    by_cases hk : k' = k
    · subst hk
      rw [call, Option.some.injEq] at hd
      subst hd
      exact ⟨_, lookup_setOpen_self call', hid, rfl⟩
    · exact ⟨d, (lookup_setOpen_ne (s := s.setRegistry r) hk).trans hd, hid, hstarted⟩
  · intro k' d config' published' hd hstage
    rcases lookup_setOpen call' hd with ⟨rfl, rfl⟩ | ⟨-, h⟩
    · cases hstage
    · exact hs.waiting k' d config' published' h hstage
  · intro id entry' present'
    rcases hinserted present' with rfl | present
    · refine ⟨thread, by rw [sender]; exact hthread, ?_⟩
      unfold Thread.Fits
      rw [hidle, snapshot]
      exact hlive
    · exact hs.worker id entry' present
  · intro id entry' present'
    rcases hinserted present' with rfl | present
    · exact .inl (by rw [join, sender])
    · exact hs.joined id entry' present
  · intro d id k' hd htarget
    obtain ⟨entry', present, hsender⟩ := hs.target d id k' hd htarget
    have hne : id ≠ c.reservation.id := by
      rintro rfl
      exact hb.unregistered call (by rw [stage]; rfl) (Table.mem_of_lookup present)
    refine ⟨entry', ?_, hsender⟩
    show r.handles.lookup id = some entry'
    rw [handles, AList.lookup_insert_ne hne]
    exact present

/-- The threads of the handles after a step. -/
theorem Staffed.step (hs : s.Staffed) (hb : s.Booked) {a : Action} (h : Step core s a t) :
    t.Staffed := by
  cases ha : a.isOpen with
  | false =>
    refine hs.effect hb (h.frames ha) (h.effect ha) fun c id k hc htarget => ?_
    rcases h.target hc htarget with ⟨d, hd, htarget'⟩ | hentry
    · exact hs.target d id k hd htarget'
    · exact hentry
  | true =>
    cases h with
    | reserved k profile reservation r free fresh result =>
      obtain ⟨config, -, -, -, -, rfl⟩ := Core.reserveOpen_ok result
      exact hs.reserve fresh rfl rfl
    | unreserved => exact hs
    | «open» k c stage call moves => exact hs.setOpen call moves.started.1 moves.started.2
    | spawn k c config database backend call stage => exact hs.spawn hb call stage rfl rfl rfl
    | published k c config published r free call stage result =>
      unfold Registry.publishOpen at result
      split_ifs at result
      cases result
      exact hs.publish hb call stage rfl rfl rfl rfl
    | unpublished k c config published free call stage result =>
      exact hs.setOpen call (fun _ => rfl) nofun
    | dismiss k c call stage =>
      split
      · have hsent : (s.setThread k (Thread.push (.shutdown false))).Staffed :=
          hs.effect hb ⟨rfl, rfl, rfl, rfl⟩ (.send k _ (.inr (.inr ⟨c, call, stage⟩)) rfl rfl) hs.target
        exact hsent.setOpen call (fun _ => rfl) nofun
      · exact hs.setOpen call (fun _ => rfl) nofun
    | finishOpen k c refusal backend free call stage =>
      have hreleased : (s.setRegistry (s.registry.finishOpen c.reservation.id)).Staffed :=
        ⟨hs.starter, hs.waiting, hs.worker, hs.joined, hs.target⟩
      exact hreleased.setOpen call (fun _ => rfl) nofun
    | _ => cases ha

end Server

end PgMcp
