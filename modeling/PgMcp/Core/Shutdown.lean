import PgMcp.Core.Limits

/-!
# What a shutdown report covers

The owner of the cleanup visits every handle that is registered when the shutdown begins,
and waits for every reservation there is then.  A report without an uncertain entry says
that the threads of the handles have ended and that no reservation is left.  It says
nothing of an open that has given its reservation back without registering a handle.

## Main definitions

* `Cleanup.Covers` — what the cleanup has still to look at, and what is done.
* `Server.Tracked` — the cleanup follows the lifecycle, and covers the server.
* `AllDisposed`, `DismissedDisposed` — every connection is gone; every connection of an open
  that has given up is gone.
* `Unhurried` — the server waits for the workers of the opens it turns away.

## Main results

* `tracked_of_run` — the cleanup in every reachable state.
* `dismissals_of_run` — what the steps of a run say of the opens that are turned away.
* `verified_of_run_iff` — a verified report means that every connection is gone exactly when
  those of the opens that have given up are.
-/

namespace PgMcp

open Program

/-- The handle the cleanup is busy with. -/
def CleanupStage.subject : CleanupStage → Option String
  | .looking id | .joining id | .unfinished id | .enqueuing id _ | .enqueued id _ | .awaiting id _
  | .answered id _ => some id
  | _ => none

/-- The connection an open holds. -/
def OpenStage.backend : OpenStage → Option LibpqBackend
  | .connected _ _ backend | .closing _ backend | .spawning _ _ backend => some backend
  | .finishing _ backend | .returning _ backend => backend
  | _ => none

/-- What is left of the connection of an open on its way out. -/
def OpenStage.leftover : OpenStage → Option LibpqBackend
  | .finishing _ backend | .returning _ backend => backend
  | _ => none

/-- The connection of an open that has still to close it or to go on with it. -/
def OpenStage.fresh : OpenStage → Option LibpqBackend
  | .connected _ _ backend | .closing _ backend => some backend
  | _ => none

/-- The worker of an open runs, and the open has not heard whether its handle is registered. -/
def OpenStage.undecided : OpenStage → Bool
  | .publishing _ _ | .dismissing => true
  | _ => false

/-- Between its critical sections an open leaves no connection that its close can take. -/
theorem OpenCall.Moves.leftover {core : Core} {now : ℕ} {c : OpenCall} {stage : OpenStage}
    (h : c.Moves core now stage)
    (fresh : ∀ backend, c.stage.fresh = some backend → backend.observation.transactionStatus = .idle) :
    ∀ backend, stage.leftover = some backend → backend.present = false := by
  intro backend hbackend
  cases h with
  | closed refusal b before =>
    obtain rfl : Backend.close.last b = backend := Option.some.inj hbackend
    have hidle := fresh b (by rw [before]; rfl)
    exact Backend.present_close (by rw [hidle]; rfl)
  | resolved | connected | interrupted | unusable | accepted | unresolved | unconnected | unspawned
  | panicked | returned => cases hbackend

/-- Between its critical sections an open gets no connection but the one that is made. -/
theorem OpenCall.Moves.fresh {core : Core} {now : ℕ} {c : OpenCall} {stage : OpenStage}
    (h : c.Moves core now stage) {b : LibpqBackend} (hb : stage.fresh = some b) :
    c.stage.fresh = some b ∨ ∃ config database, stage = .connected config database b := by
  cases h with
  | connected config dsn database backend before =>
    cases hb
    exact .inr ⟨config, database, rfl⟩
  | interrupted config database backend before | unusable config database backend before =>
    cases hb
    rw [before]
    exact .inl rfl
  | resolved | accepted | unresolved | unconnected | closed | unspawned | panicked | returned => cases hb

/-- An open whose worker runs makes none of these moves. -/
theorem OpenCall.Moves.undecided {core : Core} {now : ℕ} {c : OpenCall} {stage : OpenStage}
    (h : c.Moves core now stage) : c.stage.undecided = false ∧ c.stage.registers = false := by
  cases h with
  | panicked working =>
    revert working
    cases c.stage <;> simp [OpenStage.undecided, OpenStage.registers]
  | resolved command config dsn before | unresolved command error before
  | connected config dsn database backend before | unconnected config dsn failure before
  | interrupted config database backend before | unusable config database backend before
  | accepted config database backend before | closed refusal backend before
  | unspawned config database backend before | returned refusal backend before =>
    rw [before]
    exact ⟨rfl, rfl⟩

/-- The cleanup is past its visits. -/
def CleanupStage.last : CleanupStage → Bool
  | .draining | .stillPending | .reported => true
  | _ => false

/-- An entry of the report is uncertain. -/
def Cleanup.Uncertain (c : Cleanup) : Prop := ∃ e ∈ c.workers, e.outcome = .uncertain

theorem Cleanup.Uncertain.append {c c' : Cleanup} {es : List WorkerShutdownEntry} (h : c.Uncertain)
    (workers : c'.workers = c.workers ++ es) : c'.Uncertain := by
  obtain ⟨e, he, hout⟩ := h
  exact ⟨e, by rw [workers]; exact List.mem_append_left _ he, hout⟩

theorem Cleanup.uncertain_append {c c' : Cleanup} {id stage : String}
    (workers : c'.workers = c.workers ++ [.uncertain id stage]) : c'.Uncertain :=
  ⟨.uncertain id stage, by rw [workers]; exact List.mem_append_right _ (List.mem_singleton_self _),
    rfl⟩

/-- A verified report has no uncertain entry. -/
theorem Cleanup.not_uncertain {c : Cleanup} (h : c.report.verified = true) : ¬ c.Uncertain := by
  rintro ⟨e, he, hout⟩
  unfold ShutdownReport.verified at h
  have := List.all_eq_true.mp h e ((List.mem_insertionSort _).mpr he)
  rw [hout] at this
  cases this

namespace Server

variable {core : Core} {s t : Server}

/-- A thread has ended. -/
def Ended (s : Server) (k : ℕ) : Prop :=
  ∃ thread, s.threads.lookup k = some thread ∧ thread.stage.isFinished = true

theorem Effect.ended (h : s.Effect t) {k : ℕ} (ended : s.Ended k) : t.Ended k := by
  obtain ⟨thread, hk, hended⟩ := ended
  exact h.finished hk hended

/-- What the cleanup `c` has still to look at, and what is done. -/
structure Covers (s : Server) (c : Cleanup) : Prop where
  handles : ∀ id entry, s.registry.handles.lookup id = some entry →
    id ∈ c.handles ∨ c.stage.subject = some id ∨ s.Ended entry.sender
  pending : ∀ id ∈ s.registry.pendingOpens, id ∈ c.pending
  visited : c.stage.last = true → c.handles = []
  drained : c.stage = .reported → c.pending = []

/-- The cleanup follows the lifecycle, and covers the server. -/
structure Tracked (s : Server) : Prop where
  unstarted : s.cleanup = none → s.registry.lifecycle = .running ∧ s.registry.frozenReport = none
  started : ∀ c, s.cleanup = some c → s.registry.lifecycle ≠ .running
  covers : ∀ c, s.cleanup = some c → c.Uncertain ∨ s.Covers c
  frozen : ∀ c, s.cleanup = some c →
    s.registry.frozenReport = if c.stage = .reported then some c.report else none

theorem tracked_new : new.Tracked where
  unstarted _ := ⟨rfl, rfl⟩
  started c h := by cases h
  covers c h := by cases h
  frozen c h := by cases h

/-- A step that is not one of an open leaves what is covered covered. -/
theorem Covers.frame {c : Cleanup} (h : s.Covers c) (frames : s.Frames t) (effect : s.Effect t) :
    t.Covers c where
  handles id entry' present' := by
    obtain ⟨entry, present, hkey⟩ := Table.exists_of_view frames.handles present'
    rw [WorkerEntry.sender_of_key hkey.symm]
    rcases h.handles id entry present with hin | hsubject | hended
    · exact .inl hin
    · exact .inr (.inl hsubject)
    · exact .inr (.inr (effect.ended hended))
  pending id hid := by
    rw [frames.pending] at hid
    exact h.pending id hid
  visited := h.visited
  drained := h.drained

/-- The cleanup goes on with the same handle. -/
theorem Covers.turn {c : Cleanup} (h : s.Covers c) {stage : CleanupStage}
    (subject : stage.subject = c.stage.subject) (last : stage.last = false) :
    s.Covers { c with stage := stage } where
  handles id entry present := by
    show id ∈ c.handles ∨ stage.subject = some id ∨ _
    rw [subject]
    exact h.handles id entry present
  pending := h.pending
  visited hlast := by
    change stage.last = true at hlast
    rw [last] at hlast
    cases hlast
  drained hreported := by
    change stage = .reported at hreported
    rw [hreported] at last
    cases last

/-- The thread of the handle the cleanup is busy with has ended. -/
theorem Covers.done {c : Cleanup} (h : s.Covers c) {id : String} (subject : c.stage.subject = some id)
    (ended : ∀ entry, s.registry.handles.lookup id = some entry → s.Ended entry.sender)
    (e : WorkerShutdownEntry) : s.Covers (c.record e) where
  handles id' entry present := by
    rcases h.handles id' entry present with hin | hsubject | hended
    · exact .inl hin
    · rw [subject, Option.some.injEq] at hsubject
      subst hsubject
      exact .inr (.inr (ended entry present))
    · exact .inr (.inr hended)
  pending := h.pending
  visited := nofun
  drained := nofun

/-- The cleanup is as it was. -/
theorem Tracked.same (hs : s.Tracked) (cleanup : t.cleanup = s.cleanup)
    (lifecycle : t.registry.lifecycle = s.registry.lifecycle)
    (frozen : t.registry.frozenReport = s.registry.frozenReport)
    (covers : ∀ c, s.cleanup = some c → s.Covers c → t.Covers c) : t.Tracked where
  unstarted h := by
    rw [lifecycle, frozen]
    exact hs.unstarted (cleanup ▸ h)
  started c h := by
    rw [lifecycle]
    exact hs.started c (cleanup ▸ h)
  covers c h := by
    rw [cleanup] at h
    exact (hs.covers c h).imp_right (covers c h)
  frozen c h := by
    rw [frozen]
    exact hs.frozen c (cleanup ▸ h)

/-- The cleanup goes on, and the report is not frozen. -/
theorem Tracked.next (hs : s.Tracked) (es : List WorkerShutdownEntry) {c c' : Cleanup}
    (before : s.cleanup = some c) (after : t.cleanup = some c')
    (lifecycle : t.registry.lifecycle = s.registry.lifecycle)
    (frozen : t.registry.frozenReport = s.registry.frozenReport) (running : c.stage ≠ .reported)
    (running' : c'.stage ≠ .reported)
    (workers : c'.workers = c.workers ++ es) (covers : s.Covers c → c'.Uncertain ∨ t.Covers c') :
    t.Tracked where
  unstarted h := by
    rw [after] at h
    cases h
  started d h := by
    rw [lifecycle]
    exact hs.started c before
  covers d h := by
    rw [after, Option.some.injEq] at h
    subst h
    rcases hs.covers c before with huncertain | hcovers
    · exact .inl (huncertain.append workers)
    · exact covers hcovers
  frozen d h := by
    rw [after, Option.some.injEq] at h
    subst h
    rw [frozen, hs.frozen c before, if_neg running, if_neg running']

/-- What the cleanup has recorded as uncertain it keeps. -/
theorem Tracked.doubt (hs : s.Tracked) {c c' : Cleanup} {id stage : String}
    (before : s.cleanup = some c) (after : t.cleanup = some c')
    (lifecycle : t.registry.lifecycle = s.registry.lifecycle)
    (frozen : t.registry.frozenReport = s.registry.frozenReport) (running : c.stage ≠ .reported)
    (running' : c'.stage ≠ .reported) (workers : c'.workers = c.workers ++ [.uncertain id stage]) :
    t.Tracked :=
  hs.next _ before after lifecycle frozen running running' workers fun _ =>
    .inl (Cleanup.uncertain_append workers)

/-- The cleanup turns to the next thing it does with the same handle. -/
theorem Tracked.turn (hs : s.Tracked) (frames : s.Frames t) (effect : s.Effect t) {c : Cleanup}
    {stage : CleanupStage} (before : s.cleanup = some c)
    (after : t.cleanup = some { c with stage := stage })
    (lifecycle : t.registry.lifecycle = s.registry.lifecycle)
    (frozen : t.registry.frozenReport = s.registry.frozenReport) (running : c.stage ≠ .reported)
    (subject : stage.subject = c.stage.subject) (last : stage.last = false) : t.Tracked := by
  refine hs.next [] before after lifecycle frozen running ?_ (List.append_nil _).symm
    fun hcovers => .inr ((hcovers.frame frames effect).turn subject last)
  rintro rfl
  cases last

/-- The cleanup joins the worker of its handle. -/
theorem Tracked.join (hs : s.Tracked) (hw : s.Staffed) {c : Cleanup} {id : String}
    {e : WorkerShutdownEntry} (before : s.cleanup = some c) (running : c.stage ≠ .reported)
    (subject : c.stage.subject = some id) (finished : s.isFinished id = true) :
    ((s.join id).setCleanup (c.record e)).Tracked := by
  have frames : s.Frames ((s.join id).setCleanup (c.record e)) :=
    ⟨rfl, rfl, Registry.view_modify _ _ fun _ => rfl, rfl⟩
  have effect : s.Effect ((s.join id).setCleanup (c.record e)) := .join id finished rfl rfl
  refine hs.next _ before rfl rfl rfl running nofun rfl fun hcovers => .inr ?_
  refine ((hcovers.frame frames effect).done subject (fun entry' present' => ?_) e)
  obtain ⟨entry, present, hkey⟩ := Table.exists_of_view frames.handles present'
  rw [WorkerEntry.sender_of_key hkey.symm]
  exact effect.ended (hw.finished present finished)

/-- The cleanup after a step. -/
theorem Tracked.step (hs : s.Tracked) (hb : s.Booked) (hw : s.Staffed) {a : Action}
    (h : Step core s a t) : t.Tracked := by
  cases ha : a.isOpen with
  | false =>
    have frames := h.frames ha
    have effect := h.effect ha
    cases h with
    | reserved | unreserved | «open» | spawn | published | unpublished | dismiss | finishOpen =>
      cases ha
    | shutdown n free fresh unfrozen running =>
      constructor
      · intro hc
        cases hc
      · intro c hc
        exact nofun
      · intro c hc
        cases hc
        refine .inr ⟨fun id entry present => .inl ?_, fun id hid => ?_, nofun, nofun⟩
        · exact Table.mem_sortedKeys.mpr (Table.mem_of_lookup present)
        · exact Table.mem_sortedKeys.mpr hid
      · intro c hc
        cases hc
        exact unfrozen
    | signal c cleanup stage =>
      exact hs.turn frames effect cleanup rfl rfl rfl (by rw [stage]; nofun) (by rw [stage]; rfl) rfl
    -- an entry that is not verified leaves nothing to keep
    | late c id rest cleanup stage =>
      exact hs.doubt cleanup rfl rfl rfl (by rw [stage]; nofun) nofun rfl
    | visit c id rest cleanup stage next =>
      refine hs.next [] cleanup rfl rfl rfl (by rw [stage]; nofun) nofun
        (List.append_nil _).symm fun hcovers => .inr ⟨fun id' entry present => ?_, hcovers.pending,
          nofun, nofun⟩
      rcases hcovers.handles id' entry present with hin | hsubject | hended
      · rw [next, List.mem_cons] at hin
        rcases hin with rfl | hin
        · exact .inr (.inl rfl)
        · exact .inl hin
      · rw [stage] at hsubject
        cases hsubject
      · exact .inr (.inr hended)
    | visited c cleanup stage done =>
      refine hs.next [] cleanup rfl rfl rfl (by rw [stage]; nofun) nofun
        (List.append_nil _).symm fun hcovers => .inr ⟨fun id' entry present => ?_, hcovers.pending,
          fun _ => done, nofun⟩
      rcases hcovers.handles id' entry present with hin | hsubject | hended
      · exact .inl hin
      · rw [stage] at hsubject
        cases hsubject
      · exact .inr (.inr hended)
    | missing c id free cleanup stage | abandoned c id cleanup stage
    | unsent c id k cleanup stage | overdue c id k cleanup stage | dropped c id k cleanup stage
    | unanswered c id k cleanup stage =>
      exact hs.doubt cleanup rfl rfl rfl (by rw [stage]; nofun) nofun rfl
    | unready c id entry free cleanup stage =>
      exact hs.doubt cleanup rfl rfl rfl (by rw [stage]; nofun) nofun rfl
    | closed c id entry free cleanup stage | live c id entry free cleanup stage
    | unjoined c id free cleanup stage | rejoin c id cleanup stage
    | enqueue c id k cleanup stage | unreceived c id k cleanup stage | check c id k cleanup stage
    | answered c id k entry cleanup stage =>
      exact hs.turn frames effect cleanup rfl rfl rfl (by rw [stage]; nofun) (by rw [stage]; rfl) rfl
    | joined c id free cleanup stage finished =>
      exact hs.join hw cleanup (by rw [stage]; nofun) (by rw [stage]; rfl) finished
    | join c id entry free cleanup stage finished =>
      exact hs.join hw cleanup (by rw [stage]; nofun) (by rw [stage]; rfl) finished
    | released c id rest free cleanup stage next gone =>
      refine hs.next [] cleanup rfl rfl rfl (by rw [stage]; nofun) (by simp [stage])
        (List.append_nil _).symm fun hcovers => .inr ⟨hcovers.handles, fun id' hid => ?_,
          hcovers.visited, by simp [stage]⟩
      have hin := hcovers.pending id' hid
      rw [next, List.mem_cons] at hin
      rcases hin with rfl | hin
      · exact absurd hid gone
      · exact hin
    | pending c id rest free cleanup stage | repoll c cleanup stage =>
      refine hs.next [] cleanup rfl rfl rfl (by rw [stage]; nofun) nofun
        (List.append_nil _).symm fun hcovers => .inr ⟨fun id entry present => ?_, hcovers.pending,
          fun _ => hcovers.visited (by rw [stage]; rfl), nofun⟩
      have := hcovers.handles id entry present
      rw [stage] at this
      exact this
    | expired c id rest cleanup stage next =>
      exact hs.doubt cleanup rfl rfl rfl (by rw [stage]; nofun) nofun rfl
    | freeze c n free cleanup stage done owner report same =>
      have hunfrozen : s.registry.frozenReport = none := by
        rw [hs.frozen c cleanup, stage]
        rfl
      rw [hunfrozen] at same
      constructor
      · intro hc
        cases hc
      · intro d hd
        exact nofun
      · intro d hd
        cases hd
        refine (hs.covers c cleanup).imp (fun h => h) fun hcovers => ?_
        exact ⟨fun id entry present => (hcovers.handles id entry present).imp_right (Or.imp_left
            (by rw [stage]; exact fun h => h)), hcovers.pending,
          fun _ => hcovers.visited (by rw [stage]; rfl), fun _ => done⟩
      · intro d hd
        cases hd
        exact congrArg some same
    | admitted n c k r free call stage result =>
      obtain ⟨r', hr, hadmission⟩ := Admission.of_returns result
      cases hr
      obtain ⟨hlifecycle, -, -, hfrozen, -⟩ := hadmission.frames
      exact hs.same rfl hlifecycle hfrozen fun c _ hcovers => hcovers.frame frames effect
    | unadmitted n c failure r free call stage result =>
      obtain ⟨r', hr, hadmission⟩ := Admission.of_returns result
      cases hr
      obtain ⟨hlifecycle, -, -, hfrozen, -⟩ := hadmission.frames
      exact hs.same rfl hlifecycle hfrozen fun c _ hcovers => hcovers.frame frames effect
    | _ => exact hs.same rfl rfl rfl fun c _ hcovers => hcovers.frame frames effect
  | true =>
    cases h with
    | reserved k profile reservation r free fresh result =>
      obtain ⟨config, running, -, -, -, rfl⟩ := Core.reserveOpen_ok result
      exact hs.same rfl rfl rfl fun c hc => absurd running (hs.started c hc)
    | unreserved => exact hs
    | «open» k c stage call moves =>
      exact hs.same rfl rfl rfl fun c _ h => ⟨h.handles, h.pending, h.visited, h.drained⟩
    | spawn k c config database backend call stage =>
      refine hs.same rfl rfl rfl fun d _ h => ⟨fun id entry present => ?_, h.pending, h.visited, h.drained⟩
      rcases h.handles id entry present with hin | hsubject | ⟨thread, hthread, hended⟩
      · exact .inl hin
      · exact .inr (.inl hsubject)
      · have hne : entry.sender ≠ k := Staffed.not_sender hb call (by rw [stage]; rfl) present
        exact .inr (.inr ⟨thread, (AList.lookup_insert_ne hne).trans hthread, hended⟩)
    | published k c config published r free call stage result =>
      unfold Registry.publishOpen at result
      split_ifs at result with hrunning
      cases result
      exact hs.same rfl rfl rfl fun d hd => absurd (not_not.mp hrunning) (hs.started d hd)
    | unpublished k c config published free call stage result =>
      exact hs.same rfl rfl rfl fun c _ h => ⟨h.handles, h.pending, h.visited, h.drained⟩
    | dismiss k c call stage =>
      split
      · refine hs.same rfl rfl rfl fun d _ h => ?_
        have hsent : (s.setThread k (Thread.push (.shutdown false))).Covers d :=
          h.frame ⟨rfl, rfl, rfl, rfl⟩ (.send k _ (.inr (.inr ⟨c, call, stage⟩)) rfl rfl)
        exact ⟨hsent.handles, hsent.pending, hsent.visited, hsent.drained⟩
      · exact hs.same rfl rfl rfl fun c _ h => ⟨h.handles, h.pending, h.visited, h.drained⟩
    | finishOpen k c refusal backend free call stage =>
      refine hs.same rfl rfl rfl fun d _ h => ⟨h.handles, fun id hid => ?_, h.visited, h.drained⟩
      exact h.pending id (AList.mem_erase.mp hid).2
    | _ => cases ha

/-- The cleanup in every reachable state. -/
theorem tracked_of_run {ls : List Label} (run : Run (Acts core) new ls s)
    (hbound : reservations ls ≤ u64Max) : s.Booked ∧ s.Staffed ∧ s.Tracked :=
  invariant_of_run (I := fun s => s.Booked ∧ s.Staffed ∧ s.Tracked) (G := fun _ => True)
    ⟨booked_new, staffed_new, tracked_new⟩
    (fun _ _ _ hs hl hroom _ =>
      ⟨hs.1.step hl.2.2 (hs.1.newId hl.2.2 hroom), hs.2.1.step hs.1 hl.2.2,
        hs.2.2.step hs.1 hs.2.1 hl.2.2⟩) run
    (fun _ _ => trivial) hbound

/-! ### Verified reports -/

/-- Every connection is gone: those the opens hold are disposed, and every thread has ended. -/
structure AllDisposed (s : Server) : Prop where
  opens : ∀ k c backend, s.opens.lookup k = some c → c.stage.backend = some backend →
    backend.present = false
  threads : ∀ k thread, s.threads.lookup k = some thread → thread.stage.isFinished = true

/-- Every connection of an open that has given its reservation back is gone, unless the open
has registered its handle. -/
structure DismissedDisposed (s : Server) : Prop where
  opens : ∀ k c backend, s.opens.lookup k = some c → c.stage.reserves = false →
    c.stage.backend = some backend → backend.present = false
  threads : ∀ k c thread, s.opens.lookup k = some c → c.stage.reserves = false →
    c.stage.registers = false → s.threads.lookup k = some thread → thread.stage.isFinished = true

theorem AllDisposed.dismissed (h : s.AllDisposed) : s.DismissedDisposed where
  opens k c backend hc _ := h.opens k c backend hc
  threads k _ thread _ _ _ := h.threads k thread

/-- What a verified report says: no reservation is left, and the threads of the handles have
ended. -/
theorem Tracked.verified (hs : s.Tracked) {report : ShutdownReport}
    (frozen : s.registry.frozenReport = some report) (verified : report.verified = true) :
    s.registry.lifecycle ≠ .running ∧ (∀ id, id ∉ s.registry.pendingOpens) ∧
      ∀ id entry, s.registry.handles.lookup id = some entry → s.Ended entry.sender := by
  cases hc : s.cleanup with
  | none =>
    rw [(hs.unstarted hc).2] at frozen
    cases frozen
  | some c =>
    rw [hs.frozen c hc] at frozen
    split at frozen
    · next hstage =>
      cases frozen
      have hcovers := (hs.covers c hc).resolve_left (Cleanup.not_uncertain verified)
      refine ⟨hs.started c hc, fun id hid => ?_, fun id entry present => ?_⟩
      · have := hcovers.pending id hid
        rw [hcovers.drained hstage] at this
        cases this
      · rcases hcovers.handles id entry present with hin | hsubject | hended
        · rw [hcovers.visited (by rw [hstage]; rfl)] at hin
          cases hin
        · rw [hstage] at hsubject
          cases hsubject
        · exact hended
    · cases frozen

/-- Without reservations no open holds one. -/
theorem Booked.not_reserves (hb : s.Booked) (none : ∀ id, id ∉ s.registry.pendingOpens) {k : ℕ}
    {c : OpenCall} (hc : s.opens.lookup k = some c) : c.stage.reserves = false := by
  by_contra h
  rw [Bool.not_eq_false] at h
  exact none _ (Table.mem_of_lookup (hb.pending k c hc h))

/-- With a verified report, every connection is gone when those of the opens that have given
up are. -/
theorem DismissedDisposed.all (h : s.DismissedDisposed) (hb : s.Booked) (hw : s.Staffed)
    (hs : s.Tracked) {report : ShutdownReport} (frozen : s.registry.frozenReport = some report)
    (verified : report.verified = true) : s.AllDisposed := by
  obtain ⟨-, hnone, hended⟩ := hs.verified frozen verified
  constructor
  · intro k c backend hc
    exact h.opens k c backend hc (hb.not_reserves hnone hc)
  · intro k thread hk
    obtain ⟨c, hc, -⟩ := hw.starter k thread hk
    cases hregisters : c.stage.registers with
    | false => exact h.threads k c thread hc (hb.not_reserves hnone hc) hregisters hk
    | true =>
      obtain ⟨entry, present, -, rfl⟩ := hb.registered k c hc hregisters
      obtain ⟨thread', hk', hfinished⟩ := hended _ entry present
      rw [hk, Option.some.injEq] at hk'
      subst hk'
      exact hfinished

/-- Only the end of the cleanup freezes a report. -/
theorem Step.frozen {a : Action} (h : Step core s a t) :
    t.registry.frozenReport = s.registry.frozenReport ∨ a = .freeze := by
  cases h with
  | freeze => exact .inr rfl
  | reserved k profile reservation r free fresh result =>
    obtain ⟨-, -, -, -, -, rfl⟩ := Core.reserveOpen_ok result
    exact .inl rfl
  | published k c config published r free call stage result =>
    unfold Registry.publishOpen at result
    split_ifs at result
    cases result
    exact .inl rfl
  | admitted n c k r free call stage result | unadmitted n c failure r free call stage result =>
    obtain ⟨r', hr, hadmission⟩ := Admission.of_returns result
    cases hr
    exact .inl hadmission.frames.2.2.2.1
  | dismiss k c call stage =>
    left
    split <;> rfl
  | _ => exact .inl rfl

/-- Once no reservation is left and every connection is gone, no connection comes back. -/
theorem AllDisposed.step (h : s.AllDisposed) (hb : s.Booked) {a : Action} (step : Step core s a t)
    (stopping : s.registry.lifecycle ≠ .running) (none : ∀ id, id ∉ s.registry.pendingOpens) :
    t.AllDisposed := by
  cases ha : a.isOpen with
  | false =>
    have frames := step.frames ha
    have effect := step.effect ha
    constructor
    · intro k c backend hc
      obtain ⟨d, hd, hcore⟩ := Table.exists_of_view frames.opens hc
      simp only [OpenCall.core, Prod.mk.injEq] at hcore
      rw [← hcore.2.2]
      exact h.opens k d backend hd
    · intro k thread hk
      obtain ⟨thread₀, hk₀, -, hsame⟩ := effect.thread hk
      have hfinished := h.threads k thread₀ hk₀
      rw [hsame hfinished]
      exact hfinished
  | true =>
    cases step with
    | reserved k profile reservation r free fresh result =>
      obtain ⟨config, running, -⟩ := Core.reserveOpen_ok result
      exact absurd running stopping
    | unreserved => exact h
    | «open» k c stage call moves =>
      refine ⟨fun k' d backend hd hbackend => ?_, h.threads⟩
      rcases lookup_setOpen call hd with ⟨rfl, rfl⟩ | ⟨-, hd'⟩
      · have hreserves := moves.claim.1.trans (hb.not_reserves none call)
        cases moves with
        | returned => cases hbackend
        | _ => cases hreserves
      · exact h.opens k' d backend hd' hbackend
    | spawn k c config database backend call stage
    | published k c config published r free call stage
    | unpublished k c config published free call stage | dismiss k c call stage
    | finishOpen k c refusal backend free call stage =>
      have := hb.not_reserves none call
      rw [stage] at this
      cases this
    | _ => cases ha

/-- From the moment a verified report is given, every connection is gone. -/
def Label.Truthful (l : Label) : Prop :=
  ∀ report, l.after.registry.frozenReport = some report → report.verified = true →
    l.after.AllDisposed

/-- When a verified report is given, the connections of the opens that have given up are
gone. -/
def Label.Dismissed (l : Label) : Prop :=
  l.action = .freeze → ∀ report, l.after.registry.frozenReport = some report →
    report.verified = true → l.before.DismissedDisposed

theorem Step.freeze_same (h : Step core s .freeze t) :
    t.opens = s.opens ∧ t.threads = s.threads := by
  cases h with
  | freeze => exact ⟨rfl, rfl⟩

theorem Label.Truthful.step {l : Label} (hs : s.Booked ∧ s.Staffed ∧ s.Tracked)
    (before : ∀ report, s.registry.frozenReport = some report → report.verified = true →
      s.AllDisposed) (hl : Acts core s l t) (ht : t.Booked ∧ t.Staffed ∧ t.Tracked)
    (good : l.Dismissed) : l.Truthful := by
  obtain ⟨rfl, rfl, step⟩ := hl
  intro report frozen verified
  -- the report stands already, or it is frozen in this step
  rcases step.frozen with hsame | hfreeze
  · rw [hsame] at frozen
    obtain ⟨stopping, hnone, -⟩ := hs.2.2.verified frozen verified
    exact (before report frozen verified).step hs.1 step stopping hnone
  · have hdismissed := good hfreeze report frozen verified
    rw [hfreeze] at step
    obtain ⟨hopens, hthreads⟩ := step.freeze_same
    refine DismissedDisposed.all ⟨?_, ?_⟩ ht.1 ht.2.1 ht.2.2 frozen verified
    · rw [hopens]
      exact hdismissed.opens
    · rw [hopens, hthreads]
      exact hdismissed.threads

/-! ### Opens that are turned away -/

/-- A connection that is made in the step is idle, as the attempt itself checks. -/
def Label.ConnectsIdle (l : Label) : Prop :=
  ∀ k config database backend, l.action = .open k (.connected config database backend) →
    backend.observation.transactionStatus = .idle

/-- The server waits for the opens that it turns away: when the report is frozen, each thread
that was dismissed has ended. -/
structure Unhurried (ls : List Label) : Prop where
  connects : ∀ l ∈ ls, l.ConnectsIdle
  waits : ∀ pre l post, ls = pre ++ l :: post → l.action = .freeze → ∀ k,
    .dismiss k ∈ pre.map Label.action → .finish k ∈ pre.map Label.action

/-- What the steps so far say of the opens that have been turned away. -/
structure Dismissals (as : List Action) (s : Server) : Prop where
  fresh : ∀ k c backend, s.opens.lookup k = some c → c.stage.fresh = some backend →
    backend.observation.transactionStatus = .idle
  opens : ∀ k c backend, s.opens.lookup k = some c → c.stage.leftover = some backend →
    backend.present = false
  threads : ∀ k c thread, s.opens.lookup k = some c → s.threads.lookup k = some thread →
    c.stage.undecided = true ∨ c.stage.registers = true ∨ .dismiss k ∈ as
  ended : ∀ k, .finish k ∈ as → s.Ended k

theorem dismissals_new : Dismissals [] new where
  fresh k c backend h := by simp [new] at h
  opens k c backend h := by simp [new] at h
  threads k c thread h := by simp [new] at h
  ended k h := by simp at h

/-- One more step, which ends no thread, is known. -/
theorem Dismissals.snoc {as : List Action} (h : Dismissals as s) {a : Action}
    (other : ∀ k, .finish k ≠ a) : Dismissals (as ++ [a]) s where
  fresh := h.fresh
  opens := h.opens
  threads k c thread hc hthread := by
    rcases h.threads k c thread hc hthread with hstage | hstage | hmem
    · exact .inl hstage
    · exact .inr (.inl hstage)
    · exact .inr (.inr (List.mem_append_left _ hmem))
  ended k hmem := by
    rcases List.mem_append.mp hmem with hmem | hmem
    · exact h.ended k hmem
    · exact absurd (List.mem_singleton.mp hmem) (other k)

/-- A step that is not one of an open. -/
theorem Dismissals.frame {as : List Action} (h : Dismissals as s) (frames : s.Frames t)
    (effect : s.Effect t) : Dismissals as t where
  fresh k c backend hc hbackend := by
    obtain ⟨d, hd, hcore⟩ := Table.exists_of_view frames.opens hc
    simp only [OpenCall.core, Prod.mk.injEq] at hcore
    rw [← hcore.2.2] at hbackend
    exact h.fresh k d backend hd hbackend
  opens k c backend hc hbackend := by
    obtain ⟨d, hd, hcore⟩ := Table.exists_of_view frames.opens hc
    simp only [OpenCall.core, Prod.mk.injEq] at hcore
    rw [← hcore.2.2] at hbackend
    exact h.opens k d backend hd hbackend
  threads k c thread hc hthread := by
    obtain ⟨d, hd, hcore⟩ := Table.exists_of_view frames.opens hc
    simp only [OpenCall.core, Prod.mk.injEq] at hcore
    obtain ⟨thread₀, hthread₀, -⟩ := effect.thread hthread
    rw [← hcore.2.2]
    exact h.threads k d thread₀ hd hthread₀
  ended k hmem := effect.ended (h.ended k hmem)

/-- An open goes on, and the threads stay. -/
theorem Dismissals.setOpen {as : List Action} (h : Dismissals as s) {k : ℕ} {c : OpenCall}
    {stage : OpenStage} (call : s.opens.lookup k = some c)
    (fresh : ∀ backend, stage.fresh = some backend → backend.observation.transactionStatus = .idle)
    (opens : ∀ backend, stage.leftover = some backend → backend.present = false)
    (threads : c.stage.undecided = true ∨ c.stage.registers = true ∨ .dismiss k ∈ as →
      stage.undecided = true ∨ stage.registers = true ∨ .dismiss k ∈ as) :
    Dismissals as (s.setOpen k stage) where
  fresh k' d backend hd hbackend := by
    rcases lookup_setOpen call hd with ⟨rfl, rfl⟩ | ⟨-, hd'⟩
    · exact fresh backend hbackend
    · exact h.fresh k' d backend hd' hbackend
  opens k' d backend hd hbackend := by
    rcases lookup_setOpen call hd with ⟨rfl, rfl⟩ | ⟨-, hd'⟩
    · exact opens backend hbackend
    · exact h.opens k' d backend hd' hbackend
  threads k' d thread hd hthread := by
    rcases lookup_setOpen call hd with ⟨rfl, rfl⟩ | ⟨-, hd'⟩
    · exact threads (h.threads k' c thread call hthread)
    · exact h.threads k' d thread hd' hthread
  ended := h.ended

/-- The registry says nothing of them. -/
theorem Dismissals.setRegistry {as : List Action} (h : Dismissals as s) (r : Registry) :
    Dismissals as (s.setRegistry r) := ⟨h.fresh, h.opens, h.threads, h.ended⟩

/-- One more open. -/
theorem Dismissals.reserve {as : List Action} (h : Dismissals as s) (hw : s.Staffed) {k : ℕ} {c : OpenCall}
    {r : Registry} (fresh : k ∉ s.opens) (stage : c.stage = .resolving) :
    Dismissals as { s with registry := r, opens := s.opens.insert k c } := by
  have hother : ∀ {k' d}, (s.opens.insert k c).lookup k' = some d →
      d.stage = .resolving ∨ s.opens.lookup k' = some d := by
    intro k' d hd
    rw [Table.lookup_insert] at hd
    split at hd
    · cases hd
      exact .inl stage
    · exact .inr hd
  constructor
  · intro k' d backend hd hbackend
    rcases hother hd with hstage | hd'
    · rw [hstage] at hbackend
      cases hbackend
    · exact h.fresh k' d backend hd' hbackend
  · intro k' d backend hd hbackend
    rcases hother hd with hstage | hd'
    · rw [hstage] at hbackend
      cases hbackend
    · exact h.opens k' d backend hd' hbackend
  · intro k' d thread hd hthread
    -- the new open has no thread yet
    obtain ⟨e, he, -⟩ := hw.starter k' thread hthread
    have hk : k' ≠ k := by
      rintro rfl
      exact fresh (Table.mem_of_lookup he)
    exact h.threads k' d thread ((AList.lookup_insert_ne hk).symm.trans hd) hthread
  · exact h.ended

/-- What the steps say of the opens that are turned away, after one more step. -/
theorem Dismissals.step {as : List Action} (h : Dismissals as s) (hw : s.Staffed) {a : Action}
    (step : Step core s a t) (connects : Label.ConnectsIdle ⟨a, s, t⟩) : Dismissals (as ++ [a]) t := by
  cases ha : a.isOpen with
  | false =>
    have hframe := h.frame (step.frames ha) (step.effect ha)
    by_cases hfinish : ∃ k, .finish k = a
    · obtain ⟨k, rfl⟩ := hfinish
      refine ⟨hframe.fresh, hframe.opens, fun k' c thread hc hthread => ?_, fun k' hmem => ?_⟩
      · refine (hframe.threads k' c thread hc hthread).imp_right fun hd => hd.imp_right fun hmem => ?_
        exact List.mem_append_left _ hmem
      · rcases List.mem_append.mp hmem with hmem | hmem
        · exact hframe.ended k' hmem
        · cases List.mem_singleton.mp hmem
          cases step with
          | finish _ thread hthread stage =>
            exact ⟨{ thread with stage := .finished s.now },
              Table.lookup_modify_self.trans (congrArg _ hthread), rfl⟩
    · exact hframe.snoc fun k hk => hfinish ⟨k, hk⟩
  | true =>
    have h : Dismissals (as ++ [a]) s := by
      refine h.snoc ?_
      rintro k rfl
      cases ha
    cases step with
    | reserved k profile reservation r free fresh result => exact h.reserve hw fresh rfl
    | unreserved => exact h
    | «open» k c stage call moves =>
      obtain ⟨hundecided, hregisters⟩ := moves.undecided
      refine h.setOpen call (fun backend hbackend => ?_) (moves.leftover fun backend hbackend =>
        h.fresh k c backend call hbackend) ?_
      · rcases moves.fresh hbackend with hheld | ⟨config, database, rfl⟩
        · exact h.fresh k c backend call hheld
        · exact connects k config database backend rfl
      -- an open with a worker that still moves has been dismissed
      rintro (hstage | hstage | hmem)
      · rw [hundecided] at hstage
        cases hstage
      · rw [hregisters] at hstage
        cases hstage
      · exact .inr (.inr hmem)
    | spawn k c config database backend call stage =>
      have hset : Dismissals (as ++ [.spawn k])
          (s.setOpen k (.publishing config (c.snapshot database backend))) :=
        h.setOpen call (by simp [OpenStage.fresh]) (by simp [OpenStage.leftover]) fun _ => .inl rfl
      refine ⟨hset.fresh, hset.opens, fun k' d thread hd hthread => ?_, fun k' hmem => ?_⟩
      · by_cases hk : k' = k
        · subst hk
          cases (lookup_setOpen_self call).symm.trans hd
          exact .inl rfl
        · exact hset.threads k' d thread hd ((AList.lookup_insert_ne hk).symm.trans hthread)
      · obtain ⟨thread, hthread, hended⟩ := hset.ended k' hmem
        obtain ⟨d, hd, -, hstarted⟩ := hw.starter k' thread hthread
        -- the thread of this open is only started now
        have hk : k' ≠ k := by
          rintro rfl
          rw [call, Option.some.injEq] at hd
          subst hd
          rw [stage] at hstarted
          cases hstarted
        exact ⟨thread, (AList.lookup_insert_ne hk).trans hthread, hended⟩
    | published k c config published r free call stage result =>
      exact (h.setRegistry r).setOpen call (by simp [OpenStage.fresh])
        (by simp [OpenStage.leftover]) fun _ => .inr (.inl rfl)
    | unpublished k c config published free call stage result =>
      exact h.setOpen call (by simp [OpenStage.fresh]) (by simp [OpenStage.leftover]) fun _ => .inl rfl
    | dismiss k c call stage =>
      split
      · have hsent : Dismissals (as ++ [.dismiss k]) (s.setThread k (Thread.push (.shutdown false))) :=
          h.frame ⟨rfl, rfl, rfl, rfl⟩ (.send k _ (.inr (.inr ⟨c, call, stage⟩)) rfl rfl)
        exact hsent.setOpen call (by simp [OpenStage.fresh]) (by simp [OpenStage.leftover])
          fun _ => .inr (.inr (by simp))
      · exact h.setOpen call (by simp [OpenStage.fresh]) (by simp [OpenStage.leftover]) fun _ =>
          .inr (.inr (by simp))
    -- the reservation is given back with what is left over
    | finishOpen k c refusal backend free call stage =>
      refine (h.setRegistry _).setOpen call (by simp [OpenStage.fresh]) (fun b hb => h.opens k c b call ?_) ?_
      · rw [stage]
        exact hb
      · rw [stage]
        rintro (hstage | hstage | hmem)
        · cases hstage
        · cases hstage
        · exact .inr (.inr hmem)
    | _ => cases ha

/-- When every dismissed thread has ended, the connections of the opens that have given up are
gone. -/
theorem Dismissals.dismissed {as : List Action} (h : Dismissals as s)
    (waits : ∀ k, .dismiss k ∈ as → .finish k ∈ as) : s.DismissedDisposed where
  opens k c backend hc hreserves hbackend := by
    refine h.opens k c backend hc ?_
    -- an open without a reservation has come back or is coming back
    cases hstage : c.stage with
    | returning refusal b =>
      rw [hstage] at hbackend
      exact hbackend
    | returned reply =>
      rw [hstage] at hbackend
      cases hbackend
    | resolving | connecting | connected | closing | spawning | publishing | dismissing | finishing =>
      rw [hstage] at hreserves
      cases hreserves
  threads k c thread hc hreserves hregisters hthread := by
    rcases h.threads k c thread hc hthread with hstage | hstage | hmem
    · cases hcase : c.stage with
      | publishing | dismissing =>
        rw [hcase] at hreserves
        cases hreserves
      | resolving | connecting | connected | closing | spawning | finishing | returning | returned =>
        rw [hcase] at hstage
        cases hstage
    · rw [hregisters] at hstage
      cases hstage
    · obtain ⟨thread', hthread', hended⟩ := h.ended k (waits k hmem)
      rw [hthread, Option.some.injEq] at hthread'
      subst hthread'
      exact hended

/-- What the steps of a run say of the opens that are turned away. -/
theorem dismissals_of_run {ls : List Label} (run : Run (Acts core) new ls s)
    (hbound : reservations ls ≤ u64Max) (connects : ∀ l ∈ ls, l.ConnectsIdle) :
    Dismissals (ls.map Label.action) s := by
  induction run with
  | nil => exact dismissals_new
  | @snoc t u ls l run last ih =>
    have hroom : reservations ls ≤ u64Max := (reservations_le_of_append ls [l]).trans hbound
    have hstaffed : t.Staffed := (tracked_of_run run hroom).2.1
    have hconnects : l.ConnectsIdle := connects l (by simp)
    obtain ⟨rfl, rfl, step⟩ := last
    rw [List.map_append]
    exact (ih hroom fun l' hl' => connects l' (List.mem_append_left _ hl')).step hstaffed step hconnects

/-- A run that hurries none of them meets the condition. -/
theorem Unhurried.dismissed {ls : List Label} (h : Unhurried ls) (run : Run (Acts core) new ls s)
    (hbound : reservations ls ≤ u64Max) : ∀ l ∈ ls, l.Dismissed := by
  intro l hl hfreeze report frozen verified
  obtain ⟨pre, post, rfl, before, -, -⟩ := reached_of_mem run hl
  have hroom : reservations pre ≤ u64Max := by
    rw [List.append_assoc] at hbound
    exact (reservations_le_of_append pre _).trans hbound
  refine (dismissals_of_run before hroom fun l' hl' => h.connects l' ?_).dismissed ?_
  · simp [hl']
  · exact h.waits pre l post (by simp) hfreeze

/-! ### Every run -/

/-- A verified report means that every connection is gone exactly when, as it is given, the
connections of the opens that have given up are gone. -/
theorem truthful_iff_dismissed {ls : List Label} (run : Run (Acts core) new ls s)
    (hle : reservations ls ≤ u64Max) : (∀ l ∈ ls, l.Truthful) ↔ ∀ l ∈ ls, l.Dismissed := by
  constructor
  · intro h l hl hfreeze report frozen verified
    obtain ⟨pre, post, -, -, step, -⟩ := reached_of_mem run hl
    rw [hfreeze] at step
    obtain ⟨hopens, hthreads⟩ := step.freeze_same
    have hall := (h l hl report frozen verified).dismissed
    refine ⟨?_, ?_⟩
    · rw [← hopens]
      exact hall.opens
    · rw [← hopens, ← hthreads]
      exact hall.threads
  · intro h l hl
    obtain ⟨pre, post, rfl, -, step, after⟩ := reached_of_mem run hl
    intro report frozen verified
    have hnew : (new.Booked ∧ new.Staffed ∧ new.Tracked) ∧
        ∀ report, new.registry.frozenReport = some report → report.verified = true →
          new.AllDisposed :=
      ⟨⟨booked_new, staffed_new, tracked_new⟩, nofun⟩
    -- what the report says is carried along with what makes it so
    refine (invariant_of_run (I := fun s => (s.Booked ∧ s.Staffed ∧ s.Tracked) ∧
        ∀ report, s.registry.frozenReport = some report → report.verified = true → s.AllDisposed)
      (G := fun l => l.Dismissed) hnew ?_ after (fun l' hl' => h l' (List.mem_append_left _ hl'))
      ((reservations_le_of_append _ post).trans hle)).2 report frozen verified
    rintro s l t ⟨hs, hdisposed⟩ hl hroom good
    have ht : t.Booked ∧ t.Staffed ∧ t.Tracked :=
      ⟨hs.1.step hl.2.2 (hs.1.newId hl.2.2 hroom), hs.2.1.step hs.1 hl.2.2, hs.2.2.step hs.1 hs.2.1 hl.2.2⟩
    have htruthful := Label.Truthful.step hs hdisposed hl ht good
    obtain ⟨-, rfl, -⟩ := hl
    exact ⟨ht, htruthful⟩

/-- With fewer than `2 ^ 64` reservations, a verified report means that every connection is
gone exactly when, as it is given, the connections of the opens that have given up are
gone; it is so in every run that hurries none of them. -/
theorem verified_of_run_iff {ls : List Label} (run : Run (Acts core) new ls s)
    (hbound : reservations ls < 2 ^ 64) :
    ((∀ l ∈ ls, l.Truthful) ↔ ∀ l ∈ ls, l.Dismissed) ∧ (Unhurried ls → ∀ l ∈ ls, l.Truthful) := by
  have hle : reservations ls ≤ u64Max := by
    rw [u64Max_eq]
    omega
  have hiff : (∀ l ∈ ls, l.Truthful) ↔ ∀ l ∈ ls, l.Dismissed := truthful_iff_dismissed run hle
  exact ⟨hiff, fun h => hiff.mpr (h.dismissed run hle)⟩

/-! ### One idle handle -/

/-- The server with one idle handle. -/
def idleServer : Server := new.afterOpen 0 "local" Config.default

/-- The connection of that handle when its clean-up starts. -/
def idleBackend : LibpqBackend := Worker.opened.backend.install (.still [])

/-- A step of the shutdown of that server, once it has begun; the connection is cleaned up as it was
opened. -/
structure Label.Retires (l : Label) : Prop where
  begun : ∀ n, l.action ≠ .shutdown n
  opens : l.action.isOpen = false
  kept : l.before.opens = idleServer.opens
  idle : ∀ k env result thread, l.action = .clean k env result → l.before.threads.lookup k = some thread →
    thread.backend = Worker.opened.backend

/-- Such steps, with what happens in them. -/
def Retiring (as : List Action) (s t : Server) : Prop :=
  ∃ ls, Run (Acts localProfile) s ls t ∧ ls.map Label.action = as ∧ ∀ l ∈ ls, l.Retires

theorem Retiring.refl (s : Server) : Retiring [] s s := ⟨[], .nil s, rfl, List.forall_mem_nil _⟩

theorem Retiring.cons {u : Server} {a : Action} {as : List Action} (step : Step localProfile s a t)
    (retires : Label.Retires ⟨a, s, t⟩) (rest : Retiring as t u) : Retiring (a :: as) s u := by
  obtain ⟨ls, run, hactions, hretires⟩ := rest
  exact ⟨_, step.cons run, congrArg _ hactions, List.forall_mem_cons.mpr ⟨retires, hretires⟩⟩

/-- A step that cleans nothing up. -/
theorem Retiring.aside {u : Server} {a : Action} {as : List Action} (step : Step localProfile s a t)
    (opens : a.isOpen = false) (begun : ∀ n, a ≠ .shutdown n)
    (other : ∀ k env result, a ≠ .clean k env result)
    (kept : s.opens = idleServer.opens) (rest : Retiring as t u) : Retiring (a :: as) s u :=
  .cons step ⟨begun, opens, kept, fun k env result _ h => absurd h (other k env result)⟩ rest

/-- The step before them. -/
theorem Step.retiring {u : Server} {a : Action} {as : List Action} (step : Step localProfile s a t)
    (rest : Retiring as t u) : ∃ first ls, Run (Acts localProfile) s (first :: ls) u ∧ first.action = a ∧
      ls.map Label.action = as ∧ ∀ l ∈ ls, l.Retires := by
  obtain ⟨ls, run, hactions, hretires⟩ := rest
  exact ⟨_, ls, step.cons run, rfl, hactions, hretires⟩

/-- The shutdown of one idle handle, whose worker has ended when the owner looks. -/
theorem run_idleShutdown : ∃ first ls s report, Run (Acts localProfile) idleServer (first :: ls) s ∧
    first.action = .shutdown 0 ∧ (∀ l ∈ ls, l.Retires) ∧
    .clean 0 (.still []) .verified ∈ ls.map Label.action ∧ s.registry.frozenReport = some report ∧
    report.workers = [.verified (handleName 1)] ∧ s.shutdowns.lookup 0 = some (.returned report) := by
  have steps :=
    (@Step.shutdown localProfile idleServer 0 rfl (AList.notMem_empty _) rfl rfl).retiring <|
    .aside (Step.signal _ rfl rfl) rfl (by simp) (by simp) rfl <|
    .aside (Step.visit _ (handleName 1) [] rfl rfl rfl (by decide)) rfl (by simp) (by simp) rfl <|
    .aside (Step.live _ (handleName 1) _ rfl rfl rfl (AList.lookup_insert _) rfl) rfl (by simp)
      (by simp) rfl <|
    .aside (Step.enqueue _ (handleName 1) 0 rfl rfl rfl) rfl (by simp) (by simp) rfl <|
    .aside (Step.check _ (handleName 1) 0 rfl rfl (by decide)) rfl (by simp) (by simp) rfl <|
    .aside (Step.take 0 _ (.shutdown true) [] rfl rfl rfl) rfl (by simp) (by simp) rfl <|
    -- the thread still has the connection that was opened
    .cons (Step.clean 0 _ true (.still []) 0 .verified idleBackend.take rfl rfl (by rfl))
      ⟨by simp, rfl, rfl, fun k env result thread h hthread => by cases h; cases hthread; rfl⟩ <|
    .aside (Step.close 0 _ _ true rfl rfl rfl) rfl (by simp) (by simp) rfl <|
    .aside (Step.report 0 _ _ true rfl rfl) rfl (by simp) (by simp) rfl <|
    .aside (Step.answered _ (handleName 1) 0 _ rfl rfl rfl) rfl (by simp) (by simp) rfl <|
    .aside (Step.leave 0 _ rfl rfl) rfl (by simp) (by simp) rfl <|
    .aside (Step.finish 0 _ rfl rfl) rfl (by simp) (by simp) rfl <|
    .aside (Step.join _ (handleName 1) _ rfl rfl rfl (by rfl)) rfl (by simp) (by simp) rfl <|
    .aside (Step.visited _ rfl rfl rfl) rfl (by simp) (by simp) rfl <|
    .aside (Step.freeze _ 0 rfl rfl rfl rfl (AList.lookup_insert _) _ rfl) rfl (by simp) (by simp)
      rfl <| .refl _
  obtain ⟨first, ls, run, hfirst, hactions, hretires⟩ := steps
  refine ⟨first, ls, _, _, run, hfirst, hretires, ?_, rfl, rfl, AList.lookup_insert _⟩
  rw [hactions]
  simp

/-- The steps of the shutdown grant nothing. -/
theorem reservations_idleShutdown {first : Label} (hfirst : first.action = .shutdown 0)
    (h : ∀ l ∈ ls, Label.Retires l) : reservations (first :: ls) = 0 := by
  unfold reservations
  rw [List.countP_eq_zero, List.forall_mem_cons]
  constructor
  · simp [Label.granted, hfirst]
  · intro l hl hgranted
    obtain ⟨k, profile, reservation, haction⟩ := Label.granted_iff.mp hgranted
    have hopens := (h l hl).opens
    rw [haction] at hopens
    cases hopens

/-- One idle handle is opened, and its shutdown is verified. -/
theorem verified_of_run_iff_idle : ∃ ls s report, Run (Acts localProfile) new ls s ∧
    reservations ls < 2 ^ 64 ∧ s.registry.frozenReport = some report ∧
    report.workers = [.verified (handleName 1)] ∧ ∀ l ∈ ls, l.Truthful := by
  obtain ⟨opening, hopening, hcount, hopens⟩ :=
    run_open (admits_new (by decide) localProfile_admissionConfig)
  obtain ⟨first, ls, s, report, run, hfirst, hretires, -, hfrozen, hworkers, -⟩ := run_idleShutdown
  have hrun := hopening.append run
  have hbound : reservations (opening ++ first :: ls) < 2 ^ 64 := by
    have hnone := reservations_idleShutdown hfirst hretires
    unfold reservations at hcount hnone ⊢
    rw [List.countP_append, hcount, hnone]
    decide
  refine ⟨_, s, report, hrun, hbound, hfrozen, hworkers, (verified_of_run_iff hrun hbound).1.mpr ?_⟩
  intro l hl hfreeze report' _ _
  rw [List.mem_append, List.mem_cons] at hl
  rcases hl with hl | rfl | hl
  · have hopen := hopens l hl
    rw [hfreeze] at hopen
    cases hopen
  · cases hfirst.symm.trans hfreeze
  · -- the open of the handle has come back with it
    have hreturned : ∀ k c, l.before.opens.lookup k = some c →
        c.stage = .returned (openReply new.freshSnapshot) := by
      intro k c hc
      rw [(hretires l hl).kept] at hc
      have hc : (AList.insert 0 _ ∅ : Table ℕ OpenCall).lookup k = some c := hc
      rw [Table.lookup_insert] at hc
      by_cases hk : k = 0
      · rw [if_pos hk] at hc
        cases hc
        rfl
      · rw [if_neg hk] at hc
        cases hc
    constructor
    · intro k c backend hc _ hbackend
      rw [hreturned k c hc] at hbackend
      cases hbackend
    · intro k c thread hc _ hregisters
      rw [hreturned k c hc] at hregisters
      cases hregisters

/-- An open finds the server stopping and gives its reservation back; the report is verified
while its thread runs. -/
theorem verified_with_live_worker : ∃ ls s, Run (Acts localProfile) new ls s ∧
    reservations ls = 1 ∧ ∃ l ∈ ls, ¬ l.Truthful := by
  obtain ⟨ls, run, hcount, -⟩ := run_started (admits_new
    (by decide) localProfile_admissionConfig)
  have steps := (@Step.shutdown localProfile
      (new.startedServer 0 "local" Config.default) 0 rfl (AList.notMem_empty _) rfl rfl).cons <|
    (Step.unpublished 0 _ Config.default new.freshSnapshot rfl (AList.lookup_insert _) rfl rfl).cons <|
    (Step.dismiss 0 _ (AList.lookup_insert _) rfl).cons <|
    (Step.finishOpen 0 _ _ _ rfl (AList.lookup_insert _) rfl).cons <|
    (Step.signal _ rfl rfl).cons <| (Step.visited _ rfl rfl rfl).cons <|
    (Step.released _ (handleName 1) [] rfl rfl rfl rfl fun h => (AList.mem_erase.mp h).1 rfl).cons <|
    (Step.freeze _ 0 rfl rfl rfl rfl (AList.lookup_insert _) _ rfl).run
  -- the label is that of the freeze
  refine ⟨_, _, run.append steps, ?_, _, List.mem_append_right _ (.tail _ <| .tail _ <| .tail _ <|
    .tail _ <| .tail _ <| .tail _ <| .tail _ <| .head _), fun h => ?_⟩
  · unfold reservations at hcount ⊢
    rw [List.countP_append, hcount]
    rfl
  · have := (h _ rfl rfl).threads 0 _ rfl
    cases this

end Server

end PgMcp
