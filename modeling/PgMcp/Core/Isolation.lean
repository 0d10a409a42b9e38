import PgMcp.Core.Progress
import PgMcp.Core.Shares
import PgMcp.Lib.Unwinding
import PgMcp.Worker.Rounds

/-!
# Handles do not disturb each other

As long as nobody shuts the server down, a handle is served as if it were alone: its own
steps of a run can be taken without all others, and what becomes of its entry, its worker
and its requests depends on its own steps only.  One thing breaks this: a thread that waits
for the lock it holds stops everybody.

## Main definitions

* `Server.Freer` — what the lock and the numbers of the requests allow.
* `Label.own`, `Label.Alike` — the own steps of a handle, and steps that it cannot tell apart.

## Main results

* `Server.Step.follow` — the same own step from the same share leads to the same share.
* `Server.Step.lift` — an own step can be taken wherever the share is the same.
* `Server.isolated_of_run` — the own steps of a handle can be taken alone.
* `Server.share_of_run` — a handle's share depends on its own steps only.
* `Server.steps_commute` — the steps of two handles commute.
-/

namespace PgMcp

open Program

/-! ### Requests of one handle -/

/-- Two admissions agree where the lifecycle, the entry and the queue do. -/
theorem Admission.agree {send send' : ℕ → TrySend} {r r' r₁ r₁' : Registry} {handle : String}
    {result result' : Except CoreFailure ℕ} (h : Admission send r handle result r₁)
    (h' : Admission send' r' handle result' r₁') (lifecycle : r'.lifecycle = r.lifecycle)
    (same : r'.handles.lookup handle = r.handles.lookup handle)
    (sends : ∀ entry, r.handles.lookup handle = some entry → send' entry.sender = send entry.sender) :
    result' = result ∧ r₁'.lifecycle = r₁.lifecycle ∧
      r₁'.handles.lookup handle = r₁.handles.lookup handle := by
  -- the checks are made in one order, so both come to the same one
  cases h with
  | stopping stopped =>
    cases h' with
    | stopping => exact ⟨rfl, lifecycle, same⟩
    | unknown running | busy _ running | rejected _ _ running | sent _ running =>
      exact absurd (lifecycle.symm.trans running) stopped
  | unknown running absent =>
    cases h' with
    | stopping stopped => exact absurd (lifecycle.trans running) stopped
    | unknown => exact ⟨rfl, lifecycle, same⟩
    | busy _ _ present | rejected _ _ _ present | sent _ _ present =>
      rw [same, absent] at present
      cases present
  | busy entry running present live full =>
    cases h' with
    | stopping stopped => exact absurd (lifecycle.trans running) stopped
    | unknown _ absent =>
      rw [same, present] at absent
      cases absent
    | busy entry' _ present' =>
      rw [same, present, Option.some.injEq] at present'
      exact ⟨by rw [present'], lifecycle, same⟩
    | rejected entry' _ _ present' _ room | sent entry' _ present' _ room =>
      rw [same, present, Option.some.injEq] at present'
      subst present'
      omega
  | rejected entry code running present live room queue r₁ changed rule =>
    have hsend := sends entry present
    cases h' with
    | stopping stopped => exact absurd (lifecycle.trans running) stopped
    | unknown _ absent =>
      rw [same, present] at absent
      cases absent
    | busy entry' _ present' _ full =>
      rw [same, present, Option.some.injEq] at present'
      subst present'
      omega
    | rejected entry' code' _ present' _ _ _ r₁' changed' rule' =>
      rw [same, present, Option.some.injEq] at present'
      subst present' changed changed'
      rw [hsend, ← rule] at rule'
      refine ⟨by rw [rule'], lifecycle, ?_⟩
      simp only [Registry.modify, Table.lookup_modify_self, same]
    | sent entry' _ present' _ _ queue' =>
      rw [same, present, Option.some.injEq] at present'
      subst present'
      exact absurd (hsend.symm.trans queue') queue
  | sent entry running present live room queue =>
    have hsend := sends entry present
    cases h' with
    | stopping stopped => exact absurd (lifecycle.trans running) stopped
    | unknown _ absent =>
      rw [same, present] at absent
      cases absent
    | busy entry' _ present' _ full =>
      rw [same, present, Option.some.injEq] at present'
      subst present'
      omega
    | rejected entry' _ _ present' _ _ queue' =>
      rw [same, present, Option.some.injEq] at present'
      subst present'
      exact absurd (hsend.trans queue) queue'
    | sent entry' _ present' =>
      rw [same, present, Option.some.injEq] at present'
      subst present'
      refine ⟨rfl, lifecycle, ?_⟩
      simp only [Registry.modify, Table.lookup_modify_self, same]

/-- The second section ends or not as the lifecycle and the entry say. -/
theorem dispatchAdmit_terminates_congr {send send' : ℕ → TrySend} {r r' : Registry} {handle : String}
    (lifecycle : r'.lifecycle = r.lifecycle)
    (same : r'.handles.lookup handle = r.handles.lookup handle) :
    (dispatchAdmit send' handle).Terminates (.free r') ↔
      (dispatchAdmit send handle).Terminates (.free r) := by
  rw [dispatchAdmit_terminates_iff, dispatchAdmit_terminates_iff]
  unfold Registry.Closed
  rw [lifecycle, same]

/-- The limits of a handle that is not in the registry. -/
theorem dispatchLimits_absent {r : Registry} {handle : String}
    (absent : r.handles.lookup handle = none) :
    (dispatchLimits handle).Returns (.free r) (.error (.process (coreError .handleUnknown)))
      (.free r) := by
  refine Mutex.returns_withLock.mpr ⟨{ held := true, value := r }, ?_, rfl⟩
  refine (bind_ok rfl).trans ?_
  simp only [absent]
  rfl

/-- The first section ends as the entry says. -/
theorem dispatchLimits_congr {r r' : Registry} {handle : String}
    {result : Except CoreFailure (ℕ × ℕ)}
    (same : r'.handles.lookup handle = r.handles.lookup handle)
    (h : (dispatchLimits handle).Returns (.free r) result (.free r)) :
    (dispatchLimits handle).Returns (.free r') result (.free r') := by
  cases present : r.handles.lookup handle with
  | none =>
    obtain ⟨rfl, -⟩ := h.unique (dispatchLimits_absent present)
    exact dispatchLimits_absent (same.trans present)
  | some entry =>
    obtain ⟨rfl, -⟩ := h.unique (Server.dispatchLimits_returns present)
    exact Server.dispatchLimits_returns (same.trans present)

/-- A failure is looked up as the entry says. -/
theorem forHandle_congr {r r' : Registry} {handle : String} {error : CoreError}
    {result : Except CoreFailure CoreFailure}
    (same : r'.handles.lookup handle = r.handles.lookup handle)
    (h : (CoreFailure.forHandle handle error).Returns (.free r) result (.free r)) :
    (CoreFailure.forHandle handle error).Returns (.free r') result (.free r') := by
  have returns : ∀ r : Registry, (CoreFailure.forHandle handle error).Returns (.free r)
      (.ok { error := error, handleState := r.currentState handle, sqlstate := none,
             outcomeUnknown := error.outcomeUnknown }) (.free r) := fun r => rfl
  obtain ⟨rfl, -⟩ := h.unique (returns r)
  have hstate : r'.currentState handle = r.currentState handle := by
    unfold Registry.currentState
    rw [same]
  rw [← hstate]
  exact returns r'

namespace Server

variable {core : Core} {s s' t t' : Server} {id : String}

/-! ### The same share -/

theorem thread_of_share (hshare : s.share id = s'.share id) {k : ℕ} {thread : Thread}
    (lookup : s.threads.lookup k = some thread) (handle : thread.handle = id) :
    s'.threads.lookup k = some thread :=
  (share_thread.mp (hshare ▸ share_thread.mpr ⟨lookup, handle⟩)).1

theorem request_of_share (hshare : s.share id = s'.share id) {n : ℕ} {c : RequestCall}
    (call : s.requests.lookup n = some c) (handle : c.handle = id) :
    s'.requests.lookup n = some c :=
  (share_request.mp (hshare ▸ share_request.mpr ⟨call, handle⟩)).1

theorem entry_of_share (hshare : s.share id = s'.share id) :
    s'.registry.handles.lookup id = s.registry.handles.lookup id :=
  (congrArg Share.entry hshare).symm

theorem lifecycle_of_share (hshare : s.share id = s'.share id) :
    s'.registry.lifecycle = s.registry.lifecycle :=
  (congrArg Share.lifecycle hshare).symm

/-- The queue of a handle answers the same. -/
theorem trySend_of_share (hs : s.Sound) (hshare : s.share id = s'.share id) {entry : WorkerEntry}
    (present : s.registry.handles.lookup id = some entry) :
    s'.trySend entry.sender = s.trySend entry.sender := by
  obtain ⟨thread, lookup, -⟩ := hs.staffed.worker _ entry present
  have handle := ((hs.staffed.sender_iff hs.booked lookup present).mp rfl).symm
  unfold trySend
  rw [lookup, thread_of_share hshare lookup handle]

/-- A request is admitted or refused the same, and its handle is left the same. -/
theorem dispatchAdmit_same (hs : s.Sound) (hshare : s.share id = s'.share id) {r r' : Registry}
    {result result' : Except CoreFailure ℕ}
    (h : (dispatchAdmit s.trySend id).Returns (.free s.registry) result (.free r))
    (h' : (dispatchAdmit s'.trySend id).Returns (.free s'.registry) result' (.free r')) :
    result' = result ∧ r'.lifecycle = r.lifecycle ∧
      r'.handles.lookup id = r.handles.lookup id := by
  obtain ⟨r₁, hr, hadmission⟩ := Admission.of_returns h
  obtain ⟨r₁', hr', hadmission'⟩ := Admission.of_returns h'
  cases hr
  cases hr'
  exact hadmission.agree hadmission' (lifecycle_of_share hshare) (entry_of_share hshare) fun entry =>
    trySend_of_share hs hshare

/-- The second section ends the same. -/
theorem dispatchAdmit_terminates_of_share (hshare : s.share id = s'.share id) :
    (dispatchAdmit s'.trySend id).Terminates (.free s'.registry) ↔
      (dispatchAdmit s.trySend id).Terminates (.free s.registry) :=
  dispatchAdmit_terminates_congr (lifecycle_of_share hshare) (entry_of_share hshare)

/-- A request that is admitted or refused is so wherever the share is the same. -/
theorem dispatchAdmit_of_share (hs : s.Sound) (hshare : s.share id = s'.share id) {r : Registry}
    {result : Except CoreFailure ℕ}
    (h : (dispatchAdmit s.trySend id).Returns (.free s.registry) result (.free r)) :
    ∃ r', (dispatchAdmit s'.trySend id).Returns (.free s'.registry) result (.free r') := by
  have hends := (dispatchAdmit_terminates_of_share hshare).mpr ⟨_, _, h⟩
  obtain ⟨result', r', h', -⟩ := dispatchAdmit_returns s'.trySend (dispatchAdmit_live hends)
  obtain ⟨rfl, -⟩ := dispatchAdmit_same hs hshare h h'
  exact ⟨r', h'⟩

theorem setThread_congr (hshare : s.share id = s'.share id) {k : ℕ} {f : Thread → Thread}
    (handle : ∀ t, (f t).handle = t.handle) :
    (s.setThread k f).share id = (s'.setThread k f).share id := by
  rw [share_setThread handle, share_setThread handle, hshare]

theorem setRequest_congr (hshare : s.share id = s'.share id) {n : ℕ} {stage : RequestStage} :
    (s.setRequest n stage).share id = (s'.setRequest n stage).share id := by
  rw [share_setRequest, share_setRequest, hshare]

theorem modify_congr (hshare : s.share id = s'.share id) {f : WorkerEntry → WorkerEntry} :
    (s.setRegistry (s.registry.modify id f)).share id =
      (s'.setRegistry (s'.registry.modify id f)).share id := by
  rw [share_modify, share_modify, hshare]

theorem setRegistry_congr (hshare : s.share id = s'.share id) {r r' : Registry}
    (lifecycle : r'.lifecycle = r.lifecycle) (same : r'.handles.lookup id = r.handles.lookup id) :
    (s.setRegistry r).share id = (s'.setRegistry r').share id := by
  have hnow := congrArg Share.now hshare
  have hthreads := congrArg Share.threads hshare
  have hrequests := congrArg Share.requests hshare
  exact Share.ext hnow lifecycle.symm same.symm hthreads hrequests

theorem insert_congr (hshare : s.share id = s'.share id) {n : ℕ} {c : RequestCall}
    (handle : c.handle = id) :
    ({ s with requests := s.requests.insert n c } : Server).share id =
      ({ s' with requests := s'.requests.insert n c } : Server).share id := by
  rw [share_insert handle, share_insert handle, hshare]

theorem orphan_congr (hshare : s.share id = s'.share id) {queue : List Request} :
    ({ s with requests := PgMcp.orphan queue s.requests } : Server).share id =
      ({ s' with requests := PgMcp.orphan queue s'.requests } : Server).share id := by
  rw [share_orphan, share_orphan, hshare]

/-! ### Own steps -/

theorem handle_of_own {a : Action} (own : a.own s id = true) {handle : String}
    (h : a.handle s = some handle) : handle = id := by
  cases a with
  | tick => cases h
  | _ =>
    have heq := eq_of_beq own
    rw [h] at heq
    exact Option.some.inj heq

/-- The own steps of threads, in two servers that share a handle. -/
theorem thread_of_own {a : Action} (own : a.own s id = true) {k : ℕ} {thread : Thread}
    (lookup : s.threads.lookup k = some thread)
    (acts : a.handle s = (s.threads.lookup k).map Thread.handle) : thread.handle = id :=
  handle_of_own own (by rw [acts, lookup]; rfl)

theorem request_of_own {a : Action} (own : a.own s id = true) {n : ℕ} {c : RequestCall}
    (call : s.requests.lookup n = some c)
    (acts : a.handle s = (s.requests.lookup n).map RequestCall.handle) : c.handle = id :=
  handle_of_own own (by rw [acts, call]; rfl)

/-- The same own step from the same share leads to the same share. -/
theorem Step.follow (hs : s.Sound) {a : Action} (h : Step core s a t) (h' : Step core s' a t')
    (own : a.own s id = true) (hshare : s.share id = s'.share id) : t.share id = t'.share id := by
  -- the thread or the request of the step is in the share, so it is the same in both servers
  have thread : ∀ {k x y}, s.threads.lookup k = some x →
      a.handle s = (s.threads.lookup k).map Thread.handle → s'.threads.lookup k = some y →
      y = x ∧ x.handle = id := by
    intro k x y lookup acts lookup'
    have handle := thread_of_own own lookup acts
    rw [thread_of_share hshare lookup handle, Option.some.injEq] at lookup'
    exact ⟨lookup'.symm, handle⟩
  have request : ∀ {n c d}, s.requests.lookup n = some c →
      a.handle s = (s.requests.lookup n).map RequestCall.handle → s'.requests.lookup n = some d →
      d = c ∧ c.handle = id := by
    intro n c d call acts call'
    have handle := request_of_own own call acts
    rw [request_of_share hshare call handle, Option.some.injEq] at call'
    exact ⟨call'.symm, handle⟩
  cases h with
  | tick time later =>
    cases h'
    exact congrArg (fun x : Share => { x with now := time }) hshare
  | dispatch n handle operation limits free fresh result =>
    obtain rfl := handle_of_own own rfl
    cases h' with
    | dispatch => exact insert_congr hshare rfl
    | unknown n handle operation failure _ _ result' =>
      -- one registry has the handle, and so has the other
      obtain ⟨h, -⟩ := (dispatchLimits_congr (entry_of_share hshare) result).unique result'
      cases h
  | unknown n handle operation failure free fresh result =>
    obtain rfl := handle_of_own own rfl
    cases h' with
    | dispatch n handle operation limits _ _ result' =>
      obtain ⟨h, -⟩ := (dispatchLimits_congr (entry_of_share hshare) result).unique result'
      cases h
    | unknown n handle operation failure' _ _ result' =>
      obtain ⟨h, -⟩ := (dispatchLimits_congr (entry_of_share hshare) result).unique result'
      cases h
      exact insert_congr hshare rfl
  | admitted n c k r free call stage result =>
    cases h' with
    | admitted n d k' r' free' call' stage' result' =>
      obtain ⟨rfl, rfl⟩ := request call rfl call'
      obtain ⟨hk, hlifecycle, hentry⟩ := dispatchAdmit_same hs hshare result result'
      cases hk
      refine setRequest_congr ?_
      exact setThread_congr (setRegistry_congr hshare hlifecycle hentry) fun _ => rfl
    | unadmitted n d failure r' free' call' stage' result' =>
      obtain ⟨rfl, rfl⟩ := request call rfl call'
      obtain ⟨hk, -⟩ := dispatchAdmit_same hs hshare result result'
      cases hk
    | stuck n d free' call' stage' result' =>
      obtain ⟨rfl, rfl⟩ := request call rfl call'
      exact absurd ((dispatchAdmit_terminates_of_share hshare).mpr ⟨_, _, result⟩) result'
  | unadmitted n c failure r free call stage result =>
    cases h' with
    | admitted n d k' r' free' call' stage' result' =>
      obtain ⟨rfl, rfl⟩ := request call rfl call'
      obtain ⟨hk, -⟩ := dispatchAdmit_same hs hshare result result'
      cases hk
    | unadmitted n d failure' r' free' call' stage' result' =>
      obtain ⟨rfl, rfl⟩ := request call rfl call'
      obtain ⟨hk, hlifecycle, hentry⟩ := dispatchAdmit_same hs hshare result result'
      cases hk
      exact setRequest_congr (setRegistry_congr hshare hlifecycle hentry)
    | stuck n d free' call' stage' result' =>
      obtain ⟨rfl, rfl⟩ := request call rfl call'
      exact absurd ((dispatchAdmit_terminates_of_share hshare).mpr ⟨_, _, result⟩) result'
  | stuck n c free call stage result =>
    cases h' with
    | admitted n d k' r' free' call' stage' result'
    | unadmitted n d failure' r' free' call' stage' result' =>
      obtain ⟨rfl, rfl⟩ := request call rfl call'
      exact absurd ((dispatchAdmit_terminates_of_share hshare).mp ⟨_, _, result'⟩) result
    | stuck => exact hshare
  | lose n c failure free call stage result =>
    cases h' with
    | lose n d failure' free' call' stage' result' =>
      obtain ⟨rfl, rfl⟩ := request call rfl call'
      obtain ⟨h, -⟩ := (forHandle_congr (entry_of_share hshare) result).unique result'
      cases h
      exact setRequest_congr hshare
  | take k x request rest lookup stage queue =>
    cases h' with
    | take k y request' rest' lookup' stage' queue' =>
      obtain ⟨rfl, rfl⟩ := thread lookup rfl lookup'
      rw [queue] at queue'
      cases queue'
      exact setThread_congr hshare fun _ => rfl
  | execute k x call operation entry env rounds result w free lookup stage present runs =>
    cases h' with
    | execute k y call' operation' entry' env rounds' result' w' free' lookup' stage' present' runs' =>
      obtain ⟨rfl, rfl⟩ := thread lookup rfl lookup'
      rw [entry_of_share hshare, present] at present'
      rw [stage] at stage'
      cases present'
      cases stage'
      -- the two runs may have had different numbers of rounds
      obtain ⟨rfl, rfl⟩ := executeOperation_unique runs runs'
      exact setThread_congr hshare fun _ => rfl
  | record k x call operation result published free lookup stage =>
    cases h' with
    | record k y call' operation' result' published' free' lookup' stage' =>
      obtain ⟨rfl, rfl⟩ := thread lookup rfl lookup'
      rw [stage] at stage'
      cases stage'
      exact setThread_congr (modify_congr hshare) fun _ => rfl
  | settle k x call operation result entry w free lookup stage present settled =>
    cases h' with
    | settle k y call' operation' result' entry' w' free' lookup' stage' present' settled' =>
      obtain ⟨rfl, rfl⟩ := thread lookup rfl lookup'
      rw [entry_of_share hshare, present] at present'
      rw [stage] at stage'
      cases present'
      cases stage'
      subst settled settled'
      exact setThread_congr (modify_congr hshare) fun _ => rfl
  | reply k x call closed reply lookup stage =>
    cases h' with
    | reply k y call' closed' reply' lookup' stage' =>
      obtain ⟨rfl, rfl⟩ := thread lookup rfl lookup'
      rw [stage] at stage'
      cases stage'
      exact setThread_congr (setRequest_congr hshare) fun _ => rfl
  | release k x closed free lookup stage =>
    cases h' with
    | release k y closed' free' lookup' stage' =>
      obtain ⟨rfl, rfl⟩ := thread lookup rfl lookup'
      rw [stage] at stage'
      cases stage'
      exact setThread_congr (modify_congr hshare) fun _ => rfl
  | clean k x reply env rounds result backend lookup stage runs =>
    cases h' with
    | clean k y reply' env rounds' result backend' lookup' stage' runs' =>
      obtain ⟨rfl, rfl⟩ := thread lookup rfl lookup'
      rw [stage] at stage'
      cases stage'
      obtain ⟨-, rfl⟩ := Backend.shutdown_unique runs runs'
      exact setThread_congr hshare fun _ => rfl
  | close k x entry reply free lookup stage =>
    cases h' with
    | close k y entry' reply' free' lookup' stage' =>
      obtain ⟨rfl, rfl⟩ := thread lookup rfl lookup'
      rw [stage] at stage'
      cases stage'
      exact setThread_congr (modify_congr hshare) fun _ => rfl
  | report k x entry reply lookup stage =>
    cases h' with
    | report k y entry' reply' lookup' stage' =>
      show (s.setStage k .leaving).share id = (s'.setStage k .leaving).share id
      exact setThread_congr hshare fun _ => rfl
  | leave k x lookup stage =>
    cases h' with
    | leave k y lookup' stage' =>
      obtain ⟨rfl, rfl⟩ := thread lookup rfl lookup'
      show (({ s with requests := PgMcp.orphan y.queue s.requests } : Server).setThread k fun t =>
          { t with backend := t.backend.take, queue := [], stage := .left }).share y.handle =
        (({ s' with requests := PgMcp.orphan y.queue s'.requests } : Server).setThread k fun t =>
          { t with backend := t.backend.take, queue := [], stage := .left }).share y.handle
      exact setThread_congr (orphan_congr hshare) fun _ => rfl
  | finish k x lookup stage =>
    cases h' with
    | finish k y lookup' stage' =>
      have hnow : s.now = s'.now := congrArg Share.now hshare
      rw [hnow]
      exact setThread_congr hshare fun _ => rfl
  | _ => cases own

/-! ### Taking a step elsewhere -/

/-- The lock is as free, and as many numbers of requests are. -/
structure Freer (s s' : Server) : Prop where
  free : s.stuck = false → s'.stuck = false
  requests : ∀ n, n ∈ s'.requests → n ∈ s.requests

theorem Freer.refl (s : Server) : s.Freer s := ⟨fun h => h, fun _ h => h⟩

theorem Freer.trans {u : Server} (h : s.Freer t) (h' : t.Freer u) : s.Freer u where
  free := fun hs => h'.free (h.free hs)
  requests := fun n hn => h.requests n (h'.requests n hn)

theorem mem_orphan {queue : List Request} {requests : Table ℕ RequestCall} {n : ℕ} :
    n ∈ PgMcp.orphan queue requests ↔ n ∈ requests := by
  induction queue generalizing requests with
  | nil => rfl
  | cons request queue ih =>
    cases request with
    | shutdown reply => exact ih
    | operation m operation => exact ih.trans Table.mem_modify

/-- Every step leaves less free. -/
theorem Step.freer {a : Action} (h : Step core s a t) : t.Freer s := by
  have insert : ∀ {n c}, ∀ m, m ∈ s.requests → m ∈ s.requests.insert n c := fun m hm =>
    (AList.mem_insert _).mpr (.inr hm)
  cases h with
  | dispatch | unknown => exact ⟨fun h => h, insert⟩
  | admitted | unadmitted | lose | reply => exact ⟨fun h => h, fun m hm => Table.mem_modify.mpr hm⟩
  | leave => exact ⟨fun h => h, fun m hm => mem_orphan.mpr hm⟩
  | stuck n c free => exact ⟨fun _ => free, fun m hm => hm⟩
  | dismiss =>
    split
    · exact ⟨fun h => h, fun m hm => hm⟩
    · exact ⟨fun h => h, fun m hm => hm⟩
  | _ => exact ⟨fun h => h, fun m hm => hm⟩

/-- An own step can be taken wherever the share is the same, the lock free, and the number of
a new request not taken. -/
theorem Step.lift (hs : s.Sound) {a : Action} (h : Step core s a t) (own : a.own s id = true)
    (hshare : s.share id = s'.share id) (hlock : s.stuck = false → s'.stuck = false)
    (hfresh : ∀ n handle operation, a = .dispatch n handle operation → n ∉ s'.requests) :
    ∃ t', Step core s' a t' ∧ (s.Freer s' → t.Freer t') := by
  -- what an own step reads is in the share
  have thread : ∀ {k x}, s.threads.lookup k = some x →
      a.handle s = (s.threads.lookup k).map Thread.handle → s'.threads.lookup k = some x :=
    fun lookup acts => thread_of_share hshare lookup (thread_of_own own lookup acts)
  have request : ∀ {n c}, s.requests.lookup n = some c →
      a.handle s = (s.requests.lookup n).map RequestCall.handle → s'.requests.lookup n = some c :=
    fun call acts => request_of_share hshare call (request_of_own own call acts)
  have entry : ∀ {k x e}, s.threads.lookup k = some x →
      a.handle s = (s.threads.lookup k).map Thread.handle →
      s.registry.handles.lookup x.handle = some e → s'.registry.handles.lookup x.handle = some e := by
    intro k x e lookup acts present
    obtain rfl := thread_of_own own lookup acts
    exact (entry_of_share hshare).trans present
  have modified : s.Freer s' → ∀ {n : ℕ} {f : RequestCall → RequestCall} m,
      m ∈ s'.requests.modify n f → m ∈ s.requests.modify n f :=
    fun hfree _ _ m hm => Table.mem_modify.mpr (hfree.requests m (Table.mem_modify.mp hm))
  have inserted : s.Freer s' → ∀ {n : ℕ} {c : RequestCall} m,
      m ∈ s'.requests.insert n c → m ∈ s.requests.insert n c := fun hfree _ _ m hm =>
    (AList.mem_insert _).mpr (((AList.mem_insert _).mp hm).imp_right (hfree.requests m))
  cases h with
  | tick time later =>
    have hnow : s.now = s'.now := congrArg Share.now hshare
    exact ⟨_, .tick time (hnow ▸ later), fun hfree => ⟨hfree.free, hfree.requests⟩⟩
  | dispatch n handle operation limits free fresh result =>
    obtain rfl := handle_of_own own rfl
    exact ⟨_, .dispatch n _ operation limits (hlock free) (hfresh n _ operation rfl)
      (dispatchLimits_congr (entry_of_share hshare) result),
      fun hfree => ⟨hfree.free, inserted hfree⟩⟩
  | unknown n handle operation failure free fresh result =>
    obtain rfl := handle_of_own own rfl
    exact ⟨_, .unknown n _ operation failure (hlock free) (hfresh n _ operation rfl)
      (dispatchLimits_congr (entry_of_share hshare) result),
      fun hfree => ⟨hfree.free, inserted hfree⟩⟩
  | admitted n c k r free call stage result =>
    have call' := request call rfl
    obtain rfl := request_of_own own call rfl
    obtain ⟨r', hreturns⟩ := dispatchAdmit_of_share hs hshare result
    exact ⟨_, .admitted n c k r' (hlock free) call' stage hreturns,
      fun hfree => ⟨hfree.free, modified hfree⟩⟩
  | unadmitted n c failure r free call stage result =>
    have call' := request call rfl
    obtain rfl := request_of_own own call rfl
    obtain ⟨r', hreturns⟩ := dispatchAdmit_of_share hs hshare result
    exact ⟨_, .unadmitted n c failure r' (hlock free) call' stage hreturns,
      fun hfree => ⟨hfree.free, modified hfree⟩⟩
  | stuck n c free call stage result =>
    have call' := request call rfl
    obtain rfl := request_of_own own call rfl
    refine ⟨_, .stuck n c (hlock free) call' stage fun h => result ?_,
      fun hfree => ⟨?_, hfree.requests⟩⟩
    · exact (dispatchAdmit_terminates_of_share hshare).mp h
    · intro h
      cases h
  | lose n c failure free call stage result =>
    have call' := request call rfl
    obtain rfl := request_of_own own call rfl
    exact ⟨_, .lose n c failure (hlock free) call' stage
      (forHandle_congr (entry_of_share hshare) result), fun hfree => ⟨hfree.free, modified hfree⟩⟩
  | take k x head rest lookup stage queue =>
    exact ⟨_, .take k x head rest (thread lookup rfl) stage queue,
      fun hfree => ⟨hfree.free, hfree.requests⟩⟩
  | execute k x call operation e env rounds result w free lookup stage present runs =>
    exact ⟨_, .execute k x call operation e env rounds result w (hlock free) (thread lookup rfl)
      stage (entry lookup rfl present) runs, fun hfree => ⟨hfree.free, hfree.requests⟩⟩
  | record k x call operation result published free lookup stage =>
    exact ⟨_, .record k x call operation result published (hlock free) (thread lookup rfl) stage,
      fun hfree => ⟨hfree.free, hfree.requests⟩⟩
  | settle k x call operation result e w free lookup stage present settled =>
    exact ⟨_, .settle k x call operation result e w (hlock free) (thread lookup rfl) stage
      (entry lookup rfl present) settled, fun hfree => ⟨hfree.free, hfree.requests⟩⟩
  | reply k x call closed reply lookup stage =>
    exact ⟨_, .reply k x call closed reply (thread lookup rfl) stage,
      fun hfree => ⟨hfree.free, modified hfree⟩⟩
  | release k x closed free lookup stage =>
    exact ⟨_, .release k x closed (hlock free) (thread lookup rfl) stage,
      fun hfree => ⟨hfree.free, hfree.requests⟩⟩
  | clean k x reply env rounds result backend lookup stage runs =>
    exact ⟨_, .clean k x reply env rounds result backend (thread lookup rfl) stage runs,
      fun hfree => ⟨hfree.free, hfree.requests⟩⟩
  | close k x e reply free lookup stage =>
    exact ⟨_, .close k x e reply (hlock free) (thread lookup rfl) stage,
      fun hfree => ⟨hfree.free, hfree.requests⟩⟩
  | report k x e reply lookup stage =>
    exact ⟨_, .report k x e reply (thread lookup rfl) stage,
      fun hfree => ⟨hfree.free, hfree.requests⟩⟩
  | leave k x lookup stage =>
    exact ⟨_, .leave k x (thread lookup rfl) stage, fun hfree => ⟨hfree.free, fun m hm =>
      mem_orphan.mpr (hfree.requests m (mem_orphan.mp hm))⟩⟩
  | finish k x lookup stage =>
    exact ⟨_, .finish k x (thread lookup rfl) stage, fun hfree => ⟨hfree.free, hfree.requests⟩⟩
  | _ => cases own

/-- The number of a new request was not taken. -/
theorem Step.fresh {n : ℕ} {handle : String} {operation : Operation}
    (h : Step core s (.dispatch n handle operation) t) : n ∉ s.requests ∧ n ∈ t.requests := by
  cases h with
  | dispatch _ _ _ _ _ fresh | unknown _ _ _ _ _ fresh =>
    exact ⟨fresh, (AList.mem_insert _).mpr (.inl rfl)⟩

/-- A request is there after a step if it was there before or is new. -/
theorem Step.requests {a : Action} (h : Step core s a t) {n : ℕ} (hn : n ∈ t.requests) :
    n ∈ s.requests ∨ ∃ handle operation, a = .dispatch n handle operation := by
  cases h with
  | dispatch m handle operation | unknown m handle operation =>
    rcases (AList.mem_insert _).mp hn with rfl | hn
    · exact .inr ⟨handle, operation, rfl⟩
    · exact .inl hn
  | admitted | unadmitted | lose | reply => exact .inl (Table.mem_modify.mp hn)
  | leave => exact .inl (mem_orphan.mp hn)
  | dismiss =>
    split at hn
    · exact .inl hn
    · exact .inl hn
  | _ => exact .inl hn

/-- An own step is the handle's own wherever the share is the same. -/
theorem Step.own_of_share {a : Action} (h : Step core s a t) (own : a.own s id = true)
    (hshare : s.share id = s'.share id) : a.own s' id = true := by
  have thread : ∀ {k x}, s.threads.lookup k = some x →
      a.handle s = (s.threads.lookup k).map Thread.handle →
      a.handle s' = (s'.threads.lookup k).map Thread.handle → a.own s' id = true := by
    intro k x lookup acts acts'
    have handle := thread_of_own own lookup acts
    refine Action.own_of_handle ?_
    rw [acts', thread_of_share hshare lookup handle, Option.map_some, handle]
  have request : ∀ {n c}, s.requests.lookup n = some c →
      a.handle s = (s.requests.lookup n).map RequestCall.handle →
      a.handle s' = (s'.requests.lookup n).map RequestCall.handle → a.own s' id = true := by
    intro n c call acts acts'
    have handle := request_of_own own call acts
    refine Action.own_of_handle ?_
    rw [acts', request_of_share hshare call handle, Option.map_some, handle]
  cases h with
  | tick => rfl
  | dispatch | unknown => exact own
  | admitted n c k r free call | unadmitted n c failure r free call | stuck n c free call
  | lose n c failure free call => exact request call rfl rfl
  | take k x request rest lookup | execute k x call operation entry env rounds result w free lookup
  | record k x call operation result published free lookup
  | settle k x call operation result entry w free lookup | reply k x call closed reply lookup
  | release k x closed free lookup | clean k x reply env rounds result backend lookup
  | close k x entry reply free lookup | report k x entry reply lookup | leave k x lookup
  | finish k x lookup => exact thread lookup rfl rfl
  | _ => cases own

/-! ### Whole runs -/

/-- A step of the handle's own. -/
def Label.own (id : String) (l : Label) : Bool := l.action.own l.before id

/-- The steps look the same to a handle. -/
structure Label.Alike (id : String) (l l' : Label) : Prop where
  action : l.action = l'.action
  before : l.before.share id = l'.before.share id
  after : l.after.share id = l'.after.share id

/-- A step that gives no id a second time and is not one of a shutdown. -/
def Label.Calm (l : Label) : Prop := l.NewId ∧ l.action.isShutdown = false

/-- A server in which a handle is registered. -/
structure Keeps (id : String) (s : Server) : Prop where
  sound : s.Sound
  held : s.Held
  registered : id ∈ s.registry.handles

/-- A registered handle stays registered. -/
theorem Keeps.step (hs : s.Keeps id) {l : Label} (calm : l.Calm) (h : Acts core s l t) :
    t.Keeps id where
  sound := hs.sound.step h calm.1
  held := hs.held.step hs.sound h.2.2
  registered := by
    obtain ⟨entry, present⟩ := Option.isSome_iff_exists.mp (AList.lookup_isSome.mpr hs.registered)
    obtain ⟨x, hx⟩ := hs.sound.staffed.hosts present
    obtain ⟨y, hy, -⟩ := h.2.2.station hs.sound.booked hs.sound.staffed hx
    exact Table.mem_of_lookup hy.entry

/-- What the others do, a handle does not see. -/
theorem unseen (core : Core) (id : String) :
    Unseen (Acts core) (Keeps id) Label.Calm (Label.own id) (share id) where
  keep := fun hs calm h => hs.step calm h
  frame := by
    rintro s t l hs calm ⟨rfl, rfl, h⟩ other
    exact h.share hs.sound hs.held hs.registered calm.2 other

/-- A step of a request or of a worker reserves nothing. -/
theorem Label.calm_of_own {l : Label} (h : l.own id = true) : l.Calm := by
  obtain ⟨a, s, t⟩ := l
  cases a with
  | reserve => cases h
  | _ => first | exact ⟨trivial, rfl⟩ | cases h

/-- A handle is opened, and a request for it is dispatched, before or without one for another
handle. -/
theorem run_dispatched : ∃ ls₀ s l m t t', Run (Acts localProfile) new ls₀ s ∧
    (∀ l ∈ ls₀, l.NewId) ∧ handleName 1 ∈ s.registry.handles ∧
    Run (Acts localProfile) s [l, m] t ∧ Run (Acts localProfile) s [l] t' ∧
    l.action = .dispatch 0 (handleName 1) .getSchema ∧ m.action = .dispatch 1 "h-2" .getSchema := by
  have hadmits := admits_new (by decide) localProfile_admissionConfig
  obtain ⟨ls₀, run₀, hcount, -⟩ := run_open hadmits
  have hrest := hadmits.atRest
  have hown := @Step.dispatch localProfile _ 0 (handleName 1) .getSchema _ hrest.free
    (AList.notMem_empty _) (dispatchLimits_returns hrest.present)
  have habsent : (new.afterOpen 0 "local" Config.default).registry.handles.lookup "h-2" = none :=
    (AList.lookup_insert_ne (by decide)).trans (AList.lookup_empty _)
  have hfresh : (1 : ℕ) ∉ (new.afterOpen 0 "local" Config.default).requests.insert 0
      { handle := handleName 1, operation := .getSchema, stage := .admitting } := by
    rw [AList.mem_insert]
    rintro (h | h)
    · cases h
    · exact AList.notMem_empty _ h
  have hother := @Step.unknown localProfile
    { new.afterOpen 0 "local" Config.default with
      requests := (new.afterOpen 0 "local" Config.default).requests.insert 0
        { handle := handleName 1, operation := .getSchema, stage := .admitting } }
    1 "h-2" .getSchema _ hrest.free hfresh (dispatchLimits_absent habsent)
  exact ⟨ls₀, _, _, _, _, _, run₀, newId_of_run run₀ (by rw [hcount, u64Max_eq]; decide),
    Table.mem_of_lookup hrest.present, hown.cons hother.run, hown.run, rfl, rfl⟩

/-- A dispatched request reserves nothing. -/
theorem calm_of_dispatch {l : Label} {n : ℕ} {handle : String} {operation : Operation}
    (h : l.action = .dispatch n handle operation) : l.Calm := by
  simp [Label.Calm, Label.NewId, NewId, h, Action.isShutdown]

/-- A dispatched request is a step of its handle. -/
theorem own_dispatch {l : Label} {n : ℕ} {handle : String} {operation : Operation}
    (h : l.action = .dispatch n handle operation) : l.own id = (handle == id) := by
  simp [Label.own, h, Action.own, Action.handle]

/-- The own steps of a registered handle in a run without shutdowns can be taken alone, and
the handle sees the same at each of them. -/
theorem isolated_of_run {ls₀ ls : List Label} (run₀ : Run (Acts core) new ls₀ s)
    (hnew₀ : ∀ l ∈ ls₀, l.NewId) (registered : id ∈ s.registry.handles)
    (run : Run (Acts core) s ls t) (calm : ∀ l ∈ ls, l.Calm) :
    ∃ ls' t', Run (Acts core) s ls' t' ∧ (∀ l ∈ ls', l.own id = true) ∧
      List.Forall₂ (Label.Alike id) (ls.filter (Label.own id)) ls' ∧ t.share id = t'.share id := by
  obtain ⟨sound, held⟩ := held_of_run run₀ hnew₀
  have hs : s.Keeps id := ⟨sound, held, registered⟩
  have free : ∀ {s s' t : Server} {l : Label}, s.Keeps id → l.Calm → Acts core s l t →
      l.own id = false → s.Freer s' → t.Freer s' := by
    rintro s s' t l - - ⟨rfl, rfl, h⟩ - hfree
    exact h.freer.trans hfree
  have lift : ∀ {s s' t : Server} {l : Label}, s.Keeps id → s'.Keeps id → l.Calm → Acts core s l t →
      l.own id = true → s.share id = s'.share id → s.Freer s' → ∃ l' t', Acts core s' l' t' ∧
        l'.Calm ∧ l'.own id = true ∧ l.Alike id l' ∧ t.share id = t'.share id ∧ t.Freer t' := by
    rintro s s' t l hs - - ⟨rfl, rfl, h⟩ own hshare hfree
    have hfresh : ∀ n handle operation, l.action = .dispatch n handle operation →
        n ∉ s'.requests := by
      intro n handle operation haction hn
      rw [haction] at h
      exact h.fresh.1 (hfree.requests n hn)
    obtain ⟨t', h', hfree'⟩ := h.lift hs.sound own hshare hfree.free hfresh
    have hafter := h.follow hs.sound h' own hshare
    have own' : l.action.own s' id = true := h.own_of_share own hshare
    exact ⟨⟨l.action, s', t'⟩, t', ⟨rfl, rfl, h'⟩, Label.calm_of_own own', own', ⟨rfl, hshare, hafter⟩,
      hafter, hfree' hfree⟩
  obtain ⟨ls', t', run', -, own', alike, hshare, -⟩ :=
    (unseen core id).alone (F := Freer) (R := Label.Alike id) free lift run calm hs hs rfl
      (Freer.refl s)
  exact ⟨ls', t', run', own', alike, hshare⟩

/-- The request of the handle alone. -/
theorem isolated_of_run_dispatched : ∃ s ls t ls' t',
    Run (Acts localProfile) s ls t ∧ ls.length = 2 ∧
    Run (Acts localProfile) s ls' t' ∧ ls'.length = 1 ∧
    t.share (handleName 1) = t'.share (handleName 1) := by
  obtain ⟨ls₀, s, l, m, t, t', run₀, hnew₀, registered, run, -, hl, hm⟩ := run_dispatched
  have calm : ∀ l' ∈ [l, m], l'.Calm := by
    intro l' hmem
    simp only [List.mem_cons, List.not_mem_nil, or_false] at hmem
    rcases hmem with rfl | rfl
    · exact calm_of_dispatch hl
    · exact calm_of_dispatch hm
  obtain ⟨ls', u, run', -, alike, hshare⟩ := isolated_of_run run₀ hnew₀ registered run calm
  refine ⟨s, _, t, ls', u, run, rfl, run', ?_, hshare⟩
  rw [← alike.length_eq]
  have hown : l.own (handleName 1) = true := by rw [own_dispatch hl, beq_self_eq_true]
  have hother : m.own (handleName 1) = false := (own_dispatch hm).trans (by decide)
  simp [hown, hother]

/-- What becomes of a registered handle in a run without shutdowns depends on its own steps
only. -/
theorem share_of_run {ls₀ ls ls' : List Label} (run₀ : Run (Acts core) new ls₀ s)
    (hnew₀ : ∀ l ∈ ls₀, l.NewId) (registered : id ∈ s.registry.handles)
    (run : Run (Acts core) s ls t) (calm : ∀ l ∈ ls, l.Calm) (run' : Run (Acts core) s ls' t')
    (calm' : ∀ l ∈ ls', l.Calm)
    (same : (ls.filter (Label.own id)).map Label.action =
      (ls'.filter (Label.own id)).map Label.action) :
    t.share id = t'.share id := by
  obtain ⟨sound, held⟩ := held_of_run run₀ hnew₀
  have hs : s.Keeps id := ⟨sound, held, registered⟩
  refine (unseen core id).view_eq (R := fun l l' => l.action = l'.action) ?_ run run'
    calm calm' hs hs ?_ rfl
  · rintro s s' t t' l l' hs - - - ⟨rfl, rfl, h⟩ ⟨rfl, rfl, h'⟩ own - haction hshare
    exact h.follow hs.sound (haction ▸ h') own hshare
  · have heq : List.Forall₂ Eq ((ls.filter (Label.own id)).map Label.action)
        ((ls'.filter (Label.own id)).map Label.action) := by
      rw [same]
      exact List.forall₂_same.mpr fun _ _ => rfl
    rw [List.forall₂_map_left_iff, List.forall₂_map_right_iff] at heq
    exact heq

/-- Whether a request for another handle comes behind makes no difference. -/
theorem share_of_run_dispatched : ∃ s ls t ls' t', Run (Acts localProfile) s ls t ∧ ls.length = 2 ∧
    Run (Acts localProfile) s ls' t' ∧ ls'.length = 1 ∧
    t.share (handleName 1) = t'.share (handleName 1) := by
  obtain ⟨ls₀, s, l, m, t, t', run₀, hnew₀, registered, run, run', hl, hm⟩ := run_dispatched
  have calm : ∀ l' ∈ [l, m], l'.Calm := by
    intro l' hmem
    simp only [List.mem_cons, List.not_mem_nil, or_false] at hmem
    rcases hmem with rfl | rfl
    · exact calm_of_dispatch hl
    · exact calm_of_dispatch hm
  have hother : m.own (handleName 1) = false := (own_dispatch hm).trans (by decide)
  refine ⟨s, _, t, _, t', run, rfl, run', rfl, ?_⟩
  refine share_of_run run₀ hnew₀ registered run calm run' (fun l' hmem => calm l' ?_) ?_
  · exact List.mem_cons.mpr (.inl (List.mem_singleton.mp hmem))
  · rw [List.filter_cons, List.filter_cons_of_neg (by simp [hother]), ← List.filter_cons]

/-! ### Steps of two handles -/

/-- A step for a handle is its own, and no other handle's. -/
theorem own_of_handle_iff {a : Action} {id' : String} (h : a.handle s = some id) :
    a.own s id' = true ↔ id' = id := by
  constructor
  · exact fun own => (handle_of_own own h).symm
  · rintro rfl
    exact Action.own_of_handle h

/-- A step for a handle is none of a shutdown, and reserves nothing. -/
theorem calm_of_handle {a : Action} (h : a.handle s = some id) :
    Label.Calm { action := a, before := s, after := t } :=
  have own : Label.own id { action := a, before := s, after := t } = true := Action.own_of_handle h
  Label.calm_of_own own

/-- A step for one handle leaves another one alone. -/
theorem Keeps.share_ne {id' : String} (hs : s.Keeps id') {a : Action} (h : Step core s a t)
    (handle : a.handle s = some id) (hne : id' ≠ id) : t.share id' = s.share id' := by
  refine h.share hs.sound hs.held hs.registered (calm_of_handle (t := t) handle).2 ?_
  rw [← Bool.not_eq_true, own_of_handle_iff handle]
  exact hne

/-- The steps of two handles commute, unless the second one takes the lock for good: in the
other order they can be taken too, and every handle is left the same. -/
theorem steps_commute {ls₀ : List Label} (run₀ : Run (Acts core) new ls₀ s)
    (hnew₀ : ∀ l ∈ ls₀, l.NewId) {id' : String} (registered : id ∈ s.registry.handles)
    (registered' : id' ∈ s.registry.handles) (hne : id ≠ id') {a b : Action} {u : Server}
    (h : Step core s a t) (h' : Step core t b u) (handle : a.handle s = some id)
    (handle' : b.handle t = some id') (free : u.stuck = false) :
    ∃ t' u', Step core s b t' ∧ Step core t' a u' ∧ b.handle s = some id' ∧
      a.handle t' = some id ∧ ∀ i ∈ s.registry.handles, u.share i = u'.share i := by
  obtain ⟨sound, held⟩ := held_of_run run₀ hnew₀
  have hs : ∀ {i}, i ∈ s.registry.handles → s.Keeps i := fun hi => ⟨sound, held, hi⟩
  have ht : ∀ {i}, i ∈ s.registry.handles → t.Keeps i := fun hi =>
    (hs hi).step (calm_of_handle handle) ⟨rfl, rfl, h⟩
  -- the second step does not need the first one
  have hfresh' : ∀ n handle operation, b = .dispatch n handle operation → n ∉ s.requests := by
    rintro n handle operation rfl hn
    exact h'.fresh.1 (h.freer.requests n hn)
  obtain ⟨t', hb, hlocked⟩ := h'.lift (ht registered').sound (Action.own_of_handle handle')
    ((hs registered').share_ne h handle (Ne.symm hne)) h.freer.free hfresh'
  have ownb := h'.own_of_share (Action.own_of_handle handle')
    ((hs registered').share_ne h handle (Ne.symm hne))
  have handleb : b.handle s = some id' := by
    cases b with
    | tick => cases handle'
    | _ => exact eq_of_beq ownb
  have htb : ∀ {i}, i ∈ s.registry.handles → t'.Keeps i := fun hi =>
    (hs hi).step (calm_of_handle handleb) ⟨rfl, rfl, hb⟩
  -- and the first one can still be taken after the second
  have hfresh : ∀ n handle operation, a = .dispatch n handle operation → n ∉ t'.requests := by
    rintro n handle operation rfl hn
    rcases hb.requests hn with hn | ⟨handle₁, operation₁, rfl⟩
    · exact h.fresh.1 hn
    · exact h'.fresh.1 h.fresh.2
  have hshare : s.share id = t'.share id := ((hs registered).share_ne hb handleb hne).symm
  obtain ⟨u', ha, -⟩ := h.lift sound (Action.own_of_handle handle) hshare
    (fun _ => (hlocked h.freer).free free) hfresh
  have owna := h.own_of_share (Action.own_of_handle handle) hshare
  have handlea : a.handle t' = some id := by
    cases a with
    | tick => cases handle
    | _ => exact eq_of_beq owna
  refine ⟨t', u', hb, ha, handleb, handlea, fun i hi => ?_⟩
  by_cases hid : i = id
  · subst hid
    calc u.share i = t.share i := (ht hi).share_ne h' handle' hne
      _ = u'.share i := h.follow sound ha (Action.own_of_handle handle) hshare
  · by_cases hid' : i = id'
    · subst hid'
      calc u.share i = t'.share i :=
            h'.follow (ht hi).sound hb (Action.own_of_handle handle')
              ((hs hi).share_ne h handle hid)
        _ = u'.share i := ((htb hi).share_ne ha handlea hid).symm
    · calc u.share i = t.share i := (ht hi).share_ne h' handle' hid'
        _ = s.share i := (hs hi).share_ne h handle hid
        _ = t'.share i := ((hs hi).share_ne hb handleb hid').symm
        _ = u'.share i := ((htb hi).share_ne ha handlea hid).symm

/-- Requests for two handles are dispatched in either order. -/
theorem steps_commute_dispatched : ∃ s t u t' u',
    Step localProfile s (.dispatch 0 (handleName 1) .getSchema) t ∧
    Step localProfile t (.dispatch 1 (handleName 2) .getSchema) u ∧
    Step localProfile s (.dispatch 1 (handleName 2) .getSchema) t' ∧
    Step localProfile t' (.dispatch 0 (handleName 1) .getSchema) u' ∧
      ∀ i ∈ s.registry.handles, u.share i = u'.share i := by
  have htwo : (2 : ℕ) ≤ u64Max := by
    rw [u64Max_eq]
    decide
  have hadmits := @admits_new localProfile "local" _ (by decide) localProfile_admissionConfig
  have hsecond : (new.afterOpen 0 "local" Config.default).Admits localProfile 1 "local"
      Config.default :=
    { free := rfl
      running := rfl
      fresh := by decide
      named := by decide
      limits := localProfile_admissionConfig
      room := by decide
      unreserved := AList.notMem_empty _ }
  obtain ⟨ls₁, run₁, hcount₁, -⟩ := run_open hadmits
  obtain ⟨ls₂, run₂, hcount₂, -⟩ := run_open hsecond
  have hcount : reservations (ls₁ ++ ls₂) = 2 := by
    unfold reservations at hcount₁ hcount₂ ⊢
    rw [List.countP_append, hcount₁, hcount₂]
  have hrest := hsecond.atRest
  have hid : handleName (new.afterOpen 0 "local" Config.default).registry.nextHandle = handleName 2 :=
    congrArg handleName (min_eq_left htwo)
  rw [hid] at hrest
  have hne : handleName 1 ≠ handleName 2 := by decide
  have hfirst : ((new.afterOpen 0 "local" Config.default).afterOpen 1 "local"
      Config.default).registry.handles.lookup (handleName 1) = _ :=
    (AList.lookup_insert_ne (hid ▸ hne)).trans hadmits.atRest.present
  have h := @Step.dispatch localProfile _ 0 (handleName 1) .getSchema _ hrest.free
    (AList.notMem_empty _) (dispatchLimits_returns hfirst)
  have hfresh : (1 : ℕ) ∉ ((new.afterOpen 0 "local" Config.default).afterOpen 1 "local"
      Config.default).requests.insert 0
        { handle := handleName 1, operation := .getSchema, stage := .admitting } := by
    rw [AList.mem_insert]
    rintro (h | h)
    · cases h
    · exact AList.notMem_empty _ h
  have h' := @Step.dispatch localProfile
    { (new.afterOpen 0 "local" Config.default).afterOpen 1 "local" Config.default with
      requests := ((new.afterOpen 0 "local" Config.default).afterOpen 1 "local"
        Config.default).requests.insert 0
          { handle := handleName 1, operation := .getSchema, stage := .admitting } }
    1 (handleName 2) .getSchema _ hrest.free hfresh (dispatchLimits_returns hrest.present)
  obtain ⟨t', u', hb, ha, -, -, hshare⟩ := steps_commute (run₁.append run₂)
    (newId_of_run (run₁.append run₂) (by rw [hcount]; exact htwo)) (Table.mem_of_lookup hfirst)
    (Table.mem_of_lookup hrest.present) hne h h' rfl rfl hrest.free
  exact ⟨_, _, _, t', u', h, h', hb, ha, hshare⟩

end Server

end PgMcp
