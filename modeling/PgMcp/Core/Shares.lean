import PgMcp.Core.Calls

/-!
# The share of a handle in a server

A handle has its entry in the registry, its worker thread and its requests; with all others
it shares the clock and the lifecycle of the server.  The steps of other handles, and those
of opens, leave the share of a registered handle alone.

## Main definitions

* `Share`, `Server.share` — what of a server belongs to a handle.
* `Action.handle` — the handle that a request or a worker makes a step for.
* `Action.isShutdown` — the steps of shutdowns.
* `Action.own` — a handle's own steps; the clock is everybody's.

## Main results

* `Server.Step.share` — the steps of others leave the share of a handle alone.
-/

namespace PgMcp

open Program

/-- What of a server belongs to a handle. -/
@[ext] structure Share where
  now : ℕ
  lifecycle : RegistryLifecycle
  entry : Option WorkerEntry
  threads : ℕ → Option Thread
  requests : ℕ → Option RequestCall

namespace Share

/-- Change the entry. -/
def setEntry (f : WorkerEntry → WorkerEntry) (x : Share) : Share := { x with entry := x.entry.map f }

/-- Change a thread. -/
def setThread (k : ℕ) (f : Thread → Thread) (x : Share) : Share :=
  { x with threads := Function.update x.threads k ((x.threads k).map f) }

/-- A request comes to a stage. -/
def setRequest (n : ℕ) (stage : RequestStage) (x : Share) : Share :=
  { x with
    requests := Function.update x.requests n
      ((x.requests n).map fun c => { c with stage := stage }) }

/-- The requests in a dropped queue. -/
def orphan (queue : List Request) (x : Share) : Share :=
  queue.foldl (fun x request =>
    match request with
    | .operation call _ => x.setRequest call .orphaned
    | .shutdown _ => x) x

/-- A request that is not there comes to no stage. -/
theorem setRequest_of_none {n : ℕ} {stage : RequestStage} {x : Share} (h : x.requests n = none) :
    x.setRequest n stage = x := by
  unfold setRequest
  rw [h, Option.map_none, ← h, Function.update_eq_self]

/-- A thread that is not there does not change. -/
theorem setThread_of_none {k : ℕ} {f : Thread → Thread} {x : Share} (h : x.threads k = none) :
    x.setThread k f = x := by
  unfold setThread
  rw [h, Option.map_none, ← h, Function.update_eq_self]

end Share

/-- The handle that a request or a worker makes a step for. -/
def Action.handle (s : Server) (a : Action) : Option String :=
  match a with
  | .dispatch _ handle _ => some handle
  | .admitCall n | .lose n => (s.requests.lookup n).map RequestCall.handle
  | a => a.thread.bind fun k => (s.threads.lookup k).map Thread.handle

/-- The steps of shutdowns. -/
def Action.isShutdown : Action → Bool
  | .shutdown _ | .signal | .visit | .look | .joinClosed | .expire | .enqueue | .check | .await
  | .join | .drain | .freeze => true
  | _ => false

/-- The steps of a handle; the clock goes on for everybody. -/
def Action.own (s : Server) (id : String) (a : Action) : Bool :=
  match a with
  | .tick _ => true
  | a => a.handle s == some id

theorem Action.own_of_handle {s : Server} {id : String} {a : Action} (h : a.handle s = some id) :
    a.own s id = true := by
  cases a with
  | tick => rfl
  | _ => exact beq_iff_eq.mpr h

namespace Server

variable {core : Core} {s t : Server} {id : String}

/-- What of the server belongs to a handle. -/
def share (id : String) (s : Server) : Share where
  now := s.now
  lifecycle := s.registry.lifecycle
  entry := s.registry.handles.lookup id
  threads := s.threads.part fun t => t.handle == id
  requests := s.requests.part fun c => c.handle == id

/-! ### Whose a thread and a request are -/

theorem share_thread {k : ℕ} {thread : Thread} :
    (s.share id).threads k = some thread ↔ s.threads.lookup k = some thread ∧ thread.handle = id :=
  Table.part_eq_some.trans (by rw [beq_iff_eq])

theorem share_request {n : ℕ} {c : RequestCall} :
    (s.share id).requests n = some c ↔ s.requests.lookup n = some c ∧ c.handle = id :=
  Table.part_eq_some.trans (by rw [beq_iff_eq])

theorem share_thread_none {k : ℕ} {thread : Thread} (lookup : s.threads.lookup k = some thread)
    (other : thread.handle ≠ id) : (s.share id).threads k = none := by
  show (s.threads.lookup k).filter _ = none
  rw [lookup, Option.filter_some_neg (by simpa using other)]

theorem share_request_none {n : ℕ} {c : RequestCall} (call : s.requests.lookup n = some c)
    (other : c.handle ≠ id) : (s.share id).requests n = none := by
  show (s.requests.lookup n).filter _ = none
  rw [call, Option.filter_some_neg (by simpa using other)]

/-! ### Changes of the server are changes of the share -/

theorem share_setThread {k : ℕ} {f : Thread → Thread} (handle : ∀ t, (f t).handle = t.handle) :
    (s.setThread k f).share id = (s.share id).setThread k f := by
  refine Share.ext rfl rfl rfl ?_ rfl
  exact Table.part_modify_map fun t => by rw [handle]

theorem share_setRequest {n : ℕ} {stage : RequestStage} :
    (s.setRequest n stage).share id = (s.share id).setRequest n stage := by
  refine Share.ext rfl rfl rfl rfl ?_
  exact Table.part_modify_map fun _ => rfl

theorem share_modify {f : WorkerEntry → WorkerEntry} :
    (s.setRegistry (s.registry.modify id f)).share id = (s.share id).setEntry f := by
  refine Share.ext rfl rfl ?_ rfl rfl
  exact Table.lookup_modify_self

theorem share_modify_ne {id' : String} {f : WorkerEntry → WorkerEntry} (h : id' ≠ id) :
    (s.setRegistry (s.registry.modify id' f)).share id = s.share id := by
  refine Share.ext rfl rfl ?_ rfl rfl
  exact Table.lookup_modify_ne (Ne.symm h)

theorem share_orphan {queue : List Request} :
    ({ s with requests := PgMcp.orphan queue s.requests } : Server).share id =
      (s.share id).orphan queue := by
  induction queue generalizing s with
  | nil => rfl
  | cons request queue ih =>
    cases request with
    | shutdown reply => exact ih
    | operation n operation =>
      -- the first request of the queue is left, and then the others
      refine (ih (s := s.setRequest n .orphaned)).trans ?_
      rw [share_setRequest]
      rfl

/-- A request for a handle is there. -/
theorem share_insert {n : ℕ} {c : RequestCall} (handle : c.handle = id) :
    ({ s with requests := s.requests.insert n c } : Server).share id =
      { s.share id with requests := Function.update (s.share id).requests n (some c) } := by
  refine Share.ext rfl rfl rfl rfl ?_
  exact Table.part_insert (by simpa using handle)

theorem share_insert_ne {n : ℕ} {c : RequestCall} (fresh : n ∉ s.requests) (other : c.handle ≠ id) :
    ({ s with requests := s.requests.insert n c } : Server).share id = s.share id := by
  refine Share.ext rfl rfl rfl rfl ?_
  exact Table.part_insert_of_not fresh (by simpa using other)

/-! ### The steps of others -/

/-- A thread of another handle goes on. -/
theorem share_setThread_ne {k : ℕ} {thread : Thread} {f : Thread → Thread}
    (lookup : s.threads.lookup k = some thread) (other : thread.handle ≠ id)
    (handle : ∀ t, (f t).handle = t.handle) : (s.setThread k f).share id = s.share id := by
  rw [share_setThread handle, Share.setThread_of_none (share_thread_none lookup other)]

/-- A request for another handle comes to a stage. -/
theorem share_setRequest_ne {n : ℕ} {c : RequestCall} {stage : RequestStage}
    (call : s.requests.lookup n = some c) (other : c.handle ≠ id) :
    (s.setRequest n stage).share id = s.share id := by
  rw [share_setRequest, Share.setRequest_of_none (share_request_none call other)]

/-- The requests in the queue of another handle are left. -/
theorem share_orphan_ne {queue : List Request}
    (h : ∀ n operation, .operation n operation ∈ queue → (s.share id).requests n = none) :
    (s.share id).orphan queue = s.share id := by
  induction queue with
  | nil => rfl
  | cons request queue ih =>
    have hrest := ih fun n operation hmem => h n operation (List.mem_cons_of_mem _ hmem)
    cases request with
    | shutdown reply => exact hrest
    | operation n operation =>
      show ((s.share id).setRequest n .orphaned).orphan queue = _
      rw [Share.setRequest_of_none (h n operation (List.mem_cons_self ..))]
      exact hrest

/-- The handle that an open which has not registered its own is for is another one. -/
theorem Sound.other (hs : s.Sound) (registered : id ∈ s.registry.handles) {k : ℕ} {c : OpenCall}
    (call : s.opens.lookup k = some c) (stage : c.stage.registers = false) :
    c.reservation.id ≠ id := by
  rintro rfl
  exact hs.booked.unregistered call stage registered

/-- The steps of other handles, and those of opens, leave the share of a registered handle
alone. -/
theorem Step.share (hs : s.Sound) (hh : s.Held) {a : Action} (h : Step core s a t)
    (registered : id ∈ s.registry.handles) (calm : a.isShutdown = false)
    (other : a.own s id = false) : t.share id = s.share id := by
  have hne : a.handle s ≠ some id := by
    intro heq
    rw [Action.own_of_handle heq] at other
    cases other
  have thread : ∀ {k t}, s.threads.lookup k = some t →
      a.handle s = (s.threads.lookup k).map Thread.handle → t.handle ≠ id := by
    rintro k t lookup hhandle rfl
    rw [lookup] at hhandle
    exact hne hhandle
  cases h with
  | tick => cases other
  | reserved k profile reservation r free fresh result =>
    obtain ⟨-, -, -, -, -, rfl⟩ := Core.reserveOpen_ok result
    rfl
  | spawn k c config database backend call stage =>
    have hother := hs.other registered call (by rw [stage]; rfl)
    have hfresh : k ∉ s.threads := by
      intro hmem
      obtain ⟨t, ht⟩ := Option.isSome_iff_exists.mp (AList.lookup_isSome.mpr hmem)
      obtain ⟨c', hc', -, started⟩ := hs.staffed.starter k t ht
      rw [call, Option.some.injEq] at hc'
      rw [← hc', stage] at started
      cases started
    refine Share.ext rfl rfl rfl ?_ rfl
    exact Table.part_insert_of_not hfresh (by simpa using hother)
  | published k c config published r free call stage result =>
    have hother := hs.other registered call (by rw [stage]; rfl)
    unfold Registry.publishOpen at result
    split_ifs at result
    cases result
    refine Share.ext rfl rfl ?_ rfl rfl
    exact AList.lookup_insert_ne (Ne.symm hother)
  | dismiss k c call stage =>
    have hother := hs.other registered call (by rw [stage]; rfl)
    split
    · refine Share.ext rfl rfl rfl (Table.part_modify_of_not fun t ht => ?_) rfl
      -- the thread is the one this open has started
      obtain ⟨c', hc', handle, -⟩ := hs.staffed.starter k t ht
      rw [call, Option.some.injEq] at hc'
      subst hc'
      rw [← handle] at hother
      exact ⟨beq_eq_false_iff_ne.mpr hother, beq_eq_false_iff_ne.mpr hother⟩
    · rfl
  | dispatch n handle operation limits free fresh result
  | unknown n handle operation failure free fresh result =>
    exact share_insert_ne fresh fun heq => hne (congrArg some heq)
  | admitted n c k r free call stage result =>
    have hother : c.handle ≠ id := by
      rintro rfl
      exact hne (by show (s.requests.lookup n).map _ = _; rw [call]; rfl)
    obtain ⟨r', hr, hadmission⟩ := Admission.of_returns result
    cases hr
    cases hadmission with
    | sent entry running present =>
      obtain ⟨thread, hthread, -⟩ := hs.staffed.worker _ entry present
      have hhandle := (hs.staffed.sender_iff hs.booked hthread present).mp rfl
      refine Eq.trans (share_setRequest_ne (s := (s.setRegistry _).setThread _ _) call hother) ?_
      refine Eq.trans (share_setThread_ne (s := s.setRegistry _) hthread (hhandle ▸ hother)
        fun _ => rfl) ?_
      exact share_modify_ne hother
  | unadmitted n c failure r free call stage result =>
    have hother : c.handle ≠ id := by
      rintro rfl
      exact hne (by show (s.requests.lookup n).map _ = _; rw [call]; rfl)
    obtain ⟨r', hr, hadmission⟩ := Admission.of_returns result
    cases hr
    refine Eq.trans (share_setRequest_ne (s := s.setRegistry _) call hother) ?_
    cases hadmission with
    | stopping | unknown | busy => rfl
    | rejected entry code running present live room queue r same =>
      subst same
      exact Eq.trans (share_modify_ne (s := s.setRegistry _) hother) (share_modify_ne hother)
  | lose n c failure free call stage result =>
    refine share_setRequest_ne call ?_
    rintro rfl
    exact hne (by show (s.requests.lookup n).map _ = _; rw [call]; rfl)
  | take k t request rest lookup stage queue =>
    exact share_setThread_ne lookup (thread lookup rfl) fun _ => rfl
  | execute k t call operation entry env rounds result w free lookup stage present runs =>
    exact share_setThread_ne lookup (thread lookup rfl) fun _ => rfl
  | record k t call operation result published free lookup stage =>
    exact Eq.trans (share_setThread_ne (s := s.setRegistry _) lookup (thread lookup rfl) fun _ => rfl)
      (share_modify_ne (thread lookup rfl))
  | settle k t call operation result entry w free lookup stage present settled =>
    exact Eq.trans (share_setThread_ne (s := s.setRegistry _) lookup (thread lookup rfl) fun _ => rfl)
      (share_modify_ne (thread lookup rfl))
  | reply k t call closed reply lookup stage =>
    have hcall : call ∈ t.calls := by
      refine List.mem_append_left _ ?_
      rw [stage]
      exact List.mem_singleton_self call
    obtain ⟨c, hc, hhandle, -⟩ := hh.waits k t lookup call hcall
    exact Eq.trans (share_setThread_ne (s := s.setRequest call _) lookup (thread lookup rfl)
      fun _ => rfl) (share_setRequest_ne hc (hhandle ▸ thread lookup rfl))
  | release k t closed free lookup stage =>
    exact Eq.trans (share_setThread_ne (s := s.setRegistry _) lookup (thread lookup rfl) fun _ => rfl)
      (share_modify_ne (thread lookup rfl))
  | clean k t reply env rounds result backend lookup stage runs =>
    exact share_setThread_ne lookup (thread lookup rfl) fun _ => rfl
  | close k t entry reply free lookup stage =>
    exact Eq.trans (share_setThread_ne (s := s.setRegistry _) lookup (thread lookup rfl) fun _ => rfl)
      (share_modify_ne (thread lookup rfl))
  | report k t entry reply lookup stage =>
    exact share_setThread_ne lookup (thread lookup rfl) fun _ => rfl
  | leave k t lookup stage =>
    have hqueue : ∀ n operation, .operation n operation ∈ t.queue →
        (s.share id).requests n = none := by
      intro n operation hmem
      obtain ⟨c, hc, hhandle, -⟩ := hh.waits k t lookup n (Thread.mem_calls hmem)
      exact share_request_none hc (hhandle ▸ thread lookup rfl)
    calc _ = (({ s with requests := PgMcp.orphan t.queue s.requests } : Server).setThread k fun t =>
            { t with backend := t.backend.take, queue := [], stage := .left }).share id := rfl
      _ = ({ s with requests := PgMcp.orphan t.queue s.requests } : Server).share id :=
        share_setThread_ne lookup (thread lookup rfl) fun _ => rfl
      _ = s.share id := share_orphan.trans (share_orphan_ne hqueue)
  | finish k t lookup stage => exact share_setThread_ne lookup (thread lookup rfl) fun _ => rfl
  | unreserved | cancelOpen | «open» | unpublished | finishOpen | stuck => rfl
  | _ => cases calm

end Server

end PgMcp
