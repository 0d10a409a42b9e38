import PgMcp.Core.Accounting

/-!
# The requests of the clients

A request is admitted, waits in the queue of its worker or is served by it, and is answered
once.  Every request a worker holds waits for its answer, and no two workers hold the same
request.

## Main definitions

* `Thread.calls` — the requests a worker holds.
* `Server.Held` — every request that is held waits.

## Main results

* `Server.Held.step`, `held_of_run` — the requests in every reachable state.
* `Server.Step.request` — an answer is not taken back.
-/

namespace PgMcp

open Program

/-- The client has its answer. -/
def RequestCall.Answered (c : RequestCall) : Prop := ∃ reply, c.stage = .answered reply

/-- The request a worker serves, until it has answered it. -/
def ThreadStage.call : ThreadStage → Option ℕ
  | .serving call _ | .publishing call _ _ _ | .settling call _ _ | .replying call _ _ => some call
  | _ => none

/-- The requests a worker holds, the next to be answered first. -/
def Thread.calls (t : Thread) : List ℕ := t.stage.call.toList ++ t.operations.map Prod.fst

theorem Thread.mem_calls {t : Thread} {m : ℕ} {operation : Operation}
    (h : .operation m operation ∈ t.queue) : m ∈ t.calls := by
  refine List.mem_append_right _ (List.mem_map.mpr ⟨(m, operation), ?_, rfl⟩)
  exact List.mem_filterMap.mpr ⟨_, h, rfl⟩

theorem RequestCall.not_answered {c : RequestCall} (h : c.stage = .admitting ∨ c.stage = .waiting ∨
    c.stage = .orphaned) : ¬ c.Answered := by
  rintro ⟨reply, hstage⟩
  rcases h with h | h | h <;> rw [h] at hstage <;> cases hstage

/-- What becomes of a request when a queue is dropped. -/
theorem lookup_orphan {queue : List Request} {requests : Table ℕ RequestCall} {m : ℕ}
    {c' : RequestCall} (h : (orphan queue requests).lookup m = some c') :
    requests.lookup m = some c' ∨ ∃ c operation, requests.lookup m = some c ∧
      c'.handle = c.handle ∧ c'.stage = .orphaned ∧ .operation m operation ∈ queue := by
  induction queue generalizing requests with
  | nil => exact .inl h
  | cons request queue ih =>
    cases request with
    | shutdown reply =>
      rcases ih h with hsame | ⟨c, operation, hc, hhandle, hstage, hmem⟩
      · exact .inl hsame
      · exact .inr ⟨c, operation, hc, hhandle, hstage, List.mem_cons_of_mem _ hmem⟩
    | operation n operation =>
      rcases ih h with hsame | ⟨c, operation', hc, hhandle, hstage, hmem⟩
      · rcases Table.lookup_modify_some hsame with ⟨rfl, c, hc, rfl⟩ | ⟨-, hc⟩
        · exact .inr ⟨c, operation, hc, rfl, rfl, List.mem_cons_self ..⟩
        · exact .inl hc
      · rcases Table.lookup_modify_some hc with ⟨rfl, d, hd, rfl⟩ | ⟨-, hd⟩
        · exact .inr ⟨d, operation, hd, hhandle, hstage, List.mem_cons_self ..⟩
        · exact .inr ⟨c, operation', hd, hhandle, hstage, List.mem_cons_of_mem _ hmem⟩

theorem lookup_orphan_of_notMem {queue : List Request} {requests : Table ℕ RequestCall} {m : ℕ}
    (h : ∀ operation, .operation m operation ∉ queue) :
    (orphan queue requests).lookup m = requests.lookup m := by
  induction queue generalizing requests with
  | nil => rfl
  | cons request queue ih =>
    have hrest : ∀ operation, .operation m operation ∉ queue := fun operation hmem =>
      h operation (List.mem_cons_of_mem _ hmem)
    cases request with
    | shutdown reply => exact ih hrest
    | operation n operation =>
      have hne : m ≠ n := by
        rintro rfl
        exact h operation (List.mem_cons_self ..)
      exact (ih hrest).trans (Table.lookup_modify_ne hne)

namespace Server

variable {core : Core} {s t : Server} {ls : List Label}

/-- A request waits for the answer of the worker with the given handle. -/
def Waits (s : Server) (handle : String) (m : ℕ) : Prop :=
  ∃ c, s.requests.lookup m = some c ∧ c.handle = handle ∧ c.stage = .waiting

/-- Every request that is held waits. -/
structure Held (s : Server) : Prop where
  nodup : ∀ k thread, s.threads.lookup k = some thread → thread.calls.Nodup
  waits : ∀ k thread, s.threads.lookup k = some thread → ∀ m ∈ thread.calls,
    s.Waits thread.handle m

theorem held_new : new.Held where
  nodup k thread h := by simp [new] at h
  waits k thread h := by simp [new] at h

/-- A worker goes on with some of the requests it holds. -/
theorem Held.modify (h : s.Held) {k : ℕ} {f : Thread → Thread}
    (threads : t.threads = s.threads.modify k f) (requests : t.requests = s.requests)
    (calls : ∀ thread, s.threads.lookup k = some thread → (f thread).calls = thread.calls)
    (handle : ∀ thread, (f thread).handle = thread.handle) : t.Held := by
  have hwaits : ∀ {handle m}, s.Waits handle m → t.Waits handle m := by
    rintro _ _ ⟨c, hc, hrest⟩
    exact ⟨c, by rw [requests, hc], hrest⟩
  constructor
  · intro k' thread' hk'
    rw [threads] at hk'
    rcases Table.lookup_modify_some hk' with ⟨rfl, thread, hthread, rfl⟩ | ⟨-, hthread⟩
    · rw [calls thread hthread]
      exact h.nodup _ thread hthread
    · exact h.nodup k' thread' hthread
  · intro k' thread' hk' m hm
    rw [threads] at hk'
    rcases Table.lookup_modify_some hk' with ⟨rfl, thread, hthread, rfl⟩ | ⟨-, hthread⟩
    · rw [calls thread hthread] at hm
      rw [handle]
      exact hwaits (h.waits _ thread hthread m hm)
    · exact hwaits (h.waits k' thread' hthread m hm)

/-- A request that is not held changes. -/
theorem Held.change (h : s.Held) (threads : t.threads = s.threads)
    (requests : ∀ m c, s.requests.lookup m = some c → c.stage = .waiting →
      t.requests.lookup m = some c) : t.Held := by
  constructor
  · rw [threads]
    exact h.nodup
  · intro k thread hk m hm
    rw [threads] at hk
    obtain ⟨c, hc, hhandle, hstage⟩ := h.waits k thread hk m hm
    exact ⟨c, requests m c hc hstage, hhandle, hstage⟩

/-- Two threads do not have the same handle. -/
theorem Sound.thread_inj (hs : s.Sound) {k k' : ℕ} {thread thread' : Thread}
    (hk : s.threads.lookup k = some thread) (hk' : s.threads.lookup k' = some thread')
    (same : thread.handle = thread'.handle) : k = k' := by
  obtain ⟨c, hc, hid, -⟩ := hs.staffed.starter k thread hk
  obtain ⟨c', hc', hid', -⟩ := hs.staffed.starter k' thread' hk'
  exact hs.booked.distinct k k' c c' hc hc' (hid.symm.trans (same.trans hid'))

/-- A worker drops requests it holds. -/
theorem Held.drop (h : s.Held) (hs : s.Sound) {k : ℕ} {thread : Thread} {f : Thread → Thread}
    (lookup : s.threads.lookup k = some thread) (threads : t.threads = s.threads.modify k f)
    (handle : (f thread).handle = thread.handle) (calls : (f thread).calls <:+ thread.calls)
    (requests : ∀ m c, s.requests.lookup m = some c →
      (m ∈ thread.calls → m ∈ (f thread).calls) → t.requests.lookup m = some c) : t.Held := by
  have hlookup : ∀ {k' thread'}, t.threads.lookup k' = some thread' →
      k' = k ∧ thread' = f thread ∨ k' ≠ k ∧ s.threads.lookup k' = some thread' := by
    intro k' thread' hk'
    rw [threads] at hk'
    rcases Table.lookup_modify_some hk' with ⟨rfl, thread₁, hthread, rfl⟩ | ⟨hne, hthread⟩
    · rw [lookup, Option.some.injEq] at hthread
      exact .inl ⟨rfl, by rw [hthread]⟩
    · exact .inr ⟨hne, hthread⟩
  constructor
  · intro k' thread' hk'
    rcases hlookup hk' with ⟨-, rfl⟩ | ⟨-, hthread⟩
    · exact (h.nodup k thread lookup).sublist calls.sublist
    · exact h.nodup k' thread' hthread
  · intro k' thread' hk' m hm
    rcases hlookup hk' with ⟨-, rfl⟩ | ⟨hne, hthread⟩
    · obtain ⟨c, hc, hrest⟩ := h.waits k thread lookup m (calls.subset hm)
      rw [handle]
      exact ⟨c, requests m c hc fun _ => hm, hrest⟩
    · obtain ⟨c, hc, hhandle, hstage⟩ := h.waits k' thread' hthread m hm
      refine ⟨c, requests m c hc fun hmem => ?_, hhandle, hstage⟩
      -- the request would be held by two workers
      obtain ⟨d, hd, hhandle', -⟩ := h.waits k thread lookup m hmem
      rw [hc, Option.some.injEq] at hd
      subst hd
      exact absurd (hs.thread_inj hthread lookup (hhandle.symm.trans hhandle')) hne

/-- A worker is sent a request. -/
theorem Held.send (h : s.Held) {k n : ℕ} {c : RequestCall} {thread : Thread}
    (lookup : s.threads.lookup k = some thread) (call : s.requests.lookup n = some c)
    (stage : c.stage = .admitting) (handle : c.handle = thread.handle)
    (threads : t.threads = s.threads.modify k (Thread.push (.operation n c.operation)))
    (requests : t.requests = s.requests.modify n fun c => { c with stage := .waiting }) : t.Held := by
  -- a request that is still to be admitted is in no queue
  have hnew : ∀ {k' thread'}, s.threads.lookup k' = some thread' → n ∉ thread'.calls := by
    intro k' thread' hk' hmem
    obtain ⟨d, hd, -, hstage⟩ := h.waits k' thread' hk' n hmem
    rw [call, Option.some.injEq] at hd
    subst hd
    rw [stage] at hstage
    cases hstage
  have hcalls : ∀ thread : Thread, (thread.push (.operation n c.operation)).calls = thread.calls ++ [n] := by
    intro thread
    unfold Thread.calls
    rw [Thread.operations_push, List.map_append, List.append_assoc]
    rfl
  have hwaits : ∀ {handle m}, s.Waits handle m → t.Waits handle m := by
    rintro handle m ⟨d, hd, hhandle, hstage⟩
    have hne : m ≠ n := by
      rintro rfl
      rw [call, Option.some.injEq] at hd
      subst hd
      rw [stage] at hstage
      cases hstage
    exact ⟨d, by rw [requests, Table.lookup_modify_ne hne, hd], hhandle, hstage⟩
  constructor
  · intro k' thread' hk'
    rw [threads] at hk'
    rcases Table.lookup_modify_some hk' with ⟨rfl, thread₁, hthread, rfl⟩ | ⟨-, hthread⟩
    · rw [hcalls]
      refine List.Nodup.append (h.nodup _ _ hthread) (List.nodup_singleton n) ?_
      exact List.disjoint_singleton.mpr (hnew hthread)
    · exact h.nodup k' thread' hthread
  · intro k' thread' hk' m hm
    rw [threads] at hk'
    rcases Table.lookup_modify_some hk' with ⟨rfl, thread₁, hthread, rfl⟩ | ⟨-, hthread⟩
    · rw [lookup, Option.some.injEq] at hthread
      subst hthread
      rw [hcalls, List.mem_append, List.mem_singleton] at hm
      rcases hm with hm | rfl
      · exact hwaits (h.waits _ thread lookup m hm)
      · exact ⟨{ c with stage := .waiting }, by rw [requests, Table.lookup_modify_self, call]; rfl,
          handle, rfl⟩
    · exact hwaits (h.waits k' thread' hthread m hm)

/-- The requests that are held, after a step. -/
theorem Held.step (h : s.Held) (hs : s.Sound) {a : Action} (step : Step core s a t) : t.Held := by
  cases step with
  -- a thread starts with nothing to do
  | spawn k c config database backend call stage =>
    have hlookup : ∀ {k' thread'}, (s.threads.insert k
        { handle := c.reservation.id, config := config, backend := backend, queue := [],
          stage := .idle }).lookup k' = some thread' →
          thread'.calls = [] ∨ s.threads.lookup k' = some thread' := by
      intro k' thread' hk'
      rw [Table.lookup_insert] at hk'
      split at hk'
      · cases hk'
        exact .inl rfl
      · exact .inr hk'
    constructor
    · intro k' thread' hk'
      rcases hlookup hk' with hnil | hthread
      · rw [hnil]
        exact List.nodup_nil
      · exact h.nodup k' thread' hthread
    · intro k' thread' hk' m hm
      rcases hlookup hk' with hnil | hthread
      · rw [hnil] at hm
        cases hm
      · exact h.waits k' thread' hthread m hm
  | dismiss k c call stage =>
    split
    · refine h.modify (k := k) (f := Thread.push (.shutdown false)) rfl rfl (fun thread _ => ?_)
        fun _ => rfl
      unfold Thread.calls
      rw [thread.operations_shutdown]
      rfl
    · exact h.change rfl fun m c hc _ => hc
  | enqueue c id k cleanup stage room =>
    refine h.modify (k := k) (f := Thread.push (.shutdown true)) rfl rfl (fun thread _ => ?_)
      fun _ => rfl
    unfold Thread.calls
    rw [thread.operations_shutdown]
    rfl
  -- the number of a new request is fresh, so no thread holds it
  | dispatch n handle operation limits free fresh | unknown n handle operation failure free fresh =>
    refine h.change rfl fun m c hc _ => (AList.lookup_insert_ne ?_).trans hc
    rintro rfl
    exact fresh (Table.mem_of_lookup hc)
  | admitted n c k r free call stage result =>
    obtain ⟨r', hr, hadmission⟩ := Admission.of_returns result
    cases hadmission with
    | sent entry running present =>
      obtain ⟨thread, hthread, -⟩ := hs.staffed.worker _ entry present
      refine h.send hthread call stage ?_ rfl rfl
      exact (hs.staffed.sender_iff hs.booked hthread present).mp rfl
  | unadmitted n c failure r free call stage =>
    refine h.change rfl fun m d hd hstage => (Table.lookup_modify_ne ?_).trans hd
    rintro rfl
    rw [call, Option.some.injEq] at hd
    rw [← hd, stage] at hstage
    cases hstage
  | lose n c failure free call stage =>
    refine h.change rfl fun m d hd hstage => (Table.lookup_modify_ne ?_).trans hd
    rintro rfl
    rw [call, Option.some.injEq] at hd
    rw [← hd, stage] at hstage
    cases hstage
  | take k thread request rest lookup stage queue =>
    refine h.modify (k := k) rfl rfl (fun thread' hthread => ?_) ?_
    · rw [lookup, Option.some.injEq] at hthread
      subst hthread
      unfold Thread.calls Thread.operations
      rw [stage, queue]
      cases request <;> rfl
    · exact fun _ => rfl
  | execute k thread call operation entry env rounds result w free lookup stage
  | record k thread call operation result published free lookup stage
  | settle k thread call operation result entry w free lookup stage
  | clean k thread reply env rounds result backend lookup stage
  | close k thread entry reply free lookup stage | report k thread entry reply lookup stage
  | finish k thread lookup stage =>
    refine h.modify (k := k) rfl rfl (fun thread' hthread => ?_) ?_
    · rw [lookup, Option.some.injEq] at hthread
      subst hthread
      unfold Thread.calls
      rw [stage]
      rfl
    · exact fun _ => rfl
  | release k thread closed free lookup stage =>
    refine h.modify (k := k) rfl rfl (fun thread' hthread => ?_) ?_
    · rw [lookup, Option.some.injEq] at hthread
      subst hthread
      unfold Thread.calls
      rw [stage]
      cases closed <;> rfl
    · exact fun _ => rfl
  -- the call that is answered leaves the thread, and by `nodup` it is held only once
  | reply k thread call closed reply lookup stage =>
    have hcalls : thread.calls = call :: thread.operations.map Prod.fst := by
      unfold Thread.calls
      rw [stage]
      rfl
    refine h.drop hs (k := k) lookup rfl rfl ?_ fun m c hc hmem => ?_
    · rw [hcalls]
      exact List.suffix_cons _ _
    · refine (Table.lookup_modify_ne ?_).trans hc
      rintro rfl
      have hnodup := h.nodup k thread lookup
      rw [hcalls] at hnodup hmem
      exact (List.nodup_cons.mp hnodup).1 (hmem (List.mem_cons_self ..))
  -- the calls of the queue are orphaned with it
  | leave k thread lookup stage =>
    refine h.drop hs (k := k) lookup rfl rfl List.nil_suffix fun m c hc hmem => ?_
    refine (lookup_orphan_of_notMem fun operation hqueue => ?_).trans hc
    cases hmem (Thread.mem_calls hqueue)
  | _ => exact h.change rfl fun m c hc _ => hc

/-- The requests in every reachable state. -/
theorem held_of_run (run : Run (Acts core) new ls s) (hnew : ∀ l ∈ ls, l.NewId) :
    s.Sound ∧ s.Held := by
  refine run.invariant (I := fun s => s.Sound ∧ s.Held) (G := Label.NewId) ?_ hnew
    ⟨sound_new, held_new⟩
  exact fun s l t hs hl step => ⟨hs.1.step step hl, hs.2.step hs.1 step.2.2⟩

/-- A request is the one that is dispatched, or it was there before the step, and an answer
is not taken back. -/
theorem Step.request (h : s.Held) {a : Action} (step : Step core s a t) {m : ℕ} {c' : RequestCall}
    (hm : t.requests.lookup m = some c') :
    (∃ operation, a = .dispatch m c'.handle operation) ∨
      ∃ c, s.requests.lookup m = some c ∧ c'.handle = c.handle ∧ (c.Answered → c'.Answered) := by
  have same : t.requests = s.requests → (∃ operation, a = .dispatch m c'.handle operation) ∨
      ∃ c, s.requests.lookup m = some c ∧ c'.handle = c.handle ∧ (c.Answered → c'.Answered) :=
    fun requests => .inr ⟨c', requests ▸ hm, rfl, fun h => h⟩
  have inserted : ∀ {n handle operation stage}, (s.requests.insert n
      { handle := handle, operation := operation, stage := stage }).lookup m = some c' →
      a = .dispatch n handle operation → (∃ operation, a = .dispatch m c'.handle operation) ∨
        ∃ c, s.requests.lookup m = some c ∧ c'.handle = c.handle ∧ (c.Answered → c'.Answered) := by
    intro n handle operation stage hm haction
    rw [Table.lookup_insert] at hm
    split at hm
    · next heq =>
      cases hm
      exact .inl ⟨operation, heq ▸ haction⟩
    · exact .inr ⟨c', hm, rfl, fun h => h⟩
  have changed : ∀ {n c stage}, s.requests.lookup n = some c →
    (c.Answered → ∃ reply, stage = .answered reply) →
      (s.requests.modify n fun c => { c with stage := stage }).lookup m = some c' →
      (∃ operation, a = .dispatch m c'.handle operation) ∨
        ∃ c, s.requests.lookup m = some c ∧ c'.handle = c.handle ∧ (c.Answered → c'.Answered) := by
    intro n c stage call hanswered hm
    rcases Table.lookup_modify_some hm with ⟨rfl, d, hd, rfl⟩ | ⟨-, hc⟩
    · rw [call, Option.some.injEq] at hd
      subst hd
      exact .inr ⟨c, call, rfl, hanswered⟩
    · exact .inr ⟨c', hc, rfl, fun h => h⟩
  cases step with
  | dispatch n handle operation limits free fresh | unknown n handle operation failure free fresh =>
    exact inserted hm rfl
  | admitted n c k r free call stage =>
    exact changed call (fun h => absurd h (RequestCall.not_answered (.inl stage))) hm
  | unadmitted n c failure r free call stage =>
    exact changed call (fun h => absurd h (RequestCall.not_answered (.inl stage))) hm
  | lose n c failure free call stage =>
    exact changed call (fun h => absurd h (RequestCall.not_answered (.inr (.inr stage)))) hm
  | reply k thread call closed reply lookup stage =>
    have hcall : call ∈ thread.calls := by
      refine List.mem_append_left _ ?_
      rw [stage]
      exact List.mem_singleton_self call
    obtain ⟨c, hc, -, hstage⟩ := h.waits k thread lookup call hcall
    exact changed hc (fun h => absurd h (RequestCall.not_answered (.inr (.inl hstage)))) hm
  | leave k thread lookup stage =>
    rcases lookup_orphan hm with hsame | ⟨c, operation, hc, hhandle, hstage, hqueue⟩
    · exact .inr ⟨c', hsame, rfl, fun h => h⟩
    · obtain ⟨d, hd, -, hwaiting⟩ := h.waits k thread lookup m (Thread.mem_calls hqueue)
      rw [hc, Option.some.injEq] at hd
      subst hd
      exact .inr ⟨c, hc, hhandle, fun h => absurd h (RequestCall.not_answered (.inr (.inl hwaiting)))⟩
  | dismiss =>
    refine same ?_
    split <;> rfl
  | _ => exact same rfl

end Server

end PgMcp
