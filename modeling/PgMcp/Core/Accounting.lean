import PgMcp.Core.Stations

/-!
# The counter of admissions

The entry of a handle counts the requests that are admitted and not yet released.  The
counter goes up in the section that puts the request into the queue, and goes down when the
worker drops its admission guard; in between the request is in the queue, or the worker
holds the guard.

## Main definitions

* `ThreadStage.guarded` — the worker holds an admission guard.
* `Station.Accounted` — the counter is the length of the queue, and one for the guard.

## Main results

* `admitted_of_run` — the counter of every handle in every reachable state.
-/

namespace PgMcp

open Program

/-- The worker is between taking a request and dropping its admission guard. -/
def ThreadStage.guarded : ThreadStage → Bool
  | .serving _ _ | .publishing _ _ _ _ | .settling _ _ _ | .replying _ _ _ | .releasing _ => true
  | _ => false

theorem Thread.operations_push (t : Thread) (n : ℕ) (operation : Operation) :
    (t.push (.operation n operation)).operations = t.operations ++ [(n, operation)] := by
  unfold operations push
  rw [List.filterMap_append]
  rfl

theorem Thread.operations_take {t : Thread} {request : Request} {rest : List Request}
    (queue : t.queue = request :: rest) :
    t.operations.length = ({ t with queue := rest, stage := request.stage } : Thread).operations.length +
      request.stage.guarded.toNat := by
  unfold operations
  rw [queue]
  cases request <;> rfl

/-- A queue without shutdowns holds nothing but operations. -/
theorem Thread.length_operations {t : Thread} (h : ∀ reply, .shutdown reply ∉ t.queue) :
    t.operations.length = t.queue.length := by
  unfold operations
  generalize t.queue = queue at h
  induction queue with
  | nil => rfl
  | cons request queue ih =>
    have hrest := ih fun reply hmem => h reply (List.mem_cons_of_mem _ hmem)
    cases request with
    | operation n operation =>
      rw [List.filterMap_cons]
      simp only [List.length_cons, hrest]
    | shutdown reply => exact absurd (List.mem_cons_self ..) (h reply)

/-- The counter of a station. -/
structure Station.Accounted (x : Station) : Prop where
  config : x.thread.config = x.entry.config
  admitted : x.thread.stage.receives = true →
    x.entry.admitted = x.thread.operations.length + x.thread.stage.guarded.toNat
  limited : x.entry.admitted ≤ x.entry.config.outstandingRequests

theorem Station.Fresh.accounted {x : Station} (h : x.Fresh) : x.Accounted where
  config := h.config
  admitted _ := by
    unfold Thread.operations
    rw [h.admitted, h.queue, h.idle]
    rfl
  limited := by
    rw [h.admitted]
    exact Nat.zero_le _

theorem WorkerEntry.config_of_key {entry entry' : WorkerEntry} (h : entry'.key = entry.key) :
    entry'.config = entry.config :=
  congrArg (fun key => key.2.1) h

/-- The worker goes on, with the guard it holds or without one. -/
theorem Station.Accounted.turn {x y : Station} (h : x.Accounted) (key : y.entry.key = x.entry.key)
    (admitted : y.entry.admitted = x.entry.admitted) (config : y.thread.config = x.thread.config)
    (queue : y.thread.operations = x.thread.operations) (receives : x.thread.stage.receives = true)
    (guarded : y.thread.stage.guarded = x.thread.stage.guarded) : y.Accounted where
  config := by rw [config, WorkerEntry.config_of_key key, h.config]
  admitted _ := by rw [admitted, queue, guarded, h.admitted receives]
  limited := by
    rw [admitted, WorkerEntry.config_of_key key]
    exact h.limited

/-- The counter after a step. -/
theorem Station.Accounted.step {s : Server} {x y : Station} {a : Action} (h : x.Accounted)
    (step : x.Step s a y) : y.Accounted := by
  have hadmitted := h.admitted
  cases step with
  | admits n c call stage handle running live room queue =>
    refine ⟨h.config, fun hreceives => ?_, room⟩
    have := hadmitted hreceives
    rw [Thread.operations_push, List.length_append]
    show x.entry.admitted + 1 = _ + 1 + x.thread.stage.guarded.toNat
    omega
  | enqueue cleanup queue =>
    refine ⟨h.config, fun hreceives => ?_, h.limited⟩
    rw [Thread.operations_shutdown]
    exact hadmitted hreceives
  | take request rest stage queue =>
    refine ⟨h.config, fun _ => ?_, h.limited⟩
    have := hadmitted (by rw [stage]; rfl)
    rw [stage, Thread.operations_take queue] at this
    exact this
  | execute call operation env rounds result w stage | record call operation result published stage
  | settle call operation result w stage | reply call closed reply stage
  | clean reply env rounds result backend stage | close entry reply stage
  | report entry reply stage =>
    exact h.turn rfl rfl rfl rfl (by rw [stage]; rfl) (by rw [stage]; rfl)
  | release closed stage =>
    have := hadmitted (by rw [stage]; rfl)
    rw [stage] at this
    change x.entry.admitted = x.thread.operations.length + 1 at this
    refine ⟨h.config, fun _ => ?_, (Nat.sub_le _ 1).trans h.limited⟩
    show x.entry.admitted - 1 = x.thread.operations.length + _
    rw [this]
    cases closed <;> rfl
  | leave stage | finish stage => exact ⟨h.config, nofun, h.limited⟩
  | aside a y other key published admitted thread =>
    have hsame := WorkerEntry.config_of_key key
    refine ⟨by rw [thread, hsame, h.config], ?_, by rw [admitted, hsame]; exact h.limited⟩
    rw [thread, admitted]
    exact hadmitted

namespace Server

variable {core : Core} {s t : Server} {id : String} {x y : Station} {ls : List Label}

/-- A station of a server that runs has no shutdown in its queue. -/
def Undisturbed (s : Server) (x : Station) : Prop :=
  s.registry.lifecycle = .running → ∀ reply, .shutdown reply ∉ x.thread.queue

theorem Undisturbed.step {a : Action} (h : s.Undisturbed x) (hs : s.Elected)
    (server : Step core s a t) (step : x.Step s a y) : t.Undisturbed y := by
  intro hrunning
  have hbefore : s.registry.lifecycle = .running := by
    rcases hs.next server with hsame | ⟨hrun, -⟩ | ⟨-, hstopped⟩
    · rw [← hsame, hrunning]
    · exact hrun
    · rw [hrunning] at hstopped
      cases hstopped
  have hqueue := h hbefore
  cases step with
  | admits n c =>
    intro reply hmem
    rcases List.mem_append.mp hmem with hmem | hmem
    · exact hqueue reply hmem
    · rw [List.mem_singleton] at hmem
      cases hmem
  | enqueue cleanup =>
    obtain ⟨c, hc⟩ := Option.ne_none_iff_exists'.mp cleanup
    exact absurd hbefore (hs.not_running hc)
  | take request rest stage queue =>
    rw [queue] at hqueue
    exact fun reply hmem => hqueue reply (List.mem_cons_of_mem _ hmem)
  | leave => exact fun reply => List.not_mem_nil
  | aside a y other key published admitted thread =>
    rw [thread]
    exact hqueue
  | _ => exact hqueue

/-- On a server that runs, a request that finds the counter below its limit finds room in the
queue. -/
theorem Hosts.not_full (hx : s.Hosts id x) (h : x.Accounted)
    (undisturbed : s.Undisturbed x) (running : s.registry.lifecycle = .running)
    (room : x.entry.admitted < x.entry.config.outstandingRequests) :
    s.trySend x.entry.sender ≠ .full := by
  intro hfull
  rw [hx.trySend] at hfull
  unfold Thread.trySend at hfull
  split_ifs at hfull with hclosed hlength
  have hcount := h.admitted (by simpa using hclosed)
  rw [h.config, ← Thread.length_operations (undisturbed running)] at hlength
  omega

/-- The counter of a station in every reachable state. -/
theorem accounted_of_run (run : Run (Acts core) new ls s) (hnew : ∀ l ∈ ls, l.NewId)
    (hx : s.Hosts id x) : x.Accounted ∧ s.Undisturbed x := by
  refine station_of_run (I := fun s x => x.Accounted ∧ s.Undisturbed x) run hnew
    (fun s x _ fresh => ⟨fresh.accounted, fun _ => ?_⟩) (fun x l y h server visits => ?_) hx
  · rw [fresh.queue]
    exact fun reply => List.not_mem_nil
  · exact ⟨h.1.step visits.step, h.2.step visits.sound.elected server visits.step⟩

/-- In every run that gives no id twice, as long as the worker of a handle has not dropped its
queue, the counter of the handle is the number of operations in the queue, and one while the
worker holds an admission guard; it does not exceed its limit, is not zero when a guard is
dropped, and on a server that runs, a request that finds it below the limit finds room in
the queue. -/
theorem admitted_of_run (run : Run (Acts core) new ls s) (hnew : ∀ l ∈ ls, l.NewId)
    {entry : WorkerEntry} (present : s.registry.handles.lookup id = some entry) :
    entry.admitted ≤ entry.config.outstandingRequests ∧
      ∃ thread, s.threads.lookup entry.sender = some thread ∧
        (thread.stage.receives = true →
          entry.admitted = thread.operations.length + thread.stage.guarded.toNat) ∧
        (thread.stage.guarded = true → 0 < entry.admitted) ∧
        (s.registry.lifecycle = .running → entry.admitted < entry.config.outstandingRequests →
          s.trySend entry.sender ≠ .full) := by
  obtain ⟨thread, hx⟩ := (sound_new.run run hnew).staffed.hosts present
  obtain ⟨haccounted, hundisturbed⟩ := accounted_of_run run hnew hx
  refine ⟨haccounted.limited, thread, hx.thread, haccounted.admitted, fun hguarded => ?_,
    hx.not_full haccounted hundisturbed⟩
  have hreceives : thread.stage.receives = true := by
    cases hstage : thread.stage <;> rw [hstage] at hguarded <;> first | rfl | cases hguarded
  have := haccounted.admitted hreceives
  simp only [hguarded, Bool.toNat_true] at this
  omega

/-- The counter of a handle with one request in its queue. -/
theorem admitted_of_run_dispatched : ∃ ls s entry thread, Run (Acts localProfile) new ls s ∧
    s.registry.handles.lookup (handleName 1) = some entry ∧
    s.threads.lookup entry.sender = some thread ∧ thread.operations.length = 1 ∧
    entry.admitted = thread.operations.length + thread.stage.guarded.toNat := by
  have hadmits := admits_new (by decide : "local" ≠ "") localProfile_admissionConfig
  obtain ⟨ls, run, hcount, -⟩ := run_open hadmits
  obtain ⟨ls', t, run', hcount', -, hserving, -⟩ :=
    hadmits.atRest.admitCall localProfile (n := 0) (AList.notMem_empty _) .getSchema
  have hrun := run.append run'
  have hnew : ∀ l ∈ ls ++ ls', l.NewId := by
    refine newId_of_run hrun ?_
    unfold reservations at hcount hcount' ⊢
    rw [List.countP_append, hcount, hcount', u64Max_eq]
    omega
  obtain ⟨-, thread, hthread, hcounter, -⟩ := admitted_of_run hrun hnew hserving.present
  -- the queue of the thread that was found holds the request
  have hsame := hthread.symm.trans hserving.worker
  rw [Option.some.injEq] at hsame
  subst hsame
  exact ⟨_, t, _, _, hrun, hserving.present, hthread, rfl, hcounter rfl⟩

end Server

end PgMcp
