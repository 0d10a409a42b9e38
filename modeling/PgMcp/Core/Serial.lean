import PgMcp.Core.Accounting
import PgMcp.Worker.Guidance

/-!
# A station serves one request after the other

Between two of its requests a station is what `serve` has made of its worker: the snapshot in
the entry of the handle and the backend of the thread.  The steps in between belong to the
next request, or to the cleanup.

## Main definitions

* `Label.admitted`, `Label.executed`, `Label.sent` — the requests and the replies of a handle.
* `Station.Continues` — how far a station is with its next request.
* `Station.Serial` — a station and the requests it has served.

## Main results

* `Server.serial_of_run` — every station has served its requests one after the other.
-/

namespace PgMcp

open Program

/-- The request a worker has taken, and not executed yet. -/
def ThreadStage.taken : ThreadStage → Option (ℕ × Operation)
  | .serving call operation => some (call, operation)
  | _ => none

/-- The reply a worker is about to send. -/
def ThreadStage.outgoing : ThreadStage → Option Reply
  | .replying _ _ reply => some reply
  | _ => none

namespace Server

/-- The worker of the handle, if the step is one of it. -/
def Label.worker (id : String) (l : Label) : Option Thread :=
  (l.before.registry.handles.lookup id).bind fun entry =>
    if l.action.thread = some entry.sender then l.before.threads.lookup entry.sender else none

/-- The request a step admits to the handle. -/
def Label.admitted (id : String) (l : Label) : Option (ℕ × Operation) :=
  match l.action with
  | .admitCall n =>
    match l.after.requests.lookup n with
    | some { handle, operation, stage := .waiting } => if handle = id then some (n, operation) else none
    | _ => none
  | _ => none

/-- The request whose operation is executed for the handle in a step. -/
def Label.executed (id : String) (l : Label) : Option (ℕ × Operation) :=
  match l.action with
  | .execute _ _ => (l.worker id).bind fun thread => thread.stage.taken
  | _ => none

/-- The reply the worker of the handle sends in a step. -/
def Label.sent (id : String) (l : Label) : Option Reply :=
  match l.action with
  | .reply _ => (l.worker id).bind fun thread => thread.stage.outgoing
  | _ => none

end Server

/-! ### The worker of a station -/

/-- The worker of a station. -/
def Station.worker (x : Station) : Worker where
  published := x.entry.published
  backend := x.thread.backend

/-- The request the worker `w` has taken up has been executed, with this result. -/
def Worker.Executes (config : Config) (operation : Operation) (w : Worker) (result : Reply)
    (w' : Worker) : Prop :=
  w.published.closed = false ∧ ∃ env rounds,
    (executeOperation rounds config operation env.ctx).Returns (w.install env) result w'

/-- How far a station is with its next request, or with its end; `w` is what its requests have
made of its worker. -/
def Station.Continues (w : Worker) (x : Station) : Prop :=
  match x.thread.stage with
  | .idle | .serving _ _ | .cleaning _ => x.worker = w ∧ w.published.closed = false
  | .publishing _ operation result published =>
    x.entry.published = w.published ∧
      w.Executes x.entry.config operation result { published, backend := x.thread.backend }
  | .settling _ operation result => w.Executes x.entry.config operation result x.worker
  | .replying _ closed _ | .releasing closed => x.worker = w ∧ w.published.closed = closed
  | .closing _ _ => x.entry.published = w.published ∧ w.published.closed = false
  | .reporting _ _ | .leaving | .left | .finished _ =>
    x.entry.published.closed = true ∧ x.entry.published.observation.busy = false

/-- A request that was executed is served when its final observation is published. -/
theorem Worker.Executes.serves {config : Config} {operation : Operation} {w w' : Worker}
    {result : Reply} (h : w.Executes config operation result w') : ∃ env,
    Serves config w
      { operation := operation, env := env, before := w,
        reply := (w'.settled operation result).settledReply operation result,
        after := w'.settled operation result }
      (w'.settled operation result) := by
  obtain ⟨live, env, rounds, returns⟩ := h
  exact ⟨env, rfl, rfl, live, rounds, serve_returns returns⟩

/-- A request closes its handle exactly when it is a close that succeeds. -/
theorem Worker.Executes.closed {config : Config} {operation : Operation} {w w' : Worker}
    {result : Reply} (h : w.Executes config operation result w') :
    w'.published.closed = closeSucceeded operation result := by
  obtain ⟨live, env, rounds, returns⟩ := h
  exact ((executeOperation_post ..).returns returns).closed live

theorem Station.Continues.congr {w : Worker} {x y : Station} (h : x.Continues w)
    (stage : y.thread.stage = x.thread.stage) (published : y.entry.published = x.entry.published)
    (config : y.entry.config = x.entry.config) (backend : y.thread.backend = x.thread.backend) :
    y.Continues w := by
  unfold Continues worker at h ⊢
  rw [stage, published, config, backend]
  exact h

/-- A station that has served the requests `served` since its handle was registered with the
worker `w₀`, and has sent the replies `sent`. -/
structure Station.Serial (w₀ w : Worker) (served : List Served) (sent : List Reply) (x : Station) :
    Prop where
  fresh : w₀.Fresh
  config : x.thread.config = x.entry.config
  run : Run (Serves x.entry.config) w₀ served w
  continues : x.Continues w
  sent : sent ++ x.thread.stage.outgoing.toList = served.map Served.reply

theorem Station.Fresh.serial {x : Station} (h : x.Fresh) : x.Serial x.worker x.worker [] [] where
  fresh := h.worker
  config := h.config
  run := .nil _
  continues := by
    unfold Continues
    rw [h.idle]
    exact ⟨rfl, h.worker.live⟩
  sent := by
    rw [h.idle]
    rfl

section Serial

variable {w₀ w : Worker} {served : List Served} {sent : List Reply} {x y : Station}

/-- The station goes on with the same requests. -/
theorem Station.Serial.turn (h : x.Serial w₀ w served sent) (config : y.thread.config = y.entry.config)
    (same : y.entry.config = x.entry.config) (continues : y.Continues w)
    (outgoing : y.thread.stage.outgoing = x.thread.stage.outgoing) :
    y.Serial w₀ w served sent where
  fresh := h.fresh
  config := config
  run := same ▸ h.run
  continues := continues
  sent := outgoing ▸ h.sent

/-- What the worker was published with after its last request is consistent. -/
theorem Station.Serial.consistent (h : x.Serial w₀ w served sent) : w.published.Consistent := by
  cases h.run with
  | nil => exact .of_live h.fresh.live
  | snoc earlier last => exact last.consistent

end Serial

namespace Server

variable {core : Core} {s t : Server} {id : String} {x y : Station} {l : Label} {ls : List Label}
  {w₀ w : Worker} {served : List Served} {sent : List Reply}

/-- The steps of the thread of a station are those of the worker of its handle. -/
theorem Visits.worker_self (visit : Visits id x l y) (self : l.action.thread = some x.entry.sender) :
    l.worker id = some x.thread := by
  unfold Label.worker
  rw [visit.before.entry, Option.bind_some, if_pos self, visit.before.thread]

theorem Visits.worker_other (visit : Visits id x l y) (other : l.action.thread ≠ some x.entry.sender) :
    l.worker id = none := by
  unfold Label.worker
  rw [visit.before.entry, Option.bind_some, if_neg other]

/-- A station after a step: the worker has served one more request when it publishes its final
observation. -/
theorem Visits.serial (visit : Visits id x l y) (h : x.Serial w₀ w served sent) :
    ∃ w' served', y.Serial w₀ w' served' (sent ++ (l.sent id).toList) := by
  have hcontinues := h.continues
  have hsent := h.sent
  have step := visit.step
  obtain ⟨a, s, t⟩ := l
  change x.Step s a y at step
  -- a visit that sends nothing leaves the replies as they are
  have quiet : ∀ {w' served'}, y.Serial w₀ w' served' sent → Label.sent id ⟨a, s, t⟩ = none →
      ∃ w' served', y.Serial w₀ w' served' (sent ++ (Label.sent id ⟨a, s, t⟩).toList) := by
    intro w' served' hy hnone
    rw [hnone, Option.toList_none, List.append_nil]
    exact ⟨w', served', hy⟩
  cases step with
  | admits n c call stage handle running live room queue =>
    exact quiet (h.turn h.config rfl (hcontinues.congr rfl rfl rfl rfl) rfl) rfl
  | enqueue cleanup queue => exact quiet (h.turn h.config rfl (hcontinues.congr rfl rfl rfl rfl) rfl) rfl
  | take request rest stage queue =>
    refine quiet (h.turn h.config rfl ?_ ?_) rfl
    · unfold Station.Continues at hcontinues ⊢
      rw [stage] at hcontinues
      cases request <;> exact hcontinues
    · rw [stage]
      cases request <;> rfl
  -- the worker starts from the snapshot that is published, which is its own
  | execute call operation env rounds result w' stage runs =>
    refine quiet (h.turn h.config rfl ?_ (by rw [stage]; rfl)) rfl
    unfold Station.Continues at hcontinues ⊢
    rw [stage] at hcontinues
    obtain ⟨rfl, live⟩ := hcontinues
    exact ⟨rfl, live, env, rounds, h.config ▸ runs⟩
  | record call operation result published stage =>
    refine quiet (h.turn h.config rfl ?_ (by rw [stage]; rfl)) rfl
    unfold Station.Continues at hcontinues ⊢
    rw [stage] at hcontinues
    exact hcontinues.2
  -- here the request is done: one more has been served
  | settle call operation result w' stage settled =>
    have hexecutes : w.Executes x.entry.config operation result x.worker := by
      unfold Station.Continues at hcontinues
      rw [stage] at hcontinues
      exact hcontinues
    have hclosed := hexecutes.closed
    obtain ⟨env, serves⟩ := hexecutes.serves
    rw [stage] at hsent
    change sent ++ [] = _ at hsent
    rw [List.append_nil] at hsent
    subst settled
    refine quiet ⟨h.fresh, h.config, h.run.snoc serves, ⟨rfl, ?_⟩, ?_⟩ rfl
    · exact (settle_closed _ _ _ _).trans hclosed
    · rw [List.map_append, ← hsent]
      rfl
  -- the reply that goes out is the last one that was served
  | reply call closed reply stage =>
    have hlabel : Label.sent id ⟨.reply x.entry.sender, s, t⟩ = some reply := by
      show (Label.worker id _).bind _ = _
      rw [visit.worker_self rfl, Option.bind_some, stage]
      rfl
    refine ⟨w, served, h.fresh, h.config, h.run, ?_, ?_⟩
    · unfold Station.Continues at hcontinues ⊢
      rw [stage] at hcontinues
      exact hcontinues
    · rw [hlabel, ← hsent, stage]
      exact List.append_nil _
  | release closed stage =>
    unfold Station.Continues at hcontinues
    rw [stage] at hcontinues
    obtain ⟨rfl, hclosed⟩ := hcontinues
    refine quiet (h.turn h.config rfl ?_ ?_) rfl
    · cases closed with
      | false => exact ⟨rfl, hclosed⟩
      | true => exact ⟨hclosed, h.consistent hclosed⟩
    · rw [stage]
      cases closed <;> rfl
  -- a cleanup is no request; the snapshot is published when it is over
  | clean reply env rounds result backend stage runs =>
    refine quiet (h.turn h.config rfl ?_ (by rw [stage]; rfl)) rfl
    unfold Station.Continues at hcontinues ⊢
    rw [stage] at hcontinues
    exact ⟨congrArg Worker.published hcontinues.1, hcontinues.2⟩
  | close entry reply stage =>
    exact quiet (h.turn h.config rfl ⟨rfl, rfl⟩ (by rw [stage]; rfl)) rfl
  | report entry reply stage =>
    refine quiet (h.turn h.config rfl ?_ (by rw [stage]; rfl)) rfl
    unfold Station.Continues at hcontinues ⊢
    rw [stage] at hcontinues
    exact hcontinues
  | leave stage =>
    refine quiet (h.turn h.config rfl ?_ (by rw [stage]; rfl)) rfl
    unfold Station.Continues at hcontinues ⊢
    rw [stage] at hcontinues
    exact hcontinues
  | finish stage =>
    refine quiet (h.turn h.config rfl ?_ (by rw [stage]; rfl)) rfl
    unfold Station.Continues at hcontinues ⊢
    rw [stage] at hcontinues
    exact hcontinues
  | aside a y other key published admitted thread =>
    have hconfig := WorkerEntry.config_of_key key
    refine quiet (h.turn (by rw [thread, hconfig, h.config]) hconfig
      (hcontinues.congr (by rw [thread]) published hconfig (by rw [thread])) (by rw [thread])) ?_
    unfold Label.sent
    rw [visit.worker_other other]
    cases a <;> rfl

/-! ### The history of a handle -/

/-- A handle that is not registered was not registered before. -/
theorem absent_of_run (run : Run (Acts core) s ls t) (hs : s.Sound) (hnew : ∀ l ∈ ls, l.NewId)
    (absent : t.registry.handles.lookup id = none) : s.registry.handles.lookup id = none := by
  cases hlookup : s.registry.handles.lookup id with
  | none => rfl
  | some entry =>
    obtain ⟨thread, hx⟩ := hs.staffed.hosts hlookup
    obtain ⟨y, hy, -⟩ := hx.run run hs hnew
    rw [hy.entry] at absent
    cases absent

/-- What the admission of a request does: nothing is put into a queue, or the request into that
of its handle. -/
theorem Step.admission {n : ℕ} (h : Step core s (.admitCall n) t) :
    (t.threads = s.threads ∧ ∀ id, Label.admitted id ⟨.admitCall n, s, t⟩ = none) ∨
      ∃ (c : RequestCall) (entry : WorkerEntry), s.registry.handles.lookup c.handle = some entry ∧
        s.trySend entry.sender = .sent ∧
        t.threads = s.threads.modify entry.sender (Thread.push (.operation n c.operation)) ∧
        ∀ id, Label.admitted id ⟨.admitCall n, s, t⟩ =
          if c.handle = id then some (n, c.operation) else none := by
  cases h with
  | admitted _ c k r free call stage result =>
    obtain ⟨r', hr, hadmission⟩ := Admission.of_returns result
    cases hr
    cases hadmission with
    | sent entry running present live free queue =>
      refine .inr ⟨c, entry, present, queue, rfl, fun id => ?_⟩
      have hlookup : (s.requests.modify n fun c => { c with stage := .waiting }).lookup n =
          some { c with stage := .waiting } := by
        rw [Table.lookup_modify_self, call]
        rfl
      simp only [Label.admitted, setRequest, setThread, setRegistry, hlookup]
  | unadmitted _ c failure r free call stage result =>
    refine .inl ⟨rfl, fun id => ?_⟩
    have hlookup : (s.requests.modify n fun c =>
        { c with stage := .answered (.error failure) }).lookup n =
        some { c with stage := .answered (.error failure) } := by
      rw [Table.lookup_modify_self, call]
      rfl
    simp only [Label.admitted, setRequest, setRegistry, hlookup]
  | stuck _ c free call stage =>
    refine .inl ⟨rfl, fun id => ?_⟩
    obtain ⟨handle, operation, stage'⟩ := c
    cases (stage : stage' = .admitting)
    simp only [Label.admitted, call]

/-- Nothing is admitted to a handle that is not registered. -/
theorem Step.admitted_absent {a : Action} (h : Step core s a t)
    (absent : s.registry.handles.lookup id = none) : Label.admitted id ⟨a, s, t⟩ = none := by
  cases a with
  | admitCall n =>
    rcases h.admission with ⟨-, hnone⟩ | ⟨c, entry, present, -, -, hadmitted⟩
    · exact hnone id
    · rw [hadmitted, if_neg]
      rintro rfl
      rw [absent] at present
      cases present
  | _ => rfl

/-- An invariant of a station that may speak of the labels since its handle was registered. -/
theorem Hosts.history {I : List Label → Station → Prop} (run : Run (Acts core) new ls s)
    (hnew : ∀ l ∈ ls, l.NewId) (hx : s.Hosts id x) (hfresh : ∀ x₀ : Station, x₀.Fresh → I [] x₀)
    (hstep : ∀ ls x l y, I ls x → Step core l.before l.action l.after → Visits id x l y →
      I (ls ++ [l]) y) :
    ∃ pre post, ls = pre ++ post ∧
      (∀ l ∈ pre, Step core l.before l.action l.after ∧ l.before.registry.handles.lookup id = none) ∧
      I post x := by
  obtain ⟨pre, l, post, x₀, rfl, before, absent, -, fresh, visits⟩ := hx.origin run hnew
  have hacts : ∀ l' ∈ pre ++ l :: post, Step core l'.before l'.action l'.after := fun l' hl' =>
    (reached_of_mem run hl').choose_spec.choose_spec.2.2.1
  refine ⟨pre ++ [l], post, by simp, fun l' hl' => ⟨hacts l' ?_, ?_⟩, ?_⟩
  · rw [List.append_cons]
    exact List.mem_append_left _ hl'
  · rcases List.mem_append.mp hl' with hmem | hmem
    · obtain ⟨pre', post', t, t', rfl, run₁, ⟨rfl, rfl, step⟩, run₂⟩ := before.mem_step hmem
      have hpre : ∀ l'' ∈ pre' ++ l' :: post', l''.NewId := fun l'' hl'' =>
        hnew l'' (List.mem_append_left _ hl'')
      refine absent_of_run (.cons ⟨rfl, rfl, step⟩ run₂)
        (sound_new.run run₁ fun l'' hl'' => hpre l'' (List.mem_append_left _ hl''))
        (fun l'' hl'' => hpre l'' (List.mem_append_right _ hl'')) absent
    · rw [List.mem_singleton] at hmem
      exact hmem ▸ absent
  · refine visits.log_invariant (I := I) (G := fun l => Step core l.before l.action l.after) ?_ ?_
      (hfresh x₀ fresh)
    · exact fun ls x l y h server visit => hstep ls x l y h server visit
    · exact fun l' hl' => hacts l' (List.mem_append_right _ (List.mem_cons_of_mem _ hl'))

/-- The labels since a handle was registered tell the history of the handle. -/
theorem history_eq {α : Type} {f : Label → Option α} {pre post : List Label}
    (hpre : ∀ l ∈ pre, Step core l.before l.action l.after ∧
      l.before.registry.handles.lookup id = none)
    (quiet : ∀ l : Label, Step core l.before l.action l.after →
      l.before.registry.handles.lookup id = none → f l = none) :
    (pre ++ post).filterMap f = post.filterMap f := by
  have hnil : pre.filterMap f = [] :=
    List.filterMap_eq_nil_iff.mpr fun l hl => quiet l (hpre l hl).1 (hpre l hl).2
  rw [List.filterMap_append, hnil, List.nil_append]

theorem Label.worker_absent (l : Label) (absent : l.before.registry.handles.lookup id = none) :
    l.worker id = none := by
  unfold Label.worker
  rw [absent]
  rfl

theorem Label.sent_absent (l : Label) (absent : l.before.registry.handles.lookup id = none) :
    l.sent id = none := by
  unfold Label.sent
  rw [l.worker_absent absent]
  cases l.action <;> rfl

theorem Label.executed_absent (l : Label) (absent : l.before.registry.handles.lookup id = none) :
    l.executed id = none := by
  unfold Label.executed
  rw [l.worker_absent absent]
  cases l.action <;> rfl

/-- Every station has served its requests one after the other. -/
theorem serial_of_run (run : Run (Acts core) new ls s) (hnew : ∀ l ∈ ls, l.NewId)
    (hx : s.Hosts id x) :
    ∃ w₀ w served, x.Serial w₀ w served (ls.filterMap (Label.sent id)) := by
  obtain ⟨pre, post, rfl, hpre, w₀, w, served, h⟩ := hx.history
    (I := fun ls x => ∃ w₀ w served, x.Serial w₀ w served (ls.filterMap (Label.sent id))) run hnew
    (fun x₀ fresh => ⟨_, _, _, fresh.serial⟩) (by
      rintro ls x l y ⟨w₀, w, served, h⟩ - visit
      obtain ⟨w', served', h'⟩ := visit.serial h
      refine ⟨w₀, w', served', ?_⟩
      rw [List.filterMap_append]
      exact h')
  rw [history_eq hpre fun l _ => l.sent_absent]
  exact ⟨w₀, w, served, h⟩

/-! ### The order of the requests -/

/-- The requests of a station are executed in the order of their admission; those that are
still to be executed are in its queue, or were dropped with it. -/
def InOrder (admitted executed : List (ℕ × Operation)) (x : Station) : Prop :=
  ∃ dropped,
    admitted = executed ++ (x.thread.stage.taken.toList ++ (x.thread.operations ++ dropped)) ∧
    (x.thread.stage.receives = true → dropped = [])

variable {admitted executed : List (ℕ × Operation)}

/-- The worker goes on, and takes nothing. -/
theorem InOrder.turn (h : InOrder admitted executed x)
    (taken : y.thread.stage.taken = x.thread.stage.taken)
    (operations : y.thread.operations = x.thread.operations)
    (receives : y.thread.stage.receives = true → x.thread.stage.receives = true) :
    InOrder admitted executed y := by
  obtain ⟨dropped, horder, hdropped⟩ := h
  exact ⟨dropped, by rw [taken, operations, horder], fun hy => hdropped (receives hy)⟩

/-- A worker keeps its thread when nothing is put into its queue. -/
theorem Visits.thread_eq (visit : Visits id x l y) (same : l.after.threads.lookup x.entry.sender =
    l.before.threads.lookup x.entry.sender) : y.thread = x.thread := by
  have hy := visit.after.thread
  rw [WorkerEntry.sender_of_key visit.step.key, same, visit.before.thread, Option.some.injEq] at hy
  exact hy.symm

/-- Requests are admitted behind those that are queued. -/
theorem Visits.inOrder_admit {n : ℕ} (visit : Visits id x ⟨.admitCall n, s, t⟩ y)
    (server : Step core s (.admitCall n) t) (h : InOrder admitted executed x) :
    InOrder (admitted ++ (Label.admitted id ⟨.admitCall n, s, t⟩).toList) executed y := by
  have hx : s.Hosts id x := visit.before
  have hs : s.Sound := visit.sound
  rcases server.admission with ⟨threads, hnone⟩ | ⟨c, entry, present, queue, threads, hadmitted⟩
  · have hsame := visit.thread_eq (congrArg _ threads)
    rw [hnone, Option.toList_none, List.append_nil]
    exact h.turn (by rw [hsame]) (by rw [hsame]) (by rw [hsame]; exact fun h => h)
  · rw [hadmitted]
    by_cases hid : c.handle = id
    · rw [hid, hx.entry, Option.some.injEq] at present
      subst present
      have hy : y.thread = x.thread.push (.operation n c.operation) := by
        have hy := visit.after.thread
        rw [WorkerEntry.sender_of_key visit.step.key] at hy
        change t.threads.lookup _ = _ at hy
        rw [threads, Table.lookup_modify_self, hx.thread, Option.map_some, Option.some.injEq] at hy
        exact hy.symm
      have hreceives : x.thread.stage.receives = true := by
        rw [hx.trySend] at queue
        unfold Thread.trySend at queue
        split_ifs at queue with hclosed
        simpa using hclosed
      obtain ⟨dropped, horder, hdropped⟩ := h
      rw [hdropped hreceives, List.append_nil] at horder
      refine ⟨[], ?_, fun _ => rfl⟩
      rw [if_pos hid, hy, Thread.operations_push, horder]
      simp only [Option.toList_some, List.append_nil, List.append_assoc]
      rfl
    · rw [if_neg hid, Option.toList_none, List.append_nil]
      have hne : x.entry.sender ≠ entry.sender := fun hsame =>
        hid (hx.sender_inj hs.booked hs.staffed present hsame.symm)
      have hsame := visit.thread_eq (by
        show t.threads.lookup _ = _
        rw [threads, Table.lookup_modify_ne hne])
      exact h.turn (by rw [hsame]) (by rw [hsame]) (by rw [hsame]; exact fun h => h)

/-- The requests of a station stay in order. -/
theorem Visits.inOrder (visit : Visits id x l y) (server : Step core l.before l.action l.after)
    (h : InOrder admitted executed x) :
    InOrder (admitted ++ (l.admitted id).toList) (executed ++ (l.executed id).toList) y := by
  have step := visit.step
  obtain ⟨a, s, t⟩ := l
  -- only an admission adds to the first list, and only `execute` to the second
  by_cases hadmit : ∃ n, a = .admitCall n
  · obtain ⟨n, rfl⟩ := hadmit
    have hnone : Label.executed id ⟨.admitCall n, s, t⟩ = none := rfl
    rw [hnone, Option.toList_none, List.append_nil]
    exact visit.inOrder_admit server h
  have hnone : Label.admitted id ⟨a, s, t⟩ = none := by
    cases a with
    | admitCall n => exact absurd ⟨n, rfl⟩ hadmit
    | _ => rfl
  rw [hnone, Option.toList_none, List.append_nil]
  have quiet : Label.executed id ⟨a, s, t⟩ = none → InOrder admitted executed y →
      InOrder admitted (executed ++ (Label.executed id ⟨a, s, t⟩).toList) y := by
    intro hnone hy
    rwa [hnone, Option.toList_none, List.append_nil]
  change x.Step s a y at step
  cases step with
  | admits n => exact absurd ⟨n, rfl⟩ hadmit
  | enqueue cleanup queue =>
    exact quiet rfl (h.turn rfl (Thread.operations_shutdown _ _) fun h => h)
  | take request rest stage queue =>
    obtain ⟨dropped, horder, hdropped⟩ := h
    refine quiet rfl ⟨dropped, ?_, fun _ => hdropped (by rw [stage]; rfl)⟩
    rw [horder, stage]
    unfold Thread.operations
    rw [queue]
    cases request <;> rfl
  | execute call operation env rounds result w stage runs =>
    have hexecuted : Label.executed id ⟨.execute x.entry.sender env, s, t⟩ = some (call, operation) := by
      show (Label.worker id _).bind _ = _
      rw [visit.worker_self rfl, Option.bind_some, stage]
      rfl
    obtain ⟨dropped, horder, hdropped⟩ := h
    refine ⟨dropped, ?_, fun _ => hdropped (by rw [stage]; rfl)⟩
    rw [hexecuted, horder, stage, List.append_assoc]
    rfl
  | record call operation result published stage | settle call operation result w stage
  | reply call closed reply stage | clean reply env rounds result backend stage
  | close entry reply stage | report entry reply stage =>
    exact quiet rfl (h.turn (by rw [stage]; rfl) rfl fun _ => by rw [stage]; rfl)
  | release closed stage =>
    refine quiet rfl (h.turn ?_ rfl fun _ => by rw [stage]; rfl)
    rw [stage]
    cases closed <;> rfl
  -- what is still in the queue is dropped, and never executed
  | leave stage =>
    obtain ⟨dropped, horder, -⟩ := h
    refine quiet rfl ⟨x.thread.operations ++ dropped, ?_, nofun⟩
    rw [horder, stage]
    rfl
  | finish stage =>
    exact quiet rfl (h.turn (by rw [stage]; rfl) rfl nofun)
  | aside a y other key published admitted thread =>
    refine quiet ?_ (h.turn (by rw [thread]) (by rw [thread]) (by rw [thread]; exact fun h => h))
    unfold Label.executed
    rw [visit.worker_other other]
    cases a <;> rfl

/-- The requests of a handle are executed in the order of their admission. -/
theorem inOrder_of_run (run : Run (Acts core) new ls s) (hnew : ∀ l ∈ ls, l.NewId)
    (hx : s.Hosts id x) :
    InOrder (ls.filterMap (Label.admitted id)) (ls.filterMap (Label.executed id)) x := by
  obtain ⟨pre, post, rfl, hpre, h⟩ := hx.history
    (I := fun ls x => InOrder (ls.filterMap (Label.admitted id)) (ls.filterMap (Label.executed id)) x)
    run hnew (fun x₀ fresh => by
      refine ⟨[], ?_, fun _ => rfl⟩
      unfold Thread.operations
      rw [fresh.idle, fresh.queue]
      rfl) (fun ls x l y h server visit => by
      rw [List.filterMap_append, List.filterMap_append]
      exact visit.inOrder server h)
  rw [history_eq hpre fun l server absent => server.admitted_absent absent,
    history_eq hpre fun l _ => l.executed_absent]
  exact h

end Server

/-! ### The limits of the handles -/

/-- The limits an open has found. -/
def OpenStage.config : OpenStage → Option Config
  | .connecting config _ | .connected config _ _ | .spawning config _ _ | .publishing config _ =>
    some config
  | _ => none

theorem Core.resolve_inRange {core : Core} {profile dsn : String} {command : Except ConfigError String}
    {config : Config} (h : core.resolve profile command = .ok (config, dsn)) : config.InRange := by
  unfold Core.resolve at h
  cases hprofiles : core.profiles with
  | none =>
    rw [hprofiles] at h
    cases h
    exact core.inRange
  | some file =>
    rw [hprofiles] at h
    obtain ⟨config', hconfig, h⟩ := Checks.bind_eq_ok_iff.mp h
    obtain ⟨dsn', -, h⟩ := Checks.bind_eq_ok_iff.mp h
    cases h
    exact file.profileConfig_inRange hconfig

theorem OpenCall.Moves.config {core : Core} {now : ℕ} {c : OpenCall} {stage : OpenStage}
    (h : c.Moves core now stage) {config : Config} (hconfig : stage.config = some config) :
    config.InRange ∨ c.stage.config = some config := by
  cases h with
  | resolved command config' dsn before result =>
    cases hconfig
    exact .inl (Core.resolve_inRange result)
  | connected config' dsn database backend before | accepted config' database backend before =>
    cases hconfig
    exact .inr (by rw [before]; rfl)
  | _ => cases hconfig

namespace Server

variable {core : Core} {s t : Server} {ls : List Label}

/-- The limits of the opens and of the handles were accepted. -/
structure InRange (s : Server) : Prop where
  opens : ∀ k c config, s.opens.lookup k = some c → c.stage.config = some config → config.InRange
  handles : ∀ id entry, s.registry.handles.lookup id = some entry → entry.config.InRange

theorem inRange_new : new.InRange where
  opens k c config h := by simp [new] at h
  handles id entry h := by simp [new, Registry.new] at h

theorem InRange.setOpen (h : s.InRange) {k : ℕ} {c : OpenCall} {stage : OpenStage}
    (call : s.opens.lookup k = some c)
    (config : ∀ config, stage.config = some config → config.InRange) : (s.setOpen k stage).InRange where
  opens k' d config' hd hconfig := by
    rcases lookup_setOpen call hd with ⟨rfl, rfl⟩ | ⟨-, hold⟩
    · exact config config' hconfig
    · exact h.opens k' d config' hold hconfig
  handles := h.handles

/-- The limits after a step. -/
theorem InRange.step (h : s.InRange) {a : Action} (step : Step core s a t) : t.InRange := by
  cases ha : a.isOpen with
  | false =>
    have frames := step.frames ha
    constructor
    · intro k c config hc hconfig
      obtain ⟨d, hd, hcore⟩ := Table.exists_of_view frames.opens hc
      simp only [OpenCall.core, Prod.mk.injEq] at hcore
      exact h.opens k d config hd (hcore.2.2 ▸ hconfig)
    · intro id entry hentry
      obtain ⟨entry', hentry', hkey⟩ := Table.exists_of_view frames.handles hentry
      rw [← WorkerEntry.config_of_key hkey]
      exact h.handles id entry' hentry'
  | true =>
    cases step with
    -- an open that is still resolving has no configuration yet
    | reserved k profile reservation r free fresh result =>
      obtain ⟨config, -, -, -, -, rfl⟩ := Core.reserveOpen_ok result
      refine ⟨fun k' d config' hd hconfig => ?_, h.handles⟩
      change (s.opens.insert k _).lookup k' = some d at hd
      rw [Table.lookup_insert] at hd
      split at hd
      · cases hd
        cases hconfig
      · exact h.opens k' d config' hd hconfig
    | unreserved => exact h
    | «open» k c stage call moves =>
      refine h.setOpen call fun config hconfig => ?_
      exact (moves.config hconfig).elim id (h.opens k c config call)
    | spawn k c config database backend call stage =>
      have hset : (s.setOpen k (.publishing config (c.snapshot database backend))).InRange :=
        h.setOpen call fun config' hconfig => by
          cases hconfig
          exact h.opens k c config call (by rw [stage]; rfl)
      exact ⟨hset.opens, hset.handles⟩
    | published k c config published r free call stage result =>
      unfold Registry.publishOpen at result
      split_ifs at result
      cases result
      have hset : (s.setOpen k (.returned (openReply published))).InRange :=
        h.setOpen call (by simp [OpenStage.config])
      refine ⟨hset.opens, fun id entry hentry => ?_⟩
      change (s.registry.handles.insert c.reservation.id _).lookup id = some entry at hentry
      rw [Table.lookup_insert] at hentry
      split at hentry
      · cases hentry
        exact h.opens k c config call (by rw [stage]; rfl)
      · exact h.handles id entry hentry
    | unpublished k c config published free call stage result =>
      exact h.setOpen call (by simp [OpenStage.config])
    | dismiss k c call stage =>
      split
      · have hsent : (s.setThread k (Thread.push (.shutdown false))).InRange := ⟨h.opens, h.handles⟩
        exact hsent.setOpen call (by simp [OpenStage.config])
      · exact h.setOpen call (by simp [OpenStage.config])
    | finishOpen k c refusal backend free call stage =>
      have hreleased : (s.setRegistry (s.registry.finishOpen c.reservation.id)).InRange :=
        ⟨h.opens, h.handles⟩
      exact hreleased.setOpen call (by simp [OpenStage.config])
    | _ => cases ha

/-- The limits of every handle in every reachable state were accepted. -/
theorem inRange_of_run (run : Run (Acts core) new ls s) : s.InRange :=
  run.invariant (I := InRange) (G := fun _ => True) (fun _ _ _ hs _ hl => hs.step hl.2.2)
    (fun _ _ => trivial) inRange_new

end Server

end PgMcp
