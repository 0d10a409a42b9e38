import PgMcp.Core.Serial

/-!
# The requests of a handle, one after the other

However the requests of a handle are interleaved, they are executed in the order of their
admission, each on what the one before has left, and answered with the snapshot that is
published then.  Up to a commit with an unknown outcome the snapshot a request is checked on
is the native one, so that what passes the first check passes that of the backend, too.
After a close that has succeeded the backend is not called again.

## Main definitions

* `Label.Agrees` — a request is checked on the native status.
* `Label.Closes`, `Label.CallsBackend` — the reply to a successful close; a call of the backend.
* `Linearized` — what is asked of the history of a handle.

## Main results

* `linearized_of_run` — the history of every handle, as long as no id is given twice.
* `reopened` — an id that is given twice is closed and open again.
-/

namespace PgMcp

open Program Backend

/-- The codes of the lifecycle checks the backend makes itself. -/
def innerCodes : List ErrorCode := [.txFailed, .noTxOpen, .activeTransaction]

/-- A commit with an unknown outcome is answered with its own code. -/
theorem Serves.code_of_lost {config : Config} {s t : Worker} {l : Served} (h : Serves config s l t)
    (hl : l.LostCommit) : Reply.code l.reply = some .commitOutcomeUnknown := by
  obtain ⟨rounds, handled⟩ := h.handled
  obtain ⟨hop, hunknown⟩ := hl
  cases handled with
  | refused error refusal conn calls present observation published flag =>
    obtain ⟨⟨request, hquery⟩, -⟩ := Worker.refusal_unknown refusal (flag.symm.trans hunknown)
    rw [hop] at hquery
    cases hquery
  | @ran b _ _ r free conn calls present observation returns published flag coded =>
    rw [coded]
    rw [flag] at hunknown
    rw [hop] at returns
    generalize t.backend = b' at returns
    rcases commit_post.returns returns with ⟨code, status, hcode⟩ | ⟨rs, _, _, _, _, _⟩
      | ⟨r, state, _, _, _, _⟩
    · rcases hcode with rfl | rfl <;> cases hunknown
    · cases hunknown
    · rfl

/-- A call of the backend of a worker. -/
def Action.callsBackend : Action → Bool
  | .execute .. | .settle .. | .clean .. => true
  | _ => false

namespace Server

/-- The backend of the handle is called in a step. -/
def Label.CallsBackend (id : String) (l : Label) : Prop :=
  l.action.callsBackend = true ∧ ∃ thread, l.worker id = some thread

/-- The reply to a close that has succeeded is sent in a step. -/
def Label.Closes (id : String) (l : Label) : Prop :=
  (∃ k, l.action = .reply k) ∧ ∃ thread call reply, l.worker id = some thread ∧
    thread.stage = .replying call true reply

/-- The request of a step is checked on the native status: what passes the check is not
refused by that of the backend. -/
def Label.Agrees (id : String) (operation : Operation) (l : Label) : Prop :=
  ∃ entry thread, l.before.registry.handles.lookup id = some entry ∧ l.worker id = some thread ∧
    entry.published.observation = thread.backend.observation ∧
    (operationPrecondition entry.published operation = none → ∀ rounds ctx b r b',
      b.observation = thread.backend.observation →
      (runOperation rounds thread.config ctx operation).Returns b r b' →
      ∀ failure, r = .error failure → failure.error.code ∉ innerCodes)

/-- What is asked of the history of a handle. -/
structure Linearized (id : String) (ls : List Label) : Prop where
  order : ls.filterMap (Label.executed id) <+: ls.filterMap (Label.admitted id)
  shown : ∀ l ∈ ls, ∀ reply, l.sent id = some reply →
    ∃ entry, l.before.registry.handles.lookup id = some entry ∧
      Reply.handleState reply = some entry.published.state
  agrees : ∀ pre l post, ls = pre ++ l :: post →
    (∀ reply ∈ pre.filterMap (Label.sent id), Reply.code reply ≠ some .commitOutcomeUnknown) →
    ∀ call operation, l.executed id = some (call, operation) → l.Agrees id operation
  closed : ∀ pre l post, ls = pre ++ l :: post → l.Closes id → ∀ l' ∈ post,
    ¬ l'.CallsBackend id ∧ ∃ entry, l'.after.registry.handles.lookup id = some entry ∧
      entry.published.closed = true

end Server

/-! ### What passes the first check -/

/-- A commit or a close that passes the lifecycle checks on the native status is not refused
by those of the backend. -/
theorem inner_of_precondition {config : Config} {p : PublishedHandle} {operation : Operation}
    {b b' : LibpqBackend} {rounds : ℕ} {ctx : RequestContext} {r : Except BackendFailure BackendResult}
    (hpre : operationPrecondition p operation = none) (agrees : p.observation = b.observation)
    (returns : (runOperation rounds config ctx operation).Returns b r b') {failure : BackendFailure}
    (failed : r = .error failure) : failure.error.code ∉ innerCodes := by
  subst failed
  have hinner : ∀ {code}, code ∉ lifecycleCodes → code ∉ innerCodes := by
    intro code hcode hmem
    refine hcode ?_
    simp only [innerCodes, List.mem_cons, List.not_mem_nil, or_false] at hmem
    rcases hmem with rfl | rfl | rfl <;> decide
  have hcode : endCode config (.error failure) = some failure.error.code := rfl
  refine hinner (runOperation_code returns hcode ?_ ?_)
  · rintro rfl
    rw [← agrees]
    unfold operationPrecondition at hpre
    split at hpre
    · cases hpre
    · cases hstatus : p.observation.transactionStatus <;> simp only [hstatus] at hpre <;>
        first | rfl | cases hpre
  · rintro rfl
    rw [← agrees]
    unfold operationPrecondition at hpre
    split at hpre
    · cases hpre
    · simpa using hpre

namespace Server

variable {core : Core} {s t : Server} {id : String} {x y : Station} {l : Label} {ls : List Label}

/-! ### The history of a handle -/

/-- The worker of a handle that takes a step is that of its station. -/
theorem Hosts.worker (hx : l.before.Hosts id x) {thread : Thread} (h : l.worker id = some thread) :
    thread = x.thread ∧ l.action.thread = some x.entry.sender := by
  unfold Label.worker at h
  rw [hx.entry, Option.bind_some] at h
  split_ifs at h with hself
  rw [hx.thread, Option.some.injEq] at h
  exact ⟨h.symm, hself⟩

/-- Where a worker takes a step its handle has a station. -/
theorem Label.hosts_of_worker {thread : Thread} (h : l.worker id = some thread) :
    ∃ x : Station, l.before.Hosts id x ∧ x.thread = thread := by
  unfold Label.worker at h
  obtain ⟨entry, present, h⟩ := Option.bind_eq_some_iff.mp h
  split_ifs at h
  exact ⟨⟨entry, thread⟩, ⟨present, h⟩, rfl⟩

theorem Label.worker_of_sent {reply : Reply} (h : l.sent id = some reply) :
    ∃ thread, l.worker id = some thread ∧ thread.stage.outgoing = some reply := by
  obtain ⟨a, s, t⟩ := l
  cases a with
  | reply k => exact Option.bind_eq_some_iff.mp h
  | _ => cases h

theorem Label.worker_of_executed {request : ℕ × Operation} (h : l.executed id = some request) :
    ∃ thread, l.worker id = some thread ∧ thread.stage.taken = some request := by
  obtain ⟨a, s, t⟩ := l
  cases a with
  | execute k env => exact Option.bind_eq_some_iff.mp h
  | _ => cases h

/-- A reply shows what is published when it is sent. -/
theorem shown_of_run (run : Run (Acts core) new ls l.before) (hnew : ∀ l ∈ ls, l.NewId)
    {reply : Reply} (sent : l.sent id = some reply) :
    ∃ entry, l.before.registry.handles.lookup id = some entry ∧
      Reply.handleState reply = some entry.published.state := by
  obtain ⟨thread, hworker, houtgoing⟩ := Label.worker_of_sent sent
  obtain ⟨x, hx, rfl⟩ := Label.hosts_of_worker hworker
  obtain ⟨w₀, w, served, h⟩ := serial_of_run run hnew hx
  have hsent := h.sent
  have hcontinues := h.continues
  rw [houtgoing] at hsent
  obtain ⟨call, closed, hstage⟩ : ∃ call closed, x.thread.stage = .replying call closed reply := by
    cases hstage : x.thread.stage <;> rw [hstage] at houtgoing <;> cases houtgoing
    exact ⟨_, _, rfl⟩
  unfold Station.Continues at hcontinues
  rw [hstage] at hcontinues
  refine ⟨x.entry, hx.entry, ?_⟩
  have hrun := h.run
  cases hrun with
  | nil => simp at hsent
  | snoc earlier last =>
    rw [List.map_append, List.map_singleton] at hsent
    obtain ⟨-, hlast⟩ := List.append_inj' hsent rfl
    cases hlast
    rw [(last.shown ((inRange_of_run run).handles id _ hx.entry)).1, ← hcontinues.1]
    rfl

/-- A request is checked on the native status as long as no commit was answered with an
unknown outcome. -/
theorem agrees_of_run (run : Run (Acts core) new ls l.before) (hnew : ∀ l ∈ ls, l.NewId)
    (known : ∀ reply ∈ ls.filterMap (Label.sent id), Reply.code reply ≠ some .commitOutcomeUnknown)
    {call : ℕ} {operation : Operation} (executed : l.executed id = some (call, operation)) :
    l.Agrees id operation := by
  obtain ⟨thread, hworker, htaken⟩ := Label.worker_of_executed executed
  obtain ⟨x, hx, rfl⟩ := Label.hosts_of_worker hworker
  obtain ⟨w₀, w, served, h⟩ := serial_of_run run hnew hx
  have hsent := h.sent
  have hcontinues := h.continues
  have hstage : x.thread.stage = .serving call operation := by
    cases hstage : x.thread.stage <;> rw [hstage] at htaken <;> cases htaken
    rfl
  unfold Station.Continues at hcontinues
  rw [hstage] at hcontinues hsent
  change _ ++ [] = _ at hsent
  rw [List.append_nil] at hsent
  have hagrees : x.entry.published.observation = x.thread.backend.observation := by
    have hlast : ∀ last ∈ served.getLast?, ¬ last.LostCommit := by
      intro last hmem hlost
      have hserved : last ∈ served := List.mem_of_getLast? hmem
      obtain ⟨-, -, s', t', -, -, step, -⟩ := h.run.mem_step hserved
      refine known last.reply ?_ (step.code_of_lost hlost)
      rw [hsent]
      exact List.mem_map_of_mem hserved
    have hobservation := observation_of_run h.fresh h.run hlast
    rw [← hcontinues.1] at hobservation
    exact hobservation
  exact ⟨x.entry, x.thread, hx.entry, hworker, hagrees, fun hpre rounds ctx b r b' same returns failure
    failed => inner_of_precondition hpre (hagrees.trans same.symm) returns failed⟩

/-- The requests of a handle are executed in the order of their admission. -/
theorem order_of_run (run : Run (Acts core) new ls s) (hnew : ∀ l ∈ ls, l.NewId) (id : String) :
    ls.filterMap (Label.executed id) <+: ls.filterMap (Label.admitted id) := by
  have hs := sound_new.run run hnew
  cases hlookup : s.registry.handles.lookup id with
  | some entry =>
    obtain ⟨thread, hx⟩ := hs.staffed.hosts hlookup
    obtain ⟨dropped, horder, -⟩ := inOrder_of_run run hnew hx
    exact ⟨_, horder.symm⟩
  | none =>
    have hnone : ls.filterMap (Label.executed id) = [] := by
      refine List.filterMap_eq_nil_iff.mpr fun l hl => l.executed_absent ?_
      obtain ⟨pre, post, t, t', rfl, run₁, ⟨rfl, rfl, step⟩, run₂⟩ := run.mem_step hl
      exact absent_of_run (.cons ⟨rfl, rfl, step⟩ run₂)
        (sound_new.run run₁ fun l' hl' => hnew l' (List.mem_append_left _ hl'))
        (fun l' hl' => hnew l' (List.mem_append_right _ hl')) hlookup
    rw [hnone]
    exact List.nil_prefix

/-- A worker that has answered a close that has succeeded, or has left. -/
def Over (x : Station) : Prop :=
  x.entry.published.closed = true ∧
    match x.thread.stage with
    | .releasing closed => closed = true
    | .leaving | .left | .finished _ => True
    | _ => False

/-- A worker whose close has succeeded only goes away. -/
theorem Over.step {a : Action} (h : Over x) (step : x.Step s a y) :
    Over y ∧ (a.callsBackend = true → a.thread ≠ some x.entry.sender) := by
  obtain ⟨hclosed, hstage⟩ := h
  have quiet : ∀ {P : Prop}, a.callsBackend = false → a.callsBackend = true → P := fun h h' => by
    rw [h] at h'
    cases h'
  cases step with
  | admits n c call stage handle running live =>
    rw [live] at hclosed
    cases hclosed
  | enqueue cleanup queue => exact ⟨⟨hclosed, hstage⟩, quiet rfl⟩
  | take request rest stage | execute call operation env rounds result w stage
  | record call operation result published stage | settle call operation result w stage
  | reply call closed reply stage | clean reply env rounds result backend stage
  | close entry reply stage | report entry reply stage =>
    rw [stage] at hstage
    exact hstage.elim
  | release closed stage =>
    rw [stage] at hstage
    obtain rfl : closed = true := hstage
    exact ⟨⟨hclosed, trivial⟩, quiet rfl⟩
  | leave stage | finish stage => exact ⟨⟨hclosed, trivial⟩, quiet rfl⟩
  | aside a y other key published admitted thread =>
    refine ⟨⟨published ▸ hclosed, ?_⟩, fun _ => other⟩
    rw [thread]
    exact hstage

/-- After the reply to a close that has succeeded the backend is not called again, and the
handle stays closed. -/
theorem closed_of_run {post : List Label} (run : Run (Acts core) l.after post s)
    (server : Step core l.before l.action l.after) (hs : l.before.Sound)
    (hnew : ∀ l' ∈ l :: post, l'.NewId) (closes : l.Closes id) : ∀ l' ∈ post,
    ¬ l'.CallsBackend id ∧ ∃ entry, l'.after.registry.handles.lookup id = some entry ∧
      entry.published.closed = true := by
  obtain ⟨⟨k, haction⟩, thread, call, reply, hworker, hstage⟩ := closes
  obtain ⟨x, hx, rfl⟩ := Label.hosts_of_worker hworker
  obtain ⟨-, hself⟩ := hx.worker hworker
  have hsound : l.after.Sound := hs.step ⟨rfl, rfl, server⟩ (hnew l (List.mem_cons_self ..))
  obtain ⟨y, hy, step⟩ := server.station hs.booked hs.staffed hx
  have hover : Over y := by
    obtain ⟨thread', hthread', hfits⟩ := hs.staffed.worker id x.entry hx.entry
    rw [hx.thread, Option.some.injEq] at hthread'
    subst hthread'
    unfold Thread.Fits at hfits
    rw [hstage] at hfits
    rw [haction] at step hself
    cases step with
    | reply call' closed reply' stage =>
      rw [hstage] at stage
      cases stage
      exact ⟨hfits, rfl⟩
    | aside _ _ other => exact absurd hself other
  have hpost : ∀ l' ∈ post, l'.NewId := fun l' hl' => hnew l' (List.mem_cons_of_mem _ hl')
  obtain ⟨z, hz, visits⟩ := hy.run run hsound hpost
  intro l' hl'
  obtain ⟨pre, post', x', y', rfl, visits₁, visit, -⟩ := visits.mem_step hl'
  have hover' : Over x' := visits₁.invariant (I := Over) (G := fun _ => True)
    (fun _ _ _ h _ visit => (h.step visit.step).1) (fun _ _ => trivial) hover
  obtain ⟨hafter, hquiet⟩ := hover'.step visit.step
  refine ⟨?_, y'.entry, visit.after.entry, hafter.1⟩
  rintro ⟨hcalls, thread, hthread⟩
  exact hquiet hcalls (visit.before.worker hthread).2

/-- In every run that gives no id twice the requests of every handle are executed in the order
of their admission, and answered with the snapshot that is published then; up to the first
commit with an unknown outcome they are checked on the native status; and after a close
that has succeeded the backend is not called, and the handle stays closed. -/
theorem linearized_of_run (run : Run (Acts core) new ls s) (hnew : ∀ l ∈ ls, l.NewId)
    (id : String) : Linearized id ls where
  order := order_of_run run hnew id
  shown l hl reply sent := by
    obtain ⟨pre, post, rfl, before, -⟩ := reached_of_mem run hl
    refine shown_of_run before (fun l' hl' => hnew l' ?_) sent
    simp [hl']
  agrees pre l post hls known call operation executed := by
    subst hls
    obtain ⟨t, before, rest⟩ := run.append_inv
    obtain ⟨t', ⟨rfl, rfl, server⟩, -⟩ := rest.cons_inv
    exact agrees_of_run before (fun l' hl' => hnew l' (List.mem_append_left _ hl')) known executed
  closed pre l post hls closes := by
    subst hls
    obtain ⟨t, before, rest⟩ := run.append_inv
    obtain ⟨t', ⟨rfl, rfl, server⟩, after⟩ := rest.cons_inv
    exact closed_of_run after server
      (sound_new.run before fun l' hl' => hnew l' (List.mem_append_left _ hl'))
      (fun l' hl' => hnew l' (List.mem_append_right _ hl')) closes

/-- The history of a handle that answers two requests and is closed. -/
theorem linearized_of_run_closed : ∃ ls ls' s t c c' entry, Run (Acts localProfile) new ls s ∧
    s.requests.lookup 0 = some c ∧ (∃ reply, c.stage = .answered reply) ∧
    s.requests.lookup 1 = some c' ∧ (∃ reply, c'.stage = .answered reply) ∧
    Run (Acts localProfile) s ls' t ∧ t.registry.handles.lookup (handleName 1) = some entry ∧
    entry.published.closed = true ∧ Linearized (handleName 1) (ls ++ ls') := by
  have hadmits := admits_new (by decide : "local" ≠ "") localProfile_admissionConfig
  obtain ⟨ls₀, run₀, hcount₀, -⟩ := run_open hadmits
  obtain ⟨ls₁, s₁, entry₁, answer₁, run₁, hcount₁, -, hrest₁, hunobserved, -, hrequests₁⟩ :=
    hadmits.atRest.answered localProfile (n := 0) (AList.notMem_empty _) rfl
  have hfresh₁ : 1 ∉ s₁.requests := by
    rw [hrequests₁, AList.mem_insert]
    rintro (h | h)
    · cases h
    · exact AList.notMem_empty _ h
  obtain ⟨ls₂, s₂, entry₂, answer₂, run₂, hcount₂, -, hrest₂, -, -, hrequests₂⟩ :=
    hrest₁.answered localProfile hfresh₁ hunobserved
  obtain ⟨n, hfresh₂⟩ := s₂.requests.exists_fresh
  obtain ⟨ls₃, t, entry₃, thread₃, run₃, hcount₃, hserving, hclosed⟩ :=
    run_close localProfile hrest₂ hfresh₂
  have hbefore := run₀.append (run₁.append run₂)
  have hrun := hbefore.append run₃
  have hnew : ∀ l ∈ ls₀ ++ (ls₁ ++ ls₂) ++ ls₃, l.NewId := by
    refine newId_of_run hrun ?_
    unfold reservations at hcount₀ hcount₁ hcount₂ hcount₃ ⊢
    rw [List.countP_append, List.countP_append, List.countP_append, hcount₀, hcount₁, hcount₂, hcount₃,
      u64Max_eq]
    omega
  have hfirst : s₂.requests.lookup 0 =
      some { handle := handleName 1, operation := .openRead, stage := .answered answer₁ } := by
    rw [hrequests₂, AList.lookup_insert_ne (by decide), hrequests₁]
    exact AList.lookup_insert _
  have hsecond : s₂.requests.lookup 1 =
      some { handle := handleName 1, operation := .openRead, stage := .answered answer₂ } := by
    rw [hrequests₂]
    exact AList.lookup_insert _
  exact ⟨_, _, s₂, t, _, _, entry₃, hbefore, hfirst, ⟨answer₁, rfl⟩, hsecond, ⟨answer₂, rfl⟩, run₃,
    hserving.present, hclosed, linearized_of_run hrun hnew _⟩

/-- When the ids have run out, a handle is opened, closed, and opened again under its id. -/
theorem reopened : ∃ ls s, Run (Acts localProfile) new ls s ∧
    ¬ Linearized (handleName u64Max) ls := by
  obtain ⟨ls₁, opens, run₁, hadmits, hopens⟩ := run_exhausted
    (by decide : "local" ≠ "") localProfile_admissionConfig
  obtain ⟨ls₂, run₂, -⟩ := run_open hadmits
  obtain ⟨ls₃, t, entry, thread, reply, run₃, -, hserving, -, hstage⟩ :=
    run_closing localProfile (n := 0) hadmits.atRest (AList.notMem_empty _)
  obtain ⟨u, replies, hserving'⟩ := hserving.reply localProfile hstage
  obtain ⟨hagain, hnext⟩ := hserving'.frames.admits (by decide) localProfile_admissionConfig
    (by decide) hopens hserving'.free hserving'.running
  obtain ⟨ls₄, run₄, hcount, -⟩ := run_open hagain
  refine ⟨_, _, (run₁.append (run₂.append run₃)).append (replies.cons run₄), fun h => ?_⟩
  have hworker : Label.worker (handleName u64Max)
      { action := .reply entry.sender, before := t, after := u } = some thread := by
    unfold Label.worker
    have hpresent : t.registry.handles.lookup (handleName u64Max) = some entry := hserving.present
    simp only [hpresent, Option.bind_some, Action.thread, if_true]
    exact hserving.worker
  rcases List.eq_nil_or_concat' ls₄ with rfl | ⟨pre, l, rfl⟩
  · cases hcount
  · obtain ⟨v, -, -, hafter, -⟩ := run₄.snoc_inv
    obtain ⟨-, entry', hentry', hclosed⟩ := h.closed _ _ _ rfl ⟨⟨_, rfl⟩, thread, _, reply, hworker, hstage⟩ l
      (List.mem_append_right _ (List.mem_singleton_self l))
    have hlive : l.after.registry.handles.lookup (handleName u64Max) =
        some (u.freshEntry u64Max "local" Config.default) := by
      rw [hafter, ← hnext]
      exact AList.lookup_insert _
    rw [hlive, Option.some.injEq] at hentry'
    rw [← hentry'] at hclosed
    cases hclosed

end Server

end PgMcp
