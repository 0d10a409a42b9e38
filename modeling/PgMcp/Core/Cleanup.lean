import PgMcp.Core.Shutdown

/-!
# When a clean exit is reported as one

A worker that is told to shut down owes the owner of the cleanup an answer.  When it pays,
when the owner comes in time, and when it looks for the end of a worker only after the
worker has ended, a handle whose cleanup succeeds is reported as verified.

## Main definitions

* `Thread.Owes` — a shutdown with a waiting owner is in the queue or under way.
* `Server.Overran` — a thread has not ended by the deadline.
* `Label.Orderly` — the owner is in time, and no answer is lost.

## Main results

* `verified_of_cleanups` — in an orderly run, a handle whose cleanup succeeds in time is
  verified.
-/

namespace PgMcp

open Program

/-- An answer to the owner of the cleanup is under way. -/
def ThreadStage.owes : ThreadStage → Bool
  | .cleaning reply | .closing _ reply | .reporting _ reply => reply
  | _ => false

/-- The entry a thread has made for the report. -/
def ThreadStage.entry : ThreadStage → Option WorkerShutdownEntry
  | .closing entry _ | .reporting entry _ => some entry
  | _ => none

/-- A shutdown with a waiting owner is in the queue or under way. -/
structure Thread.Owes (t : Thread) : Prop where
  receives : t.stage.receives = true
  owed : .shutdown true ∈ t.queue ∨ t.stage.owes = true

theorem Thread.Owes.queue {t : Thread} (h : t.Owes) (quiet : t.stage.owes = false) :
    .shutdown true ∈ t.queue := by
  rcases h.owed with hqueue | howes
  · exact hqueue
  · rw [quiet] at howes
    cases howes

theorem Thread.Owes.push {t : Thread} (h : t.Owes) (request : Request) : (t.push request).Owes where
  receives := h.receives
  owed := h.owed.imp_left (List.mem_append_left _)

theorem ThreadStage.not_finished {stage : ThreadStage} (h : stage.receives = true) :
    stage.isFinished = false := by
  cases stage with
  | left | finished => cases h
  | _ => rfl

/-- The step has no part in the order of a cleanup. -/
def Action.aside : Action → Bool
  | .visit | .enqueue | .check | .leave _ | .join | .expire | .clean _ _ _ => false
  | a => !a.isOpen

namespace Server

variable {core : Core} {s t : Server}

/-! ### Threads that are late -/

/-- Thread `k` has not ended by the deadline. -/
structure Overran (s : Server) (k deadline : ℕ) : Prop where
  late : deadline ≤ s.now
  ended : ∀ thread time, s.threads.lookup k = some thread → thread.stage = .finished time →
    deadline ≤ time

/-- A thread that has not ended when it is late. -/
theorem Overran.of_unfinished {k deadline : ℕ} {thread : Thread}
    (hk : s.threads.lookup k = some thread) (unfinished : thread.stage.isFinished = false)
    (late : deadline ≤ s.now) : s.Overran k deadline where
  late := late
  ended thread' time hk' hstage := by
    rw [hk, Option.some.injEq] at hk'
    subst hk'
    rw [hstage] at unfinished
    cases unfinished

/-- A thread ends at the time of the step. -/
theorem Effect.ended_now (h : s.Effect t) {k time : ℕ} {thread' : Thread}
    (hk : t.threads.lookup k = some thread') (hstage : thread'.stage = .finished time) :
    (∃ thread, s.threads.lookup k = some thread ∧ thread.stage = .finished time) ∨ time = s.now := by
  cases h with
  | quiet threads | join _ _ threads =>
    rw [threads] at hk
    exact .inl ⟨thread', hk, hstage⟩
  | send k₀ request receiver threads =>
    rw [threads] at hk
    rcases Table.lookup_modify_some hk with ⟨rfl, thread, hthread, rfl⟩ | ⟨-, hthread⟩
    · exact .inl ⟨thread, hthread, hstage⟩
    · exact .inl ⟨thread', hthread, hstage⟩
  | work k₀ thread f g lookup unfinished busy handle ends fits threads =>
    rw [threads] at hk
    rcases Table.lookup_modify_some hk with ⟨rfl, thread₁, hthread, rfl⟩ | ⟨-, hthread⟩
    · rw [lookup, Option.some.injEq] at hthread
      subst hthread
      exact .inr (ends time hstage)
    · exact .inl ⟨thread', hthread, hstage⟩

theorem Step.ended_now {a : Action} (h : Step core s a t) {k time : ℕ} {thread' : Thread}
    (hk : t.threads.lookup k = some thread') (hstage : thread'.stage = .finished time) :
    (∃ thread, s.threads.lookup k = some thread ∧ thread.stage = .finished time) ∨ time = s.now := by
  cases ha : a.isOpen with
  | false => exact (h.effect ha).ended_now hk hstage
  | true =>
    cases h with
    | spawn k' c config database backend call stage =>
      change (s.threads.insert k' _).lookup k = some thread' at hk
      rw [Table.lookup_insert] at hk
      split at hk
      · cases hk
        cases hstage
      · exact .inl ⟨thread', hk, hstage⟩
    | dismiss k' c call stage =>
      split at hk
      · rcases Table.lookup_modify_some hk with ⟨rfl, thread, hthread, rfl⟩ | ⟨-, hthread⟩
        · exact .inl ⟨thread, hthread, hstage⟩
        · exact .inl ⟨thread', hthread, hstage⟩
      · exact .inl ⟨thread', hk, hstage⟩
    | reserved | unreserved | «open» | published | unpublished | finishOpen =>
      exact .inl ⟨thread', hk, hstage⟩
    | _ => cases ha

theorem Step.now_le {a : Action} (h : Step core s a t) : s.now ≤ t.now := by
  cases h with
  | tick time later => exact later
  | dismiss => 
    split <;> exact Nat.le_refl _
  | _ => exact Nat.le_refl _

/-- A thread that was late is late. -/
theorem Overran.step {k deadline : ℕ} (h : s.Overran k deadline) {a : Action}
    (step : Step core s a t) : t.Overran k deadline where
  late := h.late.trans step.now_le
  ended thread' time hk hstage := by
    rcases step.ended_now hk hstage with ⟨thread, hthread, hstage'⟩ | rfl
    · exact h.ended thread time hthread hstage'
    · exact h.late

/-! ### Answers to the owner -/

/-- The owner of the cleanup is in time, its requests are received and not dropped, it looks
for the end of a worker that has answered when the worker has ended, and it does not give up
a worker that has ended since it was looked for. -/
structure Label.Orderly (l : Label) : Prop where
  visit : l.action = .visit → ∀ c, l.before.cleanup = some c → c.handles ≠ [] →
    l.before.now < c.deadline
  enqueue : l.action = .enqueue → ∀ c id k, l.before.cleanup = some c →
    c.stage = .enqueuing id k → l.before.trySend k ≠ .closed
  check : l.action = .check → ∀ c, l.before.cleanup = some c → l.before.now < c.deadline
  leave : ∀ k thread, l.action = .leave k → l.before.threads.lookup k = some thread →
    .shutdown true ∉ thread.queue
  join : l.action = .join → ∀ c id e, l.before.cleanup = some c → c.stage = .answered id e →
    l.before.isFinished id = true
  expire : l.action = .expire → ∀ c id, l.before.cleanup = some c → c.stage = .unfinished id →
    c.deadline ≤ l.before.now → l.before.isFinished id = false

/-- The cleanup of thread `k` succeeds. -/
def Label.Cleans (k : ℕ) (l : Label) : Prop :=
  ∀ env result, l.action = .clean k env result → result = .verified

/-- What a step that is not one of an open does to the threads and the answers. -/
inductive Deal (k : ℕ) (s t : Server) : Prop where
  | quiet (threads : t.threads = s.threads) (answers : t.answers = s.answers)
  | send (k₀ : ℕ) (request : Request) (threads : t.threads = s.threads.modify k₀ (Thread.push request))
      (answers : t.answers = s.answers)
  | work (k₀ : ℕ) (thread : Thread) (f : Thread → Thread) (lookup : s.threads.lookup k₀ = some thread)
      (handle : (f thread).handle = thread.handle)
      (entry : ∀ e, (f thread).stage.entry = some e → thread.stage.entry = some e ∨
        e.handle = thread.handle ∧ (k₀ = k → e.outcome = .verified))
      (owes : thread.Owes → (f thread).Owes)
      (threads : t.threads = s.threads.modify k₀ f) (answers : t.answers = s.answers)
  /-- A thread answers. -/
  | pay (k₀ : ℕ) (thread : Thread) (f : Thread → Thread) (e : WorkerShutdownEntry)
      (lookup : s.threads.lookup k₀ = some thread) (handle : (f thread).handle = thread.handle)
      (entry : thread.stage.entry = some e) (done : (f thread).stage.entry = none)
      (threads : t.threads = s.threads.modify k₀ f)
      (answers : t.answers = s.answers.insert k₀ (some e))

/-- In an orderly step whose cleanup succeeds nothing owed is lost. -/
theorem Step.deal {k : ℕ} {l : Label} (h : Step core l.before l.action l.after) (orderly : l.Orderly)
    (cleans : l.Cleans k) (ha : l.action.isOpen = false) : Deal k l.before l.after := by
  obtain ⟨a, s, t⟩ := l
  change Step core s a t at h
  change a.isOpen = false at ha
  cases h with
  | reserved | unreserved | «open» | spawn | published | unpublished | dismiss | finishOpen =>
    cases ha
  | admitted n c k₀ r free call stage result => exact .send k₀ _ rfl rfl
  -- the shutdown is still in the queue, or it is what was taken
  | take k₀ thread request rest lookup stage queue =>
    refine .work k₀ thread _ lookup rfl ?_ (fun howes => ⟨?_, ?_⟩) rfl rfl
    · cases request <;> exact nofun
    · cases request <;> rfl
    · have hqueue := howes.queue (by rw [stage]; rfl)
      rw [queue, List.mem_cons] at hqueue
      rcases hqueue with rfl | hqueue
      · exact .inr rfl
      · exact .inl hqueue
  | execute k₀ thread call operation entry env rounds result w free lookup stage present runs =>
    exact .work k₀ thread _ lookup rfl (by nofun)
      (fun howes => ⟨rfl, .inl (howes.queue (by rw [stage]; rfl))⟩) rfl rfl
  | record k₀ thread call operation result published free lookup stage =>
    exact .work k₀ thread _ lookup rfl (by nofun)
      (fun howes => ⟨rfl, .inl (howes.queue (by rw [stage]; rfl))⟩) rfl rfl
  | settle k₀ thread call operation result entry w free lookup stage present settled =>
    exact .work k₀ thread _ lookup rfl (by nofun)
      (fun howes => ⟨rfl, .inl (howes.queue (by rw [stage]; rfl))⟩) rfl rfl
  | reply k₀ thread call closed reply lookup stage =>
    exact .work k₀ thread _ lookup rfl (by nofun)
      (fun howes => ⟨rfl, .inl (howes.queue (by rw [stage]; rfl))⟩) rfl rfl
  | release k₀ thread closed free lookup stage =>
    refine .work k₀ thread _ lookup rfl ?_ (fun howes => ⟨?_, .inl (howes.queue (by rw [stage]; rfl))⟩)
      rfl rfl
    · cases closed <;> exact nofun
    · cases closed <;> rfl
  -- the entry is written here, and nowhere else
  | clean k₀ thread reply env rounds result backend lookup stage runs =>
    refine .work k₀ thread _ lookup rfl ?_ (fun howes => ⟨rfl, ?_⟩) rfl rfl
    · intro e he
      cases he
      refine .inr ⟨?_, ?_⟩
      · cases result <;> rfl
      · rintro rfl
        rw [cleans env result rfl]
        rfl
    · have := howes.owed
      rw [stage] at this
      exact this
  | close k₀ thread entry reply free lookup stage =>
    refine .work k₀ thread _ lookup rfl ?_ (fun howes => ⟨rfl, ?_⟩) rfl rfl
    · intro e he
      rw [stage]
      exact .inl he
    · have := howes.owed
      rw [stage] at this
      exact this
  -- only a shutdown with a reply pays what the thread owes
  | report k₀ thread entry reply lookup stage =>
    cases reply with
    | true => exact .pay k₀ thread _ entry lookup rfl (by rw [stage]; rfl) rfl rfl rfl
    | false =>
      exact .work k₀ thread _ lookup rfl (by nofun)
        (fun howes => ⟨rfl, .inl (howes.queue (by rw [stage]; rfl))⟩) rfl rfl
  -- an orderly run drops no queue with a shutdown in it
  | leave k₀ thread lookup stage =>
    have hkept := orderly.leave k₀ thread rfl lookup
    refine .work k₀ thread _ lookup rfl (by nofun)
      (fun howes => absurd (howes.queue (by rw [stage]; rfl)) hkept) rfl ?_
    exact if_neg (by rw [List.contains_iff_mem]; exact hkept)
  | finish k₀ thread lookup stage =>
    refine .work k₀ thread _ lookup rfl (by nofun) (fun howes => ?_) rfl rfl
    have := howes.receives
    rw [stage] at this
    cases this
  | enqueue c id k₀ cleanup stage room => exact .send k₀ _ rfl rfl
  | unreceived c id k₀ cleanup stage gone => exact absurd gone (orderly.enqueue rfl c id k₀ cleanup stage)
  | _ => exact .quiet rfl rfl

/-- Every answer is that of its thread, and the one of thread `k` is verified; a worker the
owner has told to shut down has answered, or owes its answer. -/
structure Paying (k : ℕ) (s : Server) : Prop where
  kept : ∀ k', s.answers.lookup k' ≠ some none
  written : ∀ k' thread e, s.threads.lookup k' = some thread → thread.stage.entry = some e →
    e.handle = thread.handle ∧ (k' = k → e.outcome = .verified)
  answer : ∀ k' e, s.answers.lookup k' = some (some e) → ∃ thread,
    s.threads.lookup k' = some thread ∧ e.handle = thread.handle ∧ (k' = k → e.outcome = .verified)
  asked : ∀ c id k', s.cleanup = some c → (c.stage = .enqueued id k' ∨ c.stage = .awaiting id k') →
    s.answers.lookup k' = none → ∃ thread, s.threads.lookup k' = some thread ∧ thread.Owes

theorem paying_new (k : ℕ) : new.Paying k where
  kept k' := by simp [new]
  written k' thread e h := by simp [new] at h
  answer k' e h := by simp [new] at h
  asked c id k' h := by cases h

/-- What is written and answered after a step. -/
theorem Deal.paying {k : ℕ} (hp : s.Paying k) (h : Deal k s t) :
    (∀ k', t.answers.lookup k' ≠ some none) ∧
    (∀ k' thread e, t.threads.lookup k' = some thread → thread.stage.entry = some e →
      e.handle = thread.handle ∧ (k' = k → e.outcome = .verified)) ∧
    (∀ k' e, t.answers.lookup k' = some (some e) → ∃ thread, t.threads.lookup k' = some thread ∧
      e.handle = thread.handle ∧ (k' = k → e.outcome = .verified)) ∧
    ∀ k', t.answers.lookup k' = none → s.answers.lookup k' = none ∧
      ∀ thread, s.threads.lookup k' = some thread → thread.Owes →
        ∃ thread', t.threads.lookup k' = some thread' ∧ thread'.Owes := by
  cases h with
  | quiet threads answers =>
    rw [threads, answers]
    exact ⟨hp.kept, hp.written, hp.answer, fun k' hnone => ⟨hnone, fun thread hk howes =>
      ⟨thread, hk, howes⟩⟩⟩
  | send k₀ request threads answers =>
    rw [threads, answers]
    refine ⟨hp.kept, fun k' thread e hk he => ?_, fun k' e he => ?_,
      fun k' hnone => ⟨hnone, fun thread hk howes => ?_⟩⟩
    · rcases Table.lookup_modify_some hk with ⟨rfl, thread₀, hthread, rfl⟩ | ⟨-, hthread⟩
      · exact hp.written _ thread₀ e hthread he
      · exact hp.written k' thread e hthread he
    · obtain ⟨thread, hthread, hrest⟩ := hp.answer k' e he
      rw [Table.lookup_modify]
      split
      · next heq =>
        rw [← heq, hthread]
        exact ⟨_, rfl, hrest⟩
      · exact ⟨thread, hthread, hrest⟩
    · rw [Table.lookup_modify]
      split
      · next heq =>
        rw [← heq, hk]
        exact ⟨_, rfl, howes.push request⟩
      · exact ⟨thread, hk, howes⟩
  | work k₀ thread f lookup handle entry owes threads answers =>
    rw [threads, answers]
    refine ⟨hp.kept, fun k' thread' e hk he => ?_, fun k' e he => ?_,
      fun k' hnone => ⟨hnone, fun thread' hk howes => ?_⟩⟩
    · rcases Table.lookup_modify_some hk with ⟨rfl, thread₀, hthread, rfl⟩ | ⟨-, hthread⟩
      · rw [lookup, Option.some.injEq] at hthread
        subst hthread
        rw [handle]
        exact (entry e he).elim (hp.written _ thread e lookup) fun h => h
      · exact hp.written k' thread' e hthread he
    · obtain ⟨thread', hthread, hrest⟩ := hp.answer k' e he
      rw [Table.lookup_modify]
      split
      · next heq =>
        subst heq
        rw [lookup, Option.some.injEq] at hthread
        subst hthread
        rw [lookup]
        exact ⟨_, rfl, by rw [handle]; exact hrest⟩
      · exact ⟨thread', hthread, hrest⟩
    · rw [Table.lookup_modify]
      split
      · next heq =>
        subst heq
        rw [lookup, Option.some.injEq] at hk
        subst hk
        rw [lookup]
        exact ⟨_, rfl, owes howes⟩
      · exact ⟨thread', hk, howes⟩
  -- the entry becomes the answer, and the thread owes nothing more
  | pay k₀ thread f e₀ lookup handle entry done threads answers =>
    rw [threads, answers]
    refine ⟨fun k' => ?_, fun k' thread' e hk he => ?_, fun k' e he => ?_, fun k' hnone => ?_⟩
    · rw [Table.lookup_insert]
      split
      · exact nofun
      · exact hp.kept k'
    · rcases Table.lookup_modify_some hk with ⟨rfl, thread₀, hthread, rfl⟩ | ⟨-, hthread⟩
      · rw [lookup, Option.some.injEq] at hthread
        subst hthread
        rw [done] at he
        cases he
      · exact hp.written k' thread' e hthread he
    · rw [Table.lookup_insert] at he
      rw [Table.lookup_modify]
      split at he
      · next heq =>
        cases he
        subst heq
        rw [if_pos rfl, lookup]
        exact ⟨_, rfl, by rw [handle]; exact hp.written _ thread e₀ lookup entry⟩
      · next hne =>
        rw [if_neg hne]
        exact hp.answer k' e he
    · rw [Table.lookup_insert] at hnone
      split at hnone
      · cases hnone
      · next hne =>
        rw [Table.lookup_modify_ne hne]
        exact ⟨hnone, fun thread' hk howes => ⟨thread', hk, howes⟩⟩

/-- A shutdown the owner has sent was sent before, or is sent now. -/
theorem Step.sent {a : Action} (h : Step core s a t) {c : Cleanup} {id : String} {k : ℕ}
    (hc : t.cleanup = some c) (stage : c.stage = .enqueued id k ∨ c.stage = .awaiting id k) :
    (∃ d, s.cleanup = some d ∧ (d.stage = .enqueued id k ∨ d.stage = .awaiting id k)) ∨
      (s.trySend k = .sent ∧ t.threads = s.threads.modify k (Thread.push (.shutdown true))) ∨
      a = .enqueue ∧ ∃ d, s.cleanup = some d ∧ d.stage = .enqueuing id k ∧ s.trySend k = .closed := by
  cases h with
  | shutdown | signal | late | visit | visited | missing | closed | live | joined | unjoined
  | rejoin | abandoned | unsent | overdue | answered | dropped | unanswered | join | unready
  | pending | repoll | expired | freeze =>
    cases hc
    rcases stage with h | h <;> cases h
  | enqueue d id' k' cleanup before room =>
    cases hc
    rcases stage with h | h <;> cases h
    exact .inr (.inl ⟨room, rfl⟩)
  | unreceived d id' k' cleanup before gone =>
    cases hc
    rcases stage with h | h <;> cases h
    exact .inr (.inr ⟨rfl, d, cleanup, before, gone⟩)
  | check d id' k' cleanup before =>
    cases hc
    rcases stage with h | h <;> cases h
    exact .inl ⟨d, cleanup, .inl before⟩
  | released d id' rest free cleanup before =>
    cases hc
    rw [before] at stage
    rcases stage with h | h <;> cases h
  | dismiss =>
    refine .inl ⟨c, ?_, stage⟩
    rw [← hc]
    simp only [setOpen]
    split <;> rfl
  | _ => exact .inl ⟨c, hc, stage⟩

/-- A queue that is not closed is that of a thread that still receives. -/
theorem receives_of_trySend {k : ℕ} (h : s.trySend k ≠ .closed) :
    ∃ thread, s.threads.lookup k = some thread ∧ thread.stage.receives = true := by
  unfold trySend at h
  cases hk : s.threads.lookup k with
  | none =>
    rw [hk] at h
    exact absurd rfl h
  | some thread =>
    rw [hk] at h
    refine ⟨thread, rfl, ?_⟩
    by_contra hreceives
    simp [Thread.trySend, hreceives] at h

/-- What is answered and owed after an orderly step. -/
theorem Paying.step {k : ℕ} (hp : s.Paying k) (hb : s.Booked) (hw : s.Staffed) {l : Label}
    (hl : Acts core s l t) (orderly : l.Orderly) (cleans : l.Cleans k) : t.Paying k := by
  obtain ⟨rfl, rfl, h⟩ := hl
  cases ha : l.action.isOpen with
  | false =>
    obtain ⟨kept, written, answer, owed⟩ := (h.deal orderly cleans ha).paying hp
    refine ⟨kept, written, answer, fun c id k' hc hstage hnone => ?_⟩
    obtain ⟨hnone', howed⟩ := owed k' hnone
    -- the shutdown was sent before, or now; or the queue was gone
    rcases h.sent hc hstage with ⟨d, hd, hstage'⟩ | ⟨hsent, threads⟩ | ⟨haction, d, hd, hstage', hgone⟩
    · obtain ⟨thread, hk, howes⟩ := hp.asked d id k' hd hstage' hnone'
      exact howed thread hk howes
    · obtain ⟨thread, hk, hreceives⟩ := receives_of_trySend (by rw [hsent]; nofun)
      rw [threads, Table.lookup_modify_self, hk]
      exact ⟨_, rfl, hreceives, .inl (List.mem_append_right _ (List.mem_singleton_self _))⟩
    · exact absurd hgone (orderly.enqueue haction d id k' hd hstage')
  | true =>
    obtain ⟨a, s, t⟩ := l
    simp only at *
    cases h with
    | reserved | unreserved | «open» | published | unpublished | finishOpen =>
      exact ⟨hp.kept, hp.written, hp.answer, hp.asked⟩
    | spawn k₀ c config database backend call stage =>
      have hfresh : ∀ {thread}, s.threads.lookup k₀ ≠ some thread := by
        intro thread hk
        obtain ⟨d, hd, -, hstarted⟩ := hw.starter k₀ thread hk
        rw [call, Option.some.injEq] at hd
        subst hd
        rw [stage] at hstarted
        cases hstarted
      have hkept : ∀ {k' thread}, s.threads.lookup k' = some thread →
          ∀ started, (s.threads.insert k₀ started).lookup k' = some thread := by
        intro k' thread hk started
        refine (AList.lookup_insert_ne ?_).trans hk
        rintro rfl
        exact hfresh hk
      refine ⟨hp.kept, fun k' thread e hk he => ?_, fun k' e he => ?_, fun d id k' hd hstage hnone => ?_⟩
      · change (s.threads.insert k₀ _).lookup k' = some thread at hk
        rw [Table.lookup_insert] at hk
        split at hk
        · cases hk
          cases he
        · exact hp.written k' thread e hk he
      · obtain ⟨thread, hk, hrest⟩ := hp.answer k' e he
        exact ⟨thread, hkept hk _, hrest⟩
      · obtain ⟨thread, hk, howes⟩ := hp.asked d id k' hd hstage hnone
        exact ⟨thread, hkept hk _, howes⟩
    | dismiss k₀ c call stage =>
      split
      · obtain ⟨kept, written, answer, owed⟩ := (Deal.send (k := k) (s := s)
          (t := s.setThread k₀ (Thread.push (.shutdown false))) k₀ _ rfl rfl).paying hp
        refine ⟨kept, written, answer, fun d id k' hd hstage hnone => ?_⟩
        obtain ⟨thread, hk, howes⟩ := hp.asked d id k' hd hstage hnone
        exact (owed k' hnone).2 thread hk howes
      · exact ⟨hp.kept, hp.written, hp.answer, hp.asked⟩
    | _ => cases ha

/-! ### The report -/

/-- The handle `id` with thread `k` is in the report, or still to be visited; and its entry is
verified, or its thread is late. -/
structure Recorded (id : String) (k : ℕ) (s : Server) : Prop where
  visited : ∀ c, s.cleanup = some c → c.stage.last = true → c.handles = []
  read : ∀ c id' e, s.cleanup = some c → c.stage = .answered id' e →
    e.handle = id' ∧ (id' = id → e.outcome = .verified)
  pending : ∀ c rest, s.cleanup = some c → c.stage = .stillPending → c.pending = id :: rest →
    id ∉ s.registry.handles
  sound : ∀ c, s.cleanup = some c → id ∈ s.registry.handles → ∀ e ∈ c.workers, e.handle = id →
    e.outcome = .verified ∨ s.Overran k c.deadline
  found : ∀ c, s.cleanup = some c → id ∈ s.registry.handles →
    id ∈ c.handles ∨ c.stage.subject = some id ∨ ∃ e ∈ c.workers, e.handle = id

theorem recorded_new (id : String) (k : ℕ) : new.Recorded id k where
  visited c h := by cases h
  read c id' e h := by cases h
  pending c rest h := by cases h
  sound c h := by cases h
  found c h := by cases h

/-- The cleanup goes on. -/
theorem Recorded.next {id : String} {k : ℕ} (hr : s.Recorded id k)
    (es : List WorkerShutdownEntry) {c c' : Cleanup}
    (before : s.cleanup = some c) (after : t.cleanup = some c')
    (same : id ∈ t.registry.handles → id ∈ s.registry.handles)
    (late : ∀ deadline, s.Overran k deadline → t.Overran k deadline)
    (deadline : c'.deadline = c.deadline) (visited : c'.stage.last = true → c'.handles = [])
    (read : ∀ id' e, c'.stage = .answered id' e →
      e.handle = id' ∧ (id' = id → e.outcome = .verified))
    (pending : ∀ rest, c'.stage = .stillPending → c'.pending = id :: rest →
      id ∉ s.registry.handles)
    (workers : c'.workers = c.workers ++ es)
    (sound : id ∈ s.registry.handles → ∀ e ∈ es, e.handle = id →
      e.outcome = .verified ∨ s.Overran k c.deadline)
    (found : id ∈ c.handles ∨ c.stage.subject = some id →
      id ∈ c'.handles ∨ c'.stage.subject = some id ∨ ∃ e ∈ es, e.handle = id) :
    t.Recorded id k where
  visited d hd := by
    rw [after, Option.some.injEq] at hd
    subst hd
    exact visited
  read d id' e hd hstage := by
    rw [after, Option.some.injEq] at hd
    subst hd
    exact read id' e hstage
  pending d rest hd hstage hpending := by
    rw [after, Option.some.injEq] at hd
    subst hd
    exact fun hmem => pending rest hstage hpending (same hmem)
  sound d hd hmem e he hid := by
    rw [after, Option.some.injEq] at hd
    subst hd
    rw [workers, List.mem_append] at he
    rw [deadline]
    rcases he with he | he
    · exact (hr.sound c before (same hmem) e he hid).imp_right (late _)
    · exact (sound (same hmem) e he hid).imp_right (late _)
  found d hd hmem := by
    rw [after, Option.some.injEq] at hd
    subst hd
    rw [workers]
    have hnew : (∃ e ∈ es, e.handle = id) → ∃ e ∈ c.workers ++ es, e.handle = id :=
      fun ⟨e, he, hid⟩ => ⟨e, List.mem_append_right _ he, hid⟩
    -- the handle is still to be visited, or in hand, or has its entry
    rcases hr.found c before (same hmem) with hin | hsubject | ⟨e, he, hid⟩
    · exact (found (.inl hin)).imp_right (Or.imp_right hnew)
    · exact (found (.inr hsubject)).imp_right (Or.imp_right hnew)
    · exact .inr (.inr ⟨e, List.mem_append_left _ he, hid⟩)

/-- The cleanup is as it was. -/
theorem Recorded.same {id : String} {k : ℕ} (hr : s.Recorded id k) (cleanup : t.cleanup = s.cleanup)
    (same : s.cleanup ≠ none → id ∈ t.registry.handles → id ∈ s.registry.handles)
    (late : ∀ deadline, s.Overran k deadline → t.Overran k deadline) : t.Recorded id k where
  visited c hc := hr.visited c (cleanup ▸ hc)
  read c id' e hc := hr.read c id' e (cleanup ▸ hc)
  pending c rest hc hstage hpending := by
    rw [cleanup] at hc
    exact fun hmem => hr.pending c rest hc hstage hpending (same (by rw [hc]; nofun) hmem)
  sound c hc hmem e he hid := by
    rw [cleanup] at hc
    exact (hr.sound c hc (same (by rw [hc]; nofun) hmem) e he hid).imp_right (late _)
  found c hc hmem := by
    rw [cleanup] at hc
    exact hr.found c hc (same (by rw [hc]; nofun) hmem)

/-- The report after an orderly step. -/
theorem Recorded.step {id : String} {k : ℕ} (hr : s.Recorded id k) (hp : s.Paying k) (hb : s.Booked)
    (hw : s.Staffed) (hs : s.Tracked) {l : Label} (hl : Acts core s l t) (orderly : l.Orderly)
    (sender : ∀ entry, s.registry.handles.lookup id = some entry → entry.sender = k) :
    t.Recorded id k := by
  obtain ⟨a, s, t⟩ := l
  obtain ⟨rfl, rfl, h⟩ := hl
  change Step core s a t at h
  have late : ∀ deadline, s.Overran k deadline → t.Overran k deadline := fun _ ho => ho.step h
  -- the thread of the handle the cleanup has turned to
  have htarget : ∀ {c k'}, s.cleanup = some c → c.stage.target = some (id, k') → k' = k := by
    intro c k' hc htarget
    obtain ⟨entry, present, rfl⟩ := hw.target c id k' hc htarget
    exact sender entry present
  cases ha : a.isOpen with
  | false =>
    have frames := h.frames ha
    have same : id ∈ t.registry.handles → id ∈ s.registry.handles :=
      (Table.mem_of_view frames.handles).mp
    have hrecord : ∀ {c c' : Cleanup} {e : WorkerShutdownEntry}, s.cleanup = some c →
        c.stage.subject = some e.handle → t.cleanup = some c' → c' = c.record e →
        c'.deadline = c.deadline → (id ∈ s.registry.handles → e.handle = id →
          e.outcome = .verified ∨ s.Overran k c.deadline) → t.Recorded id k := by
      rintro c c' e before subject after rfl deadline sound
      refine hr.next [e] before after same late deadline nofun nofun nofun rfl ?_ ?_
      · intro hmem e' he' hid
        rw [List.mem_singleton] at he'
        subst he'
        exact sound hmem hid
      · rintro (hin | hsubject)
        · exact .inl hin
        · rw [subject, Option.some.injEq] at hsubject
          exact .inr (.inr ⟨e, List.mem_singleton_self e, hsubject⟩)
    cases h with
    | reserved | unreserved | «open» | spawn | published | unpublished | dismiss | finishOpen =>
      cases ha
    | shutdown n free fresh unfrozen running =>
      constructor
      · intro c hc
        cases hc
        exact nofun
      · intro c id' e hc
        cases hc
        exact nofun
      · intro c rest hc
        cases hc
        exact nofun
      · intro c hc _ e he
        cases hc
        cases he
      · intro c hc hmem
        cases hc
        exact .inl (Table.mem_sortedKeys.mpr hmem)
    | signal c cleanup stage =>
      exact hr.next [] cleanup rfl same late rfl nofun nofun nofun (List.append_nil _).symm nofun
        fun h => h.imp_right fun h => by rw [stage] at h; cases h
    | visited c cleanup stage done =>
      exact hr.next [] cleanup rfl same late rfl (fun _ => done) nofun nofun
        (List.append_nil _).symm nofun fun h => h.imp_right fun h => by rw [stage] at h; cases h
    | late c id₀ rest cleanup stage next past =>
      have := orderly.visit rfl c cleanup (by rw [next]; nofun)
      exact absurd past (Nat.not_le_of_lt this)
    | visit c id₀ rest cleanup stage next early =>
      refine hr.next [] cleanup rfl same late rfl nofun nofun nofun (List.append_nil _).symm nofun ?_
      rintro (hin | hsubject)
      · rw [next, List.mem_cons] at hin
        rcases hin with rfl | hin
        · exact .inr (.inl rfl)
        · exact .inl hin
      · rw [stage] at hsubject
        cases hsubject
    | missing c id₀ free cleanup stage absent =>
      refine hrecord cleanup (by rw [stage]; rfl) rfl rfl rfl (fun hmem hid => ?_)
      change id₀ = id at hid
      subst hid
      exact absurd hmem (AList.lookup_eq_none.mp absent)
    | closed c id₀ entry free cleanup stage | live c id₀ entry free cleanup stage
    | unjoined c id₀ free cleanup stage | rejoin c id₀ cleanup stage
    | enqueue c id₀ k₀ cleanup stage | unreceived c id₀ k₀ cleanup stage
    | check c id₀ k₀ cleanup stage =>
      exact hr.next [] cleanup rfl same late rfl nofun nofun nofun (List.append_nil _).symm nofun
        fun h => h.imp_right fun h => .inl (by rw [stage] at h; exact h)
    | joined c id₀ free cleanup stage finished =>
      exact hrecord cleanup (by rw [stage]; rfl) rfl rfl rfl fun _ _ => .inl rfl
    | abandoned c id₀ cleanup stage past =>
      refine hrecord cleanup (by rw [stage]; rfl) rfl rfl rfl (fun hmem hid => .inr ?_)
      change id₀ = id at hid
      subst hid
      have running := orderly.expire rfl c id₀ cleanup stage past
      rw [← AList.lookup_isSome, Option.isSome_iff_exists] at hmem
      obtain ⟨entry, present⟩ := hmem
      obtain ⟨thread, hthread, hrunning⟩ := hw.unfinished present running
      rw [sender entry present] at hthread
      exact .of_unfinished hthread hrunning past
    | unsent c id₀ k₀ cleanup stage full past =>
      refine hrecord cleanup (by rw [stage]; rfl) rfl rfl rfl (fun hmem hid => .inr ?_)
      change id₀ = id at hid
      subst hid
      obtain ⟨thread, hthread, hreceives⟩ := receives_of_trySend (by rw [full]; nofun)
      have hk : k₀ = k := htarget cleanup (by rw [stage]; rfl)
      rw [hk] at hthread
      exact .of_unfinished hthread (ThreadStage.not_finished hreceives) past
    | overdue c id₀ k₀ cleanup stage past =>
      have := orderly.check rfl c cleanup
      exact absurd past (Nat.not_le_of_lt this)
    | answered c id₀ k₀ e cleanup stage answer =>
      refine hr.next [] cleanup rfl same late rfl nofun ?_ nofun (List.append_nil _).symm nofun
        fun h => h.imp_right fun h => .inl (by rw [stage] at h; exact h)
      intro id' e' he
      cases he
      obtain ⟨thread, hthread, hhandle, hverified⟩ := hp.answer k₀ e answer
      obtain ⟨entry, present, hsender⟩ := hw.target c id₀ k₀ cleanup (by rw [stage]; rfl)
      refine ⟨hhandle.trans ((hw.sender_iff hb hthread present).mp hsender).symm, ?_⟩
      rintro rfl
      exact hverified (hsender ▸ sender entry present)
    | dropped c id₀ k₀ cleanup stage answer => exact absurd answer (hp.kept k₀)
    | unanswered c id₀ k₀ cleanup stage answer past =>
      refine hrecord cleanup (by rw [stage]; rfl) rfl rfl rfl (fun hmem hid => .inr ?_)
      change id₀ = id at hid
      subst hid
      obtain ⟨thread, hthread, howes⟩ := hp.asked c id₀ k₀ cleanup (.inr stage) answer
      have hk : k₀ = k := htarget cleanup (by rw [stage]; rfl)
      rw [hk] at hthread
      exact .of_unfinished hthread (ThreadStage.not_finished howes.receives) past
    | join c id₀ e free cleanup stage finished =>
      obtain ⟨hhandle, hverified⟩ := hr.read c id₀ e cleanup stage
      exact hrecord cleanup (by rw [stage, hhandle]; rfl) rfl rfl rfl fun _ hid =>
        .inl (hverified (hhandle.symm.trans hid))
    | unready c id₀ entry free cleanup stage running =>
      have := orderly.join rfl c id₀ entry cleanup stage
      simp only at this
      rw [running] at this
      cases this
    | released c id₀ rest free cleanup stage next gone =>
      exact hr.next [] cleanup rfl same late rfl (hr.visited c cleanup) (by rw [stage]; nofun)
        (by rw [stage]; nofun) (List.append_nil _).symm nofun fun h => h.imp_right .inl
    | pending c id₀ rest free cleanup stage next there =>
      refine hr.next [] cleanup rfl same late rfl (fun _ => hr.visited c cleanup (by rw [stage]; rfl))
        nofun (fun rest' _ hpending => ?_) (List.append_nil _).symm nofun
        fun h => h.imp_right fun h => .inl (by rw [stage] at h; exact h)
      change c.pending = id :: rest' at hpending
      rw [next, List.cons.injEq] at hpending
      exact hpending.1 ▸ hb.disjoint there
    | repoll c cleanup stage =>
      exact hr.next [] cleanup rfl same late rfl (fun _ => hr.visited c cleanup (by rw [stage]; rfl))
        nofun nofun (List.append_nil _).symm nofun
        fun h => h.imp_right fun h => .inl (by rw [stage] at h; exact h)
    | expired c id₀ rest cleanup stage next past =>
      refine hr.next _ cleanup rfl same late rfl (fun _ => hr.visited c cleanup (by rw [stage]; rfl))
        nofun nofun rfl ?_ fun h => h.imp_right fun h => .inl (by rw [stage] at h; exact h)
      intro hmem e he hid
      rw [List.mem_singleton] at he
      subst he
      change id₀ = id at hid
      subst hid
      exact absurd hmem (hr.pending c rest cleanup stage next)
    | freeze c n free cleanup stage done owner report frozen =>
      exact hr.next [] cleanup rfl same late rfl
        (fun _ => hr.visited c cleanup (by rw [stage]; rfl)) nofun nofun (List.append_nil _).symm nofun
        fun h => h.imp_right fun h => by rw [stage] at h; cases h
    | _ => exact hr.same rfl (fun _ => same) late
  | true =>
    cases h with
    | reserved k₀ profile reservation r free fresh result =>
      obtain ⟨-, -, -, -, -, rfl⟩ := Core.reserveOpen_ok result
      exact hr.same rfl (fun _ h => h) late
    | published k₀ c config published r free call stage result =>
      unfold Registry.publishOpen at result
      split_ifs at result with hrunning
      refine hr.same rfl (fun hsome => ?_) late
      obtain ⟨d, hd⟩ := Option.ne_none_iff_exists'.mp hsome
      exact absurd (not_not.mp hrunning) (hs.started d hd)
    | dismiss k₀ c call stage =>
      refine hr.same ?_ (fun _ => ?_) late <;> split
      · rfl
      · rfl
      · exact fun h => h
      · exact fun h => h
    | unreserved | «open» | spawn | unpublished | finishOpen => exact hr.same rfl (fun _ h => h) late
    | _ => cases ha

/-- A handle keeps its thread. -/
theorem Step.sender {a : Action} (h : Step core s a t) (hb : s.Booked) {id : String}
    {entry : WorkerEntry} (present : s.registry.handles.lookup id = some entry) :
    ∃ entry', t.registry.handles.lookup id = some entry' ∧ entry'.sender = entry.sender := by
  cases ha : a.isOpen with
  | false =>
    obtain ⟨entry', present', hkey⟩ := Table.exists_of_view (h.frames ha).handles.symm present
    exact ⟨entry', present', WorkerEntry.sender_of_key hkey⟩
  | true =>
    cases h with
    | reserved k profile reservation r free fresh result =>
      obtain ⟨-, -, -, -, -, rfl⟩ := Core.reserveOpen_ok result
      exact ⟨entry, present, rfl⟩
    | published k c config published r free call stage result =>
      unfold Registry.publishOpen at result
      split_ifs at result
      cases result
      have hne : id ≠ c.reservation.id := by
        rintro rfl
        exact hb.unregistered call (by rw [stage]; rfl) (Table.mem_of_lookup present)
      exact ⟨entry, (AList.lookup_insert_ne hne).trans present, rfl⟩
    | dismiss =>
      refine ⟨entry, ?_, rfl⟩
      split <;> exact present
    | unreserved | «open» | spawn | unpublished | finishOpen => exact ⟨entry, present, rfl⟩
    | _ => cases ha

/-- A handle that was registered before a step of a run has the same thread at its end. -/
theorem sender_of_run {ls : List Label} (run : Run (Acts core) new ls s)
    (hbound : reservations ls ≤ u64Max) {l : Label} (hl : l ∈ ls) {id : String}
    {entry : WorkerEntry} (present : l.before.registry.handles.lookup id = some entry) :
    ∃ entry', s.registry.handles.lookup id = some entry' ∧ entry'.sender = entry.sender := by
  induction run with
  | nil => cases hl
  | @snoc t u ls last run step ih =>
    have hprefix := (reservations_le_of_append ls [last]).trans hbound
    have hb := booked_of_run run hprefix
    obtain ⟨entry', present', hsender⟩ : ∃ entry', t.registry.handles.lookup id = some entry' ∧
        entry'.sender = entry.sender := by
      rcases List.mem_append.mp hl with hl | hl
      · exact ih hprefix hl
      · rw [List.mem_singleton] at hl
        subst hl
        obtain ⟨rfl, -, -⟩ := step
        exact ⟨entry, present, rfl⟩
    obtain ⟨entry'', present'', hsender'⟩ := step.2.2.sender hb present'
    exact ⟨entry'', present'', hsender'.trans hsender⟩

/-- In an orderly run with fewer than `2 ^ 64` reservations, a handle whose cleanup succeeds
and whose thread ends before the deadline is verified in the report. -/
theorem verified_of_cleanups {ls : List Label} (run : Run (Acts core) new ls s)
    (hbound : reservations ls < 2 ^ 64) (orderly : ∀ l ∈ ls, l.Orderly) {c : Cleanup}
    {report : ShutdownReport} (cleanup : s.cleanup = some c)
    (frozen : s.registry.frozenReport = some report) {id : String} {entry : WorkerEntry}
    (registered : s.registry.handles.lookup id = some entry)
    (cleans : ∀ l ∈ ls, l.Cleans entry.sender) {thread : Thread} {time : ℕ}
    (worker : s.threads.lookup entry.sender = some thread) (ended : thread.stage = .finished time)
    (early : time < c.deadline) :
    (∃ e ∈ report.workers, e.handle = id) ∧
      ∀ e ∈ report.workers, e.handle = id → e.outcome = .verified := by
  have hle : reservations ls ≤ u64Max := by
    rw [u64Max_eq]
    omega
  -- what is asked of every step, with the worker of the handle named
  let good : Label → Prop := fun l => l.Orderly ∧ l.Cleans entry.sender ∧
    ∀ entry', l.before.registry.handles.lookup id = some entry' → entry'.sender = entry.sender
  have hgood : ∀ l ∈ ls, good l := by
    intro l hl
    refine ⟨orderly l hl, cleans l hl, fun entry' present' => ?_⟩
    obtain ⟨entry₁, present₁, hsender⟩ := sender_of_run run hle hl present'
    rw [registered, Option.some.injEq] at present₁
    subst present₁
    exact hsender.symm
  have hinvariant : (s.Booked ∧ s.Staffed ∧ s.Tracked) ∧ s.Paying entry.sender ∧
      s.Recorded id entry.sender := by
    refine invariant_of_run (I := fun s => (s.Booked ∧ s.Staffed ∧ s.Tracked) ∧
      s.Paying entry.sender ∧ s.Recorded id entry.sender) (G := good)
      ⟨⟨booked_new, staffed_new, tracked_new⟩, paying_new _, recorded_new _ _⟩ ?_ run hgood hle
    rintro s l t ⟨⟨hb, hw, hs⟩, hp, hr⟩ hl hroom ⟨horderly, hcleans, hsender⟩
    refine ⟨⟨hb.step hl.2.2 (hb.newId hl.2.2 hroom), hw.step hb hl.2.2, hs.step hb hw hl.2.2⟩,
      hp.step hb hw hl horderly hcleans, hr.step hp hb hw hs hl horderly ?_⟩
    obtain ⟨rfl, -, -⟩ := hl
    exact hsender
  obtain ⟨⟨-, -, hs⟩, -, hr⟩ := hinvariant
  have hmem := Table.mem_of_lookup registered
  rw [hs.frozen c cleanup] at frozen
  split at frozen
  · next hstage =>
    cases frozen
    -- sorting changes nothing but the order
    have hreport : ∀ e, e ∈ c.report.workers ↔ e ∈ c.workers := fun e => List.mem_insertionSort _
    simp only [hreport]
    refine ⟨?_, fun e he hid => ?_⟩
    · rcases hr.found c cleanup hmem with hin | hsubject | hfound
      · rw [hr.visited c cleanup (by rw [hstage]; rfl)] at hin
        cases hin
      · rw [hstage] at hsubject
        cases hsubject
      · exact hfound
    · refine (hr.sound c cleanup hmem e he hid).resolve_right fun hover => ?_
      exact absurd (hover.ended thread time worker ended) (Nat.not_le_of_lt early)
  · cases frozen

/-! ### One idle handle -/

/-- The shutdown of that server when its worker has answered. -/
def answeredServer : Server where
  registry := Registry.publish { idleServer.registry with lifecycle := .stopping } (handleName 1)
    PublishedHandle.publishClosed
  stuck := false
  shutdown := true
  now := 0
  opens := idleServer.opens
  threads := idleServer.threads.modify 0 fun t =>
    { t with backend := idleBackend.take, stage := .leaving }
  requests := ∅
  shutdowns := AList.insert 0 .owner ∅
  cleanup := some
    { deadline := localProfile.shutdownTotal
      handles := []
      pending := []
      workers := []
      stage := .answered (handleName 1) (.verified (handleName 1)) }
  answers := AList.insert 0 (some (.verified (handleName 1))) ∅

theorem Label.Orderly.of_aside {l : Label} (h : l.action.aside = true) : l.Orderly := by
  constructor <;> intros <;> simp_all [Action.aside]

theorem Label.Cleans.of_aside {l : Label} (h : l.action.aside = true) (k : ℕ) : l.Cleans k := by
  intro env result haction
  rw [haction] at h
  cases h

theorem Label.Orderly.of_visit
    (h : ∀ c, s.cleanup = some c → c.handles ≠ [] → s.now < c.deadline) :
    (⟨.visit, s, t⟩ : Label).Orderly :=
  ⟨fun _ => h, (nomatch ·), (nomatch ·), fun _ _ => (nomatch ·), (nomatch ·), (nomatch ·)⟩

theorem Label.Orderly.of_enqueue
    (h : ∀ c id k, s.cleanup = some c → c.stage = .enqueuing id k → s.trySend k ≠ .closed) :
    (⟨.enqueue, s, t⟩ : Label).Orderly :=
  ⟨(nomatch ·), fun _ => h, (nomatch ·), fun _ _ => (nomatch ·), (nomatch ·), (nomatch ·)⟩

theorem Label.Orderly.of_check (h : ∀ c, s.cleanup = some c → s.now < c.deadline) :
    (⟨.check, s, t⟩ : Label).Orderly :=
  ⟨(nomatch ·), (nomatch ·), fun _ => h, fun _ _ => (nomatch ·), (nomatch ·), (nomatch ·)⟩

theorem Label.Orderly.of_leave {k : ℕ}
    (h : ∀ thread, s.threads.lookup k = some thread → .shutdown true ∉ thread.queue) :
    (⟨.leave k, s, t⟩ : Label).Orderly := by
  refine ⟨(nomatch ·), (nomatch ·), (nomatch ·), fun k' thread haction => ?_, (nomatch ·),
    (nomatch ·)⟩
  cases haction
  exact h thread

theorem Label.Orderly.of_join
    (h : ∀ c id e, s.cleanup = some c → c.stage = .answered id e → s.isFinished id = true) :
    (⟨.join, s, t⟩ : Label).Orderly :=
  ⟨(nomatch ·), (nomatch ·), (nomatch ·), fun _ _ => (nomatch ·), fun _ => h, (nomatch ·)⟩

theorem Label.Orderly.of_clean {k : ℕ} {env : Environment} {result : ShutdownWorkerResult} :
    (⟨.clean k env result, s, t⟩ : Label).Orderly :=
  ⟨(nomatch ·), (nomatch ·), (nomatch ·), fun _ _ => (nomatch ·), (nomatch ·), (nomatch ·)⟩

theorem Label.Cleans.of_verified {k k' : ℕ} {env : Environment} :
    (⟨.clean k' env .verified, s, t⟩ : Label).Cleans k := by
  intro env result haction
  cases haction
  rfl

/-- The steps of opens have no part in a cleanup. -/
theorem Label.Orderly.of_isOpen {l : Label} {k : ℕ} (h : l.action.isOpen = true) :
    l.Orderly ∧ l.Cleans k := by
  refine ⟨by constructor <;> intros <;> simp_all [Action.isOpen], fun env result haction => ?_⟩
  rw [haction] at h
  cases h

/-- An orderly run without opens, in which the cleanup of the first thread succeeds. -/
def Cleanly (s t : Server) : Prop :=
  ∃ ls, Run (Acts localProfile) s ls t ∧ reservations ls = 0 ∧ ∀ l ∈ ls, l.Orderly ∧ l.Cleans 0

theorem Cleanly.refl (s : Server) : Cleanly s s := ⟨[], .nil s, by simp [reservations], by simp⟩

theorem Cleanly.cons {a : Action} {u : Server} (step : Step localProfile s a t)
    (quiet : a.isOpen = false)
    (good : (⟨a, s, t⟩ : Label).Orderly ∧ (⟨a, s, t⟩ : Label).Cleans 0) (rest : Cleanly t u) :
    Cleanly s u := by
  obtain ⟨ls, run, hcount, hgood⟩ := rest
  refine ⟨_, step.cons run, ?_, List.forall_mem_cons.mpr ⟨good, hgood⟩⟩
  unfold reservations at hcount ⊢
  rw [List.countP_cons, hcount]
  cases a with
  | reserve k profile result => cases quiet
  | _ => rfl

theorem Cleanly.aside {a : Action} {u : Server} (step : Step localProfile s a t)
    (aside : a.aside = true) (rest : Cleanly t u) : Cleanly s u := by
  refine .cons step ?_ ⟨.of_aside aside, .of_aside aside 0⟩ rest
  cases a with
  | reserve | spawn | publish | dismiss | finishOpen | «open» => cases aside
  | _ => rfl

theorem Cleanly.ordered {a : Action} {u : Server} (step : Step localProfile s a t)
    (quiet : a.isOpen = false) (orderly : (⟨a, s, t⟩ : Label).Orderly)
    (other : ∀ env result, a ≠ .clean 0 env result) (rest : Cleanly t u) : Cleanly s u :=
  .cons step quiet ⟨orderly, fun env result haction => absurd haction (other env result)⟩ rest

/-- The steps of the shutdown, to the answer of the worker. -/
theorem cleanly_answered : Cleanly idleServer answeredServer := by
  have steps :=
    Cleanly.aside (@Step.shutdown localProfile idleServer 0 rfl (AList.notMem_empty _) rfl rfl) rfl <|
    .aside (Step.signal _ rfl rfl) rfl <|
    .ordered (Step.visit _ (handleName 1) [] rfl rfl rfl (by decide)) rfl
      (.of_visit fun c hc _ => by cases hc; decide) nofun <|
    .aside (Step.live _ (handleName 1) _ rfl rfl rfl (AList.lookup_insert _) rfl) rfl <|
    .ordered (Step.enqueue _ (handleName 1) 0 rfl rfl rfl) rfl
      (.of_enqueue fun c id k hc hstage => by cases hc; cases hstage; decide) nofun <|
    .ordered (Step.check _ (handleName 1) 0 rfl rfl (by decide)) rfl
      (.of_check fun c hc => by cases hc; decide) nofun <|
    .aside (Step.take 0 _ (.shutdown true) [] rfl rfl rfl) rfl <|
    .cons (Step.clean 0 _ true (.still []) 0 .verified idleBackend.take rfl rfl (by rfl)) rfl
      ⟨.of_clean, .of_verified⟩ <|
    .aside (Step.close 0 _ _ true rfl rfl rfl) rfl <|
    .aside (Step.report 0 _ _ true rfl rfl) rfl <|
    .aside (Step.answered _ (handleName 1) 0 _ rfl rfl rfl) rfl <| .refl _
  exact steps

/-- The steps from the answer on, when the worker has ended before the owner looks. -/
theorem cleanly_verified : ∃ s c report entry thread, Cleanly answeredServer s ∧
    s.cleanup = some c ∧ s.registry.frozenReport = some report ∧
    s.registry.handles.lookup (handleName 1) = some entry ∧ entry.sender = 0 ∧
    s.threads.lookup 0 = some thread ∧ thread.stage = .finished 0 ∧ 0 < c.deadline := by
  have steps :=
    Cleanly.ordered (@Step.leave localProfile answeredServer 0 _ rfl rfl) rfl
      (.of_leave fun thread h => by cases h; decide) nofun <|
    .aside (Step.finish 0 _ rfl rfl) rfl <|
    .ordered (Step.join _ (handleName 1) _ rfl rfl rfl (by rfl)) rfl
      (.of_join fun c id e hc hstage => by cases hc; cases hstage; rfl) nofun <|
    .ordered (Step.visited _ rfl rfl rfl) rfl
      (.of_visit fun c hc hne => by cases hc; exact absurd rfl hne) nofun <|
    .aside (Step.freeze _ 0 rfl rfl rfl rfl (AList.lookup_insert _) _ rfl) rfl <| .refl _
  exact ⟨_, _, _, _, _, steps, rfl, rfl, by rfl, rfl, rfl, rfl, by decide⟩

/-- A run to the answer and on. -/
theorem run_cleanly (h : Cleanly answeredServer s) : ∃ ls, Run (Acts localProfile) new ls s ∧
    reservations ls = 1 ∧ ∀ l ∈ ls, l.Orderly ∧ l.Cleans 0 := by
  obtain ⟨ls, run, hcount, hopens⟩ := run_open (admits_new (by decide) localProfile_admissionConfig)
  obtain ⟨ls₁, run₁, hcount₁, hgood₁⟩ := cleanly_answered
  obtain ⟨ls₂, run₂, hcount₂, hgood₂⟩ := h
  refine ⟨_, run.append (run₁.append run₂), ?_, fun l hl => ?_⟩
  · unfold reservations at hcount hcount₁ hcount₂ ⊢
    rw [List.countP_append, List.countP_append, hcount, hcount₁, hcount₂]
  · rcases List.mem_append.mp hl with hl | hl
    · exact Label.Orderly.of_isOpen (hopens l hl)
    · rcases List.mem_append.mp hl with hl | hl
      · exact hgood₁ l hl
      · exact hgood₂ l hl

/-- The shutdown of one idle handle whose worker has ended when the owner looks. -/
theorem verified_of_cleanups_idle : ∃ ls s report, Run (Acts localProfile) new ls s ∧
    reservations ls < 2 ^ 64 ∧ s.registry.frozenReport = some report ∧
    (∃ e ∈ report.workers, e.handle = handleName 1) ∧
    ∀ e ∈ report.workers, e.handle = handleName 1 → e.outcome = .verified := by
  obtain ⟨s, c, report, entry, thread, steps, hcleanup, hfrozen, hentry, hsender, hthread, hstage,
    hlate⟩ := cleanly_verified
  obtain ⟨ls, run, hcount, hgood⟩ := run_cleanly steps
  have hbound : reservations ls < 2 ^ 64 := by
    rw [hcount]
    decide
  refine ⟨ls, s, report, run, hbound, hfrozen, ?_⟩
  exact verified_of_cleanups run hbound (fun l hl => (hgood l hl).1) hcleanup hfrozen hentry
    (by rw [hsender]; exact fun l hl => (hgood l hl).2) (by rw [hsender]; exact hthread) hstage hlate

/-- The steps from the answer on, when the owner looks at once. -/
theorem steps_uncertain : ∃ ls s c report entry thread, Run (Acts localProfile) answeredServer ls s ∧
    reservations ls = 0 ∧ (∀ l ∈ ls, l.Cleans 0) ∧
    s.cleanup = some c ∧ s.registry.frozenReport = some report ∧
    s.registry.handles.lookup (handleName 1) = some entry ∧ entry.sender = 0 ∧
    s.threads.lookup 0 = some thread ∧ thread.stage = .finished 0 ∧ 0 < c.deadline ∧
    report.workers = [.uncertain (handleName 1) "join"] := by
  have steps :=
    (@Step.unready localProfile answeredServer _ (handleName 1) _ rfl rfl rfl (by rfl)).cons <|
    (Step.visited _ rfl rfl rfl).cons <|
    (Step.freeze _ 0 rfl rfl rfl rfl (AList.lookup_insert _) _ rfl).cons <|
    (Step.leave 0 _ rfl rfl).cons <| (Step.finish 0 _ rfl rfl).run
  refine ⟨_, _, _, _, _, _, steps, rfl, ?_, rfl, rfl, by rfl, rfl, rfl, rfl, by decide, rfl⟩
  simp [Label.Cleans]

/-- The owner looks for the end of the thread as soon as its worker has answered, and the
handle is reported as uncertain. -/
theorem uncertain_after_clean_exit : ∃ ls s c report entry thread time,
    Run (Acts localProfile) new ls s ∧ reservations ls = 1 ∧ s.cleanup = some c ∧
    s.registry.frozenReport = some report ∧
    s.registry.handles.lookup (handleName 1) = some entry ∧
    (∀ l ∈ ls, l.Cleans entry.sender) ∧ s.threads.lookup entry.sender = some thread ∧
    thread.stage = .finished time ∧ time < c.deadline ∧
    ∃ e ∈ report.workers, e.handle = handleName 1 ∧ e.outcome ≠ .verified := by
  obtain ⟨ls₁, run₁, hcount₁, hgood₁⟩ := run_cleanly (.refl answeredServer)
  obtain ⟨ls, s, c, report, entry, thread, run, hcount, hcleans, hcleanup, hfrozen, hentry, hsender,
    hthread, hstage, hlate, hreport⟩ := steps_uncertain
  refine ⟨ls₁ ++ ls, s, c, report, entry, thread, 0, run₁.append run, ?_, hcleanup, hfrozen, hentry,
    fun l hl => ?_, by rw [hsender]; exact hthread, hstage, hlate, ?_⟩
  · unfold reservations at hcount hcount₁ ⊢
    rw [List.countP_append, hcount, hcount₁]
  · rw [hsender]
    rcases List.mem_append.mp hl with hl | hl
    · exact (hgood₁ l hl).2
    · exact hcleans l hl
  · rw [hreport]
    exact ⟨_, List.mem_singleton_self _, rfl, nofun⟩

end Server

end PgMcp
