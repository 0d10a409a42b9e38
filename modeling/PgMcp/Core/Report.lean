import PgMcp.Core.Cleanup
import PgMcp.Core.Stations

/-!
# What a report says of every handle

The owner of the cleanup takes down the registered handles and the reservations when the
server stops running.  It writes one entry for each handle, whatever becomes of its worker,
and one for a reservation it finds still there when it finds the deadline passed.

## Main definitions

* `Server.Named` — the entries under way bear the names of their handles.
* `Cleanup.Turn` — what a step does to the cleanup.
* `Cleanup.Reports` — what is reported, and what is left to visit.

## Main results

* `Step.turn` — every step of the server turns the cleanup.
* `report_of_run` — the report in every run.
* `report_incomplete` — what is not reported, and what is reported twice.
-/

namespace PgMcp

open Program

/-! ### Turns of the cleanup -/

/-- What a step does to the cleanup `c`; with the reservation that is reported. -/
inductive Cleanup.Turn (c : Cleanup) : Option String → Cleanup → Prop where
  | same : Turn c none c
  /-- The owner goes on with the same handle, or with the reservations. -/
  | stage (stage : CleanupStage) (subject : stage.subject = c.stage.subject)
      (last : stage.last = c.stage.last) (before : c.stage ≠ .reported) (after : stage ≠ .reported) :
      Turn c none { c with stage := stage }
  | visit (id : String) (rest : List String) (stage : c.stage = .visiting) (next : c.handles = id :: rest) :
      Turn c none { c with handles := rest, stage := .looking id }
  | late (id : String) (rest : List String) (stage : c.stage = .visiting) (next : c.handles = id :: rest) :
      Turn c none ({ c with handles := rest }.record (.uncertain id "deadline"))
  | record (id : String) (e : WorkerShutdownEntry) (subject : c.stage.subject = some id)
      (handle : e.handle = id) : Turn c none (c.record e)
  | visited (stage : c.stage = .visiting) (done : c.handles = []) :
      Turn c none { c with stage := .draining }
  | released (id : String) (rest : List String) (stage : c.stage = .draining)
      (next : c.pending = id :: rest) : Turn c none { c with pending := rest }
  | expired (id : String) (rest : List String) (stage : c.stage = .stillPending)
      (next : c.pending = id :: rest) :
      Turn c (some id) { c with
        pending := rest, workers := c.workers ++ [.uncertain id "pending-open"], stage := .draining }
  | freeze (stage : c.stage = .draining) (done : c.pending = []) :
      Turn c none { c with stage := .reported }

/-- What the cleanup `c` has reported of the handles `handles` and the reservations `pending`,
and what is left to visit; `late` are the reservations that were reported. -/
structure Cleanup.Reports (handles pending late : List String) (c : Cleanup) : Prop where
  visited : ∃ done entries gone, handles = done ++ (c.stage.subject.toList ++ c.handles) ∧
    pending = gone ++ c.pending ∧ late.Sublist gone ∧
    c.workers = entries ++ late.map (.uncertain · "pending-open") ∧
    entries.map WorkerShutdownEntry.handle = done ∧ (c.stage.last = false → gone = [])
  last : c.stage.last = true → c.handles = []
  reported : c.stage = .reported → c.pending = []

theorem CleanupStage.subject_last {stage : CleanupStage} (h : stage.last = true) :
    stage.subject = none := by
  cases stage <;> first | rfl | cases h

/-- What is reported after a turn. -/
theorem Cleanup.Reports.turn {handles pending late : List String} {c c' : Cleanup}
    {reported : Option String} (h : c.Reports handles pending late) (turn : c.Turn reported c') :
    c'.Reports handles pending (late ++ reported.toList) := by
  obtain ⟨⟨done, entries, gone, hhandles, hpending, hsub, hworkers, hentries, hgone⟩, hlast, hreported⟩ := h
  -- before the last handle is visited no reservation is reported
  have fresh : c.stage.last = false → late = [] ∧ gone = [] := by
    intro hfirst
    have := hgone hfirst
    subst this
    exact ⟨List.sublist_nil.mp hsub, rfl⟩
  cases turn with
  | same =>
    rw [Option.toList_none, List.append_nil]
    exact ⟨⟨done, entries, gone, hhandles, hpending, hsub, hworkers, hentries, hgone⟩, hlast, hreported⟩
  | stage stage subject last before after =>
    rw [Option.toList_none, List.append_nil]
    exact ⟨⟨done, entries, gone, by rw [subject]; exact hhandles, hpending, hsub, hworkers, hentries,
      fun h => hgone (last ▸ h)⟩, fun h => hlast (last ▸ h), fun h => absurd h after⟩
  | visit id rest stage next =>
    rw [Option.toList_none, List.append_nil]
    refine ⟨⟨done, entries, gone, ?_, hpending, hsub, hworkers, hentries,
      fun _ => hgone (by rw [stage]; rfl)⟩, nofun, nofun⟩
    rw [hhandles, stage, next]
    rfl
  | late id rest stage next =>
    rw [Option.toList_none, List.append_nil]
    obtain ⟨rfl, rfl⟩ := fresh (by rw [stage]; rfl)
    refine ⟨⟨done ++ [id], entries ++ [.uncertain id "deadline"], [], ?_, hpending, .slnil, ?_, ?_,
      fun _ => rfl⟩, nofun, nofun⟩
    · rw [hhandles, stage, next, List.append_assoc]
      rfl
    · show c.workers ++ _ = _
      rw [hworkers, List.map_nil, List.append_nil, List.append_nil]
    · rw [List.map_append, hentries]
      rfl
  | record id e subject handle =>
    rw [Option.toList_none, List.append_nil]
    have hfirst : c.stage.last = false := by
      by_contra hlast'
      rw [Bool.not_eq_false] at hlast'
      rw [CleanupStage.subject_last hlast'] at subject
      cases subject
    obtain ⟨rfl, rfl⟩ := fresh hfirst
    refine ⟨⟨done ++ [id], entries ++ [e], [], ?_, hpending, .slnil, ?_, ?_, fun _ => rfl⟩, nofun, nofun⟩
    · rw [hhandles, subject, List.append_assoc]
      rfl
    · show c.workers ++ _ = _
      rw [hworkers, List.map_nil, List.append_nil, List.append_nil]
    · rw [List.map_append, hentries, List.map_singleton, handle]
  | visited stage finished =>
    rw [Option.toList_none, List.append_nil]
    refine ⟨⟨done, entries, gone, ?_, hpending, hsub, hworkers, hentries,
      fun _ => hgone (by rw [stage]; rfl)⟩, fun _ => finished, nofun⟩
    rw [hhandles, stage]
    rfl
  | released id rest stage next =>
    rw [Option.toList_none, List.append_nil]
    refine ⟨⟨done, entries, gone ++ [id], hhandles, ?_, ?_, hworkers, hentries, ?_⟩, hlast, ?_⟩
    · rw [hpending, next, List.append_assoc]
      rfl
    · exact hsub.trans (List.sublist_append_left gone [id])
    · intro h
      rw [stage] at h
      cases h
    · intro h
      rw [stage] at h
      cases h
  | expired id rest stage next =>
    rw [Option.toList_some]
    refine ⟨⟨done, entries, gone ++ [id], ?_, ?_, hsub.append_right [id], ?_, hentries, nofun⟩,
      fun _ => hlast (by rw [stage]; rfl), nofun⟩
    · rw [hhandles, stage]
      rfl
    · rw [hpending, next, List.append_assoc]
      rfl
    · show c.workers ++ _ = _
      rw [hworkers, List.map_append, List.append_assoc]
      rfl
  | freeze stage finished =>
    rw [Option.toList_none, List.append_nil]
    refine ⟨⟨done, entries, gone, ?_, hpending, hsub, hworkers, hentries, nofun⟩,
      fun _ => hlast (by rw [stage]; rfl), fun _ => finished⟩
    rw [hhandles, stage]
    rfl

/-- The report a cleanup ends with. -/
theorem Cleanup.Reports.ended {handles pending late : List String} {c : Cleanup}
    (h : c.Reports handles pending late) (stage : c.stage = .reported) :
    ∃ entries, c.workers = entries ++ late.map (.uncertain · "pending-open") ∧
      entries.map WorkerShutdownEntry.handle = handles ∧ late.Sublist pending := by
  obtain ⟨done, entries, gone, hhandles, hpending, hsub, hworkers, hentries, -⟩ := h.visited
  refine ⟨entries, hworkers, ?_, ?_⟩
  · rw [hhandles, hentries, stage, h.last (by rw [stage]; rfl)]
    exact (List.append_nil _).symm
  · rw [hpending, h.reported stage, List.append_nil]
    exact hsub

/-- The report goes up strictly in the order of the handles when no handle has two entries. -/
theorem Cleanup.report_strict {c : Cleanup}
    (nodup : (c.workers.map WorkerShutdownEntry.handle).Nodup) :
    (c.report.workers.map WorkerShutdownEntry.handle).Pairwise (· < ·) := by
  have htotal : Std.Total fun a b : WorkerShutdownEntry => a.handle ≤ b.handle :=
    ⟨fun a b => le_total a.handle b.handle⟩
  have htrans : IsTrans WorkerShutdownEntry fun a b => a.handle ≤ b.handle :=
    ⟨fun _ _ _ => le_trans⟩
  have hperm := List.perm_insertionSort (fun a b : WorkerShutdownEntry => a.handle ≤ b.handle) c.workers
  have hnodup := (hperm.map WorkerShutdownEntry.handle).nodup_iff.mpr nodup
  have hsorted := List.pairwise_insertionSort (fun a b : WorkerShutdownEntry => a.handle ≤ b.handle)
    c.workers
  exact (List.pairwise_map.mpr hsorted).imp₂ (fun _ _ h hne => lt_of_le_of_ne h hne) hnodup

namespace Server

variable {core : Core} {s t : Server}

/-! ### Names -/

/-- The entries that are under way bear the names of their handles. -/
structure Named (s : Server) : Prop where
  written : ∀ k thread e, s.threads.lookup k = some thread → thread.stage.entry = some e →
    e.handle = thread.handle
  answer : ∀ k e, s.answers.lookup k = some (some e) → ∃ thread, s.threads.lookup k = some thread ∧
    e.handle = thread.handle
  read : ∀ c id e, s.cleanup = some c → c.stage = .answered id e → e.handle = id

theorem named_new : new.Named where
  written k thread e h := by simp [new] at h
  answer k e h := by simp [new] at h
  read c id e h := by cases h

/-- A step of one thread that answers nothing. -/
theorem Named.work (h : s.Named) {k : ℕ} {f : Thread → Thread}
    (threads : t.threads = s.threads.modify k f)
    (handle : ∀ thread, s.threads.lookup k = some thread → (f thread).handle = thread.handle)
    (entry : ∀ thread e, s.threads.lookup k = some thread → (f thread).stage.entry = some e →
      thread.stage.entry = some e ∨ e.handle = thread.handle)
    (answers : ∀ k' e, t.answers.lookup k' = some (some e) → s.answers.lookup k' = some (some e) ∨
      ∃ thread, s.threads.lookup k' = some thread ∧ thread.stage.entry = some e)
    (cleanup : t.cleanup = s.cleanup ∨ ∀ c id e, t.cleanup = some c → c.stage ≠ .answered id e) :
    t.Named where
  written k' thread' e hk he := by
    rw [threads] at hk
    rcases Table.lookup_modify_some hk with ⟨rfl, thread, hthread, rfl⟩ | ⟨-, hthread⟩
    · rw [handle thread hthread]
      exact (entry thread e hthread he).elim (h.written _ thread e hthread) fun hh => hh
    · exact h.written k' thread' e hthread he
  answer k' e he := by
    have hnamed : ∃ thread, s.threads.lookup k' = some thread ∧ e.handle = thread.handle := by
      rcases answers k' e he with hold | ⟨thread, hthread, hentry⟩
      · exact h.answer k' e hold
      · exact ⟨thread, hthread, h.written k' thread e hthread hentry⟩
    obtain ⟨thread, hthread, hname⟩ := hnamed
    rw [threads, Table.lookup_modify]
    split
    · next heq =>
      subst heq
      rw [hthread]
      exact ⟨_, rfl, by rw [handle thread hthread]; exact hname⟩
    · exact ⟨thread, hthread, hname⟩
  read c id e hc hstage := by
    rcases cleanup with hsame | hother
    · exact h.read c id e (hsame ▸ hc) hstage
    · exact absurd hstage (hother c id e hc)

/-- A step of the cleanup. -/
theorem Named.turn (h : s.Named) (threads : t.threads = s.threads)
    (answers : ∀ k e, t.answers.lookup k = some (some e) → s.answers.lookup k = some (some e))
    (read : ∀ c id e, t.cleanup = some c → c.stage = .answered id e → e.handle = id) : t.Named where
  written k thread e hk := by
    rw [threads] at hk
    exact h.written k thread e hk
  answer k e he := by
    rw [threads]
    exact h.answer k e (answers k e he)
  read := read

/-- The names after a step. -/
theorem Named.step (h : s.Named) (hs : s.Sound) {a : Action} (step : Step core s a t) : t.Named := by
  have same : ∀ k e, s.answers.lookup k = some (some e) → s.answers.lookup k = some (some e) ∨
      ∃ thread, s.threads.lookup k = some thread ∧ thread.stage.entry = some e := fun _ _ he => .inl he
  cases step with
  | spawn k c config database backend call stage =>
    -- the thread of this open is only started now
    have hne : ∀ {k' thread}, s.threads.lookup k' = some thread → k' ≠ k := by
      rintro k' thread hk rfl
      obtain ⟨d, hd, -, hstarted⟩ := hs.staffed.starter k' thread hk
      rw [call, Option.some.injEq] at hd
      rw [← hd, stage] at hstarted
      cases hstarted
    refine ⟨fun k' thread e hk he => ?_, fun k' e he => ?_, h.read⟩
    · change (s.threads.insert k _).lookup k' = some thread at hk
      rw [Table.lookup_insert] at hk
      split at hk
      · cases hk
        cases he
      · exact h.written k' thread e hk he
    · obtain ⟨thread, hthread, hname⟩ := h.answer k' e he
      exact ⟨thread, (AList.lookup_insert_ne (hne hthread)).trans hthread, hname⟩
  | dismiss k c call stage =>
    split
    · exact h.work (f := Thread.push (.shutdown false)) rfl (fun _ _ => rfl) (fun _ _ _ he => .inl he)
        same (.inl rfl)
    · exact h.turn rfl (fun _ _ he => he) h.read
  | admitted n c k r free call stage result =>
    exact h.work (f := Thread.push (.operation n c.operation)) rfl (fun _ _ => rfl)
      (fun _ _ _ he => .inl he) same (.inl rfl)
  | enqueue c id k cleanup stage room =>
    refine h.work (f := Thread.push (.shutdown true)) rfl (fun _ _ => rfl) (fun _ _ _ he => .inl he)
      same (.inr fun d id e hd => ?_)
    cases hd
    nofun
  | take k thread request rest lookup stage queue =>
    refine h.work rfl (fun _ _ => rfl) (fun thread' e _ he => ?_) same (.inl rfl)
    cases request <;> cases he
  | execute k thread | record k thread | settle k thread | reply k thread =>
    refine h.work rfl (fun _ _ => rfl) (fun thread' e _ he => ?_) same (.inl rfl)
    cases he
  | release k thread closed =>
    refine h.work rfl (fun _ _ => rfl) (fun thread' e _ he => ?_) same (.inl rfl)
    cases closed <;> cases he
  | clean k thread reply env rounds result =>
    refine h.work rfl (fun _ _ => rfl) (fun thread' e _ he => ?_) same (.inl rfl)
    cases he
    cases result <;> exact .inr rfl
  | close k thread entry reply free lookup stage =>
    refine h.work rfl (fun _ _ => rfl) (fun thread' e hthread he => ?_) same (.inl rfl)
    rw [lookup, Option.some.injEq] at hthread
    rw [← hthread, stage]
    exact .inl he
  | report k thread entry reply lookup stage =>
    refine h.work rfl (fun _ _ => rfl) (fun thread' e _ he => ?_) (fun k' e he => ?_) (.inl rfl)
    · cases he
    · cases reply with
      | false => exact .inl he
      | true =>
        change (s.answers.insert k (some entry)).lookup k' = some (some e) at he
        rw [Table.lookup_insert] at he
        split at he
        · next heq =>
          cases he
          exact .inr ⟨thread, heq ▸ lookup, by rw [stage]; rfl⟩
        · exact .inl he
  -- a queue that is dropped answers nothing
  | leave k thread lookup stage =>
    refine h.work rfl (fun _ _ => rfl) (fun thread' e _ he => ?_) (fun k' e he => ?_) (.inl rfl)
    · cases he
    · refine .inl ?_
      change (s.dropAnswer k thread).lookup k' = some (some e) at he
      unfold dropAnswer at he
      split at he
      · rw [Table.lookup_insert] at he
        split at he
        · cases he
        · exact he
      · exact he
  | finish k thread =>
    refine h.work rfl (fun _ _ => rfl) (fun thread' e _ he => ?_) same (.inl rfl)
    cases he
  | unreceived c id k cleanup stage =>
    refine h.turn rfl (fun k' e he => ?_) fun d id e hd hstage => ?_
    · change (s.answers.insert k none).lookup k' = some (some e) at he
      rw [Table.lookup_insert] at he
      split at he
      · cases he
      · exact he
    · cases hd
      cases hstage
  -- the worker that was asked is that of the handle
  | answered c id k entry cleanup stage answer =>
    refine h.turn rfl (fun _ _ he => he) fun d id' e hd hstage => ?_
    cases hd
    cases hstage
    obtain ⟨thread, hthread, hname⟩ := h.answer k entry answer
    obtain ⟨worker, present, hsender⟩ := hs.staffed.target c id k cleanup (by rw [stage]; rfl)
    rw [hname]
    exact ((hs.staffed.sender_iff hs.booked hthread present).mp hsender).symm
  | released c id rest free cleanup stage =>
    refine h.turn rfl (fun _ _ he => he) fun d id' e hd hstage => ?_
    cases hd
    rw [stage] at hstage
    cases hstage
  | shutdown | signal | late | visit | visited | missing | closed | live | joined | unjoined | rejoin
  | abandoned | unsent | check | overdue | dropped | unanswered | join | unready | pending | repoll
  | expired | freeze =>
    refine h.turn rfl (fun _ _ he => he) fun d id' e hd hstage => ?_
    cases hd
    cases hstage
  | _ => exact h.turn rfl (fun _ _ he => he) h.read

/-- The owner, having found reservation `id` still there, finds the deadline passed. -/
def Label.Expires (id : String) (l : Label) : Prop :=
  l.action = .expire ∧ ∃ c rest, l.before.cleanup = some c ∧ c.stage = .stillPending ∧
    c.pending = id :: rest ∧ c.deadline ≤ l.before.now

/-- Every step of the server turns the cleanup. -/
theorem Step.turn {a : Action} (h : Step core s a t) (hn : s.Named)
    (stopping : s.registry.lifecycle ≠ .running) {c : Cleanup} (hc : s.cleanup = some c) :
    ∃ c' reported, t.cleanup = some c' ∧ c.Turn reported c' ∧
      ∀ id, (⟨a, s, t⟩ : Label).Expires id ↔ reported = some id := by
  -- a turn that is no expiry reports no reservation
  have quiet : ∀ {d}, t.cleanup = some d → c.Turn none d → a ≠ .expire →
      ∃ c' reported, t.cleanup = some c' ∧ c.Turn reported c' ∧
        ∀ id, (⟨a, s, t⟩ : Label).Expires id ↔ reported = some id := by
    intro c' hc' hturn ha
    exact ⟨c', none, hc', hturn, fun id => iff_of_false (fun he => ha he.1) nofun⟩
  -- nor does an expiry that is not that of a reservation
  have unexpired : ∀ {c'}, t.cleanup = some c' → c.Turn none c' →
      (c.stage ≠ .stillPending ∨ s.now < c.deadline) →
      ∃ c' reported, t.cleanup = some c' ∧ c.Turn reported c' ∧
        ∀ id, (⟨a, s, t⟩ : Label).Expires id ↔ reported = some id := by
    intro c' hc' hturn hearly
    refine ⟨c', none, hc', hturn, fun id => iff_of_false ?_ nofun⟩
    rintro ⟨-, d, rest, hd, stage, -, late⟩
    change s.cleanup = some d at hd
    rw [hc, Option.some.injEq] at hd
    subst hd
    exact hearly.elim (· stage) (Nat.not_lt_of_le late)
  cases h with
  | shutdown n free fresh unfrozen running => exact absurd running stopping
  | signal d cleanup stage | closed d id entry free cleanup stage | live d id entry free cleanup stage
  | unjoined d id free cleanup stage | enqueue d id k cleanup stage | unreceived d id k cleanup stage
  | check d id k cleanup stage | answered d id k entry cleanup stage
  | pending d id rest free cleanup stage =>
    rw [hc, Option.some.injEq] at cleanup
    subst cleanup
    exact quiet rfl (.stage _ (by rw [stage]; rfl) (by rw [stage]; rfl) (by rw [stage]; nofun) nofun)
      nofun
  | late d id rest cleanup stage next =>
    rw [hc, Option.some.injEq] at cleanup
    subst cleanup
    exact quiet rfl (.late id rest stage next) nofun
  | visit d id rest cleanup stage next =>
    rw [hc, Option.some.injEq] at cleanup
    subst cleanup
    exact quiet rfl (.visit id rest stage next) nofun
  | visited d cleanup stage done =>
    rw [hc, Option.some.injEq] at cleanup
    subst cleanup
    exact quiet rfl (.visited stage done) nofun
  | missing d id free cleanup stage | joined d id free cleanup stage
  | unsent d id k cleanup stage | overdue d id k cleanup stage | dropped d id k cleanup stage
  | unanswered d id k cleanup stage =>
    rw [hc, Option.some.injEq] at cleanup
    subst cleanup
    exact quiet rfl (.record id _ (by rw [stage]; rfl) rfl) nofun
  | unready d id entry free cleanup stage =>
    rw [hc, Option.some.injEq] at cleanup
    subst cleanup
    exact quiet rfl (.record id _ (by rw [stage]; rfl) rfl) nofun
  -- the entry that was read is recorded under the name it carries
  | join d id entry free cleanup stage =>
    have hname := hn.read d id entry cleanup stage
    rw [hc, Option.some.injEq] at cleanup
    subst cleanup
    exact quiet rfl (.record id _ (by rw [stage]; rfl) hname) nofun
  | rejoin d id cleanup stage =>
    rw [hc, Option.some.injEq] at cleanup
    subst cleanup
    exact unexpired rfl (.stage _ (by rw [stage]; rfl) (by rw [stage]; rfl) (by rw [stage]; nofun)
      nofun) (.inl (by rw [stage]; nofun))
  | repoll d cleanup stage early =>
    rw [hc, Option.some.injEq] at cleanup
    subst cleanup
    exact unexpired rfl (.stage _ (by rw [stage]; rfl) (by rw [stage]; rfl) (by rw [stage]; nofun)
      nofun) (.inr early)
  | abandoned d id cleanup stage =>
    rw [hc, Option.some.injEq] at cleanup
    subst cleanup
    exact unexpired rfl (.record id _ (by rw [stage]; rfl) rfl) (.inl (by rw [stage]; nofun))
  | expired d id rest cleanup stage next late =>
    rw [hc, Option.some.injEq] at cleanup
    subst cleanup
    refine ⟨_, some id, rfl, .expired id rest stage next, fun id' => ⟨?_, ?_⟩⟩
    · rintro ⟨-, c', rest', hc', -, next', -⟩
      change s.cleanup = some c' at hc'
      rw [hc, Option.some.injEq] at hc'
      rw [← hc', next] at next'
      rw [(List.cons.inj next').1]
    · rintro ⟨⟩
      exact ⟨rfl, c, rest, hc, stage, next, late⟩
  | released d id rest free cleanup stage next =>
    rw [hc, Option.some.injEq] at cleanup
    subst cleanup
    exact quiet rfl (.released id rest stage next) nofun
  | freeze d n free cleanup stage done =>
    rw [hc, Option.some.injEq] at cleanup
    subst cleanup
    exact quiet rfl (.freeze stage done) nofun
  | dismiss k d call stage =>
    refine quiet (d := c) ?_ .same nofun
    split <;> exact hc
  | _ => exact quiet hc .same nofun

/-! ### Runs -/

/-- The cleanup of the handles `handles` and the reservations `pending`, with what has expired in
the steps `ls` so far. -/
structure Reporting (handles pending : List String) (ls : List Label) (s : Server) : Prop where
  sound : s.Sound
  tracked : s.Tracked
  named : s.Named
  cleanup : ∃ c late, s.cleanup = some c ∧ c.Reports handles pending late ∧
    ∀ id, id ∈ late ↔ ∃ l ∈ ls, l.Expires id

theorem Reporting.step {handles pending : List String} {ls : List Label} {l : Label}
    (h : Reporting handles pending ls s) (hnew : l.NewId) (hl : Acts core s l t) :
    Reporting handles pending (ls ++ [l]) t := by
  have hsound := h.sound.step hl hnew
  obtain ⟨a, s, t⟩ := l
  obtain ⟨rfl, rfl, step⟩ := hl
  change Step core s a t at step
  obtain ⟨c, late, hc, hreports, hlate⟩ := h.cleanup
  obtain ⟨c', reported, hc', hturn, hexpires⟩ := step.turn h.named (h.tracked.started c hc) hc
  refine ⟨hsound, h.tracked.step h.sound.booked h.sound.staffed step, h.named.step h.sound step,
    c', _, hc', hreports.turn hturn, fun id => ?_⟩
  simp only [List.mem_append, hlate, Option.mem_toList, or_and_right, exists_or,
    List.mem_singleton, exists_eq_left, hexpires]

/-- The first caller of shutdown takes down the handles and the reservations. -/
theorem Step.reporting {n : ℕ} (h : Step core s (.shutdown n) t) (hs : s.Sound) (htracked : s.Tracked)
    (hnamed : s.Named) (running : s.registry.lifecycle = .running) :
    Reporting s.registry.handles.sortedKeys s.registry.pendingOpens.sortedKeys [] t := by
  have hsound : t.Sound := hs.step (l := ⟨_, s, t⟩) ⟨rfl, rfl, h⟩ (by simp [Label.NewId, NewId])
  refine ⟨hsound, htracked.step hs.booked hs.staffed h, hnamed.step hs h, ?_⟩
  cases h with
  | await _ free fresh unfrozen stopping => exact absurd running stopping
  | reuse _ report free call frozen =>
    have hcleanup : s.cleanup = none := by
      cases hc : s.cleanup with
      | none => rfl
      | some c => exact absurd running (htracked.started c hc)
    rw [(htracked.unstarted hcleanup).2] at frozen
    cases frozen
  | shutdown _ free fresh unfrozen _ =>
    exact ⟨_, [], rfl, ⟨⟨[], [], [], rfl, rfl, .slnil, rfl, rfl, fun _ => rfl⟩, nofun, nofun⟩, by simp⟩

/-- In a run that gives no id twice: the report has one entry for each handle that was
registered when the server stopped running, one for each reservation there was then that the
owner found still there before it found the deadline passed, and no other; and it goes up
strictly in the order of the handles. -/
theorem report_of_run {pre post : List Label} {l : Label} {n : ℕ} {report : ShutdownReport}
    (run : Run (Acts core) new (pre ++ l :: post) s) (hnew : ∀ l' ∈ pre ++ l :: post, l'.NewId)
    (begins : l.action = .shutdown n) (running : l.before.registry.lifecycle = .running)
    (frozen : s.registry.frozenReport = some report) :
    (report.workers.map WorkerShutdownEntry.handle).Pairwise (· < ·) ∧
      (∀ id ∈ l.before.registry.handles, ∃ e ∈ report.workers, e.handle = id) ∧
      (∀ id ∈ l.before.registry.pendingOpens,
        (∃ e ∈ report.workers, e.handle = id) ↔ ∃ l' ∈ post, l'.Expires id) ∧
      ∀ e ∈ report.workers, e.handle ∈ l.before.registry.handles ∨
        e.handle ∈ l.before.registry.pendingOpens ∧ e = .uncertain e.handle "pending-open" := by
  obtain ⟨t, before, after⟩ := run.append_inv
  obtain ⟨u, ⟨rfl, rfl, step⟩, after⟩ := after.cons_inv
  have hstart : l.before.Sound ∧ l.before.Tracked ∧ l.before.Named := by
    refine before.invariant (I := fun s => s.Sound ∧ s.Tracked ∧ s.Named) (G := Label.NewId) ?_
      (fun l' hl' => hnew l' (List.mem_append_left _ hl')) ⟨sound_new, tracked_new, named_new⟩
    rintro s l t ⟨hs, htracked, hnamed⟩ hl hlabel
    exact ⟨hs.step hlabel hl, htracked.step hs.booked hs.staffed hlabel.2.2, hnamed.step hs hlabel.2.2⟩
  -- the snapshot is that of the step that begins the shutdown
  rw [begins] at step
  have hbegin := step.reporting hstart.1 hstart.2.1 hstart.2.2 running
  obtain ⟨-, htracked, -, c, late, hc, hreports, hlate⟩ := after.log_invariant
    (I := Reporting l.before.registry.handles.sortedKeys l.before.registry.pendingOpens.sortedKeys)
    (G := Label.NewId) (fun ls s l t h hl step => h.step hl step)
    (fun l' hl' => hnew l' (List.mem_append_right _ (List.mem_cons_of_mem _ hl'))) hbegin
  rw [htracked.frozen c hc] at frozen
  split at frozen
  swap
  · cases frozen
  next hstage =>
  cases frozen
  obtain ⟨entries, hworkers, hentries, hsub⟩ := hreports.ended hstage
  have hmem : ∀ e, e ∈ c.report.workers ↔ e ∈ c.workers := fun e => List.mem_insertionSort _
  -- first the handles, in order, then the reservations that expired
  have hnames : c.workers.map WorkerShutdownEntry.handle =
      l.before.registry.handles.sortedKeys ++ late := by
    rw [hworkers, List.map_append, hentries, List.map_map]
    congr 1
    exact List.map_id late
  have hpending : ∀ id ∈ late, id ∈ l.before.registry.pendingOpens := fun id hid =>
    Table.mem_sortedKeys.mp (hsub.subset hid)
  have hreported : ∀ id, (∃ e ∈ c.report.workers, e.handle = id) ↔
      id ∈ l.before.registry.handles ∨ id ∈ late := by
    intro id
    simp only [hmem, ← List.mem_map, hnames, List.mem_append, Table.mem_sortedKeys]
  refine ⟨Cleanup.report_strict ?_, fun id hid => (hreported id).mpr (.inl hid), fun id hid => ?_,
    fun e he => ?_⟩
  -- a reservation of the snapshot is not a handle of it
  · rw [hnames, List.nodup_append]
    refine ⟨Table.nodup_sortedKeys _, hsub.nodup (Table.nodup_sortedKeys _), ?_⟩
    rintro id hid _ hid' rfl
    exact hstart.1.booked.disjoint (hpending id hid') (Table.mem_sortedKeys.mp hid)
  · rw [hreported, ← hlate]
    exact or_iff_right (hstart.1.booked.disjoint hid)
  · rw [hmem, hworkers, List.mem_append] at he
    rcases he with he | he
    · refine .inl (Table.mem_sortedKeys.mp ?_)
      rw [← hentries]
      exact List.mem_map_of_mem he
    · obtain ⟨id, hid, rfl⟩ := List.mem_map.mp he
      exact .inr ⟨hpending id hid, rfl⟩

/-! ### A reservation at the deadline -/

/-- The server when its first slot is reserved. -/
def reservedServer : Server :=
  new.withOpen (new.reservedRegistry 0 "local") 0 (new.reservedCall "local" Config.default)

theorem step_reserved : Step localProfile new
    (.reserve 0 "local" (.ok (new.reservedCall "local" Config.default).reservation)) reservedServer :=
  (admits_new (by decide) localProfile_admissionConfig).reserve

/-- The open takes longer than the shutdown may. -/
theorem report_of_run_pending : ∃ pre l post s report, Run (Acts localProfile) new (pre ++ l :: post) s ∧
    l.action = .shutdown 0 ∧ s.registry.frozenReport = some report ∧
    ∃ e ∈ report.workers, e.handle = handleName 1 := by
  have steps := step_reserved.cons <|
    (@Step.shutdown localProfile reservedServer 0 rfl (AList.notMem_empty _) rfl rfl).cons <|
    (Step.signal _ rfl rfl).cons <| (Step.visited _ rfl rfl rfl).cons <|
    (Step.pending _ (handleName 1) [] rfl rfl rfl rfl ((AList.mem_insert _).mpr (.inl rfl))).cons <|
    (Step.tick localProfile.shutdownTotal (Nat.zero_le _)).cons <|
    (Step.expired _ (handleName 1) [] rfl rfl rfl (Nat.le_of_eq (Nat.zero_add _))).cons <|
    (Step.freeze _ 0 rfl rfl rfl rfl (AList.lookup_insert _) _ rfl).run
  have hnew := newId_of_run steps (by rw [u64Max_eq]; decide)
  have hreport := report_of_run (show Run (Acts localProfile) new ([_] ++ _) _ from steps) hnew rfl rfl rfl
  refine ⟨[_], _, _, _, _, steps, rfl, rfl, (hreport.2.2.1 (handleName 1) ?_).mpr ?_⟩
  · exact (AList.mem_insert _).mpr (.inl rfl)
  · exact ⟨_, .tail _ <| .tail _ <| .tail _ <| .tail _ <| .head _, rfl, _, [], rfl, rfl, rfl,
      Nat.le_of_eq (Nat.zero_add _)⟩

/-- The open gives its slot back after the deadline and before the owner looks: it is not
reported. -/
theorem run_releasedLate : ∃ pre l post s report, Run (Acts localProfile) new (pre ++ l :: post) s ∧
    l.action = .shutdown 0 ∧ l.before.registry.lifecycle = .running ∧
    s.registry.frozenReport = some report ∧
    (∃ l' ∈ post, ∃ c, l'.before.cleanup = some c ∧ l'.before.now = c.deadline ∧
      handleName 1 ∈ l'.before.registry.pendingOpens) ∧
    ∀ e ∈ report.workers, e.handle ≠ handleName 1 := by
  have steps := step_reserved.cons <|
    (@Step.shutdown localProfile reservedServer 0 rfl (AList.notMem_empty _) rfl rfl).cons <|
    (Step.signal _ rfl rfl).cons <| (Step.visited _ rfl rfl rfl).cons <|
    (Step.tick localProfile.shutdownTotal (Nat.zero_le _)).cons <|
    (Step.open 0 _ _ (AList.lookup_insert _) (.panicked trivial)).cons <|
    (Step.finishOpen 0 _ _ _ rfl (AList.lookup_insert _) rfl).cons <|
    (Step.released _ (handleName 1) [] rfl rfl rfl rfl fun h => (AList.mem_erase.mp h).1 rfl).cons <|
    (Step.freeze _ 0 rfl rfl rfl rfl (AList.lookup_insert _) _ rfl).run
  refine ⟨[_], _, _, _, _, steps, rfl, rfl, rfl, ?_, nofun⟩
  exact ⟨_, .tail _ <| .tail _ <| .tail _ <| .head _, _, rfl, (Nat.zero_add _).symm,
    (AList.mem_insert _).mpr (.inl rfl)⟩

/-! ### A shutdown that is late -/

/-- Past the deadline the owner visits no worker. -/
theorem run_lateVisits (core : Core) {c : Cleanup} (cleanup : s.cleanup = some c)
    (stage : c.stage = .visiting)
    (late : c.deadline ≤ s.now) : ∃ ls, Run (Acts core) s ls (s.setCleanup { c with
      handles := [], workers := c.workers ++ c.handles.map (.uncertain · "deadline"),
      stage := .draining }) := by
  generalize hhandles : c.handles = handles
  induction handles generalizing s c with
  | nil =>
    rw [List.map_nil, List.append_nil, ← hhandles]
    exact ⟨_, (Step.visited c cleanup stage hhandles).run⟩
  | cons id rest ih =>
    have hstep := @Step.late core s c id rest cleanup stage hhandles late
    obtain ⟨ls, run⟩ := ih (c := { c with handles := rest }.record (.uncertain id "deadline"))
      (s := s.setCleanup ({ c with handles := rest }.record (.uncertain id "deadline"))) rfl rfl late rfl
    rw [List.map_cons, List.append_cons]
    exact ⟨_, hstep.cons run⟩

/-- Past the deadline the owner reports the reservations it finds. -/
theorem run_lateLooks (core : Core) {c : Cleanup} (free : s.stuck = false) (cleanup : s.cleanup = some c)
    (stage : c.stage = .draining) (late : c.deadline ≤ s.now)
    (there : ∀ id ∈ c.pending, id ∈ s.registry.pendingOpens) :
    ∃ ls, Run (Acts core) s ls (s.setCleanup { c with
      pending := [], workers := c.workers ++ c.pending.map (.uncertain · "pending-open"),
      stage := .draining }) := by
  generalize hpending : c.pending = pending at there
  induction pending generalizing s c with
  | nil =>
    refine ⟨[], ?_⟩
    rw [List.map_nil, List.append_nil, ← hpending, ← stage]
    have hsame : s.setCleanup c = s := by
      unfold setCleanup
      rw [← cleanup]
    rw [hsame]
    exact .nil s
  | cons id rest ih =>
    have hpend := @Step.pending core s c id rest free cleanup stage hpending
      (there id (List.mem_cons_self ..))
    have hexpire := @Step.expired core (s.setCleanup { c with stage := .stillPending }) _ id rest rfl rfl
      hpending late
    obtain ⟨ls, run⟩ := ih (c := { c with
        pending := rest, workers := c.workers ++ [.uncertain id "pending-open"], stage := .draining })
      (s := s.setCleanup { c with
        pending := rest, workers := c.workers ++ [.uncertain id "pending-open"], stage := .draining })
      free rfl rfl late rfl (fun id' hid' => there id' (List.mem_cons_of_mem _ hid'))
    rw [List.map_cons, List.append_cons]
    exact ⟨_, hpend.cons (hexpire.cons run)⟩

/-- An id is registered and reserved when a shutdown begins, and the deadline passes: the id is
reported twice. -/
theorem run_reportedTwice : ∃ pre l post s report, Run (Acts localProfile) new (pre ++ l :: post) s ∧
    (∃ n, l.action = .shutdown n) ∧ l.before.registry.lifecycle = .running ∧
    s.registry.frozenReport = some report ∧
    ¬ (report.workers.map WorkerShutdownEntry.handle).Pairwise (· < ·) := by
  obtain ⟨pre, s, run, free, running, id, hpending, hhandles⟩ := run_reservedTwice
  obtain ⟨n, c, l, ls₁, s₁, run₁, haction, hbefore, begun⟩ :=
    (elected_of_run run).begin localProfile free running
  have htick := @Step.tick localProfile s₁ (s₁.now + c.deadline) (Nat.le_add_right _ _)
  obtain ⟨ls₂, run₂⟩ := run_lateVisits localProfile
    (s := { s₁ with now := s₁.now + c.deadline }) begun.cleanup begun.stage (Nat.le_add_left _ _)
  obtain ⟨ls₃, run₃⟩ := run_lateLooks localProfile
    (s := setCleanup { s₁ with now := s₁.now + c.deadline } { c with
      handles := [], workers := c.workers ++ c.handles.map (.uncertain · "deadline"),
      stage := .draining }) begun.free rfl rfl (Nat.le_add_left _ _) (fun id' hid' => by
        rw [begun.pending, Table.mem_sortedKeys] at hid'
        exact begun.opens ▸ hid')
  generalize hlast : ({ c with
      handles := [], pending := [], workers := c.workers ++ c.handles.map (.uncertain · "deadline") ++
        c.pending.map (.uncertain · "pending-open"), stage := .draining } : Cleanup) = last at run₃
  have hworkers : last.workers = c.handles.map (.uncertain · "deadline") ++
      c.pending.map (.uncertain · "pending-open") := by
    rw [← hlast, begun.workers]
    rfl
  have hreport : s₁.registry.frozenReport.getD last.report = last.report := by
    rw [begun.unfrozen]
    rfl
  have hfreeze := @Step.freeze localProfile (setCleanup { s₁ with now := s₁.now + c.deadline } last)
    last n begun.free rfl (by rw [← hlast]) (by rw [← hlast]) begun.owner last.report hreport.symm
  refine ⟨pre, l, _, _, last.report,
    run.append (run₁.append (htick.cons (run₂.append (run₃.append hfreeze.run)))), ⟨n, haction⟩,
    hbefore ▸ running, rfl, fun hstrict => ?_⟩
  have hmem : ∀ e, e ∈ last.report.workers ↔ e ∈ last.workers := fun e => List.mem_insertionSort _
  have hinj := List.inj_on_of_nodup_map (hstrict.imp ne_of_lt)
  have hboth := @hinj (.uncertain id "deadline") ?_ (.uncertain id "pending-open") ?_ rfl
  · simp [WorkerShutdownEntry.uncertain] at hboth
  · rw [hmem, hworkers, List.mem_append]
    refine .inl (List.mem_map_of_mem ?_)
    rw [begun.handles, Table.mem_sortedKeys]
    exact hhandles
  · rw [hmem, hworkers, List.mem_append]
    refine .inr (List.mem_map_of_mem ?_)
    rw [begun.pending, Table.mem_sortedKeys]
    exact hpending

/-- A reservation that is there at the deadline has no entry; an id that is given twice has
two. -/
theorem report_incomplete :
    (∃ pre l post s report, Run (Acts localProfile) new (pre ++ l :: post) s ∧
      l.action = .shutdown 0 ∧ l.before.registry.lifecycle = .running ∧
      s.registry.frozenReport = some report ∧
      (∃ l' ∈ post, ∃ c, l'.before.cleanup = some c ∧ l'.before.now = c.deadline ∧
        handleName 1 ∈ l'.before.registry.pendingOpens) ∧
      ∀ e ∈ report.workers, e.handle ≠ handleName 1) ∧
    ∃ pre l post s report, Run (Acts localProfile) new (pre ++ l :: post) s ∧
      (∃ n, l.action = .shutdown n) ∧ l.before.registry.lifecycle = .running ∧
      s.registry.frozenReport = some report ∧
      ¬ (report.workers.map WorkerShutdownEntry.handle).Pairwise (· < ·) :=
  ⟨run_releasedLate, run_reportedTwice⟩

end Server

end PgMcp
