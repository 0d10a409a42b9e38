import PgMcp.Core.Limits

/-!
# One owner, one report

The first caller of shutdown moves the server out of its running state and owns the cleanup;
the others wait for its report.  Registration, reservation and admission look at the
lifecycle behind the same lock, so that what the owner finds when it takes the lock is all
there is to clean up.

## Main definitions

* `Server.Election` — what a step does to the lifecycle, the report and the callers.
* `Server.Elected` — who owns the cleanup, and what the others return.
* `Label.Sealed` — a step registers nothing, reserves nothing and sends no operation.

## Main results

* `shutdown_of_run` — one owner and one report in every run, and nothing is admitted once
  the server is not running.
-/

namespace PgMcp

open Program

/-- The operations a queue holds. -/
def Thread.operations (t : Thread) : List (ℕ × Operation) :=
  t.queue.filterMap fun
    | .operation call op => some (call, op)
    | .shutdown _ => none

theorem Thread.operations_shutdown (t : Thread) (reply : Bool) :
    (t.push (.shutdown reply)).operations = t.operations := by
  unfold operations push
  rw [List.filterMap_append]
  exact List.append_nil _

/-- The lifecycle goes from running to stopping to stopped. -/
def RegistryLifecycle.Next (before after : RegistryLifecycle) : Prop :=
  after = before ∨ (before = .running ∧ after = .stopping) ∨ (before = .stopping ∧ after = .stopped)

namespace Server

variable {core : Core} {s t : Server} {ls : List Label}

/-- The operations in the queue of thread `k`. -/
def operations (s : Server) (k : ℕ) : List (ℕ × Operation) :=
  ((s.threads.lookup k).map Thread.operations).getD []

/-! ### The callers of shutdown -/

/-- What a step does to the lifecycle, the frozen report and the callers of shutdown. -/
inductive Election (s t : Server) : Prop where
  | same (lifecycle : t.registry.lifecycle = s.registry.lifecycle)
      (frozen : t.registry.frozenReport = s.registry.frozenReport)
      (shutdowns : t.shutdowns = s.shutdowns)
      (cleanup : t.cleanup = s.cleanup ∨ ∃ c c', s.cleanup = some c ∧ t.cleanup = some c' ∧
        c.stage ≠ .reported ∧ c'.stage ≠ .reported)
  | elected (n : ℕ) (c : Cleanup) (fresh : n ∉ s.shutdowns) (running : s.registry.lifecycle = .running)
      (stopping : t.registry.lifecycle = .stopping) (unfrozen : s.registry.frozenReport = none)
      (frozen : t.registry.frozenReport = none) (shutdowns : t.shutdowns = s.shutdowns.insert n .owner)
      (cleanup : t.cleanup = some c) (stage : c.stage = .signalling)
  | waits (n : ℕ) (fresh : n ∉ s.shutdowns) (registry : t.registry = s.registry)
      (shutdowns : t.shutdowns = s.shutdowns.insert n .waiting) (cleanup : t.cleanup = s.cleanup)
  | reuses (n : ℕ) (report : ShutdownReport)
      (call : s.shutdowns.lookup n = some .waiting ∨ n ∉ s.shutdowns)
      (frozen : s.registry.frozenReport = some report) (registry : t.registry = s.registry)
      (shutdowns : t.shutdowns = s.shutdowns.insert n (.returned report))
      (cleanup : t.cleanup = s.cleanup)
  | freezes (n : ℕ) (c c' : Cleanup) (report : ShutdownReport)
      (before : s.cleanup = some c) (stage : c.stage = .draining)
      (owner : s.shutdowns.lookup n = some .owner)
      (same : report = s.registry.frozenReport.getD c.report)
      (stopped : t.registry.lifecycle = .stopped) (frozen : t.registry.frozenReport = some report)
      (shutdowns : t.shutdowns = s.shutdowns.insert n (.returned report))
      (after : t.cleanup = some c') (reported : c'.stage = .reported)

theorem Step.election {a : Action} (h : Step core s a t) : Election s t := by
  have goes : ∀ {c c' : Cleanup}, s.cleanup = some c → t.cleanup = some c' → c.stage ≠ .reported →
      c'.stage ≠ .reported → t.cleanup = s.cleanup ∨ ∃ c c', s.cleanup = some c ∧
        t.cleanup = some c' ∧ c.stage ≠ .reported ∧ c'.stage ≠ .reported :=
    fun before after hc hc' => .inr ⟨_, _, before, after, hc, hc'⟩
  cases h with
  | reserved k profile reservation r free fresh result =>
    obtain ⟨-, -, -, -, -, rfl⟩ := Core.reserveOpen_ok result
    exact .same rfl rfl rfl (.inl rfl)
  | published k c config published r free call stage result =>
    unfold Registry.publishOpen at result
    split_ifs at result
    cases result
    exact .same rfl rfl rfl (.inl rfl)
  | dismiss =>
    refine .same ?_ ?_ ?_ (.inl ?_) <;> split <;> rfl
  | admitted n c k r free call stage result | unadmitted n c failure r free call stage result =>
    obtain ⟨r', hr, hadmission⟩ := Admission.of_returns result
    cases hr
    obtain ⟨hlifecycle, -, -, hfrozen, -⟩ := hadmission.frames
    exact .same hlifecycle hfrozen rfl (.inl rfl)
  | shutdown n free fresh unfrozen running =>
    exact .elected n _ fresh running rfl unfrozen unfrozen rfl rfl rfl
  | await n free fresh => exact .waits n fresh rfl rfl rfl
  | reuse n report free call frozen => exact .reuses n report call frozen rfl rfl rfl
  | signal c cleanup stage | late c id rest cleanup stage | visit c id rest cleanup stage
  | visited c cleanup stage | missing c id free cleanup stage | closed c id entry free cleanup stage
  | live c id entry free cleanup stage | joined c id free cleanup stage
  | unjoined c id free cleanup stage | rejoin c id cleanup stage | abandoned c id cleanup stage
  | enqueue c id k cleanup stage | unreceived c id k cleanup stage | unsent c id k cleanup stage
  | check c id k cleanup stage | overdue c id k cleanup stage | answered c id k entry cleanup stage
  | dropped c id k cleanup stage | unanswered c id k cleanup stage
  | join c id entry free cleanup stage | unready c id entry free cleanup stage
  | pending c id rest free cleanup stage | repoll c cleanup stage
  | expired c id rest cleanup stage =>
    exact .same rfl rfl rfl (goes cleanup rfl (by rw [stage]; nofun) nofun)
  | released c id rest free cleanup stage =>
    exact .same rfl rfl rfl (goes cleanup rfl (by rw [stage]; nofun) (by simp [stage]))
  | freeze c n free cleanup stage done owner report same =>
    exact .freezes n c _ report cleanup stage owner same rfl rfl rfl rfl rfl
  | _ => exact .same rfl rfl rfl (.inl rfl)

/-- Who owns the cleanup, and what the others return. -/
structure Elected (s : Server) : Prop where
  unstarted : s.cleanup = none → s.registry.lifecycle = .running ∧ s.registry.frozenReport = none ∧
    ∀ n, s.shutdowns.lookup n ≠ some .owner
  started : ∀ c, s.cleanup = some c → c.stage ≠ .reported →
    s.registry.lifecycle = .stopping ∧ s.registry.frozenReport = none
  reported : ∀ c, s.cleanup = some c → c.stage = .reported → s.registry.lifecycle = .stopped ∧
    s.registry.frozenReport ≠ none ∧ ∀ n, s.shutdowns.lookup n ≠ some .owner
  unique : ∀ m n, s.shutdowns.lookup m = some .owner → s.shutdowns.lookup n = some .owner → m = n
  returned : ∀ n report, s.shutdowns.lookup n = some (.returned report) →
    s.registry.frozenReport = some report

theorem elected_new : new.Elected where
  unstarted _ := ⟨rfl, rfl, fun n h => by simp [new] at h⟩
  started c h := by cases h
  reported c h := by cases h
  unique m n h := by simp [new] at h
  returned n report h := by simp [new] at h

/-- The server runs as long as nobody cleans up. -/
theorem Elected.not_running (h : s.Elected) {c : Cleanup} (hc : s.cleanup = some c) :
    s.registry.lifecycle ≠ .running := by
  by_cases hstage : c.stage = .reported
  · rw [(h.reported c hc hstage).1]
    nofun
  · rw [(h.started c hc hstage).1]
    nofun

/-- Another caller does not become the owner. -/
theorem Elected.call (h : s.Elected) {n : ℕ} (call : ShutdownCall) (other : call ≠ .owner)
    (registry : t.registry = s.registry) (cleanup : t.cleanup = s.cleanup)
    (shutdowns : t.shutdowns = s.shutdowns.insert n call)
    (returned : ∀ report, call = .returned report → s.registry.frozenReport = some report) :
    t.Elected := by
  have howner : ∀ m, t.shutdowns.lookup m = some .owner → s.shutdowns.lookup m = some .owner := by
    intro m hm
    rw [shutdowns, Table.lookup_insert] at hm
    split at hm
    · cases hm
      exact absurd rfl other
    · exact hm
  constructor
  · intro hc
    rw [cleanup] at hc
    rw [registry]
    obtain ⟨hlifecycle, hfrozen, hnone⟩ := h.unstarted hc
    exact ⟨hlifecycle, hfrozen, fun m hm => hnone m (howner m hm)⟩
  · intro c hc
    rw [cleanup] at hc
    rw [registry]
    exact h.started c hc
  · intro c hc hstage
    rw [cleanup] at hc
    rw [registry]
    obtain ⟨hlifecycle, hfrozen, hnone⟩ := h.reported c hc hstage
    exact ⟨hlifecycle, hfrozen, fun m hm => hnone m (howner m hm)⟩
  · exact fun m k hm hk => h.unique m k (howner m hm) (howner k hk)
  · intro m report hm
    rw [registry]
    rw [shutdowns, Table.lookup_insert] at hm
    split at hm
    · cases hm
      exact returned report rfl
    · exact h.returned m report hm

/-- The owner and the report after a step. -/
theorem Elected.step (h : s.Elected) {a : Action} (step : Step core s a t) : t.Elected := by
  cases step.election with
  | same lifecycle frozen shutdowns cleanup =>
    refine ⟨fun hc => ?_, fun c hc hstage => ?_, fun c hc hstage => ?_, ?_, ?_⟩
    · rw [lifecycle, frozen, shutdowns]
      rcases cleanup with hsame | ⟨d, d', -, hd', -⟩
      · exact h.unstarted (hsame ▸ hc)
      · rw [hd'] at hc
        cases hc
    · rw [lifecycle, frozen]
      rcases cleanup with hsame | ⟨d, d', hd, -, hgoing, -⟩
      · exact h.started c (hsame ▸ hc) hstage
      · exact h.started d hd hgoing
    · rw [lifecycle, frozen, shutdowns]
      rcases cleanup with hsame | ⟨d, d', -, hd', -, hgoing⟩
      · exact h.reported c (hsame ▸ hc) hstage
      · rw [hd', Option.some.injEq] at hc
        exact absurd (hc ▸ hstage) hgoing
    · rw [shutdowns]
      exact h.unique
    · rw [shutdowns, frozen]
      exact h.returned
  | elected n c fresh running stopping unfrozen frozen shutdowns cleanup stage =>
    -- while the server runs nobody owns the cleanup
    have hnone : ∀ m, s.shutdowns.lookup m ≠ some .owner := by
      cases hc : s.cleanup with
      | none => exact (h.unstarted hc).2.2
      | some d => exact absurd running (h.not_running hc)
    have howner : ∀ m, t.shutdowns.lookup m = some .owner → m = n := by
      intro m hm
      rw [shutdowns, Table.lookup_insert] at hm
      split at hm
      · next heq => exact heq
      · exact absurd hm (hnone m)
    refine ⟨fun hc => ?_, fun d hd _ => ⟨stopping, frozen⟩, fun d hd hstage => ?_, ?_, ?_⟩
    · rw [cleanup] at hc
      cases hc
    · rw [cleanup, Option.some.injEq] at hd
      rw [← hd, stage] at hstage
      cases hstage
    · exact fun m k hm hk => (howner m hm).trans (howner k hk).symm
    · intro m report hm
      rw [shutdowns, Table.lookup_insert] at hm
      split at hm
      · cases hm
      · have := h.returned m report hm
        rw [unfrozen] at this
        cases this
  | waits n fresh registry shutdowns cleanup =>
    exact h.call .waiting nofun registry cleanup shutdowns nofun
  | reuses n report call frozen registry shutdowns cleanup =>
    refine h.call (.returned report) nofun registry cleanup shutdowns fun report' heq => ?_
    cases heq
    exact frozen
  | freezes n c c' report before stage owner same stopped frozen shutdowns after reported =>
    have hunfrozen : s.registry.frozenReport = none :=
      (h.started c before (by rw [stage]; nofun)).2
    refine ⟨fun hc => ?_, fun d hd hstage => ?_, fun d hd _ => ⟨stopped, ?_, fun m hm => ?_⟩,
      fun m k hm hk => ?_, fun m report' hm => ?_⟩
    · rw [after] at hc
      cases hc
    · rw [after, Option.some.injEq] at hd
      exact absurd (hd ▸ reported) hstage
    · rw [frozen]
      nofun
    · rw [shutdowns, Table.lookup_insert] at hm
      split at hm
      · cases hm
      · next hne => exact hne (h.unique m n hm owner)
    · rw [shutdowns, Table.lookup_insert] at hm
      split at hm
      · cases hm
      · next hne => exact absurd (h.unique m n hm owner) hne
    · rw [frozen]
      rw [shutdowns, Table.lookup_insert] at hm
      split at hm
      · cases hm
        rfl
      · have := h.returned m report' hm
        rw [hunfrozen] at this
        cases this

/-- The lifecycle only moves on. -/
theorem Elected.next (h : s.Elected) {a : Action} (step : Step core s a t) :
    s.registry.lifecycle.Next t.registry.lifecycle := by
  cases step.election with
  | same lifecycle => exact .inl lifecycle
  | elected n c fresh running stopping => exact .inr (.inl ⟨running, stopping⟩)
  | waits n fresh registry | reuses n report call frozen registry =>
    exact .inl (congrArg Registry.lifecycle registry)
  | freezes n c c' report before stage owner same stopped =>
    exact .inr (.inr ⟨(h.started c before (by rw [stage]; nofun)).1, stopped⟩)

/-- A frozen report stays as it is. -/
theorem Elected.frozen (h : s.Elected) {a : Action} (step : Step core s a t)
    {report : ShutdownReport} (hfrozen : s.registry.frozenReport = some report) :
    t.registry.frozenReport = some report := by
  cases step.election with
  | same _ frozen => exact frozen.trans hfrozen
  | elected n c fresh running stopping unfrozen =>
    rw [hfrozen] at unfrozen
    cases unfrozen
  | waits n fresh registry | reuses n report call frozen registry =>
    exact (congrArg Registry.frozenReport registry).trans hfrozen
  | freezes n c c' report' before stage =>
    have := (h.started c before (by rw [stage]; nofun)).2
    rw [hfrozen] at this
    cases this

theorem elected_of_run (run : Run (Acts core) new ls s) : s.Elected := by
  refine run.invariant (I := Elected) (G := fun _ => True) ?_ (fun _ _ => trivial) elected_new
  exact fun s l t hs _ hl => hs.step hl.2.2

/-- A frozen report stays as it is to the end of the run. -/
theorem Elected.frozen_of_run (h : s.Elected) (run : Run (Acts core) s ls t) {report : ShutdownReport}
    (frozen : s.registry.frozenReport = some report) : t.registry.frozenReport = some report := by
  refine (run.invariant (I := fun s => s.Elected ∧ s.registry.frozenReport = some report)
    (G := fun _ => True) ?_ (fun _ _ => trivial) ⟨h, frozen⟩).2
  exact fun s l t hs _ hl => ⟨hs.1.step hl.2.2, hs.1.frozen hl.2.2 hs.2⟩

/-! ### The owner -/

/-- Caller `n` owns the cleanup after one of the steps. -/
def Owns (ls : List Label) (n : ℕ) : Prop :=
  ∃ l ∈ ls, l.after.shutdowns.lookup n = some .owner

/-- The owner of the cleanup, from the steps so far. -/
structure Ownership (ls : List Label) (s : Server) : Prop where
  elected : s.Elected
  now : ∀ n, s.shutdowns.lookup n = some .owner → Owns ls n
  unique : ∀ m n, Owns ls m → Owns ls n → m = n
  idle : s.registry.lifecycle = .running → ∀ n, ¬ Owns ls n

theorem ownership_new : Ownership [] new where
  elected := elected_new
  now n h := by simp [new] at h
  unique m n h := by
    obtain ⟨l, hl, -⟩ := h
    cases hl
  idle _ n h := by
    obtain ⟨l, hl, -⟩ := h
    cases hl

theorem Owns.append {l : Label} {n : ℕ} :
    Owns (ls ++ [l]) n ↔ Owns ls n ∨ l.after.shutdowns.lookup n = some .owner := by
  simp [Owns, or_and_right, exists_or]

/-- A step makes no new owner, or the server was running before it. -/
theorem Election.owner (h : Election s t) :
    (∀ m, t.shutdowns.lookup m = some .owner → s.shutdowns.lookup m = some .owner) ∧
        (t.registry.lifecycle = .running → s.registry.lifecycle = .running) ∨
      s.registry.lifecycle = .running ∧ t.registry.lifecycle ≠ .running := by
  have hinsert : ∀ {n : ℕ} (call : ShutdownCall), call ≠ .owner →
      t.shutdowns = s.shutdowns.insert n call →
        ∀ m, t.shutdowns.lookup m = some .owner → s.shutdowns.lookup m = some .owner := by
    intro n call other shutdowns m hm
    rw [shutdowns, Table.lookup_insert] at hm
    split at hm
    · cases hm
      exact absurd rfl other
    · exact hm
  cases h with
  | same lifecycle frozen shutdowns =>
    refine .inl ⟨fun m hm => ?_, fun h => lifecycle ▸ h⟩
    rwa [shutdowns] at hm
  | elected n c fresh running stopping =>
    refine .inr ⟨running, ?_⟩
    rw [stopping]
    nofun
  | waits n fresh registry shutdowns =>
    exact .inl ⟨hinsert .waiting nofun shutdowns, fun h => registry ▸ h⟩
  | reuses n report call frozen registry shutdowns =>
    exact .inl ⟨hinsert (.returned report) nofun shutdowns, fun h => registry ▸ h⟩
  | freezes n c c' report before stage owner same stopped frozen shutdowns =>
    refine .inl ⟨hinsert (.returned report) nofun shutdowns, fun h => ?_⟩
    rw [stopped] at h
    cases h

/-- The owner after a step. -/
theorem Ownership.step (h : Ownership ls s) {l : Label} (hl : Acts core s l t) :
    Ownership (ls ++ [l]) t := by
  obtain ⟨rfl, rfl, step⟩ := hl
  have helected := h.elected.step step
  have hcases : ∀ n, Owns (ls ++ [l]) n → Owns ls n ∨ l.after.shutdowns.lookup n = some .owner :=
    fun n => Owns.append.mp
  refine ⟨helected, fun n hn => Owns.append.mpr (.inr hn), fun m n hm hn => ?_, fun hrunning n hn => ?_⟩
  · rcases step.election.owner with ⟨howner, -⟩ | ⟨hrunning, -⟩
    · have hbefore : ∀ n, Owns (ls ++ [l]) n → Owns ls n := fun n hn =>
        (hcases n hn).elim (fun h => h) fun hafter => h.now n (howner n hafter)
      exact h.unique m n (hbefore m hm) (hbefore n hn)
    · have hafter : ∀ n, Owns (ls ++ [l]) n → l.after.shutdowns.lookup n = some .owner := fun n hn =>
        (hcases n hn).resolve_left (h.idle hrunning n)
      exact helected.unique m n (hafter m hm) (hafter n hn)
  · rcases step.election.owner with ⟨howner, hback⟩ | ⟨-, hleft⟩
    · refine h.idle (hback hrunning) n ?_
      exact (hcases n hn).elim (fun h => h) fun hafter => h.now n (howner n hafter)
    · exact hleft hrunning

theorem ownership_of_run (run : Run (Acts core) new ls s) : Ownership ls s := by
  refine run.log_invariant (I := Ownership) (G := fun _ => True) ?_ (fun _ _ => trivial) ownership_new
  exact fun ls s l t hs _ hl => hs.step hl

/-! ### Nothing is admitted -/

/-- The step registers nothing, reserves nothing and sends no operation. -/
structure Label.Sealed (l : Label) : Prop where
  handles : ∀ id ∈ l.after.registry.handles, id ∈ l.before.registry.handles
  reservations : ∀ id ∈ l.after.registry.pendingOpens, id ∈ l.before.registry.pendingOpens
  opens : ∀ k ∈ l.after.opens, k ∈ l.before.opens
  queues : ∀ k, l.after.operations k <:+ l.before.operations k

theorem operations_of_eq (threads : t.threads = s.threads) (k : ℕ) :
    t.operations k <:+ s.operations k := by
  unfold operations
  rw [threads]

/-- A thread that goes on keeps the end of its queue. -/
theorem operations_of_modify {j : ℕ} {f : Thread → Thread} (threads : t.threads = s.threads.modify j f)
    (h : ∀ thread, s.threads.lookup j = some thread → (f thread).operations <:+ thread.operations)
    (k : ℕ) : t.operations k <:+ s.operations k := by
  unfold operations
  rw [threads, Table.lookup_modify]
  split
  · next heq =>
    subst heq
    cases hk : s.threads.lookup k with
    | none => exact List.suffix_refl _
    | some thread => exact h thread hk
  · exact List.suffix_refl _

/-- The queues of a server that is not running only get shorter. -/
theorem Step.queues {a : Action} (h : Step core s a t) (stopping : s.registry.lifecycle ≠ .running)
    (k : ℕ) : t.operations k <:+ s.operations k := by
  cases h with
  | spawn k' c config database backend call stage =>
    unfold operations
    change (((s.threads.insert k' _).lookup k).map Thread.operations).getD [] <:+ _
    rw [Table.lookup_insert]
    split
    · exact List.nil_suffix
    · exact List.suffix_refl _
  | dismiss k' c call stage =>
    split
    · refine operations_of_modify (j := k') (f := Thread.push (.shutdown false)) rfl
        (fun thread _ => ?_) k
      rw [thread.operations_shutdown]
    · exact operations_of_eq rfl k
  | admitted n c thread r free call stage result =>
    obtain ⟨r', -, hadmission⟩ := Admission.of_returns result
    cases hadmission with
    | sent entry running => exact absurd running stopping
  | take k' thread request rest lookup stage queue =>
    refine operations_of_modify (j := k') rfl (fun thread' hthread => ?_) k
    rw [lookup, Option.some.injEq] at hthread
    subst hthread
    unfold Thread.operations
    rw [queue]
    exact List.IsSuffix.filterMap _ (List.suffix_cons request rest)
  | leave k' thread =>
    refine operations_of_modify (j := k') rfl ?_ k
    exact fun _ _ => List.nil_suffix
  | enqueue c id k' cleanup stage room =>
    refine operations_of_modify (j := k') (f := Thread.push (.shutdown true)) rfl
      (fun thread _ => ?_) k
    rw [thread.operations_shutdown]
  | execute k' | record k' | settle k' | reply k' | release k' | clean k' | close k' | report k'
  | finish k' =>
    refine operations_of_modify (j := k') rfl ?_ k
    exact fun _ _ => List.suffix_refl _
  | _ => exact operations_of_eq rfl k

/-- A step of a server that is not running admits nothing. -/
theorem Label.Sealed.of_step {l : Label} (h : Step core l.before l.action l.after)
    (stopping : l.before.registry.lifecycle ≠ .running) : l.Sealed := by
  obtain ⟨a, s, t⟩ := l
  change Step core s a t at h
  have hqueues := h.queues stopping
  cases ha : a.isOpen with
  | false =>
    have frames := h.frames ha
    refine ⟨fun id hid => (Table.mem_of_view frames.handles).mp hid, fun id hid => ?_,
      fun k hk => (Table.mem_of_view frames.opens).mp hk, hqueues⟩
    rw [frames.pending] at hid
    exact hid
  | true =>
    cases h with
    | reserved k profile reservation r free fresh result =>
      obtain ⟨config, running, -⟩ := Core.reserveOpen_ok result
      exact absurd running stopping
    | published k c config published r free call stage result =>
      unfold Registry.publishOpen at result
      rw [if_pos stopping] at result
      cases result
    | finishOpen k c refusal backend =>
      refine ⟨fun id hid => hid, fun id hid => (AList.mem_erase.mp hid).2, fun k hk => ?_, hqueues⟩
      exact Table.mem_modify.mp hk
    | dismiss k c =>
      refine ⟨fun id hid => ?_, fun id hid => ?_, fun k' hk => ?_, hqueues⟩
      · revert hid
        simp only [setOpen]
        split <;> exact fun hid => hid
      · revert hid
        simp only [setOpen]
        split <;> exact fun hid => hid
      · have := Table.mem_modify.mp hk
        split at this <;> exact this
    | «open» | spawn | unpublished =>
      exact ⟨fun id hid => hid, fun id hid => hid, fun k hk => Table.mem_modify.mp hk, hqueues⟩
    | unreserved => exact ⟨fun id hid => hid, fun id hid => hid, fun k hk => hk, hqueues⟩
    | _ => cases ha

/-! ### The beginning of a cleanup -/

/-- The server `s` when caller `n` of shutdown owns the cleanup and has cancelled its token. -/
structure Begun (core : Core) (s : Server) (n : ℕ) (c : Cleanup) (t : Server) : Prop where
  free : t.stuck = false
  cleanup : t.cleanup = some c
  stage : c.stage = .visiting
  deadline : c.deadline = s.now + core.shutdownTotal
  handles : c.handles = s.registry.handles.sortedKeys
  pending : c.pending = s.registry.pendingOpens.sortedKeys
  workers : c.workers = []
  entries : t.registry.handles = s.registry.handles
  opens : t.registry.pendingOpens = s.registry.pendingOpens
  unfrozen : t.registry.frozenReport = none
  threads : t.threads = s.threads
  now : t.now = s.now
  owner : t.shutdowns.lookup n = some .owner

/-- A running server can be shut down. -/
theorem Elected.begin (h : s.Elected) (core : Core) (free : s.stuck = false)
    (running : s.registry.lifecycle = .running) : ∃ n c l ls t, Run (Acts core) s (l :: ls) t ∧
      l.action = .shutdown n ∧ l.before = s ∧ Begun core s n c t := by
  have hcleanup : s.cleanup = none := by
    cases hc : s.cleanup with
    | none => rfl
    | some c => exact absurd running (h.not_running hc)
  obtain ⟨-, hunfrozen, -⟩ := h.unstarted hcleanup
  obtain ⟨n, hn⟩ := s.shutdowns.exists_fresh
  have hshutdown := @Step.shutdown core s n free hn hunfrozen running
  have hsignal := @Step.signal core
    { s with
      registry := { s.registry with lifecycle := .stopping }
      opens := s.cancelPending
      shutdowns := s.shutdowns.insert n .owner
      cleanup := some
        { deadline := s.now + core.shutdownTotal
          handles := s.registry.handles.sortedKeys
          pending := s.registry.pendingOpens.sortedKeys
          workers := []
          stage := .signalling } } _ rfl rfl
  exact ⟨n, _, _, _, _, hshutdown.cons hsignal.run, rfl, rfl, free, rfl, rfl, rfl, rfl, rfl, rfl, rfl,
    rfl, hunfrozen, rfl, rfl, AList.lookup_insert _⟩

/-! ### Every run -/

/-- In every run the lifecycle only moves on, one caller at most owns the cleanup, every caller
returns the frozen report, which stays as it is, and nothing is admitted once the server is
not running. -/
theorem shutdown_of_run (run : Run (Acts core) new ls s) :
    (∀ l ∈ ls, l.before.registry.lifecycle.Next l.after.registry.lifecycle) ∧
      (∀ m n, Owns ls m → Owns ls n → m = n) ∧
      (∀ l ∈ ls, ∀ n report, l.after.shutdowns.lookup n = some (.returned report) →
        s.registry.frozenReport = some report) ∧
      (∀ l ∈ ls, ∀ report, l.before.registry.frozenReport = some report →
        l.after.registry.frozenReport = some report) ∧
      ∀ l ∈ ls, l.before.registry.lifecycle ≠ .running → l.Sealed := by
  have hstep : ∀ l ∈ ls, l.before.Elected ∧ Step core l.before l.action l.after := by
    intro l hl
    obtain ⟨pre, post, -, before, step, -⟩ := reached_of_mem run hl
    exact ⟨elected_of_run before, step⟩
  have hrest : ∀ l ∈ ls, ∃ post, Run (Acts core) l.after post s := by
    intro l hl
    obtain ⟨pre, post, t, t', -, -, ⟨-, rfl, -⟩, rest⟩ := run.mem_step hl
    exact ⟨post, rest⟩
  refine ⟨fun l hl => ?_, (ownership_of_run run).unique, fun l hl n report hreturned => ?_,
    fun l hl report => ?_, fun l hl => ?_⟩
  · exact (hstep l hl).1.next (hstep l hl).2
  · have helected := (hstep l hl).1.step (hstep l hl).2
    obtain ⟨post, rest⟩ := hrest l hl
    exact helected.frozen_of_run rest (helected.returned n report hreturned)
  · exact (hstep l hl).1.frozen (hstep l hl).2
  · exact .of_step (hstep l hl).2

/-- Two callers of shutdown on a server without handles. -/
theorem shutdown_of_run_two : ∃ ls s, Run (Acts localProfile) new ls s ∧
    s.shutdowns.lookup 0 = some (.returned { workers := [] }) ∧
    s.shutdowns.lookup 1 = some (.returned { workers := [] }) ∧
    ∀ l ∈ ls, l.before.registry.lifecycle.Next l.after.registry.lifecycle := by
  have run := (@Step.shutdown localProfile new 0 rfl (AList.notMem_empty _) rfl rfl).cons <|
    (Step.await 1 rfl (by decide) rfl (by simp)).cons <|
    (Step.signal _ rfl rfl).cons <| (Step.visited _ rfl rfl rfl).cons <|
    (Step.freeze _ 0 rfl rfl rfl rfl
      ((AList.lookup_insert_ne (by decide)).trans (AList.lookup_insert _)) _ rfl).cons <|
    (Step.reuse 1 _ rfl
      (.inl ((AList.lookup_insert_ne (by decide)).trans (AList.lookup_insert _))) rfl).run
  refine ⟨_, _, run, ?_, AList.lookup_insert _, (shutdown_of_run run).1⟩
  exact (AList.lookup_insert_ne (by decide)).trans (AList.lookup_insert _)

end Server

end PgMcp
