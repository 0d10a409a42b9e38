import PgMcp.Core.Calls

/-!
# Clients that wait for their answers

A handle takes as many requests as its limit says.  With no more clients than that, each of
which waits for the answer to its last request, one would expect no request to be refused.
The worker answers a request before it drops the admission guard, so that a client can be
back before its place is free.

## Main definitions

* `Label.Patient` — a client asks again when it has its answer.
* `Label.QueueFull` — a request is refused because the handle takes no more.
* `Label.Races` — a request comes between an answer and the release of its place.

## Main results

* `queueFull_of_run_iff` — no request is refused exactly when none comes in between.
* `refused_while_releasing` — the only client of a handle is refused.
-/

namespace PgMcp

open Program

namespace Server

variable {core : Core} {s t : Server} {id : String} {x : Station} {ls : List Label} {n : ℕ}
  {client : ℕ → Fin n}

/-- A client that asks handle `id` has the answers to its earlier requests. -/
def Label.Patient (id : String) (client : ℕ → Fin n) (l : Label) : Prop :=
  ∀ m operation, l.action = .dispatch m id operation → ∀ m' c,
    l.before.requests.lookup m' = some c → c.handle = id → client m' = client m → c.Answered

/-- A request for handle `id` is refused by its admission because the handle takes no more. -/
def Label.QueueFull (id : String) (l : Label) : Prop :=
  ∃ m c c' failure, l.action = .admitCall m ∧ l.before.requests.lookup m = some c ∧ c.handle = id ∧
    l.after.requests.lookup m = some c' ∧ c'.stage = .answered (.error failure) ∧
    failure.error.code = .queueFull

/-- A request for handle `id` comes to its admission when the worker has answered another one
and has not released it, and all other places are taken. -/
def Label.Races (id : String) (l : Label) : Prop :=
  ∃ m c entry thread, l.action = .admitCall m ∧ l.before.requests.lookup m = some c ∧ c.handle = id ∧
    l.before.registry.lifecycle = .running ∧
    l.before.registry.handles.lookup id = some entry ∧
    l.before.threads.lookup entry.sender = some thread ∧ thread.stage = .releasing false ∧
    thread.operations.length + 1 = entry.config.outstandingRequests

/-- A client has no two requests without an answer. -/
def Single (id : String) (client : ℕ → Fin n) (s : Server) : Prop :=
  ∀ m m' c c', s.requests.lookup m = some c → s.requests.lookup m' = some c' → c.handle = id →
    c'.handle = id → ¬ c.Answered → ¬ c'.Answered → client m = client m' → m = m'

theorem Single.step (h : Single id client s) (held : s.Held) {l : Label} (hl : Acts core s l t)
    (patient : l.Patient id client) : Single id client t := by
  obtain ⟨rfl, rfl, step⟩ := hl
  intro m m' c c' hm hm' hid hid' hopen hopen' hclient
  rcases step.request held hm with ⟨operation, haction⟩ | ⟨d, hd, hhandle, hkept⟩ <;>
    rcases step.request held hm' with ⟨operation', haction'⟩ | ⟨d', hd', hhandle', hkept'⟩
  · have hsame := haction'.symm.trans haction
    simp only [Action.dispatch.injEq] at hsame
    exact hsame.1.symm
  · rw [hid] at haction
    exact absurd (hkept' (patient m operation haction m' d' hd' (hhandle'.symm.trans hid')
      hclient.symm)) hopen'
  · rw [hid'] at haction'
    exact absurd (hkept (patient m' operation' haction' m d hd (hhandle.symm.trans hid) hclient)) hopen
  · exact h m m' d d' hd hd' (hhandle.symm.trans hid) (hhandle'.symm.trans hid')
      (fun ha => hopen (hkept ha)) (fun ha => hopen' (hkept' ha)) hclient

/-- A worker does not hold the requests of all clients when one of them asks. -/
theorem Single.room (h : Single id client s) (hs : s.Sound) (held : s.Held) (hx : s.Hosts id x)
    {m : ℕ} {c : RequestCall} (call : s.requests.lookup m = some c) (handle : c.handle = id)
    (stage : c.stage = .admitting) : x.thread.calls.length < n := by
  have hhandle := hx.handle hs.booked hs.staffed
  have hwaits := held.waits _ _ hx.thread
  have hunheld : m ∉ x.thread.calls := by
    intro hm
    obtain ⟨d, hd, -, hstage⟩ := hwaits m hm
    rw [call, Option.some.injEq] at hd
    rw [← hd, stage] at hstage
    cases hstage
  have hopen : ∀ m' ∈ m :: x.thread.calls, ∃ c, s.requests.lookup m' = some c ∧ c.handle = id ∧
      ¬ c.Answered := by
    intro m' hm'
    rcases List.mem_cons.mp hm' with rfl | hm'
    · exact ⟨c, call, handle, RequestCall.not_answered (.inl stage)⟩
    · obtain ⟨d, hd, hd', hstage⟩ := hwaits m' hm'
      exact ⟨d, hd, hd'.trans hhandle, RequestCall.not_answered (.inr (.inl hstage))⟩
  have hnodup : ((m :: x.thread.calls).map client).Nodup := by
    refine List.Nodup.map_on ?_ (List.nodup_cons.mpr ⟨hunheld, held.nodup _ _ hx.thread⟩)
    intro m₁ h₁ m₂ h₂ hclient
    obtain ⟨c₁, hc₁, hid₁, hopen₁⟩ := hopen m₁ h₁
    obtain ⟨c₂, hc₂, hid₂, hopen₂⟩ := hopen m₂ h₂
    exact h m₁ m₂ c₁ c₂ hc₁ hc₂ hid₁ hid₂ hopen₁ hopen₂ hclient
  have := hnodup.length_le_card
  rw [List.length_map, List.length_cons, Fintype.card_fin] at this
  omega

/-- The worker of a live handle has not dropped its queue. -/
theorem Hosts.receives (hx : s.Hosts id x) (hs : s.Sound) (live : x.entry.published.closed = false) :
    x.thread.stage.receives = true := by
  obtain ⟨thread, hthread, hfits⟩ := hs.staffed.worker id x.entry hx.entry
  rw [hx.thread, Option.some.injEq] at hthread
  subst hthread
  unfold Thread.Fits at hfits
  rw [live] at hfits
  cases hstage : x.thread.stage <;> rw [hstage] at hfits <;> first | rfl | cases hfits

/-- A full handle whose worker holds fewer requests has just answered one. -/
theorem Hosts.releasing (hx : s.Hosts id x) (h : x.Accounted) (hs : s.Sound)
    (live : x.entry.published.closed = false) (limit : n ≤ x.entry.config.outstandingRequests)
    (full : x.entry.config.outstandingRequests ≤ x.entry.admitted) (room : x.thread.calls.length < n) :
    x.thread.stage = .releasing false ∧
      x.thread.operations.length + 1 = x.entry.config.outstandingRequests := by
  have hcount := h.admitted (hx.receives hs live)
  have hlength : x.thread.calls.length =
      x.thread.stage.call.toList.length + x.thread.operations.length := by
    unfold Thread.calls
    rw [List.length_append, List.length_map]
  obtain ⟨thread, hthread, hfits⟩ := hs.staffed.worker id x.entry hx.entry
  rw [hx.thread, Option.some.injEq] at hthread
  subst hthread
  unfold Thread.Fits at hfits
  cases hstage : x.thread.stage with
  | releasing closed =>
    rw [hstage] at hfits hcount hlength
    rw [live] at hfits
    simp only [ThreadStage.guarded, ThreadStage.call, Bool.toNat_true, Option.toList_none,
      List.length_nil] at hcount hlength
    exact ⟨by rw [← hfits], by omega⟩
  | _ =>
    rw [hstage] at hcount hlength
    simp only [ThreadStage.guarded, ThreadStage.call, Bool.toNat_true, Bool.toNat_false,
      Option.toList_none, Option.toList_some, List.length_nil, List.length_singleton] at hcount hlength
    omega

/-- A request of a patient client is refused exactly when it comes in between. -/
theorem queueFull_iff (hs : s.Sound) (held : s.Held) (single : Single id client s)
    (accounted : ∀ x, s.Hosts id x → x.Accounted ∧ s.Undisturbed x)
    (limit : ∀ entry, s.registry.handles.lookup id = some entry →
      n ≤ entry.config.outstandingRequests) {l : Label} (hl : Acts core s l t) :
    l.QueueFull id ↔ l.Races id := by
  obtain ⟨a, s, t⟩ := l
  obtain ⟨rfl, rfl, step⟩ := hl
  change Step core s a t at step
  constructor
  · rintro ⟨m, c, c', failure, rfl, hcall, hid, hafter, hstage, hcode⟩
    change s.requests.lookup m = some c at hcall
    change t.requests.lookup m = some c' at hafter
    cases step with
    | admitted _ d k r free call stage result =>
      change (s.requests.modify m _).lookup m = some c' at hafter
      rw [Table.lookup_modify_self, hcall] at hafter
      cases hafter
      cases hstage
    | stuck _ d free call stage =>
      change s.requests.lookup m = some c' at hafter
      rw [call, Option.some.injEq] at hafter
      rw [← hafter, stage] at hstage
      cases hstage
    | unadmitted _ d failure' r free call stage result =>
      change (s.requests.modify m _).lookup m = some c' at hafter
      rw [Table.lookup_modify_self, hcall] at hafter
      cases hafter
      cases hstage
      rw [call, Option.some.injEq] at hcall
      subst hcall
      obtain ⟨r', -, hadmission⟩ := Admission.of_returns result
      cases hadmission with
      | stopping | unknown => cases hcode
      | busy entry running present live full =>
        rw [hid] at present
        obtain ⟨thread, hx⟩ := hs.staffed.hosts present
        obtain ⟨hreleasing, hfull⟩ := hx.releasing (accounted _ hx).1 hs live (limit _ present) full
          (single.room hs held hx call hid stage)
        exact ⟨m, d, entry, thread, rfl, call, hid, running, present, hx.thread, hreleasing, hfull⟩
      | rejected entry code running present live room queue r' same rule =>
        rw [hid] at present
        obtain ⟨thread, hx⟩ := hs.staffed.hosts present
        -- the queue itself is never full: the admission counter is checked first
        rw [if_neg (hx.not_full (accounted _ hx).1 (accounted _ hx).2 running room)] at rule
        rw [rule] at hcode
        cases hcode
  · rintro ⟨m, c, entry, thread, rfl, hcall, hid, hrunning, present, hthread, hstage, hfull⟩
    have hx : s.Hosts id ⟨entry, thread⟩ := ⟨present, hthread⟩
    -- the place of the request that was answered is still taken
    have hcount := (accounted _ hx).1.admitted (by rw [hstage]; rfl)
    simp only [hstage, ThreadStage.guarded, Bool.toNat_true] at hcount
    have hnoroom : ¬ entry.admitted < entry.config.outstandingRequests := by omega
    have hpresent : ∀ {d e}, s.requests.lookup m = some d →
        s.registry.handles.lookup d.handle = some e → e = entry := by
      intro d e hd he
      change s.requests.lookup m = some c at hcall
      rw [hcall, Option.some.injEq] at hd
      subst hd
      change s.registry.handles.lookup id = some entry at present
      rw [hid, present, Option.some.injEq] at he
      exact he.symm
    cases step with
    | admitted _ d k r free call stage result =>
      obtain ⟨r', -, hadmission⟩ := Admission.of_returns result
      cases hadmission with
      | sent entry' running present' live room =>
        rw [hpresent call present'] at room
        exact absurd room hnoroom
    | stuck _ d free call stage never =>
      refine absurd ?_ never
      rw [dispatchAdmit_terminates_iff]
      rintro ⟨-, entry', present', hclosed⟩
      rw [hpresent call present'] at hclosed
      obtain ⟨thread', hthread', hfits⟩ := hs.staffed.worker id entry present
      change s.threads.lookup entry.sender = some thread at hthread
      rw [hthread, Option.some.injEq] at hthread'
      subst hthread'
      unfold Thread.Fits at hfits
      rw [hstage, hclosed] at hfits
      cases hfits
    | unadmitted _ d failure r free call stage result =>
      obtain ⟨r', -, hadmission⟩ := Admission.of_returns result
      change s.requests.lookup m = some c at hcall
      refine ⟨m, c, { c with stage := .answered (.error failure) }, failure, rfl, hcall, hid, ?_, rfl, ?_⟩
      · show (s.requests.modify m _).lookup m = _
        rw [Table.lookup_modify_self, hcall]
        rfl
      · cases hadmission with
        | stopping lifecycle => exact absurd hrunning lifecycle
        | unknown running absent =>
          rw [hcall, Option.some.injEq] at call
          subst call
          change s.registry.handles.lookup id = some entry at present
          rw [hid, present] at absent
          cases absent
        | busy => rfl
        | rejected entry' code running present' live room =>
          rw [hpresent call present'] at room
          exact absurd room hnoroom

theorem single_of_run (run : Run (Acts core) new ls s) (hnew : ∀ l ∈ ls, l.NewId)
    (patient : ∀ l ∈ ls, l.Patient id client) : Single id client s := by
  have hstart : new.Sound ∧ new.Held ∧ Single id client new :=
    ⟨sound_new, held_new, fun m m' c c' h => by simp [new] at h⟩
  refine (run.invariant (I := fun s => s.Sound ∧ s.Held ∧ Single id client s)
    (G := fun l => l.NewId ∧ l.Patient id client) ?_ (fun l hl => ⟨hnew l hl, patient l hl⟩) hstart).2.2
  exact fun s l t hs hl step => ⟨hs.1.step step hl.1, hs.2.1.step hs.1 step.2.2,
    hs.2.2.step hs.2.1 step hl.2⟩

/-- In a run that gives no id twice, with no more patient clients than the handle takes
requests, no request is refused for want of room exactly when none comes to its admission
between an answer and the release of its place while all others are taken. -/
theorem queueFull_of_run_iff (run : Run (Acts core) new ls s) (hnew : ∀ l ∈ ls, l.NewId)
    {entry : WorkerEntry} (present : s.registry.handles.lookup id = some entry)
    (limit : n ≤ entry.config.outstandingRequests) (patient : ∀ l ∈ ls, l.Patient id client) :
    (∀ l ∈ ls, ¬ l.QueueFull id) ↔ ∀ l ∈ ls, ¬ l.Races id := by
  refine forall₂_congr fun l hl => not_congr ?_
  obtain ⟨pre, post, t, t', rfl, before, hacts, after⟩ := run.mem_step hl
  have hpre : ∀ l' ∈ pre, l'.NewId ∧ l'.Patient id client := fun l' h' =>
    ⟨hnew l' (List.mem_append_left _ h'), patient l' (List.mem_append_left _ h')⟩
  have hnew' := fun l' h' => (hpre l' h').1
  obtain ⟨hsound, hheld⟩ := held_of_run before hnew'
  refine queueFull_iff hsound hheld (single_of_run before hnew' fun l' h' => (hpre l' h').2)
    (fun x hx => accounted_of_run before hnew' hx) (fun entry₀ present₀ => ?_) hacts
  have hrest : ∀ l' ∈ l :: post, l'.NewId := fun l' h' => hnew l' (List.mem_append_right _ h')
  rw [← config_of_run (.cons hacts after) hsound hrest present₀ present]
  exact limit

/-! ### One client -/

/-- A server that takes one request of a handle at a time. -/
def oneRequest : Core where
  config := { Config.default with outstandingRequests := 1 }
  profiles := none
  dsn := "dbname=postgres"
  inRange := by
    intro f
    cases f <;> decide

/-- A request that finds its handle at rest races with no release. -/
theorem AtRest.not_races {entry : WorkerEntry} {thread : Thread} (h : s.AtRest id entry thread) {l : Label}
    (asks : l.Asks s) : ¬ l.Races id := by
  rintro ⟨m, c, entry₀, thread₀, haction, -, -, -, present, hthread, hstage, -⟩
  obtain ⟨hregistry, hthreads⟩ := asks.admissions m haction
  rw [hregistry, h.present, Option.some.injEq] at present
  subst present
  rw [hthreads, h.worker, Option.some.injEq] at hthread
  subst hthread
  rw [h.stage] at hstage
  cases hstage

/-- The only client gets its answer, its place is released, and it asks again. -/
theorem queueFull_of_run_iff_again : ∃ ls s c c', Run (Acts oneRequest) new ls s ∧
    s.requests.lookup 0 = some c ∧ c.Answered ∧ s.requests.lookup 1 = some c' ∧ c'.stage = .waiting ∧
    ∀ l ∈ ls, ¬ l.QueueFull (handleName 1) := by
  have hadmits := @admits_new oneRequest "local" _ (by decide) rfl
  obtain ⟨ls, run, hcount, hopens⟩ := run_open hadmits
  obtain ⟨ls₁, t, entry, answer, run₁, hcount₁, hasks₁, hrest, -, hconfig, hrequests₁⟩ :=
    hadmits.atRest.answered oneRequest (n := 0) (AList.notMem_empty _) rfl
  have hfresh : 1 ∉ t.requests := by
    rw [hrequests₁, AList.mem_insert]
    rintro (h | h)
    · cases h
    · exact AList.notMem_empty _ h
  obtain ⟨ls₂, u, run₂, hcount₂, hasks₂, hserving, hrequests₂⟩ :=
    hrest.admitCall oneRequest hfresh .openRead
  have hrun := run.append (run₁.append run₂)
  have hnew : ∀ l ∈ ls ++ (ls₁ ++ ls₂), l.NewId := by
    refine newId_of_run hrun ?_
    unfold reservations at hcount hcount₁ hcount₂ ⊢
    rw [List.countP_append, List.countP_append, hcount, hcount₁, hcount₂, u64Max_eq]
    omega
  have hone : 1 ≤ entry.config.outstandingRequests := by
    rw [hconfig]
    exact le_refl 1
  have hpatient : ∀ l ∈ ls ++ (ls₁ ++ ls₂), l.Patient (handleName 1) fun _ => (0 : Fin 1) := by
    intro l hl m operation haction m' c hm' hid hclient
    rcases List.mem_append.mp hl with hl | hl
    · have hopen := hopens l hl
      rw [haction] at hopen
      cases hopen
    · rcases List.mem_append.mp hl with hl | hl
      · rw [(hasks₁ l hl).dispatches m _ _ haction] at hm'
        cases hm'
      · -- the second request finds the first one answered
        rw [(hasks₂ l hl).dispatches m _ _ haction, hrequests₁] at hm'
        by_cases hzero : m' = 0
        · subst hzero
          rw [AList.lookup_insert, Option.some.injEq] at hm'
          exact ⟨answer, by rw [← hm']⟩
        · rw [AList.lookup_insert_ne hzero] at hm'
          cases hm'
  have hcalm : ∀ l ∈ ls ++ (ls₁ ++ ls₂), ¬ l.Races (handleName 1) := by
    intro l hl
    rcases List.mem_append.mp hl with hl | hl
    · rintro ⟨m, c, entry₀, thread, haction, -⟩
      have hopen := hopens l hl
      rw [haction] at hopen
      cases hopen
    · rcases List.mem_append.mp hl with hl | hl
      · exact hadmits.atRest.not_races (hasks₁ l hl)
      · exact hrest.not_races (hasks₂ l hl)
  have hfirst : u.requests.lookup 0 =
      some { handle := handleName 1, operation := .openRead, stage := .answered answer } := by
    rw [hrequests₂, AList.lookup_insert_ne (by decide), hrequests₁]
    exact AList.lookup_insert _
  have hsecond : u.requests.lookup 1 =
      some { handle := handleName 1, operation := .openRead, stage := .waiting } := by
    rw [hrequests₂]
    exact AList.lookup_insert _
  exact ⟨_, u, _, _, hrun, hfirst, ⟨answer, rfl⟩, hsecond, rfl,
    (queueFull_of_run_iff hrun hnew hserving.present hone hpatient).mpr hcalm⟩

/-- The only client gets its answer and asks again before its place is free. -/
theorem refused_while_releasing : ∃ ls s entry, Run (Acts oneRequest) new ls s ∧
    (∀ l ∈ ls, l.NewId) ∧ s.registry.handles.lookup (handleName 1) = some entry ∧
    entry.config.outstandingRequests = 1 ∧
    (∀ l ∈ ls, l.Patient (handleName 1) fun _ => (0 : Fin 1)) ∧
    ∃ l ∈ ls, l.QueueFull (handleName 1) := by
  have hadmits := @admits_new oneRequest "local" _ (by decide) rfl
  obtain ⟨ls, run, hcount, hopens⟩ := run_open hadmits
  obtain ⟨ls', t, entry, thread, answer, run', hcount', hasks, hserving, -, hentry, hrequests⟩ :=
    hadmits.atRest.refused oneRequest (n := 0) (AList.notMem_empty _) rfl
  have hfresh : 1 ∉ t.requests := by
    rw [hrequests, AList.mem_insert]
    rintro (h | h)
    · cases h
    · exact AList.notMem_empty _ h
  have hone : entry.config.outstandingRequests = 1 := by
    rw [hentry]
    rfl
  have hadmitted : entry.admitted = 1 := by rw [hentry]
  have hlive : entry.published.closed = false := by
    rw [hentry]
    rfl
  have hdispatch := @Step.dispatch oneRequest t 1 (handleName 1) .openRead _ hserving.free hfresh
    (dispatchLimits_returns hserving.present)
  have hrefused := @Step.unadmitted oneRequest
    { t with requests := t.requests.insert 1
              { handle := handleName 1, operation := .openRead, stage := .admitting } }
    1 _ _ _ hserving.free (AList.lookup_insert _) rfl
    (dispatchAdmit_busy hserving.running hserving.present hlive (by rw [hone, hadmitted]))
  have hrun := run.append (run'.append (hdispatch.cons hrefused.run))
  refine ⟨_, _, entry, hrun, newId_of_run hrun ?_, ?_, hone, ?_, ?_⟩
  · unfold reservations at hcount hcount' ⊢
    rw [List.countP_append, List.countP_append, hcount, hcount', u64Max_eq]
    show 1 ≤ 2 ^ 64 - 1
    omega
  · exact hserving.present
  · intro l hl m operation haction m' c' hm' hid hclient
    rcases List.mem_append.mp hl with hl | hl
    · have := hopens l hl
      rw [haction] at this
      cases this
    · rcases List.mem_append.mp hl with hl | hl
      · rw [(hasks l hl).dispatches m _ _ haction] at hm'
        cases hm'
      · simp only [List.mem_cons, List.not_mem_nil, or_false] at hl
        rcases hl with rfl | rfl
        · change t.requests.lookup m' = some c' at hm'
          rw [hrequests] at hm'
          by_cases hzero : m' = 0
          · subst hzero
            rw [AList.lookup_insert, Option.some.injEq] at hm'
            exact ⟨answer, by rw [← hm']⟩
          · rw [AList.lookup_insert_ne hzero] at hm'
            cases hm'
        · cases haction
  · refine ⟨_, List.mem_append_right _ (List.mem_append_right _ (List.mem_cons_of_mem _
      (List.mem_singleton_self _))), 1, _,
      { handle := handleName 1, operation := .openRead,
        stage := .answered (.error (admissionFailure entry .queueFull)) },
      admissionFailure entry .queueFull, rfl, AList.lookup_insert _, rfl, ?_, rfl, rfl⟩
    exact Table.lookup_modify_self.trans (congrArg _ (AList.lookup_insert _))

end Server

end PgMcp
