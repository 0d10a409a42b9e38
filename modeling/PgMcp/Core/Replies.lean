import PgMcp.Core.Calls
import PgMcp.Core.Envelopes
import PgMcp.Core.Listing

/-!
# The replies in every reachable state

A request is answered by its worker, by the refusal of its admission, or because its queue was
dropped; an open by the handle it has published, or by its failure.  None of these replies can show
a snapshot that is not consistent, so each is handed on as its own serialization, and an error is
flagged as one.

## Main definitions

* `OpenRefusal.Plain`, `OpenStage.Sound` — an open that fails shows no handle.
* `Server.Answers` — the replies that have been given are valid.

## Main results

* `Server.Step.answers` — a step gives valid replies alone.
* `Server.emits_of_run` — what the tool layer makes of every reply.
-/

namespace PgMcp

open Program

/-! ### Opens -/

/-- The failure of an open shows no handle. -/
def OpenRefusal.Plain : OpenRefusal → Prop
  | .failed failure => failure.handleState = none
  | .dsnTimeout | .interrupted => True

/-- An open is published with a live snapshot, or fails without one. -/
def OpenStage.Sound : OpenStage → Prop
  | .publishing _ published => published.closed = false
  | .closing refusal _ | .finishing refusal _ | .returning refusal _ => refusal.Plain
  | .returned reply => reply.Valid
  | .resolving | .connecting _ _ | .connected _ _ _ | .spawning _ _ _ | .dismissing => True

theorem ConfigError.plain_refusal (error : ConfigError) : error.refusal.Plain := by
  cases error <;> trivial

theorem OpenCall.failure_valid (c : OpenCall) (now : ℕ) {refusal : OpenRefusal} (h : refusal.Plain) :
    Reply.Valid (.error (c.failure now refusal)) := by
  apply CoreFailure.validate_envelope
  intro state hstate
  have hnone : (c.failure now refusal).handleState = none := by
    cases refusal with
    | failed failure => exact h
    | dsnTimeout => rfl
    | interrupted => rfl
  rw [hnone] at hstate
  cases hstate

/-- An open goes from one such stage to another. -/
theorem OpenCall.Moves.sound {core : Core} {now : ℕ} {c : OpenCall} {stage : OpenStage}
    (h : c.Moves core now stage) (hc : c.stage.Sound) : stage.Sound := by
  cases h with
  | unresolved command error => exact error.plain_refusal
  | closed refusal backend hstage =>
    rw [hstage] at hc
    exact hc
  | returned refusal backend hstage =>
    rw [hstage] at hc
    exact c.failure_valid now hc
  | interrupted | unusable | unconnected | unspawned | panicked => trivial
  | resolved | connected | accepted => trivial

/-- A live snapshot is valid. -/
theorem PublishedHandle.validate_of_live {published : PublishedHandle} (h : published.closed = false) :
    published.state.validate = true := by
  have hconsistent : published.Consistent := by
    intro hclosed
    rw [h] at hclosed
    cases hclosed
  exact hconsistent.validate

/-- The reply with a published handle is valid. -/
theorem openReply_valid {published : PublishedHandle} (h : published.closed = false) :
    (openReply published).Valid := by
  apply (Envelope.formed_success _ _ _).validate rfl
  intro state hstate
  cases hstate
  exact PublishedHandle.validate_of_live h

/-- The list of the handles is valid. -/
theorem listHandlesReply_valid (r : Registry) : (listHandlesReply r).Valid := by
  apply (Envelope.formed_success _ _ _).validate rfl
  intro state hstate
  cases hstate

namespace Server

variable {core : Core} {s t : Server} {id : String} {ls : List Label}

/-! ### Requests -/

/-- The replies that were given, and those about to be sent, are valid. -/
structure Answers (s : Server) : Prop where
  opens : ∀ k c, s.opens.lookup k = some c → c.stage.Sound
  threads : ∀ k thread reply, s.threads.lookup k = some thread →
    thread.stage.outgoing = some reply → reply.Valid
  requests : ∀ n c reply, s.requests.lookup n = some c → c.stage = .answered reply → reply.Valid

theorem answers_new : new.Answers where
  opens k c h := by cases h
  threads k thread reply h := by cases h
  requests n c reply h := by cases h

/-- The refusal of a request is valid. -/
theorem refusal_valid {handle : String} {failure : CoreFailure} {r : Registry}
    (run : Run (Acts core) new ls s) (hnew : ∀ l ∈ ls, l.NewId)
    (result : (dispatchAdmit s.trySend handle).Returns (.free s.registry) (.error failure) (.free r)) :
    Reply.Valid (.error failure) := by
  apply CoreFailure.validate_envelope
  intro state hstate
  obtain ⟨r', -, hadmission⟩ := Admission.of_returns result
  cases hadmission with
  | stopping | unknown => cases hstate
  | busy entry running present | rejected entry code running present =>
    cases hstate
    exact (consistent_of_run run hnew present).validate

/-- A reply that was lost is answered for with a valid failure. -/
theorem lost_valid {handle : String} {error : CoreError} {failure : CoreFailure}
    (run : Run (Acts core) new ls s) (hnew : ∀ l ∈ ls, l.NewId)
    (result : (CoreFailure.forHandle handle error).Returns (.free s.registry) (.ok failure)
      (.free s.registry)) : Reply.Valid (.error failure) := by
  have hreturns : (CoreFailure.forHandle handle error).Returns (.free s.registry)
      (.ok { error := error, handleState := s.registry.currentState handle, sqlstate := none,
             outcomeUnknown := error.outcomeUnknown }) (.free s.registry) := rfl
  cases hreturns.symm.trans result
  exact CoreFailure.validate_envelope (currentState_valid run hnew)

/-- The limits of a request are refused without a snapshot. -/
theorem limits_failure {handle : String} {failure : CoreFailure} {r : Registry}
    (result : (dispatchLimits handle).Returns (.free r) (.error failure) (.free r)) :
    failure = .process (coreError .handleUnknown) := by
  cases present : r.handles.lookup handle with
  | some entry =>
    obtain ⟨h, -⟩ := result.unique (dispatchLimits_returns present)
    cases h
  | none =>
    have hrefused : (dispatchLimits handle).Returns (.free r) (.error (.process (coreError .handleUnknown)))
        (.free r) := by
      refine Mutex.returns_withLock.mpr ⟨{ held := true, value := r }, ?_, rfl⟩
      refine (bind_ok rfl).trans ?_
      simp only [present]
      rfl
    obtain ⟨h, -⟩ := result.unique hrefused
    exact Except.error.inj h

/-! ### One step -/

/-- The opens, after a step. -/
theorem Step.sound_opens {a : Action} (step : Step core s a t)
    (h : ∀ k c, s.opens.lookup k = some c → c.stage.Sound) :
    ∀ k c, t.opens.lookup k = some c → c.stage.Sound := by
  have advanced : ∀ {s' : Server} {k : ℕ} {c : OpenCall} {stage : OpenStage}, s'.opens = s.opens →
      s.opens.lookup k = some c → stage.Sound →
      ∀ k' c', (s'.setOpen k stage).opens.lookup k' = some c' → c'.stage.Sound := by
    intro s' k c stage same call hstage k' c' hc'
    rcases lookup_setOpen (same ▸ call) hc' with ⟨rfl, rfl⟩ | ⟨-, hc'⟩
    · exact hstage
    · exact h k' c' (same ▸ hc')
  intro k c' hc'
  by_cases hopen : a.isOpen = true
  · cases step with
    | reserved k' profile reservation r free fresh result =>
      rw [Table.lookup_insert] at hc'
      split at hc'
      · cases hc'
        trivial
      · exact h k c' hc'
    | unreserved => exact h k c' hc'
    | «open» k' c stage call moves => exact advanced rfl call (moves.sound (h k' c call)) k c' hc'
    | spawn k' c config database backend call stage =>
      have hlive : (OpenStage.publishing config (c.snapshot database backend)).Sound := rfl
      exact advanced rfl call hlive k c' hc'
    | published k' c config published r free call stage result =>
      have hlive := h k' c call
      rw [stage] at hlive
      exact @advanced (s.setRegistry r) k' c (.returned _) rfl call (openReply_valid hlive) k c' hc'
    | unpublished k' c config published free call stage result =>
      exact @advanced s k' c .dismissing rfl call trivial k c' hc'
    | dismiss k' c call stage =>
      refine advanced ?_ call ?_ k c' hc'
      · split <;> rfl
      · rfl
    | finishOpen k' c refusal backend free call stage =>
      have hplain := h k' c call
      rw [stage] at hplain
      exact @advanced (s.setRegistry _) k' c (.returning refusal backend) rfl call hplain k c' hc'
    | _ => cases hopen
  · obtain ⟨c, hc, hcore⟩ := Table.exists_of_view (step.frames (Bool.not_eq_true _ ▸ hopen)).opens hc'
    simp only [OpenCall.core, Prod.mk.injEq] at hcore
    rw [← hcore.2.2]
    exact h k c hc

/-- A reply is put out when a request is settled, and not otherwise. -/
theorem Step.outgoing {a : Action} (step : Step core s a t) {k : ℕ} {thread' : Thread} {reply : Reply}
    (lookup : t.threads.lookup k = some thread') (outgoing : thread'.stage.outgoing = some reply) :
    (∃ thread, s.threads.lookup k = some thread ∧ thread.stage.outgoing = some reply) ∨ a = .settle k := by
  have same : s.threads.lookup k = some thread' →
      (∃ thread, s.threads.lookup k = some thread ∧ thread.stage.outgoing = some reply) ∨ a = .settle k :=
    fun h => .inl ⟨thread', h, outgoing⟩
  have modified : ∀ {k' f}, (s.threads.modify k' f).lookup k = some thread' →
      (∀ thread, (f thread).stage.outgoing = some reply → thread.stage.outgoing = some reply) →
      (∃ thread, s.threads.lookup k = some thread ∧ thread.stage.outgoing = some reply) ∨ a = .settle k := by
    intro k' f h hf
    rcases Table.lookup_modify_some h with ⟨rfl, thread, hthread, rfl⟩ | ⟨-, h⟩
    · exact .inl ⟨thread, hthread, hf thread outgoing⟩
    · exact same h
  cases step with
  | spawn k' c config database backend call stage =>
    rw [Table.lookup_insert] at lookup
    split at lookup
    · cases lookup
      cases outgoing
    · exact same lookup
  | dismiss k' c call stage =>
    split at lookup
    · exact modified lookup fun thread h => h
    · exact same lookup
  | admitted | enqueue => exact modified lookup fun thread h => h
  | take k' thread request rest => exact modified lookup fun thread h => by cases request <;> cases h
  | execute | record | reply | clean | close | report | leave | finish =>
    exact modified lookup fun thread h => by cases h
  | release k' thread closed =>
    exact modified lookup fun thread h => by cases closed <;> cases h
  | settle k' thread call operation result entry w =>
    rcases Table.lookup_modify_some lookup with ⟨rfl, -⟩ | ⟨-, h⟩
    · exact .inr rfl
    · exact same h
  | _ => exact same lookup

/-- How a request comes by its answer. -/
theorem Step.answer {a : Action} (step : Step core s a t) {n : ℕ} {c' : RequestCall} {reply : Reply}
    (lookup : t.requests.lookup n = some c') (answered : c'.stage = .answered reply) :
    (∃ c, s.requests.lookup n = some c ∧ c.stage = .answered reply) ∨
      (∃ k thread, s.threads.lookup k = some thread ∧ thread.stage.outgoing = some reply) ∨
      (∃ handle failure, reply = .error failure ∧
        (dispatchLimits handle).Returns (.free s.registry) (.error failure) (.free s.registry)) ∨
      (∃ handle failure r, reply = .error failure ∧
        (dispatchAdmit s.trySend handle).Returns (.free s.registry) (.error failure) (.free r)) ∨
      ∃ handle failure, reply = .error failure ∧
        (CoreFailure.forHandle handle (.unknown .connectionLost)).Returns (.free s.registry) (.ok failure)
          (.free s.registry) := by
  have changed : ∀ {m : ℕ} {stage : RequestStage},
      (s.requests.modify m fun c => { c with stage := stage }).lookup n = some c' →
      stage = .answered reply ∨ ∃ c, s.requests.lookup n = some c ∧ c.stage = .answered reply := by
    intro m stage h
    rcases Table.lookup_modify_some h with ⟨rfl, c, -, rfl⟩ | ⟨-, h⟩
    · exact .inl answered
    · exact .inr ⟨c', h, answered⟩
  cases step with
  | dispatch m handle operation limits free fresh result =>
    rw [Table.lookup_insert] at lookup
    split at lookup
    · cases lookup
      cases answered
    · exact .inl ⟨c', lookup, answered⟩
  | unknown m handle operation failure free fresh result =>
    rw [Table.lookup_insert] at lookup
    split at lookup
    · cases lookup
      cases answered
      exact .inr (.inr (.inl ⟨handle, failure, rfl, result⟩))
    · exact .inl ⟨c', lookup, answered⟩
  | admitted m c k r free call stage result =>
    rcases changed lookup with h | h
    · cases h
    · exact .inl h
  | unadmitted m c failure r free call stage result =>
    rcases changed lookup with h | h
    · cases h
      exact .inr (.inr (.inr (.inl ⟨c.handle, failure, r, rfl, result⟩)))
    · exact .inl h
  | lose m c failure free call stage result =>
    rcases changed lookup with h | h
    · cases h
      exact .inr (.inr (.inr (.inr ⟨c.handle, failure, rfl, result⟩)))
    · exact .inl h
  | reply k thread call closed out hthread stage =>
    rcases changed lookup with h | h
    · cases h
      refine .inr (.inl ⟨k, thread, hthread, ?_⟩)
      rw [stage]
      rfl
    · exact .inl h
  | leave k thread hthread stage =>
    -- the requests in the queue are left without an answer
    rcases lookup_orphan lookup with h | ⟨c, operation, -, -, horphaned, -⟩
    · exact .inl ⟨c', h, answered⟩
    · rw [answered] at horphaned
      cases horphaned
  | dismiss k c call stage =>
    split at lookup <;> exact .inl ⟨c', lookup, answered⟩
  | _ => exact .inl ⟨c', lookup, answered⟩

/-- A thread that is about to send a reply is the worker of a registered handle. -/
theorem hosted_of_run (run : Run (Acts core) new ls s) (hnew : ∀ l ∈ ls, l.NewId) {k : ℕ} {thread : Thread}
    {reply : Reply} (lookup : s.threads.lookup k = some thread)
    (outgoing : thread.stage.outgoing = some reply) :
    ∃ x, s.Hosts thread.handle x ∧ x.thread = thread := by
  generalize hstart : new = s₀ at run
  induction run generalizing k thread with
  | nil =>
    subst hstart
    cases lookup
  | @snoc s t ls l run hl ih =>
    subst hstart
    have hpre : ∀ l' ∈ ls, l'.NewId := fun l' hl' => hnew l' (List.mem_append_left _ hl')
    have hbefore := sound_new.run run hpre
    obtain ⟨rfl, rfl, step⟩ := hl
    rcases step.outgoing lookup outgoing with ⟨thread₀, hthread₀, houtgoing⟩ | hsettle
    · -- its station is still there
      obtain ⟨x, hx, rfl⟩ := ih hpre hthread₀ houtgoing
      obtain ⟨y, hy, visit⟩ := step.station hbefore.booked hbefore.staffed hx
      have hsender : x.entry.sender = k :=
        (hbefore.staffed.sender_iff hbefore.booked hthread₀ hx.entry).mpr rfl
      have hkey : y.entry.sender = x.entry.sender := congrArg (fun key => key.2.2) visit.key
      have hthread : y.thread = thread := by
        have hlookup := hy.thread
        rw [hkey, hsender, lookup, Option.some.injEq] at hlookup
        exact hlookup.symm
      have hafter := hbefore.step ⟨rfl, rfl, step⟩ (hnew l (by simp))
      refine ⟨y, ?_, hthread⟩
      rw [← hthread, hy.handle hafter.booked hafter.staffed]
      exact hy
    · -- the reply is the one the station is about to send
      rw [hsettle] at step
      generalize l.before = s at run hbefore step
      generalize l.after = t at lookup step
      cases step with
      | settle _ thread₀ call operation result entry w free hthread₀ stage present settled =>
        have hsender : entry.sender = k :=
          (hbefore.staffed.sender_iff hbefore.booked hthread₀ present).mpr rfl
        have hhandle : thread.handle = thread₀.handle := by
          rcases Table.lookup_modify_some lookup with ⟨-, thread₁, hthread₁, rfl⟩ | ⟨hne, -⟩
          · cases hthread₀.symm.trans hthread₁
            rfl
          · exact absurd rfl hne
        refine ⟨⟨{ entry with published := w.published }, thread⟩, ⟨?_, ?_⟩, rfl⟩
        · rw [hhandle]
          show (s.registry.handles.modify thread₀.handle _).lookup thread₀.handle = _
          rw [Table.lookup_modify_self, present]
          rfl
        · show _ = some thread
          rw [hsender]
          exact lookup

/-- A step gives valid replies alone. -/
theorem Answers.step (h : s.Answers) {l : Label} (run : Run (Acts core) new ls s)
    (hnew : ∀ l' ∈ ls ++ [l], l'.NewId) (hl : Acts core s l t) : t.Answers := by
  have hpre : ∀ l' ∈ ls, l'.NewId := fun l' hl' => hnew l' (List.mem_append_left _ hl')
  have step := hl.2.2
  constructor
  · exact step.sound_opens h.opens
  · intro k thread reply lookup outgoing
    obtain ⟨x, hx, rfl⟩ := hosted_of_run (run.snoc hl) hnew lookup outgoing
    obtain ⟨w₀, w, served, hserial⟩ := serial_of_run (run.snoc hl) hnew hx
    exact hserial.valid outgoing
  · intro n c reply lookup answered
    rcases step.answer lookup answered with ⟨c, hc, hstage⟩ | ⟨k, thread, hthread, houtgoing⟩ |
      ⟨handle, failure, rfl, result⟩ | ⟨handle, failure, r, rfl, result⟩ | ⟨handle, failure, rfl, result⟩
    · exact h.requests n c reply hc hstage
    · exact h.threads k thread reply hthread houtgoing
    · rw [limits_failure result]
      exact process_valid _
    · exact refusal_valid run hpre result
    · exact lost_valid run hpre result

/-- The replies in every reachable state are valid. -/
theorem answers_of_run (run : Run (Acts core) new ls s) (hnew : ∀ l ∈ ls, l.NewId) : s.Answers := by
  generalize hstart : new = s₀ at run
  induction run with
  | nil =>
    subst hstart
    exact answers_new
  | snoc run hl ih =>
    subst hstart
    exact (ih fun l hl => hnew l (List.mem_append_left _ hl)).step run hnew hl

/-- Every reply is valid. -/
theorem valid_of_run (run : Run (Acts core) new ls s) (hnew : ∀ l ∈ ls, l.NewId) {reply : Reply}
    (h : s.Emits reply) : reply.Valid := by
  have hs := answers_of_run run hnew
  cases h with
  | opened k c reply call stage =>
    have hsound := hs.opens k c call
    rw [stage] at hsound
    exact hsound
  | answered n c reply call stage => exact hs.requests n c reply call stage
  | listed => exact listHandlesReply_valid s.registry

/-- Whatever the clients, the workers and the servers of the databases do, every reply the tool layer
gets is handed on as its own serialization, and is flagged as an error exactly when the object
that is handed on has one. -/
theorem emits_of_run (run : Run (Acts core) new ls s) (hnew : ∀ l ∈ ls, l.NewId) {reply : Reply}
    (h : s.Emits reply) : ∃ v, (Reply.envelope reply).toJson = some v ∧
      (Tools.result reply).structuredContent = v.canonicalize ∧
      (Tools.result reply).isError = (Tools.result reply).structuredContent.has "error" := by
  apply Tools.result_of_valid
  exact valid_of_run run hnew h

/-- The answer to an open is no error. -/
theorem emits_of_run_opened : ∃ ls s reply, Run (Acts localProfile) new ls s ∧ s.Emits reply ∧
    reply = openReply new.freshSnapshot ∧ (Tools.result reply).isError = false ∧
    (Tools.result reply).structuredContent.has "error" = false := by
  obtain ⟨ls, run, hcount, -⟩ :=
    run_open (admits_new (by decide : "local" ≠ "") localProfile_admissionConfig)
  have hnew : ∀ l ∈ ls, l.NewId := newId_of_run run (by rw [hcount, u64Max_eq]; decide)
  have hemits : (new.afterOpen 0 "local" Config.default).Emits (openReply new.freshSnapshot) :=
    .opened 0 _ _ (AList.lookup_insert _) rfl
  obtain ⟨v, -, -, hflag⟩ := emits_of_run run hnew hemits
  exact ⟨ls, _, _, run, hemits, rfl, rfl, hflag.symm⟩

end Server

end PgMcp
