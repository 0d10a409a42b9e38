import PgMcp.Worker.Snapshots

/-!
# After a commit with an unknown outcome

A commit whose outcome is unknown is published as a bad connection of unknown status, but
the connection itself is kept.  When it was lost in that commit, nothing is sent on it
any more and the snapshot stays as it is up to the close.  When it was not, the next
request that is refused publishes the native status again.

## Main definitions

* `Worker.Lost` — the connection is lost, and published as lost.
* `Served.Terminal` — a request that leaves a lost handle lost.

## Main results

* `Serves.lost` — the step lemma.
* `commitUnknown_terminal` — a commit that loses the connection is terminal.
-/

namespace PgMcp

open Program Backend

/-- The handle is closed, or its connection is lost and published as lost. -/
def Worker.Lost (s : Worker) : Prop :=
  s.published.closed = true ∨
    s.backend.wire.connectionStatus ≠ .ok ∧ s.published.observation.connectionStatus ≠ .ok ∧
      s.published.observation.transactionStatus = .unknown ∧ s.published.schemaObserved = false

/-- The request sends nothing, and its handle is closed, or published as bad, unknown and
not observed. -/
def Served.Terminal (l : Served) : Prop :=
  (∀ sql x, Call.send sql x ∉ l.trace) ∧
    (l.after.published.closed = true ∨
      l.after.published.state.connectionStatus = .bad ∧
        l.after.published.state.transactionStatus = .unknown ∧
        l.after.published.state.schemaObserved = false)

/-- A lost connection is observed as bad or absent, with an unknown status. -/
theorem LibpqBackend.observation_lost {b : LibpqBackend} (h : b.wire.connectionStatus ≠ .ok) :
    b.observation.connectionStatus ≠ .ok ∧ b.observation.transactionStatus = .unknown := by
  have hbad : b.observation.connectionStatus ≠ .ok := by
    unfold LibpqBackend.observation
    split
    · intro hok
      refine h ?_
      unfold Wire.observation at hok
      cases hstatus : b.wire.connectionStatus with
      | ok => rfl
      | bad | closed => simp [hstatus, WireStatus.backend] at hok
    · intro h
      cases h
  exact ⟨hbad, observation_bad hbad⟩

theorem Wire.connectionStatus_congr {w w' : Wire} (h : w'.conn = w.conn) :
    w'.connectionStatus = w.connectionStatus := by
  simp [Wire.connectionStatus, h]

/-- What a lost worker publishes when its handle stays open. -/
theorem terminal_of_lost {p : PublishedHandle} (hlive : p.closed = false)
    (hbad : p.observation.connectionStatus ≠ .ok)
    (hunknown : p.observation.transactionStatus = .unknown) (hunobserved : p.schemaObserved = false) :
    p.state.connectionStatus = .bad ∧ p.state.transactionStatus = .unknown ∧
      p.state.schemaObserved = false := by
  have hprotocol : p.observation.connectionStatus.protocol = .bad := by
    cases hstatus : p.observation.connectionStatus with
    | ok => exact absurd hstatus hbad
    | bad | unknown => rfl
  simp [PublishedHandle.state, HandleState.new, hlive, hprotocol, hunknown, hunobserved]

/-- An unknown outcome is not published with a schema observation. -/
theorem settle_unobserved {operation : Operation} {unknown : Bool} {observation : BackendObservation}
    {p : PublishedHandle} (h : p.schemaObserved = false) :
    (settle operation unknown observation p).schemaObserved = false := by
  cases unknown with
  | false => exact h
  | true => cases operation <;> rfl

/-- A request leaves a lost handle lost. -/
theorem Serves.lost {config : Config} {s t : Worker} {l : Served} (h : Serves config s l t)
    (hs : s.Lost) : t.Lost ∧ l.Terminal := by
  obtain ⟨rounds, handled⟩ := h.handled
  obtain ⟨-, hafter, hlive, -⟩ := h
  obtain ⟨hlost, hbad, hunknown, hunobserved⟩ := hs.resolve_left (by simp [hlive])
  cases handled with
  | refused error refusal conn calls present observation published flag coded failed moves =>
    have hlost' : t.backend.wire.connectionStatus ≠ .ok := by
      rw [Wire.connectionStatus_congr conn]
      exact hlost
    have hclosed : t.published.closed = false := by rw [published, settle_closed]; exact hlive
    have hunobserved' : t.published.schemaObserved = false := by
      rw [published]
      exact settle_unobserved hunobserved
    -- a lost connection is observed as lost, and published as lost
    have hobserved : t.published.observation.connectionStatus ≠ .ok ∧
        t.published.observation.transactionStatus = .unknown := by
      obtain ⟨hnative, hstatus⟩ := LibpqBackend.observation_lost hlost'
      rw [published]
      cases error.outcomeUnknown with
      | false => exact observation ▸ ⟨hnative, hstatus⟩
      | true =>
        cases l.operation with
        | commit => exact ⟨nofun, rfl⟩
        | getSchema | openRead | openWrite | rollback | close => exact observation ▸ ⟨hnative, hstatus⟩
        | query request => exact observation ▸ ⟨hnative, hstatus⟩
    refine ⟨.inr ⟨hlost', hobserved.1, hobserved.2, hunobserved'⟩, fun sql x hmem => ?_, .inr ?_⟩
    · rw [Served.trace, hafter, calls] at hmem
      cases hmem
    · rw [hafter]
      exact terminal_of_lost hclosed hobserved.1 hobserved.2 hunobserved'
  | @ran b _ _ r free conn calls present observation returns published flag coded succeeded moves failed =>
    have hpre : operationPrecondition s.published l.operation = none :=
      Worker.precondition_of_refusal (s := s.install l.env) free
    -- of all operations only a close passes its precondition now
    have hop : l.operation = .close := by
      unfold operationPrecondition at hpre
      cases hop : l.operation <;>
        simp [hop, hlive, hunknown, hunobserved] at hpre ⊢
    rw [hop] at returns
    have hnative : b.wire.connectionStatus ≠ .ok := by
      rw [Wire.connectionStatus_congr conn]
      exact hlost
    generalize hb : t.backend = b' at returns
    rcases close_post.returns returns with ⟨status⟩ | _
    · rw [(LibpqBackend.observation_lost hnative).2] at status
      cases status
    · have hclosed : t.published.closed = true := by
        rw [published, settle_closed]
        rfl
      refine ⟨.inl hclosed, fun sql x hmem => ?_, .inl (by rw [hafter]; exact hclosed)⟩
      have hcalls : b.wire.calls = [] := calls
      rw [Served.trace, hafter, hb, LibpqBackend.take, Wire.disposed, hcalls] at hmem
      split at hmem <;> simp at hmem

/-- A commit with an unknown outcome that loses the connection leaves the handle lost. -/
theorem Serves.lost_of_commit {config : Config} {s t : Worker} {l : Served}
    (h : Serves config s l t) (hop : l.operation = .commit)
    (hcode : Reply.code l.reply = some .commitOutcomeUnknown)
    (hlost : l.trace.any Call.loses = true) : t.Lost := by
  obtain ⟨rounds, handled⟩ := h.handled
  obtain ⟨-, hafter, -⟩ := id h
  cases handled with
  | refused error refusal conn calls present observation published flag coded =>
    rw [hcode] at coded
    have hmem := Worker.refusal_code refusal
    rw [← Option.some.inj coded] at hmem
    exact absurd hmem (by decide)
  | ran r free conn calls present observation returns published flag coded =>
    rw [hop] at returns
    rw [hcode] at coded
    generalize ht : t.backend = b' at returns
    rcases commit_post.returns returns with ⟨code, status, hrefused⟩ | ⟨rs, _, _, _, _, _, _⟩ |
      ⟨r, sqlstate, _, _, same, call⟩
    · rcases hrefused with rfl | rfl <;> cases coded
    · cases coded
    · have hl : l.LostCommit := ⟨hop, flag⟩
      obtain ⟨hpublished, hunobserved⟩ := h.published_lost hl
      obtain ⟨new, hnew, haccounts⟩ := call.accounts
      have htrace : l.trace = new := by
        rw [Served.trace, hafter, ht, hnew, calls]
        exact List.append_nil new
      -- the answers account for the standing, and one of them is a loss
      have hgone : b'.wire.standing = .gone := by
        rw [htrace] at hlost
        cases hst : b'.wire.standing with
        | gone => rfl
        | waiting x sql =>
          rw [hst] at haccounts
          rw [haccounts.2.1] at hlost
          cases hlost
        | resting x =>
          rw [hst] at haccounts
          rw [haccounts.1] at hlost
          cases hlost
      refine .inr ⟨?_, ?_, ?_, hunobserved⟩
      · rw [ht]
        exact Wire.standing_gone_iff.mp hgone
      · rw [hpublished]
        exact nofun
      · rw [hpublished]

/-- A commit with an unknown outcome that loses the connection is terminal. -/
theorem commitUnknown_terminal {config : Config} {s t : Worker} {pre post : List Served} {l : Served}
    (run : Run (Serves config) s (pre ++ l :: post) t) (hop : l.operation = .commit)
    (hcode : Reply.code l.reply = some .commitOutcomeUnknown)
    (hlost : l.trace.any Call.loses = true) : ∀ later ∈ post, later.Terminal := by
  obtain ⟨u, -, run⟩ := run.append_inv
  obtain ⟨v, step, rest⟩ := run.cons_inv
  have hv : v.Lost := step.lost_of_commit hop hcode hlost
  intro later hlater
  obtain ⟨earlier, -, w, w', -, run, last, -⟩ := rest.mem_step hlater
  have hw : w.Lost :=
    run.invariant (I := Worker.Lost) (G := fun _ => True) (fun _ _ _ hs _ hstep => (hstep.lost hs).1)
      (fun _ _ => trivial) hv
  exact (last.lost hw).2

/-- COMMIT is answered by an error, which ends the transaction. -/
def commitRejected : Script :=
  .accept
    { events := [.result { status := .fatalError, sqlstate := some "23505", shape := PgResult.noTuples }]
      after := .idle }

/-- The connection breaks while the response to COMMIT is awaited. -/
def commitLost : Script := .accept { events := [.trouble false], after := .idle }

theorem commitUnknown_terminal_lost : ∃ pre l post t,
    Run (Serves .default) .opened (pre ++ l :: post) t ∧ post.length = 1 ∧
      ∀ later ∈ post, later.Terminal := by
  obtain ⟨ls, t, hls, henv, run⟩ := exists_play 3 .default (s := .opened)
    [(.commit, .calm []), (.commit, .calm [commitLost]), (.getSchema, .cancelledAtBegin)]
    (p := fun played => played.1.length == 3 && played.1[1]?.any fun l =>
      Reply.code l.reply == some .commitOutcomeUnknown && l.trace.any Call.loses)
    (by decide +kernel)
  rw [Bool.and_eq_true, beq_iff_eq] at hls
  obtain ⟨l₁, l₂, l₃, rfl⟩ := List.length_eq_three.mp hls.1
  simp only [List.getElem?_cons_succ, List.getElem?_cons_zero, Option.any_some, Bool.and_eq_true,
    beq_iff_eq] at hls
  simp only [List.map_cons, List.map_nil, List.reverse_cons, List.reverse_nil, List.nil_append,
    List.cons_append, List.cons.injEq, Prod.mk.injEq, and_true] at henv
  have run : Run (Serves .default) .opened ([l₁] ++ l₂ :: [l₃]) t := run
  exact ⟨[l₁], l₂, [l₃], t, run, rfl, commitUnknown_terminal run henv.2.1.1 hls.2.1 hls.2.2⟩

/-- A commit that is rejected on a usable connection is published as lost, and the next
request publishes the connection as usable again. -/
theorem commitUnknown_republished :
    ¬ ∀ (config : Config) (s t : Worker) (pre post : List Served) (l : Served), s.Fresh →
      Run (Serves config) s (pre ++ l :: post) t → l.operation = .commit →
      Reply.code l.reply = some .commitOutcomeUnknown → ∀ later ∈ post, later.Terminal := by
  intro h
  obtain ⟨ls, t, hls, henv, run⟩ := exists_play 3 .default (s := .opened)
    [(.commit, .calm []), (.commit, .calm [commitRejected]), (.getSchema, .cancelledAtBegin)]
    (p := fun played => played.1.length == 3 && (played.1[1]?.any (fun l =>
      Reply.code l.reply == some .commitOutcomeUnknown) && played.1[2]?.any fun l =>
      !l.after.published.closed && l.after.published.state.connectionStatus == .ok))
    (by decide +kernel)
  rw [Bool.and_eq_true, beq_iff_eq] at hls
  obtain ⟨l₁, l₂, l₃, rfl⟩ := List.length_eq_three.mp hls.1
  simp only [List.getElem?_cons_succ, List.getElem?_cons_zero, Option.any_some, Bool.and_eq_true,
    beq_iff_eq, Bool.not_eq_true'] at hls
  simp only [List.map_cons, List.map_nil, List.reverse_cons, List.reverse_nil, List.nil_append,
    List.cons_append, List.cons.injEq, Prod.mk.injEq, and_true] at henv
  have run : Run (Serves .default) .opened ([l₁] ++ l₂ :: [l₃]) t := run
  obtain ⟨-, hclosed | ⟨hbad, -⟩⟩ := h _ _ _ _ _ _ Worker.opened_fresh run henv.2.1.1 hls.2.1 l₃
    (List.mem_singleton_self l₃)
  · rw [hls.2.2.1] at hclosed
    cases hclosed
  · rw [hls.2.2.2] at hbad
    cases hbad

end PgMcp
