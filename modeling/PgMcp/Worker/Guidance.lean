import PgMcp.Worker.Moves
import PgMcp.Worker.Truthful

/-!
# The documented moves

The table of recommended moves, as documented: by the kind of the reply first, then by the
snapshot the reply carries.  The moves of the source are a function of the snapshot alone,
so they are the documented ones unless the kind of the reply matters.

## Main definitions

* `documentedTools` — the table.
* `Served.Documented` — the moves of the reply follow the table.
* `Served.Unexceptional` — the kind of the reply makes no difference.
* `Served.Ordinary` — a request of a running server that is not a close in an open transaction.

## Main results

* `documented_of_run_iff` — the moves of all replies of a run follow the table exactly when
  no reply is an exception, and no reply to an ordinary request is.
-/

namespace PgMcp

open Program Backend

/-! ### The table -/

/-- The tools recommended with a reply, by its kind and by the snapshot it carries. -/
def documentedTools (stopping closeRefusal : Bool) (state : HandleState) : List String :=
  if stopping || state.connectionStatus == .closed then []
  else if state.connectionStatus == .bad || state.transactionStatus == .unknown then
    ["close_database"]
  else if state.busy || state.transactionStatus == .active then []
  else
    match state.transactionStatus with
    | .inError => ["rollback"]
    | .inTransaction =>
      if closeRefusal then ["commit", "rollback"] else ["query", "commit", "rollback"]
    | .idle =>
      if state.schemaObserved then ["open_read", "open_write", "get_schema", "close_database"]
      else ["get_schema", "close_database"]
    | .unknown | .active => []

/-- The table is what the moves are built from. -/
theorem tools_movesForState {state : HandleState} {closeRefusal : Bool} {moves : List Move}
    (h : movesForState state closeRefusal = some moves) :
    moves.map Move.tool = documentedTools false closeRefusal state := by
  obtain ⟨handle, database, connection, status, transactionOpen, busy, observed⟩ := state
  unfold movesForState at h
  split at h
  · cases h
  · cases connection <;> cases status <;> cases busy <;> cases observed <;> cases closeRefusal <;>
      cases h <;> rfl

/-- A stopping server recommends nothing. -/
@[simp] theorem documentedTools_stopping (closeRefusal : Bool) (state : HandleState) :
    documentedTools true closeRefusal state = [] := rfl

/-- The refusal of a close makes a difference in an open transaction only. -/
theorem documentedTools_closeRefusal (state : HandleState) :
    documentedTools false true state = documentedTools false false state ↔
      (state.connectionStatus = .ok → state.busy = false → state.transactionStatus ≠ .inTransaction) := by
  obtain ⟨handle, database, connection, status, transactionOpen, busy, observed⟩ := state
  cases connection <;> cases status <;> cases busy <;> simp [documentedTools]

/-! ### Snapshots -/

/-- A closed handle is published with nothing to observe. -/
def PublishedHandle.Consistent (p : PublishedHandle) : Prop :=
  p.closed = true → p.observation.busy = false

theorem PublishedHandle.Consistent.of_live {p : PublishedHandle} (h : p.closed = false) :
    p.Consistent := fun hclosed => absurd (h.symm.trans hclosed) Bool.false_ne_true

/-- The snapshot of a consistent handle is valid. -/
theorem PublishedHandle.Consistent.validate {p : PublishedHandle} (h : p.Consistent) :
    p.state.validate = true := by
  obtain ⟨id, database, ⟨connection, status, busy⟩, observed, dirty, closed⟩ := p
  cases closed with
  | false => cases connection <;> cases status <;> rfl
  | true =>
    cases (show busy = false from h rfl)
    rfl

/-- The tools of a valid snapshot. -/
theorem tools_of_validate {state : HandleState} (h : state.validate = true) :
    (movesOf (some state)).map Move.tool = documentedTools false false state := by
  have hsome : ∃ moves, movesForState state false = some moves := by
    unfold movesForState
    rw [h]
    cases state.transactionStatus <;> simp only [Bool.not_true, Bool.false_eq_true, if_false] <;>
      split_ifs <;> exact ⟨_, rfl⟩
  obtain ⟨moves, hmoves⟩ := hsome
  rw [← tools_movesForState hmoves]
  simp [movesOf, nextMoves, hmoves]

section Serves

variable {config : Config} {s t : Worker} {l : Served}

/-- A request that closes the handle leaves nothing to observe. -/
theorem Serves.consistent (h : Serves config s l t) : t.published.Consistent := by
  obtain ⟨rounds, handled⟩ := h.handled
  obtain ⟨-, -, hlive, -⟩ := h
  intro hclosed
  cases handled with
  | refused error refusal conn calls present observation published =>
    rw [published, settle_closed] at hclosed
    exact absurd (hlive.symm.trans hclosed) Bool.false_ne_true
  | ran r free conn calls present observation returns published =>
    rw [published, settle_closed] at hclosed
    obtain ⟨hop, hsucceeds⟩ := closed_of_record hlive returns hclosed
    rw [published, settle_close _ returns hop hsucceeds]
    rw [hop] at returns
    generalize t.backend = b' at returns
    cases close_post.returns returns with
    | refused => cases hsucceeds
    | closed => rfl

/-- The reply carries a valid snapshot, and its moves. -/
theorem Serves.guided (h : Serves config s l t) : ∃ state, Reply.handleState l.reply = some state ∧
    Reply.moves l.reply = movesOf (some state) ∧ state.validate = true := by
  have hconsistent := h.consistent
  obtain ⟨rounds, handled⟩ := h.handled
  obtain ⟨-, -, hlive, -⟩ := h
  cases handled with
  | refused error refusal conn calls present observation published flag coded failed moves state =>
    exact ⟨_, state, moves, hconsistent.validate⟩
  | ran r free conn calls present observation returns published flag coded succeeded moves failed state =>
    refine ⟨_, state, moves, ?_⟩
    split
    · next hout =>
      rw [(record_outgrown (s.install l.env).published returns hout).1]
      exact (PublishedHandle.Consistent.of_live hlive).validate
    · exact hconsistent.validate

end Serves

/-! ### Replies -/

/-- The moves of the reply are those of the table. -/
def Served.Documented (l : Served) : Prop :=
  ∃ state, Reply.handleState l.reply = some state ∧
    (Reply.moves l.reply).map Move.tool =
      documentedTools (Reply.code l.reply == some .serverStopping)
        (l.operation == .close && Reply.code l.reply == some .activeTransaction) state

/-- The kind of the reply makes no difference: a reply that the server is stopping is given on
a handle without moves, and no close is refused on a usable connection in an open
transaction. -/
structure Served.Unexceptional (l : Served) : Prop where
  stopping : Reply.code l.reply = some .serverStopping →
    ∀ state, Reply.handleState l.reply = some state → documentedTools false false state = []
  refusal : l.operation = .close → Reply.code l.reply = some .activeTransaction →
    ∀ state, Reply.handleState l.reply = some state → state.connectionStatus = .ok →
      state.busy = false → state.transactionStatus ≠ .inTransaction

/-- The moves of a reply follow the table exactly when the kind of the reply makes no
difference. -/
theorem Serves.documented_iff {config : Config} {s t : Worker} {l : Served}
    (h : Serves config s l t) : l.Documented ↔ l.Unexceptional := by
  obtain ⟨state, hstate, hmoves, hvalid⟩ := h.guided
  -- a valid reply has the tools of its snapshot, whatever its kind
  have htools : (Reply.moves l.reply).map Move.tool = documentedTools false false state := by
    rw [hmoves, tools_of_validate hvalid]
  have hdocumented : l.Documented ↔ documentedTools false false state =
      documentedTools (Reply.code l.reply == some .serverStopping)
        (l.operation == .close && Reply.code l.reply == some .activeTransaction) state := by
    rw [← htools]
    constructor
    · rintro ⟨state', hstate', h⟩
      rw [hstate, Option.some.injEq] at hstate'
      subst hstate'
      exact h
    · exact fun h => ⟨state, hstate, h⟩
  have hunique : ∀ {P : HandleState → Prop},
      (∀ state', Reply.handleState l.reply = some state' → P state') ↔ P state := by
    intro P
    rw [hstate]
    simp
  rw [hdocumented]
  cases hstopping : Reply.code l.reply == some .serverStopping with
  | true =>
    rw [beq_iff_eq] at hstopping
    rw [documentedTools_stopping]
    refine ⟨fun h => ⟨fun _ => hunique.mpr h, fun _ hrefused => ?_⟩, fun h => hunique.mp (h.1 hstopping)⟩
    rw [hstopping] at hrefused
    cases hrefused
  | false =>
    rw [beq_eq_false_iff_ne] at hstopping
    have hrest : ∀ Q : Prop, (Q ↔ (l.operation = .close → Reply.code l.reply = some .activeTransaction →
        state.connectionStatus = .ok → state.busy = false → state.transactionStatus ≠ .inTransaction)) →
        (Q ↔ l.Unexceptional) := by
      intro Q hQ
      rw [hQ]
      exact ⟨fun h => ⟨fun h' => absurd h' hstopping, fun hop hcode => hunique.mpr (h hop hcode)⟩,
        fun h hop hcode => hunique.mp (h.2 hop hcode)⟩
    refine hrest _ ?_
    cases hrefused : l.operation == .close && Reply.code l.reply == some .activeTransaction with
    | true =>
      rw [Bool.and_eq_true, beq_iff_eq, beq_iff_eq] at hrefused
      rw [eq_comm, documentedTools_closeRefusal]
      exact ⟨fun h _ _ => h, fun h => h hrefused.1 hrefused.2⟩
    | false =>
      refine iff_of_true rfl fun hop hcode => ?_
      simp [hop, hcode] at hrefused

/-! ### Requests -/

/-- The shutdown flag is not found up, and a close is not asked of a usable connection in an open
transaction. -/
structure Served.Ordinary (l : Served) : Prop where
  running : ∀ m < l.after.tick, l.env.ctx.shutdown m = false
  closes : l.operation = .close → l.before.backend.observation.connectionStatus = .ok →
    l.before.backend.observation.busy = false →
    l.before.backend.observation.transactionStatus ≠ .inTransaction

theorem BackendConnectionStatus.protocol_ok {c : BackendConnectionStatus} (h : c.protocol = .ok) :
    c = .ok := by
  cases c <;> first | rfl | cases h

/-- A close that is refused leaves the connection as it is, and its reply says so. -/
theorem Serves.close_refused {config : Config} {s t : Worker} {l : Served} (h : Serves config s l t)
    (hop : l.operation = .close) (hcode : Reply.code l.reply = some .activeTransaction) {state : HandleState}
    (hstate : Reply.handleState l.reply = some state) (hok : state.connectionStatus = .ok) :
    l.before.backend.observation.connectionStatus = .ok ∧ l.before.backend.observation.busy = state.busy ∧
      l.before.backend.observation.transactionStatus = state.transactionStatus := by
  -- the snapshot of the reply is what the backend observed before the close
  have shown : ∀ {p : PublishedHandle}, p.observation = l.before.backend.observation → state = p.state →
      l.before.backend.observation.connectionStatus = .ok ∧
        l.before.backend.observation.busy = state.busy ∧
        l.before.backend.observation.transactionStatus = state.transactionStatus := by
    intro p hp hshown
    subst hshown
    rw [← hp]
    cases hclosed : p.closed with
    | true =>
      simp only [PublishedHandle.state, hclosed] at hok
      cases hok
    | false =>
      simp only [PublishedHandle.state, hclosed] at hok ⊢
      exact ⟨BackendConnectionStatus.protocol_ok hok, rfl, rfl⟩
  obtain ⟨rounds, handled⟩ := h.handled
  obtain ⟨rfl, rfl, -⟩ := h
  cases handled with
  | refused error refusal conn calls present observation published flag coded failed moves shownState =>
    refine shown (p := l.after.published) ?_ (Option.some.inj (hstate.symm.trans shownState))
    rw [published, hop]
    cases error.outcomeUnknown <;> rfl
  | ran r free conn calls present observation returns published flag coded succeeded moves failed
    shownState =>
    rw [hop] at returns
    generalize hb : l.after.backend = b' at returns published
    cases close_post.returns returns with
    | refused status =>
      refine shown (p := l.after.published) ?_ (Option.some.inj (hstate.symm.trans shownState))
      rw [published]
      exact observation
    | closed =>
      rw [coded] at hcode
      cases hcode

/-- The kind of the reply to an ordinary request makes no difference. -/
theorem Serves.unexceptional {config : Config} {s t : Worker} {l : Served} (h : Serves config s l t)
    (hl : l.Ordinary) : l.Unexceptional := by
  constructor
  · intro hcode
    obtain ⟨m, hm, hraised⟩ := truthful_of_run (.single h) l (List.mem_singleton_self l) .shutdown hcode
    rw [hl.running m hm] at hraised
    cases hraised
  · intro hop hcode state hstate hok hbusy
    obtain ⟨hnative, hnativeBusy, hnativeStatus⟩ := h.close_refused hop hcode hstate hok
    rw [← hnativeStatus]
    exact hl.closes hop hnative (hnativeBusy.trans hbusy)

/-- The moves of all replies of a run follow the table exactly when the kind of no reply
makes a difference; and they do when every request is an ordinary one. -/
theorem documented_of_run_iff {config : Config} {s t : Worker} {ls : List Served}
    (run : Run (Serves config) s ls t) :
    ((∀ l ∈ ls, l.Documented) ↔ ∀ l ∈ ls, l.Unexceptional) ∧
      ((∀ l ∈ ls, l.Ordinary) → ∀ l ∈ ls, l.Documented) := by
  have hiff : (∀ l ∈ ls, l.Documented) ↔ ∀ l ∈ ls, l.Unexceptional :=
    run.forall_iff (I := fun _ => True) (fun _ _ _ _ h => ⟨h.documented_iff, fun _ => trivial⟩) trivial
  refine ⟨hiff, fun hordinary => hiff.mpr fun l hl => ?_⟩
  obtain ⟨-, -, u, u', -, -, step, -⟩ := run.mem_step hl
  exact step.unexceptional (hordinary l hl)

/-- A transaction that is opened, and closed after its commit. -/
theorem documented_of_run_iff_closed : ∃ ls t, Run (Serves .default) .inspected ls t ∧
    ls.map Served.operation = [.openRead, .commit, .close] ∧ ∀ l ∈ ls, l.Documented := by
  obtain ⟨ls, t, hls, henv, run⟩ := exists_play 3 .default (s := .inspected)
    [(.close, .calm []), (.commit, .calm [.completed "COMMIT" true .idle]),
      (.openRead, .calm [.completed "BEGIN" false .inTransaction])]
    (p := fun played => played.1.all fun l => l.operation != .close ||
      l.before.backend.observation.transactionStatus == .idle) (by decide +kernel)
  have hops : ls.map Served.operation = [.openRead, .commit, .close] := by
    have := congrArg (List.map Prod.fst) henv
    simpa [Function.comp_def] using this
  refine ⟨ls, t, run, hops, (documented_of_run_iff run).2 fun l hl => ⟨?_, ?_⟩⟩
  · intro m _
    have hmem : (l.operation, l.env) ∈ ls.map fun l => (l.operation, l.env) := List.mem_map_of_mem hl
    rw [henv] at hmem
    simp only [List.reverse_cons, List.reverse_nil, List.nil_append, List.cons_append, List.mem_cons,
      Prod.mk.injEq, List.not_mem_nil, or_false] at hmem
    rcases hmem with ⟨-, h⟩ | ⟨-, h⟩ | ⟨-, h⟩ <;> rw [h] <;> rfl
  · intro hop _ _ hopen
    have hidle := List.all_eq_true.mp hls l hl
    simp only [hop, hopen] at hidle
    cases hidle

/-- A request that is taken up when the server is stopping. -/
def Environment.stopping : Environment where
  ctx := .timed (some 0) none 1000
  scripts := []
  cancels := []

/-- A close that is refused in an open transaction recommends a query, too; and a stopping
server goes on recommending. -/
theorem moves_undocumented :
    (∃ ls t, Run (Serves .default) .opened ls t ∧ ∃ l ∈ ls, l.operation = .close ∧ ¬ l.Documented) ∧
    ∃ l t, Run (Serves .default) .opened [l] t ∧
      Reply.code l.reply = some .serverStopping ∧ ¬ l.Documented := by
  constructor
  · obtain ⟨ls, t, hls, henv, run⟩ := exists_play 3 .default (s := .inspected)
      [(.close, .calm []), (.openRead, .calm [.completed "BEGIN" false .inTransaction])]
      (p := fun played => played.1.length == 2 && played.1.getLast?.any fun l =>
        Reply.code l.reply == some .activeTransaction && (Reply.handleState l.reply).any fun state =>
          state.connectionStatus == .ok && !state.busy && state.transactionStatus == .inTransaction)
      (by decide +kernel)
    rw [Bool.and_eq_true, beq_iff_eq] at hls
    obtain ⟨l₁, l₂, rfl⟩ := List.length_eq_two.mp hls.1
    obtain ⟨first, before, -, run⟩ := inspected_run run
    simp only [List.getLast?_cons_cons, List.getLast?_singleton, Option.any_some, Bool.and_eq_true,
      beq_iff_eq, Option.any_eq_true] at hls
    obtain ⟨-, hcode, state, hstate, ⟨hok, hfree⟩, hopen⟩ := hls
    have hop : l₂.operation = .close := by simp at henv; exact henv.2.1
    refine ⟨_, t, run, l₂, by simp, hop, fun h => ?_⟩
    obtain ⟨-, -, s, s', -, -, step, -⟩ := run.mem_step (l := l₂) (by simp)
    have hplain := step.documented_iff.mp h
    exact hplain.refusal hop hcode state hstate hok (by simpa using hfree) hopen
  · obtain ⟨ls, t, hls, -, run⟩ := exists_play 3 .default (s := .opened) [(.getSchema, .stopping)]
      (p := fun played => played.1.length == 1 && played.1.all fun l =>
        Reply.code l.reply == some .serverStopping && (Reply.handleState l.reply).any fun state =>
          documentedTools false false state != []) (by decide +kernel)
    rw [Bool.and_eq_true, beq_iff_eq] at hls
    obtain ⟨l, rfl⟩ := List.length_eq_one_iff.mp hls.1
    simp only [List.all_cons, List.all_nil, Bool.and_true, Bool.and_eq_true, beq_iff_eq,
      Option.any_eq_true, bne_iff_ne] at hls
    obtain ⟨-, hcode, state, hstate, hmoves⟩ := hls
    refine ⟨l, t, run, hcode, fun h => ?_⟩
    obtain ⟨-, -, s, s', -, -, step, -⟩ := run.mem_step (l := l) (by simp)
    exact hmoves ((step.documented_iff.mp h).stopping hcode state hstate)

end PgMcp
