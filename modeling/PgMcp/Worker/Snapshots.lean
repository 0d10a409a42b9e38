import PgMcp.Worker.Inspection

/-!
# The published snapshot of a handle

The snapshot a request leaves behind is the native one, unless the request was a commit
whose outcome is unknown: its snapshot is published over whatever the connection has
become, and the next request replaces it again.

## Main definitions

* `Served.LostCommit` — a commit with an unknown outcome.
* `Served.refusal` — the error a request was refused with.

## Main results

* `observation_of_run` — the snapshot is the native one.
* `refused_frame` — a refused request leaves the snapshot alone.
-/

namespace PgMcp

open Program Backend

/-! ### The snapshot is the native one -/

/-- A commit that was answered with an unknown outcome. -/
def Served.LostCommit (l : Served) : Prop :=
  l.operation = .commit ∧ Reply.outcomeUnknown l.reply = true

instance (l : Served) : Decidable l.LostCommit := inferInstanceAs (Decidable (_ ∧ _))

section Serves

variable {config : Config} {s t : Worker} {l : Served}

theorem Serves.handled (h : Serves config s l t) : ∃ rounds,
    Handled rounds config l.operation l.env.ctx (s.install l.env) l.reply t := by
  obtain ⟨-, -, -, rounds, hserve⟩ := h
  obtain ⟨reply, hreply, handled⟩ := (serve_post ..).returns hserve
  cases hreply
  exact ⟨rounds, handled⟩

theorem settle_observation {operation : Operation} {unknown : Bool}
    {observation : BackendObservation} (p : PublishedHandle)
    (h : ¬ (operation = .commit ∧ unknown = true)) :
    (settle operation unknown observation p).observation = observation := by
  cases unknown with
  | false => rfl
  | true =>
    cases operation with
    | commit => exact absurd ⟨rfl, rfl⟩ h
    | query request => rfl
    | getSchema | openRead | openWrite | rollback | close => rfl

/-- A bad connection reports an unknown status. -/
theorem LibpqBackend.observation_bad {b : LibpqBackend}
    (h : b.observation.connectionStatus ≠ .ok) : b.observation.transactionStatus = .unknown := by
  unfold LibpqBackend.observation at h ⊢
  split at h
  · rename_i hpresent
    rw [if_pos hpresent]
    unfold Wire.observation Wire.connectionStatus Wire.transactionStatus PgConn.transactionStatus at *
    cases hconn : b.wire.conn with
    | none => rfl
    | some c =>
      cases hok : c.ok with
      | false => simp [hok]
      | true => simp [hconn, hok, WireStatus.backend] at h
  · rename_i hpresent
    rw [if_neg hpresent]
    rfl

/-- After a request other than a commit with an unknown outcome the snapshot is the native
one. -/
theorem Serves.observation (h : Serves config s l t) (hl : ¬ l.LostCommit) :
    t.published.observation = t.backend.observation := by
  obtain ⟨rounds, handled⟩ := h.handled
  cases handled with
  | refused error refusal conn calls present observation published flag coded failed moves =>
    rw [published, settle_observation, observation]
    rw [← flag]
    exact hl
  | ran r free conn calls present observation returns published flag =>
    rw [published, settle_observation]
    rw [← flag]
    exact hl

/-- What a commit with an unknown outcome is published with. -/
theorem Serves.published_lost (h : Serves config s l t) (hl : l.LostCommit) :
    t.published.observation =
        { connectionStatus := .bad, transactionStatus := .unknown, busy := false } ∧
      t.published.schemaObserved = false := by
  obtain ⟨rounds, handled⟩ := h.handled
  obtain ⟨hop, hunknown⟩ := hl
  cases handled with
  | refused error refusal conn calls present observation published flag =>
    rw [published, ← flag, hunknown, hop]
    exact ⟨rfl, rfl⟩
  | ran r free conn calls present observation returns published flag =>
    rw [published, ← flag, hunknown, hop]
    exact ⟨rfl, rfl⟩

/-- The snapshot after a run is the native one, unless the last request was a commit with an
unknown outcome. -/
theorem observation_of_run {s₀ : Worker} {ls : List Served} (fresh : s₀.Fresh)
    (run : Run (Serves config) s₀ ls t) (hlast : ∀ last ∈ ls.getLast?, ¬ last.LostCommit) :
    t.published.observation = t.backend.observation := by
  cases run with
  | nil => exact fresh.observation
  | snoc earlier last => exact last.observation (hlast _ (by simp))

end Serves

/-! ### Refused requests -/

/-- The error a request was refused with, if the backend was not called. -/
def Served.refusal (config : Config) (l : Served) : Option CoreError :=
  (l.before.install l.env).refusal config l.operation l.env.ctx

/-- A refusal with an unknown outcome is that of a query whose token is cancelled or whose
deadline has passed. -/
theorem Worker.refusal_unknown_code {config : Config} {operation : Operation} {ctx : RequestContext}
    {s : Worker} {error : CoreError} (h : s.refusal config operation ctx = some error)
    (hunknown : error.outcomeUnknown = true) :
    error.code = .cancelled ∨ error.code = .deadlineExceeded := by
  have hpre := (refusal_unknown h hunknown).2
  unfold refusal at h
  simp only [hpre] at h
  split_ifs at h
  · cases h
    cases hunknown
  · cases h
    exact .inl (refusalError_code ..)
  · cases h
    exact .inr (refusalError_code ..)
  · cases hvalid : operationValidate config operation with
    | error e =>
      rw [hvalid] at h
      cases h
      cases hunknown
    | ok u =>
      rw [hvalid] at h
      cases h

/-- A refused request leaves the connection and the snapshot alone, unless it comes right
after a commit with an unknown outcome; a query that is refused because its token is
cancelled or its deadline has passed is answered with an unknown outcome, which withdraws
the schema observation. -/
theorem refused_frame {config : Config} {s₀ t : Worker} {ls : List Served} {l : Served}
    {error : CoreError} (fresh : s₀.Fresh) (run : Run (Serves config) s₀ (ls ++ [l]) t)
    (hlast : ∀ last ∈ ls.getLast?, ¬ last.LostCommit) (hrefused : l.refusal config = some error) :
    l.after.backend.wire.conn = l.before.backend.wire.conn ∧
      Reply.outcomeUnknown l.reply = error.outcomeUnknown ∧
      (error.outcomeUnknown = false → l.after.published = l.before.published) ∧
      (error.outcomeUnknown = true →
        l.after.published = { l.before.published with schemaObserved := false } ∧
        (∃ request, l.operation = .query request) ∧
        (error.code = .cancelled ∨ error.code = .deadlineExceeded)) := by
  obtain ⟨s, earlier, step⟩ := run.snoc_inv
  have hagree := observation_of_run fresh earlier hlast
  obtain ⟨rounds, handled⟩ := step.handled
  obtain ⟨rfl, rfl, -⟩ := step
  cases handled with
  | ran r free => rw [Served.refusal, free] at hrefused; cases hrefused
  | refused error' refusal conn calls present observation published flag coded failed moves =>
    rw [Served.refusal, refusal] at hrefused
    cases hrefused
    have published : l.after.published =
        settle l.operation error.outcomeUnknown l.before.published.observation l.before.published := by
      rw [hagree]
      exact published
    refine ⟨conn, flag, fun hknown => ?_, fun hunknown => ?_⟩
    · rw [published, hknown]
      rfl
    · obtain ⟨⟨request, hop⟩, -⟩ := Worker.refusal_unknown refusal hunknown
      refine ⟨?_, ⟨request, hop⟩, Worker.refusal_unknown_code refusal hunknown⟩
      rw [published, hunknown, hop]
      rfl

/-- A request whose token is cancelled before it is taken up. -/
def Environment.cancelled : Environment where
  ctx := .timed none (some 0) 1000
  scripts := []
  cancels := []

theorem refused_frame_opened : ∃ l t, Run (Serves .default) .opened ([] ++ [l]) t ∧
    l.after.backend.wire.conn = l.before.backend.wire.conn ∧
      Reply.outcomeUnknown l.reply = false ∧
      (false = false → l.after.published = l.before.published) ∧
      (false = true →
        l.after.published = { l.before.published with schemaObserved := false } ∧
        (∃ request, l.operation = .query request) ∧
        (ErrorCode.noTxOpen = .cancelled ∨ ErrorCode.noTxOpen = .deadlineExceeded)) := by
  obtain ⟨ls, t, hls, -, run⟩ := exists_play 3 .default (s := .opened) [(.commit, .calm [])]
    (p := fun played => played.1.length == 1 && played.1.all fun l =>
      l.refusal .default == some (coreError .noTxOpen)) (by decide +kernel)
  rw [Bool.and_eq_true, beq_iff_eq] at hls
  obtain ⟨l, rfl⟩ := List.length_eq_one_iff.mp hls.1
  have hrefused : l.refusal .default = some (coreError .noTxOpen) := by simpa using hls.2
  have hfirst : ∀ last ∈ ([] : List Served).getLast?, ¬ last.LostCommit := by simp
  have run : Run (Serves .default) .opened ([] ++ [l]) t := run
  exact ⟨l, t, run, refused_frame Worker.opened_fresh run hfirst hrefused⟩

/-- A query that is refused because its token is cancelled withdraws the schema observation. -/
theorem refused_query_withdraws :
    ¬ ∀ (config : Config) (s₀ t : Worker) (ls : List Served) (l : Served) (error : CoreError),
      s₀.Fresh → Run (Serves config) s₀ (ls ++ [l]) t → l.refusal config = some error →
      l.after.published = l.before.published := by
  intro h
  obtain ⟨ls, t, hls, -, run⟩ := exists_play 3 .default (s := .inspected)
    [(.query { sql := "SELECT 1", parameters := [] }, .cancelled),
      (.openRead, .calm [.completed "BEGIN" false .inTransaction])]
    (p := fun played => played.1.length == 2 && played.1.getLast?.any fun l =>
      (l.refusal .default).isSome && l.before.published.schemaObserved &&
        !l.after.published.schemaObserved) (by decide +kernel)
  rw [Bool.and_eq_true, beq_iff_eq] at hls
  obtain ⟨l₁, l₂, rfl⟩ := List.length_eq_two.mp hls.1
  obtain ⟨first, before, -, run⟩ := inspected_run run
  simp only [List.getLast?_cons_cons, List.getLast?_singleton, Option.any_some,
    Bool.and_eq_true, Option.isSome_iff_exists] at hls
  obtain ⟨-, ⟨⟨error, hrefused⟩, hbefore⟩, hafter⟩ := hls
  have hsame := h .default _ _ [first, { l₁ with before := before }] l₂ error
    Worker.opened_fresh run hrefused
  rw [hsame, hbefore] at hafter
  cases hafter

end PgMcp
