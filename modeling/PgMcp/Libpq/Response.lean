import PgMcp.Libpq.Phases

/-!
# Awaiting, fetching and draining a response

One specification for each phase of a response: waiting until libpq has its next
result, fetching it to the final NULL, and draining it after a cancel request.

## Main definitions

* `Noted` — what a wait has recorded agrees with the entries it has added.
* `Drained` — the response has been fetched to the final NULL.
* `Awaited`, `Collected`, `Idling`, `CancelDrained` — how the phases end.

## Main results

* `awaitResult_post`, `fetchResults_post` — the two loops of `collect_results`.
* `awaitIdle_post`, `fetchIdle_post` — the two loops of `drain_until_idle`.
* `cancelAndDrain_post` — a statement is drained, or its connection is disposed.
-/

namespace PgMcp

open Program

/-! ### Waiting for the response -/

/-- On a usable connection `PQconsumeInput` fails exactly on trouble. -/
theorem pqConsumeInput_post {c : PgConn} {s : Statement} {w : Wire} (hok : c.ok = true)
    (hconn : w.conn = some (c.carrying s)) :
    pqConsumeInput.Post w fun r w' =>
      (r = .ok true ∧ w' = w ∧ ∀ usable events, s.events ≠ .trouble usable :: events) ∨
      ∃ usable events, r = .ok false ∧ s.events = .trouble usable :: events ∧ w'.calls = w.calls ∧
        w'.conn = some { c.carrying { s with events := events } with ok := usable } := by
  simp only [pqConsumeInput, post_act, hconn, PgConn.carrying_ok, PgConn.carrying_activity, hok,
    Bool.not_true, Bool.false_eq_true, if_false]
  split
  · rename_i usable events hevents
    exact .inr ⟨usable, events, rfl, hevents, rfl, rfl⟩
  · rename_i h
    exact .inl ⟨rfl, rfl, h⟩

/-- Entries added while a response is awaited. -/
def Call.waiting : Call → Bool
  | .observed _ | .isBusy _ | .cancelCreate | .cancelPolled _ => true
  | _ => false

/-- What a wait has recorded agrees with the entries it has added. -/
structure Noted (ctl : PollControl) (deadline : ℕ) (seen : Observed) (waits : List Call)
    (tick : ℕ) : Prop where
  waiting : ∀ call ∈ waits, call.waiting = true
  raised : ∀ e, seen.firstError = some e → e.outcomeUnknown = true ∧ ctl.Raised deadline tick
  quiet : seen.firstError = none → ∀ reason, .observed reason ∉ waits

section Await

variable {ctl : PollControl} {deadline : ℕ} {seen : Observed} {waits : List Call} {m n : ℕ}

theorem Noted.mono (h : Noted ctl deadline seen waits m) (hmn : m ≤ n) :
    Noted ctl deadline seen waits n :=
  ⟨h.waiting, fun e he => ⟨(h.raised e he).1, (h.raised e he).2.mono hmn⟩, h.quiet⟩

theorem Noted.isBusy (h : Noted ctl deadline seen waits m) (b : Bool) :
    Noted ctl deadline seen (.isBusy b :: waits) m := by
  refine ⟨fun call hcall => ?_, h.raised, fun hnone reason hmem => ?_⟩
  · rcases List.mem_cons.mp hcall with rfl | hcall
    · rfl
    · exact h.waiting call hcall
  · rcases List.mem_cons.mp hmem with heq | hmem
    · cases heq
    · exact h.quiet hnone reason hmem

theorem Noted.lost_unknown (h : Noted ctl deadline seen waits m) :
    seen.lost.outcomeUnknown = true := by
  unfold Observed.lost
  cases hf : seen.firstError with
  | none => rfl
  | some e => exact (h.raised e hf).1

/-- A control event is recorded once, with the cancel request it causes. -/
theorem observeControl_post {w w₁ : Wire} (hsome : w₁.conn.isSome = true)
    (hcalls : w₁.calls = waits ++ w.calls) (hnoted : Noted ctl deadline seen waits w₁.tick) :
    (observeControl ctl deadline seen).Post w₁ fun r w' =>
      (∃ seen' waits', r = .ok seen' ∧ w'.conn = w₁.conn ∧ w'.calls = waits' ++ w.calls ∧
        Noted ctl deadline seen' waits' w'.tick) ∨
      ∃ e waits', r = .error e ∧ e.outcomeUnknown = true ∧ Disposed w waits' w' ∧
        ∀ call ∈ waits', call.waiting = true := by
  rw [observeControl]
  cases hf : seen.firstError with
  | some e => exact .inl ⟨seen, waits, rfl, rfl, hcalls, hnoted⟩
  | none =>
    refine (pollReason_post ctl deadline w₁).bind ?_ (by rintro e w' ⟨_, _, h, _⟩; cases h)
    rintro found w₂ ⟨ht, found', hfound, hraised, -⟩
    cases hfound
    cases found with
    | none =>
      exact .inl ⟨seen, waits, rfl, ht.conn, ht.calls.trans hcalls, hnoted.mono ht.tick_le⟩
    | some reason =>
      simp only [log, Clock.read, post_bind, post_update, post_act, andThen_ok]
      have hwaiting : ∀ call ∈ Call.cancelCreate :: .observed reason :: waits,
          call.waiting = true := by
        simpa [Call.waiting] using hnoted.waiting
      rw [← post_bind]
      refine (dispatchCancel_post (by simpa [Wire.logged, ht.conn] using hsome)).bind ?_ ?_
      · rintro b w₃ (⟨_, hconn₃, hcalls₃, htick₃⟩ | _)
        refine .inl ⟨_, .cancelPolled b :: .cancelCreate :: .observed reason :: waits, rfl, ?_, ?_,
          by simpa [Call.waiting] using hwaiting, ?_, (by simp)⟩
        · simpa [Wire.logged, ht.conn] using hconn₃
        · simpa [Wire.logged, ht.calls, hcalls] using hcalls₃
        · rintro e ⟨⟩
          refine ⟨rfl, (hraised rfl).mono ?_⟩
          simp only [Wire.logged] at htick₃
          omega
      · rintro e w₃ (_ | ⟨_, he, hd⟩)
        refine .inr ⟨e, .cancelCreate :: .observed reason :: waits, rfl, he, ⟨hd.conn, ?_⟩, hwaiting⟩
        simpa [Wire.logged, ht.calls, hcalls] using hd.calls

end Await

/-- The next result, or the end of the response, is there. -/
def Arrived : List Event → Prop
  | [] | .result _ :: _ => True
  | _ => False

/-- How waiting for the response to `s` ends. -/
inductive Awaited (ctl : PollControl) (deadline : ℕ) (c : PgConn) (s : Statement) (w : Wire) :
    Except AdapterError Observed → Wire → Prop
  /-- The next result is there. -/
  | ready {w' : Wire} (seen : Observed) (waits : List Call) (rest : List Event)
      (noted : Noted ctl deadline seen waits w'.tick) (arrives : arrival rest = arrival s.events)
      (arrived : Arrived rest) (conn : w'.conn = some (c.carrying { s with events := rest }))
      (calls : w'.calls = .isBusy false :: waits ++ w.calls) :
      Awaited ctl deadline c s w (.ok seen) w'
  /-- Reading fails; the statement stays in flight. -/
  | failed {w' : Wire} (e : AdapterError) (usable : Bool) (waits : List Call) (rest : List Event)
      (unknown : e.outcomeUnknown = true) (waiting : ∀ call ∈ waits, call.waiting = true)
      (conn : w'.conn = some { c.carrying { s with events := rest } with ok := usable })
      (calls : w'.calls = .failed usable :: waits ++ w.calls) :
      Awaited ctl deadline c s w (.error e) w'
  /-- The wait or the cancel request fails, and the connection is disposed. -/
  | disposed {w' : Wire} (e : AdapterError) (waits : List Call)
      (unknown : e.outcomeUnknown = true) (waiting : ∀ call ∈ waits, call.waiting = true)
      (disposed : Disposed w waits w') : Awaited ctl deadline c s w (.error e) w'

theorem awaitResult_post {ctl : PollControl} {deadline : ℕ} {c : PgConn} {s : Statement} {w : Wire}
    (hok : c.ok = true) (hconn : w.conn = some (c.carrying s)) (rounds : ℕ) :
    (awaitResult ctl deadline rounds { firstError := none, drainDeadline := deadline }).Post w
      (Awaited ctl deadline c s w) := by
  -- the rounds before are part of the statement: what they noted, and what they called
  suffices h : ∀ (seen : Observed) (waits : List Call) (events : List Event) (w₁ : Wire),
      w₁.conn = some (c.carrying { s with events := events }) → arrival events = arrival s.events →
      w₁.calls = waits ++ w.calls → Noted ctl deadline seen waits w₁.tick →
      (awaitResult ctl deadline rounds seen).Post w₁ (Awaited ctl deadline c s w) from
    h _ [] s.events w hconn rfl rfl ⟨by simp, nofun, by simp⟩
  induction rounds with
  | zero => intro seen waits events w₁ _ _ _ _; trivial
  | succ rounds ih =>
    intro seen waits events w₁ hconn₁ harr hcalls₁ hnoted₁
    rw [awaitResult]
    refine (observeControl_post (by rw [hconn₁]; rfl) hcalls₁ hnoted₁).bind ?_ ?_
    swap
    · rintro e w₂ (⟨_, _, h, _⟩ | ⟨e', waits', h, he, hd, hwaiting⟩)
      · cases h
      · cases h
        exact .disposed e waits' he hwaiting hd
    rintro seen₂ w₂ (⟨_, waits₂, h, hconn₂, hcalls₂, hnoted₂⟩ | ⟨_, _, h, _⟩)
    swap
    · cases h
    cases h
    rw [hconn₁] at hconn₂
    simp only [connected, post_bind, post_read, andThen_ok, post_require, hconn₂,
      Option.isSome_some, Bool.true_eq_false, false_imp_iff, and_true, true_imp_iff]
    refine (pqConsumeInput_post (s := { s with events := events }) hok hconn₂).mono ?_
    rintro r w₃ (⟨rfl, rfl, htrouble⟩ | ⟨usable, events', rfl, -, hcalls₃, hconn₃⟩)
    · simp only [andThen_ok, if_true, pqIsBusy, post_bind, post_act]
      rw [Wire.events_carrying hconn₂]
      have ready : ∀ b, (w₃.logged (.isBusy b)).calls = .isBusy b :: waits₂ ++ w.calls := by
        intro b
        simp [Wire.logged, hcalls₂]
      cases events with
      | nil => exact .ready seen₂ waits₂ [] hnoted₂ harr trivial hconn₂ (ready false)
      | cons event events =>
        cases event with
        | result r => exact .ready seen₂ waits₂ _ hnoted₂ harr trivial hconn₂ (ready false)
        | trouble usable => exact absurd rfl (htrouble usable events)
        | busy socket =>
          have hconn₄ : (w₃.logged (.isBusy true)).conn =
            some (c.carrying { s with events := .busy socket :: events }) := hconn₂
          have hconn₅ := Wire.withStatement_carrying { s with events := events } hconn₄
          have hnoted₃ := hnoted₂.isBusy true
          -- a missing socket and a failed wait dispose of the connection
          have lost : ∀ {w₆ : Wire}, w₆.conn = some (c.carrying { s with events := events }) →
              w₆.calls = .isBusy true :: waits₂ ++ w.calls →
              (disposeAndFail seen₂.lost : Adapter Observed).Post w₆
                (Awaited ctl deadline c s w) := by
            intro w₆ hconn₆ hcalls₆
            refine (disposeAndFail_post w₆ (by rw [hconn₆]; rfl) hcalls₆).mono ?_
            rintro r w' ⟨rfl, hd⟩
            exact .disposed _ _ hnoted₃.lost_unknown hnoted₃.waiting hd
          simp only [isBusy, andThen_ok, if_true, pqSocket, post_bind, post_act,
            Wire.statement_carrying hconn₄]
          cases socket with
          | none => exact lost hconn₅ (ready true)
          | some socket =>
            dsimp only
            refine (pollFd_post _ _ socket _).attempt_bind ?_
            rintro r w₆ ⟨ht, -⟩
            have hconn₆ := ht.conn.trans hconn₅
            have hcalls₆ := ht.calls.trans (ready true)
            cases r with
            | error e => exact lost hconn₆ hcalls₆
            | ok readable =>
              exact ih seen₂ _ events w₆ hconn₆ harr hcalls₆ (hnoted₃.mono ht.tick_le)
    · have hany : (w₃.conn.any fun x => x.ok) = usable := by rw [hconn₃]; rfl
      simp only [andThen_ok, Bool.false_eq_true, if_false, setBusy, post_bind, post_update,
        post_read, hany]
      refine (giveUp_post { w₃ with busy := false } hconn₃).mono ?_
      rintro r w' ⟨rfl, hconn', hcalls'⟩
      refine .failed _ usable waits₂ events' rfl hnoted₂.waiting ?_ ?_
      · simpa using hconn'
      · simp [hcalls', hcalls₃, hcalls₂]

/-! ### Fetching the response -/

/-- A fetch that came back with a result. -/
def Call.fetched : Call → Bool
  | .getResult _ (.result _) | .getResult _ (.broken _) => true
  | _ => false

/-- A fetch of a COPY result. -/
def Call.fetchedCopy : Call → Bool
  | .getResult _ (.result status) => status.isCopy
  | _ => false

/-- A fetch of a result the collector may accept. -/
def Call.fetchedAccepted : Call → Bool
  | .getResult _ (.result status) => status.accepted
  | _ => false

/-- A fetch after which `PQstatus` is bad. -/
def Call.breaks : Call → Bool
  | .getResult _ (.broken usable) => !usable
  | _ => false

/-- The connection `c` after the response to `s` was fetched to the final NULL. -/
def PgConn.drained (c : PgConn) (s : Statement) (gets : List Call) : Option Completion → PgConn
  | some completion =>
    { ok := c.ok, xact := c.xact.next s.sql completion.after, activity := .resting s.trailing }
  | none =>
    { ok := c.ok && !gets.any Call.breaks, xact := c.xact, activity := .resting none }

/-- The response to `s` has been fetched to the final NULL; `gets` are the fetches before it. -/
structure Drained (c : PgConn) (s : Statement) (w : Wire) (gets : List Call)
    (completion : Option Completion) (w' : Wire) : Prop where
  calls : ∃ blocked, w'.calls = .getResult blocked (.null completion) :: gets ++ w.calls
  fetched : ∀ call ∈ gets, call.fetched = true
  conn : w'.conn = some (c.drained s gets completion)
  tick : w'.tick = w.tick
  whole : completion.isSome = true → gets.any Call.breaks = false
  answer : ∀ done, completion = some done → done.after = s.after ∧ done.commits = s.commits

/-- Part of the response to `s` has been fetched: what is left is `s₁`, on `c₁`. -/
structure Fetching (c : PgConn) (s : Statement) (w : Wire) (gets : List Call) (c₁ : PgConn)
    (s₁ : Statement) (w₁ : Wire) : Prop where
  conn : w₁.conn = some (c₁.carrying s₁)
  tick : w₁.tick = w.tick
  calls : w₁.calls = gets ++ w.calls
  fetched : ∀ call ∈ gets, call.fetched = true
  xact : c₁.xact = c.xact
  ok : c₁.ok = (c.ok && !gets.any Call.breaks)
  whole : s₁.lost = false → gets.any Call.breaks = false
  answer : s₁.sql = s.sql ∧ s₁.after = s.after ∧ s₁.commits = s.commits ∧ s₁.trailing = s.trailing

section Fetch

variable {c c₁ : PgConn} {s s₁ : Statement} {w w₁ : Wire} {gets : List Call}

theorem Fetching.start (hconn : w.conn = some (c.carrying s)) : Fetching c s w [] c s w where
  conn := hconn
  tick := rfl
  calls := rfl
  fetched := by simp
  xact := rfl
  ok := by simp
  whole := fun _ => rfl
  answer := ⟨rfl, rfl, rfl, rfl⟩

/-- One fetch: the final NULL, the error result of a connection that breaks, or the
next result. -/
theorem pqGetResult_post (h : Fetching c s w gets c₁ s₁ w₁) :
    pqGetResult.Post w₁ fun r w' =>
      (r = .ok none ∧ arrival s₁.events = .finished ∧
        Drained c s w gets (if s₁.lost then none else some ⟨s₁.tag, s.commits, s.after⟩) w') ∨
      (∃ usable, r = .ok (some .readFailed) ∧ arrival s₁.events = .trouble usable ∧
        Fetching c s w (.getResult (isBusy s₁.events) (.broken usable) :: gets)
          { c₁ with ok := c₁.ok && usable } { s₁ with events := [], lost := true } w') ∨
      ∃ result rest, r = .ok (some result) ∧ arrival s₁.events = .result result rest ∧
        Fetching c s w (.getResult (isBusy s₁.events) (.result result.status) :: gets) c₁
          { s₁ with
            events := if result.status.isCopy then .result result :: rest else rest
            tag := result.tagAfter s₁.tag } w' := by
  obtain ⟨hsql, hafter, hcommits, htrailing⟩ := h.answer
  have fetched : ∀ {entry : Call}, entry.fetched = true →
      ∀ call ∈ entry :: gets, call.fetched = true := by
    intro entry hentry call hcall
    rcases List.mem_cons.mp hcall with rfl | hcall
    · exact hentry
    · exact h.fetched call hcall
  simp only [pqGetResult, post_act, h.conn, PgConn.carrying_inFlight, PgConn.fetch]
  cases harr : arrival s₁.events with
  | finished =>
    refine .inl ?_
    cases hlost : s₁.lost with
    | true =>
      refine ⟨rfl, rfl, ⟨_, by simp [Wire.logged, h.calls]; rfl⟩, h.fetched, ?_, h.tick, (by simp), by simp⟩
      simp [Wire.logged, PgConn.drained, PgConn.carrying, h.ok, h.xact]
    | false =>
      refine ⟨rfl, rfl, ⟨_, by simp [Wire.logged, h.calls, hafter, hcommits]; rfl⟩, h.fetched, ?_,
        h.tick, fun _ => h.whole hlost, by rintro done ⟨⟩; exact ⟨rfl, rfl⟩⟩
      simp [Wire.logged, PgConn.drained, PgConn.complete, PgConn.carrying, h.ok, h.xact, hsql,
        hafter, htrailing, h.whole hlost]
  | trouble usable =>
    refine .inr (.inl ⟨usable, rfl, rfl, rfl, h.tick, ?_, fetched rfl, h.xact, ?_, (by simp), h.answer⟩)
    · simp [Wire.logged, h.calls]
    · cases usable <;> simp [h.ok, Call.breaks]
  | result r rest =>
    refine .inr (.inr ⟨r, rest, rfl, rfl, rfl, h.tick, ?_, fetched rfl, h.xact, ?_, h.whole, h.answer⟩)
    · simp [Wire.logged, h.calls]
    · simp [h.ok, Call.breaks]

/-- How collecting the response to `s` ends, when `first` is the error recorded before. -/
inductive Collected (c : PgConn) (s : Statement) (w : Wire) (first : Option AdapterError) :
    Except AdapterError ResultSet → Wire → Prop
  /-- A COPY result: the connection is disposed at once. -/
  | copied {w' : Wire} (e : AdapterError) (blocked : Bool) (status : ExecStatus) (gets : List Call)
      (unknown : e.outcomeUnknown = true) (copy : status.isCopy = true)
      (fetched : ∀ call ∈ gets, call.fetched = true)
      (plain : ∀ call ∈ gets, call.fetchedCopy = false)
      (disposed : Disposed w (.getResult blocked (.result status) :: gets) w') :
      Collected c s w first (.error e) w'
  /-- The final NULL: the first error is reported, and without one the result. -/
  | drained {r : Except AdapterError ResultSet} {w' : Wire} (gets : List Call)
      (completion : Option Completion) (drained : Drained c s w gets completion w')
      (plain : ∀ call ∈ gets, call.fetchedCopy = false)
      (ok : ∀ rs, r = .ok rs → first = none ∧
        completion = some ⟨rs.commandTag, s.commits, s.after⟩ ∧
        ∀ call ∈ gets, call.fetchedAccepted = true)
      (error : ∀ e, r = .error e → first = some e ∨ first = none ∧ e.outcomeUnknown = false) :
      Collected c s w first r w'

/-- What the collector has recorded agrees with the fetches made. -/
structure Recorded (first : Option AdapterError) (collector : ResultCollector)
    (firstError : Option AdapterError) (gets : List Call) (s₁ : Statement) : Prop where
  plain : ∀ call ∈ gets, call.fetchedCopy = false
  quiet : firstError = none → first = none ∧ s₁.lost = false ∧
    collector.commandTag.getD "" = s₁.tag ∧ ∀ call ∈ gets, call.fetchedAccepted = true
  error : ∀ e, firstError = some e → first = some e ∨ first = none ∧ e.outcomeUnknown = false

/-- A rejected result is recorded as the first error, unless there is one. -/
theorem Recorded.rejected {first firstError : Option AdapterError}
    {collector collector' : ResultCollector} {e : AdapterError} {entry : Call} {s₁ s₂ : Statement}
    (h : Recorded first collector firstError gets s₁) (he : e.outcomeUnknown = false)
    (hentry : entry.fetchedCopy = false) :
    Recorded first collector' (some (firstError.getD e)) (entry :: gets) s₂ where
  plain := by simpa [hentry] using h.plain
  quiet := nofun
  error := by
    rintro e' ⟨⟩
    cases hf : firstError with
    | none => exact .inr ⟨(h.quiet hf).1, he⟩
    | some e₀ => exact h.error e₀ hf

/-- An accepted result leaves the error as it was and its tag. -/
theorem Recorded.accepted {first firstError : Option AdapterError}
    {collector collector' : ResultCollector} {r : PgResult} {blocked : Bool} {s₁ s₂ : Statement}
    (h : Recorded first collector firstError gets s₁) (hr : r.status.accepted = true)
    (hcopy : r.status.isCopy = false) (hlost : s₂.lost = s₁.lost)
    (htag : collector'.commandTag.getD "" = r.tagAfter (collector.commandTag.getD ""))
    (htag₂ : s₂.tag = r.tagAfter s₁.tag) :
    Recorded first collector' firstError (.getResult blocked (.result r.status) :: gets) s₂ where
  plain := by simpa [Call.fetchedCopy, hcopy] using h.plain
  quiet := by
    intro hf
    obtain ⟨hfirst, hlost₁, htag₁, hall⟩ := h.quiet hf
    refine ⟨hfirst, hlost.trans hlost₁, ?_, by simpa [Call.fetchedAccepted, hr] using hall⟩
    rw [htag, htag₂, htag₁]
  error := h.error

theorem fetchResults_post (rounds : ℕ) (first : Option AdapterError) (limits : QueryLimits)
    (hlost : s.lost = false) (htag : s.tag = "") (hconn : w.conn = some (c.carrying s)) :
    (fetchResults rounds (.new limits) first).Post w (Collected c s w first) := by
  suffices h : ∀ (collector : ResultCollector) (firstError : Option AdapterError)
      (gets : List Call) (c₁ : PgConn) (s₁ : Statement) (w₁ : Wire),
      Fetching c s w gets c₁ s₁ w₁ → Recorded first collector firstError gets s₁ →
      (fetchResults rounds collector firstError).Post w₁ (Collected c s w first) from
    h _ first [] c s w (.start hconn)
      ⟨by simp, fun hf => ⟨hf, hlost, by rw [htag]; rfl, by simp⟩, fun e he => .inl he⟩
  induction rounds with
  | zero => intro collector firstError gets c₁ s₁ w₁ _ _; trivial
  | succ rounds ih =>
    intro collector firstError gets c₁ s₁ w₁ hfetch hrec
    rw [fetchResults]
    refine (pqGetResult_post hfetch).bind ?_ ?_
    swap
    · rintro e w' (⟨h, -⟩ | ⟨_, h, -⟩ | ⟨_, _, h, -⟩) <;> cases h
    rintro result w₂ (⟨h, -, hdrained⟩ | ⟨usable, h, -, hfetch₂⟩ | ⟨r, rest, h, -, hfetch₂⟩)
    · cases h
      -- the state only changes its busy flag from here on
      simp only [setBusy, post_bind, post_update, andThen_ok]
      have hdrained' : Drained c s w gets _ { w₂ with busy := false } :=
        ⟨hdrained.calls, hdrained.fetched, hdrained.conn, hdrained.tick, hdrained.whole,
          hdrained.answer⟩
      cases hf : firstError with
      | some e =>
        refine .drained gets _ hdrained' hrec.plain (by simp) ?_
        rintro e' ⟨⟩
        exact hrec.error e hf
      | none =>
        obtain ⟨hfirst, hlost₁, htag₁, haccepted⟩ := hrec.quiet hf
        refine .drained gets _ hdrained' hrec.plain ?_ (by simp)
        rintro rs ⟨⟩
        refine ⟨hfirst, ?_, haccepted⟩
        simp only [hlost₁, Bool.false_eq_true, if_false, ResultCollector.finish, htag₁]
    · cases h
      have hconsume := consumeResult_accepts (c := collector) (r := .readFailed) rfl
      dsimp only
      rcases hc : consumeResult collector .readFailed with ⟨_ | _, collector'⟩
      · rename_i e
        rw [hc] at hconsume
        obtain ⟨he, hclass⟩ := hconsume.1 e rfl
        simp only [hclass, if_false]
        exact ih _ _ _ _ _ _ hfetch₂ (hrec.rejected he rfl)
      · rw [hc] at hconsume
        exact absurd (hconsume.2 rfl).1 (by decide)
    · cases h
      dsimp only
      cases hcopy : r.status.isCopy with
      | true =>
        rw [consumeResult_copy hcopy]
        simp only [errorClass_new, if_true]
        have hplain := hrec.plain
        have hgets := hfetch.fetched
        refine (disposeAndFail_post w₂ (by rw [hfetch₂.conn]; rfl) hfetch₂.calls).mono ?_
        rintro r' w' ⟨rfl, hd⟩
        exact .copied _ _ _ gets rfl hcopy hgets hplain hd
      | false =>
        have hconsume := consumeResult_accepts (c := collector) hcopy
        rcases hc : consumeResult collector r with ⟨_ | _, collector'⟩
        · rename_i e
          rw [hc] at hconsume
          obtain ⟨he, hclass⟩ := hconsume.1 e rfl
          simp only [hclass, if_false]
          exact ih _ _ _ _ _ _ hfetch₂ (hrec.rejected he hcopy)
        · rw [hc] at hconsume
          obtain ⟨haccepted, htag', -⟩ := hconsume.2 rfl
          exact ih _ _ _ _ _ _ hfetch₂ (hrec.accepted haccepted hcopy rfl htag' rfl)

end Fetch

/-! ### Draining -/

section Drain

variable {clock : Clock} {deadline : ℕ} {c : PgConn} {s : Statement} {w : Wire}

/-- What draining adds to the trace before the first fetch. -/
def Call.polled : Call → Bool
  | .isBusy _ => true
  | _ => false

/-- How `drain_until_idle` waits for the response to `s`. -/
inductive Idling (c : PgConn) (s : Statement) (w : Wire) : Except AdapterError Bool → Wire → Prop
  | ready {w' : Wire} (waits : List Call) (rest : List Event)
      (polled : ∀ call ∈ waits, call.polled = true) (arrives : arrival rest = arrival s.events)
      (arrived : Arrived rest) (conn : w'.conn = some (c.carrying { s with events := rest }))
      (calls : w'.calls = .isBusy false :: waits ++ w.calls) : Idling c s w (.ok true) w'
  | failed {w' : Wire} (e : AdapterError) (waits : List Call)
      (polled : ∀ call ∈ waits, call.polled = true) (conn : w'.conn.isSome = true)
      (calls : w'.calls = waits ++ w.calls) : Idling c s w (.error e) w'

theorem awaitIdle_post (hconn : w.conn = some (c.carrying s)) (rounds : ℕ) :
    (awaitIdle clock deadline rounds).Post w (Idling c s w) := by
  -- again with the calls of the rounds before
  suffices h : ∀ (waits : List Call) (events : List Event) (w₁ : Wire),
      w₁.conn = some (c.carrying { s with events := events }) → arrival events = arrival s.events →
      (∀ call ∈ waits, call.polled = true) → w₁.calls = waits ++ w.calls →
      (awaitIdle clock deadline rounds).Post w₁ (Idling c s w) from
    h [] s.events w hconn rfl (by simp) rfl
  induction rounds with
  | zero => intro waits events w₁ _ _ _ _; trivial
  | succ rounds ih =>
    intro waits events w₁ hconn₁ harr hpolled hcalls₁
    simp only [awaitIdle, connected, post_bind, post_read, andThen_ok, hconn₁, Option.isSome_some,
      if_true]
    cases hok : c.ok with
    -- a bad connection fails the first read
    | false =>
      simp only [pqConsumeInput, post_act, hconn₁, PgConn.carrying_ok, hok, Bool.not_false, if_true,
        andThen_ok, post_bind, post_require, Bool.false_eq_true, false_imp_iff, true_and,
        true_imp_iff, andThen_error]
      exact .failed _ waits hpolled (by rw [hconn₁]; rfl) hcalls₁
    | true =>
      refine (pqConsumeInput_post (s := { s with events := events }) hok hconn₁).mono ?_
      rintro r w₂ (⟨rfl, rfl, htrouble⟩ | ⟨usable, events', rfl, -, hcalls₂, hconn₂⟩)
      swap
      · simp only [andThen_ok, post_bind, post_require, Bool.false_eq_true, false_imp_iff, true_and,
          true_imp_iff, andThen_error]
        exact .failed _ waits hpolled (by rw [hconn₂]; rfl) (hcalls₂.trans hcalls₁)
      simp only [andThen_ok, post_bind, post_require, true_imp_iff, Bool.true_eq_false,
        false_imp_iff, and_true, pqIsBusy, post_act]
      rw [Wire.events_carrying hconn₁]
      have hcalls₂ : ∀ b, (w₂.logged (.isBusy b)).calls = .isBusy b :: waits ++ w.calls := by
        intro b
        simp [Wire.logged, hcalls₁]
      have hpolled₂ : ∀ call ∈ Call.isBusy true :: waits, call.polled = true := by
        simpa [Call.polled] using hpolled
      cases events with
      | nil => exact .ready waits [] hpolled harr trivial hconn₁ (hcalls₂ false)
      | cons event events =>
        cases event with
        | result r => exact .ready waits _ hpolled harr trivial hconn₁ (hcalls₂ false)
        | trouble usable => exact absurd rfl (htrouble usable events)
        | busy socket =>
          have hconn₂ : (w₂.logged (.isBusy true)).conn =
            some (c.carrying { s with events := .busy socket :: events }) := hconn₁
          have hconn₃ := Wire.withStatement_carrying { s with events := events } hconn₂
          simp only [isBusy, andThen_ok, if_true, pqSocket, post_bind, post_act,
            Wire.statement_carrying hconn₂]
          cases socket with
          | none => exact .failed _ _ hpolled₂ (by rw [hconn₃]; rfl) (hcalls₂ true)
          | some socket =>
            refine (pollFd_post clock deadline socket _).bind ?_ ?_
            · rintro readable w₄ ⟨ht, -⟩
              exact ih _ events w₄ (ht.conn.trans hconn₃) harr hpolled₂ (ht.calls.trans (hcalls₂ true))
            · rintro e w₄ ⟨ht, -⟩
              exact .failed e _ hpolled₂ (by rw [ht.conn, hconn₃]; rfl)
                (ht.calls.trans (hcalls₂ true))

theorem fetchIdle_post (hconn : w.conn = some (c.carrying s)) (rounds : ℕ) :
    (fetchIdle rounds).Post w fun r w' => r = .ok () ∧
      ∃ gets completion, Drained c s w gets completion w' := by
  suffices h : ∀ (gets : List Call) (c₁ : PgConn) (s₁ : Statement) (w₁ : Wire),
      Fetching c s w gets c₁ s₁ w₁ → (fetchIdle rounds).Post w₁ fun r w' => r = .ok () ∧
        ∃ gets completion, Drained c s w gets completion w' from
    h [] c s w (.start hconn)
  induction rounds with
  | zero => intro gets c₁ s₁ w₁ _; trivial
  | succ rounds ih =>
    intro gets c₁ s₁ w₁ hfetch
    rw [fetchIdle]
    refine (pqGetResult_post hfetch).bind ?_ ?_
    · rintro result w₂ (⟨h, -, hdrained⟩ | ⟨usable, h, -, hfetch₂⟩ | ⟨r, rest, h, -, hfetch₂⟩)
      · cases h
        exact ⟨rfl, gets, _, hdrained⟩
      · cases h
        exact ih _ _ _ _ hfetch₂
      · cases h
        exact ih _ _ _ _ hfetch₂
    · rintro e w' (⟨h, -⟩ | ⟨_, h, -⟩ | ⟨_, _, h, -⟩) <;> cases h

/-- Entries added by a cancel request and a drain, up to the first fetch. -/
def Call.cancelling : Call → Bool
  | .isBusy _ | .cancelCreate | .cancelPolled _ => true
  | _ => false

/-- How `cancel_and_drain` leaves `s`: fetched to the final NULL, or on a disposed connection. -/
inductive CancelDrained (c : PgConn) (s : Statement) (w : Wire) :
    Except AdapterError Bool → Wire → Prop
  | drained {r : Except AdapterError Bool} {w' w₁ : Wire} (waits gets : List Call)
      (completion : Option Completion) (cancelling : ∀ call ∈ waits, call.cancelling = true)
      (base : w₁.calls = waits ++ w.calls) (drained : Drained c s w₁ gets completion w')
      (error : ∀ e, r = .error e → e.outcomeUnknown = true) : CancelDrained c s w r w'
  | disposed {w' : Wire} (e : AdapterError) (waits : List Call) (unknown : e.outcomeUnknown = true)
      (cancelling : ∀ call ∈ waits, call.cancelling = true) (disposed : Disposed w waits w') :
      CancelDrained c s w (.error e) w'

theorem cancelAndDrain_post {reason : CancelReason} (hconn : w.conn = some (c.carrying s))
    (rounds : ℕ) :
    (cancelAndDrain clock rounds reason deadline).Post w (CancelDrained c s w) := by
  rw [cancelAndDrain]
  refine (dispatchCancel_post (by rw [hconn]; rfl)).bind ?_ ?_
  swap
  · rintro e w₁ (_ | ⟨_, he, hd⟩)
    exact .disposed e _ he (by simp [Call.cancelling]) hd
  rintro b w₁ (⟨_, hconn₁, hcalls₁, -⟩ | _)
  rw [hconn] at hconn₁
  -- the calls of the request and those of the drain
  have polled : ∀ {waits : List Call}, (∀ call ∈ waits, call.polled = true) →
      ∀ call ∈ waits ++ [.cancelPolled b, .cancelCreate], call.cancelling = true := by
    intro waits h call hcall
    rcases List.mem_append.mp hcall with hcall | hcall
    · have := h call hcall
      cases call <;> simp_all [Call.polled, Call.cancelling]
    · rcases List.mem_pair.mp hcall with rfl | rfl <;> rfl
  have hdrain : (drainUntilIdle clock rounds deadline).Post w₁ fun r w' =>
      (∃ w₂ waits gets completion, r = .ok () ∧ (∀ call ∈ waits, call.cancelling = true) ∧
        w₂.calls = waits ++ w.calls ∧ Drained c s w₂ gets completion w') ∨
      ∃ e waits, r = .error e ∧ (∀ call ∈ waits, call.cancelling = true) ∧
        w'.conn.isSome = true ∧ w'.calls = waits ++ w.calls := by
    rw [drainUntilIdle]
    refine (awaitIdle_post hconn₁ rounds).bind ?_ ?_
    · rintro b w₂ (⟨waits, rest, hpolled, -, -, hconn₂, hcalls₂⟩ | _)
      refine (fetchIdle_post hconn₂ rounds).mono ?_
      rintro r w' ⟨rfl, gets, completion, hd⟩
      have hpolled₂ : ∀ call ∈ Call.isBusy false :: waits, call.polled = true := by
        simpa [Call.polled] using hpolled
      refine .inl ⟨w₂, _, gets, completion, rfl, polled hpolled₂, ?_,
        ⟨hd.calls, hd.fetched, hd.conn, hd.tick, hd.whole, hd.answer⟩⟩
      simp [hcalls₂, hcalls₁]
    · rintro e w₂ (_ | ⟨_, waits, hpolled, hsome, hcalls₂⟩)
      exact .inr ⟨e, _, rfl, polled hpolled, hsome, by simp [hcalls₂, hcalls₁]⟩
  refine hdrain.attempt_bind ?_
  rintro r w₂ (⟨w₃, waits, gets, completion, rfl, hwaits, hbase, hd⟩
    | ⟨e, waits, rfl, hwaits, hsome, hcalls₂⟩)
  · cases b with
    | true => exact .drained waits gets completion hwaits hbase hd nofun
    | false => exact .drained waits gets completion hwaits hbase hd (by rintro e ⟨⟩; rfl)
  · refine (disposeAndFail_post w₂ hsome hcalls₂).mono ?_
    rintro r w' ⟨rfl, hd⟩
    exact .disposed _ waits rfl hwaits hd

end Drain

end PgMcp
