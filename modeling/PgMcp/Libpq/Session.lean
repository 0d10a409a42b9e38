import PgMcp.Libpq.Standing

/-!
# Sequences of statements

A request of a handle runs a sequence of calls of the adapter.  What the sequence
leaves behind is read off the answers of libpq and of the server: the connection is
lost, or a statement is stranded on it, or it is at rest with the transaction status
the server reported last.

## Main definitions

* `Call.loses`, `Call.strands`, `reported` — what an answer says about the connection.
* `Accounts` — the answers account for the standing after.
* `Session` — a sequence of calls.

## Main results

* `Session.accounts` — the answers of a sequence account for the standing after it.
-/

namespace PgMcp

open Program

/-! ### What the answers say -/

/-- An answer after which the connection is bad or disposed. -/
def Call.loses : Call → Bool
  | .refused usable | .failed usable | .getResult _ (.broken usable) => !usable
  | .finish => true
  | _ => false

/-- An answer that leaves the statement in flight on a usable connection. -/
def Call.strands : Call → Bool
  | .interrupted _ | .failed true => true
  | _ => false

/-- The transaction status reported with the final NULL of a completed statement. -/
def Call.reports : Call → Option XactStatus
  | .getResult _ (.null (some done)) => some done.after
  | _ => none

/-- The transaction status the server reported last. -/
def reported (calls : List Call) : Option XactStatus := calls.findSome? Call.reports

theorem reported_append (newer older : List Call) :
    reported (newer ++ older) = (reported newer).or (reported older) := List.findSome?_append

/-- The native form of a reported status. -/
def XactStatus.status : XactStatus → TransactionStatus
  | .idle => .idle
  | .inTransaction => .inTransaction
  | .inError => .inError

@[simp] theorem Xact.next_status (x : Xact) (sql : String) (after : XactStatus) :
    (x.next sql after).status = after.status := by
  cases after <;> rfl

/-- A completed statement leaves the status the server reported. -/
theorem Xact.finish_status (x : Xact) (sql : String) (completion : Option Completion) :
    (x.finish sql completion).status =
      (completion.map (·.after.status)).getD x.status := by
  cases completion with
  | none => rfl
  | some done => exact x.next_status sql done.after

/-- The answers `calls` account for the step from `before` to a standing. -/
def Accounts (before : Standing) (calls : List Call) : Standing → Prop
  | .gone => (before = .gone ∧ calls.any Call.strands = false) ∨ calls.any Call.loses = true
  | .waiting x sql => before ≠ .gone ∧ calls.any Call.loses = false ∧
      (before = .waiting x sql ∧ reported calls = none ∨ calls.any Call.strands = true)
  | .resting y => calls.any Call.loses = false ∧ calls.any Call.strands = false ∧
      ∃ x, before = .resting x ∧
        y.status = ((reported calls).map XactStatus.status).getD x.status

namespace Accounts

variable {st st₁ st₂ : Standing} {old new : List Call}

/-- Answers that say nothing about the connection. -/
theorem quiet (h : ∀ call ∈ new, call.loses = false ∧ call.strands = false ∧ call.reports = none) :
    Accounts st new st := by
  have hloses : new.any Call.loses = false := by
    rw [List.any_eq_false]
    intro call hcall
    simp [(h call hcall).1]
  have hstrands : new.any Call.strands = false := by
    rw [List.any_eq_false]
    intro call hcall
    simp [(h call hcall).2.1]
  have hreported : reported new = none := by
    rw [reported, List.findSome?_eq_none_iff]
    exact fun call hcall => (h call hcall).2.2
  cases st with
  | gone => exact .inl ⟨rfl, hstrands⟩
  | waiting x sql => exact ⟨nofun, hloses, .inl ⟨rfl, hreported⟩⟩
  | resting x => exact ⟨hloses, hstrands, x, rfl, by rw [hreported]; rfl⟩

theorem nil : Accounts st [] st := quiet (by simp)

theorem append (h : Accounts st old st₁) (h' : Accounts st₁ new st₂) :
    Accounts st (new ++ old) st₂ := by
  cases st₂ with
  | gone =>
    rcases h' with ⟨rfl, hstrands⟩ | h'
    · rcases h with ⟨h, hstrands₀⟩ | h
      · exact .inl ⟨h, by rw [List.any_append, hstrands, hstrands₀]; rfl⟩
      · exact .inr (by rw [List.any_append, h, Bool.or_true])
    · exact .inr (by rw [List.any_append, h', Bool.true_or])
  | waiting x sql =>
    obtain ⟨hgone, hloses, hwaiting⟩ := h'
    cases st₁ with
    | gone => exact absurd rfl hgone
    | waiting x₁ sql₁ =>
      obtain ⟨hgone₀, hloses₀, hwaiting₀⟩ := h
      refine ⟨hgone₀, by rw [List.any_append, hloses, hloses₀]; rfl, ?_⟩
      rw [List.any_append]
      rcases hwaiting with ⟨hwaiting, hnew⟩ | hwaiting
      · cases hwaiting
        rcases hwaiting₀ with ⟨hwaiting₀, hold⟩ | hwaiting₀
        · exact .inl ⟨hwaiting₀, by rw [reported_append, hnew, hold]; rfl⟩
        · exact .inr (by rw [hwaiting₀, Bool.or_true])
      · exact .inr (by rw [hwaiting, Bool.true_or])
    | resting x₁ =>
      obtain ⟨hloses₀, -, x₀, rfl, -⟩ := h
      refine ⟨nofun, by rw [List.any_append, hloses, hloses₀]; rfl, .inr ?_⟩
      rcases hwaiting with ⟨hwaiting, -⟩ | hwaiting
      · cases hwaiting
      · rw [List.any_append, hwaiting, Bool.true_or]
  | resting y =>
    obtain ⟨hloses, hstrands, x₁, rfl, hy⟩ := h'
    obtain ⟨hloses₀, hstrands₀, x₀, rfl, hx₁⟩ := h
    refine ⟨by rw [List.any_append, hloses, hloses₀]; rfl,
      by rw [List.any_append, hstrands, hstrands₀]; rfl, x₀, rfl, ?_⟩
    rw [hy, hx₁, reported_append]
    cases reported new <;> rfl

end Accounts

/-! ### One call -/

/-- Between the send and the end of a statement only a read that breaks the connection
says anything. -/
theorem Call.inner_loses {call : Call} (h : call.inner = true) : call.loses = call.breaks := by
  cases call with
  | getResult blocked fetched => cases fetched <;> rfl
  | _ => first | rfl | cases h

theorem Call.inner_strands {call : Call} (h : call.inner = true) : call.strands = false := by
  cases call with
  | interrupted | failed => cases h
  | _ => rfl

theorem Call.inner_reports {call : Call} (h : call.inner = true) : call.reports = none := by
  cases call with
  | getResult blocked fetched => cases fetched <;> first | rfl | cases h
  | _ => rfl

theorem any_loses_of_inner {calls : List Call} (h : ∀ call ∈ calls, call.inner = true) :
    calls.any Call.loses = calls.any Call.breaks := by
  induction calls with
  | nil => rfl
  | cons call calls ih =>
    rw [List.any_cons, List.any_cons, Call.inner_loses (h call (List.mem_cons_self ..)),
      ih fun c hc => h c (List.mem_cons_of_mem _ hc)]

theorem any_strands_of_inner {calls : List Call} (h : ∀ call ∈ calls, call.inner = true) :
    calls.any Call.strands = false := by
  rw [List.any_eq_false]
  intro call hcall
  simp [Call.inner_strands (h call hcall)]

theorem reported_of_inner {calls : List Call} (h : ∀ call ∈ calls, call.inner = true) :
    reported calls = none := by
  rw [reported, List.findSome?_eq_none_iff]
  exact fun call hcall => Call.inner_reports (h call hcall)

/-- The answers of a call account for the standing after it. -/
theorem Exchange.accounts {ctl : PollControl} {deadline : ℕ} {sql : String} {w w' : Wire}
    {r : Except AdapterError ResultSet} (h : Exchange ctl deadline sql w r w') :
    ∃ new, w'.calls = new ++ w.calls ∧ Accounts w.standing new w'.standing := by
  cases h with
  | unsent e pre known refused conn calls =>
    refine ⟨.leave :: pre, calls, ?_⟩
    rcases conn with ⟨conn, hpre⟩ | ⟨c, hc, rfl, conn⟩
    · rw [Wire.standing_congr conn]
      cases hany : w.conn.any (·.ok) with
      | false =>
        have hgone : w.standing = .gone := by
          cases hc : w.conn with
          | none => exact Wire.standing_none hc
          | some c => exact Wire.standing_bad hc (by rw [hc] at hany; exact hany)
        rw [hgone]
        refine .inl ⟨rfl, ?_⟩
        rw [List.any_eq_false]
        intro call hcall
        rcases List.mem_cons.mp hcall with rfl | hcall
        · exact Bool.false_ne_true
        · rw [List.mem_singleton.mp (hpre hcall)]
          exact Bool.false_ne_true
      | true =>
        refine Accounts.quiet fun call hcall => ?_
        rcases List.mem_cons.mp hcall with rfl | hcall
        · exact ⟨rfl, rfl, rfl⟩
        · rw [List.mem_singleton.mp (hpre hcall), hany]
          exact ⟨rfl, rfl, rfl⟩
    · rw [Wire.standing_bad conn rfl]
      exact .inr rfl
  | sent c answer last mid conn usable free next quiet inner calls ending =>
    refine ⟨.leave :: last :: mid ++ [.send sql c.xact], by simp [calls], ?_⟩
    -- the send itself loses nothing; only a read that fails does
    have hloses : (mid ++ [Call.send sql c.xact]).any Call.loses = mid.any Call.breaks := by
      rw [List.any_append, any_loses_of_inner inner]
      exact Bool.or_false _
    have hstrands : (mid ++ [Call.send sql c.xact]).any Call.strands = false := by
      rw [List.any_append, any_strands_of_inner inner]
      rfl
    rw [Wire.standing_free conn usable free, List.cons_append, List.cons_append]
    cases ending with
    | interrupted reason flush conn' raised =>
      rw [Wire.standing_carrying conn' usable]
      exact ⟨nofun, hloses, .inr rfl⟩
    | failed e usable' flush events mid unknown whole conn' =>
      cases usable' with
      | true =>
        have hst : w'.standing = .waiting c.xact sql := by
          simp [Wire.standing, conn', Answer.statement]
        rw [hst]
        exact ⟨nofun, hloses.trans whole, .inr rfl⟩
      | false =>
        have hst : w'.standing = .gone := by simp [Wire.standing, conn']
        rw [hst]
        exact .inr rfl
    | disposed e mid unknown conn' =>
      rw [Wire.standing_none conn']
      exact .inr rfl
    | drained blocked completion mid conn' whole answer' ok known unknown =>
      rw [standing_drained usable conn' whole]
      cases hbreaks : mid.any Call.breaks with
      | true => exact .inr (hloses.trans hbreaks)
      | false =>
        refine ⟨hloses.trans hbreaks, hstrands, c.xact, rfl, ?_⟩
        -- nothing is reported before the final NULL
        have hmid : reported (mid ++ [Call.send sql c.xact]) = none := by
          rw [reported_append, reported_of_inner inner]
          rfl
        rw [Xact.finish_status]
        cases completion with
        | none =>
          have hnew : reported (.leave :: .getResult blocked (.null none) ::
              (mid ++ [Call.send sql c.xact])) = none := hmid
          rw [hnew]
          rfl
        | some done => rfl

/-! ### A sequence of calls -/

/-- A sequence of calls of the adapter. -/
inductive Session (ctl : PollControl) (deadline : ℕ) : Wire → Wire → Prop
  | nil (w : Wire) : Session ctl deadline w w
  | snoc {w w₁ w₂ : Wire} {sql : String} {r : Except AdapterError ResultSet}
      (earlier : Session ctl deadline w w₁) (call : Exchange ctl deadline sql w₁ r w₂) :
      Session ctl deadline w w₂

namespace Session

variable {ctl : PollControl} {deadline : ℕ} {w w₁ w₂ : Wire}

theorem of_exchange {sql : String} {r : Except AdapterError ResultSet}
    (h : Exchange ctl deadline sql w r w₁) : Session ctl deadline w w₁ := .snoc (.nil w) h

theorem trans (h : Session ctl deadline w w₁) (h' : Session ctl deadline w₁ w₂) :
    Session ctl deadline w w₂ := by
  induction h' with
  | nil => exact h
  | snoc _ call ih => exact .snoc ih call

instance : IsTrans Wire (Session ctl deadline) := ⟨fun _ _ _ => trans⟩

instance : Std.Refl (Session ctl deadline) := ⟨nil⟩

/-- The answers of a sequence account for the standing after it. -/
theorem accounts (h : Session ctl deadline w w₁) :
    ∃ new, w₁.calls = new ++ w.calls ∧ Accounts w.standing new w₁.standing := by
  induction h with
  | nil => exact ⟨[], rfl, .nil⟩
  | snoc _ call ih =>
    obtain ⟨old, hold, h⟩ := ih
    obtain ⟨new, hnew, h'⟩ := call.accounts
    exact ⟨new ++ old, by rw [hnew, hold, List.append_assoc], h.append h'⟩

end Session

theorem execute_session (ctl : PollControl) (deadline rounds : ℕ) (sql : String) :
    (Connection.execute rounds sql deadline ctl).Within (Session ctl deadline) := fun _ =>
  (execute_post rounds).mono fun _ _ h => .of_exchange h

theorem query_session (ctl : PollControl) (deadline rounds : ℕ) (sql : String)
    (parameters : List Parameter) (limits : QueryLimits) :
    (Connection.query rounds sql parameters limits deadline ctl).Within (Session ctl deadline) :=
  fun _ => (query_post rounds parameters limits).mono fun _ _ h => .of_exchange h

end PgMcp
