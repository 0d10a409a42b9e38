import PgMcp.Libpq.Standing

/-!
# Where the open transaction comes from

A call moves the standing of its connection in few ways: the connection is lost, nothing
changes, or the statement of the call is left in flight or completed.  So the statement
that began the open transaction is one that was sent on a connection at rest outside of a
transaction, and stays the same until the transaction ends.

## Main definitions

* `Standing.BegunBy` — the open transaction was begun by one of the given statements.

## Main results

* `Exchange.begunBy` — a call keeps it.
* `Exchange.sends` — what it sends.
-/

namespace PgMcp

open Program

/-- The open transaction was begun by a statement in `starts`. -/
def Xact.BegunBy (starts : List String) (x : Xact) : Prop :=
  ∀ sql ∈ x.begunBy, sql ∈ starts

/-- The open transaction, and the one that may become open, were begun by a statement in
`starts`. -/
def Standing.BegunBy (starts : List String) : Standing → Prop
  | .gone => True
  | .resting x => x.BegunBy starts
  | .waiting x sql => x.BegunBy starts ∧ (x = .idle → sql ∈ starts)

theorem Xact.BegunBy.next {starts : List String} {x : Xact} {sql : String} (h : x.BegunBy starts)
    (hsql : x = .idle → sql ∈ starts) (after : XactStatus) : (x.next sql after).BegunBy starts := by
  cases after with
  | idle => exact nofun
  | inTransaction | inError =>
    cases x with
    | idle =>
      rintro _ ⟨⟩
      exact hsql rfl
    | opened sql₀ failed =>
      rintro _ ⟨⟩
      exact h _ rfl

theorem Xact.BegunBy.finish {starts : List String} {x : Xact} {sql : String} (h : x.BegunBy starts)
    (hsql : x = .idle → sql ∈ starts) (completion : Option Completion) :
    (x.finish sql completion).BegunBy starts := by
  cases completion with
  | none => exact h
  | some done => exact h.next hsql done.after

/-! ### One call -/

section Exchange

variable {ctl : PollControl} {deadline : ℕ} {sql : String} {w w' : Wire}
  {r : Except AdapterError ResultSet}

/-- How a call moves the standing of its connection. -/
theorem Exchange.standing_cases (h : Exchange ctl deadline sql w r w') :
    w'.standing = .gone ∨ w'.standing = w.standing ∨
      ∃ x, w.standing = .resting x ∧
        (w'.standing = .waiting x sql ∨ ∃ completion, w'.standing = .resting (x.finish sql completion)) := by
  cases h with
  | unsent e pre known refused conn calls =>
    rcases conn with ⟨conn, -⟩ | ⟨c, -, -, conn⟩
    · exact .inr (.inl (Wire.standing_congr conn))
    · exact .inl (Wire.standing_bad conn rfl)
  | sent c answer last mid conn usable free next quiet inner calls ending =>
    have hresting := Wire.standing_free conn usable free
    cases ending with
    | interrupted reason flush conn' raised =>
      exact .inr (.inr ⟨_, hresting, .inl (Wire.standing_carrying conn' usable)⟩)
    | failed e usable' flush events mid unknown whole conn' =>
      cases usable' with
      | true => exact .inr (.inr ⟨_, hresting, .inl (by simp [Wire.standing, conn', Answer.statement])⟩)
      | false => exact .inl (by simp [Wire.standing, conn'])
    | disposed e mid unknown conn' => exact .inl (Wire.standing_none conn')
    | drained blocked completion mid conn' whole answer' ok known unknown =>
      have hst := standing_drained usable conn' whole
      cases hbreaks : mid.any Call.breaks with
      | true =>
        rw [hbreaks, if_pos rfl] at hst
        exact .inl hst
      | false =>
        rw [hbreaks, if_neg (by decide)] at hst
        exact .inr (.inr ⟨_, hresting, .inr ⟨completion, hst⟩⟩)

/-- A call keeps the open transaction begun by one of the statements, when its own statement
is one of them or does not begin a transaction. -/
theorem Exchange.begunBy {starts : List String} (h : Exchange ctl deadline sql w r w')
    (hw : w.standing.BegunBy starts) (hsql : w.standing = .resting .idle → sql ∈ starts) :
    w'.standing.BegunBy starts := by
  rcases h.standing_cases with hgone | hsame | ⟨x, hx, hwaiting | ⟨completion, hrest⟩⟩
  · rw [hgone]
    trivial
  · rw [hsame]
    exact hw
  · rw [hx] at hw hsql
    rw [hwaiting]
    exact ⟨hw, fun hidle => hsql (by rw [hidle])⟩
  · rw [hx] at hw hsql
    rw [hrest]
    exact Xact.BegunBy.finish hw (fun hidle => hsql (by rw [hidle])) completion

/-- A call sends its own statement only, on a connection at rest. -/
theorem Exchange.sends (h : Exchange ctl deadline sql w r w') : ∃ new,
    w'.calls = new ++ w.calls ∧
      ∀ sql' x, Call.send sql' x ∈ new → sql' = sql ∧ w.standing = .resting x := by
  cases h with
  | unsent e pre known refused conn calls =>
    refine ⟨.leave :: pre, calls, fun sql' x hmem => ?_⟩
    rcases List.mem_cons.mp hmem with h | hmem
    · cases h
    · obtain ⟨usable, h⟩ := refused _ hmem
      cases h
  | sent c answer last mid conn usable free next quiet inner calls ending =>
    refine ⟨.leave :: last :: mid ++ [.send sql c.xact], by simp [calls], fun sql' x hmem => ?_⟩
    have hlast : last ≠ .send sql' x := by
      cases ending <;> exact nofun
    simp only [List.cons_append, List.mem_cons, List.mem_append, List.not_mem_nil, or_false,
      reduceCtorEq, false_or] at hmem
    rcases hmem with hmem | hmem | hmem
    · exact absurd hmem.symm hlast
    · exact absurd (inner _ hmem) Bool.false_ne_true
    · cases hmem
      exact ⟨rfl, Wire.standing_free conn usable free⟩

end Exchange

/-! ### A drain -/

section Drain

variable {clock : Clock} {reason : CancelReason} {deadline : ℕ} {w : Wire}

/-- Without a send the automaton keeps the open transaction begun by one of the statements. -/
theorem Standing.BegunBy.after {starts : List String} {st : Standing} (h : st.BegunBy starts)
    {calls : List Call} (hsends : ∀ sql x, Call.send sql x ∉ calls) :
    (st.after calls).BegunBy starts := by
  induction calls with
  | nil => exact h
  | cons call calls ih =>
    have ih := ih fun sql x hmem => hsends sql x (List.mem_cons_of_mem _ hmem)
    rw [Standing.after_cons]
    generalize st.after calls = st' at ih
    cases call with
    | send sql x => exact absurd (List.mem_cons_self ..) (hsends sql x)
    | getResult blocked fetched =>
      rcases fetched with status | usable | completion
      · exact ih
      · cases usable
        · trivial
        · exact ih
      · cases st' with
        | waiting x sql => exact Xact.BegunBy.finish ih.1 ih.2 completion
        | gone | resting => exact ih
    | refused usable | failed usable =>
      cases usable
      · trivial
      · exact ih
    | finish => trivial
    | singleRowRefused | interrupted | observed | isBusy | cancelCreate | cancelPolled | leave =>
      exact ih

end Drain

end PgMcp
