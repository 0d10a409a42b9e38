import Mathlib.Tactic

/-!
# Codes that can be read back

A code writes a value as a text.  It can be read back when a text that starts with the code of a
value starts with the code of no other one, and what follows is the same; here this is asked only
of texts that go on, after the value, with one of the letters that may stand there.  Codes that
can be read back are put together to codes of lists: one after the other up to a closing letter,
or with a separator between them.

## Main definitions

* `Code.Stops` — a text is at its end, or goes on with a letter that may stand there.
* `Code.ReadsAs` — the code of a value is not the start of the code of another one.
* `Code.joined` — codes with a separator between them.

## Main results

* `Code.ReadsAs.of_reader` — what a reader reads back can be read back.
* `Code.ReadsAs.span` — a run of letters that stops at the first other letter.
* `Code.closed_inj`, `Code.joined_inj` — lists up to a closing letter.
-/

namespace Code

variable {α γ : Type} {Q : α → Prop} {stop : γ → Prop} {code : α → List γ}

/-- The text is at its end, or goes on with a letter of `stop`. -/
def Stops (stop : γ → Prop) : List γ → Prop
  | [] => True
  | c :: _ => stop c

theorem Stops.cons {c : γ} (h : stop c) (r : List γ) : Stops stop (c :: r) := h

theorem Stops.mono {stop' : γ → Prop} (h : ∀ c, stop c → stop' c) {r : List γ} (hr : Stops stop r) :
    Stops stop' r := by
  cases r with
  | nil => trivial
  | cons c r => exact h c hr

/-- A text that starts with the code of `a` starts with the code of no other value of `Q`. -/
def ReadsAs (Q : α → Prop) (stop : γ → Prop) (code : α → List γ) (a : α) : Prop :=
  ∀ b r s, Q b → Stops stop r → Stops stop s → code a ++ r = code b ++ s → a = b ∧ r = s

theorem ReadsAs.mono {Q' : α → Prop} {stop' : γ → Prop} {a : α} (h : ReadsAs Q stop code a)
    (hQ : ∀ b, Q' b → Q b) (hstop : ∀ c, stop' c → stop c) : ReadsAs Q' stop' code a := by
  intro b r s hb hr hs heq
  exact h b r s (hQ b hb) (hr.mono hstop) (hs.mono hstop) heq

/-- What a reader takes off the front of every text can be read back. -/
theorem ReadsAs.of_reader {read : List γ → Option (α × List γ)}
    (hread : ∀ b r, Q b → read (code b ++ r) = some (b, r)) {a : α} (ha : Q a) :
    ReadsAs Q stop code a := by
  intro b r s hb _ _ heq
  have hboth := (hread a r ha).symm.trans ((congrArg read heq).trans (hread b s hb))
  rw [Option.some.injEq, Prod.mk.injEq] at hboth
  exact hboth

/-- A run of letters of `p` that goes on with another letter. -/
theorem ReadsAs.span (p : γ → Bool) {text : List γ} (htext : ∀ c ∈ text, p c = true) :
    ReadsAs (fun other : List γ => ∀ c ∈ other, p c = true) (fun c => p c = false) id text := by
  intro other r s hother hr hs heq
  -- both sides are cut at the first letter that is not one of `p`
  have hcut : ∀ {l r : List γ}, (∀ c ∈ l, p c = true) → Stops (fun c => p c = false) r →
      (l ++ r).takeWhile p = l ∧ (l ++ r).dropWhile p = r := by
    intro l r hl hr
    rw [List.takeWhile_append_of_pos hl, List.dropWhile_append_of_pos hl]
    cases r with
    | nil => simp
    | cons c r =>
      have hc : p c = false := hr
      simp [hc]
  obtain ⟨htake, hdrop⟩ := hcut htext hr
  obtain ⟨htake', hdrop'⟩ := hcut hother hs
  have hsame : text ++ r = other ++ s := heq
  rw [hsame] at htake hdrop
  exact ⟨htake.symm.trans htake', hdrop.symm.trans hdrop'⟩

/-! ### Lists up to a closing letter -/

/-- Codes one after the other, up to a letter with which none of them starts. -/
theorem closed_inj {close : γ} (hhead : ∀ b, Q b → ∃ c l, code b = c :: l ∧ c ≠ close) :
    ∀ {as bs : List α} {r s : List γ}, (∀ a ∈ as, ReadsAs Q (fun _ => True) code a) →
      (∀ a ∈ as, Q a) → (∀ b ∈ bs, Q b) →
      as.flatMap code ++ close :: r = bs.flatMap code ++ close :: s → as = bs ∧ r = s := by
  intro as
  induction as with
  | nil =>
    intro bs r s _ _ hbs heq
    cases bs with
    | nil => exact ⟨rfl, (List.cons.inj heq).2⟩
    | cons b bs =>
      -- the other list has not come to its end
      obtain ⟨c, l, hcode, hc⟩ := hhead b (hbs b List.mem_cons_self)
      rw [List.flatMap_cons, hcode] at heq
      exact absurd (List.cons.inj heq).1.symm hc
  | cons a as ih =>
    intro bs r s hreads has hbs heq
    cases bs with
    | nil =>
      obtain ⟨c, l, hcode, hc⟩ := hhead a (has a List.mem_cons_self)
      rw [List.flatMap_cons, hcode] at heq
      exact absurd (List.cons.inj heq).1 hc
    | cons b bs =>
      rw [List.forall_mem_cons] at hreads has hbs
      rw [List.flatMap_cons, List.flatMap_cons, List.append_assoc, List.append_assoc] at heq
      have hstops : ∀ l : List γ, Stops (fun _ => True) l := by
        intro l
        cases l <;> trivial
      obtain ⟨rfl, hrest⟩ := hreads.1 b _ _ hbs.1 (hstops _) (hstops _) heq
      obtain ⟨rfl, hr⟩ := ih hreads.2 has.2 hbs.2 hrest
      exact ⟨rfl, hr⟩

/-! ### Lists with separators -/

/-- Codes with a separator between them. -/
def joined (sep : γ) (code : α → List γ) : List α → List γ
  | [] => []
  | [a] => code a
  | a :: b :: as => code a ++ sep :: joined sep code (b :: as)

theorem joined_cons (sep : γ) (code : α → List γ) (a : α) (as : List α) :
    ∃ rest, joined sep code (a :: as) = code a ++ rest := by
  cases as with
  | nil => exact ⟨[], (List.append_nil _).symm⟩
  | cons b as => exact ⟨sep :: joined sep code (b :: as), rfl⟩

/-- Codes with a separator between them, up to a closing letter. -/
theorem joined_inj {sep close : γ} (hsep : sep ≠ close) (hstop : stop sep) (hclose : stop close)
    (hhead : ∀ b, Q b → ∃ c l, code b = c :: l ∧ c ≠ close) :
    ∀ {as bs : List α} {r s : List γ}, (∀ a ∈ as, ReadsAs Q stop code a) → (∀ a ∈ as, Q a) →
      (∀ b ∈ bs, Q b) → joined sep code as ++ close :: r = joined sep code bs ++ close :: s →
      as = bs ∧ r = s := by
  -- a list that is not empty does not start with the closing letter
  have hopen : ∀ {b : α} {bs : List α} {r s : List γ}, Q b →
      close :: r ≠ joined sep code (b :: bs) ++ close :: s := by
    intro b bs r s hb heq
    obtain ⟨c, l, hcode, hc⟩ := hhead b hb
    obtain ⟨rest, hrest⟩ := joined_cons sep code b bs
    rw [hrest, hcode] at heq
    exact hc (List.cons.inj heq).1.symm
  intro as
  induction as with
  | nil =>
    intro bs r s _ _ hbs heq
    cases bs with
    | nil => exact ⟨rfl, (List.cons.inj heq).2⟩
    | cons b bs => exact absurd heq (hopen (hbs b List.mem_cons_self))
  | cons a as ih =>
    intro bs r s hreads has hbs heq
    cases bs with
    | nil => exact absurd heq.symm (hopen (has a List.mem_cons_self))
    | cons b bs =>
      rw [List.forall_mem_cons] at hreads has hbs
      cases as with
      | nil =>
        cases bs with
        | nil =>
          obtain ⟨rfl, hrest⟩ := hreads.1 b _ _ hbs.1 (.cons hclose r) (.cons hclose s) heq
          exact ⟨rfl, (List.cons.inj hrest).2⟩
        | cons b' bs =>
          rw [joined, joined, List.append_assoc] at heq
          obtain ⟨-, hrest⟩ := hreads.1 b _ _ hbs.1 (.cons hclose r) (.cons hstop _) heq
          exact absurd (List.cons.inj hrest).1.symm hsep
      | cons a' as =>
        cases bs with
        | nil =>
          rw [joined, joined, List.append_assoc] at heq
          obtain ⟨-, hrest⟩ := hreads.1 b _ _ hbs.1 (.cons hstop _) (.cons hclose s) heq
          exact absurd (List.cons.inj hrest).1 hsep
        | cons b' bs =>
          rw [joined, joined, List.append_assoc, List.append_assoc] at heq
          obtain ⟨rfl, hrest⟩ := hreads.1 b _ _ hbs.1 (.cons hstop _) (.cons hstop _) heq
          obtain ⟨hlist, hr⟩ := ih hreads.2 has.2 hbs.2 (List.cons.inj hrest).2
          exact ⟨congrArg (a :: ·) hlist, hr⟩

end Code
