import PgMcp.Protocol.Codec

/-!
# Accepted documents and written ones

The readers accept more than what is written: the key of an outcome that is absent, with `null`;
a snapshot without the key of its transaction; an array in the place of an object; and a choice
as an object.  A document that is accepted is what its envelope is written as, up to the order of
keys, exactly when it has none of these.

## Main definitions

* `Plain` — a document in the shape in which envelopes are written.

## Main results

* `Envelope.reordered_toJson_iff` — what is accepted is what is written exactly for plain documents.
-/

namespace PgMcp

open Json (Reordered)

/-! ### Plain documents -/

/-- The value is a string. -/
def IsStr (v : Json) : Prop := ∃ s, v = .str s

/-- A snapshot is `null`, or an object with a key for its transaction that has the statuses by
their names. -/
def PlainState : Json → Prop
  | .null => True
  | .obj members => Has members "transaction_open" (fun _ => True) ∧
      Has members "connection_status" IsStr ∧ Has members "transaction_status" IsStr
  | _ => False

/-- A move is an object. -/
def PlainMove (v : Json) : Prop := ∃ members, v = .obj members

/-- An error has its code and its outcome by their names. -/
def PlainError : Json → Prop
  | .obj members => Has members "code" IsStr ∧
      Has members "transaction_outcome" fun v => v = .null ∨ IsStr v
  | _ => False

/-- A document has not the keys of both outcomes, and its parts are plain. -/
def Plain : Json → Prop
  | .obj members =>
    ¬ (Has members "result" (fun _ => True) ∧ Has members "error" fun _ => True) ∧
      (∀ v, members.lookup "handle_state" = some v → PlainState v) ∧
      (∀ items, members.lookup "next_moves" = some (.arr items) → ∀ v ∈ items, PlainMove v) ∧
      ∀ v, members.lookup "error" = some v → PlainError v
  | _ => False

/-! ### What is accepted against what is written -/

theorem asString_eq_some_iff {v : Json} {s : String} : asString v = some s ↔ v = .str s := by
  cases v <;> simp [asString]

theorem asBool_eq_some_iff {v : Json} {b : Bool} : asBool v = some b ↔ v = .bool b := by
  cases v <;> simp [asBool]

theorem eq_of_asU8 {v : Json} {n : ℕ} (h : asU8 v = some n) : v = .nat n := by
  cases v with
  | num text =>
    have htext := List.find?_some h
    rw [beq_iff_eq] at htext
    rw [Json.nat, htext]
  | _ => cases h

theorem eq_of_asOption_bool {v : Json} {b : Option Bool} (h : asOption asBool v = some b) :
    v = (b.map Json.bool).getD .null := by
  cases v <;> simp [asOption, asBool] at h <;> rw [← h] <;> rfl

theorem eq_of_asOption_string {v : Json} {s : Option String} (h : asOption asString v = some s) :
    v = .optStr s := by
  cases v <;> simp [asOption, asString] at h <;> rw [← h] <;> rfl

theorem reordered_str_iff {v : Json} {s : String} : Reordered v (.str s) ↔ v = .str s := by
  constructor
  · intro h
    cases h
    rfl
  · intro h
    rw [h]
    exact .str s

/-- A choice that is read from a string is read from its name. -/
theorem eq_of_decodeEnum {α : Type} {all : List α} {name : α → String} {s : String} {a : α}
    (h : decodeEnum all name (.str s) = some a) : s = name a := by
  have hname := List.find?_some h
  exact (beq_iff_eq.mp hname).symm

section Keys

variable {members : List (String × Json)} {key : String}

theorem Has.of_lookup {P : Json → Prop} {v : Json} (h : Has members key P)
    (hv : members.lookup key = some v) :
    P v := by
  obtain ⟨w, hw, hP⟩ := h
  rw [hv] at hw
  cases hw
  exact hP

/-- A value that determines what is read is what is written. -/
theorem Has.reordered {w : Json} {P : Json → Prop} (h : Has members key P) (heq : ∀ v, P v → v = w) :
    Has members key fun v => Reordered v w :=
  h.mono fun v hv => heq v hv ▸ .refl v

theorem Has.reordered_name_iff {α : Type} {all : List α} {name : α → String} {a : α}
    (h : Has members key fun v => decodeEnum all name v = some a) :
    (Has members key fun v => Reordered v (.str (name a))) ↔ Has members key IsStr := by
  obtain ⟨v, hv, hread⟩ := h
  constructor
  · intro hreordered
    exact hreordered.mono fun v hv => ⟨_, reordered_str_iff.mp hv⟩
  · intro hstr
    obtain ⟨s, rfl⟩ := hstr.of_lookup hv
    exact ⟨_, hv, by rw [eq_of_decodeEnum hread]; exact .str _⟩

end Keys

/-- A snapshot is what is written, up to the order of keys, when it is plain. -/
theorem HandleState.reordered_iff_plain {members : List (String × Json)} {state : HandleState}
    (hnodup : (members.map Prod.fst).Nodup) (h : Reads members state) :
    Reordered (.obj members) state.toJson ↔ PlainState (.obj members) := by
  have hopen : (Has members "transaction_open" fun v =>
      Reordered v ((state.transactionOpen.map Json.bool).getD .null)) ↔
        Has members "transaction_open" fun _ => True := by
    constructor
    · intro hreordered
      exact hreordered.mono fun _ _ => trivial
    · intro hthere
      obtain ⟨v, hv, -⟩ := hthere
      have hread := h.transactionOpen
      rw [hv, Option.getD_some] at hread
      exact ⟨v, hv, eq_of_asOption_bool hread ▸ .refl v⟩
  have hhandle := h.handle.reordered fun v hv => asString_eq_some_iff.mp hv
  have hdatabase := h.database.reordered fun v hv => asString_eq_some_iff.mp hv
  have hbusy := h.busy.reordered fun v hv => asBool_eq_some_iff.mp hv
  have hobserved := h.schemaObserved.reordered fun v hv => asBool_eq_some_iff.mp hv
  refine (Json.reordered_obj_iff hnodup ?_ ?_).trans ?_
  · simp
  · exact h.keys
  simp only [List.forall_mem_cons, List.not_mem_nil, false_imp_iff, implies_true, and_true]
  change Has _ _ _ ∧ Has _ _ _ ∧ Has _ _ _ ∧ Has _ _ _ ∧ Has _ _ _ ∧ Has _ _ _ ∧ Has _ _ _ ↔ _
  rw [h.connectionStatus.reordered_name_iff, h.transactionStatus.reordered_name_iff, hopen, PlainState]
  constructor
  · intro hall
    exact ⟨hall.2.2.2.2.1, hall.2.2.1, hall.2.2.2.1⟩
  · intro hplain
    exact ⟨hhandle, hdatabase, hplain.2.1, hplain.2.2, hplain.1, hbusy, hobserved⟩

/-- A move that is an object is what is written. -/
theorem Move.reordered_toJson {members : List (String × Json)} {move : Move}
    (hnodup : (members.map Prod.fst).Nodup) (h : Reads members move) :
    Reordered (.obj members) move.toJson := by
  refine (Json.reordered_obj_iff hnodup ?_ ?_).mpr ?_
  · simp
  · exact h.keys
  simp only [List.forall_mem_cons, List.not_mem_nil, false_imp_iff, implies_true, and_true]
  exact ⟨h.tool.reordered fun v hv => asString_eq_some_iff.mp hv,
    h.arguments.reordered fun v hv => hv, h.guidance.reordered fun v hv => asString_eq_some_iff.mp hv⟩

/-- An error is what is written when it is plain. -/
theorem ErrorPayload.reordered_iff_plain {members : List (String × Json)} {error : ErrorPayload}
    (hnodup : (members.map Prod.fst).Nodup) (h : Reads members error) :
    Reordered (.obj members) error.toJson ↔ PlainError (.obj members) := by
  have hmessage : error.message = error.code.message := by
    have hvalid := h.valid
    rw [ErrorPayload.validate, Bool.and_eq_true, beq_iff_eq] at hvalid
    exact hvalid.1
  have houtcome : (Has members "transaction_outcome" fun v =>
      Reordered v (.optStr (error.transactionOutcome.map TransactionOutcome.name))) ↔
        Has members "transaction_outcome" fun v => v = .null ∨ IsStr v := by
    obtain ⟨v, hv, hread⟩ := h.transactionOutcome
    constructor
    · intro hreordered
      refine ⟨v, hv, ?_⟩
      have hv := hreordered.of_lookup hv
      cases houtcome : error.transactionOutcome with
      | none =>
        rw [houtcome] at hv
        cases hv
        exact .inl rfl
      | some outcome =>
        rw [houtcome] at hv
        exact .inr ⟨_, reordered_str_iff.mp hv⟩
    · intro hplain
      refine ⟨v, hv, ?_⟩
      rcases hplain.of_lookup hv with rfl | ⟨s, rfl⟩
      · rw [← Option.some.inj hread]
        exact .null
      · rw [asOption, Option.map_eq_some_iff] at hread
        · obtain ⟨outcome, hname, houtcome⟩ := hread
          rw [← houtcome, eq_of_decodeEnum hname]
          exact .str _
        · intro hnull
          cases hnull
  have hmessageRead := h.message.reordered fun v hv => asString_eq_some_iff.mp hv
  have hsqlstate := h.sqlstate.reordered fun v hv => eq_of_asOption_string hv
  rw [hmessage] at hmessageRead
  refine (Json.reordered_obj_iff hnodup ?_ ?_).trans ?_
  · simp
  · exact h.keys
  simp only [List.forall_mem_cons, List.not_mem_nil, false_imp_iff, implies_true, and_true]
  change Has _ _ _ ∧ Has _ _ _ ∧ Has _ _ _ ∧ Has _ _ _ ↔ _
  rw [h.code.reordered_name_iff, houtcome, PlainError]
  constructor
  · intro hall
    exact ⟨hall.1, hall.2.2.2⟩
  · intro hplain
    exact ⟨hplain.1, hmessageRead, hsqlstate, hplain.2⟩

/-- A snapshot or none is what is written when it is plain. -/
theorem HandleState.reordered_option_iff {v : Json} {state : Option HandleState} (hdistinct : v.DistinctKeys)
    (h : asOption fromValue v = some state) :
    Reordered v ((state.map HandleState.toJson).getD .null) ↔ PlainState v := by
  cases v with
  | null =>
    cases h
    exact iff_of_true .null trivial
  | obj members =>
    obtain ⟨read, hread, rfl⟩ := Option.map_eq_some_iff.mp h
    cases hdistinct with
    | obj here _ => exact reordered_iff_plain here (fromValue_obj.mp hread)
  | arr items =>
    -- an array is read, but never written
    obtain ⟨read, -, rfl⟩ := Option.map_eq_some_iff.mp h
    refine iff_of_false (fun hreordered => ?_) id
    cases hreordered
  | bool b | num text | str s => cases h

theorem Move.reordered_iff_plain {v : Json} {move : Move} (hdistinct : v.DistinctKeys)
    (h : fromValue v = some move) : Reordered v move.toJson ↔ PlainMove v := by
  constructor
  · intro hreordered
    cases hreordered
    exact ⟨_, rfl⟩
  · intro hplain
    obtain ⟨members, rfl⟩ := hplain
    cases hdistinct with
    | obj here _ => exact reordered_toJson here (fromValue_obj h)

/-- The moves are what is written when each is an object. -/
theorem reordered_moves_iff {items : List Json} {moves : List Move} (hdistinct : ∀ v ∈ items, v.DistinctKeys)
    (h : items.mapM Move.fromValue = some moves) :
    List.Forall₂ Reordered items (moves.map Move.toJson) ↔ ∀ v ∈ items, PlainMove v := by
  induction items generalizing moves with
  | nil =>
    cases h
    simp
  | cons v items ih =>
    rw [List.mapM_cons] at h
    obtain ⟨move, hmove, hrest⟩ := Option.bind_eq_some_iff.mp h
    obtain ⟨others, hothers, hpure⟩ := Option.bind_eq_some_iff.mp hrest
    cases hpure
    rw [List.forall_mem_cons] at hdistinct
    rw [List.map_cons, List.forall₂_cons, List.forall_mem_cons, ih hdistinct.2 hothers,
      Move.reordered_iff_plain hdistinct.1 hmove]

theorem asVec_eq_some_iff {α : Type} {read : Json → Option α} {v : Json} {l : List α} :
    asVec read v = some l ↔ ∃ items, v = .arr items ∧ items.mapM read = some l := by
  cases v <;> simp [asVec]

/-- The value of a key that is not `null`. -/
theorem lookup_of_filter_eq_some {members : List (String × Json)} {key : String} {v : Json}
    (h : (members.lookup key).filter (fun v => !v.isNull) = some v) : members.lookup key = some v :=
  (Option.filter_eq_some_iff.mp h).1

section Outcomes

variable {members : List (String × Json)} {envelope : Envelope}

/-- The parts that are always there are what is written when they are plain. -/
theorem Envelope.Reads.reordered_parts_iff (hdistinct : Json.DistinctKeys (.obj members))
    (h : Envelope.Reads members envelope) :
    (Has members "envelope_version" (fun v => Reordered v (.nat envelope.envelopeVersion)) ∧
        Has members "handle_state"
          (fun v => Reordered v ((envelope.handleState.map HandleState.toJson).getD .null)) ∧
        Has members "next_moves" fun v => Reordered v (.arr (envelope.nextMoves.map Move.toJson))) ↔
      (∀ v, members.lookup "handle_state" = some v → PlainState v) ∧
        ∀ items, members.lookup "next_moves" = some (.arr items) → ∀ v ∈ items, PlainMove v := by
  cases hdistinct with
  | obj here each =>
    have hmem : ∀ {key v}, members.lookup key = some v → v.DistinctKeys := fun {key v} hv =>
      each (key, v) ((Json.lookup_eq_some_iff_mem here).mp hv)
    have hversion := h.version.reordered fun v hv => eq_of_asU8 hv
    obtain ⟨state, hstate, hread⟩ := h.handleState
    obtain ⟨moves, hmoves, hitems⟩ := h.nextMoves
    obtain ⟨items, rfl, hitems⟩ := asVec_eq_some_iff.mp hitems
    have hstateIff := HandleState.reordered_option_iff (hmem hstate) hread
    have hitemsDistinct : ∀ v ∈ items, v.DistinctKeys := by
      cases hmem hmoves with
      | arr each => exact each
    have hmovesIff := reordered_moves_iff hitemsDistinct hitems
    constructor
    · intro hparts
      obtain ⟨-, hstatePart, hmovesPart⟩ := hparts
      refine ⟨fun v hv => ?_, fun items' hitems' => ?_⟩
      · rw [hstate] at hv
        cases hv
        exact hstateIff.mp (hstatePart.of_lookup hstate)
      · rw [hmoves] at hitems'
        cases hitems'
        cases hmovesPart.of_lookup hmoves with
        | arr each => exact hmovesIff.mp each
    · intro hplain
      exact ⟨hversion, ⟨state, hstate, hstateIff.mpr (hplain.1 state hstate)⟩,
        ⟨_, hmoves, .arr (hmovesIff.mpr (hplain.2 items hmoves))⟩⟩

/-- A key is there when it is the key of a member. -/
theorem has_iff_mem_keys (hnodup : (members.map Prod.fst).Nodup) {key : String} :
    (Has members key fun _ => True) ↔ key ∈ members.map Prod.fst := by
  simp [Has, Json.lookup_eq_some_iff_mem hnodup]

/-- A document with an outcome is written with it when it has not the key of the other one. -/
theorem Envelope.Reads.reordered_outcome_iff (hdistinct : Json.DistinctKeys (.obj members))
    (h : Envelope.Reads members envelope) {outcome other : String} (w : Json)
    (hsides : (outcome = "result" ∧ other = "error") ∨ (outcome = "error" ∧ other = "result")) :
    Reordered (.obj members) (.obj ([("envelope_version", .nat envelope.envelopeVersion),
        ("handle_state", (envelope.handleState.map HandleState.toJson).getD .null),
        ("next_moves", .arr (envelope.nextMoves.map Move.toJson))] ++ [(outcome, w)])) ↔
      ¬ (Has members other fun _ => True) ∧
        ((∀ v, members.lookup "handle_state" = some v → PlainState v) ∧
          ∀ items, members.lookup "next_moves" = some (.arr items) → ∀ v ∈ items, PlainMove v) ∧
        Has members outcome fun v => Reordered v w := by
  rw [← h.reordered_parts_iff hdistinct]
  cases hdistinct with
  | obj here _ =>
    by_cases hother : Has members other fun _ => True
    · refine iff_of_false (fun hreordered => ?_) fun hall => hall.1 hother
      -- the key of the other outcome is not written
      obtain ⟨m, hm, hkey⟩ := List.mem_map.mp ((has_iff_mem_keys here).mp hother)
      have hwritten := hreordered.keys m hm
      rw [hkey] at hwritten
      rcases hsides with ⟨rfl, rfl⟩ | ⟨rfl, rfl⟩ <;> simp at hwritten
    · have hkeys : ∀ m ∈ members, m.1 ∈ Envelope.required ++ [outcome] := by
        intro m hm
        rcases List.mem_append.mp (h.keys m hm) with hkey | hkey
        · exact List.mem_append_left _ hkey
        · have hnot : m.1 ≠ other := by
            intro heq
            exact hother ((has_iff_mem_keys here).mpr (heq ▸ List.mem_map_of_mem hm))
          rcases hsides with ⟨rfl, rfl⟩ | ⟨rfl, rfl⟩
          · simp_all
          · simp_all
      refine (Json.reordered_obj_iff here ?_ ?_).trans ?_
      · rcases hsides with ⟨rfl, rfl⟩ | ⟨rfl, rfl⟩ <;> simp
      · exact hkeys
      · simp only [List.cons_append, List.nil_append, List.forall_mem_cons, List.not_mem_nil,
          false_imp_iff, implies_true, and_true]
        change Has _ _ _ ∧ Has _ _ _ ∧ Has _ _ _ ∧ Has _ _ _ ↔ _
        constructor
        · intro hall
          exact ⟨hother, ⟨hall.1, hall.2.1, hall.2.2.1⟩, hall.2.2.2⟩
        · intro hall
          obtain ⟨-, ⟨hversion, hstate, hmoves⟩, houtcome⟩ := hall
          exact ⟨hversion, hstate, hmoves, houtcome⟩

end Outcomes

/-- A document that is accepted is what the envelope is written as, up to the order of keys,
exactly when it is plain. -/
theorem Envelope.reordered_toJson_iff {doc : Json} {envelope : Envelope} (hdoc : doc.DistinctKeys)
    (h : Envelope.decode doc = .ok envelope) :
    (∃ w, envelope.toJson = some w ∧ Reordered doc w) ↔ Plain doc := by
  obtain ⟨members, rfl, hreads⟩ := Envelope.decode_eq_ok_iff.mp h
  have hvalid := hreads.valid
  rcases hreads.outcome with ⟨result, hresult, herror, hlookup, -⟩ |
    ⟨v, error, hresult, herror, -, hlookup, hdecode⟩
  · have hthere := lookup_of_filter_eq_some hlookup
    have hsame : Has members "result" fun v => Reordered v result := ⟨result, hthere, .refl result⟩
    have hiff := hreads.reordered_outcome_iff hdoc result (.inl ⟨rfl, rfl⟩)
    simp only [Envelope.toJson, hvalid, hresult, Bool.not_true, Bool.false_eq_true, if_false,
      Option.some.injEq, exists_eq_left']
    rw [hiff, Plain]
    constructor
    · intro hall
      obtain ⟨hother, hplain, -⟩ := hall
      refine ⟨fun hboth => hother hboth.2, hplain.1, hplain.2, fun w hw => ?_⟩
      exact absurd ⟨w, hw, trivial⟩ hother
    · intro hall
      obtain ⟨hboth, hstate, hmoves, -⟩ := hall
      exact ⟨fun hother => hboth ⟨⟨_, hthere, trivial⟩, hother⟩, ⟨hstate, hmoves⟩, hsame⟩
  · have hthere := lookup_of_filter_eq_some hlookup
    have hiff := hreads.reordered_outcome_iff hdoc error.toJson (.inr ⟨rfl, rfl⟩)
    obtain ⟨members', rfl, hpayload⟩ := ErrorPayload.decode_eq_ok_iff.mp hdecode
    have hpayloadIff : Reordered (.obj members') error.toJson ↔ PlainError (.obj members') := by
      cases hdoc with
      | obj here each =>
        cases each _ ((Json.lookup_eq_some_iff_mem here).mp hthere) with
        | obj here' _ => exact ErrorPayload.reordered_iff_plain here' hpayload
    simp only [Envelope.toJson, hvalid, hresult, herror, Bool.not_true, Bool.false_eq_true, if_false,
      Option.some.injEq, exists_eq_left']
    rw [hiff, Plain]
    constructor
    · intro hall
      obtain ⟨hother, hplain, hwritten⟩ := hall
      refine ⟨fun hboth => hother hboth.1, hplain.1, hplain.2, fun w hw => ?_⟩
      rw [hthere] at hw
      cases hw
      exact hpayloadIff.mp (hwritten.of_lookup hthere)
    · intro hall
      obtain ⟨hboth, hstate, hmoves, herrors⟩ := hall
      exact ⟨fun hother => hboth ⟨hother, _, hthere, trivial⟩, ⟨hstate, hmoves⟩,
        ⟨_, hthere, hpayloadIff.mpr (herrors _ hthere)⟩⟩

/-- A document with a result. -/
def resultDocument (state : Json) (others : List (String × Json)) : Json :=
  .obj ([("envelope_version", .nat 1), ("handle_state", state), ("next_moves", .arr []), ("result", .obj [])] ++
    others)

/-- A snapshot without the key that may be `null`. -/
def openMissing : List (String × Json) :=
  [("handle", .str "h"), ("database", .str "db"), ("connection_status", .str "ok"),
    ("transaction_status", .str "active"), ("busy", .bool true), ("schema_observed", .bool false)]

/-- An object with a key that the other one lacks is not the same in another order. -/
theorem Json.Reordered.lookup_isSome {members members' : List (String × Json)}
    (hnodup : (members.map Prod.fst).Nodup) (hnodup' : (members'.map Prod.fst).Nodup)
    (h : Reordered (.obj members) (.obj members')) {key : String} {w : Json} (hmem : (key, w) ∈ members') :
    Has members key fun v => Reordered v w :=
  (Json.reordered_obj_iff hnodup hnodup' h.keys).mp h (key, w) hmem

/-- Documents that are accepted and are never written: one with the keys of both outcomes, and one
without a key that may be `null`. -/
theorem Envelope.not_reordered_toJson :
    (∃ envelope w, Envelope.decode (resultDocument .null [("error", .null)]) = .ok envelope ∧
        envelope.toJson = some w ∧ ¬ Reordered (resultDocument .null [("error", .null)]) w) ∧
      ∃ envelope w, Envelope.decode (resultDocument (.obj openMissing) []) = .ok envelope ∧
        envelope.toJson = some w ∧ ¬ Reordered (resultDocument (.obj openMissing) []) w := by
  have hboth : Envelope.decode (resultDocument .null [("error", .null)]) = .ok (.success none [] (.obj [])) := by
    refine Envelope.decode_eq_ok_iff.mpr ⟨_, rfl, ?_⟩
    exact {
      keys := by simp [Envelope.required]
      version := ⟨_, rfl, by decide +kernel⟩
      handleState := ⟨_, rfl, rfl⟩
      nextMoves := ⟨_, rfl, rfl⟩
      outcome := .inl ⟨_, rfl, rfl, rfl, rfl⟩
      valid := by decide }
  have hmissing : Envelope.decode (resultDocument (.obj openMissing) [])
      = .ok (.success (some (.new "h" "db" .ok .active true false)) [] (.obj [])) := by
    refine Envelope.decode_eq_ok_iff.mpr ⟨_, rfl, ?_⟩
    exact {
      keys := by simp [Envelope.required]
      version := ⟨_, rfl, by decide +kernel⟩
      handleState := ⟨_, rfl, rfl⟩
      nextMoves := ⟨_, rfl, rfl⟩
      outcome := .inl ⟨_, rfl, rfl, rfl, rfl⟩
      valid := by decide }
  have hwritten : (Envelope.success (some (.new "h" "db" .ok .active true false)) [] (.obj [])).toJson
      = some (resultDocument (.obj (openMissing.insertIdx 4 ("transaction_open", .null))) []) := rfl
  refine ⟨⟨_, _, hboth, rfl, fun hreordered => ?_⟩, _, _, hmissing, hwritten, fun hreordered => ?_⟩
  · -- what is written has no error
    have hkey := hreordered.keys ("error", .null) (by simp)
    simp at hkey
  · -- the snapshot is written with one key more
    obtain ⟨v, hv, hstate⟩ := hreordered.lookup_isSome (by decide) (by decide)
      (.tail _ (.head _))
    cases hv
    obtain ⟨v, hv, -⟩ := hstate.lookup_isSome (by decide) (by decide)
      (.tail _ (.tail _ (.tail _ (.tail _ (.head _)))))
    cases hv

/-- A document whose keys come in another order. -/
theorem Envelope.reordered_toJson_iff_failure :
    let doc : Json := .obj [("error", .obj [("transaction_outcome", .str "unknown"), ("sqlstate", .str "40001"),
        ("message", .str ErrorCode.commitOutcomeUnknown.message), ("code", .str "COMMIT_OUTCOME_UNKNOWN")]),
      ("next_moves", .arr []), ("handle_state", .null), ("envelope_version", .nat 1)]
    ∃ envelope w, Envelope.decode doc = .ok envelope ∧ envelope.toJson = some w ∧ Reordered doc w := by
  intro doc
  have hdecode : Envelope.decode doc = .ok (.failure none []
      { ErrorPayload.new .commitOutcomeUnknown with
        sqlstate := some "40001", transactionOutcome := some .unknown }) := by
    refine Envelope.decode_eq_ok_iff.mpr ⟨_, rfl, ?_⟩
    exact {
      keys := by simp [Envelope.required]
      version := ⟨_, rfl, by decide +kernel⟩
      handleState := ⟨_, rfl, rfl⟩
      nextMoves := ⟨_, rfl, rfl⟩
      outcome := .inr ⟨_, _, rfl, rfl, rfl, rfl, by decide +kernel⟩
      valid := by decide +kernel }
  have hdistinct : doc.DistinctKeys := by
    refine .obj (by decide) ?_
    simp only [List.forall_mem_cons, List.not_mem_nil, false_imp_iff, implies_true, and_true]
    refine ⟨.obj (by decide) ?_, .arr (by simp), .null, .num _⟩
    simp only [List.forall_mem_cons, List.not_mem_nil, false_imp_iff, implies_true, and_true]
    exact ⟨.str _, .str _, .str _, .str _⟩
  have hplain : Plain doc := by
    refine ⟨fun hboth => ?_, fun v hv => ?_, fun items hitems v hv => ?_, fun v hv => ?_⟩
    · obtain ⟨⟨v, hv, -⟩, -⟩ := hboth
      cases hv
    · cases hv
      exact trivial
    · cases hitems
      cases hv
    · cases hv
      exact ⟨⟨_, rfl, _, rfl⟩, _, rfl, .inr ⟨_, rfl⟩⟩
  obtain ⟨w, hw, hreordered⟩ := (Envelope.reordered_toJson_iff hdistinct hdecode).mpr hplain
  exact ⟨_, w, hdecode, hw, hreordered⟩

end PgMcp
