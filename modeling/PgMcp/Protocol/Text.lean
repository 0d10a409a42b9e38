import PgMcp.Json.Text
import PgMcp.Protocol.Strict

/-!
# The text of a reply

A client sees a reply as the canonical text of one JSON object.  The text tells everything that
was replied: the snapshot of the handle, the moves, and the result or the error; in the result and
in the arguments of a move all but the order of keys.

## Main definitions

* `Json.Proper` — a value in which no key repeats and numbers are numbers.
* `Envelope.Same` — replies that differ only in the order of keys.

## Main results

* `Tools.text_eq_iff` — two valid replies have the same text exactly when they are the same.
-/

namespace PgMcp

open Json

/-- No key repeats in an object of the value, and its numbers are written as numbers are. -/
structure Json.Proper (v : Json) : Prop where
  numeric : v.Numeric
  distinct : v.DistinctKeys

/-- Moves that differ only in the order of keys. -/
def Move.Same (move move' : Move) : Prop :=
  move.tool = move'.tool ∧ Reordered move.arguments move'.arguments ∧ move.guidance = move'.guidance

/-- Replies that differ only in the order of keys. -/
structure Envelope.Same (envelope envelope' : Envelope) : Prop where
  handleState : envelope.handleState = envelope'.handleState
  nextMoves : List.Forall₂ Move.Same envelope.nextMoves envelope'.nextMoves
  result : Option.Rel Reordered envelope.result envelope'.result
  error : envelope.error = envelope'.error

/-- The values a reply takes in are proper ones. -/
structure Envelope.Proper (envelope : Envelope) : Prop where
  nextMoves : ∀ move ∈ envelope.nextMoves, move.arguments.Proper
  result : ∀ v ∈ envelope.result, v.Proper

/-! ### Objects with the same keys -/

theorem eq_of_perm_of_keys {α β : Type} {f : α → β} {l l' : List α} (hperm : l.Perm l')
    (hkeys : l.map f = l'.map f) (hnodup : (l'.map f).Nodup) : l = l' := by
  have hlength : l.length = l'.length := hperm.length_eq
  refine List.ext_getElem hlength fun n hn hn' => ?_
  -- the entries with that number have one key, and both are in the second list
  apply List.inj_on_of_nodup_map hnodup (hperm.mem_iff.mp (List.getElem_mem hn)) (List.getElem_mem hn')
  have hkey : (l.map f)[n]? = (l'.map f)[n]? := congrArg (fun keys => keys[n]?) hkeys
  rw [List.getElem?_map, List.getElem?_map, List.getElem?_eq_getElem hn, List.getElem?_eq_getElem hn'] at hkey
  exact Option.some.inj hkey

/-- Objects with the same keys in the same order, value by value. -/
theorem Json.reordered_obj_of_keys {members members' : List (String × Json)}
    (hkeys : members.map Prod.fst = members'.map Prod.fst) (hnodup : (members'.map Prod.fst).Nodup) :
    Reordered (.obj members) (.obj members') ↔ List.Forall₂ ReorderedMember members members' := by
  constructor
  · intro h
    cases h with
    | @obj _ same _ each order =>
      have hsame : members.map Prod.fst = same.map Prod.fst := by
        clear hkeys order
        induction each with
        | nil => rfl
        | cons hmember _ ih =>
          cases hmember with
          | mk key value => rw [List.map_cons, List.map_cons, ih]
      rw [eq_of_perm_of_keys order (hsame.symm.trans hkeys) hnodup] at each
      exact each
  · intro h
    exact .obj h (.refl _)

theorem Json.reorderedMember_iff {key : String} {v w : Json} :
    ReorderedMember (key, v) (key, w) ↔ Reordered v w := by
  constructor
  · intro h
    cases h with
    | mk _ value => exact value
  · exact .mk key

theorem Json.reordered_bool_iff {v : Json} {b : Bool} : Reordered v (.bool b) ↔ v = .bool b := by
  constructor
  · intro h
    cases h
    rfl
  · intro h
    rw [h]
    exact .bool b

theorem Json.reordered_null_iff {v : Json} : Reordered v .null ↔ v = .null := by
  constructor
  · intro h
    cases h
    rfl
  · intro h
    rw [h]
    exact .null

theorem Json.reordered_optStr_iff {s s' : Option String} : Reordered (.optStr s) (.optStr s') ↔ s = s' := by
  cases s' with
  | none => cases s <;> simp [optStr, reordered_null_iff]
  | some s' => cases s <;> simp [optStr, reordered_str_iff]

/-! ### The parts of a reply -/

theorem ConnectionStatus.name_injective : Function.Injective ConnectionStatus.name := by
  intro a b h
  cases a <;> cases b <;> first | rfl | exact absurd h (by decide)

theorem TransactionStatus.name_injective : Function.Injective TransactionStatus.name := by
  intro a b h
  cases a <;> cases b <;> first | rfl | exact absurd h (by decide)

theorem ErrorCode.code_injective : Function.Injective ErrorCode.code := by
  intro a b h
  have hread := decodeEnum_errorCode a
  rw [h, decodeEnum_errorCode b] at hread
  exact (Option.some.inj hread).symm

theorem HandleState.reordered_written_iff {state state' : HandleState} :
    Reordered state.toJson state'.toJson ↔ state = state' := by
  refine (reordered_obj_of_keys (by rfl) (by simp)).trans ?_
  simp only [List.forall₂_cons, reorderedMember_iff, reordered_str_iff, reordered_bool_iff, Json.str.injEq,
    Json.bool.injEq, List.forall₂_nil_left_iff, and_true]
  have hopen : ∀ {o o' : Option Bool}, Reordered ((o.map Json.bool).getD .null)
    ((o'.map Json.bool).getD .null)
      ↔ o = o' := by
    intro o o'
    cases o' with
    | none => cases o <;> simp [reordered_null_iff]
    | some b => cases o <;> simp [reordered_bool_iff]
  rw [hopen]
  constructor
  · intro h
    obtain ⟨hhandle, hdatabase, hconnection, htransaction, hopen, hbusy, hobserved⟩ := h
    cases state
    cases state'
    simp only [HandleState.mk.injEq]
    exact ⟨hhandle, hdatabase, ConnectionStatus.name_injective hconnection,
      TransactionStatus.name_injective htransaction, hopen, hbusy, hobserved⟩
  · intro h
    rw [h]
    exact ⟨rfl, rfl, rfl, rfl, rfl, rfl, rfl⟩

theorem Move.reordered_written_iff {move move' : Move} :
    Reordered move.toJson move'.toJson ↔ move.Same move' := by
  refine (reordered_obj_of_keys (by rfl) (by simp)).trans ?_
  simp only [List.forall₂_cons, reorderedMember_iff, reordered_str_iff, Json.str.injEq,
    List.forall₂_nil_left_iff, and_true, Move.Same]

/-- The message of an error is not written, but that of its code, which a valid error has. -/
theorem ErrorPayload.reordered_written_iff {error error' : ErrorPayload} (h : error.validate = true)
    (h' : error'.validate = true) : Reordered error.toJson error'.toJson ↔ error = error' := by
  refine (reordered_obj_of_keys (by rfl) (by simp)).trans ?_
  simp only [List.forall₂_cons, reorderedMember_iff, reordered_str_iff, reordered_optStr_iff, Json.str.injEq,
    List.forall₂_nil_left_iff, and_true]
  constructor
  · intro hparts
    obtain ⟨hcode, -, hsqlstate, houtcome⟩ := hparts
    have hsame : error.code = error'.code := ErrorCode.code_injective hcode
    have hmessage : error.message = error'.message := by
      unfold validate at h h'
      rw [Bool.and_eq_true, beq_iff_eq] at h h'
      rw [h.1, h'.1, hsame]
    have houtcomes : error.transactionOutcome = error'.transactionOutcome := by
      apply Option.map_injective _ houtcome
      intro a b _
      cases a
      cases b
      rfl
    cases error
    cases error'
    simp only [ErrorPayload.mk.injEq]
    exact ⟨hsame, hmessage, hsqlstate, houtcomes⟩
  · intro hsame
    rw [hsame]
    exact ⟨rfl, rfl, rfl, rfl⟩

theorem reordered_arr_iff {items items' : List Json} :
    Reordered (.arr items) (.arr items') ↔ List.Forall₂ Reordered items items' := by
  constructor
  · intro h
    cases h with
    | arr each => exact each
  · exact .arr

theorem HandleState.reordered_getD_iff {state state' : Option HandleState} :
    Reordered ((state.map HandleState.toJson).getD .null) ((state'.map HandleState.toJson).getD .null) ↔
      state = state' := by
  have hnull : ∀ state : HandleState, ¬ Reordered .null state.toJson := by
    intro state h
    cases h
  cases state with
  | none =>
    cases state' with
    | none => exact ⟨fun _ => rfl, fun _ => .null⟩
    | some state' => simpa using hnull state'
  | some state =>
    cases state' with
    | none =>
      simp only [Option.map_some, Option.getD_some, Option.map_none, Option.getD_none, reordered_null_iff,
        reduceCtorEq, iff_false]
      intro h
      cases h
    | some state' =>
      simp only [Option.map_some, Option.getD_some, Option.some.injEq]
      exact HandleState.reordered_written_iff

/-! ### The whole reply -/

/-- The parts that are written for every reply. -/
def Envelope.heading (envelope : Envelope) : List (String × Json) :=
  [("envelope_version", .nat envelope.envelopeVersion),
    ("handle_state", (envelope.handleState.map HandleState.toJson).getD .null),
    ("next_moves", .arr (envelope.nextMoves.map Move.toJson))]

/-- A valid reply is written with its result or with its error. -/
theorem Envelope.toJson_eq {envelope : Envelope} (h : envelope.validate = true) :
    (∃ v, envelope.result = some v ∧ envelope.error = none ∧
        envelope.toJson = some (.obj (envelope.heading ++ [("result", v)]))) ∨
      ∃ error, envelope.result = none ∧ envelope.error = some error ∧
        envelope.toJson = some (.obj (envelope.heading ++ [("error", error.toJson)])) := by
  obtain ⟨⟨-, exclusive, -⟩, -⟩ := Envelope.validate_iff.mp h
  unfold toJson
  rw [h]
  cases hresult : envelope.result with
  | some v =>
    cases herror : envelope.error with
    | none => exact .inl ⟨v, rfl, rfl, rfl⟩
    | some error =>
      rw [hresult, herror] at exclusive
      cases exclusive
  | none =>
    cases herror : envelope.error with
    | some error => exact .inr ⟨error, rfl, rfl, rfl⟩
    | none =>
      rw [hresult, herror] at exclusive
      cases exclusive

/-- One more member after the parts that are written for every reply. -/
theorem Envelope.reordered_heading_iff {envelope envelope' : Envelope} (h : envelope.envelopeVersion = 1)
    (h' : envelope'.envelopeVersion = 1) {key : String} {v w : Json}
    (hkey : key ∉ ["envelope_version", "handle_state", "next_moves"]) :
    Reordered (.obj (envelope.heading ++ [(key, v)])) (.obj (envelope'.heading ++ [(key, w)])) ↔
      envelope.handleState = envelope'.handleState ∧
        List.Forall₂ Move.Same envelope.nextMoves envelope'.nextMoves ∧ Reordered v w := by
  have hnodup : ((envelope'.heading ++ [(key, w)]).map Prod.fst).Nodup := by
    rw [List.map_append, List.nodup_append]
    refine ⟨by simp [heading], by simp, fun a ha b hb => ?_⟩
    cases List.mem_singleton.mp hb
    rintro rfl
    exact hkey ha
  refine (reordered_obj_of_keys (by rfl) hnodup).trans ?_
  rw [heading, heading, h, h']
  simp only [List.cons_append, List.nil_append, List.forall₂_cons, reorderedMember_iff, reordered_arr_iff,
    HandleState.reordered_getD_iff, List.forall₂_map_left_iff, List.forall₂_map_right_iff,
    Move.reordered_written_iff, List.forall₂_nil_left_iff, and_true]
  exact and_iff_right (.refl _)

/-- Objects with different last keys are not reorderings. -/
theorem Envelope.not_reordered_heading {envelope envelope' : Envelope} {key key' : String} {v w : Json}
    (hkey : key ∉ ["envelope_version", "handle_state", "next_moves", key']) :
    ¬ Reordered (.obj (envelope.heading ++ [(key, v)])) (.obj (envelope'.heading ++ [(key', w)])) := by
  intro h
  exact hkey (h.keys (key, v) (by simp))

theorem Envelope.reordered_iff_same {envelope envelope' : Envelope} (h : envelope.validate = true)
    (h' : envelope'.validate = true) {v w : Json} (hv : envelope.toJson = some v)
    (hw : envelope'.toJson = some w) : Reordered v w ↔ envelope.Same envelope' := by
  have hversion := (Envelope.validate_iff.mp h).1.version
  have hversion' := (Envelope.validate_iff.mp h').1.version
  rcases Envelope.toJson_eq h with ⟨r, hresult, herror, hjson⟩ | ⟨error, hresult, herror, hjson⟩ <;>
    rcases Envelope.toJson_eq h' with ⟨r', hresult', herror', hjson'⟩
      | ⟨error', hresult', herror', hjson'⟩ <;>
    rw [hjson] at hv <;> rw [hjson'] at hw <;> cases hv <;> cases hw
  · rw [Envelope.reordered_heading_iff hversion hversion' (by decide)]
    constructor
    · intro hsame
      obtain ⟨hstate, hmoves, hr⟩ := hsame
      exact ⟨hstate, hmoves, by rw [hresult, hresult']; exact .some hr, by rw [herror, herror']⟩
    · intro hsame
      have hr := hsame.result
      rw [hresult, hresult'] at hr
      cases hr with
      | some hr => exact ⟨hsame.handleState, hsame.nextMoves, hr⟩
  · refine iff_of_false (Envelope.not_reordered_heading (by decide)) fun hsame => ?_
    have herrors := hsame.error
    rw [herror, herror'] at herrors
    cases herrors
  · refine iff_of_false (Envelope.not_reordered_heading (by decide)) fun hsame => ?_
    have herrors := hsame.error
    rw [herror, herror'] at herrors
    cases herrors
  · have hpayload := (Envelope.validate_iff.mp h).1.error
    have hpayload' := (Envelope.validate_iff.mp h').1.error
    rw [herror, Option.all_some] at hpayload
    rw [herror', Option.all_some] at hpayload'
    rw [Envelope.reordered_heading_iff hversion hversion' (by decide),
      ErrorPayload.reordered_written_iff hpayload hpayload']
    constructor
    · intro hsame
      obtain ⟨hstate, hmoves, rfl⟩ := hsame
      exact ⟨hstate, hmoves, by rw [hresult, hresult']; exact .none, by rw [herror, herror']⟩
    · intro hsame
      have herrors := hsame.error
      rw [herror, herror'] at herrors
      cases herrors
      exact ⟨hsame.handleState, hsame.nextMoves, rfl⟩

/-! ### The text -/

theorem HandleState.proper_toJson (state : HandleState) : Json.Proper state.toJson := by
  have hopen : ∀ o : Option Bool, Json.Proper ((o.map Json.bool).getD .null) := by
    intro o
    cases o with
    | none => exact ⟨.null, .null⟩
    | some b => exact ⟨.bool b, .bool b⟩
  constructor
  · apply Json.Numeric.obj
    simp only [List.forall_mem_cons, List.not_mem_nil, false_imp_iff, implies_true, and_true]
    exact ⟨.str _, .str _, .str _, .str _, (hopen _).numeric, .bool _, .bool _⟩
  · refine .obj (by simp) ?_
    simp only [List.forall_mem_cons, List.not_mem_nil, false_imp_iff, implies_true, and_true]
    exact ⟨.str _, .str _, .str _, .str _, (hopen _).distinct, .bool _, .bool _⟩

theorem Move.proper_toJson {move : Move} (h : move.arguments.Proper) : Json.Proper move.toJson := by
  constructor
  · apply Json.Numeric.obj
    simp only [List.forall_mem_cons, List.not_mem_nil, false_imp_iff, implies_true, and_true]
    exact ⟨.str _, h.numeric, .str _⟩
  · refine .obj (by simp) ?_
    simp only [List.forall_mem_cons, List.not_mem_nil, false_imp_iff, implies_true, and_true]
    exact ⟨.str _, h.distinct, .str _⟩

theorem ErrorPayload.proper_toJson (error : ErrorPayload) : Json.Proper error.toJson := by
  have hoption : ∀ s : Option String, Json.Proper (.optStr s) := by
    intro s
    cases s with
    | none => exact ⟨.null, .null⟩
    | some s => exact ⟨.str s, .str s⟩
  constructor
  · apply Json.Numeric.obj
    simp only [List.forall_mem_cons, List.not_mem_nil, false_imp_iff, implies_true, and_true]
    exact ⟨.str _, .str _, (hoption _).numeric, (hoption _).numeric⟩
  · refine .obj (by simp) ?_
    simp only [List.forall_mem_cons, List.not_mem_nil, false_imp_iff, implies_true, and_true]
    exact ⟨.str _, .str _, (hoption _).distinct, (hoption _).distinct⟩

/-- One more proper member after the parts that are written for every reply. -/
theorem Envelope.proper_heading {envelope : Envelope} (h : envelope.Proper) {key : String} {v : Json}
    (hkey : key ∉ ["envelope_version", "handle_state", "next_moves"]) (hv : v.Proper) :
    Json.Proper (.obj (envelope.heading ++ [(key, v)])) := by
  have hstate : Json.Proper ((envelope.handleState.map HandleState.toJson).getD .null) := by
    cases envelope.handleState with
    | none => exact ⟨.null, .null⟩
    | some state => exact state.proper_toJson
  have hmoves : Json.Proper (.arr (envelope.nextMoves.map Move.toJson)) := by
    have heach : ∀ w ∈ envelope.nextMoves.map Move.toJson, Json.Proper w := by
      intro w hw
      obtain ⟨move, hmove, rfl⟩ := List.mem_map.mp hw
      exact Move.proper_toJson (h.nextMoves move hmove)
    exact ⟨.arr fun w hw => (heach w hw).numeric, .arr fun w hw => (heach w hw).distinct⟩
  have hmembers : ∀ m ∈ envelope.heading ++ [(key, v)], m.2.Proper := by
    simp only [heading, List.cons_append, List.nil_append, List.forall_mem_cons, List.not_mem_nil,
      false_imp_iff, implies_true, and_true]
    exact ⟨⟨.nat _, .num _⟩, hstate, hmoves, hv⟩
  refine ⟨.obj fun m hm => (hmembers m hm).numeric, .obj ?_ fun m hm => (hmembers m hm).distinct⟩
  rw [List.map_append, List.nodup_append]
  refine ⟨by simp [heading], by simp, fun a ha b hb => ?_⟩
  cases List.mem_singleton.mp hb
  rintro rfl
  exact hkey ha

theorem Envelope.proper_toJson {envelope : Envelope} (hvalid : envelope.validate = true) (h : envelope.Proper)
    {v : Json} (hv : envelope.toJson = some v) : v.Proper := by
  rcases Envelope.toJson_eq hvalid with ⟨r, hresult, -, hjson⟩ | ⟨error, -, -, hjson⟩
  · rw [hjson] at hv
    cases hv
    exact Envelope.proper_heading h (by decide) (h.result r hresult)
  · rw [hjson] at hv
    cases hv
    exact Envelope.proper_heading h (by decide) error.proper_toJson

/-- Two valid replies are sent as the same text exactly when they are the same up to the order of
keys. -/
theorem Tools.text_eq_iff {reply reply' : Reply} (h : reply.Valid) (h' : reply'.Valid)
    (hproper : (Reply.envelope reply).Proper) (hproper' : (Reply.envelope reply').Proper) :
    encode (Tools.result reply).structuredContent = encode (Tools.result reply').structuredContent ↔
      (Reply.envelope reply).Same (Reply.envelope reply') := by
  obtain ⟨v, hv, hcontent, -⟩ := Tools.result_of_valid h
  obtain ⟨w, hw, hcontent', -⟩ := Tools.result_of_valid h'
  have hvProper := Envelope.proper_toJson h hproper hv
  have hwProper := Envelope.proper_toJson h' hproper' hw
  rw [hcontent, hcontent', ← Envelope.reordered_iff_same h h' hv hw]
  exact Json.canonicalJson_eq_iff hvProper.numeric hwProper.numeric hvProper.distinct

/-- A reply with a result of two members, in either order. -/
def twoMembers (swapped : Bool) : Reply :=
  let state := HandleState.new "h-0000000000000001" "postgres" .ok .idle false false
  let members := [("handle", Json.str state.handle), ("database", .str state.database)]
  .ok (.success (some state) (movesOf (some state)) (.obj (if swapped then members.reverse else members)))

/-- Results that differ in the order of their members have one text. -/
theorem Tools.text_eq_iff_swapped :
    Reply.envelope (twoMembers false) ≠ Reply.envelope (twoMembers true) ∧
    encode (Tools.result (twoMembers false)).structuredContent =
      encode (Tools.result (twoMembers true)).structuredContent := by
  have hvalid : ∀ swapped, (twoMembers swapped).Valid := by
    intro swapped
    cases swapped <;> rfl
  have hstr : ∀ key s : String, Json.Proper (.obj [(key, .str s)]) := fun key s =>
    ⟨.obj (by simp [Json.Numeric.str]), .obj (by simp) (by simp [Json.AllObjects.str])⟩
  have hproper : ∀ swapped, (Reply.envelope (twoMembers swapped)).Proper := by
    intro swapped
    constructor
    · -- a handle at rest without a schema observation offers two moves
      intro move hmove
      change move ∈ [Move.forHandle "get_schema" _ _, Move.forHandle "close_database" _ _] at hmove
      simp only [List.mem_cons, List.not_mem_nil, or_false] at hmove
      rcases hmove with rfl | rfl <;> exact hstr _ _
    · rintro v ⟨⟩
      cases swapped
      · exact ⟨.obj (by simp [Json.Numeric.str]), .obj (by simp) (by simp [Json.AllObjects.str])⟩
      · exact ⟨.obj (by simp [Json.Numeric.str]), .obj (by simp) (by simp [Json.AllObjects.str])⟩
  have hdiffer : (Reply.envelope (twoMembers false)).result ≠ (Reply.envelope (twoMembers true)).result := by
    simp [twoMembers, Reply.envelope, Envelope.success]
  refine ⟨fun h => hdiffer (congrArg Envelope.result h),
    (Tools.text_eq_iff (hvalid false) (hvalid true) (hproper false) (hproper true)).mpr ?_⟩
  refine ⟨rfl, ?_, ?_, rfl⟩
  · exact List.forall₂_same.mpr fun move _ => ⟨rfl, .refl _, rfl⟩
  · refine .some (.obj (List.forall₂_same.mpr fun m _ => .of_eq rfl (.refl _)) ?_)
    exact (List.reverse_perm _).symm

end PgMcp
