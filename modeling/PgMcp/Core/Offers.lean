import PgMcp.Core.Replies
import PgMcp.Protocol.Text
import PgMcp.Tools.Arguments

/-!
# The moves that a client is offered

A reply lists the tools that can be called next, with their arguments.  Whatever a client is
offered in a run, it can send back: the tool is there and takes the arguments, with a statement
added where there has to be one, and the handle they name is registered for good.

## Main definitions

* `Server.Guides` — the snapshot of a reply is one of a registered handle, and its moves are read off it.
* `Tools.Makes`, `Move.Calls` — the call that a move is.

## Main results

* `Serves.attributed` — a worker shows the handle it serves.
* `Server.guides_of_run` — so does every reply.
* `Server.callable_of_run` — what is offered can be called, then and later.
-/

namespace PgMcp

open Program

/-! ### The calls that are offered -/

namespace Tools

/-- The arguments are those of a call for the handle, whatever statement they are completed with. -/
def Makes (tool : String) (arguments : List (String × Json)) (handle : String) : Prop :=
  (∃ operation, call tool arguments = some (.request handle operation)) ∨
    tool = "query" ∧ ∀ request, (∀ p ∈ request.parameters, Wire p) →
      call tool (arguments ++ statement request) = some (.request handle (.query request))

theorem makes_query (handle : String) : Makes "query" [("handle", .str handle)] handle :=
  .inr ⟨rfl, fun _ h => call_query_of_wire h⟩

theorem makes_operation {operation : Operation} (handle : String)
    (h : ∀ request, operation ≠ .query request) :
    Makes operation.tool [("handle", .str handle)] handle := by
  refine .inl ⟨operation, call_request_iff.mpr ⟨rfl, ?_⟩⟩
  have hreads : HandleArgs.Reads [("handle", .str handle)] handle := ⟨by simp, _, rfl, rfl⟩
  cases operation with
  | query request => exact absurd rfl (h request)
  | getSchema | openRead | openWrite | commit | rollback | close => exact hreads

end Tools

/-- The move is a call for the handle, with no arguments but it. -/
def Move.Calls (move : Move) (handle : String) : Prop :=
  move.arguments = .obj [("handle", .str handle)] ∧ Tools.Makes move.tool [("handle", .str handle)] handle

/-- Each move of a snapshot is a call for its handle. -/
theorem calls_of_movesForState {state : HandleState} {closeRefusal : Bool} {moves : List Move}
    (h : movesForState state closeRefusal = some moves) : ∀ move ∈ moves, move.Calls state.handle := by
  have hquery : ∀ guidance, (Move.forHandle "query" state.handle guidance).Calls state.handle :=
    fun _ => ⟨rfl, Tools.makes_query state.handle⟩
  have hcalls : ∀ (operation : Operation) guidance, (∀ request, operation ≠ .query request) →
      (Move.forHandle operation.tool state.handle guidance).Calls state.handle :=
    fun _ _ h => ⟨rfl, Tools.makes_operation state.handle h⟩
  have hschema := fun guidance => hcalls .getSchema guidance (by simp)
  have hread := fun guidance => hcalls .openRead guidance (by simp)
  have hwrite := fun guidance => hcalls .openWrite guidance (by simp)
  have hcommit := fun guidance => hcalls .commit guidance (by simp)
  have hrollback := fun guidance => hcalls .rollback guidance (by simp)
  have hclose := fun guidance => hcalls .close guidance (by simp)
  unfold movesForState at h
  split at h
  · cases h
  split at h
  · cases h
    exact List.forall_mem_nil _
  split at h
  · cases h
    exact List.forall_mem_singleton.mpr (hclose _)
  split at h
  · cases h
    exact List.forall_mem_nil _
  split at h
  · cases h
    exact List.forall_mem_singleton.mpr (hrollback _)
  · split at h
    · cases h
      exact List.forall_mem_cons.mpr ⟨hcommit _, List.forall_mem_singleton.mpr (hrollback _)⟩
    · cases h
      exact List.forall_mem_cons.mpr ⟨hquery _, List.forall_mem_cons.mpr
        ⟨hcommit _, List.forall_mem_singleton.mpr (hrollback _)⟩⟩
  · split at h
    · cases h
      exact List.forall_mem_cons.mpr ⟨hread _, List.forall_mem_cons.mpr ⟨hwrite _, List.forall_mem_cons.mpr
        ⟨hschema _, List.forall_mem_singleton.mpr (hclose _)⟩⟩⟩
    · cases h
      exact List.forall_mem_cons.mpr ⟨hschema _, List.forall_mem_singleton.mpr (hclose _)⟩
  · cases h
    exact List.forall_mem_nil _
  · cases h
    exact List.forall_mem_nil _

theorem calls_of_movesOf {st : Option HandleState} {move : Move} (h : move ∈ movesOf st) :
    ∃ state, st = some state ∧ move.Calls state.handle := by
  cases st with
  | none => cases h
  | some state =>
    refine ⟨state, rfl, ?_⟩
    have hmem : move ∈ (movesForState state false).getD [] := h
    cases hmoves : movesForState state false with
    | none =>
      rw [hmoves] at hmem
      cases hmem
    | some moves =>
      rw [hmoves] at hmem
      exact calls_of_movesForState hmoves move hmem

/-! ### What a worker shows -/

/-- A request leaves a snapshot of the same handle. -/
theorem Serves.same_id {config : Config} {s t : Worker} {l : Served} (h : Serves config s l t) :
    t.published.id = s.published.id := by
  obtain ⟨rounds, handled⟩ := h.handled
  cases handled with
  | refused error refusal conn calls present observation published =>
    rw [published, settle_id]
    rfl
  | ran r free conn calls present observation returns published =>
    rw [published, settle_id, PublishedHandle.record_id]
    rfl

/-- The snapshot of a reply is one of the handle that was served. -/
theorem Serves.attributed {config : Config} {s t : Worker} {l : Served} (h : Serves config s l t) :
    ∃ state, Reply.handleState l.reply = some state ∧ Reply.moves l.reply = movesOf (some state) ∧
      state.handle = t.published.id := by
  obtain ⟨state, hstate, hmoves, -⟩ := h.guided
  have hid := h.same_id
  obtain ⟨rounds, handled⟩ := h.handled
  refine ⟨state, hstate, hmoves, ?_⟩
  cases handled with
  | refused error refusal conn calls present observation published flag coded failed moves state' =>
    rw [hstate, Option.some.injEq] at state'
    rw [state']
    rfl
  | ran r free conn calls present observation returns published flag coded succeeded moves failed state' =>
    rw [hstate, Option.some.injEq] at state'
    rw [state']
    split
    · exact (PublishedHandle.record_id ..).trans hid.symm
    · rfl

/-- The reply a station is about to send shows its handle. -/
theorem Station.Serial.attributed {w₀ w : Worker} {served : List Served} {sent : List Reply} {x : Station}
    (h : x.Serial w₀ w served sent) (own : x.Identified) {reply : Reply}
    (outgoing : x.thread.stage.outgoing = some reply) :
    ∃ state, Reply.handleState reply = some state ∧ Reply.moves reply = movesOf (some state) ∧
      state.handle = x.thread.handle := by
  -- what is published now is what the last of its requests has left
  have hworker : x.worker = w := by
    have hcontinues := h.continues
    unfold Continues at hcontinues
    cases hstage : x.thread.stage with
    | replying call closed out =>
      rw [hstage] at hcontinues
      exact hcontinues.1
    | _ =>
      rw [hstage] at outgoing
      cases outgoing
  have hlast : w.published.id = x.thread.handle := by
    rw [← hworker]
    exact own.published
  have hreply : reply ∈ served.map Served.reply := by
    rw [← h.sent, outgoing]
    exact List.mem_append_right _ (List.mem_singleton_self reply)
  obtain ⟨l, hl, rfl⟩ := List.mem_map.mp hreply
  obtain ⟨-, post, s, t, -, -, step, later⟩ := h.run.mem_step hl
  have hid : w.published.id = t.published.id := by
    refine later.invariant (I := fun w => w.published.id = t.published.id) (G := fun _ => True) ?_
      (fun _ _ => trivial) rfl
    exact fun s l u hs _ step => step.same_id.trans hs
  obtain ⟨state, hstate, hmoves, hhandle⟩ := step.attributed
  exact ⟨state, hstate, hmoves, hhandle.trans (hid.symm.trans hlast)⟩

namespace Server

variable {core : Core} {s t : Server} {ls ls' : List Label} {id handle : String} {reply : Reply}

/-! ### What a reply shows -/

/-- The handle is registered. -/
def Registered (s : Server) (id : String) : Prop := ∃ entry, s.registry.handles.lookup id = some entry

/-- A handle that is registered stays so. -/
theorem Registered.run (h : s.Registered id) (run : Run (Acts core) s ls t) (hs : s.Sound)
    (hnew : ∀ l ∈ ls, l.NewId) : t.Registered id := by
  obtain ⟨entry, present⟩ := h
  obtain ⟨thread, hx⟩ := hs.staffed.hosts present
  obtain ⟨y, hy, -⟩ := hx.run run hs hnew
  exact ⟨y.entry, hy.entry⟩

/-- The moves of a reply are read off its snapshot, and that is one of a registered handle. -/
structure Guides (s : Server) (reply : Reply) : Prop where
  moves : Reply.moves reply = movesOf (Reply.handleState reply)
  registered : ∀ state, Reply.handleState reply = some state → s.Registered state.handle

theorem Guides.of_none (moves : Reply.moves reply = []) (h : Reply.handleState reply = none) :
    s.Guides reply := by
  refine ⟨?_, ?_⟩
  · rw [moves, h]
    rfl
  · intro state hstate
    rw [h] at hstate
    cases hstate

theorem Guides.run (h : s.Guides reply) (run : Run (Acts core) s ls t) (hs : s.Sound)
    (hnew : ∀ l ∈ ls, l.NewId) :
    t.Guides reply :=
  ⟨h.moves, fun state hstate => (h.registered state hstate).run run hs hnew⟩

/-- The failure of an open shows nothing. -/
theorem Guides.of_plain {c : OpenCall} {now : ℕ} {refusal : OpenRefusal} (h : refusal.Plain) :
    s.Guides (.error (c.failure now refusal)) := by
  have hnone : (c.failure now refusal).handleState = none := by
    cases refusal with
    | failed failure => exact h
    | dsnTimeout => rfl
    | interrupted => rfl
  apply Guides.of_none
  · show movesOf _ = []
    rw [hnone]
    rfl
  · exact hnone

/-- A refused request is shown its own handle, if any. -/
theorem guides_refusal {failure : CoreFailure} {r : Registry} (run : Run (Acts core) new ls s)
    (hnew : ∀ l ∈ ls, l.NewId)
    (result : (dispatchAdmit s.trySend handle).Returns (.free s.registry) (.error failure) (.free r)) :
    s.Guides (.error failure) := by
  have shown : ∀ entry code, s.registry.handles.lookup handle = some entry →
      s.Guides (.error (admissionFailure entry code)) := by
    intro entry code present
    refine ⟨rfl, ?_⟩
    intro state hstate
    cases hstate
    refine ⟨entry, ?_⟩
    show s.registry.handles.lookup entry.published.id = some entry
    rw [published_id run hnew present]
    exact present
  obtain ⟨r', -, hadmission⟩ := Admission.of_returns result
  cases hadmission with
  | stopping | unknown => exact .of_none rfl rfl
  | busy entry running present => exact shown entry _ present
  | rejected entry code running present => exact shown entry code present

/-- So is a request whose reply was lost. -/
theorem guides_lost {error : CoreError} {failure : CoreFailure} (run : Run (Acts core) new ls s)
    (hnew : ∀ l ∈ ls, l.NewId)
    (result : (CoreFailure.forHandle handle error).Returns (.free s.registry) (.ok failure)
      (.free s.registry)) : s.Guides (.error failure) := by
  have hreturns : (CoreFailure.forHandle handle error).Returns (.free s.registry)
      (.ok { error := error, handleState := s.registry.currentState handle, sqlstate := none,
             outcomeUnknown := error.outcomeUnknown }) (.free s.registry) := rfl
  cases hreturns.symm.trans result
  refine ⟨rfl, ?_⟩
  intro state hstate
  have hcurrent : s.registry.currentState handle = some state := hstate
  unfold Registry.currentState at hcurrent
  obtain ⟨entry, present, rfl⟩ := Option.map_eq_some_iff.mp hcurrent
  refine ⟨entry, ?_⟩
  show s.registry.handles.lookup entry.published.id = some entry
  rw [published_id run hnew present]
  exact present

/-- How an open comes by its reply. -/
theorem Step.returned {a : Action} (step : Step core s a t) {k : ℕ} {c' : OpenCall}
    (lookup : t.opens.lookup k = some c') (returned : c'.stage = .returned reply) :
    (∃ c, s.opens.lookup k = some c ∧ c.stage = .returned reply) ∨
      (∃ c refusal backend, s.opens.lookup k = some c ∧ c.stage = .returning refusal backend ∧
        reply = .error (c.failure s.now refusal)) ∨
      ∃ c config published, s.opens.lookup k = some c ∧ c.stage = .publishing config published ∧
        reply = openReply published ∧ t.Registered c.reservation.id := by
  -- a step of an open moves that open and no other
  have advanced : ∀ {s' : Server} {k' : ℕ} {c : OpenCall} {stage : OpenStage}, s'.opens = s.opens →
      s.opens.lookup k' = some c → (s'.setOpen k' stage).opens.lookup k = some c' →
      k = k' ∧ stage = .returned reply ∨ ∃ c, s.opens.lookup k = some c ∧ c.stage = .returned reply := by
    intro s' k' c stage same call hc'
    rcases lookup_setOpen (same ▸ call) hc' with ⟨rfl, rfl⟩ | ⟨-, hc'⟩
    · exact .inl ⟨rfl, returned⟩
    · exact .inr ⟨c', same ▸ hc', returned⟩
  by_cases hopen : a.isOpen = true
  · cases step with
    | reserved k' profile reservation r free fresh result =>
      rw [Table.lookup_insert] at lookup
      split at lookup
      · cases lookup
        cases returned
      · exact .inl ⟨c', lookup, returned⟩
    | unreserved => exact .inl ⟨c', lookup, returned⟩
    | «open» k' c stage call moves =>
      rcases advanced rfl call lookup with ⟨rfl, rfl⟩ | h
      · cases moves with
        | returned refusal backend hstage => exact .inr (.inl ⟨c, refusal, backend, call, hstage, rfl⟩)
      · exact .inl h
    | spawn k' c config database backend call stage =>
      rcases advanced rfl call lookup with ⟨rfl, h⟩ | h
      · cases h
      · exact .inl h
    | published k' c config published r free call stage result =>
      rcases @advanced (s.setRegistry r) k' c (.returned (openReply published)) rfl call lookup with
        ⟨rfl, h⟩ | h
      · cases h
        -- the handle is registered in the same critical section
        refine .inr (.inr ⟨c, config, published, call, stage, rfl, ?_⟩)
        unfold Registry.publishOpen at result
        split_ifs at result
        cases result
        exact ⟨_, AList.lookup_insert _⟩
      · exact .inl h
    | unpublished k' c config published free call stage result =>
      rcases @advanced s k' c .dismissing rfl call lookup with ⟨rfl, h⟩ | h
      · cases h
      · exact .inl h
    | dismiss k' c call stage =>
      have same : (if s.trySend k' = .sent then s.setThread k' (Thread.push (.shutdown false)) else s).opens =
          s.opens := by
        split <;> rfl
      rcases advanced same call lookup with ⟨rfl, h⟩ | h
      · cases h
      · exact .inl h
    | finishOpen k' c refusal backend free call stage =>
      rcases @advanced (s.setRegistry _) k' c (.returning refusal backend) rfl call lookup with ⟨rfl, h⟩ | h
      · cases h
      · exact .inl h
    | _ => cases hopen
  · obtain ⟨c, hc, hcore⟩ := Table.exists_of_view (step.frames (Bool.not_eq_true _ ▸ hopen)).opens lookup
    simp only [OpenCall.core, Prod.mk.injEq] at hcore
    exact .inl ⟨c, hc, hcore.2.2.trans returned⟩

/-! ### Runs -/

/-- The reply a worker is about to send shows its handle. -/
theorem guides_outgoing (run : Run (Acts core) new ls s) (hnew : ∀ l ∈ ls, l.NewId) {k : ℕ} {thread : Thread}
    (lookup : s.threads.lookup k = some thread) (outgoing : thread.stage.outgoing = some reply) :
    s.Guides reply := by
  obtain ⟨x, hx, rfl⟩ := hosted_of_run run hnew lookup outgoing
  obtain ⟨w₀, w, served, hserial⟩ := serial_of_run run hnew hx
  obtain ⟨state, hstate, hmoves, hhandle⟩ := hserial.attributed (identified_of_run run hnew hx) outgoing
  refine ⟨hmoves.trans (congrArg movesOf hstate.symm), ?_⟩
  intro state' hstate'
  cases hstate.symm.trans hstate'
  rw [hhandle]
  exact ⟨x.entry, hx.entry⟩

/-- The replies that were given show registered handles. -/
structure Guiding (s : Server) : Prop where
  opens : ∀ k c reply, s.opens.lookup k = some c → c.stage = .returned reply → s.Guides reply
  requests : ∀ n c reply, s.requests.lookup n = some c → c.stage = .answered reply → s.Guides reply

theorem guiding_new : new.Guiding where
  opens k c reply h := by cases h
  requests n c reply h := by cases h

/-- A step gives such replies alone. -/
theorem Guiding.step (h : s.Guiding) {l : Label} (run : Run (Acts core) new ls s)
    (hnew : ∀ l' ∈ ls ++ [l], l'.NewId) (hl : Acts core s l t) : t.Guiding := by
  have hpre : ∀ l' ∈ ls, l'.NewId := fun l' hl' => hnew l' (List.mem_append_left _ hl')
  have hs := sound_new.run run hpre
  have hlast : ∀ l' ∈ [l], l'.NewId := fun l' hl' => hnew l' (List.mem_append_right _ hl')
  -- a reply shows after the step what it has shown before
  have kept : ∀ {reply}, s.Guides reply → t.Guides reply := fun h => h.run (.single hl) hs hlast
  have step := hl.2.2
  constructor
  · intro k c reply lookup returned
    rcases step.returned lookup returned with ⟨c, hc, hstage⟩ | ⟨c, refusal, backend, hc, hstage, rfl⟩ |
      ⟨c, config, published, hc, hstage, rfl, hregistered⟩
    · exact kept (h.opens k c reply hc hstage)
    · have hplain := (answers_of_run run hpre).opens k c hc
      rw [hstage] at hplain
      exact .of_plain hplain
    · refine ⟨rfl, ?_⟩
      intro state hstate
      cases hstate
      have hid : published.id = c.reservation.id :=
        attributed_of_run run k c published hc (by rw [hstage]; rfl)
      show t.Registered published.id
      rw [hid]
      exact hregistered
  · intro n c reply lookup answered
    rcases step.answer lookup answered with ⟨c, hc, hstage⟩ | ⟨k, thread, hthread, houtgoing⟩ |
      ⟨handle, failure, rfl, result⟩ | ⟨handle, failure, r, rfl, result⟩ | ⟨handle, failure, rfl, result⟩
    · exact kept (h.requests n c reply hc hstage)
    · exact kept (guides_outgoing run hpre hthread houtgoing)
    · rw [limits_failure result]
      exact .of_none rfl rfl
    · exact kept (guides_refusal run hpre result)
    · exact kept (guides_lost run hpre result)

theorem guiding_of_run (run : Run (Acts core) new ls s) (hnew : ∀ l ∈ ls, l.NewId) : s.Guiding := by
  generalize hstart : new = s₀ at run
  induction run with
  | nil =>
    subst hstart
    exact guiding_new
  | snoc run hl ih =>
    subst hstart
    exact (ih fun l hl => hnew l (List.mem_append_left _ hl)).step run hnew hl

/-- Every reply shows a registered handle, or none. -/
theorem guides_of_run (run : Run (Acts core) new ls s) (hnew : ∀ l ∈ ls, l.NewId) (h : s.Emits reply) :
    s.Guides reply := by
  have hguiding := guiding_of_run run hnew
  cases h with
  | opened k c reply call stage => exact hguiding.opens k c reply call stage
  | answered n c reply call stage => exact hguiding.requests n c reply call stage
  | listed => exact .of_none rfl rfl

/-- A request for a registered handle is taken on. -/
theorem Registered.limits (h : s.Registered handle) : ∃ limits,
    (dispatchLimits handle).Returns (.free s.registry) (.ok limits) (.free s.registry) := by
  obtain ⟨entry, present⟩ := h
  exact ⟨_, dispatchLimits_returns present⟩

end Server

/-! ### What a client reads -/

/-- The value under a key of an object. -/
def Json.member (v : Json) (key : String) : Option Json :=
  match v with
  | .obj members => members.lookup key
  | _ => none

/-- A member of an object is found in its canonical form. -/
theorem Json.member_canonicalize {members : List (String × Json)} (hnodup : (members.map Prod.fst).Nodup)
    {key : String} {v : Json} (h : (key, v) ∈ members) :
    (canonicalize (.obj members)).member key = some v.canonicalize := by
  have hperm : (sortMembers (members.map canonicalMember)).Perm (members.map canonicalMember) :=
    List.perm_insertionSort _ _
  rw [canonicalize_obj]
  apply (lookup_eq_some_iff_mem ?_).mpr
  · exact hperm.mem_iff.mpr (List.mem_map.mpr ⟨_, h, rfl⟩)
  · rw [(hperm.map Prod.fst).nodup_iff, keys_canonicalMember]
    exact hnodup

/-- A move is read from its canonical form. -/
theorem Move.fromValue_canonicalize (move : Move) : Move.fromValue move.toJson.canonicalize =
    some { move with arguments := move.arguments.canonicalize } := by
  have hnodup : ([("tool", Json.str move.tool), ("arguments", move.arguments),
      ("guidance", Json.str move.guidance)].map Prod.fst).Nodup := by
    simp
  have htool := Json.member_canonicalize hnodup (List.mem_cons_self ..)
  have harguments := Json.member_canonicalize hnodup (List.mem_cons_of_mem _ (List.mem_cons_self ..))
  have hguidance := Json.member_canonicalize hnodup
    (List.mem_cons_of_mem _ (List.mem_cons_of_mem _ (List.mem_cons_self ..)))
  have hkeys : (Json.sortMembers ([("tool", Json.str move.tool), ("arguments", move.arguments),
      ("guidance", Json.str move.guidance)].map Json.canonicalMember)).all (fun m => Move.fields.contains m.1)
      = true := by
    unfold Json.sortMembers
    rw [(List.perm_insertionSort _ _).all_eq]
    simp [Json.canonicalMember, Move.fields]
  unfold Move.toJson
  rw [Json.canonicalize_obj] at htool harguments hguidance ⊢
  simp only [Move.fromValue, hkeys, if_true]
  have ht : List.lookup _ _ = _ := htool
  have ha : List.lookup _ _ = _ := harguments
  have hg : List.lookup _ _ = _ := hguidance
  rw [ht, ha, hg]
  rfl

/-- The moves of a valid envelope are read from what it is handed on as. -/
theorem Envelope.moves_canonicalValue {envelope : Envelope} (h : envelope.validate = true) :
    ∃ items, (canonicalValue envelope).member "next_moves" = some (.arr items) ∧
      asVec Move.fromValue (.arr items) =
        some (envelope.nextMoves.map fun move => { move with arguments := move.arguments.canonicalize }) := by
  refine ⟨(envelope.nextMoves.map Move.toJson).map Json.canonicalize, ?_, ?_⟩
  · have hmember : ∀ {members}, envelope.toJson = some (.obj members) → (members.map Prod.fst).Nodup →
        ("next_moves", Json.arr (envelope.nextMoves.map Move.toJson)) ∈ members →
        (canonicalValue envelope).member "next_moves" =
          some (.arr ((envelope.nextMoves.map Move.toJson).map Json.canonicalize)) := by
      intro members hjson hnodup hmem
      unfold canonicalValue
      rw [hjson, ← Json.canonicalize_arr]
      exact Json.member_canonicalize hnodup hmem
    rcases toJson_eq h with ⟨v, -, -, hjson⟩ | ⟨error, -, -, hjson⟩
    · exact hmember hjson (by simp [heading]) (by simp [heading])
    · exact hmember hjson (by simp [heading]) (by simp [heading])
  · show List.mapM Move.fromValue _ = _
    rw [mapM_eq_some_iff, List.map_map, List.forall₂_map_left_iff, List.forall₂_map_right_iff,
      List.forall₂_same]
    exact fun move _ => move.fromValue_canonicalize

namespace Server

variable {core : Core} {s t : Server} {ls ls' : List Label}

/-- Whatever a client reads in a reply that it can do next, it can send back, then and later: the tool takes
the arguments, completed with a statement for a query, and the core knows the handle. -/
theorem callable_of_run (run : Run (Acts core) new ls s) (hnew : ∀ l ∈ ls, l.NewId)
    (later : Run (Acts core) s ls' t) (hnew' : ∀ l ∈ ls', l.NewId) {reply : Reply} (h : s.Emits reply) :
    ∃ items moves, (Tools.result reply).structuredContent.member "next_moves" = some (.arr items) ∧
      asVec Move.fromValue (.arr items) = some moves ∧
      ∀ move ∈ moves, ∃ handle members limits, move.arguments = .obj members ∧
        Tools.Makes move.tool members handle ∧
        (dispatchLimits handle).Returns (.free t.registry) (.ok limits) (.free t.registry) := by
  have hvalid : reply.Valid := valid_of_run run hnew h
  have hguides := guides_of_run run hnew h
  have hcontent : (Tools.result reply).structuredContent = canonicalValue (Reply.envelope reply) := by
    cases reply <;> rfl
  obtain ⟨items, hitems, hmoves⟩ := Envelope.moves_canonicalValue hvalid
  refine ⟨items, _, hcontent ▸ hitems, hmoves, ?_⟩
  intro move hmove
  obtain ⟨written, hwritten, rfl⟩ := List.mem_map.mp hmove
  have hmem : written ∈ movesOf (Reply.handleState reply) := by
    rw [← hguides.moves]
    cases reply <;> exact hwritten
  obtain ⟨state, hstate, harguments, hmakes⟩ := calls_of_movesOf hmem
  have hregistered := (hguides.registered state hstate).run later (sound_new.run run hnew) hnew'
  obtain ⟨limits, hlimits⟩ := hregistered.limits
  refine ⟨state.handle, _, limits, ?_, hmakes, hlimits⟩
  show written.arguments.canonicalize = _
  rw [harguments, Json.canonicalize_obj]
  rfl

/-- The moves of a handle that was opened can still be sent back when it is closed. -/
theorem callable_of_run_afterClose : ∃ ls ls' s t reply items moves entry, Run (Acts localProfile) new ls s ∧
    Run (Acts localProfile) s ls' t ∧ t.registry.handles.lookup (handleName 1) = some entry ∧
    entry.published.closed = true ∧ s.Emits reply ∧ reply = openReply new.freshSnapshot ∧
    (Tools.result reply).structuredContent.member "next_moves" = some (.arr items) ∧
    asVec Move.fromValue (.arr items) = some moves ∧
    ∀ move ∈ moves, ∃ handle members limits, move.arguments = .obj members ∧
      Tools.Makes move.tool members handle ∧
      (dispatchLimits handle).Returns (.free t.registry) (.ok limits) (.free t.registry) := by
  have hadmits := admits_new (by decide : "local" ≠ "") localProfile_admissionConfig
  obtain ⟨ls, run, hcount, -⟩ := run_open hadmits
  obtain ⟨ls', t, entry, thread, run', hcount', hserving, hclosed⟩ :=
    run_close localProfile (n := 0) hadmits.atRest (AList.notMem_empty _)
  have hnew : ∀ l ∈ ls ++ ls', l.NewId := by
    apply newId_of_run (run.append run')
    unfold reservations at hcount hcount' ⊢
    rw [List.countP_append, hcount, hcount', u64Max_eq]
    decide
  have hemits : (new.afterOpen 0 "local" Config.default).Emits (openReply new.freshSnapshot) :=
    .opened 0 _ _ (AList.lookup_insert _) rfl
  obtain ⟨items, moves, hitems, hmoves, hcalls⟩ := callable_of_run run
    (fun l hl => hnew l (List.mem_append_left _ hl)) run'
      (fun l hl => hnew l (List.mem_append_right _ hl)) hemits
  exact ⟨ls, ls', _, t, _, items, moves, entry, run, run', hserving.present, hclosed, hemits, rfl, hitems,
    hmoves, hcalls⟩

end Server

end PgMcp
