import PgMcp.Core.Linearization

/-!
# What a handle is shown with

A listing is a look at the registry: the last published snapshot of every handle that was ever
registered, in the order of the ids.  A handle stays listed when it is closed.  While its worker
is busy with a request a handle is shown as it was before.

## Main definitions

* `Label.Publishes`, `Label.Opens`, `Label.Ends` — what is published of a handle in a step,
  and the steps that register and that close it.
* `Server.Live`, `Server.ListsLive` — the live handles, and a listing of them.
* `Server.Shows` — what a call on a handle shows of it.

## Main results

* `Server.lists_of_run` — what is listed in every run.
* `Server.listsLive_iff` — the live handles are listed as long as none is closed.
* `Server.shows_of_run` — what is shown while a request is being served.
-/

namespace PgMcp

open Program

/-- A step that may publish a snapshot. -/
def Action.publishing : Action → Bool
  | .publish _ true | .record _ | .settle _ | .close _ => true
  | _ => false

/-! ### Whose snapshot it is -/

@[simp] theorem PublishedHandle.record_id (config : Config) (p : PublishedHandle)
    (r : Except BackendFailure BackendResult) : (p.record config r).id = p.id := by
  cases r with
  | error f => rfl
  | ok result =>
    cases result with
    | opened | committed | rolledBack => rfl
    | schema schema observation =>
      unfold record
      simp only
      split <;> rfl
    | query query observation directDdl =>
      unfold record
      simp only
      split
      · cases directDdl <;> rfl
      · rfl
    | closed observation cleanupVerified => cases cleanupVerified <;> rfl

@[simp] theorem settle_id (operation : Operation) (unknown : Bool) (observation : BackendObservation)
    (p : PublishedHandle) : (settle operation unknown observation p).id = p.id := by
  cases unknown with
  | false => rfl
  | true => cases operation <;> rfl

/-- A request publishes snapshots of its own handle. -/
theorem Executed.id {rounds : ℕ} {config : Config} {operation : Operation} {ctx : RequestContext}
    {s t : Worker} {reply : Reply} (h : Executed rounds config operation ctx s reply t) :
    t.published.id = s.published.id := by
  cases h with
  | refused error ticked refusal => rw [ticked.published]
  | ran r free ticked returns same published =>
    rw [published.published, PublishedHandle.record_id, same]

/-- The snapshot a worker is about to publish. -/
def ThreadStage.unpublished : ThreadStage → Option PublishedHandle
  | .publishing _ _ _ published => some published
  | _ => none

/-- The request a worker has taken, and whose end is not published yet. -/
def ThreadStage.working : ThreadStage → Option (ℕ × Operation)
  | .serving call operation | .publishing call operation _ _ => some (call, operation)
  | _ => none

/-- The snapshot an open is about to publish. -/
def OpenStage.unpublished : OpenStage → Option PublishedHandle
  | .publishing _ published => some published
  | _ => none

/-- The snapshots of a station are those of its handle. -/
structure Station.Identified (x : Station) : Prop where
  published : x.entry.published.id = x.thread.handle
  unpublished : ∀ p, x.thread.stage.unpublished = some p → p.id = x.thread.handle

theorem Station.Identified.step {s : Server} {x y : Station} {a : Action} (h : x.Identified)
    (step : x.Step s a y) : y.Identified := by
  cases step with
  | admits | enqueue => exact ⟨h.published, h.unpublished⟩
  | take request rest stage =>
    refine ⟨h.published, fun p hp => ?_⟩
    cases request <;> cases hp
  | execute call operation env rounds result w stage runs =>
    refine ⟨h.published, ?_⟩
    rintro p ⟨⟩
    exact ((executeOperation_post ..).returns runs).id.trans h.published
  | record call operation result published stage =>
    exact ⟨h.unpublished published (by rw [stage]; rfl), fun p hp => by cases hp⟩
  | settle call operation result w stage settled =>
    subst settled
    exact ⟨(settle_id ..).trans h.published, fun p hp => by cases hp⟩
  | release closed stage =>
    refine ⟨h.published, fun p hp => ?_⟩
    cases closed <;> cases hp
  | reply | clean | close | report | leave | finish => exact ⟨h.published, fun p hp => by cases hp⟩
  | aside a y other key published admitted thread =>
    exact ⟨by rw [published, thread, h.published], by rw [thread]; exact h.unpublished⟩

namespace Server

variable {core : Core} {s t : Server} {id : String} {x y : Station} {l : Label} {ls : List Label}

/-- An open publishes a snapshot of its own handle. -/
def Attributed (s : Server) : Prop :=
  ∀ k c p, s.opens.lookup k = some c → c.stage.unpublished = some p → p.id = c.reservation.id

theorem Attributed.setOpen (h : s.Attributed) {k : ℕ} {c : OpenCall} {stage : OpenStage}
    (call : s.opens.lookup k = some c)
    (own : ∀ p, stage.unpublished = some p → p.id = c.reservation.id) :
    (s.setOpen k stage).Attributed := by
  intro k' d p hd hp
  rcases lookup_setOpen call hd with ⟨rfl, rfl⟩ | ⟨-, hold⟩
  · exact own p hp
  · exact h k' d p hold hp

theorem Attributed.step (h : s.Attributed) {a : Action} (step : Step core s a t) : t.Attributed := by
  cases ha : a.isOpen with
  | false =>
    intro k c p hc hp
    obtain ⟨d, hd, hcore⟩ := Table.exists_of_view (step.frames ha).opens hc
    simp only [OpenCall.core, Prod.mk.injEq] at hcore
    rw [← hcore.1]
    exact h k d p hd (hcore.2.2 ▸ hp)
  | true =>
    cases step with
    | reserved k profile reservation r free fresh result =>
      intro k' d p hd hp
      change (s.opens.insert k _).lookup k' = some d at hd
      rw [Table.lookup_insert] at hd
      split at hd
      · cases hd
        cases hp
      · exact h k' d p hd hp
    | unreserved => exact h
    | «open» k c stage call moves =>
      refine h.setOpen call fun p hp => ?_
      cases stage with
      | publishing config published => exact absurd rfl (moves.started.2 config published)
      | _ => cases hp
    | spawn k c config database backend call stage =>
      have hset : (s.setOpen k (.publishing config (c.snapshot database backend))).Attributed := by
        refine h.setOpen call ?_
        rintro p ⟨⟩
        rfl
      exact hset
    | published k c config published r free call =>
      exact Attributed.setOpen (s := s.setRegistry r) h call fun p hp => by cases hp
    | unpublished k c config published free call => exact h.setOpen call fun p hp => by cases hp
    | dismiss k c call stage =>
      split
      · exact Attributed.setOpen (s := s.setThread k _) h call fun p hp => by cases hp
      · exact h.setOpen call fun p hp => by cases hp
    | finishOpen k c refusal backend free call stage =>
      exact Attributed.setOpen (s := s.setRegistry _) h call fun p hp => by cases hp
    | _ => cases ha

theorem attributed_of_run (run : Run (Acts core) new ls s) : s.Attributed :=
  run.invariant (I := Attributed) (G := fun _ => True) (fun _ _ _ hs _ hl => hs.step hl.2.2)
    (fun _ _ => trivial) fun k c p hc => by simp [new] at hc

/-- What a step that registers a handle does to the registry. -/
theorem Step.registered {k : ℕ} (h : Step core s (.publish k true) t) :
    ∃ c config p, s.opens.lookup k = some c ∧ c.stage = .publishing config p ∧
      t.registry.handles = s.registry.handles.insert c.reservation.id
        { published := p, profile := c.profile, config := config, sender := k, join := some k,
          admitted := 0 } := by
  cases h with
  | published _ c config p r free call stage result =>
    unfold Registry.publishOpen at result
    split_ifs at result
    cases result
    exact ⟨c, config, p, call, stage, rfl⟩

/-- The step that registers a handle, and the snapshot it is registered with. -/
theorem Step.arrival (hs : s.Sound) {a : Action} (h : Step core s a t)
    (absent : s.registry.handles.lookup id = none) (hx : t.Hosts id x) :
    ∃ k c config, a = .publish k true ∧ s.opens.lookup k = some c ∧ c.reservation.id = id ∧
      c.stage = .publishing config x.entry.published := by
  obtain ⟨rfl, -⟩ := h.registers hs absent hx
  obtain ⟨c, config, p, call, stage, handles⟩ := h.registered
  have hentry := hx.entry
  rw [handles, Table.lookup_insert] at hentry
  split at hentry
  · next heq =>
    rw [Option.some.injEq] at hentry
    exact ⟨_, c, config, rfl, call, heq.symm, by rw [stage, ← hentry]⟩
  · rw [absent] at hentry
    cases hentry

/-- What holds of a handle when it is registered, and is kept by the steps of its station,
holds of every handle and its history. -/
theorem Hosts.chronicle {P : List Label → Station → Prop} (run : Run (Acts core) new ls s)
    (hnew : ∀ l ∈ ls, l.NewId)
    (registers : ∀ ls l x, Run (Acts core) new ls l.before → (∀ l' ∈ ls ++ [l], l'.NewId) →
      Step core l.before l.action l.after → l.before.registry.handles.lookup id = none →
      l.after.Hosts id x → P (ls ++ [l]) x)
    (steps : ∀ ls l x y, Run (Acts core) new ls l.before → (∀ l' ∈ ls, l'.NewId) →
      Step core l.before l.action l.after → Visits id x l y → P ls x → P (ls ++ [l]) y)
    (hx : s.Hosts id x) : P ls x := by
  induction run generalizing x with
  | nil =>
    have := hx.entry
    simp [new, Registry.new] at this
  | @snoc t u ls l run last ih =>
    have hpre : ∀ l ∈ ls, l.NewId := fun l hl => hnew l (List.mem_append_left _ hl)
    have ht := sound_new.run run hpre
    obtain ⟨rfl, rfl, h⟩ := last
    cases hlookup : l.before.registry.handles.lookup id with
    | none => exact registers ls l x run hnew h hlookup hx
    | some entry =>
      obtain ⟨thread, hy⟩ := ht.staffed.hosts hlookup
      obtain ⟨z, hz, step⟩ := h.station ht.booked ht.staffed hy
      rw [hx.unique hz]
      exact steps ls l _ z run hpre h ⟨hy, hz, ht, step⟩ (ih hpre hy)

/-- The snapshots of every station are those of its handle. -/
theorem identified_of_run (run : Run (Acts core) new ls s) (hnew : ∀ l ∈ ls, l.NewId)
    (hx : s.Hosts id x) : x.Identified := by
  refine hx.chronicle (P := fun _ x => x.Identified) run hnew ?_ ?_
  · intro ls l x run hnew step absent hx
    have before := sound_new.run run fun l' hl' => hnew l' (List.mem_append_left _ hl')
    have after := before.step ⟨rfl, rfl, step⟩ (hnew l (by simp))
    obtain ⟨-, hfresh⟩ := step.registers before absent hx
    obtain ⟨k, c, config, -, call, own, stage⟩ := step.arrival before absent hx
    refine ⟨?_, by rw [hfresh.idle]; nofun⟩
    rw [hx.handle after.booked after.staffed, ← own]
    exact attributed_of_run run k c x.entry.published call (by rw [stage]; rfl)
  · exact fun ls l x y run hnew step visit h => h.step visit.step

/-- A registered handle is shown under its own id. -/
theorem published_id (run : Run (Acts core) new ls s) (hnew : ∀ l ∈ ls, l.NewId)
    {entry : WorkerEntry} (present : s.registry.handles.lookup id = some entry) :
    entry.published.id = id := by
  have hs := sound_new.run run hnew
  obtain ⟨thread, hx⟩ := hs.staffed.hosts present
  exact (identified_of_run run hnew hx).published.trans (hx.handle hs.booked hs.staffed)

/-! ### The history of a handle -/

/-- What is published of a handle in a step. -/
inductive Label.Publishes (id : String) (l : Label) : PublishedHandle → Prop where
  | opened (k : ℕ) (c : OpenCall) (config : Config) (p : PublishedHandle)
      (action : l.action = .publish k true) (call : l.before.opens.lookup k = some c)
      (own : c.reservation.id = id) (stage : c.stage = .publishing config p) : Publishes id l p
  | recorded (x : Station) (call : ℕ) (operation : Operation) (result : Reply)
      (p : PublishedHandle) (hosts : l.before.Hosts id x) (action : l.action = .record x.entry.sender)
      (stage : x.thread.stage = .publishing call operation result p) : Publishes id l p
  | settled (x : Station) (call : ℕ) (operation : Operation) (result : Reply)
      (hosts : l.before.Hosts id x) (action : l.action = .settle x.entry.sender)
      (stage : x.thread.stage = .settling call operation result) :
      Publishes id l (x.worker.settled operation result).published
  | closed (x : Station) (hosts : l.before.Hosts id x) (action : l.action = .close x.entry.sender) :
      Publishes id l x.entry.published.publishClosed

/-- The open of a handle succeeds in a step. -/
def Label.Opens (id : String) (l : Label) : Prop :=
  ∃ k c, l.action = .publish k true ∧ l.before.opens.lookup k = some c ∧ c.reservation.id = id

/-- A handle is closed in a step: by a close that has succeeded, or by the shutdown of its worker. -/
inductive Label.Ends (id : String) (l : Label) : Prop where
  | verified (x : Station) (call : ℕ) (operation : Operation) (result : Reply)
      (p : PublishedHandle) (hosts : l.before.Hosts id x) (action : l.action = .record x.entry.sender)
      (stage : x.thread.stage = .publishing call operation result p)
      (succeeded : closeSucceeded operation result = true) : Ends id l
  | shutdown (x : Station) (hosts : l.before.Hosts id x)
      (action : l.action = .close x.entry.sender) : Ends id l

/-- The last snapshot published of a handle. -/
def LastPublished (id : String) (ls : List Label) (p : PublishedHandle) : Prop :=
  ∃ pre l post, ls = pre ++ l :: post ∧ l.Publishes id p ∧ ∀ l' ∈ post, ∀ q, ¬ l'.Publishes id q

/-- The handles whose open has succeeded, and that have not been closed. -/
def Live (ls : List Label) (id : String) : Prop :=
  (∃ l ∈ ls, l.Opens id) ∧ ∀ l ∈ ls, ¬ l.Ends id

theorem LastPublished.snoc {p : PublishedHandle} (h : LastPublished id ls p)
    (quiet : ∀ q, ¬ l.Publishes id q) : LastPublished id (ls ++ [l]) p := by
  obtain ⟨pre, l₀, post, rfl, publishes, rest⟩ := h
  refine ⟨pre, l₀, post ++ [l], by simp, publishes, fun l' hl' => ?_⟩
  rcases List.mem_append.mp hl' with hmem | hmem
  · exact rest l' hmem
  · rw [List.mem_singleton] at hmem
    exact hmem ▸ quiet

theorem Label.Publishes.last {p : PublishedHandle} (h : l.Publishes id p) (ls : List Label) :
    LastPublished id (ls ++ [l]) p := ⟨ls, l, [], rfl, h, by simp⟩

/-- A step that publishes something is one of these. -/
theorem Label.Publishes.action {p : PublishedHandle} (h : l.Publishes id p) :
    l.action.publishing = true := by
  cases h with
  | opened k c config p action | recorded x call operation result p hosts action
  | settled x call operation result hosts action | closed x hosts action =>
    rw [action]
    rfl

/-- What is published of a registered handle its own worker publishes. -/
theorem Label.Publishes.own {p : PublishedHandle} (h : l.Publishes id p) (hx : l.before.Hosts id x)
    (hb : l.before.Booked) : l.action.thread = some x.entry.sender := by
  cases h with
  | opened k c config p action call own stage =>
    refine absurd ?_ (hb.unregistered call (by rw [stage]; rfl))
    rw [own]
    exact Table.mem_of_lookup hx.entry
  | recorded y call operation result p hosts action | settled y call operation result hosts action
  | closed y hosts action =>
    rw [action, hosts.unique hx]
    rfl

/-- A step that closes a handle is one of its worker, which publishes. -/
theorem Label.Ends.own (h : l.Ends id) : ∃ x : Station, l.before.Hosts id x ∧
    l.action.thread = some x.entry.sender ∧ l.action.publishing = true := by
  cases h with
  | verified x call operation result p hosts action =>
    exact ⟨x, hosts, by rw [action]; rfl, by rw [action]; rfl⟩
  | shutdown x hosts action => exact ⟨x, hosts, by rw [action]; rfl, by rw [action]; rfl⟩

/-- The snapshot in the entry of a handle after a step is the one that was published in it. -/
theorem Visits.published (visit : Visits id x l y) :
    l.Publishes id y.entry.published ∨
      (y.entry.published = x.entry.published ∧ ∀ p, ¬ l.Publishes id p) := by
  have step := visit.step
  have hbefore := visit.before
  have hb := visit.sound.booked
  obtain ⟨a, s, t⟩ := l
  change x.Step s a y at step
  have quiet : y.entry.published = x.entry.published → a.publishing = false →
      Label.Publishes id ⟨a, s, t⟩ y.entry.published ∨
        (y.entry.published = x.entry.published ∧ ∀ p, ¬ Label.Publishes id ⟨a, s, t⟩ p) := by
    refine fun same hquiet => .inr ⟨same, fun p hp => ?_⟩
    have haction : a.publishing = true := hp.action
    rw [hquiet] at haction
    cases haction
  cases step with
  | record call operation result published stage =>
    exact .inl (.recorded x call operation result published hbefore rfl stage)
  | settle call operation result w stage settled =>
    subst settled
    exact .inl (.settled x call operation result hbefore rfl stage)
  | close entry reply stage => exact .inl (.closed x hbefore rfl)
  | aside a y other key published admitted thread =>
    exact .inr ⟨published, fun p hp => other (hp.own hbefore hb)⟩
  | _ => exact quiet rfl rfl

/-- What is registered of a handle is what was published of it last. -/
theorem lastPublished_of_run (run : Run (Acts core) new ls s) (hnew : ∀ l ∈ ls, l.NewId)
    (hx : s.Hosts id x) : LastPublished id ls x.entry.published := by
  refine hx.chronicle (P := fun ls x => LastPublished id ls x.entry.published) run hnew ?_ ?_
  · intro ls l x run hnew step absent hx
    have before := sound_new.run run fun l' hl' => hnew l' (List.mem_append_left _ hl')
    obtain ⟨k, c, config, action, call, own, stage⟩ := step.arrival before absent hx
    exact Label.Publishes.last (.opened k c config _ action call own stage) ls
  · intro ls l x y run hnew step visit h
    rcases visit.published with publishes | ⟨same, quiet⟩
    · exact publishes.last ls
    · rw [same]
      exact h.snoc quiet

/-- The worker of a handle is registered where it takes a step, and from there on. -/
theorem Hosts.registered_after (hx : l.before.Hosts id x) (run : Run (Acts core) new ls s)
    (hnew : ∀ l ∈ ls, l.NewId) (hl : l ∈ ls) : id ∈ s.registry.handles := by
  obtain ⟨pre, post, t, t', rfl, before, ⟨rfl, rfl, step⟩, after⟩ := run.mem_step hl
  obtain ⟨y, hy, -⟩ := hx.run (.cons ⟨rfl, rfl, step⟩ after)
    (sound_new.run before fun l' hl' => hnew l' (List.mem_append_left _ hl'))
    (fun l' hl' => hnew l' (List.mem_append_right _ hl'))
  exact Table.mem_of_lookup hy.entry

/-- The handles that were opened are the registered ones. -/
theorem registered_iff (run : Run (Acts core) new ls s) (hnew : ∀ l ∈ ls, l.NewId) :
    id ∈ s.registry.handles ↔ ∃ l ∈ ls, l.Opens id := by
  constructor
  · intro hmem
    obtain ⟨entry, present⟩ := Option.isSome_iff_exists.mp (AList.lookup_isSome.mpr hmem)
    obtain ⟨thread, hx⟩ := (sound_new.run run hnew).staffed.hosts present
    refine hx.chronicle (P := fun ls _ => ∃ l ∈ ls, l.Opens id) run hnew ?_ ?_
    · intro ls l x run hnew step absent hx
      have before := sound_new.run run fun l' hl' => hnew l' (List.mem_append_left _ hl')
      obtain ⟨k, c, config, action, call, own, -⟩ := step.arrival before absent hx
      exact ⟨l, by simp, k, c, action, call, own⟩
    · rintro ls l x y - - - - ⟨l', hl', opens⟩
      exact ⟨l', List.mem_append_left _ hl', opens⟩
  · rintro ⟨l, hl, k, c, action, call, rfl⟩
    obtain ⟨pre, post, t, t', rfl, before, ⟨rfl, rfl, step⟩, after⟩ := run.mem_step hl
    rw [action] at step
    obtain ⟨c', config, p, call', -, handles⟩ := step.registered
    rw [call, Option.some.injEq] at call'
    subst call'
    have hs := (sound_new.run before fun l' hl' => hnew l' (List.mem_append_left _ hl')).step
      ⟨rfl, rfl, action ▸ step⟩ (hnew l hl)
    have hentry : l.after.registry.handles.lookup c.reservation.id = some
        { published := p, profile := c.profile, config := config, sender := k, join := some k,
          admitted := 0 } := by
      rw [handles, AList.lookup_insert]
    obtain ⟨thread, hx⟩ := hs.staffed.hosts hentry
    obtain ⟨y, hy, -⟩ := hx.run after hs fun l' hl' =>
      hnew l' (List.mem_append_right _ (List.mem_cons_of_mem _ hl'))
    exact Table.mem_of_lookup hy.entry

/-- A step closes a handle exactly when it ends it. -/
theorem Visits.closed {w₀ w : Worker} {served : List Served} {sent : List Reply}
    (visit : Visits id x l y) (h : x.Serial w₀ w served sent) :
    y.entry.published.closed = true ↔ x.entry.published.closed = true ∨ l.Ends id := by
  have hcontinues := h.continues
  have step := visit.step
  have hbefore := visit.before
  obtain ⟨a, s, t⟩ := l
  change x.Step s a y at step
  have quiet : ¬ Label.Ends id ⟨a, s, t⟩ →
      y.entry.published.closed = x.entry.published.closed → (y.entry.published.closed = true ↔
        x.entry.published.closed = true ∨ Label.Ends id ⟨a, s, t⟩) := fun hends same => by
    rw [same, or_iff_left hends]
  -- what publishes no snapshot ends no handle
  have silent : a.publishing = false → ¬ Label.Ends id ⟨a, s, t⟩ := by
    intro hquiet hends
    obtain ⟨-, -, -, haction⟩ := hends.own
    change a.publishing = true at haction
    rw [hquiet] at haction
    cases haction
  cases step with
  -- a close that succeeds is the one operation that publishes a closed snapshot
  | record call operation result published stage =>
    unfold Station.Continues at hcontinues
    rw [stage] at hcontinues
    obtain ⟨hsame, hexecutes⟩ := hcontinues
    have hclosed : published.closed = closeSucceeded operation result := hexecutes.closed
    have hlive : x.entry.published.closed = false := hsame ▸ hexecutes.1
    rw [hlive]
    show published.closed = true ↔ _
    rw [hclosed]
    constructor
    · exact fun succeeded => .inr (.verified x call operation result published hbefore rfl stage succeeded)
    · rintro (hfalse | hends)
      · cases hfalse
      · cases hends with
        | verified z call' operation' result' p hosts action stage' succeeded =>
          rw [hosts.unique hbefore, stage] at stage'
          cases stage'
          exact succeeded
        | shutdown z hosts action => cases action
  | close entry reply stage => exact iff_of_true rfl (.inr (.shutdown x hbefore rfl))
  -- settling keeps the closed flag
  | settle call operation result w stage settled =>
    subst settled
    refine quiet (fun hends => ?_) (settle_closed ..)
    cases hends with
    | verified z call operation result p hosts action | shutdown z hosts action => cases action
  | aside a y other key published admitted thread =>
    refine quiet (fun hends => ?_) (congrArg PublishedHandle.closed published)
    obtain ⟨z, hz, hself, -⟩ := hends.own
    exact other (hbefore.unique hz ▸ hself)
  | _ => exact quiet (silent rfl) rfl

/-- A handle is closed when a step has ended it. -/
theorem closed_iff_ended (run : Run (Acts core) new ls s) (hnew : ∀ l ∈ ls, l.NewId)
    (hx : s.Hosts id x) : x.entry.published.closed = true ↔ ∃ l ∈ ls, l.Ends id := by
  refine hx.chronicle (P := fun ls x => x.entry.published.closed = true ↔ ∃ l ∈ ls, l.Ends id) run hnew
    ?_ ?_
  · intro ls l x run hnew step absent hx
    have hpre : ∀ l' ∈ ls, l'.NewId := fun l' hl' => hnew l' (List.mem_append_left _ hl')
    obtain ⟨-, hfresh⟩ := step.registers (sound_new.run run hpre) absent hx
    refine iff_of_false (by rw [hfresh.worker.live]; nofun) ?_
    rintro ⟨l', hl', hends⟩
    obtain ⟨z, hz, -⟩ := hends.own
    rcases List.mem_append.mp hl' with hmem | hmem
    · have hregistered := hz.registered_after run hpre hmem
      rw [← AList.lookup_isSome, absent] at hregistered
      cases hregistered
    · rw [List.mem_singleton] at hmem
      subst hmem
      rw [hz.entry] at absent
      cases absent
  · intro ls l x y run hnew step visit h
    obtain ⟨w₀, w, served, hserial⟩ := serial_of_run run hnew visit.before
    rw [visit.closed hserial, h]
    constructor
    · rintro (⟨l', hl', hends⟩ | hends)
      · exact ⟨l', List.mem_append_left _ hl', hends⟩
      · exact ⟨l, by simp, hends⟩
    · rintro ⟨l', hl', hends⟩
      rcases List.mem_append.mp hl' with hmem | hmem
      · exact .inl ⟨l', hmem, hends⟩
      · rw [List.mem_singleton] at hmem
        exact .inr (hmem ▸ hends)

/-! ### The listing -/

/-- A listing of the live handles: the lock is there to take, and every live handle is listed
once, in the order of the ids, with the last snapshot published of it. -/
structure ListsLive (ls : List Label) (s : Server) : Prop where
  free : s.stuck = false
  ordered : (s.registry.listHandles.map HandleState.handle).Pairwise (· < ·)
  live : ∀ id, id ∈ s.registry.listHandles.map HandleState.handle ↔ Live ls id
  shown : ∀ state ∈ s.registry.listHandles,
    ∃ p, LastPublished state.handle ls p ∧ state = p.state

/-- The handles that were opened are listed in the order of their ids. -/
theorem lists_of_run (run : Run (Acts core) new ls s) (hnew : ∀ l ∈ ls, l.NewId) :
    s.registry.listHandles.map HandleState.handle = s.registry.handles.sortedKeys := by
  unfold Registry.listHandles
  rw [List.map_map]
  exact Table.map_values fun id entry present => published_id run hnew present

theorem listed_iff (run : Run (Acts core) new ls s) (hnew : ∀ l ∈ ls, l.NewId) :
    id ∈ s.registry.listHandles.map HandleState.handle ↔ ∃ l ∈ ls, l.Opens id := by
  rw [lists_of_run run hnew, Table.mem_sortedKeys]
  exact registered_iff run hnew

/-- A handle is listed with the last snapshot published of it. -/
theorem shown_last (run : Run (Acts core) new ls s) (hnew : ∀ l ∈ ls, l.NewId) :
    ∀ state ∈ s.registry.listHandles, ∃ p, LastPublished state.handle ls p ∧ state = p.state := by
  intro state hstate
  obtain ⟨entry, hentry, rfl⟩ := List.mem_map.mp hstate
  obtain ⟨id, present⟩ := Table.mem_values.mp hentry
  obtain ⟨thread, hx⟩ := (sound_new.run run hnew).staffed.hosts present
  refine ⟨entry.published, ?_, rfl⟩
  have hid : entry.published.state.handle = id := published_id run hnew present
  rw [hid]
  exact lastPublished_of_run run hnew hx

/-- The lock is lost where there is a closed handle only. -/
theorem Step.sticks {a : Action} (h : Step core s a t) (stuck : t.stuck = true) :
    s.stuck = true ∨ ∃ id, s.registry.Closed id := by
  cases h with
  | stuck n c free call stage never =>
    refine .inr ⟨c.handle, ?_⟩
    by_contra hlive
    exact never ((dispatchAdmit_terminates_iff _).mpr fun h => hlive h.2)
  | dismiss =>
    split at stuck <;> exact .inl stuck
  | _ => exact .inl stuck

/-- As long as no handle is closed the lock is there to take. -/
theorem free_of_run (run : Run (Acts core) new ls s) (hnew : ∀ l ∈ ls, l.NewId)
    (hopen : ∀ id, ∀ l ∈ ls, ¬ l.Ends id) : s.stuck = false := by
  induction run with
  | nil => rfl
  | @snoc t u ls l run last ih =>
    have hpre : ∀ l ∈ ls, l.NewId := fun l hl => hnew l (List.mem_append_left _ hl)
    have hopen' : ∀ id, ∀ l ∈ ls, ¬ l.Ends id := fun id l hl => hopen id l (List.mem_append_left _ hl)
    by_contra hstuck
    rw [Bool.not_eq_false] at hstuck
    rcases last.2.2.sticks hstuck with hbefore | ⟨id, entry, present, hclosed⟩
    · rw [ih hpre hopen'] at hbefore
      cases hbefore
    · obtain ⟨thread, hx⟩ := (sound_new.run run hpre).staffed.hosts present
      obtain ⟨l', hl', hends⟩ := (closed_iff_ended run hpre hx).mp hclosed
      exact hopen' id l' hl' hends

/-- A handle that a step of a run has ended was opened in it. -/
theorem Label.Ends.opened {l : Label} (h : l.Ends id) (run : Run (Acts core) new ls s)
    (hnew : ∀ l ∈ ls, l.NewId) (hl : l ∈ ls) : ∃ l' ∈ ls, l'.Opens id := by
  obtain ⟨x, hx, -⟩ := h.own
  exact (registered_iff run hnew).mp (hx.registered_after run hnew hl)

/-- In every run that gives no id twice the live handles are what is listed, each once, in the
order of the ids and with its last snapshot, exactly as long as no handle is closed. -/
theorem listsLive_iff (run : Run (Acts core) new ls s) (hnew : ∀ l ∈ ls, l.NewId) :
    ListsLive ls s ↔ ∀ id, ∀ l ∈ ls, ¬ l.Ends id := by
  constructor
  · intro h id l hl hends
    have hlisted := (listed_iff run hnew).mpr (hends.opened run hnew hl)
    exact ((h.live id).mp hlisted).2 l hl hends
  · intro hopen
    refine ⟨free_of_run run hnew hopen, ?_, fun id => ?_, shown_last run hnew⟩
    · rw [lists_of_run run hnew]
      exact Table.pairwise_sortedKeys _
    · rw [listed_iff run hnew]
      exact ⟨fun h => ⟨h, hopen id⟩, fun h => h.1⟩

/-- A handle that was just opened is listed. -/
theorem listsLive_opened : ∃ ls s, Run (Acts localProfile) new ls s ∧ ListsLive ls s ∧
    handleName 1 ∈ s.registry.handles := by
  obtain ⟨ls, run, hcount, hopens⟩ := run_open (admits_new (by decide) localProfile_admissionConfig)
  have hnew := newId_of_run run (by rw [hcount, u64Max_eq]; decide)
  refine ⟨ls, _, run, (listsLive_iff run hnew).mpr fun id l hl hends => ?_,
    (AList.mem_insert _).mpr (.inl rfl)⟩
  have hopen := hopens l hl
  obtain ⟨x, -, hself, -⟩ := hends.own
  cases haction : l.action <;> rw [haction] at hopen hself <;> cases hopen <;> cases hself

/-- A handle that is closed is still listed. -/
theorem closed_listed : ¬ ∀ (core : Core) (ls : List Label) (s : Server), Run (Acts core) new ls s →
    ListsLive ls s := by
  intro h
  obtain ⟨ls, s, entry, thread, run, hcount, hserving, hclosed⟩ :=
    run_openClose (by decide : "local" ≠ "") localProfile_admissionConfig
  have hnew := newId_of_run run (by rw [hcount, u64Max_eq]; decide)
  have hx : s.Hosts (handleName 1) ⟨entry, thread⟩ := ⟨hserving.present, hserving.worker⟩
  obtain ⟨l, hl, hends⟩ := (closed_iff_ended run hnew hx).mp hclosed
  have hlisted := (listed_iff run hnew).mpr (hends.opened run hnew hl)
  exact (((h _ ls s run).live _).mp hlisted).2 l hl hends

/-! ### While a request is served -/

/-- A snapshot of a handle that a call gets: from the listing, from a request that is not
admitted, or from a request whose reply is lost. -/
inductive Shows (s : Server) (id : String) (state : HandleState) : Prop where
  | listed (free : s.stuck = false) (mem : state ∈ s.registry.listHandles) (own : state.handle = id)
  | refused (failure : CoreFailure) (r : Registry) (free : s.stuck = false)
      (result : (dispatchAdmit s.trySend id).Returns (.free s.registry) (.error failure) (.free r))
      (shown : failure.handleState = some state)
  | lost (error : CoreError) (failure : CoreFailure) (free : s.stuck = false)
      (result : (CoreFailure.forHandle id error).Returns (.free s.registry) (.ok failure)
        (.free s.registry))
      (shown : failure.handleState = some state)

/-- Every call shows the snapshot in the registry. -/
theorem Shows.current {state : HandleState} (h : s.Shows id state)
    (run : Run (Acts core) new ls s) (hnew : ∀ l ∈ ls, l.NewId) (hx : s.Hosts id x) :
    state = x.entry.published.state := by
  have hentry : ∀ {entry : WorkerEntry}, s.registry.handles.lookup id = some entry → x.entry = entry :=
    fun present => Option.some.inj (hx.entry.symm.trans present)
  cases h with
  | listed free mem own =>
    obtain ⟨entry, hmem, rfl⟩ := List.mem_map.mp mem
    obtain ⟨id', present⟩ := Table.mem_values.mp hmem
    have hid : entry.published.state.handle = id' := published_id run hnew present
    rw [hentry (own ▸ hid ▸ present)]
  | refused failure r free result shown =>
    obtain ⟨r', -, hadmission⟩ := Admission.of_returns result
    cases hadmission with
    | stopping | unknown => cases shown
    | busy entry running present | rejected entry code running present =>
      rw [hentry present]
      exact (Option.some.inj shown).symm
  | lost error failure free result shown =>
    have hreturns : (CoreFailure.forHandle id error).Returns (.free s.registry)
        (.ok { error := error, handleState := s.registry.currentState id, sqlstate := none,
               outcomeUnknown := error.outcomeUnknown }) (.free s.registry) := rfl
    have hsame := hreturns.symm.trans result
    cases hsame
    have hcurrent : s.registry.currentState id = some x.entry.published.state := by
      unfold Registry.currentState
      rw [hx.entry]
      rfl
    exact Option.some.inj (shown.symm.trans hcurrent)

/-- The worker has taken a request, and has not published its end. -/
def Working (request : ℕ × Operation) (x : Station) : Prop :=
  x.thread.stage.working = some request

/-- Nothing is published of a handle before the end of the request its worker has taken. -/
theorem Working.step {request : ℕ × Operation} {a : Action} (h : Working request x)
    (step : x.Step s a y) (unpublished : a ≠ .record x.entry.sender) :
    Working request y ∧ y.entry.published = x.entry.published ∧
      y.entry.sender = x.entry.sender := by
  unfold Working at h
  cases step with
  | admits | enqueue => exact ⟨h, rfl, rfl⟩
  | execute call operation env rounds result w stage =>
    rw [stage] at h
    exact ⟨h, rfl, rfl⟩
  | record => exact absurd rfl unpublished
  | take request rest stage | settle call operation result w stage | reply call closed reply stage
  | release closed stage | clean reply env rounds result backend stage | close entry reply stage
  | report entry reply stage | leave stage | finish stage =>
    rw [stage] at h
    cases h
  | aside a y other key published admitted thread =>
    exact ⟨by unfold Working; rw [thread]; exact h, published, WorkerEntry.sender_of_key key⟩

theorem Working.run {request : ℕ × Operation} (h : Working request x)
    (run : Run (Visits id) x ls y) (unpublished : ∀ l ∈ ls, l.action ≠ .record x.entry.sender) :
    Working request y ∧ y.entry.published = x.entry.published ∧
      y.entry.sender = x.entry.sender :=
  run.invariant
    (I := fun y => Working request y ∧ y.entry.published = x.entry.published ∧
      y.entry.sender = x.entry.sender)
    (G := fun l => l.action ≠ .record x.entry.sender)
    (fun y l z hy hl visit => by
      obtain ⟨hworking, hpublished, hsender⟩ := hy
      obtain ⟨hworking', hpublished', hsender'⟩ := hworking.step visit.step (hsender ▸ hl)
      exact ⟨hworking', hpublished'.trans hpublished, hsender'.trans hsender⟩)
    unpublished ⟨h, rfl, rfl⟩

/-- What the lifecycle checks let pass, but a close, has a known transaction status. -/
theorem transactionOpen_of_precondition {p : PublishedHandle} {operation : Operation}
    (passes : operationPrecondition p operation = none) (hop : operation ≠ .close) :
    p.state.transactionOpen ≠ none := by
  have hlive : p.closed = false := by
    unfold operationPrecondition at passes
    cases hclosed : p.closed with
    | false => rfl
    | true =>
      rw [hclosed] at passes
      cases passes
  have hstate : p.state.transactionOpen = p.observation.transactionStatus.transactionOpen := by
    unfold PublishedHandle.state
    rw [hlive]
    rfl
  rw [hstate]
  unfold operationPrecondition at passes
  rw [hlive] at passes
  cases hstatus : p.observation.transactionStatus with
  | idle | inTransaction | inError => nofun
  | active | unknown =>
    rw [hstatus] at passes
    cases operation with
    | close => exact absurd rfl hop
    | getSchema | commit | rollback => cases passes
    | openRead | openWrite | query =>
      cases hobserved : p.schemaObserved <;> rw [hobserved] at passes <;> cases passes

/-- While its worker has a request, up to the publication of its end, a handle is shown with the
snapshot that was published before; other than for a close it says whether a transaction is
open. -/
theorem shows_of_run {post : List Label} {call : ℕ} {operation : Operation} {state : HandleState}
    (run : Run (Acts core) new ls s) (hx : s.Hosts id x)
    (stage : x.thread.stage = .serving call operation) (later : Run (Acts core) s post t)
    (hnew : ∀ l ∈ ls ++ post, l.NewId) (unpublished : ∀ l ∈ post, l.action ≠ .record x.entry.sender)
    (shows' : t.Shows id state) :
    state = x.entry.published.state ∧
      (operation ≠ .close → operationPrecondition x.entry.published operation = none →
        state.transactionOpen ≠ none) := by
  have hs := sound_new.run run fun l hl => hnew l (List.mem_append_left _ hl)
  obtain ⟨y, hy, visits⟩ := hx.run later hs fun l hl => hnew l (List.mem_append_right _ hl)
  have hworking : Working (call, operation) x := by
    unfold Working
    rw [stage]
    rfl
  obtain ⟨-, hpublished, -⟩ := hworking.run visits unpublished
  have hstate := shows'.current (run.append later) hnew hy
  rw [hpublished] at hstate
  refine ⟨hstate, fun hop passes => ?_⟩
  rw [hstate]
  exact transactionOpen_of_precondition passes hop

/-- The worker of a handle that was just opened has taken a request. -/
theorem run_taken (operation : Operation) : ∃ ls s x, Run (Acts localProfile) new ls s ∧
    (∀ l ∈ ls, l.NewId) ∧ s.Hosts (handleName 1) x ∧ s.stuck = false ∧
    s.registry.lifecycle = .running ∧ x.entry.published = new.freshSnapshot ∧
    x.thread = { new.freshThread Config.default with stage := .serving 0 operation } := by
  have hadmits := admits_new (by decide : "local" ≠ "") localProfile_admissionConfig
  obtain ⟨ls₁, run₁, hcount₁, -⟩ := run_open hadmits
  obtain ⟨ls₂, t, run₂, hcount₂, -, hserving, -⟩ := hadmits.atRest.admitCall localProfile (n := 0)
    (AList.notMem_empty _) operation
  obtain ⟨u, step, hserving'⟩ := hserving.take localProfile rfl rfl
  refine ⟨_, u, ⟨_, _⟩, (run₁.append run₂).append step.run, ?_, ⟨hserving'.present, hserving'.worker⟩,
    hserving'.free, hserving'.running, rfl, rfl⟩
  refine newId_of_run ((run₁.append run₂).append step.run) ?_
  unfold reservations at hcount₁ hcount₂ ⊢
  rw [List.countP_append, List.countP_append, hcount₁, hcount₂, u64Max_eq]
  exact Nat.le_of_ble_eq_true rfl

/-- The handle whose worker inspects the schema is listed as it was opened. -/
theorem shows_of_run_opened : ∃ ls s x state, Run (Acts localProfile) new ls s ∧
    s.Hosts (handleName 1) x ∧ x.thread.stage = .serving 0 .getSchema ∧
    s.Shows (handleName 1) state ∧ state = x.entry.published.state ∧
    state.transactionOpen ≠ none := by
  obtain ⟨ls, s, x, run, hnew, hx, free, -, published, thread⟩ := run_taken .getSchema
  have hstage : x.thread.stage = .serving 0 .getSchema := by rw [thread]
  have hpre : operationPrecondition x.entry.published .getSchema = none := by
    rw [published]
    rfl
  have hshows : s.Shows (handleName 1) x.entry.published.state := by
    refine .listed free (List.mem_map.mpr ⟨x.entry, Table.mem_values.mpr ⟨_, hx.entry⟩, rfl⟩) ?_
    rw [published]
    rfl
  obtain ⟨hstate, hopen⟩ := shows_of_run run hx hstage (.nil s) (by simpa using hnew) (by simp) hshows
  exact ⟨ls, s, x, _, run, hx, hstage, hshows, hstate, hopen (by decide) hpre⟩

/-- A handle whose backend is being closed is listed as idle. -/
theorem listed_idle : ¬ ∀ (core : Core) (ls post : List Label) (s t u : Server) (id : String)
    (x : Station) (call : ℕ) (operation : Operation) (env : Environment) (state : HandleState),
    Run (Acts core) new ls s → s.Hosts id x → x.thread.stage = .serving call operation →
    (x.worker.install env).refusal x.thread.config operation env.ctx = none →
    Step core s (.execute x.entry.sender env) t → Run (Acts core) t post u →
    (∀ l ∈ post, l.action ≠ .record x.entry.sender) → u.Shows id state →
    state.busy = true ∧ state.transactionOpen = none := by
  intro h
  obtain ⟨ls, s, x, run, hnew, hx, free, running, published, thread⟩ := run_taken .close
  have hstage : x.thread.stage = .serving 0 .close := by rw [thread]
  have hfree : (x.worker.install (.still [])).refusal x.thread.config .close
      (Environment.still []).ctx = none := by
    unfold Station.worker
    rw [published, thread]
    rfl
  obtain ⟨envelope, w, returns, -⟩ := execute_close x.thread.config
    (by rw [published]; rfl : x.entry.published.closed = false) (by rw [published]; rfl)
  have hs := sound_new.run run hnew
  obtain ⟨t, step, free', registry⟩ : ∃ t, Step localProfile s (.execute x.entry.sender (.still [])) t ∧
      t.stuck = false ∧ t.registry = s.registry :=
    ⟨_, .execute x.entry.sender x.thread 0 .close x.entry (.still []) 0 _ w free hx.thread hstage
      (by rw [hx.handle hs.booked hs.staffed]; exact hx.entry)
      (by rw [thread] at returns ⊢; exact returns), free, rfl⟩
  have hshows : t.Shows (handleName 1) x.entry.published.state := by
    refine .listed free' ?_ (by rw [published]; rfl)
    rw [registry]
    exact List.mem_map.mpr ⟨x.entry, Table.mem_values.mpr ⟨_, hx.entry⟩, rfl⟩
  obtain ⟨hbusy, -⟩ := h localProfile ls [] s t t (handleName 1) x 0 .close (.still []) _ run hx hstage
    hfree step (.nil _) (by simp) hshows
  rw [published] at hbusy
  cases hbusy

end Server

end PgMcp
