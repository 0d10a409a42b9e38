import PgMcp.Core.Server

/-!
# What the steps of a server leave alone

Requests, workers and shutdowns change the snapshots and the counters of the registered
handles, and the lifecycle.  They leave alone which handles are registered, by which open
and under which profile, the reservations, and how far the opens have come.

## Main definitions

* `WorkerEntry.key`, `OpenCall.core` — what of an entry and of an open is left alone.
* `Server.Frames` — nothing of that has changed.

## Main results

* `Server.Step.frames` — only the steps of opens change it.
-/

namespace PgMcp

open Program

/-- What of an entry stays as it was registered. -/
def WorkerEntry.key (entry : WorkerEntry) : String × Config × ℕ :=
  (entry.profile, entry.config, entry.sender)

/-- An open without its tokens. -/
def OpenCall.core (c : OpenCall) : Reservation × String × OpenStage :=
  (c.reservation, c.profile, c.stage)

namespace Registry

theorem view_modify (r : Registry) (handle : String) {f : WorkerEntry → WorkerEntry}
    (h : ∀ entry, (f entry).key = entry.key) :
    (r.modify handle f).handles.view WorkerEntry.key = r.handles.view WorkerEntry.key :=
  Table.view_modify fun entry _ => h entry

theorem view_publish (r : Registry) (handle : String) (f : PublishedHandle → PublishedHandle) :
    (r.publish handle f).handles.view WorkerEntry.key = r.handles.view WorkerEntry.key :=
  r.view_modify handle fun _ => rfl

end Registry

/-- An admission changes only the counter of its handle. -/
theorem Admission.frames {send : ℕ → TrySend} {r r' : Registry} {handle : String}
    {result : Except CoreFailure ℕ} (h : Admission send r handle result r') :
    r'.lifecycle = r.lifecycle ∧ r'.pendingOpens = r.pendingOpens ∧
      r'.nextHandle = r.nextHandle ∧ r'.frozenReport = r.frozenReport ∧
      r'.handles.view WorkerEntry.key = r.handles.view WorkerEntry.key := by
  cases h with
  | stopping | unknown | busy => exact ⟨rfl, rfl, rfl, rfl, rfl⟩
  | rejected entry code running present live free queue r' same =>
    subst same
    refine ⟨rfl, rfl, rfl, rfl, ?_⟩
    refine (Registry.view_modify _ handle ?_).trans (r.view_modify handle ?_) <;> exact fun _ => rfl
  | sent => exact ⟨rfl, rfl, rfl, rfl, r.view_modify handle fun _ => rfl⟩

/-- The steps of opens. -/
def Action.isOpen : Action → Bool
  | .reserve .. | .open .. | .spawn .. | .publish .. | .dismiss .. | .finishOpen .. => true
  | _ => false

namespace Server

/-- The handles, the reservations and the opens are as they were. -/
structure Frames (s t : Server) : Prop where
  pending : t.registry.pendingOpens = s.registry.pendingOpens
  next : t.registry.nextHandle = s.registry.nextHandle
  handles : t.registry.handles.view WorkerEntry.key = s.registry.handles.view WorkerEntry.key
  opens : t.opens.view OpenCall.core = s.opens.view OpenCall.core

theorem Frames.refl (s : Server) : s.Frames s := ⟨rfl, rfl, rfl, rfl⟩

theorem Frames.trans {s t u : Server} (h : s.Frames t) (h' : t.Frames u) : s.Frames u where
  pending := h'.pending.trans h.pending
  next := h'.next.trans h.next
  handles := h'.handles.trans h.handles
  opens := h'.opens.trans h.opens

theorem view_cancelPending (s : Server) :
    s.cancelPending.view OpenCall.core = s.opens.view OpenCall.core := by
  unfold cancelPending
  generalize s.registry.pendingOpens.values = tokens
  generalize s.opens = opens
  induction tokens generalizing opens with
  | nil => rfl
  | cons p tokens ih =>
    rw [List.foldl_cons, ih]
    exact Table.view_modify fun _ _ => rfl

/-- The other steps leave alone the handles, the reservations and the opens. -/
theorem Step.frames {core : Core} {s t : Server} {a : Action} (h : Step core s a t)
    (ha : a.isOpen = false) : s.Frames t := by
  cases h with
  | reserved | unreserved | «open» | spawn | published | unpublished | dismiss | finishOpen =>
    cases ha
  | cancelOpen k => exact ⟨rfl, rfl, rfl, Table.view_modify fun _ _ => rfl⟩
  | admitted n c thread r free call stage result =>
    obtain ⟨r', hr, hadmission⟩ := Admission.of_returns result
    cases hr
    obtain ⟨-, hpending, hnext, -, hview⟩ := hadmission.frames
    exact ⟨hpending, hnext, hview, rfl⟩
  | unadmitted n c failure r free call stage result =>
    obtain ⟨r', hr, hadmission⟩ := Admission.of_returns result
    cases hr
    obtain ⟨-, hpending, hnext, -, hview⟩ := hadmission.frames
    exact ⟨hpending, hnext, hview, rfl⟩
  | record | settle | close => exact ⟨rfl, rfl, Registry.view_publish _ _ _, rfl⟩
  | release | joined | join => exact ⟨rfl, rfl, Registry.view_modify _ _ fun _ => rfl, rfl⟩
  | shutdown => exact ⟨rfl, rfl, rfl, s.view_cancelPending⟩
  | _ => exact ⟨rfl, rfl, rfl, rfl⟩

end Server

end PgMcp
