/-
  DataProxy formalization — the scheduler of `ReplicationHandler::run`: a
  receive task that files each `ReplicationMessage` into the queue, and a
  processing task that hands the queue to `process` every 30 seconds and then
  evicts the intents `process` reports as done.

  * `Queue`: the `DashMap` from endpoint to its intents, with the map
    operations the two tasks use, each one atomic step;
  * `Scheduler.step`: one step of either task, chosen by a `SchedulerStep`;
    `process`'s result comes with the step (`tick`), since the session it runs
    is modelled on its own;
  * `owed`: the abstract queue, the intents received and not yet evicted, read
    off the history of the run; `KeepsIntents`: the queue holds them all.

  Main results: `Scheduler.holds_owed`, the queue holds only intents the run
  owes, so an evicted intent never comes back; `processing_terminated_of_reaches`,
  once `process` has failed the processing task takes no step again. Against the
  scheduler's promises: `intent_lost`, an eviction that runs between the receive
  task's `contains_key` and its `alter`, or between its own `get` and `remove`,
  drops an intent; `processing_ends_after_failed_tick`, the `?` on `process`'s
  result ends the processing task while the receive task goes on.
-/
import DataProxy.Replication.Messages
import DataProxy.Transition

namespace DataProxy

/-- `ReplicationMessage`. -/
structure ReplicationMessage where
  direction : Direction
  endpointId : Ulid
  deriving DecidableEq, Repr

/-! ## The queue -/

/-- The queue: a `DashMap` from endpoint to its intents. -/
def Queue := Ulid → Option (List Direction)

namespace Queue

/-- The empty map. -/
def empty : Queue := fun _ => none

/-- `contains_key`. -/
def containsKey (q : Queue) (e : Ulid) : Bool := (q e).isSome

/-- `alter`: the entry's new value, where there is an entry. -/
def alter (q : Queue) (e : Ulid) (f : List Direction → List Direction) : Queue :=
  fun k => if k = e then (q k).map f else q k

/-- `insert`, which replaces an entry. -/
def insert (q : Queue) (e : Ulid) (ds : List Direction) : Queue :=
  fun k => if k = e then some ds else q k

/-- `remove`. -/
def remove (q : Queue) (e : Ulid) : Queue :=
  fun k => if k = e then none else q k

/-- Whether the entry of `e` holds the intent `d`. -/
def Holds (q : Queue) (e : Ulid) (d : Direction) : Prop :=
  ∃ ds, q e = some ds ∧ d ∈ ds

instance (q : Queue) (e : Ulid) (d : Direction) : Decidable (q.Holds e d) :=
  match h : q e with
  | some ds => decidable_of_iff (d ∈ ds) (by simp [Holds, h])
  | none => isFalse (by simp [Holds, h])

end Queue

/-! ## The two tasks -/

/-- Where the receive task is. -/
inductive Receiving where
  /-- in `receiver.recv().await` -/
  | waiting
  /-- a message taken, and what `contains_key` said of its endpoint -/
  | found (m : ReplicationMessage) (present : Bool)
  /-- the channel is closed, and the task has returned -/
  | done
  deriving DecidableEq, Repr

/-- Where the eviction of one processed endpoint is. -/
inductive Stage where
  /-- before `alter`, which filters out the processed intents -/
  | alter
  /-- before `get`, the emptiness check -/
  | get
  /-- before `remove`, which runs when the check found the list empty -/
  | remove (isEmpty : Bool)
  deriving DecidableEq, Repr

/-- Where the processing task is. -/
inductive Processing where
  /-- in `sleep`, or in `process`, which reads the queue but does not write it -/
  | sleeping
  /-- evicting an endpoint's processed intents, with the endpoints still to go -/
  | evicting (entry : Ulid × List Direction) (rest : List (Ulid × List Direction)) (stage : Stage)
  /-- the task has returned this error -/
  | terminated (msg : String)
  deriving DecidableEq, Repr

/-- What the history of a run records, for the abstract queue. -/
inductive Event where
  /-- the receive task filed `d` for `e` -/
  | appended (e : Ulid) (d : Direction)
  /-- an eviction's `alter` took these intents out of the entry of `e` -/
  | evicted (e : Ulid) (objects : List Direction)
  deriving DecidableEq, Repr

/-- The scheduler's state. -/
structure Scheduler where
  queue : Queue
  receiving : Receiving
  processing : Processing
  /-- the filings and evictions so far, oldest first -/
  history : List Event

/-- Both tasks at their start, and the queue empty. -/
def Scheduler.init : Scheduler := ⟨.empty, .waiting, .sleeping, []⟩

/-- A step of one task. -/
inductive SchedulerStep where
  /-- the receive task takes a message and asks `contains_key` -/
  | recv (m : ReplicationMessage)
  /-- the receive task files the message: `alter` with a push, or `insert` -/
  | store
  /-- `recv` fails: every sender of the channel is gone -/
  | close
  /-- the sleep ends and `process` returns this -/
  | tick (result : Except String (List (Ulid × List Direction)))
  /-- the next map operation of the eviction -/
  | evict

/-- The receive task's filing: `alter` with a push where `contains_key` found the endpoint,
    `insert` of a new list where it did not. -/
def store (q : Queue) (m : ReplicationMessage) (present : Bool) : Queue :=
  if present then q.alter m.endpointId (· ++ [m.direction]) else q.insert m.endpointId [m.direction]

/-- The processing task after an endpoint: the next one, or back to sleep. -/
def nextEviction : List (Ulid × List Direction) → Processing
  | [] => .sleeping
  | entry :: rest => .evicting entry rest .alter

/-- One step of the scheduler; `none` where the step is not enabled. -/
def Scheduler.step (s : Scheduler) : SchedulerStep → Option Scheduler
  | .recv m =>
    match s.receiving with
    | .waiting => some { s with receiving := .found m (s.queue.containsKey m.endpointId) }
    | _ => none
  | .store =>
    match s.receiving with
    | .found m present =>
      some { s with queue := store s.queue m present, receiving := .waiting,
                    history := s.history ++ [.appended m.endpointId m.direction] }
    | _ => none
  | .close =>
    match s.receiving with
    | .waiting => some { s with receiving := .done }
    | _ => none
  | .tick result =>
    match s.processing, result with
    | .sleeping, .error msg => some { s with processing := .terminated msg }
    | .sleeping, .ok processed => some { s with processing := nextEviction processed }
    | _, _ => none
  | .evict =>
    match s.processing with
    | .evicting (id, objects) rest .alter =>
      some { s with queue := s.queue.alter id (·.filter (· ∉ objects)),
                    processing := .evicting (id, objects) rest .get,
                    history := s.history ++ [.evicted id objects] }
    | .evicting entry rest .get =>
      some { s with processing := .evicting entry rest (.remove ((s.queue entry.1).any (·.isEmpty))) }
    | .evicting entry rest (.remove isEmpty) =>
      some { s with queue := if isEmpty then s.queue.remove entry.1 else s.queue,
                    processing := nextEviction rest }
    | _ => none

/-- The states the scheduler reaches from its start. -/
def Scheduler.Reachable (s : Scheduler) : Prop := Reaches Scheduler.step Scheduler.init s

/-! ## The abstract queue -/

/-- The intents a run owes: each filing adds one, each eviction takes out the ones it
    names for its endpoint. -/
def owed (history : List Event) : List (Ulid × Direction) :=
  history.foldl (fun p ev => match ev with
    | .appended e d => p ++ [(e, d)]
    | .evicted e objects => p.filter fun x => !(x.1 = e ∧ x.2 ∈ objects)) []

/-- The queue holds every intent the run owes: no intent is lost. -/
def Scheduler.KeepsIntents (s : Scheduler) : Prop :=
  ∀ x ∈ owed s.history, s.queue.Holds x.1 x.2

instance (s : Scheduler) : Decidable s.KeepsIntents :=
  inferInstanceAs (Decidable (∀ x ∈ owed s.history, s.queue.Holds x.1 x.2))

/-! ## The processing task -/

/-- A processing task that has returned takes no step. -/
theorem Scheduler.step_processing_terminated {s s' : Scheduler} {l : SchedulerStep} {msg : String}
    (hs : s.processing = .terminated msg) (h : s.step l = some s') :
    s'.processing = .terminated msg := by
  cases l with
  | tick | evict => simp [Scheduler.step, hs] at h
  | _ => simp only [Scheduler.step] at h; split at h <;> cases h; exact hs

theorem Scheduler.processing_terminated_of_reaches {s t : Scheduler} {msg : String}
    (hs : s.processing = .terminated msg) (h : Reaches Scheduler.step s t) :
    t.processing = .terminated msg :=
  h.invariant (fun _ _ _ => step_processing_terminated) hs

/-! ## Runs against the scheduler's promises -/

/-- An endpoint, and two objects to pull from it. -/
def endpointE : Ulid := ⟨1, by decide⟩

def pullA : Direction := .pull ⟨2, by decide⟩

def pullB : Direction := .pull ⟨3, by decide⟩

/-- `A` is filed and processed; its eviction empties the entry and checks it; `B` arrives,
    `contains_key` finds the (empty) entry, `B` is pushed; the eviction removes the entry. -/
def lostIntentSteps : List SchedulerStep :=
  [.recv ⟨pullA, endpointE⟩, .store, .tick (.ok [(endpointE, [pullA])]), .evict, .evict,
   .recv ⟨pullB, endpointE⟩, .store, .evict]

/-- The queue loses an intent no eviction named: `B` is owed, but the entry of its endpoint
    is gone. -/
theorem intent_lost : ∃ s : Scheduler, s.Reachable ∧ ¬ s.KeepsIntents := by
  obtain ⟨s, hs, hp⟩ := exists_reaches_of_runSteps Scheduler.step Scheduler.init lostIntentSteps
    (p := fun s : Scheduler => !decide s.KeepsIntents) (by decide)
  exact ⟨s, hs, by simpa using hp⟩

/-- When `process` fails, the processing task ends for good, while the receive task waits
    for more intents: nothing calls `process` again. -/
theorem processing_ends_after_failed_tick (msg : String) :
    ∃ s : Scheduler, s.Reachable ∧ s.receiving = .waiting ∧ s.processing = .terminated msg ∧
      ∀ t, Reaches Scheduler.step s t → t.processing = .terminated msg :=
  ⟨{ Scheduler.init with processing := .terminated msg }, .step (l := .tick (.error msg)) .refl rfl,
    rfl, rfl, fun _ => Scheduler.processing_terminated_of_reaches rfl⟩

/-! ## What the queue holds -/

theorem owed_append_appended (h : List Event) (e : Ulid) (d : Direction) :
    owed (h ++ [.appended e d]) = owed h ++ [(e, d)] := by
  unfold owed
  rw [List.foldl_append]
  rfl

theorem owed_append_evicted (h : List Event) (e : Ulid) (objects : List Direction) :
    owed (h ++ [.evicted e objects]) = (owed h).filter fun x => !(x.1 = e ∧ x.2 ∈ objects) := by
  unfold owed
  rw [List.foldl_append]
  rfl

section Holds

variable {q : Queue} {e k : Ulid} {d : Direction}

/-- An intent filed for `k` is new, or was in the queue. -/
theorem Queue.Holds.of_store {m : ReplicationMessage} {present : Bool}
    (h : (store q m present).Holds k d) :
    (k = m.endpointId ∧ d = m.direction) ∨ q.Holds k d := by
  obtain ⟨ds, hds, hd⟩ := h
  unfold store Queue.alter Queue.insert at hds
  split at hds <;> dsimp only at hds <;> split at hds
  · obtain ⟨ds', hq, rfl⟩ := Option.map_eq_some'.1 hds
    rcases List.mem_append.1 hd with hd | hd
    · exact .inr ⟨ds', hq, hd⟩
    · exact .inl ⟨‹_›, List.mem_singleton.1 hd⟩
  · exact .inr ⟨ds, hds, hd⟩
  · cases hds
    exact .inl ⟨‹_›, List.mem_singleton.1 hd⟩
  · exact .inr ⟨ds, hds, hd⟩

/-- An intent the eviction's `alter` leaves for `k` was in the queue, and is not one it took
    out of the entry of `e`. -/
theorem Queue.Holds.of_alter_filter {objects : List Direction}
    (h : (q.alter e (·.filter (· ∉ objects))).Holds k d) :
    q.Holds k d ∧ ¬(k = e ∧ d ∈ objects) := by
  obtain ⟨ds, hds, hd⟩ := h
  unfold Queue.alter at hds
  split at hds
  · obtain ⟨ds', hq, rfl⟩ := Option.map_eq_some'.1 hds
    obtain ⟨hd, hn⟩ := List.mem_filter.1 hd
    exact ⟨⟨ds', hq, hd⟩, fun h => by simp_all⟩
  · exact ⟨⟨ds, hds, hd⟩, fun h => ‹¬k = e› h.1⟩

theorem Queue.Holds.of_remove (h : (q.remove e).Holds k d) : q.Holds k d := by
  obtain ⟨ds, hds, hd⟩ := h
  unfold Queue.remove at hds
  split at hds
  · cases hds
  · exact ⟨ds, hds, hd⟩

end Holds

/-- What a step does to the queue and the history: a filing, an eviction's `alter`, or a
    step that adds nothing to the queue and leaves the history. -/
theorem Scheduler.step_cases {s s' : Scheduler} {l : SchedulerStep} (h : s.step l = some s') :
    (∃ m present, s'.queue = store s.queue m present ∧
      s'.history = s.history ++ [.appended m.endpointId m.direction]) ∨
    (∃ e objects, s'.queue = s.queue.alter e (·.filter (· ∉ objects)) ∧
      s'.history = s.history ++ [.evicted e objects]) ∨
    (s'.history = s.history ∧ ∀ k d, s'.queue.Holds k d → s.queue.Holds k d) := by
  cases l <;> simp only [Scheduler.step] at h <;> repeat' split at h
  all_goals cases h
  all_goals first
    | exact .inl ⟨_, _, rfl, rfl⟩
    | exact .inr (.inl ⟨_, _, rfl, rfl⟩)
    | exact .inr (.inr ⟨rfl, fun _ _ => id⟩)
    | exact .inr (.inr ⟨rfl, fun _ _ => Queue.Holds.of_remove⟩)

/-- **No intent comes back.** In every state the scheduler reaches, the queue holds only
    intents the run owes: each was received, and no eviction has taken it out since. -/
theorem Scheduler.holds_owed {s : Scheduler} (h : s.Reachable) :
    ∀ e d, s.queue.Holds e d → (e, d) ∈ owed s.history := by
  induction h with
  | refl => exact fun _ _ hd => by simp [Scheduler.init, Queue.empty, Queue.Holds] at hd
  | step _ hl ih =>
    intro e d hd
    rcases Scheduler.step_cases hl with ⟨m, present, hq, hh⟩ | ⟨e', objects, hq, hh⟩ | ⟨hh, hq⟩
    · rw [hh, owed_append_appended]
      rw [hq] at hd
      rcases hd.of_store with ⟨rfl, rfl⟩ | hd
      · exact List.mem_append_right _ (List.mem_singleton_self _)
      · exact List.mem_append_left _ (ih e d hd)
    · rw [hh, owed_append_evicted, List.mem_filter]
      rw [hq] at hd
      obtain ⟨hd, hn⟩ := hd.of_alter_filter
      exact ⟨ih e d hd, by simpa only [Bool.not_eq_true', decide_eq_false_iff_not] using hn⟩
    · rw [hh]
      exact ih e d (hq e d hd)

/-- Where the run of `lostIntentSteps` ends. -/
def lostIntentState : Scheduler :=
  (runSteps Scheduler.step Scheduler.init lostIntentSteps).getD Scheduler.init

theorem holds_owed_lostIntentState :
    lostIntentState.Reachable ∧
    ∀ e d, lostIntentState.queue.Holds e d → (e, d) ∈ owed lostIntentState.history :=
  have h : lostIntentState.Reachable := @reaches_of_runSteps _ _ _ _ _ lostIntentSteps rfl
  ⟨h, Scheduler.holds_owed h⟩

end DataProxy
