/-
  DataProxy formalization — the loads of a pull session's backend driver: for
  which objects it calls `initialize_location` and `load_into_backend`, when,
  and with what.

  * `SessionEvent` and `Session.observe`: what a step shows of the demux and the
    driver: an `ObjectInfo` applied to `object_handler_map`, the snapshot a pass
    takes of the map, and the start of a load, with the entry of the snapshot it
    loads and what `cache.resources` held for the object;
  * `Session.Trace`: a run with the events of its steps; every run has one
    (`Session.exists_trace`), and `Session.runTrace` computes it for a list of
    steps;
  * `Session.LoadsKept`: what the map, the driver's snapshot and the events
    keep; `Session.step_cases` says once what a step does to them, and
    `Session.LoadsKept.step` that every step keeps it.

  Main result: `Session.driver_loads`, in every run each object is loaded at
  most once, only if it was asked for, has no location in the cache and had an
  `ObjectInfo` applied, and with the values its entry had in the pass's
  snapshot. Against loading with the entry's values: `load_with_stale_info`, a
  second `ObjectInfo` after the snapshot changes the entry, and the load still
  uses the first.
-/
import DataProxy.Replication.Commit

namespace DataProxy

/-! ## Events -/

/-- What a step of a session shows of the loads. -/
inductive SessionEvent where
  /-- the demux set the entry of `objectId` from an `ObjectInfo`, `info_received` included -/
  | infoApplied (objectId : String) (chunks : BitVec 64) (blockList : List ℕ) (rawSize : ℤ)
  /-- the driver took the snapshot of the map for a pass -/
  | snapshot (batch : Handlers)
  /-- `initialize_location` returned a location for the entry `objectId` of the driver's
      snapshot, and `load_into_backend` starts; `seen` is what `cache.resources` held for the
      object when the driver looked -/
  | loadStarted (objectId : String) (entry : HandlerEntry) (object : Object)
      (seen : Option (Object × Option ObjectLocation))
  deriving DecidableEq, Repr

/-- What `cache.resources` holds for the object of a map key. -/
def Session.cached (s : Session) (id : String) : Option (Object × Option ObjectLocation) :=
  match Ulid.fromStr id with
  | .ok objectId => s.resources objectId
  | .error _ => none

/-- An `ObjectInfo` applied: the demux goes from `infoSent` to `ready`. -/
def demuxEvent : Demux → Demux → Option SessionEvent
  | .infoSent objectId chunks blockList rawSize, .ready =>
    some (.infoApplied objectId chunks blockList rawSize)
  | _, _ => none

/-- A snapshot, where the driver enters a pass, and a load, where it leaves a pass for
    `load_into_backend`. -/
def driverEvent (s : Session) : Driver → Driver → Option SessionEvent
  | .nextPass _, .pass _ batch => some (.snapshot batch)
  | .pass _ _, .loading _ _ id entry object _ _ => some (.loadStarted id entry object (s.cached id))
  | _, _ => none

/-- The events of a step from `s` to `s'`. -/
def Session.observe (s s' : Session) : List SessionEvent :=
  (demuxEvent s.demux s'.demux).toList ++ (driverEvent s s.driver s'.driver).toList

@[simp] theorem demuxEvent_self (d : Demux) : demuxEvent d d = none := by
  cases d <;> rfl

@[simp] theorem driverEvent_self (s : Session) (d : Driver) : driverEvent s d d = none := by
  cases d <;> rfl

/-- A run from `s` to `t` whose steps showed the events `evs`, in order. -/
inductive Session.Trace (env : SessionEnv) (s : Session) : List SessionEvent → Session → Prop where
  | refl : Session.Trace env s [] s
  | step {evs : List SessionEvent} {t t' : Session} {l : SessionStep} :
      Session.Trace env s evs t → t.step env l = some t' →
        Session.Trace env s (evs ++ t.observe t') t'

/-- The events and the last state of the run of a list of steps; `none` where a step is not
    enabled. -/
def Session.runTrace (env : SessionEnv) :
    Session → List SessionStep → Option (List SessionEvent × Session)
  | s, [] => some ([], s)
  | s, l :: ls => (s.step env l).bind fun s' =>
    (Session.runTrace env s' ls).map fun r => (s.observe s' ++ r.1, r.2)

section Trace

variable {env : SessionEnv} {s t u : Session} {evs evs' : List SessionEvent}

theorem Session.Trace.reaches (h : Session.Trace env s evs t) : Reaches (Session.step env) s t := by
  induction h with
  | refl => exact .refl
  | step _ hl ih => exact .step ih hl

theorem Session.Trace.trans (h₁ : Session.Trace env s evs t) (h₂ : Session.Trace env t evs' u) :
    Session.Trace env s (evs ++ evs') u := by
  induction h₂ with
  | refl => simpa using h₁
  | step _ hl ih => rw [← List.append_assoc]; exact .step ih hl

/-- Every run shows a list of events. -/
theorem Session.exists_trace (h : Reaches (Session.step env) s t) :
    ∃ evs, Session.Trace env s evs t := by
  induction h with
  | refl => exact ⟨[], .refl⟩
  | step _ hl ih =>
    obtain ⟨evs, h⟩ := ih
    exact ⟨_, .step h hl⟩

theorem Session.trace_of_runTrace :
    ∀ {s : Session} {ls : List SessionStep} {evs : List SessionEvent} {t : Session},
      Session.runTrace env s ls = some (evs, t) → Session.Trace env s evs t
  | _, [], _, _, h => by cases h; exact .refl
  | s, _ :: _, _, _, h => by
    obtain ⟨s', hs', h⟩ := Option.bind_eq_some.1 h
    obtain ⟨⟨evs', t'⟩, hr, he⟩ := Option.map_eq_some'.1 h
    cases he
    have := (Session.Trace.step .refl hs').trans (trace_of_runTrace hr)
    rwa [List.nil_append] at this

end Trace

/-! ## What the events say -/

/-- The object of a load. -/
@[simp] def SessionEvent.loadId : SessionEvent → Option String
  | .loadStarted id _ _ _ => some id
  | _ => none

/-- The batch of a snapshot. -/
@[simp] def SessionEvent.batch : SessionEvent → Option Handlers
  | .snapshot batch => some batch
  | _ => none

/-- The objects loaded, in order. -/
def loadIds (evs : List SessionEvent) : List String := evs.filterMap SessionEvent.loadId

/-- The snapshot of the latest pass. -/
def lastSnapshot (evs : List SessionEvent) : Handlers := evs.foldl (fun b e => e.batch.getD b) []

theorem loadIds_append_singleton (evs : List SessionEvent) (e : SessionEvent) :
    loadIds (evs ++ [e]) = loadIds evs ++ e.loadId.toList := by
  cases e <;> simp [loadIds]

theorem loadIds_append_of_loadId (evs : List SessionEvent) (e : SessionEvent)
    (he : e.loadId = none) : loadIds (evs ++ [e]) = loadIds evs := by
  rw [loadIds_append_singleton, he, Option.toList_none, List.append_nil]

theorem lastSnapshot_append_singleton (evs : List SessionEvent) (e : SessionEvent) :
    lastSnapshot (evs ++ [e]) = e.batch.getD (lastSnapshot evs) := by
  simp [lastSnapshot]

/-- What a load started after the events `pre` must have had: its object asked for, no
    location in the cache, `info_received` set by an applied `ObjectInfo` whose values it
    loads, and its entry in the snapshot of the pass. -/
def LoadOk (pull : List Ulid) (pre : List SessionEvent) : SessionEvent → Prop
  | .loadStarted id entry object seen =>
    (∃ o ∈ pull, id = o.toString) ∧ seen = some (object, none) ∧ entry.synced = true ∧
      .infoApplied id entry.chunks entry.blocklist entry.rawSize ∈ pre ∧
      (id, entry) ∈ lastSnapshot pre
  | _ => True

/-- Every load of `evs` had what `LoadOk` asks, when it started. -/
def LoadsOk (pull : List Ulid) (evs : List SessionEvent) : Prop :=
  ∀ pre e post, evs = pre ++ e :: post → LoadOk pull pre e

theorem loadsOk_append_singleton {pull : List Ulid} {evs : List SessionEvent} {e : SessionEvent} :
    LoadsOk pull (evs ++ [e]) ↔ LoadsOk pull evs ∧ LoadOk pull evs e := by
  refine ⟨fun h => ⟨fun pre x post hs => h pre x (post ++ [e]) (by simp [hs]), h evs e [] rfl⟩, ?_⟩
  rintro ⟨h, he⟩ pre x post hs
  rcases List.eq_nil_or_concat post with rfl | ⟨post, y, rfl⟩
  · obtain ⟨rfl, hx⟩ := List.append_inj' hs rfl
    exact List.singleton_inj.1 hx ▸ he
  · rw [List.concat_eq_append, ← List.cons_append, ← List.append_assoc] at hs
    exact h pre x post (List.append_inj' hs rfl).1

/-! ## The map and the driver -/

/-- The entries of its snapshot the driver has still to visit. -/
def Driver.batch : Driver → Handlers
  | .pass _ batch => batch
  | .loading _ rest _ _ _ _ _ => rest
  | _ => []

/-- The entry the driver is loading. -/
def Driver.loadingId : Driver → Option String
  | .loading _ _ id _ _ _ _ => some id
  | _ => none

/-- What an entry of the map says of its object's `ObjectInfo`. -/
structure EntryInfo where
  key : String
  chunks : BitVec 64
  blocklist : List ℕ
  rawSize : ℤ
  synced : Bool

/-- The `EntryInfo` of an entry of the map. -/
def entryInfo (ke : String × HandlerEntry) : EntryInfo :=
  ⟨ke.1, ke.2.chunks, ke.2.blocklist, ke.2.rawSize, ke.2.synced⟩

@[simp] theorem key_comp_entryInfo : EntryInfo.key ∘ entryInfo = Prod.fst := rfl

/-- Keys that are distinct and of objects asked for. -/
def Keyed (pull : List Ulid) (ks : List String) : Prop :=
  ks.Nodup ∧ ∀ k ∈ ks, ∃ o ∈ pull, k = o.toString

theorem Keyed.sublist {pull : List Ulid} {ks ks' : List String} (h : Keyed pull ks)
    (hs : ks'.Sublist ks) : Keyed pull ks' :=
  ⟨h.1.sublist hs, fun k hk => h.2 k (hs.subset hk)⟩

/-- Each entry with `info_received` holds what an applied `ObjectInfo` of its object set. -/
def Informed (evs : List SessionEvent) (h : Handlers) : Prop :=
  ∀ i ∈ h.map entryInfo, i.synced = true → .infoApplied i.key i.chunks i.blocklist i.rawSize ∈ evs

section Map

variable {evs evs' : List SessionEvent} {h h' : Handlers} {k : String}

theorem Informed.sublist (hi : Informed evs h) (hs : (h'.map entryInfo).Sublist (h.map entryInfo)) :
    Informed evs h' :=
  fun i hm => hi i (hs.subset hm)

theorem Informed.mono (hi : Informed evs h) (hsub : evs ⊆ evs') : Informed evs' h :=
  fun i hm hs => hsub (hi i hm hs)

theorem keys_sublist (hs : (h'.map entryInfo).Sublist (h.map entryInfo)) :
    (h'.map Prod.fst).Sublist (h.map Prod.fst) := by
  simpa only [List.map_map, key_comp_entryInfo] using hs.map EntryInfo.key

@[simp] theorem keys_alterEntry (f : HandlerEntry → HandlerEntry) :
    (alterEntry h k f).map Prod.fst = h.map Prod.fst := by
  unfold alterEntry
  rw [List.map_map]
  congr 1
  funext e
  simp only [Function.comp]
  split <;> simp_all

theorem keys_removeEntry : (removeEntry h k).map Prod.fst = (h.map Prod.fst).filter (· ≠ k) := by
  rw [removeEntry, List.filter_map]
  rfl

theorem ne_of_mem_keys_removeEntry {k' : String} (hm : k' ∈ (removeEntry h k).map Prod.fst) :
    k' ≠ k := by
  rw [keys_removeEntry, List.mem_filter] at hm
  simpa using hm.2

theorem entryInfo_removeEntry : ((removeEntry h k).map entryInfo).Sublist (h.map entryInfo) :=
  (List.filter_sublist h).map _

/-- An `alter` that leaves what the `ObjectInfo` said, as a new channel content does. -/
theorem entryInfo_alterEntry {f : HandlerEntry → HandlerEntry}
    (hf : ∀ k e, entryInfo (k, f e) = entryInfo (k, e)) :
    (alterEntry h k f).map entryInfo = h.map entryInfo := by
  unfold alterEntry
  rw [List.map_map]
  congr 1
  funext e
  simp only [Function.comp]
  split
  · exact hf _ _
  · rfl

/-- The demux's `alter` for an `ObjectInfo` sets what its event says. -/
theorem Informed.alterEntry {objectId : String} {chunks : BitVec 64} {blockList : List ℕ}
    {rawSize : ℤ} (hi : Informed evs h) :
    Informed (evs ++ [.infoApplied objectId chunks blockList rawSize])
      (alterEntry h objectId fun e =>
        { e with chunks := chunks, blocklist := blockList, rawSize := rawSize, synced := true }) := by
  intro i hm hs
  rw [DataProxy.alterEntry, List.map_map, List.mem_map] at hm
  obtain ⟨⟨k, e⟩, hke, rfl⟩ := hm
  by_cases hk : k = objectId
  · simp [hk, entryInfo]
  · simp only [Function.comp, hk, if_false] at hs ⊢
    exact List.mem_append_left _ (hi _ (List.mem_map_of_mem _ hke) hs)

theorem keyed_removeEntry_append {pull : List Ulid} {o : Ulid} (ho : o ∈ pull) (e : HandlerEntry)
    (hk : Keyed pull (h.map Prod.fst)) :
    Keyed pull ((removeEntry h o.toString ++ [(o.toString, e)]).map Prod.fst) := by
  rw [List.map_append, keys_removeEntry]
  refine ⟨List.nodup_append.2 ⟨hk.1.filter _, List.nodup_singleton _, ?_⟩, fun k hm => ?_⟩
  · simp [List.disjoint_singleton]
  · simp only [List.mem_append, List.mem_filter, List.map_cons, List.map_nil,
      List.mem_singleton] at hm
    rcases hm with ⟨hm, -⟩ | rfl
    · exact hk.2 k hm
    · exact ⟨o, ho, rfl⟩

end Map

/-- What the map, the driver's snapshot and the events of a run from `Session.init pull _`
    keep. -/
structure Session.LoadsKept (pull : List Ulid) (evs : List SessionEvent) (s : Session) : Prop where
  /-- an object has one entry at most, and was asked for -/
  handlers_keyed : Keyed pull (s.handlers.map Prod.fst)
  informed : Informed evs s.handlers
  /-- the entries the pass has still to visit are entries of its snapshot, not loaded -/
  batch_keyed : Keyed pull (s.driver.batch.map Prod.fst)
  batch_informed : Informed evs s.driver.batch
  batch_snapshot : s.driver.batch ⊆ lastSnapshot evs
  batch_fresh : ∀ k ∈ s.driver.batch.map Prod.fst, k ∉ loadIds evs
  /-- a loaded object keeps its entry only while it loads, or once the driver has returned -/
  loaded_gone : ∀ k ∈ loadIds evs, k ∈ s.handlers.map Prod.fst →
    s.driver.loadingId = some k ∨ s.driver.isDone = true
  loads_nodup : (loadIds evs).Nodup
  loads_ok : LoadsOk pull evs

/-! ## Step lemmas -/

/-- A step that shows nothing, keeps or drops entries without changing what their
    `ObjectInfo` said, and keeps or drops the rest of the pass. -/
def Session.Quiet (s s' : Session) : Prop :=
  s.observe s' = [] ∧ (s'.handlers.map entryInfo).Sublist (s.handlers.map entryInfo) ∧
    s'.driver.batch.Sublist s.driver.batch ∧
    ∀ k ∈ s'.handlers.map Prod.fst, s.driver.loadingId = some k ∨ s.driver.isDone = true →
      s'.driver.loadingId = some k ∨ s'.driver.isDone = true

section Steps

variable {env : SessionEnv} {pull : List Ulid} {evs : List SessionEvent} {s s' : Session}

@[simp] theorem demuxEvent_ready (d : Demux) : demuxEvent .ready d = none := rfl

theorem Session.frame_entryInfo (r : Response) :
    (s.frame r).handlers.map entryInfo = s.handlers.map entryInfo := by
  unfold Session.frame
  repeat' split
  all_goals dsimp only
  all_goals first | rfl | (rw [entryInfo_alterEntry]; exact fun _ _ => rfl)

theorem Session.quiet_of_same (hh : s'.handlers.map entryInfo = s.handlers.map entryInfo)
    (hd : s'.driver = s.driver) (hdm : demuxEvent s.demux s'.demux = none) : s.Quiet s' :=
  ⟨by simp [Session.observe, hdm, hd], hh ▸ .refl _, hd ▸ .refl _, fun _ _ => hd ▸ id⟩

/-- A step of the driver from outside a load that neither takes a snapshot nor starts a
    load. -/
theorem Session.quiet_of_driver (hdm : s'.demux = s.demux)
    (hh : (s'.handlers.map entryInfo).Sublist (s.handlers.map entryInfo))
    (hb : s'.driver.batch.Sublist s.driver.batch)
    (hfree : s.driver.loadingId = none ∧ s.driver.isDone = false)
    (hev : driverEvent s s.driver s'.driver = none) : s.Quiet s' :=
  ⟨by simp [Session.observe, hdm, hev], hh, hb, fun _ _ h => by simp [hfree] at h⟩

theorem Session.demuxStep_cases (h : s.demuxStep = some s') :
    s.Quiet s' ∨ ∃ objectId chunks blockList rawSize,
      s.observe s' = [.infoApplied objectId chunks blockList rawSize] ∧ s'.driver = s.driver ∧
      s'.handlers = alterEntry s.handlers objectId fun e =>
        { e with chunks := chunks, blocklist := blockList, rawSize := rawSize, synced := true } := by
  unfold Session.demuxStep at h
  repeat' split at h
  all_goals cases h
  all_goals first
    | exact .inr ⟨_, _, _, _, by simp [Session.observe, ‹s.demux = _›, demuxEvent], rfl, rfl⟩
    | exact .inl (Session.quiet_of_same rfl rfl (by simp [‹s.demux = _›, demuxEvent]))

theorem Session.ledgerStep_quiet (h : s.ledgerStep = some s') : s.Quiet s' := by
  unfold Session.ledgerStep at h
  repeat' split at h
  all_goals cases h <;> exact Session.quiet_of_same rfl rfl (demuxEvent_self _)

theorem Session.finalizeStep_quiet (h : s.finalizeStep = some s') : s.Quiet s' := by
  unfold Session.finalizeStep at h
  repeat' split at h
  all_goals cases h <;> exact Session.quiet_of_same rfl rfl (demuxEvent_self _)

theorem Session.validateStep_quiet (h : s.validateStep = some s') : s.Quiet s' := by
  unfold Session.validateStep at h
  repeat' split at h
  all_goals cases h
  refine ⟨by simp [Session.observe, ‹s.driver = _›, driverEvent], ?_, ?_, ?_⟩
  · dsimp only
    rw [entryInfo_alterEntry]
    exact fun _ _ => rfl
  · simp [Driver.batch, ‹s.driver = _›]
  · exact fun _ _ h => by simpa [‹s.driver = _›, Driver.loadingId, Driver.isDone] using h

theorem Session.writeStep_quiet (h : s.writeStep env = some s') : s.Quiet s' := by
  unfold Session.writeStep at h
  repeat' split at h
  all_goals cases h
  · refine ⟨by simp [Session.observe, ‹s.driver = _›, driverEvent], entryInfo_removeEntry,
      by simp [Driver.batch, ‹s.driver = _›], fun k hk => ?_⟩
    simp only [‹s.driver = _›, Driver.loadingId, Driver.isDone, Option.some.injEq]
    rintro (rfl | h)
    · exact absurd rfl (ne_of_mem_keys_removeEntry hk)
    · cases h
  · refine ⟨by simp [Session.observe, ‹s.driver = _›, driverEvent], .refl _,
      by simp [Driver.batch], fun _ _ _ => .inr rfl⟩

/-- The driver outside a load: a snapshot, a load that starts, or a step that shows
    nothing. -/
theorem Session.driveStep_cases (h : s.driveStep env = some s') :
    s.Quiet s' ∨
    (∃ bc, s.driver = .nextPass bc ∧ s'.driver = .pass (bc + 1) s.handlers ∧
      s'.handlers = s.handlers ∧ s.observe s' = [.snapshot s.handlers]) ∨
    (∃ bc id entry rest object location, s.driver = .pass bc ((id, entry) :: rest) ∧
      s'.driver = .loading bc rest id entry object location .init ∧ s'.handlers = s.handlers ∧
      s.cached id = some (object, none) ∧ entry.synced = true ∧
      s.observe s' = [.loadStarted id entry object (s.cached id)]) := by
  unfold Session.driveStep Session.visit at h
  repeat' split at h
  all_goals cases h
  all_goals first
    | exact .inr (.inl ⟨_, ‹s.driver = .nextPass _›, rfl, rfl,
        by simp [Session.observe, ‹s.driver = _›, driverEvent]⟩)
    | refine .inr (.inr ⟨_, _, _, _, _, _, ‹s.driver = .pass _ _›, rfl, rfl, ?_,
        ‹_ = true›, ?_⟩)
      · simp only [Session.cached, ‹Ulid.fromStr _ = _›]; assumption
      · simp [Session.observe, ‹s.driver = _›, driverEvent]
    | exact .inl (Session.quiet_of_driver rfl
        (by first | exact .refl _ | exact entryInfo_removeEntry)
        (by rw [‹s.driver = _›]; simp [Driver.batch]) (by rw [‹s.driver = _›]; exact ⟨rfl, rfl⟩)
        (by rw [‹s.driver = _›]; rfl))

/-- **What a step does to the loads.** It shows nothing, or applies an `ObjectInfo`, or takes
    the snapshot of a pass, or starts a load of an entry of the snapshot whose object has no
    location and whose `info_received` is set. -/
theorem Session.step_cases {l : SessionStep} (h : s.step env l = some s') :
    s.Quiet s' ∨
    (∃ objectId chunks blockList rawSize,
      s.observe s' = [.infoApplied objectId chunks blockList rawSize] ∧ s'.driver = s.driver ∧
      s'.handlers = alterEntry s.handlers objectId fun e =>
        { e with chunks := chunks, blocklist := blockList, rawSize := rawSize, synced := true }) ∨
    (∃ bc, s.driver = .nextPass bc ∧ s'.driver = .pass (bc + 1) s.handlers ∧
      s'.handlers = s.handlers ∧ s.observe s' = [.snapshot s.handlers]) ∨
    (∃ bc id entry rest object location, s.driver = .pass bc ((id, entry) :: rest) ∧
      s'.driver = .loading bc rest id entry object location .init ∧ s'.handlers = s.handlers ∧
      s.cached id = some (object, none) ∧ entry.synced = true ∧
      s.observe s' = [.loadStarted id entry object (s.cached id)]) := by
  cases l with
  | frame r =>
    simp only [Session.step] at h; split at h <;> cases h
    exact .inl (Session.quiet_of_same (Session.frame_entryInfo r) (Session.frame_keepsLoad r).1
      (by simp [‹s.demux = _›]))
  | hangUp =>
    simp only [Session.step] at h; split at h <;> cases h
    exact .inl (Session.quiet_of_same rfl rfl (by simp [‹s.demux = _›]))
  | demux => exact (Session.demuxStep_cases h).imp_right .inl
  | drive => exact (Session.driveStep_cases h).imp_right .inr
  | ledger => exact .inl (Session.ledgerStep_quiet h)
  | validate => exact .inl (Session.validateStep_quiet h)
  | write => exact .inl (Session.writeStep_quiet h)
  | finalize => exact .inl (Session.finalizeStep_quiet h)

/-- A state change that keeps or drops entries without changing what their `ObjectInfo`
    said, and keeps or drops the rest of the pass. -/
theorem Session.LoadsKept.of_frame (hk : s.LoadsKept pull evs)
    (hh : (s'.handlers.map entryInfo).Sublist (s.handlers.map entryInfo))
    (hb : s'.driver.batch.Sublist s.driver.batch)
    (hid : ∀ k ∈ s'.handlers.map Prod.fst, s.driver.loadingId = some k ∨ s.driver.isDone = true →
      s'.driver.loadingId = some k ∨ s'.driver.isDone = true) :
    s'.LoadsKept pull evs where
  handlers_keyed := hk.handlers_keyed.sublist (keys_sublist hh)
  informed := hk.informed.sublist hh
  batch_keyed := hk.batch_keyed.sublist (hb.map _)
  batch_informed := hk.batch_informed.sublist (hb.map _)
  batch_snapshot := hb.subset.trans hk.batch_snapshot
  batch_fresh := fun k hm => hk.batch_fresh k ((hb.map _).subset hm)
  loaded_gone := fun k hl hm => hid k hm (hk.loaded_gone k hl ((keys_sublist hh).subset hm))
  loads_nodup := hk.loads_nodup
  loads_ok := hk.loads_ok

theorem Session.LoadsKept.quiet (hk : s.LoadsKept pull evs) (hq : s.Quiet s') :
    s'.LoadsKept pull evs :=
  hk.of_frame hq.2.1 hq.2.2.1 hq.2.2.2

/-- A load of `id` appended to the events, while the driver loads `id`, which is not in the
    rest of its pass. -/
theorem Session.LoadsKept.addLoad {id : String} {entry : HandlerEntry} {object : Object}
    {seen : Option (Object × Option ObjectLocation)} (hk : s.LoadsKept pull evs)
    (hload : s.driver.loadingId = some id) (hfresh : id ∉ loadIds evs)
    (hbatch : id ∉ s.driver.batch.map Prod.fst)
    (hok : LoadOk pull evs (.loadStarted id entry object seen)) :
    s.LoadsKept pull (evs ++ [.loadStarted id entry object seen]) := by
  have hsub : evs ⊆ evs ++ [.loadStarted id entry object seen] := List.subset_append_left _ _
  have hl : ∀ {k}, k ∈ loadIds (evs ++ [.loadStarted id entry object seen]) →
      k ∈ loadIds evs ∨ k = id := fun hk' => by
    simpa [loadIds_append_singleton] using hk'
  exact {
    handlers_keyed := hk.handlers_keyed
    informed := hk.informed.mono hsub
    batch_keyed := hk.batch_keyed
    batch_informed := hk.batch_informed.mono hsub
    batch_snapshot := by rw [lastSnapshot_append_singleton]; exact hk.batch_snapshot
    batch_fresh := fun k hm hk' => by
      rcases hl hk' with hk' | rfl
      · exact hk.batch_fresh k hm hk'
      · exact hbatch hm
    loaded_gone := fun k hk' hm => by
      rcases hl hk' with hk' | rfl
      · exact hk.loaded_gone k hk' hm
      · exact .inl hload
    loads_nodup := by
      rw [loadIds_append_singleton]
      exact List.nodup_append.2 ⟨hk.loads_nodup, List.nodup_singleton _, by simpa using hfresh⟩
    loads_ok := loadsOk_append_singleton.2 ⟨hk.loads_ok, hok⟩ }

theorem Session.LoadsKept.infoApplied {objectId : String} {chunks : BitVec 64}
    {blockList : List ℕ} {rawSize : ℤ} (hk : s.LoadsKept pull evs) (hd : s'.driver = s.driver)
    (hh : s'.handlers = alterEntry s.handlers objectId fun e =>
      { e with chunks := chunks, blocklist := blockList, rawSize := rawSize, synced := true }) :
    s'.LoadsKept pull (evs ++ [.infoApplied objectId chunks blockList rawSize]) := by
  have hl := loadIds_append_of_loadId evs (.infoApplied objectId chunks blockList rawSize) rfl
  exact {
    handlers_keyed := by rw [hh, keys_alterEntry]; exact hk.handlers_keyed
    informed := hh ▸ hk.informed.alterEntry
    batch_keyed := hd ▸ hk.batch_keyed
    batch_informed := hd ▸ hk.batch_informed.mono (List.subset_append_left _ _)
    batch_snapshot := by rw [hd, lastSnapshot_append_singleton]; exact hk.batch_snapshot
    batch_fresh := by rw [hd, hl]; exact hk.batch_fresh
    loaded_gone := by rw [hd, hh, keys_alterEntry, hl]; exact hk.loaded_gone
    loads_nodup := hl ▸ hk.loads_nodup
    loads_ok := loadsOk_append_singleton.2 ⟨hk.loads_ok, trivial⟩ }

theorem Session.LoadsKept.snapshot {bc : ℕ} (hk : s.LoadsKept pull evs)
    (hd : s.driver = .nextPass bc) (hd' : s'.driver = .pass (bc + 1) s.handlers)
    (hh : s'.handlers = s.handlers) : s'.LoadsKept pull (evs ++ [.snapshot s.handlers]) := by
  have hgone : ∀ k ∈ loadIds evs, k ∉ s.handlers.map Prod.fst := fun k hl hm => by
    simpa [hd, Driver.loadingId, Driver.isDone] using hk.loaded_gone k hl hm
  have hsub : evs ⊆ evs ++ [.snapshot s.handlers] := List.subset_append_left _ _
  have hl := loadIds_append_of_loadId evs (.snapshot s.handlers) rfl
  exact {
    handlers_keyed := hh ▸ hk.handlers_keyed
    informed := hh ▸ hk.informed.mono hsub
    batch_keyed := by rw [hd']; exact hk.handlers_keyed
    batch_informed := by rw [hd']; exact hk.informed.mono hsub
    batch_snapshot := by rw [hd', lastSnapshot_append_singleton]; exact List.Subset.refl _
    batch_fresh := fun k hm hk' => by
      rw [hd'] at hm
      exact hgone k (hl ▸ hk') hm
    loaded_gone := fun k hk' hm => (hgone k (hl ▸ hk') (hh ▸ hm)).elim
    loads_nodup := hl ▸ hk.loads_nodup
    loads_ok := loadsOk_append_singleton.2 ⟨hk.loads_ok, trivial⟩ }

theorem Session.LoadsKept.loadStarted {bc : ℕ} {id : String} {entry : HandlerEntry}
    {rest : Handlers} {object : Object} {location : ObjectLocation} (hk : s.LoadsKept pull evs)
    (hd : s.driver = .pass bc ((id, entry) :: rest))
    (hd' : s'.driver = .loading bc rest id entry object location .init)
    (hh : s'.handlers = s.handlers) (hseen : s.cached id = some (object, none))
    (hsynced : entry.synced = true) :
    s'.LoadsKept pull (evs ++ [.loadStarted id entry object (s.cached id)]) := by
  have hbatch : s.driver.batch = (id, entry) :: rest := by rw [hd]; rfl
  have hhead : (id, entry) ∈ s.driver.batch := by simp [hbatch]
  have hnd := hk.batch_keyed.1
  rw [hbatch, List.map_cons, List.nodup_cons] at hnd
  have hk' : s'.LoadsKept pull evs := hk.of_frame (hh ▸ .refl _)
    (by rw [hd', hbatch]; exact List.sublist_cons_self _ _)
    (fun _ _ h => by simp [hd, Driver.loadingId, Driver.isDone] at h)
  exact hk'.addLoad (by rw [hd']; rfl) (hk.batch_fresh id (List.mem_map_of_mem _ hhead))
    (by rw [hd']; exact hnd.1)
    ⟨hk.batch_keyed.2 id (List.mem_map_of_mem _ hhead), hseen, hsynced,
      hk.batch_informed _ (List.mem_map_of_mem _ hhead) hsynced, hk.batch_snapshot hhead⟩

/-- **Step lemma.** Every step keeps `LoadsKept`, with the events it shows. -/
theorem Session.LoadsKept.step {l : SessionStep} (hk : s.LoadsKept pull evs)
    (h : s.step env l = some s') : s'.LoadsKept pull (evs ++ s.observe s') := by
  rcases Session.step_cases h with hq | ⟨_, _, _, _, hobs, hd, hh⟩ | ⟨_, hd, hd', hh, hobs⟩ |
    ⟨_, _, _, _, _, _, hd, hd', hh, hseen, hsynced, hobs⟩
  · rw [hq.1, List.append_nil]
    exact hk.quiet hq
  · rw [hobs]
    exact hk.infoApplied hd hh
  · rw [hobs]
    exact hk.snapshot hd hd' hh
  · rw [hobs]
    exact hk.loadStarted hd hd' hh hseen hsynced

end Steps

/-- The map `process` builds: one entry per object asked for, none with `info_received`. -/
theorem keyed_init_handlers (pull : List Ulid) :
    ∀ (os : List Ulid) (acc : Handlers), (∀ o ∈ os, o ∈ pull) →
      Keyed pull (acc.map Prod.fst) → (∀ ke ∈ acc, ke.2.synced = false) →
      Keyed pull ((os.foldl (fun h o => removeEntry h o.toString ++ [(o.toString, .empty)])
        acc).map Prod.fst) ∧
      ∀ ke ∈ os.foldl (fun h o => removeEntry h o.toString ++ [(o.toString, .empty)]) acc,
        ke.2.synced = false
  | [], _, _, hk, hs => ⟨hk, hs⟩
  | o :: os, acc, ho, hk, hs =>
    keyed_init_handlers pull os _ (fun o' h => ho o' (List.mem_cons_of_mem _ h))
      (keyed_removeEntry_append (ho o (List.mem_cons_self _ _)) _ hk)
      (fun ke hm => by
        rcases List.mem_append.1 hm with hm | hm
        · exact hs ke ((List.filter_sublist _).subset hm)
        · rw [List.mem_singleton.1 hm]
          rfl)

theorem Session.loadsKept_init (pull : List Ulid) (resources : Resources) :
    (Session.init pull resources).LoadsKept pull [] := by
  obtain ⟨hk, hs⟩ := keyed_init_handlers pull pull [] (fun _ h => h) ⟨List.nodup_nil, by simp⟩
    (by simp)
  exact {
    handlers_keyed := hk
    informed := fun i hm hsy => by
      obtain ⟨ke, hke, rfl⟩ := List.mem_map.1 hm
      simp [entryInfo, hs ke hke] at hsy
    batch_keyed := by simp [Session.init, Driver.batch, Keyed]
    batch_informed := by simp [Session.init, Driver.batch, Informed]
    batch_snapshot := by simp [Session.init, Driver.batch]
    batch_fresh := by simp [Session.init, Driver.batch]
    loaded_gone := by simp [loadIds]
    loads_nodup := List.nodup_nil
    loads_ok := fun pre e post h => by simp at h }

/-- **Run lemma.** Every run of a pull session keeps `LoadsKept`. -/
theorem Session.loadsKept_of_trace {env : SessionEnv} {pull : List Ulid} {resources : Resources}
    {evs : List SessionEvent} {t : Session}
    (h : Session.Trace env (Session.init pull resources) evs t) : t.LoadsKept pull evs := by
  induction h with
  | refl => exact Session.loadsKept_init pull resources
  | step _ hl ih => exact ih.step hl

/-! ## The loads -/

/-- **The driver's loads.** In every run of a pull session for the objects `pull`, whatever
    the peer sends and however the demux and the driver interleave: no object is loaded
    twice, and a load of the entry `id` starts only if `id` is an object asked for, the cache
    held it with no location when the driver looked, and its entry in the snapshot of the
    pass has `info_received` set, with the chunk count, block list and raw size of an
    `ObjectInfo` applied before; those are the values the load uses. -/
theorem Session.driver_loads {env : SessionEnv} {pull : List Ulid} {resources : Resources}
    {evs : List SessionEvent} {t : Session}
    (h : Session.Trace env (Session.init pull resources) evs t) :
    (loadIds evs).Nodup ∧
    ∀ pre id entry object seen post,
      evs = pre ++ .loadStarted id entry object seen :: post →
      (∃ o ∈ pull, id = o.toString) ∧ seen = some (object, none) ∧ entry.synced = true ∧
      SessionEvent.infoApplied id entry.chunks entry.blocklist entry.rawSize ∈ pre ∧
      (id, entry) ∈ lastSnapshot pre :=
  have hk := Session.loadsKept_of_trace h
  ⟨hk.loads_nodup, fun pre _ _ _ _ post hs => hk.loads_ok pre _ post hs⟩

/-- `O`'s `ObjectInfo`, one chunk and raw size 1, starts the driver, and its pass takes the
    snapshot; a second `ObjectInfo` for `O`, two chunks and raw size 2, is applied; then the
    driver visits `O`. -/
def staleInfoSteps : List SessionStep :=
  [.frame (.objectInfo objectO.id.toString 1 [] 1), .demux, .drive, .drive,
   .frame (.objectInfo objectO.id.toString 2 [] 2), .demux, .drive]

/-- The events and the last state of that run. -/
def staleInfoRun : List SessionEvent × Session :=
  (Session.runTrace replicaEnv (Session.init [objectO.id] cacheWithO) staleInfoSteps).getD
    ([], Session.init [objectO.id] cacheWithO)

set_option maxRecDepth 10000 in
theorem driver_loads_staleInfo :
    (loadIds staleInfoRun.1).Nodup ∧
    ∀ pre id entry object seen post,
      staleInfoRun.1 = pre ++ .loadStarted id entry object seen :: post →
      (∃ o ∈ [objectO.id], id = o.toString) ∧ seen = some (object, none) ∧
      entry.synced = true ∧
      SessionEvent.infoApplied id entry.chunks entry.blocklist entry.rawSize ∈ pre ∧
      (id, entry) ∈ lastSnapshot pre :=
  Session.driver_loads (@Session.trace_of_runTrace replicaEnv _ staleInfoSteps _ _ rfl)

set_option maxRecDepth 10000 in
/-- The load of `O` starts with one chunk and raw size 1, and `initialize_location` got raw
    size 1, while `O`'s entry, set by the latest `ObjectInfo`, says two chunks and raw
    size 2. -/
theorem load_with_stale_info :
    (Session.runTrace replicaEnv (Session.init [objectO.id] cacheWithO) staleInfoSteps).map
      (fun r => r.1.contains (.infoApplied objectO.id.toString 2 [] 2) &&
        match r.2.driver with
        | .loading _ _ id entry _ location _ =>
          id == objectO.id.toString && entry.chunks == 1 && entry.rawSize == 1 &&
            location.rawContentLen == 1 &&
            (r.2.handlers.lookup id).map (fun e => (e.chunks, e.rawSize)) == some (2, 2)
        | _ => false) = some true := by
  decide

end DataProxy
