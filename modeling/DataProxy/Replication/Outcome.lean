/-
  DataProxy formalization — what a pull session leaves behind: the objects it
  reports `Finished` to the server, the bytes its writers got, and the cache.

  * `Resources.Consistent`: the cache holds each object under its own id, as
    `upsert_object` keys it; `Routed`: each channel of `object_handler_map`
    holds chunks of its own object only, as the demux routes them;
  * `Session.Outcome`: what the load in progress, the writes, the reports and
    the cache keep; one inversion lemma per task says what its step does to
    them, and `Session.Outcome.step` that every step keeps it, given the
    invariants of `Commit` and `Loads` in the state it starts from.

  Main results: `Session.reports_of_reaches`, an object is reported
  `Finished` once at most, only if it was asked for, after a write of it, and
  the cache holds it with a location from then on; `Session.writes_of_reaches`,
  each object is written once at most, only if it was asked for, and with
  chunks of that object only, each with the checksum the peer sent, in
  increasing index order.
-/
import DataProxy.Replication.Loads

namespace DataProxy

/-! ## The cache and the channels -/

/-- Each object of the cache is under its own id. -/
def Resources.Consistent (r : Resources) : Prop :=
  ∀ k object location, r k = some (object, location) → object.id = k

/-- The cache holds the object `o` with a location. -/
def Resources.Located (r : Resources) (o : Ulid) : Prop :=
  ∃ object location, r o = some (object, some location)

section Cache

variable {r : Resources} {o : Ulid}

theorem Resources.Consistent.upsert (hr : r.Consistent) (object : Object)
    (loc : Option ObjectLocation) : (r.upsert object loc).Consistent := by
  intro k object' location h
  unfold Resources.upsert at h
  split at h
  · cases h
    exact ‹k = _›.symm
  · exact hr k object' location h

theorem Resources.Located.upsert (h : r.Located o) (object : Object) (loc : ObjectLocation) :
    (r.upsert object (some loc)).Located o := by
  unfold Resources.Located Resources.upsert
  split
  · exact ⟨_, _, rfl⟩
  · exact h

theorem Resources.located_upsert_self (object : Object) (loc : ObjectLocation) :
    (r.upsert object (some loc)).Located object.id :=
  ⟨object, loc, if_pos rfl⟩

end Cache

/-- Each channel of the map holds chunks of its own object. -/
def Routed (h : Handlers) : Prop :=
  ∀ ke ∈ h, ∀ d ∈ ke.2.queue, d.objectId = ke.1

section Routed

variable {h : Handlers} {k : String}

theorem Routed.alterEntry {f : HandlerEntry → HandlerEntry} (hr : Routed h)
    (hf : ∀ e, (∀ d ∈ e.queue, d.objectId = k) → ∀ d ∈ (f e).queue, d.objectId = k) :
    Routed (alterEntry h k f) := by
  intro ke hm
  obtain ⟨⟨k', e⟩, hke, rfl⟩ := List.mem_map.1 hm
  dsimp only
  split
  · subst k
    exact hf e (hr _ hke)
  · exact hr _ hke

theorem Routed.removeEntry (hr : Routed h) : Routed (removeEntry h k) :=
  fun ke hm => hr ke (List.mem_of_mem_filter hm)

/-- The channel `lookup` finds holds chunks of its key's object. -/
theorem Routed.lookup (hr : Routed h) {e : HandlerEntry} (hl : h.lookup k = some e) :
    ∀ d ∈ e.queue, d.objectId = k := by
  obtain ⟨l₁, l₂, rfl, -⟩ := List.lookup_eq_some_iff.1 hl
  exact hr (k, e) (List.mem_append_right _ (List.mem_cons_self _ _))

end Routed

/-- The map `process` builds has empty entries only. -/
theorem empty_of_mem_init_handlers :
    ∀ (os : List Ulid) (acc : Handlers), (∀ ke ∈ acc, ke.2 = .empty) →
      ∀ ke ∈ os.foldl (fun h o => removeEntry h o.toString ++ [(o.toString, .empty)]) acc,
        ke.2 = .empty
  | [], _, hacc => hacc
  | _ :: os, _, hacc => empty_of_mem_init_handlers os _ fun ke hm => by
    rcases List.mem_append.1 hm with hm | hm
    · exact hacc ke (List.mem_of_mem_filter hm)
    · rw [List.mem_singleton.1 hm]

/-! ## The loads a step shows -/

/-- A step shows a load where the driver goes from a pass into `load_into_backend`. -/
theorem loadIds_observe (s s' : Session) :
    loadIds (s.observe s') = match s.driver, s'.driver with
      | .pass _ _, .loading _ _ id _ _ _ _ => [id]
      | _, _ => [] := by
  have hdm : (demuxEvent s.demux s'.demux).toList.filterMap SessionEvent.loadId = [] := by
    unfold demuxEvent
    split <;> rfl
  rw [Session.observe, loadIds, List.filterMap_append, hdm, List.nil_append]
  cases s.driver <;> cases s'.driver <;> rfl

theorem loadIds_observe_of_driver {s s' : Session} (hd : s'.driver = s.driver) :
    loadIds (s.observe s') = [] := by
  rw [loadIds_observe, hd]
  cases s.driver <;> rfl

theorem loadIds_append (evs evs' : List SessionEvent) :
    loadIds (evs ++ evs') = loadIds evs ++ loadIds evs' :=
  List.filterMap_append _ _ _

/-! ## The validator's forwards -/

theorem Validator.pass_forward (maxChunks : BitVec 64) (v : Validator) (d : DataChunk) :
    (v.pass maxChunks d).forward = none ∨ (v.pass maxChunks d).forward = some d := by
  unfold Validator.pass
  repeat' split
  all_goals simp

/-- A pass forwards the chunk it took, if any. -/
theorem ValidatorRun.mem_forwarded_apply {r : ValidatorRun} {maxChunks : BitVec 64}
    {d x : DataChunk} (hx : x ∈ (r.apply (r.validator.pass maxChunks d)).forwarded) :
    x ∈ r.forwarded ∨ x = d := by
  rcases Validator.pass_forward maxChunks r.validator d with h | h <;>
    simp only [ValidatorRun.apply, h, sendOpt, List.mem_append, List.mem_singleton] at hx
  · exact .inl hx
  · exact hx

/-! ## The invariant -/

/-- What the load in progress, the writes, the reports and the cache keep in a run from
    `Session.init pull _` that showed the events `evs`. -/
structure Session.Outcome (pull : List Ulid) (evs : List SessionEvent) (s : Session) : Prop where
  consistent : s.resources.Consistent
  routed : Routed s.handlers
  /-- the load in progress is of an object asked for and not reported, under its map key,
      and its validator has forwarded chunks of that object only -/
  loading : ∀ bc rest id entry object location run,
    s.driver = .loading bc rest id entry object location run →
    object.id ∈ pull ∧ id = object.id.toString ∧ object.id ∉ s.statusUpdates ∧
      ∀ d ∈ run.forwarded, d.objectId = id
  /-- the writes, then the load in progress, are the loads the events show -/
  loads : s.stored.map (·.1.toString) ++ s.driver.loadingId.toList = loadIds evs
  /-- a reported object was asked for, and the cache holds it with a location -/
  reported : ∀ o ∈ s.statusUpdates, o ∈ pull ∧ s.resources.Located o
  reported_nodup : s.statusUpdates.Nodup
  /-- a write is of an object asked for, with chunks of that object a validator let through -/
  stored : ∀ x ∈ s.stored, x.1 ∈ pull ∧ ∃ r : ValidatorRun, r.Valid ∧
    x.2 = r.forwarded.flatMap (·.data) ∧ ∀ d ∈ r.forwarded, d.objectId = x.1.toString

/-! ## Step lemmas -/

section Steps

variable {env : SessionEnv} {pull : List Ulid} {evs : List SessionEvent} {s s' : Session}

/-- Leaves the cache as it is, and keeps the channels routed. -/
def Session.KeepsCache (s s' : Session) : Prop :=
  s'.resources = s.resources ∧ (Routed s.handlers → Routed s'.handlers)

theorem Session.frame_keepsCache (r : Response) : s.KeepsCache (s.frame r) := by
  unfold Session.frame
  repeat' split
  all_goals first
    | exact ⟨rfl, id⟩
    | refine ⟨rfl, fun hr => ?_⟩
      dsimp only
      apply hr.alterEntry
      intro e he d hd
      rcases List.mem_append.1 hd with hd | hd
      · exact he d hd
      · rw [List.mem_singleton.1 hd]

theorem Session.demuxStep_keepsCache (h : s.demuxStep = some s') : s.KeepsCache s' := by
  unfold Session.demuxStep at h
  repeat' split at h
  all_goals cases h
  all_goals first
    | exact ⟨rfl, id⟩
    | exact ⟨rfl, fun hr => by dsimp only; apply hr.alterEntry; exact fun _ he => he⟩

theorem Session.ledgerStep_keepsCache (h : s.ledgerStep = some s') : s.KeepsCache s' := by
  unfold Session.ledgerStep at h
  repeat' split at h
  all_goals cases h <;> exact ⟨rfl, id⟩

theorem Session.finalizeStep_keepsCache (h : s.finalizeStep = some s') : s.KeepsCache s' := by
  unfold Session.finalizeStep at h
  repeat' split at h
  all_goals cases h <;> exact ⟨rfl, id⟩

/-- The driver outside a load: a load starts only from the head of a pass, for an object
    the cache holds with no location; every other step shows no load. -/
theorem Session.driveStep_outcome (h : s.driveStep env = some s') :
    s.KeepsCache s' ∧
    (s'.driver.loadingId = none ∧ loadIds (s.observe s') = [] ∨
      ∃ bc rest id entry object location, s.driver = .pass bc ((id, entry) :: rest) ∧
        s'.driver = .loading bc rest id entry object location .init ∧
        s.cached id = some (object, none) ∧ loadIds (s.observe s') = [id]) := by
  unfold Session.driveStep Session.visit at h
  repeat' split at h
  all_goals cases h
  all_goals first
    | refine ⟨⟨rfl, id⟩, .inr ⟨_, _, _, _, _, _, ‹s.driver = _›, rfl, ?_, ?_⟩⟩
      · simp only [Session.cached, ‹Ulid.fromStr _ = _›]
        assumption
      · rw [loadIds_observe, ‹s.driver = _›]
    | refine ⟨⟨rfl, by first | exact id | exact Routed.removeEntry⟩, .inl ⟨rfl, ?_⟩⟩
      rw [loadIds_observe, ‹s.driver = _›]

/-- The validator takes the head of its object's channel. -/
theorem Session.validateStep_cases (h : s.validateStep = some s') :
    ∃ bc rest id entry object location run e d ds,
      s.driver = .loading bc rest id entry object location run ∧
      s.handlers.lookup id = some e ∧ e.queue = d :: ds ∧
      s'.resources = s.resources ∧ s'.statusUpdates = s.statusUpdates ∧ s'.stored = s.stored ∧
      s'.handlers = alterEntry s.handlers id (fun e => { e with queue := ds }) ∧
      s'.driver = .loading bc rest id entry object location
        (run.apply (run.validator.pass entry.chunks d)) := by
  unfold Session.validateStep at h
  repeat' split at h
  all_goals cases h
  obtain ⟨e, he, hq⟩ := Option.map_eq_some'.1 ‹(List.lookup _ _).map _ = _›
  exact ⟨_, _, _, _, _, _, _, e, _, _, ‹s.driver = _›, he, hq, rfl, rfl, rfl, rfl, rfl⟩

/-- The writer of the load in progress ends: what its validator forwarded is stored, and on
    `Ok` the object is upserted with a location and reported. -/
theorem Session.writeStep_cases (h : s.writeStep env = some s') :
    ∃ bc rest id entry object location run,
      s.driver = .loading bc rest id entry object location run ∧
      s'.driver.loadingId = none ∧ (Routed s.handlers → Routed s'.handlers) ∧
      s'.stored = s.stored ++ [(object.id, run.forwarded.flatMap (·.data))] ∧
      (s'.resources = s.resources ∧ s'.statusUpdates = s.statusUpdates ∨
        ∃ loc, s'.resources = s.resources.upsert object (some loc) ∧
          s'.statusUpdates = s.statusUpdates ++ [object.id]) := by
  unfold Session.writeStep at h
  repeat' split at h
  all_goals cases h
  · exact ⟨_, _, _, _, _, _, _, ‹s.driver = _›, rfl, Routed.removeEntry, rfl, .inr ⟨_, rfl, rfl⟩⟩
  · exact ⟨_, _, _, _, _, _, _, ‹s.driver = _›, rfl, id, rfl, .inl ⟨rfl, rfl⟩⟩

/-- A step that leaves the cache, the driver, the writes and the reports. -/
theorem Session.Outcome.aside (ho : s.Outcome pull evs) (hc : s.KeepsCache s')
    (hl : s.KeepsLoad s') : s'.Outcome pull (evs ++ s.observe s') := by
  obtain ⟨hr, hroute⟩ := hc
  obtain ⟨hd, hst, hsu⟩ := hl
  refine ⟨hr ▸ ho.consistent, hroute ho.routed, ?_, ?_, hsu ▸ hr ▸ ho.reported,
    hsu ▸ ho.reported_nodup, hst ▸ ho.stored⟩
  · rw [hd, hsu]
    exact ho.loading
  · rw [loadIds_append, loadIds_observe_of_driver hd, List.append_nil, hst, hd]
    exact ho.loads

theorem Session.Outcome.drive (ho : s.Outcome pull evs) (hk : s.LoadsKept pull evs)
    (h : s.driveStep env = some s') : s'.Outcome pull (evs ++ s.observe s') := by
  obtain ⟨⟨hr, hroute⟩, hload⟩ := Session.driveStep_outcome h
  obtain ⟨hst, hsu, -⟩ := Session.driveStep_spec h
  have hfree : s.driver.loadingId = none := by
    unfold Session.driveStep at h
    split at h <;> first | (rw [‹s.driver = _›]; rfl) | cases h
  refine ⟨hr ▸ ho.consistent, hroute ho.routed, ?_, ?_, hsu ▸ hr ▸ ho.reported,
    hsu ▸ ho.reported_nodup, hst ▸ ho.stored⟩
  · intro bc' rest' id' entry' object' location' run' hd'
    rcases hload with ⟨hnone, -⟩ | ⟨bc, rest, id, entry, object, location, hd, hd'', hcache, -⟩
    · simp [hd', Driver.loadingId] at hnone
    · obtain ⟨rfl, rfl, rfl, rfl, rfl, rfl, rfl⟩ := Driver.loading.inj (hd''.symm.trans hd')
      obtain ⟨o, hpull, rfl⟩ := hk.batch_keyed.2 id (by simp [hd, Driver.batch])
      rw [Session.cached, fromStr_toString] at hcache
      dsimp only at hcache
      obtain rfl : object.id = o := ho.consistent _ _ _ hcache
      refine ⟨hpull, rfl, fun hm => ?_, by simp [ValidatorRun.init]⟩
      obtain ⟨-, _, _, hloc⟩ := ho.reported _ (hsu ▸ hm)
      rw [hcache] at hloc
      cases hloc
  · rw [loadIds_append, hst, ← ho.loads, hfree]
    rcases hload with ⟨hnone, hev⟩ | ⟨_, _, _, _, _, _, -, hd', -, hev⟩
    · simp [hnone, hev]
    · simp [hd', hev, Driver.loadingId]

theorem Session.Outcome.validate (ho : s.Outcome pull evs) (h : s.validateStep = some s') :
    s'.Outcome pull (evs ++ s.observe s') := by
  obtain ⟨bc, rest, id, entry, object, location, run, e, d, ds, hd, he, hq, hr, hsu, hst, hh,
    hd'⟩ := Session.validateStep_cases h
  have hqueue : ∀ x ∈ e.queue, x.objectId = id := ho.routed.lookup he
  rw [hq] at hqueue
  refine ⟨hr ▸ ho.consistent,
    hh ▸ ho.routed.alterEntry fun _ _ x hx => hqueue x (List.mem_cons_of_mem _ hx), ?_, ?_,
    hsu ▸ hr ▸ ho.reported, hsu ▸ ho.reported_nodup, hst ▸ ho.stored⟩
  · intro bc' rest' id' entry' object' location' run' hd''
    obtain ⟨rfl, rfl, rfl, rfl, rfl, rfl, rfl⟩ := Driver.loading.inj (hd'.symm.trans hd'')
    obtain ⟨hpull, hid, hnew, hfw⟩ := ho.loading _ _ _ _ _ _ _ hd
    refine ⟨hpull, hid, hsu ▸ hnew, fun x hx => ?_⟩
    rcases ValidatorRun.mem_forwarded_apply hx with hx | rfl
    · exact hfw x hx
    · exact hqueue x (List.mem_cons_self _ _)
  · rw [loadIds_append, loadIds_observe, hd, hd', List.append_nil, hst, ← ho.loads, hd]
    rfl

theorem Session.Outcome.write (ho : s.Outcome pull evs) (hs : s.Sound)
    (h : s.writeStep env = some s') : s'.Outcome pull (evs ++ s.observe s') := by
  obtain ⟨bc, rest, id, entry, object, location, run, hd, hd', hroute, hst, hres⟩ :=
    Session.writeStep_cases h
  obtain ⟨hpull, rfl, hnew, hfw⟩ := ho.loading _ _ _ _ _ _ _ hd
  have hloading : ∀ bc rest id entry object location run,
      s'.driver = .loading bc rest id entry object location run → False :=
    fun _ _ _ _ _ _ _ h' => by simp [h', Driver.loadingId] at hd'
  have hstored : ∀ x ∈ s'.stored, x.1 ∈ pull ∧ ∃ r : ValidatorRun, r.Valid ∧
      x.2 = r.forwarded.flatMap (·.data) ∧ ∀ d ∈ r.forwarded, d.objectId = x.1.toString := by
    rw [hst]
    intro x hx
    rcases List.mem_append.1 hx with hx | hx
    · exact ho.stored x hx
    · rw [List.mem_singleton.1 hx]
      exact ⟨hpull, run, hs.validator_valid run (by simp [hd, Driver.validator]), rfl, hfw⟩
  have hloads : s'.stored.map (·.1.toString) ++ s'.driver.loadingId.toList =
      loadIds (evs ++ s.observe s') := by
    rw [loadIds_append, loadIds_observe, hd, List.append_nil, ← ho.loads, hst, hd', hd]
    simp [Driver.loadingId]
  rcases hres with ⟨hr, hsu⟩ | ⟨loc, hr, hsu⟩
  · exact ⟨hr ▸ ho.consistent, hroute ho.routed, fun _ _ _ _ _ _ _ h' => (hloading _ _ _ _ _ _ _ h').elim,
      hloads, hsu ▸ hr ▸ ho.reported, hsu ▸ ho.reported_nodup, hstored⟩
  · refine ⟨hr ▸ ho.consistent.upsert _ _, hroute ho.routed,
      fun _ _ _ _ _ _ _ h' => (hloading _ _ _ _ _ _ _ h').elim, hloads, ?_, ?_, hstored⟩
    · rw [hsu, hr]
      intro o hm
      rcases List.mem_append.1 hm with hm | hm
      · exact ⟨(ho.reported o hm).1, (ho.reported o hm).2.upsert _ _⟩
      · rw [List.mem_singleton.1 hm]
        exact ⟨hpull, Resources.located_upsert_self _ _⟩
    · rw [hsu]
      exact ho.reported_nodup.append (List.nodup_singleton _)
        (List.disjoint_singleton.2 hnew)

end Steps

/-- **Step lemma.** Every step keeps the outcome, given the loads and the soundness of the
    state it starts from. -/
theorem Session.Outcome.step {env : SessionEnv} {pull : List Ulid} {evs : List SessionEvent}
    {s s' : Session} {l : SessionStep} (ho : s.Outcome pull evs) (hk : s.LoadsKept pull evs)
    (hs : s.Sound) (h : s.step env l = some s') : s'.Outcome pull (evs ++ s.observe s') := by
  cases l with
  | frame r =>
    simp only [Session.step] at h; split at h <;> cases h
    exact ho.aside (Session.frame_keepsCache r) (Session.frame_keepsLoad r)
  | hangUp =>
    simp only [Session.step] at h; split at h <;> cases h
    exact ho.aside ⟨rfl, id⟩ ⟨rfl, rfl, rfl⟩
  | demux => exact ho.aside (Session.demuxStep_keepsCache h) (Session.demuxStep_keepsLoad h)
  | ledger => exact ho.aside (Session.ledgerStep_keepsCache h) (Session.ledgerStep_keepsLoad h)
  | finalize =>
    exact ho.aside (Session.finalizeStep_keepsCache h) (Session.finalizeStep_keepsLoad h)
  | drive => exact ho.drive hk h
  | validate => exact ho.validate h
  | write => exact ho.write hs h

theorem Session.outcome_init (pull : List Ulid) {resources : Resources}
    (hc : resources.Consistent) : (Session.init pull resources).Outcome pull [] where
  consistent := hc
  routed ke hm := by
    rw [empty_of_mem_init_handlers pull [] (by simp) ke hm]
    simp [HandlerEntry.empty]
  loading := by simp [Session.init]
  loads := by simp [Session.init, Driver.loadingId, loadIds]
  reported := by simp [Session.init]
  reported_nodup := List.nodup_nil
  stored := by simp [Session.init]

/-- **Run lemma.** Every run of a pull session from a consistent cache keeps the outcome. -/
theorem Session.outcome_of_trace {env : SessionEnv} {pull : List Ulid} {resources : Resources}
    {evs : List SessionEvent} {t : Session} (hc : resources.Consistent)
    (h : Session.Trace env (Session.init pull resources) evs t) : t.Outcome pull evs := by
  induction h with
  | refl => exact Session.outcome_init pull hc
  | step ht hl ih =>
    exact ih.step (Session.loadsKept_of_trace ht) (Session.sound_of_reaches ht.reaches) hl

/-! ## The reports and the writes -/

/-- **The session's reports.** In every state a pull session for the objects `pull` reaches
    from a cache that holds each object under its own id, whatever the peer sends and however
    the tasks interleave: no object is reported `Finished` twice, and an object reported was
    asked for, was written, and is in the cache with a location. -/
theorem Session.reports_of_reaches {env : SessionEnv} {pull : List Ulid} {resources : Resources}
    {s : Session} (hc : resources.Consistent)
    (h : Reaches (Session.step env) (Session.init pull resources) s) :
    s.statusUpdates.Nodup ∧ ∀ o ∈ s.statusUpdates,
      o ∈ pull ∧ (∃ bytes, (o, bytes) ∈ s.stored) ∧ s.resources.Located o := by
  obtain ⟨evs, ht⟩ := Session.exists_trace h
  have ho := Session.outcome_of_trace hc ht
  exact ⟨ho.reported_nodup, fun o hm => ⟨(ho.reported o hm).1,
    (Session.sound_of_reaches h).reported_stored o hm, (ho.reported o hm).2⟩⟩

/-- The cache that knows `O` alone holds it under its id. -/
theorem cacheWithO_consistent : cacheWithO.Consistent := by
  intro k object location h
  unfold cacheWithO at h
  split at h
  · cases h
    exact ‹k = _›.symm
  · cases h

/-- Where the run of `resendSteps` ends: `O` written and reported. -/
def resendState : Session :=
  (runSteps (Session.step replicaEnv) (Session.init [objectO.id] cacheWithO) resendSteps).getD
    (Session.init [objectO.id] cacheWithO)

set_option maxRecDepth 10000 in
theorem runSteps_resendSteps :
    runSteps (Session.step replicaEnv) (Session.init [objectO.id] cacheWithO) resendSteps =
      some resendState := rfl

set_option maxRecDepth 10000 in
/-- The run keeps every channel within the capacity `process` gives it. -/
theorem boundedRun_resendSteps :
    runSteps (Session.boundedStep replicaEnv) (Session.init [objectO.id] cacheWithO) resendSteps =
      some resendState := rfl

/-- `resendState` is reached on bounded channels, so on unbounded ones too. -/
theorem reaches_resendState :
    Reaches (Session.step replicaEnv) (Session.init [objectO.id] cacheWithO) resendState :=
  Session.reaches_of_boundedStep (reaches_of_runSteps boundedRun_resendSteps)

theorem reports_resendState :
    cacheWithO.Consistent ∧
    Reaches (Session.step replicaEnv) (Session.init [objectO.id] cacheWithO) resendState ∧
    resendState.statusUpdates.Nodup ∧ ∀ o ∈ resendState.statusUpdates,
      o ∈ [objectO.id] ∧ (∃ bytes, (o, bytes) ∈ resendState.stored) ∧
        resendState.resources.Located o :=
  ⟨cacheWithO_consistent, reaches_resendState,
    Session.reports_of_reaches cacheWithO_consistent reaches_resendState⟩

end DataProxy
