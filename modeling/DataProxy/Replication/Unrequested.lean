/-
  DataProxy formalization — a pull session whose peer announces an object the
  session did not ask for, on the bounded channels of `process`.

  * `strayInfoSteps`: the peer sends `x`'s `ObjectInfo` with no chunks and
    nothing else until `FinishMessage`; the driver makes its 21 passes
    (`skipPassSteps`) over entries whose `ObjectInfo` never comes, sends
    `Abort` and `Finish`, the finalizer checks the ledger's snapshot, and the
    tasks end;
  * `Session.runSteps_skipPass` and `Session.runSteps_skipPasses`: what a pass,
    and the driver's first 20 passes, do to such a session; after `Abort`,
    the ends of the tasks are those of a delivery (`Session.runSteps_finish`).

  Main result: `returns_unrequested`, for any objects the session asks for,
  known to the cache without a location, and any object `x` it does not ask
  for, this run ends with `process` returning `x` alone: the demux sends an
  `Info` marker for every `ObjectInfo`, requested or not, and the finalizer
  puts every announced object whose chunk markers match its count into
  `finished_objects`.
-/
import DataProxy.Replication.Delivery

namespace DataProxy

/-- One pass of the driver over `n` entries whose `ObjectInfo` never came: its snapshot, a
    visit of each entry, and the end of the pass. -/
def skipPassSteps (n : ℕ) : List SessionStep := .drive :: List.replicate n .drive ++ [.drive]

/-- The peer announces `x` with no chunks, and the ledger takes its marker; the driver starts,
    makes its 21 passes over the entries of `pull`, and sends `Finish`; the ledger hands its
    snapshot to the finalizer, which checks it; then the peer's `FinishMessage` and the ends of
    the tasks. -/
def strayInfoSteps (pull : List Ulid) (x : Ulid) : List SessionStep :=
  (Served.mk [] [] 0).infoSteps x ++ [.drive] ++
    (List.replicate 21 (skipPassSteps pull.length)).flatten ++ [.drive, .ledger, .finalize] ++
    [.frame .finishMessage, .drive, .ledger, .finalize]

/-- The session once the peer has announced `x` and the driver has started. -/
def Session.strayStarted (pull : List Ulid) (resources : Resources) (x : Ulid) : Session :=
  { Session.init pull resources with
    counter := 1
    ledger := [(Served.mk [] [] 0).infoMarker x]
    requests := [.infoAck x.toString]
    driver := .nextPass 0 }

/-! ## Passes over entries that never fill -/

section Skips

variable {env : SessionEnv} {s : Session} {bc : ℕ}

/-- The driver visits an entry whose `ObjectInfo` never came, of an object the cache knows
    without a location, and passes over it. -/
theorem Session.step_skip {o : Ulid} {object : Object} {rest : Handlers}
    (hdr : s.driver = .pass bc ((o.toString, .empty) :: rest)) (hd : s.demux = .ready)
    (hr : s.resources o = some (object, none)) :
    s.step env .drive = some { s with driver := .pass bc rest } := by
  simp [Session.step, Session.driveStep, hdr, hd, Demux.holds, Session.visit, fromStr_toString,
    hr, HandlerEntry.empty]

/-- The visits of a pass over the entries of `os`. -/
theorem Session.runSteps_skips : ∀ (os : List Ulid) (s : Session), s.demux = .ready →
    s.withinCapacity = true → (∀ o ∈ os, ∃ object, s.resources o = some (object, none)) →
    s.driver = .pass bc (os.map fun o => (o.toString, .empty)) →
    runSteps (Session.boundedStep env) s (List.replicate os.length .drive) =
      some { s with driver := .pass bc [] }
  | [], s, _, _, _, hdr => by
    rw [List.map_nil] at hdr
    rw [← hdr]
    rfl
  | o :: os, s, hd, hc, hres, hdr => by
    obtain ⟨object, hr⟩ := hres o (List.mem_cons_self _ _)
    rw [List.length_cons, List.replicate_succ, runSteps_cons_of_step
      (Session.boundedStep_of_step (Session.step_skip hdr hd hr) hc)]
    exact Session.runSteps_skips os _ hd hc (fun o' h => hres o' (List.mem_cons_of_mem _ h)) rfl

theorem Session.step_passEnd_pending (hdr : s.driver = .pass bc [])
    (hh : s.handlers.isEmpty = false) :
    s.step env .drive = some (if 20 < bc
      then { s with requests := s.requests ++ [.abort], driver := .aborting }
      else { s with driver := .nextPass bc }) := by
  by_cases hb : 20 < bc <;> simp [Session.step, Session.driveStep, hdr, hh, hb]

theorem Session.step_aborting (hdr : s.driver = .aborting) :
    s.step env .drive = some { s with sync := s.sync ++ [.finish], driver := .awaitStart } := by
  simp [Session.step, Session.driveStep, hdr]

/-- A pass over entries that never fill: the driver's snapshot, its visits, and the end of the
    pass, which sends `Abort` after the 21st pass and goes on to the next pass before. -/
theorem Session.runSteps_skipPass {pull : List Ulid} (hne : pull ≠ [])
    (hdr : s.driver = .nextPass bc) (hh : s.handlers = pull.map fun o => (o.toString, .empty))
    (hd : s.demux = .ready) (hc : s.withinCapacity = true)
    (hres : ∀ o ∈ pull, ∃ object, s.resources o = some (object, none)) :
    runSteps (Session.boundedStep env) s (skipPassSteps pull.length) =
      some (if 20 < bc + 1 then { s with requests := s.requests ++ [.abort], driver := .aborting }
        else { s with driver := .nextPass (bc + 1) }) := by
  have hne' : s.handlers.isEmpty = false := by simpa [hh] using hne
  rw [skipPassSteps, List.cons_append, runSteps_cons_of_step (Session.boundedStep_of_step
      (Session.step_nextPass hdr) hc),
    runSteps_append_of (Session.runSteps_skips pull { s with driver := .pass (bc + 1) s.handlers }
      hd hc hres (congrArg (Driver.pass (bc + 1)) hh)),
    runSteps_cons_of_step (Session.boundedStep_of_step
      (Session.step_passEnd_pending (s := { s with driver := .pass (bc + 1) [] }) rfl hne')
      (by split <;> exact hc))]
  split <;> rfl

/-- **Phase lemma.** The driver's first `k` passes, for `k` up to `20`, over entries that never
    fill. -/
theorem Session.runSteps_skipPasses {pull : List Ulid} (hne : pull ≠ [])
    (hdr : s.driver = .nextPass 0) (hh : s.handlers = pull.map fun o => (o.toString, .empty))
    (hd : s.demux = .ready) (hc : s.withinCapacity = true)
    (hres : ∀ o ∈ pull, ∃ object, s.resources o = some (object, none)) :
    ∀ k, k ≤ 20 → runSteps (Session.boundedStep env) s
      (List.replicate k (skipPassSteps pull.length)).flatten = some { s with driver := .nextPass k }
  | 0, _ => by
    rw [← hdr]
    rfl
  | k + 1, hk => by
    rw [List.replicate_succ', List.flatten_append,
      runSteps_append_of (Session.runSteps_skipPasses hne hdr hh hd hc hres k (by omega)),
      List.flatten_singleton,
      Session.runSteps_skipPass (s := { s with driver := .nextPass k }) hne rfl hh hd hc hres,
      if_neg (by omega)]

end Skips

/-! ## What `process` returns -/

section Stray

variable {env : SessionEnv} {resources : Resources} {pull : List Ulid} {x : Ulid}

theorem Session.strayStarted_handlers (resources : Resources) (x : Ulid) (hp : pull.Nodup) :
    (Session.strayStarted pull resources x).handlers = pull.map fun o => (o.toString, .empty) :=
  init_handlers (r := resources) hp

theorem Session.queues_strayStarted (resources : Resources) (x : Ulid) (hp : pull.Nodup) :
    ∀ e ∈ (Session.strayStarted pull resources x).handlers, e.2.queue.length ≤ 1 :=
  queues_le_of_nil (by simp [Session.strayStarted_handlers resources x hp, HandlerEntry.empty])

theorem Session.withinCapacity_strayStarted (hp : pull.Nodup) :
    (Session.strayStarted pull resources x).withinCapacity = true :=
  Session.withinCapacity_of (Nat.zero_le _) (Nat.zero_le _) (Nat.zero_le _)
    (Session.queues_strayStarted resources x hp)

/-- The peer's announcement of an object the session did not ask for leaves the map as it is;
    its marker reaches the ledger, and the driver starts. -/
theorem Session.runSteps_strayStarted (hp : pull.Nodup) (hx : x ∉ pull) :
    runSteps (Session.boundedStep env) (Session.init pull resources)
      ((Served.mk [] [] 0).infoSteps x ++ [.drive]) =
      some (Session.strayStarted pull resources x) := by
  have hh : (Session.init pull resources).handlers = pull.map fun o => (o.toString, .empty) :=
    init_handlers hp
  have hk : x.toString ∉ (Session.init pull resources).handlers.map Prod.fst := by
    rw [hh, List.map_map]
    simpa [Function.comp_def, Ulid.toString_injective.eq_iff] using hx
  refine Eq.trans (runSteps_append_of (Session.runSteps_info ⟨[], [], 0⟩ x (by rfl) (by rfl)
    (by rfl) (by rfl) (by rfl) (by rfl) (by simp [hh, HandlerEntry.empty]))) ?_
  rw [alterEntry_of_not_mem _ hk]
  exact Eq.trans (runSteps_cons_of_step (Session.boundedStep_of_step
    (Session.step_start (by rfl) (by rfl)) (Session.withinCapacity_strayStarted hp))) rfl

/-- The driver's 21 passes over entries that never fill, after which it sends `Abort`. -/
theorem Session.runSteps_strayPasses (hp : pull.Nodup) (hne : pull ≠ [])
    (hres : ∀ o ∈ pull, ∃ object, resources o = some (object, none)) :
    runSteps (Session.boundedStep env) (Session.strayStarted pull resources x)
      (List.replicate 21 (skipPassSteps pull.length)).flatten =
      some { Session.strayStarted pull resources x with
        requests := [.infoAck x.toString, .abort], driver := .aborting } := by
  have hc : (Session.strayStarted pull resources x).withinCapacity = true :=
    Session.withinCapacity_strayStarted hp
  rw [List.replicate_succ', List.flatten_append, runSteps_append_of
    (Session.runSteps_skipPasses (s := Session.strayStarted pull resources x) hne rfl
      (Session.strayStarted_handlers resources x hp) rfl hc hres 20 le_rfl),
    List.flatten_singleton, Session.runSteps_skipPass
      (s := { Session.strayStarted pull resources x with driver := .nextPass 20 }) hne rfl
      (Session.strayStarted_handlers resources x hp) rfl hc hres, if_pos (by omega)]
  rfl

end Stray

/-- **A result that was not asked for.** For any objects `pull` the session asks for, each
    known to the cache without a location, and any object `x` it does not ask for: if the peer
    announces `x` with no chunks and sends nothing else until its `FinishMessage`, then on
    bounded channels the driver gives up after its 21st pass, the finalizer's check passes on
    `x`'s marker, and the session ends with `process` returning `x`, and nothing it asked for. -/
theorem returns_unrequested (env : SessionEnv) (resources : Resources) {pull : List Ulid}
    {x : Ulid} (hp : pull.Nodup) (hne : pull ≠ []) (hx : x ∉ pull)
    (hres : ∀ o ∈ pull, ∃ object, resources o = some (object, none)) :
    ∃ s, runSteps (Session.boundedStep env) (Session.init pull resources) (strayInfoSteps pull x) =
        some s ∧ s.ended = true ∧ s.finalizer = .returned [.pull x] := by
  have hcheck : checkInfos [(Served.mk [] [] 0).infoMarker x]
      (infos [(Served.mk [] [] 0).infoMarker x]) [] = some [(.pull x, false)] := by
    simp [checkInfos, infos, collected, setFinished, Served.infoMarker]
  have hq := Session.queues_strayStarted resources x hp
  rw [strayInfoSteps, List.append_assoc, List.append_assoc,
    runSteps_append_of (Session.runSteps_strayStarted hp hx),
    runSteps_append_of (Session.runSteps_strayPasses hp hne hres), List.cons_append]
  refine ⟨_, Eq.trans (runSteps_cons_of_step (Session.boundedStep_of_step
    (Session.step_aborting (by rfl))
    (Session.withinCapacity_of (Nat.zero_le _) (Nat.le_refl _) (Nat.zero_le _) hq)))
    (Session.runSteps_finish [(.pull x, false)] (by rfl) (by rfl) (by rfl) (by rfl) (by rfl)
      (by rfl) (by rfl) hq hcheck), rfl, rfl⟩

/-- The peer serves `A` to a session that asked for `O` alone. -/
theorem returns_unrequested_objectA :
    [objectO.id].Nodup ∧ [objectO.id] ≠ [] ∧ objectA.id ∉ [objectO.id] ∧
      (∀ o ∈ [objectO.id], ∃ object, cacheWithO o = some (object, none)) ∧
      ∃ s, runSteps (Session.boundedStep replicaEnv) (Session.init [objectO.id] cacheWithO)
          (strayInfoSteps [objectO.id] objectA.id) = some s ∧
        s.ended = true ∧ s.finalizer = .returned [.pull objectA.id] :=
  have hres : ∀ o ∈ [objectO.id], ∃ object, cacheWithO o = some (object, none) := by
    simp only [List.mem_singleton]
    rintro o rfl
    exact ⟨objectO, if_pos rfl⟩
  ⟨List.nodup_singleton _, List.cons_ne_nil _ _, by decide, hres,
    returns_unrequested replicaEnv cacheWithO (List.nodup_singleton _) (List.cons_ne_nil _ _)
      (by decide) hres⟩

end DataProxy
