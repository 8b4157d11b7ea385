/-
  DataProxy formalization — a pull session that never ends. The validator of a
  load reads its object's channel until the channel closes, and the senders of
  that channel stay in `object_handler_map` and in the driver's snapshot while
  the load runs; the ledger reads the sync channel until the driver and the
  validator drop their senders, and the finalizer reads the finish channel until
  the ledger drops its own.

  * `Session.Stalled`: the peer's stream has ended, the driver is in a load
    whose validator waits for a chunk its channel does not hold, and the
    finalizer still waits for a snapshot no `Finish` will bring;
  * `Session.Stalled.step`: every step from such a state is the ledger's, and
    leaves the session stalled.

  Main result: `Session.stalled_forever`, from a stalled state the driver stays
  in its load and the finalizer keeps waiting, whatever runs next: `process`
  never returns, and `run`'s processing task, which awaits it, calls it never
  again.
-/
import DataProxy.Replication.Commit

namespace DataProxy

/-- The peer's stream has ended while the driver waits, in a load, for a chunk the object's
    channel does not hold; no `Finish` is on its way to the ledger, and the finalizer waits. -/
structure Session.Stalled (s : Session) : Prop where
  demux_done : s.demux.isDone = true
  waiting : ∃ bc rest id entry object location run,
    s.driver = .loading bc rest id entry object location run ∧ run.result = none ∧
      ∀ e, s.handlers.lookup id = some e → e.queue = []
  ledger_running : s.ledgerDone = false
  no_finish : RcvSync.finish ∉ s.sync
  finish_empty : s.finish = []
  finalizer_running : s.finalizer = .running

section Stalled

variable {env : SessionEnv} {s s' : Session}

theorem Session.Stalled.frame_none (hs : s.Stalled) (r : Response) :
    s.step env (.frame r) = none := by
  have : s.demux ≠ .ready := fun h => by simpa [h, Demux.isDone] using hs.demux_done
  simp [Session.step, this]

theorem Session.Stalled.hangUp_none (hs : s.Stalled) (result : Except TaskError Unit) :
    s.step env (.hangUp result) = none := by
  have : s.demux ≠ .ready := fun h => by simpa [h, Demux.isDone] using hs.demux_done
  simp [Session.step, this]

theorem Session.Stalled.demuxStep_none (hs : s.Stalled) : s.demuxStep = none := by
  have := hs.demux_done
  unfold Session.demuxStep
  split <;> simp_all [Demux.isDone]

theorem Session.Stalled.driveStep_none (hs : s.Stalled) : s.driveStep env = none := by
  obtain ⟨_, _, _, _, _, _, _, hd, -⟩ := hs.waiting
  simp [Session.driveStep, hd]

theorem Session.Stalled.validateStep_none (hs : s.Stalled) : s.validateStep = none := by
  obtain ⟨_, _, id, _, _, _, _, hd, -, hq⟩ := hs.waiting
  simp only [Session.validateStep, hd]
  split
  · rfl
  · cases hl : s.handlers.lookup id with
    | none => rfl
    | some e => simp [hq e hl]

theorem Session.Stalled.writeStep_none (hs : s.Stalled) : s.writeStep env = none := by
  obtain ⟨_, _, _, _, _, _, _, hd, hr, -⟩ := hs.waiting
  simp [Session.writeStep, hd, hr]

theorem Session.Stalled.finalizeStep_none (hs : s.Stalled) : s.finalizeStep = none := by
  simp [Session.finalizeStep, hs.finalizer_running, hs.finish_empty, hs.ledger_running]

/-- The ledger takes a marker that is not `Finish`, and waits once the channel is empty. -/
theorem Session.Stalled.ledgerStep (hs : s.Stalled) (h : s.ledgerStep = some s') :
    s'.Stalled ∧ s'.driver = s.driver := by
  obtain ⟨_, _, _, _, _, _, _, hd, -⟩ := hs.waiting
  unfold Session.ledgerStep at h
  rw [if_neg (by simp [hs.ledger_running])] at h
  split at h
  · exact absurd (List.mem_cons_self _ _) (‹s.sync = _› ▸ hs.no_finish)
  · cases h
    refine ⟨⟨hs.demux_done, hs.waiting, hs.ledger_running, fun hm => hs.no_finish ?_,
      hs.finish_empty, hs.finalizer_running⟩, rfl⟩
    rw [‹s.sync = _›]
    exact List.mem_cons_of_mem _ hm
  · simp [hd, Driver.isDone] at h

/-- **Step lemma.** From a stalled session only the ledger moves, and the session stays
    stalled with the driver where it is. -/
theorem Session.Stalled.step {l : SessionStep} (hs : s.Stalled) (h : s.step env l = some s') :
    s'.Stalled ∧ s'.driver = s.driver := by
  cases l with
  | frame r => simp [hs.frame_none r] at h
  | hangUp result => simp [hs.hangUp_none result] at h
  | demux => simp [Session.step, hs.demuxStep_none] at h
  | ledger => exact hs.ledgerStep h
  | drive => simp [Session.step, hs.driveStep_none] at h
  | validate => simp [Session.step, hs.validateStep_none] at h
  | write => simp [Session.step, hs.writeStep_none] at h
  | finalize => simp [Session.step, hs.finalizeStep_none] at h

end Stalled

/-- **A session that never ends.** From a state where the peer's stream has ended while
    the driver waits, in a load, for a chunk its object's channel does not hold, every run
    keeps the driver in that load and the finalizer waiting: `process` never returns. -/
theorem Session.stalled_forever {env : SessionEnv} {s t : Session} (hs : s.Stalled)
    (h : Reaches (Session.step env) s t) :
    t.driver = s.driver ∧ t.finalizer = .running ∧ t.ended = false := by
  have ht : t.Stalled ∧ t.driver = s.driver := by
    induction h with
    | refl => exact ⟨hs, rfl⟩
    | step _ hl ih =>
      obtain ⟨hs', hd'⟩ := ih.1.step hl
      exact ⟨hs', hd'.trans ih.2⟩
  refine ⟨ht.2, ht.1.finalizer_running, ?_⟩
  simp [Session.ended, ht.1.finalizer_running]

/-- `O`'s `ObjectInfo` announces two chunks; chunk 0 comes, then the peer's
    `FinishMessage`. The driver loads `O`, and its validator takes chunk 0 and waits for
    chunk 1. -/
def earlyFinishSteps : List SessionStep :=
  [.frame (.objectInfo objectO.id.toString 2 [] 2), .demux,
   .frame (.chunk objectO.id.toString 0 [0] "93b885adfe0da089cdf634904fd59f71"), .demux,
   .frame .finishMessage, .drive, .drive, .drive, .validate]

/-- Where the run of `earlyFinishSteps` ends. -/
def earlyFinishState : Session :=
  (runSteps (Session.step replicaEnv) (Session.init [objectO.id] cacheWithO)
    earlyFinishSteps).getD (Session.init [objectO.id] cacheWithO)

set_option maxRecDepth 10000 in
theorem runSteps_earlyFinishSteps :
    runSteps (Session.step replicaEnv) (Session.init [objectO.id] cacheWithO) earlyFinishSteps =
      some earlyFinishState := rfl

set_option maxRecDepth 10000 in
theorem earlyFinishState_stalled : earlyFinishState.Stalled :=
  ⟨rfl, ⟨_, _, _, _, _, _, _, rfl, rfl, fun e he => by
    have : e = ⟨[], 2, [], 2, true⟩ := Option.some.inj (he.symm.trans rfl)
    rw [this]⟩, rfl, by decide, rfl, rfl⟩

theorem stalled_forever_earlyFinish :
    Reaches (Session.step replicaEnv) (Session.init [objectO.id] cacheWithO) earlyFinishState ∧
    earlyFinishState.Stalled ∧
    ∀ t, Reaches (Session.step replicaEnv) earlyFinishState t →
      t.driver = earlyFinishState.driver ∧ t.finalizer = .running ∧ t.ended = false :=
  ⟨reaches_of_runSteps runSteps_earlyFinishSteps, earlyFinishState_stalled,
    fun _ h => Session.stalled_forever earlyFinishState_stalled h⟩

end DataProxy
