/-
  DataProxy formalization — what `process` returns for an endpoint, the
  objects `run` then evicts from the queue: the keys of `finished_objects`.

  * `Session.FinishedOk`: an entry of `finished_objects` is an object the
    driver found with a location in the cache (`true`), or one whose `Info`
    marker the ledger holds with at least as many chunk markers as it
    announced (`false`);
  * `Session.ResultKept`: the ledger is a set that only grows, each snapshot is
    a prefix of it, every entry of `finished_objects` is `FinishedOk`, and once
    `process` has returned, the driver has ended and the result is the keys of
    `finished_objects`.

  Main result: `Session.returned_of_reaches`, each object `process` returns
  was asked for and has a location in the cache, or had its `Info` marker and
  as many distinct chunk markers as it announced in the ledger; nothing more:
  the markers name chunks that arrived, not chunks that were written, and the
  second case holds of objects that were not asked for too
  (`returns_unrequested`).
-/
import DataProxy.Replication.Outcome

namespace DataProxy

/-! ## The ledger and `finished_objects` -/

theorem mem_setFinished {f : List (Direction × Bool)} {d : Direction} {b : Bool}
    {x : Direction × Bool} (h : x ∈ setFinished f d b) : x = (d, b) ∨ x ∈ f := by
  rcases List.mem_append.1 h with h | h
  · exact .inr (List.mem_of_mem_filter h)
  · exact .inl (List.mem_singleton.1 h)

theorem mem_infos {snap : List RcvSync} {x : Ulid × BitVec 64} (h : x ∈ infos snap) :
    RcvSync.info x.1 x.2 ∈ snap := by
  obtain ⟨m, hm, hx⟩ := List.mem_filterMap.1 h
  cases m <;> simp only [Option.some.injEq, reduceCtorEq] at hx
  rw [← hx]
  exact hm

theorem collected_mono {snap l : List RcvSync} (h : snap <+: l) (id : Ulid) :
    collected snap id ≤ collected l id :=
  (h.sublist.filter _).length_le

/-- An entry the finalizer's loop adds is an object of the snapshot whose count matches. -/
theorem mem_checkInfos (snap : List RcvSync) :
    ∀ (is : List (Ulid × BitVec 64)) (f f' : List (Direction × Bool)),
      checkInfos snap is f = some f' → ∀ x ∈ f', x ∈ f ∨
        ∃ y ∈ is, x = (.pull y.1, false) ∧ y.2.toNat = collected snap y.1
  | [], _, _, h => by
    cases h
    exact fun x hx => .inl hx
  | (id, chunks) :: rest, f, f', h => by
    unfold checkInfos at h
    intro x hx
    split at h
    · split at h
      · rcases mem_checkInfos snap rest f f' h x hx with hx | ⟨y, hy, hxy⟩
        · exact .inl hx
        · exact .inr ⟨y, List.mem_cons_of_mem _ hy, hxy⟩
      · cases h
    · rcases mem_checkInfos snap rest _ f' h x hx with hx | ⟨y, hy, hxy⟩
      · rcases mem_setFinished hx with rfl | hx
        · exact .inr ⟨(id, chunks), List.mem_cons_self _ _, rfl, not_not.1 ‹_›⟩
        · exact .inl hx
      · exact .inr ⟨y, List.mem_cons_of_mem _ hy, hxy⟩

/-- What an entry of `finished_objects` says of its object: the driver found it with a
    location (`true`), or the ledger holds its `Info` marker and at least as many chunk
    markers as the marker announced (`false`). -/
def Session.FinishedOk (pull : List Ulid) (s : Session) (x : Direction × Bool) : Prop :=
  ∃ o, x.1 = .pull o ∧
    (x.2 = true ∧ o ∈ pull ∧ s.resources.Located o ∨
      x.2 = false ∧ ∃ n, RcvSync.info o n ∈ s.ledger ∧ n.toNat ≤ collected s.ledger o)

theorem Session.FinishedOk.mono {pull : List Ulid} {s s' : Session} {x : Direction × Bool}
    (h : s.FinishedOk pull x) (hr : ∀ o, s.resources.Located o → s'.resources.Located o)
    (hl : s.ledger <+: s'.ledger) : s'.FinishedOk pull x := by
  obtain ⟨o, hx, ⟨hb, hp, hloc⟩ | ⟨hb, n, hn, hc⟩⟩ := h
  · exact ⟨o, hx, .inl ⟨hb, hp, hr o hloc⟩⟩
  · exact ⟨o, hx, .inr ⟨hb, n, hl.subset hn, hc.trans (collected_mono hl o)⟩⟩

/-- What the ledger, the snapshots, `finished_objects` and the finalizer keep. -/
structure Session.ResultKept (pull : List Ulid) (s : Session) : Prop where
  ledger_nodup : s.ledger.Nodup
  snapshots : ∀ snap ∈ s.finish, snap <+: s.ledger
  finished : ∀ x ∈ s.finished, s.FinishedOk pull x
  /-- the ledger ends after the driver, or once the finalizer no longer waits -/
  ledger_done : s.ledgerDone = true → s.driver.isDone = true ∨ s.finalizer ≠ .running
  /-- `process` returns after the driver, with the keys of `finished_objects` -/
  returned : ∀ fs, s.finalizer = .returned fs → s.driver.isDone = true ∧ fs = s.finished.map (·.1)

/-! ## Step lemmas -/

section Steps

variable {env : SessionEnv} {pull : List Ulid} {evs : List SessionEvent} {s s' : Session}

/-- Leaves the ledger, the snapshots, `finished_objects`, the ledger's end and the finalizer;
    keeps a driver that has ended, and every location in the cache. -/
def Session.KeepsResult (s s' : Session) : Prop :=
  s'.ledger = s.ledger ∧ s'.finish = s.finish ∧ s'.finished = s.finished ∧
    s'.ledgerDone = s.ledgerDone ∧ s'.finalizer = s.finalizer ∧
    (s.driver.isDone = true → s'.driver.isDone = true) ∧
    ∀ o, s.resources.Located o → s'.resources.Located o

theorem Session.frame_keepsResult (r : Response) : s.KeepsResult (s.frame r) := by
  unfold Session.frame
  repeat' split
  all_goals exact ⟨rfl, rfl, rfl, rfl, rfl, id, fun _ => id⟩

theorem Session.demuxStep_keepsResult (h : s.demuxStep = some s') : s.KeepsResult s' := by
  unfold Session.demuxStep at h
  repeat' split at h
  all_goals cases h <;> exact ⟨rfl, rfl, rfl, rfl, rfl, id, fun _ => id⟩

theorem Session.validateStep_keepsResult (h : s.validateStep = some s') : s.KeepsResult s' := by
  unfold Session.validateStep at h
  repeat' split at h
  all_goals cases h
  exact ⟨rfl, rfl, rfl, rfl, rfl, by simp [‹s.driver = _›, Driver.isDone], fun _ => id⟩

theorem Session.writeStep_keepsResult (h : s.writeStep env = some s') : s.KeepsResult s' := by
  unfold Session.writeStep at h
  repeat' split at h
  all_goals cases h
  · exact ⟨rfl, rfl, rfl, rfl, rfl, by simp [‹s.driver = _›, Driver.isDone],
      fun _ h => h.upsert _ _⟩
  · exact ⟨rfl, rfl, rfl, rfl, rfl, fun _ => rfl, fun _ => id⟩

/-- The driver outside a load: `finished_objects` gains, at most, an object of its pass that
    the cache holds with a location. -/
theorem Session.driveStep_result (h : s.driveStep env = some s') :
    s'.ledger = s.ledger ∧ s'.finish = s.finish ∧ s'.ledgerDone = s.ledgerDone ∧
    s'.finalizer = s.finalizer ∧ s'.resources = s.resources ∧ s.driver.isDone = false ∧
    (s'.finished = s.finished ∨ ∃ bc id entry rest o, s.driver = .pass bc ((id, entry) :: rest) ∧
      Ulid.fromStr id = .ok o ∧ s.resources.Located o ∧
      s'.finished = setFinished s.finished (.pull o) true) := by
  unfold Session.driveStep Session.visit at h
  repeat' split at h
  all_goals cases h
  all_goals first
    | exact ⟨rfl, rfl, rfl, rfl, rfl, by simp [‹s.driver = _›, Driver.isDone],
        .inr ⟨_, _, _, _, _, ‹s.driver = _›, ‹_›, ⟨_, _, ‹s.resources _ = _›⟩, rfl⟩⟩
    | exact ⟨rfl, rfl, rfl, rfl, rfl, by simp [‹s.driver = _›, Driver.isDone], .inl rfl⟩

/-- The ledger adds a marker it does not hold, hands a copy of itself to the finalizer at a
    `Finish`, or ends. -/
theorem Session.ledgerStep_result (h : s.ledgerStep = some s') :
    s'.finished = s.finished ∧ s'.finalizer = s.finalizer ∧ s'.driver = s.driver ∧
    s'.resources = s.resources ∧
    ((∃ m, s'.ledger = (if m ∈ s.ledger then s.ledger else s.ledger ++ [m]) ∧
        s'.finish = s.finish ∧ s'.ledgerDone = s.ledgerDone) ∨
      (s'.ledger = s.ledger ∧ s'.finish = s.finish ++ [s.ledger] ∧
        s'.ledgerDone = s.ledgerDone) ∨
      (s'.ledger = s.ledger ∧ s'.finish = s.finish ∧
        (s.driver.isDone = true ∨ s.finalizer ≠ .running))) := by
  unfold Session.ledgerStep at h
  split at h
  · cases h
  · split at h
    · split at h <;> cases h
      · exact ⟨rfl, rfl, rfl, rfl, .inr (.inl ⟨rfl, rfl, rfl⟩)⟩
      · exact ⟨rfl, rfl, rfl, rfl, .inr (.inr ⟨rfl, rfl, .inr ‹s.finalizer = _ → False›⟩)⟩
    · cases h
      exact ⟨rfl, rfl, rfl, rfl, .inl ⟨_, rfl, rfl, rfl⟩⟩
    · split at h <;> cases h
      exact ⟨rfl, rfl, rfl, rfl, .inr (.inr ⟨rfl, rfl, .inl (Bool.and_eq_true_iff.1 ‹_›).2⟩)⟩

/-- The finalizer takes the first snapshot and checks it, or returns once the ledger has
    ended. -/
theorem Session.finalizeStep_result (h : s.finalizeStep = some s') :
    s'.ledger = s.ledger ∧ s'.driver = s.driver ∧ s'.resources = s.resources ∧
    s'.ledgerDone = s.ledgerDone ∧ s.finalizer = .running ∧
    ((∃ snap e, s.finish = snap :: s'.finish ∧ s'.finalizer = .failed e ∧
        s'.finished = s.finished) ∨
      (∃ snap, s.finish = snap :: s'.finish ∧ s'.finalizer = .running ∧
        checkInfos snap (infos snap) s.finished = some s'.finished) ∨
      (s.finish = [] ∧ s'.finish = [] ∧ s.ledgerDone = true ∧
        s'.finalizer = .returned (s.finished.map (·.1)) ∧ s'.finished = s.finished)) := by
  unfold Session.finalizeStep at h
  repeat' split at h
  all_goals cases h
  · exact ⟨rfl, rfl, rfl, rfl, ‹_›, .inr (.inl ⟨_, ‹_›, ‹_›, ‹_›⟩)⟩
  · exact ⟨rfl, rfl, rfl, rfl, ‹_›, .inl ⟨_, _, ‹_›, rfl, rfl⟩⟩
  · exact ⟨rfl, rfl, rfl, rfl, ‹_›, .inr (.inr ⟨‹_›, ‹_›, ‹_›, rfl, rfl⟩)⟩

theorem Session.ResultKept.keep (hk : s.ResultKept pull) (h : s.KeepsResult s') :
    s'.ResultKept pull := by
  obtain ⟨hl, hf, hfin, hd, hfz, hdone, hloc⟩ := h
  refine ⟨hl ▸ hk.ledger_nodup, hf ▸ hl ▸ hk.snapshots, fun x hx => ?_, fun h' => ?_,
    fun fs h' => ?_⟩
  · exact (hk.finished x (hfin ▸ hx)).mono hloc (hl ▸ List.prefix_refl _)
  · rw [hfz]
    exact (hk.ledger_done (hd ▸ h')).imp_left hdone
  · obtain ⟨h1, h2⟩ := hk.returned fs (hfz ▸ h')
    exact ⟨hdone h1, hfin ▸ h2⟩

theorem Session.ResultKept.drive (hk : s.ResultKept pull) (hl : s.LoadsKept pull evs)
    (h : s.driveStep env = some s') : s'.ResultKept pull := by
  obtain ⟨hled, hf, hd, hfz, hr, hnd, hfin⟩ := Session.driveStep_result h
  have hok : ∀ x ∈ s.finished, s'.FinishedOk pull x := fun x hx =>
    (hk.finished x hx).mono (fun _ => hr ▸ id) (hled ▸ List.prefix_refl _)
  refine ⟨hled ▸ hk.ledger_nodup, hf ▸ hled ▸ hk.snapshots, ?_, fun h' => ?_, fun fs h' => ?_⟩
  · rcases hfin with hfin | ⟨bc, id, entry, rest, o, hpass, hid, hloc, hfin⟩
    · exact hfin ▸ hok
    · intro x hx
      rw [hfin] at hx
      rcases mem_setFinished hx with rfl | hx
      · obtain ⟨p, hp, rfl⟩ := hl.batch_keyed.2 id (by simp [hpass, Driver.batch])
        rw [fromStr_toString, Except.ok.injEq] at hid
        subst hid
        exact ⟨p, rfl, .inl ⟨rfl, hp, hr ▸ hloc⟩⟩
      · exact hok x hx
  · rcases hk.ledger_done (hd ▸ h') with h'' | h''
    · simp [hnd] at h''
    · exact .inr (hfz ▸ h'')
  · obtain ⟨h1, -⟩ := hk.returned fs (hfz ▸ h')
    simp [hnd] at h1

theorem Session.ResultKept.ledger (hk : s.ResultKept pull) (h : s.ledgerStep = some s') :
    s'.ResultKept pull := by
  obtain ⟨hfin, hfz, hdr, hr, hcase⟩ := Session.ledgerStep_result h
  have hrest : ∀ (hp : s.ledger <+: s'.ledger), (∀ x ∈ s'.finished, s'.FinishedOk pull x) ∧
      (∀ fs, s'.finalizer = .returned fs → s'.driver.isDone = true ∧
        fs = s'.finished.map (·.1)) := fun hp =>
    ⟨fun x hx => (hk.finished x (hfin ▸ hx)).mono (fun _ => hr ▸ id) hp,
      fun fs h' => hfin ▸ hdr ▸ hk.returned fs (hfz ▸ h')⟩
  rcases hcase with ⟨m, hl, hf, hd⟩ | ⟨hl, hf, hd⟩ | ⟨hl, hf, hend⟩
  · have hp : s.ledger <+: s'.ledger := by
      rw [hl]
      split
      · exact List.prefix_refl _
      · exact List.prefix_append _ _
    refine ⟨?_, fun snap hs => (hk.snapshots snap (hf ▸ hs)).trans hp, (hrest hp).1,
      fun h' => hfz ▸ hdr ▸ hk.ledger_done (hd ▸ h'), (hrest hp).2⟩
    rw [hl]
    split
    · exact hk.ledger_nodup
    · exact hk.ledger_nodup.append (List.nodup_singleton m) (List.disjoint_singleton.2 ‹_›)
  · have hp : s.ledger <+: s'.ledger := hl ▸ List.prefix_refl _
    refine ⟨hl ▸ hk.ledger_nodup, fun snap hs => ?_, (hrest hp).1,
      fun h' => hfz ▸ hdr ▸ hk.ledger_done (hd ▸ h'), (hrest hp).2⟩
    rw [hf, List.mem_append, List.mem_singleton] at hs
    rcases hs with hs | rfl
    · exact (hk.snapshots snap hs).trans hp
    · exact hp
  · have hp : s.ledger <+: s'.ledger := hl ▸ List.prefix_refl _
    exact ⟨hl ▸ hk.ledger_nodup, hf ▸ hl ▸ hk.snapshots, (hrest hp).1,
      fun _ => hfz ▸ hdr ▸ hend, (hrest hp).2⟩

theorem Session.ResultKept.finalize (hk : s.ResultKept pull) (h : s.finalizeStep = some s') :
    s'.ResultKept pull := by
  obtain ⟨hl, hdr, hr, hd, hrun, hcase⟩ := Session.finalizeStep_result h
  have hok : ∀ x ∈ s.finished, s'.FinishedOk pull x := fun x hx =>
    (hk.finished x hx).mono (fun _ => hr ▸ id) (hl ▸ List.prefix_refl _)
  have hsnaps : ∀ snap, s.finish = snap :: s'.finish → ∀ snap' ∈ s'.finish, snap' <+: s'.ledger :=
    fun snap hf snap' hs => hl ▸ hk.snapshots snap' (hf ▸ List.mem_cons_of_mem _ hs)
  have hend : s'.ledgerDone = true → s'.driver.isDone = true := fun h' =>
    hdr ▸ (hk.ledger_done (hd ▸ h')).resolve_right (not_not.2 hrun)
  rcases hcase with ⟨snap, e, hf, hfz, hfin⟩ | ⟨snap, hf, hfz, hcheck⟩ | ⟨hf, hf', hld, hfz, hfin⟩
  · refine ⟨hl ▸ hk.ledger_nodup, hsnaps snap hf, hfin ▸ hok, fun h' => .inl (hend h'),
      fun fs h' => ?_⟩
    rw [hfz] at h'
    cases h'
  · refine ⟨hl ▸ hk.ledger_nodup, hsnaps snap hf, fun x hx => ?_, fun h' => .inl (hend h'),
      fun fs h' => ?_⟩
    · rcases mem_checkInfos snap _ _ _ hcheck x hx with hx | ⟨y, hy, rfl, hc⟩
      · exact hok x hx
      · have hp : snap <+: s'.ledger := hl ▸ hk.snapshots snap (hf ▸ List.mem_cons_self _ _)
        exact ⟨y.1, rfl, .inr ⟨rfl, y.2, hp.subset (mem_infos hy),
          hc ▸ collected_mono hp y.1⟩⟩
    · rw [hfz] at h'
      cases h'
  · refine ⟨hl ▸ hk.ledger_nodup, by simp [hf'], hfin ▸ hok, fun h' => .inl (hend h'),
      fun fs h' => ?_⟩
    rw [hfz, Finalizer.returned.injEq] at h'
    exact ⟨hend (hd ▸ hld), h'.symm.trans (hfin ▸ rfl)⟩

/-- **Step lemma.** Every step keeps the ledger, the snapshots, `finished_objects` and the
    finalizer as `ResultKept` says, given the loads of the state it starts from. -/
theorem Session.ResultKept.step {l : SessionStep} (hk : s.ResultKept pull)
    (hl : s.LoadsKept pull evs) (h : s.step env l = some s') : s'.ResultKept pull := by
  cases l with
  | frame r =>
    simp only [Session.step] at h; split at h <;> cases h
    exact hk.keep (Session.frame_keepsResult r)
  | hangUp =>
    simp only [Session.step] at h; split at h <;> cases h
    exact hk.keep ⟨rfl, rfl, rfl, rfl, rfl, id, fun _ => id⟩
  | demux => exact hk.keep (Session.demuxStep_keepsResult h)
  | ledger => exact hk.ledger h
  | drive => exact hk.drive hl h
  | validate => exact hk.keep (Session.validateStep_keepsResult h)
  | write => exact hk.keep (Session.writeStep_keepsResult h)
  | finalize => exact hk.finalize h

end Steps

theorem Session.resultKept_init (pull : List Ulid) (resources : Resources) :
    (Session.init pull resources).ResultKept pull where
  ledger_nodup := List.nodup_nil
  snapshots := by simp [Session.init]
  finished := by simp [Session.init]
  ledger_done := by simp [Session.init]
  returned := by simp [Session.init]

/-- **Run lemma.** Every state a pull session reaches keeps the ledger, the snapshots,
    `finished_objects` and the finalizer as `ResultKept` says. -/
theorem Session.resultKept_of_trace {env : SessionEnv} {pull : List Ulid}
    {resources : Resources} {evs : List SessionEvent} {t : Session}
    (h : Session.Trace env (Session.init pull resources) evs t) : t.ResultKept pull := by
  induction h with
  | refl => exact Session.resultKept_init pull resources
  | step ht hl ih => exact ih.step (Session.loadsKept_of_trace ht) hl

/-! ## What `process` returns -/

/-- **What `process` returns.** In every run of a pull session for the objects `pull`, once
    the finalizer has returned `fs`, the ledger holds each marker once, and each key of `fs`
    pulls an object that was asked for and has a location in the cache, or one whose `Info`
    marker the ledger holds with at least as many chunk markers as it announced. -/
theorem Session.returned_of_reaches {env : SessionEnv} {pull : List Ulid}
    {resources : Resources} {s : Session} {fs : List Direction}
    (h : Reaches (Session.step env) (Session.init pull resources) s)
    (hr : s.finalizer = .returned fs) :
    s.ledger.Nodup ∧ ∀ d ∈ fs, ∃ o, d = .pull o ∧
      (o ∈ pull ∧ s.resources.Located o ∨
        ∃ n, RcvSync.info o n ∈ s.ledger ∧ n.toNat ≤ collected s.ledger o) := by
  obtain ⟨evs, ht⟩ := Session.exists_trace h
  have hk := Session.resultKept_of_trace ht
  refine ⟨hk.ledger_nodup, fun d hd => ?_⟩
  rw [(hk.returned fs hr).2, List.mem_map] at hd
  obtain ⟨x, hx, rfl⟩ := hd
  obtain ⟨o, ho, hcase⟩ := hk.finished x hx
  exact ⟨o, ho, hcase.imp And.right And.right⟩

/-- The run of `resendSteps`, then the driver's end, the ledger's markers, a first snapshot,
    the peer's `FinishMessage` and the last snapshot: `process` returns `O`, on the count of
    its chunk markers. -/
def completeSteps : List SessionStep :=
  resendSteps ++ [.drive, .ledger, .ledger, .ledger, .ledger, .ledger, .ledger, .finalize,
    .frame .finishMessage, .drive, .ledger, .finalize]

/-- Where the run of `completeSteps` ends. -/
def completeState : Session :=
  (runSteps (Session.step replicaEnv) (Session.init [objectO.id] cacheWithO)
    completeSteps).getD (Session.init [objectO.id] cacheWithO)

set_option maxRecDepth 10000 in
theorem runSteps_completeSteps :
    runSteps (Session.step replicaEnv) (Session.init [objectO.id] cacheWithO) completeSteps =
      some completeState := rfl

set_option maxRecDepth 10000 in
theorem completeState_returned : completeState.finalizer = .returned [.pull objectO.id] := rfl

theorem returned_completeState :
    completeState.finalizer = .returned [.pull objectO.id] ∧
    (completeState.ledger.Nodup ∧ ∀ d ∈ [Direction.pull objectO.id], ∃ o, d = .pull o ∧
      (o ∈ [objectO.id] ∧ completeState.resources.Located o ∨
        ∃ n, RcvSync.info o n ∈ completeState.ledger ∧ n.toNat ≤ collected completeState.ledger o)) :=
  ⟨completeState_returned, Session.returned_of_reaches (reaches_of_runSteps runSteps_completeSteps)
    completeState_returned⟩

end DataProxy
