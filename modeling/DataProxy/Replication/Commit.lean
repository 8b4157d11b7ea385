/-
  DataProxy formalization — what a pull session commits: the objects it writes
  and reports `Finished`, and the objects `process` returns as done.

  * `Session.Sound`: the validator of every load keeps its invariant, every
    byte stream a writer got is one a validator let through, and every object
    reported `Finished` was written; `sound_of_reaches` proves it of every
    state a session reaches, from the step lemmas of each task.

  Against the promises of the replication: `finished_with_skipped_chunk`, an
  object is upserted and reported `Finished` with its chunk 0 missing after a
  resend, on bounded channels; `finished_without_location`, `process` returns
  as done an object that was never written, whose `ObjectInfo` and chunks came
  after the driver's last pass.
-/
import DataProxy.Replication.Session

namespace DataProxy

/-- The validator of the load the driver is in, if it is in one. -/
def Driver.validator : Driver → Option ValidatorRun
  | .loading _ _ _ _ _ _ run => some run
  | _ => none

/-- What a session keeps in every state. -/
structure Session.Sound (s : Session) : Prop where
  /-- the validator of a load keeps its invariant -/
  validator_valid : ∀ r ∈ s.driver.validator, r.Valid
  /-- a writer got the chunks a validator forwarded -/
  stored_checked : ∀ x ∈ s.stored, ∃ r : ValidatorRun, r.Valid ∧ x.2 = r.forwarded.flatMap (·.data)
  /-- an object reported `Finished` was written -/
  reported_stored : ∀ o ∈ s.statusUpdates, ∃ bytes, (o, bytes) ∈ s.stored

/-! ## Step lemmas -/

section Steps

variable {env : SessionEnv} {s s' : Session}

/-- Leaves the load, the writes and the reports as they are. -/
def Session.KeepsLoad (s s' : Session) : Prop :=
  s'.driver = s.driver ∧ s'.stored = s.stored ∧ s'.statusUpdates = s.statusUpdates

theorem Session.frame_keepsLoad (r : Response) : s.KeepsLoad (s.frame r) := by
  unfold Session.frame
  repeat' split
  all_goals exact ⟨rfl, rfl, rfl⟩

theorem Session.demuxStep_keepsLoad (h : s.demuxStep = some s') : s.KeepsLoad s' := by
  unfold Session.demuxStep at h
  repeat' split at h
  all_goals cases h <;> exact ⟨rfl, rfl, rfl⟩

theorem Session.ledgerStep_keepsLoad (h : s.ledgerStep = some s') : s.KeepsLoad s' := by
  unfold Session.ledgerStep at h
  repeat' split at h
  all_goals cases h <;> exact ⟨rfl, rfl, rfl⟩

theorem Session.finalizeStep_keepsLoad (h : s.finalizeStep = some s') : s.KeepsLoad s' := by
  unfold Session.finalizeStep at h
  repeat' split at h
  all_goals cases h <;> exact ⟨rfl, rfl, rfl⟩

/-- The driver outside a load starts loads with a fresh validator, and writes nothing. -/
theorem Session.driveStep_spec (h : s.driveStep env = some s') :
    s'.stored = s.stored ∧ s'.statusUpdates = s.statusUpdates ∧
      ∀ r ∈ s'.driver.validator, r = .init := by
  unfold Session.driveStep Session.visit at h
  repeat' split at h
  all_goals cases h <;> exact ⟨rfl, rfl, by simp [Driver.validator]⟩

/-- The validator takes one pass, and nothing is written. -/
theorem Session.validateStep_spec (h : s.validateStep = some s') :
    s'.stored = s.stored ∧ s'.statusUpdates = s.statusUpdates ∧
      ∃ r n d, s.driver.validator = some r ∧
        s'.driver.validator = some (r.apply (r.validator.pass n d)) := by
  unfold Session.validateStep at h
  repeat' split at h
  all_goals cases h <;> exact ⟨rfl, rfl, _, _, _, by simp [Driver.validator, ‹s.driver = _›], rfl⟩

/-- The writer gets what the validator forwarded; the object it reports is the one written. -/
theorem Session.writeStep_spec (h : s.writeStep env = some s') :
    s'.driver.validator = none ∧ ∃ r ∈ s.driver.validator, ∃ o,
      s'.stored = s.stored ++ [(o, r.forwarded.flatMap (·.data))] ∧
      ∀ o' ∈ s'.statusUpdates, o' ∈ s.statusUpdates ∨ o' = o := by
  unfold Session.writeStep at h
  repeat' split at h
  all_goals cases h <;>
    exact ⟨rfl, _, by simp [Driver.validator, ‹s.driver = _›], _, rfl, fun _ ho => by simp_all⟩

theorem Session.Sound.keepsLoad (hs : s.Sound) (h : s.KeepsLoad s') : s'.Sound := by
  obtain ⟨hd, hst, hsu⟩ := h
  exact ⟨hd ▸ hs.validator_valid, hst ▸ hs.stored_checked, hst ▸ hsu ▸ hs.reported_stored⟩

theorem Session.Sound.drive (hs : s.Sound) (h : s.driveStep env = some s') : s'.Sound := by
  obtain ⟨hst, hsu, hr⟩ := Session.driveStep_spec h
  exact ⟨fun r hm => hr r hm ▸ ValidatorRun.valid_init, hst ▸ hs.stored_checked,
    hst ▸ hsu ▸ hs.reported_stored⟩

theorem Session.Sound.validate (hs : s.Sound) (h : s.validateStep = some s') : s'.Sound := by
  obtain ⟨hst, hsu, r, n, d, hr, hr'⟩ := Session.validateStep_spec h
  refine ⟨fun r' hm => ?_, hst ▸ hs.stored_checked, hst ▸ hsu ▸ hs.reported_stored⟩
  cases hr'.symm.trans hm
  exact (hs.validator_valid r hr).pass n d

theorem Session.Sound.write (hs : s.Sound) (h : s.writeStep env = some s') : s'.Sound := by
  obtain ⟨hnone, r, hr, o, hst, hsu⟩ := Session.writeStep_spec h
  refine ⟨by simp [hnone], fun x hx => ?_, fun o' ho' => ?_⟩
  · rw [hst, List.mem_append, List.mem_singleton] at hx
    rcases hx with hx | rfl
    · exact hs.stored_checked x hx
    · exact ⟨r, hs.validator_valid r hr, rfl⟩
  · rw [hst]
    rcases hsu o' ho' with ho' | rfl
    · obtain ⟨b, hb⟩ := hs.reported_stored o' ho'
      exact ⟨b, List.mem_append_left _ hb⟩
    · exact ⟨_, List.mem_append_right _ (List.mem_singleton_self _)⟩

end Steps

/-- **Step lemma.** Every step of a session keeps it sound. -/
theorem Session.step_sound {env : SessionEnv} {s s' : Session} {l : SessionStep}
    (hs : s.Sound) (h : s.step env l = some s') : s'.Sound := by
  cases l with
  | frame r =>
    simp only [Session.step] at h; split at h <;> cases h
    exact hs.keepsLoad (Session.frame_keepsLoad r)
  | hangUp =>
    simp only [Session.step] at h; split at h <;> cases h
    exact hs.keepsLoad ⟨rfl, rfl, rfl⟩
  | demux => exact hs.keepsLoad (Session.demuxStep_keepsLoad h)
  | ledger => exact hs.keepsLoad (Session.ledgerStep_keepsLoad h)
  | finalize => exact hs.keepsLoad (Session.finalizeStep_keepsLoad h)
  | drive => exact hs.drive h
  | validate => exact hs.validate h
  | write => exact hs.write h

theorem Session.sound_init (pull : List Ulid) (resources : Resources) :
    (Session.init pull resources).Sound :=
  ⟨by simp [Session.init, Driver.validator], by simp [Session.init], by simp [Session.init]⟩

/-- **Run lemma.** In every state a session reaches, whatever the peer sends and however its
    tasks interleave, each object reported `Finished` was written, and every writer got only
    chunks whose MD5 matched the peer's checksum, each at the index the validator expected
    next, never one index twice. -/
theorem Session.sound_of_reaches {env : SessionEnv} {pull : List Ulid} {resources : Resources}
    {s : Session} (h : Reaches (Session.step env) (Session.init pull resources) s) : s.Sound :=
  h.invariant (fun _ _ _ hs hl => Session.step_sound hs hl) (Session.sound_init pull resources)

/-! ## Runs against the promises of the replication -/

/-- An object to pull, and one that has its location already. -/
def objectO : Object := ⟨⟨5, by decide⟩, "o", .object, .private⟩

def objectA : Object := ⟨⟨6, by decide⟩, "a", .object, .private⟩

/-- The backend of the runs: fresh locations, and a writer that stores what it gets. -/
def replicaEnv : SessionEnv :=
  ⟨storingWriter "4bf5122f344554c53bde2ebb8cd2b7e3d1600ad631c385a5d7cce23c7785459a",
    fun _ raw => .ok { freshLocation with rawContentLen := raw }⟩

/-- A cache that knows `O`, without a location. -/
def cacheWithO : Resources := fun k => if k = objectO.id then some (objectO, none) else none

/-- The peer announces two chunks of `O`, sends chunk 0 with a bad checksum, its resend, and
    chunk 1; the driver starts, and loads `O` once all three are in its channel. -/
def resendSteps : List SessionStep :=
  [.frame (.objectInfo objectO.id.toString 2 [] 2), .demux,
   .frame (.chunk objectO.id.toString 0 [0] "00000000000000000000000000000000"), .demux,
   .frame (.chunk objectO.id.toString 0 [0] "93b885adfe0da089cdf634904fd59f71"), .demux,
   .frame (.chunk objectO.id.toString 1 [1] "55a54008ad1ba589aa210d2629c1df41"), .demux,
   .drive, .drive, .drive, .validate, .validate, .validate, .write]

set_option maxRecDepth 10000 in
/-- The peer announces two chunks of `O` and sends chunk 0 (`[0]`) with a checksum that is not
    its MD5, then its resend and chunk 1 (`[1]`), each with the MD5 of its data; the driver
    starts and loads `O` once the three are in its channel, on bounded channels. `O` is then
    upserted with a location and reported `Finished`, but its writer got the data of chunk 1
    alone. -/
theorem finished_with_skipped_chunk :
    md5Hex [0] ≠ "00000000000000000000000000000000" ∧
    ∃ s, runSteps (Session.boundedStep replicaEnv) (Session.init [objectO.id] cacheWithO)
        [.frame (.objectInfo objectO.id.toString 2 [] 2), .demux,
         .frame (.chunk objectO.id.toString 0 [0] "00000000000000000000000000000000"), .demux,
         .frame (.chunk objectO.id.toString 0 [0] (md5Hex [0])), .demux,
         .frame (.chunk objectO.id.toString 1 [1] (md5Hex [1])), .demux,
         .drive, .drive, .drive, .validate, .validate, .validate, .write] = some s ∧
      s.statusUpdates = [objectO.id] ∧ s.stored = [(objectO.id, [1])] ∧
      ((s.resources objectO.id).bind (·.2)).isSome := by
  refine ⟨by decide, (exists_runSteps_of_map (Session.boundedStep replicaEnv) _ _
    (p := fun s => s.statusUpdates == [objectO.id] && s.stored == [(objectO.id, [1])] &&
      ((s.resources objectO.id).bind (·.2)).isSome) ?_).imp
    fun s h => ⟨h.1, by simpa [and_assoc] using h.2⟩⟩
  decide

/-- A cache in which `A` has a location and `O` has none. -/
def cacheWithA : Resources := fun k =>
  if k = objectA.id then some (objectA, some freshLocation) else cacheWithO k

/-- `A`'s `ObjectInfo` starts the driver, which finds `A` done and skips `O` for 21 passes,
    then sends `Abort`. Before its `Finish`, `O`'s `ObjectInfo` and its one chunk come in. The
    ledger's snapshot counts `O` complete; the finalizer answers `FinishMessage`, the peer
    finishes, and every task ends. -/
def lateSteps : List SessionStep :=
  [.frame (.objectInfo objectA.id.toString 1 [] 1), .demux, .drive, .drive, .drive, .drive, .drive] ++
  (List.replicate 20 [SessionStep.drive, .drive, .drive]).flatten ++
  [.frame (.objectInfo objectO.id.toString 1 [] 1), .demux,
   .frame (.chunk objectO.id.toString 0 [0] "93b885adfe0da089cdf634904fd59f71"), .demux,
   .drive, .ledger, .ledger, .ledger, .ledger, .finalize,
   .frame .finishMessage, .drive, .ledger, .finalize]

/-- `process` returns `O` as done and the peer got `FinishMessage`, though `O` was never
    written: when the session has ended, it has no location in the cache. -/
theorem finished_without_location :
    ∃ s, Reaches (Session.step replicaEnv) (Session.init [objectA.id, objectO.id] cacheWithA) s ∧
      s.ended ∧ s.finalizer = .returned [.pull objectA.id, .pull objectO.id] ∧
      .finishMessage ∈ s.requests ∧ (s.resources objectO.id).map (·.2) = some none := by
  obtain ⟨s, hs, hp⟩ := exists_reaches_of_runSteps (Session.step replicaEnv)
    (Session.init [objectA.id, objectO.id] cacheWithA) lateSteps
    (p := fun s => s.ended && s.finalizer == .returned [.pull objectA.id, .pull objectO.id] &&
      s.requests.contains .finishMessage && (s.resources objectO.id).map (·.2) == some none)
    (by decide)
  exact ⟨s, hs, by simpa [and_assoc] using hp⟩

end DataProxy
