/-
  DataProxy formalization — `ReplicationHandler::load_into_backend`: the
  validator task, which checks the chunks of one object as they arrive, and the
  writer task, which stores what the validator forwards.

  * `Validator.recv`: the checks of the validator's loop on one chunk (its index
    against `expected`, then its MD5 against the peer's checksum, and six
    `RetryChunk`s at most); `Validator.pass`: the whole pass with what it sends;
    `validate` runs the loop over the chunks that arrive;
  * `pipeline`: the transformers of the writer; the storage backend behind
    them is a parameter, a `Writer`;
  * `loadIntoBackend`: the function's result and the location it leaves.

  Main result: `validate_valid`, every forwarded chunk carries the checksum the
  peer announced, the forwarded indices go up, and at most six retries are
  sent. Against the law of the chunk stream: `validate_skips_resent_chunk`, a
  chunk resent after a bad checksum is dropped and the next index forwarded in
  its place; `loadIntoBackend_ok_without_chunks`, the function returns `Ok`
  after the validator gave up without forwarding a chunk.

  The sends of the validator are taken to succeed, and its sleeps after a
  retry are left out.
-/
import DataProxy.Replication.Messages
import DataProxy.Replication.Md5
import DataProxy.Structs

namespace DataProxy

/-! ## The validator -/

/-- The validator's variables. -/
structure Validator where
  expected : BitVec 64
  retryCounter : ℕ
  deriving DecidableEq, Repr

/-- What the validator does with a chunk. -/
inductive Verdict where
  /-- a `RetryChunk` for this index goes to the peer, and the loop goes on -/
  | retry (idx : BitVec 64)
  /-- the task ends with this error -/
  | fail (text : String)
  /-- the chunk goes to the writer -/
  | forward
  deriving DecidableEq, Repr

/-- The checks of the validator's loop on one chunk. `expected` moves on as soon as the
    index matches, before the checksum is checked. -/
def Validator.recv (v : Validator) (d : DataChunk) : Verdict × Validator :=
  if d.chunkIdx ≠ v.expected then
    if v.retryCounter > 5 then (.fail "Exceeded retries for chunk because of skipped chunk", v)
    else (.retry v.expected, { v with retryCounter := v.retryCounter + 1 })
  else if md5Hex d.data ≠ d.checksum then
    if v.retryCounter > 5 then
      (.fail "Exceeded retries for chunk because of differing checksums",
        { v with expected := v.expected + 1 })
    else (.retry d.chunkIdx, ⟨v.expected + 1, v.retryCounter + 1⟩)
  else (.forward, { v with expected := v.expected + 1 })

section Recv

variable {v v' : Validator} {d : DataChunk}

/-- `expected` stays, or moves on by one. -/
def Validator.Advances (v v' : Validator) : Prop :=
  v'.expected = v.expected ∨ v'.expected = v.expected + 1

theorem Validator.recv_retry {i : BitVec 64} (h : v.recv d = (.retry i, v')) :
    v.retryCounter ≤ 5 ∧ v'.retryCounter = v.retryCounter + 1 ∧ v.Advances v' := by
  unfold Validator.recv at h
  split_ifs at h <;> cases h <;> simp_all [Validator.Advances]

theorem Validator.recv_fail {t : String} (h : v.recv d = (.fail t, v')) :
    v'.retryCounter = v.retryCounter ∧ v.Advances v' := by
  unfold Validator.recv at h
  split_ifs at h <;> cases h <;> simp [Validator.Advances]

/-- A chunk goes on only with the expected index and the announced checksum. -/
theorem Validator.recv_forward (h : v.recv d = (.forward, v')) :
    d.chunkIdx = v.expected ∧ md5Hex d.data = d.checksum ∧
      v' = { v with expected := v.expected + 1 } := by
  unfold Validator.recv at h
  split_ifs at h <;> cases h
  exact ⟨not_not.1 ‹_›, not_not.1 ‹_›, rfl⟩

end Recv

/-- What the validator task has done so far. -/
structure ValidatorRun where
  validator : Validator
  /-- the chunks sent on `data_sender`, to the writer -/
  forwarded : List DataChunk
  /-- the requests sent on `stream_sender`, to the peer -/
  retries : List Request
  /-- the markers sent on `sync_sender`, to the ledger -/
  markers : List RcvSync
  /-- `none` while the loop runs, then the task's result -/
  result : Option (Except TaskError Unit)
  deriving DecidableEq, Repr

/-- The task as it starts: `expected = 0`, `retry_counter = 0`. -/
def ValidatorRun.init : ValidatorRun := ⟨⟨0, 0⟩, [], [], [], none⟩

/-- The rest of the loop body for a forwarded chunk: the ledger's marker (after
    `DieselUlid::from_str(&data.object_id)?`), and whether the task returns
    (`idx + 1 == max_chunks`). -/
def forwardMarker (maxChunks : BitVec 64) (d : DataChunk) : Except TaskError (RcvSync × Bool) :=
  match Ulid.fromStr d.objectId with
  | .error e => .error (.ulid e)
  | .ok id => .ok (.chunk id d.chunkIdx, d.chunkIdx + 1 == maxChunks)

/-- A channel's contents after an optional send. -/
def sendOpt {α : Type} (l : List α) : Option α → List α
  | none => l
  | some a => l ++ [a]

/-- What one pass of the validator's loop leaves: its variables, what it sent to the peer,
    to the writer and to the ledger, and the task's result if it returned. -/
structure Pass where
  validator : Validator
  retry : Option Request
  forward : Option DataChunk
  marker : Option RcvSync
  result : Option (Except TaskError Unit)
  deriving DecidableEq, Repr

/-- One pass of the validator's loop, on the chunk `data_receiver.recv()` returned. -/
def Validator.pass (maxChunks : BitVec 64) (v : Validator) (d : DataChunk) : Pass :=
  match v.recv d with
  | (.retry idx, v) => ⟨v, some (.retryChunk d.objectId idx), none, none, none⟩
  | (.fail text, v) => ⟨v, none, none, none, some (.error (.msg text))⟩
  | (.forward, v) =>
    match forwardMarker maxChunks d with
    | .error e => ⟨v, none, some d, none, some (.error e)⟩
    | .ok (m, stop) => ⟨v, none, some d, some m, if stop then some (.ok ()) else none⟩

/-- The task after a pass. -/
def ValidatorRun.apply (r : ValidatorRun) (p : Pass) : ValidatorRun :=
  ⟨p.validator, sendOpt r.forwarded p.forward, sendOpt r.retries p.retry,
    sendOpt r.markers p.marker, p.result⟩

/-- The task on a chunk: a pass, if the task has not returned (it then reads no more). -/
def ValidatorRun.recv (maxChunks : BitVec 64) (r : ValidatorRun) (d : DataChunk) : ValidatorRun :=
  match r.result with
  | some _ => r
  | none => r.apply (r.validator.pass maxChunks d)

/-- The validator task over the chunks that arrive, in order; `closed`: whether
    `data_receiver` is closed after them, which ends the loop with `Ok`. -/
def validate (maxChunks : BitVec 64) (chunks : List DataChunk) (closed : Bool) : ValidatorRun :=
  let r := chunks.foldl (ValidatorRun.recv maxChunks) .init
  if closed && r.result.isNone then { r with result := some (.ok ()) } else r

/-! ## What every run keeps -/

/-- The validator's invariant: what it forwarded passed the checks, in the order of
    `expected`, and every retry it sent is counted. -/
structure ValidatorRun.Valid (r : ValidatorRun) : Prop where
  checksum : ∀ d ∈ r.forwarded, md5Hex d.data = d.checksum
  indices : ∃ k, r.validator.expected = BitVec.ofNat 64 k ∧
    List.Sublist (r.forwarded.map (·.chunkIdx)) ((List.range k).map (BitVec.ofNat 64))
  retries : r.retries.length = r.validator.retryCounter
  retryCounter_le : r.validator.retryCounter ≤ 6

theorem ValidatorRun.valid_init : ValidatorRun.init.Valid :=
  ⟨by simp [init], ⟨0, rfl, by simp [init]⟩, rfl, by simp [init]⟩

theorem ofNat_add_one (k : ℕ) : BitVec.ofNat 64 k + 1 = BitVec.ofNat 64 (k + 1) :=
  BitVec.ofNat_add_ofNat k 1

/-- The indices part of the invariant survives a step that forwards nothing. -/
theorem indices_of_advances {v v' : Validator} {l : List DataChunk}
    (h : ∃ k, v.expected = BitVec.ofNat 64 k ∧
      List.Sublist (l.map (·.chunkIdx)) ((List.range k).map (BitVec.ofNat 64)))
    (hv : v.Advances v') :
    ∃ k, v'.expected = BitVec.ofNat 64 k ∧
      List.Sublist (l.map (·.chunkIdx)) ((List.range k).map (BitVec.ofNat 64)) := by
  obtain ⟨k, hk, hl⟩ := h
  rcases hv with he | he
  · exact ⟨k, he.trans hk, hl⟩
  · refine ⟨k + 1, by rw [he, hk, ofNat_add_one], hl.trans ?_⟩
    rw [List.range_succ, List.map_append]
    exact List.sublist_append_left _ _

section Step

variable {r : ValidatorRun} {v : Validator} {d : DataChunk}

theorem ValidatorRun.Valid.retry (hr : r.Valid) (hv : r.validator.recv d = (.retry i, v))
    (q : Request) (ms : List RcvSync) (res : Option (Except TaskError Unit)) :
    (⟨v, r.forwarded, r.retries ++ [q], ms, res⟩ : ValidatorRun).Valid := by
  obtain ⟨hle, hc, ha⟩ := Validator.recv_retry hv
  exact ⟨hr.checksum, indices_of_advances hr.indices ha, by simp [hr.retries, hc],
    show v.retryCounter ≤ 6 by omega⟩

theorem ValidatorRun.Valid.fail (hr : r.Valid) (hv : r.validator.recv d = (.fail t, v))
    (ms : List RcvSync) (res : Option (Except TaskError Unit)) :
    (⟨v, r.forwarded, r.retries, ms, res⟩ : ValidatorRun).Valid := by
  obtain ⟨hc, ha⟩ := Validator.recv_fail hv
  exact ⟨hr.checksum, indices_of_advances hr.indices ha, hr.retries.trans hc.symm,
    hc ▸ hr.retryCounter_le⟩

theorem ValidatorRun.Valid.forward (hr : r.Valid) (hv : r.validator.recv d = (.forward, v))
    (ms : List RcvSync) (res : Option (Except TaskError Unit)) :
    (⟨v, r.forwarded ++ [d], r.retries, ms, res⟩ : ValidatorRun).Valid := by
  obtain ⟨hidx, hsum, rfl⟩ := Validator.recv_forward hv
  obtain ⟨k, hk, hl⟩ := hr.indices
  refine ⟨?_, ⟨k + 1, show r.validator.expected + 1 = _ by rw [hk, ofNat_add_one], ?_⟩,
    hr.retries, hr.retryCounter_le⟩
  · simpa [or_imp, forall_and, hsum] using hr.checksum
  · rw [List.range_succ, List.map_append, List.map_append]
    exact hl.append (by simp [hidx, hk])

/-- **Step lemma.** A pass of the loop keeps the invariant. -/
theorem ValidatorRun.Valid.pass (hr : r.Valid) (maxChunks : BitVec 64) (d : DataChunk) :
    (r.apply (r.validator.pass maxChunks d)).Valid := by
  unfold Validator.pass
  split
  · exact hr.retry ‹_› _ _ _
  · exact hr.fail ‹_› _ _
  · split
    · exact hr.forward ‹_› _ _
    · exact hr.forward ‹_› _ _

end Step

/-- The transformers the writer's `ArunaStreamReadWriter` gets. -/
inductive Transformer where
  | footerGenerator (blocklist : List ℕ)
  | chaCha20Enc (key : String)
  | hashingTransformer
  | sizeProbe
  deriving DecidableEq, Repr

/-- The pipeline, in the order `add_transformer` builds it: a footer for objects over
    `5242880 + 80 * 28` bytes, encryption where the location has a key, then the hash and
    the size probes. -/
def pipeline (location : ObjectLocation) (blocklist : List ℕ) : List Transformer :=
  (if location.rawContentLen > 5242880 + 80 * 28 then [.footerGenerator blocklist] else []) ++
  (match location.encryptionKey with
    | some key => [.chaCha20Enc key]
    | none => []) ++
  [.hashingTransformer, .sizeProbe]

/-- What `final_sha_recv` and `final_size_recv` hold once the writer task has ended (the
    task's own result is dropped by `let _ =`). -/
structure WriterOutcome where
  sha : Option String
  size : Option UInt64
  deriving DecidableEq, Repr

/-- The storage side of the writer: the outcome for a pipeline and the bytes that come
    through `data_stream`. -/
abbrev Writer := List Transformer → List UInt8 → WriterOutcome

/-- The end of `load_into_backend`, once the validator `run` has returned and the writer
    after it: the hash and the size the writer's probes published go into the location,
    and a probe that published nothing fails `try_recv`. -/
def finishLoad (writer : Writer) (blocklist : List ℕ) (location : ObjectLocation)
    (run : ValidatorRun) : Except TaskError Unit × ObjectLocation :=
  let out := writer (pipeline location blocklist) (run.forwarded.flatMap (·.data))
  match out.sha, out.size with
  | some sha, some size => (.ok (), { location with diskContentLen := asI64 size, diskHash := some sha })
  | none, _ | _, none => (.error (.msg "receiving from an empty and closed channel"), location)

/-- `load_into_backend`, with the validator over `chunks` and the writer `writer`: the result
    and the location it leaves. `none` while the validator waits for a chunk, since its open
    `data_sender` keeps the writer, and so the function, waiting. The validator's own result
    is not read: its `JoinHandle` is dropped. -/
def loadIntoBackend (writer : Writer) (maxChunks : BitVec 64) (blocklist : List ℕ)
    (location : ObjectLocation) (chunks : List DataChunk) (closed : Bool) :
    Option (Except TaskError Unit × ObjectLocation) :=
  let run := validate maxChunks chunks closed
  run.result.map fun _ => finishLoad writer blocklist location run

/-! ## Runs against the law of the chunk stream -/

/-- An object id as the peer sends it. -/
def replicaId : String := "01ARZ3NDEKTSV4RRFFQ69G5FAV"

/-- Chunk 0 with a checksum that does not match, its resend, and chunk 1. -/
def resentChunks : List DataChunk :=
  [⟨replicaId, 0, [0], "00000000000000000000000000000000"⟩,
   ⟨replicaId, 0, [0], "93b885adfe0da089cdf634904fd59f71"⟩,
   ⟨replicaId, 1, [1], "55a54008ad1ba589aa210d2629c1df41"⟩]

set_option maxRecDepth 10000 in
/-- With two chunks to come, the bad checksum moves `expected` to 1, so the resend of chunk
    0 is taken as a skip (and its retry names 1, not 0), and chunk 1 goes to the writer as
    the first chunk. The task then returns `Ok`: chunk 0 never reaches the writer. -/
theorem validate_skips_resent_chunk :
    (validate 2 resentChunks false).forwarded = [⟨replicaId, 1, [1], "55a54008ad1ba589aa210d2629c1df41"⟩] ∧
    (validate 2 resentChunks false).retries = [.retryChunk replicaId 0, .retryChunk replicaId 1] ∧
    (validate 2 resentChunks false).result = some (.ok ()) :=
  ⟨by decide, by decide, rfl⟩

/-- Seven chunks with index 5, for an object of one chunk. -/
def skippedChunks : List DataChunk := List.replicate 7 ⟨replicaId, 5, [], ""⟩

/-- A backend that takes what it is given: the size probe reports the byte count, and the
    hash transformer the digest `sha`. -/
def storingWriter (sha : String) : Writer := fun _ bytes => ⟨some sha, some bytes.length.toUInt64⟩

/-- A fresh location for the object. -/
def freshLocation : ObjectLocation :=
  ⟨"bucket", "key", 0, 0, none, none, false, ⟨0, by decide⟩⟩

/-- The validator gives up after six retries without forwarding a chunk, yet
    `load_into_backend` returns `Ok` and writes an empty object's size and hash into the
    location. -/
theorem loadIntoBackend_ok_without_chunks :
    (validate 1 skippedChunks false).forwarded = [] ∧
    (validate 1 skippedChunks false).result =
      some (.error (.msg "Exceeded retries for chunk because of skipped chunk")) ∧
    loadIntoBackend (storingWriter "e3b0c44298fc1c149afbf4c8996fb92427ae41e4649b934ca495991b7852b855")
        1 [] freshLocation skippedChunks false =
      some (.ok (), { freshLocation with
        diskHash := some "e3b0c44298fc1c149afbf4c8996fb92427ae41e4649b934ca495991b7852b855" }) :=
  ⟨rfl, rfl, rfl⟩

end DataProxy
