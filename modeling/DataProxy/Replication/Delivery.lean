/-
  DataProxy formalization — a pull session with a peer that serves what it is
  asked for, on the bounded channels of `process`: every requested object is
  written, put in the cache with a location, reported `Finished`, and returned
  by `process`.

  * `Served`: what the peer holds of an object, the data of its chunks; it sends
    the object's `ObjectInfo`, then each chunk with its index and the MD5 of its
    data;
  * `deliverySteps`: one schedule of the session's tasks in which every channel
    holds at most one item: each `ObjectInfo` and its marker
    (`Served.infoSteps`), the driver's start and snapshot, then for each object
    its load, where each chunk is read, taken by the ledger, validated, and its
    second marker taken too (`chunkSteps`); then the driver's `Finish`, the
    finalizer's check, the peer's `FinishMessage`, and the ends of the tasks;
  * one lemma per kind of step gives the state it leads to, and one per phase
    (`Session.runSteps_infos`, `Session.runSteps_loads`) the state where the
    phase ends; every step is a step of `Session.boundedStep`.

  Main result: `Session.delivers`, for any objects the cache knows without a
  location, any chunk data the peer holds (at least one chunk an object), and a
  storage backend that takes what it is given, the session ends on bounded
  channels with every task done: it stored each object's data, reported each
  one, sent the acknowledgements and one `FinishMessage` and nothing else, and
  `process` returns all the objects it asked for.
-/
import DataProxy.Replication.Result

namespace DataProxy

/-! ## The handler map -/

section Handlers

variable {h : Handlers} {k : String}

theorem Ulid.toString_injective : Function.Injective Ulid.toString := fun a b h => by
  have := fromStr_toString a
  rw [h, fromStr_toString] at this
  exact (Except.ok.inj this).symm

/-- `alter` on the entry of `o` in a map keyed by objects. -/
theorem alterEntry_map (l : List Ulid) (g : Ulid → HandlerEntry) (o : Ulid)
    (f : HandlerEntry → HandlerEntry) :
    alterEntry (l.map fun o' => (o'.toString, g o')) o.toString f =
      l.map fun o' => (o'.toString, if o' = o then f (g o') else g o') := by
  unfold alterEntry
  rw [List.map_map]
  refine List.map_congr_left fun o' _ => ?_
  simp only [Function.comp]
  by_cases ho : o' = o
  · rw [if_pos (congrArg Ulid.toString ho), if_pos ho]
  · rw [if_neg fun h => ho (Ulid.toString_injective h), if_neg ho]

theorem alterEntry_of_not_mem (f : HandlerEntry → HandlerEntry)
    (hk : k ∉ h.map Prod.fst) : alterEntry h k f = h := by
  unfold alterEntry
  conv_rhs => rw [← List.map_id h]
  refine List.map_congr_left fun x hx => ?_
  have : x.1 ≠ k := fun he => hk (he ▸ List.mem_map_of_mem _ hx)
  simp [this]

theorem removeEntry_cons (e : HandlerEntry) (hk : k ∉ h.map Prod.fst) :
    removeEntry ((k, e) :: h) k = h := by
  unfold removeEntry
  rw [List.filter_cons_of_neg (by simp), List.filter_eq_self]
  intro x hx
  have : x.1 ≠ k := fun he => hk (he ▸ List.mem_map_of_mem _ hx)
  simpa using this

theorem alterEntry_cons (e : HandlerEntry) (f : HandlerEntry → HandlerEntry)
    (hk : k ∉ h.map Prod.fst) : alterEntry ((k, e) :: h) k f = (k, f e) :: h := by
  have hrest := alterEntry_of_not_mem f hk
  unfold alterEntry at hrest ⊢
  rw [List.map_cons, if_pos rfl, hrest]

/-- The map `process` starts with: an empty entry for each object it asks for, in order. -/
theorem init_handlers {pull : List Ulid} (hp : pull.Nodup) :
    (Session.init pull r).handlers = pull.map fun o => (o.toString, .empty) := by
  suffices ∀ (os : List Ulid) (acc : Handlers), (acc.map Prod.fst ++ os.map Ulid.toString).Nodup →
      os.foldl (fun h o => removeEntry h o.toString ++ [(o.toString, .empty)]) acc =
        acc ++ os.map fun o => (o.toString, .empty) by
    simpa [Session.init] using this pull [] (by simpa using hp.map Ulid.toString_injective)
  intro os
  induction os with
  | nil => simp
  | cons o os ih =>
    intro acc hn
    have hk : o.toString ∉ acc.map Prod.fst := fun hm =>
      (List.nodup_append.1 hn).2.2 hm (List.mem_cons_self _ _)
    have hr : removeEntry acc o.toString = acc := by
      unfold removeEntry
      rw [List.filter_eq_self]
      intro x hx
      have : x.1 ≠ o.toString := fun he => hk (he ▸ List.mem_map_of_mem _ hx)
      simpa using this
    rw [List.foldl_cons, hr, ih _ (by simpa using hn)]
    simp

end Handlers

/-! ## What the peer serves -/

/-- What the peer holds of an object it is asked for: the data of its chunks, in order, and
    the rest of its `ObjectInfo`. -/
structure Served where
  chunks : List (List UInt8)
  blockList : List ℕ
  rawSize : ℤ

/-- The chunks the peer sends for `o` from index `i` on, each with the MD5 of its data. -/
def servedChunks (o : Ulid) : ℕ → List (List UInt8) → List DataChunk
  | _, [] => []
  | i, data :: rest =>
    ⟨o.toString, BitVec.ofNat 64 i, data, md5Hex data⟩ :: servedChunks o (i + 1) rest

/-- A chunk read by the demux, taken by the ledger, passed by the validator, and its second
    marker, the validator's, taken by the ledger. -/
def chunkSteps (d : DataChunk) : List SessionStep :=
  [.frame (.chunk d.objectId d.chunkIdx d.data d.checksum), .demux, .ledger, .validate, .ledger]

namespace Served

variable (p : Served) (o : Ulid)

/-- The object's `ObjectInfo`. -/
def info : Response :=
  .objectInfo o.toString (BitVec.ofNat 64 p.chunks.length) p.blockList p.rawSize

/-- What the object's `ObjectInfo` does to its entry of `object_handler_map`. -/
def announce (e : HandlerEntry) : HandlerEntry :=
  { e with chunks := BitVec.ofNat 64 p.chunks.length, blocklist := p.blockList,
           rawSize := p.rawSize, synced := true }

/-- The object's entry once its `ObjectInfo` is in. -/
def entry : HandlerEntry := p.announce .empty

/-- The `Info` marker of the object. -/
def infoMarker : RcvSync := .info o (BitVec.ofNat 64 p.chunks.length)

/-- The ledger's markers of the object's chunks. -/
def chunkMarkers : List RcvSync := (servedChunks o 0 p.chunks).map fun d => .chunk o d.chunkIdx

/-- The acknowledgements of the object's chunks. -/
def chunkAcks : List Request :=
  (servedChunks o 0 p.chunks).map fun d => .chunkAck o.toString d.chunkIdx

/-- The object's `ObjectInfo`, ended by the demux, and its marker taken by the ledger. -/
def infoSteps : List SessionStep := [.frame (p.info o), .demux, .ledger]

/-- The driver's load of the object: its visit, the steps of each chunk, and the write. -/
def loadSteps : List SessionStep :=
  .drive :: (servedChunks o 0 p.chunks).flatMap chunkSteps ++ [.write]

@[simp] theorem announce_queue (e : HandlerEntry) : (p.announce e).queue = e.queue := rfl

end Served

/-- A schedule of a session for the objects `pull`: the peer's `ObjectInfo`s, the driver's start
    and its snapshot, the load of each object in turn with its chunks, the driver's `Finish`
    through the ledger to the finalizer's check, the peer's `FinishMessage`, and the ends of the
    driver, the ledger and `process`. -/
def deliverySteps (peer : Ulid → Served) (pull : List Ulid) : List SessionStep :=
  pull.flatMap (fun o => (peer o).infoSteps o) ++ [.drive, .drive] ++
    pull.flatMap (fun o => (peer o).loadSteps o) ++
    [.drive, .ledger, .finalize, .frame .finishMessage, .drive, .ledger, .finalize]

theorem servedChunks_data (o : Ulid) :
    ∀ (i : ℕ) (cs : List (List UInt8)), (servedChunks o i cs).flatMap (·.data) = cs.flatten
  | _, [] => rfl
  | i, c :: cs => by simp [servedChunks, servedChunks_data o (i + 1) cs]

/-! ## The ledger's set -/

/-- The ledger's set after it takes a marker. -/
def addMarker (l : List RcvSync) (m : RcvSync) : List RcvSync := if m ∈ l then l else l ++ [m]

theorem addMarker_addMarker (l : List RcvSync) (m : RcvSync) :
    addMarker (addMarker l m) m = addMarker l m := by
  unfold addMarker
  split <;> simp_all

theorem foldl_addMarker_fresh : ∀ (L l : List RcvSync), L.Nodup → (∀ m ∈ L, m ∉ l) →
    L.foldl addMarker l = l ++ L
  | [], l, _, _ => by simp
  | m :: L, l, hn, hf => by
    rw [List.foldl_cons, addMarker, if_neg (hf m (List.mem_cons_self _ _)),
      foldl_addMarker_fresh L _ (List.nodup_cons.1 hn).2 fun m' h => ?_]
    · simp
    · simp only [List.mem_append, List.mem_singleton, not_or]
      exact ⟨hf m' (List.mem_cons_of_mem _ h), fun he => (List.nodup_cons.1 hn).1 (he ▸ h)⟩

/-! ## Channels that hold one item -/

section Capacity

variable {s : Session}

/-- A state whose channels hold at most one item each is within the capacities. -/
theorem Session.withinCapacity_of (hst : s.start.length ≤ 1) (hsy : s.sync.length ≤ 1)
    (hfi : s.finish.length ≤ 1) (hq : ∀ e ∈ s.handlers, e.2.queue.length ≤ 1) :
    s.withinCapacity = true :=
  Session.withinCapacity_iff.2 ⟨hst, by omega, hfi, fun e he => (hq e he).trans (by omega)⟩

theorem queues_le_of_nil {h : Handlers} (hq : ∀ e ∈ h, e.2.queue = []) :
    ∀ e ∈ h, e.2.queue.length ≤ 1 :=
  fun e he => by simp [hq e he]

/-- Every entry of the map keeps `P` through an `alter` that keeps it. -/
theorem forall_mem_alterEntry {h : Handlers} {k : String} {f : HandlerEntry → HandlerEntry}
    {P : HandlerEntry → Prop} (hP : ∀ x ∈ h, P x.2) (hf : ∀ e, P e → P (f e)) :
    ∀ x ∈ alterEntry h k f, P x.2 := by
  intro x hx
  obtain ⟨y, hy, rfl⟩ := List.mem_map.1 hx
  split
  · exact hf _ (hP y hy)
  · exact hP y hy

end Capacity

/-! ## The peer's `ObjectInfo`s -/

section Infos

variable {env : SessionEnv} {s : Session}

theorem Session.step_frame_info (p : Served) (o : Ulid) (hd : s.demux = .ready) :
    s.step env (.frame (p.info o)) = some { s with
      counter := s.counter + 1, sync := s.sync ++ [p.infoMarker o],
      demux := .infoSent o.toString (BitVec.ofNat 64 p.chunks.length) p.blockList p.rawSize } := by
  simp [Session.step, hd, Served.info, Session.frame, fromStr_toString, Served.infoMarker]

theorem Session.step_demux_info {k : String} {n : BitVec 64} {bl : List ℕ} {raw : ℤ}
    (hd : s.demux = .infoSent k n bl raw) (hbl : bl.all (· < 256) = true) :
    s.step env .demux = some { s with
      handlers := alterEntry s.handlers k fun e =>
        { e with chunks := n, blocklist := bl, rawSize := raw, synced := true },
      requests := s.requests ++ [.infoAck k],
      start := if s.counter = 1 then s.start ++ [true] else s.start,
      demux := .ready } := by
  simp [Session.step, Session.demuxStep, hd, hbl]

theorem Session.step_ledger_marker {m : RcvSync} {rest : List RcvSync}
    (hld : s.ledgerDone = false) (hs : s.sync = m :: rest) (hm : m ≠ .finish) :
    s.step env .ledger = some { s with sync := rest, ledger := addMarker s.ledger m } := by
  cases m <;> simp_all [Session.step, Session.ledgerStep, addMarker]

/-- An `ObjectInfo` announces its object in the map, its marker reaches the ledger, and it is
    acknowledged; the first one gives the start signal. -/
theorem Session.runSteps_info (p : Served) (o : Ulid) (hbl : p.blockList.all (· < 256) = true)
    (hd : s.demux = .ready) (hsy : s.sync = []) (hfi : s.finish = []) (hld : s.ledgerDone = false)
    (hst : s.start = if s.counter = 0 then [] else [true]) (hq : ∀ e ∈ s.handlers, e.2.queue = []) :
    runSteps (Session.boundedStep env) s (p.infoSteps o) = some { s with
      handlers := alterEntry s.handlers o.toString p.announce,
      counter := s.counter + 1,
      ledger := addMarker s.ledger (p.infoMarker o),
      requests := s.requests ++ [.infoAck o.toString],
      start := [true] } := by
  have hst1 : s.start.length ≤ 1 := by split at hst <;> simp [hst]
  have hst' : (if s.counter + 1 = 1 then s.start ++ [true] else s.start) = [true] := by
    split at hst <;> simp_all
  have hq' : ∀ e ∈ alterEntry s.handlers o.toString p.announce, e.2.queue = [] :=
    forall_mem_alterEntry (P := fun e => e.queue = []) hq fun e h => by simpa using h
  refine Eq.trans (runSteps_cons_of_step (Session.boundedStep_of_step (Session.step_frame_info p o hd)
    (Session.withinCapacity_of hst1 (by simp [hsy]) (by simp [hfi])
      (queues_le_of_nil hq)))) ?_
  refine Eq.trans (runSteps_cons_of_step (Session.boundedStep_of_step (Session.step_demux_info (by rfl) hbl)
    (Session.withinCapacity_of (by simp only [hst']; rfl) (by simp [hsy]) (by simp [hfi])
      (queues_le_of_nil hq')))) ?_
  refine Eq.trans (runSteps_cons_of_step (Session.boundedStep_of_step
    (Session.step_ledger_marker hld (by simp [hsy] : _ = [p.infoMarker o])
      (by simp [Served.infoMarker]))
    (Session.withinCapacity_of (by simp only [hst']; rfl) (by simp) (by simp [hfi])
      (queues_le_of_nil hq')))) ?_
  simp only [runSteps, hst', hd, hsy]
  rfl

/-- **Phase lemma.** The peer's `ObjectInfo`s for the objects `os` announce their entries, in a
    map keyed by the objects of `pull`, and their markers reach the ledger. -/
theorem Session.runSteps_infos (peer : Ulid → Served) (pull : List Ulid) :
    ∀ (os : List Ulid) (g : Ulid → HandlerEntry) (s : Session), os.Nodup → (∀ o ∈ os, o ∈ pull) →
      (∀ o ∈ os, (peer o).blockList.all (· < 256) = true) → s.demux = .ready → s.sync = [] →
      s.finish = [] → s.ledgerDone = false → s.start = (if s.counter = 0 then [] else [true]) →
      (∀ o, (g o).queue = []) → s.handlers = pull.map (fun o => (o.toString, g o)) →
      runSteps (Session.boundedStep env) s (os.flatMap fun o => (peer o).infoSteps o) = some { s with
        handlers := pull.map fun o => (o.toString, if o ∈ os then (peer o).announce (g o) else g o),
        counter := s.counter + os.length,
        ledger := (os.map fun o => (peer o).infoMarker o).foldl addMarker s.ledger,
        requests := s.requests ++ os.map fun o => .infoAck o.toString,
        start := if s.counter + os.length = 0 then [] else [true] }
  | [], g, s, _, _, _, _, _, _, _, hst, _, hh => by
    simp only [List.flatMap_nil, runSteps, List.not_mem_nil, if_false, ← hh, List.length_nil,
      Nat.add_zero, ← hst]
    simp
  | o :: os, g, s, hn, hp, hbl, hd, hsy, hfi, hld, hst, hg, hh => by
    have hq : ∀ e ∈ s.handlers, e.2.queue = [] := by
      rw [hh]
      simpa using fun o _ => hg o
    rw [List.flatMap_cons, runSteps_append, Session.runSteps_info (peer o) o
      (hbl o (List.mem_cons_self _ _)) hd hsy hfi hld hst hq, Option.some_bind]
    refine Eq.trans (Session.runSteps_infos peer pull os
      (fun o' => if o' = o then (peer o).announce (g o') else g o') _ (List.nodup_cons.1 hn).2
      (fun o' h => hp o' (List.mem_cons_of_mem _ h))
      (fun o' h => hbl o' (List.mem_cons_of_mem _ h)) hd hsy hfi hld (by simp)
      (fun o' => by dsimp only; split <;> simp [hg]) (by dsimp only; rw [hh, alterEntry_map])) ?_
    have ho : o ∉ os := (List.nodup_cons.1 hn).1
    simp only [Option.some.injEq, Session.mk.injEq, and_true, true_and]
    refine ⟨List.map_congr_left fun o' _ => ?_, by simp [Nat.add_assoc, Nat.add_comm 1],
      by simp [Nat.add_assoc, Nat.add_comm 1], rfl, by simp⟩
    by_cases h : o' = o
    · subst h
      simp [ho]
    · simp [h]

end Infos

/-! ## The driver's loads -/

theorem ofNat_inj {a b : ℕ} (ha : a < 2 ^ 64) (hb : b < 2 ^ 64)
    (h : BitVec.ofNat 64 a = BitVec.ofNat 64 b) : a = b := by
  have := congrArg BitVec.toNat h
  rwa [BitVec.toNat_ofNat, BitVec.toNat_ofNat, Nat.mod_eq_of_lt ha, Nat.mod_eq_of_lt hb] at this

/-- A chunk with the index the validator expects and the checksum of its data goes on to the
    writer, with its marker. -/
theorem Validator.pass_of_expected {v : Validator} {d : DataChunk} {o : Ulid}
    (maxChunks : BitVec 64) (hi : d.chunkIdx = v.expected) (hsum : md5Hex d.data = d.checksum)
    (hid : Ulid.fromStr d.objectId = .ok o) :
    v.pass maxChunks d = ⟨{ v with expected := v.expected + 1 }, none, some d,
      some (.chunk o d.chunkIdx), if d.chunkIdx + 1 == maxChunks then some (.ok ()) else none⟩ := by
  simp [Validator.pass, Validator.recv, forwardMarker, hi, hsum, hid]

/-- Between the steps of a load: no frame half read, the sync, start and finish channels
    empty, and the ledger running. -/
structure Session.Idle (s : Session) : Prop where
  demux : s.demux = .ready
  sync : s.sync = []
  start : s.start = []
  finish : s.finish = []
  ledger : s.ledgerDone = false

theorem queues_cons_le {k : String} {E : HandlerEntry} {t : Handlers} {q : List DataChunk}
    (hq : q.length ≤ 1) (ht : ∀ e ∈ t, e.2.queue = []) :
    ∀ e ∈ (k, { E with queue := q }) :: t, e.2.queue.length ≤ 1 :=
  List.forall_mem_cons.2 ⟨hq, queues_le_of_nil ht⟩

section Loads

variable {env : SessionEnv} {s : Session} {bc : ℕ} {rest t : Handlers} {o : Ulid}
  {E : HandlerEntry} {object : Object} {loc : ObjectLocation}

theorem Session.step_start (hdr : s.driver = .awaitStart) (hst : s.start = [true]) :
    s.step env .drive = some { s with start := [], driver := .nextPass 0 } := by
  simp [Session.step, Session.driveStep, hdr, hst]

theorem Session.step_nextPass (hdr : s.driver = .nextPass bc) :
    s.step env .drive = some { s with driver := .pass (bc + 1) s.handlers } := by
  simp [Session.step, Session.driveStep, hdr]

theorem Session.step_frame_chunk {d : DataChunk} (hd : s.demux = .ready)
    (hk : (s.handlers.lookup d.objectId).isSome) :
    s.step env (.frame (.chunk d.objectId d.chunkIdx d.data d.checksum)) = some { s with
      handlers := alterEntry s.handlers d.objectId fun e => { e with queue := e.queue ++ [d] },
      demux := .chunkHeld d.objectId d.chunkIdx } := by
  simp [Session.step, hd, Session.frame, hk]

theorem Session.step_demux_chunk {i : BitVec 64} (hd : s.demux = .chunkHeld o.toString i) :
    s.step env .demux = some { s with
      sync := s.sync ++ [.chunk o i],
      requests := s.requests ++ [.chunkAck o.toString i],
      demux := .ready } := by
  simp [Session.step, Session.demuxStep, hd, fromStr_toString]

/-- The validator takes the next chunk of the object's channel, one the peer served. -/
theorem Session.step_validate {i : ℕ} {fwd : List DataChunk} {ms : List RcvSync}
    {c : List UInt8} {ds : List DataChunk}
    (hdr : s.driver = .loading bc rest o.toString E object loc
      ⟨⟨BitVec.ofNat 64 i, 0⟩, fwd, [], ms, none⟩)
    (hh : s.handlers =
      (o.toString, { E with queue := ⟨o.toString, BitVec.ofNat 64 i, c, md5Hex c⟩ :: ds }) :: t)
    (ht : o.toString ∉ t.map Prod.fst) :
    s.step env .validate = some { s with
      handlers := (o.toString, { E with queue := ds }) :: t,
      sync := s.sync ++ [.chunk o (BitVec.ofNat 64 i)],
      driver := .loading bc rest o.toString E object loc
        ⟨⟨BitVec.ofNat 64 i + 1, 0⟩, fwd ++ [⟨o.toString, BitVec.ofNat 64 i, c, md5Hex c⟩], [],
          ms ++ [.chunk o (BitVec.ofNat 64 i)],
          if BitVec.ofNat 64 i + 1 == E.chunks then some (.ok ()) else none⟩ } := by
  simp only [Session.step, Session.validateStep, hdr, hh, Option.isSome_none, if_false,
    List.lookup_cons_self, Option.map_some', alterEntry_cons _ _ ht]
  rw [@Validator.pass_of_expected ⟨BitVec.ofNat 64 i, 0⟩ ⟨o.toString, BitVec.ofNat 64 i, c, md5Hex c⟩
    o E.chunks rfl rfl (fromStr_toString o)]
  rfl

/-- A chunk the validator expects next, with the MD5 of its data: the demux puts it into the
    object's channel and its marker reaches the ledger, the validator forwards it with a marker
    the ledger holds already, and the peer gets its acknowledgement. -/
theorem Session.runSteps_chunkSteps {i : ℕ} {fwd : List DataChunk} {ms : List RcvSync}
    {c : List UInt8} (hdr : s.driver = .loading bc rest o.toString E object loc
      ⟨⟨BitVec.ofNat 64 i, 0⟩, fwd, [], ms, none⟩)
    (hh : s.handlers = (o.toString, { E with queue := [] }) :: t)
    (ht : o.toString ∉ t.map Prod.fst) (htq : ∀ e ∈ t, e.2.queue = []) (hq : s.Idle) :
    runSteps (Session.boundedStep env) s (chunkSteps ⟨o.toString, BitVec.ofNat 64 i, c, md5Hex c⟩) =
      some { s with
        ledger := addMarker s.ledger (.chunk o (BitVec.ofNat 64 i)),
        requests := s.requests ++ [.chunkAck o.toString (BitVec.ofNat 64 i)],
        driver := .loading bc rest o.toString E object loc
          ⟨⟨BitVec.ofNat 64 i + 1, 0⟩, fwd ++ [⟨o.toString, BitVec.ofNat 64 i, c, md5Hex c⟩], [],
            ms ++ [.chunk o (BitVec.ofNat 64 i)],
            if BitVec.ofNat 64 i + 1 == E.chunks then some (.ok ()) else none⟩ } := by
  have hk : (s.handlers.lookup o.toString).isSome := by simp [hh]
  have hfill : alterEntry s.handlers o.toString
      (fun e => { e with queue := e.queue ++ [⟨o.toString, BitVec.ofNat 64 i, c, md5Hex c⟩] }) =
      (o.toString, { E with queue := [⟨o.toString, BitVec.ofNat 64 i, c, md5Hex c⟩] }) :: t := by
    rw [hh, alterEntry_cons _ _ ht]
    rfl
  have hst : s.start.length ≤ 1 := by simp [hq.start]
  have hfi : s.finish.length ≤ 1 := by simp [hq.finish]
  have hq1 : ∀ e ∈ (o.toString, { E with queue := [⟨o.toString, BitVec.ofNat 64 i, c, md5Hex c⟩] }) :: t,
      e.2.queue.length ≤ 1 := queues_cons_le (by simp) htq
  refine Eq.trans (runSteps_cons_of_step (Session.boundedStep_of_step
    (Session.step_frame_chunk hq.demux hk)
    (Session.withinCapacity_of hst (by simp [hq.sync]) hfi (by simpa only [hfill] using hq1)))) ?_
  refine Eq.trans (runSteps_cons_of_step (Session.boundedStep_of_step
    (Session.step_demux_chunk (by rfl))
    (Session.withinCapacity_of hst (by simp [hq.sync]) hfi (by simpa only [hfill] using hq1)))) ?_
  refine Eq.trans (runSteps_cons_of_step (Session.boundedStep_of_step
    (Session.step_ledger_marker hq.ledger (by simp [hq.sync] : _ = [.chunk o (BitVec.ofNat 64 i)]) (by simp))
    (Session.withinCapacity_of hst (by simp) hfi (by simpa only [hfill] using hq1)))) ?_
  refine Eq.trans (runSteps_cons_of_step (Session.boundedStep_of_step
    (Session.step_validate hdr hfill ht)
    (Session.withinCapacity_of hst (by simp) hfi (queues_cons_le (by simp) htq)))) ?_
  refine Eq.trans (runSteps_cons_of_step (Session.boundedStep_of_step
    (Session.step_ledger_marker hq.ledger (by simp : _ = [.chunk o (BitVec.ofNat 64 i)]) (by simp))
    (Session.withinCapacity_of hst (by simp) hfi (queues_cons_le (by simp) htq)))) ?_
  simp only [runSteps, addMarker_addMarker, hh, hq.sync, hq.demux]

/-- **Loop lemma.** The chunks the peer serves from index `i` on go through their steps one after
    the other: the validator forwards each one, and returns `Ok` after the last. -/
theorem Session.runSteps_chunks (ht : o.toString ∉ t.map Prod.fst) (htq : ∀ e ∈ t, e.2.queue = []) :
    ∀ (cs : List (List UInt8)) (i : ℕ) (fwd : List DataChunk) (ms : List RcvSync) (s : Session),
      cs ≠ [] → i + cs.length < 2 ^ 64 → E.chunks = BitVec.ofNat 64 (i + cs.length) →
      s.driver = .loading bc rest o.toString E object loc
        ⟨⟨BitVec.ofNat 64 i, 0⟩, fwd, [], ms, none⟩ →
      s.handlers = (o.toString, { E with queue := [] }) :: t → s.Idle →
      runSteps (Session.boundedStep env) s ((servedChunks o i cs).flatMap chunkSteps) = some { s with
        ledger := ((servedChunks o i cs).map fun d => .chunk o d.chunkIdx).foldl addMarker s.ledger,
        requests := s.requests ++ (servedChunks o i cs).map fun d => .chunkAck o.toString d.chunkIdx,
        driver := .loading bc rest o.toString E object loc
          ⟨⟨BitVec.ofNat 64 (i + cs.length), 0⟩, fwd ++ servedChunks o i cs, [],
            ms ++ (servedChunks o i cs).map (fun d => .chunk o d.chunkIdx), some (.ok ())⟩ }
  | [], _, _, _, _, h, _, _, _, _, _ => absurd rfl h
  | [c], i, fwd, ms, s, _, _, hE, hdr, hh, hq => by
    rw [servedChunks, servedChunks, List.flatMap_singleton,
      Session.runSteps_chunkSteps hdr hh ht htq hq, ofNat_add_one]
    simp [hE]
  | c :: c' :: cs, i, fwd, ms, s, _, hlt, hE, hdr, hh, hq => by
    have hlen : i + 1 + (c' :: cs).length = i + (c :: c' :: cs).length := by
      simp only [List.length_cons]
      omega
    have hstop : (BitVec.ofNat 64 i + 1 == E.chunks) = false := by
      rw [hE, ofNat_add_one, beq_eq_false_iff_ne]
      intro h
      have := ofNat_inj (by omega) hlt h
      simp only [List.length_cons] at this
      omega
    rw [servedChunks, List.flatMap_cons, runSteps_append,
      Session.runSteps_chunkSteps hdr hh ht htq hq, Option.some_bind, hstop, ofNat_add_one]
    refine Eq.trans (Session.runSteps_chunks ht htq (c' :: cs) (i + 1)
      (fwd ++ [⟨o.toString, BitVec.ofNat 64 i, c, md5Hex c⟩]) (ms ++ [.chunk o (BitVec.ofNat 64 i)])
      _ (List.cons_ne_nil _ _) (hlen ▸ hlt) (hlen ▸ hE) rfl hh
      ⟨hq.demux, hq.sync, hq.start, hq.finish, hq.ledger⟩) ?_
    rw [hlen]
    simp

theorem Session.step_visit (hdr : s.driver = .pass bc ((o.toString, E) :: rest))
    (hd : s.demux = .ready) (hr : s.resources o = some (object, none)) (hsy : E.synced = true)
    (hl : env.initializeLocation object E.rawSize = .ok loc) :
    s.step env .drive = some { s with driver := .loading bc rest o.toString E object loc .init } := by
  simp [Session.step, Session.driveStep, hdr, hd, Demux.holds, Session.visit, fromStr_toString,
    hr, hsy, hl]

theorem Session.step_write {run : ValidatorRun} (sha : String) (size : UInt64)
    (hdr : s.driver = .loading bc rest o.toString E object loc run)
    (hres : run.result = some (.ok ())) (hd : s.demux = .ready)
    (hw : env.writer (pipeline loc E.blocklist) (run.forwarded.flatMap (·.data)) =
      ⟨some sha, some size⟩) :
    s.step env .write = some { s with
      resources := s.resources.upsert object
        (some { loc with diskContentLen := asI64 size, diskHash := some sha }),
      statusUpdates := s.statusUpdates ++ [object.id],
      handlers := removeEntry s.handlers o.toString,
      driver := .pass bc rest,
      stored := s.stored ++ [(object.id, run.forwarded.flatMap (·.data))] } := by
  simp [Session.step, Session.writeStep, hdr, hres, hd, Demux.holds, finishLoad, hw]

/-- The driver's load of one object the peer served: it visits the object's entry, takes
    every chunk as it comes, writes the data, puts the object in the cache with its new
    location, reports it, and removes its entry. -/
theorem Session.runSteps_loadSteps (p : Served)
    (hdr : s.driver = .pass bc ((o.toString, p.entry) :: t))
    (hh : s.handlers = (o.toString, p.entry) :: t) (ht : o.toString ∉ t.map Prod.fst)
    (htq : ∀ e ∈ t, e.2.queue = []) (hq : s.Idle) (hr : s.resources o = some (object, none))
    (hid : object.id = o) (hl : env.initializeLocation object p.rawSize = .ok loc)
    (hw : ∀ ts bytes, ∃ sha size, env.writer ts bytes = ⟨some sha, some size⟩)
    (hne : p.chunks ≠ []) (hlt : p.chunks.length < 2 ^ 64) :
    ∃ loc', runSteps (Session.boundedStep env) s (p.loadSteps o) = some { s with
      resources := s.resources.upsert object (some loc'),
      handlers := t, driver := .pass bc t,
      ledger := (p.chunkMarkers o).foldl addMarker s.ledger,
      requests := s.requests ++ p.chunkAcks o,
      statusUpdates := s.statusUpdates ++ [o],
      stored := s.stored ++ [(o, p.chunks.flatten)] } := by
  obtain ⟨sha, size, hws⟩ := hw (pipeline loc p.blockList) p.chunks.flatten
  have hst : s.start.length ≤ 1 := by simp [hq.start]
  have hfi : s.finish.length ≤ 1 := by simp [hq.finish]
  have hq1 : ∀ e ∈ s.handlers, e.2.queue.length ≤ 1 := by
    rw [hh]
    exact queues_cons_le (E := p.entry) (by simp [Served.entry, HandlerEntry.empty]) htq
  refine ⟨{ loc with diskContentLen := asI64 size, diskHash := some sha }, ?_⟩
  refine Eq.trans (runSteps_cons_of_step (Session.boundedStep_of_step
    (Session.step_visit hdr hq.demux hr rfl hl)
    (Session.withinCapacity_of hst (by simp [hq.sync]) hfi hq1))) ?_
  refine Eq.trans (runSteps_append_of (Session.runSteps_chunks ht htq p.chunks 0 [] [] _ hne
    (by simpa using hlt) (by simp [Served.entry, Served.announce]) rfl hh
    ⟨hq.demux, hq.sync, hq.start, hq.finish, hq.ledger⟩)) ?_
  refine Eq.trans (runSteps_cons_of_step (Session.boundedStep_of_step
    (Session.step_write sha size (by rfl) (by rfl) hq.demux
      (by simpa [servedChunks_data, Served.entry, Served.announce] using hws))
    (Session.withinCapacity_of hst (by simp [hq.sync]) hfi
      (by simpa only [hh, removeEntry_cons _ ht] using queues_le_of_nil htq)))) ?_
  subst hid
  simp [runSteps, hh, removeEntry_cons _ ht, servedChunks_data, Served.chunkMarkers, Served.chunkAcks]

/-- **Phase lemma.** The driver's pass over the entries of the objects `os`, announced by the
    peer, loads every one of them in turn, each chunk read as the validator asks for it. -/
theorem Session.runSteps_loads (peer : Ulid → Served)
    (hw : ∀ ts bytes, ∃ sha size, env.writer ts bytes = ⟨some sha, some size⟩) :
    ∀ (os : List Ulid) (s : Session), os.Nodup →
      (∀ o ∈ os, (peer o).chunks ≠ [] ∧ (peer o).chunks.length < 2 ^ 64) →
      (∀ o ∈ os, ∃ object, object.id = o ∧ s.resources o = some (object, none) ∧
        ∃ loc, env.initializeLocation object (peer o).rawSize = .ok loc) →
      s.Idle → s.driver = .pass bc (os.map fun o => (o.toString, (peer o).entry)) →
      s.handlers = os.map (fun o => (o.toString, (peer o).entry)) →
      ∃ r : Resources, (∀ o ∈ os, r.Located o) ∧ (∀ o, o ∉ os → r o = s.resources o) ∧
        runSteps (Session.boundedStep env) s (os.flatMap fun o => (peer o).loadSteps o) =
          some { s with
            resources := r, handlers := [], driver := .pass bc [],
            ledger := (os.flatMap fun o => (peer o).chunkMarkers o).foldl addMarker s.ledger,
            requests := s.requests ++ os.flatMap (fun o => (peer o).chunkAcks o),
            statusUpdates := s.statusUpdates ++ os,
            stored := s.stored ++ os.map fun o => (o, (peer o).chunks.flatten) }
  | [], s, _, _, _, _, hdr, hh => by
    refine ⟨s.resources, by simp, fun _ _ => rfl, ?_⟩
    obtain ⟨⟩ := s
    simp only [List.map_nil] at hdr hh
    subst hdr hh
    simp [runSteps]
  | o :: os, s, hn, hsz, hres, hq, hdr, hh => by
    obtain ⟨object, hid, hr, loc, hl⟩ := hres o (List.mem_cons_self _ _)
    have ho : o ∉ os := (List.nodup_cons.1 hn).1
    have ht : o.toString ∉ (os.map fun o => (o.toString, (peer o).entry)).map Prod.fst := by
      simp only [List.map_map, Function.comp_def, List.mem_map, not_exists, not_and]
      exact fun o' h he => ho (Ulid.toString_injective he ▸ h)
    have htq : ∀ e ∈ os.map (fun o => (o.toString, (peer o).entry)), e.2.queue = [] := by
      simp [Served.entry, Served.announce, HandlerEntry.empty]
    obtain ⟨loc', h1⟩ := Session.runSteps_loadSteps (peer o) hdr hh ht htq hq hr hid hl hw
      (hsz o (List.mem_cons_self _ _)).1 (hsz o (List.mem_cons_self _ _)).2
    have hframe : ∀ o', o' ≠ o → s.resources.upsert object (some loc') o' = s.resources o' :=
      fun o' h => if_neg (hid ▸ h)
    obtain ⟨r, hloc, hr', h2⟩ := Session.runSteps_loads peer hw os
      { s with resources := s.resources.upsert object (some loc'),
               handlers := os.map fun o => (o.toString, (peer o).entry),
               driver := .pass bc (os.map fun o => (o.toString, (peer o).entry)),
               ledger := ((peer o).chunkMarkers o).foldl addMarker s.ledger,
               requests := s.requests ++ (peer o).chunkAcks o,
               statusUpdates := s.statusUpdates ++ [o],
               stored := s.stored ++ [(o, (peer o).chunks.flatten)] }
      (List.nodup_cons.1 hn).2 (fun o' h => hsz o' (List.mem_cons_of_mem _ h))
      (fun o' h => by
        dsimp only
        rw [hframe o' fun e => ho (e ▸ h)]
        exact hres o' (List.mem_cons_of_mem _ h))
      ⟨hq.demux, hq.sync, hq.start, hq.finish, hq.ledger⟩ rfl rfl
    dsimp only at hr'
    refine ⟨r, fun o' h => ?_, fun o' h => ?_, ?_⟩
    · rcases List.mem_cons.1 h with rfl | h
      · rw [Resources.Located, hr' o' ho]
        exact hid ▸ Resources.located_upsert_self object loc'
      · exact hloc o' h
    · rw [hr' o' fun h' => h (List.mem_cons_of_mem _ h'),
        hframe o' fun e => h (e ▸ List.mem_cons_self _ _)]
    · rw [List.flatMap_cons, runSteps_append_of h1, h2]
      simp

end Loads

/-! ## The ledger's markers and the finalizer's check -/

section Markers

theorem chunkIdx_servedChunks (o : Ulid) : ∀ (i : ℕ) (cs : List (List UInt8)),
    (servedChunks o i cs).map (·.chunkIdx) = (List.range' i cs.length).map (BitVec.ofNat 64)
  | _, [] => rfl
  | i, _ :: cs => by
    simp [servedChunks, List.range'_succ, chunkIdx_servedChunks o (i + 1) cs]

theorem Served.chunkMarkers_eq (p : Served) (o : Ulid) :
    p.chunkMarkers o = (List.range' 0 p.chunks.length).map fun i => .chunk o (BitVec.ofNat 64 i) := by
  have := congrArg (List.map (RcvSync.chunk o)) (chunkIdx_servedChunks o 0 p.chunks)
  simpa [List.map_map, Function.comp_def] using this

theorem Served.mem_chunkMarkers {p : Served} {o : Ulid} {m : RcvSync} (h : m ∈ p.chunkMarkers o) :
    ∃ i, m = .chunk o i := by
  rw [Served.chunkMarkers_eq] at h
  obtain ⟨i, -, rfl⟩ := List.mem_map.1 h
  exact ⟨_, rfl⟩

/-- The chunk markers of one object are distinct: its chunks have distinct indices. -/
theorem Served.nodup_chunkMarkers (p : Served) (o : Ulid) (hlt : p.chunks.length < 2 ^ 64) :
    (p.chunkMarkers o).Nodup := by
  rw [Served.chunkMarkers_eq]
  refine List.Nodup.map_on (fun x hx y hy h => ?_) (List.nodup_range' _ _)
  simp only [List.mem_range'_1] at hx hy
  exact ofNat_inj (by omega) (by omega) (RcvSync.chunk.inj h).2

variable (peer : Ulid → Served)

/-- The markers of a delivery: each object's `Info`, then the chunks' markers. -/
def deliveryLedger (pull : List Ulid) : List RcvSync :=
  pull.map (fun o => (peer o).infoMarker o) ++ pull.flatMap fun o => (peer o).chunkMarkers o

/-- The markers of a delivery are distinct. -/
theorem nodup_deliveryLedger {pull : List Ulid} (hp : pull.Nodup)
    (hlt : ∀ o ∈ pull, (peer o).chunks.length < 2 ^ 64) : (deliveryLedger peer pull).Nodup := by
  refine List.nodup_append.2 ⟨hp.map_on fun a _ b _ h => (RcvSync.info.inj h).1,
    List.nodup_flatMap.2 ⟨fun o ho => (peer o).nodup_chunkMarkers o (hlt o ho),
      hp.imp fun {a b} hab m ha hb => ?_⟩, fun m hi hc => ?_⟩
  · obtain ⟨i, rfl⟩ := Served.mem_chunkMarkers ha
    obtain ⟨j, h⟩ := Served.mem_chunkMarkers hb
    exact hab (RcvSync.chunk.inj h).1
  · obtain ⟨o, -, rfl⟩ := List.mem_map.1 hi
    obtain ⟨o', -, hm⟩ := List.mem_flatMap.1 hc
    obtain ⟨i, h⟩ := Served.mem_chunkMarkers hm
    cases h

theorem collected_append (l₁ l₂ : List RcvSync) (id : Ulid) :
    collected (l₁ ++ l₂) id = collected l₁ id + collected l₂ id := by
  simp [collected, List.filter_append]

theorem Served.collected_chunkMarkers (p : Served) (o id : Ulid) :
    collected (p.chunkMarkers o) id = if o = id then p.chunks.length else 0 := by
  rw [Served.chunkMarkers_eq]
  by_cases h : o = id <;> simp [collected, List.filter_map, Function.comp_def, h]

theorem collected_chunkMarkers (id : Ulid) : ∀ {os : List Ulid}, os.Nodup →
    collected (os.flatMap fun o => (peer o).chunkMarkers o) id =
      if id ∈ os then (peer id).chunks.length else 0
  | [], _ => rfl
  | o :: os, hn => by
    rw [List.flatMap_cons, collected_append, Served.collected_chunkMarkers,
      collected_chunkMarkers id (List.nodup_cons.1 hn).2]
    by_cases h : o = id
    · subst h
      simp [(List.nodup_cons.1 hn).1]
    · simp [h, Ne.symm h]

theorem collected_deliveryLedger (id : Ulid) {pull : List Ulid} (hp : pull.Nodup) :
    collected (deliveryLedger peer pull) id = if id ∈ pull then (peer id).chunks.length else 0 := by
  rw [deliveryLedger, collected_append, collected_chunkMarkers peer id hp]
  simp [collected, Served.infoMarker, Function.comp_def]

theorem infos_append (l₁ l₂ : List RcvSync) : infos (l₁ ++ l₂) = infos l₁ ++ infos l₂ :=
  List.filterMap_append _ _ _

theorem infos_deliveryLedger (pull : List Ulid) :
    infos (deliveryLedger peer pull) = pull.map fun o => (o, BitVec.ofNat 64 (peer o).chunks.length) := by
  have hc : infos (pull.flatMap fun o => (peer o).chunkMarkers o) = [] := by
    simp only [infos, List.filterMap_eq_nil_iff, List.mem_flatMap]
    rintro m ⟨o, -, hm⟩
    obtain ⟨i, rfl⟩ := Served.mem_chunkMarkers hm
    rfl
  rw [deliveryLedger, infos_append, hc, List.append_nil]
  clear hc
  induction pull with
  | nil => rfl
  | cons o os ih => exact congrArg (_ :: ·) ih

end Markers

/-- The finalizer's loop over `Info` markers whose counts all match puts each object into
    `finished_objects` once. -/
theorem checkInfos_complete (snap : List RcvSync) :
    ∀ (is : List (Ulid × BitVec 64)) (f : List (Direction × Bool)),
      (∀ x ∈ is, x.2.toNat = collected snap x.1) → (is.map Prod.fst).Nodup →
      (∀ x ∈ is, Direction.pull x.1 ∉ f.map Prod.fst) →
      checkInfos snap is f = some (f ++ is.map fun x => (.pull x.1, false))
  | [], f, _, _, _ => by simp [checkInfos]
  | (id, n) :: is, f, hc, hn, hf => by
    have hset : setFinished f (.pull id) false = f ++ [(.pull id, false)] := by
      rw [setFinished, List.filter_eq_self.2]
      intro x hx
      have : x.1 ≠ .pull id := fun h => hf (id, n) (List.mem_cons_self _ _) (h ▸ List.mem_map_of_mem _ hx)
      simpa using this
    have hid : id ∉ is.map Prod.fst := (List.nodup_cons.1 hn).1
    rw [checkInfos, if_neg (not_not.2 (hc _ (List.mem_cons_self _ _))), hset,
      checkInfos_complete snap is _ (fun x h => hc x (List.mem_cons_of_mem _ h))
        (List.nodup_cons.1 hn).2 (fun x h => ?_)]
    · simp
    · simp only [List.map_append, List.mem_append, List.mem_singleton, not_or]
      refine ⟨hf x (List.mem_cons_of_mem _ h), fun he => hid ?_⟩
      have : x.1 = id := by simpa using he
      exact this ▸ List.mem_map_of_mem _ h

/-- What `process` puts into `finished_objects` from the ledger of a delivery. -/
theorem checkInfos_deliveryLedger (peer : Ulid → Served) {pull : List Ulid} (hp : pull.Nodup)
    (hlt : ∀ o ∈ pull, (peer o).chunks.length < 2 ^ 64) :
    checkInfos (deliveryLedger peer pull) (infos (deliveryLedger peer pull)) [] =
      some (pull.map fun o => (.pull o, false)) := by
  rw [checkInfos_complete _ _ [] (fun x hx => ?_)
    (by simpa [infos_deliveryLedger, Function.comp_def] using hp) (by simp)]
  · simp [infos_deliveryLedger]
  · rw [infos_deliveryLedger, List.mem_map] at hx
    obtain ⟨o, ho, rfl⟩ := hx
    rw [collected_deliveryLedger peer o hp, if_pos ho, BitVec.toNat_ofNat,
      Nat.mod_eq_of_lt (hlt o ho)]

/-! ## The ends of the tasks -/

section Ends

variable {env : SessionEnv} {s : Session} {bc : ℕ}

theorem Session.step_passEnd (hdr : s.driver = .pass bc []) (hh : s.handlers = []) :
    s.step env .drive = some { s with sync := s.sync ++ [.finish], driver := .awaitStart } := by
  simp [Session.step, Session.driveStep, hdr, hh]

theorem Session.step_ledger_finish (hld : s.ledgerDone = false) (hs : s.sync = [.finish])
    (hf : s.finalizer = .running) :
    s.step env .ledger = some { s with sync := [], finish := s.finish ++ [s.ledger] } := by
  simp [Session.step, Session.ledgerStep, hld, hs, hf]

theorem Session.step_finalize_check (f : List (Direction × Bool)) {snap : List RcvSync}
    (hf : s.finalizer = .running) (hfin : s.finish = [snap])
    (hc : checkInfos snap (infos snap) s.finished = some f) :
    s.step env .finalize =
      some { s with finish := [], finished := f, requests := s.requests ++ [.finishMessage] } := by
  simp [Session.step, Session.finalizeStep, hf, hfin, hc]

/-- The peer's `FinishMessage` ends the demux; the driver, whose start channel is empty, ends
    with it, then the ledger, and `process` returns. -/
theorem Session.runSteps_end (hd : s.demux = .ready) (hdr : s.driver = .awaitStart)
    (hst : s.start = []) (hs : s.sync = []) (hld : s.ledgerDone = false) (hfin : s.finish = [])
    (hf : s.finalizer = .running) (hq : ∀ e ∈ s.handlers, e.2.queue.length ≤ 1) :
    runSteps (Session.boundedStep env) s [.frame .finishMessage, .drive, .ledger, .finalize] =
      some { s with demux := .done (.ok ()), driver := .done (.ok ()), ledgerDone := true,
                    finalizer := .returned (s.finished.map (·.1)) } := by
  have hc : ∀ t : Session, t.handlers = s.handlers → t.start = [] → t.sync = [] →
      t.finish = [] → t.withinCapacity = true := fun t hth hts hty htf =>
    Session.withinCapacity_of (by simp [hts]) (by simp [hty]) (by simp [htf]) (hth ▸ hq)
  simp [runSteps, Session.boundedStep, Option.filter, Session.step, hd, Session.frame,
    Session.driveStep, hdr, hst, Demux.isDone, Session.ledgerStep, hld, hs, Driver.isDone,
    Session.finalizeStep, hf, hfin, hc]

/-- After the driver's `Finish`, the ledger hands its snapshot to the finalizer, whose check
    gives `f`; then the peer's `FinishMessage` ends the tasks, and `process` returns the
    directions of `f`. -/
theorem Session.runSteps_finish (f : List (Direction × Bool)) (hd : s.demux = .ready)
    (hdr : s.driver = .awaitStart) (hst : s.start = []) (hs : s.sync = [.finish])
    (hld : s.ledgerDone = false) (hfin : s.finish = []) (hf : s.finalizer = .running)
    (hq : ∀ e ∈ s.handlers, e.2.queue.length ≤ 1)
    (hc : checkInfos s.ledger (infos s.ledger) s.finished = some f) :
    runSteps (Session.boundedStep env) s
      [.ledger, .finalize, .frame .finishMessage, .drive, .ledger, .finalize] =
      some { s with sync := [], finish := [], finished := f,
                    requests := s.requests ++ [.finishMessage], demux := .done (.ok ()),
                    driver := .done (.ok ()), ledgerDone := true,
                    finalizer := .returned (f.map (·.1)) } := by
  have hcap : ∀ t : Session, t.handlers = s.handlers → t.start = [] → t.sync = [] →
      t.finish.length ≤ 1 → t.withinCapacity = true := fun t hth hts hty htf =>
    Session.withinCapacity_of (by simp [hts]) (by simp [hty]) htf (hth ▸ hq)
  refine Eq.trans (runSteps_cons_of_step (Session.boundedStep_of_step
    (Session.step_ledger_finish hld hs hf) (hcap _ rfl hst rfl (by simp [hfin])))) ?_
  refine Eq.trans (runSteps_cons_of_step (Session.boundedStep_of_step
    (Session.step_finalize_check f (by exact hf) (by simp [hfin] : _ = [s.ledger]) (by exact hc))
    (hcap _ rfl hst rfl (by simp)))) ?_
  exact Session.runSteps_end (by exact hd) (by exact hdr) (by exact hst) (by rfl)
    (by exact hld) (by rfl) (by exact hf) (by exact hq)

end Ends

/-! ## Delivery -/

/-- The session once the peer's `ObjectInfo`s for `pull` are in: each entry announced, the
    `Info` markers in the ledger, the acknowledgements sent, and the start signal given. -/
def Session.announced (peer : Ulid → Served) (pull : List Ulid) (resources : Resources) :
    Session :=
  { Session.init pull resources with
    handlers := pull.map fun o => (o.toString, (peer o).entry),
    counter := pull.length,
    start := [true],
    ledger := pull.map fun o => (peer o).infoMarker o,
    requests := pull.map fun o => .infoAck o.toString }

theorem Session.runSteps_announced {env : SessionEnv} {pull : List Ulid} {resources : Resources}
    (peer : Ulid → Served) (hp : pull.Nodup) (hne : pull ≠ [])
    (hbl : ∀ o ∈ pull, (peer o).blockList.all (· < 256) = true) :
    runSteps (Session.boundedStep env) (Session.init pull resources)
        (pull.flatMap fun o => (peer o).infoSteps o) =
      some (Session.announced peer pull resources) := by
  have hH : (pull.map fun o => (o.toString,
      if o ∈ pull then (peer o).announce HandlerEntry.empty else HandlerEntry.empty)) =
      pull.map fun o => (o.toString, (peer o).entry) :=
    List.map_congr_left fun o h => by rw [if_pos h]; rfl
  have hI : (pull.map fun o => (peer o).infoMarker o).Nodup :=
    hp.map_on fun _ _ _ _ h => (RcvSync.info.inj h).1
  have hF := foldl_addMarker_fresh _ [] hI (by simp)
  rw [Session.runSteps_infos peer pull pull (fun _ => .empty) _ hp (fun _ h => h) hbl rfl rfl rfl
    rfl rfl (fun _ => rfl) (init_handlers hp), hH]
  simp [Session.announced, Session.init, hne, hF]

theorem queues_announced (peer : Ulid → Served) (pull : List Ulid) :
    ∀ e ∈ pull.map (fun o => (o.toString, (peer o).entry)), e.2.queue.length ≤ 1 := by
  simp [Served.entry, Served.announce, HandlerEntry.empty]

/-- **Delivery.** For objects `pull`, distinct, each known to the cache without a location,
    whose chunk data the peer serves (at least one chunk an object, fewer than `2 ^ 64`, a
    block list of bytes), a backend that gives each object a location, and a writer whose
    probes publish a hash and a size, the session ends on bounded channels with every task
    done: it has written each object's data, put each object in the cache with a location,
    reported each one `Finished`, sent the acknowledgements of the peer's frames and one
    `FinishMessage`, and `process` returns every object it asked for. -/
theorem Session.delivers {env : SessionEnv} {pull : List Ulid} {resources : Resources}
    (peer : Ulid → Served) (hp : pull.Nodup) (hne : pull ≠ [])
    (hres : ∀ o ∈ pull, ∃ object, object.id = o ∧ resources o = some (object, none) ∧
      ∃ loc, env.initializeLocation object (peer o).rawSize = .ok loc)
    (hsz : ∀ o ∈ pull, (peer o).chunks ≠ [] ∧ (peer o).chunks.length < 2 ^ 64)
    (hbl : ∀ o ∈ pull, (peer o).blockList.all (· < 256) = true)
    (hw : ∀ ts bytes, ∃ sha size, env.writer ts bytes = ⟨some sha, some size⟩) :
    ∃ s, runSteps (Session.boundedStep env) (Session.init pull resources)
        (deliverySteps peer pull) = some s ∧
      s.ended = true ∧ s.finalizer = .returned (pull.map .pull) ∧
      s.stored = pull.map (fun o => (o, (peer o).chunks.flatten)) ∧ s.statusUpdates = pull ∧
      (∀ o ∈ pull, s.resources.Located o) ∧
      s.requests = pull.map (fun o => .infoAck o.toString) ++
        pull.flatMap (fun o => (peer o).chunkAcks o) ++ [.finishMessage] := by
  have hlt : ∀ o ∈ pull, (peer o).chunks.length < 2 ^ 64 := fun o h => (hsz o h).2
  have hL : (pull.flatMap fun o => (peer o).chunkMarkers o).foldl addMarker
      (pull.map fun o => (peer o).infoMarker o) = deliveryLedger peer pull := by
    have hn := nodup_deliveryLedger peer hp hlt
    exact foldl_addMarker_fresh _ _ (List.nodup_append.1 hn).2.1
      fun _ hm hi => (List.nodup_append.1 hn).2.2 hi hm
  have hq := queues_announced peer pull
  obtain ⟨r, hloc, -, hloads⟩ := Session.runSteps_loads peer hw pull
    { Session.announced peer pull resources with
      start := [], driver := .pass 1 (pull.map fun o => (o.toString, (peer o).entry)) }
    hp hsz hres ⟨rfl, rfl, rfl, rfl, rfl⟩ rfl rfl
  apply Exists.intro
  constructor
  · simp only [deliverySteps, List.append_assoc, List.cons_append, List.nil_append]
    refine Eq.trans (runSteps_append_of (Session.runSteps_announced peer hp hne hbl)) ?_
    refine Eq.trans (runSteps_cons_of_step (Session.boundedStep_of_step
      (Session.step_start (by rfl) (by rfl))
      (Session.withinCapacity_of (by simp) (by simp [Session.announced, Session.init])
        (by simp [Session.announced, Session.init]) hq))) ?_
    refine Eq.trans (runSteps_cons_of_step (Session.boundedStep_of_step
      (Session.step_nextPass (by rfl))
      (Session.withinCapacity_of (by simp) (by simp [Session.announced, Session.init])
        (by simp [Session.announced, Session.init]) hq))) ?_
    refine Eq.trans (runSteps_append_of hloads) ?_
    refine Eq.trans (runSteps_cons_of_step (Session.boundedStep_of_step
      (Session.step_passEnd (by rfl) (by rfl))
      (Session.withinCapacity_of (by simp) (by simp [Session.announced, Session.init])
        (by simp [Session.announced, Session.init]) (by simp)))) ?_
    exact Session.runSteps_finish (pull.map fun o => (.pull o, false)) (by rfl) (by rfl) (by rfl)
      (by rfl) (by rfl) (by rfl) (by rfl) (by simp)
      (by simpa [Session.announced, Session.init, hL] using checkInfos_deliveryLedger peer hp hlt)
  simp [Session.ended, Demux.isDone, Driver.isDone, Session.announced, Session.init,
    Function.comp_def]
  exact hloc

/-- The peer serves `O` as one chunk of one byte. -/
def servedO : Served := ⟨[[0]], [], 1⟩

theorem delivers_servedO :
    ∃ s, runSteps (Session.boundedStep replicaEnv) (Session.init [objectO.id] cacheWithO)
        (deliverySteps (fun _ => servedO) [objectO.id]) = some s ∧
      s.ended = true ∧ s.finalizer = .returned ([objectO.id].map .pull) ∧
      s.stored = [objectO.id].map (fun o => (o, ((fun _ => servedO) o).chunks.flatten)) ∧
      s.statusUpdates = [objectO.id] ∧ (∀ o ∈ [objectO.id], s.resources.Located o) ∧
      s.requests = [objectO.id].map (fun o => .infoAck o.toString) ++
        [objectO.id].flatMap (fun o => ((fun _ => servedO) o).chunkAcks o) ++ [.finishMessage] :=
  Session.delivers (fun _ => servedO) (List.nodup_singleton _) (List.cons_ne_nil _ _)
    (by
      simp only [List.mem_singleton]
      rintro o rfl
      exact ⟨objectO, rfl, if_pos rfl, _, rfl⟩)
    (by decide) (by decide) fun _ _ => ⟨_, _, rfl⟩

end DataProxy
