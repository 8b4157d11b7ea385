/-
  DataProxy formalization — one pull session of `ReplicationHandler::process`:
  the three tasks it starts for an endpoint, and the finalizer that runs in
  `process` itself.

  * the response demux reads the peer's frames: an `ObjectInfo` goes to the
    ledger and into `object_handler_map`, a `Chunk` into its object's channel
    and, as a marker, to the ledger;
  * the sync ledger collects the markers in a set, and hands a copy to the
    finalizer at each `Finish`;
  * the backend driver makes passes over the map: an object that has a
    location is done, one whose `ObjectInfo` came is loaded
    (`load_into_backend`, with the validator of `Backend` reading the object's
    channel), upserted into the cache and reported `Finished`; after a pass
    that leaves the map empty, or after the 21st, it sends `Finish` to the
    ledger;
  * the finalizer checks a snapshot: an object with an `Info` marker must have
    as many chunk markers as it announced, or be done already; it then sends
    `FinishMessage`, and once every task has ended `process` returns the
    objects of `finished_objects`.

  `Session.step` takes one step of one of them, chosen by a `SessionStep`; a
  `frame` step reads the peer's next frame, so the runs range over every peer.
  `Session.step` lets every send through, as if the channels were unbounded;
  `Session.boundedStep` holds each channel to the capacity `process` gives
  it, and its runs are runs of `Session.step`
  (`Session.reaches_of_boundedStep`), so what holds in every state
  `Session.step` reaches holds on bounded channels too.

  A step is one await of the code, but for these, which are one step each: a
  frame up to its first send, the driver's snapshot of the map, the writer
  (its storage backend is a `Writer`), and the upsert, status update and
  removal after a load. A frame whose send would overfill a channel waits
  before it is read: the demux then holds no guard of the map, where the code
  holds the entry's guard while it waits. The channel between a validator and
  its writer is left unbounded, since the writer empties it as it is filled;
  the channel of requests to the peer comes from `pull_replication`, whose
  code is not in the repository, and is left unbounded too. `DashMap`
  iteration follows insertion order. The calls to the server and the cache
  (the status updates, the `InitMessage`, `upsert_object`) are taken to
  succeed.
-/
import DataProxy.Replication.Backend
import DataProxy.Transition

namespace DataProxy

/-! ## The shared state -/

/-- An entry of `object_handler_map`: the chunks waiting in the object's channel, and what
    its `ObjectInfo` said (`chunks`, `block_list`, `raw_size`, and whether it came). -/
structure HandlerEntry where
  queue : List DataChunk
  chunks : BitVec 64
  blocklist : List ℕ
  rawSize : ℤ
  synced : Bool
  deriving DecidableEq, Repr

/-- The entry `process` creates for an object it asks for. -/
def HandlerEntry.empty : HandlerEntry := ⟨[], 0, [], 0, false⟩

instance : Inhabited HandlerEntry := ⟨.empty⟩

/-- `object_handler_map`, keyed by the object's id as a string. -/
abbrev Handlers := List (String × HandlerEntry)

/-- `alter`: a new value for the entry of `k`, where there is one. -/
def alterEntry (h : Handlers) (k : String) (f : HandlerEntry → HandlerEntry) : Handlers :=
  h.map fun e => if e.1 = k then (e.1, f e.2) else e

/-- `remove`. -/
def removeEntry (h : Handlers) (k : String) : Handlers := h.filter (·.1 ≠ k)

/-- `insert` into `finished_objects`. -/
def setFinished (f : List (Direction × Bool)) (d : Direction) (b : Bool) : List (Direction × Bool) :=
  f.filter (·.1 ≠ d) ++ [(d, b)]

/-- `cache.resources`: each object, with its location if it has one. -/
def Resources := Ulid → Option (Object × Option ObjectLocation)

/-- `upsert_object`. -/
def Resources.upsert (r : Resources) (o : Object) (loc : Option ObjectLocation) : Resources :=
  fun k => if k = o.id then some (o, loc) else r k

/-! ## The tasks -/

/-- Where the response demux is. -/
inductive Demux where
  /-- in `response_stream.message()` -/
  | ready
  /-- an `ObjectInfo` whose marker is sent; the map entry and the acknowledgement next -/
  | infoSent (objectId : String) (chunks : BitVec 64) (blockList : List ℕ) (rawSize : ℤ)
  /-- a chunk sent into its object's channel, with the map entry's guard still held -/
  | chunkHeld (objectId : String) (chunkIdx : BitVec 64)
  /-- the task has returned -/
  | done (result : Except TaskError Unit)
  deriving DecidableEq, Repr

/-- Whether the demux has returned. -/
def Demux.isDone : Demux → Bool
  | .done _ => true
  | _ => false

/-- Whether the demux holds the guard of the entry `k`, which keeps its `remove` waiting. -/
def Demux.holds (k : String) : Demux → Bool
  | .chunkHeld objectId _ => objectId = k
  | _ => false

/-- Where the backend driver is. -/
inductive Driver where
  /-- in `start_receiver.recv()` -/
  | awaitStart
  /-- before the snapshot of the next pass -/
  | nextPass (batchCounter : ℕ)
  /-- in a pass, with the entries of its snapshot still to visit -/
  | pass (batchCounter : ℕ) (batch : Handlers)
  /-- in `load_into_backend` for the entry `id`, whose validator is `run` -/
  | loading (batchCounter : ℕ) (rest : Handlers) (id : String) (entry : HandlerEntry)
      (object : Object) (location : ObjectLocation) (run : ValidatorRun)
  /-- `Abort` sent after the last pass; `Finish` next -/
  | aborting
  /-- the task has returned -/
  | done (result : Except TaskError Unit)
  deriving DecidableEq, Repr

/-- Whether the driver has returned. -/
def Driver.isDone : Driver → Bool
  | .done _ => true
  | _ => false

/-- Where the finalizer, the rest of `process`, is. -/
inductive Finalizer where
  /-- in `finish_receiver.recv()` -/
  | running
  /-- `process` has returned this error, after an `Abort` -/
  | failed (e : TaskError)
  /-- `process` has returned, and its result lists these for the endpoint -/
  | returned (finished : List Direction)
  deriving DecidableEq, Repr

/-- A pull session. -/
structure Session where
  handlers : Handlers
  resources : Resources
  demux : Demux
  /-- the demux's count of `ObjectInfo`s -/
  counter : ℕ
  /-- the start channel -/
  start : List Bool
  /-- the sync channel, to the ledger -/
  sync : List RcvSync
  /-- the ledger's set of markers -/
  ledger : List RcvSync
  ledgerDone : Bool
  /-- the finish channel, to the finalizer -/
  finish : List (List RcvSync)
  driver : Driver
  finalizer : Finalizer
  /-- `finished_objects` -/
  finished : List (Direction × Bool)
  /-- the requests sent to the peer -/
  requests : List Request
  /-- the objects reported `Finished` -/
  statusUpdates : List Ulid
  /-- the bytes each load fed into its writer, by object -/
  stored : List (Ulid × List UInt8)

/-- What the session's tasks call outside: the storage backend. -/
structure SessionEnv where
  writer : Writer
  /-- `backend.initialize_location(&object, Some(raw_size), None, false)` -/
  initializeLocation : Object → ℤ → Except TaskError ObjectLocation

/-- The session `process` starts for the objects `pull`: an entry for each, and the cache as
    it is. -/
def Session.init (pull : List Ulid) (resources : Resources) : Session where
  handlers := pull.foldl (fun h o => removeEntry h o.toString ++ [(o.toString, .empty)]) []
  resources := resources
  demux := .ready
  counter := 0
  start := []
  sync := []
  ledger := []
  ledgerDone := false
  finish := []
  driver := .awaitStart
  finalizer := .running
  finished := []
  requests := []
  statusUpdates := []
  stored := []

/-! ### The response demux -/

/-- The demux reads the peer's next frame, up to its first send. -/
def Session.frame (s : Session) : Response → Session
  | .objectInfo objectId chunks blockList rawSize =>
    match Ulid.fromStr objectId with
    | .error e => { s with counter := s.counter + 1, demux := .done (.error (.ulid e)) }
    | .ok id =>
      { s with counter := s.counter + 1, sync := s.sync ++ [.info id chunks],
               demux := .infoSent objectId chunks blockList rawSize }
  | .chunk objectId chunkIdx data checksum =>
    if (s.handlers.lookup objectId).isSome then
      { s with handlers := alterEntry s.handlers objectId fun e =>
                 { e with queue := e.queue ++ [⟨objectId, chunkIdx, data, checksum⟩] },
               demux := .chunkHeld objectId chunkIdx }
    else { s with requests := s.requests ++ [.retryObjectId objectId] }
  | .finishMessage => { s with demux := .done (.ok ()) }
  | .empty => { s with demux := .done (.error (.msg "No message provided in PullReplicationResponse")) }

/-- The demux ends the frame it is in: the entry and the acknowledgement of an
    `ObjectInfo` (and the start signal for the first one), the marker and the
    acknowledgement of a chunk. -/
def Session.demuxStep (s : Session) : Option Session :=
  match s.demux with
  | .infoSent objectId chunks blockList rawSize =>
    if blockList.all (· < 256) then
      some { s with
        handlers := alterEntry s.handlers objectId fun e =>
          { e with chunks := chunks, blocklist := blockList, rawSize := rawSize, synced := true },
        requests := s.requests ++ [.infoAck objectId],
        start := if s.counter = 1 then s.start ++ [true] else s.start,
        demux := .ready }
    else some { s with demux := .done (.error (.msg "Could not convert blocklist to u8")) }
  | .chunkHeld objectId chunkIdx =>
    match Ulid.fromStr objectId with
    | .error e => some { s with demux := .done (.error (.ulid e)) }
    | .ok id =>
      some { s with sync := s.sync ++ [.chunk id chunkIdx],
                    requests := s.requests ++ [.chunkAck objectId chunkIdx], demux := .ready }
  | _ => none

/-! ### The sync ledger -/

/-- The ledger takes the next marker; once the channel is empty and its senders, the demux
    and the driver, are gone, it ends. A `Finish` whose snapshot the finalizer can no longer
    take ends it too. -/
def Session.ledgerStep (s : Session) : Option Session :=
  if s.ledgerDone then none else
  match s.sync with
  | .finish :: rest =>
    match s.finalizer with
    | .running => some { s with sync := rest, finish := s.finish ++ [s.ledger] }
    | _ => some { s with sync := rest, ledgerDone := true }
  | m :: rest =>
    some { s with sync := rest, ledger := if m ∈ s.ledger then s.ledger else s.ledger ++ [m] }
  | [] => if s.demux.isDone && s.driver.isDone then some { s with ledgerDone := true } else none

/-! ### The backend driver -/

/-- The driver on an entry of its snapshot: an object with a location is done, one whose
    `ObjectInfo` has not come is skipped, and one whose has is loaded. -/
def Session.visit (env : SessionEnv) (s : Session) (bc : ℕ) (id : String) (entry : HandlerEntry)
    (rest : Handlers) : Session :=
  match Ulid.fromStr id with
  | .error e => { s with driver := .done (.error (.ulid e)) }
  | .ok objectId =>
    match s.resources objectId with
    | none => { s with driver := .done (.error (.msg "Object not found")) }
    | some (_, some _) =>
      { s with finished := setFinished s.finished (.pull objectId) true,
               handlers := removeEntry s.handlers id, driver := .pass bc rest }
    | some (object, none) =>
      if entry.synced then
        match env.initializeLocation object entry.rawSize with
        | .error e => { s with driver := .done (.error e) }
        | .ok location => { s with driver := .loading bc rest id entry object location .init }
      else { s with driver := .pass bc rest }

/-- The driver's next step outside a load: the start signal, a snapshot, an entry, or the
    end of a pass. -/
def Session.driveStep (env : SessionEnv) (s : Session) : Option Session :=
  match s.driver with
  | .awaitStart =>
    match s.start with
    | _ :: rest => some { s with start := rest, driver := .nextPass 0 }
    | [] => if s.demux.isDone then some { s with driver := .done (.ok ()) } else none
  | .nextPass bc => some { s with driver := .pass (bc + 1) s.handlers }
  | .pass bc ((id, entry) :: rest) => if s.demux.holds id then none else some (s.visit env bc id entry rest)
  | .pass bc [] =>
    if s.handlers.isEmpty then some { s with sync := s.sync ++ [.finish], driver := .awaitStart }
    else if bc > 20 then some { s with requests := s.requests ++ [.abort], driver := .aborting }
    else some { s with driver := .nextPass bc }
  | .aborting => some { s with sync := s.sync ++ [.finish], driver := .awaitStart }
  | _ => none

/-- The validator of the load in progress takes the next chunk of its object's channel. -/
def Session.validateStep (s : Session) : Option Session :=
  match s.driver with
  | .loading bc rest id entry object location run =>
    if run.result.isSome then none else
    match (s.handlers.lookup id).map (·.queue) with
    | some (d :: ds) =>
      let p := run.validator.pass entry.chunks d
      some { s with handlers := alterEntry s.handlers id fun e => { e with queue := ds },
                    requests := sendOpt s.requests p.retry, sync := sendOpt s.sync p.marker,
                    driver := .loading bc rest id entry object location (run.apply p) }
    | _ => none
  | _ => none

/-- The validator has returned, so the writer ends and `load_into_backend` with it: on `Ok`
    the driver upserts the object with its location, reports it `Finished` and removes its
    entry; on `Err` the driver returns. -/
def Session.writeStep (env : SessionEnv) (s : Session) : Option Session :=
  match s.driver with
  | .loading bc rest id entry object location run =>
    if run.result.isNone || s.demux.holds id then none else
    let s := { s with stored := s.stored ++ [(object.id, run.forwarded.flatMap (·.data))] }
    match finishLoad env.writer entry.blocklist location run with
    | (.ok (), location) =>
      some { s with resources := s.resources.upsert object (some location),
                    statusUpdates := s.statusUpdates ++ [object.id],
                    handlers := removeEntry s.handlers id, driver := .pass bc rest }
    | (.error e, _) => some { s with driver := .done (.error e) }
  | _ => none

/-! ### The finalizer -/

/-- The `Info` markers of a snapshot. -/
def infos (snap : List RcvSync) : List (Ulid × BitVec 64) :=
  snap.filterMap fun m => match m with
    | .info id chunks => some (id, chunks)
    | _ => none

/-- The number of chunk markers of `id` in a snapshot. -/
def collected (snap : List RcvSync) (id : Ulid) : ℕ :=
  (snap.filter fun m => match m with
    | .chunk id' _ => id' = id
    | _ => false).length

/-- The finalizer's loop over the `Info` markers: an object whose count differs is passed
    over if the driver found it done, and aborts the session otherwise; an object whose
    count matches goes into `finished_objects`. `none` where it aborts. -/
def checkInfos (snap : List RcvSync) :
    List (Ulid × BitVec 64) → List (Direction × Bool) → Option (List (Direction × Bool))
  | [], f => some f
  | (id, chunks) :: rest, f =>
    if chunks.toNat ≠ collected snap id then
      if f.lookup (.pull id) = some true then checkInfos snap rest f else none
    else checkInfos snap rest (setFinished f (.pull id) false)

/-- The finalizer takes a snapshot and answers `FinishMessage`, or `Abort` and returns; once
    the ledger has ended, `process` returns the objects of `finished_objects`. -/
def Session.finalizeStep (s : Session) : Option Session :=
  match s.finalizer with
  | .running =>
    match s.finish with
    | snap :: rest =>
      match checkInfos snap (infos snap) s.finished with
      | some f => some { s with finish := rest, finished := f, requests := s.requests ++ [.finishMessage] }
      | none =>
        some { s with finish := rest, requests := s.requests ++ [.abort],
                      finalizer := .failed (.msg "Not all chunks recieved, aborting sync") }
    | [] => if s.ledgerDone then some { s with finalizer := .returned (s.finished.map (·.1)) } else none
  | _ => none

/-! ### Steps -/

/-- A step of one task of the session. -/
inductive SessionStep where
  /-- the demux reads this frame of the peer -/
  | frame (r : Response)
  /-- the response stream ends (`Ok`) or fails -/
  | hangUp (result : Except TaskError Unit)
  /-- the demux ends its frame -/
  | demux
  | ledger
  | drive
  | validate
  | write
  | finalize
  deriving DecidableEq, Repr

/-- One step of the session; `none` where it is not enabled. -/
def Session.step (env : SessionEnv) (s : Session) : SessionStep → Option Session
  | .frame r => if s.demux = .ready then some (s.frame r) else none
  | .hangUp result => if s.demux = .ready then some { s with demux := .done result } else none
  | .demux => s.demuxStep
  | .ledger => s.ledgerStep
  | .drive => s.driveStep env
  | .validate => s.validateStep
  | .write => s.writeStep env
  | .finalize => s.finalizeStep

/-- Every task has ended. -/
def Session.ended (s : Session) : Bool :=
  s.demux.isDone && s.driver.isDone && s.ledgerDone && s.finalizer != .running

/-! ### Bounded channels -/

/-- The capacities `process` gives its channels: `async_channel::bounded(1)` for the start
    and finish channels, `bounded(100)` for the sync channel and for each object's channel. -/
def Session.withinCapacity (s : Session) : Bool :=
  s.start.length ≤ 1 && s.sync.length ≤ 100 && s.finish.length ≤ 1 &&
    s.handlers.all fun e => e.2.queue.length ≤ 100

/-- One step of the session on bounded channels: a send into a full channel waits, so a step
    is taken only where it leaves every channel within its capacity. -/
def Session.boundedStep (env : SessionEnv) (s : Session) (a : SessionStep) : Option Session :=
  (s.step env a).filter Session.withinCapacity

section Bounded

variable {env : SessionEnv} {s t : Session} {a : SessionStep}

theorem Session.withinCapacity_iff : s.withinCapacity = true ↔ s.start.length ≤ 1 ∧
    s.sync.length ≤ 100 ∧ s.finish.length ≤ 1 ∧ ∀ e ∈ s.handlers, e.2.queue.length ≤ 100 := by
  simp [Session.withinCapacity, and_assoc]

theorem Session.step_of_boundedStep (h : s.boundedStep env a = some t) : s.step env a = some t :=
  (Option.filter_eq_some.1 h).1

theorem Session.boundedStep_of_step (h : s.step env a = some t) (hc : t.withinCapacity = true) :
    s.boundedStep env a = some t := by
  rw [Session.boundedStep, h, Option.filter_some, if_pos hc]

/-- The states a session reaches on bounded channels are states it reaches. -/
theorem Session.reaches_of_boundedStep {s t : Session} (h : Reaches (Session.boundedStep env) s t) :
    Reaches (Session.step env) s t :=
  h.mono fun _ _ _ => Session.step_of_boundedStep

end Bounded

end DataProxy
