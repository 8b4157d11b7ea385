/-
  DataProxy formalization — what the tasks of a pull replication exchange
  (`replication_handler.rs` and the `dataproxy.services.v2` messages it uses).

  * `Direction`: an intent of the scheduler's queue;
  * `Request` and `Response`: the frames of the pull stream, ours and the peer's;
  * `DataChunk`: a chunk on its way from the response demux to the validator;
  * `RcvSync`: a marker of the sync ledger;
  * `TaskError`: the `anyhow::Error` a task ends with.

  Integers of type `i64` are `BitVec 64`, where the code adds to them or casts
  them; `i32` and `u32` values that are only compared are integers.
-/
import DataProxy.Ulid

namespace DataProxy

/-- `Direction`: which way an object is replicated. -/
inductive Direction where
  | push (id : Ulid)
  | pull (id : Ulid)
  deriving DecidableEq, Repr

/-- A `PullReplicationRequest`: a frame this proxy sends to the peer. -/
inductive Request where
  /-- `InitMessage`, which opens the stream -/
  | init (dataproxyId : String) (objectIds : List String)
  /-- `InfoAckMessage` -/
  | infoAck (objectId : String)
  /-- `ChunkAckMessage` -/
  | chunkAck (objectId : String) (chunkIdx : BitVec 64)
  /-- `ErrorMessage` with `RetryObjectId` -/
  | retryObjectId (objectId : String)
  /-- `ErrorMessage` with `RetryChunk` -/
  | retryChunk (objectId : String) (chunkIdx : BitVec 64)
  /-- `ErrorMessage` with `Abort` -/
  | abort
  /-- `FinishMessage` -/
  | finishMessage
  deriving DecidableEq, Repr

/-- A `PullReplicationResponse`: a frame the peer sends. -/
inductive Response where
  /-- `ObjectInfo` (`block_list` holds `u32`s) -/
  | objectInfo (objectId : String) (chunks : BitVec 64) (blockList : List ℕ) (rawSize : ℤ)
  /-- `Chunk` -/
  | chunk (objectId : String) (chunkIdx : BitVec 64) (data : List UInt8) (checksum : String)
  /-- `FinishMessage` -/
  | finishMessage
  /-- a frame without a message -/
  | empty
  deriving DecidableEq, Repr

/-- `DataChunk`. -/
structure DataChunk where
  objectId : String
  chunkIdx : BitVec 64
  data : List UInt8
  checksum : String
  deriving DecidableEq, Repr

/-- `RcvSync`: what the sync ledger collects. -/
inductive RcvSync where
  /-- an `ObjectInfo` arrived: the object and its number of chunks -/
  | info (id : Ulid) (chunks : BitVec 64)
  /-- a chunk went on: the object and the chunk's index -/
  | chunk (id : Ulid) (idx : BitVec 64)
  /-- the driver is done: the ledger hands its markers to the finalizer -/
  | finish
  deriving DecidableEq, Repr

/-- The `anyhow::Error` a task of the replication ends with. -/
inductive TaskError where
  /-- an error of the handler's own, with its text -/
  | msg (text : String)
  /-- `DieselUlid::from_str` failed -/
  | ulid (e : DecodeError)
  deriving DecidableEq, Repr

end DataProxy
