/-
  DataProxy formalization — the acknowledgements of a pull session: the
  `InfoAckMessage`s and `ChunkAckMessage`s the response demux sends for the
  `ObjectInfo` and `Chunk` frames it consumes.

  * `Request.ackKey` and `Response.ackKey`: the object (and, for a chunk, the
    index) an acknowledgement names, and the one a frame of the peer carries;
  * `Demux.pendingAck`: the acknowledgement the demux owes for the frame it is
    in; `Session.step_ackKeys`: a frame adds its key to what is owed, the demux
    turns what it owes into an acknowledgement or drops it, and no other task
    sends one.

  Main result: `Session.acks_sublist_frames`, in every run of a session, the
  acknowledgements sent are, in order, those of frames the demux consumed, and
  none is sent twice for one frame.
-/
import DataProxy.Replication.Outcome

namespace DataProxy

/-- The frame an acknowledgement answers: its object, and a chunk's index. -/
def Request.ackKey : Request → Option (String × Option (BitVec 64))
  | .infoAck objectId => some (objectId, none)
  | .chunkAck objectId chunkIdx => some (objectId, some chunkIdx)
  | _ => none

/-- The key of a frame of the peer that is acknowledged: an `ObjectInfo` or a `Chunk`. -/
def Response.ackKey : Response → Option (String × Option (BitVec 64))
  | .objectInfo objectId _ _ _ => some (objectId, none)
  | .chunk objectId chunkIdx _ _ => some (objectId, some chunkIdx)
  | _ => none

/-- The key of the frame a step consumes. -/
def SessionStep.frameKey : SessionStep → Option (String × Option (BitVec 64))
  | .frame r => r.ackKey
  | _ => none

/-- The acknowledgement the demux owes for the frame it is in. -/
def Demux.pendingAck : Demux → Option (String × Option (BitVec 64))
  | .infoSent objectId _ _ _ => some (objectId, none)
  | .chunkHeld objectId chunkIdx => some (objectId, some chunkIdx)
  | _ => none

/-- The acknowledgements a session has sent, then the one its demux owes. -/
def Session.ackKeys (s : Session) : List (String × Option (BitVec 64)) :=
  s.requests.filterMap Request.ackKey ++ s.demux.pendingAck.toList

/-! ## Step lemmas -/

section Steps

variable {env : SessionEnv} {s s' : Session}

/-- Leaves the demux, and sends no acknowledgement. -/
def Session.SendsNoAck (s s' : Session) : Prop :=
  s'.demux = s.demux ∧ s'.requests.filterMap Request.ackKey = s.requests.filterMap Request.ackKey

theorem Session.SendsNoAck.ackKeys (h : s.SendsNoAck s') : s'.ackKeys = s.ackKeys := by
  rw [Session.ackKeys, Session.ackKeys, h.1, h.2]

theorem Session.ledgerStep_sendsNoAck (h : s.ledgerStep = some s') : s.SendsNoAck s' := by
  unfold Session.ledgerStep at h
  repeat' split at h
  all_goals cases h <;> exact ⟨rfl, rfl⟩

theorem Session.finalizeStep_sendsNoAck (h : s.finalizeStep = some s') : s.SendsNoAck s' := by
  unfold Session.finalizeStep at h
  repeat' split at h
  all_goals cases h <;> simp [Session.SendsNoAck, Request.ackKey]

theorem Session.driveStep_sendsNoAck (h : s.driveStep env = some s') : s.SendsNoAck s' := by
  unfold Session.driveStep Session.visit at h
  repeat' split at h
  all_goals cases h <;> simp [Session.SendsNoAck, Request.ackKey]

theorem Session.validateStep_sendsNoAck (h : s.validateStep = some s') : s.SendsNoAck s' := by
  unfold Session.validateStep at h
  repeat' split at h
  all_goals cases h
  refine ⟨rfl, ?_⟩
  dsimp only
  unfold Validator.pass
  repeat' split
  all_goals simp [sendOpt, Request.ackKey]

theorem Session.writeStep_sendsNoAck (h : s.writeStep env = some s') : s.SendsNoAck s' := by
  unfold Session.writeStep at h
  repeat' split at h
  all_goals cases h <;> exact ⟨rfl, rfl⟩

/-- A frame leaves the demux owing the frame's acknowledgement, or none. -/
theorem Session.frame_ackKeys (hd : s.demux = .ready) (r : Response) :
    (s.frame r).ackKeys.Sublist (s.ackKeys ++ r.ackKey.toList) := by
  unfold Session.frame
  repeat' split
  all_goals simp [Session.ackKeys, Request.ackKey, Response.ackKey, Demux.pendingAck, hd]

/-- The demux sends the acknowledgement it owes, or drops it. -/
theorem Session.demuxStep_ackKeys (h : s.demuxStep = some s') :
    s'.ackKeys.Sublist s.ackKeys := by
  unfold Session.demuxStep at h
  repeat' split at h
  all_goals cases h
  all_goals simp [Session.ackKeys, Request.ackKey, Demux.pendingAck, *]

end Steps

/-- **Step lemma.** What a session has acknowledged or owes grows only by the key of the
    frame a step consumes. -/
theorem Session.step_ackKeys {env : SessionEnv} {s s' : Session} {l : SessionStep}
    (h : s.step env l = some s') : s'.ackKeys.Sublist (s.ackKeys ++ l.frameKey.toList) := by
  cases l with
  | frame r =>
    simp only [Session.step] at h
    split at h <;> cases h
    exact Session.frame_ackKeys ‹_› r
  | hangUp =>
    simp only [Session.step] at h
    split at h <;> cases h
    simp [Session.ackKeys, Demux.pendingAck, ‹s.demux = _›]
  | demux => simpa [SessionStep.frameKey] using Session.demuxStep_ackKeys h
  | ledger => simp [SessionStep.frameKey, (Session.ledgerStep_sendsNoAck h).ackKeys]
  | drive => simp [SessionStep.frameKey, (Session.driveStep_sendsNoAck h).ackKeys]
  | validate => simp [SessionStep.frameKey, (Session.validateStep_sendsNoAck h).ackKeys]
  | write => simp [SessionStep.frameKey, (Session.writeStep_sendsNoAck h).ackKeys]
  | finalize => simp [SessionStep.frameKey, (Session.finalizeStep_sendsNoAck h).ackKeys]

/-- **Run lemma.** Over a run of steps, what a session has acknowledged or owes grows only by
    the keys of the frames consumed, in order. -/
theorem Session.ackKeys_runSteps (env : SessionEnv) :
    ∀ {ls : List SessionStep} {s t : Session}, runSteps (Session.step env) s ls = some t →
      t.ackKeys.Sublist (s.ackKeys ++ ls.filterMap SessionStep.frameKey)
  | [], _, _, h => by
    cases h
    simp
  | l :: ls, s, t, h => by
    obtain ⟨s', hs', h⟩ := Option.bind_eq_some.1 h
    refine (ackKeys_runSteps env h).trans ?_
    have hstep := (Session.step_ackKeys hs').append (List.Sublist.refl
      (ls.filterMap SessionStep.frameKey))
    rw [List.filterMap_cons]
    cases hk : l.frameKey <;> simpa [hk] using hstep

/-- **Acknowledgements follow the frames.** In every run of a pull session, whatever the
    peer sends and however the tasks interleave, the `InfoAckMessage`s and
    `ChunkAckMessage`s the session has sent name, in order, `ObjectInfo` and `Chunk` frames
    the demux consumed, one acknowledgement per frame at most. -/
theorem Session.acks_sublist_frames {env : SessionEnv} {pull : List Ulid}
    {resources : Resources} {ls : List SessionStep} {s : Session}
    (h : runSteps (Session.step env) (Session.init pull resources) ls = some s) :
    (s.requests.filterMap Request.ackKey).Sublist (ls.filterMap SessionStep.frameKey) := by
  have := Session.ackKeys_runSteps env h
  simp only [Session.ackKeys, Session.init, List.filterMap_nil, Demux.pendingAck,
    Option.toList_none, List.append_nil, List.nil_append] at this
  exact (List.sublist_append_left _ _).trans this

theorem acks_resendState :
    runSteps (Session.step replicaEnv) (Session.init [objectO.id] cacheWithO) resendSteps =
      some resendState ∧
    (resendState.requests.filterMap Request.ackKey).Sublist
      (resendSteps.filterMap SessionStep.frameKey) :=
  ⟨runSteps_resendSteps, Session.acks_sublist_frames runSteps_resendSteps⟩

end DataProxy
