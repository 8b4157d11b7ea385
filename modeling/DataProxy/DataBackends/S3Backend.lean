/-
  DataProxy formalization — the S3 storage backend (`data_backends/s3_backend.rs`):
  what each method of `StorageBackend for S3Backend` asks of the S3 service.

  * `S3Service`: the calls the backend makes through the SDK's client, on a
    service whose state is `σ`; a call fails, or answers and leaves the service
    in its next state;
  * `S3Backend.checkAndCreateBucket`, `putObject`, `getObject`, `headObject`,
    `initMultipartUpload`, `uploadMultiObject`, `finishMultipartUpload`,
    `createBucket` and `deleteObject`: the methods, their calls chained by `?`;
  * `completedPart`: the loop body of `finish_multipart_upload`, which converts
    a part's number back to `i32` and removes the dashes of its ETag.

  Main results: `finishMultipartUpload_uploaded`, the parts that
  `upload_multi_object` returned always pass the conversion, and the completion
  names them in order, each with its number and its ETag without dashes;
  `finishMultipartUpload_error`, with a part number outside `i32` the method
  fails before any call; `checkAndCreateBucket_idem`, on a service whose
  `GetBucketLocation` answers for the buckets it holds and whose `CreateBucket`
  adds one, a second check finds the bucket and leaves the service as it is;
  `putObject_bucket`, an object is put only into a bucket the service holds;
  `getObject_spec`, the sender gets the body up to its first error, or until
  its receiver is gone, and the method returns how the loop ended.

  The bytes of an upload's body are taken whole: the errors of the stream it
  is read from are left out.
-/
import DataProxy.Rust

namespace DataProxy

/-- `Location` of the storage backend: the bucket and the key of an object. -/
structure Location where
  bucket : String
  path : String
  deriving DecidableEq, Repr

/-- `PartETag`: a part's number, an `i64`, and the ETag S3 gave it. -/
structure PartETag where
  partNumber : ℤ
  etag : String
  deriving DecidableEq, Repr

/-- `CompletedPart`, as `CompletedPart::builder()` leaves it. -/
structure CompletedPart where
  eTag : String
  partNumber : I32
  deriving DecidableEq, Repr

/-- The calls of the SDK's client the backend makes, on a service whose state is `σ`. -/
structure S3Service (σ : Type) where
  /-- `get_bucket_location().bucket(..)` -/
  getBucketLocation : String → σ → Except String Unit
  /-- `create_bucket().bucket(..)` -/
  createBucket : String → σ → Except String σ
  /-- `put_object()` with the key, the content length and the body -/
  putObject : Location → ℤ → List UInt8 → σ → Except String σ
  /-- `get_object()` with the key and the range: the body's chunks as the stream yields them -/
  getObject : Location → Option String → σ → Except String (List (Except String (List UInt8)))
  /-- `head_object()`: the content length -/
  headObject : Location → σ → Except String ℤ
  /-- `create_multipart_upload()`: the upload id, if the answer holds one -/
  createMultipartUpload : Location → σ → Except String (Option String × σ)
  /-- `upload_part()` with the upload id, the part number, the content length and the body:
      the ETag, if the answer holds one -/
  uploadPart : Location → String → I32 → ℤ → List UInt8 → σ → Except String (Option String × σ)
  /-- `complete_multipart_upload()` with the upload id and the completed parts -/
  completeMultipartUpload : Location → String → List CompletedPart → σ → Except String σ
  /-- `delete_object()` -/
  deleteObject : Location → σ → Except String σ

/-- `i32::try_from` on an `i64`. -/
def I32.tryFrom (n : ℤ) : Except String I32 :=
  if h : -2 ^ 31 ≤ n ∧ n < 2 ^ 31 then .ok ⟨n, h.1, h.2⟩
  else .error "out of range integral type conversion attempted"

/-- `s.replace('-', "")`. -/
def removeDashes (s : String) : String := ⟨s.data.filter (· ≠ '-')⟩

/-- The loop body of `finish_multipart_upload`: the part's number back to `i32`, and its ETag
    without dashes. -/
def completedPart (etag : PartETag) : Except String CompletedPart := do
  let partNumber ← I32.tryFrom etag.partNumber
  pure ⟨removeDashes etag.etag, partNumber⟩

/-- The loop of `get_object` over the body: each chunk goes to the sender, until the stream
    ends or yields an error, or a send fails. The sender's receiver takes `accepted` chunks
    and is then dropped (`none`: it stays), after which `send` returns `SendError`. -/
def sendBody : List (Except String (List UInt8)) → Option ℕ → List (List UInt8) × Except String Unit
  | [], _ => ([], .ok ())
  | .error e :: _, _ => ([], .error e)
  | .ok _ :: _, some 0 => ([], .error "sending into a closed channel")
  | .ok bytes :: rest, some (n + 1) =>
    (bytes :: (sendBody rest (some n)).1, (sendBody rest (some n)).2)
  | .ok bytes :: rest, none => (bytes :: (sendBody rest none).1, (sendBody rest none).2)

namespace S3Backend

variable {σ : Type} (svc : S3Service σ)

/-- `check_and_create_bucket`: a bucket whose location S3 gives is there; any other is
    created. -/
def checkAndCreateBucket (bucket : String) (st : σ) : Except String σ :=
  match svc.getBucketLocation bucket st with
  | .ok () => .ok st
  | .error _ => svc.createBucket bucket st

/-- `put_object`. -/
def putObject (bytes : List UInt8) (location : Location) (contentLen : ℤ) (st : σ) :
    Except String σ := do
  let st ← checkAndCreateBucket svc location.bucket st
  svc.putObject location contentLen bytes st

/-- `get_object`, with a sender whose receiver takes `accepted` chunks (see `sendBody`): the
    chunks sent, and the result. -/
def getObject (location : Location) (range : Option String) (accepted : Option ℕ) (st : σ) :
    List (List UInt8) × Except String Unit :=
  match svc.getObject location range st with
  | .error e => ([], .error e)
  | .ok body => sendBody body accepted

/-- `head_object`. -/
def headObject (location : Location) (st : σ) : Except String ℤ :=
  svc.headObject location st

/-- `init_multipart_upload`, which unwraps the upload id of the answer. -/
def initMultipartUpload (location : Location) (st : σ) : Outcome String (String × σ) := do
  let st ← Outcome.ofExcept (checkAndCreateBucket svc location.bucket st)
  let (uploadId, st) ← Outcome.ofExcept (svc.createMultipartUpload location st)
  match uploadId with
  | some id => pure (id, st)
  | none => .panic "called `Option::unwrap()` on a `None` value"

/-- `upload_multi_object`. -/
def uploadMultiObject (bytes : List UInt8) (location : Location) (uploadId : String)
    (contentLen : ℤ) (partNumber : I32) (st : σ) : Except String (PartETag × σ) := do
  let (eTag, st) ← svc.uploadPart location uploadId partNumber contentLen bytes st
  match eTag with
  | some etag => pure (⟨partNumber.val, etag⟩, st)
  | none => throw "Missing etag"

/-- `finish_multipart_upload`. -/
def finishMultipartUpload (location : Location) (parts : List PartETag) (uploadId : String)
    (st : σ) : Except String σ := do
  let completedParts ← parts.mapM completedPart
  svc.completeMultipartUpload location uploadId completedParts st

/-- `create_bucket`. -/
def createBucket (bucket : String) (st : σ) : Except String σ :=
  checkAndCreateBucket svc bucket st

/-- `delete_object`. -/
def deleteObject (location : Location) (st : σ) : Except String σ :=
  svc.deleteObject location st

end S3Backend

/-! ## Converting the parts back -/

theorem I32.eq_of_val_eq {a b : I32} (h : a.val = b.val) : a = b := by
  cases a; cases b; subst h; rfl

theorem I32.tryFrom_eq_ok {n : ℤ} {i : I32} : I32.tryFrom n = .ok i ↔ i.val = n := by
  unfold I32.tryFrom
  split
  · rw [Except.ok.injEq]
    exact ⟨fun h => h ▸ rfl, fun h => I32.eq_of_val_eq h.symm⟩
  · rename_i hn
    exact iff_of_false (by simp) fun h => hn ⟨h ▸ i.ge, h ▸ i.lt⟩

theorem I32.tryFrom_of_not_mem {n : ℤ} (h : ¬(-2 ^ 31 ≤ n ∧ n < 2 ^ 31)) :
    I32.tryFrom n = .error "out of range integral type conversion attempted" :=
  dif_neg h

theorem completedPart_eq_ok {p : PartETag} {c : CompletedPart} :
    completedPart p = .ok c ↔ c.partNumber.val = p.partNumber ∧ c.eTag = removeDashes p.etag := by
  rw [← I32.tryFrom_eq_ok, completedPart]
  cases I32.tryFrom p.partNumber with
  | error e => simp [bind, Except.bind]
  | ok i =>
    obtain ⟨eTag, n⟩ := c
    simp only [bind, Except.bind, pure, Except.pure, Except.ok.injEq, CompletedPart.mk.injEq]
    exact ⟨fun ⟨he, hn⟩ => ⟨hn, he.symm⟩, fun ⟨hn, he⟩ => ⟨he.symm, hn⟩⟩

/-- The loop of `finish_multipart_upload` over parts whose numbers are `i32`s. -/
theorem mapM_completedPart_ok :
    ∀ (uploads : List (PartETag × I32)), (∀ x ∈ uploads, x.1.partNumber = x.2.val) →
      (uploads.map (·.1)).mapM completedPart =
        .ok (uploads.map fun x => ⟨removeDashes x.1.etag, x.2⟩)
  | [], _ => rfl
  | (p, n) :: uploads, h => by
    have hp : completedPart p = .ok ⟨removeDashes p.etag, n⟩ :=
      completedPart_eq_ok.2 ⟨(h (p, n) (List.mem_cons_self _ _)).symm, rfl⟩
    simp only [List.map_cons, List.mapM_cons, hp, mapM_completedPart_ok uploads
      fun x hx => h x (List.mem_cons_of_mem _ hx)]
    rfl

/-- The loop of `finish_multipart_upload` stops at the first part whose number is not an
    `i32`. -/
theorem mapM_completedPart_error :
    ∀ (parts : List PartETag), (∃ p ∈ parts, ¬(-2 ^ 31 ≤ p.partNumber ∧ p.partNumber < 2 ^ 31)) →
      parts.mapM completedPart = .error "out of range integral type conversion attempted"
  | [], ⟨_, h, _⟩ => absurd h (List.not_mem_nil _)
  | p :: parts, ⟨q, hq, hout⟩ => by
    by_cases hp : -2 ^ 31 ≤ p.partNumber ∧ p.partNumber < 2 ^ 31
    · have hc : completedPart p = .ok ⟨removeDashes p.etag, ⟨p.partNumber, hp.1, hp.2⟩⟩ :=
        completedPart_eq_ok.2 ⟨rfl, rfl⟩
      rcases List.mem_cons.1 hq with rfl | hq
      · exact absurd hp hout
      · simp only [List.mapM_cons, hc, mapM_completedPart_error parts ⟨q, hq, hout⟩]
        rfl
    · simp only [List.mapM_cons, completedPart, I32.tryFrom_of_not_mem hp]
      rfl

namespace S3Backend

variable {σ : Type} (svc : S3Service σ)

/-- `upload_multi_object` gives the part the number it was uploaded under, widened to
    `i64`. -/
theorem uploadMultiObject_partNumber {bytes : List UInt8} {location : Location}
    {uploadId : String} {contentLen : ℤ} {n : I32} {st st' : σ} {p : PartETag}
    (h : uploadMultiObject svc bytes location uploadId contentLen n st = .ok (p, st')) :
    p.partNumber = n.val := by
  unfold uploadMultiObject at h
  cases hu : svc.uploadPart location uploadId n contentLen bytes st with
  | error e => simp [hu, bind, Except.bind] at h
  | ok r =>
    obtain ⟨eTag, st₁⟩ := r
    cases eTag <;> simp_all [bind, Except.bind, pure, Except.pure, throw, throwThe,
      MonadExceptOf.throw]
    rw [← h.1]

/-- **Completing an upload.** Given parts that `upload_multi_object` returned, in any order,
    `finish_multipart_upload` converts every number back to the `i32` it was uploaded under,
    and sends one `CompleteMultipartUpload` that names the parts in their order, each with
    its ETag without dashes. -/
theorem finishMultipartUpload_uploaded (location : Location) (uploadId : String) (st : σ)
    (uploads : List (PartETag × I32))
    (hup : ∀ x ∈ uploads, ∃ bytes contentLen st₀ st₁,
      uploadMultiObject svc bytes location uploadId contentLen x.2 st₀ = .ok (x.1, st₁)) :
    finishMultipartUpload svc location (uploads.map (·.1)) uploadId st =
      svc.completeMultipartUpload location uploadId
        (uploads.map fun x => ⟨removeDashes x.1.etag, x.2⟩) st := by
  have h : ∀ x ∈ uploads, x.1.partNumber = x.2.val := fun x hx => by
    obtain ⟨_, _, _, _, hx⟩ := hup x hx
    exact uploadMultiObject_partNumber svc hx
  rw [finishMultipartUpload, mapM_completedPart_ok uploads h]
  rfl

/-- **A part number out of range.** With a part whose number is not an `i32`,
    `finish_multipart_upload` fails on the conversion, whatever the service: it makes no
    call. -/
theorem finishMultipartUpload_error (location : Location) (parts : List PartETag)
    (uploadId : String) (st : σ)
    (hout : ∃ p ∈ parts, ¬(-2 ^ 31 ≤ p.partNumber ∧ p.partNumber < 2 ^ 31)) :
    finishMultipartUpload svc location parts uploadId st =
      .error "out of range integral type conversion attempted" := by
  rw [finishMultipartUpload, mapM_completedPart_error parts hout]
  rfl

end S3Backend

/-! ## Buckets -/

section Buckets

variable {σ : Type} (svc : S3Service σ) (buckets : σ → List String)

/-- What the bucket check relies on: `GetBucketLocation` answers exactly for the buckets the
    service holds, `CreateBucket` leaves the service holding the bucket. -/
structure BucketLaws : Prop where
  getBucketLocation_ok : ∀ b st, svc.getBucketLocation b st = .ok () ↔ b ∈ buckets st
  createBucket_mem : ∀ b st st', svc.createBucket b st = .ok st' → b ∈ buckets st'

variable {svc buckets} {b : String} {st st' : σ}

theorem S3Backend.checkAndCreateBucket_of_mem (hl : BucketLaws svc buckets)
    (hb : b ∈ buckets st) : S3Backend.checkAndCreateBucket svc b st = .ok st := by
  rw [S3Backend.checkAndCreateBucket, (hl.getBucketLocation_ok b st).2 hb]

theorem S3Backend.checkAndCreateBucket_mem (hl : BucketLaws svc buckets)
    (h : S3Backend.checkAndCreateBucket svc b st = .ok st') : b ∈ buckets st' := by
  unfold S3Backend.checkAndCreateBucket at h
  split at h
  · cases h
    exact (hl.getBucketLocation_ok b st).1 ‹_›
  · exact hl.createBucket_mem b st st' h

/-- **Idempotent bucket creation.** On a service that keeps the bucket laws, once the check
    has passed, a second check finds the bucket and leaves the service as it is. -/
theorem S3Backend.checkAndCreateBucket_idem (hl : BucketLaws svc buckets)
    (h : S3Backend.checkAndCreateBucket svc b st = .ok st') :
    b ∈ buckets st' ∧ S3Backend.checkAndCreateBucket svc b st' = .ok st' :=
  ⟨S3Backend.checkAndCreateBucket_mem hl h,
    S3Backend.checkAndCreateBucket_of_mem hl (S3Backend.checkAndCreateBucket_mem hl h)⟩

/-- **Puts go into buckets.** On a service that keeps the bucket laws, `put_object` puts the
    object only in a state where the service holds the location's bucket. -/
theorem S3Backend.putObject_bucket (hl : BucketLaws svc buckets) {bytes : List UInt8}
    {location : Location} {contentLen : ℤ}
    (h : S3Backend.putObject svc bytes location contentLen st = .ok st') :
    ∃ st₁, location.bucket ∈ buckets st₁ ∧ svc.putObject location contentLen bytes st₁ = .ok st' := by
  unfold S3Backend.putObject at h
  cases hc : S3Backend.checkAndCreateBucket svc location.bucket st with
  | error e => simp [hc, bind, Except.bind] at h
  | ok st₁ =>
    rw [hc] at h
    exact ⟨st₁, S3Backend.checkAndCreateBucket_mem hl hc, h⟩

end Buckets

/-! ## Downloads -/

/-- How the loop of `get_object` over `body` can end: `sent`, the chunks the sender took, are
    the body's first chunks, no more than the receiver takes, and the result is `Ok` at the
    end of the body, the body's first error, or the error of a send after the receiver is
    gone. -/
def BodySent (accepted : Option ℕ) (body : List (Except String (List UInt8)))
    (sent : List (List UInt8)) (result : Except String Unit) : Prop :=
  ∃ rest, body = sent.map .ok ++ rest ∧ (∀ n, accepted = some n → sent.length ≤ n) ∧
    (rest = [] ∧ result = .ok () ∨
      (∃ e tail, rest = .error e :: tail ∧ result = .error e) ∨
      ∃ bytes tail, rest = .ok bytes :: tail ∧ accepted = some sent.length ∧
        result = .error "sending into a closed channel")

/-- One chunk sent in front of a run of the loop, by a receiver that takes one more. -/
theorem BodySent.cons {a : Option ℕ} {body : List (Except String (List UInt8))}
    {sent : List (List UInt8)} {result : Except String Unit} (bytes : List UInt8)
    (h : BodySent a body sent result) :
    BodySent (a.map (· + 1)) (.ok bytes :: body) (bytes :: sent) result := by
  obtain ⟨rest, hb, hn, hr⟩ := h
  refine ⟨rest, by rw [hb]; rfl, fun n hn' => ?_, ?_⟩
  · obtain ⟨m, hm, rfl⟩ := Option.map_eq_some'.1 hn'
    exact Nat.succ_le_succ (hn m hm)
  · rcases hr with hr | hr | ⟨bytes', tail, hrest, hacc, hres⟩
    · exact .inl hr
    · exact .inr (.inl hr)
    · exact .inr (.inr ⟨bytes', tail, hrest, by rw [hacc]; rfl, hres⟩)

theorem sendBody_spec : ∀ (body : List (Except String (List UInt8))) (accepted : Option ℕ),
    BodySent accepted body (sendBody body accepted).1 (sendBody body accepted).2
  | [], _ => ⟨[], rfl, fun _ _ => Nat.zero_le _, .inl ⟨rfl, rfl⟩⟩
  | .error e :: tail, _ => ⟨_, rfl, fun _ _ => Nat.zero_le _, .inr (.inl ⟨e, tail, rfl, rfl⟩)⟩
  | .ok bytes :: tail, some 0 =>
    ⟨_, rfl, fun _ _ => Nat.zero_le _, .inr (.inr ⟨bytes, tail, rfl, rfl, rfl⟩)⟩
  | .ok bytes :: tail, some (n + 1) => (sendBody_spec tail (some n)).cons bytes
  | .ok bytes :: tail, none => (sendBody_spec tail none).cons bytes

namespace S3Backend

variable {σ : Type} (svc : S3Service σ)

/-- **Downloads.** When S3 fails the request, `get_object` sends nothing and returns the
    error; when it answers, the sender gets the body's first chunks, no more than the receiver
    takes, and the method returns `Ok` at the end of the body, the body's first error, or,
    when the receiver is gone before the body ends, the error of the failed send. -/
theorem getObject_spec (location : Location) (range : Option String) (accepted : Option ℕ)
    (st : σ) :
    (∀ e, svc.getObject location range st = .error e →
      getObject svc location range accepted st = ([], .error e)) ∧
    ∀ body, svc.getObject location range st = .ok body →
      BodySent accepted body (getObject svc location range accepted st).1
        (getObject svc location range accepted st).2 := by
  refine ⟨fun e h => by rw [getObject, h], fun body h => ?_⟩
  rw [getObject, h]
  exact sendBody_spec body accepted

end S3Backend

/-! ## A service that holds buckets -/

/-- A service that holds a list of buckets: it creates any bucket it is asked to, puts only
    into a bucket it holds, and gives each part the ETag `"a-1"`. -/
def bucketsOnly : S3Service (List String) where
  getBucketLocation b st := if b ∈ st then .ok () else .error "NoSuchBucket"
  createBucket b st := .ok (st ++ [b])
  putObject location _ _ st := if location.bucket ∈ st then .ok st else .error "NoSuchBucket"
  getObject _ _ _ := .ok []
  headObject _ _ := .ok 0
  createMultipartUpload _ st := .ok (some "upload", st)
  uploadPart _ _ _ _ _ st := .ok (some "a-1", st)
  completeMultipartUpload _ _ _ st := .ok st
  deleteObject _ st := .ok st

theorem bucketsOnly_laws : BucketLaws bucketsOnly id where
  getBucketLocation_ok b st := by
    by_cases h : b ∈ st <;> simp [bucketsOnly, h]
  createBucket_mem b st st' h := by
    cases h
    exact List.mem_append_right _ (List.mem_singleton_self b)

theorem checkAndCreateBucket_idem_bucketsOnly :
    S3Backend.checkAndCreateBucket bucketsOnly "b" [] = .ok ["b"] ∧
    "b" ∈ id ["b"] ∧ S3Backend.checkAndCreateBucket bucketsOnly "b" ["b"] = .ok ["b"] :=
  ⟨rfl, S3Backend.checkAndCreateBucket_idem bucketsOnly_laws
    (show S3Backend.checkAndCreateBucket bucketsOnly "b" [] = .ok ["b"] from rfl)⟩

theorem putObject_bucket_bucketsOnly :
    S3Backend.putObject bucketsOnly [1] ⟨"b", "k"⟩ 1 [] = .ok ["b"] ∧
    ∃ st₁, "b" ∈ id st₁ ∧ bucketsOnly.putObject ⟨"b", "k"⟩ 1 [1] st₁ = .ok ["b"] :=
  ⟨rfl, S3Backend.putObject_bucket bucketsOnly_laws
    (show S3Backend.putObject bucketsOnly [1] ⟨"b", "k"⟩ 1 [] = .ok ["b"] from rfl)⟩

/-- Part 1, uploaded with the ETag `"a-1"`. -/
def partOne : PartETag × I32 := (⟨1, "a-1"⟩, ⟨1, by decide, by decide⟩)

theorem finishMultipartUpload_partOne :
    S3Backend.finishMultipartUpload bucketsOnly ⟨"b", "k"⟩ ([partOne].map (·.1)) "upload" ["b"] =
      bucketsOnly.completeMultipartUpload ⟨"b", "k"⟩ "upload"
        ([partOne].map fun x => ⟨removeDashes x.1.etag, x.2⟩) ["b"] :=
  S3Backend.finishMultipartUpload_uploaded bucketsOnly ⟨"b", "k"⟩ "upload" ["b"] [partOne]
    (by
      simp only [List.mem_singleton]
      rintro x rfl
      exact ⟨[], 0, ["b"], ["b"], rfl⟩)

theorem finishMultipartUpload_outOfRange :
    S3Backend.finishMultipartUpload bucketsOnly ⟨"b", "k"⟩ [⟨2 ^ 31, "a-1"⟩] "upload" ["b"] =
      .error "out of range integral type conversion attempted" :=
  S3Backend.finishMultipartUpload_error bucketsOnly ⟨"b", "k"⟩ [⟨2 ^ 31, "a-1"⟩] "upload" ["b"]
    ⟨_, List.mem_singleton_self _, by simp⟩

end DataProxy
