/-
  DataProxy formalization — the bundler's web server (`bundler/bundler_web_server.rs`):
  `get_bundle` checks the request, and the task it spawns sends one
  `(FileContext, is_last)` pair per object of the bundle on `file_info_sender`,
  each followed by the object's data from the backend.

  * `getBundle`: the file name check and the lookup in the bundle store;
  * `sendFileContexts`: the task's loop over `object_refs.into_iter().enumerate()`,
    with the flag `len == i`; a `send` into a closed channel or a failed
    `get_object` ends the task with its error (`?`), so `BundleEnv` says how each
    of these calls ends;
  * `sendFileContexts_isPrefix` and `sendFileContexts_allOk`: the pairs sent are
    the objects' file contexts in order, every flag `false`, all of them when
    every call succeeds.

  Main result: `bundle_never_flags_last`, no pair the task sends has
  `is_last = true`, for every bundle and every outcome of the task's calls.
-/
import DataProxy.Rust

namespace DataProxy

namespace Bundler

/-- The `ObjectLocation` of a bundle's object, with the fields the task reads. -/
structure ObjectLocation where
  isCompressed : Bool
  isEncrypted : Bool
  encryptionKey : String
  deriving DecidableEq, Repr, Inhabited

/-- The `ObjectInfo` of a bundle's object, with the fields the task reads. -/
structure ObjectInfo where
  filename : String
  contentLen : ℤ
  deriving DecidableEq, Repr, Inhabited

/-- An object of a bundle. -/
structure ObjectRef where
  objectInfo : Option ObjectInfo
  objectLocation : Option ObjectLocation
  subPath : String
  deriving DecidableEq, Repr

/-- A bundle: the objects it packs, in order. -/
structure Bundle where
  objectRefs : List ObjectRef
  deriving DecidableEq, Repr

/-- `aruna_file`'s `FileContext`, with the fields the task sets; the rest keep their
    defaults. -/
structure FileContext where
  fileName : String
  fileSize : ℕ
  filePath : Option String
  skipDecompression : Bool
  skipDecryption : Bool
  encryptionKey : Option (List UInt8)
  deriving DecidableEq, Repr

/-- `x as u64` for an `i64`: the same 64 bits, read unsigned. -/
def asU64 (x : ℤ) : ℕ := (x % 2 ^ 64).toNat

/-- The file context the task builds for an object: the info and the location default
    where they are missing, but the key is only taken from a location that is there. -/
def ObjectRef.fileContext (r : ObjectRef) : FileContext :=
  let objectInfo := r.objectInfo.getD default
  let objectLocation := r.objectLocation.getD default
  ⟨objectInfo.filename, asU64 objectInfo.contentLen, some r.subPath,
    objectLocation.isCompressed, objectLocation.isEncrypted,
    r.objectLocation.map fun e => e.encryptionKey.toUTF8.data.toList⟩

/-! ## The request -/

/-- `RequestError`'s response: status `500` and the error's text. -/
def RequestError.intoResponse (e : String) : ℕ × String :=
  (500, s!"Something went wrong: {e}")

/-- `get_bundle` up to the spawn: the bundle whose objects the task sends, and the
    `Content-Disposition` of the response; the store maps a bundle id to `None` while the
    bundle is still being built. -/
def getBundle (bundleStore : String → Option (Option Bundle)) (bundleId fileName : String) :
    Except String (Bundle × String) :=
  if !fileName.endsWith ".tar.gz" then .error "Only .tar.gz is currently supported"
  else match bundleStore bundleId with
    | some (some bundle) => .ok (bundle, s!"attachment; filename=\"{fileName}\"")
    | some none => .error "Bundle is still initializing!"
    | none => .error "Invalid bundle!"

/-! ## The spawned task -/

/-- How the task's calls end: whether the `i`-th `send` finds `file_info_receiver` still
    open, and what `get_object` returns for the `i`-th object. -/
structure BundleEnv where
  sendOk : ℕ → Bool
  getObject : ℕ → ObjectLocation → Except String Unit

/-- The loop of the task from the object at index `i` on, in a bundle of `len` objects:
    the pairs it sends, and what the task returns. -/
def sendFileContexts (env : BundleEnv) (len : ℕ) : ℕ → List ObjectRef →
    List (FileContext × Bool) × Except String Unit
  | _, [] => ([], .ok ())
  | i, objectRef :: rest =>
    let pair := (objectRef.fileContext, len == i)
    if env.sendOk i then
      match env.getObject i (objectRef.objectLocation.getD default) with
      | .ok () =>
        let (sent, result) := sendFileContexts env len (i + 1) rest
        (pair :: sent, result)
      | .error e => ([pair], .error e)
    else ([], .error "sending into a closed channel")

/-- The task `get_bundle` spawns for a bundle. -/
def fileInfoTask (env : BundleEnv) (b : Bundle) : List (FileContext × Bool) × Except String Unit :=
  sendFileContexts env b.objectRefs.length 0 b.objectRefs

/-- The pairs sent from index `i` on are file contexts in order, each flagged `false`
    while the index stays below `len`. -/
theorem sendFileContexts_isPrefix (env : BundleEnv) (len : ℕ) :
    ∀ (i : ℕ) (rs : List ObjectRef), i + rs.length ≤ len →
      (sendFileContexts env len i rs).1 <+: rs.map fun r => (r.fileContext, false)
  | _, [], _ => List.prefix_refl _
  | i, r :: rs, h => by
    rw [List.length_cons] at h
    have hflag : (len == i) = false := beq_false_of_ne (show len ≠ i by omega)
    have ih := sendFileContexts_isPrefix env len (i + 1) rs (by omega)
    simp only [sendFileContexts, hflag, List.map_cons]
    split
    · split
      · exact List.prefix_cons_inj _ |>.2 ih
      · exact List.prefix_cons_inj _ |>.2 List.nil_prefix
    · exact List.nil_prefix

/-- When every `send` and every `get_object` succeeds, the task sends a pair for each
    object and returns `Ok`. -/
theorem sendFileContexts_allOk {env : BundleEnv} (hsend : ∀ i, env.sendOk i = true)
    (hget : ∀ i l, env.getObject i l = .ok ()) (len : ℕ) :
    ∀ (i : ℕ) (rs : List ObjectRef), i + rs.length ≤ len →
      sendFileContexts env len i rs = (rs.map fun r => (r.fileContext, false), .ok ())
  | _, [], _ => rfl
  | i, r :: rs, h => by
    rw [List.length_cons] at h
    have hflag : (len == i) = false := beq_false_of_ne (show len ≠ i by omega)
    simp only [sendFileContexts, hflag, hsend, hget, if_true, List.map_cons,
      sendFileContexts_allOk hsend hget len (i + 1) rs (by omega)]

/-- **No pair is flagged last.** For every bundle and every way the task's calls end, the
    pairs the task sends are the objects' file contexts in order, each with
    `is_last = false`; when every call succeeds it sends all of them and returns `Ok`. -/
theorem bundle_never_flags_last (env : BundleEnv) (b : Bundle) :
    (fileInfoTask env b).1 <+: b.objectRefs.map (fun r => (r.fileContext, false)) ∧
    ((∀ i, env.sendOk i = true) → (∀ i l, env.getObject i l = .ok ()) →
      fileInfoTask env b = (b.objectRefs.map fun r => (r.fileContext, false), .ok ())) :=
  ⟨sendFileContexts_isPrefix env _ 0 _ (by simp),
    fun hsend hget => sendFileContexts_allOk hsend hget _ 0 _ (by simp)⟩

end Bundler

end DataProxy
