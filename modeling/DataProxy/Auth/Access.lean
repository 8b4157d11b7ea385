/-
  DataProxy formalization — the access gate of `AuthHandler` (`auth/auth.rs`):
  from an S3 request to a `CheckAccessResult` or an S3 error.

  * `extractAccessKeyPerms`: the credential's permissions and its user's
    attributes, both from the cache;
  * `prefixIntoResourceStates` resolves a prefix list into `ResourceStates`;
  * `handleRoot`, `handleBucket` and `handleObject`, dispatched by
    `checkAccess` on the shape of the path. The special buckets `objects` and
    `bundles` take only reading methods, and their handlers are `todo!()`;
  * `private_object_without_credentials`: an object request with no
    credential that resolves to a user passes with no permission checked, on
    a private object too.
-/
import DataProxy.Auth.Token

namespace DataProxy

/-- `s3s::path::S3Path`. -/
inductive S3Path where
  | root
  | bucket (bucket : String)
  | object (bucket key : String)
  deriving DecidableEq, Repr

/-- `s3s::auth::Credentials`: the access key a request is signed with. -/
structure Credentials where
  accessKey : String
  deriving DecidableEq, Repr

/-- `CheckAccessResult` (its CORS headers are not modelled). -/
structure CheckAccessResult where
  resourceStates : Option ResourceStates
  userId : Option String
  tokenId : Option String
  location : Option ObjectLocation
  deriving DecidableEq, Repr

/-- `auth_helpers::key_into_prefix`. Modelled from the spec: the path's one to four
    segments, each with the path up to it. -/
def keyIntoPrefix (path : String) : Except S3Error (List (String × String)) :=
  let segments := path.toList.splitOn '/'
  if segments.length ≤ 4 then
    .ok ((List.range segments.length).map fun i =>
      (⟨['/'].intercalate (segments.take (i + 1))⟩, ⟨segments.getD i []⟩))
  else .error ⟨.noSuchKey, "Invalid path"⟩

namespace AuthHandler

variable (h : AuthHandler)

/-- `extract_access_key_perms`: the credential's key, then its user's attributes. -/
def extractAccessKeyPerms (creds : Option Credentials) :
    Option (AccessKeyPermissions × Attributes) :=
  creds.bind fun creds => (h.cache.getKeyPerms creds.accessKey).bind fun key =>
    (h.cache.getUserAttributes key.userId).map fun user => (key, user)

/-- One prefix of `prefix_into_resource_states`: a missing slot, or the resource in the
    slot of its type. -/
def resolvePrefix (len : ℕ) (rs : ResourceStates) (entry : ℕ × String × String) :
    Except S3Error ResourceStates :=
  let (idx, pre, name) := entry
  match h.cache.getFullResourceByPath pre with
  | none =>
    match rs.setMissing idx len name with
    | .ok rs => .ok rs
    | .error _ => .error ⟨.internalError, "Internal Error"⟩
  | some obj =>
    match obj.1.objectType with
    | .project => .ok (rs.setProject obj.1)
    | .dataset => .ok (rs.setDataset obj.1)
    | .collection => .ok (rs.setCollection obj.1)
    | .object => .ok (rs.setObject obj)
    | _ => .error ⟨.noSuchKey, "No such object"⟩

/-- `prefix_into_resource_states`. -/
def prefixIntoResourceStates (prefixes : List (String × String)) :
    Except S3Error ResourceStates := do
  let rs ← prefixes.enum.foldlM (h.resolvePrefix prefixes.length) {}
  match rs.validate with
  | .ok () => .ok rs
  | .error _ => .error ⟨.internalError, "Internal Error"⟩

/-- `handle_root`. -/
def handleRoot (method : Method) (creds : Option Credentials) (headers : Headers) :
    Outcome S3Error CheckAccessResult :=
  match h.extractAccessKeyPerms creds with
  | some (key, attributes) =>
    if h.ruleEngine.evaluateRoot ⟨attributes, method, headers⟩ then
      .ok ⟨none, some key.userId.toString, some key.accessKey, none⟩
    else .err ⟨.accessDenied, "Forbidden by rule"⟩
  | none => .err ⟨.accessDenied, "Missing access key"⟩

/-- `handle_bucket`. -/
def handleBucket (bucketName : String) (method : Method) (creds : Option Credentials)
    (headers : Headers) : Outcome S3Error CheckAccessResult := do
  let some (accessKeyInfo, attributes) := h.extractAccessKeyPerms creds
    | .err ⟨.accessDenied, "Access Denied"⟩
  let resourceStates ← h.prefixIntoResourceStates [(bucketName, bucketName)]
  resourceStates.checkPermissions accessKeyInfo (.ofMethod method)
  let _ ← resourceStates.requireProject
  if h.ruleEngine.evaluateObject ⟨some attributes, method, some accessKeyInfo.permissions,
      headers, resourceStates⟩ then
    .ok ⟨some resourceStates, some accessKeyInfo.userId.toString, some accessKeyInfo.accessKey,
      none⟩
  else .err ⟨.accessDenied, "Forbidden by rule"⟩

/-- The user of `handle_object`: with a credential, the permission check unless the
    object is public. -/
def objectUser (resourceStates : ResourceStates) (method : Method)
    (creds : Option Credentials) :
    Outcome S3Error (Option (AccessKeyPermissions × Attributes)) :=
  match h.extractAccessKeyPerms creds with
  | some (user, attributes) => do
    let obj ← resourceStates.requireObject
    if obj.dataClass ≠ .«public» then
      resourceStates.checkPermissions user (.ofMethod method)
    .ok (some (user, attributes))
  | none => .ok none

/-- `handle_object`. -/
def handleObject (bucketName keyName : String) (method : Method) (creds : Option Credentials)
    (headers : Headers) : Outcome S3Error CheckAccessResult := do
  if bucketName = "objects" ∨ bucketName = "bundles" then
    if !isMethodRead method then .err ⟨.methodNotAllowed, "Method not allowed"⟩
    else .panic "not yet implemented"
  else
    let prefixes ← keyIntoPrefix (bucketName ++ "/" ++ keyName)
    let resourceStates ← h.prefixIntoResourceStates prefixes
    if isMethodRead method then resourceStates.disallowMissing
    resourceStates.failPartialSync h.selfId
    let _ ← resourceStates.requireProject
    let user ← h.objectUser resourceStates method creds
    if h.ruleEngine.evaluateObject ⟨user.map (·.2), method, user.map (·.1.permissions),
        headers, resourceStates⟩ then
      let location := match resourceStates.getObject with
        | some obj => h.cache.getLocation obj.id
        | none => none
      .ok ⟨some resourceStates, user.map (·.1.userId.toString), user.map (·.1.accessKey),
        location⟩
    else .err ⟨.accessDenied, "Forbidden by rule"⟩

/-- `check_access`. -/
def checkAccess (creds : Option Credentials) (method : Method) (path : S3Path)
    (headers : Headers) : Outcome S3Error CheckAccessResult :=
  match path with
  | .root => h.handleRoot method creds headers
  | .bucket bucket => h.handleBucket bucket method creds headers
  | .object bucket key => h.handleObject bucket key method creds headers

end AuthHandler

/-! ## A private object without credentials -/

/-- A project `proj` holding a private object `obj.dat` with no location. -/
def projectObj : Object := ⟨⟨1, by decide⟩, "proj", .project, .«private»⟩

/-- See `projectObj`. -/
def privateObj : Object := ⟨⟨2, by decide⟩, "obj.dat", .object, .«private»⟩

/-- A gate whose cache knows no credential and whose rules allow every request. -/
def openGate : AuthHandler where
  cache :=
    { getPubkey := fun _ => none
      getKeyPerms := fun _ => none
      getUserAttributes := fun _ => none
      getFullResourceByPath := fun p =>
        if p = "proj" then some (projectObj, none)
        else if p = "proj/obj.dat" then some (privateObj, none) else none
      getLocation := fun _ => none }
  selfId := ⟨3, by decide⟩
  ruleEngine := ⟨fun _ => true, fun _ => true⟩
  encodingKey := (⟨0, by decide, by decide⟩, ⟨0⟩)

/-- A `GET` of the private object with no credential passes the gate: no permission is
    checked on it. -/
theorem private_object_without_credentials :
    openGate.extractAccessKeyPerms none = none ∧ privateObj.dataClass = .«private» ∧
    openGate.checkAccess none .get (.object "proj" "obj.dat") [] =
      .ok ⟨some ⟨some projectObj, none, none, some (privateObj, none), []⟩, none, none, none⟩ := by
  decide

end DataProxy
