/-
  DataProxy formalization — the typed bundle of resources a request resolves
  to (`ResourceStates` of `structs.rs`, which is not among the sources: its
  methods are modelled from the specification), the S3 errors the gate
  returns, and the inputs of the rule engine.

  * `ResourceStates`: the project, collection, dataset and object slots and
    the `missing` list, with `validate`, `disallowMissing`, `failPartialSync`,
    `requireProject`, `requireObject` and `checkPermissions` (the request
    passes if the credential holds the level on a resource of the chain);
  * `RuleEngine`: a verdict on a root-scope or an object-scope input.
-/
import DataProxy.Caching.Cache

namespace DataProxy

/-- The codes of the S3 errors the gate returns. -/
inductive S3ErrorCode where
  | accessDenied
  | noSuchKey
  | methodNotAllowed
  | internalError
  | serviceUnavailable
  | malformedACLError
  deriving DecidableEq, Repr

/-- `S3Error`: a code and a message. -/
structure S3Error where
  code : S3ErrorCode
  message : String
  deriving DecidableEq, Repr

/-- A path segment that did not resolve: its place in the prefix list, and its name. -/
structure Missing where
  index : ℕ
  total : ℕ
  name : String
  deriving DecidableEq, Repr

/-- `ResourceStates`. -/
structure ResourceStates where
  project : Option Object := none
  collection : Option Object := none
  dataset : Option Object := none
  object : Option (Object × Option ObjectLocation) := none
  missing : List Missing := []
  deriving DecidableEq, Repr

namespace ResourceStates

/-- `set_project`. -/
def setProject (rs : ResourceStates) (o : Object) : ResourceStates := { rs with project := some o }

/-- `set_collection`. -/
def setCollection (rs : ResourceStates) (o : Object) : ResourceStates :=
  { rs with collection := some o }

/-- `set_dataset`. -/
def setDataset (rs : ResourceStates) (o : Object) : ResourceStates := { rs with dataset := some o }

/-- `set_object`: the object with its location. -/
def setObject (rs : ResourceStates) (o : Object × Option ObjectLocation) : ResourceStates :=
  { rs with object := some o }

/-- `set_missing`. Modelled from the spec: a missing slot stands inside the path. -/
def setMissing (rs : ResourceStates) (idx len : ℕ) (name : String) :
    Except String ResourceStates :=
  if idx < len then .ok { rs with missing := rs.missing ++ [⟨idx, len, name⟩] }
  else .error "Missing index out of range"

/-- `validate`. Modelled from the spec: a resource below the project needs the project. -/
def validate (rs : ResourceStates) : Except String Unit :=
  if rs.project.isNone && (rs.collection.isSome || rs.dataset.isSome || rs.object.isSome) then
    .error "Resource without project"
  else .ok ()

/-- `disallow_missing`. Modelled from the spec: a read needs every segment resolved. -/
def disallowMissing (rs : ResourceStates) : Except S3Error Unit :=
  if rs.missing.isEmpty then .ok () else .error ⟨.noSuchKey, "No such key"⟩

/-- `fail_partial_sync`. Modelled from the spec: an object whose location belongs to
    another proxy and is only partly synced is not served yet. -/
def failPartialSync (rs : ResourceStates) (selfId : Ulid) : Except S3Error Unit :=
  match rs.object with
  | some (_, some loc) =>
    if loc.isPartialSync && loc.owningEndpoint != selfId then
      .error ⟨.serviceUnavailable, "Object is not yet synced"⟩
    else .ok ()
  | _ => .ok ()

/-- `require_project`. Modelled from the spec. -/
def requireProject (rs : ResourceStates) : Except S3Error Object :=
  match rs.project with
  | some p => .ok p
  | none => .error ⟨.internalError, "Internal Error"⟩

/-- `require_object`. Modelled from the spec. -/
def requireObject (rs : ResourceStates) : Except S3Error Object :=
  match rs.object with
  | some (o, _) => .ok o
  | none => .error ⟨.noSuchKey, "No such key"⟩

/-- `get_object`. -/
def getObject (rs : ResourceStates) : Option Object := rs.object.map Prod.fst

/-- The resolved resources, project first. -/
def chain (rs : ResourceStates) : List Object :=
  rs.project.toList ++ rs.collection.toList ++ rs.dataset.toList ++ (rs.getObject).toList

/-- `check_permissions`. Modelled from the spec: the credential holds at least
    `required` on a resource of the chain. -/
def checkPermissions (rs : ResourceStates) (akp : AccessKeyPermissions)
    (required : DbPermissionLevel) : Except S3Error Unit :=
  if rs.chain.any fun r => akp.permissions.any fun p => p.1 == r.id && decide (required ≤ p.2) then
    .ok ()
  else .error ⟨.accessDenied, "Access Denied"⟩

end ResourceStates

/-- Request headers. -/
abbrev Headers := List (String × String)

/-- The input of a root-scope rule. -/
structure RootRuleInput where
  attributes : Attributes
  method : Method
  headers : Headers

/-- The input of an object-scope rule; the attributes and permissions are there
    only for a request with a credential. -/
structure ObjectRuleInput where
  attributes : Option Attributes
  method : Method
  permissions : Option (List (Ulid × DbPermissionLevel))
  headers : Headers
  resourceStates : ResourceStates

/-- `RuleEngine`: whether the rules allow a request. -/
structure RuleEngine where
  evaluateRoot : RootRuleInput → Bool
  evaluateObject : ObjectRuleInput → Bool

end DataProxy
