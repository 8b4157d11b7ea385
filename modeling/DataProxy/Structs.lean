/-
  DataProxy formalization — the records the proxy passes around (`structs.rs`,
  which is not among the sources: the fields below are those of the data model
  of the specification that the modelled code reads or writes).

  * `Object`, with its `ObjectType` and `DataClass`;
  * `ObjectLocation`, the placement of an object's bytes on this proxy;
  * `DbPermissionLevel`, totally ordered, and `AccessKeyPermissions`;
  * `Method`, an HTTP method, with `isMethodRead` and the level it needs.
-/
import DataProxy.Ulid

namespace DataProxy

/-- `ObjectType`. -/
inductive ObjectType where
  | project
  | collection
  | dataset
  | object
  | unspecified
  deriving DecidableEq, Repr

/-- `DataClass`. -/
inductive DataClass where
  | «public»
  | «private»
  | workspace
  | confidential
  deriving DecidableEq, Repr

/-- `Object`: a resource of the metadata tree. -/
structure Object where
  id : Ulid
  name : String
  objectType : ObjectType
  dataClass : DataClass
  deriving DecidableEq, Repr

/-- `ObjectLocation`: where an object's bytes lie on this proxy's backend. -/
structure ObjectLocation where
  bucket : String
  key : String
  rawContentLen : ℤ
  diskContentLen : ℤ
  diskHash : Option String
  encryptionKey : Option String
  isPartialSync : Bool
  owningEndpoint : Ulid
  deriving DecidableEq, Repr

/-- `DbPermissionLevel`, ordered `None < Read < Append < Write < Admin`. -/
inductive DbPermissionLevel where
  | none
  | read
  | append
  | write
  | admin
  deriving DecidableEq, Repr

/-- The rank of a level in its order. -/
def DbPermissionLevel.rank : DbPermissionLevel → ℕ
  | .none => 0
  | .read => 1
  | .append => 2
  | .write => 3
  | .admin => 4

instance : LE DbPermissionLevel := ⟨fun a b => a.rank ≤ b.rank⟩

instance (a b : DbPermissionLevel) : Decidable (a ≤ b) := inferInstanceAs (Decidable (a.rank ≤ b.rank))

/-- `AccessKeyPermissions`: what a credential may do, per resource. -/
structure AccessKeyPermissions where
  accessKey : String
  userId : Ulid
  permissions : List (Ulid × DbPermissionLevel)
  deriving DecidableEq, Repr

/-- An HTTP method. -/
inductive Method where
  | get
  | head
  | options
  | post
  | put
  | patch
  | delete
  deriving DecidableEq, Repr

/-- `helpers::is_method_read`. Modelled from the spec: the methods that only read. -/
def isMethodRead : Method → Bool
  | .get | .head | .options => true
  | _ => false

/-- `DbPermissionLevel::from(method)`. Modelled from the spec: a reading method needs
    `Read`, a mutating one `Write`. -/
def DbPermissionLevel.ofMethod (m : Method) : DbPermissionLevel :=
  if isMethodRead m then .read else .write

end DataProxy
