/-
  DataProxy formalization — the resource cache (`caching/cache.rs`, which is
  not among the sources), as the snapshot of lookups the access gate and the
  token engine read: public keys by serial, credentials by access key, user
  attributes, resources by path, and locations.
-/
import DataProxy.Structs

namespace DataProxy

/-- A key of an Ed25519 key pair, named by its pair: the private half signs, and a
    signature verifies under the public half of the same pair. -/
structure EncodingKey where
  pair : ℕ
  deriving DecidableEq, Repr

/-- The public half of a key pair (`DecodingKey`). -/
structure DecodingKey where
  pair : ℕ
  deriving DecidableEq, Repr

/-- The public key that verifies what `k` signs. -/
def EncodingKey.publicKey (k : EncodingKey) : DecodingKey := ⟨k.pair⟩

/-- Attributes of a user (`HashMap<String, String>`). -/
abbrev Attributes := List (String × String)

/-- `Cache`. Modelled from the spec: the non-blocking reads the gate and the token
    engine make, `get_pubkey`, `get_key_perms`, `get_user_attributes`,
    `get_full_resource_by_path` (a resource with its location, as the cache's
    `resources` map holds them) and `get_location`. -/
structure Cache where
  getPubkey : I32 → Option DecodingKey
  getKeyPerms : String → Option AccessKeyPermissions
  getUserAttributes : Ulid → Option Attributes
  getFullResourceByPath : String → Option (Object × Option ObjectLocation)
  getLocation : Ulid → Option ObjectLocation

end DataProxy
