/-
  DataProxy formalization — the token engine of `AuthHandler` (`auth/auth.rs`):
  checking a JWT addressed to this proxy, and minting the tokens a proxy signs.

  * `ArunaTokenClaims`, and `ClaimsJson` the JSON object `serde` writes for it
    (the intent as its string);
  * a JWT is what `jsonwebtoken::encode` puts in it: the header, the claims'
    JSON and the key that signed them; `Jwt.decodeAs` is
    `jsonwebtoken::decode::<T>`: it checks the algorithm and the signature,
    reads the claims, and validates their `exp` (with the leeway of
    `Validation::new`, 60 s) and audience; `Jwt.decode` is its instance at
    `ArunaTokenClaims`;
  * `checkPermissions` and `extractClaims`, with `checkIntent` the decision on
    the claims' intent; `signToken` and the three tokens a proxy mints;
  * `intent_deserialize_panics`: the claims of a token panic on an intent string
    that is a ULID alone, or a ULID and a byte above `4`;
  * `checkPermissions_intent_rule`: once the key and the claims check out, the
    intent decides alone: no intent, `all`, or `createSecrets` and `dpExchange`
    aimed at this proxy are accepted, every other intent is refused;
  * `dataproxy_token_agreement`: a dataproxy token that one proxy mints is
    accepted by the proxy it targets and by no other, and the tokens a proxy
    addresses to the metadata server are rejected by every proxy.
-/
import DataProxy.Auth.Intent
import DataProxy.Auth.Resources

namespace DataProxy

/-- `AuthHandler`. -/
structure AuthHandler where
  cache : Cache
  selfId : Ulid
  ruleEngine : RuleEngine
  encodingKey : I32 × EncodingKey

/-- `ArunaTokenClaims`. -/
structure ArunaTokenClaims where
  iss : String
  sub : String
  exp : ℕ
  aud : String
  tid : Option String
  it : Option Intent
  deriving DecidableEq, Repr

/-- The JSON object of `ArunaTokenClaims`: the intent is the string `Intent::serialize`
    writes; an absent `tid` or `it` is skipped, and reads back as `None`. -/
structure ClaimsJson where
  iss : String
  sub : String
  exp : ℕ
  aud : String
  tid : Option String
  it : Option String
  deriving DecidableEq, Repr

/-- `Serialize for ArunaTokenClaims`. -/
def ArunaTokenClaims.toJson (c : ArunaTokenClaims) : ClaimsJson :=
  ⟨c.iss, c.sub, c.exp, c.aud, c.tid, c.it.map Intent.serialize⟩

/-- `Deserialize for ArunaTokenClaims`: the intent through `Intent::deserialize`. -/
def ClaimsJson.toClaims (j : ClaimsJson) : Outcome String ArunaTokenClaims :=
  match j.it with
  | none => .ok ⟨j.iss, j.sub, j.exp, j.aud, j.tid, none⟩
  | some s => (Intent.deserialize s).bind fun i => .ok ⟨j.iss, j.sub, j.exp, j.aud, j.tid, some i⟩

@[simp] theorem ArunaTokenClaims.toJson_exp (c : ArunaTokenClaims) : c.toJson.exp = c.exp := rfl

@[simp] theorem ArunaTokenClaims.toJson_aud (c : ArunaTokenClaims) : c.toJson.aud = c.aud := rfl

theorem toJson_toClaims (c : ArunaTokenClaims) : c.toJson.toClaims = .ok c := by
  obtain ⟨iss, sub, exp, aud, tid, _ | i⟩ := c
  · rfl
  · simp only [ArunaTokenClaims.toJson, ClaimsJson.toClaims, Option.map_some',
      Intent.deserialize_serialize]
    rfl

/-- Claims whose intent string makes `Intent::deserialize` panic panic in the same way. -/
theorem toClaims_of_panic {j : ClaimsJson} {s m : String} (hj : j.it = some s)
    (hs : Intent.deserialize s = .panic m) : j.toClaims = .panic m := by
  simp [ClaimsJson.toClaims, hj, hs, Outcome.bind]

/-- **Decoding panics.** For every ULID, the ULID alone and the ULID followed by `_` and a byte
    above `4` make `Intent::deserialize` panic (`split[1]` out of bounds, and `Action::from`), and
    so does the decoding of every claims object whose intent is one of them. -/
theorem intent_deserialize_panics (u : Ulid) (b : ℕ) (hb : 4 < b) (hb' : b < 256) :
    Intent.deserialize u.toString = .panic "index out of bounds: the len is 1 but the index is 1" ∧
    Intent.deserialize (u.toString ++ "_" ++ ⟨decimal b⟩) = .panic "Invalid action" ∧
    ∀ j : ClaimsJson,
      (j.it = some u.toString →
        j.toClaims = .panic "index out of bounds: the len is 1 but the index is 1") ∧
      (j.it = some (u.toString ++ "_" ++ ⟨decimal b⟩) → j.toClaims = .panic "Invalid action") :=
  ⟨deserializeIntent_toString _ _ u, deserialize_invalid_action u hb hb', fun _ =>
    ⟨fun hj => toClaims_of_panic hj (deserializeIntent_toString _ _ u),
      fun hj => toClaims_of_panic hj (deserialize_invalid_action u hb hb')⟩⟩

theorem intent_deserialize_panics_seven :
    4 < 7 ∧ 7 < 256 ∧
    Intent.deserialize (⟨1, by decide⟩ : Ulid).toString =
      .panic "index out of bounds: the len is 1 but the index is 1" ∧
    Intent.deserialize ((⟨1, by decide⟩ : Ulid).toString ++ "_" ++ ⟨decimal 7⟩) =
      .panic "Invalid action" ∧
    ∀ j : ClaimsJson,
      (j.it = some (⟨1, by decide⟩ : Ulid).toString →
        j.toClaims = .panic "index out of bounds: the len is 1 but the index is 1") ∧
      (j.it = some ((⟨1, by decide⟩ : Ulid).toString ++ "_" ++ ⟨decimal 7⟩) →
        j.toClaims = .panic "Invalid action") :=
  ⟨by decide, by decide, intent_deserialize_panics ⟨1, by decide⟩ 7 (by decide) (by decide)⟩

/-! ## JWTs -/

/-- The signing algorithms of `jsonwebtoken` the model tells apart. -/
inductive Algorithm where
  | edDSA
  | hs256
  | rs256
  deriving DecidableEq, Repr

/-- A JWT header. -/
structure Header where
  alg : Algorithm
  kid : Option String
  deriving DecidableEq, Repr

/-- A JWT, as `jsonwebtoken::encode` builds it. -/
structure Jwt where
  header : Header
  claims : ClaimsJson
  signer : EncodingKey
  deriving DecidableEq, Repr

/-- `jsonwebtoken::encode`. -/
def Jwt.encode (header : Header) (claims : ArunaTokenClaims) (key : EncodingKey) : Jwt :=
  ⟨header, claims.toJson, key⟩

/-- `jsonwebtoken::Validation`. -/
structure Validation where
  algorithms : List Algorithm
  aud : Option (List String)
  leeway : ℕ
  validateExp : Bool

/-- `Validation::new`. -/
def Validation.new (alg : Algorithm) : Validation := ⟨[alg], none, 60, true⟩

/-- `Validation::set_audience`. -/
def Validation.setAudience (v : Validation) (items : List String) : Validation :=
  { v with aud := some items }

/-- `jsonwebtoken::decode::<T>` at time `now`, with `read` the `Deserialize` of `T`: the
    algorithm, the signature, the claims, then the expiry and the audience of the claims'
    JSON. -/
def Jwt.decodeAs {T : Type} (read : ClaimsJson → Outcome String T) (now : ℕ) (token : Jwt)
    (key : DecodingKey) (v : Validation) : Outcome String T :=
  if token.header.alg ∉ v.algorithms then .err "InvalidAlgorithm"
  else if key ≠ token.signer.publicKey then .err "InvalidSignature"
  else (read token.claims).bind fun c =>
    if v.validateExp && decide (token.claims.exp < now - v.leeway) then .err "ExpiredSignature"
    else match v.aud with
      | some auds => if token.claims.aud ∈ auds then .ok c else .err "InvalidAudience"
      | none => .ok c

/-- `jsonwebtoken::decode::<ArunaTokenClaims>`. -/
def Jwt.decode (now : ℕ) (token : Jwt) (key : DecodingKey) (v : Validation) :
    Outcome String ArunaTokenClaims :=
  Jwt.decodeAs ClaimsJson.toClaims now token key v

/-! ## Checking tokens -/

/-- `DieselUlid::from_str`, its error as an `anyhow` error. -/
def parseUlid (s : String) : Outcome String Ulid :=
  match Ulid.fromStr s with
  | .ok u => .ok u
  | .error e => .err e.toString

/-- `extract_claims`: decode with `EdDSA` and the audience `proxy`. -/
def extractClaims (now : ℕ) (token : Jwt) (decKey : DecodingKey) :
    Outcome String ArunaTokenClaims :=
  token.decode now decKey ((Validation.new .edDSA).setAudience ["proxy"])

namespace AuthHandler

variable (h : AuthHandler)

/-- The decision of `check_permissions` on the claims' intent. -/
def checkIntent (claims : ArunaTokenClaims) : Outcome String (Ulid × Option String) :=
  match claims.it with
  | some it =>
    match it.action with
    | .all => (parseUlid claims.sub).bind fun u => .ok (u, claims.tid)
    | .createSecrets =>
      if it.target = h.selfId then (parseUlid claims.sub).bind fun u => .ok (u, claims.tid)
      else .err "Token is not valid for this Dataproxy"
    | .dpExchange =>
      if it.target = h.selfId then (parseUlid claims.sub).bind fun u => .ok (u, none)
      else .err "Token is not valid for this Dataproxy"
    | _ => .err "Action not allowed for Dataproxy"
  | none => (parseUlid claims.sub).bind fun u => .ok (u, claims.tid)

/-- `check_permissions` at time `now`: the key by the header's `kid`, then the claims,
    then the intent. -/
def checkPermissions (now : ℕ) (token : Jwt) :
    Outcome String (Ulid × Option String) :=
  match token.header.kid with
  | none => .err "Unspecified kid"
  | some kid =>
    match parseI32 kid.toList with
    | none => .err "ParseIntError"
    | some serial =>
      match h.cache.getPubkey serial with
      | none => .err "Pubkey not found"
      | some decKey => (extractClaims now token decKey).bind h.checkIntent

/-! ## Minting tokens -/

/-- `sign_token`: an `EdDSA` header whose `kid` is the key's serial. -/
def signToken (claims : ArunaTokenClaims) : Jwt :=
  Jwt.encode ⟨.edDSA, some ⟨h.encodingKey.1.display⟩⟩ claims h.encodingKey.2

/-- `sign_impersonating_token` at time `now`. -/
def signImpersonatingToken (now : ℕ) (userId : String) (tid : Option String) : Jwt :=
  h.signToken ⟨h.selfId.toString, userId, now + 15 * 60, "aruna", tid,
    some ⟨h.selfId, .impersonate⟩⟩

/-- `sign_notification_token` at time `now`. -/
def signNotificationToken (now : ℕ) : Jwt :=
  h.signToken ⟨h.selfId.toString, h.selfId.toString, now + 60 * 60 * 24 * 365 * 10, "aruna",
    none, some ⟨h.selfId, .fetchInfo⟩⟩

/-- `sign_dataproxy_token` at time `now`. -/
def signDataproxyToken (now : ℕ) (targetEndpoint : Ulid) : Jwt :=
  h.signToken ⟨h.selfId.toString, h.selfId.toString, now + 15 * 60, "proxy", none,
    some ⟨targetEndpoint, .dpExchange⟩⟩

/-! ## The intent rule -/

/-- With the key found and the claims valid, `check_permissions` is the intent's decision. -/
theorem checkPermissions_of_claims {now : ℕ} {token : Jwt} {kid : String} {serial : I32}
    {key : DecodingKey} {claims : ArunaTokenClaims} (hkid : token.header.kid = some kid)
    (hser : parseI32 kid.toList = some serial) (hkey : h.cache.getPubkey serial = some key)
    (hclaims : extractClaims now token key = .ok claims) :
    h.checkPermissions now token = h.checkIntent claims := by
  simp only [checkPermissions, hkid, hser, hkey, hclaims, Outcome.bind_ok]

theorem bind_parseUlid_eq_ok {s : String} {x t : Option String} {u : Ulid} :
    ((parseUlid s).bind fun v => .ok (v, x)) = .ok (u, t) ↔ parseUlid s = .ok u ∧ t = x := by
  cases parseUlid s <;> simp [Outcome.bind, and_comm, eq_comm]

/-- The intents `check_permissions` accepts, and the tenant it hands on for each. -/
theorem checkIntent_eq_ok {c : ArunaTokenClaims} {u : Ulid} {t : Option String} :
    h.checkIntent c = .ok (u, t) ↔ parseUlid c.sub = .ok u ∧
      (c.it = none ∧ t = c.tid ∨
       ∃ it, c.it = some it ∧
        (it.action = .all ∧ t = c.tid ∨
         it.action = .createSecrets ∧ it.target = h.selfId ∧ t = c.tid ∨
         it.action = .dpExchange ∧ it.target = h.selfId ∧ t = none)) := by
  rcases hc : c.it with _ | ⟨target, _ | _ | _ | _ | _⟩ <;>
    simp only [checkIntent, hc] <;> (try split_ifs) <;> simp [bind_parseUlid_eq_ok, *]

/-- The intents `check_permissions` refuses, with the error of each. -/
theorem checkIntent_refused {c : ArunaTokenClaims} {it : Intent} (hc : c.it = some it) :
    (it.action = .impersonate ∨ it.action = .fetchInfo →
      h.checkIntent c = .err "Action not allowed for Dataproxy") ∧
    (it.action = .createSecrets ∨ it.action = .dpExchange → it.target ≠ h.selfId →
      h.checkIntent c = .err "Token is not valid for this Dataproxy") := by
  obtain ⟨target, action⟩ := it
  constructor
  · rintro (rfl | rfl) <;> simp [checkIntent, hc]
  · rintro (rfl | rfl) ht <;> simp [checkIntent, hc, ht]

end AuthHandler

/-! ## Agreement between two proxies -/

theorem parseUlid_toString (u : Ulid) : parseUlid u.toString = .ok u := by
  simp [parseUlid, fromStr_toString]

variable {A B : AuthHandler}

/-- A token `A` signs reaches the claims check of `B` when `B` knows `A`'s public key
    under `A`'s serial. -/
theorem checkPermissions_signToken (now : ℕ) (c : ArunaTokenClaims)
    (hkey : B.cache.getPubkey A.encodingKey.1 = some A.encodingKey.2.publicKey) :
    B.checkPermissions now (A.signToken c) =
      (if c.exp < now - 60 then Outcome.err "ExpiredSignature"
       else if c.aud = "proxy" then .ok c else .err "InvalidAudience").bind B.checkIntent := by
  simp only [AuthHandler.checkPermissions, AuthHandler.signToken, Jwt.encode, String.toList,
    parseI32_display, hkey, extractClaims, Jwt.decode, Jwt.decodeAs, Validation.setAudience,
    Validation.new, toJson_toClaims]
  by_cases hexp : c.exp < now - 60 <;> by_cases haud : c.aud = "proxy" <;>
    simp [hexp, haud, Outcome.bind]

/-- Every token `A` addresses to the metadata server (`aud = "aruna"`) is rejected by `B`. -/
theorem checkPermissions_aruna_isErr (now : ℕ) (c : ArunaTokenClaims) (haud : c.aud = "aruna") :
    (B.checkPermissions now (A.signToken c)).isErr := by
  simp only [AuthHandler.checkPermissions, AuthHandler.signToken, Jwt.encode, String.toList,
    parseI32_display]
  cases hk : B.cache.getPubkey A.encodingKey.1 with
  | none => rfl
  | some k =>
    simp only [extractClaims, Jwt.decode, Jwt.decodeAs, Validation.setAudience, Validation.new,
      toJson_toClaims]
    by_cases hsig : k = A.encodingKey.2.publicKey <;> by_cases hexp : c.exp < now - 60 <;>
      simp [hsig, hexp, haud, Outcome.bind, Outcome.isErr]

/-- **Mint/verify agreement.** Let `B` hold `A`'s public key under `A`'s key serial. Until
    it expires, the dataproxy token `A` mints for a target is accepted by `B`, as coming
    from `A`, exactly when `B` is the target; the impersonating and notification tokens
    `A` mints are rejected by `B` at any time. -/
theorem dataproxy_token_agreement (now t : ℕ)
    (hkey : B.cache.getPubkey A.encodingKey.1 = some A.encodingKey.2.publicKey) :
    (t < now + 15 * 60 → ∀ target, B.checkPermissions t (A.signDataproxyToken now target) =
      if target = B.selfId then .ok (A.selfId, none)
      else .err "Token is not valid for this Dataproxy") ∧
    (∀ userId tid, (B.checkPermissions t (A.signImpersonatingToken now userId tid)).isErr) ∧
    (B.checkPermissions t (A.signNotificationToken now)).isErr := by
  refine ⟨fun ht target => ?_, fun _ _ => checkPermissions_aruna_isErr _ _ rfl,
    checkPermissions_aruna_isErr _ _ rfl⟩
  rw [AuthHandler.signDataproxyToken, checkPermissions_signToken _ _ hkey]
  have hexp : ¬ now + 15 * 60 < t - 60 := by omega
  by_cases hb : target = B.selfId <;>
    simp [hexp, hb, Outcome.bind, AuthHandler.checkIntent, parseUlid_toString]

/-- Two proxies: `proxyA` signs with the key serial `-7`, and `proxyB` holds its public key. -/
def proxyA : AuthHandler :=
  ⟨⟨fun _ => none, fun _ => none, fun _ => none, fun _ => none, fun _ => none⟩,
    ⟨1, by decide⟩, ⟨fun _ => true, fun _ => true⟩, (⟨-7, by decide, by decide⟩, ⟨5⟩)⟩

/-- See `proxyA`. -/
def proxyB : AuthHandler :=
  ⟨⟨fun s => if s.val = -7 then some ⟨5⟩ else none, fun _ => none, fun _ => none,
      fun _ => none, fun _ => none⟩,
    ⟨2, by decide⟩, ⟨fun _ => true, fun _ => true⟩, (⟨3, by decide, by decide⟩, ⟨6⟩)⟩

theorem dataproxy_token_agreement_proxyB :
    proxyB.cache.getPubkey proxyA.encodingKey.1 = some proxyA.encodingKey.2.publicKey ∧
    (1000 < 900 + 15 * 60 → ∀ target,
      proxyB.checkPermissions 1000 (proxyA.signDataproxyToken 900 target) =
        if target = proxyB.selfId then .ok (proxyA.selfId, none)
        else .err "Token is not valid for this Dataproxy") ∧
    (∀ userId tid,
      (proxyB.checkPermissions 1000 (proxyA.signImpersonatingToken 900 userId tid)).isErr) ∧
    (proxyB.checkPermissions 1000 (proxyA.signNotificationToken 900)).isErr :=
  ⟨rfl, dataproxy_token_agreement 900 1000 rfl⟩

/-! ## Accepted and refused intents -/

/-- **The intent rule.** Once the header's `kid` names a cached key and the claims decode and
    validate with it, the token is accepted, for the user its `sub` names, exactly when it
    carries no intent, the intent `all` (for any target), or `createSecrets` or `dpExchange`
    aimed at this proxy; `dpExchange` hands on no tenant. `impersonate` and `fetchInfo` are
    refused, and so are `createSecrets` and `dpExchange` aimed at another proxy. -/
theorem checkPermissions_intent_rule (h : AuthHandler) (now : ℕ) (token : Jwt) (kid : String)
    (serial : I32) (key : DecodingKey) (claims : ArunaTokenClaims)
    (hkid : token.header.kid = some kid) (hser : parseI32 kid.toList = some serial)
    (hkey : h.cache.getPubkey serial = some key)
    (hclaims : extractClaims now token key = .ok claims) :
    (∀ u t, h.checkPermissions now token = .ok (u, t) ↔ parseUlid claims.sub = .ok u ∧
      (claims.it = none ∧ t = claims.tid ∨
       ∃ it, claims.it = some it ∧
        (it.action = .all ∧ t = claims.tid ∨
         it.action = .createSecrets ∧ it.target = h.selfId ∧ t = claims.tid ∨
         it.action = .dpExchange ∧ it.target = h.selfId ∧ t = none))) ∧
    (∀ it, claims.it = some it → it.action = .impersonate ∨ it.action = .fetchInfo →
      h.checkPermissions now token = .err "Action not allowed for Dataproxy") ∧
    (∀ it, claims.it = some it → it.action = .createSecrets ∨ it.action = .dpExchange →
      it.target ≠ h.selfId →
      h.checkPermissions now token = .err "Token is not valid for this Dataproxy") := by
  rw [h.checkPermissions_of_claims hkid hser hkey hclaims]
  exact ⟨fun _ _ => h.checkIntent_eq_ok, fun _ hc => (h.checkIntent_refused hc).1,
    fun _ hc => (h.checkIntent_refused hc).2⟩

/-- A `createSecrets` token `proxyA` signs for `proxyB`, valid until `2000`. -/
def secretsClaims : ArunaTokenClaims :=
  ⟨proxyA.selfId.toString, proxyA.selfId.toString, 2000, "proxy", some "t",
    some ⟨proxyB.selfId, .createSecrets⟩⟩

theorem checkPermissions_intent_rule_proxyB :
    (proxyA.signToken secretsClaims).header.kid = some "-7" ∧
    parseI32 "-7".toList = some proxyA.encodingKey.1 ∧
    proxyB.cache.getPubkey proxyA.encodingKey.1 = some ⟨5⟩ ∧
    extractClaims 1000 (proxyA.signToken secretsClaims) ⟨5⟩ = .ok secretsClaims ∧
    (∀ u t, proxyB.checkPermissions 1000 (proxyA.signToken secretsClaims) = .ok (u, t) ↔
      parseUlid secretsClaims.sub = .ok u ∧
      (secretsClaims.it = none ∧ t = secretsClaims.tid ∨
       ∃ it, secretsClaims.it = some it ∧
        (it.action = .all ∧ t = secretsClaims.tid ∨
         it.action = .createSecrets ∧ it.target = proxyB.selfId ∧ t = secretsClaims.tid ∨
         it.action = .dpExchange ∧ it.target = proxyB.selfId ∧ t = none))) ∧
    (∀ it, secretsClaims.it = some it → it.action = .impersonate ∨ it.action = .fetchInfo →
      proxyB.checkPermissions 1000 (proxyA.signToken secretsClaims) =
        .err "Action not allowed for Dataproxy") ∧
    (∀ it, secretsClaims.it = some it → it.action = .createSecrets ∨ it.action = .dpExchange →
      it.target ≠ proxyB.selfId →
      proxyB.checkPermissions 1000 (proxyA.signToken secretsClaims) =
        .err "Token is not valid for this Dataproxy") :=
  have hclaims : extractClaims 1000 (proxyA.signToken secretsClaims) ⟨5⟩ = .ok secretsClaims := by
    decide
  ⟨rfl, rfl, rfl, hclaims,
    checkPermissions_intent_rule proxyB 1000 _ "-7" _ _ _ rfl rfl rfl hclaims⟩

end DataProxy
