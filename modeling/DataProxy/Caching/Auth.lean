/-
  DataProxy formalization — the older token check of `caching/auth.rs`: an
  `AuthHandler` that lets in only tokens minted to create secrets at this proxy.

  * `Caching.Action` numbers its actions `all = 0`, `notifications = 1`,
    `createSecrets = 2`, where `auth/auth.rs` has `createSecrets = 1`,
    `impersonate = 2`, `fetchInfo = 3` and `dpExchange = 4`; its `From<u8>`
    panics on a byte above `2`;
  * `Caching.Intent.serialize` and `deserialize` are `serializeIntent` and
    `deserializeIntent` at this file's numbering;
  * `Caching.extractClaims` is `Jwt.decodeAs` at this file's claims, which
    have no audience and are decoded without one;
  * `Caching.AuthHandler.checkPermissions`, with `checkIntent` its decision on
    the claims' intent: only `createSecrets` aimed at this proxy passes.

  Main results: `Intent.serialize_reads_back`, the intent round trip; and, on
  the tokens a handler of `auth/auth.rs` signs, where the two numberings
  disagree:
  `checkPermissions_current_tokens`, the dataproxy and notification tokens make
  the check panic, a `createSecrets` intent reads as `notifications` and is
  refused, and an impersonating token the same proxy minted reads as
  `createSecrets` and is accepted, for the impersonated user; and
  `checkPermissions_current_eq_ok`, the tokens accepted are exactly the
  unexpired ones whose intent is `impersonate` aimed at this proxy.

  The `RwLock` of the cache is never poisoned: its error branch is left out.
-/
import DataProxy.Auth.Token

namespace DataProxy

namespace Caching

/-! ## Actions and intents -/

/-- `Action` of `caching/auth.rs`, with its `repr(u8)` values `0, 1, 2`. -/
inductive Action where
  | all
  | notifications
  | createSecrets
  deriving DecidableEq, Repr

/-- `action as u8`. -/
def Action.toU8 : Action → ℕ
  | .all => 0
  | .notifications => 1
  | .createSecrets => 2

/-- `From<u8> for Action`. -/
def Action.fromU8 : ℕ → Outcome String Action
  | 0 => .ok .all
  | 1 => .ok .notifications
  | 2 => .ok .createSecrets
  | _ => .panic "Invalid action"

theorem Action.fromU8_toU8 (a : Action) : Action.fromU8 a.toU8 = .ok a := by
  cases a <;> rfl

theorem Action.toU8_lt (a : Action) : a.toU8 < 256 := by
  cases a <;> decide

theorem Action.fromU8_of_gt {b : ℕ} (h : 2 < b) : Action.fromU8 b = .panic "Invalid action" :=
  match b, h with
  | _ + 3, _ => rfl

/-- `Intent` of `caching/auth.rs`. -/
structure Intent where
  target : Ulid
  action : Action
  deriving DecidableEq, Repr

/-- `Serialize for Intent`, with this file's numbering. -/
def Intent.serialize (i : Intent) : String := serializeIntent Action.toU8 i.target i.action

/-- `Deserialize for Intent`, with this file's numbering. -/
def Intent.deserialize (temp : String) : Outcome String Intent :=
  deserializeIntent Action.fromU8 Intent.mk temp

/-- **Intent round trip.** Every intent of `caching/auth.rs` reads back from its string. -/
theorem Intent.serialize_reads_back (i : Intent) : Intent.deserialize i.serialize = .ok i :=
  deserializeIntent_serializeIntent Intent.mk Action.toU8_lt Action.fromU8_toU8 i.target i.action

/-- The string of an intent of `auth/auth.rs` reads as the action with the same byte. -/
theorem deserialize_current (i : DataProxy.Intent) :
    Intent.deserialize i.serialize = (Action.fromU8 i.action.toU8).bind fun a => .ok ⟨i.target, a⟩ :=
  deserializeIntent_target_byte _ _ i.target i.action.toU8_lt

/-! ## Claims -/

/-- `ArunaTokenClaims` of `caching/auth.rs`: no audience. -/
structure ArunaTokenClaims where
  iss : String
  sub : String
  exp : ℕ
  tid : Option String
  it : Option Intent
  deriving DecidableEq, Repr

/-- `Deserialize for ArunaTokenClaims`: the intent through this file's `Intent::deserialize`;
    `aud` is a field the struct does not have, which `serde` skips. -/
def ArunaTokenClaims.deserialize (j : ClaimsJson) : Outcome String ArunaTokenClaims :=
  match j.it with
  | none => .ok ⟨j.iss, j.sub, j.exp, j.tid, none⟩
  | some s => (Intent.deserialize s).bind fun i => .ok ⟨j.iss, j.sub, j.exp, j.tid, some i⟩

/-- `extract_claims`: decode with `EdDSA` and no audience. -/
def extractClaims (now : ℕ) (token : Jwt) (decKey : DecodingKey) :
    Outcome String ArunaTokenClaims :=
  Jwt.decodeAs ArunaTokenClaims.deserialize now token decKey (Validation.new .edDSA)

/-- The claims `auth/auth.rs` writes, read with this file's numbering. -/
theorem deserialize_toJson (c : DataProxy.ArunaTokenClaims) :
    ArunaTokenClaims.deserialize c.toJson = match c.it with
      | none => .ok ⟨c.iss, c.sub, c.exp, c.tid, none⟩
      | some i => (Action.fromU8 i.action.toU8).bind fun a =>
        .ok ⟨c.iss, c.sub, c.exp, c.tid, some ⟨i.target, a⟩⟩ := by
  rcases hc : c.it with _ | i
  · simp only [ArunaTokenClaims.deserialize, DataProxy.ArunaTokenClaims.toJson, hc,
      Option.map_none']
  · simp only [ArunaTokenClaims.deserialize, DataProxy.ArunaTokenClaims.toJson, hc,
      Option.map_some', deserialize_current]
    cases Action.fromU8 i.action.toU8 <;> rfl

/-! ## Checking tokens -/

/-- `AuthHandler` of `caching/auth.rs`. -/
structure AuthHandler where
  cache : Cache
  selfId : Ulid

namespace AuthHandler

variable (h : AuthHandler)

/-- The decision of `check_permissions` on the claims' intent. -/
def checkIntent (claims : ArunaTokenClaims) : Outcome String (Ulid × Option String) :=
  match claims.it with
  | some it =>
    if it.action = .createSecrets ∧ it.target = h.selfId then
      (parseUlid claims.sub).bind fun u => .ok (u, claims.tid)
    else .err "Invalid permissions"
  | none => .err "Invalid permissions"

/-- `check_permissions` at time `now`: the key by the header's `kid`, then the claims, then
    the intent. -/
def checkPermissions (now : ℕ) (token : Jwt) : Outcome String (Ulid × Option String) :=
  match token.header.kid with
  | none => .err "Unspecified kid"
  | some kid =>
    match parseI32 kid.toList with
    | none => .err "ParseIntError"
    | some serial =>
      match h.cache.getPubkey serial with
      | none => .err "Pubkey not found"
      | some decKey => (extractClaims now token decKey).bind h.checkIntent

theorem checkIntent_eq_ok {c : ArunaTokenClaims} {u : Ulid} {t : Option String} :
    h.checkIntent c = .ok (u, t) ↔
      c.it = some ⟨h.selfId, .createSecrets⟩ ∧ parseUlid c.sub = .ok u ∧ t = c.tid := by
  rcases hc : c.it with _ | ⟨target, action⟩
  · simp [checkIntent, hc]
  · by_cases hs : action = .createSecrets ∧ target = h.selfId
    · obtain ⟨rfl, rfl⟩ := hs
      simp [checkIntent, hc, DataProxy.AuthHandler.bind_parseUlid_eq_ok]
    · simp only [checkIntent, hc, if_neg hs, Option.some.injEq, Intent.mk.injEq]
      exact iff_of_false (by simp) fun ⟨⟨ht, ha⟩, _⟩ => hs ⟨ha, ht⟩

end AuthHandler

/-! ## The tokens `auth/auth.rs` mints -/

/-- The handler of `caching/auth.rs` at `proxyA`'s id, with `proxyB`'s cache, which holds
    `proxyA`'s public key. -/
def handlerA : AuthHandler := ⟨proxyB.cache, proxyA.selfId⟩

variable {A : DataProxy.AuthHandler} {C : AuthHandler}

/-- A token `A` signs reaches the intent check of `C` when `C` knows `A`'s public key under
    `A`'s serial: its claims are read with this file's numbering, then checked for expiry. -/
theorem checkPermissions_signToken (now : ℕ) (c : DataProxy.ArunaTokenClaims)
    (hkey : C.cache.getPubkey A.encodingKey.1 = some A.encodingKey.2.publicKey) :
    C.checkPermissions now (A.signToken c) =
      (ArunaTokenClaims.deserialize c.toJson).bind fun cc =>
        if c.exp < now - 60 then .err "ExpiredSignature" else C.checkIntent cc := by
  simp only [AuthHandler.checkPermissions, DataProxy.AuthHandler.signToken, Jwt.encode,
    String.toList, parseI32_display, hkey, extractClaims, Jwt.decodeAs, Validation.new]
  cases ArunaTokenClaims.deserialize c.toJson with
  | ok cc =>
    by_cases hexp : c.exp < now - 60 <;>
      simp [hexp, Outcome.bind, DataProxy.ArunaTokenClaims.toJson]
  | err e => simp [Outcome.bind]
  | panic m => simp [Outcome.bind]

/-- A token of `A` whose intent's byte is above `2` makes `C` panic, at any time. -/
theorem checkPermissions_signToken_panics (now : ℕ) (c : DataProxy.ArunaTokenClaims)
    (hkey : C.cache.getPubkey A.encodingKey.1 = some A.encodingKey.2.publicKey)
    {i : DataProxy.Intent} (hc : c.it = some i) (hb : 2 < i.action.toU8) :
    C.checkPermissions now (A.signToken c) = .panic "Invalid action" := by
  rw [checkPermissions_signToken now c hkey, deserialize_toJson, hc]
  simp only [Action.fromU8_of_gt hb, Outcome.bind]

/-- **Two numberings of the actions.** Let `C`, the handler of `caching/auth.rs`, hold the
    public key of `A`, a handler of `auth/auth.rs`, under `A`'s serial. Then the dataproxy
    and notification tokens `A` mints make `C`'s check panic, at any time; until it expires,
    a token of `A` whose intent is `createSecrets` is refused, as `notifications`; and when
    `C` is `A`'s proxy, an impersonating token `A` mints for a user is accepted, as
    `createSecrets`, for that user and tenant until it expires. -/
theorem checkPermissions_current_tokens (now t : ℕ)
    (hkey : C.cache.getPubkey A.encodingKey.1 = some A.encodingKey.2.publicKey) :
    (∀ target, C.checkPermissions t (A.signDataproxyToken now target) = .panic "Invalid action") ∧
    C.checkPermissions t (A.signNotificationToken now) = .panic "Invalid action" ∧
    (∀ c i, c.it = some i → i.action = .createSecrets → ¬ c.exp < t - 60 →
      C.checkPermissions t (A.signToken c) = .err "Invalid permissions") ∧
    (C.selfId = A.selfId → ¬ now + 15 * 60 < t - 60 → ∀ (u : Ulid) tid,
      C.checkPermissions t (A.signImpersonatingToken now u.toString tid) = .ok (u, tid)) := by
  refine ⟨fun _ => checkPermissions_signToken_panics t _ hkey rfl
      (show 2 < DataProxy.Action.dpExchange.toU8 by decide),
    checkPermissions_signToken_panics t _ hkey rfl
      (show 2 < DataProxy.Action.fetchInfo.toU8 by decide),
    fun c i hc ha hexp => ?_, fun hself hexp u tid => ?_⟩
  · rw [checkPermissions_signToken t c hkey, deserialize_toJson, hc]
    simp [ha, Action.fromU8, DataProxy.Action.toU8, hexp, AuthHandler.checkIntent]
  · rw [DataProxy.AuthHandler.signImpersonatingToken, checkPermissions_signToken t _ hkey,
      deserialize_toJson]
    simp [Action.fromU8, DataProxy.Action.toU8, hexp, AuthHandler.checkIntent, hself,
      parseUlid_toString]

theorem checkPermissions_current_tokens_handlerA :
    handlerA.cache.getPubkey proxyA.encodingKey.1 = some proxyA.encodingKey.2.publicKey ∧
    (∀ target, handlerA.checkPermissions 1000 (proxyA.signDataproxyToken 900 target) =
      .panic "Invalid action") ∧
    handlerA.checkPermissions 1000 (proxyA.signNotificationToken 900) = .panic "Invalid action" ∧
    (∀ c i, c.it = some i → i.action = .createSecrets → ¬ c.exp < 1000 - 60 →
      handlerA.checkPermissions 1000 (proxyA.signToken c) = .err "Invalid permissions") ∧
    (handlerA.selfId = proxyA.selfId → ¬ 900 + 15 * 60 < 1000 - 60 → ∀ (u : Ulid) tid,
      handlerA.checkPermissions 1000 (proxyA.signImpersonatingToken 900 u.toString tid) =
        .ok (u, tid)) :=
  ⟨rfl, checkPermissions_current_tokens 900 1000 rfl⟩

/-- **What the older check accepts of the current tokens.** Let `C` hold the public key of
    `A` under `A`'s serial. Of the tokens `A` signs, with the intents of `auth/auth.rs`, `C`
    accepts, for the user `u` and the tenant `t`, exactly those that have not expired, whose
    intent is `impersonate` aimed at `C`'s proxy, whose `sub` is the ULID `u`, and whose `tid`
    is `t`. -/
theorem checkPermissions_current_eq_ok (now : ℕ) (c : DataProxy.ArunaTokenClaims)
    (hkey : C.cache.getPubkey A.encodingKey.1 = some A.encodingKey.2.publicKey) :
    ∀ u t, C.checkPermissions now (A.signToken c) = .ok (u, t) ↔
      ¬ c.exp < now - 60 ∧ c.it = some ⟨C.selfId, .impersonate⟩ ∧ parseUlid c.sub = .ok u ∧
        t = c.tid := by
  intro u t
  rw [checkPermissions_signToken now c hkey, deserialize_toJson]
  rcases c.it with _ | ⟨target, _ | _ | _ | _ | _⟩ <;> by_cases hexp : c.exp < now - 60 <;>
    simp [hexp, Action.fromU8, DataProxy.Action.toU8, Outcome.bind_eq_ok,
      AuthHandler.checkIntent_eq_ok]

theorem checkPermissions_current_eq_ok_handlerA :
    handlerA.cache.getPubkey proxyA.encodingKey.1 = some proxyA.encodingKey.2.publicKey ∧
    ∀ u t, handlerA.checkPermissions 1000 (proxyA.signToken secretsClaims) = .ok (u, t) ↔
      ¬ secretsClaims.exp < 1000 - 60 ∧ secretsClaims.it = some ⟨handlerA.selfId, .impersonate⟩ ∧
        parseUlid secretsClaims.sub = .ok u ∧ t = secretsClaims.tid :=
  ⟨rfl, checkPermissions_current_eq_ok 1000 secretsClaims rfl⟩

end Caching

end DataProxy
