/-
  DataProxy formalization — presigned URLs (`presign_handler/signer.rs`):
  `sign_url` appends a salt, an expiry and an HMAC-SHA256 signature to a URL's
  query, and `verify_sign_url` recomputes the HMAC of the parameters and path it
  is given.

  * `HmacSha256`: the MAC, 32 bytes for each key and message; the model takes it
    as a parameter, and every theorem holds for every such function;
  * `querySignatureString`: `vec![expiry, salt, path].join("|")`, the message
    that is signed;
  * `signUrl`, whose URL is `signedUrl` once the expiry is known; `verifySignUrl`;
    `readSignedParams`, the loop of `test_signer` over `query_pairs`, where the
    last pair of each name wins.

  Main results: `signUrl_verifies`, a URL `sign_url` returns verifies against its
  own path, and `sign_url` returns one exactly when the expiry is a date `chrono`
  holds (it panics otherwise); `signature_not_bound_to_path`, a signature issued
  for a path with a `|` in it also verifies for a shorter path, the rest of the
  path moved into the submitted salt and expiry.
-/
import DataProxy.Presign.Time

namespace DataProxy

/-- HMAC-SHA256: a 32-byte tag for a key and a message. -/
structure HmacSha256 where
  tag : List UInt8 → List UInt8 → List UInt8
  tag_length : ∀ key message, (tag key message).length = 32

/-- `PresignHandler`: the secret of `HMAC_SIGN_KEY`. -/
structure PresignHandler where
  secret : String

/-- `SignedParamsQuery`. -/
structure SignedParamsQuery where
  signature : String
  salt : String
  expiry : String
  deriving DecidableEq, Repr

/-- `query_signature_string`: `vec![expiry, salt, path].join("|")`. -/
def querySignatureString (p : SignedParamsQuery) (path : String) : String :=
  "|".intercalate [p.expiry, p.salt, path]

namespace PresignHandler

variable (hmac : HmacSha256) (h : PresignHandler)

/-- `HmacSha256::new_from_slice(secret)`, `update(message)`, `finalize()`. -/
def mac (message : String) : List UInt8 := hmac.tag (utf8Bytes h.secret) (utf8Bytes message)

/-- The URL `sign_url` returns once the expiry is written: the salt, the expiry and the
    signature of `expiry|salt|path`, appended to the query in that order. -/
def signedUrl (expiryRfc3339 : String) (salt : List UInt8) (url : Url) : Url :=
  let base64Salt := base64Encode salt
  let querySignature := querySignatureString ⟨"", base64Salt, expiryRfc3339⟩ url.path
  let signatureBase64 := base64Encode (h.mac hmac querySignature)
  ((url.appendPair "salt" base64Salt).appendPair "expiry" expiryRfc3339).appendPair "signature"
    signatureBase64

/-- `sign_url` at the clock reading `now`, with the 32 random bytes `salt`: the two
    `unwrap`s, of `checked_add` and of `Utc.timestamp`, panic. -/
def signUrl (now : SystemTime) (duration : Duration) (salt : List UInt8) (url : Url) :
    Outcome String Url :=
  match now.checkedAdd duration with
  | none => .panic "called `Option::unwrap()` on a `None` value"
  | some expiryData =>
    match DateTime.fromSystemTime expiryData with
    | none => .panic "No such local time"
    | some expiryDate => .ok (h.signedUrl hmac expiryDate.toRfc3339 salt url)

/-- `Mac::verify_slice`: a tag of the MAC's length, equal to it. -/
def verifySlice (expected tag : List UInt8) : Bool := tag.length == 32 && tag == expected

/-- `verify_sign_url`: a signature that is not base64 is an error; otherwise whether it
    is the MAC of the message built from the parameters and the path. -/
def verifySignUrl (p : SignedParamsQuery) (path : String) : Except Base64Error Bool :=
  let querySignature := querySignatureString p path
  match base64Decode p.signature with
  | .error e => .error e
  | .ok signatureHmacKey => .ok (verifySlice (h.mac hmac querySignature) signatureHmacKey)

end PresignHandler

/-- The loop of `test_signer` over `url.query_pairs()`: from `SignedParamsQuery::default()`,
    each pair named `expiry`, `salt` or `signature` sets that field. -/
def readSignedParams (pairs : List (String × String)) : SignedParamsQuery :=
  pairs.foldl (fun p kv =>
    if kv.1 = "expiry" then { p with expiry := kv.2 }
    else if kv.1 = "salt" then { p with salt := kv.2 }
    else if kv.1 = "signature" then { p with signature := kv.2 }
    else p) ⟨"", "", ""⟩

/-! ## Signing, then verifying -/

namespace PresignHandler

variable (hmac : HmacSha256) (h : PresignHandler)

theorem querySignatureString_eq (p : SignedParamsQuery) (path : String) :
    querySignatureString p path = p.expiry ++ "|" ++ p.salt ++ "|" ++ path := rfl

/-- The three pairs `sign_url` appends are what the test reads back, whatever the query held
    before. -/
theorem readSignedParams_signedUrl {expiry : String} (hexpiry : IsAscii expiry.data)
    (salt : List UInt8) (url : Url) :
    readSignedParams (h.signedUrl hmac expiry salt url).queryPairs =
      ⟨base64Encode (h.mac hmac (querySignatureString ⟨"", base64Encode salt, expiry⟩ url.path)),
        base64Encode salt, expiry⟩ := by
  simp only [signedUrl, readSignedParams]
  rw [queryPairs_appendPair _ (by decide) (base64Encode_ascii _),
    queryPairs_appendPair _ (by decide) hexpiry,
    queryPairs_appendPair _ (by decide) (base64Encode_ascii _)]
  simp

/-- A signature verifies for every parameters and path whose message is the one it signs. -/
theorem verifySignUrl_of_message {message : String} {p : SignedParamsQuery} {path : String}
    (hsig : p.signature = base64Encode (h.mac hmac message))
    (hmsg : querySignatureString p path = message) :
    h.verifySignUrl hmac p path = .ok true := by
  simp [verifySignUrl, hsig, hmsg, base64Decode_encode, verifySlice, mac, hmac.tag_length]

/-- The URL `sign_url` returns, where it returns one. -/
theorem signUrl_eq_ok {now : SystemTime} {d : Duration} {salt : List UInt8} {url signed : Url}
    (hs : h.signUrl hmac now d salt url = .ok signed) :
    ∃ expiry, IsAscii expiry.data ∧ signed = h.signedUrl hmac expiry salt url := by
  unfold signUrl at hs
  split at hs
  · cases hs
  · split at hs
    · cases hs
    · cases hs; exact ⟨_, toRfc3339_ascii _, rfl⟩

end PresignHandler

/-! ## Presigned URLs verify, and what their signature binds -/

/-- **Signed URLs verify.** For every MAC, secret, clock reading, duration, salt and URL: the
    parameters of a URL `sign_url` returns, read back as the test reads them, verify
    against the path of the URL it was given. `sign_url` returns such a URL exactly when
    `now + duration` is a `SystemTime` whose date `chrono` holds; past that date it panics. -/
theorem signUrl_verifies (hmac : HmacSha256) (h : PresignHandler) (now : SystemTime)
    (d : Duration) (salt : List UInt8) (url : Url) :
    (∀ signed, h.signUrl hmac now d salt url = .ok signed →
      h.verifySignUrl hmac (readSignedParams signed.queryPairs) url.path = .ok true) ∧
    (∀ t, now.checkedAdd d = some t →
      ((DateTime.fromSystemTime t).isSome ↔ ∃ signed, h.signUrl hmac now d salt url = .ok signed)) ∧
    (∀ t, now.checkedAdd d = some t → DateTime.fromSystemTime t = none →
      h.signUrl hmac now d salt url = .panic "No such local time") := by
  refine ⟨fun signed hs => ?_, fun t ht => ?_, fun t ht hnone => ?_⟩
  · obtain ⟨expiry, hexpiry, rfl⟩ := h.signUrl_eq_ok hmac hs
    rw [h.readSignedParams_signedUrl hmac hexpiry]
    exact h.verifySignUrl_of_message hmac rfl rfl
  · cases hdt : DateTime.fromSystemTime t <;> simp [PresignHandler.signUrl, ht, hdt]
  · simp [PresignHandler.signUrl, ht, hnone]

/-- A MAC for runs on fixed inputs: every tag is 32 zero bytes. -/
def zeroMac : HmacSha256 := ⟨fun _ _ => List.replicate 32 0, fun _ _ => List.length_replicate _ _⟩

/-- The test's clock reading (2023-11-14T22:13:20Z), plus `10¹³` seconds: a `SystemTime`,
    but past the last date `chrono` holds, so `sign_url` panics instead of returning a URL. -/
theorem signUrl_far_expiry_panics :
    (SystemTime.checkedAdd ⟨1700000000, 0, by decide, by decide, by decide⟩
      ⟨10000000000000, 0, by decide, by decide⟩).isSome ∧
    PresignHandler.signUrl zeroMac ⟨"test"⟩ ⟨1700000000, 0, by decide, by decide, by decide⟩
      ⟨10000000000000, 0, by decide, by decide⟩ [] ⟨"/test/path/1/3", none⟩ =
      .panic "No such local time" := by
  decide

/-- **The signature does not bind the path.** Let the path of a URL `sign_url` signs be
    `p₁|p₂`. The signature, submitted with the salt `p₁`, the expiry `expiry|salt` and the
    path `p₂`, makes the same message `expiry|salt|p₁|p₂`, so `verify_sign_url` accepts it
    for a path that was not signed. -/
theorem signature_not_bound_to_path (hmac : HmacSha256) (h : PresignHandler) (now : SystemTime)
    (d : Duration) (salt : List UInt8) (p₁ p₂ : String) (query : Option String) (signed : Url)
    (hsigned : h.signUrl hmac now d salt ⟨p₁ ++ "|" ++ p₂, query⟩ = .ok signed) :
    h.verifySignUrl hmac ⟨(readSignedParams signed.queryPairs).signature, p₁,
      (readSignedParams signed.queryPairs).expiry ++ "|" ++
        (readSignedParams signed.queryPairs).salt⟩ p₂ = .ok true ∧
    p₂ ≠ p₁ ++ "|" ++ p₂ := by
  obtain ⟨expiry, hexpiry, rfl⟩ := h.signUrl_eq_ok hmac hsigned
  rw [h.readSignedParams_signedUrl hmac hexpiry]
  refine ⟨h.verifySignUrl_of_message hmac rfl ?_, fun he => ?_⟩
  · simp only [PresignHandler.querySignatureString_eq, String.append_assoc]
  · have hlen := congrArg String.length he
    have hbar : "|".length = 1 := rfl
    simp only [String.length_append] at hlen
    omega

theorem signature_not_bound_to_path_xy :
    PresignHandler.signUrl zeroMac ⟨"test"⟩ ⟨1700000000, 0, by decide, by decide, by decide⟩
      ⟨900, 0, by decide, by decide⟩ [] ⟨"/x" ++ "|" ++ "/y", none⟩ =
      .ok (PresignHandler.signedUrl zeroMac ⟨"test"⟩ "2023-11-14T22:28:20+00:00" []
        ⟨"/x|/y", none⟩) ∧
    PresignHandler.verifySignUrl zeroMac ⟨"test"⟩
      ⟨(readSignedParams (PresignHandler.signedUrl zeroMac ⟨"test"⟩ "2023-11-14T22:28:20+00:00"
          [] ⟨"/x|/y", none⟩).queryPairs).signature, "/x",
        (readSignedParams (PresignHandler.signedUrl zeroMac ⟨"test"⟩ "2023-11-14T22:28:20+00:00"
          [] ⟨"/x|/y", none⟩).queryPairs).expiry ++ "|" ++
        (readSignedParams (PresignHandler.signedUrl zeroMac ⟨"test"⟩ "2023-11-14T22:28:20+00:00"
          [] ⟨"/x|/y", none⟩).queryPairs).salt⟩ "/y" = .ok true ∧
    "/y" ≠ "/x" ++ "|" ++ "/y" :=
  have hs : PresignHandler.signUrl zeroMac ⟨"test"⟩ ⟨1700000000, 0, by decide, by decide, by decide⟩
      ⟨900, 0, by decide, by decide⟩ [] ⟨"/x" ++ "|" ++ "/y", none⟩ =
      .ok (PresignHandler.signedUrl zeroMac ⟨"test"⟩ "2023-11-14T22:28:20+00:00" []
        ⟨"/x|/y", none⟩) := by
    rfl
  ⟨hs, signature_not_bound_to_path zeroMac ⟨"test"⟩ _ _ [] "/x" "/y" none _ hs⟩

end DataProxy
