/-
  PlateOcr.Sdk.Experiments — `compute_ci_webhook_signature` and
  `ExperimentsClient.post_ci_webhook`: the signed webhook request the client sends.

  SHA-256, HMAC-SHA256 and URL-safe base64 are `hashlib`'s, `hmac`'s and `base64`'s:
  parameters (`Crypto`). `hexdigest()` spells the digest in lower-case hex, and
  `str.encode("utf-8")` is UTF-8, raising `UnicodeEncodeError` on a lone surrogate, a code
  point of `D800..DFFF` that a Python `str` may hold. A client is the two fields `__init__`
  leaves, `_gateway_url` and `_auth_token`; the clock gives
  `str(int(datetime.now(tz=timezone.utc).timestamp()))`. `json.dumps(payload,
  separators=(",", ":"), sort_keys=True).encode("utf-8")` is the same `dumps` that
  `request_json` uses for a JSON body.

  Proved:
  - `postCiWebhook_signed`: for every payload, secret not blank after `strip()`, timestamp,
    client whose url `urllib` accepts, and `capitalize` that keeps the five header names
    the request may carry apart: when neither the secret nor the timestamp holds a lone
    surrogate, `post_ci_webhook` sends one request, whose body is the dumped payload and
    whose `X-Animus-CI-Sig` header is `compute_ci_webhook_signature` of the secret, of its
    own `X-Animus-CI-Ts` header, of `POST` and of that body, so a server that recomputes
    the signature from the request it receives gets the header back; it returns what
    `request_json` makes of the answer, when that is a JSON object. Otherwise it raises
    `UnicodeEncodeError` and sends nothing.
-/

import PlateOcr.Sdk.Http

namespace PlateOcr

/-- The library functions the signature is made of: the SHA-256 digest, HMAC-SHA256 of a key
    and a message, and URL-safe base64. -/
structure Crypto where
  sha256 : Bytes → Bytes
  hmacSha256 : Bytes → Bytes → Bytes
  b64url : Bytes → PyStr

def hexDigit (n : Nat) : CodePoint := if n < 10 then Fin.ofNat (48 + n) else Fin.ofNat (87 + n)

def hexdigest (b : Bytes) : PyStr := b.flatMap fun x => [hexDigit (x.toNat / 16), hexDigit (x.toNat % 16)]

/-- A code point UTF-8 cannot encode: a lone surrogate. -/
def isSurrogate (c : CodePoint) : Bool := 0xD800 ≤ c.val && c.val ≤ 0xDFFF

def utf8Bytes (c : CodePoint) : Bytes :=
  let n := c.val
  if n < 0x80 then [n.toUInt8]
  else if n < 0x800 then [(0xC0 + n / 0x40).toUInt8, (0x80 + n % 0x40).toUInt8]
  else if n < 0x10000 then [(0xE0 + n / 0x1000).toUInt8, (0x80 + n / 0x40 % 0x40).toUInt8, (0x80 + n % 0x40).toUInt8]
  else [(0xF0 + n / 0x40000).toUInt8, (0x80 + n / 0x1000 % 0x40).toUInt8, (0x80 + n / 0x40 % 0x40).toUInt8,
    (0x80 + n % 0x40).toUInt8]

def encodeUtf8 (s : PyStr) : Except SdkError Bytes :=
  if s.any isSurrogate then .error .unicodeEncodeError else .ok (s.flatMap utf8Bytes)

def computeCiWebhookSignature (c : Crypto) (upper : PyStr → PyStr) (secret ts method : PyStr) (body : Bytes) :
    Except SdkError PyStr := do
  let bodyHash := hexdigest (c.sha256 body)
  let msg := pyStrip ts ++ .ofString "\n" ++ upper (pyStrip method) ++ .ofString "\n" ++ bodyHash
  let key ← encodeUtf8 secret
  let mac := c.hmacSha256 key (← encodeUtf8 msg)
  pure ((c.b64url mac).rdropWhile (· == (61 : CodePoint)))

structure ExperimentsClient where
  gatewayUrl : PyStr
  authToken : Option PyStr

/-- `a or b or ""` on optional strings. -/
def orElseStr (a b : Option PyStr) : PyStr :=
  match a with
  | some s => if s.isEmpty then b.getD [] else s
  | none => b.getD []

def ExperimentsClient.create (gatewayUrl envUrl authToken envToken : Option PyStr) : ExperimentsClient :=
  let base := pyStrip (orElseStr gatewayUrl (some (orElseStr envUrl (some (.ofString "http://localhost:8080")))))
  let token := pyStrip (orElseStr authToken envToken)
  ⟨base.rdropWhile (· == (47 : CodePoint)), if token.isEmpty then none else some token⟩

def webhookSecret (ciSecret envSecret : Option PyStr) : PyStr := pyStrip (orElseStr ciSecret envSecret)

def webhookHeaders (tsValue sig : PyStr) : Headers :=
  [(.ofString "X-Animus-CI-Ts", tsValue), (.ofString "X-Animus-CI-Sig", sig)]

def assertDict (out : JsonVal) : Except SdkError JsonVal :=
  match out with
  | .dict _ => .ok out
  | _ => .error .assertionError

/-- `ExperimentsClient.post_ci_webhook(payload=..., ci_secret=..., ts=...)`, with
    `ANIMUS_CI_WEBHOOK_SECRET` as `envSecret`, the clock's `now`, `ANIMUS_AUTH_TOKEN` as
    `envToken` and the fresh `uuid4().hex`. -/
def ExperimentsClient.postCiWebhook (client : ExperimentsClient) (py : Builtins) (lib : HttpLib) (c : Crypto)
    (payload : JsonVal) (ciSecret envSecret ts : Option PyStr) (now : PyStr) (envToken : Option PyStr) (uuid : PyStr) :
    Except SdkError JsonVal :=
  let secret := webhookSecret ciSecret envSecret
  if secret.isEmpty then .error (.valueError (.ofString "ci_secret is required (or set ANIMUS_CI_WEBHOOK_SECRET)")) else do
    let tsValue := pyStrip (orElseStr ts (some now))
    let body := lib.dumps payload
    let sig ← computeCiWebhookSignature c lib.upper secret tsValue (.ofString "POST") body
    let url := client.gatewayUrl ++ .ofString "/api/experiments/ci/webhook"
    requestJson py lib (.ofString "POST") url .null (some body) (some (webhookHeaders tsValue sig))
      client.authToken envToken uuid >>= assertDict

/-! ## The signature -/

theorem hexdigest_no_surrogate (b : Bytes) : (hexdigest b).any isSurrogate = false := by
  have hdigit : ∀ n, n < 16 → isSurrogate (hexDigit n) = false := fun n hn => by
    unfold hexDigit isSurrogate
    split_ifs <;> simp [Fin.ofNat] <;> omega
  simp only [hexdigest, List.any_eq_false, List.mem_flatMap, List.mem_cons, List.mem_singleton, List.not_mem_nil,
    or_false]
  rintro _ ⟨x, -, rfl | rfl⟩
  · exact Bool.eq_false_iff.mp (hdigit _ (Nat.div_lt_of_lt_mul (UInt8.toNat_lt_size x)))
  · exact Bool.eq_false_iff.mp (hdigit _ (Nat.mod_lt _ (by decide)))

/-- The signature of a stripped timestamp and `POST`, `str.upper` leaving `POST` as it is: the
    URL-safe base64 of the HMAC of the secret over `ts`, `POST` and the body's hash, one to a
    line, without its `=` padding; `UnicodeEncodeError` when the secret or the timestamp holds
    a lone surrogate. -/
theorem computeCiWebhookSignature_post (c : Crypto) {upper : PyStr → PyStr}
    (hupper : upper (.ofString "POST") = .ofString "POST") (secret : PyStr) {t : PyStr} (ht : pyStrip t = t)
    (body : Bytes) :
    computeCiWebhookSignature c upper secret t (.ofString "POST") body =
      if secret.any isSurrogate || t.any isSurrogate then .error .unicodeEncodeError
      else .ok ((c.b64url (c.hmacSha256 (secret.flatMap utf8Bytes)
        ((t ++ .ofString "\n" ++ .ofString "POST" ++ .ofString "\n" ++ hexdigest (c.sha256 body)).flatMap utf8Bytes))).rdropWhile
          (· == (61 : CodePoint))) := by
  have hpost : pyStrip (.ofString "POST") = .ofString "POST" := by decide
  have hmsg : (t ++ .ofString "\n" ++ .ofString "POST" ++ .ofString "\n" ++ hexdigest (c.sha256 body)).any isSurrogate =
      t.any isSurrogate := by
    have hnl : (PyStr.ofString "\n").any isSurrogate = false := by decide
    have hp : (PyStr.ofString "POST").any isSurrogate = false := by decide
    simp only [List.any_append, hexdigest_no_surrogate, hnl, hp, Bool.or_false]
  simp only [computeCiWebhookSignature, ht, hpost, hupper, encodeUtf8, hmsg]
  cases secret.any isSurrogate <;> cases t.any isSurrogate <;> rfl

/-! ## The request -/

theorem find_webhookHeaders (capitalize : PyStr → PyStr) (tsValue sig k : PyStr) :
    ((webhookHeaders tsValue sig).capitalized capitalize).find k =
      if k = capitalize (.ofString "X-Animus-CI-Sig") then some sig
      else if k = capitalize (.ofString "X-Animus-CI-Ts") then some tsValue else none := by
  show Headers.find ([(capitalize (.ofString "X-Animus-CI-Ts"), tsValue)] ++
    [(capitalize (.ofString "X-Animus-CI-Sig"), sig)]) k = _
  rw [Headers.find_append, Headers.find_singleton, Headers.find_singleton]
  split_ifs <;> rfl

section
variable (client : ExperimentsClient) (py : Builtins) (lib : HttpLib) (c : Crypto) (payload : JsonVal)
  (ciSecret envSecret ts : Option PyStr) (now : PyStr) (envToken : Option PyStr) (uuid : PyStr)

/-- For every payload, secret that is not blank, timestamp, client whose url `urllib`
    accepts and `capitalize` that keeps the header names apart: when neither the secret nor
    the timestamp holds a lone surrogate, `post_ci_webhook` sends one request, which carries
    the dumped payload and an `X-Animus-CI-Sig` header that is the signature of the secret,
    its own `X-Animus-CI-Ts` header, `POST` and that body, and it returns what `request_json`
    makes of the answer, checked to be a JSON object; otherwise it raises
    `UnicodeEncodeError` before sending. -/
theorem postCiWebhook_signed (hs : (webhookSecret ciSecret envSecret).isEmpty = false)
    (hupper : lib.upper (.ofString "POST") = .ofString "POST")
    (hcap : (["X-Animus-CI-Ts", "X-Animus-CI-Sig", "Authorization", "X-Request-Id", "Content-Type"].map
      fun k => lib.capitalize (.ofString k)).Nodup)
    (hurl : hasScheme (splitTag (unwrapUrl (client.gatewayUrl ++ .ofString "/api/experiments/ci/webhook"))).1) :
    ((webhookSecret ciSecret envSecret).any isSurrogate = false →
      (pyStrip (orElseStr ts (some now))).any isSurrogate = false →
      ∃ (req : HttpRequest) (t sig : PyStr), req.method = .ofString "POST" ∧ req.body = some (lib.dumps payload) ∧
        req.headers.find (lib.capitalize (.ofString "X-Animus-CI-Ts")) = some t ∧
        req.headers.find (lib.capitalize (.ofString "X-Animus-CI-Sig")) = some sig ∧
        computeCiWebhookSignature c lib.upper (webhookSecret ciSecret envSecret) t (.ofString "POST")
          (lib.dumps payload) = .ok sig ∧
        client.postCiWebhook py lib c payload ciSecret envSecret ts now envToken uuid =
          (responseResult py lib.loads (some uuid) (lib.urlopen req) >>= assertDict)) ∧
    ((webhookSecret ciSecret envSecret).any isSurrogate || (pyStrip (orElseStr ts (some now))).any isSurrogate →
      client.postCiWebhook py lib c payload ciSecret envSecret ts now envToken uuid = .error .unicodeEncodeError) := by
  have hpost := computeCiWebhookSignature_post c hupper (webhookSecret ciSecret envSecret)
    (pyStrip_pyStrip (orElseStr ts (some now))) (lib.dumps payload)
  refine ⟨fun h1 h2 => ?_, fun h => ?_⟩
  · set t := pyStrip (orElseStr ts (some now))
    obtain ⟨sig, hsig⟩ : ∃ sig, computeCiWebhookSignature c lib.upper (webhookSecret ciSecret envSecret) t
        (.ofString "POST") (lib.dumps payload) = .ok sig := ⟨_, by rw [hpost, h1, h2, Bool.or_false, if_neg Bool.false_ne_true]⟩
    simp only [List.map_cons, List.map_nil, List.nodup_cons, List.mem_cons, List.mem_singleton, List.not_mem_nil,
      or_false, not_or] at hcap
    obtain ⟨⟨hTsSig, hTsA, hTsX, hTsC⟩, ⟨hSigA, hSigX, hSigC⟩, -⟩ := hcap
    have hrid : (requestHeaders (some (webhookHeaders t sig)) (requestToken client.authToken envToken) uuid true).get
        "X-Request-Id" = some uuid := by
      rw [requestHeaders_eq, addedDefaults]
      cases (requestToken client.authToken envToken).isEmpty <;> rfl
    refine ⟨⟨lib.upper (.ofString "POST"), fullUrl (splitTag (unwrapUrl (client.gatewayUrl ++ .ofString "/api/experiments/ci/webhook"))).1
      (splitTag (unwrapUrl (client.gatewayUrl ++ .ofString "/api/experiments/ci/webhook"))).2, some (lib.dumps payload),
      (requestHeaders (some (webhookHeaders t sig)) (requestToken client.authToken envToken) uuid true).capitalized
        lib.capitalize⟩, t, sig, hupper, rfl, ?_, ?_, hsig, ?_⟩
    · rw [find_capitalized_caller _ _ _ _ _ (Ne.symm hTsA) (Ne.symm hTsX) (Ne.symm hTsC), Option.getD_some,
        find_webhookHeaders, if_neg hTsSig, if_pos rfl, Option.or_some]
    · rw [find_capitalized_caller _ _ _ _ _ (Ne.symm hSigA) (Ne.symm hSigX) (Ne.symm hSigC), Option.getD_some,
        find_webhookHeaders, if_pos rfl, Option.or_some]
    · simp only [ExperimentsClient.postCiWebhook, hs, Bool.false_eq_true, if_false, hsig, except_ok_bind, requestJson,
        buildRequest, newRequest, hurl, if_true, Bool.false_and, Option.isSome_some]
      rw [← hrid]
      rfl
  · rw [h, if_pos rfl] at hpost
    simp only [ExperimentsClient.postCiWebhook, hs, Bool.false_eq_true, if_false, hpost]
    rfl

end

/-- A request signed with secret `s` at time `1700000000`, under ASCII `capitalize`. -/
theorem postCiWebhook_signed_given :
    let py : Builtins := ⟨fun _ => none, fun _ => none, fun _ => []⟩
    let lib : HttpLib := ⟨id, asciiCapitalize, id, fun _ => [], fun _ => none, fun _ => .response 200 []⟩
    let c : Crypto := ⟨fun _ => [], fun _ m => m, fun _ => []⟩
    let client : ExperimentsClient := ⟨.ofString "http://localhost:8080", none⟩
    (webhookSecret (some (.ofString "s")) none).isEmpty = false ∧ lib.upper (.ofString "POST") = .ofString "POST" ∧
      (["X-Animus-CI-Ts", "X-Animus-CI-Sig", "Authorization", "X-Request-Id", "Content-Type"].map
        fun k => lib.capitalize (.ofString k)).Nodup ∧
      hasScheme (splitTag (unwrapUrl (client.gatewayUrl ++ .ofString "/api/experiments/ci/webhook"))).1 ∧
      ∃ (req : HttpRequest) (t sig : PyStr), req.method = .ofString "POST" ∧ req.body = some (lib.dumps (.dict [])) ∧
        req.headers.find (lib.capitalize (.ofString "X-Animus-CI-Ts")) = some t ∧
        req.headers.find (lib.capitalize (.ofString "X-Animus-CI-Sig")) = some sig ∧
        computeCiWebhookSignature c lib.upper (webhookSecret (some (.ofString "s")) none) t (.ofString "POST")
          (lib.dumps (.dict [])) = .ok sig ∧
        client.postCiWebhook py lib c (.dict []) (some (.ofString "s")) none (some (.ofString "1700000000"))
            (.ofString "0") none [] =
          (responseResult py lib.loads (some []) (lib.urlopen req) >>= assertDict) := by
  intro py lib c client
  have hs : (webhookSecret (some (.ofString "s")) none).isEmpty = false := by decide
  have hupper : lib.upper (.ofString "POST") = .ofString "POST" := rfl
  have hcap : (["X-Animus-CI-Ts", "X-Animus-CI-Sig", "Authorization", "X-Request-Id", "Content-Type"].map
      fun k => lib.capitalize (.ofString k)).Nodup := by decide
  have hurl : hasScheme (splitTag (unwrapUrl (client.gatewayUrl ++ .ofString "/api/experiments/ci/webhook"))).1 := by
    decide
  exact ⟨hs, hupper, hcap, hurl, (postCiWebhook_signed client py lib c (.dict []) (some (.ofString "s")) none
    (some (.ofString "1700000000")) (.ofString "0") none [] hs hupper hcap hurl).1 (by decide) (by decide)⟩

end PlateOcr
