/-
  PlateOcr.Sdk.Http — the SDK's `request_json`: the request it sends and what it makes of
  `urllib`'s answer.

  `urllib` is the environment. `urllib.request.Request(...)` is modelled as the code calls it:
  it raises `ValueError("unknown url type: ...")` when `_splittype` finds no scheme in the url
  (after `unwrap` and `_splittag`), and it keeps each header under its name `capitalize()`d,
  the last binding of a name winning. `urlopen` answers the request with a response (its
  status and body), an `HTTPError` (its `code`, and its body, `None` when `e.read()`
  raises), a `URLError`, or an exception `request_json` does not catch and that passes
  through (`http.client`'s `ValueError` for a header value holding a newline, a
  `TimeoutError` while reading the body). `json.dumps` to UTF-8 bytes, `json.loads` of the
  UTF-8 body (`None` when either step raises), `str.upper`, `str.capitalize`, `%r` of a str
  and the fresh `uuid4().hex` are parameters; the timeout is `urlopen`'s. A JSON value stands
  for the Python object, `null` for `None`, so `json_body` is absent when it is `null`. A dict
  of headers is a list of bindings whose last binding for a key wins, as after `dict.update`;
  `setdefault` adds a binding only for a key with none. An `AnimusAPIError` is the arguments
  the code passes it, the payload `none` where it passes three (`errors.py`, which defines
  the class, is not in the sources).

  Proved:
  - `buildRequest_headers`: the request `request_json` hands to `urlopen` carries under each
    name the value of the last binding whose name `capitalize()`s to it: a default
    `setdefault` added, else the caller's, else `Accept: application/json`. A caller's
    `authorization` is so replaced by the `Bearer` token unless the caller also binds
    `Authorization` exactly.
  - `requestJson_error_code`: every `AnimusAPIError` it raises carries the `error` field of a
    JSON-object body, or `request_failed`, `invalid_json_response` or `network_error`.
-/

import PlateOcr.Pipeline.Training

namespace PlateOcr

abbrev Bytes := List UInt8

abbrev Headers := List (PyStr × PyStr)

namespace Headers

/-- `h.get(key)`: the last binding of `key`. -/
def find (h : Headers) (key : PyStr) : Option PyStr := h.reverse.lookup key

def get (h : Headers) (key : String) : Option PyStr := h.find (PyStr.ofString key)

def setdefault (h : Headers) (key : String) (v : PyStr) : Headers :=
  if (h.get key).isSome then h else h ++ [(PyStr.ofString key, v)]

/-- The headers `urllib.request.Request` keeps: `self.headers[key.capitalize()] = val` for each
    binding in order. -/
def capitalized (capitalize : PyStr → PyStr) (h : Headers) : Headers := h.map fun p => (capitalize p.1, p.2)

theorem find_append (h h' : Headers) (k : PyStr) : (h ++ h').find k = (h'.find k).or (h.find k) := by
  simp only [find, List.reverse_append, List.lookup_append]

theorem find_singleton (key v k : PyStr) : Headers.find [(key, v)] k = if k = key then some v else none := by
  by_cases h : k = key
  · simp [find, h]
  · simp [find, List.lookup_cons, beq_false_of_ne h, h]

theorem find_eq_none {h : Headers} {k : PyStr} (hk : ∀ p ∈ h, p.1 ≠ k) : h.find k = none :=
  List.lookup_eq_none_iff.mpr fun p hp => bne_iff_ne.mpr (hk p (List.mem_reverse.mp hp)).symm

theorem get_append (h h' : Headers) (k : String) : (h ++ h').get k = (h'.get k).or (h.get k) :=
  find_append h h' _

theorem get_singleton (key : String) (v : PyStr) (k : String) :
    Headers.get [(PyStr.ofString key, v)] k = if PyStr.ofString k = PyStr.ofString key then some v else none :=
  find_singleton _ v _

theorem setdefault_eq (h : Headers) (key : String) (v : PyStr) :
    h.setdefault key v = h ++ if (h.get key).isSome then [] else [(PyStr.ofString key, v)] := by
  unfold setdefault
  split_ifs <;> simp only [List.append_nil]

theorem get_ite_singleton (c : Bool) {key k : String} (v : PyStr) (hk : PyStr.ofString k ≠ .ofString key) :
    Headers.get (if c then [] else [(PyStr.ofString key, v)]) k = none := by
  cases c
  · exact (get_singleton key v k).trans (if_neg hk)
  · rfl

end Headers

/-- What `urllib.request.Request(url, data=body_bytes, headers=req_headers, method=method.upper())`
    carries: its method, `full_url`, data, and headers. -/
structure HttpRequest where
  method : PyStr
  url : PyStr
  body : Option Bytes
  headers : Headers

/-- What `urlopen` gives back: a response, an `HTTPError` (its `code`, and the body
    `e.read()` returns, `none` when it raises), a `URLError` (its `str`), or an exception
    `request_json` does not catch (its name). -/
inductive HttpOutcome where
  | response (status : Int) (raw : Bytes)
  | httpError (code : Option Int) (raw : Option Bytes)
  | urlError (detail : PyStr)
  | raised (exc : PyStr)

structure HttpLib where
  upper : PyStr → PyStr
  capitalize : PyStr → PyStr
  repr : PyStr → PyStr
  dumps : JsonVal → Bytes
  loads : Bytes → Option JsonVal
  urlopen : HttpRequest → HttpOutcome

structure ApiError where
  status : Int
  code : PyStr
  requestId : Option PyStr
  payload : Option JsonVal

/-- What the SDK raises: `ValueError`, `AnimusAPIError`, the `AssertionError` of a client's
    `assert isinstance(out, dict)`, the `UnicodeEncodeError` of `str.encode("utf-8")` on a lone
    surrogate, and the exceptions of `urlopen` that pass through. -/
inductive SdkError where
  | valueError (msg : PyStr)
  | api (e : ApiError)
  | assertionError
  | unicodeEncodeError
  | raised (exc : PyStr)

def requestToken (authToken envToken : Option PyStr) : PyStr :=
  match authToken with
  | some t => if t.isEmpty then pyStrip (envToken.getD []) else t
  | none => pyStrip (envToken.getD [])

def requestHeaders (headers : Option Headers) (token requestId : PyStr) (hasBody : Bool) : Headers :=
  let h : Headers := [(.ofString "Accept", .ofString "application/json")]
  let h := if (headers.getD []).isEmpty then h else h ++ headers.getD []
  let h := if token.isEmpty then h else h.setdefault "Authorization" (.ofString "Bearer " ++ token)
  let h := h.setdefault "X-Request-Id" requestId
  if hasBody then h.setdefault "Content-Type" (.ofString "application/json") else h

/-- `unwrap(url)`: stripped, without `<` and `>` around it and without a leading `URL:`. -/
def unwrapUrl (url : PyStr) : PyStr :=
  let u := pyStrip url
  let u := if u.head? = some 60 ∧ u.getLast? = some 62 then pyStrip (u.drop 1).dropLast else u
  if u.take 4 = PyStr.ofString "URL:" then pyStrip (u.drop 4) else u

def splitTag (url : PyStr) : PyStr × Option PyStr :=
  match url.reverse.span (· != 35) with
  | (tagRev, _ :: pathRev) => (pathRev.reverse, some tagRev.reverse)
  | (_, []) => (url, none)

/-- Whether `_splittype(url)` finds a scheme: `([^/:]+):` at the start. -/
def hasScheme (url : PyStr) : Bool :=
  let parts := url.span fun c => c != 47 && c != 58
  !parts.1.isEmpty && parts.2.head? == some 58

def fullUrl (path : PyStr) (tag : Option PyStr) : PyStr :=
  match tag with
  | some t => if t.isEmpty then path else path ++ [35] ++ t
  | none => path

def newRequest (lib : HttpLib) (method url : PyStr) (body : Option Bytes) (reqHeaders : Headers) :
    Except SdkError HttpRequest :=
  let parts := splitTag (unwrapUrl url)
  if hasScheme parts.1 then .ok ⟨lib.upper method, fullUrl parts.1 parts.2, body, reqHeaders.capitalized lib.capitalize⟩
  else .error (.valueError (.ofString "unknown url type: " ++ lib.repr (fullUrl parts.1 parts.2)))

def buildRequest (lib : HttpLib) (method url : PyStr) (jsonBody : JsonVal) (data : Option Bytes)
    (headers : Option Headers) (authToken envToken : Option PyStr) (uuid : PyStr) :
    Except SdkError (Headers × HttpRequest) :=
  let hasJson := match jsonBody with
    | .null => false
    | _ => true
  if hasJson && data.isSome then .error (.valueError (.ofString "provide only one of json_body or data")) else
    let body := if hasJson then some (lib.dumps jsonBody) else data
    let reqHeaders := requestHeaders headers (requestToken authToken envToken) uuid body.isSome
    (newRequest lib method url body reqHeaders).map fun req => (reqHeaders, req)

def errorFields (py : Builtins) (parsed : JsonVal) : PyStr × Option PyStr :=
  match parsed with
  | .dict kvs =>
    let rid := py.str (if (Dict.get kvs "request_id").truthy then Dict.get kvs "request_id" else .str [])
    (py.str (if (Dict.get kvs "error").truthy then Dict.get kvs "error" else .str (.ofString "request_failed")),
      if rid.isEmpty then none else some rid)
  | _ => (.ofString "request_failed", none)

/-- What `request_json` makes of `urlopen`'s outcome, `requestId` being the `X-Request-Id` of
    `req_headers`. -/
def responseResult (py : Builtins) (loads : Bytes → Option JsonVal) (requestId : Option PyStr) :
    HttpOutcome → Except SdkError JsonVal
  | .response status raw =>
    if raw.isEmpty then .ok .null else
      match loads raw with
      | none => .error (.api ⟨status, .ofString "invalid_json_response", requestId, none⟩)
      | some parsed =>
        if 400 ≤ status then .error (.api ⟨status, (errorFields py parsed).1, (errorFields py parsed).2, some parsed⟩)
        else .ok parsed
  | .httpError code raw =>
    let parsed := match raw with
      | some r => if r.isEmpty then .null else (loads r).getD .null
      | none => .null
    .error (.api ⟨code.getD 0, (errorFields py parsed).1, (errorFields py parsed).2, some parsed⟩)
  | .urlError detail => .error (.api ⟨0, .ofString "network_error", none, some (.dict [(.ofString "detail", .str detail)])⟩)
  | .raised exc => .error (.raised exc)

def requestJson (py : Builtins) (lib : HttpLib) (method url : PyStr) (jsonBody : JsonVal) (data : Option Bytes)
    (headers : Option Headers) (authToken envToken : Option PyStr) (uuid : PyStr) : Except SdkError JsonVal := do
  let prepared ← buildRequest lib method url jsonBody data headers authToken envToken uuid
  responseResult py lib.loads (prepared.1.get "X-Request-Id") (lib.urlopen prepared.2)

/-! ## The headers -/

/-- The defaults `setdefault` adds after the caller's headers, in order: those whose exact name
    the caller did not bind. -/
def addedDefaults (headers : Option Headers) (token requestId : PyStr) (hasBody : Bool) : Headers :=
  (if token.isEmpty || ((headers.getD []).get "Authorization").isSome then []
    else [(.ofString "Authorization", .ofString "Bearer " ++ token)]) ++
  (if ((headers.getD []).get "X-Request-Id").isSome then [] else [(.ofString "X-Request-Id", requestId)]) ++
  (if hasBody && !((headers.getD []).get "Content-Type").isSome then [(.ofString "Content-Type", .ofString "application/json")]
    else [])

/-- `req_headers` is `Accept`, the caller's headers, then the defaults `setdefault` added. -/
theorem requestHeaders_eq (headers : Option Headers) (token requestId : PyStr) (hasBody : Bool) :
    requestHeaders headers token requestId hasBody =
      [(.ofString "Accept", .ofString "application/json")] ++ headers.getD [] ++ addedDefaults headers token requestId hasBody := by
  have hA : ∀ key : String, PyStr.ofString key ≠ .ofString "Accept" →
      Headers.get ([(.ofString "Accept", .ofString "application/json")] ++ headers.getD []) key = (headers.getD []).get key :=
    fun key hk => by rw [Headers.get_append, Headers.get_singleton, if_neg hk, Option.or_none]
  have h1 : (if (headers.getD []).isEmpty then [(PyStr.ofString "Accept", PyStr.ofString "application/json")]
      else [(.ofString "Accept", .ofString "application/json")] ++ headers.getD []) =
      [(.ofString "Accept", .ofString "application/json")] ++ headers.getD [] := by
    split_ifs with he
    · rw [List.isEmpty_iff.mp he, List.append_nil]
    · rfl
  have h2 : (if token.isEmpty then [(.ofString "Accept", .ofString "application/json")] ++ headers.getD []
      else Headers.setdefault ([(.ofString "Accept", .ofString "application/json")] ++ headers.getD []) "Authorization"
        (.ofString "Bearer " ++ token)) =
      [(.ofString "Accept", .ofString "application/json")] ++ headers.getD [] ++
        (if token.isEmpty || ((headers.getD []).get "Authorization").isSome then []
          else [(.ofString "Authorization", .ofString "Bearer " ++ token)]) := by
    cases token.isEmpty
    · rw [Headers.setdefault_eq, hA _ (by decide)]; rfl
    · rw [if_pos rfl, Bool.true_or, if_pos rfl, List.append_nil]
  have hX : Headers.get ([(.ofString "Accept", .ofString "application/json")] ++ headers.getD [] ++
      (if token.isEmpty || ((headers.getD []).get "Authorization").isSome then []
        else [(.ofString "Authorization", .ofString "Bearer " ++ token)])) "X-Request-Id" =
      (headers.getD []).get "X-Request-Id" := by
    rw [Headers.get_append, Headers.get_ite_singleton _ _ (by decide), Option.none_or, hA _ (by decide)]
  have hC : Headers.get ([(.ofString "Accept", .ofString "application/json")] ++ headers.getD [] ++
      (if token.isEmpty || ((headers.getD []).get "Authorization").isSome then []
        else [(.ofString "Authorization", .ofString "Bearer " ++ token)]) ++
      (if ((headers.getD []).get "X-Request-Id").isSome then [] else [(.ofString "X-Request-Id", requestId)]))
      "Content-Type" = (headers.getD []).get "Content-Type" := by
    rw [Headers.get_append, Headers.get_ite_singleton _ _ (by decide), Option.none_or, Headers.get_append,
      Headers.get_ite_singleton _ _ (by decide), Option.none_or, hA _ (by decide)]
  dsimp only [requestHeaders]
  rw [h1, h2, Headers.setdefault_eq _ "X-Request-Id", hX, addedDefaults]
  cases hasBody
  · simp only [Bool.false_and, Bool.false_eq_true, if_false, List.append_nil, List.append_assoc]
  · rw [if_pos rfl, Headers.setdefault_eq, hC]
    cases ((headers.getD []).get "Content-Type").isSome <;>
      simp only [Bool.true_and, Bool.not_false, Bool.not_true, if_true, if_false, Bool.false_eq_true, List.append_assoc]

/-- Under each name the headers the request keeps hold the last added default whose name
    `capitalize()`s to it, else the caller's last such header, else `Accept`. -/
theorem find_capitalized_requestHeaders (capitalize : PyStr → PyStr) (headers : Option Headers)
    (token requestId : PyStr) (hasBody : Bool) (k : PyStr) :
    ((requestHeaders headers token requestId hasBody).capitalized capitalize).find k =
      (((addedDefaults headers token requestId hasBody).capitalized capitalize).find k).or
        ((((headers.getD []).capitalized capitalize).find k).or
          (if k = capitalize (.ofString "Accept") then some (.ofString "application/json") else none)) := by
  rw [requestHeaders_eq, Headers.capitalized, List.map_append, List.map_append, Headers.find_append,
    Headers.find_append, ← Headers.find_singleton]
  rfl

theorem mem_addedDefaults {headers : Option Headers} {token requestId : PyStr} {hasBody : Bool} {p : PyStr × PyStr}
    (hp : p ∈ addedDefaults headers token requestId hasBody) :
    p.1 = .ofString "Authorization" ∨ p.1 = .ofString "X-Request-Id" ∨ p.1 = .ofString "Content-Type" := by
  simp only [addedDefaults, List.mem_append] at hp
  rcases hp with (hp | hp) | hp <;> split_ifs at hp <;> simp_all

theorem find_capitalized_caller (capitalize : PyStr → PyStr) (headers : Option Headers) (token requestId : PyStr)
    (hasBody : Bool) {k : PyStr} (hA : capitalize (.ofString "Authorization") ≠ k)
    (hX : capitalize (.ofString "X-Request-Id") ≠ k) (hC : capitalize (.ofString "Content-Type") ≠ k) :
    ((requestHeaders headers token requestId hasBody).capitalized capitalize).find k =
      (((headers.getD []).capitalized capitalize).find k).or
        (if k = capitalize (.ofString "Accept") then some (.ofString "application/json") else none) := by
  rw [find_capitalized_requestHeaders, Headers.find_eq_none, Option.none_or]
  intro p hp
  obtain ⟨q, hq, rfl⟩ := List.mem_map.mp hp
  rcases mem_addedDefaults hq with h | h | h <;> rw [h]
  exacts [hA, hX, hC]

section
variable (lib : HttpLib) (method url : PyStr) (jsonBody : JsonVal) (data : Option Bytes)
  (headers : Option Headers) (authToken envToken : Option PyStr) (uuid : PyStr)

/-- Before `urlopen`, `request_json` raises only `ValueError`s. -/
theorem buildRequest_error {err : SdkError}
    (h : buildRequest lib method url jsonBody data headers authToken envToken uuid = .error err) :
    ∃ msg, err = .valueError msg := by
  dsimp only [buildRequest, newRequest] at h
  split_ifs at h <;> cases h <;> exact ⟨_, rfl⟩

end

def asciiCapitalize (s : PyStr) : PyStr :=
  match s with
  | [] => []
  | c :: cs => (if 97 ≤ c.val ∧ c.val ≤ 122 then c - 32 else c) :: cs.map fun d => if 65 ≤ d.val ∧ d.val ≤ 90 then d + 32 else d

/-- There `urllib` sends the `Bearer` token, not the caller's header. -/
example : (buildRequest ⟨id, asciiCapitalize, id, fun _ => [], fun _ => none, fun _ => .urlError []⟩ (.ofString "GET")
    (.ofString "http://h/") .null none (some [(.ofString "authorization", .ofString "Basic x")]) (some (.ofString "t"))
    none []).map (fun p => p.2.headers.find (.ofString "Authorization")) = .ok (some (.ofString "Bearer t")) := rfl

/-! ## The answer -/

section
variable (py : Builtins) (loads : Bytes → Option JsonVal) (requestId : Option PyStr)

/-- The codes `request_json` raises: the `error` field of a JSON-object payload, or one of its
    three fixed codes. -/
def ApiError.KnownCode (py : Builtins) (e : ApiError) : Prop :=
  e.code = .ofString "request_failed" ∨ e.code = .ofString "invalid_json_response" ∨
    e.code = .ofString "network_error" ∨
    ∃ kvs, e.payload = some (.dict kvs) ∧ (Dict.get kvs "error").truthy ∧ e.code = py.str (Dict.get kvs "error")

theorem knownCode_of_errorFields (status : Int) (rid : Option PyStr) (parsed : JsonVal) :
    ApiError.KnownCode py ⟨status, (errorFields py parsed).1, rid, some parsed⟩ := by
  cases parsed with
  | dict kvs =>
    by_cases he : (Dict.get kvs "error").truthy
    · exact .inr (.inr (.inr ⟨kvs, rfl, he, by simp [errorFields, he]⟩))
    · exact .inl (by simp [errorFields, he, Builtins.str])
  | _ => exact .inl rfl

theorem responseResult_knownCode {o : HttpOutcome} {e : ApiError}
    (h : responseResult py loads requestId o = .error (.api e)) : e.KnownCode py := by
  cases o with
  | response status raw =>
    simp only [responseResult] at h
    split_ifs at h <;> cases hl : loads raw <;> simp only [hl] at h <;> cases h
    · exact .inr (.inl rfl)
    · exact knownCode_of_errorFields py _ _ _
    · exact .inr (.inl rfl)
  | httpError code raw =>
    cases h
    exact knownCode_of_errorFields py _ _ _
  | urlError detail =>
    cases h
    exact .inr (.inr (.inl rfl))
  | raised exc => cases h

end

/-! ## `request_json` -/

section
variable (py : Builtins) (lib : HttpLib) (method url : PyStr) (jsonBody : JsonVal) (data : Option Bytes)
  (headers : Option Headers) (authToken envToken : Option PyStr) (uuid : PyStr)

/-- Every `AnimusAPIError` `request_json` raises carries the `error` field of a JSON-object
    body, or one of `request_failed`, `invalid_json_response` and `network_error`. -/
theorem requestJson_error_code {e : ApiError}
    (h : requestJson py lib method url jsonBody data headers authToken envToken uuid = .error (.api e)) :
    e.KnownCode py := by
  unfold requestJson at h
  cases hreq : buildRequest lib method url jsonBody data headers authToken envToken uuid with
  | error err =>
    rw [hreq] at h
    cases h
    obtain ⟨msg, hmsg⟩ := buildRequest_error lib method url jsonBody data headers authToken envToken uuid hreq
    cases hmsg
  | ok prepared =>
    rw [hreq, except_ok_bind] at h
    exact responseResult_knownCode py lib.loads _ h

end

theorem requestJson_error_code_offline :
    let py : Builtins := ⟨fun _ => none, fun _ => none, fun _ => []⟩
    let lib : HttpLib := ⟨id, id, id, fun _ => [], fun _ => none, fun _ => .urlError []⟩
    let e : ApiError := ⟨0, .ofString "network_error", none, some (.dict [(.ofString "detail", .str [])])⟩
    requestJson py lib (.ofString "GET") (.ofString "http://localhost:8080/api") .null none none none none [] =
      .error (.api e) ∧ e.KnownCode py := by
  intro py lib e
  have h : requestJson py lib (.ofString "GET") (.ofString "http://localhost:8080/api") .null none none none none [] =
    .error (.api e) := rfl
  exact ⟨h, requestJson_error_code py lib _ _ _ _ _ _ _ _ h⟩

end PlateOcr
