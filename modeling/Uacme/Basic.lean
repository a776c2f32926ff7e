import Mathlib.Data.List.Infix

/-!
# Uacme.Basic — the data `uacme.c` works on

The driver's state `acme_t`, the values it receives from the code whose sources are not here
(JSON documents from json.c, transfers from curlwrap.c, JWS headers from crypto.c), and the world
one run of the process sees: the server's responses, the hook's exit statuses and the operator's
answers, in the order they come, together with the log of every interaction.  A function of the
driver is a function `Acme → α × Acme`; quantifying over the initial world quantifies over every
behaviour of the server, the hook and the operator.
-/

namespace Uacme

/-! ## C strings -/

/-- `tolower` over a string, as `strcasecmp` and `strcasestr` apply it (the C locale). -/
def lower (s : String) : List Char := s.data.map Char.toLower

/-- `strcasecmp(s, t) == 0`. -/
def caseEq (s t : String) : Bool := lower s == lower t

/-- `strcasestr(s, p) == s`: the first case-insensitive occurrence of `p` starts `s`. -/
def ciPrefix (p s : String) : Bool := (lower p).isPrefixOf (lower s)

/-- `strstr(t, "json") != NULL`. -/
def hasJson (t : String) : Bool := decide ("json".data <:+: t.data)

/-! ## JSON -/

/-- Modelled from the spec: json.c is not among the sources.  A parsed JSON value as the driver
inspects it: strings, arrays, objects with their members in document order, and the other
primitives (numbers, booleans, null), which it never looks into. -/
inductive Json
  | string (s : String)
  | array (vs : List Json)
  | object (ms : List (String × Json))
  | prim (s : String)

/-- Modelled from the spec: `json_find(v, key)`, the first member named `key` of an object; NULL
for a NULL or non-object `v`. -/
def jsonFind : Option Json → String → Option Json
  | some (.object ms), key => ms.lookup key
  | _, _ => none

/-- Modelled from the spec: `json_find_string(v, key)`, the member `key` when it is a string. -/
def jsonFindString (v : Option Json) (key : String) : Option String :=
  match jsonFind v key with
  | some (.string s) => some s
  | _ => none

/-- Modelled from the spec: `json_compare_string(v, key, s)`, `0` exactly when the member `key` is
the string `s` (the sign of a non-zero result is never read). -/
def jsonCompareString (v : Option Json) (key s : String) : Int :=
  match jsonFindString v key with
  | some t => if t = s then 0 else 1
  | none => -1

/-! ## What the process exchanges with the world -/

/-- `curldata_t`: a completed transfer, its HTTP status, raw header block and body. -/
structure CurlData where
  code : Nat
  headers : String
  body : String

/-- The JWS protected header `acme_post` asks crypto.c for: `jws_protected_jwk(nonce, url, key)`
or `jws_protected_kid(nonce, url, kid)`, by the fields the spec gives them. -/
inductive Protected
  | jwk (nonce url : String)
  | kid (nonce url kid : String)

/-- The nonce a protected header carries. -/
def Protected.nonce : Protected → String
  | .jwk n _ => n
  | .kid n _ _ => n

/-- One interaction of the process with the outside, as it is logged: a GET or a signed POST
(`curl_get`, `curl_post`) with the transfer it got (`none` when the call failed), a run of the
hook, an answer read by `scanf(" %c")` after the message that says what is asked, and a call
of `cert_save`. -/
inductive Event
  | get (url : String) (resp : Option CurlData)
  | post (url : String) (prot : Protected) (payload : String) (resp : Option CurlData)
  | hook (prog method type ident token auth : String) (ret : Int)
  | ask (prompt : String) (answer : Option Char)
  | save (body dir : String) (ok : Bool)

/-- What the rest of the world will do, in order, and what the process has done so far.  A
transfer list that runs out makes every further transfer fail; likewise a hook fails to spawn
(`-1`) and `scanf` meets end of file. -/
structure World where
  net : List (Option CurlData)
  hooks : List Int
  tty : List (Option Char)
  log : List Event

/-- `acme_t` without the keys (only crypto.c reads them) and without the fields `main` sets once
(those are `Config`), plus the world. -/
structure Acme where
  json : Option Json
  account : Option Json
  dir : Option Json
  order : Option Json
  nonce : Option String
  kid : Option String
  headers : String
  body : String
  type : String
  io : World

/-- The state `main` starts the driver in: `memset(&a, 0, sizeof(a))`. -/
def Acme.init (w : World) : Acme :=
  ⟨none, none, none, none, none, none, "", "", "", w⟩

/-- The fields of `acme_t` that `main` fills in before any request. -/
structure Config where
  directory : String
  hook : Option String
  email : Option String
  names : List String
  certdir : String

/-- `a->hook && strlen(a->hook) > 0`: the hook program, when one is configured. -/
def Config.hookProg (cfg : Config) : Option String :=
  match cfg.hook with
  | some h => if h = "" then none else some h
  | none => none

/-- `a->email && strlen(a->email) > 0`: the e-mail address, when one is given. -/
def Config.mail (cfg : Config) : Option String :=
  match cfg.email with
  | some e => if e = "" then none else some e
  | none => none

/-- The library code the driver calls whose sources are not here.  Each may fail, as the C
functions return NULL or false: `json_parse`, `jws_protected_*`, `jws_encode`, `jws_thumbprint`,
`sha256_base64url`, `csr_gen`, `cert_save` and `cert_der_base64url`. -/
structure Lib where
  jsonParse : String → Option Json
  jwsProtected : Protected → Option String
  jwsEncode : String → String → Option String
  jwsThumbprint : Option String
  sha256Base64url : String → Option String
  csrGen : Option String
  certSave : String → String → Bool
  certDerBase64url : String → Option String

end Uacme
