import Uacme.Header

/-!
# Uacme.Transport — `acme_get`, `acme_post`, `acme_error`, `hook_run`

The primitives every driver function is built from.  `acme_get` and `acme_post` share their
tail (`Acme.exchange`): the world's next transfer is logged with the request, a failed call
returns `0` and keeps the old nonce, a completed one replaces the nonce by the response's
`Replay-Nonce` (NULL when it has none) and returns the HTTP status.  `acme_post` sends nothing
and returns `0` when it holds no nonce, has no URL, or cannot build the JWS.

`asprintf`, `strdup` and `vasprintf` are taken to succeed; their failure paths are not modelled.
-/

namespace Uacme

/-- The world's next transfer: `none` (the call failed) once the list has run out. -/
def World.next (w : World) : Option CurlData := w.net.head?.join

/-- `acme_get`/`acme_post` free `a->json`, `a->headers`, `a->body` and `a->type` first; on
every way out the last three are `""` unless a transfer filled them. -/
def Acme.clear (a : Acme) : Acme := { a with json := none, headers := "", body := "", type := "" }

/-- The world after a transfer logged as `ev`: the transfer is used up and `ev` is logged. -/
def Acme.sent (a : Acme) (ev : Event) : Acme :=
  { a with io := { a.io with net := a.io.net.tail, log := a.io.log ++ [ev] } }

/-- The world after a non-network interaction `ev`. -/
def Acme.logged (a : Acme) (ev : Event) : Acme :=
  { a with io := { a.io with log := a.io.log ++ [ev] } }

section Transport

variable (lib : Lib)

/-- What `acme_get`/`acme_post` keep of a completed transfer `c`: the `Replay-Nonce` (replacing
the old nonce, by NULL when there is none), the content type, the body parsed as JSON when the
type names json, and the raw header block and body. -/
def Acme.receive (a : Acme) (c : CurlData) : Acme :=
  let type := findHeader c.headers "Content-Type"
  { a with
    nonce := findHeader c.headers "Replay-Nonce"
    type := type.getD ""
    json := if (type.map hasJson).getD false then lib.jsonParse c.body else none
    headers := c.headers
    body := c.body }

/-- The transfer of `acme_get`/`acme_post`, logged as `ev c`: `0` when `curl_get`/`curl_post`
failed, else the HTTP status with the response taken in. -/
def Acme.exchange (a : Acme) (ev : Option CurlData → Event) : Nat × Acme :=
  match a.io.next with
  | none => (0, a.sent (ev none))
  | some c => (c.code, (a.sent (ev (some c))).receive lib c)

/-- `acme_get(a, url)`. -/
def acmeGet (a : Acme) (url : String) : Nat × Acme :=
  a.clear.exchange lib (.get url)

/-- The protected header of `acme_post`: `kid` when `a->kid` is a non-empty string, `jwk`
otherwise. -/
def protectedFor (kid : Option String) (nonce url : String) : Protected :=
  match kid with
  | some k => if k = "" then .jwk nonce url else .kid nonce url k
  | none => .jwk nonce url

/-- `acme_post(a, url, payload)`. -/
def acmePost (a : Acme) (url : Option String) (payload : String) : Nat × Acme :=
  match a.nonce, url with
  | some n, some u =>
    match lib.jwsProtected (protectedFor a.kid n u) with
    | none => (0, a.clear)
    | some p =>
      match lib.jwsEncode p payload with
      | none => (0, a.clear)
      | some _ => a.clear.exchange lib (.post u (protectedFor a.kid n u) payload)
  | _, _ => (0, a.clear)

end Transport

/-- What `acme_error` reads of the last response, its JSON and its content type: it is a problem
document, by its content type or by an `error` object in its body. -/
def problemDoc (json : Option Json) (type : String) : Bool :=
  match json with
  | none => false
  | some j =>
    caseEq type "application/problem+json" ||
      match jsonFind (some j) "error" with
      | some (.object _) => true
      | _ => false

/-- `acme_error(a)`. -/
def acmeError (a : Acme) : Bool := problemDoc a.json a.type

/-- The pattern `if (code != acme_post(a, url, …)) fail; else if (acme_error(a)) fail;` that
most requests of the driver follow. -/
def postExpect (lib : Lib) (code : Nat) (a : Acme) (url : Option String) (payload : String) :
    Bool × Acme :=
  let (r, a) := acmePost lib a url payload
  (r == code && !acmeError a, a)

/-- `hook_run(prog, method, type, ident, token, auth)`: the hook's exit status, `-1` when it
could not be run. -/
def hookRun (a : Acme) (prog method type ident token auth : String) : Int × Acme :=
  (a.io.hooks.headD (-1),
    { a.logged (.hook prog method type ident token auth (a.io.hooks.headD (-1))) with
      io.hooks := a.io.hooks.tail })

/-- `msg(0, prompt)`, then `scanf(" %c", &c)`: the character read, `none` at end of input. -/
def ask (a : Acme) (prompt : String) : Option Char × Acme :=
  (a.io.tty.head?.join,
    { a.logged (.ask prompt a.io.tty.head?.join) with io.tty := a.io.tty.tail })

/-- `scanf(" %c", &c) == 1 && tolower(c) == 'y'`. -/
def agreed : Option Char → Bool
  | some c => c.toLower = 'y'
  | none => false

/-- `cert_save(body, dir)`. -/
def certSave (lib : Lib) (a : Acme) (body dir : String) : Bool × Acme :=
  (lib.certSave body dir, a.logged (.save body dir (lib.certSave body dir)))

/-! ## Spec lemmas -/

section Spec

variable {lib : Lib}

@[simp] theorem clear_nonce (a : Acme) : a.clear.nonce = a.nonce := rfl
@[simp] theorem clear_kid (a : Acme) : a.clear.kid = a.kid := rfl
@[simp] theorem clear_io (a : Acme) : a.clear.io = a.io := rfl
@[simp] theorem clear_dir (a : Acme) : a.clear.dir = a.dir := rfl
@[simp] theorem clear_order (a : Acme) : a.clear.order = a.order := rfl
@[simp] theorem clear_account (a : Acme) : a.clear.account = a.account := rfl
@[simp] theorem sent_nonce (a : Acme) (ev : Event) : (a.sent ev).nonce = a.nonce := rfl
@[simp] theorem sent_kid (a : Acme) (ev : Event) : (a.sent ev).kid = a.kid := rfl
@[simp] theorem sent_log (a : Acme) (ev : Event) : (a.sent ev).io.log = a.io.log ++ [ev] := rfl
@[simp] theorem sent_net (a : Acme) (ev : Event) : (a.sent ev).io.net = a.io.net.tail := rfl
@[simp] theorem sent_dir (a : Acme) (ev : Event) : (a.sent ev).dir = a.dir := rfl
@[simp] theorem sent_order (a : Acme) (ev : Event) : (a.sent ev).order = a.order := rfl
@[simp] theorem sent_account (a : Acme) (ev : Event) : (a.sent ev).account = a.account := rfl
@[simp] theorem logged_nonce (a : Acme) (ev : Event) : (a.logged ev).nonce = a.nonce := rfl
@[simp] theorem logged_kid (a : Acme) (ev : Event) : (a.logged ev).kid = a.kid := rfl
@[simp] theorem logged_log (a : Acme) (ev : Event) : (a.logged ev).io.log = a.io.log ++ [ev] := rfl
@[simp] theorem logged_net (a : Acme) (ev : Event) : (a.logged ev).io.net = a.io.net := rfl
@[simp] theorem receive_kid (a : Acme) (c : CurlData) : (a.receive lib c).kid = a.kid := rfl
@[simp] theorem receive_io (a : Acme) (c : CurlData) : (a.receive lib c).io = a.io := rfl
@[simp] theorem receive_dir (a : Acme) (c : CurlData) : (a.receive lib c).dir = a.dir := rfl
@[simp] theorem receive_order (a : Acme) (c : CurlData) : (a.receive lib c).order = a.order := rfl
@[simp] theorem receive_account (a : Acme) (c : CurlData) :
    (a.receive lib c).account = a.account := rfl
@[simp] theorem receive_nonce (a : Acme) (c : CurlData) :
    (a.receive lib c).nonce = findHeader c.headers "Replay-Nonce" := rfl

/-- `acme_post` either sends nothing and returns `0` (no nonce, no URL, no JWS), or builds the
JWS and makes one transfer, logged as a POST signed with the nonce it held under
`protectedFor`. -/
theorem acmePost_cases (a : Acme) (url : Option String) (payload : String) :
    acmePost lib a url payload = (0, a.clear) ∨
      ∃ n u, a.nonce = some n ∧ url = some u ∧
        (∃ p j, lib.jwsProtected (protectedFor a.kid n u) = some p ∧
          lib.jwsEncode p payload = some j) ∧
        acmePost lib a url payload = a.clear.exchange lib (.post u (protectedFor a.kid n u) payload) := by
  cases hn : a.nonce with
  | none => exact .inl (by simp [acmePost, hn])
  | some n =>
    cases url with
    | none => exact .inl (by simp [acmePost, hn])
    | some u =>
      simp only [acmePost, hn]
      split
      · exact .inl rfl
      · rename_i p hp
        split
        · exact .inl rfl
        · rename_i j hj
          exact .inr ⟨n, u, rfl, rfl, ⟨p, j, hp, hj⟩, rfl⟩

/-- A transfer that returned a status used up a completed transfer of the world. -/
theorem exchange_ne_zero {a : Acme} {ev : Option CurlData → Event}
    (h : (a.exchange lib ev).1 ≠ 0) :
    ∃ c, a.io.next = some c ∧ a.exchange lib ev = (c.code, (a.sent (ev (some c))).receive lib c) := by
  unfold Acme.exchange at h ⊢
  split at h
  · exact absurd rfl h
  · rename_i c hc
    exact ⟨c, hc, rfl⟩

/-- A POST that returned a status used up one transfer of the world: the polling loops
terminate on every finite world. -/
theorem acmePost_net_lt {a : Acme} {url : Option String} {payload : String}
    (h : (acmePost lib a url payload).1 ≠ 0) :
    (acmePost lib a url payload).2.io.net.length < a.io.net.length := by
  rcases acmePost_cases a url payload with e | ⟨n, u, -, -, -, e⟩
  · rw [e] at h; exact absurd rfl h
  · rw [e] at h ⊢
    obtain ⟨c, hc, e'⟩ := exchange_ne_zero h
    rw [e']
    have : a.io.net ≠ [] := by
      intro hn; simp [World.next, hn] at hc
    have := List.length_pos.2 this
    simp; omega

theorem exchange_log (a : Acme) (ev : Option CurlData → Event) :
    (a.exchange lib ev).2.io.log = a.io.log ++ [ev a.io.next] := by
  unfold Acme.exchange
  split <;> simp_all [Acme.receive]

@[simp] theorem postExpect_snd (code : Nat) (a : Acme) (url : Option String) (payload : String) :
    (postExpect lib code a url payload).2 = (acmePost lib a url payload).2 := rfl

theorem postExpect_fst (code : Nat) (a : Acme) (url : Option String) (payload : String) :
    (postExpect lib code a url payload).1 =
      ((acmePost lib a url payload).1 == code && !acmeError (acmePost lib a url payload).2) := rfl

/-- `acme_post` logs at most the one POST it sends: to its URL, signed with the nonce it held,
and only once the JWS was built. -/
theorem acmePost_log (a : Acme) (url : Option String) (payload : String) :
    (acmePost lib a url payload).2.io.log = a.io.log ∨
      ∃ n u resp, a.nonce = some n ∧ url = some u ∧
        (∃ p j, lib.jwsProtected (protectedFor a.kid n u) = some p ∧
          lib.jwsEncode p payload = some j) ∧
        (acmePost lib a url payload).2.io.log =
          a.io.log ++ [.post u (protectedFor a.kid n u) payload resp] := by
  rcases acmePost_cases a url payload with e | ⟨n, u, hn, hu, hj, e⟩
  · exact .inl (by rw [e]; rfl)
  · refine .inr ⟨n, u, a.io.next, hn, hu, hj, ?_⟩
    rw [e, exchange_log]
    rfl

/-- With a nonce and a URL, and a JWS that can be built, `acme_post` sends its POST. -/
theorem acmePost_sends {a : Acme} {n u p j payload : String} (hn : a.nonce = some n)
    (hp : lib.jwsProtected (protectedFor a.kid n u) = some p) (hj : lib.jwsEncode p payload = some j) :
    acmePost lib a (some u) payload = a.clear.exchange lib (.post u (protectedFor a.kid n u) payload) := by
  simp [acmePost, hn, hp, hj]

end Spec

end Uacme
