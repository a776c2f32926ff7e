import Uacme.Transport

/-!
# Uacme.Authorize — `authorize`

For every authorization URL of the order, in array order: POST-as-GET it; a `valid`
authorization is skipped, anything but `pending` fails.  Then the challenges are tried in the
server's order, only those whose status is `pending`: the key authorization is computed, the
attempt is presented to the hook (`begin`) or to the operator, and when it is accepted the
challenge is started (`{}`) and polled until it leaves `pending`/`processing`.  With a hook,
`done` or `failed` follows every accepted attempt.  The first challenge that reaches `valid`
ends the authorization; an accepted challenge that does not ends `authorize` with failure.

The two nested `for` loops are `authLoop` and `chlgLoop`, structural over the JSON arrays; the
`while (!chlg_done)` poll is `pollChallenge`, which terminates because every round uses up a
transfer of the world.  `pollRound` is the loop's body and `pollRounds` its first `n` rounds; the
C loop has no bound, and a server that answers `pending` forever keeps it going
(`Uacme.HookCalls`).
-/

namespace Uacme

section Authorize

variable (lib : Lib) (cfg : Config)

/-- `key_auth` of a challenge: `sha256_base64url("%s.%s", token, thumbprint)` for `dns-01`,
`token.thumbprint` for every other type. -/
def keyAuth (type token thumb : String) : Option String :=
  if type = "dns-01" then lib.sha256Base64url (token ++ "." ++ thumb)
  else some (token ++ "." ++ thumb)

/-- The poll `while (!chlg_done)` of a started challenge: `true` once its status is `valid`,
another round while it is `processing` or `pending`, `false` otherwise. -/
def pollChallenge (url : String) (a : Acme) : Bool × Acme :=
  let p := acmePost lib a (some url) ""
  if p.1 = 200 then
    let st := jsonFindString p.2.json "status"
    if st = some "valid" then (true, p.2)
    else if st = some "processing" ∨ st = some "pending" then pollChallenge url p.2
    else (false, p.2)
  else (false, p.2)
termination_by a.io.net.length
decreasing_by simp_wf; exact acmePost_net_lt fun h0 => absurd (‹p.1 = 200›.symm.trans h0) (by decide)

/-- Induction over the poll: an invariant `I` of the states a round starts from, kept by every
round answered 200, gives `Q` of the result when both verdicts of a round give it. -/
theorem pollChallenge_induction (I : Acme → Prop) (Q : Bool × Acme → Prop) (url : String)
    (hnext : ∀ a, I a → (acmePost lib a (some url) "").1 = 200 → I (acmePost lib a (some url) "").2)
    (hstop : ∀ a, I a → Q (false, (acmePost lib a (some url) "").2))
    (hvalid : ∀ a, I a → (acmePost lib a (some url) "").1 = 200 →
      Q (true, (acmePost lib a (some url) "").2))
    (a : Acme) (ha : I a) : Q (pollChallenge lib url a) := by
  induction a using pollChallenge.induct lib url with
  | case1 a p h200 st hv =>
    rw [pollChallenge]; simp only [p, st] at h200 hv ⊢; simp only [h200, hv, if_true]
    exact hvalid a ha h200
  | case2 a p h200 st hv hw ih =>
    rw [pollChallenge]; simp only [p, st] at h200 hv hw ih ⊢
    simp only [h200, hv, hw, if_true, if_false]
    exact ih (hnext a ha h200)
  | case3 a p h200 st hv hw =>
    rw [pollChallenge]; simp only [p, st] at h200 hv hw ⊢
    simp only [h200, hv, hw, if_true, if_false]
    exact hstop a ha
  | case4 a p h200 =>
    rw [pollChallenge]; simp only [p] at h200 ⊢; simp only [h200, if_false]
    exact hstop a ha

/-- The message that names a challenge to the operator, before the question. -/
def challengePrompt (type ident token ka : String) : String :=
  "challenge=" ++ type ++ " ident=" ++ ident ++ " token=" ++ token ++ " key_auth=" ++ ka

/-- The attempt presented to the hook (`begin`) or to the operator: `some true` accepted,
`some false` declined, `none` when the hook could not be run (`goto out`). -/
def present (type ident token ka : String) (a : Acme) : Option Bool × Acme :=
  match cfg.hookProg with
  | some h =>
    let (r, a) := hookRun a h "begin" type ident token ka
    (if r < 0 then none else some (r == 0), a)
  | none =>
    let (c, a) := ask a (challengePrompt type ident token ka)
    (some (agreed c), a)

/-- An accepted challenge: start it, poll it, and report `done` or `failed` to the hook. -/
def attempt (url type ident token ka : String) (a : Acme) : Bool × Acme :=
  let (r, a) := acmePost lib a (some url) "\x7b\x7d"
  let (ok, a) := if r = 200 then pollChallenge lib url a else (false, a)
  match cfg.hookProg with
  | some h => (ok, (hookRun a h (if ok then "done" else "failed") type ident token ka).2)
  | none => (ok, a)

/-- The loop over the challenges of one authorization: `true` when one of them reached
`valid`, `false` for `goto out` and for `no challenge completed`. -/
def chlgLoop (thumb ident : String) : List Json → Acme → Bool × Acme
  | [], a => (false, a)
  | ch :: chs, a =>
    if jsonCompareString (some ch) "status" "pending" ≠ 0 then chlgLoop thumb ident chs a else
    match jsonFindString (some ch) "url", jsonFindString (some ch) "type",
        jsonFindString (some ch) "token" with
    | some url, some type, some token =>
      match keyAuth lib type token thumb with
      | none => (false, a)
      | some ka =>
        match present cfg type ident token ka a with
        | (none, a) => (false, a)
        | (some false, a) => chlgLoop thumb ident chs a
        | (some true, a) => attempt lib cfg url type ident token ka a
    | _, _, _ => (false, a)

/-- The loop over the authorization URLs of the order. -/
def authLoop (thumb : String) : List Json → Acme → Bool × Acme
  | [], a => (true, a)
  | .string u :: us, a =>
    let (r, a) := acmePost lib a (some u) ""
    if r ≠ 200 then (false, a) else
    let st := jsonFindString a.json "status"
    if st = some "valid" then authLoop thumb us a else
    if st ≠ some "pending" then (false, a) else
    let ident := jsonFind a.json "identifier"
    if jsonCompareString ident "type" "dns" ≠ 0 then (false, a) else
    match jsonFindString ident "value" with
    | none => (false, a)
    | some iv =>
      if iv = "" then (false, a) else
      match jsonFind a.json "challenges" with
      | some (.array chs) =>
        let (ok, a) := chlgLoop lib cfg thumb iv chs { a with json := none }
        if ok then authLoop thumb us a else (false, a)
      | _ => (false, a)
  | _ :: _, a => (false, a)

/-- `authorize(a)`. -/
def authorize (a : Acme) : Bool × Acme :=
  match jsonFind a.order "authorizations" with
  | some (.array auths) =>
    match lib.jwsThumbprint with
    | none => (false, a)
    | some thumb => authLoop lib cfg thumb auths a
  | _ => (false, a)

end Authorize

end Uacme
