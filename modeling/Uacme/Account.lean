import Uacme.Transport

/-!
# Uacme.Account — `acme_bootstrap` and the account lifecycle

`acme_bootstrap` fetches the directory and a first nonce; `account_new` looks the key up with
`onlyReturnExisting` and creates the account when the server answers `accountDoesNotExist`;
`account_retrieve` adopts the account URL (the `Location` of the lookup) as `a->kid`;
`account_update` compares the account's `contact` array with the requested e-mail and POSTs a
new one only when they differ; `account_deactivate` POSTs the deactivation.
-/

namespace Uacme

section Account

variable (lib : Lib) (cfg : Config)

/-- `acme_bootstrap`: the directory (200) and a first nonce from its `newNonce` (204). -/
def acmeBootstrap (a : Acme) : Bool × Acme :=
  let (r, a) := acmeGet lib a cfg.directory
  if r ≠ 200 ∨ acmeError a = true then (false, a) else
  let a := { a with dir := a.json, json := none }
  match jsonFindString a.dir "newNonce" with
  | none => (false, a)
  | some url =>
    let (r, a) := acmeGet lib a url
    (r == 204 && !acmeError a, a)

/-- The response is the `accountDoesNotExist` problem document. -/
def accountMissing (a : Acme) : Bool :=
  a.json.isSome && caseEq a.type "application/problem+json" &&
    jsonCompareString a.json "type" "urn:ietf:params:acme:error:accountDoesNotExist" == 0

/-- The question about the terms of service at `terms`. -/
def termsPrompt (terms : String) : String := "type \x27y\x27 to accept the terms at " ++ terms

/-- The terms of service of the directory are agreed to: there are none, `-y` was given, or the
operator typed `y`. -/
def agreeTerms (yes : Bool) (a : Acme) : Bool × Acme :=
  match jsonFindString (jsonFind a.dir "meta") "termsOfService" with
  | none => (true, a)
  | some terms =>
    if yes then (true, a) else
    let (c, a) := ask a (termsPrompt terms)
    (agreed c, a)

/-- The payload of the account creation. -/
def newAccountPayload : Option String → String
  | some e => "\x7b\"termsOfServiceAgreed\":true,\"contact\": [\"mailto:" ++ e ++ "\"]\x7d"
  | none => "\x7b\"termsOfServiceAgreed\":true\x7d"

/-- `account_new(a, yes)`. -/
def accountNew (yes : Bool) (a : Acme) : Bool × Acme :=
  match jsonFindString a.dir "newAccount" with
  | none => (false, a)
  | some url =>
    let (r, a) := acmePost lib a (some url) "\x7b\"onlyReturnExisting\":true\x7d"
    if r = 200 then (false, { a with kid := findHeader a.headers "Location" }) else
    if r ≠ 400 ∨ accountMissing a = false then (false, a) else
    let (ok, a) := agreeTerms yes a
    if !ok then (false, a) else
    let (r, a) := acmePost lib a (some url) (newAccountPayload cfg.mail)
    if r ≠ 201 ∨ acmeError a = true ∨ jsonCompareString a.json "status" "valid" ≠ 0 then
      (false, a) else
    let a := { a with kid := findHeader a.headers "Location" }
    (a.kid.isSome, a)

/-- `account_retrieve(a)`. -/
def accountRetrieve (a : Acme) : Bool × Acme :=
  match jsonFindString a.dir "newAccount" with
  | none => (false, a)
  | some url =>
    let (r, a) := acmePost lib a (some url) "\x7b\"onlyReturnExisting\":true\x7d"
    if r ≠ 200 ∨ acmeError a = true ∨ jsonCompareString a.json "status" "valid" ≠ 0 then
      (false, a) else
    match findHeader a.headers "Location" with
    | none => (false, { a with kid := none })
    | some k => (true, { a with kid := some k, account := a.json, json := none })

/-- The loop of `account_update` over the contact array: `none` (`return false`) at an entry
that is not a string starting with `mailto:` in any case, else whether some address differs
from `email` (compared case-insensitively). -/
def contactLoop (email : String) (upd : Bool) : List Json → Option Bool
  | [] => some upd
  | .string v :: cs =>
    if ciPrefix "mailto:" v then contactLoop email (upd || !caseEq ⟨v.data.drop 7⟩ email) cs
    else none
  | _ :: _ => none

/-- `email_update` of `account_update`: whether the contact has to change, `none` when the
contact field is malformed. -/
def emailUpdate (email : Option String) : Option Json → Option Bool
  | some (.array cs) =>
    match email with
    | some e => if cs.isEmpty then some true else contactLoop e false cs
    | none => some !cs.isEmpty
  | some _ => none
  | none => some email.isSome

/-- The payload of the contact update. -/
def contactPayload : Option String → String
  | some e => "\x7b\"contact\": [\"mailto:" ++ e ++ "\"]\x7d"
  | none => "\x7b\"contact\": []\x7d"

/-- `account_update(a)`. -/
def accountUpdate (a : Acme) : Bool × Acme :=
  match emailUpdate cfg.mail (jsonFind a.account "contact") with
  | none => (false, a)
  | some false => (true, a)
  | some true => postExpect lib 200 a a.kid (contactPayload cfg.mail)

/-- `account_deactivate(a)`. -/
def accountDeactivate (a : Acme) : Bool × Acme :=
  postExpect lib 200 a a.kid "\x7b\"status\": \"deactivated\"\x7d"

end Account

end Uacme
