import Uacme.Authorize

/-!
# Uacme.Issue — `identifiers`, `cert_issue`, `cert_revoke`

`cert_issue` creates the order (201 with a `Location`), authorizes it when it is `pending`,
polls it until `ready`, finalizes it with the CSR, polls it until `valid`, downloads the
certificate and saves it.  The two `while (1)` order polls differ only in the status they wait
for and the one they wait through: they are one definition, `pollOrder`.
-/

namespace Uacme

/-- The opening of the `newOrder` payload. -/
def identifiersHead : String := "\x7b\"identifiers\":["

/-- One identifier of the `newOrder` payload, with its trailing comma. -/
def identifierEntry (n : String) : String := "\x7b\"type\":\"dns\",\"value\":\"" ++ n ++ "\"\x7d,"

/-- `identifiers(names)`: the entries are appended one by one, then the last character (the
trailing comma) is cut and `]}` is appended. -/
def identifiers (names : List String) : String :=
  let tmp := names.foldl (fun tmp n => tmp ++ identifierEntry n) identifiersHead
  ⟨tmp.data.dropLast⟩ ++ "]\x7d"

section Issue

variable (lib : Lib) (cfg : Config)

/-- The two order polls of `cert_issue`: POST-as-GET the order until its status is `target`
(it becomes `a->order`), another round while it is `wait`, failure otherwise. -/
def pollOrder (orderurl target wait : String) (a : Acme) : Bool × Acme :=
  let p := acmePost lib a (some orderurl) ""
  if p.1 = 200 then
    let st := jsonFindString p.2.json "status"
    if st = some target then (true, { p.2 with order := p.2.json, json := none })
    else if st = some wait then pollOrder orderurl target wait p.2
    else (false, p.2)
  else (false, p.2)
termination_by a.io.net.length
decreasing_by simp_wf; exact acmePost_net_lt fun h0 => absurd (‹p.1 = 200›.symm.trans h0) (by decide)

/-- Induction over the order poll: an invariant `I` of the states a round starts from, kept by
every round answered 200, gives `Q` of the result when both verdicts of a round give it, the
document that reached `target` held as the order. -/
theorem pollOrder_induction (I : Acme → Prop) (Q : Bool × Acme → Prop) (orderurl target wait : String)
    (hnext : ∀ a, I a → (acmePost lib a (some orderurl) "").1 = 200 →
      I (acmePost lib a (some orderurl) "").2)
    (hstop : ∀ a, I a → Q (false, (acmePost lib a (some orderurl) "").2))
    (hreached : ∀ a, I a → (acmePost lib a (some orderurl) "").1 = 200 →
      Q (true, { (acmePost lib a (some orderurl) "").2 with
        order := (acmePost lib a (some orderurl) "").2.json, json := none }))
    (a : Acme) (ha : I a) : Q (pollOrder lib orderurl target wait a) := by
  induction a using pollOrder.induct lib orderurl target wait with
  | case1 a p h200 st hv =>
    rw [pollOrder]; simp only [p, st] at h200 hv ⊢; simp only [h200, hv, if_true]
    exact hreached a ha h200
  | case2 a p h200 st hv hw ih =>
    rw [pollOrder]; simp only [p, st] at h200 hv hw ih ⊢; rw [if_pos h200, if_neg hv, if_pos hw]
    exact ih (hnext a ha h200)
  | case3 a p h200 st hv hw =>
    rw [pollOrder]; simp only [p, st] at h200 hv hw ⊢; simp only [h200, hv, hw, if_false]
    exact hstop a ha
  | case4 a p h200 =>
    rw [pollOrder]; simp only [p] at h200 ⊢; simp only [h200, if_false]
    exact hstop a ha

/-- The payload of the finalization. -/
def csrPayload (csr : String) : String := "\x7b\"csr\": \"" ++ csr ++ "\"\x7d"

/-- The tail of `cert_issue(a)` once the order holds its `valid` document: download the
certificate from its `certificate` URL and save it. -/
def certDownload (a : Acme) : Bool × Acme :=
  match jsonFindString a.order "certificate" with
  | none => (false, a)
  | some certurl =>
    let (ok, a) := postExpect lib 200 a (some certurl) ""
    if !ok then (false, a) else certSave lib a a.body cfg.certdir

/-- The part of `cert_issue(a)` from the moment the order (at `orderurl`) holds a `ready`
document: generate the CSR, finalize at the order's `finalize` URL, poll the order until
`valid`, then `certDownload`. -/
def certFinalize (orderurl : String) (a : Acme) : Bool × Acme :=
  match lib.csrGen with
  | none => (false, a)
  | some csr =>
    match jsonFindString a.order "finalize" with
    | none => (false, a)
    | some fin =>
      let (ok, a) := postExpect lib 200 a (some fin) (csrPayload csr)
      if !ok then (false, a) else
      let (ok, a) := pollOrder lib orderurl "valid" "processing" a
      if !ok then (false, a) else certDownload lib cfg a

/-- `cert_issue(a)` from the moment the order is created and held (`a->order`): a `ready` order
is finalized at once; any other is authorized, then polled until `ready`. -/
def certFinish (orderurl status : String) (a : Acme) : Bool × Acme :=
  let (ok, a) := if status = "ready" then (true, a) else
    let (ok, a) := authorize lib cfg a
    if ok then pollOrder lib orderurl "ready" "pending" a else (false, a)
  if !ok then (false, a) else certFinalize lib cfg orderurl a

/-- `cert_issue(a)`. -/
def certIssue (a : Acme) : Bool × Acme :=
  match jsonFindString a.dir "newOrder" with
  | none => (false, a)
  | some url =>
    let (r, a) := acmePost lib a (some url) (identifiers cfg.names)
    if r ≠ 201 then (false, a) else
    match jsonFindString a.json "status" with
    | none => (false, a)
    | some status =>
      if status ≠ "pending" ∧ status ≠ "ready" then (false, a) else
      match findHeader a.headers "Location" with
      | none => (false, a)
      | some orderurl => certFinish lib cfg orderurl status { a with order := a.json, json := none }

/-- The payload of the revocation. -/
def revokePayload (crt : String) (reason : Int) : String :=
  "\x7b\"certificate\":\"" ++ crt ++ "\",\"reason\":" ++ toString reason ++ "\x7d"

/-- `cert_revoke(a, certfile, reason_code)`. -/
def certRevoke (certfile : String) (reason : Int) (a : Acme) : Bool × Acme :=
  match lib.certDerBase64url certfile with
  | none => (false, a)
  | some crt =>
    match jsonFindString a.dir "revokeCert" with
    | none => (false, a)
    | some url => postExpect lib 200 a (some url) (revokePayload crt reason)

end Issue

end Uacme
