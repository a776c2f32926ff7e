import Uacme.IssueTrace
import Uacme.Creation
import Uacme.Main

/-!
# Uacme.Session — a whole run of `uacme` as a word of the protocol

The grammars of `authorize`, `cert_issue` and `account_new` (Uacme.AuthTrace,
Uacme.IssueTrace, Uacme.Creation) extended to the whole client: `acme_bootstrap` (`Booted`), the
account lookup of `account_retrieve` (`Retrieved`), `account_update` (`Updated`),
`account_deactivate` (`Deactivated`) and `cert_revoke` (`Revoked`).  A phase that hands
something to the next one (the directory, the account URL and document) is a grammar with an
`Option` result, `none` when it failed, and `Chained G H` runs `H` on what `G` yielded, as the
`&&` chains of `main` do.  `ActionRun` is the protocol of each action.

Results:
* `runAction_session`: every run of the pipeline of an action is a word of `ActionRun`, with the
  result the pipeline returns.
* `main_session`: every run of `main` either stops before any exchange, with success only when
  it skips an `issue` whose certificate is still valid, or is a word of `ActionRun` for the
  action and the settings it parsed.
-/

namespace Uacme

/-! ## Phases in sequence -/

/-- The events of a phase that yields a value (`none` when it failed), followed, when it did
not fail, by the events of the next phase on that value. -/
inductive Chained {α : Type} (G : List Event → Option α → Prop)
    (H : α → List Event → Bool → Prop) : List Event → Bool → Prop
  | stop {evs} : G evs none → Chained G H evs false
  | next {e1 x e2 ok} : G e1 (some x) → H x e2 ok → Chained G H (e1 ++ e2) ok

/-- The run from `a` that returned `r` appended a word of `G` that yielded `res`: it succeeded
exactly when `res` is a value, and `Q` relates that value to the state it left. -/
def Yields {α : Type} (a : Acme) (G : List Event → Option α → Prop) (Q : α → Acme → Prop)
    (r : Bool × Acme) : Prop :=
  ∃ evs res, r.2.io.log = a.io.log ++ evs ∧ G evs res ∧ r.1 = res.isSome ∧
    ∀ x, res = some x → Q x r.2

/-- `f(a) && g(a)` as its events: `f` yields a value related to the state it leaves, and from
every such state `g` appends a word of the phase on that value. -/
theorem andThen_chained {α : Type} {G : List Event → Option α → Prop}
    {H : α → List Event → Bool → Prop} {Q : α → Acme → Prop} {f g : Acme → Bool × Acme}
    {a : Acme} (hf : Yields a G Q (f a)) (hg : ∀ x b, Q x b → Appends b (H x) (g b)) :
    Appends a (Chained G H) (andThen f g a) := by
  obtain ⟨e1, res, hl, hG, hok, hQ⟩ := hf
  unfold andThen
  split
  rename_i ok b hp
  rw [hp] at hl hok hQ
  cases res with
  | none =>
    obtain rfl : ok = false := hok
    exact ⟨e1, hl, .stop hG⟩
  | some x =>
    obtain rfl : ok = true := hok
    obtain ⟨e2, hl2, hH⟩ := hg x b (hQ x rfl)
    rw [if_pos rfl]
    exact ⟨e1 ++ e2, by rw [hl2, show b.io.log = _ from hl, List.append_assoc], .next hG hH⟩

/-! ## The phases -/

section Grammar

variable (lib : Lib)

/-- `acme_bootstrap`: the directory GET, and when it answered 200 with no problem document and
names a `newNonce` URL, the GET of that URL, which has to answer 204 with no problem document.
It yields the directory document. -/
inductive Booted (directory : String) : List Event → Option (Option Json) → Prop
  | refused {resp} : (respCode resp ≠ 200 ∨ respProblem lib resp = true) →
      Booted directory [.get directory resp] none
  | noNonce {resp} : respCode resp = 200 → respProblem lib resp = false →
      jsonFindString (respJson lib resp) "newNonce" = none →
      Booted directory [.get directory resp] none
  | nonceRefused {resp url resp'} : respCode resp = 200 → respProblem lib resp = false →
      jsonFindString (respJson lib resp) "newNonce" = some url →
      (respCode resp' ≠ 204 ∨ respProblem lib resp' = true) →
      Booted directory [.get directory resp, .get url resp'] none
  | ready {resp url resp'} : respCode resp = 200 → respProblem lib resp = false →
      jsonFindString (respJson lib resp) "newNonce" = some url →
      respCode resp' = 204 → respProblem lib resp' = false →
      Booted directory [.get directory resp, .get url resp'] (some (respJson lib resp))

/-- The account lookup of `account_retrieve`: `onlyReturnExisting` POSTed to the directory's
`newAccount` URL; a 200 answer with no problem document, status `valid` and a `Location` yields
that URL (the account URL) and the account document. -/
inductive Retrieved (dir : Option Json) : List Event → Option (String × Option Json) → Prop
  | noUrl : jsonFindString dir "newAccount" = none → Retrieved dir [] none
  | refused {url e resp} : jsonFindString dir "newAccount" = some url →
      Requested url "\x7b\"onlyReturnExisting\":true\x7d" e resp →
      (respCode resp ≠ 200 ∨ respProblem lib resp = true ∨
        jsonCompareString (respJson lib resp) "status" "valid" ≠ 0) →
      Retrieved dir e none
  | noLocation {url e resp} : jsonFindString dir "newAccount" = some url →
      Requested url "\x7b\"onlyReturnExisting\":true\x7d" e resp → respCode resp = 200 →
      respProblem lib resp = false → jsonCompareString (respJson lib resp) "status" "valid" = 0 →
      findHeader (respHeaders resp) "Location" = none → Retrieved dir e none
  | adopted {url e resp k} : jsonFindString dir "newAccount" = some url →
      Requested url "\x7b\"onlyReturnExisting\":true\x7d" e resp → respCode resp = 200 →
      respProblem lib resp = false → jsonCompareString (respJson lib resp) "status" "valid" = 0 →
      findHeader (respHeaders resp) "Location" = some k → Retrieved dir e (some (k, respJson lib resp))

/-- `account_update` for the account URL `kid` and the account document `acct`: a malformed
contact fails, one that agrees with the requested e-mail succeeds with no request, and one that
differs is replaced by a POST to the account URL, which has to answer 200 with no problem
document. -/
inductive Updated (mail : Option String) (kid : String) (acct : Option Json) :
    List Event → Bool → Prop
  | malformed : emailUpdate mail (jsonFind acct "contact") = none → Updated mail kid acct [] false
  | agrees : emailUpdate mail (jsonFind acct "contact") = some false → Updated mail kid acct [] true
  | sent {e resp} : emailUpdate mail (jsonFind acct "contact") = some true →
      Requested kid (contactPayload mail) e resp →
      Updated mail kid acct e (respCode resp == 200 && !respProblem lib resp)

/-- `account_deactivate` for the account URL `kid`: the deactivation POSTed to it, which has to
answer 200 with no problem document. -/
inductive Deactivated (kid : String) : List Event → Bool → Prop
  | sent {e resp} : Requested kid "\x7b\"status\": \"deactivated\"\x7d" e resp →
      Deactivated kid e (respCode resp == 200 && !respProblem lib resp)

/-- `cert_revoke` of the certificate in `file` with the reason code `reason`: the certificate,
re-encoded, POSTed to the directory's `revokeCert` URL, which has to answer 200 with no problem
document. -/
inductive Revoked (file : String) (reason : Int) (dir : Option Json) : List Event → Bool → Prop
  | noCert : lib.certDerBase64url file = none → Revoked file reason dir [] false
  | noUrl {crt} : lib.certDerBase64url file = some crt → jsonFindString dir "revokeCert" = none →
      Revoked file reason dir [] false
  | sent {crt url e resp} : lib.certDerBase64url file = some crt →
      jsonFindString dir "revokeCert" = some url → Requested url (revokePayload crt reason) e resp →
      Revoked file reason dir e (respCode resp == 200 && !respProblem lib resp)

/-- The protocol of each action: `acme_bootstrap`, then `account_new`, or the account lookup
followed by the action on the account URL and document it yields.  `main` revokes with the
reason code `0`. -/
def ActionRun (cfg : Config) (yes : Bool) : Action → List Event → Bool → Prop
  | .new _ => Chained (Booted lib cfg.directory) (Registered lib cfg.mail yes)
  | .update _ => Chained (Booted lib cfg.directory) fun d =>
      Chained (Retrieved lib d) fun x => Updated lib cfg.mail x.1 x.2
  | .deactivate => Chained (Booted lib cfg.directory) fun d =>
      Chained (Retrieved lib d) fun x => Deactivated lib x.1
  | .issue _ => Chained (Booted lib cfg.directory) fun d =>
      Chained (Retrieved lib d) fun _ => IssueRun lib cfg d
  | .revoke f => Chained (Booted lib cfg.directory) fun d =>
      Chained (Retrieved lib d) fun _ => Revoked lib f 0 d

end Grammar

/-! ## The driver functions are words of their phases -/

section Refinement

variable (lib : Lib) (cfg : Config)

/-- `acme_get` as its event: one GET logged with the transfer it got, whose status is returned
and whose JSON and problem document the state keeps; the directory is kept. -/
theorem acmeGet_got (a : Acme) (url : String) :
    ∃ resp, (acmeGet lib a url).2.io.log = a.io.log ++ [.get url resp] ∧
      (acmeGet lib a url).1 = respCode resp ∧ (acmeGet lib a url).2.json = respJson lib resp ∧
      acmeError (acmeGet lib a url).2 = respProblem lib resp ∧ (acmeGet lib a url).2.dir = a.dir := by
  refine ⟨a.clear.io.next, exchange_log _ _, ?_⟩
  unfold acmeGet Acme.exchange
  split <;> rename_i hn <;> rw [hn] <;> exact ⟨rfl, rfl, rfl, rfl⟩

theorem acmeBootstrap_booted (a : Acme) :
    Yields a (Booted lib cfg.directory) (fun d b => b.dir = d) (acmeBootstrap lib cfg a) := by
  obtain ⟨resp, hl, hr, hj, he, -⟩ := acmeGet_got lib a cfg.directory
  unfold acmeBootstrap
  split
  rename_i r a1 hp
  rw [hp] at hl hr hj he
  dsimp only at hl hr hj he
  by_cases hc : r ≠ 200 ∨ acmeError a1 = true
  · rw [if_pos hc]
    exact ⟨_, none, hl, .refused (by rwa [hr, he] at hc), rfl, fun _ h => nomatch h⟩
  rw [if_neg hc]
  obtain ⟨h200, hnp⟩ : respCode resp = 200 ∧ respProblem lib resp = false := by
    rw [← hr, ← he]; simpa [not_or] using hc
  dsimp only
  split
  · rename_i hnone
    exact ⟨_, none, hl, .noNonce h200 hnp (hj ▸ hnone), rfl, fun _ h => nomatch h⟩
  rename_i url hurl
  obtain ⟨resp', hl', hr', -, he', hd⟩ := acmeGet_got lib { a1 with dir := a1.json, json := none } url
  have hu : jsonFindString (respJson lib resp) "newNonce" = some url := hj ▸ hurl
  have hlog : (acmeGet lib { a1 with dir := a1.json, json := none } url).2.io.log =
      a.io.log ++ [.get cfg.directory resp, .get url resp'] := by
    rw [hl']; simp [hl]
  cases hok : (respCode resp' == 204 && !respProblem lib resp')
  · refine ⟨_, none, hlog, .nonceRefused h200 hnp hu ?_, by rw [hr', he', hok]; rfl,
      fun _ h => nomatch h⟩
    simpa [Bool.and_eq_false_iff, or_iff_not_imp_left] using hok
  · obtain ⟨h204, hnp'⟩ : respCode resp' = 204 ∧ respProblem lib resp' = false := by
      simpa using hok
    exact ⟨_, some _, hlog, .ready h200 hnp hu h204 hnp', by rw [hr', he', hok]; rfl,
      fun _ h => Option.some.inj h ▸ hd.trans hj⟩

theorem accountRetrieve_retrieved (a : Acme) :
    Yields a (Retrieved lib a.dir) (fun x b => b.dir = a.dir ∧ b.kid = some x.1 ∧ b.account = x.2)
      (accountRetrieve lib a) := by
  unfold accountRetrieve
  split
  · exact ⟨[], none, by simp, .noUrl ‹_›, rfl, fun _ h => nomatch h⟩
  rename_i url hurl
  split
  rename_i r a1 hp
  obtain ⟨e, resp, hl, hq, hr, hj, hh, -, -, he⟩ := acmePost_requested lib hp
  have hd := acmePost_dir lib a (some url) "\x7b\"onlyReturnExisting\":true\x7d"
  rw [hp] at hd
  dsimp only at hd
  by_cases hc : r ≠ 200 ∨ acmeError a1 = true ∨ jsonCompareString a1.json "status" "valid" ≠ 0
  · rw [if_pos hc]
    exact ⟨e, none, hl, .refused hurl hq (by rwa [hr, he, hj] at hc), rfl, fun _ h => nomatch h⟩
  rw [if_neg hc]
  obtain ⟨h200, hnp, hv⟩ : respCode resp = 200 ∧ respProblem lib resp = false ∧
      jsonCompareString (respJson lib resp) "status" "valid" = 0 := by
    rw [← hr, ← he, ← hj]; simpa [not_or] using hc
  split
  · exact ⟨e, none, hl, .noLocation hurl hq h200 hnp hv (hh ▸ ‹_›), rfl, fun _ h => nomatch h⟩
  · rename_i k hloc
    exact ⟨e, some (k, respJson lib resp), hl, .adopted hurl hq h200 hnp hv (hh ▸ hloc), rfl,
      fun _ h => by cases h; exact ⟨hd, rfl, hj⟩⟩

theorem accountUpdate_updated {k : String} (a : Acme) (hk : a.kid = some k) :
    Appends a (Updated lib cfg.mail k a.account) (accountUpdate lib cfg a) := by
  unfold accountUpdate
  split
  · exact ⟨[], by simp, .malformed ‹_›⟩
  · exact ⟨[], by simp, .agrees ‹_›⟩
  rename_i hu
  rw [hk]
  rcases hp : postExpect lib 200 a (some k) (contactPayload cfg.mail) with ⟨ok, b⟩
  obtain ⟨e, resp, hl, hq, hok, -⟩ := postExpect_requested lib hp
  exact ⟨e, hl, hok ▸ .sent hu hq⟩

theorem accountDeactivate_deactivated {k : String} (a : Acme) (hk : a.kid = some k) :
    Appends a (Deactivated lib k) (accountDeactivate lib a) := by
  unfold accountDeactivate
  rw [hk]
  rcases hp : postExpect lib 200 a (some k) "\x7b\"status\": \"deactivated\"\x7d" with ⟨ok, b⟩
  obtain ⟨e, resp, hl, hq, hok, -⟩ := postExpect_requested lib hp
  exact ⟨e, hl, hok ▸ .sent hq⟩

theorem certRevoke_revoked (file : String) (reason : Int) (a : Acme) :
    Appends a (Revoked lib file reason a.dir) (certRevoke lib file reason a) := by
  unfold certRevoke
  split
  · exact ⟨[], by simp, .noCert ‹_›⟩
  rename_i crt hcrt
  split
  · exact ⟨[], by simp, .noUrl hcrt ‹_›⟩
  rename_i url hurl
  rcases hp : postExpect lib 200 a (some url) (revokePayload crt reason) with ⟨ok, b⟩
  obtain ⟨e, resp, hl, hq, hok, -⟩ := postExpect_requested lib hp
  exact ⟨e, hl, hok ▸ .sent hcrt hurl hq⟩

/-- **Every run of the pipeline of an action is a word of its protocol**, with the result the
pipeline returns. -/
theorem runAction_session (yes : Bool) (act : Action) (a : Acme) :
    Appends a (ActionRun lib cfg yes act) (runAction lib cfg yes act a) := by
  have boot := acmeBootstrap_booted lib cfg a
  -- the lookup from a state holding the directory `d`, then the action on what it yields
  have retrieve : ∀ {H : String × Option Json → List Event → Bool → Prop}
      {g : Acme → Bool × Acme} (d : Option Json) (b : Acme), b.dir = d →
      (∀ x c, c.dir = d → c.kid = some x.1 → c.account = x.2 → Appends c (H x) (g c)) →
      Appends b (Chained (Retrieved lib d) H) (andThen (accountRetrieve lib) g b) := by
    rintro H g d b rfl hg
    exact andThen_chained (accountRetrieve_retrieved lib b) fun x c ⟨h1, h2, h3⟩ => hg x c h1 h2 h3
  cases act with
  | new _ => exact andThen_chained boot fun d b hb => hb ▸ accountNew_registered lib cfg yes b
  | update _ =>
    exact andThen_chained boot fun d b hb => retrieve d b hb fun x c _ hk hacct =>
      hacct ▸ accountUpdate_updated lib cfg c hk
  | deactivate =>
    exact andThen_chained boot fun d b hb => retrieve d b hb fun x c _ hk _ =>
      accountDeactivate_deactivated lib c hk
  | issue _ =>
    exact andThen_chained boot fun d b hb => retrieve d b hb fun x c hd _ _ =>
      hd ▸ certIssue_run lib cfg c
  | revoke f =>
    exact andThen_chained boot fun d b hb => retrieve d b hb fun x c hd _ _ =>
      hd ▸ certRevoke_revoked lib f 0 c

end Refinement

/-- **Every run of `uacme` is a word of its protocol.** For every command line and every world,
`main` either stops before any exchange, failing unless it skips an `issue` whose certificate is
still valid and `-f` was not given, or it parses an action and settings and its events are a
word of that action's protocol: `acme_bootstrap`, then `account_new`, or the account lookup and
the action on the account it yields, with the exit status the protocol gives. -/
theorem main_session (host : Host) (lib : Lib) (opts : List (Char × String))
    (operands : List String) (net : List (Option CurlData)) (hooks : List Int)
    (tty : List (Option Char)) :
    (main host lib opts operands ⟨net, hooks, tty, []⟩).2.io.log = [] ∧
        ((main host lib opts operands ⟨net, hooks, tty, []⟩).1 = true → Skips host opts operands) ∨
      ∃ o act, parseOptions opts {} = some o ∧ parseAction operands = some act ∧
        ActionRun lib (act.config o) o.yes act
          (main host lib opts operands ⟨net, hooks, tty, []⟩).2.io.log
          (main host lib opts operands ⟨net, hooks, tty, []⟩).1 := by
  rcases main_cases host lib opts operands ⟨net, hooks, tty, []⟩ with
    ⟨h, hs⟩ | ⟨o, act, ho, hact, h⟩
  · exact .inl ⟨by rw [h]; rfl, hs⟩
  · obtain ⟨evs, hl, hrun⟩ :=
      runAction_session lib (act.config o) o.yes act (Acme.init ⟨net, hooks, tty, []⟩)
    rw [h]
    exact .inr ⟨o, act, ho, hact, by rw [hl]; exact hrun⟩

end Uacme
