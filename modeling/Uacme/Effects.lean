import Uacme.Session
import Uacme.IssueGates

/-!
# Uacme.Effects — what each action may do to the world

The events of a run are all it does to the world: the requests it sends, the hook runs, the
answers it reads from the terminal and the certificates it writes.  `ActionEffect` is the
alphabet of each action, the events its pipeline may produce at all; `WritesLast` is where the
one write of `issue` stands.  Both are proved over the grammars of Uacme.AuthTrace,
Uacme.IssueTrace and Uacme.Session, one lemma per nonterminal, and read off every run of `main`
through the refinement `runAction_session`.

Results:
* `main_effects`: every event of every run of `main` is in the alphabet of the action it parsed.
  Only `issue` runs the hook: the configured program, with `begin`, `done` or `failed`, a
  non-empty identifier and the key authorization of the token under the account key's
  thumbprint.  Only `new` without `-y` and `issue` without a hook read the terminal.  Each action
  POSTs the account lookup and its own bodies only.  Only `issue` writes a certificate, into the
  certificate directory of its primary domain.
* `main_writes_last`: a run writes at most one certificate, as its last event, the body of the
  200 answer without a problem document to the POST-as-GET right before it, and `main` exits
  with the success of that write.
-/

namespace Uacme

/-! ## The alphabets -/

/-- The bodies `cert_issue` POSTs: the `newOrder` identifiers, POST-as-GETs (`""`), challenge
starts (`{}`) and the CSR. -/
def IssueRequest (lib : Lib) (cfg : Config) (payload : String) : Prop :=
  payload = identifiers cfg.names ∨ payload = "" ∨ payload = "\x7b\x7d" ∨
    ∃ csr, lib.csrGen = some csr ∧ payload = csrPayload csr

/-- The bodies the pipeline of `act` may POST: the account lookup, and the requests of the action
itself. -/
def ActionRequest (lib : Lib) (cfg : Config) (act : Action) (payload : String) : Prop :=
  payload = "\x7b\"onlyReturnExisting\":true\x7d" ∨
    match act with
    | .new _ => payload = newAccountPayload cfg.mail
    | .update _ => payload = contactPayload cfg.mail
    | .deactivate => payload = "\x7b\"status\": \"deactivated\"\x7d"
    | .issue _ => IssueRequest lib cfg payload
    | .revoke f => ∃ crt, lib.certDerBase64url f = some crt ∧ payload = revokePayload crt 0

/-- The arguments of a challenge's hook runs: a non-empty identifier, and the key authorization
of the token under the account key's thumbprint. -/
def HookArgs (lib : Lib) (type ident token ka : String) : Prop :=
  ident ≠ "" ∧ ∃ thumb, lib.jwsThumbprint = some thumb ∧ keyAuth lib type token thumb = some ka

/-- A hook run as `authorize` makes it: the configured program, one of the methods `begin`,
`done` and `failed`, and the arguments of a challenge. -/
def HookCall (lib : Lib) (hook : Option String) (prog method type ident token ka : String) :
    Prop :=
  hook = some prog ∧ (method = "begin" ∨ method = "done" ∨ method = "failed") ∧
    HookArgs lib type ident token ka

/-- The events `authorize` may produce under the hook setting `hook`: POST-as-GETs and challenge
starts, hook runs, and, without a hook, the operator's answers. -/
def AuthEffect (lib : Lib) (hook : Option String) : Event → Prop
  | .post _ _ payload _ => payload = "" ∨ payload = "\x7b\x7d"
  | .hook prog method type ident token ka _ => HookCall lib hook prog method type ident token ka
  | .ask _ _ => hook = none
  | _ => False

/-- The events `cert_issue` may produce: those of `authorize`, its own requests, and the
certificate write into the certificate directory.  No GET. -/
def IssueEffect (lib : Lib) (cfg : Config) : Event → Prop
  | .get _ _ => False
  | .post _ _ payload _ => IssueRequest lib cfg payload
  | .hook prog method type ident token ka _ =>
    HookCall lib cfg.hookProg prog method type ident token ka
  | .ask _ _ => cfg.hookProg = none
  | .save _ dir _ => dir = cfg.certdir

/-- The alphabet of the pipeline of `act` under the configuration `cfg` and `-y` (`yes`). -/
def ActionEffect (lib : Lib) (cfg : Config) (yes : Bool) (act : Action) : Event → Prop
  | .get _ _ => True
  | .post _ _ payload _ => ActionRequest lib cfg act payload
  | .hook prog method type ident token ka _ =>
    (act matches .issue _) ∧ HookCall lib cfg.hookProg prog method type ident token ka
  | .ask _ _ => (act matches .new _) ∧ yes = false ∨ (act matches .issue _) ∧ cfg.hookProg = none
  | .save _ dir _ => (act matches .issue _) ∧ dir = cfg.certdir

/-- The hook arguments of a pending challenge of an authorization with a non-empty identifier,
under the account key's thumbprint. -/
theorem Challenge.hookArgs {lib : Lib} {thumb ident url type token ka : String} {ch : Json}
    (hc : Challenge lib thumb ch url type token ka) (ht : lib.jwsThumbprint = some thumb)
    (hi : ident ≠ "") : HookArgs lib type ident token ka :=
  ⟨hi, thumb, ht, hc.2.2.2.2⟩

/-- What `authorize` may do, `cert_issue` may do. -/
theorem AuthEffect.issue {lib : Lib} {cfg : Config} {x : Event}
    (h : AuthEffect lib cfg.hookProg x) : IssueEffect lib cfg x := by
  cases x with
  | post => exact h.elim (.inr ∘ .inl) (.inr ∘ .inr ∘ .inl)
  | hook | ask => exact h
  | get | save => exact h.elim

theorem IssueEffect.action {lib : Lib} {cfg : Config} {yes : Bool} {names : List String}
    {x : Event} (h : IssueEffect lib cfg x) : ActionEffect lib cfg yes (.issue names) x := by
  cases x with
  | get => exact h.elim
  | post => exact .inr h
  | hook | save => exact ⟨rfl, h⟩
  | ask => exact .inr ⟨rfl, h⟩

/-- An action other than `issue` writes no certificate. -/
theorem ActionEffect.noSave {lib : Lib} {cfg : Config} {yes : Bool} {act : Action}
    {evs : List Event} (h : ∀ x ∈ evs, ActionEffect lib cfg yes act x)
    (hact : ∀ names, act ≠ .issue names) : NoSave evs := by
  intro _ _ _ hm
  have hi := (h _ hm).1
  cases act with
  | issue names => exact hact names rfl
  | _ => cases hi

/-! ## The primitives -/

section Primitives

variable {lib : Lib} {P : Event → Prop} {url payload : String} {e : List Event}

theorem Requested.effects {resp : Option CurlData} (h : Requested url payload e resp)
    (hP : ∀ p r, P (.post url p payload r)) : ∀ x ∈ e, P x := by
  cases h with
  | unsent => exact fun _ h => nomatch h
  | sent p _ => exact List.forall_mem_singleton.2 (hP p _)

theorem Posted.effects {r : Nat} {j : Option Json} (h : Posted lib url payload e r j)
    (hP : ∀ p r, P (.post url p payload r)) : ∀ x ∈ e, P x := by
  cases h with
  | unsent => exact fun _ h => nomatch h
  | sent p _ => exact List.forall_mem_singleton.2 (hP p _)

end Primitives

/-! ## `authorize` -/

section Authorize

variable {lib : Lib} {hook : Option String} {type ident token ka : String} {evs : List Event}
  {ok : Bool}

theorem Polled.effects {P : Event → Prop} {url : String} (h : Polled lib url evs ok)
    (hP : ∀ p r, P (.post url p "" r)) : ∀ x ∈ evs, P x := by
  induction h with
  | valid hp _ | stop hp _ => exact hp.effects hP
  | again hp _ _ _ ih => exact List.forall_mem_append.2 ⟨hp.effects hP, ih⟩

theorem Presented.effects {v : Option Bool} (h : Presented hook type ident token ka evs v)
    (ha : HookArgs lib type ident token ka) : ∀ x ∈ evs, AuthEffect lib hook x := by
  cases h with
  | hook _ _ hh => exact List.forall_mem_singleton.2 ⟨hh, .inl rfl, ha⟩
  | ask _ hn => exact List.forall_mem_singleton.2 hn

theorem Reported.effects (h : Reported hook type ident token ka ok evs)
    (ha : HookArgs lib type ident token ka) : ∀ x ∈ evs, AuthEffect lib hook x := by
  cases h with
  | hook _ _ hh => exact List.forall_mem_singleton.2 ⟨hh, by cases ok <;> simp, ha⟩
  | none => exact fun _ h => nomatch h

theorem Attempted.effects {url : String} (h : Attempted lib hook url type ident token ka evs ok)
    (ha : HookArgs lib type ident token ka) : ∀ x ∈ evs, AuthEffect lib hook x := by
  have hstart : ∀ p r, AuthEffect lib hook (.post url p "\x7b\x7d" r) := fun _ _ => .inr rfl
  cases h with
  | started hs hpol hrep =>
    exact List.forall_mem_append.2 ⟨List.forall_mem_append.2
      ⟨hs.effects hstart, hpol.effects fun _ _ => .inl rfl⟩, hrep.effects ha⟩
  | refused hs _ hrep => exact List.forall_mem_append.2 ⟨hs.effects hstart, hrep.effects ha⟩

theorem ChlgRun.effects {thumb : String} {chs : List Json}
    (h : ChlgRun lib hook thumb ident chs evs ok) (ht : lib.jwsThumbprint = some thumb)
    (hi : ident ≠ "") : ∀ x ∈ evs, AuthEffect lib hook x := by
  induction h with
  | exhausted | malformed => exact fun _ h => nomatch h
  | notPending _ _ ih => exact ih
  | aborted hc hpe => exact hpe.effects (hc.hookArgs ht hi)
  | declined hc hpe _ ih => exact List.forall_mem_append.2 ⟨hpe.effects (hc.hookArgs ht hi), ih⟩
  | accepted hc hpe hat =>
    exact List.forall_mem_append.2
      ⟨hpe.effects (hc.hookArgs ht hi), hat.effects (hc.hookArgs ht hi)⟩

theorem AuthRun.effects {thumb : String} {auths : List Json}
    (h : AuthRun lib hook thumb auths evs ok)
    (ht : lib.jwsThumbprint = some thumb) : ∀ x ∈ evs, AuthEffect lib hook x := by
  have hget : ∀ u p r, AuthEffect lib hook (.post u p "" r) := fun _ _ _ => .inl rfl
  induction h with
  | done | notUrl => exact fun _ h => nomatch h
  | failed hp | invalid hp | unworkable hp => exact hp.effects (hget _)
  | valid hp _ _ ih => exact List.forall_mem_append.2 ⟨hp.effects (hget _), ih⟩
  | solved hp _ hw hc _ ih =>
    exact List.forall_mem_append.2
      ⟨List.forall_mem_append.2 ⟨hp.effects (hget _), hc.effects ht hw.2.2.1⟩, ih⟩
  | unsolved hp _ hw hc =>
    exact List.forall_mem_append.2 ⟨hp.effects (hget _), hc.effects ht hw.2.2.1⟩

theorem AuthorizeRun.effects {order : Option Json} (h : AuthorizeRun lib hook order evs ok) :
    ∀ x ∈ evs, AuthEffect lib hook x := by
  unfold AuthorizeRun at h
  split at h
  · rename_i ht
    exact h.effects ht
  · rw [h.1]
    exact fun _ h => nomatch h

end Authorize

/-! ## `cert_issue` -/

section Issue

variable {lib : Lib} {cfg : Config} {evs : List Event} {ok : Bool}

theorem OrderPolled.effects {P : Event → Prop} {orderurl target wait : String} {d : Option Json}
    (h : OrderPolled lib orderurl target wait evs ok d) (hP : ∀ p r, P (.post orderurl p "" r)) :
    ∀ x ∈ evs, P x := by
  induction h with
  | reached hq | stop hq => exact hq.effects hP
  | again hq _ _ _ _ ih => exact List.forall_mem_append.2 ⟨hq.effects hP, ih⟩

theorem Downloaded.effects {P : Event → Prop} {order : Option Json}
    (h : Downloaded lib cfg order evs ok) (hpoll : ∀ u p r, P (.post u p "" r))
    (hsave : ∀ body ok, P (.save body cfg.certdir ok)) : ∀ x ∈ evs, P x := by
  cases h with
  | noUrl => exact fun _ h => nomatch h
  | refused _ hq _ => exact hq.effects (hpoll _)
  | saved _ hq _ _ =>
    exact List.forall_mem_append.2 ⟨hq.effects (hpoll _), List.forall_mem_singleton.2 (hsave _ _)⟩

/-- The finalization: the CSR, order polls, the download and the write. -/
theorem Finalized.effects {P : Event → Prop} {orderurl : String} {order : Option Json}
    (h : Finalized lib cfg orderurl order evs ok) (hpoll : ∀ u p r, P (.post u p "" r))
    (hcsr : ∀ csr, lib.csrGen = some csr → ∀ u p r, P (.post u p (csrPayload csr) r))
    (hsave : ∀ body ok, P (.save body cfg.certdir ok)) : ∀ x ∈ evs, P x := by
  cases h with
  | noCsr | noUrl => exact fun _ h => nomatch h
  | refused hc _ hq _ => exact hq.effects (hcsr _ hc _)
  | unfinished hc _ hq _ _ hpol =>
    exact List.forall_mem_append.2 ⟨hq.effects (hcsr _ hc _), hpol.effects (hpoll _)⟩
  | finished hc _ hq _ _ hpol _ hdl =>
    exact List.forall_mem_append.2 ⟨List.forall_mem_append.2
      ⟨hq.effects (hcsr _ hc _), hpol.effects (hpoll _)⟩, hdl.effects hpoll hsave⟩

/-- The tail of `cert_issue` once the order exists: the authorizations, the order polls and the
finalization. -/
theorem FinishRun.effects {P : Event → Prop} {orderurl status : String} {order : Option Json}
    (h : FinishRun lib cfg orderurl status order evs ok)
    (hauth : ∀ x, AuthEffect lib cfg.hookProg x → P x)
    (hcsr : ∀ csr, lib.csrGen = some csr → ∀ u p r, P (.post u p (csrPayload csr) r))
    (hsave : ∀ body ok, P (.save body cfg.certdir ok)) : ∀ x ∈ evs, P x := by
  have hpoll : ∀ u p r, P (.post u p "" r) := fun _ _ _ => hauth _ (.inl rfl)
  have hauthz : ∀ {e ok}, AuthorizeRun lib cfg.hookProg order e ok → ∀ x ∈ e, P x :=
    fun ha x hx => hauth x (ha.effects x hx)
  cases h with
  | ready _ hf => exact hf.effects hpoll hcsr hsave
  | unauthorized _ ha => exact hauthz ha
  | unready _ ha hpol => exact List.forall_mem_append.2 ⟨hauthz ha, hpol.effects (hpoll _)⟩
  | readied _ ha hpol _ hf =>
    exact List.forall_mem_append.2 ⟨List.forall_mem_append.2 ⟨hauthz ha, hpol.effects (hpoll _)⟩,
      hf.effects hpoll hcsr hsave⟩

theorem IssueRun.effects {dir : Option Json} (h : IssueRun lib cfg dir evs ok) :
    ∀ x ∈ evs, IssueEffect lib cfg x := by
  have hnew : ∀ {u} p r, IssueEffect lib cfg (.post u p (identifiers cfg.names) r) :=
    fun _ _ => .inl rfl
  cases h with
  | noUrl => exact fun _ h => nomatch h
  | refused _ hq _ | badStatus _ hq _ _ | noLocation _ hq _ _ _ _ => exact hq.effects hnew
  | created _ hq _ _ _ _ hf =>
    exact List.forall_mem_append.2 ⟨hq.effects hnew, hf.effects (fun _ hx => hx.issue)
      (fun _ hc _ _ _ => .inr (.inr (.inr ⟨_, hc, rfl⟩))) fun _ _ => rfl⟩

end Issue

/-! ## The phases of `main` -/

section Session

variable {lib : Lib} {cfg : Config} {yes : Bool} {evs : List Event} {ok : Bool}

theorem Booted.effects {P : Event → Prop} {directory : String} {res : Option (Option Json)}
    (h : Booted lib directory evs res) (hP : ∀ u r, P (.get u r)) : ∀ x ∈ evs, P x := by
  cases h with
  | refused | noNonce => exact List.forall_mem_singleton.2 (hP _ _)
  | nonceRefused | ready =>
    exact List.forall_mem_cons.2 ⟨hP _ _, List.forall_mem_singleton.2 (hP _ _)⟩

theorem Retrieved.effects {P : Event → Prop} {dir : Option Json}
    {res : Option (String × Option Json)} (h : Retrieved lib dir evs res)
    (hP : ∀ u p r, P (.post u p "\x7b\"onlyReturnExisting\":true\x7d" r)) : ∀ x ∈ evs, P x := by
  cases h with
  | noUrl => exact fun _ h => nomatch h
  | refused _ hq _ | noLocation _ hq _ _ _ _ | adopted _ hq _ _ _ _ => exact hq.effects (hP _)

theorem Registered.effects {P : Event → Prop} {mail : Option String} {dir : Option Json}
    (h : Registered lib mail yes dir evs ok)
    (hlookup : ∀ u p r, P (.post u p "\x7b\"onlyReturnExisting\":true\x7d" r))
    (hcreate : ∀ u p r, P (.post u p (newAccountPayload mail) r))
    (hask : yes = false → ∀ q c, P (.ask q c)) : ∀ x ∈ evs, P x := by
  have hagreed : ∀ {e ok}, Agreed yes dir e ok → ∀ x ∈ e, P x
    | _, _, .noTerms _ | _, _, .given _ => fun _ h => nomatch h
    | _, _, .asked _ c _ hy => List.forall_mem_singleton.2 (hask hy _ c)
  cases h with
  | noUrl => exact fun _ h => nomatch h
  | existing _ hq _ | refused _ hq _ _ => exact hq.effects (hlookup _)
  | declined _ hq _ _ hag => exact List.forall_mem_append.2 ⟨hq.effects (hlookup _), hagreed hag⟩
  | unconfirmed _ hq _ _ hag hq3 _ | created _ hq _ _ hag hq3 _ _ _ =>
    exact List.forall_mem_append.2 ⟨List.forall_mem_append.2
      ⟨hq.effects (hlookup _), hagreed hag⟩, hq3.effects (hcreate _)⟩

theorem Updated.effects {P : Event → Prop} {mail : Option String} {kid : String}
    {acct : Option Json} (h : Updated lib mail kid acct evs ok)
    (hP : ∀ p r, P (.post kid p (contactPayload mail) r)) : ∀ x ∈ evs, P x := by
  cases h with
  | malformed | agrees => exact fun _ h => nomatch h
  | sent _ hq => exact hq.effects hP

theorem Deactivated.effects {P : Event → Prop} {kid : String} (h : Deactivated lib kid evs ok)
    (hP : ∀ p r, P (.post kid p "\x7b\"status\": \"deactivated\"\x7d" r)) : ∀ x ∈ evs, P x := by
  cases h with
  | sent hq => exact hq.effects hP

theorem Revoked.effects {P : Event → Prop} {file : String} {reason : Int} {dir : Option Json}
    (h : Revoked lib file reason dir evs ok)
    (hP : ∀ crt, lib.certDerBase64url file = some crt →
      ∀ u p r, P (.post u p (revokePayload crt reason) r)) :
    ∀ x ∈ evs, P x := by
  cases h with
  | noCert | noUrl => exact fun _ h => nomatch h
  | sent hc _ hq => exact hq.effects (hP _ hc _)

theorem Chained.effects {α : Type} {P : Event → Prop} {G : List Event → Option α → Prop}
    {H : α → List Event → Bool → Prop} (hG : ∀ {evs res}, G evs res → ∀ x ∈ evs, P x)
    (hH : ∀ {a evs ok}, H a evs ok → ∀ x ∈ evs, P x) (h : Chained G H evs ok) : ∀ x ∈ evs, P x := by
  cases h with
  | stop hg => exact hG hg
  | next hg hh => exact List.forall_mem_append.2 ⟨hG hg, hH hh⟩

theorem ActionRun.effects {act : Action} (h : ActionRun lib cfg yes act evs ok) :
    ∀ x ∈ evs, ActionEffect lib cfg yes act x := by
  have hboot : ∀ {d e res}, Booted lib d e res → ∀ x ∈ e, ActionEffect lib cfg yes act x :=
    fun hb => hb.effects fun _ _ => trivial
  have hret : ∀ {d e res}, Retrieved lib d e res → ∀ x ∈ e, ActionEffect lib cfg yes act x :=
    fun hr => hr.effects fun _ _ _ => .inl rfl
  cases act with
  | new =>
    exact Chained.effects hboot (fun hr => hr.effects (fun _ _ _ => .inl rfl)
      (fun _ _ _ => .inr rfl) fun hy _ _ => .inl ⟨rfl, hy⟩) h
  | update =>
    exact Chained.effects hboot (Chained.effects hret fun hu => hu.effects fun _ _ => .inr rfl) h
  | deactivate =>
    exact Chained.effects hboot (Chained.effects hret fun hd => hd.effects fun _ _ => .inr rfl) h
  | issue =>
    exact Chained.effects hboot (Chained.effects hret fun hi x hx => (hi.effects x hx).action) h
  | revoke =>
    exact Chained.effects hboot
      (Chained.effects hret fun hr => hr.effects fun _ hc _ _ _ => .inr ⟨_, hc, rfl⟩) h

end Session

/-- **What each action may do.** Every run of `main` either has no event at all, or each of its
events is in the alphabet of the action it parsed, under the settings the option loop ended
with: the hook runs only for `issue`, as the configured program with `begin`, `done` or
`failed`, a non-empty identifier and the key authorization of the token under the account key's
thumbprint; the terminal is read only by `new` without `-y` and by `issue` without a hook; each
action POSTs the account lookup and its own bodies only; only `issue` writes a certificate, into
the certificate directory of its primary domain. -/
theorem main_effects (host : Host) (lib : Lib) (opts : List (Char × String))
    (operands : List String) (net : List (Option CurlData)) (hooks : List Int)
    (tty : List (Option Char)) :
    (main host lib opts operands ⟨net, hooks, tty, []⟩).2.io.log = [] ∨
      ∃ o act, parseOptions opts {} = some o ∧ parseAction operands = some act ∧
        ∀ e ∈ (main host lib opts operands ⟨net, hooks, tty, []⟩).2.io.log,
          ActionEffect lib (act.config o) o.yes act e := by
  rcases main_cases host lib opts operands ⟨net, hooks, tty, []⟩ with
    ⟨h, -⟩ | ⟨o, act, ho, hact, h⟩
  · exact .inl (by rw [h]; rfl)
  · obtain ⟨evs, hl, hrun⟩ :=
      runAction_session lib (act.config o) o.yes act (Acme.init ⟨net, hooks, tty, []⟩)
    refine .inr ⟨o, act, ho, hact, ?_⟩
    rw [h, hl]
    exact hrun.effects

/-! ## GET only for the directory and a nonce -/

/-- A GET. -/
def Event.isGet : Event → Bool
  | .get _ _ => true
  | _ => false

/-- `evs` is empty, or it opens with the GET of the directory `directory` and, right after it,
the GET of the `newNonce` URL its answer named, and no later event is a GET. -/
def GetsFirst (lib : Lib) (directory : String) (evs : List Event) : Prop :=
  evs = [] ∨ ∃ gets rest, evs = gets ++ rest ∧ (∀ x ∈ rest, x.isGet = false) ∧
    ∃ r, gets = [.get directory r] ∨ ∃ url r',
      jsonFindString (respJson lib r) "newNonce" = some url ∧
        gets = [.get directory r, .get url r']

section Gets

variable {lib : Lib} {cfg : Config} {evs : List Event} {ok : Bool}

theorem IssueEffect.isGet {x : Event} (h : IssueEffect lib cfg x) : x.isGet = false := by
  cases x <;> first | exact h.elim | rfl

theorem Booted.gets {directory : String} {res : Option (Option Json)}
    (h : Booted lib directory evs res) :
    ∃ r, evs = [.get directory r] ∨ ∃ url r',
      jsonFindString (respJson lib r) "newNonce" = some url ∧
        evs = [.get directory r, .get url r'] := by
  cases h with
  | refused _ | noNonce _ _ _ => exact ⟨_, .inl rfl⟩
  | nonceRefused _ _ hu _ | ready _ _ hu _ _ => exact ⟨_, .inr ⟨_, _, hu, rfl⟩⟩

/-- `acme_bootstrap` followed by a phase that sends no GET. -/
theorem Chained.getsFirst {directory : String} {H : Option Json → List Event → Bool → Prop}
    (hH : ∀ {x e ok}, H x e ok → ∀ y ∈ e, y.isGet = false)
    (h : Chained (Booted lib directory) H evs ok) : GetsFirst lib directory evs := by
  cases h with
  | stop hb => exact .inr ⟨evs, [], (List.append_nil _).symm, (fun _ h => nomatch h), hb.gets⟩
  | next hb hh => exact .inr ⟨_, _, rfl, hH hh, hb.gets⟩

theorem ActionRun.getsFirst {yes : Bool} {act : Action} (h : ActionRun lib cfg yes act evs ok) :
    GetsFirst lib cfg.directory evs := by
  have hret : ∀ {d e res}, Retrieved lib d e res → ∀ x ∈ e, x.isGet = false :=
    fun hr => hr.effects fun _ _ _ => rfl
  cases act with
  | new =>
    exact Chained.getsFirst
      (fun hr => hr.effects (fun _ _ _ => rfl) (fun _ _ _ => rfl) fun _ _ _ => rfl) h
  | update => exact Chained.getsFirst (Chained.effects hret fun hu => hu.effects fun _ _ => rfl) h
  | deactivate =>
    exact Chained.getsFirst (Chained.effects hret fun hd => hd.effects fun _ _ => rfl) h
  | issue =>
    exact Chained.getsFirst (Chained.effects hret fun hi x hx => (hi.effects x hx).isGet) h
  | revoke =>
    exact Chained.getsFirst (Chained.effects hret fun hr => hr.effects fun _ _ _ _ _ => rfl) h

end Gets

/-- **GET only for the directory and a nonce.** Every run of `main` does nothing at all, or its
first event is the GET of the directory the options configure (the production URL when they set
none), the only other GET is the one of the `newNonce` URL its answer named, right after it, and
every later request is a POST: every other resource is read by POST-as-GET. -/
theorem main_gets_first (host : Host) (lib : Lib) (opts : List (Char × String))
    (operands : List String) (net : List (Option CurlData)) (hooks : List Int)
    (tty : List (Option Char)) :
    GetsFirst lib ((parseOptions opts {}).elim productionUrl Options.directory)
      (main host lib opts operands ⟨net, hooks, tty, []⟩).2.io.log := by
  rcases main_cases host lib opts operands ⟨net, hooks, tty, []⟩ with
    ⟨h, -⟩ | ⟨o, act, ho, -, h⟩
  · exact .inl (by rw [h]; rfl)
  · obtain ⟨evs, hl, hrun⟩ :=
      runAction_session lib (act.config o) o.yes act (Acme.init ⟨net, hooks, tty, []⟩)
    have hd : (act.config o).directory = o.directory := by cases act <;> rfl
    have hg := hrun.getsFirst
    rw [hd] at hg
    rw [h, hl, ho]
    exact hg

/-! ## The certificate write -/

/-- The certificate writes of a word with result `ok`: none, or one as its last event, into
`dir`, of the body of the 200 answer without a problem document to the POST-as-GET right before
it; the success of that write is the result. -/
def WritesLast (lib : Lib) (dir : String) (evs : List Event) (ok : Bool) : Prop :=
  NoSave evs ∨ ∃ pre u p c, evs = pre ++ [.post u p "" (some c), .save c.body dir ok] ∧
    NoSave pre ∧ c.code = 200 ∧ respProblem lib (some c) = false

section Writes

variable {lib : Lib} {cfg : Config} {evs : List Event} {ok : Bool}

theorem WritesLast.prepend {dir : String} {pre : List Event} (hpre : NoSave pre)
    (h : WritesLast lib dir evs ok) : WritesLast lib dir (pre ++ evs) ok := by
  rcases h with h | ⟨pre', u, p, c, rfl, hn, h200, hp⟩
  · exact .inl (hpre.append h)
  · exact .inr ⟨pre ++ pre', u, p, c, (List.append_assoc _ _ _).symm, hpre.append hn, h200, hp⟩

theorem NoSave.nil : NoSave [] := fun _ _ _ h => nomatch h

theorem Booted.noSave {directory : String} {res : Option (Option Json)}
    (h : Booted lib directory evs res) : NoSave evs := by
  cases h <;> simp [NoSave]

theorem Retrieved.noSave {dir : Option Json} {res : Option (String × Option Json)}
    (h : Retrieved lib dir evs res) : NoSave evs := by
  cases h with
  | noUrl => exact .nil
  | refused _ hq _ | noLocation _ hq _ _ _ _ | adopted _ hq _ _ _ _ => exact hq.noSave

theorem Downloaded.writesLast {order : Option Json} (h : Downloaded lib cfg order evs ok) :
    WritesLast lib cfg.certdir evs ok := by
  cases h with
  | noUrl => exact .inl .nil
  | refused _ hq _ => exact .inl hq.noSave
  | saved _ hq h200 hp =>
    obtain ⟨p, c, rfl, rfl⟩ := hq.sent_of_code h200 (by decide)
    exact .inr ⟨[], _, p, c, rfl, .nil, h200, hp⟩

theorem Finalized.writesLast {orderurl : String} {order : Option Json}
    (h : Finalized lib cfg orderurl order evs ok) : WritesLast lib cfg.certdir evs ok := by
  cases h with
  | noCsr | noUrl => exact .inl .nil
  | refused _ _ hq _ => exact .inl hq.noSave
  | unfinished _ _ hq _ _ hpol => exact .inl (hq.noSave.append hpol.noSave)
  | finished _ _ hq _ _ hpol _ hdl => exact hdl.writesLast.prepend (hq.noSave.append hpol.noSave)

theorem FinishRun.writesLast {orderurl status : String} {order : Option Json}
    (h : FinishRun lib cfg orderurl status order evs ok) : WritesLast lib cfg.certdir evs ok := by
  cases h with
  | ready _ hf => exact hf.writesLast
  | unauthorized _ ha => exact .inl ha.noSave
  | unready _ ha hpol => exact .inl (ha.noSave.append hpol.noSave)
  | readied _ ha hpol _ hf => exact hf.writesLast.prepend (ha.noSave.append hpol.noSave)

theorem IssueRun.writesLast {dir : Option Json} (h : IssueRun lib cfg dir evs ok) :
    WritesLast lib cfg.certdir evs ok := by
  cases h with
  | noUrl => exact .inl .nil
  | refused _ hq _ | badStatus _ hq _ _ | noLocation _ hq _ _ _ _ => exact .inl hq.noSave
  | created _ hq _ _ _ _ hf => exact hf.writesLast.prepend hq.noSave

theorem ActionRun.writesLast {yes : Bool} {names : List String}
    (h : ActionRun lib cfg yes (.issue names) evs ok) : WritesLast lib cfg.certdir evs ok := by
  have hphase : ∀ {α : Type} {G : List Event → Option α → Prop}
      {H : α → List Event → Bool → Prop} {evs ok}, (∀ {evs res}, G evs res → NoSave evs) →
      (∀ {x evs ok}, H x evs ok → WritesLast lib cfg.certdir evs ok) →
      Chained G H evs ok → WritesLast lib cfg.certdir evs ok
    | _, _, _, _, _, hG, _, .stop hg => .inl (hG hg)
    | _, _, _, _, _, hG, hH, .next hg hh => (hH hh).prepend (hG hg)
  exact hphase Booted.noSave (hphase Retrieved.noSave IssueRun.writesLast) h

/-- `issue` succeeds exactly when its last event is a successful write of the certificate. -/
theorem ActionRun.issue_result {yes : Bool} {names : List String}
    (h : ActionRun lib cfg yes (.issue names) evs ok) : ok = true ↔ SavedLast cfg.certdir evs := by
  have hphase : ∀ {α : Type} {G : List Event → Option α → Prop}
      {H : α → List Event → Bool → Prop} {evs ok}, (∀ {evs res}, G evs res → NoSave evs) →
      (∀ {x evs ok}, H x evs ok → (ok = true ↔ SavedLast cfg.certdir evs)) →
      Chained G H evs ok → (ok = true ↔ SavedLast cfg.certdir evs)
    | _, _, _, _, _, hG, _, .stop hg => iff_of_false (by decide) (not_savedLast (hG hg))
    | _, _, _, _, _, hG, hH, .next hg hh => (hH hh).trans (savedLast_append _ (hG hg)).symm
  exact hphase Booted.noSave (hphase Retrieved.noSave IssueRun.result) h

end Writes

/-- **One certificate, written last.** Every run of `main` writes no certificate, or it is an
`issue` and writes exactly one, as its very last event, into the certificate directory of its
primary domain: the body of the 200 answer without a problem document to the POST-as-GET right
before the write; and `main` exits with success exactly when that write succeeded. -/
theorem main_writes_last (host : Host) (lib : Lib) (opts : List (Char × String))
    (operands : List String) (net : List (Option CurlData)) (hooks : List Int)
    (tty : List (Option Char)) :
    NoSave (main host lib opts operands ⟨net, hooks, tty, []⟩).2.io.log ∨
      ∃ o names pre u p c, parseOptions opts {} = some o ∧
        parseAction operands = some (.issue names) ∧
        (main host lib opts operands ⟨net, hooks, tty, []⟩).2.io.log = pre ++
          [.post u p "" (some c), .save c.body (certdir o.confdir (primaryDomain (names.headD "")))
            (main host lib opts operands ⟨net, hooks, tty, []⟩).1] ∧
        NoSave pre ∧ c.code = 200 ∧ respProblem lib (some c) = false := by
  rcases main_cases host lib opts operands ⟨net, hooks, tty, []⟩ with
    ⟨h, -⟩ | ⟨o, act, ho, hact, h⟩
  · exact .inl (by rw [h]; exact .nil)
  obtain ⟨evs, hl, hrun⟩ :=
    runAction_session lib (act.config o) o.yes act (Acme.init ⟨net, hooks, tty, []⟩)
  rw [h, hl]
  cases act with
  | issue names =>
    rcases hrun.writesLast with hn | ⟨pre, u, p, c, hevs, hn, h200, hp⟩
    · exact .inl hn
    · exact .inr ⟨o, names, pre, u, p, c, ho, hact, hevs, hn, h200, hp⟩
  | _ => exact .inl (ActionEffect.noSave hrun.effects fun _ h => nomatch h)

/-- **The exit status of `issue`.** When the operands are an `issue`, either `main` stopped before
it contacted the server, or it exits with success exactly when its last event is a successful
write of the certificate into the certificate directory of its primary domain. -/
theorem main_issue_status (host : Host) (lib : Lib) (opts : List (Char × String))
    (operands : List String) (net : List (Option CurlData)) (hooks : List Int)
    (tty : List (Option Char)) {o : Options} {names : List String}
    (ho : parseOptions opts {} = some o) (hact : parseAction operands = some (.issue names)) :
    (main host lib opts operands ⟨net, hooks, tty, []⟩).2.io.log = [] ∨
      ((main host lib opts operands ⟨net, hooks, tty, []⟩).1 = true ↔
        SavedLast (certdir o.confdir (primaryDomain (names.headD "")))
          (main host lib opts operands ⟨net, hooks, tty, []⟩).2.io.log) := by
  rcases main_cases host lib opts operands ⟨net, hooks, tty, []⟩ with
    ⟨h, -⟩ | ⟨o', act, ho', hact', h⟩
  · exact .inl (by rw [h]; rfl)
  rw [ho, Option.some_inj] at ho'
  rw [hact, Option.some_inj] at hact'
  subst ho' hact'
  obtain ⟨evs, hl, hrun⟩ :=
    runAction_session lib ((Action.issue names).config o) o.yes (.issue names)
      (Acme.init ⟨net, hooks, tty, []⟩)
  rw [h, hl]
  exact .inr hrun.issue_result

theorem main_issue_status_example :
    let host : Host := ⟨fun _ => true, fun _ => true, fun _ => true, fun _ => true, fun _ => true,
      fun _ _ => true, fun _ _ _ => false⟩
    let lib : Lib := ⟨fun _ => none, fun _ => none, fun _ _ => none, none, fun _ => none, none,
      fun _ _ => false, fun _ => none⟩
    parseOptions [] {} = some {} ∧ parseAction ["issue", "example.com"] = some (.issue ["example.com"]) ∧
      ((main host lib [] ["issue", "example.com"] ⟨[], [], [], []⟩).2.io.log = [] ∨
        ((main host lib [] ["issue", "example.com"] ⟨[], [], [], []⟩).1 = true ↔
          SavedLast (certdir ({} : Options).confdir (primaryDomain (["example.com"].headD "")))
            (main host lib [] ["issue", "example.com"] ⟨[], [], [], []⟩).2.io.log)) :=
  ⟨rfl, rfl, main_issue_status _ _ _ _ _ _ _ rfl rfl⟩

end Uacme
