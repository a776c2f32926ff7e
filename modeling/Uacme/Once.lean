import Uacme.Effects
import Uacme.Identifiers

/-!
# Uacme.Once — nothing is created twice in one run

Three requests of `uacme` create something on the ACME server: `account_new`'s request with
`termsOfServiceAgreed`, `cert_issue`'s `newOrder` request with the identifiers, and the
finalization of the order with the CSR.  None of them is ever retried: in every run of `main`,
each such body is POSTed at most once (`main_creates_once`).

The bodies `uacme` POSTs are told apart by their first four characters (`bodyTag`), so that a
creating body is never one of the others.  Counting is then phase by phase: a phase that POSTs
no creating body counts `0`, and the one `Requested` of each creating body counts at most `1`.
-/

namespace Uacme

/-- The event is a POST of the body `payload`. -/
def Event.sends (payload : String) : Event → Bool
  | .post _ _ body _ => body == payload
  | _ => false

/-- A body whose POST creates something on the server: a new account, a new order, or the
finalization of an order with a CSR. -/
def Creating (payload : String) : Prop :=
  (∃ mail, payload = newAccountPayload mail) ∨ (∃ names, payload = identifiers names) ∨
    ∃ csr, payload = csrPayload csr

/-! ## Telling the bodies apart -/

/-- The first four characters of a body. -/
def bodyTag (s : String) : List Char := s.data.take 4

/-- The tags of the creating bodies: `{"te`, `{"id` and `{"cs`. -/
def creatingTags : List (List Char) :=
  [['\x7b', '"', 't', 'e'], ['\x7b', '"', 'i', 'd'], ['\x7b', '"', 'c', 's']]

theorem bodyTag_eq {s : String} {pre : List Char} (h : pre <+: s.data) (hl : pre.length = 4) :
    bodyTag s = pre := by
  obtain ⟨t, ht⟩ := h
  rw [bodyTag, ← ht, ← hl, List.take_left]

theorem bodyTag_newAccountPayload (mail : Option String) :
    bodyTag (newAccountPayload mail) = ['\x7b', '"', 't', 'e'] := by
  cases mail <;> exact bodyTag_eq ⟨_, rfl⟩ rfl

theorem bodyTag_identifiers (names : List String) :
    bodyTag (identifiers names) = ['\x7b', '"', 'i', 'd'] :=
  bodyTag_eq ⟨_, by
    simp only [identifiers, String.data_append, foldl_entries]
    change _ = ('\x7b' :: '"' :: 'i' :: 'd' :: 'e' :: ("ntifiers\":[".data ++ _)).dropLast ++ _
    rw [List.dropLast_cons₂, List.dropLast_cons₂, List.dropLast_cons₂, List.dropLast_cons₂]
    rfl⟩ rfl

theorem bodyTag_csrPayload (csr : String) : bodyTag (csrPayload csr) = ['\x7b', '"', 'c', 's'] :=
  bodyTag_eq ⟨_, rfl⟩ rfl

theorem bodyTag_contactPayload (mail : Option String) :
    bodyTag (contactPayload mail) = ['\x7b', '"', 'c', 'o'] := by
  cases mail <;> exact bodyTag_eq ⟨_, rfl⟩ rfl

theorem bodyTag_revokePayload (crt : String) (reason : Int) :
    bodyTag (revokePayload crt reason) = ['\x7b', '"', 'c', 'e'] :=
  bodyTag_eq ⟨_, rfl⟩ rfl

section Bodies

variable {p q : String}

theorem Creating.tag (h : Creating p) : bodyTag p ∈ creatingTags := by
  rcases h with ⟨_, rfl⟩ | ⟨_, rfl⟩ | ⟨_, rfl⟩
  · rw [bodyTag_newAccountPayload]; decide
  · rw [bodyTag_identifiers]; decide
  · rw [bodyTag_csrPayload]; decide

/-- A body whose tag is not a creating one is not a creating body. -/
theorem Creating.ne (h : Creating p) (hq : bodyTag q ∉ creatingTags) : q ≠ p :=
  fun e => hq (e ▸ h.tag)

/-- A POST of another body does not send `p`. -/
theorem Event.sends_post {u : String} {prot : Protected} {r : Option CurlData} (h : q ≠ p) :
    (Event.post u prot q r).sends p = false :=
  beq_eq_false_iff_ne.2 h

/-- The bodies that only read or poll, and those of the other actions, are not creating. -/
theorem Creating.ne_empty (h : Creating p) : "" ≠ p := h.ne (by decide)

theorem Creating.ne_braces (h : Creating p) : "\x7b\x7d" ≠ p := h.ne (by decide)

theorem Creating.ne_lookup (h : Creating p) : "\x7b\"onlyReturnExisting\":true\x7d" ≠ p :=
  h.ne (by decide)

/-- Only `new`, `update` and `issue` may send a creating body. -/
theorem ActionRequest.ne_creating {lib : Lib} {cfg : Config} {act : Action}
    (hq : ActionRequest lib cfg act q) (h : Creating p)
    (hact : ∀ e names, act ≠ .new e ∧ act ≠ .issue names) : q ≠ p := by
  rcases hq with rfl | hq
  · exact h.ne_lookup
  cases act with
  | new e => exact absurd rfl (hact e []).1
  | issue names => exact absurd rfl (hact none names).2
  | update => subst hq; exact h.ne (by rw [bodyTag_contactPayload]; decide)
  | deactivate => subst hq; exact h.ne (by decide)
  | revoke => obtain ⟨_, _, rfl⟩ := hq; exact h.ne (by rw [bodyTag_revokePayload]; decide)

theorem ActionEffect.sends_eq_false {lib : Lib} {cfg : Config} {yes : Bool} {act : Action}
    {x : Event} (hx : ActionEffect lib cfg yes act x) (h : Creating p)
    (hact : ∀ e names, act ≠ .new e ∧ act ≠ .issue names) : x.sends p = false := by
  cases x with
  | post => exact Event.sends_post (ActionRequest.ne_creating hx h hact)
  | _ => rfl

/-- `authorize` POSTs only empty polls and `{}` starts. -/
theorem AuthEffect.sends_eq_false {lib : Lib} {hook : Option String} {x : Event}
    (hx : AuthEffect lib hook x) (h : Creating p) : x.sends p = false := by
  cases x with
  | post => exact Event.sends_post (hx.elim (· ▸ h.ne_empty) (· ▸ h.ne_braces))
  | _ => rfl

end Bodies

/-! ## Counting phase by phase -/

section Count

variable {lib : Lib} {cfg : Config} {p : String} {evs : List Event} {ok : Bool}

theorem countP_sends_eq_zero (h : ∀ x ∈ evs, x.sends p = false) :
    evs.countP (Event.sends p) = 0 :=
  List.countP_eq_zero.2 fun x hx => by simp [h x hx]

theorem Requested.countP_le {url q : String} {resp : Option CurlData}
    (h : Requested url q evs resp) : evs.countP (Event.sends p) ≤ 1 :=
  (List.countP_le_length _).trans (by cases h <;> simp)

theorem Requested.countP_eq_zero {url q : String} {resp : Option CurlData}
    (h : Requested url q evs resp) (hq : q ≠ p) : evs.countP (Event.sends p) = 0 :=
  countP_sends_eq_zero (h.effects fun _ _ => Event.sends_post hq)

/-- A chained pipeline whose first phase sends no `p` sends it as often as its second. -/
theorem Chained.countP_le {α : Type} {G : List Event → Option α → Prop}
    {H : α → List Event → Bool → Prop} {n : Nat}
    (hG : ∀ {e res}, G e res → e.countP (Event.sends p) = 0)
    (hH : ∀ {x e ok}, H x e ok → e.countP (Event.sends p) ≤ n) (h : Chained G H evs ok) :
    evs.countP (Event.sends p) ≤ n := by
  cases h with
  | stop hg => rw [hG hg]; exact Nat.zero_le _
  | next hg hh => rw [List.countP_append, hG hg, Nat.zero_add]; exact hH hh

/-- The finalization POSTs its CSR once; everything else it POSTs is an empty poll. -/
theorem Finalized.countP_le {orderurl : String} {order : Option Json}
    (h : Finalized lib cfg orderurl order evs ok) (hc : Creating p) :
    evs.countP (Event.sends p) ≤ 1 := by
  have hpoll : ∀ u prot r, (Event.post u prot "" r).sends p = false :=
    fun _ _ _ => Event.sends_post hc.ne_empty
  have hpolled : ∀ {target wait e ok d}, OrderPolled lib orderurl target wait e ok d →
      e.countP (Event.sends p) = 0 := fun hpol => countP_sends_eq_zero (hpol.effects (hpoll _))
  cases h with
  | noCsr | noUrl => exact Nat.zero_le _
  | refused _ _ hq _ => exact hq.countP_le
  | unfinished _ _ hq _ _ hpol => rw [List.countP_append, hpolled hpol]; exact hq.countP_le
  | finished _ _ hq _ _ hpol _ hdl =>
    rw [List.countP_append, List.countP_append, hpolled hpol,
      countP_sends_eq_zero (hdl.effects hpoll fun _ _ => rfl)]
    exact hq.countP_le

/-- The tail of `cert_issue` POSTs the CSR at most once, and no other creating body. -/
theorem FinishRun.countP_le {orderurl status : String} {order : Option Json}
    (h : FinishRun lib cfg orderurl status order evs ok) (hc : Creating p) :
    evs.countP (Event.sends p) ≤ 1 := by
  have hauth : ∀ {e ok}, AuthorizeRun lib cfg.hookProg order e ok → e.countP (Event.sends p) = 0 :=
    fun ha => countP_sends_eq_zero fun x hx => (ha.effects x hx).sends_eq_false hc
  have hpolled : ∀ {target wait e ok d}, OrderPolled lib orderurl target wait e ok d →
      e.countP (Event.sends p) = 0 :=
    fun hpol => countP_sends_eq_zero (hpol.effects fun _ _ => Event.sends_post hc.ne_empty)
  cases h with
  | ready _ hf => exact hf.countP_le hc
  | unauthorized _ ha => rw [hauth ha]; exact Nat.zero_le _
  | unready _ ha hpol => rw [List.countP_append, hauth ha, hpolled hpol]; exact Nat.zero_le _
  | readied _ ha hpol _ hf =>
    rw [List.countP_append, List.countP_append, hauth ha, hpolled hpol, Nat.zero_add]
    exact hf.countP_le hc

/-- The tail of `cert_issue` never POSTs the identifiers of an order. -/
theorem FinishRun.countP_identifiers {orderurl status : String} {order : Option Json}
    {names : List String} (h : FinishRun lib cfg orderurl status order evs ok) :
    evs.countP (Event.sends (identifiers names)) = 0 := by
  have hcsr : ∀ csr, csrPayload csr ≠ identifiers names := fun csr e => by
    have ht := congrArg bodyTag e
    rw [bodyTag_csrPayload, bodyTag_identifiers] at ht
    exact absurd ht (by decide)
  exact countP_sends_eq_zero (h.effects (fun _ hx => hx.sends_eq_false (.inr (.inl ⟨names, rfl⟩)))
    (fun csr _ _ _ _ => Event.sends_post (hcsr csr)) fun _ _ => rfl)

/-- `cert_issue` POSTs the identifiers once, then at most the CSR. -/
theorem IssueRun.countP_le {dir : Option Json} (h : IssueRun lib cfg dir evs ok) (hc : Creating p) :
    evs.countP (Event.sends p) ≤ 1 := by
  cases h with
  | noUrl => exact Nat.zero_le _
  | refused _ hq _ | badStatus _ hq _ _ | noLocation _ hq _ _ _ _ => exact hq.countP_le
  | created _ hq _ _ _ _ hf =>
    rw [List.countP_append]
    by_cases hid : identifiers cfg.names = p
    · subst hid
      rw [hf.countP_identifiers]
      exact hq.countP_le
    · rw [hq.countP_eq_zero hid, Nat.zero_add]
      exact hf.countP_le hc

/-- `account_new` POSTs the lookup, then at most the creation request. -/
theorem Registered.countP_le {mail : Option String} {yes : Bool} {dir : Option Json}
    (h : Registered lib mail yes dir evs ok) (hc : Creating p) :
    evs.countP (Event.sends p) ≤ 1 := by
  have hask : ∀ {e ok}, Agreed yes dir e ok → e.countP (Event.sends p) = 0
    | _, _, .noTerms _ | _, _, .given _ | _, _, .asked _ _ _ _ => rfl
  cases h with
  | noUrl => exact Nat.zero_le _
  | existing _ hq _ | refused _ hq _ _ => exact hq.countP_le
  | declined _ hq _ _ hag => rw [List.countP_append, hask hag]; exact hq.countP_le
  | unconfirmed _ hq _ _ hag hq3 _ | created _ hq _ _ hag hq3 _ _ _ =>
    rw [List.countP_append, List.countP_append, hask hag, hq.countP_eq_zero hc.ne_lookup,
      Nat.zero_add]
    exact hq3.countP_le

/-- Every action POSTs each creating body at most once. -/
theorem ActionRun.countP_le {yes : Bool} {act : Action} (h : ActionRun lib cfg yes act evs ok)
    (hc : Creating p) : evs.countP (Event.sends p) ≤ 1 := by
  have hboot : ∀ {d e res}, Booted lib d e res → e.countP (Event.sends p) = 0 :=
    fun hb => countP_sends_eq_zero (hb.effects fun _ _ => rfl)
  have hret : ∀ {d e res}, Retrieved lib d e res → e.countP (Event.sends p) = 0 :=
    fun hr => countP_sends_eq_zero (hr.effects fun _ _ _ => Event.sends_post hc.ne_lookup)
  cases act with
  | new => exact Chained.countP_le hboot (fun hr => hr.countP_le hc) h
  | issue => exact Chained.countP_le hboot (Chained.countP_le hret fun hi => hi.countP_le hc) h
  | _ =>
    exact (countP_sends_eq_zero fun x hx =>
      (h.effects x hx).sends_eq_false hc fun _ _ => ⟨nofun, nofun⟩).trans_le (Nat.zero_le _)

end Count

/-- **Nothing is created twice.** In every run of `main`, each body that creates something on
the server (a new account, a new order, the finalization of an order with a CSR) is POSTed at
most once. -/
theorem main_creates_once (host : Host) (lib : Lib) (opts : List (Char × String))
    (operands : List String) (net : List (Option CurlData)) (hooks : List Int)
    (tty : List (Option Char)) {payload : String} (hc : Creating payload) :
    (main host lib opts operands ⟨net, hooks, tty, []⟩).2.io.log.countP (Event.sends payload) ≤ 1 := by
  rcases main_cases host lib opts operands ⟨net, hooks, tty, []⟩ with
    ⟨h, -⟩ | ⟨o, act, -, -, h⟩
  · rw [h]
    exact Nat.zero_le _
  · obtain ⟨evs, hl, hrun⟩ :=
      runAction_session lib (act.config o) o.yes act (Acme.init ⟨net, hooks, tty, []⟩)
    rw [h, hl]
    exact hrun.countP_le hc

theorem main_creates_once_new :
    let host : Host := ⟨fun _ => true, fun _ => true, fun _ => true, fun _ => true, fun _ => true,
      fun _ _ => true, fun _ _ _ => false⟩
    let lib : Lib := ⟨fun _ => none, fun _ => none, fun _ _ => none, none, fun _ => none, none,
      fun _ _ => false, fun _ => none⟩
    Creating (newAccountPayload none) ∧
      (main host lib [] ["new"] ⟨[], [], [], []⟩).2.io.log.countP
        (Event.sends (newAccountPayload none)) ≤ 1 :=
  ⟨.inl ⟨none, rfl⟩, main_creates_once _ _ _ _ _ _ _ (.inl ⟨none, rfl⟩)⟩

end Uacme
