import Uacme.Reach
import Uacme.Trace

/-!
# Uacme.Kid — the protected header: `jwk` or the account URL

`acme_post` signs with the account URL (`kid`) when `a->kid` is non-empty and with the account
key (`jwk`) otherwise.  `account_retrieve` and `account_new` adopt the `Location` header of
their response as `a->kid` as `find_header` returns it.

* `main_kid_discipline`: in every run, the POSTs signed with a key id all name one URL `k`, the
  `Location` of the 200 answer to an account lookup signed with `jwk`; every POST before that
  lookup is signed with `jwk`, every one after it with `k`.
* `empty_location_signs_jwk`: for a header line `Location: ` the adopted URL is the empty
  string; the account is then taken as found, and every later POST goes to the URL `""` signed
  with `jwk`.
-/

namespace Uacme

/-! ## Signing discipline -/

/-- The key id a protected header names: none for `jwk`. -/
def Protected.keyId : Protected → Option String
  | .jwk _ _ => none
  | .kid _ _ k => some k

/-- Every POST among the events is signed as `acme_post` signs for `a->kid = kid`. -/
def SignedFor (kid : Option String) (evs : List Event) : Prop :=
  ∀ u p payload resp, Event.post u p payload resp ∈ evs → ∃ n, p = protectedFor kid n u

/-- The POSTs of a log signed with a key id all name one account URL `k`: the log splits at an
account lookup signed with `jwk` whose 200 answer carried `Location: k`; every POST before it is
signed with `jwk`, every one after it with `k`. -/
def KidDiscipline (l : List Event) : Prop :=
  ∀ u p payload resp k, Event.post u p payload resp ∈ l → p.keyId = some k →
    ∃ pre post u' p' c, l = pre ++ .post u' p' "\x7b\"onlyReturnExisting\":true\x7d" (some c) :: post ∧
      SignedFor none (pre ++ [.post u' p' "\x7b\"onlyReturnExisting\":true\x7d" (some c)]) ∧
      c.code = 200 ∧ findHeader c.headers "Location" = some k ∧ SignedFor (some k) post

theorem SignedFor.append {kid : Option String} {l l' : List Event} (h : SignedFor kid l)
    (h' : SignedFor kid l') : SignedFor kid (l ++ l') := fun u p payload resp hm =>
  (List.mem_append.1 hm).elim (h u p payload resp) (h' u p payload resp)

/-- Only `jwk`: no POST names a key id. -/
theorem SignedFor.keyId_none {l : List Event} (h : SignedFor none l) {u : String} {p : Protected}
    {payload : String} {resp : Option CurlData} (hm : Event.post u p payload resp ∈ l) :
    p.keyId = none := by
  obtain ⟨n, rfl⟩ := h u p payload resp hm
  rfl

/-- From the log `pre` on, every POST is signed for `kid`, which `a->kid` still holds. -/
def SignsFor (kid : Option String) (pre : List Event) (a : Acme) : Prop :=
  a.kid = kid ∧ ∃ post, a.io.log = pre ++ post ∧ SignedFor kid post

section Signs

variable {lib : Lib} {kid : Option String} {pre : List Event} {a b : Acme}

/-- Appending an event that is not a POST. -/
theorem SignsFor.log {e : Event} (he : ∀ u p payload resp, e ≠ .post u p payload resp)
    (h : SignsFor kid pre a) (hk : b.kid = a.kid) (hl : b.io.log = a.io.log ++ [e]) :
    SignsFor kid pre b := by
  obtain ⟨hka, post, hpost, hs⟩ := h
  refine ⟨hk.trans hka, post ++ [e], by rw [hl, hpost, List.append_assoc], hs.append ?_⟩
  intro u p payload resp hm
  exact absurd (List.mem_singleton.1 hm).symm (he u p payload resp)

/-- **Every move keeps the signing**: a POST is signed for the `a->kid` no move changes. -/
theorem Step.signsFor (hs : Step lib a b) (h : SignsFor kid pre a) : SignsFor kid pre b := by
  cases hs with
  | get url =>
    exact h.log (fun _ _ _ _ h => by cases h) (Step.get a url).kid (exchange_log _ _)
  | post url payload =>
    obtain ⟨hka, post, hpost, hsig⟩ := h
    refine ⟨(Step.post a url payload).kid.trans hka, ?_⟩
    rcases acmePost_log a url payload with e | ⟨n, u, resp, -, -, -, e⟩
    · exact ⟨post, e.trans hpost, hsig⟩
    · refine ⟨post ++ [_], by rw [e, hpost, List.append_assoc], hsig.append ?_⟩
      intro u' p payload' resp' hm
      obtain ⟨rfl, rfl, -, -⟩ := Event.post.inj (List.mem_singleton.1 hm)
      exact ⟨n, hka ▸ rfl⟩
  | hook prog method type ident token auth =>
    exact h.log (fun _ _ _ _ h => by cases h) rfl (hookRun_log _ _ _ _ _ _ _)
  | ask => exact h.log (fun _ _ _ _ h => by cases h) rfl (ask_log _ _)
  | save body dir => exact h.log (fun _ _ _ _ h => by cases h) rfl rfl
  | update hio hkid =>
    obtain ⟨hka, rest⟩ := h
    exact ⟨hkid.trans hka, hio ▸ rest⟩

theorem Reaches.signsFor (h : Reaches lib a b) (ha : SignsFor kid pre a) : SignsFor kid pre b :=
  h.inv _ (fun _ _ hs hx => hs.signsFor hx) ha

end Signs

section Runs

variable (lib : Lib) (cfg : Config)

/-- An `acme_post` that returned a status sent its POST, signed for `a->kid`, and holds the
headers of the answer. -/
theorem acmePost_answered {a : Acme} {url : Option String} {payload : String}
    (h : (acmePost lib a url payload).1 ≠ 0) :
    ∃ n u c, (acmePost lib a url payload).2.io.log =
        a.io.log ++ [.post u (protectedFor a.kid n u) payload (some c)] ∧
      c.code = (acmePost lib a url payload).1 ∧ (acmePost lib a url payload).2.headers = c.headers := by
  rcases acmePost_cases a url payload with e | ⟨n, u, -, -, -, e⟩ <;> rw [e] at h ⊢
  · exact absurd rfl h
  · obtain ⟨c, hc, e'⟩ := exchange_ne_zero h
    rw [e']
    exact ⟨n, u, c, by simp [Acme.receive, ← hc, World.next], rfl, rfl⟩

/-- A successful `account_retrieve` made the lookup, signed for `a->kid`, got 200 with a
`Location: k`, and adopted `k`. -/
theorem accountRetrieve_adopts {a a' : Acme} (h : accountRetrieve lib a = (true, a')) :
    ∃ n u c k, a'.io.log = a.io.log ++
        [.post u (protectedFor a.kid n u) "\x7b\"onlyReturnExisting\":true\x7d" (some c)] ∧
      c.code = 200 ∧ findHeader c.headers "Location" = some k ∧ a'.kid = some k := by
  unfold accountRetrieve at h
  split at h
  · cases h
  rename_i url _
  dsimp only at h
  split at h
  · cases h
  rename_i hok
  simp only [not_or, not_not] at hok
  obtain ⟨n, u, c, hl, hc, hh⟩ := acmePost_answered lib
    (show (acmePost lib a (some url) "\x7b\"onlyReturnExisting\":true\x7d").1 ≠ 0 by rw [hok.1]; decide)
  split at h
  · cases h
  rename_i k hk
  cases h
  exact ⟨n, u, c, k, hl, hc.trans hok.1, hh ▸ hk, rfl⟩

/-- The signing of a run from `a->kid` unset: every POST is signed with `jwk`; or the log is
POSTs signed with `jwk`, an account lookup signed with `jwk` whose 200 answer carried
`Location: k`, then POSTs signed for `k`. -/
def SignedRun (l : List Event) : Prop :=
  SignedFor none l ∨ ∃ pre post u p c k, l = pre ++ .post u p "\x7b\"onlyReturnExisting\":true\x7d" (some c) :: post ∧
    SignedFor none (pre ++ [.post u p "\x7b\"onlyReturnExisting\":true\x7d" (some c)]) ∧
    c.code = 200 ∧ findHeader c.headers "Location" = some k ∧ SignedFor (some k) post

/-- `account_retrieve` followed by a driver function that moves by `Step`s. -/
theorem retrieve_signedRun {f : Acme → Bool × Acme} (hf : ∀ a, Reaches lib a (f a).2) (a : Acme)
    (ha : SignsFor none [] a) : SignedRun (andThen (accountRetrieve lib) f a).2.io.log := by
  unfold andThen
  split
  rename_i ok a1 hp
  cases ok
  · obtain ⟨b, hab, hio⟩ := accountRetrieve_io lib a
    obtain ⟨-, post, hl, hs⟩ := hab.signsFor ha
    rw [hp] at hio
    show SignedRun a1.io.log
    exact .inl (by rw [hio, hl]; exact hs)
  · show SignedRun (f a1).2.io.log
    obtain ⟨n, u, c, k, hl, hc, hk, hkid⟩ := accountRetrieve_adopts lib hp
    obtain ⟨hnone, post, hpost, hs⟩ := ha
    have h1 : SignsFor (some k) a1.io.log a1 := ⟨hkid, [], by simp, by simp [SignedFor]⟩
    obtain ⟨-, post', hl', hs'⟩ := (hf a1).signsFor h1
    refine .inr ⟨post, post', u, protectedFor a.kid n u, c, k, by rw [hl', hl, hpost]; simp, ?_, hc, hk,
      hs'⟩
    exact hs.append fun _ _ _ _ hm => ⟨n, by
      obtain ⟨rfl, rfl, -, -⟩ := Event.post.inj (List.mem_singleton.1 hm); rw [hnone]⟩

/-- Every action run from a state with `a->kid` unset and an empty log. -/
theorem runAction_signedRun (yes : Bool) (act : Action) (w : World) (hw : w.log = []) :
    SignedRun (runAction lib cfg yes act (Acme.init w)).2.io.log := by
  have h0 : SignsFor none [] (Acme.init w) := ⟨rfl, [], by simp [Acme.init, hw], by simp [SignedFor]⟩
  have hb : ∀ {g : Acme → Bool × Acme}, (∀ a, SignsFor none [] a → SignedRun (g a).2.io.log) →
      SignedRun (andThen (acmeBootstrap lib cfg) g (Acme.init w)).2.io.log := by
    intro g hg
    have h1 := (acmeBootstrap_reaches lib cfg (Acme.init w)).signsFor h0
    unfold andThen
    split
    rename_i ok a1 hp
    rw [hp] at h1
    cases ok
    · obtain ⟨-, post, hl, hs⟩ := h1
      show SignedRun a1.io.log
      exact .inl (by rw [hl]; exact hs)
    · exact hg a1 h1
  cases act with
  | new _ =>
    refine hb fun a ha => .inl ?_
    obtain ⟨b, hab, hio⟩ := accountNew_io lib cfg yes a
    obtain ⟨-, post, hl, hs⟩ := hab.signsFor ha
    rw [hio, hl]; exact hs
  | update _ => exact hb (retrieve_signedRun lib (accountUpdate_reaches lib cfg))
  | deactivate => exact hb (retrieve_signedRun lib (accountDeactivate_reaches lib))
  | issue _ => exact hb (retrieve_signedRun lib (certIssue_reaches lib cfg))
  | revoke _ => exact hb (retrieve_signedRun lib (certRevoke_reaches lib _ _))

/-- A POST signed for `some k` names the key id `k` unless `k` is empty. -/
theorem keyId_protectedFor {k k' n u : String} (h : (protectedFor (some k) n u).keyId = some k') :
    k' = k := by
  by_cases hk : k = ""
  · simp [protectedFor, hk, Protected.keyId] at h
  · simpa [protectedFor, hk, Protected.keyId, eq_comm] using h

theorem SignedRun.kidDiscipline {l : List Event} (h : SignedRun l) : KidDiscipline l := by
  intro u p payload resp k hm hk
  rcases h with hs | ⟨pre, post, u', p', c, k', rfl, hpre, hc, hloc, hpost⟩
  · rw [hs.keyId_none hm] at hk; cases hk
  · rw [← List.singleton_append, ← List.append_assoc] at hm
    rcases List.mem_append.1 hm with hm | hm
    · rw [hpre.keyId_none hm] at hk; cases hk
    · obtain ⟨n, rfl⟩ := hpost u p payload resp hm
      obtain rfl := keyId_protectedFor hk
      exact ⟨pre, post, u', p', c, rfl, hpre, hc, hloc, hpost⟩

end Runs

/-- **Account URL discipline of every run.** For every command line, every sequence of server
responses and every hook and operator answer, the POSTs of the run that are signed with a key
id all name one URL `k`: the run splits at an account lookup (`onlyReturnExisting`) signed with
`jwk` whose 200 answer carried `Location: k`; every POST up to it is signed with `jwk`, every
one after it with `k`. -/
theorem main_kid_discipline (host : Host) (lib : Lib) (opts : List (Char × String))
    (operands : List String) (net : List (Option CurlData)) (hooks : List Int)
    (tty : List (Option Char)) :
    KidDiscipline (main host lib opts operands ⟨net, hooks, tty, []⟩).2.io.log := by
  rcases main_cases host lib opts operands ⟨net, hooks, tty, []⟩ with ⟨h, -⟩ | ⟨o, act, -, -, h⟩
  · rw [h]; intro _ _ _ _ _ hm; cases hm
  · rw [h]; exact (runAction_signedRun lib _ _ act _ rfl).kidDiscipline

/-! ## The empty account URL -/

/-- `uacme deactivate` against a server whose account lookup answers `Location: ` (empty):
the lookup succeeds with the empty account URL, and the deactivation is handed to `curl_post`
for the URL `""` with a `jwk` header (carrying the nonce of the lookup response); the transfer
then fails. -/
theorem empty_location_signs_jwk :
    let lib : Lib := ⟨fun b => if b = "dir" then some (.object [("newNonce", .string "https://a/nn"),
        ("newAccount", .string "https://a/na")]) else if b = "acct" then
        some (.object [("status", .string "valid")]) else none,
      fun _ => some "p", fun _ _ => some "j", none, fun _ => none, none, fun _ _ => false,
      fun _ => none⟩
    let host : Host := ⟨fun _ => true, fun _ => true, fun _ => true, fun _ => true, fun _ => true,
      fun _ _ => true, fun _ _ _ => false⟩
    let w : World := ⟨[some ⟨200, "Replay-Nonce: n0\r\nContent-Type: application/json\r\n", "dir"⟩,
      some ⟨204, "Replay-Nonce: n1\r\n", ""⟩,
      some ⟨200, "Replay-Nonce: n2\r\nContent-Type: application/json\r\nLocation: \r\n", "acct"⟩],
      [], [], []⟩
    let r := main host lib [] ["deactivate"] w
    r.2.kid = some "" ∧ ∃ payload, r.2.io.log.getLast? = some (.post "" (.jwk "n2" "") payload none) :=
  ⟨rfl, _, rfl⟩

end Uacme
