import Uacme.Trace
import Uacme.Account

/-!
# Uacme.Creation — `account_new` as a grammar of its events, and when it creates an account

`account_new` first looks its key up (`onlyReturnExisting`); only a 400 answer carrying the
`accountDoesNotExist` problem document leads on, through the terms of service (none, `-y`, or
the operator's `y`), to the creation request.  `Registered` is this as a grammar of the events,
and every run of `account_new` is one of its words (`accountNew_registered`).
`accountNew_creation_gated` reads the gates off every word: a creation request is the last of
exactly these events, and a successful call had it answered 201 with a `valid` account and a
`Location`.
-/

namespace Uacme

/-- The `accountDoesNotExist` problem document `account_new` looks for in a 400 answer: the
test of `accountMissing` on what `acme_post` keeps of the response. -/
def respMissing (lib : Lib) (resp : Option CurlData) : Bool :=
  (respJson lib resp).isSome && caseEq (respType resp) "application/problem+json" &&
    jsonCompareString (respJson lib resp) "type" "urn:ietf:params:acme:error:accountDoesNotExist" == 0

/-- The terms of service the directory names. -/
def termsOf (dir : Option Json) : Option String := jsonFindString (jsonFind dir "meta") "termsOfService"

/-! ## The grammar -/

section Grammar

variable (lib : Lib)

/-- The terms of service: agreed without a question when the directory names none or `-y` was
given, and otherwise by the operator's answer. -/
inductive Agreed (yes : Bool) (dir : Option Json) : List Event → Bool → Prop
  | noTerms : termsOf dir = none → Agreed yes dir [] true
  | given : yes = true → Agreed yes dir [] true
  | asked (t : String) (c : Option Char) : termsOf dir = some t → yes = false →
      Agreed yes dir [.ask (termsPrompt t) c] (agreed c)

/-- `account_new`: the lookup fails on an existing account (200) and on anything but the
`accountDoesNotExist` document in a 400 answer; after that answer and the terms, the creation
request succeeds when it is answered 201 with no problem document, status `valid` and a
`Location`. -/
inductive Registered (mail : Option String) (yes : Bool) (dir : Option Json) :
    List Event → Bool → Prop
  | noUrl : jsonFindString dir "newAccount" = none → Registered mail yes dir [] false
  | existing {url e resp} : jsonFindString dir "newAccount" = some url →
      Requested url "\x7b\"onlyReturnExisting\":true\x7d" e resp → respCode resp = 200 →
      Registered mail yes dir e false
  | refused {url e resp} : jsonFindString dir "newAccount" = some url →
      Requested url "\x7b\"onlyReturnExisting\":true\x7d" e resp → respCode resp ≠ 200 →
      (respCode resp ≠ 400 ∨ respMissing lib resp = false) → Registered mail yes dir e false
  | declined {url e resp e2} : jsonFindString dir "newAccount" = some url →
      Requested url "\x7b\"onlyReturnExisting\":true\x7d" e resp → respCode resp = 400 →
      respMissing lib resp = true → Agreed yes dir e2 false → Registered mail yes dir (e ++ e2) false
  | unconfirmed {url e resp e2 e3 resp3} : jsonFindString dir "newAccount" = some url →
      Requested url "\x7b\"onlyReturnExisting\":true\x7d" e resp → respCode resp = 400 →
      respMissing lib resp = true → Agreed yes dir e2 true →
      Requested url (newAccountPayload mail) e3 resp3 →
      (respCode resp3 ≠ 201 ∨ respProblem lib resp3 = true ∨
        jsonCompareString (respJson lib resp3) "status" "valid" ≠ 0) →
      Registered mail yes dir (e ++ e2 ++ e3) false
  | created {url e resp e2 e3 resp3} : jsonFindString dir "newAccount" = some url →
      Requested url "\x7b\"onlyReturnExisting\":true\x7d" e resp → respCode resp = 400 →
      respMissing lib resp = true → Agreed yes dir e2 true →
      Requested url (newAccountPayload mail) e3 resp3 → respCode resp3 = 201 →
      respProblem lib resp3 = false → jsonCompareString (respJson lib resp3) "status" "valid" = 0 →
      Registered mail yes dir (e ++ e2 ++ e3) (findHeader (respHeaders resp3) "Location").isSome

end Grammar

/-! ## The gates -/

/-- The events of `account_new` from a state with the directory `dir` send a creation request
only to the `newAccount` URL, right after a lookup of it answered 400 with the
`accountDoesNotExist` problem document, with in between nothing when the directory names no
terms or `-y` was given, and otherwise the operator's agreement. -/
def CreatesAfterGates (lib : Lib) (cfg : Config) (yes : Bool) (dir : Option Json)
    (evs : List Event) : Prop :=
  ∀ u p resp, Event.post u p (newAccountPayload cfg.mail) resp ∈ evs →
    jsonFindString dir "newAccount" = some u ∧
    ∃ p0 c mid, evs = .post u p0 "\x7b\"onlyReturnExisting\":true\x7d" (some c) ::
        (mid ++ [.post u p (newAccountPayload cfg.mail) resp]) ∧
      c.code = 400 ∧ respMissing lib (some c) = true ∧
      (mid = [] ∧ (termsOf dir = none ∨ yes = true) ∨
        ∃ t ch, termsOf dir = some t ∧ mid = [.ask (termsPrompt t) ch] ∧ agreed ch = true ∧
          yes = false)

/-- The events of `account_new` from a state with the directory `dir`, and its result. -/
structure CreationGated (lib : Lib) (cfg : Config) (yes : Bool) (dir : Option Json)
    (evs : List Event) (ok : Bool) : Prop where
  gated : CreatesAfterGates lib cfg yes dir evs
  /-- The call succeeds only when the creation, its last event, was answered 201, not a problem
  document, with status `valid` and a `Location`. -/
  created : ok = true → ∃ u p c, evs.getLast? = some (.post u p (newAccountPayload cfg.mail) (some c)) ∧
    c.code = 201 ∧ respProblem lib (some c) = false ∧
    jsonCompareString (respJson lib (some c)) "status" "valid" = 0 ∧
    (findHeader c.headers "Location").isSome = true

section Creation

variable (lib : Lib) (cfg : Config)

theorem newAccountPayload_ne_lookup (m : Option String) :
    newAccountPayload m ≠ "\x7b\"onlyReturnExisting\":true\x7d" := by
  cases m with
  | none => decide
  | some e =>
    intro h
    have hl := congrArg String.length h
    rw [newAccountPayload, String.length_append, String.length_append] at hl
    have h1 : ("\x7b\"onlyReturnExisting\":true\x7d" : String).length = 27 := by decide
    have h2 : ("\x7b\"termsOfServiceAgreed\":true,\"contact\": [\"mailto:" : String).length = 49 := by
      decide
    omega

/-- Events without a creation request gate nothing, and the call they end failed. -/
theorem CreationGated.of_none {yes : Bool} {dir : Option Json} {evs : List Event}
    (h : ∀ u p resp, Event.post u p (newAccountPayload cfg.mail) resp ∉ evs) :
    CreationGated lib cfg yes dir evs false :=
  ⟨fun u p resp hm => absurd hm (h u p resp), fun h => by cases h⟩

/-- The lookup is no creation request. -/
theorem Requested.no_creation {url : String} {e : List Event} {resp : Option CurlData}
    (h : Requested url "\x7b\"onlyReturnExisting\":true\x7d" e resp) (u : String) (p : Protected)
    (resp' : Option CurlData) : Event.post u p (newAccountPayload cfg.mail) resp' ∉ e := by
  cases h with
  | unsent => exact List.not_mem_nil _
  | sent =>
    intro hm
    obtain ⟨-, -, hp, -⟩ := Event.post.inj (List.mem_singleton.1 hm)
    exact newAccountPayload_ne_lookup _ hp

theorem acmePost_dir (a : Acme) (url : Option String) (payload : String) :
    (acmePost lib a url payload).2.dir = a.dir := by
  rcases acmePost_cases a url payload with e | ⟨n, u, -, -, -, e⟩ <;> rw [e]
  · rfl
  · simp only [Acme.exchange]; split <;> rfl

theorem agreeTerms_agreed (yes : Bool) (a : Acme) :
    Appends a (Agreed yes a.dir) (agreeTerms yes a) := by
  unfold agreeTerms
  split
  · exact ⟨[], by simp, .noTerms ‹_›⟩
  · rename_i t ht
    cases yes
    · exact ⟨_, ask_log a _, .asked t _ ht rfl⟩
    · exact ⟨[], by simp, .given rfl⟩

theorem accountNew_registered (yes : Bool) (a : Acme) :
    Appends a (Registered lib cfg.mail yes a.dir) (accountNew lib cfg yes a) := by
  unfold accountNew
  split
  · exact ⟨[], by simp, .noUrl ‹_›⟩
  rename_i url hurl
  split
  rename_i r a1 hp
  obtain ⟨e, resp, hl, hq, hr, hj, -, -, ht, -⟩ := acmePost_requested lib hp
  have hd := acmePost_dir lib a (some url) "\x7b\"onlyReturnExisting\":true\x7d"
  rw [hp] at hd
  dsimp only at hd
  have hm : accountMissing a1 = respMissing lib resp := by rw [accountMissing, hj, ht]; rfl
  by_cases h200 : r = 200
  · rw [if_pos h200]; exact ⟨e, hl, .existing hurl hq (hr ▸ h200)⟩
  rw [if_neg h200]
  by_cases hc : r ≠ 400 ∨ accountMissing a1 = false
  · rw [if_pos hc]; exact ⟨e, hl, .refused hurl hq (hr ▸ h200) (by rwa [hr, hm] at hc)⟩
  rw [if_neg hc]
  obtain ⟨h400, hmiss⟩ : respCode resp = 400 ∧ respMissing lib resp = true := by
    rw [← hr, ← hm]; simpa [not_or] using hc
  split
  rename_i ok a2 hp2
  obtain ⟨e2, hl2, hag⟩ := agreeTerms_agreed yes a1
  rw [hp2] at hl2 hag
  dsimp only at hl2 hag
  rw [hd] at hag
  cases ok
  · rw [if_pos (show (!false) = true from rfl)]
    exact ⟨e ++ e2, by rw [hl2, hl, List.append_assoc],
      .declined hurl hq h400 hmiss hag⟩
  rw [if_neg (by decide)]
  split
  rename_i r3 a3 hp3
  obtain ⟨e3, resp3, hl3, hq3, hr3, hj3, hh3, -, -, he3⟩ := acmePost_requested lib hp3
  have hlog : a3.io.log = a.io.log ++ (e ++ e2 ++ e3) := by simp [hl3, hl2, hl]
  by_cases hc3 : r3 ≠ 201 ∨ acmeError a3 = true ∨ jsonCompareString a3.json "status" "valid" ≠ 0
  · rw [if_pos hc3]
    exact ⟨_, hlog, .unconfirmed hurl hq h400 hmiss hag hq3 (by rwa [hr3, he3, hj3] at hc3)⟩
  rw [if_neg hc3]
  obtain ⟨h201, hnp, hv⟩ : respCode resp3 = 201 ∧ respProblem lib resp3 = false ∧
      jsonCompareString (respJson lib resp3) "status" "valid" = 0 := by
    rw [← hr3, ← he3, ← hj3]; simpa [not_or] using hc3
  exact ⟨_, hlog, hh3 ▸ .created hurl hq h400 hmiss hag hq3 h201 hnp hv⟩

/-- The terms agreed to, as `CreatesAfterGates` states them. -/
theorem Agreed.gate {yes : Bool} {dir : Option Json} {mid : List Event} {ok : Bool}
    (h : Agreed yes dir mid ok) (hok : ok = true) :
    mid = [] ∧ (termsOf dir = none ∨ yes = true) ∨
      ∃ t ch, termsOf dir = some t ∧ mid = [.ask (termsPrompt t) ch] ∧ agreed ch = true ∧
        yes = false := by
  cases h with
  | noTerms ht => exact .inl ⟨rfl, .inl ht⟩
  | given hy => exact .inl ⟨rfl, .inr hy⟩
  | asked t c ht hy => exact .inr ⟨t, c, ht, rfl, hok, hy⟩

theorem Agreed.no_creation {yes : Bool} {dir : Option Json} {mid : List Event} {ok : Bool}
    (h : Agreed yes dir mid ok) (u : String) (p : Protected) (resp : Option CurlData) :
    Event.post u p (newAccountPayload cfg.mail) resp ∉ mid := by
  cases h <;> simp

/-- The events from the lookup on: the lookup answered 400 with the `accountDoesNotExist`
document, the terms agreed to, the creation request. -/
theorem gated_of_lookup {yes : Bool} {dir : Option Json} {url : String} (p0 : Protected)
    {c : CurlData} {mid e3 : List Event} {resp3 : Option CurlData}
    (hurl : jsonFindString dir "newAccount" = some url) (hc : c.code = 400)
    (hm : respMissing lib (some c) = true)
    (hmid : mid = [] ∧ (termsOf dir = none ∨ yes = true) ∨
      ∃ t ch, termsOf dir = some t ∧ mid = [.ask (termsPrompt t) ch] ∧ agreed ch = true ∧
        yes = false)
    (hq : Requested url (newAccountPayload cfg.mail) e3 resp3) :
    CreatesAfterGates lib cfg yes dir
      (.post url p0 "\x7b\"onlyReturnExisting\":true\x7d" (some c) :: (mid ++ e3)) := by
  intro u p resp h
  have h3 : Event.post u p (newAccountPayload cfg.mail) resp ∈ e3 := by
    rcases List.mem_cons.1 h with h | h
    · exact absurd (Event.post.inj h).2.2.1 (newAccountPayload_ne_lookup _)
    · refine (List.mem_append.1 h).resolve_left ?_
      rcases hmid with ⟨rfl, -⟩ | ⟨t, ch, -, rfl, -⟩ <;> simp
  cases hq with
  | unsent => cases h3
  | sent p3 =>
    obtain ⟨rfl, rfl, -, rfl⟩ := Event.post.inj (List.mem_singleton.1 h3)
    exact ⟨hurl, p0, c, mid, rfl, hc, hm, hmid⟩

/-- Every word of `account_new` is gated. -/
theorem Registered.creationGated {yes : Bool} {dir : Option Json} {evs : List Event} {ok : Bool}
    (h : Registered lib cfg.mail yes dir evs ok) : CreationGated lib cfg yes dir evs ok := by
  cases h with
  | noUrl => exact CreationGated.of_none lib cfg fun _ _ _ h => nomatch h
  | existing _ hq => exact CreationGated.of_none lib cfg (hq.no_creation cfg)
  | refused _ hq => exact CreationGated.of_none lib cfg (hq.no_creation cfg)
  | declined _ hq _ _ ha =>
    exact CreationGated.of_none lib cfg fun u p r hm =>
      (List.mem_append.1 hm).elim (hq.no_creation cfg u p r) (ha.no_creation cfg u p r)
  | unconfirmed hurl hq h400 hm ha hq3 =>
    obtain ⟨p0, c, rfl, rfl⟩ := hq.sent_of_code h400 (by decide)
    exact ⟨gated_of_lookup lib cfg p0 hurl h400 hm (ha.gate rfl) hq3, fun h => nomatch h⟩
  | created hurl hq h400 hm ha hq3 h201 hnp hv =>
    obtain ⟨p0, c, rfl, rfl⟩ := hq.sent_of_code h400 (by decide)
    obtain ⟨p3, c3, rfl, rfl⟩ := hq3.sent_of_code h201 (by decide)
    exact ⟨gated_of_lookup lib cfg p0 hurl h400 hm (ha.gate rfl) (.sent p3 (some c3)),
      fun hloc => ⟨_, p3, c3, List.getLast?_concat _, h201, hnp, hv, hloc⟩⟩

/-- **Account creation is gated.** For every directory, every sequence of server responses and
every operator answer, `account_new` sends the account creation request only to the `newAccount`
URL, right after a lookup of it answered 400 with the `accountDoesNotExist` problem document,
with nothing in between when the directory names no terms of service or `-y` was given and
otherwise the operator's `y`; and it succeeds only when that request, its last event, was
answered 201, not a problem document, with status `valid` and a `Location`. -/
theorem accountNew_creation_gated (yes : Bool) (a : Acme) :
    Appends a (CreationGated lib cfg yes a.dir) (accountNew lib cfg yes a) :=
  let ⟨evs, hl, hreg⟩ := accountNew_registered lib cfg yes a
  ⟨evs, hl, hreg.creationGated lib cfg⟩

end Creation

end Uacme
