import Uacme.Main

/-!
# Uacme.Nonce — every POST carries the nonce of the response just before it

`NonceChain log`: every POST of the log carries in its protected header the `Replay-Nonce`
that the HTTP response immediately before it (among the GETs and POSTs) carried; in particular
no POST follows a response without one.  The driver keeps this along every run of `main`
(`main_nonce_chain`).

The state invariant is `Fresh`: the nonce held is the `Replay-Nonce` of the last response.  A
transfer that completes restores it; a failed one breaks it (the old nonce stays while the
last exchange carried none), but then the primitive returns `0`, which no caller accepts, and
every caller stops sending.  So the property each driver function keeps is `KeepsChain`: from a
fresh state with a chained log, the log stays chained, and the state is fresh again whenever
the function succeeds.
-/

namespace Uacme

/-! ## Logs -/

/-- A GET or a POST. -/
def Event.isHttp : Event → Bool
  | .get _ _ | .post _ _ _ _ => true
  | _ => false

/-- The `Replay-Nonce` of the response an exchange got (none when the call failed). -/
def Event.replayNonce : Event → Option String
  | .get _ (some c) | .post _ _ _ (some c) => findHeader c.headers "Replay-Nonce"
  | _ => none

/-- The nonce in the protected header of a POST. -/
def Event.postNonce : Event → Option String
  | .post _ p _ _ => some p.nonce
  | _ => none

/-- The exchanges of a log, in order. -/
def httpLog (l : List Event) : List Event := l.filter Event.isHttp

/-- The `Replay-Nonce` of the last response of a log. -/
def lastNonce (l : List Event) : Option String := (httpLog l).getLast?.bind Event.replayNonce

/-- Every POST carries the `Replay-Nonce` of the response immediately before it. -/
def NonceChain (l : List Event) : Prop :=
  ∀ pre e post n, httpLog l = pre ++ e :: post → e.postNonce = some n →
    pre.getLast?.bind Event.replayNonce = some n

/-- The nonce held is the one the last response carried. -/
def Fresh (a : Acme) : Prop := a.nonce = lastNonce a.io.log

theorem nonceChain_nil : NonceChain [] := by
  intro pre e post n h
  simp [httpLog] at h

theorem httpLog_append_nonHttp (l : List Event) {e : Event} (he : e.isHttp = false) :
    httpLog (l ++ [e]) = httpLog l := by
  simp [httpLog, he]

theorem httpLog_append_http (l : List Event) {e : Event} (he : e.isHttp = true) :
    httpLog (l ++ [e]) = httpLog l ++ [e] := by
  simp [httpLog, he]

theorem nonceChain_of_append_nonHttp {l : List Event} {e : Event} (he : e.isHttp = false)
    (h : NonceChain l) : NonceChain (l ++ [e]) := by
  unfold NonceChain; rw [httpLog_append_nonHttp l he]; exact h

theorem lastNonce_append_nonHttp (l : List Event) {e : Event} (he : e.isHttp = false) :
    lastNonce (l ++ [e]) = lastNonce l := by
  rw [lastNonce, httpLog_append_nonHttp l he, lastNonce]

theorem lastNonce_append_http (l : List Event) {e : Event} (he : e.isHttp = true) :
    lastNonce (l ++ [e]) = e.replayNonce := by
  rw [lastNonce, httpLog_append_http l he, List.getLast?_concat]; rfl

/-- An exchange may be appended to a chained log when it is a GET, or a POST carrying the
last response's nonce. -/
theorem nonceChain_append_http {l : List Event} {e : Event} (he : e.isHttp = true)
    (h : NonceChain l) (hn : ∀ n, e.postNonce = some n → lastNonce l = some n) :
    NonceChain (l ++ [e]) := by
  intro pre e' post n hl he'
  have hl' : httpLog l ++ [e] = pre ++ e' :: post := httpLog_append_http l he ▸ hl
  rcases List.eq_nil_or_concat post with rfl | ⟨post', x, rfl⟩
  · obtain ⟨rfl, h2⟩ := List.append_inj' hl'.symm rfl
    obtain rfl : e' = e := by simpa using h2
    exact hn n he'
  · have h3 : (pre ++ e' :: post') ++ [x] = httpLog l ++ [e] := by simpa using hl'.symm
    exact h pre e' post' n (List.append_inj' h3 rfl).1.symm he'

/-- The index form of the chain: the POST at position `i` of the exchanges follows, at `i - 1`,
a response that carried its nonce. -/
theorem NonceChain.prev {l : List Event} (h : NonceChain l) {i : Nat} {n : String}
    (hi : (httpLog l)[i]?.bind Event.postNonce = some n) :
    ∃ k, i = k + 1 ∧ (httpLog l)[k]?.bind Event.replayNonce = some n := by
  obtain ⟨e, he, hn⟩ := Option.bind_eq_some.1 hi
  obtain ⟨hlt, rfl⟩ := List.getElem?_eq_some_iff.1 he
  have hp := h ((httpLog l).take i) _ ((httpLog l).drop (i + 1)) n
    (by rw [← List.drop_eq_getElem_cons hlt, List.take_append_drop]) hn
  rw [List.getLast?_take] at hp
  cases i with
  | zero => simp at hp
  | succ k =>
    have hk : k < (httpLog l).length := by omega
    exact ⟨k, rfl, by simpa [List.getElem?_eq_getElem hk] using hp⟩

/-- Two POSTs sign with one nonce only if two responses carried it. -/
def NonceReuseIssued (l : List Event) : Prop :=
  ∀ (i j : Nat) (n : String), i < j → (httpLog l)[i]?.bind Event.postNonce = some n →
    (httpLog l)[j]?.bind Event.postNonce = some n →
    ∃ i' j' : Nat, i' < j' ∧ (httpLog l)[i']?.bind Event.replayNonce = some n ∧
      (httpLog l)[j']?.bind Event.replayNonce = some n

theorem NonceChain.reuse {l : List Event} (h : NonceChain l) : NonceReuseIssued l := by
  intro i j n hij hi hj
  obtain ⟨k, rfl, hk⟩ := h.prev hi
  obtain ⟨m, rfl, hm⟩ := h.prev hj
  exact ⟨k, m, by omega, hk, hm⟩

/-! ## The invariant and the primitives -/

/-- The driver's invariant: a chained log and a fresh nonce. -/
structure Good (a : Acme) : Prop where
  chain : NonceChain a.io.log
  fresh : Fresh a

/-- A driver result: the log is chained, and the state is good when the function succeeded. -/
def Ok (p : Bool × Acme) : Prop := NonceChain p.2.io.log ∧ (p.1 = true → Good p.2)

/-- A transfer result: the log is chained, and the state is good when a response arrived. -/
def OkN (p : Nat × Acme) : Prop := NonceChain p.2.io.log ∧ (p.1 ≠ 0 → Good p.2)

/-- A driver function keeps the log chained from a good state and leaves a good state when it
succeeds. -/
def KeepsChain (f : Acme → Bool × Acme) : Prop := ∀ a, Good a → Ok (f a)

theorem Good.congr {a b : Acme} (h : Good a) (hn : b.nonce = a.nonce) (hl : b.io.log = a.io.log) :
    Good b :=
  ⟨hl ▸ h.chain, by rw [Fresh, hn, hl]; exact h.fresh⟩

/-- A failure that leaves a chained log keeps the chain. -/
theorem Ok.stop {a : Acme} (h : NonceChain a.io.log) : Ok (false, a) :=
  ⟨h, fun h => absurd h Bool.false_ne_true⟩

theorem Ok.good {a : Acme} (b : Bool) (h : Good a) : Ok (b, a) := ⟨h.chain, fun _ => h⟩

/-- `let (ok, a) := f a; if (!ok) goto out; ...`: a failure stops with the chain, a success
continues from a good state. -/
theorem Ok.guard {ok : Bool} {a : Acme} (h : Ok (ok, a)) {q : Bool × Acme} (hq : Good a → Ok q) :
    Ok (if !ok then (false, a) else q) := by
  cases ok
  · exact Ok.stop h.1
  · exact hq (h.2 rfl)

/-- A branch of a driver function keeps the chain when both arms do. -/
theorem Ok.ite {c : Prop} [Decidable c] {x y : Bool × Acme} (hx : c → Ok x) (hy : ¬c → Ok y) :
    Ok (if c then x else y) :=
  iteInduction (motive := Ok) hx hy

/-- A driver result read off a transfer whose success needs a response. -/
theorem OkN.ok {p : Nat × Acme} (hp : OkN p) {b : Bool} (hb : b = true → p.1 ≠ 0) : Ok (b, p.2) :=
  ⟨hp.1, fun h => hp.2 (hb h)⟩

theorem protectedFor_nonce (kid : Option String) (n u : String) :
    (protectedFor kid n u).nonce = n := by
  unfold protectedFor; split
  · split <;> rfl
  · rfl

section Primitives

variable (lib : Lib)

/-- A transfer logged as an exchange keeps the chain when the exchange may be appended, and
leaves a fresh nonce when it completed. -/
theorem exchange_ok {a : Acme} {ev : Option CurlData → Event} (hhttp : ∀ c, (ev c).isHttp = true)
    (hrn : ∀ c, (ev (some c)).replayNonce = findHeader c.headers "Replay-Nonce")
    (hchain : NonceChain (a.io.log ++ [ev a.io.next])) : OkN (a.exchange lib ev) := by
  unfold Acme.exchange
  split
  · rename_i hn
    exact ⟨by simpa [hn] using hchain, fun h => absurd rfl h⟩
  · rename_i c hn
    refine ⟨by simpa [hn, Acme.receive] using hchain, fun _ => ⟨by simpa [hn, Acme.receive] using hchain, ?_⟩⟩
    simp [Fresh, Acme.receive, lastNonce_append_http _ (hhttp _), hrn]

theorem acmeGet_ok {a : Acme} (url : String) (h : Good a) : OkN (acmeGet lib a url) :=
  exchange_ok lib (fun _ => rfl) (fun _ => rfl)
    (nonceChain_append_http rfl h.chain (fun _ h => by simp [Event.postNonce] at h))

/-- A POST carries the nonce of the last response, so it keeps the chain. -/
theorem acmePost_ok {a : Acme} (url : Option String) (payload : String) (h : Good a) :
    OkN (acmePost lib a url payload) := by
  rcases acmePost_cases a url payload with e | ⟨n, u, hn, -, -, e⟩
  · rw [e]; exact ⟨h.chain, fun h => absurd rfl h⟩
  · rw [e]
    refine exchange_ok lib (fun _ => rfl) (fun _ => rfl)
      (nonceChain_append_http rfl h.chain fun m hm => ?_)
    simp only [Event.postNonce, protectedFor_nonce, Option.some.injEq] at hm
    rw [← hm, ← hn]; exact h.fresh.symm

theorem postExpect_ok {a : Acme} (code : Nat) (url : Option String) (payload : String)
    (hc : code ≠ 0) (h : Good a) : Ok (postExpect lib code a url payload) := by
  obtain ⟨h1, h2⟩ := acmePost_ok lib url payload h
  refine ⟨h1, fun hok => h2 fun h0 => ?_⟩
  simp [postExpect_fst, h0, hc.symm] at hok

theorem logged_good {a : Acme} (ev : Event) (he : ev.isHttp = false) (h : Good a) :
    Good (a.logged ev) :=
  ⟨nonceChain_of_append_nonHttp he h.chain, by
    simp only [Fresh, logged_log, lastNonce_append_nonHttp _ he]; exact h.fresh⟩

theorem hookRun_good {a : Acme} (prog method type ident token auth : String) (h : Good a) :
    Good (hookRun a prog method type ident token auth).2 :=
  (logged_good (.hook prog method type ident token auth _) rfl h).congr rfl rfl

theorem ask_good {a : Acme} (prompt : String) (h : Good a) : Good (ask a prompt).2 :=
  (logged_good (.ask prompt _) rfl h).congr rfl rfl

theorem certSave_good {a : Acme} (body dir : String) (h : Good a) :
    Good (certSave lib a body dir).2 :=
  logged_good (.save body dir _) rfl h

end Primitives

/-! ## The driver functions -/

section Drivers

variable (lib : Lib) (cfg : Config)

theorem acmeBootstrap_keeps : KeepsChain (acmeBootstrap lib cfg) := by
  intro a h
  obtain ⟨c1, g1⟩ := acmeGet_ok lib cfg.directory h
  unfold acmeBootstrap; dsimp only
  refine Ok.ite (fun _ => Ok.stop c1) fun hr => ?_
  have h1 := g1 (by simp only [not_or, not_not] at hr; omega)
  split
  · exact Ok.stop c1
  · refine OkN.ok ?_ fun hok => ?_
    · exact acmeGet_ok lib _ (h1.congr rfl rfl)
    · simp at hok; omega

theorem agreeTerms_good (yes : Bool) {a : Acme} (h : Good a) : Good (agreeTerms yes a).2 := by
  unfold agreeTerms
  split
  · exact h
  · split
    · exact h
    · exact ask_good _ h

theorem accountNew_keeps (yes : Bool) : KeepsChain (accountNew lib cfg yes) := by
  intro a h
  unfold accountNew
  split
  · exact Ok.good _ h
  split
  rename_i r a1 hp1
  obtain ⟨c1, g1⟩ : OkN (r, a1) := hp1 ▸ acmePost_ok lib _ _ h
  refine Ok.ite (fun _ => Ok.stop c1) fun _ => Ok.ite (fun _ => Ok.stop c1) fun hbad => ?_
  have h1 : Good a1 := g1 (by simp only [not_or, not_not] at hbad; simp [hbad.1])
  split
  rename_i ok a2 hp2
  have h2 : Good a2 := by simpa [hp2] using agreeTerms_good yes h1
  refine Ok.ite (fun _ => Ok.stop h2.chain) fun _ => ?_
  split
  rename_i r3 a3 hp3
  obtain ⟨c3, g3⟩ : OkN (r3, a3) := hp3 ▸ acmePost_ok lib _ _ h2
  refine Ok.ite (fun _ => Ok.stop c3) fun h201 => ?_
  simp only [not_or, not_not] at h201
  exact Ok.good _ ((g3 (by simp [h201.1])).congr rfl rfl)

theorem accountRetrieve_keeps : KeepsChain (accountRetrieve lib) := by
  intro a h
  unfold accountRetrieve
  split
  · exact Ok.good _ h
  split
  rename_i r a1 hp1
  obtain ⟨c1, g1⟩ : OkN (r, a1) := hp1 ▸ acmePost_ok lib _ _ h
  refine Ok.ite (fun _ => Ok.stop c1) fun hr => ?_
  have h1 : Good a1 := g1 (by simp only [not_or, not_not] at hr; simp [hr.1])
  split
  · exact Ok.good _ (h1.congr rfl rfl)
  · exact Ok.good _ (h1.congr rfl rfl)

theorem accountUpdate_keeps : KeepsChain (accountUpdate lib cfg) := by
  intro a h
  unfold accountUpdate
  split
  · exact Ok.good _ h
  · exact Ok.good _ h
  · exact postExpect_ok lib 200 _ _ (by decide) h

theorem accountDeactivate_keeps : KeepsChain (accountDeactivate lib) :=
  fun _ h => postExpect_ok lib 200 _ _ (by decide) h

/-- Every round of the challenge poll is a POST that carries the last nonce. -/
theorem pollChallenge_keeps (url : String) : KeepsChain (pollChallenge lib url) :=
  pollChallenge_induction lib Good Ok url
    (fun _ h h200 => (acmePost_ok lib _ _ h).2 (by simp [h200]))
    (fun _ h => Ok.stop (acmePost_ok lib _ _ h).1)
    (fun _ h h200 => Ok.good _ ((acmePost_ok lib _ _ h).2 (by simp [h200])))

theorem present_good (type ident token ka : String) {a : Acme} (h : Good a) :
    Good (present cfg type ident token ka a).2 := by
  unfold present
  split
  · exact hookRun_good _ _ _ _ _ _ h
  · exact ask_good _ h

/-- The `done`/`failed` report to the hook appends no transfer. -/
theorem Ok.hook {b : Bool} {a : Acme} (h : Ok (b, a)) (prog method type ident token auth : String) :
    Ok (b, (hookRun a prog method type ident token auth).2) :=
  ⟨nonceChain_of_append_nonHttp rfl h.1, fun hb => hookRun_good _ _ _ _ _ _ (h.2 hb)⟩

theorem attempt_keeps (url type ident token ka : String) :
    KeepsChain (attempt lib cfg url type ident token ka) := by
  intro a h
  unfold attempt
  split
  rename_i r a1 hp1
  obtain ⟨c1, g1⟩ : OkN (r, a1) := hp1 ▸ acmePost_ok lib _ _ h
  have hq : Ok (if r = 200 then pollChallenge lib url a1 else (false, a1)) :=
    Ok.ite (fun h200 => pollChallenge_keeps lib url a1 (g1 (by simp [h200]))) fun _ => Ok.stop c1
  split
  rename_i ok a2 hp2
  rw [hp2] at hq
  split
  · exact hq.hook _ _ _ _ _ _
  · exact hq

theorem chlgLoop_keeps (thumb ident : String) (chs : List Json) :
    KeepsChain (chlgLoop lib cfg thumb ident chs) := by
  intro a
  induction chs, a using chlgLoop.induct lib cfg thumb ident with
  | case1 a => intro h; exact Ok.stop h.chain
  | case2 ch chs a hs ih => intro h; rw [chlgLoop, if_pos hs]; exact ih h
  | case3 ch chs a hs url type token htk hty hu hka =>
    intro h; simp only [chlgLoop, if_neg hs, hu, hty, htk, hka]; exact Ok.stop h.chain
  | case4 ch chs a hs url type token htk hty hu ka hka a1 hpr =>
    intro h
    have h1 : Good a1 := by simpa [hpr] using present_good cfg type ident token ka h
    simp only [chlgLoop, if_neg hs, hu, hty, htk, hka, hpr]; exact Ok.stop h1.chain
  | case5 ch chs a hs url type token htk hty hu ka hka a1 hpr ih =>
    intro h
    have h1 : Good a1 := by simpa [hpr] using present_good cfg type ident token ka h
    simp only [chlgLoop, if_neg hs, hu, hty, htk, hka, hpr]; exact ih h1
  | case6 ch chs a hs url type token htk hty hu ka hka a1 hpr =>
    intro h
    have h1 : Good a1 := by simpa [hpr] using present_good cfg type ident token ka h
    simp only [chlgLoop, if_neg hs, hu, hty, htk, hka, hpr]; exact attempt_keeps lib cfg _ _ _ _ _ a1 h1
  | case7 ch chs a hs hnone =>
    intro h
    rw [chlgLoop, if_neg hs]
    split
    · exact absurd (hnone _ _ _ ‹_› ‹_› ‹_›) id
    · exact Ok.stop h.chain

theorem authLoop_keeps (thumb : String) (auths : List Json) :
    KeepsChain (authLoop lib cfg thumb auths) := by
  induction auths with
  | nil => exact fun _ h => Ok.good _ h
  | cons j us ih =>
    intro a h
    cases j
    case string u =>
      rw [authLoop]
      split
      rename_i r a1 hp1
      obtain ⟨c1, g1⟩ : OkN (r, a1) := hp1 ▸ acmePost_ok lib _ _ h
      refine Ok.ite (fun _ => Ok.stop c1) fun hr => ?_
      have h1 : Good a1 := g1 (by omega)
      refine Ok.ite (fun _ => ih a1 h1) fun _ => Ok.ite (fun _ => Ok.stop c1) fun _ =>
        Ok.ite (fun _ => Ok.stop c1) fun _ => ?_
      split
      · exact Ok.stop c1
      refine Ok.ite (fun _ => Ok.stop c1) fun _ => ?_
      split
      · split
        rename_i ok a2 hp2
        obtain ⟨c2, g2⟩ : Ok (ok, a2) := hp2 ▸ chlgLoop_keeps lib cfg thumb _ _ _ (h1.congr rfl rfl)
        exact Ok.ite (fun hok => ih _ (g2 hok)) fun _ => Ok.stop c2
      · exact Ok.stop c1
    all_goals exact Ok.stop h.chain

theorem authorize_keeps : KeepsChain (authorize lib cfg) := by
  intro a h
  unfold authorize
  split
  · split
    · exact Ok.stop h.chain
    · exact authLoop_keeps lib cfg _ _ a h
  · exact Ok.stop h.chain

theorem pollOrder_keeps (orderurl target wait : String) :
    KeepsChain (pollOrder lib orderurl target wait) :=
  pollOrder_induction lib Good Ok orderurl target wait
    (fun _ h h200 => (acmePost_ok lib _ _ h).2 (by simp [h200]))
    (fun _ h => Ok.stop (acmePost_ok lib _ _ h).1)
    (fun _ h h200 => Ok.good _ (((acmePost_ok lib _ _ h).2 (by simp [h200])).congr rfl rfl))

theorem andThen_keeps {f g : Acme → Bool × Acme} (hf : KeepsChain f) (hg : KeepsChain g) :
    KeepsChain (andThen f g) := by
  intro a h
  unfold andThen
  split
  rename_i ok a1 hp
  obtain ⟨c1, g1⟩ : Ok (ok, a1) := hp ▸ hf a h
  cases ok
  · exact Ok.stop c1
  · exact hg a1 (g1 rfl)

theorem certDownload_keeps : KeepsChain (certDownload lib cfg) := by
  intro a h
  unfold certDownload
  split
  · exact Ok.stop h.chain
  split
  rename_i ok a1 hp1
  exact Ok.guard (hp1 ▸ postExpect_ok lib 200 _ _ (by decide) h) fun h1 =>
    Ok.good _ (certSave_good lib _ _ h1)

theorem certFinalize_keeps (orderurl : String) : KeepsChain (certFinalize lib cfg orderurl) := by
  intro a h
  unfold certFinalize
  split
  · exact Ok.stop h.chain
  split
  · exact Ok.stop h.chain
  split
  rename_i ok1 a1 hp1
  refine Ok.guard (hp1 ▸ postExpect_ok lib 200 _ _ (by decide) h) fun h1 => ?_
  split
  rename_i ok2 a2 hp2
  exact Ok.guard (hp2 ▸ pollOrder_keeps lib _ _ _ a1 h1) (certDownload_keeps lib cfg a2)

theorem certFinish_keeps (orderurl status : String) :
    KeepsChain (certFinish lib cfg orderurl status) := by
  intro a h
  unfold certFinish
  split
  rename_i ok a1 hp1
  have h1 : Ok (ok, a1) := hp1 ▸ Ok.ite (fun _ => Ok.good _ h) fun _ =>
    andThen_keeps (authorize_keeps lib cfg) (pollOrder_keeps lib _ _ _) a h
  exact Ok.guard h1 (certFinalize_keeps lib cfg orderurl a1)

theorem certIssue_keeps : KeepsChain (certIssue lib cfg) := by
  intro a h
  unfold certIssue
  split
  · exact Ok.good _ h
  split
  rename_i r a1 hp1
  obtain ⟨c1, g1⟩ : OkN (r, a1) := hp1 ▸ acmePost_ok lib _ _ h
  refine Ok.ite (fun _ => Ok.stop c1) fun hr => ?_
  have h1 : Good a1 := g1 (by omega)
  split
  · exact Ok.stop c1
  refine Ok.ite (fun _ => Ok.stop c1) fun _ => ?_
  split
  · exact Ok.stop c1
  · exact certFinish_keeps lib cfg _ _ _ (h1.congr rfl rfl)

theorem certRevoke_keeps (certfile : String) (reason : Int) :
    KeepsChain (certRevoke lib certfile reason) := by
  intro a h
  unfold certRevoke
  split
  · exact Ok.good _ h
  split
  · exact Ok.good _ h
  · exact postExpect_ok lib 200 _ _ (by decide) h

theorem runAction_keeps (yes : Bool) (act : Action) : KeepsChain (runAction lib cfg yes act) := by
  have hb := acmeBootstrap_keeps lib cfg
  have hr := accountRetrieve_keeps lib
  cases act with
  | new _ => exact andThen_keeps hb (accountNew_keeps lib cfg yes)
  | update _ => exact andThen_keeps hb (andThen_keeps hr (accountUpdate_keeps lib cfg))
  | deactivate => exact andThen_keeps hb (andThen_keeps hr (accountDeactivate_keeps lib))
  | issue _ => exact andThen_keeps hb (andThen_keeps hr (certIssue_keeps lib cfg))
  | revoke _ => exact andThen_keeps hb (andThen_keeps hr (certRevoke_keeps lib _ _))

end Drivers

/-! ## Whole runs -/

theorem init_good (net : List (Option CurlData)) (hooks : List Int) (tty : List (Option Char)) :
    Good (Acme.init ⟨net, hooks, tty, []⟩) :=
  ⟨nonceChain_nil, rfl⟩

/-- **Nonce discipline of every run.** For every command line, every sequence of server
responses and every hook and operator answer, every POST of the run carries the `Replay-Nonce`
of the exchange just before it (so none follows a response without one), and one nonce signs
two POSTs only if two responses carried it. -/
theorem main_nonce_chain (host : Host) (lib : Lib) (opts : List (Char × String))
    (operands : List String) (net : List (Option CurlData)) (hooks : List Int)
    (tty : List (Option Char)) :
    NonceChain (main host lib opts operands ⟨net, hooks, tty, []⟩).2.io.log ∧
      NonceReuseIssued (main host lib opts operands ⟨net, hooks, tty, []⟩).2.io.log := by
  have hc : NonceChain (main host lib opts operands ⟨net, hooks, tty, []⟩).2.io.log := by
    rcases main_cases host lib opts operands ⟨net, hooks, tty, []⟩ with ⟨h, -⟩ | ⟨o, act, -, -, h⟩
    · rw [h]; exact nonceChain_nil
    · rw [h]; exact (runAction_keeps lib _ _ act _ (init_good net hooks tty)).1
  exact ⟨hc, hc.reuse⟩

end Uacme
