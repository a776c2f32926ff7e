import Uacme.Trace
import Uacme.Authorize

/-!
# Uacme.AuthTrace — `authorize` as a grammar of its events

What `authorize` does, read on the events it appends (the POSTs it sends with the responses
they got, the hook calls with their statuses, the operator's answers) rather than on the
driver's state.  The grammar is nested as the loops are: `AuthRun` over the authorizations of
the order, `ChlgRun` over the challenges of one of them, `Attempted` for an accepted challenge,
`Polled` for its poll.  Each nonterminal consumes its list head first, so the order in which
authorizations and challenges are treated, and that each is treated once, is in the shape of
the grammar.

`authorize_run` is the refinement: every run of the model is a word of the grammar, with the
result the model returns.
-/

namespace Uacme

/-! ## The grammar -/

section Grammar

variable (lib : Lib) (hook : Option String)

/-- The poll of a started challenge at `url`: POST-as-GETs while the status is `processing` or
`pending`, ending at `valid` (`true`) or at anything else, a failed request included. -/
inductive Polled (url : String) : List Event → Bool → Prop
  | valid {e j} : Posted lib url "" e 200 j → jsonFindString j "status" = some "valid" →
      Polled url e true
  | again {e j evs ok} : Posted lib url "" e 200 j → jsonFindString j "status" ≠ some "valid" →
      (jsonFindString j "status" = some "processing" ∨ jsonFindString j "status" = some "pending") →
      Polled url evs ok → Polled url (e ++ evs) ok
  | stop {e r j} : Posted lib url "" e r j →
      (r = 200 → jsonFindString j "status" ≠ some "valid" ∧
        ¬(jsonFindString j "status" = some "processing" ∨
          jsonFindString j "status" = some "pending")) →
      Polled url e false

/-- A pending challenge presented to the hook (`begin`: a negative status is an error, `0`
accepts, any other declines) or, without a hook, to the operator. -/
inductive Presented (type ident token ka : String) : List Event → Option Bool → Prop
  | hook (h : String) (r : Int) : hook = some h →
      Presented type ident token ka [.hook h "begin" type ident token ka r]
        (if r < 0 then none else some (r == 0))
  | ask (c : Option Char) : hook = none →
      Presented type ident token ka [.ask (challengePrompt type ident token ka) c] (some (agreed c))

/-- The report of an accepted challenge to the hook: `done` when it reached `valid`, `failed`
otherwise; nothing without a hook. -/
inductive Reported (type ident token ka : String) (ok : Bool) : List Event → Prop
  | hook (h : String) (r : Int) : hook = some h →
      Reported type ident token ka ok
        [.hook h (if ok then "done" else "failed") type ident token ka r]
  | none : hook = none → Reported type ident token ka ok []

/-- An accepted challenge: it is started (`{}`), polled when the start answered 200, and
reported. -/
inductive Attempted (url type ident token ka : String) : List Event → Bool → Prop
  | started {e1 j e2 ok e3} : Posted lib url "\x7b\x7d" e1 200 j → Polled lib url e2 ok →
      Reported hook type ident token ka ok e3 →
      Attempted url type ident token ka (e1 ++ e2 ++ e3) ok
  | refused {e1 r j e3} : Posted lib url "\x7b\x7d" e1 r j → r ≠ 200 →
      Reported hook type ident token ka false e3 →
      Attempted url type ident token ka (e1 ++ e3) false

/-- A pending challenge with its URL, type and token, and the key authorization of its token
under the thumbprint `thumb`. -/
def Challenge (thumb : String) (ch : Json) (url type token ka : String) : Prop :=
  jsonCompareString (some ch) "status" "pending" = 0 ∧ jsonFindString (some ch) "url" = some url ∧
    jsonFindString (some ch) "type" = some type ∧ jsonFindString (some ch) "token" = some token ∧
    keyAuth lib type token thumb = some ka

/-- The challenges of one authorization, in the server's order: one that is not `pending` is
passed over; a pending one is presented, passed over when declined, and decides the
authorization when accepted; a malformed one, a hook error, or running out of challenges ends
it with failure. -/
inductive ChlgRun (thumb ident : String) : List Json → List Event → Bool → Prop
  | exhausted : ChlgRun thumb ident [] [] false
  | notPending {ch chs evs ok} : jsonCompareString (some ch) "status" "pending" ≠ 0 →
      ChlgRun thumb ident chs evs ok → ChlgRun thumb ident (ch :: chs) evs ok
  | malformed {ch chs} : jsonCompareString (some ch) "status" "pending" = 0 →
      (∀ url type token ka, ¬Challenge lib thumb ch url type token ka) →
      ChlgRun thumb ident (ch :: chs) [] false
  | aborted {ch chs url type token ka pe} : Challenge lib thumb ch url type token ka →
      Presented hook type ident token ka pe none → ChlgRun thumb ident (ch :: chs) pe false
  | declined {ch chs url type token ka pe evs ok} : Challenge lib thumb ch url type token ka →
      Presented hook type ident token ka pe (some false) → ChlgRun thumb ident chs evs ok →
      ChlgRun thumb ident (ch :: chs) (pe ++ evs) ok
  | accepted {ch chs url type token ka pe evs ok} : Challenge lib thumb ch url type token ka →
      Presented hook type ident token ka pe (some true) →
      Attempted lib hook url type ident token ka evs ok →
      ChlgRun thumb ident (ch :: chs) (pe ++ evs) ok

/-- What a pending authorization needs before its challenges are tried: a `dns` identifier with
a non-empty value, and an array of challenges. -/
def Workable (j : Option Json) (ident : String) (chs : List Json) : Prop :=
  jsonCompareString (jsonFind j "identifier") "type" "dns" = 0 ∧
    jsonFindString (jsonFind j "identifier") "value" = some ident ∧ ident ≠ "" ∧
    jsonFind j "challenges" = some (.array chs)

/-- The authorizations of the order, in array order: each is fetched; a `valid` one is passed
over; a `pending` one goes through its challenges, and the run goes on only when one of them
reached `valid`; anything else ends the run with failure. -/
inductive AuthRun (thumb : String) : List Json → List Event → Bool → Prop
  | done : AuthRun thumb [] [] true
  | notUrl {j js} : (∀ u, j ≠ .string u) → AuthRun thumb (j :: js) [] false
  | failed {u us e r j} : Posted lib u "" e r j → r ≠ 200 → AuthRun thumb (.string u :: us) e false
  | valid {u us e j evs ok} : Posted lib u "" e 200 j → jsonFindString j "status" = some "valid" →
      AuthRun thumb us evs ok → AuthRun thumb (.string u :: us) (e ++ evs) ok
  | invalid {u us e j} : Posted lib u "" e 200 j → jsonFindString j "status" ≠ some "valid" →
      jsonFindString j "status" ≠ some "pending" → AuthRun thumb (.string u :: us) e false
  | unworkable {u us e j} : Posted lib u "" e 200 j →
      jsonFindString j "status" = some "pending" → (∀ ident chs, ¬Workable j ident chs) →
      AuthRun thumb (.string u :: us) e false
  | solved {u us e j ident chs evs1 evs2 ok} : Posted lib u "" e 200 j →
      jsonFindString j "status" = some "pending" → Workable j ident chs →
      ChlgRun lib hook thumb ident chs evs1 true → AuthRun thumb us evs2 ok →
      AuthRun thumb (.string u :: us) (e ++ evs1 ++ evs2) ok
  | unsolved {u us e j ident chs evs} : Posted lib u "" e 200 j →
      jsonFindString j "status" = some "pending" → Workable j ident chs →
      ChlgRun lib hook thumb ident chs evs false → AuthRun thumb (.string u :: us) (e ++ evs) false

/-- `authorize` on the order `order`: the run of its authorizations under the account-key
thumbprint, or failure with no event when the order holds no array of authorizations or the
thumbprint cannot be computed. -/
def AuthorizeRun (order : Option Json) (evs : List Event) (ok : Bool) : Prop :=
  match jsonFind order "authorizations", lib.jwsThumbprint with
  | some (.array auths), some thumb => AuthRun lib hook thumb auths evs ok
  | _, _ => evs = [] ∧ ok = false

end Grammar

/-! ## Refinement -/

section Refinement

variable (lib : Lib) (cfg : Config)

theorem pollChallenge_polled (url : String) : Runs (pollChallenge lib url) (Polled lib url) := by
  intro a
  induction a using pollChallenge.induct lib url with
  | case1 a p h200 st hv =>
    obtain ⟨e, he, hp⟩ := acmePost_posted lib (Prod.mk.eta : (p.1, p.2) = p).symm
    rw [pollChallenge]; simp only [p, st] at h200 hv hp he ⊢; rw [if_pos h200, if_pos hv]
    exact ⟨e, he, .valid (h200 ▸ hp) hv⟩
  | case2 a p h200 st hv hw ih =>
    obtain ⟨e, he, hp⟩ := acmePost_posted lib (Prod.mk.eta : (p.1, p.2) = p).symm
    obtain ⟨evs, hl, hpol⟩ := ih
    rw [pollChallenge]; simp only [p, st] at h200 hv hw hp he hl hpol ⊢
    rw [if_pos h200, if_neg hv, if_pos hw]
    exact ⟨e ++ evs, by rw [hl, he, List.append_assoc], .again (h200 ▸ hp) hv hw hpol⟩
  | case3 a p h200 st hv hw =>
    obtain ⟨e, he, hp⟩ := acmePost_posted lib (Prod.mk.eta : (p.1, p.2) = p).symm
    rw [pollChallenge]; simp only [p, st] at h200 hv hw hp he ⊢
    rw [if_pos h200, if_neg hv, if_neg hw]
    exact ⟨e, he, .stop hp fun _ => ⟨hv, hw⟩⟩
  | case4 a p h200 =>
    obtain ⟨e, he, hp⟩ := acmePost_posted lib (Prod.mk.eta : (p.1, p.2) = p).symm
    rw [pollChallenge]; simp only [p] at h200 hp he ⊢; rw [if_neg h200]
    exact ⟨e, he, .stop hp fun h => absurd h h200⟩

theorem present_presented {type ident token ka : String} {a a' : Acme} {v : Option Bool}
    (h : present cfg type ident token ka a = (v, a')) :
    ∃ pe, a'.io.log = a.io.log ++ pe ∧ Presented cfg.hookProg type ident token ka pe v := by
  unfold present at h
  split at h <;> dsimp only at h <;> obtain ⟨rfl, rfl⟩ := Prod.mk.inj h
  · exact ⟨_, hookRun_log .., .hook _ _ ‹_›⟩
  · exact ⟨_, ask_log _ _, .ask _ ‹_›⟩

theorem attempt_attempted (url type ident token ka : String) :
    Runs (attempt lib cfg url type ident token ka)
      (Attempted lib cfg.hookProg url type ident token ka) := by
  intro a
  unfold attempt
  split
  rename_i r a1 hp1
  obtain ⟨e1, he1, hpost⟩ := acmePost_posted lib hp1
  split
  rename_i ok a2 hp2
  have hmid : ∃ e2, a2.io.log = a1.io.log ++ e2 ∧
      (r = 200 ∧ Polled lib url e2 ok ∨ r ≠ 200 ∧ e2 = [] ∧ ok = false) := by
    split_ifs at hp2 with h200
    · obtain ⟨e2, he2, hpol⟩ := pollChallenge_polled lib url a1
      rw [hp2] at he2 hpol
      exact ⟨e2, he2, .inl ⟨h200, hpol⟩⟩
    · obtain ⟨rfl, rfl⟩ := Prod.mk.inj hp2
      exact ⟨[], by simp, .inr ⟨h200, rfl, rfl⟩⟩
  obtain ⟨e2, he2, hcase⟩ := hmid
  have hatt : ∀ e3, Reported cfg.hookProg type ident token ka ok e3 →
      Attempted lib cfg.hookProg url type ident token ka (e1 ++ e2 ++ e3) ok := by
    intro e3 hrep
    rcases hcase with ⟨rfl, hpol⟩ | ⟨hr, rfl, rfl⟩
    · exact .started hpost hpol hrep
    · simpa using Attempted.refused hpost hr hrep
  split
  · exact ⟨e1 ++ e2 ++ [_], by rw [hookRun_log, he2, he1]; simp only [List.append_assoc]; rfl,
      hatt _ (.hook _ _ ‹_›)⟩
  · exact ⟨e1 ++ e2, by simp [he1, he2], by simpa using hatt [] (.none ‹_›)⟩

theorem chlgLoop_run (thumb ident : String) (chs : List Json) :
    Runs (chlgLoop lib cfg thumb ident chs) (ChlgRun lib cfg.hookProg thumb ident chs) := by
  intro a
  induction chs, a using chlgLoop.induct lib cfg thumb ident with
  | case1 a => exact ⟨[], by simp [chlgLoop], .exhausted⟩
  | case2 ch chs a hs ih =>
    obtain ⟨evs, hl, hrun⟩ := ih
    rw [chlgLoop, if_pos hs]
    exact ⟨evs, hl, .notPending hs hrun⟩
  | case3 ch chs a hs url type token htk hty hu hka =>
    simp only [chlgLoop, if_neg hs, hu, hty, htk, hka]
    refine ⟨[], by simp, .malformed (not_not.1 hs) fun url' type' token' ka' hc => ?_⟩
    obtain ⟨-, h1, h2, h3, h4⟩ := hc
    rw [hu, Option.some.injEq] at h1; rw [hty, Option.some.injEq] at h2
    rw [htk, Option.some.injEq] at h3
    subst h1 h2 h3
    rw [hka] at h4; cases h4
  | case4 ch chs a hs url type token htk hty hu ka hka a1 hpr =>
    obtain ⟨pe, hl, hpe⟩ := present_presented cfg hpr
    simp only [chlgLoop, if_neg hs, hu, hty, htk, hka, hpr]
    exact ⟨pe, hl, .aborted ⟨not_not.1 hs, hu, hty, htk, hka⟩ hpe⟩
  | case5 ch chs a hs url type token htk hty hu ka hka a1 hpr ih =>
    obtain ⟨pe, hl, hpe⟩ := present_presented cfg hpr
    obtain ⟨evs, hl', hrun⟩ := ih
    simp only [chlgLoop, if_neg hs, hu, hty, htk, hka, hpr]
    exact ⟨pe ++ evs, by rw [hl', hl, List.append_assoc],
      .declined ⟨not_not.1 hs, hu, hty, htk, hka⟩ hpe hrun⟩
  | case6 ch chs a hs url type token htk hty hu ka hka a1 hpr =>
    obtain ⟨pe, hl, hpe⟩ := present_presented cfg hpr
    obtain ⟨evs, hl', hrun⟩ := attempt_attempted lib cfg url type ident token ka a1
    simp only [chlgLoop, if_neg hs, hu, hty, htk, hka, hpr]
    exact ⟨pe ++ evs, by rw [hl', hl, List.append_assoc],
      .accepted ⟨not_not.1 hs, hu, hty, htk, hka⟩ hpe hrun⟩
  | case7 ch chs a hs hnone =>
    rw [chlgLoop, if_neg hs]
    split
    · exact absurd (hnone _ _ _ ‹_› ‹_› ‹_›) id
    · refine ⟨[], by simp, .malformed (not_not.1 hs) fun url type token ka hc => ?_⟩
      obtain ⟨-, h1, h2, h3, -⟩ := hc
      rename_i hmiss
      exact hmiss url type token h1 h2 h3

theorem authLoop_run (thumb : String) (auths : List Json) :
    Runs (authLoop lib cfg thumb auths) (AuthRun lib cfg.hookProg thumb auths) := by
  induction auths with
  | nil => exact fun a => ⟨[], by simp [authLoop], .done⟩
  | cons j us ih =>
    intro a
    cases j
    case string u =>
      rw [authLoop]
      split
      rename_i r a1 hp1
      obtain ⟨e, he, hpost⟩ := acmePost_posted lib hp1
      refine Appends.ite (fun hr => ⟨e, he, .failed hpost hr⟩) fun hr => ?_
      obtain rfl : r = 200 := not_not.1 hr
      dsimp only
      refine Appends.ite (fun hv => ?_) fun hv => Appends.ite
        (fun hpend => ⟨e, he, .invalid hpost hv hpend⟩) fun hpend => Appends.ite
        (fun hdns => ⟨e, he, .unworkable hpost (not_not.1 hpend) fun _ _ hw => hdns hw.1⟩)
        fun hdns => ?_
      · obtain ⟨evs, hl, hrun⟩ := ih a1
        exact ⟨e ++ evs, by rw [hl, he, List.append_assoc], .valid hpost hv hrun⟩
      split
      · rename_i hval
        exact ⟨e, he, .unworkable hpost (not_not.1 hpend) fun _ _ hw => by
          rw [hw.2.1] at hval; cases hval⟩
      rename_i iv hval
      refine Appends.ite (fun hempty => ⟨e, he, .unworkable hpost (not_not.1 hpend) fun _ _ hw => by
        rw [hw.2.1, Option.some.injEq] at hval; exact hw.2.2.1 (hval ▸ hempty)⟩) fun hempty => ?_
      split
      · rename_i chs hchs
        have hw : Workable a1.json iv chs := ⟨not_not.1 hdns, hval, hempty, hchs⟩
        obtain ⟨evs1, hl1, hrun1⟩ := chlgLoop_run lib cfg thumb iv chs { a1 with json := none }
        refine Appends.ite (fun hok => ?_) fun hok => ?_
        · obtain ⟨evs2, hl2, hrun2⟩ := ih (chlgLoop lib cfg thumb iv chs { a1 with json := none }).2
          exact ⟨e ++ evs1 ++ evs2, by simp [hl2, hl1, he],
            .solved hpost (not_not.1 hpend) hw (hok ▸ hrun1) hrun2⟩
        · rw [Bool.not_eq_true] at hok
          exact ⟨e ++ evs1, by simp [hl1, he], .unsolved hpost (not_not.1 hpend) hw (hok ▸ hrun1)⟩
      · rename_i hchs
        exact ⟨e, he, .unworkable hpost (not_not.1 hpend) fun _ _ hw => hchs _ hw.2.2.2⟩
    all_goals exact ⟨[], by simp [authLoop], .notUrl fun u h => by cases h⟩

/-- **`authorize` refines its grammar.** -/
theorem authorize_run (a : Acme) :
    ∃ evs, (authorize lib cfg a).2.io.log = a.io.log ++ evs ∧
      AuthorizeRun lib cfg.hookProg a.order evs (authorize lib cfg a).1 := by
  unfold authorize AuthorizeRun
  split
  · rename_i auths hauths
    split
    · rename_i hth
      exact ⟨[], by simp, by simp [hauths, hth]⟩
    · rename_i thumb hth
      rw [hauths, hth]
      exact authLoop_run lib cfg thumb auths a
  · rename_i hno
    refine ⟨[], by simp, ?_⟩
    split
    · rename_i auths _ hauths _; exact absurd hauths (hno auths)
    · exact ⟨rfl, rfl⟩

end Refinement

end Uacme
