import Uacme.Effects

/-!
# Uacme.Verdict — what `main`'s success stands for

`main` exits with `EXIT_SUCCESS` only on the server's word: the last request of the action has to
be answered 200 or 201 with no problem document, and nothing but the certificate write follows
it.  That request is the creation of `account_new` (201, with a `valid` account), the contact
replacement of `account_update` or, when the contact already agrees, the lookup of the account
(200), the deactivation and the revocation (200), and the download of `cert_issue` before
`cert_save`.  The one other success is the skipped issuance of a certificate that is still
valid, which makes no request at all.

`AnsweredLast` says this of a word; it is read off the success of each phase grammar of
Uacme.Session, and off every run of `main` (`main_success_answered`).

Failure, in turn, is final where the source jumps to `out`: a `begin` the hook failed (a negative
exit status, `-1` when it could not be run) ends `authorize`, and with it `cert_issue` and `main`.
`HookStops` says this of a word: nothing at all follows that hook run, and the result is failure
(`main_hook_error_stops`).
-/

namespace Uacme

/-- `evs` ends with a POST answered 200 or 201 with no problem document, followed by nothing
but, possibly, one certificate write. -/
def AnsweredLast (lib : Lib) (evs : List Event) : Prop :=
  ∃ pre u p payload c post, evs = pre ++ .post u p payload (some c) :: post ∧
    (c.code = 200 ∨ c.code = 201) ∧ respProblem lib (some c) = false ∧
    (post = [] ∨ ∃ body dir ok, post = [.save body dir ok])

section Answered

variable {lib : Lib} {cfg : Config} {evs e1 e2 : List Event} {ok : Bool}

theorem AnsweredLast.prepend (h : AnsweredLast lib e2) : AnsweredLast lib (e1 ++ e2) := by
  obtain ⟨pre, u, p, payload, c, post, rfl, hc, hp, hq⟩ := h
  exact ⟨e1 ++ pre, u, p, payload, c, post, (List.append_assoc _ _ _).symm, hc, hp, hq⟩

/-- A POST answered 200 or 201 with no problem document is a word answered last. -/
theorem Requested.answeredLast {url payload : String} {resp : Option CurlData}
    (h : Requested url payload evs resp) (hc : respCode resp = 200 ∨ respCode resp = 201)
    (hp : respProblem lib resp = false) : AnsweredLast lib evs := by
  obtain ⟨p, c, rfl, rfl⟩ := h.sent_of_code rfl (by omega)
  exact ⟨[], url, p, payload, c, [], rfl, hc, hp, .inl rfl⟩

/-- The success `acme_post(...) == 200 && !acme_error(a)` of a request. -/
theorem Requested.answeredLast_of_ok {url payload : String} {resp : Option CurlData}
    (h : Requested url payload evs resp)
    (hok : (respCode resp == 200 && !respProblem lib resp) = true) :
    AnsweredLast lib evs := by
  simp only [Bool.and_eq_true, beq_iff_eq, Bool.not_eq_true'] at hok
  exact h.answeredLast (.inl hok.1) hok.2

theorem Retrieved.answeredLast {dir : Option Json} {x : String × Option Json}
    (h : Retrieved lib dir evs (some x)) : AnsweredLast lib evs := by
  cases h with
  | adopted _ hq h200 hp _ _ => exact hq.answeredLast (.inl h200) hp

theorem Registered.answeredLast {mail : Option String} {yes : Bool} {dir : Option Json}
    (h : Registered lib mail yes dir evs ok) (hok : ok = true) : AnsweredLast lib evs := by
  cases h with
  | noUrl | existing | refused | declined | unconfirmed => cases hok
  | created _ _ _ _ _ hq3 h201 hp _ => exact (hq3.answeredLast (.inr h201) hp).prepend

/-- A successful update replaced the contact, or needed no request. -/
theorem Updated.answeredLast {mail : Option String} {kid : String} {acct : Option Json}
    (h : Updated lib mail kid acct evs ok) (hok : ok = true) : AnsweredLast lib evs ∨ evs = [] := by
  cases h with
  | malformed => cases hok
  | agrees => exact .inr rfl
  | sent _ hq => exact .inl (hq.answeredLast_of_ok hok)

theorem Deactivated.answeredLast {kid : String} (h : Deactivated lib kid evs ok) (hok : ok = true) :
    AnsweredLast lib evs := by
  cases h with
  | sent hq => exact hq.answeredLast_of_ok hok

theorem Revoked.answeredLast {file : String} {reason : Int} {dir : Option Json}
    (h : Revoked lib file reason dir evs ok) (hok : ok = true) : AnsweredLast lib evs := by
  cases h with
  | noCert | noUrl => cases hok
  | sent _ _ hq => exact hq.answeredLast_of_ok hok

/-- A successful `cert_issue` ends with the download answered 200 and the write. -/
theorem IssueRun.answeredLast {dir : Option Json} (h : IssueRun lib cfg dir evs ok)
    (hok : ok = true) : AnsweredLast lib evs := by
  rcases h.writesLast with hn | ⟨pre, u, p, c, rfl, -, h200, hp⟩
  · exact absurd (h.result.1 hok) (not_savedLast hn)
  · exact ⟨pre, u, p, "", c, [.save c.body cfg.certdir ok], by simp, .inl h200, hp,
      .inr ⟨_, _, _, rfl⟩⟩

/-- A successful pipeline of an action ends on the server's word. -/
theorem ActionRun.answeredLast {yes : Bool} {act : Action} (h : ActionRun lib cfg yes act evs ok)
    (hok : ok = true) : AnsweredLast lib evs := by
  subst hok
  have hthen : ∀ {α : Type} {G : List Event → Option α → Prop} {H : α → List Event → Bool → Prop}
      {evs}, (∀ {x e}, H x e true → AnsweredLast lib e) → Chained G H evs true →
      AnsweredLast lib evs
    | _, _, _, _, hH, .next _ hh => (hH hh).prepend
  cases act with
  | new => exact hthen (fun hr => hr.answeredLast rfl) h
  | update =>
    refine hthen (fun hc => ?_) h
    obtain _ | ⟨hr, hu⟩ := hc
    rcases hu.answeredLast rfl with hu | rfl
    · exact hu.prepend
    · exact (List.append_nil _).symm ▸ hr.answeredLast
  | deactivate => exact hthen (hthen fun hd => hd.answeredLast rfl) h
  | issue => exact hthen (hthen fun hi => hi.answeredLast rfl) h
  | revoke => exact hthen (hthen fun hr => hr.answeredLast rfl) h

end Answered

/-- **Success is the server's word.** Whenever `main` exits with success, either it skipped the
issuance of a certificate that is still valid and made no request at all, or the last request of
the run is a POST the server answered 200 or 201 with no problem document, and nothing but the
certificate write follows it. -/
theorem main_success_answered (host : Host) (lib : Lib) (opts : List (Char × String))
    (operands : List String) (net : List (Option CurlData)) (hooks : List Int)
    (tty : List (Option Char)) (h : (main host lib opts operands ⟨net, hooks, tty, []⟩).1 = true) :
    Skips host opts operands ∧ (main host lib opts operands ⟨net, hooks, tty, []⟩).2.io.log = [] ∨
      AnsweredLast lib (main host lib opts operands ⟨net, hooks, tty, []⟩).2.io.log := by
  rcases main_cases host lib opts operands ⟨net, hooks, tty, []⟩ with
    ⟨h0, hs⟩ | ⟨o, act, -, -, hm⟩
  · exact .inl ⟨hs h, by rw [h0]; rfl⟩
  · obtain ⟨evs, hl, hrun⟩ :=
      runAction_session lib (act.config o) o.yes act (Acme.init ⟨net, hooks, tty, []⟩)
    rw [hm] at h ⊢
    rw [hl]
    exact .inr (hrun.answeredLast h)

/-- `uacme issue example.com` with a certificate that is still valid succeeds: the hypothesis is
met. -/
theorem main_success_answered_skip :
    let host : Host := ⟨fun _ => true, fun _ => true, fun _ => true, fun _ => true, fun _ => true,
      fun _ _ => true, fun _ _ _ => true⟩
    let lib : Lib := ⟨fun _ => none, fun _ => none, fun _ _ => none, none, fun _ => none, none,
      fun _ _ => false, fun _ => none⟩
    (main host lib [] ["issue", "example.com"] ⟨[], [], [], []⟩).1 = true ∧
      (Skips host [] ["issue", "example.com"] ∧
          (main host lib [] ["issue", "example.com"] ⟨[], [], [], []⟩).2.io.log = [] ∨
        AnsweredLast lib (main host lib [] ["issue", "example.com"] ⟨[], [], [], []⟩).2.io.log) :=
  ⟨rfl, main_success_answered _ _ _ _ _ _ _ rfl⟩

/-! ## A failed hook ends the run -/

/-- A `begin` hook run that exited with a negative status. -/
def Event.hookError : Event → Bool
  | .hook _ method _ _ _ _ r => method == "begin" && decide (r < 0)
  | _ => false

/-- After a `begin` the hook failed, nothing happens and the result is failure. -/
def HookStops (evs : List Event) (ok : Bool) : Prop :=
  ∀ pre e post, evs = pre ++ e :: post → e.hookError = true → post = [] ∧ ok = false

section Stops

variable {lib : Lib} {cfg : Config} {hook : Option String} {evs e1 e2 : List Event} {ok ok1 : Bool}

/-- Events without a failed hook run stop nothing. -/
theorem HookStops.clean (h : ∀ e ∈ evs, e.hookError = false) : HookStops evs ok := by
  rintro pre e post rfl he
  simp [h e (by simp)] at he

/-- **Sequencing.** When the first word failed, nothing follows it. -/
theorem HookStops.append (h1 : HookStops e1 ok1) (h2 : HookStops e2 ok)
    (h : ok1 = false → e2 = [] ∧ ok = false) : HookStops (e1 ++ e2) ok := by
  intro pre e post hl he
  rcases append_eq_append_cons hl with ⟨post1, rfl, rfl⟩ | ⟨pre2, rfl, rfl⟩
  · obtain ⟨rfl, hok1⟩ := h1 pre e post1 rfl he
    obtain ⟨rfl, hok⟩ := h hok1
    exact ⟨rfl, hok⟩
  · exact h2 pre2 e post rfl he

theorem HookStops.then (h1 : HookStops e1 true) (h2 : HookStops e2 ok) : HookStops (e1 ++ e2) ok :=
  h1.append h2 fun h => nomatch h

theorem HookStops.single {x : Event} (h : x.hookError = true → ok = false) : HookStops [x] ok := by
  intro pre e post hl he
  obtain ⟨rfl, rfl, rfl⟩ : pre = [] ∧ e = x ∧ post = [] := by
    rcases pre with _ | ⟨y, pre⟩
    · simpa [eq_comm] using hl
    · simp at hl
  exact ⟨rfl, h he⟩

/-- A presentation is one event, and the hook failed it exactly when it yields no decision. -/
theorem Presented.hookStops {type ident token ka : String} {v : Option Bool}
    (h : Presented hook type ident token ka evs v) : HookStops evs v.isSome := by
  cases h with
  | hook _ r _ =>
    refine .single fun he => ?_
    simp only [Event.hookError, beq_self_eq_true, Bool.true_and, decide_eq_true_eq] at he
    simp [he]
  | ask _ _ => exact .single fun he => by cases he

theorem Reported.clean {type ident token ka : String}
    (h : Reported hook type ident token ka ok evs) : ∀ e ∈ evs, e.hookError = false := by
  cases h with
  | hook _ _ _ => exact List.forall_mem_singleton.2 (by cases ok <;> rfl)
  | none => exact fun _ h => nomatch h

theorem ChlgRun.hookStops {thumb ident : String} {chs : List Json}
    (h : ChlgRun lib hook thumb ident chs evs ok) : HookStops evs ok := by
  have hatt : ∀ {url type token ka e ok}, Attempted lib hook url type ident token ka e ok →
      HookStops e ok
    | _, _, _, _, _, _, .started hs hpol hrep => .clean (List.forall_mem_append.2
        ⟨List.forall_mem_append.2 ⟨hs.effects fun _ _ => rfl, hpol.effects fun _ _ => rfl⟩,
          hrep.clean⟩)
    | _, _, _, _, _, _, .refused hs _ hrep =>
      .clean (List.forall_mem_append.2 ⟨hs.effects fun _ _ => rfl, hrep.clean⟩)
  induction h with
  | exhausted | malformed => exact .clean fun _ h => nomatch h
  | notPending _ _ ih => exact ih
  | aborted _ hpe => exact hpe.hookStops
  | declined _ hpe _ ih => exact hpe.hookStops.then ih
  | accepted _ hpe ha => exact hpe.hookStops.then (hatt ha)

theorem AuthRun.hookStops {thumb : String} {auths : List Json}
    (h : AuthRun lib hook thumb auths evs ok) : HookStops evs ok := by
  have hget : ∀ {u e r j ok}, Posted lib u "" e r j → HookStops e ok :=
    fun hp => .clean (hp.effects fun _ _ => rfl)
  induction h with
  | done | notUrl => exact .clean fun _ h => nomatch h
  | failed hp | invalid hp | unworkable hp => exact hget hp
  | valid hp _ _ ih => exact (hget hp).then ih
  | solved hp _ _ hc _ ih => exact ((hget hp).then hc.hookStops).then ih
  | unsolved hp _ _ hc => exact (hget hp).then hc.hookStops

theorem AuthorizeRun.hookStops {order : Option Json} (h : AuthorizeRun lib hook order evs ok) :
    HookStops evs ok := by
  unfold AuthorizeRun at h
  split at h
  · exact h.hookStops
  · rw [h.1]
    exact .clean fun _ h => nomatch h

theorem FinishRun.hookStops {orderurl status : String} {order : Option Json}
    (h : FinishRun lib cfg orderurl status order evs ok) : HookStops evs ok := by
  have hfin : ∀ {d e ok}, Finalized lib cfg orderurl d e ok → HookStops e ok :=
    fun hf => .clean (hf.effects (fun _ _ _ => rfl) (fun _ _ _ _ _ => rfl) fun _ _ => rfl)
  have hpoll : ∀ {target wait e ok d}, OrderPolled lib orderurl target wait e ok d →
      HookStops e ok := fun hp => .clean (hp.effects fun _ _ => rfl)
  cases h with
  | ready _ hf => exact hfin hf
  | unauthorized _ ha => exact ha.hookStops
  | unready _ ha hp => exact ha.hookStops.then (hpoll hp)
  | readied _ ha hp _ hf => exact (ha.hookStops.then (hpoll hp)).then (hfin hf)

theorem IssueRun.hookStops {dir : Option Json} (h : IssueRun lib cfg dir evs ok) :
    HookStops evs ok := by
  cases h with
  | noUrl => exact .clean fun _ h => nomatch h
  | refused _ hq _ | badStatus _ hq _ _ | noLocation _ hq _ _ _ _ =>
    exact .clean (hq.effects fun _ _ => rfl)
  | created _ hq _ _ _ _ hf => exact (HookStops.clean (hq.effects fun _ _ => rfl)).then hf.hookStops

theorem ActionRun.hookStops {yes : Bool} {act : Action} (h : ActionRun lib cfg yes act evs ok) :
    HookStops evs ok := by
  cases act with
  | issue =>
    obtain hb | ⟨hb, hi⟩ := h
    · exact .clean (hb.effects fun _ _ => rfl)
    · refine (HookStops.clean (hb.effects fun _ _ => rfl)).then ?_
      obtain hr | ⟨hr, hiss⟩ := hi
      · exact .clean (hr.effects fun _ _ _ => rfl)
      · exact (HookStops.clean (hr.effects fun _ _ _ => rfl)).then hiss.hookStops
  | _ =>
    refine .clean fun x hx => ?_
    have hx := h.effects x hx
    cases x <;> first | rfl | exact absurd hx.1 Bool.false_ne_true

end Stops

/-- **A failed hook ends the run.** In every run of `main`, once the hook's `begin` has exited
with a negative status (as it does, `-1`, when it cannot be run at all), nothing else happens:
no request, no hook run, no question, no write; and `main` exits with failure. -/
theorem main_hook_error_stops (host : Host) (lib : Lib) (opts : List (Char × String))
    (operands : List String) (net : List (Option CurlData)) (hooks : List Int)
    (tty : List (Option Char)) :
    HookStops (main host lib opts operands ⟨net, hooks, tty, []⟩).2.io.log
      (main host lib opts operands ⟨net, hooks, tty, []⟩).1 := by
  rcases main_cases host lib opts operands ⟨net, hooks, tty, []⟩ with
    ⟨h, -⟩ | ⟨o, act, -, -, h⟩
  · rw [h]
    exact .clean fun _ h => nomatch h
  · obtain ⟨evs, hl, hrun⟩ :=
      runAction_session lib (act.config o) o.yes act (Acme.init ⟨net, hooks, tty, []⟩)
    rw [h, hl]
    exact hrun.hookStops

end Uacme
