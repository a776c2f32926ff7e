import Uacme.Session
import Uacme.Nonce

/-!
# Uacme.Abort — a failed transfer ends the action

`acme_get` and `acme_post` return `0` when `curl_get`/`curl_post` fail, and no caller accepts
`0`: every one compares the status with the one it expects (200, 201, 204, or 400 for the
account lookup of `account_new`) and fails otherwise.  So the driver never retries a request
and never sends another one after a failed transfer; at most the hook is told `failed` about
the challenge it was starting.

`Aborts evs ok` says this of a word and its result.  It is proved by induction over each
grammar of Uacme.AuthTrace, Uacme.IssueTrace and Uacme.Session, and read off every run of
`main` through the refinement `runAction_session` (`main_aborts_on_failure`).
-/

namespace Uacme

/-- A GET or a POST whose transfer failed: `curl_get`/`curl_post` returned NULL. -/
def Event.failed : Event → Bool
  | .get _ none | .post _ _ _ none => true
  | _ => false

theorem Event.isHttp_of_failed {e : Event} (h : e.failed = true) : e.isHttp = true := by
  cases e <;> first | rfl | cases h

/-- What may follow a failed transfer: nothing, or the hook's `failed` call about the challenge
whose start or poll failed. -/
def AfterFailure (post : List Event) : Prop :=
  post = [] ∨ ∃ prog type ident token ka r, post = [.hook prog "failed" type ident token ka r]

/-- After a failed transfer the result is failure and only what `F` allows follows. -/
def FailsWith (F : List Event → Prop) (evs : List Event) (ok : Bool) : Prop :=
  ∀ pre e post, evs = pre ++ e :: post → e.failed = true → ok = false ∧ F post

/-- After a failed transfer the result is failure, and at most the hook's `failed` call
follows. -/
def Aborts (evs : List Event) (ok : Bool) : Prop := FailsWith AfterFailure evs ok

/-! ## Composing words -/

section Compose

variable {F G : List Event → Prop} {evs e1 e2 : List Event} {ok ok1 : Bool}

/-- Events without a failed transfer abort nothing. -/
theorem FailsWith.clean (h : ∀ e ∈ evs, e.failed = false) : FailsWith F evs ok := by
  rintro pre e post rfl hf
  simp [h e (by simp)] at hf

theorem FailsWith.nil : FailsWith F [] ok := .clean fun _ h => nomatch h

/-- Events with no request have no failed transfer. -/
theorem FailsWith.quiet (h : ∀ e ∈ evs, e.isHttp = false) : FailsWith F evs ok :=
  .clean fun e he => by
    cases hf : e.failed
    · rfl
    · exact absurd ((h e he).symm.trans (Event.isHttp_of_failed hf)) Bool.false_ne_true

theorem FailsWith.single {x : Event} (h : x.failed = true → ok = false) :
    FailsWith (· = []) [x] ok := by
  intro pre e post hl hf
  obtain ⟨rfl, rfl, rfl⟩ : pre = [] ∧ e = x ∧ post = [] := by
    rcases pre with _ | ⟨y, pre⟩
    · simpa [eq_comm] using hl
    · simp at hl
  exact ⟨h hf, rfl⟩

theorem FailsWith.mono (h : FailsWith F evs ok) (hFG : ∀ post, F post → G post) :
    FailsWith G evs ok :=
  fun pre e post hl hf => (h pre e post hl hf).imp_right (hFG post)

/-- A word after whose failed transfer nothing follows aborts. -/
theorem FailsWith.aborts (h : FailsWith (· = []) evs ok) : Aborts evs ok :=
  h.mono fun _ => .inl

/-- A phase that succeeded had no failed transfer, so what follows it decides. -/
theorem FailsWith.then (h1 : FailsWith G e1 true) (h2 : FailsWith F e2 ok) :
    FailsWith F (e1 ++ e2) ok := by
  intro pre e post hl hf
  rcases append_eq_append_cons hl with ⟨post1, rfl, -⟩ | ⟨pre2, -, rfl⟩
  · exact absurd (h1 pre e post1 rfl hf).1 (by decide)
  · exact h2 pre2 e post rfl hf

end Compose

/-! ## The primitives

A request is one event, so nothing follows its failure inside the request. -/

section Primitives

variable {lib : Lib} {url payload : String} {e : List Event} {ok : Bool}

theorem Requested.aborts {resp : Option CurlData} (h : Requested url payload e resp)
    (hok : resp = none → ok = false) : FailsWith (· = []) e ok := by
  cases h with
  | unsent => exact .nil
  | sent p resp => exact .single fun hf => hok (by cases resp <;> simp_all [Event.failed])

/-- A POST answered with a status other than `0` had its transfer. -/
theorem Requested.transferred {resp : Option CurlData} (h : Requested url payload e resp) {n : Nat}
    (hr : respCode resp = n) (hn : n ≠ 0) : FailsWith (· = []) e ok :=
  h.aborts fun h0 => by subst h0; exact absurd hr.symm hn

theorem Posted.aborts {r : Nat} {j : Option Json} (h : Posted lib url payload e r j)
    (hok : r = 0 → ok = false) : FailsWith (· = []) e ok := by
  cases h with
  | unsent => exact .nil
  | sent p resp => exact .single fun hf => hok (by cases resp <;> simp_all [Event.failed, respCode])

theorem Posted.transferred {j : Option Json} {n : Nat} (h : Posted lib url payload e n j) (hn : n ≠ 0) :
    FailsWith (· = []) e ok :=
  h.aborts fun h0 => absurd h0 hn

end Primitives

/-! ## The grammars

Only the report of a challenge may follow a failed transfer (`FailsWith.reported`); in every
other phase nothing does. -/

section Grammars

variable {lib : Lib} {cfg : Config} {hook : Option String}

theorem Presented.quiet {type ident token ka : String} {evs : List Event} {r : Option Bool}
    (h : Presented hook type ident token ka evs r) : ∀ e ∈ evs, e.isHttp = false := by
  cases h <;> simp [Event.isHttp]

theorem Reported.quiet {type ident token ka : String} {ok : Bool} {evs : List Event}
    (h : Reported hook type ident token ka ok evs) : ∀ e ∈ evs, e.isHttp = false := by
  cases h <;> simp [Event.isHttp]

/-- A challenge's start and polls, after whose failed transfer nothing follows, then its report
to the hook: after a failure the report is `failed`. -/
theorem FailsWith.reported {type ident token ka : String} {e1 e2 : List Event} {ok : Bool}
    (h1 : FailsWith (· = []) e1 ok) (h3 : Reported hook type ident token ka ok e2) :
    Aborts (e1 ++ e2) ok := by
  intro pre e post hl hf
  rcases append_eq_append_cons hl with ⟨post1, rfl, rfl⟩ | ⟨pre2, -, rfl⟩
  · obtain ⟨rfl, rfl⟩ := h1 pre e post1 rfl hf
    refine ⟨rfl, ?_⟩
    cases h3 with
    | hook prog r _ => exact .inr ⟨prog, type, ident, token, ka, r, rfl⟩
    | none => exact .inl rfl
  · exact absurd (Event.isHttp_of_failed hf) (by rw [h3.quiet e (by simp)]; decide)

theorem Polled.aborts {url : String} {evs : List Event} {ok : Bool} (h : Polled lib url evs ok) :
    FailsWith (· = []) evs ok := by
  induction h with
  | valid hp _ => exact hp.transferred (by decide)
  | again hp _ _ _ ih => exact (hp.transferred (by decide)).then ih
  | stop hp _ => exact hp.aborts fun _ => rfl

theorem Attempted.aborts {url type ident token ka : String} {evs : List Event} {ok : Bool}
    (h : Attempted lib hook url type ident token ka evs ok) : Aborts evs ok := by
  cases h with
  | started hp hpoll hr => exact ((hp.transferred (by decide)).then hpoll.aborts).reported hr
  | refused hp _ hr => exact (hp.aborts fun _ => rfl).reported hr

theorem ChlgRun.aborts {thumb ident : String} {chs : List Json} {evs : List Event} {ok : Bool}
    (h : ChlgRun lib hook thumb ident chs evs ok) : Aborts evs ok := by
  induction h with
  | exhausted | malformed => exact .nil
  | notPending _ _ ih => exact ih
  | aborted _ hpr => exact .quiet hpr.quiet
  | declined _ hpr _ ih => exact (FailsWith.quiet (F := (· = [])) hpr.quiet).then ih
  | accepted _ hpr ha => exact (FailsWith.quiet (F := (· = [])) hpr.quiet).then ha.aborts

theorem AuthRun.aborts {thumb : String} {auths : List Json} {evs : List Event} {ok : Bool}
    (h : AuthRun lib hook thumb auths evs ok) : Aborts evs ok := by
  induction h with
  | done | notUrl => exact .nil
  | failed hp _ | invalid hp _ _ | unworkable hp _ _ => exact (hp.aborts fun _ => rfl).aborts
  | valid hp _ _ ih => exact (hp.transferred (by decide)).then ih
  | solved hp _ _ hc _ ih => exact ((hp.transferred (by decide)).then hc.aborts).then ih
  | unsolved hp _ _ hc => exact (hp.transferred (by decide)).then hc.aborts

theorem AuthorizeRun.aborts {order : Option Json} {evs : List Event} {ok : Bool}
    (h : AuthorizeRun lib hook order evs ok) : Aborts evs ok := by
  unfold AuthorizeRun at h
  split at h
  · exact h.aborts
  · obtain ⟨rfl, -⟩ := h; exact .nil

theorem OrderPolled.aborts {orderurl target wait : String} {evs : List Event} {ok : Bool}
    {d : Option Json} (h : OrderPolled lib orderurl target wait evs ok d) :
    FailsWith (· = []) evs ok := by
  induction h with
  | reached hq h200 _ => exact hq.transferred h200 (by decide)
  | again hq h200 _ _ _ ih => exact (hq.transferred h200 (by decide)).then ih
  | stop hq _ => exact hq.aborts fun _ => rfl

theorem Downloaded.aborts {order : Option Json} {evs : List Event} {ok : Bool}
    (h : Downloaded lib cfg order evs ok) : FailsWith (· = []) evs ok := by
  cases h with
  | noUrl => exact .nil
  | refused _ hq _ => exact hq.aborts fun _ => rfl
  | saved _ hq h200 _ => exact (hq.transferred h200 (by decide)).then (.single fun h => nomatch h)

theorem Finalized.aborts {orderurl : String} {order : Option Json} {evs : List Event} {ok : Bool}
    (h : Finalized lib cfg orderurl order evs ok) : FailsWith (· = []) evs ok := by
  cases h with
  | noCsr | noUrl => exact .nil
  | refused _ _ hq _ => exact hq.aborts fun _ => rfl
  | unfinished _ _ hq h200 _ hp => exact (hq.transferred h200 (by decide)).then hp.aborts
  | finished _ _ hq h200 _ hp _ hd =>
    exact ((hq.transferred h200 (by decide)).then hp.aborts).then hd.aborts

theorem FinishRun.aborts {orderurl status : String} {order : Option Json} {evs : List Event}
    {ok : Bool} (h : FinishRun lib cfg orderurl status order evs ok) : Aborts evs ok := by
  cases h with
  | ready _ hf => exact hf.aborts.aborts
  | unauthorized _ ha => exact ha.aborts
  | unready _ ha hp => exact ha.aborts.then hp.aborts.aborts
  | readied _ ha hp _ hf => exact (ha.aborts.then hp.aborts.aborts).then hf.aborts.aborts

theorem IssueRun.aborts {dir : Option Json} {evs : List Event} {ok : Bool}
    (h : IssueRun lib cfg dir evs ok) : Aborts evs ok := by
  cases h with
  | noUrl => exact .nil
  | refused _ hq _ | badStatus _ hq _ _ | noLocation _ hq _ _ _ _ =>
    exact (hq.aborts fun _ => rfl).aborts
  | created _ hq h201 _ _ _ hf => exact (hq.transferred h201 (by decide)).then hf.aborts

theorem Booted.aborts {directory : String} {evs : List Event} {res : Option (Option Json)}
    (h : Booted lib directory evs res) : FailsWith (· = []) evs res.isSome := by
  have got : ∀ {u resp n}, respCode resp = n → n ≠ 0 → FailsWith (· = []) [Event.get u resp] true :=
    fun hr hn => .single fun hf => by cases ‹Option CurlData› <;> simp_all [Event.failed, respCode]
  cases h with
  | refused | noNonce => exact .single fun _ => rfl
  | nonceRefused h200 => exact (got h200 (by decide)).then (.single fun _ => rfl)
  | ready h200 _ _ h204 => exact (got h200 (by decide)).then (got h204 (by decide))

theorem Retrieved.aborts {dir : Option Json} {evs : List Event} {res : Option (String × Option Json)}
    (h : Retrieved lib dir evs res) : FailsWith (· = []) evs res.isSome := by
  cases h with
  | noUrl => exact .nil
  | refused _ hq _ | noLocation _ hq => exact hq.aborts fun _ => rfl
  | adopted _ hq h200 => exact hq.transferred h200 (by decide)

theorem Agreed.quiet {yes : Bool} {dir : Option Json} {evs : List Event} {ok : Bool}
    (h : Agreed yes dir evs ok) : ∀ e ∈ evs, e.isHttp = false := by
  cases h <;> simp [Event.isHttp]

theorem Registered.aborts {mail : Option String} {yes : Bool} {dir : Option Json}
    {evs : List Event} {ok : Bool} (h : Registered lib mail yes dir evs ok) :
    FailsWith (· = []) evs ok := by
  cases h with
  | noUrl => exact .nil
  | existing _ hq | refused _ hq => exact hq.aborts fun _ => rfl
  | declined _ hq h400 _ ha => exact (hq.transferred h400 (by decide)).then (.quiet ha.quiet)
  | unconfirmed _ hq h400 _ ha hq3 =>
    exact ((hq.transferred h400 (by decide)).then (FailsWith.quiet (F := (· = [])) ha.quiet)).then
      (hq3.aborts fun _ => rfl)
  | created _ hq h400 _ ha hq3 h201 =>
    exact ((hq.transferred h400 (by decide)).then (FailsWith.quiet (F := (· = [])) ha.quiet)).then
      (hq3.transferred h201 (by decide))

theorem Updated.aborts {mail : Option String} {kid : String} {acct : Option Json}
    {evs : List Event} {ok : Bool} (h : Updated lib mail kid acct evs ok) :
    FailsWith (· = []) evs ok := by
  cases h with
  | malformed | agrees => exact .nil
  | sent _ hq => exact hq.aborts fun h => by subst h; rfl

theorem Deactivated.aborts {kid : String} {evs : List Event} {ok : Bool}
    (h : Deactivated lib kid evs ok) : FailsWith (· = []) evs ok := by
  cases h with
  | sent hq => exact hq.aborts fun h => by subst h; rfl

theorem Revoked.aborts {file : String} {reason : Int} {dir : Option Json} {evs : List Event}
    {ok : Bool} (h : Revoked lib file reason dir evs ok) : FailsWith (· = []) evs ok := by
  cases h with
  | noCert | noUrl => exact .nil
  | sent _ _ hq => exact hq.aborts fun h => by subst h; rfl

theorem Chained.aborts {α : Type} {F : List Event → Prop} {G : List Event → Option α → Prop}
    {H : α → List Event → Bool → Prop} (hG : ∀ {evs res}, G evs res → FailsWith F evs res.isSome)
    (hH : ∀ {x evs ok}, H x evs ok → FailsWith F evs ok) {evs : List Event} {ok : Bool}
    (h : Chained G H evs ok) : FailsWith F evs ok := by
  cases h with
  | stop hg => exact hG hg
  | next hg hh => exact (hG hg).then (hH hh)

theorem ActionRun.aborts {yes : Bool} {act : Action} {evs : List Event} {ok : Bool}
    (h : ActionRun lib cfg yes act evs ok) : Aborts evs ok := by
  have hboot : ∀ {d evs res}, Booted lib d evs res → Aborts evs res.isSome :=
    fun hb => hb.aborts.aborts
  have hret : ∀ {d evs res}, Retrieved lib d evs res → Aborts evs res.isSome :=
    fun hr => hr.aborts.aborts
  cases act with
  | new => exact Chained.aborts hboot (fun hr => hr.aborts.aborts) h
  | update => exact Chained.aborts hboot (Chained.aborts hret fun hu => hu.aborts.aborts) h
  | deactivate => exact Chained.aborts hboot (Chained.aborts hret fun hd => hd.aborts.aborts) h
  | issue => exact Chained.aborts hboot (Chained.aborts hret IssueRun.aborts) h
  | revoke => exact Chained.aborts hboot (Chained.aborts hret fun hr => hr.aborts.aborts) h

end Grammars

/-- **A failed transfer ends the run.** For every command line and every world, once a GET or
POST of the run has had its transfer fail, `main` exits with failure, and nothing follows but, at
most, the hook's `failed` call about the challenge whose start or poll failed: no request is
retried or sent, no question asked and no certificate written. -/
theorem main_aborts_on_failure (host : Host) (lib : Lib) (opts : List (Char × String))
    (operands : List String) (net : List (Option CurlData)) (hooks : List Int)
    (tty : List (Option Char)) :
    Aborts (main host lib opts operands ⟨net, hooks, tty, []⟩).2.io.log
      (main host lib opts operands ⟨net, hooks, tty, []⟩).1 := by
  rcases main_cases host lib opts operands ⟨net, hooks, tty, []⟩ with
    ⟨h, -⟩ | ⟨o, act, -, -, h⟩
  · rw [h]; exact .nil
  · obtain ⟨evs, hl, hrun⟩ :=
      runAction_session lib (act.config o) o.yes act (Acme.init ⟨net, hooks, tty, []⟩)
    rw [h, hl]
    exact hrun.aborts

end Uacme
