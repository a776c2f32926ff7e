import Uacme.Effects
import Uacme.Identifiers

/-!
# Uacme.Consent — a challenge is started only once it was accepted

`authorize` presents every pending challenge before it starts it: to the hook (`begin`), whose
exit status `0` accepts it, or, without a hook, to the operator, who is shown the challenge's
type, identifier, token and key authorization and whose `y` accepts it.  Only an accepted
challenge is started (`{}` POSTed to its URL), and at once: no event comes in between.  The
challenge started is the one accepted: a pending challenge with that URL, type and token, which
an authorization answer earlier in the run listed.  `Consented` says this of a log.  It is proved
over the grammar of `authorize`; the other phases start nothing, since none of the bodies they
POST is `{}`.

`main_starts_accepted`: in every run of `main`, every challenge start comes right after the
event that accepted that very challenge.
-/

namespace Uacme

/-- `y` accepts the challenge of type `type`, identifier `ident`, token `token` and key
authorization `ka`: it is the hook's `begin` on it that exited with `0`, or the operator's `y` to
the prompt that named it. -/
def Event.Accepts (y : Event) (type ident token ka : String) : Prop :=
  (∃ prog, y = .hook prog "begin" type ident token ka 0) ∨
    ∃ c, y = .ask (challengePrompt type ident token ka) c ∧ agreed c = true

/-- A challenge start: `{}` POSTed. -/
def Event.Starts : Event → Prop
  | .post _ _ payload _ => payload = "\x7b\x7d"
  | _ => False

/-- Every challenge start of `evs`, `{}` POSTed to a URL `u`, comes right after an event `y`
with `Src pre u y`, `pre` being the events before `y`. -/
def StartsAfter (Src : List Event → String → Event → Prop) (evs : List Event) : Prop :=
  ∀ pre u p resp post, evs = pre ++ .post u p "\x7b\x7d" resp :: post →
    ∃ pre' y, pre = pre' ++ [y] ∧ Src pre' u y

/-- The challenge at `u` with type `type`, identifier `ident`, token `token` and key
authorization `ka` was listed by an answer of `pre`: a POST-as-GET answered 200 with a `pending`
authorization for the `dns` identifier `ident`, one of whose challenges is pending with that URL,
type and token, `ka` being the key authorization of the token under the account key's
thumbprint. -/
def ListedBefore (lib : Lib) (pre : List Event) (u type ident token ka : String) : Prop :=
  ∃ v q c chs ch thumb, Event.post v q "" (some c) ∈ pre ∧ c.code = 200 ∧
    jsonFindString (respJson lib (some c)) "status" = some "pending" ∧
    Workable (respJson lib (some c)) ident chs ∧ ch ∈ chs ∧ lib.jwsThumbprint = some thumb ∧
    Challenge lib thumb ch u type token ka

/-- Every challenge start of `evs`, to a URL `u`, comes right after an event that accepted the
challenge at `u`, which an answer before it listed. -/
def Consented (lib : Lib) (evs : List Event) : Prop :=
  StartsAfter (fun pre u y => ∃ type ident token ka, y.Accepts type ident token ka ∧
    ListedBefore lib pre u type ident token ka) evs

theorem Event.Accepts.not_starts {y : Event} {type ident token ka : String}
    (h : y.Accepts type ident token ka) : ¬y.Starts := by
  rcases h with ⟨_, rfl⟩ | ⟨_, rfl, -⟩ <;> exact id

theorem ListedBefore.append_left {lib : Lib} {pre : List Event} {u type ident token ka : String}
    (h : ListedBefore lib pre u type ident token ka) (e : List Event) :
    ListedBefore lib (e ++ pre) u type ident token ka :=
  let ⟨v, q, c, chs, ch, thumb, hm, rest⟩ := h
  ⟨v, q, c, chs, ch, thumb, List.mem_append_right _ hm, rest⟩

/-! ## Bodies that are not `{}` -/

/-- A text that opens with `{"` is not `{}`. -/
theorem ne_braces_of_quote {s : String} {t : List Char} (h : s.data = '\x7b' :: '"' :: t) :
    s ≠ "\x7b\x7d" := by
  rintro rfl
  have h' : ("\x7b\x7d" : String).data.tail.head? = some '"' := by rw [h]; rfl
  exact absurd h' (by decide)

theorem empty_ne_braces : "" ≠ "\x7b\x7d" := by decide

theorem identifiers_ne_braces (names : List String) : identifiers names ≠ "\x7b\x7d" := by
  apply ne_braces_of_quote
  simp only [identifiers, String.data_append, foldl_entries]
  change ('\x7b' :: '"' :: 'i' :: ("dentifiers\":[".data ++ _)).dropLast ++ _ = _
  rw [List.dropLast_cons₂, List.dropLast_cons₂]
  rfl

/-- Only `issue` starts challenges: no body of another action is `{}`. -/
theorem ActionRequest.ne_braces {lib : Lib} {cfg : Config} {act : Action} {payload : String}
    (h : ActionRequest lib cfg act payload) (hact : ∀ names, act ≠ .issue names) :
    payload ≠ "\x7b\x7d" := by
  rcases h with rfl | h
  · exact ne_braces_of_quote rfl
  cases act with
  | new | update => subst h; generalize cfg.mail = m; cases m <;> exact ne_braces_of_quote rfl
  | deactivate => subst h; exact ne_braces_of_quote rfl
  | issue names => exact absurd rfl (hact names)
  | revoke => obtain ⟨_, _, rfl⟩ := h; exact ne_braces_of_quote rfl

theorem ActionEffect.not_starts {lib : Lib} {cfg : Config} {yes : Bool} {act : Action} {x : Event}
    (h : ActionEffect lib cfg yes act x) (hact : ∀ names, act ≠ .issue names) : ¬x.Starts := by
  cases x with
  | post => exact ActionRequest.ne_braces h hact
  | _ => exact id

/-! ## Composing words -/

section Compose

variable {Src Src' : List Event → String → Event → Prop} {evs e1 e2 rest : List Event}

/-- Events that start no challenge satisfy every `StartsAfter`. -/
theorem StartsAfter.of_none (h : ∀ x ∈ evs, ¬x.Starts) : StartsAfter Src evs := by
  rintro pre u p resp post rfl
  exact (h (.post u p _ resp) (by simp) rfl).elim

theorem StartsAfter.mono (h : StartsAfter Src evs) (hS : ∀ pre u y, Src pre u y → Src' pre u y) :
    StartsAfter Src' evs := fun pre u p resp post hl =>
  let ⟨pre', y, hpre, hs⟩ := h pre u p resp post hl
  ⟨pre', y, hpre, hS _ _ _ hs⟩

/-- **Sequencing.**  A word of `StartsAfter` cannot open with a start, so such words in sequence
give one, with the events of the first word in front of the second's sources. -/
theorem StartsAfter.append (h1 : StartsAfter Src e1) (h2 : StartsAfter Src' e2)
    (hS : ∀ pre u y, Src' pre u y → Src (e1 ++ pre) u y) : StartsAfter Src (e1 ++ e2) := by
  intro pre u p resp post hl
  rcases append_eq_append_cons hl with ⟨post1, rfl, rfl⟩ | ⟨pre2, rfl, rfl⟩
  · exact h1 pre u p resp post1 rfl
  · obtain ⟨pre', y, rfl, hs⟩ := h2 pre2 u p resp post rfl
    exact ⟨e1 ++ pre', y, (List.append_assoc _ _ _).symm, hS _ _ _ hs⟩

/-- An event `y` that starts nothing, then the start of the challenge at `u`, then events that
start nothing. -/
theorem StartsAfter.started {y : Event} {u : String} {p : Protected} {resp : Option CurlData}
    (hy : Src [] u y) (hny : ¬y.Starts) (h : ∀ z ∈ rest, ¬z.Starts) :
    StartsAfter Src (y :: .post u p "\x7b\x7d" resp :: rest) := by
  intro pre u' p' resp' post hl
  rcases pre with _ | ⟨w, _ | ⟨w', pre⟩⟩
  · obtain ⟨rfl, -⟩ := List.cons.inj hl
    exact absurd rfl hny
  · simp only [List.singleton_append, List.cons.injEq, Event.post.injEq] at hl
    obtain ⟨rfl, ⟨rfl, -⟩, -⟩ := hl
    exact ⟨[], y, rfl, hy⟩
  · obtain ⟨-, -, hrest⟩ : y = w ∧ _ = w' ∧ rest = pre ++ _ :: post := by simpa using hl
    exact (h (.post u' p' _ resp') (by simp [hrest]) rfl).elim

theorem Consented.of_none {lib : Lib} (h : ∀ x ∈ evs, ¬x.Starts) : Consented lib evs :=
  StartsAfter.of_none h

theorem Consented.append {lib : Lib} (h1 : Consented lib e1) (h2 : Consented lib e2) :
    Consented lib (e1 ++ e2) :=
  StartsAfter.append h1 h2 fun _ _ _ ⟨type, ident, token, ka, hy, hl⟩ =>
    ⟨type, ident, token, ka, hy, hl.append_left e1⟩

end Compose

/-! ## `authorize` -/

section Authorize

variable {lib : Lib} {hook : Option String} {type ident token ka : String} {evs : List Event}
  {ok : Bool}

theorem Posted.noStart {url payload : String} {r : Nat} {j : Option Json}
    (h : Posted lib url payload evs r j) (hp : payload ≠ "\x7b\x7d") : ∀ x ∈ evs, ¬x.Starts :=
  h.effects fun _ _ => hp

theorem Requested.noStart {url payload : String} {resp : Option CurlData}
    (h : Requested url payload evs resp) (hp : payload ≠ "\x7b\x7d") : ∀ x ∈ evs, ¬x.Starts :=
  h.effects fun _ _ => hp

/-- The acceptance `y` is of one of the challenges `chs` of the authorization for `ident`, the
one at `u`. -/
def AcceptsOneOf (lib : Lib) (thumb ident : String) (chs : List Json) (_ : List Event) (u : String)
    (y : Event) : Prop :=
  ∃ type token ka, y.Accepts type ident token ka ∧ ∃ ch ∈ chs, Challenge lib thumb ch u type token ka

theorem AcceptsOneOf.cons {thumb u : String} {ch : Json} {chs : List Json} {pre : List Event}
    {y : Event} (h : AcceptsOneOf lib thumb ident chs pre u y) :
    AcceptsOneOf lib thumb ident (ch :: chs) pre u y :=
  let ⟨type, token, ka, hy, c, hc, hchal⟩ := h
  ⟨type, token, ka, hy, c, List.mem_cons_of_mem _ hc, hchal⟩

/-- A challenge is started right after its acceptance `y`, and polled and reported with no
other start. -/
theorem Attempted.consented {url : String} {y : Event} {Src : List Event → String → Event → Prop}
    (h : Attempted lib hook url type ident token ka evs ok) (hy : Src [] url y)
    (hny : ¬y.Starts) : StartsAfter Src (y :: evs) := by
  have hstart : ∀ {e1 r j rest}, Posted lib url "\x7b\x7d" e1 r j → (∀ x ∈ rest, ¬x.Starts) →
      StartsAfter Src (y :: (e1 ++ rest))
    | _, _, _, _, .unsent, hrest => .of_none (List.forall_mem_cons.2 ⟨hny, hrest⟩)
    | _, _, _, _, .sent _ _, hrest => .started hy hny hrest
  have hrep : ∀ {ok e}, Reported hook type ident token ka ok e → ∀ x ∈ e, ¬x.Starts
    | _, _, .hook _ _ _ => List.forall_mem_singleton.2 id
    | _, _, .none _ => fun _ h => nomatch h
  cases h with
  | started hs hpol hrep' =>
    rw [List.append_assoc]
    exact hstart hs (List.forall_mem_append.2 ⟨hpol.effects fun _ _ => empty_ne_braces, hrep hrep'⟩)
  | refused hs _ hrep' => exact hstart hs (hrep hrep')

/-- A presentation that accepted is one event, accepting the challenge presented. -/
theorem Presented.accepts {v : Option Bool} (h : Presented hook type ident token ka evs v)
    (hv : v = some true) : ∃ y, evs = [y] ∧ y.Accepts type ident token ka := by
  cases h with
  | hook _ r _ =>
    have hr : r = 0 := by split_ifs at hv; simpa using hv
    exact ⟨_, rfl, .inl ⟨_, by rw [hr]⟩⟩
  | ask _ _ => exact ⟨_, rfl, .inr ⟨_, rfl, Option.some.inj hv⟩⟩

theorem Presented.noStart {v : Option Bool} (h : Presented hook type ident token ka evs v) :
    ∀ x ∈ evs, ¬x.Starts := by
  cases h <;> exact List.forall_mem_singleton.2 id

/-- Every start of the challenge loop comes right after the acceptance of the challenge of its
list that it starts. -/
theorem ChlgRun.consented {thumb : String} {chs : List Json}
    (h : ChlgRun lib hook thumb ident chs evs ok) :
    StartsAfter (AcceptsOneOf lib thumb ident chs) evs := by
  induction h with
  | exhausted | malformed => exact .of_none fun _ h => nomatch h
  | notPending _ _ ih => exact ih.mono fun _ _ _ => AcceptsOneOf.cons
  | aborted _ hpe => exact .of_none hpe.noStart
  | declined _ hpe _ ih =>
    exact (StartsAfter.of_none hpe.noStart).append ih fun _ _ _ => AcceptsOneOf.cons
  | accepted hc hpe hat =>
    obtain ⟨y, rfl, hy⟩ := hpe.accepts rfl
    exact hat.consented ⟨_, _, _, hy, _, List.mem_cons_self _ _, hc⟩ hy.not_starts

/-- The challenge loop of a pending authorization, right after the POST-as-GET that fetched it. -/
theorem Consented.fetched {u thumb : String} {e : List Event} {j : Option Json}
    {chs : List Json} (hp : Posted lib u "" e 200 j)
    (hs : jsonFindString j "status" = some "pending") (hw : Workable j ident chs)
    (ht : lib.jwsThumbprint = some thumb) (hc : StartsAfter (AcceptsOneOf lib thumb ident chs) evs) :
    Consented lib (e ++ evs) := by
  have he : Consented lib e := .of_none (hp.noStart empty_ne_braces)
  obtain ⟨p, c, rfl, h200, rfl⟩ := hp.code_ne_zero lib (by decide)
  refine StartsAfter.append he hc fun _ _ _ ⟨type, token, ka, hy, ch, hch, hchal⟩ => ?_
  exact ⟨type, ident, token, ka, hy, u, p, c, chs, ch, thumb, by simp, h200.symm, hs, hw, hch, ht,
    hchal⟩

theorem AuthRun.consented {thumb : String} {auths : List Json}
    (h : AuthRun lib hook thumb auths evs ok) (ht : lib.jwsThumbprint = some thumb) :
    Consented lib evs := by
  have hget : ∀ {u e r j}, Posted lib u "" e r j → Consented lib e :=
    fun hp => .of_none (hp.noStart empty_ne_braces)
  induction h with
  | done | notUrl => exact .of_none fun _ h => nomatch h
  | failed hp | invalid hp | unworkable hp => exact hget hp
  | valid hp _ _ ih => exact (hget hp).append ih
  | solved hp hs hw hc _ ih => exact (Consented.fetched hp hs hw ht hc.consented).append ih
  | unsolved hp hs hw hc => exact Consented.fetched hp hs hw ht hc.consented

theorem AuthorizeRun.consented {order : Option Json} (h : AuthorizeRun lib hook order evs ok) :
    Consented lib evs := by
  unfold AuthorizeRun at h
  split at h
  · rename_i ht
    exact h.consented ht
  · rw [h.1]
    exact .of_none fun _ h => nomatch h

end Authorize

/-! ## `cert_issue` and the pipeline -/

section Issue

variable {lib : Lib} {cfg : Config} {evs : List Event} {ok : Bool}

theorem Finalized.noStart {orderurl : String} {order : Option Json}
    (h : Finalized lib cfg orderurl order evs ok) : ∀ x ∈ evs, ¬x.Starts :=
  h.effects (fun _ _ _ => empty_ne_braces) (fun _ _ _ _ _ => ne_braces_of_quote rfl) fun _ _ => id

theorem FinishRun.consented {orderurl status : String} {order : Option Json}
    (h : FinishRun lib cfg orderurl status order evs ok) : Consented lib evs := by
  have hpoll : ∀ {target wait e ok d}, OrderPolled lib orderurl target wait e ok d → Consented lib e :=
    fun hpol => .of_none (hpol.effects fun _ _ => empty_ne_braces)
  cases h with
  | ready _ hf => exact .of_none hf.noStart
  | unauthorized _ ha => exact ha.consented
  | unready _ ha hpol => exact ha.consented.append (hpoll hpol)
  | readied _ ha hpol _ hf => exact (ha.consented.append (hpoll hpol)).append (.of_none hf.noStart)

theorem IssueRun.consented {dir : Option Json} (h : IssueRun lib cfg dir evs ok) :
    Consented lib evs := by
  cases h with
  | noUrl => exact .of_none fun _ h => nomatch h
  | refused _ hq _ | badStatus _ hq _ _ | noLocation _ hq _ _ _ _ =>
    exact .of_none (hq.noStart (identifiers_ne_braces _))
  | created _ hq _ _ _ _ hf =>
    exact (Consented.of_none (hq.noStart (identifiers_ne_braces _))).append hf.consented

theorem ActionRun.consented {yes : Bool} {act : Action} (h : ActionRun lib cfg yes act evs ok) :
    Consented lib evs := by
  have hphase : ∀ {α : Type} {G : List Event → Option α → Prop}
      {H : α → List Event → Bool → Prop} {evs ok}, (∀ {evs res}, G evs res → Consented lib evs) →
      (∀ {x evs ok}, H x evs ok → Consented lib evs) → Chained G H evs ok → Consented lib evs
    | _, _, _, _, _, hG, _, .stop hg => hG hg
    | _, _, _, _, _, hG, hH, .next hg hh => (hG hg).append (hH hh)
  have hboot : ∀ {d e res}, Booted lib d e res → Consented lib e :=
    fun hb => .of_none (hb.effects fun _ _ => id)
  have hret : ∀ {d e res}, Retrieved lib d e res → Consented lib e :=
    fun hr => .of_none (hr.effects fun _ _ _ => ne_braces_of_quote rfl)
  cases act with
  | issue => exact hphase hboot (hphase hret IssueRun.consented) h
  | _ => exact .of_none fun x hx => (h.effects x hx).not_starts fun _ h => nomatch h

end Issue

/-- **No challenge is started without consent.** In every run of `main`, every challenge start
(`{}` POSTed to a URL `u`) comes right after the event that accepted the challenge at `u`: the
hook's `begin` on its type, identifier, token and key authorization that exited with `0`, or,
without a hook, the operator's `y` to the prompt that named them.  That challenge was listed,
pending with the URL `u`, that type and that token, by a `pending` authorization for the
identifier that the server sent earlier in the run, and the key authorization is that of the
token under the account key's thumbprint. -/
theorem main_starts_accepted (host : Host) (lib : Lib) (opts : List (Char × String))
    (operands : List String) (net : List (Option CurlData)) (hooks : List Int)
    (tty : List (Option Char)) :
    Consented lib (main host lib opts operands ⟨net, hooks, tty, []⟩).2.io.log := by
  rcases main_cases host lib opts operands ⟨net, hooks, tty, []⟩ with
    ⟨h, -⟩ | ⟨o, act, -, -, h⟩
  · rw [h]
    exact .of_none fun _ h => nomatch h
  · obtain ⟨evs, hl, hrun⟩ :=
      runAction_session lib (act.config o) o.yes act (Acme.init ⟨net, hooks, tty, []⟩)
    rw [h, hl]
    exact hrun.consented

end Uacme
