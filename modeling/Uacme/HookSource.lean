import Uacme.Effects

/-!
# Uacme.HookSource — the hook runs only on challenges the server listed

The hook is a program of the operator's, and `authorize` runs it with strings from the server's
answers.  Every hook run of a run of `main` is on a challenge of an authorization the server sent
in that run: an earlier POST-as-GET was answered 200 with a `pending` authorization, whose `dns`
identifier is the hook's identifier and whose challenges include a pending one with the hook's
type and token; the key authorization is that of the token under the account key's thumbprint.

`ChlgArgs` follows the hook runs of the challenge loop back to the list of challenges it walks;
`HookSourced` says the property of a log, and `main_hooks_sourced` proves it of every run.
-/

namespace Uacme

/-- A hook run. -/
def Event.isHook : Event → Bool
  | .hook .. => true
  | _ => false

/-- A hook run of the challenge loop over `chs` for the identifier `ident`: its identifier is
`ident`, and its type, token and key authorization are those of one of the challenges under the
thumbprint `thumb`.  Other events are not constrained. -/
def ChlgArgs (lib : Lib) (thumb ident : String) (chs : List Json) : Event → Prop
  | .hook _ _ type ident' token ka _ =>
    ident' = ident ∧ ∃ ch ∈ chs, ∃ url, Challenge lib thumb ch url type token ka
  | _ => True

/-- Every hook run of `evs` is on a challenge an earlier answer listed: a POST-as-GET before it
was answered 200 with a `pending` authorization for the hook's identifier, one of whose
challenges is pending with the hook's type and token, and the key authorization is that of the
token under the account key's thumbprint. -/
def HookSourced (lib : Lib) (evs : List Event) : Prop :=
  ∀ pre prog method type ident token ka r post,
    evs = pre ++ .hook prog method type ident token ka r :: post →
    ∃ u p c chs ch url thumb, Event.post u p "" (some c) ∈ pre ∧ c.code = 200 ∧
      jsonFindString (respJson lib (some c)) "status" = some "pending" ∧
      Workable (respJson lib (some c)) ident chs ∧ ch ∈ chs ∧ lib.jwsThumbprint = some thumb ∧
      Challenge lib thumb ch url type token ka

/-! ## The challenge loop -/

section Challenges

variable {lib : Lib} {hook : Option String} {thumb ident url type token ka : String}
  {ch : Json} {chs : List Json} {evs : List Event} {ok : Bool}

theorem ChlgArgs.mono {chs' : List Json} {x : Event} (h : ChlgArgs lib thumb ident chs x)
    (hs : chs ⊆ chs') : ChlgArgs lib thumb ident chs' x := by
  cases x with
  | hook =>
    obtain ⟨rfl, ch, hch, url, hc⟩ := h
    exact ⟨rfl, ch, hs hch, url, hc⟩
  | _ => trivial

/-- The hook runs about the challenge `ch` at the head of the list. -/
theorem ChlgArgs.head {prog method : String} {r : Int}
    (hc : Challenge lib thumb ch url type token ka) :
    ChlgArgs lib thumb ident (ch :: chs) (.hook prog method type ident token ka r) :=
  ⟨rfl, ch, List.mem_cons_self _ _, url, hc⟩

theorem Presented.chlgArgs {v : Option Bool} (h : Presented hook type ident token ka evs v)
    (hc : Challenge lib thumb ch url type token ka) :
    ∀ x ∈ evs, ChlgArgs lib thumb ident (ch :: chs) x := by
  cases h with
  | hook => exact List.forall_mem_singleton.2 (.head hc)
  | ask => exact List.forall_mem_singleton.2 trivial

theorem Attempted.chlgArgs (h : Attempted lib hook url type ident token ka evs ok)
    (hc : Challenge lib thumb ch url' type token ka) :
    ∀ x ∈ evs, ChlgArgs lib thumb ident (ch :: chs) x := by
  have hrep : ∀ {ok e}, Reported hook type ident token ka ok e →
      ∀ x ∈ e, ChlgArgs lib thumb ident (ch :: chs) x
    | _, _, .hook _ _ _ => List.forall_mem_singleton.2 (.head hc)
    | _, _, .none _ => fun _ h => nomatch h
  cases h with
  | started hs hpol hr =>
    exact List.forall_mem_append.2 ⟨List.forall_mem_append.2
      ⟨hs.effects fun _ _ => trivial, hpol.effects fun _ _ => trivial⟩, hrep hr⟩
  | refused hs _ hr => exact List.forall_mem_append.2 ⟨hs.effects fun _ _ => trivial, hrep hr⟩

/-- Every hook run of the challenge loop is on one of the challenges it walks. -/
theorem ChlgRun.chlgArgs (h : ChlgRun lib hook thumb ident chs evs ok) :
    ∀ x ∈ evs, ChlgArgs lib thumb ident chs x := by
  induction h with
  | exhausted | malformed => exact fun _ h => nomatch h
  | notPending _ _ ih => exact fun x hx => (ih x hx).mono (List.subset_cons_self _ _)
  | aborted hc hpe => exact hpe.chlgArgs hc
  | declined hc hpe _ ih =>
    exact List.forall_mem_append.2
      ⟨hpe.chlgArgs hc, fun x hx => (ih x hx).mono (List.subset_cons_self _ _)⟩
  | accepted hc hpe hat => exact List.forall_mem_append.2 ⟨hpe.chlgArgs hc, hat.chlgArgs hc⟩

end Challenges

/-! ## Logs -/

section Sourced

variable {lib : Lib} {cfg : Config} {hook : Option String} {evs e1 e2 : List Event} {ok : Bool}

/-- Events without a hook run are sourced. -/
theorem HookSourced.clean (h : ∀ x ∈ evs, x.isHook = false) : HookSourced lib evs := by
  rintro pre prog method type ident token ka r post rfl
  exact nomatch h (.hook prog method type ident token ka r) (by simp)

/-- What was sourced stays sourced behind a longer prefix. -/
theorem HookSourced.append (h1 : HookSourced lib e1) (h2 : HookSourced lib e2) :
    HookSourced lib (e1 ++ e2) := by
  intro pre prog method type ident token ka r post hl
  rcases append_eq_append_cons hl with ⟨post1, rfl, rfl⟩ | ⟨pre2, rfl, rfl⟩
  · exact h1 pre _ _ _ _ _ _ _ post1 rfl
  · obtain ⟨u, p, c, chs, ch, url, thumb, hm, hrest⟩ := h2 pre2 _ _ _ _ _ _ _ post rfl
    exact ⟨u, p, c, chs, ch, url, thumb, List.mem_append_right _ hm, hrest⟩

/-- The challenge loop of a pending authorization, right after the POST-as-GET that fetched it. -/
theorem HookSourced.fetched {u ident thumb : String} {e : List Event} {j : Option Json}
    {chs : List Json} (hp : Posted lib u "" e 200 j)
    (hs : jsonFindString j "status" = some "pending")
    (hw : Workable j ident chs) (ht : lib.jwsThumbprint = some thumb)
    (hc : ∀ x ∈ evs, ChlgArgs lib thumb ident chs x) : HookSourced lib (e ++ evs) := by
  obtain ⟨p, c, rfl, h200, rfl⟩ := hp.code_ne_zero lib (by decide)
  intro pre prog method type ident' token ka r post hl
  rcases pre with _ | ⟨y, pre⟩
  · simp at hl
  · simp only [List.singleton_append, List.cons_append, List.cons.injEq] at hl
    obtain ⟨rfl, rfl⟩ := hl
    obtain ⟨rfl, ch, hch, url, hchal⟩ := hc (.hook prog method type ident' token ka r) (by simp)
    exact ⟨u, p, c, chs, ch, url, thumb, List.mem_cons_self _ _, h200.symm, hs, hw, hch, ht, hchal⟩

theorem AuthRun.hookSourced {thumb : String} {auths : List Json}
    (h : AuthRun lib hook thumb auths evs ok) (ht : lib.jwsThumbprint = some thumb) :
    HookSourced lib evs := by
  have hget : ∀ {u e r j}, Posted lib u "" e r j → HookSourced lib e :=
    fun hp => .clean (hp.effects fun _ _ => rfl)
  induction h with
  | done | notUrl => exact .clean fun _ h => nomatch h
  | failed hp | invalid hp | unworkable hp => exact hget hp
  | valid hp _ _ ih => exact (hget hp).append ih
  | solved hp hs hw hc _ ih => exact (HookSourced.fetched hp hs hw ht hc.chlgArgs).append ih
  | unsolved hp hs hw hc => exact HookSourced.fetched hp hs hw ht hc.chlgArgs

theorem AuthorizeRun.hookSourced {order : Option Json} (h : AuthorizeRun lib hook order evs ok) :
    HookSourced lib evs := by
  unfold AuthorizeRun at h
  split at h
  · rename_i ht
    exact h.hookSourced ht
  · rw [h.1]
    exact .clean fun _ h => nomatch h

theorem FinishRun.hookSourced {orderurl status : String} {order : Option Json}
    (h : FinishRun lib cfg orderurl status order evs ok) : HookSourced lib evs := by
  have hfin : ∀ {d e ok}, Finalized lib cfg orderurl d e ok → HookSourced lib e :=
    fun hf => .clean (hf.effects (fun _ _ _ => rfl) (fun _ _ _ _ _ => rfl) fun _ _ => rfl)
  have hpoll : ∀ {target wait e ok d}, OrderPolled lib orderurl target wait e ok d →
      HookSourced lib e := fun hp => .clean (hp.effects fun _ _ => rfl)
  cases h with
  | ready _ hf => exact hfin hf
  | unauthorized _ ha => exact ha.hookSourced
  | unready _ ha hp => exact ha.hookSourced.append (hpoll hp)
  | readied _ ha hp _ hf => exact (ha.hookSourced.append (hpoll hp)).append (hfin hf)

theorem IssueRun.hookSourced {dir : Option Json} (h : IssueRun lib cfg dir evs ok) :
    HookSourced lib evs := by
  cases h with
  | noUrl => exact .clean fun _ h => nomatch h
  | refused _ hq _ | badStatus _ hq _ _ | noLocation _ hq _ _ _ _ =>
    exact .clean (hq.effects fun _ _ => rfl)
  | created _ hq _ _ _ _ hf =>
    exact (HookSourced.clean (hq.effects fun _ _ => rfl)).append hf.hookSourced

theorem ActionRun.hookSourced {yes : Bool} {act : Action} (h : ActionRun lib cfg yes act evs ok) :
    HookSourced lib evs := by
  cases act with
  | issue =>
    obtain hb | ⟨hb, hi⟩ := h
    · exact .clean (hb.effects fun _ _ => rfl)
    · refine (HookSourced.clean (hb.effects fun _ _ => rfl)).append ?_
      obtain hr | ⟨hr, hiss⟩ := hi
      · exact .clean (hr.effects fun _ _ _ => rfl)
      · exact (HookSourced.clean (hr.effects fun _ _ _ => rfl)).append hiss.hookSourced
  | _ =>
    refine .clean fun x hx => ?_
    have hx := h.effects x hx
    cases x <;> first | rfl | exact absurd hx.1 Bool.false_ne_true

end Sourced

/-- **The hook runs only on challenges the server listed.** In every run of `main`, every hook
run comes after a POST-as-GET that the server answered 200 with a `pending` authorization whose
`dns` identifier is the hook's identifier; one of its challenges is pending and has the hook's
type and token, and the key authorization passed is that of the token under the account key's
thumbprint. -/
theorem main_hooks_sourced (host : Host) (lib : Lib) (opts : List (Char × String))
    (operands : List String) (net : List (Option CurlData)) (hooks : List Int)
    (tty : List (Option Char)) :
    HookSourced lib (main host lib opts operands ⟨net, hooks, tty, []⟩).2.io.log := by
  rcases main_cases host lib opts operands ⟨net, hooks, tty, []⟩ with
    ⟨h, -⟩ | ⟨o, act, -, -, h⟩
  · rw [h]
    exact .clean fun _ h => nomatch h
  · obtain ⟨evs, hl, hrun⟩ :=
      runAction_session lib (act.config o) o.yes act (Acme.init ⟨net, hooks, tty, []⟩)
    rw [h, hl]
    exact hrun.hookSourced

end Uacme
