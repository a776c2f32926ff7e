import Uacme.AuthTrace

/-!
# Uacme.AuthOutcome — when `authorize` succeeds

The grammar of `Uacme.AuthTrace` already fixes the order of the work: authorizations in array
order, in each the challenges in the server's order, only the pending ones, each presented at
most once, the first accepted one deciding the authorization, and a failed one ending the run.
What it leaves implicit is what a successful run has seen; `AuthRun.gotThrough` reads it off:
every authorization of the order was reported `valid` by the server, or was reported `pending`
with a pending challenge that was started and then polled to `valid`.
-/

namespace Uacme

section Outcome

variable (lib : Lib)

/-- The server answered a request of `payload` to `url` with 200 and the document `d`. -/
def Answered (url payload : String) (d : Option Json) (evs : List Event) : Prop :=
  ∃ p c, Event.post url p payload (some c) ∈ evs ∧ c.code = 200 ∧ respJson lib (some c) = d

/-- The authorization `j` got through in the events `evs`: the server reported it `valid`, or
reported it `pending` with a pending challenge that was started and then polled to `valid`. -/
def GotThrough (j : Json) (evs : List Event) : Prop :=
  ∃ u d, j = .string u ∧ Answered lib u "" d evs ∧
    (jsonFindString d "status" = some "valid" ∨
      jsonFindString d "status" = some "pending" ∧
        ∃ chs ch url, jsonFind d "challenges" = some (.array chs) ∧ ch ∈ chs ∧
          jsonCompareString (some ch) "status" "pending" = 0 ∧
          jsonFindString (some ch) "url" = some url ∧
          (∃ p resp, Event.post url p "\x7b\x7d" resp ∈ evs) ∧
          ∃ d', Answered lib url "" d' evs ∧ jsonFindString d' "status" = some "valid")

variable {lib}

theorem Answered.mono {url payload : String} {d : Option Json} {evs evs' : List Event}
    (h : Answered lib url payload d evs) (hs : ∀ x ∈ evs, x ∈ evs') : Answered lib url payload d evs' :=
  let ⟨p, c, hm, hc, hd⟩ := h
  ⟨p, c, hs _ hm, hc, hd⟩

theorem Posted.answered {url payload : String} {e : List Event} {d : Option Json}
    (h : Posted lib url payload e 200 d) : Answered lib url payload d e := by
  obtain ⟨p, c, rfl, hc, rfl⟩ := h.code_ne_zero lib (by decide)
  exact ⟨p, c, List.mem_singleton_self _, hc.symm, rfl⟩

theorem Posted.mem {url payload : String} {e : List Event} {d : Option Json}
    (h : Posted lib url payload e 200 d) : ∃ p resp, Event.post url p payload resp ∈ e := by
  obtain ⟨p, c, rfl, -, -⟩ := h.code_ne_zero lib (by decide)
  exact ⟨p, some c, List.mem_singleton_self _⟩

/-- A poll that reached `valid` saw a 200 answer with status `valid`. -/
theorem Polled.answered {url : String} {e : List Event} {ok : Bool} (h : Polled lib url e ok)
    (hok : ok = true) : ∃ d, Answered lib url "" d e ∧ jsonFindString d "status" = some "valid" := by
  induction h with
  | valid hp hv => exact ⟨_, hp.answered, hv⟩
  | again _ _ _ _ ih =>
    obtain ⟨d, hd, hv⟩ := ih hok
    exact ⟨d, hd.mono fun _ hx => List.mem_append_right _ hx, hv⟩
  | stop => cases hok

/-- A successful attempt was started and polled to `valid`. -/
theorem Attempted.answered {hook : Option String} {url type ident token ka : String}
    {evs : List Event} {ok : Bool} (h : Attempted lib hook url type ident token ka evs ok)
    (hok : ok = true) : (∃ p resp, Event.post url p "\x7b\x7d" resp ∈ evs) ∧
      ∃ d, Answered lib url "" d evs ∧ jsonFindString d "status" = some "valid" := by
  cases h with
  | started hs hpol _ =>
    obtain ⟨p, resp, hm⟩ := hs.mem
    obtain ⟨d, hd, hv⟩ := hpol.answered hok
    exact ⟨⟨p, resp, by simp [hm]⟩, d, hd.mono fun _ hx => by simp [hx], hv⟩
  | refused => cases hok

/-- A successful challenge loop had a pending challenge that was started and polled to
`valid`. -/
theorem ChlgRun.answered {hook : Option String} {thumb ident : String} {chs : List Json}
    {evs : List Event} {ok : Bool} (h : ChlgRun lib hook thumb ident chs evs ok) (hok : ok = true) :
    ∃ ch url, ch ∈ chs ∧ jsonCompareString (some ch) "status" "pending" = 0 ∧
      jsonFindString (some ch) "url" = some url ∧
      (∃ p resp, Event.post url p "\x7b\x7d" resp ∈ evs) ∧
      ∃ d, Answered lib url "" d evs ∧ jsonFindString d "status" = some "valid" := by
  induction h with
  | exhausted | malformed | aborted => cases hok
  | notPending _ _ ih =>
    obtain ⟨ch, url, hm, rest⟩ := ih hok
    exact ⟨ch, url, List.mem_cons_of_mem _ hm, rest⟩
  | declined _ _ _ ih =>
    obtain ⟨ch, url, hm, hp, hu, ⟨p, resp, hs⟩, d, hd, hv⟩ := ih hok
    exact ⟨ch, url, List.mem_cons_of_mem _ hm, hp, hu, ⟨p, resp, List.mem_append_right _ hs⟩, d,
      hd.mono fun _ hx => List.mem_append_right _ hx, hv⟩
  | accepted hc _ ha =>
    obtain ⟨⟨p, resp, hs⟩, d, hd, hv⟩ := ha.answered hok
    exact ⟨_, _, List.mem_cons_self _ _, hc.1, hc.2.1, ⟨p, resp, List.mem_append_right _ hs⟩, d,
      hd.mono fun _ hx => List.mem_append_right _ hx, hv⟩

theorem GotThrough.mono {j : Json} {evs evs' : List Event} (h : GotThrough lib j evs)
    (hs : ∀ x ∈ evs, x ∈ evs') : GotThrough lib j evs' := by
  obtain ⟨u, d, hju, hd, rest⟩ := h
  refine ⟨u, d, hju, hd.mono hs, ?_⟩
  rcases rest with hv | ⟨hpend, chs, ch, url, hchs, hm, hpc, hu, ⟨p, resp, hst⟩, d', hd', hv'⟩
  · exact .inl hv
  · exact .inr ⟨hpend, chs, ch, url, hchs, hm, hpc, hu, ⟨p, resp, hs _ hst⟩, d', hd'.mono hs, hv'⟩

/-- **A successful run got through every authorization.** -/
theorem AuthRun.gotThrough {hook : Option String} {thumb : String} {auths : List Json}
    {evs : List Event} {ok : Bool} (h : AuthRun lib hook thumb auths evs ok) (hok : ok = true) :
    ∀ j ∈ auths, GotThrough lib j evs := by
  induction h with
  | done => simp
  | notUrl | failed | invalid | unworkable | unsolved => cases hok
  | valid hp hv _ ih =>
    intro j hj
    rcases List.mem_cons.1 hj with rfl | hj
    · exact ⟨_, _, rfl, hp.answered.mono fun _ hx => List.mem_append_left _ hx, .inl hv⟩
    · exact (ih hok j hj).mono fun _ hx => List.mem_append_right _ hx
  | solved hp hpend hw hc _ ih =>
    intro j hj
    rcases List.mem_cons.1 hj with rfl | hj
    · obtain ⟨ch, url, hm, hpc, hu, ⟨p, resp, hs⟩, d', hd', hv'⟩ := hc.answered rfl
      exact ⟨_, _, rfl, hp.answered.mono fun _ hx => by simp [hx], .inr ⟨hpend, _, ch, url,
        hw.2.2.2, hm, hpc, hu, ⟨p, resp, by simp [hs]⟩, d', hd'.mono fun _ hx => by simp [hx], hv'⟩⟩
    · exact (ih hok j hj).mono fun _ hx => List.mem_append_right _ hx

end Outcome

/-- **What a run of `authorize` does.** For every order, every sequence of server responses and
every hook or operator answer, the events `authorize` appends are a word of its grammar: the
authorizations in array order; in each, the challenges in the server's order, only the pending
ones presented, each at most once, the first accepted one deciding the authorization, and an
accepted one that fails ending the whole run with `false`.  When it returns `true`, every
authorization of the order got through. -/
theorem authorize_outcome (lib : Lib) (cfg : Config) (a : Acme) :
    ∃ evs, (authorize lib cfg a).2.io.log = a.io.log ++ evs ∧
      AuthorizeRun lib cfg.hookProg a.order evs (authorize lib cfg a).1 ∧
      ((authorize lib cfg a).1 = true → ∃ auths,
        jsonFind a.order "authorizations" = some (.array auths) ∧ ∀ j ∈ auths, GotThrough lib j evs) := by
  obtain ⟨evs, hl, hrun⟩ := authorize_run lib cfg a
  refine ⟨evs, hl, hrun, fun hok => ?_⟩
  revert hrun
  unfold AuthorizeRun
  split
  · rename_i auths _ hauths _
    exact fun hr => ⟨auths, hauths, hr.gotThrough hok⟩
  · rintro ⟨-, hf⟩
    rw [hf] at hok; cases hok

end Uacme
