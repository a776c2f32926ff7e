import Uacme.AuthTrace
import Uacme.Issue

/-!
# Uacme.IssueTrace — `cert_issue` as a grammar of its events

The stages of `cert_issue`, read on the events it appends: the order is created (`IssueRun`);
a `ready` order is finalized at once, any other is authorized (the grammar of
`Uacme.AuthTrace`) and polled until `ready` (`FinishRun`); the finalization POSTs the CSR to the
`finalize` URL of the order document held and polls the order until `valid` (`Finalized`); the
certificate is fetched from the `certificate` URL of the document that reached `valid` and
saved (`Downloaded`).  Every stage that fails ends the run with `false`.

`certIssue_run` is the refinement: every run of the model is a word of the grammar, with the
result the model returns.
-/

namespace Uacme

/-! ## The grammar -/

section Grammar

variable (lib : Lib) (cfg : Config)

/-- The order poll at `orderurl`: POST-as-GETs while the status is `wait`, ending at `target`
(`true`, and the document that reached it becomes the order held) or at anything else. -/
inductive OrderPolled (orderurl target wait : String) : List Event → Bool → Option Json → Prop
  | reached {e resp} : Requested orderurl "" e resp → respCode resp = 200 →
      jsonFindString (respJson lib resp) "status" = some target →
      OrderPolled orderurl target wait e true (respJson lib resp)
  | again {e resp evs ok d} : Requested orderurl "" e resp → respCode resp = 200 →
      jsonFindString (respJson lib resp) "status" ≠ some target →
      jsonFindString (respJson lib resp) "status" = some wait →
      OrderPolled orderurl target wait evs ok d → OrderPolled orderurl target wait (e ++ evs) ok d
  | stop {e resp d} : Requested orderurl "" e resp →
      (respCode resp = 200 → jsonFindString (respJson lib resp) "status" ≠ some target ∧
        jsonFindString (respJson lib resp) "status" ≠ some wait) →
      OrderPolled orderurl target wait e false d

/-- The download from the order document `order`: POST-as-GET of its `certificate` URL and, when
that answered 200 with no problem document, `cert_save` of the body, whose result is the
result. -/
inductive Downloaded (order : Option Json) : List Event → Bool → Prop
  | noUrl : jsonFindString order "certificate" = none → Downloaded order [] false
  | refused {certurl e resp} : jsonFindString order "certificate" = some certurl →
      Requested certurl "" e resp → ¬(respCode resp = 200 ∧ respProblem lib resp = false) →
      Downloaded order e false
  | saved {certurl e resp ok} : jsonFindString order "certificate" = some certurl →
      Requested certurl "" e resp → respCode resp = 200 → respProblem lib resp = false →
      Downloaded order (e ++ [.save (respBody resp) cfg.certdir ok]) ok

/-- The finalization from the order document `order`: the CSR POSTed to its `finalize` URL, the
order polled until `valid`, and the download from the document that reached `valid`. -/
inductive Finalized (orderurl : String) (order : Option Json) : List Event → Bool → Prop
  | noCsr : lib.csrGen = none → Finalized orderurl order [] false
  | noUrl {csr} : lib.csrGen = some csr → jsonFindString order "finalize" = none →
      Finalized orderurl order [] false
  | refused {csr fin e resp} : lib.csrGen = some csr → jsonFindString order "finalize" = some fin →
      Requested fin (csrPayload csr) e resp → ¬(respCode resp = 200 ∧ respProblem lib resp = false) →
      Finalized orderurl order e false
  | unfinished {csr fin e resp evs d} : lib.csrGen = some csr →
      jsonFindString order "finalize" = some fin → Requested fin (csrPayload csr) e resp →
      respCode resp = 200 → respProblem lib resp = false →
      OrderPolled lib orderurl "valid" "processing" evs false d →
      Finalized orderurl order (e ++ evs) false
  | finished {csr fin e resp evs d evs' ok} : lib.csrGen = some csr →
      jsonFindString order "finalize" = some fin → Requested fin (csrPayload csr) e resp →
      respCode resp = 200 → respProblem lib resp = false →
      OrderPolled lib orderurl "valid" "processing" evs true d →
      jsonFindString d "status" = some "valid" → Downloaded lib cfg d evs' ok →
      Finalized orderurl order (e ++ evs ++ evs') ok

/-- `cert_issue` from the created order at `orderurl`, with status `status` and document
`order`: a `ready` order is finalized at once; any other is authorized, then polled until
`ready`, and the document that reached `ready` is finalized. -/
inductive FinishRun (orderurl status : String) (order : Option Json) : List Event → Bool → Prop
  | ready {evs ok} : status = "ready" → Finalized lib cfg orderurl order evs ok →
      FinishRun orderurl status order evs ok
  | unauthorized {evs} : status ≠ "ready" → AuthorizeRun lib cfg.hookProg order evs false →
      FinishRun orderurl status order evs false
  | unready {evs1 evs2 d} : status ≠ "ready" → AuthorizeRun lib cfg.hookProg order evs1 true →
      OrderPolled lib orderurl "ready" "pending" evs2 false d →
      FinishRun orderurl status order (evs1 ++ evs2) false
  | readied {evs1 evs2 d evs3 ok} : status ≠ "ready" → AuthorizeRun lib cfg.hookProg order evs1 true →
      OrderPolled lib orderurl "ready" "pending" evs2 true d →
      jsonFindString d "status" = some "ready" → Finalized lib cfg orderurl d evs3 ok →
      FinishRun orderurl status order (evs1 ++ evs2 ++ evs3) ok

/-- `cert_issue` with the directory `dir`: the order is created at its `newOrder` URL; a 201
answer with status `pending` or `ready` and a `Location` goes on as `FinishRun` from the
document it returned. -/
inductive IssueRun (dir : Option Json) : List Event → Bool → Prop
  | noUrl : jsonFindString dir "newOrder" = none → IssueRun dir [] false
  | refused {url e resp} : jsonFindString dir "newOrder" = some url →
      Requested url (identifiers cfg.names) e resp → respCode resp ≠ 201 → IssueRun dir e false
  | badStatus {url e resp} : jsonFindString dir "newOrder" = some url →
      Requested url (identifiers cfg.names) e resp → respCode resp = 201 →
      (∀ s, jsonFindString (respJson lib resp) "status" = some s → s ≠ "pending" ∧ s ≠ "ready") →
      IssueRun dir e false
  | noLocation {url e resp s} : jsonFindString dir "newOrder" = some url →
      Requested url (identifiers cfg.names) e resp → respCode resp = 201 →
      jsonFindString (respJson lib resp) "status" = some s → (s = "pending" ∨ s = "ready") →
      findHeader (respHeaders resp) "Location" = none → IssueRun dir e false
  | created {url e resp s orderurl evs ok} : jsonFindString dir "newOrder" = some url →
      Requested url (identifiers cfg.names) e resp → respCode resp = 201 →
      jsonFindString (respJson lib resp) "status" = some s → (s = "pending" ∨ s = "ready") →
      findHeader (respHeaders resp) "Location" = some orderurl →
      FinishRun lib cfg orderurl s (respJson lib resp) evs ok → IssueRun dir (e ++ evs) ok

end Grammar

/-- A poll that succeeded holds a document with the status it waited for. -/
theorem OrderPolled.status {lib : Lib} {orderurl target wait : String} {evs : List Event}
    {ok : Bool} {d : Option Json} (h : OrderPolled lib orderurl target wait evs ok d) (hok : ok = true) :
    jsonFindString d "status" = some target := by
  induction h with
  | reached _ _ hv => exact hv
  | again _ _ _ _ _ ih => exact ih hok
  | stop => cases hok

/-! ## Refinement -/

section Refinement

variable (lib : Lib) (cfg : Config)

theorem pollOrder_polled (orderurl target wait : String) (a : Acme) :
    ∃ evs, (pollOrder lib orderurl target wait a).2.io.log = a.io.log ++ evs ∧
      OrderPolled lib orderurl target wait evs (pollOrder lib orderurl target wait a).1
        (pollOrder lib orderurl target wait a).2.order := by
  induction a using pollOrder.induct lib orderurl target wait with
  | case1 a p h200 st hv =>
    obtain ⟨e, resp, he, hq, hr, hj, -⟩ := acmePost_requested lib (Prod.mk.eta : (p.1, p.2) = p).symm
    rw [pollOrder]; simp only [p, st] at h200 hv hq he hr hj ⊢; rw [if_pos h200, if_pos hv]
    refine ⟨e, he, ?_⟩
    rw [hj] at hv ⊢
    exact .reached hq (hr ▸ h200) hv
  | case2 a p h200 st hv hw ih =>
    obtain ⟨e, resp, he, hq, hr, hj, -⟩ := acmePost_requested lib (Prod.mk.eta : (p.1, p.2) = p).symm
    obtain ⟨evs, hl, hpol⟩ := ih
    rw [pollOrder]; simp only [p, st] at h200 hv hw hq he hr hj hl hpol ⊢
    rw [if_pos h200, if_neg hv, if_pos hw]
    rw [hj] at hv hw
    exact ⟨e ++ evs, by rw [hl, he, List.append_assoc], .again hq (hr ▸ h200) hv hw hpol⟩
  | case3 a p h200 st hv hw =>
    obtain ⟨e, resp, he, hq, hr, hj, -⟩ := acmePost_requested lib (Prod.mk.eta : (p.1, p.2) = p).symm
    rw [pollOrder]; simp only [p, st] at h200 hv hw hq he hr hj ⊢
    rw [if_pos h200, if_neg hv, if_neg hw]
    rw [hj] at hv hw
    exact ⟨e, he, .stop hq fun _ => ⟨hv, hw⟩⟩
  | case4 a p h200 =>
    obtain ⟨e, resp, he, hq, hr, -⟩ := acmePost_requested lib (Prod.mk.eta : (p.1, p.2) = p).symm
    rw [pollOrder]; simp only [p] at h200 hq he hr ⊢; rw [if_neg h200]
    exact ⟨e, he, .stop hq fun h => absurd (hr ▸ h) h200⟩

theorem certDownload_run (a : Acme) :
    ∃ evs, (certDownload lib cfg a).2.io.log = a.io.log ++ evs ∧
      Downloaded lib cfg a.order evs (certDownload lib cfg a).1 := by
  unfold certDownload
  split
  · exact ⟨[], by simp, .noUrl ‹_›⟩
  rename_i certurl hcert
  split
  rename_i ok a1 hp
  obtain ⟨e, resp, hl, hq, rfl, hb⟩ := postExpect_requested lib hp
  by_cases hgood : respCode resp = 200 ∧ respProblem lib resp = false
  · simp only [hgood.1, hgood.2, beq_self_eq_true, Bool.not_false, Bool.and_self, Bool.not_true,
      if_false, certSave, hb]
    exact ⟨_, by simp [hl], .saved hcert hq hgood.1 hgood.2⟩
  · have hbad : (respCode resp == 200 && !respProblem lib resp) = false := by
      simpa [not_and_or] using hgood
    simp only [hbad, Bool.not_false, if_true]
    exact ⟨e, hl, .refused hcert hq hgood⟩

theorem certFinalize_run (orderurl : String) (a : Acme) :
    ∃ evs, (certFinalize lib cfg orderurl a).2.io.log = a.io.log ++ evs ∧
      Finalized lib cfg orderurl a.order evs (certFinalize lib cfg orderurl a).1 := by
  unfold certFinalize
  split
  · exact ⟨[], by simp, .noCsr ‹_›⟩
  rename_i csr hcsr
  split
  · exact ⟨[], by simp, .noUrl hcsr ‹_›⟩
  rename_i fin hfin
  split
  rename_i ok a1 hp
  obtain ⟨e, resp, hl, hq, rfl, -⟩ := postExpect_requested lib hp
  by_cases hgood : respCode resp = 200 ∧ respProblem lib resp = false
  swap
  · have hbad : (respCode resp == 200 && !respProblem lib resp) = false := by
      simpa [not_and_or] using hgood
    simp only [hbad, Bool.not_false, if_true]
    exact ⟨e, hl, .refused hcsr hfin hq hgood⟩
  simp only [hgood.1, hgood.2, beq_self_eq_true, Bool.not_false, Bool.and_self, Bool.not_true,
    Bool.false_eq_true, if_false]
  obtain ⟨evs, hl2, hpol⟩ := pollOrder_polled lib orderurl "valid" "processing" a1
  rcases hpo : pollOrder lib orderurl "valid" "processing" a1 with ⟨ok2, a2⟩
  rw [hpo] at hl2 hpol
  dsimp only at hl2 hpol
  cases ok2
  · exact ⟨e ++ evs, by simp [hl2, hl], .unfinished hcsr hfin hq hgood.1 hgood.2 hpol⟩
  · obtain ⟨evs', hl3, hdl⟩ := certDownload_run lib cfg a2
    exact ⟨e ++ evs ++ evs', by simp [hl3, hl2, hl],
      .finished hcsr hfin hq hgood.1 hgood.2 hpol (hpol.status rfl) hdl⟩

theorem certFinish_run (orderurl status : String) (a : Acme) :
    ∃ evs, (certFinish lib cfg orderurl status a).2.io.log = a.io.log ++ evs ∧
      FinishRun lib cfg orderurl status a.order evs (certFinish lib cfg orderurl status a).1 := by
  unfold certFinish
  by_cases hready : status = "ready"
  · simp only [hready, if_true, Bool.not_true, if_false]
    obtain ⟨evs, hl, hf⟩ := certFinalize_run lib cfg orderurl a
    exact ⟨evs, hl, .ready rfl hf⟩
  simp only [hready, if_false]
  obtain ⟨evs1, hl1, hauth⟩ := authorize_run lib cfg a
  rcases ha : authorize lib cfg a with ⟨ok1, a1⟩
  rw [ha] at hl1 hauth
  dsimp only at hl1 hauth
  cases ok1
  · exact ⟨evs1, hl1, .unauthorized hready hauth⟩
  obtain ⟨evs2, hl2, hpol⟩ := pollOrder_polled lib orderurl "ready" "pending" a1
  rcases hpo : pollOrder lib orderurl "ready" "pending" a1 with ⟨ok2, a2⟩
  rw [hpo] at hl2 hpol
  dsimp only at hl2 hpol
  cases ok2
  · exact ⟨evs1 ++ evs2, by simp [hl2, hl1], .unready hready hauth hpol⟩
  · obtain ⟨evs3, hl3, hf⟩ := certFinalize_run lib cfg orderurl a2
    exact ⟨evs1 ++ evs2 ++ evs3, by simp [hl3, hl2, hl1], .readied hready hauth hpol (hpol.status rfl) hf⟩

/-- **`cert_issue` refines its grammar.** -/
theorem certIssue_run (a : Acme) :
    ∃ evs, (certIssue lib cfg a).2.io.log = a.io.log ++ evs ∧
      IssueRun lib cfg a.dir evs (certIssue lib cfg a).1 := by
  unfold certIssue
  split
  · exact ⟨[], by simp, .noUrl ‹_›⟩
  rename_i url hurl
  split
  rename_i r a1 hp
  obtain ⟨e, resp, hl, hq, rfl, hj, hh, -⟩ := acmePost_requested lib hp
  split_ifs with h201
  · exact ⟨e, hl, .refused hurl hq h201⟩
  replace h201 : respCode resp = 201 := not_not.1 h201
  split
  · rename_i hs
    exact ⟨e, hl, .badStatus hurl hq h201 fun s h => by rw [← hj, hs] at h; cases h⟩
  rename_i s hs
  rw [hj] at hs
  split_ifs with hbad
  · exact ⟨e, hl, .badStatus hurl hq h201 fun s' h => by rw [hs] at h; cases h; exact hbad⟩
  have hps : s = "pending" ∨ s = "ready" := by tauto
  split
  · rename_i hloc
    rw [hh] at hloc
    exact ⟨e, hl, .noLocation hurl hq h201 hs hps hloc⟩
  · rename_i orderurl hloc
    rw [hh] at hloc
    obtain ⟨evs, hl', hfin⟩ := certFinish_run lib cfg orderurl s { a1 with order := a1.json, json := none }
    rw [show ({ a1 with order := a1.json, json := none } : Acme).order = respJson lib resp from hj] at hfin
    exact ⟨e ++ evs, by simp [hl', hl], .created hurl hq h201 hs hps hloc hfin⟩

end Refinement

end Uacme
