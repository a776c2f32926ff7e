import Uacme.IssueTrace

/-!
# Uacme.IssueGates — what `cert_issue` waits for before each step

The grammar of `Uacme.IssueTrace` puts the gates of `cert_issue` in its constructors: only a
`pending` order is authorized (`FinishRun.ready` takes the `ready` one straight to the
finalization); the finalization starts only from a document with status `ready`, the newOrder
answer or the poll that reached it; the certificate URL is taken only from the document of a
poll after the finalization that reached `valid`; `cert_save` is called only on the body of a
200 answer without a problem document to the POST of that URL.

What remains to read off is the result: `cert_issue` returns `true` exactly when its last event
is a successful `cert_save` into the certificate directory.  Authorization saves nothing
(`AuthRun.noSave`), so a failure there cannot end on one.
-/

namespace Uacme

/-- No certificate is saved among the events. -/
def NoSave (evs : List Event) : Prop := ∀ body dir ok, Event.save body dir ok ∉ evs

/-- The last event is a successful `cert_save` into `dir`. -/
def SavedLast (dir : String) (evs : List Event) : Prop :=
  ∃ body, evs.getLast? = some (.save body dir true)

section NoSave

variable {lib : Lib}

theorem NoSave.append {a b : List Event} (ha : NoSave a) (hb : NoSave b) : NoSave (a ++ b) :=
  fun body dir ok hm => (List.mem_append.1 hm).elim (ha body dir ok) (hb body dir ok)

theorem Requested.noSave {url payload : String} {e : List Event} {resp : Option CurlData}
    (h : Requested url payload e resp) : NoSave e := by
  cases h <;> simp [NoSave]

theorem Posted.noSave {url payload : String} {e : List Event} {r : Nat} {j : Option Json}
    (h : Posted lib url payload e r j) : NoSave e := by
  cases h <;> simp [NoSave]

theorem Polled.noSave {url : String} {e : List Event} {ok : Bool} (h : Polled lib url e ok) :
    NoSave e := by
  induction h with
  | valid hp _ | stop hp _ => exact hp.noSave
  | again hp _ _ _ ih => exact hp.noSave.append ih

theorem Presented.noSave {hook : Option String} {type ident token ka : String} {pe : List Event}
    {v : Option Bool} (h : Presented hook type ident token ka pe v) : NoSave pe := by
  cases h <;> simp [NoSave]

theorem Reported.noSave {hook : Option String} {type ident token ka : String} {ok : Bool}
    {e : List Event} (h : Reported hook type ident token ka ok e) : NoSave e := by
  cases h <;> simp [NoSave]

theorem Attempted.noSave {hook : Option String} {url type ident token ka : String}
    {evs : List Event} {ok : Bool} (h : Attempted lib hook url type ident token ka evs ok) :
    NoSave evs := by
  cases h with
  | started hs hpol hrep => exact (hs.noSave.append hpol.noSave).append hrep.noSave
  | refused hs _ hrep => exact hs.noSave.append hrep.noSave

theorem ChlgRun.noSave {hook : Option String} {thumb ident : String} {chs : List Json}
    {evs : List Event} {ok : Bool} (h : ChlgRun lib hook thumb ident chs evs ok) : NoSave evs := by
  induction h with
  | exhausted | malformed => simp [NoSave]
  | notPending _ _ ih => exact ih
  | aborted _ hpe => exact hpe.noSave
  | declined _ hpe _ ih => exact hpe.noSave.append ih
  | accepted _ hpe ha => exact hpe.noSave.append ha.noSave

/-- Authorization saves no certificate. -/
theorem AuthRun.noSave {hook : Option String} {thumb : String} {auths : List Json}
    {evs : List Event} {ok : Bool} (h : AuthRun lib hook thumb auths evs ok) : NoSave evs := by
  induction h with
  | done | notUrl => simp [NoSave]
  | failed hp | invalid hp | unworkable hp => exact hp.noSave
  | valid hp _ _ ih => exact hp.noSave.append ih
  | solved hp _ _ hc _ ih => exact (hp.noSave.append hc.noSave).append ih
  | unsolved hp _ _ hc => exact hp.noSave.append hc.noSave

theorem AuthorizeRun.noSave {hook : Option String} {order : Option Json} {evs : List Event}
    {ok : Bool} (h : AuthorizeRun lib hook order evs ok) : NoSave evs := by
  unfold AuthorizeRun at h
  split at h
  · exact h.noSave
  · rw [h.1]; simp [NoSave]

theorem OrderPolled.noSave {orderurl target wait : String} {evs : List Event} {ok : Bool}
    {d : Option Json} (h : OrderPolled lib orderurl target wait evs ok d) : NoSave evs := by
  induction h with
  | reached hq | stop hq => exact hq.noSave
  | again hq _ _ _ _ ih => exact hq.noSave.append ih

end NoSave

section Result

variable {lib : Lib} {cfg : Config}

theorem not_savedLast {dir : String} {e : List Event} (h : NoSave e) : ¬SavedLast dir e :=
  fun ⟨body, hb⟩ => h body dir true (List.mem_of_getLast?_eq_some hb)

theorem savedLast_append {dir : String} {pre : List Event} (evs : List Event) (h : NoSave pre) :
    SavedLast dir (pre ++ evs) ↔ SavedLast dir evs := by
  cases hl : evs.getLast? with
  | none =>
    refine iff_of_false (fun ⟨body, hb⟩ => ?_) fun ⟨_, hb⟩ => by rw [hl] at hb; cases hb
    rw [List.getLast?_append, hl, Option.none_or] at hb
    exact not_savedLast h ⟨body, hb⟩
  | some x => simp only [SavedLast, List.getLast?_append, hl, Option.or_some]

theorem Downloaded.result {order : Option Json} {evs : List Event} {ok : Bool}
    (h : Downloaded lib cfg order evs ok) : ok = true ↔ SavedLast cfg.certdir evs := by
  cases h with
  | noUrl => exact iff_of_false (by decide) (not_savedLast (by simp [NoSave]))
  | refused _ hq _ => exact iff_of_false (by decide) (not_savedLast hq.noSave)
  | saved _ hq _ _ =>
    rw [savedLast_append _ hq.noSave]
    simp [SavedLast]

theorem Finalized.result {orderurl : String} {order : Option Json} {evs : List Event} {ok : Bool}
    (h : Finalized lib cfg orderurl order evs ok) : ok = true ↔ SavedLast cfg.certdir evs := by
  cases h with
  | noCsr | noUrl => exact iff_of_false (by decide) (not_savedLast (by simp [NoSave]))
  | refused _ _ hq _ => exact iff_of_false (by decide) (not_savedLast hq.noSave)
  | unfinished _ _ hq _ _ hpol =>
    exact iff_of_false (by decide) (not_savedLast (hq.noSave.append hpol.noSave))
  | finished _ _ hq _ _ hpol _ hdl =>
    rw [List.append_assoc, savedLast_append _ hq.noSave, savedLast_append _ hpol.noSave]
    exact hdl.result

theorem FinishRun.result {orderurl status : String} {order : Option Json} {evs : List Event}
    {ok : Bool} (h : FinishRun lib cfg orderurl status order evs ok) :
    ok = true ↔ SavedLast cfg.certdir evs := by
  cases h with
  | ready _ hf => exact hf.result
  | unauthorized _ ha => exact iff_of_false (by decide) (not_savedLast ha.noSave)
  | unready _ ha hpol => exact iff_of_false (by decide) (not_savedLast (ha.noSave.append hpol.noSave))
  | readied _ ha hpol _ hf =>
    rw [List.append_assoc, savedLast_append _ ha.noSave, savedLast_append _ hpol.noSave]
    exact hf.result

theorem IssueRun.result {dir : Option Json} {evs : List Event} {ok : Bool}
    (h : IssueRun lib cfg dir evs ok) : ok = true ↔ SavedLast cfg.certdir evs := by
  cases h with
  | noUrl => exact iff_of_false (by decide) (not_savedLast (by simp [NoSave]))
  | refused _ hq _ | badStatus _ hq _ _ | noLocation _ hq _ _ _ _ =>
    exact iff_of_false (by decide) (not_savedLast hq.noSave)
  | created _ hq _ _ _ _ hf =>
    rw [savedLast_append _ hq.noSave]
    exact hf.result

end Result

/-- **The gates of `cert_issue`.** For every sequence of server responses, the events of
`cert_issue` are a word of its grammar: authorization only for a `pending` order, the
finalization only from an order document with status `ready`, the certificate URL only from the
document of a later poll that reached `valid`, `cert_save` only on the body of a 200 answer
without a problem document to that URL.  And `cert_issue` returns `true` exactly when its last
event is a successful `cert_save` into the certificate directory. -/
theorem certIssue_gates (lib : Lib) (cfg : Config) (a : Acme) :
    ∃ evs, (certIssue lib cfg a).2.io.log = a.io.log ++ evs ∧
      IssueRun lib cfg a.dir evs (certIssue lib cfg a).1 ∧
      ((certIssue lib cfg a).1 = true ↔ SavedLast cfg.certdir evs) := by
  obtain ⟨evs, hl, hrun⟩ := certIssue_run lib cfg a
  exact ⟨evs, hl, hrun, hrun.result⟩

end Uacme
