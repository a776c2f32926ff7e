import Uacme.Main

/-!
# Uacme.Domain — the names `issue` accepts and the paths built from them

`validate_domain_str` walks the name once.  Past its first character it only checks that each
character is in `[A-Za-z0-9._-]` (`validateLoop_pos`): `.`, `_` and `-` set the non-empty flag
`len` like letters and digits do (the `'.'` case falls through into theirs).  So the accepted
names are exactly an optional `*.` followed by such characters, or a non-empty run of them that
does not start with `.` (`validateDomainStr_iff`): separator-only names such as `-`, `*.` and
`*..` pass.

`main` takes the primary domain from the first name without its `*.`, and builds
`<confdir>/private/<domain>/key.pem` and `<confdir>/<domain>` from it.  `resolve` reads a path
the way the kernel does without symbolic links: empty and `.` components are skipped and `..`
leaves the last component.  The domain holds no `/`; it is `""`, `.` or `..` exactly for the
names `*.`, `*..` and `*...`, and for every other accepted name the domain key is not the account
key and the certificate directory lies one level below `confdir` (`issue_domain_paths`).
-/

namespace Uacme

/-! ## `validate_domain_str` -/

/-- The characters `validate_domain_str` lets through anywhere: `[A-Za-z0-9._-]`. -/
def domainChar (c : Char) : Bool :=
  c.isUpper || c.isLower || c.isDigit || c = '.' || c = '_' || c = '-'

theorem domainChar_star : domainChar '*' = false := rfl

theorem domainChar_slash : domainChar '/' = false := rfl

/-- Past the first character only the characters count: all of them must be in
`[A-Za-z0-9._-]`, and any of them sets the flag. -/
theorem validateLoop_pos {j : Nat} (hj : j ≠ 0) (s1 : Option Char) (len : Bool) (cs : List Char) :
    validateLoop s1 j len cs = (cs.all domainChar && (len || !cs.isEmpty)) := by
  induction cs generalizing j len with
  | nil => simp [validateLoop]
  | cons c cs ih =>
    have ih' := ih (Nat.succ_ne_zero j)
    by_cases h1 : c = '.'
    · subst h1; simp [validateLoop, hj, ih', domainChar]
    by_cases h2 : c = '_' ∨ c = '-'
    · have : domainChar c = true := by rcases h2 with rfl | rfl <;> rfl
      simp [validateLoop, h1, h2, ih', this]
    by_cases h3 : c = '*'
    · subst h3; simp [validateLoop, hj, domainChar_star]
    have hd : domainChar c = (c.isUpper || c.isLower || c.isDigit) := by
      simp only [not_or] at h2; simp [domainChar, h1, h2]
    cases ha : (c.isUpper || c.isLower || c.isDigit) <;> simp [validateLoop, h1, h2, h3, ha, hd, ih']

/-- The names `validate_domain_str` accepts: `*.` followed by characters of `[A-Za-z0-9._-]`, or
a non-empty string of them that does not start with `.`. -/
def DomainShape (s : List Char) : Prop :=
  (∃ t, s = '*' :: '.' :: t ∧ ∀ c ∈ t, domainChar c = true) ∨
    (s ≠ [] ∧ s.head? ≠ some '.' ∧ ∀ c ∈ s, domainChar c = true)

theorem validateDomainStr_iff (s : String) : validateDomainStr s = true ↔ DomainShape s.data := by
  unfold validateDomainStr DomainShape
  cases s.data with
  | nil => simp [validateLoop]
  | cons c cs =>
    by_cases h1 : c = '.'
    · subst h1; simp [validateLoop]
    by_cases h3 : c = '*'
    · subst h3
      rcases cs with _ | ⟨d, t⟩
      · simp [validateLoop, domainChar_star]
      · by_cases hd : d = '.'
        · subst hd; simp [validateLoop, validateLoop_pos, domainChar_star]
        · simp [validateLoop, hd, domainChar_star]
    by_cases h2 : c = '_' ∨ c = '-'
    · have : domainChar c = true := by rcases h2 with rfl | rfl <;> rfl
      simp [validateLoop, h1, h2, validateLoop_pos, this, h3]
    have hd : domainChar c = (c.isUpper || c.isLower || c.isDigit) := by
      simp only [not_or] at h2; simp [domainChar, h1, h2]
    cases ha : (c.isUpper || c.isLower || c.isDigit) <;>
      simp [validateLoop, h1, h2, h3, ha, hd, validateLoop_pos]

/-! ## The primary domain -/

theorem parseAction_issue (names : List String) :
    parseAction ("issue" :: names) = some (.issue names) ↔
      names ≠ [] ∧ ∀ n ∈ names, validateDomainStr n = true := by
  have e1 : ¬("issue" = "new" ∨ "issue" = "update") := by decide
  have e2 : ¬("issue" = "deactivate") := by decide
  simp only [parseAction, e1, e2, if_false, if_true]
  by_cases h : names = [] ∨ (!names.all validateDomainStr) = true
  · rw [if_pos h]
    rcases h with h | h
    · simp [h]
    · simp only [Bool.not_eq_true', List.all_eq_false] at h
      obtain ⟨n, hn, hv⟩ := h
      simp only [reduceCtorEq, false_iff, not_and, not_forall]
      exact fun _ => ⟨n, hn, by simpa using hv⟩
  · rw [if_neg h]
    simp only [not_or, Bool.not_eq_true', Bool.not_eq_false, List.all_eq_true] at h
    simpa using h

/-- The domain of an accepted name has only characters of `[A-Za-z0-9._-]`; it is `""`, `.` or
`..` exactly for the names `*.`, `*..`, `*...`. -/
theorem primaryDomain_shape {n : String} (h : DomainShape n.data) :
    (∀ c ∈ (primaryDomain n).data, domainChar c = true) ∧
      (primaryDomain n ∈ ["", ".", ".."] ↔ n ∈ ["*.", "*..", "*..."]) := by
  rcases h with ⟨t, ht, hc⟩ | ⟨hne, hdot, hc⟩
  · have hd : primaryDomain n = ⟨t⟩ := by simp [primaryDomain, ht]
    refine ⟨by simpa [hd] using hc, ?_⟩
    rw [hd]
    simp only [List.mem_cons, List.mem_singleton, List.not_mem_nil, or_false, String.ext_iff, ht]
    constructor <;> intro h <;> rcases h with h | h | h <;> simp_all
  · have hstar : n.data.head? ≠ some '*' := by
      intro h
      obtain ⟨rest, hr⟩ : ∃ rest, n.data = '*' :: rest := by
        cases hn : n.data with
        | nil => simp [hn] at h
        | cons c rest => simp [hn] at h; exact ⟨rest, by rw [h]⟩
      exact absurd (hc '*' (by simp [hr])) (by simp [domainChar_star])
    have hd : primaryDomain n = n := by
      unfold primaryDomain
      split
      · rename_i rest hr; simp [hr] at hstar
      · rfl
    refine ⟨by rw [hd]; exact hc, ?_⟩
    rw [hd]
    simp only [List.mem_cons, List.mem_singleton, List.not_mem_nil, or_false, String.ext_iff]
    constructor
    · rintro (h | h | h) <;> simp_all
    · rintro (h | h | h) <;> simp_all

/-! ## Paths -/

/-- The `/`-separated segments of a path. -/
def segments : List Char → List (List Char)
  | [] => [[]]
  | c :: cs =>
    if c = '/' then [] :: segments cs
    else
      match segments cs with
      | [] => [[c]]
      | s :: ss => (c :: s) :: ss

/-- One segment resolved: an empty segment and `.` stay where they are, `..` leaves the last
component, a name enters it. -/
def resolveStep (st : List (List Char)) (seg : List Char) : List (List Char) :=
  if seg = [] ∨ seg = ['.'] then st else if seg = ['.', '.'] then st.dropLast else st ++ [seg]

/-- The components a path names, resolved lexically (without symbolic links). -/
def resolve (p : String) : List (List Char) :=
  (segments p.data).foldl resolveStep []

theorem segments_ne_nil (cs : List Char) : segments cs ≠ [] := by
  cases cs with
  | nil => simp [segments]
  | cons c cs =>
    unfold segments
    split_ifs
    · simp
    · split <;> simp

theorem segments_append_slash (p q : List Char) :
    segments (p ++ '/' :: q) = segments p ++ segments q := by
  induction p with
  | nil => simp [segments]
  | cons c p ih =>
    obtain ⟨s, ss, hs⟩ := List.exists_cons_of_ne_nil (segments_ne_nil p)
    by_cases hc : c = '/'
    · simp [segments, hc, ih]
    · simp [segments, hc, ih, hs]

theorem segments_of_no_slash {d : List Char} (hd : '/' ∉ d) : segments d = [d] := by
  induction d with
  | nil => rfl
  | cons c d ih =>
    have hc : c ≠ '/' := fun h => hd (h ▸ List.mem_cons_self _ _)
    simp [segments, hc, ih (fun h => hd (List.mem_cons_of_mem _ h))]

theorem resolve_slash {p q : String} {r : List Char} (h : p.data = q.data ++ '/' :: r) :
    resolve p = (segments r).foldl resolveStep (resolve q) := by
  rw [resolve, h, segments_append_slash, List.foldl_append]; rfl

theorem resolveStep_name {seg : List Char} (h : ¬ (seg = [] ∨ seg = ['.'] ∨ seg = ['.', '.']))
    (st : List (List Char)) : resolveStep st seg = st ++ [seg] := by
  simp only [not_or] at h
  simp [resolveStep, h]

/-- For a domain that is a plain name (no `/`, not `""`, `.` or `..`), the domain key, the
account key and the certificate directory resolve to `confdir` extended by components. -/
theorem resolve_paths {d : String} (hs : '/' ∉ d.data)
    (hn : ¬ (d.data = [] ∨ d.data = ['.'] ∨ d.data = ['.', '.'])) (confdir : String) :
    resolve (keyFile (dkeydir confdir d)) =
        resolve confdir ++ ["private".data, d.data, "key.pem".data] ∧
      resolve (keyFile (keydir confdir)) = resolve confdir ++ ["private".data, "key.pem".data] ∧
      resolve (certdir confdir d) = resolve confdir ++ [d.data] := by
  have hp : ¬ ("private".data = [] ∨ "private".data = ['.'] ∨ "private".data = ['.', '.']) := by
    decide
  have hk : ¬ ("key.pem".data = [] ∨ "key.pem".data = ['.'] ∨ "key.pem".data = ['.', '.']) := by
    decide
  refine ⟨?_, ?_, ?_⟩
  · rw [resolve_slash (q := confdir) (r := "private".data ++ '/' :: (d.data ++ '/' :: "key.pem".data))
      (by simp [keyFile, dkeydir, String.data_append])]
    rw [segments_append_slash, segments_append_slash, segments_of_no_slash hs,
      segments_of_no_slash (by decide), segments_of_no_slash (by decide)]
    simp [resolveStep_name hn, resolveStep_name hp, resolveStep_name hk]
  · rw [resolve_slash (q := confdir) (r := "private".data ++ '/' :: "key.pem".data)
      (by simp [keyFile, keydir, String.data_append])]
    rw [segments_append_slash, segments_of_no_slash (by decide), segments_of_no_slash (by decide)]
    simp [resolveStep_name hp, resolveStep_name hk]
  · rw [resolve_slash (q := confdir) (r := d.data) (by simp [certdir, String.data_append]),
      segments_of_no_slash hs]
    simp [resolveStep_name hn]

theorem mem_dotNames (d : String) :
    d ∈ ["", ".", ".."] ↔ (d.data = [] ∨ d.data = ['.'] ∨ d.data = ['.', '.']) := by
  simp only [List.mem_cons, List.mem_singleton, List.not_mem_nil, or_false, String.ext_iff]

/-- **The names `issue` accepts and the paths of their domain.**  `validate_domain_str` accepts
exactly the `DomainShape` names.  For every operand list `main` accepts for `issue`, the primary
domain has only characters of `[A-Za-z0-9._-]` (no `/`), it is `""`, `.` or `..` exactly when the
first name is `*.`, `*..` or `*...`, and otherwise the domain key path does not resolve to the
account key path and the certificate directory resolves one component below `confdir`. -/
theorem issue_domain_paths :
    (∀ s, validateDomainStr s = true ↔ DomainShape s.data) ∧
      ∀ names confdir, parseAction ("issue" :: names) = some (.issue names) →
        let d := primaryDomain (names.headD "")
        (∀ c ∈ d.data, domainChar c = true) ∧
          (d ∈ ["", ".", ".."] ↔ names.headD "" ∈ ["*.", "*..", "*..."]) ∧
          (d ∉ ["", ".", ".."] →
            resolve (keyFile (dkeydir confdir d)) ≠ resolve (keyFile (keydir confdir)) ∧
              resolve (certdir confdir d) = resolve confdir ++ [d.data]) := by
  refine ⟨validateDomainStr_iff, fun names confdir h => ?_⟩
  obtain ⟨hne, hv⟩ := (parseAction_issue names).1 h
  obtain ⟨n, rest, rfl⟩ := List.exists_cons_of_ne_nil hne
  obtain ⟨hc, hsp⟩ :=
    primaryDomain_shape ((validateDomainStr_iff n).1 (hv n (List.mem_cons_self _ _)))
  refine ⟨hc, hsp, fun hd => ?_⟩
  have hs : '/' ∉ (primaryDomain n).data := fun h => by simpa [domainChar_slash] using hc '/' h
  obtain ⟨h1, h2, h3⟩ := resolve_paths hs (by rwa [mem_dotNames] at hd) confdir
  refine ⟨fun e => ?_, h3⟩
  have := congrArg List.length (h1.symm.trans (e.trans h2))
  simp at this

/-- `*..` is accepted for `issue`; its domain is `.`, its domain key path resolves to the
account key path, and its certificate directory resolves to `confdir` itself. -/
theorem star_dotdot_accepted :
    parseAction ["issue", "*.."] = some (.issue ["*.."]) ∧ primaryDomain "*.." = "." ∧
      resolve (keyFile (dkeydir "/etc/ssl/uacme" (primaryDomain "*.."))) =
        resolve (keyFile (keydir "/etc/ssl/uacme")) ∧
      resolve (certdir "/etc/ssl/uacme" (primaryDomain "*..")) = resolve "/etc/ssl/uacme" := by
  decide

end Uacme
