import Uacme.Basic

/-!
# Uacme.Header — `find_header`

`find_header(headers, name)` compiles `^name: (.*)\r\n` with `REG_EXTENDED | REG_NEWLINE` and
returns the group of the leftmost match.  Under `REG_NEWLINE`, `^` matches at the start of the
block and after every `\n`, and `.` matches every character but `\n`, so a match is a whole line:
the leftmost match is in the first line (a segment ended by `\n`) that reads `name: v\r`, and the
group is `v`.  The name is spliced into the pattern, so the pattern matches it literally only
when it holds no ERE metacharacter (`HeaderName`): so are the three names the driver looks up
(`Replay-Nonce`, `Content-Type`, `Location`), and `findHeader` models `find_header` for such
names only.  The match is case-sensitive: the regex is compiled without `REG_ICASE`.

* `scanHeader_append_line`: the scan consumes one line at a time.
* `findHeader_crlf`: on a block of CRLF-terminated lines and for a `HeaderName`, `find_header`
  returns the text after `name: ` of the first line that starts with `name: `, and NULL when
  there is none.
-/

namespace Uacme

/-- The group of `^pat(.*)\r` on one line (a segment with no `\n`). -/
def matchLine (pat line : List Char) : Option (List Char) :=
  if pat <+: line ∧ line.getLast? = some '\r' ∧ pat.length < line.length then
    some ((line.drop pat.length).dropLast)
  else none

/-- `regexec` of `^pat(.*)\r\n` under `REG_NEWLINE`: `cur` is the current line read so far,
reversed; each `\n` ends a line, which is matched before the search moves on. -/
def scanHeader (pat : List Char) (cur : List Char) : List Char → Option (List Char)
  | [] => none
  | c :: rest =>
    if c = '\n' then
      match matchLine pat cur.reverse with
      | some v => some v
      | none => scanHeader pat [] rest
    else scanHeader pat (c :: cur) rest

/-- A header name as the driver passes it: letters, digits and `-`, none of which is an ERE
metacharacter, so that `^name: ` matches the name literally. -/
def HeaderName (name : String) : Prop := ∀ c ∈ name.data, c.isAlphanum = true ∨ c = '-'

instance (name : String) : Decidable (HeaderName name) :=
  inferInstanceAs (Decidable (∀ c ∈ name.data, c.isAlphanum = true ∨ c = '-'))

/-- `find_header(headers, name)` for a `HeaderName`: the pattern `^name: ` read literally. -/
def findHeader (headers name : String) : Option String :=
  (scanHeader (name ++ ": ").data [] headers.data).map String.mk

/-- Reading a line `l` (no `\n` in it) and its `\n`: the line is matched as a whole. -/
theorem scanHeader_append_line (pat : List Char) {l : List Char} (hl : '\n' ∉ l)
    (cur rest : List Char) :
    scanHeader pat cur (l ++ '\n' :: rest) =
      match matchLine pat (cur.reverse ++ l) with
      | some v => some v
      | none => scanHeader pat [] rest := by
  induction l generalizing cur with
  | nil => simp [scanHeader]
  | cons c l ih =>
    have hc : c ≠ '\n' := fun h => hl (h ▸ List.mem_cons_self _ _)
    rw [List.cons_append, scanHeader, if_neg hc, ih (fun h => hl (List.mem_cons_of_mem _ h))]
    simp

/-- A pattern ending in a space starts `l ++ "\r"` exactly when it starts `l`, and then the line
matches with the text after the pattern as its group. -/
theorem matchLine_crlf {pat : List Char} (hp : pat.getLast? = some ' ') (l : List Char) :
    matchLine pat (l ++ ['\r']) = if pat <+: l then some (l.drop pat.length) else none := by
  by_cases h : pat <+: l
  · have hlen : pat.length < (l ++ ['\r']).length := by simpa using Nat.lt_succ_of_le h.length_le
    rw [matchLine, if_pos ⟨h.trans (List.prefix_append l _), by simp, hlen⟩, if_pos h,
      List.drop_append_of_le_length h.length_le, List.dropLast_append_of_ne_nil _ (by simp)]
    simp
  · have h' : ¬ pat <+: l ++ ['\r'] := by
      intro hpre
      rcases (List.prefix_concat_iff).1 hpre with heq | hpl
      · rw [heq] at hp; simp at hp
      · exact h hpl
    simp [matchLine, h, h']

/-- **`find_header` on CRLF-terminated lines**: for a header name of letters, digits and `-`
and a header block `l₁\r\n l₂\r\n …` whose lines hold no `\n`, `find_header` returns the rest of
the first line that starts with exactly `name: ` (compared case-sensitively), and NULL when no
line does. -/
theorem findHeader_crlf (name : String) (_hname : HeaderName name) (ls : List String)
    (hls : ∀ l ∈ ls, '\n' ∉ l.data) :
    findHeader ⟨(ls.map (fun l => l.data ++ ['\r', '\n'])).flatten⟩ name =
      (ls.find? (fun l => decide ((name ++ ": ").data <+: l.data))).map
        (fun l => ⟨l.data.drop (name ++ ": ").data.length⟩) := by
  have hp : (name ++ ": ").data.getLast? = some ' ' := by simp [String.data_append]
  unfold findHeader
  induction ls with
  | nil => simp [scanHeader]
  | cons l ls ih =>
    have hl : '\n' ∉ l.data ++ ['\r'] := by simpa using hls l (List.mem_cons_self _ _)
    have split : ((l :: ls).map (fun l => l.data ++ ['\r', '\n'])).flatten =
        (l.data ++ ['\r']) ++ '\n' :: (ls.map (fun l => l.data ++ ['\r', '\n'])).flatten := by
      simp
    rw [split, scanHeader_append_line _ hl, List.reverse_nil, List.nil_append, matchLine_crlf hp]
    by_cases h : (name ++ ": ").data <+: l.data
    · rw [if_pos h, List.find?_cons, decide_eq_true h]
      rfl
    · simp only [h, if_false, List.find?_cons, decide_False]
      exact ih (fun l' hl' => hls l' (List.mem_cons_of_mem _ hl'))

/-- A response's header block: the nonce is the text after `Replay-Nonce: ` on its line. -/
theorem findHeader_crlf_nonce :
    findHeader ⟨(["Content-Type: text/plain", "Replay-Nonce: abc"].map
      fun l => l.data ++ ['\r', '\n']).flatten⟩ "Replay-Nonce" = some "abc" := by
  rw [findHeader_crlf _ (by decide) _ (by decide)]; decide

/-- The field name is compared case-sensitively: the lowercase `replay-nonce` an HTTP/2 server
sends is not found. -/
theorem findHeader_lowercase_missed :
    findHeader "replay-nonce: abc\r\n" "Replay-Nonce" = none := by decide

end Uacme
