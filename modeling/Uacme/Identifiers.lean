import Uacme.Domain

/-!
# Uacme.Identifiers — the `newOrder` payload is the JSON document it stands for

`render` writes a JSON value in compact form (RFC 8259: no insignificant whitespace, strings
quoted with `"`, `\` and control characters escaped).  `identifiers` writes its payload by
appending one `{"type":"dns","value":"<name>"},` per name and cutting the last character; it
escapes nothing.  For a non-empty list of names that `validate_domain_str` accepts, no character
of a name needs escaping, the cut character is the last comma, and the payload is exactly the
rendering of the document `{"identifiers":[{"type":"dns","value":n}, …]}` with one identifier per
name, in order (`identifiers_eq_render`).
-/

namespace Uacme

/-! ## Rendering JSON -/

/-- A hexadecimal digit, in lower case. -/
def hexDigit (n : Nat) : Char := if n < 10 then Char.ofNat (48 + n) else Char.ofNat (87 + n)

/-- A character inside a JSON string: `"` and `\` escaped, control characters as `\u00XX`. -/
def escapeChar (c : Char) : List Char :=
  if c = '"' then ['\\', '"']
  else if c = '\\' then ['\\', '\\']
  else if c.toNat < 32 then ['\\', 'u', '0', '0', hexDigit (c.toNat / 16), hexDigit (c.toNat % 16)]
  else [c]

/-- A JSON string literal. -/
def renderString (s : String) : List Char := '"' :: s.data.flatMap escapeChar ++ ['"']

mutual
/-- The compact JSON text of a value. -/
def render : Json → List Char
  | .string s => renderString s
  | .prim s => s.data
  | .array vs => '[' :: renderElems vs ++ [']']
  | .object ms => '{' :: renderMembers ms ++ ['}']
/-- The elements of an array, separated by commas. -/
def renderElems : List Json → List Char
  | [] => []
  | [v] => render v
  | v :: vs => render v ++ ',' :: renderElems vs
/-- The members of an object, separated by commas. -/
def renderMembers : List (String × Json) → List Char
  | [] => []
  | [(k, v)] => renderString k ++ ':' :: render v
  | (k, v) :: ms => renderString k ++ ':' :: render v ++ ',' :: renderMembers ms
end

theorem intercalate_singleton (sep l : List Char) : List.intercalate sep [l] = l := by
  simp [List.intercalate]

theorem intercalate_cons_cons (sep a b : List Char) (l : List (List Char)) :
    List.intercalate sep (a :: b :: l) = a ++ sep ++ List.intercalate sep (b :: l) := by
  simp [List.intercalate, List.intersperse_cons_cons]

theorem renderElems_eq (vs : List Json) :
    renderElems vs = List.intercalate [','] (vs.map render) := by
  induction vs with
  | nil => rfl
  | cons v vs ih =>
    cases vs with
    | nil => simp [renderElems, intercalate_singleton]
    | cons w ws => simp [renderElems, ih, intercalate_cons_cons]

/-- A character that is neither `"`, `\` nor a control character stands for itself. -/
theorem escapeChar_plain {c : Char} (h : 32 ≤ c.toNat ∧ c.toNat ≠ 34 ∧ c.toNat ≠ 92) :
    escapeChar c = [c] := by
  have h1 : c ≠ '"' := fun e => h.2.1 (e ▸ rfl)
  have h2 : c ≠ '\\' := fun e => h.2.2 (e ▸ rfl)
  simp [escapeChar, h1, h2, Nat.not_lt.2 h.1]

/-- The characters of an accepted name (`[A-Za-z0-9._-]` and `*`) stand for themselves. -/
theorem escapeChar_domain {c : Char} (h : domainChar c = true ∨ c = '*') : escapeChar c = [c] := by
  apply escapeChar_plain
  rcases h with h | rfl
  · simp only [domainChar, Bool.or_eq_true, decide_eq_true_eq] at h
    rcases h with ((((h | h) | h) | rfl) | rfl) | rfl
    · have : 65 ≤ c.toNat ∧ c.toNat ≤ 90 := by simp [Char.isUpper] at h; exact ⟨h.1, h.2⟩
      omega
    · have : 97 ≤ c.toNat ∧ c.toNat ≤ 122 := by simp [Char.isLower] at h; exact ⟨h.1, h.2⟩
      omega
    · have : 48 ≤ c.toNat ∧ c.toNat ≤ 57 := by simp [Char.isDigit] at h; exact ⟨h.1, h.2⟩
      omega
    all_goals decide
  · decide

/-- An accepted name is rendered as itself between quotes. -/
theorem renderString_accepted {n : String} (h : validateDomainStr n = true) :
    renderString n = '"' :: n.data ++ ['"'] := by
  have hc : ∀ c ∈ n.data, domainChar c = true ∨ c = '*' := by
    rcases (validateDomainStr_iff n).1 h with ⟨t, ht, hc⟩ | ⟨-, -, hc⟩
    · intro c hmem
      rw [ht] at hmem
      rcases List.mem_cons.1 hmem with rfl | hmem
      · exact .inr rfl
      rcases List.mem_cons.1 hmem with rfl | hmem
      · exact .inl rfl
      · exact .inl (hc c hmem)
    · exact fun c hmem => .inl (hc c hmem)
  suffices key : ∀ l : List Char, (∀ c ∈ l, domainChar c = true ∨ c = '*') →
      l.flatMap escapeChar = l by
    simp [renderString, key n.data hc]
  intro l hl
  induction l with
  | nil => rfl
  | cons c cs ih =>
    rw [List.flatMap_cons, escapeChar_domain (hl c (List.mem_cons_self _ _)),
      ih (fun c' h' => hl c' (List.mem_cons_of_mem _ h'))]
    rfl

/-! ## The `newOrder` payload -/

/-- The identifier of a name: `{"type":"dns","value":n}`. -/
def dnsIdentifier (n : String) : Json := .object [("type", .string "dns"), ("value", .string n)]

/-- The `newOrder` document: `{"identifiers":[…]}` with one identifier per name. -/
def identifiersDoc (names : List String) : Json :=
  .object [("identifiers", .array (names.map dnsIdentifier))]

/-- The text of one identifier, without the comma `identifiers` appends. -/
def dnsEntry (n : String) : String := "\x7b\"type\":\"dns\",\"value\":\"" ++ n ++ "\"\x7d"

theorem foldl_entries (names : List String) (h : String) :
    (names.foldl (fun t n => t ++ identifierEntry n) h).data =
      h.data ++ (names.map fun n => (dnsEntry n).data ++ [',']).flatten := by
  induction names generalizing h with
  | nil => simp
  | cons n ns ih =>
    simp only [List.foldl_cons, ih, String.data_append, List.map_cons, List.flatten_cons,
      List.append_assoc]
    simp [identifierEntry, dnsEntry, String.data_append]

theorem dropLast_entries {ls : List (List Char)} (h : ls ≠ []) :
    (ls.map (· ++ [','])).flatten.dropLast = List.intercalate [','] ls := by
  induction ls with
  | nil => exact absurd rfl h
  | cons l ls ih =>
    cases ls with
    | nil => simp [intercalate_singleton]
    | cons m ms =>
      rw [List.map_cons, List.flatten_cons, List.dropLast_append_of_ne_nil _ (by simp),
        ih (by simp), intercalate_cons_cons]

theorem render_dnsIdentifier {n : String} (h : validateDomainStr n = true) :
    render (dnsIdentifier n) = (dnsEntry n).data := by
  simp [dnsIdentifier, render, renderMembers, renderString_accepted h, dnsEntry,
    String.data_append, renderString_accepted (show validateDomainStr "type" = true by decide),
    renderString_accepted (show validateDomainStr "dns" = true by decide),
    renderString_accepted (show validateDomainStr "value" = true by decide)]

/-- **The `newOrder` payload.**  For every non-empty list of names that `validate_domain_str`
accepts, `identifiers` returns `{"identifiers":[` followed by the entries
`{"type":"dns","value":"n"}`, in order and separated by commas, followed by `]}`; this text is
the compact JSON rendering of the document with one `dns` identifier per name. -/
theorem identifiers_eq_render (names : List String) (hne : names ≠ [])
    (hv : ∀ n ∈ names, validateDomainStr n = true) :
    (identifiers names).data =
        identifiersHead.data ++ List.intercalate [','] (names.map fun n => (dnsEntry n).data) ++
          "]\x7d".data ∧
      (identifiers names).data = render (identifiersDoc names) := by
  have hmap : (names.map fun n => (dnsEntry n).data ++ [',']) =
      (names.map fun n => (dnsEntry n).data).map (· ++ [',']) := by simp
  have hne' : (names.map fun n => (dnsEntry n).data) ≠ [] := by simpa using hne
  have hdata : (identifiers names).data = identifiersHead.data ++
      List.intercalate [','] (names.map fun n => (dnsEntry n).data) ++ "]\x7d".data := by
    obtain ⟨n, ns, rfl⟩ := List.exists_cons_of_ne_nil hne
    simp only [identifiers, String.data_append, foldl_entries, hmap]
    rw [List.dropLast_append_of_ne_nil _ (by simp [dnsEntry]), dropLast_entries hne']
  refine ⟨hdata, ?_⟩
  have hent : names.map (render ∘ dnsIdentifier) = names.map fun n => (dnsEntry n).data :=
    List.map_congr_left fun n hn => render_dnsIdentifier (hv n hn)
  rw [hdata]
  simp [identifiersDoc, render, renderMembers, renderElems_eq, hent, identifiersHead,
    renderString_accepted (show validateDomainStr "identifiers" = true by decide)]

theorem identifiers_two_names :
    ["example.com", "*.example.com"] ≠ [] ∧
      (∀ n ∈ ["example.com", "*.example.com"], validateDomainStr n = true) ∧
      (identifiers ["example.com", "*.example.com"]).data =
        render (identifiersDoc ["example.com", "*.example.com"]) :=
  ⟨by decide, by decide, (identifiers_eq_render _ (by decide) (by decide)).2⟩

end Uacme
