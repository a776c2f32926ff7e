import Uacme.Main

/-!
# Uacme.Contact — when `account_update` changes the contact

`account_update` reads the account document's `contact` field.  With an e-mail address it
demands that every entry be a string starting with `mailto:` in any case, and updates when the
array is empty or some address differs from the e-mail (case-insensitively); without one it
updates when the array is non-empty.  That is: it updates exactly when the set of
case-insensitive addresses differs from `{e}` (from `∅` without an e-mail), `emailUpdate_eq`.
The update is one call of `acme_post` to the account URL, which sends the POST only when a nonce
is held and the JWS can be built.
-/

namespace Uacme

/-- The entries of the contact field (none when it is absent or not an array). -/
def contactList : Option Json → List Json
  | some (.array cs) => cs
  | _ => []

/-- An entry `account_update` accepts when an e-mail is given: a string starting with
`mailto:` in any case. -/
def mailtoEntry : Json → Bool
  | .string v => ciPrefix "mailto:" v
  | _ => false

/-- The address of a `mailto:` entry, in lower case. -/
def mailAddr : Json → Option (List Char)
  | .string v => if ciPrefix "mailto:" v then some (lower ⟨v.data.drop 7⟩) else none
  | _ => none

/-- The case-insensitive addresses of the `mailto:` entries. -/
def mailAddrs (cs : List Json) : List (List Char) := cs.filterMap mailAddr

/-- The stored contact differs from the requested e-mail as a set of case-insensitive
addresses: from `{e}` when an e-mail is given, from `∅` when none is. -/
def ContactDiffers : Option String → List Json → Prop
  | some e, cs => ¬ ((∀ x ∈ mailAddrs cs, x = lower e) ∧ lower e ∈ mailAddrs cs)
  | none, cs => cs ≠ []

/-- The contact field cannot be compared: it is not an array, or an e-mail is given and some
entry is not a `mailto:` string. -/
def ContactMalformed (email : Option String) (contacts : Option Json) : Prop :=
  (∃ j, contacts = some j ∧ ∀ cs, j ≠ .array cs) ∨
    (email.isSome ∧ ¬ (contactList contacts).all mailtoEntry)

theorem contactLoop_eq (e : String) (upd : Bool) (cs : List Json) :
    contactLoop e upd cs =
      if cs.all mailtoEntry then some (upd || (mailAddrs cs).any (· != lower e)) else none := by
  induction cs generalizing upd with
  | nil => simp [contactLoop, mailAddrs]
  | cons c cs ih =>
    cases c with
    | string v =>
      by_cases hv : ciPrefix "mailto:" v = true
      · simp only [contactLoop, hv, if_true, ih, List.all_cons, mailtoEntry, Bool.true_and]
        split_ifs <;> simp [mailAddrs, mailAddr, hv, caseEq, bne, Bool.or_assoc]
      · simp [contactLoop, hv, mailtoEntry]
    | _ => simp [contactLoop, mailtoEntry]

theorem mailAddrs_ne_nil {cs : List Json} (h : cs.all mailtoEntry = true) (hne : cs ≠ []) :
    mailAddrs cs ≠ [] := by
  obtain ⟨c, cs', rfl⟩ := List.exists_cons_of_ne_nil hne
  have hc : mailtoEntry c = true := by simp_all
  cases c with
  | string v => simp_all [mailAddrs, mailAddr, mailtoEntry]
  | _ => simp [mailtoEntry] at hc

theorem emailUpdate_malformed {email : Option String} {contacts : Option Json}
    (h : ContactMalformed email contacts) : emailUpdate email contacts = none := by
  rcases h with ⟨j, rfl, hj⟩ | ⟨he, hall⟩
  · cases j with
    | array cs => exact absurd rfl (hj cs)
    | _ => rfl
  · obtain ⟨e, rfl⟩ := Option.isSome_iff_exists.1 he
    rcases contacts with _ | ⟨_ | cs | _ | _⟩ <;> simp [contactList] at hall
    obtain ⟨x, hx, hbad⟩ := hall
    have hne : cs ≠ [] := List.ne_nil_of_mem hx
    simp only [emailUpdate, contactLoop_eq, List.isEmpty_eq_false_iff_exists_mem.2 ⟨x, hx⟩]
    rw [if_neg (by simp), if_neg (by simpa using ⟨x, hx, hbad⟩)]

/-- On a well-formed contact field, `email_update` is set exactly when the addresses differ. -/
theorem emailUpdate_wellformed {email : Option String} {contacts : Option Json}
    (h : ¬ ContactMalformed email contacts) :
    ∃ b, emailUpdate email contacts = some b ∧ (b = true ↔ ContactDiffers email (contactList contacts)) := by
  simp only [ContactMalformed, not_or, not_exists, not_and, not_forall, not_not] at h
  obtain ⟨harr, hall⟩ := h
  rcases contacts with _ | ⟨j⟩
  · cases email <;> simp [emailUpdate, contactList, ContactDiffers, mailAddrs]
  · obtain ⟨cs, rfl⟩ : ∃ cs, j = .array cs := harr j rfl
    cases email with
    | none =>
      simp only [emailUpdate, contactList, ContactDiffers, Option.some.injEq, exists_eq_left',
        Bool.not_eq_true', List.isEmpty_eq_false_iff_exists_mem, ne_eq, List.eq_nil_iff_forall_not_mem]
      simp
    | some e =>
      have hall' : cs.all mailtoEntry = true := by simpa [contactList] using hall
      by_cases hne : cs = []
      · subst hne; simp [emailUpdate, contactList, ContactDiffers, mailAddrs]
      · have hm := mailAddrs_ne_nil hall' hne
        refine ⟨(mailAddrs cs).any (· != lower e), by simp [emailUpdate, hne, contactLoop_eq, hall'], ?_⟩
        simp only [Bool.false_or, List.any_eq_true, bne_iff_ne, ne_eq, contactList, ContactDiffers]
        constructor
        · rintro ⟨x, hx, hne'⟩ ⟨hall2, -⟩; exact hne' (hall2 x hx)
        · intro hd
          by_contra hno
          push_neg at hno
          obtain ⟨x, hx⟩ := List.exists_mem_of_ne_nil _ hm
          exact hd ⟨hno, hno x hx ▸ hx⟩

/-- The contact an update sends: `["mailto:e"]`, or `[]` without an e-mail. -/
def contactJson : Option String → Json
  | some e => .array [.string ("mailto:" ++ e)]
  | none => .array []

/-- **`account_update`.**  A malformed contact field fails with no request and the state
untouched.  A well-formed one that agrees with the e-mail succeeds with no request.  One that
differs leads to one `acme_post` to the account URL with the new contact: the log gains at most
that POST, and gains it exactly when a nonce is held and the JWS is built.  In particular a contact
equal to the one an update sends needs no update. -/
theorem accountUpdate_contact (lib : Lib) (cfg : Config) (a : Acme) :
    let contacts := jsonFind a.account "contact"
    (ContactMalformed cfg.mail contacts → accountUpdate lib cfg a = (false, a)) ∧
    (¬ ContactMalformed cfg.mail contacts → ¬ ContactDiffers cfg.mail (contactList contacts) →
      accountUpdate lib cfg a = (true, a)) ∧
    (¬ ContactMalformed cfg.mail contacts → ContactDiffers cfg.mail (contactList contacts) →
      ((accountUpdate lib cfg a).2.io.log = a.io.log ∨
        ∃ n k resp, a.nonce = some n ∧ a.kid = some k ∧
          (∃ p j, lib.jwsProtected (protectedFor a.kid n k) = some p ∧
            lib.jwsEncode p (contactPayload cfg.mail) = some j) ∧
          (accountUpdate lib cfg a).2.io.log =
            a.io.log ++ [.post k (protectedFor a.kid n k) (contactPayload cfg.mail) resp]) ∧
      ∀ n k p j, a.nonce = some n → a.kid = some k →
        lib.jwsProtected (protectedFor a.kid n k) = some p →
        lib.jwsEncode p (contactPayload cfg.mail) = some j →
        ∃ resp, (accountUpdate lib cfg a).2.io.log =
          a.io.log ++ [.post k (protectedFor a.kid n k) (contactPayload cfg.mail) resp]) ∧
    (contacts = some (contactJson cfg.mail) → accountUpdate lib cfg a = (true, a)) := by
  intro contacts
  have agree : ¬ ContactMalformed cfg.mail contacts → ¬ ContactDiffers cfg.mail (contactList contacts) →
      accountUpdate lib cfg a = (true, a) := fun hm hd => by
    obtain ⟨b, hb, hbd⟩ := emailUpdate_wellformed hm
    have : b = false := by simpa [hd] using hbd
    simp [accountUpdate, contacts, hb, this]
  refine ⟨fun hm => by simp [accountUpdate, contacts, emailUpdate_malformed hm], agree,
    fun hm hd => ?_, fun hc => agree ?_ ?_⟩
  · obtain ⟨b, hb, hbd⟩ := emailUpdate_wellformed hm
    have hpost : accountUpdate lib cfg a = postExpect lib 200 a a.kid (contactPayload cfg.mail) := by
      simp [accountUpdate, contacts, hb, hbd.2 hd]
    rw [hpost, postExpect_snd]
    refine ⟨?_, fun n k p j hn hk hp hj => ?_⟩
    · rcases acmePost_log a a.kid (contactPayload cfg.mail) with h | ⟨n, k, resp, hn, hk, hj, h⟩
      · exact .inl h
      · exact .inr ⟨n, k, resp, hn, hk, hj, h⟩
    · rw [hk, acmePost_sends hn (hk ▸ hp) hj, exchange_log, hk]
      exact ⟨_, rfl⟩
  · rw [hc]
    cases cfg.mail <;> simp [ContactMalformed, contactJson, contactList, mailtoEntry, ciPrefix, lower,
      String.data_append]
  · rw [hc]
    cases cfg.mail <;> simp [ContactDiffers, contactJson, contactList, mailAddrs, mailAddr, ciPrefix,
      lower, String.data_append]

/-- The account document of `update_without_nonce`: valid, with no contact. -/
def bareAccount : Json := .object [("status", .string "valid")]

/-- An update that is due is not sent when the account lookup carried no `Replay-Nonce`:
`uacme update a@b.c` against a server whose lookup response has none fetches the account, whose
empty contact differs from `{a@b.c}`, and fails after three requests, with no POST to the
account URL. -/
theorem update_without_nonce :
    let lib : Lib := ⟨fun b => if b = "dir" then some (.object [("newNonce", .string "https://a/nn"),
        ("newAccount", .string "https://a/na")]) else if b = "acct" then some bareAccount else none,
      fun _ => some "p", fun _ _ => some "j", none, fun _ => none, none, fun _ _ => false, fun _ => none⟩
    let host : Host := ⟨fun _ => true, fun _ => true, fun _ => true, fun _ => true, fun _ => true,
      fun _ _ => true, fun _ _ _ => false⟩
    let w : World := ⟨[some ⟨200, "Replay-Nonce: n0\r\nContent-Type: application/json\r\n", "dir"⟩,
      some ⟨204, "Replay-Nonce: n1\r\n", ""⟩,
      some ⟨200, "Content-Type: application/json\r\nLocation: https://a/acct/1\r\n", "acct"⟩],
      [], [], []⟩
    let r := main host lib [] ["update", "a@b.c"] w
    r.2.account = some bareAccount ∧
      ContactDiffers (some "a@b.c") (contactList (jsonFind (some bareAccount) "contact")) ∧
      r.1 = false ∧ r.2.io.log.length = 3 := by
  refine ⟨rfl, ?_, rfl, rfl⟩
  show ContactDiffers (some "a@b.c") []
  simp [ContactDiffers, mailAddrs]

end Uacme
