import Uacme.Reach
import Uacme.Trace

/-!
# Uacme.Urls — every request goes to the directory or to a URL the server gave

`uacme` fetches the directory URL it is configured with, and otherwise only follows URLs the
server hands it, in the fields where it reads them: the entries of the directory, the `Location`
of the account and of the order, the `authorizations`, `finalize` and `certificate` of the
order, and the `url` of each challenge of an authorization.  `Given lib l u` says that a
response of the log `l` carried `u` so: in one of those fields of its JSON document (`UrlField`)
or as its `Location`.

The state invariant `Prov` says that every document the driver holds is one a response of the
log carried, that the URLs it holds were given, and that every request of the log went to the
directory or to a URL given before it.  Every driver function keeps it (`acmeBootstrap_prov`, …,
`certRevoke_prov`); the URLs a function was handed by its caller stay given as the log grows
(`Given.reaches`).  So every run of `main` requests only the directory URL its options configure
and URLs the server gave (`main_urls_given`).
-/

namespace Uacme

/-! ## URL fields -/

/-- The members of a document that the driver reads as a URL: the directory's entries, and the
order's `finalize` and `certificate`. -/
def urlKeys : List String :=
  ["newNonce", "newAccount", "newOrder", "revokeCert", "finalize", "certificate"]

/-- `u` is in a URL field of the document `j`: a member named in `urlKeys`, an element of its
`authorizations`, or the `url` of an element of its `challenges`. -/
def UrlField (j : Option Json) (u : String) : Prop :=
  (∃ k ∈ urlKeys, jsonFindString j k = some u) ∨
    (∃ vs, jsonFind j "authorizations" = some (.array vs) ∧ Json.string u ∈ vs) ∨
    ∃ chs ch, jsonFind j "challenges" = some (.array chs) ∧ ch ∈ chs ∧
      jsonFindString (some ch) "url" = some u

/-- The string an element of `authorizations` holds. -/
def Json.str : Json → Option String
  | .string s => some s
  | _ => none

/-! ## URLs the server gave -/

/-- The transfer an exchange got (`none` when the call failed). -/
def Event.transfer : Event → Option (Option CurlData)
  | .get _ r | .post _ _ _ r => some r
  | _ => none

/-- The URL a request went to. -/
def Event.target : Event → Option String
  | .get u _ | .post u _ _ _ => some u
  | _ => none

/-- A response of the log carried `u`: in a URL field of its document or as its `Location`. -/
def Given (lib : Lib) (l : List Event) (u : String) : Prop :=
  ∃ e ∈ l, ∃ c, e.transfer = some (some c) ∧
    (UrlField (respJson lib (some c)) u ∨ findHeader c.headers "Location" = some u)

/-- The document `v` is none, or the one a response of the log carried. -/
def Received (lib : Lib) (l : List Event) (v : Option Json) : Prop :=
  v = none ∨ ∃ e ∈ l, ∃ c, e.transfer = some (some c) ∧ v = respJson lib (some c)

/-- Every request of the log went to `directory` or to a URL a response before it gave. -/
def UrlsGiven (lib : Lib) (directory : String) (l : List Event) : Prop :=
  ∀ pre e post u, l = pre ++ e :: post → e.target = some u → u = directory ∨ Given lib pre u

/-- The URL that `sel` reads of each of the documents `vs` handed to a loop was given. -/
def AllGiven (lib : Lib) (l : List Event) (sel : Json → Option String) (vs : List Json) : Prop :=
  ∀ v ∈ vs, ∀ u, sel v = some u → Given lib l u

section Given

variable {lib : Lib} {directory : String} {l : List Event} {v : Option Json} {u : String}

theorem Given.mono (h : Given lib l u) (l' : List Event) : Given lib (l ++ l') u :=
  let ⟨e, he, rest⟩ := h
  ⟨e, List.mem_append_left _ he, rest⟩

theorem Given.reaches {a b : Acme} (hr : Reaches lib a b) (h : Given lib a.io.log u) :
    Given lib b.io.log u :=
  let ⟨_, hx⟩ := hr.log
  hx ▸ h.mono _

theorem Received.mono (h : Received lib l v) (l' : List Event) : Received lib (l ++ l') v :=
  h.imp id fun ⟨e, he, rest⟩ => ⟨e, List.mem_append_left _ he, rest⟩

/-- A URL field of a received document was given. -/
theorem Received.given (h : Received lib l v) (hu : UrlField v u) : Given lib l u := by
  rcases h with rfl | ⟨e, he, c, hc, rfl⟩
  · rcases hu with ⟨k, -, h⟩ | ⟨vs, h, -⟩ | ⟨chs, ch, h, -⟩ <;> cases h
  · exact ⟨e, he, c, hc, .inl hu⟩

/-- A member of `urlKeys` of a received document was given. -/
theorem Received.key {k : String} (h : Received lib l v) (hu : jsonFindString v k = some u)
    (hk : k ∈ urlKeys) : Given lib l u :=
  h.given (.inl ⟨k, hk, hu⟩)

/-- The authorizations of a received order were given. -/
theorem Received.authorizations {vs : List Json} (h : Received lib l v)
    (hv : jsonFind v "authorizations" = some (.array vs)) : AllGiven lib l Json.str vs := by
  intro w hw u hu
  cases w <;> cases hu
  exact h.given (.inr (.inl ⟨vs, hv, hw⟩))

/-- The challenge URLs of a received authorization were given. -/
theorem Received.challenges {chs : List Json} (h : Received lib l v)
    (hv : jsonFind v "challenges" = some (.array chs)) :
    AllGiven lib l (fun ch => jsonFindString (some ch) "url") chs :=
  fun ch hch _ hu => h.given (.inr (.inr ⟨chs, ch, hv, hch, hu⟩))

theorem urlsGiven_nil : UrlsGiven lib directory [] := by
  intro pre e post u h
  exact absurd h.symm (by simp)

/-- A request may be appended when it goes to the directory or to a URL given before. -/
theorem UrlsGiven.snoc {e : Event} (h : UrlsGiven lib directory l)
    (he : ∀ u, e.target = some u → u = directory ∨ Given lib l u) :
    UrlsGiven lib directory (l ++ [e]) := by
  intro pre e' post u hl ht
  rcases List.eq_nil_or_concat post with rfl | ⟨post', x, rfl⟩
  · obtain ⟨rfl, h2⟩ := List.append_inj' hl.symm rfl
    obtain rfl : e' = e := by simpa using h2
    exact he u ht
  · have h3 : (pre ++ e' :: post') ++ [x] = l ++ [e] := by simpa using hl.symm
    exact h pre e' post' u (List.append_inj' h3 rfl).1.symm ht

theorem AllGiven.tail {sel : Json → Option String} {w : Json} {vs : List Json}
    (h : AllGiven lib l sel (w :: vs)) : AllGiven lib l sel vs :=
  fun w' hm => h w' (List.mem_cons_of_mem _ hm)

theorem AllGiven.reaches {a b : Acme} {sel : Json → Option String} {vs : List Json}
    (hr : Reaches lib a b) (h : AllGiven lib a.io.log sel vs) : AllGiven lib b.io.log sel vs :=
  fun w hm u hu => (h w hm u hu).reaches hr

end Given

/-! ## The invariant and the primitives -/

/-- What the driver holds came from the server, and its requests went to `directory` or to
given URLs. -/
structure Prov (lib : Lib) (directory : String) (a : Acme) : Prop where
  urls : UrlsGiven lib directory a.io.log
  dir : Received lib a.io.log a.dir
  order : Received lib a.io.log a.order
  json : Received lib a.io.log a.json
  kid : ∀ u, a.kid = some u → Given lib a.io.log u
  location : ∀ u, findHeader a.headers "Location" = some u → Given lib a.io.log u

section Primitives

variable {lib : Lib} {directory : String}

theorem findHeader_empty (name : String) : findHeader "" name = none := rfl

/-- An update of the fields that keeps the world: each document comes from a held one,
`a->kid` from the held one or the `Location` of the last response, the headers stay or are
cleared. -/
theorem Prov.update {a b : Acme} (h : Prov lib directory a) (hio : b.io = a.io)
    (hdir : b.dir = a.dir ∨ b.dir = a.json) (horder : b.order = a.order ∨ b.order = a.json)
    (hjson : b.json = a.json ∨ b.json = none)
    (hkid : b.kid = a.kid ∨ b.kid = findHeader a.headers "Location")
    (hh : b.headers = a.headers ∨ b.headers = "") : Prov lib directory b := by
  have doc : ∀ {v : Option Json}, (v = a.dir ∨ v = a.order ∨ v = a.json ∨ v = none) →
      Received lib b.io.log v := by
    rintro v hv
    rw [hio]
    rcases hv with rfl | rfl | rfl | rfl
    · exact h.dir
    · exact h.order
    · exact h.json
    · exact .inl rfl
  refine ⟨hio ▸ h.urls, doc ?_, doc ?_, doc ?_, fun u hu => ?_, fun u hu => ?_⟩
  · rcases hdir with e | e <;> simp only [e, true_or, or_true]
  · rcases horder with e | e <;> simp only [e, true_or, or_true]
  · rcases hjson with e | e <;> simp only [e, true_or, or_true]
  · rw [hio]
    rcases hkid with hk | hk <;> rw [hk] at hu
    · exact h.kid u hu
    · exact h.location u hu
  · rw [hio]
    rcases hh with hh | hh <;> rw [hh] at hu
    · exact h.location u hu
    · rw [findHeader_empty] at hu; cases hu

/-- One event appended to the log, a request only to `directory` or to a URL given before; the
held documents and URLs kept, the response's given by the log. -/
theorem Prov.request {a b : Acme} {e : Event} (h : Prov lib directory a)
    (hl : b.io.log = a.io.log ++ [e])
    (ht : ∀ u, e.target = some u → u = directory ∨ Given lib a.io.log u)
    (hdir : b.dir = a.dir) (horder : b.order = a.order) (hkid : b.kid = a.kid)
    (hjson : Received lib b.io.log b.json)
    (hloc : ∀ u, findHeader b.headers "Location" = some u → Given lib b.io.log u) :
    Prov lib directory b := by
  refine ⟨hl ▸ h.urls.snoc ht, ?_, ?_, hjson, fun u hu => ?_, hloc⟩
  · rw [hl, hdir]; exact h.dir.mono _
  · rw [hl, horder]; exact h.order.mono _
  · rw [hl]; exact (h.kid u (hkid ▸ hu)).mono _

/-- An interaction that is no request and changes nothing the invariant reads. -/
theorem Prov.logged {a b : Acme} {e : Event} (h : Prov lib directory a)
    (hl : b.io.log = a.io.log ++ [e]) (ht : e.target = none) (hdir : b.dir = a.dir) (horder : b.order = a.order)
    (hjson : b.json = a.json) (hkid : b.kid = a.kid) (hh : b.headers = a.headers) :
    Prov lib directory b :=
  h.request hl (fun u hu => by rw [ht] at hu; cases hu) hdir horder hkid
    (by rw [hl, hjson]; exact h.json.mono _)
    (fun u hu => hl ▸ (h.location u (hh ▸ hu)).mono _)

/-- A transfer logged as a request to `url`, which the driver may request. -/
theorem Prov.exchange {a : Acme} {ev : Option CurlData → Event} {url : String}
    (h : Prov lib directory a) (ht : ∀ x, (ev x).target = some url)
    (hx : ∀ x, (ev x).transfer = some x) (hu : url = directory ∨ Given lib a.io.log url) :
    Prov lib directory (a.clear.exchange lib ev).2 := by
  have hreq : ∀ x u, (ev x).target = some u → u = directory ∨ Given lib a.io.log u :=
    fun x u hu' => by rw [ht] at hu'; cases hu'; exact hu
  unfold Acme.exchange
  split
  · refine h.request rfl (hreq _) rfl rfl rfl (.inl rfl) fun u hu => ?_
    rw [Acme.sent, Acme.clear, findHeader_empty] at hu; cases hu
  · rename_i c _
    have hm : ev (some c) ∈ a.io.log ++ [ev (some c)] :=
      List.mem_append_right _ (List.mem_singleton_self _)
    exact h.request rfl (hreq _) rfl rfl rfl (.inr ⟨_, hm, c, hx _, rfl⟩)
      fun u hu => ⟨_, hm, c, hx _, .inr hu⟩

theorem Prov.get {a : Acme} (h : Prov lib directory a) (url : String)
    (hu : url = directory ∨ Given lib a.io.log url) : Prov lib directory (acmeGet lib a url).2 :=
  h.exchange (fun _ => rfl) (fun _ => rfl) hu

theorem Prov.post {a : Acme} (h : Prov lib directory a) (url : Option String) (payload : String)
    (hu : ∀ u, url = some u → u = directory ∨ Given lib a.io.log u) :
    Prov lib directory (acmePost lib a url payload).2 := by
  rcases acmePost_cases a url payload with e | ⟨n, u, -, rfl, -, e⟩ <;> rw [e]
  · exact h.update rfl (.inl rfl) (.inl rfl) (.inr rfl) (.inl rfl) (.inr rfl)
  · exact h.exchange (fun _ => rfl) (fun _ => rfl) (hu u rfl)

theorem Prov.hook {a : Acme} (h : Prov lib directory a) (prog method type ident token auth : String) :
    Prov lib directory (hookRun a prog method type ident token auth).2 :=
  h.logged rfl rfl rfl rfl rfl rfl rfl

theorem Prov.ask {a : Acme} (h : Prov lib directory a) (prompt : String) :
    Prov lib directory (ask a prompt).2 :=
  h.logged rfl rfl rfl rfl rfl rfl rfl

theorem Prov.save {a : Acme} (h : Prov lib directory a) (body dir : String) :
    Prov lib directory (certSave lib a body dir).2 :=
  h.logged rfl rfl rfl rfl rfl rfl rfl

/-- A POST to a URL the server gave. -/
theorem Prov.postTo {a : Acme} (h : Prov lib directory a) {url : String}
    (hu : Given lib a.io.log url) (payload : String) :
    Prov lib directory (acmePost lib a (some url) payload).2 :=
  h.post _ payload fun _ e => by cases e; exact .inr hu

theorem Prov.ite {α : Type} {c : Prop} [Decidable c] {x y : α × Acme}
    (hx : c → Prov lib directory x.2) (hy : ¬c → Prov lib directory y.2) :
    Prov lib directory (if c then x else y).2 :=
  iteInduction (motive := fun r : α × Acme => Prov lib directory r.2) hx hy

end Primitives

/-! ## The driver functions -/

section Drivers

variable (lib : Lib) (cfg : Config) {directory : String}

theorem acmeBootstrap_prov {a : Acme} (h : Prov lib cfg.directory a) :
    Prov lib cfg.directory (acmeBootstrap lib cfg a).2 := by
  have h1 := h.get cfg.directory (.inl rfl)
  unfold acmeBootstrap; dsimp only
  refine Prov.ite (fun _ => h1) fun _ => ?_
  have h2 : Prov lib cfg.directory { (acmeGet lib a cfg.directory).2 with
      dir := (acmeGet lib a cfg.directory).2.json, json := none } :=
    h1.update rfl (.inr rfl) (.inl rfl) (.inr rfl) (.inl rfl) (.inl rfl)
  split
  · exact h2
  · exact h2.get _ (.inr (h2.dir.key ‹_› (by decide)))

theorem agreeTerms_prov (yes : Bool) {a : Acme} (h : Prov lib directory a) :
    Prov lib directory (agreeTerms yes a).2 := by
  unfold agreeTerms
  split
  · exact h
  · split
    · exact h
    · exact h.ask _

theorem accountNew_prov (yes : Bool) {a : Acme} (h : Prov lib directory a) :
    Prov lib directory (accountNew lib cfg yes a).2 := by
  unfold accountNew
  split
  · exact h
  rename_i url hurl
  have hu : Given lib a.io.log url := h.dir.key hurl (by decide)
  dsimp only
  have h1 := h.postTo hu "\x7b\"onlyReturnExisting\":true\x7d"
  refine Prov.ite (fun _ => h1.update rfl (.inl rfl) (.inl rfl) (.inl rfl) (.inr rfl) (.inl rfl))
    fun _ => Prov.ite (fun _ => h1) fun _ => ?_
  have h2 := agreeTerms_prov lib yes h1
  have r2 := (Reaches.post lib a (some url) "\x7b\"onlyReturnExisting\":true\x7d").trans
    (agreeTerms_reaches lib yes _)
  refine Prov.ite (fun _ => h2) fun _ => ?_
  have h3 := h2.postTo (hu.reaches r2) (newAccountPayload cfg.mail)
  exact Prov.ite (fun _ => h3) fun _ =>
    h3.update rfl (.inl rfl) (.inl rfl) (.inl rfl) (.inr rfl) (.inl rfl)

theorem accountRetrieve_prov {a : Acme} (h : Prov lib directory a) :
    Prov lib directory (accountRetrieve lib a).2 := by
  unfold accountRetrieve
  split
  · exact h
  dsimp only
  have h1 := h.postTo (h.dir.key ‹_› (by decide)) "\x7b\"onlyReturnExisting\":true\x7d"
  refine Prov.ite (fun _ => h1) fun _ => ?_
  split
  · exact h1.update rfl (.inl rfl) (.inl rfl) (.inl rfl) (.inr (Eq.symm ‹_›)) (.inl rfl)
  · exact h1.update rfl (.inl rfl) (.inl rfl) (.inr rfl) (.inr (Eq.symm ‹_›)) (.inl rfl)

theorem accountUpdate_prov {a : Acme} (h : Prov lib directory a) :
    Prov lib directory (accountUpdate lib cfg a).2 := by
  unfold accountUpdate
  split
  · exact h
  · exact h
  · exact h.post _ _ fun u hu => .inr (h.kid u hu)

theorem accountDeactivate_prov {a : Acme} (h : Prov lib directory a) :
    Prov lib directory (accountDeactivate lib a).2 :=
  h.post _ _ fun u hu => .inr (h.kid u hu)

theorem pollChallenge_prov (url : String) {a : Acme} (h : Prov lib directory a)
    (hu : Given lib a.io.log url) : Prov lib directory (pollChallenge lib url a).2 :=
  pollChallenge_induction lib (fun b => Prov lib directory b ∧ Given lib b.io.log url)
    (fun r => Prov lib directory r.2) url
    (fun _ hb _ => ⟨hb.1.postTo hb.2 "", hb.2.reaches (Reaches.post lib _ _ _)⟩)
    (fun _ hb => hb.1.postTo hb.2 "") (fun _ hb _ => hb.1.postTo hb.2 "") a ⟨h, hu⟩

theorem present_prov (type ident token ka : String) {a : Acme} (h : Prov lib directory a) :
    Prov lib directory (present cfg type ident token ka a).2 := by
  unfold present
  split
  · exact h.hook _ _ _ _ _ _
  · exact h.ask _

theorem attempt_prov (url type ident token ka : String) {a : Acme} (h : Prov lib directory a)
    (hu : Given lib a.io.log url) : Prov lib directory (attempt lib cfg url type ident token ka a).2 := by
  have h1 := h.postTo hu "\x7b\x7d"
  have h2 : Prov lib directory (if (acmePost lib a (some url) "\x7b\x7d").1 = 200 then
      pollChallenge lib url (acmePost lib a (some url) "\x7b\x7d").2
      else (false, (acmePost lib a (some url) "\x7b\x7d").2)).2 :=
    Prov.ite (fun _ => pollChallenge_prov lib url h1 (hu.reaches (Reaches.post lib _ _ _))) fun _ => h1
  unfold attempt; dsimp only
  split
  · exact h2.hook _ _ _ _ _ _
  · exact h2

theorem chlgLoop_prov (thumb ident : String) (chs : List Json) {a : Acme} (h : Prov lib directory a)
    (hchs : AllGiven lib a.io.log (fun ch => jsonFindString (some ch) "url") chs) :
    Prov lib directory (chlgLoop lib cfg thumb ident chs a).2 := by
  induction chs, a using chlgLoop.induct lib cfg thumb ident with
  | case1 a => exact h
  | case2 ch chs a hs ih =>
    rw [chlgLoop, if_pos hs]
    exact ih h hchs.tail
  | case3 ch chs a hs url type token htk hty hu hka =>
    simp only [chlgLoop, if_neg hs, hu, hty, htk, hka]; exact h
  | case4 ch chs a hs url type token htk hty hu ka hka a1 hpr =>
    simp only [chlgLoop, if_neg hs, hu, hty, htk, hka, hpr]
    simpa [hpr] using present_prov lib cfg type ident token ka h
  | case5 ch chs a hs url type token htk hty hu ka hka a1 hpr ih =>
    simp only [chlgLoop, if_neg hs, hu, hty, htk, hka, hpr]
    have r := (present_reaches lib cfg type ident token ka a).of_eq hpr
    exact ih (by simpa [hpr] using present_prov lib cfg type ident token ka h) (hchs.tail.reaches r)
  | case6 ch chs a hs url type token htk hty hu ka hka a1 hpr =>
    simp only [chlgLoop, if_neg hs, hu, hty, htk, hka, hpr]
    have r := (present_reaches lib cfg type ident token ka a).of_eq hpr
    have hg : Given lib a.io.log url := hchs ch (List.mem_cons_self _ _) url hu
    exact attempt_prov lib cfg _ _ _ _ _ (by simpa [hpr] using present_prov lib cfg type ident token ka h)
      (hg.reaches r)
  | case7 ch chs a hs hnone =>
    rw [chlgLoop, if_neg hs]
    split
    · exact absurd (hnone _ _ _ ‹_› ‹_› ‹_›) id
    · exact h

theorem authLoop_prov (thumb : String) (auths : List Json) {a : Acme} (h : Prov lib directory a)
    (hauths : AllGiven lib a.io.log Json.str auths) :
    Prov lib directory (authLoop lib cfg thumb auths a).2 := by
  induction auths generalizing a with
  | nil => exact h
  | cons j us ih =>
    cases j
    case string u =>
      rw [authLoop]
      split
      rename_i r a1 hp1
      have r1 : Reaches lib a a1 := (Reaches.post lib a (some u) "").of_eq hp1
      have h1 : Prov lib directory a1 := by
        simpa [hp1] using h.postTo (hauths _ (List.mem_cons_self _ _) u rfl) ""
      have hus : AllGiven lib a1.io.log Json.str us := hauths.tail.reaches r1
      refine Prov.ite (fun _ => h1) fun _ => Prov.ite (fun _ => ih h1 hus) fun _ =>
        Prov.ite (fun _ => h1) fun _ => Prov.ite (fun _ => h1) fun _ => ?_
      split
      · exact h1
      rename_i iv _
      refine Prov.ite (fun _ => h1) fun _ => ?_
      split
      · rename_i chs hchs
        split
        rename_i ok a2 hp2
        have h1' : Prov lib directory { a1 with json := none } :=
          h1.update rfl (.inl rfl) (.inl rfl) (.inr rfl) (.inl rfl) (.inl rfl)
        have r2 : Reaches lib a1 a2 := (Reaches.update lib (a := a1) (b := { a1 with json := none })
          rfl rfl).trans ((chlgLoop_reaches lib cfg thumb _ _ _).of_eq hp2)
        have h2 : Prov lib directory a2 := by
          simpa [hp2] using chlgLoop_prov lib cfg thumb iv chs h1' (h1.json.challenges hchs)
        exact Prov.ite (fun _ => ih h2 (hus.reaches r2)) fun _ => h2
      · exact h1
    all_goals exact h

theorem authorize_prov {a : Acme} (h : Prov lib directory a) :
    Prov lib directory (authorize lib cfg a).2 := by
  unfold authorize
  split
  · split
    · exact h
    · exact authLoop_prov lib cfg _ _ h (h.order.authorizations ‹_›)
  · exact h

theorem pollOrder_prov (orderurl target wait : String) {a : Acme} (h : Prov lib directory a)
    (hu : Given lib a.io.log orderurl) : Prov lib directory (pollOrder lib orderurl target wait a).2 :=
  pollOrder_induction lib (fun b => Prov lib directory b ∧ Given lib b.io.log orderurl)
    (fun r => Prov lib directory r.2) orderurl target wait
    (fun _ hb _ => ⟨hb.1.postTo hb.2 "", hb.2.reaches (Reaches.post lib _ _ _)⟩)
    (fun _ hb => hb.1.postTo hb.2 "")
    (fun _ hb _ => (hb.1.postTo hb.2 "").update rfl (.inl rfl) (.inr rfl) (.inr rfl) (.inl rfl) (.inl rfl))
    a ⟨h, hu⟩

theorem certDownload_prov {a : Acme} (h : Prov lib directory a) :
    Prov lib directory (certDownload lib cfg a).2 := by
  unfold certDownload
  split
  · exact h
  dsimp only
  have h1 := h.postTo (h.order.key ‹_› (by decide)) ""
  exact Prov.ite (fun _ => h1) fun _ => h1.save _ _

theorem certFinalize_prov (orderurl : String) {a : Acme} (h : Prov lib directory a)
    (hu : Given lib a.io.log orderurl) : Prov lib directory (certFinalize lib cfg orderurl a).2 := by
  unfold certFinalize
  split
  · exact h
  split
  · exact h
  rename_i csr _ _ fin hfin
  dsimp only
  have h1 := h.postTo (h.order.key hfin (by decide)) (csrPayload csr)
  have h2 := pollOrder_prov lib orderurl "valid" "processing" h1 (hu.reaches (Reaches.post lib _ _ _))
  exact Prov.ite (fun _ => h1) fun _ => Prov.ite (fun _ => h2) fun _ => certDownload_prov lib cfg h2

theorem certFinish_prov (orderurl status : String) {a : Acme} (h : Prov lib directory a)
    (hu : Given lib a.io.log orderurl) : Prov lib directory (certFinish lib cfg orderurl status a).2 := by
  -- the order URL stays given while the order is authorized and polled
  let P (b : Acme) : Prop := Prov lib directory b ∧ Given lib b.io.log orderurl
  have h1 : P (if status = "ready" then (true, a) else
      andThen (authorize lib cfg) (pollOrder lib orderurl "ready" "pending") a).2 :=
    iteInduction (motive := fun r : Bool × Acme => P r.2) (fun _ => ⟨h, hu⟩) fun _ =>
      andThen_inv P (fun b hb => ⟨authorize_prov lib cfg hb.1, hb.2.reaches (authorize_reaches lib cfg b)⟩)
        (fun b hb => ⟨pollOrder_prov lib _ _ _ hb.1 hb.2, hb.2.reaches (pollOrder_reaches lib _ _ _ b)⟩)
        a ⟨h, hu⟩
  unfold certFinish andThen at *; dsimp only at *
  exact Prov.ite (fun _ => h1.1) fun _ => certFinalize_prov lib cfg orderurl h1.1 h1.2

theorem certIssue_prov {a : Acme} (h : Prov lib directory a) :
    Prov lib directory (certIssue lib cfg a).2 := by
  unfold certIssue
  split
  · exact h
  dsimp only
  have h1 := h.postTo (h.dir.key ‹_› (by decide)) (identifiers cfg.names)
  refine Prov.ite (fun _ => h1) fun _ => ?_
  split
  · exact h1
  refine Prov.ite (fun _ => h1) fun _ => ?_
  split
  · exact h1
  exact certFinish_prov lib cfg _ _ (h1.update rfl (.inl rfl) (.inr rfl) (.inr rfl) (.inl rfl) (.inl rfl))
    (h1.location _ ‹_›)

theorem certRevoke_prov (certfile : String) (reason : Int) {a : Acme} (h : Prov lib directory a) :
    Prov lib directory (certRevoke lib certfile reason a).2 := by
  unfold certRevoke
  split
  · exact h
  split
  · exact h
  · exact h.postTo (h.dir.key ‹_› (by decide)) _

/-- Every action keeps the invariant for the directory it is configured with. -/
theorem runAction_prov (yes : Bool) (act : Action) {a : Acme} (h : Prov lib cfg.directory a) :
    Prov lib cfg.directory (runAction lib cfg yes act a).2 := by
  have hb : ∀ a, Prov lib cfg.directory a → Prov lib cfg.directory (acmeBootstrap lib cfg a).2 :=
    fun _ => acmeBootstrap_prov lib cfg
  have hr : ∀ a, Prov lib cfg.directory a → Prov lib cfg.directory (accountRetrieve lib a).2 :=
    fun _ => accountRetrieve_prov lib
  cases act with
  | new _ => exact andThen_inv _ hb (fun _ => accountNew_prov lib cfg yes) a h
  | update _ => exact andThen_inv _ hb (andThen_inv _ hr fun _ => accountUpdate_prov lib cfg) a h
  | deactivate => exact andThen_inv _ hb (andThen_inv _ hr fun _ => accountDeactivate_prov lib) a h
  | issue _ => exact andThen_inv _ hb (andThen_inv _ hr fun _ => certIssue_prov lib cfg) a h
  | revoke _ => exact andThen_inv _ hb (andThen_inv _ hr fun _ => certRevoke_prov lib _ _) a h

end Drivers

/-! ## Every run -/

theorem prov_init (lib : Lib) (directory : String) (w : World) (hw : w.log = []) :
    Prov lib directory (Acme.init w) where
  urls := hw ▸ urlsGiven_nil
  dir := .inl rfl
  order := .inl rfl
  json := .inl rfl
  kid _ h := by cases h
  location _ h := by cases h

/-- **Every request goes to the directory or to a URL the server gave.** For every command line
and every world, every request of the run went to the directory URL the options configure (the
default when they do not parse) or to a URL that a response before the request carried as its
`Location` or in a URL field of its JSON document: a directory entry (`newNonce`, `newAccount`,
`newOrder`, `revokeCert`), an order's `finalize` or `certificate`, an element of an order's
`authorizations`, or the `url` of an element of an authorization's `challenges`. -/
theorem main_urls_given (host : Host) (lib : Lib) (opts : List (Char × String))
    (operands : List String) (net : List (Option CurlData)) (hooks : List Int)
    (tty : List (Option Char)) :
    UrlsGiven lib ((parseOptions opts {}).elim productionUrl Options.directory)
      (main host lib opts operands ⟨net, hooks, tty, []⟩).2.io.log := by
  rcases main_cases host lib opts operands ⟨net, hooks, tty, []⟩ with ⟨h, -⟩ | ⟨o, act, ho, -, h⟩
  · rw [h]; exact urlsGiven_nil
  · have hd : (act.config o).directory = (parseOptions opts {}).elim productionUrl Options.directory := by
      rw [ho]; cases act <;> rfl
    rw [h, ← hd]
    exact (runAction_prov lib _ o.yes act (prov_init lib _ _ rfl)).urls

end Uacme
