import Uacme.Transport

/-!
# Uacme.Trace — the primitives as their events

The grammars of `authorize` and `cert_issue` speak of what the driver exchanged with the server
and with the hook, not of its state.  `Posted lib url payload e r j` is one `acme_post`: the
events it appended (none, or the POST with the response it got), the status it returned and
the JSON it left in `a->json`, both read off the logged response.  `acmePost_posted` connects
it to the model; `hookRun` and `ask` log the call they make with its result.
-/

namespace Uacme

/-- Where an event of a log of two parts stands: in the first part, or in the second. -/
theorem append_eq_append_cons {α : Type} {e1 e2 pre post : List α} {x : α}
    (h : e1 ++ e2 = pre ++ x :: post) :
    (∃ post1, e1 = pre ++ x :: post1 ∧ post = post1 ++ e2) ∨
      ∃ pre2, pre = e1 ++ pre2 ∧ e2 = pre2 ++ x :: post := by
  rcases List.append_eq_append_iff.1 h with ⟨a', rfl, h'⟩ | ⟨c', rfl, h'⟩
  · exact .inr ⟨a', rfl, h'⟩
  · rcases List.cons_eq_append_iff.1 h' with ⟨rfl, rfl⟩ | ⟨a'', rfl, rfl⟩
    · exact .inr ⟨[], by simp, rfl⟩
    · exact .inl ⟨a'', rfl, rfl⟩

section Trace

variable (lib : Lib)

/-- The status `acme_post` returns for a transfer: `0` when `curl_post` failed. -/
def respCode : Option CurlData → Nat
  | some c => c.code
  | none => 0

/-- The JSON `acme_post` keeps of a transfer (`Acme.receive`): the body parsed when the content
type names json. -/
def respJson : Option CurlData → Option Json
  | some c =>
    if ((findHeader c.headers "Content-Type").map hasJson).getD false then lib.jsonParse c.body
    else none
  | none => none

/-- The raw header block `acme_post` keeps of a transfer. -/
def respHeaders : Option CurlData → String
  | some c => c.headers
  | none => ""

/-- The body `acme_post` keeps of a transfer. -/
def respBody : Option CurlData → String
  | some c => c.body
  | none => ""

/-- The content type `acme_post` keeps of a transfer. -/
def respType (resp : Option CurlData) : String :=
  (findHeader (respHeaders resp) "Content-Type").getD ""

/-- `acme_error` after a transfer: the response is a problem document. -/
def respProblem (resp : Option CurlData) : Bool := problemDoc (respJson lib resp) (respType resp)

/-- One `acme_post` of `payload` to `url` and the response the driver holds after it: nothing
sent (no nonce, no JWS), or one POST logged with its response; `none` when nothing was sent or
the transfer failed, which leave the same state behind. -/
inductive Requested (url payload : String) : List Event → Option CurlData → Prop
  | unsent : Requested url payload [] none
  | sent (p : Protected) (resp : Option CurlData) :
      Requested url payload [.post url p payload resp] resp

/-- One `acme_post` of `payload` to `url`: nothing sent (no nonce, no JWS) and `0`, or one POST
logged with its response, whose status is returned and whose JSON is taken in. -/
inductive Posted (url payload : String) : List Event → Nat → Option Json → Prop
  | unsent : Posted url payload [] 0 none
  | sent (p : Protected) (resp : Option CurlData) :
      Posted url payload [.post url p payload resp] (respCode resp) (respJson lib resp)

/-- The run from `a` that returned `r` appended to the log a word of the grammar `G`, with the
result `r` carries. -/
@[reducible] def Appends (a : Acme) (G : List Event → Bool → Prop) (r : Bool × Acme) : Prop :=
  ∃ evs, r.2.io.log = a.io.log ++ evs ∧ G evs r.1

/-- Every run of the driver function `f` appends to the log a word of the grammar `G`, with the
result `f` returns. -/
def Runs (f : Acme → Bool × Acme) (G : List Event → Bool → Prop) : Prop := ∀ a, Appends a G (f a)

/-- A branch of a driver function appends a word when both arms do. -/
theorem Appends.ite {a : Acme} {G : List Event → Bool → Prop} {c : Prop} [Decidable c]
    {x y : Bool × Acme} (hx : c → Appends a G x) (hy : ¬c → Appends a G y) :
    Appends a G (if c then x else y) :=
  iteInduction (motive := Appends a G) hx hy

/-- **`acme_post` as its events.** What it leaves behind is read off the response it logged. -/
theorem acmePost_requested {a a' : Acme} {url payload : String} {r : Nat}
    (h : acmePost lib a (some url) payload = (r, a')) :
    ∃ e resp, a'.io.log = a.io.log ++ e ∧ Requested url payload e resp ∧ r = respCode resp ∧
      a'.json = respJson lib resp ∧ a'.headers = respHeaders resp ∧ a'.body = respBody resp ∧
      a'.type = respType resp ∧ acmeError a' = respProblem lib resp := by
  rcases acmePost_cases a (some url) payload with e | ⟨n, u, -, hu, -, e⟩
  · rw [e, Prod.mk.injEq] at h
    obtain ⟨rfl, rfl⟩ := h
    exact ⟨[], none, by simp, .unsent, rfl, rfl, rfl, rfl, rfl, rfl⟩
  · cases hu
    rw [e] at h
    obtain ⟨rfl, rfl⟩ : r = _ ∧ a' = _ := ⟨(congrArg Prod.fst h).symm, (congrArg Prod.snd h).symm⟩
    refine ⟨_, a.clear.io.next, exchange_log _ _, .sent _ _, ?_⟩
    unfold Acme.exchange
    split <;> rename_i hn <;> rw [hn] <;> exact ⟨rfl, rfl, rfl, rfl, rfl, rfl⟩

theorem Requested.posted {url payload : String} {e : List Event} {resp : Option CurlData}
    (h : Requested url payload e resp) : Posted lib url payload e (respCode resp) (respJson lib resp) := by
  cases h with
  | unsent => exact .unsent
  | sent p resp => exact .sent p resp

theorem acmePost_posted {a a' : Acme} {url payload : String} {r : Nat}
    (h : acmePost lib a (some url) payload = (r, a')) :
    ∃ e, a'.io.log = a.io.log ++ e ∧ Posted lib url payload e r a'.json := by
  obtain ⟨e, resp, hl, hreq, rfl, hj, -⟩ := acmePost_requested lib h
  exact ⟨e, hl, hj ▸ hreq.posted lib⟩

/-- The pattern `if (code != acme_post(...)) fail; else if (acme_error(a)) fail;` as its events. -/
theorem postExpect_requested {a a' : Acme} {code : Nat} {url payload : String} {ok : Bool}
    (h : postExpect lib code a (some url) payload = (ok, a')) :
    ∃ e resp, a'.io.log = a.io.log ++ e ∧ Requested url payload e resp ∧
      ok = (respCode resp == code && !respProblem lib resp) ∧ a'.body = respBody resp := by
  unfold postExpect at h
  rcases hp : acmePost lib a (some url) payload with ⟨r, a1⟩
  rw [hp] at h
  obtain ⟨rfl, rfl⟩ := Prod.mk.inj h
  obtain ⟨e, resp, hl, hq, rfl, -, -, hb, -, hpb⟩ := acmePost_requested lib hp
  exact ⟨e, resp, hl, hq, by rw [hpb], hb⟩

/-- A request answered with a status other than `0` was sent and got a transfer. -/
theorem Requested.sent_of_code {url payload : String} {e : List Event} {resp : Option CurlData}
    (h : Requested url payload e resp) {n : Nat} (hr : respCode resp = n) (hn : n ≠ 0) :
    ∃ p c, e = [.post url p payload (some c)] ∧ resp = some c := by
  cases h with
  | unsent => exact absurd hr.symm hn
  | sent p resp =>
    cases resp with
    | none => exact absurd hr.symm hn
    | some c => exact ⟨p, c, rfl, rfl⟩

theorem Posted.code_ne_zero {url payload : String} {e : List Event} {r : Nat} {j : Option Json}
    (h : Posted lib url payload e r j) (hr : r ≠ 0) :
    ∃ p c, e = [.post url p payload (some c)] ∧ r = c.code ∧ j = respJson lib (some c) := by
  cases h with
  | unsent => exact absurd rfl hr
  | sent p resp =>
    cases resp with
    | none => exact absurd rfl hr
    | some c => exact ⟨p, c, rfl, rfl, rfl⟩

end Trace

@[simp] theorem hookRun_log (a : Acme) (prog method type ident token auth : String) :
    (hookRun a prog method type ident token auth).2.io.log =
      a.io.log ++ [.hook prog method type ident token auth (hookRun a prog method type ident token auth).1] :=
  rfl

@[simp] theorem ask_log (a : Acme) (q : String) :
    (ask a q).2.io.log = a.io.log ++ [.ask q (ask a q).1] := rfl

end Uacme
