import Mathlib.Logic.Relation
import Uacme.Main

/-!
# Uacme.Reach — every driver state is reached by the primitives

The driver functions touch the world only through the primitives `acme_get`, `acme_post`,
`hook_run`, `scanf` and `cert_save`; between two of them they only move documents between the
fields that hold the last response, the directory, the order and the account.  `Step` lists
these moves and `Reaches` is any sequence of them.  None of them sets `a->kid`: only
`account_new` and `account_retrieve` do, after their last request.

* `Reaches.inv`: a property of the state that every `Step` keeps holds along every sequence.
* `acmeBootstrap_reaches`, …, `certRevoke_reaches`: every driver function but the two account
  functions ends in a state its start `Reaches`.
* `accountNew_io`, `accountRetrieve_io`: those two end with the world of such a state.

`Uacme.Kid` and `Uacme.Urls` take their invariants through every run with these.
-/

namespace Uacme

/-! ## Moves -/

/-- One move of the driver: a primitive call, or an update of the fields the primitives fill
in (the world and `a->kid` unchanged). -/
inductive Step (lib : Lib) : Acme → Acme → Prop
  | get (a : Acme) (url : String) : Step lib a (acmeGet lib a url).2
  | post (a : Acme) (url : Option String) (payload : String) :
      Step lib a (acmePost lib a url payload).2
  | hook (a : Acme) (prog method type ident token auth : String) :
      Step lib a (hookRun a prog method type ident token auth).2
  | ask (a : Acme) (prompt : String) : Step lib a (ask a prompt).2
  | save (a : Acme) (body dir : String) : Step lib a (certSave lib a body dir).2
  | update {a b : Acme} (hio : b.io = a.io) (hkid : b.kid = a.kid) : Step lib a b

/-- Any sequence of moves. -/
def Reaches (lib : Lib) : Acme → Acme → Prop := Relation.ReflTransGen (Step lib)

section Reaches

variable {lib : Lib} {a b c : Acme}

theorem Reaches.refl : Reaches lib a a := Relation.ReflTransGen.refl

theorem Step.reaches (h : Step lib a b) : Reaches lib a b := Relation.ReflTransGen.single h

theorem Reaches.trans (h : Reaches lib a b) (h' : Reaches lib b c) : Reaches lib a c :=
  Relation.ReflTransGen.trans h h'

/-- A property every move keeps holds after every sequence of moves. -/
theorem Reaches.inv (P : Acme → Prop) (hstep : ∀ a b, Step lib a b → P a → P b)
    (h : Reaches lib a b) (ha : P a) : P b := by
  induction h with
  | refl => exact ha
  | tail _ hs ih => exact hstep _ _ hs ih

/-- No move sets `a->kid`. -/
theorem Step.kid (h : Step lib a b) : b.kid = a.kid := by
  cases h with
  | get url => simp only [acmeGet, Acme.exchange]; split <;> rfl
  | post url payload =>
    rcases acmePost_cases a url payload with e | ⟨n, u, -, -, -, e⟩ <;> rw [e]
    · rfl
    · simp only [Acme.exchange]; split <;> rfl
  | hook | ask | save => rfl
  | update _ hkid => exact hkid

theorem Reaches.kid (h : Reaches lib a b) : b.kid = a.kid :=
  h.inv (fun x => x.kid = a.kid) (fun _ _ hs hx => hs.kid.trans hx) rfl

/-- The log only grows. -/
theorem Step.log (h : Step lib a b) : ∃ x, b.io.log = a.io.log ++ x := by
  cases h with
  | get url => exact ⟨_, exchange_log _ _⟩
  | post url payload =>
    rcases acmePost_log a url payload with e | ⟨n, u, resp, -, -, -, e⟩
    · exact ⟨[], by rw [e, List.append_nil]⟩
    · exact ⟨_, e⟩
  | hook | ask | save => exact ⟨_, rfl⟩
  | update hio _ => exact ⟨[], by rw [hio, List.append_nil]⟩

theorem Reaches.log (h : Reaches lib a b) : ∃ x, b.io.log = a.io.log ++ x :=
  h.inv (fun y => ∃ x, y.io.log = a.io.log ++ x)
    (fun _ _ hs ⟨x, hx⟩ => let ⟨y, hy⟩ := hs.log; ⟨x ++ y, by rw [hy, hx, List.append_assoc]⟩)
    ⟨[], (List.append_nil _).symm⟩

/-- The state of a result is reached when the result's is. -/
theorem Reaches.of_eq {α : Type} {p : α × Acme} {x : α} (h : Reaches lib a p.2) (hp : p = (x, b)) :
    Reaches lib a b := by
  subst hp; exact h

/-- A branch of a driver function reaches its result when both arms do. -/
theorem Reaches.ite {α : Type} {c : Prop} [Decidable c] {x y : α × Acme}
    (hx : c → Reaches lib a x.2) (hy : ¬c → Reaches lib a y.2) :
    Reaches lib a (if c then x else y).2 :=
  iteInduction (motive := fun r : α × Acme => Reaches lib a r.2) hx hy

end Reaches

/-! ## The driver functions -/

section Drivers

variable (lib : Lib) (cfg : Config)

theorem Reaches.get (a : Acme) (url : String) : Reaches lib a (acmeGet lib a url).2 :=
  (Step.get a url).reaches

theorem Reaches.post (a : Acme) (url : Option String) (payload : String) :
    Reaches lib a (acmePost lib a url payload).2 :=
  (Step.post a url payload).reaches

theorem Reaches.update {a b : Acme} (hio : b.io = a.io) (hkid : b.kid = a.kid) :
    Reaches lib a b :=
  (Step.update hio hkid).reaches

theorem acmeBootstrap_reaches (a : Acme) : Reaches lib a (acmeBootstrap lib cfg a).2 := by
  have h1 := Reaches.get lib a cfg.directory
  unfold acmeBootstrap; dsimp only
  refine Reaches.ite (fun _ => h1) fun _ => ?_
  have h2 := h1.trans (Reaches.update lib (b := { (acmeGet lib a cfg.directory).2 with
    dir := (acmeGet lib a cfg.directory).2.json, json := none }) rfl rfl)
  split
  · exact h2
  · exact h2.trans (Reaches.get lib _ _)

theorem agreeTerms_reaches (yes : Bool) (a : Acme) : Reaches lib a (agreeTerms yes a).2 := by
  unfold agreeTerms
  split
  · exact .refl
  · split
    · exact .refl
    · exact (Step.ask a _).reaches

/-- `account_new` moves by `Step`s, and its last state differs from one of them at most in
`a->kid`. -/
theorem accountNew_io (yes : Bool) (a : Acme) :
    ∃ b, Reaches lib a b ∧ (accountNew lib cfg yes a).2.io = b.io := by
  let P : Bool × Acme → Prop := fun r => ∃ b, Reaches lib a b ∧ r.2.io = b.io
  show P (accountNew lib cfg yes a)
  unfold accountNew
  split
  · exact ⟨a, .refl, rfl⟩
  rename_i url _
  dsimp only
  have h1 := Reaches.post lib a (some url) "\x7b\"onlyReturnExisting\":true\x7d"
  refine iteInduction (motive := P) (fun _ => ⟨_, h1, rfl⟩) fun _ =>
    iteInduction (motive := P) (fun _ => ⟨_, h1, rfl⟩) fun _ => ?_
  have h2 := h1.trans (agreeTerms_reaches lib yes _)
  refine iteInduction (motive := P) (fun _ => ⟨_, h2, rfl⟩) fun _ => ?_
  have h3 := h2.trans (Reaches.post lib _ (some url) (newAccountPayload cfg.mail))
  exact iteInduction (motive := P) (fun _ => ⟨_, h3, rfl⟩) fun _ => ⟨_, h3, rfl⟩

/-- `account_retrieve` moves by `Step`s, and its last state differs from one of them at most in
`a->kid`, `a->account` and `a->json`. -/
theorem accountRetrieve_io (a : Acme) :
    ∃ b, Reaches lib a b ∧ (accountRetrieve lib a).2.io = b.io := by
  unfold accountRetrieve
  split
  · exact ⟨a, .refl, rfl⟩
  dsimp only
  have h1 := Reaches.post lib a (some ‹_›) "\x7b\"onlyReturnExisting\":true\x7d"
  split
  · exact ⟨_, h1, rfl⟩
  split
  · exact ⟨_, h1, rfl⟩
  · exact ⟨_, h1, rfl⟩

theorem accountUpdate_reaches (a : Acme) : Reaches lib a (accountUpdate lib cfg a).2 := by
  unfold accountUpdate
  split
  · exact .refl
  · exact .refl
  · exact Reaches.post lib _ _ _

theorem accountDeactivate_reaches (a : Acme) : Reaches lib a (accountDeactivate lib a).2 :=
  Reaches.post lib _ _ _

theorem pollChallenge_reaches (url : String) (a : Acme) :
    Reaches lib a (pollChallenge lib url a).2 :=
  have round : ∀ b, Reaches lib a b → Reaches lib a (acmePost lib b (some url) "").2 :=
    fun b hb => hb.trans (Reaches.post lib b _ _)
  pollChallenge_induction lib (Reaches lib a) (fun r => Reaches lib a r.2) url
    (fun b hb _ => round b hb) (fun b hb => round b hb) (fun b hb _ => round b hb) a .refl

theorem present_reaches (type ident token ka : String) (a : Acme) :
    Reaches lib a (present cfg type ident token ka a).2 := by
  unfold present
  split
  · exact (Step.hook a _ _ _ _ _ _).reaches
  · exact (Step.ask a _).reaches

theorem attempt_reaches (url type ident token ka : String) (a : Acme) :
    Reaches lib a (attempt lib cfg url type ident token ka a).2 := by
  have h1 := Reaches.post lib a (some url) "\x7b\x7d"
  have h2 : Reaches lib a (if (acmePost lib a (some url) "\x7b\x7d").1 = 200 then
      pollChallenge lib url (acmePost lib a (some url) "\x7b\x7d").2
      else (false, (acmePost lib a (some url) "\x7b\x7d").2)).2 :=
    Reaches.ite (fun _ => h1.trans (pollChallenge_reaches lib url _)) fun _ => h1
  unfold attempt; dsimp only
  split
  · exact h2.trans (Step.hook _ _ _ _ _ _ _).reaches
  · exact h2

theorem chlgLoop_reaches (thumb ident : String) (chs : List Json) (a : Acme) :
    Reaches lib a (chlgLoop lib cfg thumb ident chs a).2 := by
  induction chs, a using chlgLoop.induct lib cfg thumb ident with
  | case1 a => exact .refl
  | case2 ch chs a hs ih => rw [chlgLoop, if_pos hs]; exact ih
  | case3 ch chs a hs url type token htk hty hu hka =>
    simp only [chlgLoop, if_neg hs, hu, hty, htk, hka]; exact .refl
  | case4 ch chs a hs url type token htk hty hu ka hka a1 hpr =>
    simp only [chlgLoop, if_neg hs, hu, hty, htk, hka, hpr]
    exact (present_reaches lib cfg type ident token ka a).of_eq hpr
  | case5 ch chs a hs url type token htk hty hu ka hka a1 hpr ih =>
    simp only [chlgLoop, if_neg hs, hu, hty, htk, hka, hpr]
    exact ((present_reaches lib cfg type ident token ka a).of_eq hpr).trans ih
  | case6 ch chs a hs url type token htk hty hu ka hka a1 hpr =>
    simp only [chlgLoop, if_neg hs, hu, hty, htk, hka, hpr]
    exact ((present_reaches lib cfg type ident token ka a).of_eq hpr).trans
      (attempt_reaches lib cfg _ _ _ _ _ a1)
  | case7 ch chs a hs hnone =>
    rw [chlgLoop, if_neg hs]
    split
    · exact absurd (hnone _ _ _ ‹_› ‹_› ‹_›) id
    · exact .refl

theorem authLoop_reaches (thumb : String) (auths : List Json) (a : Acme) :
    Reaches lib a (authLoop lib cfg thumb auths a).2 := by
  induction auths generalizing a with
  | nil => exact .refl
  | cons j us ih =>
    cases j
    case string u =>
      rw [authLoop]
      split
      rename_i r a1 hp1
      have h1 : Reaches lib a a1 := (Reaches.post lib a (some u) "").of_eq hp1
      refine Reaches.ite (fun _ => h1) fun _ => Reaches.ite (fun _ => h1.trans (ih a1)) fun _ =>
        Reaches.ite (fun _ => h1) fun _ => Reaches.ite (fun _ => h1) fun _ => ?_
      split
      · exact h1
      refine Reaches.ite (fun _ => h1) fun _ => ?_
      split
      · split
        rename_i ok a2 hp2
        have h2 : Reaches lib a a2 := h1.trans ((Reaches.update lib (a := a1) (b := { a1 with json := none })
          rfl rfl).trans ((chlgLoop_reaches lib cfg thumb _ _ _).of_eq hp2))
        exact Reaches.ite (fun _ => h2.trans (ih a2)) fun _ => h2
      · exact h1
    all_goals exact .refl

theorem authorize_reaches (a : Acme) : Reaches lib a (authorize lib cfg a).2 := by
  unfold authorize
  split
  · split
    · exact .refl
    · exact authLoop_reaches lib cfg _ _ a
  · exact .refl

theorem pollOrder_reaches (orderurl target wait : String) (a : Acme) :
    Reaches lib a (pollOrder lib orderurl target wait a).2 :=
  have round : ∀ b, Reaches lib a b → Reaches lib a (acmePost lib b (some orderurl) "").2 :=
    fun b hb => hb.trans (Reaches.post lib b _ _)
  pollOrder_induction lib (Reaches lib a) (fun r => Reaches lib a r.2) orderurl target wait
    (fun b hb _ => round b hb) (fun b hb => round b hb)
    (fun b hb _ => (round b hb).trans (Reaches.update lib rfl rfl)) a .refl

theorem andThen_reaches {f g : Acme → Bool × Acme} (hf : ∀ a, Reaches lib a (f a).2)
    (hg : ∀ a, Reaches lib a (g a).2) (a : Acme) : Reaches lib a (andThen f g a).2 := by
  unfold andThen
  split
  rename_i ok a1 hp
  have h1 : Reaches lib a a1 := (hf a).of_eq hp
  cases ok
  · exact h1
  · exact h1.trans (hg a1)

theorem certDownload_reaches (a : Acme) : Reaches lib a (certDownload lib cfg a).2 := by
  unfold certDownload
  split
  · exact .refl
  dsimp only
  have h1 := Reaches.post lib a (some ‹_›) ""
  exact Reaches.ite (fun _ => h1) fun _ => h1.trans (Step.save _ _ _).reaches

theorem certFinalize_reaches (orderurl : String) (a : Acme) :
    Reaches lib a (certFinalize lib cfg orderurl a).2 := by
  unfold certFinalize
  split
  · exact .refl
  split
  · exact .refl
  rename_i csr _ _ fin _
  dsimp only
  have h1 := Reaches.post lib a (some fin) (csrPayload csr)
  have h2 := h1.trans (pollOrder_reaches lib orderurl "valid" "processing" _)
  exact Reaches.ite (fun _ => h1) fun _ =>
    Reaches.ite (fun _ => h2) fun _ => h2.trans (certDownload_reaches lib cfg _)

theorem certFinish_reaches (orderurl status : String) (a : Acme) :
    Reaches lib a (certFinish lib cfg orderurl status a).2 := by
  have h1 : Reaches lib a (if status = "ready" then (true, a) else
      andThen (authorize lib cfg) (pollOrder lib orderurl "ready" "pending") a).2 :=
    Reaches.ite (fun _ => .refl) fun _ =>
      andThen_reaches lib (authorize_reaches lib cfg) (pollOrder_reaches lib _ _ _) a
  unfold certFinish andThen at *; dsimp only at *
  exact Reaches.ite (fun _ => h1) fun _ => h1.trans (certFinalize_reaches lib cfg orderurl _)

theorem certIssue_reaches (a : Acme) : Reaches lib a (certIssue lib cfg a).2 := by
  unfold certIssue
  split
  · exact .refl
  rename_i url _
  dsimp only
  have h1 := Reaches.post lib a (some url) (identifiers cfg.names)
  refine Reaches.ite (fun _ => h1) fun _ => ?_
  split
  · exact h1
  refine Reaches.ite (fun _ => h1) fun _ => ?_
  split
  · exact h1
  refine h1.trans (Reaches.trans ?_ (certFinish_reaches lib cfg _ _ _))
  exact Reaches.update lib rfl rfl

theorem certRevoke_reaches (certfile : String) (reason : Int) (a : Acme) :
    Reaches lib a (certRevoke lib certfile reason a).2 := by
  unfold certRevoke
  split
  · exact .refl
  split
  · exact .refl
  · exact Reaches.post lib _ _ _

end Drivers

end Uacme
