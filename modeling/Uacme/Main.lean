import Uacme.Account
import Uacme.Issue

/-!
# Uacme.Main — `validate_domain_str` and `main`

`main` parses the options (the `switch` of its `getopt_long` loop, over the options
`getopt_long` returns), the action and its operands, builds the directory paths, checks or
creates the directories and keys, and runs the action's pipeline: `acme_bootstrap`, then
`account_new`, or `account_retrieve` followed by `account_update`, `account_deactivate`,
`cert_issue` or `cert_revoke`.  The filesystem and the key and certificate files are the
`Host`'s; `getopt_long`'s permutation of `argv` is not modelled.
-/

namespace Uacme

/-! ## `validate_domain_str` -/

/-- The `switch` of `validate_domain_str` from `s[j]` on: `s1` is `s[1]` (`none` for the NUL
past the end), `len` records that a counted character was seen. -/
def validateLoop (s1 : Option Char) : Nat → Bool → List Char → Bool
  | _, len, [] => len
  | j, len, c :: cs =>
    if c = '.' then (if j = 0 then false else validateLoop s1 (j + 1) true cs)
    else if c = '_' ∨ c = '-' then validateLoop s1 (j + 1) true cs
    else if c = '*' then (if j ≠ 0 ∨ s1 ≠ some '.' then false else validateLoop s1 (j + 1) len cs)
    else if !(c.isUpper || c.isLower || c.isDigit) then false
    else validateLoop s1 (j + 1) true cs

/-- `validate_domain_str(s)`. -/
def validateDomainStr (s : String) : Bool :=
  validateLoop (s.data.get? 1) 0 false s.data

/-- `a.domain`: the first name without a leading `*.`. -/
def primaryDomain (name : String) : String :=
  match name.data with
  | '*' :: '.' :: rest => ⟨rest⟩
  | _ => name

/-- `a.keydir`: `<confdir>/private`. -/
def keydir (confdir : String) : String := confdir ++ "/private"

/-- `a.dkeydir`: `<confdir>/private/<domain>`. -/
def dkeydir (confdir domain : String) : String := confdir ++ "/private/" ++ domain

/-- `a.certdir`: `<confdir>/<domain>`. -/
def certdir (confdir domain : String) : String := confdir ++ "/" ++ domain

/-- The key file `key_load` is given: `<dir>/key.pem`. -/
def keyFile (dir : String) : String := dir ++ "/key.pem"

/-! ## Options -/

/-- `isspace` in the C locale. -/
def isSpace (c : Char) : Bool :=
  c = ' ' || c = '\t' || c = '\n' || c = '\x0b' || c = '\x0c' || c = '\r'

/-- The value of a run of decimal digits. -/
def digitsValue (ds : List Char) : Nat :=
  ds.foldl (fun n d => 10 * n + (d.toNat - '0'.toNat)) 0

/-- `LONG_MAX` and `LONG_MIN` of an LP64 `long`. -/
def longMax : Int := 9223372036854775807
def longMin : Int := -9223372036854775808

/-- `strtol(s, &endptr, 10)`: the value, saturated at `LONG_MIN`/`LONG_MAX`, and the text
`endptr` points at (all of `s` when there is no digit). -/
def strtol (s : List Char) : Int × List Char :=
  let t := s.dropWhile isSpace
  let (neg, u) : Bool × List Char :=
    match t with
    | '-' :: u => (true, u)
    | '+' :: u => (false, u)
    | u => (false, u)
  let ds := u.takeWhile Char.isDigit
  if ds.isEmpty then (0, s) else
  let v : Int := if neg then -(digitsValue ds : Int) else digitsValue ds
  (max longMin (min longMax v), u.dropWhile Char.isDigit)

/-- The `-d` case of the option loop: `days = strtol(optarg, &endptr, 10)`, the `long` stored in
the `int` `days` (its low 32 bits, two's complement), accepted when `*endptr == 0` and
`days > 0`. -/
def parseDays (arg : String) : Option Int :=
  let (v, rest) := strtol arg.data
  if rest ≠ [] ∨ Int.bmod v 4294967296 ≤ 0 then none else some (Int.bmod v 4294967296)

/-- `PRODUCTION_URL` and `STAGING_URL`. -/
def productionUrl : String := "https://acme-v02.api.letsencrypt.org/directory"
def stagingUrl : String := "https://acme-staging-v02.api.letsencrypt.org/directory"

/-- The settings of `main`'s option loop, with their defaults. -/
structure Options where
  directory : String := productionUrl
  confdir : String := "/etc/ssl/uacme"
  days : Int := 30
  force : Bool := false
  hook : Option String := none
  never : Bool := false
  version : Bool := false
  yes : Bool := false

/-- The option loop of `main` over the options `getopt_long` returns, each with its argument
(`""` for the options that take none); `-v` only raises the log level. -/
def parseOptions : List (Char × String) → Options → Option Options
  | [], o => some o
  | (c, arg) :: rest, o =>
    match c with
    | 'a' => parseOptions rest { o with directory := arg }
    | 'c' => parseOptions rest { o with confdir := arg }
    | 'd' =>
      match parseDays arg with
      | none => none
      | some d => parseOptions rest { o with days := d }
    | 'f' => parseOptions rest { o with force := true }
    | 'h' => parseOptions rest { o with hook := some arg }
    | 'n' => parseOptions rest { o with never := true }
    | 'v' => parseOptions rest o
    | 's' => parseOptions rest { o with directory := stagingUrl }
    | 'V' => parseOptions rest { o with version := true }
    | 'y' => parseOptions rest { o with yes := true }
    | _ => none

/-! ## Actions -/

/-- The actions of the command line. -/
inductive Action
  | new (email : Option String)
  | update (email : Option String)
  | deactivate
  | issue (names : List String)
  | revoke (file : String)
  deriving DecidableEq

/-- The operands after the options: the action and its arguments, the names of `issue`
validated by `validate_domain_str`. -/
def parseAction : List String → Option Action
  | [] => none
  | act :: rest =>
    if act = "new" ∨ act = "update" then
      match rest with
      | [] => some (if act = "new" then .new none else .update none)
      | [e] => some (if act = "new" then .new (some e) else .update (some e))
      | _ => none
    else if act = "deactivate" then (if rest = [] then some .deactivate else none)
    else if act = "issue" then
      if rest = [] ∨ !rest.all validateDomainStr then none else some (.issue rest)
    else if act = "revoke" then
      match rest with
      | [f] => some (.revoke f)
      | _ => none
    else none

/-- The host `main` runs on: `access` for the hook and the revoked file, the directory calls of
`check_or_mkdir`, and `key_load` and `cert_valid` (crypto.c, not among the sources). -/
structure Host where
  executable : String → Bool
  readable : String → Bool
  present : String → Bool
  mkdir : String → Bool
  isDir : String → Bool
  keyLoad : Bool → String → Bool
  certValid : String → List String → Int → Bool

/-- `check_or_mkdir(allow_create, dir, mode)`. -/
def checkOrMkdir (host : Host) (allowCreate : Bool) (dir : String) : Bool :=
  (host.present dir || (allowCreate && host.mkdir dir)) && host.isDir dir

/-- `f(a) && g(a)` on driver functions. -/
def andThen (f g : Acme → Bool × Acme) (a : Acme) : Bool × Acme :=
  let (ok, a) := f a
  if ok then g a else (false, a)

/-- A property of the state that both stages keep holds after the pipeline. -/
theorem andThen_inv (P : Acme → Prop) {f g : Acme → Bool × Acme} (hf : ∀ a, P a → P (f a).2)
    (hg : ∀ a, P a → P (g a).2) (a : Acme) (ha : P a) : P (andThen f g a).2 := by
  unfold andThen
  split
  rename_i ok a1 hp
  have h1 : P a1 := by simpa [hp] using hf a ha
  cases ok
  · exact h1
  · exact hg a1 h1

section Main

variable (host : Host) (lib : Lib)

/-- The pipeline of an action, from `acme_bootstrap` on. -/
def runAction (cfg : Config) (yes : Bool) : Action → Acme → Bool × Acme
  | .new _ => andThen (acmeBootstrap lib cfg) (accountNew lib cfg yes)
  | .update _ => andThen (acmeBootstrap lib cfg) (andThen (accountRetrieve lib) (accountUpdate lib cfg))
  | .deactivate => andThen (acmeBootstrap lib cfg) (andThen (accountRetrieve lib) (accountDeactivate lib))
  | .issue _ => andThen (acmeBootstrap lib cfg) (andThen (accountRetrieve lib) (certIssue lib cfg))
  | .revoke f => andThen (acmeBootstrap lib cfg) (andThen (accountRetrieve lib) (certRevoke lib f 0))

/-- The configuration `main` hands the driver. -/
def Action.config (o : Options) : Action → Config
  | .new e | .update e => ⟨o.directory, o.hook, e, [], ""⟩
  | .issue names =>
    ⟨o.directory, o.hook, none, names, certdir o.confdir (primaryDomain (names.headD ""))⟩
  | _ => ⟨o.directory, o.hook, none, [], ""⟩

/-- `main(argc, argv)` with the options `getopt_long` returned and the operands after them:
whether it exits with `EXIT_SUCCESS`, and the driver's last state. -/
def main (opts : List (Char × String)) (operands : List String) (w : World) : Bool × Acme :=
  let a := Acme.init w
  if opts = [] ∧ operands = [] then (false, a) else
  match parseOptions opts {} with
  | none => (false, a)
  | some o =>
    if o.version then (false, a) else
    match parseAction operands with
    | none => (false, a)
    | some act =>
      let readable := match act with
        | .revoke f => host.readable f
        | _ => true
      let hookOk := match o.hook with
        | some h => host.executable h
        | none => true
      if !readable || !hookOk then (false, a) else
      let create := (act matches .new _) && !o.never
      if !(checkOrMkdir host create o.confdir && checkOrMkdir host create (keydir o.confdir) &&
          host.keyLoad create (keyFile (keydir o.confdir))) then (false, a) else
      let cfg := act.config o
      match act with
      | .issue names =>
        let domain := primaryDomain (names.headD "")
        if !(checkOrMkdir host (!o.never) (dkeydir o.confdir domain) &&
            checkOrMkdir host (!o.never) (certdir o.confdir domain) &&
            host.keyLoad (!o.never) (keyFile (dkeydir o.confdir domain))) then (false, a) else
        if host.certValid cfg.certdir names o.days && !o.force then (true, a) else
        runAction lib cfg o.yes act a
      | act => runAction lib cfg o.yes act a

/-- `main` skips the issuance: the action is `issue`, the certificate in place is still valid
for the requested names and days (`cert_valid`), and `-f` was not given. -/
def Skips (opts : List (Char × String)) (operands : List String) : Prop :=
  ∃ o names, parseOptions opts {} = some o ∧ parseAction operands = some (.issue names) ∧
    host.certValid (certdir o.confdir (primaryDomain (names.headD ""))) names o.days = true ∧
    o.force = false

/-- `main` either stops before the driver runs, in the initial state and with failure unless it
skips the issuance, or hands the initial state to the pipeline of the action it parsed,
configured from the settings the option loop ended with. -/
theorem main_cases (opts : List (Char × String)) (operands : List String) (w : World) :
    (main host lib opts operands w).2 = Acme.init w ∧
        ((main host lib opts operands w).1 = true → Skips host opts operands) ∨
      ∃ o act, parseOptions opts {} = some o ∧ parseAction operands = some act ∧
        main host lib opts operands w = runAction lib (act.config o) o.yes act (Acme.init w) := by
  let P : Bool × Acme → Prop := fun r =>
    r.2 = Acme.init w ∧ (r.1 = true → Skips host opts operands) ∨
      ∃ o act, parseOptions opts {} = some o ∧ parseAction operands = some act ∧
        r = runAction lib (act.config o) o.yes act (Acme.init w)
  have hite : ∀ (c : Prop) [Decidable c] (x y : Bool × Acme), P x → P y → P (if c then x else y) :=
    fun _ _ _ _ hx hy => iteInduction (motive := P) (fun _ => hx) fun _ => hy
  have hstop : P (false, Acme.init w) := .inl ⟨rfl, fun h => by cases h⟩
  show P (main host lib opts operands w)
  unfold main
  refine hite _ _ _ hstop ?_
  split
  · exact hstop
  rename_i o ho
  refine hite _ _ _ hstop ?_
  split
  · exact hstop
  rename_i act hact
  have hrun : P (runAction lib (act.config o) o.yes act (Acme.init w)) := .inr ⟨o, act, ho, hact, rfl⟩
  refine hite _ _ _ hstop (hite _ _ _ hstop ?_)
  split
  · rename_i names
    refine hite _ _ _ hstop (iteInduction (motive := P) (fun hc => .inl ⟨rfl, fun _ => ?_⟩)
      fun _ => hrun)
    obtain ⟨hv, hf⟩ := Bool.and_eq_true _ _ ▸ hc
    exact ⟨o, names, ho, hact, hv, by simpa using hf⟩
  · exact hrun

/-- `main` reads its options only through the option loop: two option lists that are both empty
or both not, and that the loop takes to the same settings, give the same run. -/
theorem main_options_congr {opts opts' : List (Char × String)} (operands : List String) (w : World)
    (h0 : opts = [] ↔ opts' = []) (hp : parseOptions opts {} = parseOptions opts' {}) :
    main host lib opts operands w = main host lib opts' operands w := by
  simp only [main, hp, h0]

end Main

/-! ## What `main` may create -/

/-- Two hosts that answer alike every call that creates nothing: they may differ only in `mkdir`
and in what `key_load` does when it may create the key. -/
structure Host.AgreeNoCreate (h h' : Host) : Prop where
  executable : h.executable = h'.executable
  readable : h.readable = h'.readable
  present : h.present = h'.present
  isDir : h.isDir = h'.isDir
  keyLoad : h.keyLoad false = h'.keyLoad false
  certValid : h.certValid = h'.certValid

/-- `check_or_mkdir` that may not create reads only `access` and `stat`. -/
theorem checkOrMkdir_agree {host host' : Host} (hh : host.AgreeNoCreate host') (dir : String) :
    checkOrMkdir host false dir = checkOrMkdir host' false dir := by
  simp only [checkOrMkdir, hh.present, hh.isDir, Bool.false_and, Bool.or_false]

/-- **Creation only where allowed.** Only `new` (the configuration and key directories and the
account key) and `issue` (the domain's key and certificate directories and its key) may create
anything, and `-n` forbids all of it: for every other run, two hosts that differ only in what
`mkdir` and a creating `key_load` would do give the same run, so neither is ever called. -/
theorem main_creates_nothing {host host' : Host} (hh : host.AgreeNoCreate host') (lib : Lib)
    {opts : List (Char × String)} {operands : List String} {o : Options} {act : Action}
    (ho : parseOptions opts {} = some o) (hact : parseAction operands = some act)
    (hc : o.never = true ∨ (act matches .update _ | .deactivate | .revoke _)) (w : World) :
    main host lib opts operands w = main host' lib opts operands w := by
  have hkey := congrFun hh.keyLoad
  unfold main
  simp only [ho, hact, hh.executable, hh.readable, hh.certValid]
  rcases hc with hn | hc
  · simp only [hn, Bool.not_true, Bool.and_false, checkOrMkdir_agree hh, hkey]
  · cases act <;>
      simp only [Bool.false_and, Bool.false_eq_true, checkOrMkdir_agree hh, hkey] at hc ⊢

/-- `uacme -n deactivate` meets the hypotheses, on a host where everything exists and one where
nothing could be created. -/
theorem main_creates_nothing_never :
    let host : Host := ⟨fun _ => true, fun _ => true, fun _ => true, fun _ => true, fun _ => true,
      fun _ _ => true, fun _ _ _ => false⟩
    let lib : Lib := ⟨fun _ => none, fun _ => none, fun _ _ => none, none, fun _ => none, none,
      fun _ _ => false, fun _ => none⟩
    main host lib [('n', "")] ["deactivate"] ⟨[], [], [], []⟩ =
      main { host with mkdir := fun _ => false, keyLoad := fun c _ => !c } lib [('n', "")]
        ["deactivate"] ⟨[], [], [], []⟩ :=
  @main_creates_nothing _ _ ⟨rfl, rfl, rfl, rfl, rfl, rfl⟩ _ [('n', "")] ["deactivate"] _ _ rfl rfl
    (.inl rfl) _

/-- `-d 4294967297` is accepted and runs exactly as `-d 1`: `strtol` yields `2^32 + 1`, whose low
32 bits are `1`. -/
theorem days_wraps_to_one (host : Host) (lib : Lib) (operands : List String) (w : World) :
    main host lib [('d', "4294967297")] operands w = main host lib [('d', "1")] operands w :=
  -- both option lists end the loop with `days = 1`: `parseDays "4294967297" = some 1`
  main_options_congr host lib operands w (by simp) rfl

end Uacme
