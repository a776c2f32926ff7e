import Uacme.Main

/-!
# Uacme.Days — the `-d` argument on decimal numerals

`parseDays` reads `-d` with `strtol(optarg, &endptr, 10)` and keeps the `long` in the `int`
`days`.  On the numeral of any integer `z` (`toString z`: a minus sign when negative, then the
decimal digits) `strtol` reads the whole argument, so the option is accepted exactly when the low
32 bits of `z`, saturated at `LONG_MIN`/`LONG_MAX`, are positive as an `int`, and `days` is then
that value (`parseDays_decimal`).  Every numeral from `1` to `2^31 - 1` is read as itself; the
others wrap, so that `-d 4294967297` and even `-d -4294967295` set `days` to `1`.
-/

namespace Uacme

/-! ## Decimal digits -/

theorem digitChar_isDigit : ∀ k, k < 10 → (Nat.digitChar k).isDigit = true := by decide

theorem digitChar_value : ∀ k, k < 10 → (Nat.digitChar k).toNat - '0'.toNat = k := by decide

/-- A digit is not a space. -/
theorem isSpace_of_isDigit {c : Char} (h : c.isDigit = true) : isSpace c = false := by
  cases hs : isSpace c
  · rfl
  · simp only [isSpace, Bool.or_eq_true, decide_eq_true_eq] at hs
    rcases hs with ((((rfl | rfl) | rfl) | rfl) | rfl) | rfl <;> simp at h

theorem digitsValue_concat (ds : List Char) (d : Char) :
    digitsValue (ds ++ [d]) = 10 * digitsValue ds + (d.toNat - '0'.toNat) := by
  simp only [digitsValue, List.foldl_append, List.foldl_cons, List.foldl_nil]

/-- `Nat.toDigitsCore` with enough fuel puts the decimal digits of `n`, a non-empty run of digits
whose value is `n`, before `ds`. -/
theorem toDigitsCore_decimal (fuel n : Nat) (ds : List Char) (hn : n < fuel) :
    ∃ digs, Nat.toDigitsCore 10 fuel n ds = digs ++ ds ∧ digs ≠ [] ∧
      (∀ c ∈ digs, c.isDigit = true) ∧ digitsValue digs = n := by
  induction fuel generalizing n ds with
  | zero => omega
  | succ fuel ih =>
    have hd := digitChar_isDigit (n % 10) (Nat.mod_lt _ (by decide))
    have hv := digitChar_value (n % 10) (Nat.mod_lt _ (by decide))
    show ∃ digs, (if n / 10 = 0 then Nat.digitChar (n % 10) :: ds
      else Nat.toDigitsCore 10 fuel (n / 10) (Nat.digitChar (n % 10) :: ds)) = digs ++ ds ∧ _
    split
    · refine ⟨[Nat.digitChar (n % 10)], rfl, List.cons_ne_nil _ _, by simpa using hd, ?_⟩
      simp only [digitsValue, List.foldl_cons, List.foldl_nil, hv]
      omega
    · -- the last digit goes on in front of `ds`, the others come from `n / 10`
      obtain ⟨digs, heq, -, hdigs, hval⟩ := ih (n / 10) (Nat.digitChar (n % 10) :: ds) (by omega)
      refine ⟨digs ++ [Nat.digitChar (n % 10)], by simp [heq], by simp, ?_, ?_⟩
      · simpa [or_imp, forall_and] using ⟨hdigs, hd⟩
      · rw [digitsValue_concat, hval, hv]
        omega

/-! ## `strtol` and `parseDays` -/

/-- `strtol` reads all of a non-empty run of digits, after a minus sign when `neg`. -/
theorem strtol_numeral (neg : Bool) {ds : List Char} (hne : ds ≠ [])
    (hd : ∀ c ∈ ds, c.isDigit = true) :
    strtol ((if neg then ['-'] else []) ++ ds) =
      (max longMin (min longMax (if neg then -(digitsValue ds : Int) else digitsValue ds)), []) := by
  obtain ⟨c, cs, rfl⟩ := List.exists_cons_of_ne_nil hne
  have hc := hd c (List.mem_cons_self _ _)
  have htake : (c :: cs).takeWhile Char.isDigit = c :: cs := List.takeWhile_eq_self_iff.2 hd
  have hdrop : (c :: cs).dropWhile Char.isDigit = [] := List.dropWhile_eq_nil_iff.2 hd
  cases neg
  · have hm : c ≠ '-' ∧ c ≠ '+' := ⟨by rintro rfl; simp at hc, by rintro rfl; simp at hc⟩
    simp [strtol, List.dropWhile_cons_of_neg, isSpace_of_isDigit hc, htake, hdrop, hm]
  · simp [strtol, htake, hdrop, isSpace]

/-- `strtol` reads all of the numeral of `n`, after a minus sign when `neg`. -/
theorem strtol_toDigits (neg : Bool) (n : Nat) :
    strtol ((if neg then ['-'] else []) ++ Nat.toDigits 10 n) =
      (max longMin (min longMax (if neg then -(n : Int) else n)), []) := by
  obtain ⟨digs, heq, hne, hd, hv⟩ := toDigitsCore_decimal (n + 1) n [] (Nat.lt_succ_self n)
  rw [show Nat.toDigits 10 n = digs from (heq.trans (List.append_nil digs)),
    strtol_numeral neg hne hd, hv]

/-- `parseDays` on an argument that `strtol` reads whole: the low 32 bits of the value, when they
are positive. -/
theorem parseDays_of_strtol {arg : String} {v : Int} (h : strtol arg.data = (v, [])) :
    parseDays arg = if 0 < Int.bmod v 4294967296 then some (Int.bmod v 4294967296) else none := by
  simp only [parseDays, h, ne_eq, not_true_eq_false, false_or, not_lt]
  split <;> split <;> first | rfl | omega

/-- **`-d` on the numeral of an integer.** `parseDays (toString z)` accepts exactly when the low 32
bits of `z`, saturated at `LONG_MIN`/`LONG_MAX`, are positive as an `int`, and yields them. -/
theorem parseDays_decimal (z : Int) :
    parseDays (toString z) =
      if 0 < Int.bmod (max longMin (min longMax z)) 4294967296 then
        some (Int.bmod (max longMin (min longMax z)) 4294967296)
      else none := by
  apply parseDays_of_strtol
  cases z with
  | ofNat n => exact strtol_toDigits false n
  | negSucc m => exact strtol_toDigits true (m + 1)

example : parseDays "2147483647" = some 2147483647 ∧ parseDays "-4294967295" = some 1 := by
  decide

end Uacme
