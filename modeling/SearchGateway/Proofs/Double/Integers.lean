import Mathlib.Algebra.Order.Floor.Div
import Mathlib.Data.Rat.Floor
import SearchGateway.Proofs.Double.Rounding

/-!
# Rounded numbers and the integers next to them

A quotient of two integers is rounded to binary64 and then taken up to the next integer.  Rounding
moves it by half a unit of its mantissa at most.  As long as the dividend has 53 bits that is less
than the distance to the integer below, so what is taken up is the quotient itself
(`Double.ceil_quotient`).  An integer by itself is rounded to a number of the format unless it lies
beyond the greatest one by half a unit or more (`Double.exists_ofInt_iff`).

Of a rounded product that is taken down to the next integer only the sign matters here: it is that
of the exact product (`Double.NotNegative.mul`).
-/

set_option autoImplicit false

namespace SearchGateway.Double

/-! ## The integers next to a finite number -/

/-- The integer above a finite number is that above the rational it stands for. -/
theorem ceil_finite (negative : Bool) (m : ℕ) (e : ℤ) (hc : Canonical m e) :
    (finite negative m e hc).ceil = .ok ⌈(signed negative m : ℚ) * 2 ^ e⌉ := by
  unfold ceil
  simp only [Nat.pow_eq]
  split
  case isTrue he =>
    rw [two_zpow_of_nonneg he, ← Int.cast_natCast (R := ℚ), ← Int.cast_mul, Int.ceil_intCast]
  case isFalse he =>
    rw [two_zpow_of_neg (not_le.mp he), ← div_eq_mul_inv, Rat.ceil_intCast_div_natCast,
      Int.fdiv_eq_ediv_of_nonneg _ (Int.natCast_nonneg _)]

/-- The integer below a finite number is that below the rational it stands for. -/
theorem floor_finite (negative : Bool) (m : ℕ) (e : ℤ) (hc : Canonical m e) :
    (finite negative m e hc).floor = .ok ⌊(signed negative m : ℚ) * 2 ^ e⌋ := by
  unfold floor
  simp only [Nat.pow_eq]
  split
  case isTrue he =>
    rw [two_zpow_of_nonneg he, ← Int.cast_natCast (R := ℚ), ← Int.cast_mul, Int.floor_intCast]
  case isFalse he =>
    rw [two_zpow_of_neg (not_le.mp he), ← div_eq_mul_inv, Rat.floor_intCast_div_natCast,
      Int.fdiv_eq_ediv_of_nonneg _ (Int.natCast_nonneg _)]

/-! ## Rounding to an integer -/

/-- Rounding to an integer moves a quotient by one half at most. -/
theorem roundHalfEven_near (n : ℕ) {d : ℕ} (hd : 0 < d) :
    |(roundHalfEven n d : ℚ) - n / d| ≤ 1 / 2 := by
  have hn : n / d * d + n % d = n := Nat.div_add_mod' n d
  have hr : n % d < d := Nat.mod_lt n hd
  have hnear : 2 * (roundHalfEven n d * d) ≤ 2 * n + d ∧
      2 * n ≤ 2 * (roundHalfEven n d * d) + d := by
    unfold roundHalfEven
    generalize n / d = q at hn ⊢
    have hnext : (q + 1) * d = q * d + d := Nat.succ_mul q d
    simp only
    split <;> omega
  have hq : (0 : ℚ) < d := by exact_mod_cast hd
  have hbelow : (2 * (roundHalfEven n d * d) : ℚ) ≤ 2 * n + d := by exact_mod_cast hnear.1
  have habove : (2 * n : ℚ) ≤ 2 * (roundHalfEven n d * d) + d := by exact_mod_cast hnear.2
  rw [abs_le, neg_le_sub_iff_le_add, sub_le_iff_le_add', div_le_iff₀ hq, ← sub_le_iff_le_add,
    le_div_iff₀ hq]
  constructor <;> linarith

/-- A quotient that is not above an integer is not rounded above it. -/
theorem roundHalfEven_le {n d k : ℕ} (hd : 0 < d) (h : (n / d : ℚ) ≤ k) :
    roundHalfEven n d ≤ k := by
  have hnear := (abs_le.mp (roundHalfEven_near n hd)).2
  have hlt : (roundHalfEven n d : ℚ) < k + 1 := by linarith
  exact Nat.lt_succ_iff.mp (by exact_mod_cast hlt)

/-- A quotient that is more than one half above an integer stays above it. -/
theorem lt_roundHalfEven {n d k : ℕ} (hd : 0 < d) (h : (k + 1 / 2 : ℚ) < n / d) :
    k < roundHalfEven n d := by
  have hnear := (abs_le.mp (roundHalfEven_near n hd)).1
  have hlt : (k : ℚ) < roundHalfEven n d := by linarith
  exact_mod_cast hlt

/-! ## The value of a rounded quotient -/

/-- Rounding goes by the exponent and the mantissa there; a mantissa of one bit too many is a power
of two. -/
theorem ofRatio_eq (negative : Bool) {num den : ℕ} {e : ℤ} (hnum : num ≠ 0)
    (hexp : exponentOf num den = e) : ofRatio negative num den =
      if roundHalfEven (scaled num den e).1 (scaled num den e).2 = 2 ^ 53 then
        ofParts negative (2 ^ 52) (e + 1)
      else ofParts negative (roundHalfEven (scaled num den e).1 (scaled num den e).2) e := by
  rw [ofRatio, if_neg hnum, hexp]
  rfl

theorem exponentOf_eq {num den : ℕ} {e : ℤ} (hnum : 0 < num) (hden : 0 < den)
    (hbinade : InBinade (num / den : ℚ) e) (hlow : -1074 ≤ e) : exponentOf num den = e := by
  obtain ⟨f, hf, hexp⟩ := exponentOf_spec hnum hden
  rw [hexp, hf.unique hbinade, max_eq_left hlow]

/-- Scaled to its binade a quotient has 53 bits before the point; rounding may carry into one
more. -/
theorem roundHalfEven_binade {num den : ℕ} {e : ℤ} (hden : 0 < den)
    (hbinade : InBinade (num / den : ℚ) e) :
    2 ^ 52 ≤ roundHalfEven (scaled num den e).1 (scaled num den e).2 ∧
      roundHalfEven (scaled num den e).1 (scaled num den e).2 ≤ 2 ^ 53 := by
  have hdpos := scaled_snd_pos num hden e
  have hscaled := scaled_div num den e
  constructor
  · have hlt : 2 ^ 52 - 1 < roundHalfEven (scaled num den e).1 (scaled num den e).2 := by
      refine lt_roundHalfEven hdpos ?_
      rw [hscaled, lt_div_iff₀ (two_zpow_pos e), mul_comm]
      calc (2 : ℚ) ^ e * (((2 ^ 52 - 1 : ℕ) : ℚ) + 1 / 2) < 2 ^ e * 2 ^ 52 :=
            mul_lt_mul_of_pos_left (by norm_num) (two_zpow_pos e)
        _ = 2 ^ (e + 52) := by rw [two_zpow_add]; norm_num
        _ ≤ num / den := hbinade.1
    omega
  · refine roundHalfEven_le hdpos ?_
    rw [hscaled, div_le_iff₀ (two_zpow_pos e), mul_comm]
    calc (num / den : ℚ) ≤ 2 ^ (e + 53) := hbinade.2.le
      _ = (2 : ℚ) ^ e * (2 ^ 53 : ℕ) := by rw [two_zpow_add]; norm_num

/-- A quotient in a binade of the format comes to its rounded mantissa in that binade. -/
theorem exists_ofRatio {num den : ℕ} {e : ℤ} (negative : Bool) (hnum : 0 < num) (hden : 0 < den)
    (hbinade : InBinade (num / den : ℚ) e) (hlow : -1074 ≤ e) (hhigh : e ≤ 970) :
    ∃ (m : ℕ) (f : ℤ) (hc : Canonical m f), ofRatio negative num den = finite negative m f hc ∧
      (m : ℚ) * 2 ^ f = roundHalfEven (scaled num den e).1 (scaled num den e).2 * 2 ^ e := by
  have hround := ofRatio_eq negative hnum.ne' (exponentOf_eq hnum hden hbinade hlow)
  obtain ⟨hge, hle⟩ := roundHalfEven_binade hden hbinade
  set m := roundHalfEven (scaled num den e).1 (scaled num den e).2
  by_cases htop : m = 2 ^ 53
  · have hc : Canonical (2 ^ 52) (e + 1) := ⟨by decide, by omega, by omega, .inr le_rfl⟩
    refine ⟨2 ^ 52, e + 1, hc, ?_, ?_⟩
    · rw [hround, if_pos htop, ofParts, dif_pos hc]
    · rw [htop, two_zpow_add]
      push_cast
      ring
  · have hc : Canonical m e := ⟨show m < 2 ^ 53 by omega, hlow, by omega, .inr hge⟩
    refine ⟨m, e, hc, ?_, rfl⟩
    rw [hround, if_neg htop, ofParts, dif_pos hc]

/-! ## Integers beyond the format -/

theorem ofParts_ne_infinite_iff {negative : Bool} {m : ℕ} {e : ℤ} :
    (∀ sign, ofParts negative m e ≠ infinite sign) ↔ Canonical m e := by
  unfold ofParts
  split
  case isTrue hc =>
    refine iff_of_true (fun sign h => ?_) hc
    cases h
  case isFalse hc => exact iff_of_false (fun h => h negative rfl) hc

/-- A quotient stays finite below the last binade, and in the last one if rounding does not carry
it out of there. -/
theorem ofRatio_ne_infinite_iff {negative : Bool} {num den : ℕ} {e : ℤ} (hnum : 0 < num)
    (hden : 0 < den) (hbinade : InBinade (num / den : ℚ) e) (hlow : -1074 ≤ e) :
    (∀ sign, ofRatio negative num den ≠ infinite sign) ↔
      e < 971 ∨ e = 971 ∧ roundHalfEven (scaled num den e).1 (scaled num den e).2 ≠ 2 ^ 53 := by
  rw [ofRatio_eq negative hnum.ne' (exponentOf_eq hnum hden hbinade hlow)]
  obtain ⟨hge, hle⟩ := roundHalfEven_binade hden hbinade
  set m := roundHalfEven (scaled num den e).1 (scaled num den e).2
  split
  case isTrue htop =>
    rw [ofParts_ne_infinite_iff]
    constructor
    · rintro ⟨-, -, hhigh, -⟩
      exact .inl (by omega)
    · rintro (hbelow | ⟨-, hne⟩)
      · exact ⟨by decide, by omega, by omega, .inr le_rfl⟩
      · exact absurd htop hne
  case isFalse htop =>
    rw [ofParts_ne_infinite_iff]
    constructor
    · rintro ⟨-, -, hhigh, -⟩
      exact (lt_or_eq_of_le hhigh).imp_right fun heq => ⟨heq, htop⟩
    · intro h
      exact ⟨show m < 2 ^ 53 by omega, hlow, by omega, .inr hge⟩

/-- At the upper end of a binade whose unit is `2 * half`, rounding carries from half a unit below
the end on. -/
theorem roundHalfEven_carries {k half : ℕ} (hhalf : 0 < half) (hk : k < 2 ^ 54 * half) :
    roundHalfEven k (2 * half) = 2 ^ 53 ↔ (2 ^ 54 - 1) * half ≤ k := by
  have hunit : 0 < 2 * half := by omega
  constructor
  · intro h
    by_contra hlt
    have hnear := (abs_le.mp (roundHalfEven_near k hunit)).2
    have hq : (0 : ℚ) < (2 * half : ℕ) := by exact_mod_cast hunit
    have hbelow : (k + half : ℚ) < 2 ^ 54 * half := by
      exact_mod_cast (show k + half < 2 ^ 54 * half by omega)
    rw [h, sub_le_iff_le_add, ← sub_le_iff_le_add', le_div_iff₀ hq] at hnear
    push_cast at hnear
    linarith
  · intro h
    exact roundHalfEven_eq hunit (by omega) (by omega) (by omega)

/-- An integer stays in the binades up to one, whose unit is `2 ^ (i + 1)`, exactly if it is more
than half a unit below the end of that one. -/
theorem stays_iff {k i : ℕ} {e : ℤ} (hbinade : InBinade k e) :
    e < i + 1 ∨ e = i + 1 ∧ roundHalfEven (scaled k 1 e).1 (scaled k 1 e).2 ≠ 2 ^ 53 ↔
      k < (2 ^ 54 - 1) * 2 ^ i := by
  obtain ⟨hge, hlt⟩ := hbinade
  have hhalf : 0 < 2 ^ i := Nat.two_pow_pos i
  have hcast (j : ℕ) : ((2 ^ j : ℕ) : ℚ) = 2 ^ (j : ℤ) := by
    rw [zpow_natCast, Nat.cast_pow, Nat.cast_ofNat]
  -- Only in the last binade itself does it depend on how the integer is rounded.
  rcases lt_trichotomy e (i + 1) with hbelow | rfl | habove
  · refine iff_of_true (.inl hbelow) ?_
    have h : k < 2 ^ (i + 53) := by
      have h := lt_of_lt_of_le hlt (two_zpow_le (show e + 53 ≤ (i + 53 : ℕ) by push_cast; omega))
      rw [← hcast] at h
      exact_mod_cast h
    rw [pow_add] at h
    omega
  · have h : k < 2 ^ (i + 54) := by
      rw [show (i : ℤ) + 1 + 53 = (i + 54 : ℕ) by push_cast; omega, ← hcast] at hlt
      exact_mod_cast hlt
    have hscaled : scaled k 1 (i + 1) = (k, 2 * 2 ^ i) := by
      rw [scaled, if_pos (by omega), one_mul, ← pow_succ']
      rfl
    rw [pow_add, Nat.mul_comm] at h
    rw [hscaled, ne_eq, roundHalfEven_carries hhalf h, not_le]
    simp
  · refine iff_of_false (by omega) (not_lt.mpr ?_)
    have h : 2 ^ (i + 54) ≤ k := by
      have h := (two_zpow_le (show ((i + 54 : ℕ) : ℤ) ≤ e + 52 by push_cast; omega)).trans hge
      rw [← hcast] at h
      exact_mod_cast h
    rw [pow_add] at h
    omega

/-- The least integer that rounds beyond the format.  It lies half a unit above the greatest finite
number. -/
def limit : ℕ := (2 ^ 54 - 1) * 2 ^ 970

theorem limit_pos : 0 < limit := by
  unfold limit
  positivity

/-- **An integer fits the format exactly if it is below the limit.** -/
theorem exists_ofInt_iff {n : ℤ} : (∃ d, ofInt n = .ok d) ↔ n.natAbs < limit := by
  have hfinite : (∃ d, ofInt n = .ok d) ↔
      ∀ sign, ofRatio (decide (n < 0)) n.natAbs 1 ≠ infinite sign := by
    unfold ofInt
    cases ofRatio (decide (n < 0)) n.natAbs 1 <;> simp
  rw [hfinite]
  generalize n.natAbs = k
  -- Zero is in no binade.
  rcases k.eq_zero_or_pos with rfl | hk
  · refine iff_of_true (fun sign h => ?_) limit_pos
    rw [ofRatio, if_pos rfl] at h
    cases h
  obtain ⟨e, hbinade, -⟩ := exponentOf_spec hk one_pos
  have hone : (2 : ℚ) ^ (0 : ℤ) ≤ (k : ℚ) / (1 : ℕ) := by
    rw [Nat.cast_one, div_one, zpow_zero]
    exact_mod_cast hk
  have hlow : 0 < e + 53 := lt_of_two_zpow_lt (lt_of_le_of_lt hone hbinade.2)
  rw [ofRatio_ne_infinite_iff hk one_pos hbinade (by omega)]
  rw [Nat.cast_one, div_one] at hbinade
  exact stays_iff hbinade

/-! ## Quotients taken up -/

/-- A quotient of a dividend of 53 bits is further above the integer below it than half a unit of
its mantissa. -/
theorem half_unit_lt {a b k : ℕ} {e : ℤ} (hb : 0 < b) (ha : a < 2 ^ 53) (hk : k * b < a)
    (hbinade : InBinade (a / b : ℚ) e) : (k + 1 / 2 * 2 ^ e : ℚ) < a / b := by
  have hq : (0 : ℚ) < b := by exact_mod_cast hb
  have hstep : (k * b + 1 : ℚ) ≤ a := by exact_mod_cast hk
  have hbits : (a : ℚ) < 2 ^ 53 := by exact_mod_cast ha
  have hunit : (2 : ℚ) ^ e * 2 ^ 52 * b ≤ a := by
    have h := hbinade.1
    rw [two_zpow_add, le_div_iff₀ hq] at h
    exact_mod_cast h
  rw [lt_div_iff₀ hq]
  linarith

/-- A quotient between two integers is rounded to a mantissa that is still between them. -/
theorem roundHalfEven_scaled {a b k i : ℕ} (hb : 0 < b) (ha : a < 2 ^ 53) (hbelow : k * b < a)
    (habove : a ≤ (k + 1) * b) (hbinade : InBinade (a / b : ℚ) (-i)) :
    k * 2 ^ i < roundHalfEven (scaled a b (-i)).1 (scaled a b (-i)).2 ∧
      roundHalfEven (scaled a b (-i)).1 (scaled a b (-i)).2 ≤ (k + 1) * 2 ^ i := by
  have hq : (0 : ℚ) < b := by exact_mod_cast hb
  have hdpos := scaled_snd_pos a hb (-i)
  have hscaled := scaled_div a b (-i)
  have hinv : (2 : ℚ) ^ (-(i : ℤ)) = ((2 ^ i : ℕ) : ℚ)⁻¹ := by
    push_cast
    rw [zpow_neg, zpow_natCast]
  have hpow : (0 : ℚ) < (2 ^ i : ℕ) := by positivity
  constructor
  · refine lt_roundHalfEven hdpos ?_
    have h := half_unit_lt hb ha hbelow hbinade
    rw [hscaled, lt_div_iff₀ (two_zpow_pos _), add_mul, hinv, Nat.cast_mul,
      mul_inv_cancel_right₀ hpow.ne', ← hinv]
    exact h
  · refine roundHalfEven_le hdpos ?_
    have h : (a / b : ℚ) ≤ k + 1 := by
      rw [div_le_iff₀ hq]
      exact_mod_cast habove
    rw [hscaled, hinv, div_inv_eq_mul, Nat.cast_mul, Nat.cast_succ]
    exact mul_le_mul_of_nonneg_right h hpow.le

/-- A quotient of at least one with 53 bits before the point has its unit at or below the point. -/
theorem exists_binade {a b : ℕ} (hb : 0 < b) (hab : b ≤ a) (ha : a < 2 ^ 53) :
    ∃ i : ℕ, InBinade (a / b : ℚ) (-i) ∧ i < 53 := by
  have hq : (0 : ℚ) < b := by exact_mod_cast hb
  obtain ⟨e, hbinade, -⟩ := exponentOf_spec (show 0 < a by omega) hb
  have hone : (2 : ℚ) ^ (0 : ℤ) ≤ a / b := by
    rw [zpow_zero, le_div_iff₀ hq, one_mul]
    exact_mod_cast hab
  have hbits : (a / b : ℚ) < 2 ^ (53 : ℤ) := by
    rw [div_lt_iff₀ hq]
    have hnat : a < 2 ^ 53 * b := by nlinarith
    exact_mod_cast hnat
  have hlow : 0 < e + 53 := lt_of_two_zpow_lt (lt_of_le_of_lt hone hbinade.2)
  have hhigh : e + 52 < 53 := lt_of_two_zpow_lt (lt_of_le_of_lt hbinade.1 hbits)
  obtain ⟨i, rfl⟩ : ∃ i : ℕ, e = -i := ⟨(-e).toNat, by omega⟩
  exact ⟨i, hbinade, by omega⟩

/-- The integer that a quotient is taken up to, and the one before it. -/
theorem ceilDiv_between {a b : ℕ} (ha : 0 < a) (hb : 0 < b) :
    ∃ k, a ⌈/⌉ b = k + 1 ∧ k * b < a ∧ a ≤ (k + 1) * b := by
  have hle : a ≤ b * (a ⌈/⌉ b) := le_smul_ceilDiv hb
  obtain ⟨k, hk⟩ : ∃ k, a ⌈/⌉ b = k + 1 := by
    refine Nat.exists_eq_succ_of_ne_zero fun hzero => ?_
    rw [hzero, Nat.mul_zero] at hle
    omega
  refine ⟨k, hk, ?_, ?_⟩
  · by_contra hnot
    have hdown : a ⌈/⌉ b ≤ k := (ceilDiv_le_iff_le_mul hb).mpr (by rw [Nat.mul_comm]; omega)
    omega
  · rwa [hk, Nat.mul_comm] at hle

/-- The quotient of two positive integers is rounded without a sign. -/
theorem quotient_natCast {a b m : ℕ} {e : ℤ} {hc : Canonical m e} (hb : 0 < b)
    (h : ofRatio false a b = finite false m e hc) :
    quotient a b = .ok (finite false m e hc) := by
  have hne : (b : ℤ) ≠ 0 := by omega
  have hsigns : (decide ((a : ℤ) < 0) != decide ((b : ℤ) < 0)) = false := by
    rw [decide_eq_false (by omega), decide_eq_false (by omega), bne_self_eq_false]
  rw [quotient, if_neg hne, hsigns, Int.natAbs_natCast, Int.natAbs_natCast, h]

/-- **A rounded quotient is taken up to the same integer as the quotient itself**, for a dividend of
53 bits that is not below the divisor. -/
theorem ceil_quotient {a b : ℕ} (hb : 0 < b) (hab : b ≤ a) (ha : a < 2 ^ 53) :
    ∃ d, quotient a b = .ok d ∧ d.ceil = .ok ((a ⌈/⌉ b : ℕ) : ℤ) := by
  have hapos : 0 < a := by omega
  obtain ⟨i, hbinade, hi⟩ := exists_binade hb hab ha
  obtain ⟨m, f, hc, hratio, hvalue⟩ :=
    exists_ofRatio false hapos hb hbinade (by omega) (by omega)
  obtain ⟨k, hk, hbelow, habove⟩ := ceilDiv_between hapos hb
  obtain ⟨hlt, hle⟩ := roundHalfEven_scaled hb ha hbelow habove hbinade
  refine ⟨finite false m f hc, quotient_natCast hb hratio, ?_⟩
  have hpow : (0 : ℚ) < 2 ^ i := by positivity
  have hsigned : (signed false m : ℚ) * 2 ^ f =
      roundHalfEven (scaled a b (-i)).1 (scaled a b (-i)).2 / 2 ^ i := by
    rw [div_eq_mul_inv, ← zpow_natCast, ← zpow_neg, ← hvalue]
    rfl
  rw [ceil_finite, hk, hsigned]
  congr 1
  rw [Int.ceil_eq_iff, lt_div_iff₀ hpow, div_le_iff₀ hpow]
  push_cast
  rw [add_sub_cancel_right]
  exact ⟨by exact_mod_cast hlt, by exact_mod_cast hle⟩

/-! ## Numbers that are not negative -/

/-- The number is not below zero.  Negative zero is not, and not-a-number is below nothing. -/
def NotNegative : Double → Prop
  | finite negative mantissa _ _ => negative = true → mantissa = 0
  | infinite negative => negative = false
  | nan => True

theorem notNegative_zero (negative : Bool) : (zero negative).NotNegative := fun _ => rfl

theorem notNegative_ofParts (m : ℕ) (e : ℤ) : (ofParts false m e).NotNegative := by
  unfold ofParts
  split
  · intro h
    cases h
  · rfl

/-- A rounded quotient has the sign it is given, unless it is zero. -/
theorem notNegative_ofRatio {negative : Bool} {num : ℕ} (den : ℕ) (h : negative = true → num = 0) :
    (ofRatio negative num den).NotNegative := by
  by_cases hnum : num = 0
  · rw [ofRatio, if_pos hnum]
    exact notNegative_zero negative
  · obtain rfl : negative = false := Bool.eq_false_iff.mpr fun hneg => hnum (h hneg)
    rw [ofRatio_eq false hnum rfl]
    split
    · exact notNegative_ofParts _ _
    · exact notNegative_ofParts _ _

theorem notNegative_of_ofInt {n : ℤ} {d : Double} (hn : 0 ≤ n) (h : ofInt n = .ok d) :
    d.NotNegative := by
  have hratio : (ofRatio false n.natAbs 1).NotNegative := notNegative_ofRatio 1 nofun
  rw [ofInt, decide_eq_false (by omega)] at h
  split at h
  · cases h
  · exact Except.ok.inj h ▸ hratio

theorem notNegative_of_isProperFraction {d : Double} (h : d.isProperFraction = true) :
    d.NotNegative := by
  cases d with
  | nan | infinite => cases h
  | finite negative m e hc =>
    rintro rfl
    simp only [isProperFraction, Bool.and_eq_true, Bool.or_eq_true, beq_iff_eq] at h
    obtain ⟨⟨hm | hnot, -⟩, -⟩ := h
    · exact hm
    · cases hnot

/-- A product of numbers that are not below zero is not below zero. -/
theorem NotNegative.mul {x y : Double} (hx : x.NotNegative) (hy : y.NotNegative) :
    (x * y).NotNegative := by
  have hchoice {p : Prop} [Decidable p] {d : Double} (h : ¬p → d.NotNegative) :
      (if p then nan else d).NotNegative := by
    split
    case isTrue => trivial
    case isFalse hp => exact h hp
  show (x.mul y).NotNegative
  -- Where the signs could differ, the number with the sign is a zero.
  cases x with
  | nan => cases y <;> trivial
  | infinite s =>
    obtain rfl : s = false := hx
    cases y with
    | nan => trivial
    | infinite t =>
      obtain rfl : t = false := hy
      exact rfl
    | finite t n f hc =>
      refine hchoice fun hzero => ?_
      cases t with
      | false => rfl
      | true => exact absurd (beq_iff_eq.mpr (hy rfl)) hzero
  | finite s m e hc =>
    cases y with
    | nan => trivial
    | infinite t =>
      obtain rfl : t = false := hy
      refine hchoice fun hzero => ?_
      cases s with
      | false => rfl
      | true => exact absurd (beq_iff_eq.mpr (hx rfl)) hzero
    | finite t n f hc' =>
      have hsign : (s != t) = true → m * n = 0 := by
        intro hne
        cases s with
        | true => rw [hx rfl, Nat.zero_mul]
        | false =>
          cases t with
          | true => rw [hy rfl, Nat.mul_zero]
          | false => cases hne
      unfold Double.mul
      dsimp only
      split
      · exact notNegative_ofRatio _ fun hne => by rw [hsign hne, Nat.zero_mul]
      · exact notNegative_ofRatio _ hsign

theorem floor_nonneg {d : Double} {n : ℤ} (h : d.NotNegative) (hfloor : d.floor = .ok n) :
    0 ≤ n := by
  cases d with
  | nan | infinite => cases hfloor
  | finite negative m e hc =>
    have hsigned : 0 ≤ signed negative m := by
      cases negative with
      | false => exact Int.natCast_nonneg m
      | true => simp [signed, h rfl]
    unfold floor at hfloor
    obtain rfl := Except.ok.inj hfloor
    split
    · positivity
    · exact Int.fdiv_nonneg hsigned (Int.natCast_nonneg _)

end SearchGateway.Double
