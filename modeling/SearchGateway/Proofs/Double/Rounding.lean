import Mathlib.Algebra.Order.Field.Power
import Mathlib.Data.Rat.Cast.Order
import Mathlib.Tactic
import SearchGateway.Double.Basic

/-!
# Rounding to binary64

`Double.ofRatio` rounds a quotient of two naturals.  This file says which quotients it rounds to a
given positive finite number: those that `Double.RoundsTo` describes, half a unit of the mantissa
around the number, a quarter unit below a power of two, with the ends only for an even mantissa
(`Double.ofRatio_of_roundsTo`).

All of it is about rationals.  The integer functions of the model enter by three lemmas: what
`scaled` stands for, which binade `exponentOf` finds, and which quotient `roundHalfEven` rounds to a
given integer.
-/

set_option autoImplicit false

namespace SearchGateway.Double

/-! ## Powers of two -/

theorem two_zpow_pos (e : ℤ) : (0 : ℚ) < 2 ^ e := zpow_pos (by norm_num) e

theorem two_zpow_add (a b : ℤ) : (2 : ℚ) ^ (a + b) = 2 ^ a * 2 ^ b :=
  zpow_add₀ (by norm_num) a b

theorem two_zpow_le {a b : ℤ} (h : a ≤ b) : (2 : ℚ) ^ a ≤ 2 ^ b :=
  zpow_le_zpow_right₀ (by norm_num) h

theorem lt_of_two_zpow_lt {a b : ℤ} (h : (2 : ℚ) ^ a < 2 ^ b) : a < b :=
  (zpow_lt_zpow_iff_right₀ (by norm_num)).mp h

theorem two_zpow_of_nonneg {e : ℤ} (he : 0 ≤ e) : (2 : ℚ) ^ e = (2 ^ e.toNat : ℕ) := by
  push_cast
  rw [← zpow_natCast, Int.toNat_of_nonneg he]

theorem two_zpow_of_neg {e : ℤ} (he : e < 0) : (2 : ℚ) ^ e = ((2 ^ (-e).toNat : ℕ) : ℚ)⁻¹ := by
  push_cast
  rw [← zpow_natCast, Int.toNat_of_nonneg (by omega), ← zpow_neg, neg_neg]

/-! ## Scaling -/

theorem scaled_snd_pos (num : ℕ) {den : ℕ} (hden : 0 < den) (e : ℤ) : 0 < (scaled num den e).2 := by
  unfold scaled
  simp only [Nat.pow_eq]
  split
  · exact Nat.mul_pos hden (by positivity)
  · exact hden

/-- `scaled` divides by a power of two without dividing. -/
theorem scaled_div (num den : ℕ) (e : ℤ) :
    ((scaled num den e).1 : ℚ) / (scaled num den e).2 = (num / den : ℚ) / 2 ^ e := by
  unfold scaled
  simp only [Nat.pow_eq]
  split
  case isTrue he => rw [two_zpow_of_nonneg he, Nat.cast_mul, div_div]
  case isFalse he =>
    rw [two_zpow_of_neg (not_le.mp he), Nat.cast_mul, div_inv_eq_mul, div_mul_eq_mul_div]

/-! ## The binade of a quotient -/

/-- The exponent at which a magnitude has 53 bits before the point. -/
def InBinade (x : ℚ) (e : ℤ) : Prop := (2 : ℚ) ^ (e + 52) ≤ x ∧ x < 2 ^ (e + 53)

theorem InBinade.unique {x : ℚ} {e f : ℤ} (he : InBinade x e) (hf : InBinade x f) : e = f := by
  have h₁ : e + 52 < f + 53 := lt_of_two_zpow_lt (lt_of_le_of_lt he.1 hf.2)
  have h₂ : f + 52 < e + 53 := lt_of_two_zpow_lt (lt_of_le_of_lt hf.1 he.2)
  omega

/-- The bit lengths of numerator and denominator tell the binade but for one. -/
theorem ratio_between {num den : ℕ} (hnum : 0 < num) (hden : 0 < den) :
    (2 : ℚ) ^ ((num.log2 : ℤ) - den.log2 - 1) < num / den ∧
      (num / den : ℚ) < 2 ^ ((num.log2 : ℤ) - den.log2 + 1) := by
  have hn₁ : (2 : ℚ) ^ (num.log2 : ℤ) ≤ num := by
    rw [zpow_natCast]; exact_mod_cast Nat.log2_self_le hnum.ne'
  have hn₂ : (num : ℚ) < 2 ^ ((num.log2 : ℤ) + 1) := by
    have h : num < 2 ^ (num.log2 + 1) := Nat.lt_log2_self
    exact_mod_cast h
  have hd₁ : (2 : ℚ) ^ (den.log2 : ℤ) ≤ den := by
    rw [zpow_natCast]; exact_mod_cast Nat.log2_self_le hden.ne'
  have hd₂ : (den : ℚ) < 2 ^ ((den.log2 : ℤ) + 1) := by
    have h : den < 2 ^ (den.log2 + 1) := Nat.lt_log2_self
    exact_mod_cast h
  have hd : (0 : ℚ) < den := by exact_mod_cast hden
  constructor
  · rw [lt_div_iff₀ hd]
    calc (2 : ℚ) ^ ((num.log2 : ℤ) - den.log2 - 1) * den
        < 2 ^ ((num.log2 : ℤ) - den.log2 - 1) * 2 ^ ((den.log2 : ℤ) + 1) := by
          exact mul_lt_mul_of_pos_left hd₂ (two_zpow_pos _)
      _ = 2 ^ (num.log2 : ℤ) := by rw [← two_zpow_add]; congr 1; ring
      _ ≤ num := hn₁
  · rw [div_lt_iff₀ hd]
    calc (num : ℚ) < 2 ^ ((num.log2 : ℤ) + 1) := hn₂
      _ = 2 ^ ((num.log2 : ℤ) - den.log2 + 1) * 2 ^ (den.log2 : ℤ) := by
          rw [← two_zpow_add]; congr 1; ring
      _ ≤ 2 ^ ((num.log2 : ℤ) - den.log2 + 1) * den :=
          mul_le_mul_of_nonneg_left hd₁ (two_zpow_pos _).le

/-- `exponentOf` finds the binade of a quotient, unless it is below the format. -/
theorem exponentOf_spec {num den : ℕ} (hnum : 0 < num) (hden : 0 < den) :
    ∃ e, InBinade (num / den : ℚ) e ∧ exponentOf num den = max e (-1074) := by
  obtain ⟨hlow, hhigh⟩ := ratio_between hnum hden
  set guess : ℤ := (num.log2 : ℤ) - (den.log2 : ℤ) - 52 with hguess
  have hd : 0 < (scaled num den guess).2 := scaled_snd_pos num hden guess
  -- The comparison in `exponentOf` asks whether the quotient reaches the binade of the guess.
  have htest : (scaled num den guess).1 < (scaled num den guess).2 * 2 ^ 52 ↔
      (num / den : ℚ) < 2 ^ (guess + 52) := by
    have hq : (0 : ℚ) < (scaled num den guess).2 := by exact_mod_cast hd
    rw [two_zpow_add, mul_comm ((2 : ℚ) ^ guess), ← div_lt_iff₀ (two_zpow_pos guess), ← scaled_div,
      div_lt_iff₀ hq, mul_comm]
    norm_cast
  by_cases h : (num / den : ℚ) < 2 ^ (guess + 52)
  · refine ⟨guess - 1, ⟨?_, ?_⟩, ?_⟩
    · rw [show guess - 1 + 52 = (num.log2 : ℤ) - den.log2 - 1 by omega]
      exact hlow.le
    · rwa [show guess - 1 + 53 = guess + 52 by ring]
    · simp only [exponentOf, ← hguess, Nat.pow_eq, htest, h, if_true]
  · refine ⟨guess, ⟨not_lt.mp h, ?_⟩, ?_⟩
    · rwa [show guess + 53 = (num.log2 : ℤ) - den.log2 + 1 by omega]
    · simp only [exponentOf, ← hguess, Nat.pow_eq, htest, h, if_false]

/-! ## The nearest integer -/

/-- A quotient within half of an integer rounds to it, and one at exactly half if it is even. -/
theorem roundHalfEven_eq {n d k : ℕ} (hd : 0 < d) (lower : 2 * (k * d) ≤ 2 * n + d)
    (upper : 2 * n ≤ 2 * (k * d) + d)
    (odd : k % 2 = 1 → 2 * (k * d) < 2 * n + d ∧ 2 * n < 2 * (k * d) + d) :
    roundHalfEven n d = k := by
  have hn : d * (n / d) + n % d = n := Nat.div_add_mod n d
  have hr : n % d < d := Nat.mod_lt n hd
  unfold roundHalfEven
  generalize hq : n / d = q at hn ⊢
  generalize n % d = r at hn hr ⊢
  rcases Nat.lt_trichotomy q k with hlt | heq | hgt
  · -- The integer lies above the quotient's floor, so it is the next one.
    have hstep : d * q + d ≤ k * d := by
      calc d * q + d = (q + 1) * d := by ring
        _ ≤ k * d := Nat.mul_le_mul_right d hlt
    have hk : k = q + 1 := by
      by_contra hne
      have : d * q + d + d ≤ k * d := by
        calc d * q + d + d = (q + 2) * d := by ring
          _ ≤ k * d := Nat.mul_le_mul_right d (by omega)
      omega
    subst hk
    have hmul : (q + 1) * d = d * q + d := by ring
    simp only
    split
    case isTrue h =>
      rcases h with h | ⟨h, he⟩
      · omega
      · have := odd (by omega)
        omega
    case isFalse h => rfl
  · subst heq
    have hmul : q * d = d * q := by ring
    simp only
    split
    case isTrue h => rfl
    case isFalse h =>
      exfalso
      rcases Nat.mod_two_eq_zero_or_one q with he | ho
      · omega
      · have := odd ho
        omega
  · exfalso
    have hstep : k * d + d ≤ d * q := by
      calc k * d + d = (k + 1) * d := by ring
        _ ≤ q * d := Nat.mul_le_mul_right d hgt
        _ = d * q := by ring
    omega

/-! ## What rounds to a number -/

/-- How far below a number, in units of its mantissa, the quotients that round to it begin.  Below a
power of two the next number is only half a unit away. -/
def reachBelow (mantissa : ℕ) (exponent : ℤ) : ℚ :=
  if mantissa = 2 ^ 52 ∧ -1074 < exponent then 1 / 4 else 1 / 2

/-- The magnitudes that round to `mantissa * 2 ^ exponent`. -/
structure RoundsTo (x : ℚ) (mantissa : ℕ) (exponent : ℤ) : Prop where
  lower : (mantissa - reachBelow mantissa exponent) * 2 ^ exponent ≤ x
  upper : x ≤ (mantissa + 1 / 2) * 2 ^ exponent
  odd : mantissa % 2 = 1 → (mantissa - reachBelow mantissa exponent) * 2 ^ exponent < x ∧
    x < (mantissa + 1 / 2) * 2 ^ exponent

theorem reachBelow_le (m : ℕ) (e : ℤ) : reachBelow m e ≤ 1 / 2 := by
  unfold reachBelow; split <;> norm_num

/-- A quotient whose distance from an integer is within the bounds of `RoundsTo` rounds to it. -/
theorem roundHalfEven_of_div {n d k : ℕ} (hd : 0 < d) (lower : (k - 1 / 2 : ℚ) ≤ n / d)
    (upper : (n / d : ℚ) ≤ k + 1 / 2)
    (odd : k % 2 = 1 → (k - 1 / 2 : ℚ) < n / d ∧ (n / d : ℚ) < k + 1 / 2) :
    roundHalfEven n d = k := by
  have hq : (0 : ℚ) < d := by exact_mod_cast hd
  rw [le_div_iff₀ hq] at lower
  rw [div_le_iff₀ hq] at upper
  rw [lt_div_iff₀ hq, div_lt_iff₀ hq] at odd
  refine roundHalfEven_eq hd ?_ ?_ fun hk => ⟨?_, ?_⟩
  · have h : (2 * (k * d) : ℚ) ≤ 2 * n + d := by linarith
    exact_mod_cast h
  · have h : (2 * n : ℚ) ≤ 2 * (k * d) + d := by linarith
    exact_mod_cast h
  · have h : (2 * (k * d) : ℚ) < 2 * n + d := by linarith [(odd hk).1]
    exact_mod_cast h
  · have h : (2 * n : ℚ) < 2 * (k * d) + d := by linarith [(odd hk).2]
    exact_mod_cast h

section

variable {x : ℚ} {m : ℕ} {e : ℤ}

theorem mantissa_le_of_canonical (hc : Canonical m e) : (m : ℚ) ≤ 2 ^ 53 - 1 := by
  have hlt : m + 1 ≤ 2 ^ 53 := hc.1
  have hle : (m : ℚ) + 1 ≤ 2 ^ 53 := by exact_mod_cast hlt
  linarith

/-- What rounds to a number is not more than half a unit below it. -/
theorem RoundsTo.mul_le (h : RoundsTo x m e) {c : ℚ} (hc : c + 1 / 2 ≤ m) : c * 2 ^ e ≤ x := by
  have hreach := reachBelow_le m e
  calc c * 2 ^ e ≤ (m - reachBelow m e) * 2 ^ e := by
        refine mul_le_mul_of_nonneg_right ?_ (two_zpow_pos e).le
        linarith
    _ ≤ x := h.lower

theorem RoundsTo.pos (h : RoundsTo x m e) (hm : 0 < m) : 0 < x := by
  have hm' : (1 : ℚ) ≤ m := by exact_mod_cast hm
  have hhalf : (1 / 2 : ℚ) * 2 ^ e ≤ x := h.mul_le (by linarith)
  exact lt_of_lt_of_le (mul_pos (by norm_num) (two_zpow_pos e)) hhalf

/-- Above, nothing that rounds to a number leaves its binade. -/
theorem RoundsTo.lt_end (h : RoundsTo x m e) (hc : Canonical m e) : x < 2 ^ (e + 53) := by
  have hm := mantissa_le_of_canonical hc
  calc x ≤ (m + 1 / 2) * 2 ^ e := h.upper
    _ < 2 ^ 53 * 2 ^ e := mul_lt_mul_of_pos_right (by linarith) (two_zpow_pos e)
    _ = 2 ^ (e + 53) := by rw [two_zpow_add]; norm_num; ring

/-- Below, only what rounds to a power of two leaves its binade. -/
theorem RoundsTo.eq_of_lt_start (h : RoundsTo x m e) (hm : 2 ^ 52 ≤ m)
    (hlt : x < 2 ^ (e + 52)) : m = 2 ^ 52 := by
  by_contra hne
  have hm' : 2 ^ 52 + 1 ≤ m := by omega
  have hmq : (2 ^ 52 + 1 : ℚ) ≤ m := by exact_mod_cast hm'
  have hle : (2 : ℚ) ^ 52 * 2 ^ e ≤ x := h.mul_le (by linarith)
  have hpow : (2 : ℚ) ^ (e + 52) = 2 ^ 52 * 2 ^ e := by rw [two_zpow_add]; norm_num; ring
  linarith

/-- And it does not leave the binade below. -/
theorem RoundsTo.start_below_le (h : RoundsTo x (2 ^ 52) e) : (2 : ℚ) ^ (e - 1 + 52) ≤ x := by
  have hle : (2 : ℚ) ^ 51 * 2 ^ e ≤ x := h.mul_le (by norm_num)
  calc (2 : ℚ) ^ (e - 1 + 52) = 2 ^ 51 * 2 ^ e := by
        rw [show e - 1 + 52 = e + 51 by ring, two_zpow_add]; norm_num; ring
    _ ≤ x := hle

/-- What rounds to a number lies in its binade, below the format's least binade, or right below a
power of two. -/
theorem RoundsTo.binade (h : RoundsTo x m e) (hc : Canonical m e) {f : ℤ} (hf : InBinade x f) :
    max f (-1074) = e ∨
      (f + 1 = e ∧ -1074 < e ∧ m = 2 ^ 52 ∧ x < 2 ^ (e + 52)) := by
  have hbelow := h.lt_end hc
  obtain ⟨-, he, -, hnormal⟩ := hc
  by_cases hreach : (2 : ℚ) ^ (e + 52) ≤ x
  · left
    rw [hf.unique ⟨hreach, hbelow⟩]
    exact max_eq_left he
  rw [not_le] at hreach
  have hfe : f < e := by
    have hlt := lt_of_two_zpow_lt (lt_of_le_of_lt hf.1 hreach)
    omega
  -- A number of the least binade may be as small as it likes; every other one is normal.
  rcases hnormal with heq | hm
  · left
    rw [heq]
    exact max_eq_right (by omega)
  · rcases eq_or_ne e (-1074) with heq | hne
    · left
      rw [heq]
      exact max_eq_right (by omega)
    · right
      obtain rfl := h.eq_of_lt_start hm hreach
      have hend : x < 2 ^ (e - 1 + 53) := by rwa [show e - 1 + 53 = e + 52 by ring]
      have hfe' : f = e - 1 := hf.unique ⟨h.start_below_le, hend⟩
      exact ⟨by omega, by omega, rfl, hreach⟩

/-- The mantissa of a quotient in the binade of the number it rounds to. -/
theorem RoundsTo.mantissa {n d : ℕ} (h : RoundsTo x m e) (hd : 0 < d)
    (hx : (n / d : ℚ) = x / 2 ^ e) : roundHalfEven n d = m := by
  have hpow := two_zpow_pos e
  have hreach := reachBelow_le m e
  refine roundHalfEven_of_div hd ?_ ?_ fun hodd => ⟨?_, ?_⟩
  · rw [hx, le_div_iff₀ hpow]
    exact h.mul_le (by linarith)
  · rw [hx, div_le_iff₀ hpow]
    exact h.upper
  · rw [hx, lt_div_iff₀ hpow]
    refine lt_of_le_of_lt (mul_le_mul_of_nonneg_right ?_ hpow.le) (h.odd hodd).1
    linarith
  · rw [hx, div_lt_iff₀ hpow]
    exact (h.odd hodd).2

/-- Right below a power of two the mantissa rounds up to 53 bits and one. -/
theorem RoundsTo.mantissa_below {n d : ℕ} {f : ℤ} (h : RoundsTo x (2 ^ 52) (f + 1)) (hd : 0 < d)
    (hf : -1074 < f + 1) (hlt : x < 2 ^ (f + 1 + 52)) (hx : (n / d : ℚ) = x / 2 ^ f) :
    roundHalfEven n d = 2 ^ 53 := by
  have hpow := two_zpow_pos f
  have hhalf : (2 : ℚ) ^ (f + 1) = 2 * 2 ^ f := by
    rw [two_zpow_add]
    ring
  refine roundHalfEven_of_div hd ?_ ?_ fun hodd => absurd hodd (by decide)
  · rw [hx, le_div_iff₀ hpow]
    have hlow := h.lower
    rw [reachBelow, if_pos ⟨rfl, hf⟩, hhalf] at hlow
    push_cast at hlow ⊢
    linarith
  · rw [hx, div_le_iff₀ hpow]
    have hup : x < 2 ^ 53 * 2 ^ f := by
      calc x < 2 ^ (f + 1 + 52) := hlt
        _ = 2 ^ 53 * 2 ^ f := by rw [two_zpow_add, hhalf]; norm_num; ring
    push_cast
    linarith

end

/-- **Rounding a quotient.** A quotient that rounds to a positive finite number is rounded to it. -/
theorem ofRatio_of_roundsTo {num den m : ℕ} {e : ℤ} (negative : Bool) (hden : 0 < den) (hm : 0 < m)
    (hc : Canonical m e) (h : RoundsTo (num / den : ℚ) m e) :
    ofRatio negative num den = finite negative m e hc := by
  have hnum : num ≠ 0 := by
    rintro rfl
    have hpos := h.pos hm
    simp at hpos
  obtain ⟨f, hf, hexp⟩ := exponentOf_spec (Nat.pos_of_ne_zero hnum) hden
  rcases h.binade hc hf with hmax | ⟨rfl, he, rfl, hlt⟩
  · have hround := h.mantissa (scaled_snd_pos num hden e) (scaled_div num den e)
    have hlt : m < 2 ^ 53 := hc.1
    have hne : m ≠ 2 ^ 53 := hlt.ne
    rw [ofRatio, if_neg hnum, hexp, hmax]
    simp only [Nat.pow_eq, hround, if_neg hne]
    exact dif_pos hc
  · have hmax : max f (-1074) = f := max_eq_left (by omega)
    have hround :=
      h.mantissa_below (scaled_snd_pos num hden f) he hlt (scaled_div num den f)
    rw [ofRatio, if_neg hnum, hexp, hmax]
    simp only [Nat.pow_eq, hround, if_true]
    exact dif_pos hc

end SearchGateway.Double
