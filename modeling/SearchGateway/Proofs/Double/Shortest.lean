import SearchGateway.Double.Decimal
import SearchGateway.Proofs.Double.Rounding

/-!
# The shortest decimal reads back

`Double.shortest` looks for a decimal on ever finer grids of powers of ten.  A decimal that it takes
rounds to the number (`Double.nearestOnGrid_roundsTo`), and the seventeenth grid is fine enough to
have one (`Double.nearestOnGrid_isSome`): its steps are shorter than the stretch of magnitudes that
round to the number.  `Double.ofDecimal` rounds every such decimal back, whatever digits and
exponent stand for it (`Double.ofDecimal_of_roundsTo`).
-/

set_option autoImplicit false

namespace SearchGateway

/-! ## Decimals as rationals -/

namespace Decimal

/-- The rational that a decimal stands for. -/
def value (d : Decimal) : ℚ := d.digits * 10 ^ d.exponent

theorem ten_zpow_pos (e : ℤ) : (0 : ℚ) < 10 ^ e := zpow_pos (by norm_num) e

theorem ten_zpow_add (a b : ℤ) : (10 : ℚ) ^ (a + b) = 10 ^ a * 10 ^ b :=
  zpow_add₀ (by norm_num) a b

theorem lt_of_ten_zpow_lt {a b : ℤ} (h : (10 : ℚ) ^ a < 10 ^ b) : a < b :=
  (zpow_lt_zpow_iff_right₀ (by norm_num)).mp h

/-- Positive and negative powers as one. -/
theorem pow_toNat_div {b : ℚ} (hb : b ≠ 0) (p : ℤ) : b ^ p.toNat / b ^ (-p).toNat = b ^ p := by
  rw [← zpow_natCast, ← zpow_natCast, ← zpow_sub₀ hb]
  congr 1
  omega

theorem digitsOf_ne_nil (n : ℕ) : digitsOf n ≠ [] := Nat.toDigits_ne_nil

theorem lt_pow_length (n : ℕ) : n < 10 ^ (digitsOf n).length := by
  have hpos : 0 < (digitsOf n).length := List.length_pos_iff.mpr (digitsOf_ne_nil n)
  exact (Nat.length_toDigits_le_iff (by norm_num) hpos).mp le_rfl

theorem pow_length_le {n : ℕ} (hn : 0 < n) : 10 ^ ((digitsOf n).length - 1) ≤ n := by
  by_contra hlt
  rw [not_le] at hlt
  rcases Nat.eq_zero_or_pos ((digitsOf n).length - 1) with hzero | hpos
  · rw [hzero] at hlt
    omega
  · have := (Nat.length_toDigits_le_iff (b := 10) (by norm_num) hpos).mpr hlt
    have : (digitsOf n).length ≤ (digitsOf n).length - 1 := this
    omega

/-- The first digit of a decimal stands at the power of ten that `leading` gives. -/
theorem leading_spec {d : Decimal} (hd : 0 < d.digits) :
    (10 : ℚ) ^ d.leading ≤ d.value ∧ d.value < 10 ^ (d.leading + 1) := by
  have hlen : 0 < (digitsOf d.digits).length := List.length_pos_iff.mpr (digitsOf_ne_nil _)
  have hpow := ten_zpow_pos d.exponent
  constructor
  · calc (10 : ℚ) ^ d.leading
        = ((10 ^ ((digitsOf d.digits).length - 1) : ℕ) : ℚ) * 10 ^ d.exponent := by
          push_cast
          rw [← zpow_natCast, ← ten_zpow_add]
          congr 1
          unfold leading
          omega
      _ ≤ d.value := by
          refine mul_le_mul_of_nonneg_right ?_ hpow.le
          exact_mod_cast pow_length_le hd
  · calc d.value < ((10 ^ (digitsOf d.digits).length : ℕ) : ℚ) * 10 ^ d.exponent := by
          refine mul_lt_mul_of_pos_right ?_ hpow
          exact_mod_cast lt_pow_length d.digits
      _ = 10 ^ (d.leading + 1) := by
          push_cast
          rw [← zpow_natCast, ← ten_zpow_add]
          congr 1
          unfold leading
          omega

/-- Zeros at the end of the digits say nothing that the exponent cannot say. -/
theorem stripZeros_value (fuel : ℕ) (d : Decimal) : (stripZeros fuel d).value = d.value := by
  induction fuel generalizing d with
  | zero => rfl
  | succ fuel ih =>
    unfold stripZeros
    split
    case isTrue h =>
      have hdigits : d.digits = 10 * (d.digits / 10) := by omega
      have hcast : (d.digits : ℚ) = 10 * ((d.digits / 10 : ℕ) : ℚ) := by exact_mod_cast hdigits
      rw [ih, value, value, hcast, ten_zpow_add]
      ring
    case isFalse h => rfl

theorem digits_pos_of_value {d : Decimal} (h : 0 < d.value) : 0 < d.digits := by
  by_contra hzero
  rw [value, Nat.eq_zero_of_not_pos hzero] at h
  simp at h

end Decimal

namespace Double

open Decimal (ten_zpow_pos ten_zpow_add pow_toNat_div lt_of_ten_zpow_lt)

/-! ## One grid -/

/-- A grid of decimals in quarters of the mantissa's unit: the numerator of its step. -/
def stepNum (exponent power : ℤ) : ℕ := 10 ^ power.toNat * 2 ^ (2 - exponent).toNat

/-- The denominator of a grid's step. -/
def stepDen (exponent power : ℤ) : ℕ := 10 ^ (-power).toNat * 2 ^ (exponent - 2).toNat

/-- How many quarters below a number the magnitudes that round to it begin. -/
def quartersBelow (mantissa : ℕ) (exponent : ℤ) : ℕ :=
  if mantissa = 2 ^ 52 ∧ -1074 < exponent then 1 else 2

/-- Whether a decimal on a grid reads back as the number. -/
def readsBack (mantissa : ℕ) (exponent power : ℤ) (c : ℕ) : Bool :=
  let low := (4 * mantissa - quartersBelow mantissa exponent) * stepDen exponent power
  let high := (4 * mantissa + 2) * stepDen exponent power
  if mantissa % 2 = 0 then low ≤ c * stepNum exponent power && c * stepNum exponent power ≤ high
  else low < c * stepNum exponent power && c * stepNum exponent power < high

/-- The search on one grid in the terms above. -/
theorem nearestOnGrid_eq (m : ℕ) (e p : ℤ) :
    nearestOnGrid m e p =
      let value := 4 * m * stepDen e p
      let below := value / stepNum e p
      match readsBack m e p below, readsBack m e p (below + 1) with
      | true, true =>
        if value - below * stepNum e p < (below + 1) * stepNum e p - value ∨
            (value - below * stepNum e p = (below + 1) * stepNum e p - value ∧ below % 2 = 0)
        then some ⟨below, p⟩ else some ⟨below + 1, p⟩
      | true, false => some ⟨below, p⟩
      | false, true => some ⟨below + 1, p⟩
      | false, false => none := rfl

theorem stepNum_pos (e p : ℤ) : 0 < stepNum e p := by unfold stepNum; positivity

theorem stepDen_pos (e p : ℤ) : 0 < stepDen e p := by unfold stepDen; positivity

/-- What the step of a grid is in rationals. -/
theorem step_eq (e p : ℤ) : (stepNum e p : ℚ) / stepDen e p * 2 ^ (e - 2) = 10 ^ p := by
  have hten := pow_toNat_div (b := 10) (by norm_num) p
  have htwo := pow_toNat_div (b := 2) (by norm_num) (2 - e)
  unfold stepNum stepDen
  push_cast
  rw [mul_div_mul_comm, hten, show e - 2 = -(2 - e) by ring, htwo, mul_assoc, ← two_zpow_add,
    add_neg_cancel, zpow_zero, mul_one]

theorem two_zpow_eq_quarters (e : ℤ) : (2 : ℚ) ^ e = 4 * 2 ^ (e - 2) := by
  rw [show (4 : ℚ) = 2 ^ (2 : ℤ) by norm_num, ← two_zpow_add]
  congr 1
  ring

theorem quartersBelow_div (m : ℕ) (e : ℤ) : (quartersBelow m e : ℚ) / 4 = reachBelow m e := by
  unfold quartersBelow reachBelow
  split <;> norm_num

theorem quartersBelow_le (m : ℕ) (e : ℤ) : quartersBelow m e ≤ 2 := by
  unfold quartersBelow
  split <;> omega

/-- A decimal that `readsBack` accepts rounds to the number. -/
theorem roundsTo_of_readsBack {m : ℕ} {e p : ℤ} {c : ℕ} (hm : 0 < m)
    (h : readsBack m e p c = true) : RoundsTo (c * 10 ^ p) m e := by
  have hden : (0 : ℚ) < stepDen e p := by exact_mod_cast stepDen_pos e p
  have hpow := two_zpow_pos (e - 2)
  have hquarter := two_zpow_eq_quarters e
  -- Both ends of the stretch in quarters, over the same denominator as the step.
  have hvalue : (c * 10 ^ p : ℚ) = (c * stepNum e p : ℕ) / stepDen e p * 2 ^ (e - 2) := by
    rw [← step_eq e p]
    push_cast
    ring
  have hsub : ((4 * m - quartersBelow m e : ℕ) : ℚ) = 4 * m - quartersBelow m e := by
    have := quartersBelow_le m e
    rw [Nat.cast_sub (by omega)]
    push_cast
    ring
  have hlow : (m - reachBelow m e) * 2 ^ e =
      ((4 * m - quartersBelow m e) * stepDen e p : ℕ) / stepDen e p * 2 ^ (e - 2) := by
    rw [Nat.cast_mul, hsub, mul_div_cancel_right₀ _ hden.ne', ← quartersBelow_div, hquarter]
    ring
  have hhigh : (m + 1 / 2) * 2 ^ e =
      ((4 * m + 2) * stepDen e p : ℕ) / stepDen e p * (2 : ℚ) ^ (e - 2) := by
    rw [Nat.cast_mul, mul_div_cancel_right₀ _ hden.ne', hquarter]
    push_cast
    ring
  have hmono {a b : ℕ} (hab : a ≤ b) :
      (a : ℚ) / stepDen e p * 2 ^ (e - 2) ≤ b / stepDen e p * 2 ^ (e - 2) := by
    have : (a : ℚ) ≤ b := by exact_mod_cast hab
    gcongr
  have hstrict {a b : ℕ} (hab : a < b) :
      (a : ℚ) / stepDen e p * 2 ^ (e - 2) < b / stepDen e p * 2 ^ (e - 2) := by
    have : (a : ℚ) < b := by exact_mod_cast hab
    gcongr
  unfold readsBack at h
  rw [hvalue]
  constructor
  · rw [hlow]
    refine hmono ?_
    split at h <;> simp only [Bool.and_eq_true, decide_eq_true_eq] at h
    · exact h.1
    · exact h.1.le
  · rw [hhigh]
    refine hmono ?_
    split at h <;> simp only [Bool.and_eq_true, decide_eq_true_eq] at h
    · exact h.2
    · exact h.2.le
  · intro hodd
    rw [if_neg (by omega)] at h
    simp only [Bool.and_eq_true, decide_eq_true_eq] at h
    rw [hlow, hhigh]
    exact ⟨hstrict h.1, hstrict h.2⟩

/-- A decimal that is taken from a grid lies on it and rounds to the number. -/
theorem nearestOnGrid_roundsTo {m : ℕ} {e p : ℤ} {d : Decimal} (hm : 0 < m)
    (h : nearestOnGrid m e p = some d) : RoundsTo d.value m e := by
  rw [nearestOnGrid_eq] at h
  simp only at h
  split at h
  case h_1 hbelow habove =>
    split at h <;> cases h
    · exact roundsTo_of_readsBack hm hbelow
    · exact roundsTo_of_readsBack hm habove
  case h_2 hbelow _ =>
    cases h
    exact roundsTo_of_readsBack hm hbelow
  case h_3 _ habove =>
    cases h
    exact roundsTo_of_readsBack hm habove
  case h_4 => cases h

/-- The search on a grid finds a decimal if one of the two neighbours of the number reads back. -/
theorem nearestOnGrid_isSome_of_readsBack {m : ℕ} {e p : ℤ}
    (h : readsBack m e p (4 * m * stepDen e p / stepNum e p) = true ∨
      readsBack m e p (4 * m * stepDen e p / stepNum e p + 1) = true) :
    ∃ d, nearestOnGrid m e p = some d := by
  rw [nearestOnGrid_eq]
  simp only
  split
  case h_1 =>
    split
    · exact ⟨_, rfl⟩
    · exact ⟨_, rfl⟩
  case h_2 => exact ⟨_, rfl⟩
  case h_3 => exact ⟨_, rfl⟩
  case h_4 hbelow habove =>
    rw [hbelow, habove] at h
    simp at h

/-- A step that is short against the number is shorter than twice what the stretch reaches below
it. -/
theorem stepNum_lt_of_short {m : ℕ} {e p : ℤ} (hlt : m < 2 ^ 53)
    (hstep : stepNum e p * 10 ^ 16 ≤ 4 * m * stepDen e p) :
    stepNum e p < 2 * (quartersBelow m e * stepDen e p) := by
  by_contra hge
  rw [not_lt] at hge
  have hle : 2 * quartersBelow m e * 10 ^ 16 ≤ 4 * m := by
    refine Nat.le_of_mul_le_mul_right ?_ (stepDen_pos e p)
    calc 2 * quartersBelow m e * 10 ^ 16 * stepDen e p
        = 2 * (quartersBelow m e * stepDen e p) * 10 ^ 16 := by ring
      _ ≤ stepNum e p * 10 ^ 16 := Nat.mul_le_mul_right _ hge
      _ ≤ 4 * m * stepDen e p := hstep
  unfold quartersBelow at hle
  split at hle <;> omega

/-- A grid whose steps are short against the number has a decimal that reads back. -/
theorem nearestOnGrid_isSome {m : ℕ} {e p : ℤ} (hm : 0 < m) (hlt : m < 2 ^ 53)
    (hstep : stepNum e p * 10 ^ 16 ≤ 4 * m * stepDen e p) : ∃ d, nearestOnGrid m e p = some d := by
  apply nearestOnGrid_isSome_of_readsBack
  have hreach := stepNum_lt_of_short hlt hstep
  have hnum := stepNum_pos e p
  unfold readsBack
  generalize stepNum e p = num at *
  generalize stepDen e p = den at *
  have hq := quartersBelow_le m e
  have hlow : (4 * m - quartersBelow m e) * den + quartersBelow m e * den = 4 * m * den := by
    rw [← Nat.add_mul, Nat.sub_add_cancel (by omega)]
  have hhigh : (4 * m + 2) * den = 4 * m * den + 2 * den := by ring
  have htwo : quartersBelow m e * den ≤ 2 * den := Nat.mul_le_mul_right _ hq
  have hsplit : num * (4 * m * den / num) + 4 * m * den % num = 4 * m * den :=
    Nat.div_add_mod _ _
  have hrest : 4 * m * den % num < num := Nat.mod_lt _ hnum
  have hnext : (4 * m * den / num + 1) * num = num * (4 * m * den / num) + num := by ring
  rw [hhigh]
  generalize (4 * m - quartersBelow m e) * den = low at *
  generalize quartersBelow m e * den = reach at *
  generalize 4 * m * den = value at *
  simp only [hnext, Nat.mul_comm (value / num) num]
  generalize num * (value / num) = below at *
  -- The nearer of the two neighbours lies within the stretch.
  rcases Nat.lt_or_ge num (2 * (value % num)) with hfar | hnear
  · right
    split <;> simp only [Bool.and_eq_true, decide_eq_true_eq] <;> omega
  · left
    split <;> simp only [Bool.and_eq_true, decide_eq_true_eq] <;> omega

/-! ## The search over all grids -/

/-- The first digit of a number stands at the power of ten that `leadingPower` gives, or below. -/
theorem ten_zpow_leadingPower_le {m : ℕ} (hm : 0 < m) (e : ℤ) :
    (10 : ℚ) ^ leadingPower m e ≤ m * 2 ^ e := by
  have hpow := pow_toNat_div (b := (2 : ℚ)) (by norm_num) e
  have hden : 0 < 2 ^ (-e).toNat := by positivity
  have hdenq : (0 : ℚ) < ((2 ^ (-e).toNat : ℕ) : ℚ) := by exact_mod_cast hden
  have hnum : 0 < m * 2 ^ e.toNat := by positivity
  have hratio : (m * 2 ^ e : ℚ) = (m * 2 ^ e.toNat : ℕ) / (2 ^ (-e).toNat : ℕ) := by
    rw [← hpow]
    push_cast
    rw [mul_div_assoc]
  rw [hratio, le_div_iff₀ hdenq]
  unfold leadingPower
  simp only [Nat.pow_eq]
  generalize m * 2 ^ e.toNat = num at *
  generalize 2 ^ (-e).toNat = den at *
  split
  case isTrue hle =>
    have hquot : 0 < num / den := Nat.div_pos hle hden
    have hlen := Decimal.pow_length_le hquot
    have hdigits : 0 < (Decimal.digitsOf (num / den)).length :=
      List.length_pos_iff.mpr (Decimal.digitsOf_ne_nil _)
    have hmul : 10 ^ ((Decimal.digitsOf (num / den)).length - 1) * den ≤ num :=
      le_trans (Nat.mul_le_mul_right den hlen) (Nat.div_mul_le_self num den)
    rw [show ((Decimal.digitsOf (num / den)).length : ℤ) - 1 =
      (((Decimal.digitsOf (num / den)).length - 1 : ℕ) : ℤ) by omega, zpow_natCast]
    exact_mod_cast hmul
  case isFalse hlt =>
    have hlen := Decimal.lt_pow_length (den / num)
    have hmul : den ≤ num * 10 ^ (Decimal.digitsOf (den / num)).length :=
      ((Nat.div_lt_iff_lt_mul hnum).mp hlen).le.trans_eq (Nat.mul_comm _ _)
    have hten := ten_zpow_pos ((Decimal.digitsOf (den / num)).length : ℤ)
    rw [zpow_neg, inv_mul_le_iff₀ hten, zpow_natCast, mul_comm]
    exact_mod_cast hmul

/-- The seventeenth grid is fine enough for every number. -/
theorem step_le_of_leadingPower {m : ℕ} (hm : 0 < m) (e : ℤ) :
    stepNum e (leadingPower m e - 16) * 10 ^ 16 ≤ 4 * m * stepDen e (leadingPower m e - 16) := by
  have hden : (0 : ℚ) < stepDen e (leadingPower m e - 16) := by exact_mod_cast stepDen_pos _ _
  have hpow := two_zpow_pos (e - 2)
  have hstep := step_eq e (leadingPower m e - 16)
  have hfirst := ten_zpow_leadingPower_le hm e
  have hsplit : (10 : ℚ) ^ leadingPower m e = 10 ^ (leadingPower m e - 16) * 10 ^ 16 := by
    rw [← zpow_natCast, ← ten_zpow_add]
    congr 1
    push_cast
    ring
  rw [hsplit, ← hstep, two_zpow_eq_quarters e] at hfirst
  have hle : (stepNum e (leadingPower m e - 16) : ℚ) / stepDen e (leadingPower m e - 16) * 10 ^ 16 ≤
      4 * m := by
    refine le_of_mul_le_mul_right ?_ hpow
    calc _ = (stepNum e (leadingPower m e - 16) : ℚ) / stepDen e (leadingPower m e - 16) *
          2 ^ (e - 2) * 10 ^ 16 := by ring
      _ ≤ m * (4 * 2 ^ (e - 2)) := hfirst
      _ = 4 * m * 2 ^ (e - 2) := by ring
  rw [div_mul_eq_mul_div, div_le_iff₀ hden] at hle
  exact_mod_cast hle

/-- **The shortest decimal rounds to its number.** The search never ends without a decimal. -/
theorem shortest_roundsTo {m : ℕ} {e : ℤ} (hm : 0 < m) (hc : Canonical m e) :
    RoundsTo (shortest m e).value m e := by
  unfold shortest
  obtain ⟨last, hlast⟩ := nearestOnGrid_isSome hm hc.1 (step_le_of_leadingPower hm e)
  simp only
  split
  case h_1 d hfound =>
    obtain ⟨n, -, hn⟩ := List.exists_of_findSome?_eq_some hfound
    rw [Decimal.stripZeros_value]
    exact nearestOnGrid_roundsTo hm hn
  case h_2 hnone =>
    rw [List.findSome?_eq_none_iff] at hnone
    have := hnone 16 (by decide)
    simp only [Nat.cast_ofNat] at this
    rw [hlast] at this
    cases this

/-! ## Reading a decimal -/

/-- A decimal that rounds to a finite number is within the powers of ten that are computed. -/
theorem leading_of_roundsTo {d : Decimal} {m : ℕ} {e : ℤ} (hm : 0 < m) (hc : Canonical m e)
    (h : RoundsTo d.value m e) : d.leading ≤ 310 ∧ -330 ≤ d.leading := by
  obtain ⟨hlow, hhigh⟩ := Decimal.leading_spec (Decimal.digits_pos_of_value (h.pos hm))
  have hm' := mantissa_le_of_canonical hc
  have hm₁ : (1 : ℚ) ≤ m := by exact_mod_cast hm
  constructor
  · have hx : d.value < 10 ^ (311 : ℤ) := by
      calc d.value ≤ (m + 1 / 2) * 2 ^ e := h.upper
        _ ≤ 2 ^ 53 * 2 ^ (971 : ℤ) := by
            refine mul_le_mul (by linarith) (two_zpow_le hc.2.2.1) (two_zpow_pos e).le (by norm_num)
        _ < 10 ^ (311 : ℤ) := by
            have hbig : 2 ^ 53 * 2 ^ 971 < 10 ^ 311 := by decide +kernel
            rw [zpow_ofNat, zpow_ofNat]
            exact_mod_cast hbig
    have := lt_of_ten_zpow_lt (lt_of_le_of_lt hlow hx)
    omega
  · have hx : (10 : ℚ) ^ (-330 : ℤ) < d.value := by
      calc (10 : ℚ) ^ (-330 : ℤ) < 1 / 2 * 2 ^ (-1074 : ℤ) := by
            have hbig : 2 * 2 ^ 1074 < 10 ^ 330 := by decide +kernel
            rw [zpow_neg, zpow_neg, zpow_ofNat, zpow_ofNat, one_div, ← mul_inv]
            refine inv_strictAnti₀ (by positivity) ?_
            exact_mod_cast hbig
        _ ≤ (m - reachBelow m e) * 2 ^ e := by
            have hreach := reachBelow_le m e
            exact mul_le_mul (by linarith) (two_zpow_le hc.2.1) (two_zpow_pos _).le (by linarith)
        _ ≤ d.value := h.lower
    have := lt_of_ten_zpow_lt (lt_trans hx hhigh)
    omega

/-- **Reading a decimal.** Every decimal that rounds to a positive finite number is read as it. -/
theorem ofDecimal_of_roundsTo {d : Decimal} {m : ℕ} {e : ℤ} (negative : Bool) (hm : 0 < m)
    (hc : Canonical m e) (h : RoundsTo d.value m e) :
    ofDecimal negative d = finite negative m e hc := by
  have hdigits := Decimal.digits_pos_of_value (h.pos hm)
  obtain ⟨hhigh, hlow⟩ := leading_of_roundsTo hm hc h
  unfold ofDecimal
  simp only [Nat.pow_eq]
  rw [if_neg hdigits.ne', if_neg (by omega), if_neg (by omega)]
  have hvalue (num den : ℕ) (hq : (num / den : ℚ) = d.value) :
      RoundsTo (num / den : ℚ) m e := by rwa [hq]
  split
  case isTrue he =>
    refine ofRatio_of_roundsTo negative one_pos hm hc (hvalue _ _ ?_)
    push_cast
    rw [div_one, Decimal.value, ← zpow_natCast, Int.toNat_of_nonneg he]
  case isFalse he =>
    refine ofRatio_of_roundsTo negative (by positivity) hm hc (hvalue _ _ ?_)
    push_cast
    rw [Decimal.value, ← zpow_natCast, Int.toNat_of_nonneg (by omega), zpow_neg, div_inv_eq_mul]

end Double

end SearchGateway
