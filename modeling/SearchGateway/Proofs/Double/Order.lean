import SearchGateway.Proofs.Double.Integers

/-!
# Rounding and the order of numbers

A quotient that is not above a number of the format is not rounded above it, and so does not
overflow (`Double.ofRatio_le`).  Neither is a product then (`Double.mul_le`).  An integer of 53 bits
is a number of the format, and so is half of it (`Double.isMagnitude_natCast`).

So a quotient below one is not rounded above one, and unless it is rounded to zero it is taken up to
one as it should be.  With this a quotient is taken up exactly whether or not the divisor is the
greater one (`Double.ceil_quotient_eq`).
-/

set_option autoImplicit false

namespace SearchGateway.Double

/-! ## The rational that a number is -/

/-- The rational that a finite number is. -/
def value? : Double → Option ℚ
  | finite negative m e _ => some (signed negative m * 2 ^ e)
  | _ => none

/-- The rational is the magnitude of a number of the format. -/
def IsMagnitude (x : ℚ) : Prop := ∃ (m : ℕ) (e : ℤ), Canonical m e ∧ x = m * 2 ^ e

/-- The number lies in `[0, 1)`. -/
def IsFraction (d : Double) : Prop := ∃ q, d.value? = some q ∧ 0 ≤ q ∧ q < 1

theorem floor_eq_ok {d : Double} {n : ℤ} :
    d.floor = .ok n ↔ ∃ q, d.value? = some q ∧ n = ⌊q⌋ := by
  cases d with
  | nan | infinite => simp [floor, value?]
  | finite negative m e hc => simp [floor_finite, value?, eq_comm]

/-- A number that is not below zero is its own magnitude. -/
theorem exists_of_value? {d : Double} {q : ℚ} (h : d.value? = some q) (hq : 0 ≤ q) :
    ∃ negative m e hc, d = finite negative m e hc ∧ q = m * 2 ^ e := by
  cases d with
  | nan | infinite => cases h
  | finite negative m e hc =>
    refine ⟨negative, m, e, hc, rfl, ?_⟩
    obtain rfl := Option.some.inj h
    cases negative with
    | false => rfl
    | true =>
      -- Such a number with a sign is a zero.
      have hneg : -(m * 2 ^ e : ℚ) = signed true m * 2 ^ e := by
        rw [← neg_mul]
        simp [signed]
      have hpos : (0 : ℚ) ≤ m * 2 ^ e := mul_nonneg (Nat.cast_nonneg m) (two_zpow_pos e).le
      linarith

/-- The magnitude of a number is what is left of it without the sign. -/
theorem abs_signed_mul (negative : Bool) (m : ℕ) (e : ℤ) :
    |(signed negative m : ℚ) * 2 ^ e| = m * 2 ^ e := by
  have habs : |(signed negative m : ℚ)| = m := by
    cases negative <;> simp [signed]
  rw [abs_mul, habs, abs_of_pos (two_zpow_pos e)]

/-- A number is not above its magnitude. -/
theorem signed_mul_le (negative : Bool) (m : ℕ) (e : ℤ) :
    (signed negative m : ℚ) * 2 ^ e ≤ m * 2 ^ e :=
  (le_abs_self _).trans_eq (abs_signed_mul negative m e)

theorem isMagnitude_abs {d : Double} {q : ℚ} (h : d.value? = some q) : IsMagnitude |q| := by
  cases d with
  | nan | infinite => cases h
  | finite negative m e hc =>
    obtain rfl := Option.some.inj h
    exact ⟨m, e, hc, abs_signed_mul negative m e⟩

theorem signed_zero (negative : Bool) : signed negative 0 = 0 := by
  cases negative <;> rfl

/-- **The test for a proper fraction says what it is named for.** -/
theorem isProperFraction_iff (d : Double) : d.isProperFraction = true ↔ d.IsFraction := by
  cases d with
  | nan | infinite => simp [isProperFraction, IsFraction, value?]
  | finite negative m e hc =>
    have hpos := two_zpow_pos e
    -- Below the point a magnitude is less than one if its mantissa is below the unit of the point.
    have hunit (he : e < 0) : m < 2 ^ (-e).toNat ↔ (m : ℚ) * 2 ^ e < 1 := by
      rw [two_zpow_of_neg he, mul_inv_lt_iff₀ (by positivity), one_mul, Nat.cast_lt]
    have hbelow (hm : 0 < m) (h : (m : ℚ) * 2 ^ e < 1) : e < 0 := by
      by_contra he
      rw [two_zpow_of_nonneg (not_lt.mp he)] at h
      have hlt : m * 2 ^ e.toNat < 1 := by exact_mod_cast h
      have hone : 0 < m * 2 ^ e.toNat := by positivity
      omega
    simp only [isProperFraction, IsFraction, value?, Bool.and_eq_true, Bool.or_eq_true, beq_iff_eq,
      Bool.not_eq_true', decide_eq_true_eq, Option.some.injEq, exists_eq_left', Nat.pow_eq]
    rcases m.eq_zero_or_pos with rfl | hm
    · have he : e = -1074 := hc.2.2.2.resolve_right (by decide)
      rw [signed_zero, Int.cast_zero, zero_mul]
      exact iff_of_true ⟨⟨.inl rfl, by omega⟩, Nat.two_pow_pos _⟩ ⟨le_rfl, one_pos⟩
    · cases negative with
      | false =>
        constructor
        · rintro ⟨⟨-, he⟩, hlt⟩
          exact ⟨mul_nonneg (Nat.cast_nonneg m) hpos.le, (hunit he).mp hlt⟩
        · rintro ⟨-, hlt⟩
          have he := hbelow hm hlt
          exact ⟨⟨.inr rfl, he⟩, (hunit he).mpr hlt⟩
      | true =>
        -- A number below zero is no fraction.
        have hneg : ((signed true m : ℤ) : ℚ) * 2 ^ e < 0 := by
          refine mul_neg_of_neg_of_pos ?_ hpos
          simp only [signed, if_true, Int.cast_neg, Int.cast_natCast, Left.neg_neg_iff]
          exact_mod_cast hm
        refine iff_of_false ?_ fun h => absurd h.1 (not_le.mpr hneg)
        rintro ⟨⟨hzero | hfalse, -⟩, -⟩
        · omega
        · cases hfalse

/-! ## Rounding below a number -/

/-- A quotient is rounded to a multiple of its unit, which is that of its binade or the least one of
the format. -/
theorem exists_unit {num den : ℕ} (negative : Bool) (hnum : 0 < num) (hden : 0 < den) :
    ∃ (m : ℕ) (e : ℤ), m = roundHalfEven (scaled num den e).1 (scaled num den e).2 ∧
      m ≤ 2 ^ 53 ∧ -1074 ≤ e ∧
      (e = -1074 ∨ 2 ^ 52 ≤ m ∧ (2 : ℚ) ^ (e + 52) ≤ num / den) ∧
      ofRatio negative num den =
        if m = 2 ^ 53 then ofParts negative (2 ^ 52) (e + 1) else ofParts negative m e := by
  obtain ⟨b, hbinade, hexp⟩ := exponentOf_spec hnum hden
  refine ⟨_, max b (-1074), rfl, ?_, le_max_right _ _, ?_, ofRatio_eq negative hnum.ne' hexp⟩
  · refine roundHalfEven_le (scaled_snd_pos num hden _) ?_
    rw [scaled_div, div_le_iff₀ (two_zpow_pos _)]
    calc (num / den : ℚ) ≤ 2 ^ (b + 53) := hbinade.2.le
      _ ≤ 2 ^ (53 + max b (-1074)) := two_zpow_le (by omega)
      _ = (2 ^ 53 : ℕ) * 2 ^ max b (-1074) := by rw [two_zpow_add]; norm_num
  · rcases le_total b (-1074) with hlow | hhigh
    · exact .inl (max_eq_right hlow)
    · rw [max_eq_left hhigh]
      exact .inr ⟨(roundHalfEven_binade hden hbinade).1, hbinade.1⟩

theorem Canonical.value_lt {k : ℕ} {f : ℤ} (hc : Canonical k f) :
    (k : ℚ) * 2 ^ f < 2 ^ (53 + f) := by
  rw [two_zpow_add]
  exact mul_lt_mul_of_pos_right (by exact_mod_cast hc.1) (two_zpow_pos f)

/-- Every number of the format is below the first power of two that is none. -/
theorem IsMagnitude.lt_top {x : ℚ} (hx : IsMagnitude x) : x < 2 ^ (1024 : ℤ) := by
  obtain ⟨k, f, hc, rfl⟩ := hx
  have hgreatest : f ≤ 971 := hc.2.2.1
  exact (Canonical.value_lt hc).trans_le (two_zpow_le (by omega))

/-- What is not above a number of the format does not overflow, also if its mantissa is one bit too
long. -/
theorem exists_carried {m : ℕ} {e : ℤ} {x : ℚ} (negative : Bool) (hm : m ≤ 2 ^ 53)
    (hlow : -1074 ≤ e) (hnormal : e = -1074 ∨ 2 ^ 52 ≤ m) (hx : IsMagnitude x)
    (h : (m : ℚ) * 2 ^ e ≤ x) : ∃ (n : ℕ) (f : ℤ) (hc : Canonical n f),
      (if m = 2 ^ 53 then ofParts negative (2 ^ 52) (e + 1) else ofParts negative m e) =
        finite negative n f hc ∧ (n : ℚ) * 2 ^ f = m * 2 ^ e := by
  have htop {b : ℕ} (hb : 2 ^ b ≤ m) : b + e < 1024 := by
    refine lt_of_two_zpow_lt (lt_of_le_of_lt ?_ (lt_of_le_of_lt h hx.lt_top))
    rw [two_zpow_add, zpow_natCast]
    exact mul_le_mul_of_nonneg_right (by exact_mod_cast hb) (two_zpow_pos e).le
  by_cases hcarry : m = 2 ^ 53
  · have hgreatest := htop hcarry.ge
    have hc : Canonical (2 ^ 52) (e + 1) := ⟨by decide, by omega, by omega, .inr le_rfl⟩
    refine ⟨2 ^ 52, e + 1, hc, ?_, ?_⟩
    · rw [if_pos hcarry, ofParts, dif_pos hc]
    · rw [hcarry, two_zpow_add]
      push_cast
      ring
  · have hgreatest : e ≤ 971 := by
      rcases hnormal with heq | hstart
      · omega
      · have hlt := htop hstart
        omega
    have hc : Canonical m e := ⟨lt_of_le_of_ne hm hcarry, hlow, hgreatest, hnormal⟩
    refine ⟨m, e, hc, ?_, rfl⟩
    rw [if_neg hcarry, ofParts, dif_pos hc]

/-- **A quotient that is not above a number of the format is not rounded above it.** -/
theorem ofRatio_le {num den : ℕ} {x : ℚ} (negative : Bool) (hden : 0 < den) (hx : IsMagnitude x)
    (h : (num / den : ℚ) ≤ x) : ∃ (m : ℕ) (e : ℤ) (hm : Canonical m e),
      ofRatio negative num den = finite negative m e hm ∧ (m : ℚ) * 2 ^ e ≤ x := by
  have ⟨k, f, hcanonical, hxeq⟩ := hx
  rcases num.eq_zero_or_pos with rfl | hnum
  · refine ⟨0, -1074, by decide, by rw [ofRatio, if_pos rfl, zero], ?_⟩
    rw [Nat.cast_zero, zero_mul, hxeq]
    exact mul_nonneg (Nat.cast_nonneg k) (two_zpow_pos f).le
  obtain ⟨m, e, hm, hmbits, hlow, hnormal, hround⟩ := exists_unit negative hnum hden
  -- The unit of the quotient is not above that of the number, so the number is a multiple of it.
  have hunit : e ≤ f := by
    rcases hnormal with heq | ⟨-, hstart⟩
    · exact heq.trans_le hcanonical.2.1
    · have hlt := lt_of_two_zpow_lt
        (lt_of_le_of_lt (hstart.trans h) (hxeq.trans_lt (Canonical.value_lt hcanonical)))
      omega
  obtain ⟨i, rfl⟩ : ∃ i : ℕ, f = e + i := ⟨(f - e).toNat, by omega⟩
  have hmultiple : x = (k * 2 ^ i : ℕ) * 2 ^ e := by
    rw [hxeq, two_zpow_add, zpow_natCast]
    push_cast
    ring
  have hle : m ≤ k * 2 ^ i := by
    rw [hm]
    refine roundHalfEven_le (scaled_snd_pos num hden e) ?_
    rwa [scaled_div, div_le_iff₀ (two_zpow_pos e), ← hmultiple]
  have hvalue : (m : ℚ) * 2 ^ e ≤ x := by
    rw [hmultiple]
    exact mul_le_mul_of_nonneg_right (by exact_mod_cast hle) (two_zpow_pos e).le
  obtain ⟨n, g, hc, hcarried, hsame⟩ :=
    exists_carried negative hmbits hlow (hnormal.imp_right And.left) hx hvalue
  exact ⟨n, g, hc, hround.trans hcarried, hsame.trans_le hvalue⟩

/-! ## Integers and products -/

/-- An integer of 53 bits fills the mantissa once it is scaled. -/
theorem exists_scaled {n : ℕ} (hpos : 0 < n) (h : n < 2 ^ 53) :
    ∃ i ≤ 52, 2 ^ 52 ≤ n * 2 ^ i ∧ n * 2 ^ i < 2 ^ 53 := by
  have hlog : n.log2 < 53 := (Nat.log2_lt hpos.ne').mpr h
  obtain ⟨i, hi⟩ : ∃ i, i + n.log2 = 52 := ⟨52 - n.log2, by omega⟩
  refine ⟨i, by omega, ?_, ?_⟩
  · calc 2 ^ 52 = 2 ^ n.log2 * 2 ^ i := by rw [← pow_add, ← hi, add_comm]
      _ ≤ n * 2 ^ i := Nat.mul_le_mul_right _ (Nat.log2_self_le hpos.ne')
  · calc n * 2 ^ i < 2 ^ (n.log2 + 1) * 2 ^ i :=
          Nat.mul_lt_mul_of_pos_right Nat.lt_log2_self (by positivity)
      _ = 2 ^ 53 := by rw [← pow_add]; congr 1; omega

/-- An integer up to `2 ^ 53` is a number of the format, and so is half of it. -/
theorem isMagnitude_natCast {n : ℕ} (h : n ≤ 2 ^ 53) : IsMagnitude n ∧ IsMagnitude (n / 2) := by
  rcases n.eq_zero_or_pos with rfl | hpos
  · have hzero : IsMagnitude 0 := ⟨0, -1074, by decide, by simp⟩
    simpa using hzero
  rcases lt_or_eq_of_le h with hlt | rfl
  · obtain ⟨i, hi, hlow, hhigh⟩ := exists_scaled hpos hlt
    have hvalue : (n : ℚ) = (n * 2 ^ i : ℕ) * 2 ^ (-i : ℤ) := by
      rw [zpow_neg, zpow_natCast]
      push_cast
      rw [mul_inv_cancel_right₀ (by positivity)]
    refine ⟨⟨n * 2 ^ i, -i, ⟨hhigh, by omega, by omega, .inr hlow⟩, hvalue⟩,
      ⟨n * 2 ^ i, -i - 1, ⟨hhigh, by omega, by omega, .inr hlow⟩, ?_⟩⟩
    rw [sub_eq_add_neg, two_zpow_add, ← mul_assoc, ← hvalue]
    norm_num
    ring
  · exact ⟨⟨2 ^ 52, 1, by decide, by norm_num⟩, ⟨2 ^ 52, 0, by decide, by norm_num⟩⟩

/-- An integer of the format is not rounded up. -/
theorem ofInt_le {n : ℕ} (h : n ≤ 2 ^ 53) :
    ∃ d q, ofInt n = .ok d ∧ d.value? = some q ∧ 0 ≤ q ∧ q ≤ n := by
  have hexact : (n / (1 : ℕ) : ℚ) ≤ n := by rw [Nat.cast_one, div_one]
  obtain ⟨m, e, hc, hround, hle⟩ := ofRatio_le false one_pos (isMagnitude_natCast h).1 hexact
  refine ⟨finite false m e hc, m * 2 ^ e, ?_, rfl, ?_, hle⟩
  · rw [ofInt, decide_eq_false (by omega), Int.natAbs_natCast, hround]
  · exact mul_nonneg (Nat.cast_nonneg m) (two_zpow_pos e).le

/-- A product is the rounded product of the magnitudes. -/
theorem mul_finite {s t : Bool} {m n : ℕ} {e f : ℤ} (hc : Canonical m e) (hc' : Canonical n f) :
    ∃ num den : ℕ, 0 < den ∧ (num / den : ℚ) = m * 2 ^ e * (n * 2 ^ f) ∧
      finite s m e hc * finite t n f hc' = ofRatio (s != t) num den := by
  have hmul : finite s m e hc * finite t n f hc' =
      if 0 ≤ e + f then ofRatio (s != t) (m * n * Nat.pow 2 (e + f).toNat) 1
      else ofRatio (s != t) (m * n) (Nat.pow 2 (-(e + f)).toNat) := rfl
  have hexact : (m * 2 ^ e * (n * 2 ^ f) : ℚ) = (m * n : ℕ) * 2 ^ (e + f) := by
    rw [two_zpow_add]
    push_cast
    ring
  rw [hmul, hexact]
  by_cases h : 0 ≤ e + f
  · refine ⟨_, 1, one_pos, ?_, if_pos h⟩
    rw [two_zpow_of_nonneg h, Nat.cast_one, div_one, ← Nat.cast_mul]
    rfl
  · refine ⟨_, _, Nat.two_pow_pos _, ?_, if_neg h⟩
    rw [two_zpow_of_neg (not_le.mp h)]
    rfl

/-- **A product that is not above a number of the format is not rounded above it.** -/
theorem mul_le {a b : Double} {p q x : ℚ} (ha : a.value? = some p) (hp : 0 ≤ p)
    (hb : b.value? = some q) (hq : 0 ≤ q) (hx : IsMagnitude x) (h : p * q ≤ x) :
    ∃ y, (a * b).value? = some y ∧ y ≤ x := by
  obtain ⟨s, m, e, hc, rfl, rfl⟩ := exists_of_value? ha hp
  obtain ⟨t, n, f, hc', rfl, rfl⟩ := exists_of_value? hb hq
  obtain ⟨num, den, hden, hexact, hmul⟩ := mul_finite (s := s) (t := t) hc hc'
  obtain ⟨k, g, hk, hround, hle⟩ := ofRatio_le (s != t) hden hx (hexact.trans_le h)
  rw [hmul, hround]
  exact ⟨_, rfl, (signed_mul_le _ k g).trans hle⟩

/-! ## Quotients taken up -/

theorem mantissa_ofParts {negative sign : Bool} {m k : ℕ} {e f : ℤ} {hc : Canonical m e}
    (h : ofParts sign k f = finite negative m e hc) : m = k := by
  unfold ofParts at h
  split at h
  case isTrue =>
    cases h
    rfl
  case isFalse => cases h

/-- A quotient of more than half the least number of the format is not rounded to zero. -/
theorem ofRatio_pos {negative sign : Bool} {num den m : ℕ} {e : ℤ} {hc : Canonical m e}
    (hnum : 0 < num) (hden : 0 < den) (h : (2 : ℚ) ^ (-1075 : ℤ) < num / den)
    (hround : ofRatio sign num den = finite negative m e hc) : 0 < m := by
  obtain ⟨k, f, hk, -, -, hnormal, hunit⟩ := exists_unit sign hnum hden
  have hpos : 0 < k := by
    rcases hnormal with rfl | ⟨hstart, -⟩
    · rw [hk]
      refine lt_roundHalfEven (scaled_snd_pos num hden _) ?_
      rw [scaled_div, lt_div_iff₀ (two_zpow_pos _)]
      calc (((0 : ℕ) + 1 / 2 : ℚ)) * 2 ^ (-1074 : ℤ) = 2 ^ (-1 + -1074 : ℤ) := by
            rw [two_zpow_add]
            norm_num
        _ < num / den := h
    · omega
  rw [hunit] at hround
  split at hround
  case isTrue =>
    rw [mantissa_ofParts hround]
    norm_num
  case isFalse => rwa [mantissa_ofParts hround]

/-- A quotient below one is taken up to one unless it is rounded to zero. -/
theorem ceil_quotient_of_lt {a b : ℕ} (ha : 0 < a) (hab : a < b)
    (hsmall : (2 : ℚ) ^ (-1075 : ℤ) < a / b) : ∃ d, quotient a b = .ok d ∧ d.ceil = .ok 1 := by
  have hb : 0 < b := by omega
  have hone : (a / b : ℚ) ≤ (1 : ℕ) := by
    rw [div_le_iff₀ (by exact_mod_cast hb)]
    exact_mod_cast (by omega : a ≤ 1 * b)
  obtain ⟨m, e, hc, hround, hle⟩ :=
    ofRatio_le false hb (isMagnitude_natCast (by norm_num : 1 ≤ 2 ^ 53)).1 hone
  have hm : 0 < m := ofRatio_pos ha hb hsmall hround
  have hpos : (0 : ℚ) < m * 2 ^ e := mul_pos (by exact_mod_cast hm) (two_zpow_pos e)
  refine ⟨finite false m e hc, quotient_natCast hb hround, ?_⟩
  rw [ceil_finite]
  congr 1
  rw [Int.ceil_eq_iff]
  simpa [signed] using ⟨hpos, hle⟩

theorem two_zpow_lt_div {a b : ℕ} {e : ℤ} (ha : 0 < a) (hb : 0 < b) (h : (b : ℚ) < 2 ^ e) :
    (2 : ℚ) ^ (-e) < a / b := by
  have hone : (1 : ℚ) ≤ a := by exact_mod_cast ha
  rw [lt_div_iff₀ (by exact_mod_cast hb)]
  calc (2 : ℚ) ^ (-e) * b < 2 ^ (-e) * 2 ^ e := mul_lt_mul_of_pos_left h (two_zpow_pos _)
    _ = 1 := by rw [← two_zpow_add, neg_add_cancel, zpow_zero]
    _ ≤ a := hone

/-- **A rounded quotient is taken up to the same integer as the quotient itself**, for a dividend of
53 bits and any divisor that is not so great that the quotient may be rounded to zero. -/
theorem ceil_quotient_eq {a b : ℕ} (ha : 0 < a) (hb : 0 < b) (hbits : a < 2 ^ 53)
    (htop : (b : ℚ) < 2 ^ (1075 : ℤ)) :
    ∃ d, quotient a b = .ok d ∧ d.ceil = .ok ((a ⌈/⌉ b : ℕ) : ℤ) := by
  rcases le_or_gt b a with hle | hlt
  · exact ceil_quotient hb hle hbits
  · have hone : a ⌈/⌉ b = 1 := by
      refine le_antisymm ((ceilDiv_le_iff_le_mul hb).mpr (by omega)) ?_
      obtain ⟨k, hk, -⟩ := ceilDiv_between ha hb
      omega
    rw [hone]
    exact ceil_quotient_of_lt ha hlt (two_zpow_lt_div ha hb htop)

end SearchGateway.Double
