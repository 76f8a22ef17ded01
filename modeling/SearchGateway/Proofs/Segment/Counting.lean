import SearchGateway.Proofs.Segment.Covering
import SearchGateway.Proofs.Segment.Refusal

/-!
# How many parts a content takes

The number of parts comes from a quotient that is rounded before it is taken up to an integer.  For
a content of 53 bits this is the integer above the exact quotient (`Segment.counts_exactly`).  So
the last part ends where the content does, and every part before it ends earlier: rounding neither
loses the end of a content nor adds a part that has nothing of its own.

The count asks neither that the overlap is not negative nor that the rate is below one; a division
does.  A negative overlap makes the step greater than a part, and the quotient may be less than one.
It is not rounded to zero, since an overlap is no further below zero than the numbers of the format.
-/

set_option autoImplicit false

namespace SearchGateway.Segment

variable {length maxSize overlap step : ℤ} {rate : Double}

/-! ## Exact counts -/

/-- The integer above a quotient, as integer division finds it. -/
theorem ceilDiv_eq_ediv (a : ℕ) {b : ℕ} (hb : 0 < b) :
    ((a ⌈/⌉ b : ℕ) : ℤ) = ((a : ℤ) + b - 1) / b := by
  rw [Nat.ceilDiv_eq_add_pred_div, Int.natCast_div, Nat.cast_sub (by omega)]
  push_cast
  rfl

/-- No overlap is further below zero than the numbers of the format, which bounds the step. -/
theorem IsOverlap.step_lt (h : IsOverlap maxSize rate overlap) (hbits : maxSize < 2 ^ 53) :
    ((maxSize - overlap : ℤ) : ℚ) < 2 ^ (1075 : ℤ) := by
  obtain ⟨size, product, -, hproduct, rfl⟩ := h
  have hproduct : -(2 : ℚ) ^ (1024 : ℤ) < product :=
    (abs_lt.mp (Double.isMagnitude_abs hproduct).lt_top).1
  have hfloor := Int.lt_floor_add_one product
  have hsize : (maxSize : ℚ) + 1 ≤ 2 ^ (53 : ℤ) := by
    exact_mod_cast (by omega : maxSize + 1 ≤ 2 ^ 53)
  rw [Int.cast_sub]
  calc (maxSize : ℚ) - ⌊product⌋ < 2 ^ (53 : ℤ) + 2 ^ (1024 : ℤ) := by linarith
    _ ≤ 2 ^ (1024 : ℤ) + 2 ^ (1024 : ℤ) := add_le_add_left (Double.two_zpow_le (by norm_num)) _
    _ = 2 ^ (1 + 1024 : ℤ) := by rw [Double.two_zpow_add]; ring
    _ ≤ 2 ^ (1075 : ℤ) := Double.two_zpow_le (by norm_num)

/-- **The rounded quotient of a length and a step is taken up to the exact count.** -/
theorem exists_quotient (hlength : 0 < length) (hbits : length < 2 ^ 53) (hstep : 0 < step)
    (htop : (step : ℚ) < 2 ^ (1075 : ℤ)) :
    ∃ d, Double.quotient length step = .ok d ∧ d.ceil = .ok ((length + step - 1) / step) := by
  obtain ⟨a, rfl⟩ := Int.eq_ofNat_of_zero_le hlength.le
  obtain ⟨b, rfl⟩ := Int.eq_ofNat_of_zero_le hstep.le
  have ha : 0 < a := by omega
  have hb : 0 < b := by omega
  rw [Int.cast_natCast] at htop
  rw [← ceilDiv_eq_ediv a hb]
  exact Double.ceil_quotient_eq ha hb (by exact_mod_cast hbits) htop

/-! ## The end of the content -/

/-- The parts lie one after the other in the content, and the last of them is where it ends. -/
structure EndsExactly (content : String) (step overlap : ℕ) (parts : List Part) : Prop where
  /-- Every part is what lies at the place of its number. -/
  texts : parts.map Part.content = (List.range parts.length).map fun number =>
    some (String.ofList ((spanOf content.length step overlap number).cut content.toList))
  /-- Every part has characters that no part before it has. -/
  own : ∀ number < parts.length, number * step < content.length
  /-- The last part ends where the content does, and no other part does. -/
  ends : ∀ number < parts.length,
    ((spanOf content.length step overlap number).stop = content.length ↔
      number + 1 = parts.length)

/-- As many places as the exact count says end with the content. -/
theorem endsExactly_of_texts {content : String} {step overlap : ℕ} {parts : List Part}
    (hstep : 0 < step) (hcontent : 0 < content.length)
    (htexts : parts.map Part.content = (List.range (content.length ⌈/⌉ step)).map fun number =>
      some (String.ofList ((spanOf content.length step overlap number).cut content.toList))) :
    EndsExactly content step overlap parts := by
  have hcount : parts.length = content.length ⌈/⌉ step := by
    have hlengths := congrArg List.length htexts
    simpa using hlengths
  obtain ⟨last, hlast, hbelow, habove⟩ := Double.ceilDiv_between hcontent hstep
  -- Up to the last number every place begins inside the content.
  have hinside {number : ℕ} (h : number ≤ last) : number * step < content.length :=
    lt_of_le_of_lt (Nat.mul_le_mul_right step h) hbelow
  refine
    { texts := by rw [hcount, htexts]
      own := fun number hnumber => hinside (by omega)
      ends := fun number hnumber => ?_ }
  have hsucc : (number + 1) * step = number * step + step := Nat.succ_mul number step
  show min (number * step + step) content.length = content.length ↔ number + 1 = parts.length
  rw [min_eq_right_iff, hcount, hlast]
  constructor
  · intro hend
    by_contra hne
    have hnext := hinside (show number + 1 ≤ last by omega)
    omega
  · intro hsame
    rw [← hsame] at habove
    omega

/-- **The parts of a content that does not fit end with it.** -/
theorem exists_endsExactly {document : Document} (hsize : 0 < maxSize)
    (hlong : maxSize < document.content.length) (hbits : document.content.length < 2 ^ 53)
    (hstep : step = maxSize - overlap) (h : Accepts document maxSize rate overlap) :
    ∃ parts, divide document maxSize rate = .ok parts ∧
      (parts.length : ℤ) = (document.content.length + step - 1) / step ∧
      EndsExactly document.content step.toNat overlap.toNat parts := by
  have hoverlap := overlapWidth_nonneg h.size h.fraction h.width
  have hnonneg := h.size
  lift maxSize to ℕ using hnonneg
  lift overlap to ℕ using hoverlap
  have hhalf : 2 * overlap ≤ maxSize := by exact_mod_cast h.half
  have hpos : 0 < maxSize := by exact_mod_cast hsize
  have hcut : maxSize < document.content.length := by exact_mod_cast hlong
  obtain rfl : step = ((maxSize - overlap : ℕ) : ℤ) := by omega
  obtain ⟨parts, hparts, -⟩ := exists_division h hbits
  have htexts : parts.map Part.content =
      (List.range (document.content.length ⌈/⌉ (maxSize - overlap))).map fun number =>
        some (String.ofList
          ((spanOf document.content.length (maxSize - overlap) overlap number).cut
            document.content.toList)) := by
    rw [divide_ok hparts, contentsOf_eq hpos h.width hhalf hbits, spans, if_neg (by omega)]
    refine (content_partsWith document _).trans ?_
    rw [List.map_map, List.map_map]
    rfl
  refine ⟨parts, hparts, ?_, ?_⟩
  · have hlengths := congrArg List.length htexts
    rw [List.length_map, List.length_map, List.length_range] at hlengths
    rw [hlengths, ceilDiv_eq_ediv _ (by omega)]
  · exact endsExactly_of_texts (by omega) (by omega) htexts

/-! ## Counting -/

/-- **The parts are counted exactly although their number is a rounded quotient.**  For a content of
53 bits that does not fit, and an overlap of half of a part at most, the quotient of length and step
is taken up to the integer above the exact one.  So the count is this integer, for every rate with
that overlap, and a division has as many parts: the last one ends with the content, none before it
does, and none is without characters of its own. -/
theorem counts_exactly (hsize : 0 < maxSize) (hlong : maxSize < length) (hbits : length < 2 ^ 53)
    (hhalf : 2 * overlap ≤ maxSize) (hstep : step = maxSize - overlap) :
    (0 ≤ overlap → ∃ d, Double.quotient length step = .ok d ∧
      d.ceil = .ok ((length + step - 1) / step)) ∧
    ∀ rate, overlapWidth maxSize rate = .ok overlap →
      partCount length maxSize rate = .ok ((length + step - 1) / step) ∧
      ∀ document : Document, document.content.length = length → rate.IsFraction →
        ∃ parts, divide document maxSize rate = .ok parts ∧
          (parts.length : ℤ) = (length + step - 1) / step ∧
          EndsExactly document.content step.toNat overlap.toNat parts := by
  have hpos : 0 < step := by omega
  refine ⟨fun hoverlap => ?_, fun rate hwidth => ⟨?_, ?_⟩⟩
  · refine exists_quotient (by omega) hbits hpos ?_
    have hshort : (step : ℚ) < 2 ^ (53 : ℤ) := by exact_mod_cast (by omega : step < 2 ^ 53)
    exact hshort.trans_le (Double.two_zpow_le (by norm_num))
  · have htop := (overlapWidth_eq_ok.mp hwidth).step_lt (by omega)
    rw [← hstep] at htop
    obtain ⟨d, hquotient, hceil⟩ := exists_quotient (by omega) hbits hpos htop
    exact partCount_of_ceil (by omega) hwidth (hstep ▸ hquotient) hceil
  · rintro document rfl hrate
    refine exists_endsExactly hsize hlong (by exact_mod_cast hbits) hstep
      ⟨hsize.le, (Double.isProperFraction_iff rate).mpr hrate, hwidth, hhalf, ?_⟩
    rintro - hempty
    rw [hempty] at hlong
    exact absurd hlong (by simp; omega)

/-- Seven characters in parts of four that overlap in two: four parts. -/
theorem counts_exactly_scale : ((0 : ℤ) < 4 ∧ (4 : ℤ) < 7 ∧ (7 : ℤ) < 2 ^ 53 ∧
    2 * (2 : ℤ) ≤ 4 ∧ (2 : ℤ) = 4 - 2) ∧
    (∃ d, Double.quotient 7 2 = .ok d ∧ d.ceil = .ok 4) ∧
    partCount 7 4 (.ofRatio false 1 2) = .ok 4 ∧
    ∃ parts, divide scale 4 (.ofRatio false 1 2) = .ok parts ∧ (parts.length : ℤ) = 4 ∧
      EndsExactly scale.content 2 2 parts := by
  have hbits : (7 : ℤ) < 2 ^ 53 := by norm_num
  have hrate : (Double.ofRatio false 1 2).IsFraction :=
    (Double.isProperFraction_iff _).mp (by decide)
  obtain ⟨hquotient, hrates⟩ := counts_exactly (show (0 : ℤ) < 4 by decide)
    (show (4 : ℤ) < 7 by decide) hbits (show 2 * (2 : ℤ) ≤ 4 by decide)
    (show (2 : ℤ) = 4 - 2 by decide)
  obtain ⟨hcount, hdivided⟩ := hrates (.ofRatio false 1 2) (by decide)
  exact ⟨⟨by decide, by decide, hbits, by decide, by decide⟩, hquotient (by decide), hcount,
    hdivided scale (by decide) hrate⟩

/-- The quotient is a third above an integer, and rounded to a half above it. -/
example : partCount (2 ^ 53 - 1) 4 (.ofRatio false 1 4) = .ok 3002399751580331 := by decide

/-- With 54 bits the last character may be lost. -/
example : partCount (2 ^ 53 + 1) 1 (.zero false) = .ok (2 ^ 53) := by decide

end SearchGateway.Segment
