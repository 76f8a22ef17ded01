import SearchGateway.Proofs.Double.Order
import SearchGateway.Proofs.Segment.Division
import SearchGateway.Proofs.Segment.Raw

/-!
# When a division is refused

A size or a rate is refused whatever the document is: a negative size, a rate outside of `[0, 1)`,
or the two together if their overlap is more than half of a part.  An empty content is refused below
a limit, and only when size and rate are not.  Since the overlap of a fraction of a size is a finite
number, there is only one other way to fail: a surrogate in the path or the content of a raw
document leaves it without an identifier (`Segment.divide_fails_iff`), so not all that is not
refused is divided (`Segment.not_divide_fails_iff`).

The overlap comes from a rounded product.  Half of a size is a number of the format, so rounding
does not take a product above it that is not above it before (`Segment.exists_overlap_le`).
-/

set_option autoImplicit false

namespace SearchGateway.Segment

variable {maxSize overlap : ℤ} {rate : Double}

/-- The overlap is the rounded product of rate and size, taken down to an integer. -/
def IsOverlap (maxSize : ℤ) (rate : Double) (overlap : ℤ) : Prop :=
  ∃ size product, Double.ofInt maxSize = .ok size ∧ (rate * size).value? = some product ∧
    overlap = ⌊product⌋

/-- A division into parts of this size with this rate is refused for every document. -/
def Refuses (maxSize : ℤ) (rate : Double) : Prop :=
  maxSize < 0 ∨ ¬rate.IsFraction ∨
    ∃ overlap, IsOverlap maxSize rate overlap ∧ maxSize < 2 * overlap

/-! ## Overlaps -/

theorem overlapWidth_eq_ok : overlapWidth maxSize rate = .ok overlap ↔
    IsOverlap maxSize rate overlap := by
  unfold overlapWidth IsOverlap
  cases Double.ofInt maxSize with
  | error defect => exact ⟨nofun, fun ⟨_, _, h, _⟩ => nomatch h⟩
  | ok size =>
    show (rate * size).floor = .ok overlap ↔ _
    simp [Double.floor_eq_ok]

theorem IsOverlap.unique {other : ℤ} (h : IsOverlap maxSize rate overlap)
    (hother : IsOverlap maxSize rate other) : overlap = other :=
  Except.ok.inj ((overlapWidth_eq_ok.mpr h).symm.trans (overlapWidth_eq_ok.mpr hother))

/-- **The overlap exists, and is not above a number of the format if the exact product is not.** -/
theorem exists_overlap_le {maxSize : ℕ} {q x : ℚ} (hsize : maxSize ≤ 2 ^ 53)
    (hrate : rate.value? = some q) (hq : 0 ≤ q) (hx : Double.IsMagnitude x)
    (h : q * maxSize ≤ x) : ∃ overlap, IsOverlap maxSize rate overlap ∧ (overlap : ℚ) ≤ x := by
  obtain ⟨size, p, hofInt, hvalue, hp, hle⟩ := Double.ofInt_le hsize
  obtain ⟨product, hproduct, hbelow⟩ := Double.mul_le hrate hq hvalue hp hx
    ((mul_le_mul_of_nonneg_left hle hq).trans h)
  exact ⟨⌊product⌋, ⟨size, product, hofInt, hproduct, rfl⟩, (Int.floor_le product).trans hbelow⟩

/-- A fraction of a size has an overlap. -/
theorem exists_overlap (hpos : 0 ≤ maxSize) (hsize : maxSize ≤ 2 ^ 53) (hrate : rate.IsFraction) :
    ∃ overlap, IsOverlap maxSize rate overlap := by
  lift maxSize to ℕ using hpos
  obtain ⟨q, hvalue, hq, hlt⟩ := hrate
  have hbits : maxSize ≤ 2 ^ 53 := by exact_mod_cast hsize
  obtain ⟨overlap, hoverlap, -⟩ := exists_overlap_le hbits hvalue hq
    (Double.isMagnitude_natCast hbits).1 (mul_le_of_le_one_left (Nat.cast_nonneg _) hlt.le)
  exact ⟨overlap, hoverlap⟩

/-- **Up to one half of a size, the overlap is not more than half of a part.** -/
theorem exists_overlap_half {q : ℚ} (hpos : 0 ≤ maxSize) (hsize : maxSize ≤ 2 ^ 53)
    (hrate : rate.value? = some q) (hq : 0 ≤ q) (hhalf : q ≤ 1 / 2) :
    ∃ overlap, IsOverlap maxSize rate overlap ∧ 2 * overlap ≤ maxSize := by
  lift maxSize to ℕ using hpos
  have hbits : maxSize ≤ 2 ^ 53 := by exact_mod_cast hsize
  have hle : q * maxSize ≤ maxSize / 2 := by
    calc q * maxSize ≤ 1 / 2 * maxSize := mul_le_mul_of_nonneg_right hhalf (Nat.cast_nonneg _)
      _ = maxSize / 2 := by ring
  obtain ⟨overlap, hoverlap, hbelow⟩ :=
    exists_overlap_le hbits hrate hq (Double.isMagnitude_natCast hbits).2 hle
  refine ⟨overlap, hoverlap, ?_⟩
  rw [le_div_iff₀ (by norm_num), mul_comm] at hbelow
  exact_mod_cast hbelow

/-! ## The ways a division ends -/

section

variable {τ : Type} (path : τ) {length : ℕ}

/-- A size or a rate that is refused is refused whatever the document is. -/
theorem vet_of_refuses (length : ℕ) (h : Refuses maxSize rate) :
    ∃ message, vet path length maxSize rate = .error (.invalid message) := by
  rcases vet_cases path length maxSize rate with ⟨-, hinvalid⟩ | ⟨hsize, hrate, hwidth⟩
  · exact hinvalid
  · obtain hneg | hnot | ⟨overlap, hoverlap, hwide⟩ := h
    · omega
    · exact absurd ((Double.isProperFraction_iff rate).mp hrate) hnot
    · rw [overlapWidth_eq_ok.mpr hoverlap] at hwidth
      obtain ⟨defect, herror, -⟩ | ⟨width, hsame, hhalf, -⟩ := hwidth
      · cases herror
      · cases hsame
        omega

/-- What is not refused has an overlap of at most half of a part. -/
theorem exists_of_not_refuses (hsize : maxSize ≤ 2 ^ 53) (h : ¬Refuses maxSize rate) :
    0 ≤ maxSize ∧ rate.isProperFraction = true ∧
      ∃ overlap, overlapWidth maxSize rate = .ok overlap ∧ 2 * overlap ≤ maxSize := by
  simp only [Refuses, not_or, not_lt, not_not, not_exists, not_and] at h
  obtain ⟨hpos, hrate, hhalf⟩ := h
  obtain ⟨overlap, hoverlap⟩ := exists_overlap hpos hsize hrate
  exact ⟨hpos, (Double.isProperFraction_iff rate).mpr hrate, overlap,
    overlapWidth_eq_ok.mpr hoverlap, hhalf overlap hoverlap⟩

/-- An empty content is refused below a limit. -/
theorem vet_of_empty (hsize : maxSize ≤ 2 ^ 53) (h : ¬Refuses maxSize rate) (hpos : 0 < maxSize) :
    vet path 0 maxSize rate = .error (.empty path) := by
  obtain ⟨hnonneg, hrate, overlap, hwidth, hhalf⟩ := exists_of_not_refuses hsize h
  rw [vet_of_le path 0 hnonneg hrate hwidth hhalf, if_pos ⟨hpos, rfl⟩]

/-- Whatever is left is accepted, and has at least one part. -/
theorem exists_partCount (hlength : length < 2 ^ 53) (hsize : maxSize ≤ 2 ^ 53)
    (h : ¬Refuses maxSize rate) (hcontent : ¬(0 < maxSize ∧ length = 0)) :
    ∃ overlap count : ℤ, vet path length maxSize rate = .ok overlap ∧
      partCount length maxSize rate = .ok count ∧ 0 < count := by
  obtain ⟨hpos, hrate, overlap, hwidth, hhalf⟩ := exists_of_not_refuses hsize h
  have hvet : vet path length maxSize rate = .ok overlap :=
    vet_eq_ok.mpr ⟨hpos, hrate, hwidth, hhalf, hcontent⟩
  by_cases hfits : maxSize = 0 ∨ (length : ℤ) ≤ maxSize
  · exact ⟨overlap, 1, hvet, by rw [partCount, if_pos hfits]; rfl, by decide⟩
  · have hoverlap := overlapWidth_nonneg hpos hrate hwidth
    lift maxSize to ℕ using hpos
    lift overlap to ℕ using hoverlap
    have hstep : 0 < maxSize - overlap := by omega
    refine ⟨overlap, _, hvet,
      partCount_eq (by omega) hwidth (by omega) (by omega) hlength, ?_⟩
    exact_mod_cast (one_lt_ceilDiv hstep (show maxSize - overlap < length by omega)).le

end

/-- Cutting leaves something. -/
theorem pieces_ne_nil {α : Type} {content : List α} {count : ℤ} (h : 0 < count) :
    pieces content maxSize overlap count ≠ [] := by
  rw [pieces]
  split
  · exact List.cons_ne_nil _ _
  · simp only [ne_eq, List.map_eq_nil_iff, List.range_eq_nil]
    omega

/-! ## Divisions of raw documents -/

section

variable {κ : Type} {document : RawDocument κ}

/-- There is a surrogate in the path or in the content. -/
def HasSurrogate (document : RawDocument κ) : Prop :=
  ∃ point, (point ∈ document.path ∨ point ∈ document.content) ∧ Text.isSurrogate point = true

/-- A document has no identifier exactly if it has a surrogate. -/
theorem id_eq_error_iff {defect : Defect} : document.id = .error defect ↔
    defect = .unencodableText ∧ HasSurrogate document := by
  have hmem (point : Text.Point) : Text.isSurrogate point = true →
      (point ∈ document.path ++ (.ofString "\n" ++ document.content) ↔
        point ∈ document.path ∨ point ∈ document.content) := by
    intro hsurrogate
    have hbreak : point ∉ Text.Raw.ofString "\n" := by
      intro h
      rw [List.mem_singleton.mp h] at hsurrogate
      exact absurd hsurrogate (by decide)
    rw [List.mem_append, List.mem_append, or_iff_right hbreak]
  have hsurrogate : HasSurrogate document ↔
      ∃ point ∈ document.path ++ (.ofString "\n" ++ document.content),
        Text.isSurrogate point = true :=
    exists_congr fun point => and_congr_left fun h => (hmem point h).symm
  rw [hsurrogate, ← Text.Raw.encoded_eq_error_iff, RawDocument.id]
  cases Text.Raw.encoded _ <;> simp [Except.map]

/-- What is not refused ends with parts, or without an identifier. -/
theorem divide_of_not_refuses (hlength : document.content.length < 2 ^ 53)
    (hsize : maxSize ≤ 2 ^ 53) (h : ¬Refuses maxSize rate)
    (hcontent : ¬(0 < maxSize ∧ document.content = [])) :
    ¬HasSurrogate document ∧
      (∃ parts, document.divide maxSize rate = .ok parts ∧ parts ≠ []) ∨
    HasSurrogate document ∧
      document.divide maxSize rate = .error (.defect .unencodableText) := by
  rw [← List.length_eq_zero_iff] at hcontent
  obtain ⟨overlap, count, hvet, hcount, hpos⟩ :=
    exists_partCount document.path hlength hsize h hcontent
  rw [RawDocument.divide, divideWith_of_ok hvet hcount]
  cases hid : document.id with
  | error defect =>
    obtain ⟨rfl, hsurrogate⟩ := id_eq_error_iff.mp hid
    exact .inr ⟨hsurrogate, rfl⟩
  | ok documentId =>
    refine .inl ⟨fun hsurrogate => ?_, _, rfl, ?_⟩
    · have herror := id_eq_error_iff.mpr ⟨rfl, hsurrogate⟩
      rw [hid] at herror
      cases herror
    · rw [ne_eq, List.mapIdx_eq_nil_iff]
      exact pieces_ne_nil hpos

/-- How a division ends. -/
theorem divide_cases (document : RawDocument κ) (rate : Double)
    (hlength : document.content.length < 2 ^ 53) (hsize : maxSize ≤ 2 ^ 53) :
    Refuses maxSize rate ∧
      (∃ message, document.divide maxSize rate = .error (.invalid message)) ∨
    ¬Refuses maxSize rate ∧ (0 < maxSize ∧ document.content = []) ∧
      document.divide maxSize rate = .error (.empty document.path) ∨
    ¬Refuses maxSize rate ∧ ¬(0 < maxSize ∧ document.content = []) ∧
      (¬HasSurrogate document ∧
          (∃ parts, document.divide maxSize rate = .ok parts ∧ parts ≠ []) ∨
        HasSurrogate document ∧
          document.divide maxSize rate = .error (.defect .unencodableText)) := by
  by_cases hrefuses : Refuses maxSize rate
  · obtain ⟨message, hvet⟩ := vet_of_refuses document.path document.content.length hrefuses
    exact .inl ⟨hrefuses, message, divideWith_of_error hvet⟩
  by_cases hempty : 0 < maxSize ∧ document.content = []
  · have hvet : vet document.path document.content.length maxSize rate =
        .error (.empty document.path) := by
      rw [hempty.2]
      exact vet_of_empty document.path hsize hrefuses hempty.1
    exact .inr (.inl ⟨hrefuses, hempty, divideWith_of_error hvet⟩)
  · exact .inr (.inr ⟨hrefuses, hempty, divide_of_not_refuses hlength hsize hrefuses hempty⟩)

/-- **A division fails exactly when it should, and otherwise for want of an encoding.**  It is
refused as invalid if and only if the size is negative, the rate is not in `[0, 1)`, or the overlap
is more than half of a part; this depends on size and rate alone, so it does not matter how short
the document is.  It is refused as empty if and only if none of this is so and an empty content is
to have a limit.  Otherwise there is at least one part if no surrogate is in path and content, and
if one is, that is the defect that it ends with.  There is no other defect, such as a division by
zero, and a rate up to one half is never too large for a size. -/
theorem divide_fails_iff (document : RawDocument κ) {maxSize : ℤ} (rate : Double)
    (hlength : document.content.length < 2 ^ 53) (hsize : maxSize ≤ 2 ^ 53) :
    ((∃ message, document.divide maxSize rate = .error (.invalid message)) ↔
      Refuses maxSize rate) ∧
    (document.divide maxSize rate = .error (.empty document.path) ↔
      ¬Refuses maxSize rate ∧ 0 < maxSize ∧ document.content = []) ∧
    ((∃ parts, document.divide maxSize rate = .ok parts ∧ parts ≠ []) ↔
      ¬Refuses maxSize rate ∧ ¬(0 < maxSize ∧ document.content = []) ∧ ¬HasSurrogate document) ∧
    (∀ defect, document.divide maxSize rate = .error (.defect defect) ↔
      defect = .unencodableText ∧ ¬Refuses maxSize rate ∧
        ¬(0 < maxSize ∧ document.content = []) ∧ HasSurrogate document) ∧
    (0 ≤ maxSize → rate.IsFraction → ∃ overlap, IsOverlap maxSize rate overlap) ∧
    ∀ q, 0 ≤ maxSize → rate.value? = some q → 0 ≤ q → q ≤ 1 / 2 →
      ∃ overlap, IsOverlap maxSize rate overlap ∧ 2 * overlap ≤ maxSize := by
  have hoverlap (hpos : 0 ≤ maxSize) (hrate : rate.IsFraction) := exists_overlap hpos hsize hrate
  have hhalf (q : ℚ) (hpos : 0 ≤ maxSize) (hrate : rate.value? = some q) :=
    exists_overlap_half hpos hsize hrate
  rcases divide_cases document rate hlength hsize with ⟨hrefuses, message, hdivide⟩ |
    ⟨hrefuses, hempty, hdivide⟩ |
    ⟨hrefuses, hempty, ⟨hsurrogate, parts, hdivide, hparts⟩ | ⟨hsurrogate, hdivide⟩⟩
  · refine ⟨?_, ?_, ?_, ?_, hoverlap, hhalf⟩ <;> simp [hdivide, hrefuses]
  · refine ⟨?_, ?_, ?_, ?_, hoverlap, hhalf⟩ <;> simp [hdivide, hrefuses, hempty]
  · refine ⟨?_, ?_, ?_, ?_, hoverlap, hhalf⟩ <;>
      simp [hdivide, hrefuses, hempty, hparts, hsurrogate]
  · refine ⟨?_, ?_, ?_, ?_, hoverlap, hhalf⟩ <;>
      simp [hdivide, hrefuses, hempty, hsurrogate, eq_comm]

end

/-- Two characters and half of a surrogate pair. -/
def torn : RawDocument Unit where
  path := .ofString "a.txt"
  content := [.ofChar 'a', .ofChar 'b', ⟨0xd800, by decide⟩]
  facts := ()

theorem hasSurrogate_torn : HasSurrogate torn :=
  ⟨⟨0xd800, by decide⟩, .inr (by decide), by decide⟩

theorem content_torn_ne_nil : torn.content ≠ [] := List.cons_ne_nil _ _

/-- Two characters of eight may overlap. -/
theorem not_refuses_quarter : ¬Refuses 8 (.ofRatio false 1 4) := by
  have hfraction : (Double.ofRatio false 1 4).IsFraction :=
    (Double.isProperFraction_iff _).mp (by decide)
  have hwidth : overlapWidth 8 (.ofRatio false 1 4) = .ok 2 := by decide
  rintro (h | h | ⟨overlap, hoverlap, hwide⟩)
  · exact absurd h (by decide)
  · exact h hfraction
  · obtain rfl := hoverlap.unique (overlapWidth_eq_ok.mp hwidth)
    exact absurd hwide (by decide)

/-- If six characters of eight were to overlap that would be too many, also for three characters
that stay whole.  If it is two, the surrogate keeps them from being divided. -/
theorem divide_fails_iff_torn : torn.content.length < 2 ^ 53 ∧ (8 : ℤ) ≤ 2 ^ 53 ∧
    (∃ message, torn.divide 8 (.ofRatio false 3 4) = .error (.invalid message)) ∧
    torn.divide 8 (.ofRatio false 1 4) = .error (.defect .unencodableText) := by
  have hlength : torn.content.length < 2 ^ 53 := by decide
  have hsize : (8 : ℤ) ≤ 2 ^ 53 := by norm_num
  obtain ⟨hinvalid, -⟩ := divide_fails_iff torn (.ofRatio false 3 4) hlength hsize
  obtain ⟨-, -, -, hdefect, -⟩ := divide_fails_iff torn (.ofRatio false 1 4) hlength hsize
  have hoverlap : IsOverlap 8 (.ofRatio false 3 4) 6 := overlapWidth_eq_ok.mp (by decide)
  exact ⟨hlength, hsize, hinvalid.mpr (.inr (.inr ⟨6, hoverlap, by decide⟩)),
    (hdefect _).mpr ⟨rfl, not_refuses_quarter, fun h => content_torn_ne_nil h.2, hasSurrogate_torn⟩⟩

/-- **Not everything is divided that is not refused**: a document with a surrogate is not. -/
theorem not_divide_fails_iff : ¬∀ (document : RawDocument Unit) (maxSize : ℤ) (rate : Double),
    document.content.length < 2 ^ 53 → maxSize ≤ 2 ^ 53 → ¬Refuses maxSize rate →
    ¬(0 < maxSize ∧ document.content = []) →
    ∃ parts, document.divide maxSize rate = .ok parts ∧ parts ≠ [] := by
  intro hall
  have hlength : torn.content.length < 2 ^ 53 := by decide
  have hcontent : ¬((0 : ℤ) < 8 ∧ torn.content = []) := fun h => content_torn_ne_nil h.2
  obtain ⟨parts, hdivide, -⟩ :=
    hall torn 8 (.ofRatio false 1 4) hlength (by norm_num) not_refuses_quarter hcontent
  rcases divide_of_not_refuses hlength (by norm_num) not_refuses_quarter hcontent with
    ⟨hnone, -⟩ | ⟨-, hdefect⟩
  · exact hnone hasSurrogate_torn
  · rw [hdefect] at hdivide
    cases hdivide

end SearchGateway.Segment
