import SearchGateway.Proofs.Double.Integers
import SearchGateway.Proofs.Segment

/-!
# What a division does to the content

A content that does not fit into one part is cut into slices, each of which begins with the last
characters of the one before it.  The number of slices comes from a rounded quotient and the width
of the overlap from a rounded product, but what is cut is exact: there are as many parts as the
content takes, none is empty or too long, neighbours share just the overlap, and without the
overlaps the parts are the content (`Segment.divides`).
-/

set_option autoImplicit false

namespace SearchGateway.Segment

/-! ## Slices of a content -/

section

variable {content : List Char} {step overlap : ℕ}

theorem length_slice (number : ℕ) : (slice content step overlap number).length =
    min (number * step + step) content.length - (number * step - overlap) := by
  rw [slice, List.length_drop, List.length_take]

/-- A slice is no longer than a step and an overlap. -/
theorem length_slice_le (number : ℕ) :
    (slice content step overlap number).length ≤ step + overlap := by
  rw [length_slice]
  omega

/-- A slice that begins inside the content is not empty. -/
theorem slice_ne_nil (hstep : 0 < step) {number : ℕ} (h : number * step < content.length) :
    slice content step overlap number ≠ [] := by
  rw [← List.length_pos_iff, length_slice]
  omega

/-- The end of a slice is the beginning of the next one. -/
theorem slice_shares (hoverlap : overlap ≤ step) {number : ℕ}
    (h : number * step + step ≤ content.length) : ∃ shared, shared.length = overlap ∧
      shared <:+ slice content step overlap number ∧
      shared <+: slice content step overlap (number + 1) := by
  have hnext : (number + 1) * step = number * step + step := Nat.succ_mul number step
  refine ⟨(content.take (number * step + step)).drop (number * step + step - overlap), ?_, ?_, ?_⟩
  · rw [List.length_drop, List.length_take]
    omega
  · rw [slice, show number * step + step - overlap =
      (number * step - overlap) + (number * step + step - overlap - (number * step - overlap)) by
        omega, ← List.drop_drop]
    exact List.drop_suffix _ _
  · have hshared : (content.take (number * step + step)).drop (number * step + step - overlap) =
        (slice content step overlap (number + 1)).take overlap := by
      rw [slice, hnext, List.take_drop, List.take_take]
      congr 2
      omega
    rw [hshared]
    exact List.take_prefix _ _

/-- The first slice is the first step. -/
theorem slice_zero : slice content step overlap 0 = content.take step := by
  simp [slice]

/-- Without what it shares with the slice before it, a slice is the step of its number. -/
theorem drop_slice (hoverlap : overlap ≤ step) (number : ℕ) :
    (slice content step overlap (number + 1)).drop overlap =
      (content.drop ((number + 1) * step)).take step := by
  have hnext : (number + 1) * step = number * step + step := Nat.succ_mul number step
  rw [slice, List.drop_drop, List.take_drop]
  congr 1
  omega

end

/-! ## Contents cut into pieces -/

/-- The texts one after the other, each without what it shares with the one before it. -/
def joined (overlap : ℕ) : List (List Char) → List Char
  | [] => []
  | first :: rest => first ++ rest.flatMap (List.drop overlap)

/-- The texts are the content cut into pieces of at most `maxSize` characters, each of which begins
with the last `overlap` characters of the one before it. -/
structure IsCut (content : List Char) (maxSize overlap : ℕ) (texts : List (List Char)) : Prop where
  count : texts.length = content.length ⌈/⌉ (maxSize - overlap)
  nonempty : [] ∉ texts
  bounded : ∀ text ∈ texts, text.length ≤ maxSize
  shares : texts.IsChain fun text next =>
    ∃ shared, shared.length = overlap ∧ shared <:+ text ∧ shared <+: next
  joined : joined overlap texts = content

/-- The steps of a content one after the other. -/
theorem flatMap_steps (content : List Char) (step count : ℕ) :
    (List.range count).flatMap (fun i => (content.drop (i * step)).take step) =
      content.take (count * step) := by
  induction count with
  | zero => simp
  | succ n ih =>
    rw [List.range_succ, List.flatMap_append, ih, List.flatMap_singleton, Nat.succ_mul,
      List.take_add]

/-- Slices up to the end of the content give the content. -/
theorem joined_slices {content : List Char} {step overlap count : ℕ} (hoverlap : overlap ≤ step)
    (hcount : content.length ≤ (count + 1) * step) :
    joined overlap ((List.range (count + 1)).map (slice content step overlap)) = content := by
  have hsteps := flatMap_steps content step (count + 1)
  rw [List.range_succ_eq_map, List.flatMap_cons, List.flatMap_map, List.take_of_length_le hcount]
    at hsteps
  rw [List.range_succ_eq_map, List.map_cons, List.map_map, joined, List.flatMap_map, slice_zero]
  simpa [drop_slice hoverlap] using hsteps

/-- **The slices of a content that does not fit are a content cut into pieces.** -/
theorem isCut_slices {content : List Char} {maxSize overlap : ℕ} (hsize : 0 < maxSize)
    (hhalf : 2 * overlap ≤ maxSize) (hlength : maxSize < content.length) :
    IsCut content maxSize overlap ((List.range (content.length ⌈/⌉ (maxSize - overlap))).map
      (slice content (maxSize - overlap) overlap)) := by
  obtain ⟨step, hstep⟩ : ∃ step, maxSize - overlap = step := ⟨_, rfl⟩
  rw [hstep]
  obtain ⟨last, hcount, hbelow, habove⟩ :=
    Double.ceilDiv_between (show 0 < content.length by omega) (show 0 < step by omega)
  -- All slices begin inside the content, and all but the last end there.
  have hinside {number : ℕ} (h : number ≤ last) : number * step < content.length :=
    lt_of_le_of_lt (Nat.mul_le_mul_right step h) hbelow
  rw [hcount]
  refine
    { count := ?_
      nonempty := ?_
      bounded := ?_
      shares := ?_
      joined := joined_slices (by omega) habove }
  · rw [List.length_map, List.length_range, hstep, hcount]
  · intro hmem
    obtain ⟨number, hnumber, hempty⟩ := List.mem_map.mp hmem
    have hle : number ≤ last := Nat.lt_succ_iff.mp (List.mem_range.mp hnumber)
    exact slice_ne_nil (by omega) (hinside hle) hempty
  · intro text hmem
    obtain ⟨number, -, rfl⟩ := List.mem_map.mp hmem
    have hle : (slice content step overlap number).length ≤ step + overlap :=
      length_slice_le number
    omega
  · rw [List.isChain_iff_getElem]
    intro i hi
    simp only [List.length_map, List.length_range] at hi
    simp only [List.getElem_map, List.getElem_range]
    refine slice_shares (by omega) ?_
    have hnext := hinside (show i + 1 ≤ last by omega)
    rw [Nat.succ_mul] at hnext
    exact hnext.le

/-! ## Overlaps and counts -/

/-- The overlap is not negative. -/
theorem overlapWidth_nonneg {maxSize overlap : ℤ} {rate : Double} (hsize : 0 ≤ maxSize)
    (hrate : rate.isProperFraction = true) (h : overlapWidth maxSize rate = .ok overlap) :
    0 ≤ overlap := by
  unfold overlapWidth at h
  cases hofInt : Double.ofInt maxSize with
  | error defect =>
    rw [hofInt] at h
    cases h
  | ok size =>
    rw [hofInt] at h
    exact Double.floor_nonneg ((Double.notNegative_of_isProperFraction hrate).mul
      (Double.notNegative_of_ofInt hsize hofInt)) h

/-- A content that does not fit has as many parts as the quotient is taken up to. -/
theorem partCount_of_ceil {length maxSize overlap count : ℤ} {rate : Double} {d : Double}
    (hcut : ¬(maxSize = 0 ∨ length ≤ maxSize)) (hwidth : overlapWidth maxSize rate = .ok overlap)
    (hquotient : Double.quotient length (maxSize - overlap) = .ok d) (hceil : d.ceil = .ok count) :
    partCount length maxSize rate = .ok count := by
  rw [partCount, if_neg hcut, hwidth]
  show (Double.quotient length (maxSize - overlap) >>= Double.ceil) = _
  rw [hquotient]
  exact hceil

/-- **The parts of a content that does not fit are counted exactly.** -/
theorem partCount_eq {length maxSize overlap : ℕ} {rate : Double} (hsize : 0 < maxSize)
    (hwidth : overlapWidth maxSize rate = .ok overlap) (hhalf : 2 * overlap ≤ maxSize)
    (hlength : maxSize < length) (hbits : length < 2 ^ 53) :
    partCount length maxSize rate = .ok ((length ⌈/⌉ (maxSize - overlap) : ℕ) : ℤ) := by
  obtain ⟨d, hquotient, hceil⟩ :=
    Double.ceil_quotient (show 0 < maxSize - overlap by omega) (by omega) hbits
  rw [Nat.cast_sub (by omega)] at hquotient
  exact partCount_of_ceil (by omega) hwidth hquotient hceil

/-! ## Divisions -/

/-- The parts are those of a document divided into parts of at most `maxSize` characters with an
overlap. -/
structure IsDivision (document : Document) (maxSize overlap : ℕ) (parts : List Part) : Prop where
  /-- All that is known of the document is known of its parts. -/
  carries : ∀ p ∈ parts, p.documentId = document.id ∧ p.file = document.file ∧
    p.metadata = document.metadata
  numbers : parts.map Part.number = (List.range parts.length).map Nat.cast
  /-- A content that fits is left whole. -/
  whole : maxSize = 0 ∨ document.content.length ≤ maxSize →
    parts.map Part.content = [some document.content]
  /-- A content that does not fit is cut. -/
  cut : 0 < maxSize → maxSize < document.content.length → ∃ texts : List String,
    parts.map Part.content = texts.map some ∧
      IsCut document.content.toList maxSize overlap (texts.map String.toList)

/-- The parts that have these texts, in order. -/
def partsWith (document : Document) (texts : List String) : List Part :=
  texts.mapIdx (part document document.id)

section

variable (document : Document) (texts : List String)

theorem content_partsWith : (partsWith document texts).map Part.content = texts.map some := by
  apply List.ext_getElem
  · simp [partsWith]
  · intro i _ _
    simp [partsWith, part]

theorem numbers_partsWith : (partsWith document texts).map Part.number =
    (List.range (partsWith document texts).length).map Nat.cast := by
  apply List.ext_getElem
  · simp
  · intro i _ _
    simp [partsWith, part]

theorem carries_partsWith {p : Part} (h : p ∈ partsWith document texts) :
    p.documentId = document.id ∧ p.file = document.file ∧ p.metadata = document.metadata := by
  obtain ⟨i, hi, rfl⟩ := List.mem_mapIdx.mp h
  exact ⟨rfl, rfl, rfl⟩

end

/-- A content that takes more than one part. -/
theorem one_lt_ceilDiv {length step : ℕ} (hstep : 0 < step) (h : step < length) :
    1 < length ⌈/⌉ step := by
  by_contra hle
  have hfits : length ≤ step * 1 := (ceilDiv_le_iff_le_mul hstep).mp (not_lt.mp hle)
  omega

/-- What is accepted is divided. -/
theorem exists_division {document : Document} {maxSize overlap : ℕ} {rate : Double}
    (h : Accepts document maxSize rate overlap) (hlength : document.content.length < 2 ^ 53) :
    ∃ parts, divide document maxSize rate = .ok parts ∧
      IsDivision document maxSize overlap parts := by
  have hhalf : 2 * overlap ≤ maxSize := by exact_mod_cast h.half
  by_cases hfits : maxSize = 0 ∨ document.content.length ≤ maxSize
  · refine ⟨partsWith document [document.content],
      divide_eq_ok.mpr ⟨overlap, 1, h, ?_, rfl⟩,
      { carries := fun p hp => carries_partsWith _ _ hp
        numbers := numbers_partsWith _ _
        whole := fun _ => content_partsWith _ _
        cut := fun hsize hlong => absurd hfits (by omega) }⟩
    rw [partCount, if_pos (by exact_mod_cast hfits)]
    rfl
  · -- The texts are the slices, and there are at least two of them.
    have hsize : 0 < maxSize := by omega
    have hlong : maxSize < document.content.length := by omega
    have hcount := partCount_eq hsize h.width hhalf hlong hlength
    have hmany := one_lt_ceilDiv (show 0 < maxSize - overlap by omega)
      (show maxSize - overlap < document.content.length by omega)
    set texts := (List.range (document.content.length ⌈/⌉ (maxSize - overlap))).map fun number =>
      String.ofList (slice document.content.toList (maxSize - overlap) overlap number) with htexts
    refine ⟨partsWith document texts,
      divide_eq_ok.mpr ⟨overlap, _, h, hcount, ?_⟩,
      { carries := fun p hp => carries_partsWith _ _ hp
        numbers := numbers_partsWith _ _
        whole := fun hwhole => absurd hwhole hfits
        cut := fun _ _ => ⟨texts, content_partsWith _ _, ?_⟩ }⟩
    · rw [partsOf, if_neg (by omega), partsWith, htexts, ← map_range_eq_mapIdx, Int.toNat_natCast,
        Int.toNat_natCast, ← Nat.cast_sub (by omega), Int.toNat_natCast]
    · have hslices : texts.map String.toList =
          (List.range (document.content.length ⌈/⌉ (maxSize - overlap))).map
            (slice document.content.toList (maxSize - overlap) overlap) := by
        simp [htexts]
      rw [hslices]
      exact isCut_slices hsize hhalf hlong

/-- **A division gives parts for all that it accepts, and they make up the document.** -/
theorem divides {document : Document} {maxSize : ℤ} {rate : Double}
    (hlength : document.content.length < 2 ^ 53) :
    ((∃ parts, divide document maxSize rate = .ok parts) ↔
      ∃ overlap, Accepts document maxSize rate overlap) ∧
    ∀ parts, divide document maxSize rate = .ok parts → ∃ overlap : ℕ,
      overlapWidth maxSize rate = .ok (overlap : ℤ) ∧
        IsDivision document maxSize.toNat overlap parts := by
  have hdivision {overlap : ℤ} (h : Accepts document maxSize rate overlap) :
      ∃ parts, divide document maxSize rate = .ok parts ∧
        IsDivision document maxSize.toNat overlap.toNat parts := by
    have hoverlap := overlapWidth_nonneg h.size h.fraction h.width
    have hsize := h.size
    lift maxSize to ℕ using hsize
    lift overlap to ℕ using hoverlap
    exact exists_division h hlength
  refine ⟨⟨fun ⟨parts, h⟩ => accepts_of_divide h, fun ⟨overlap, h⟩ => ?_⟩, ?_⟩
  · obtain ⟨parts, hparts, -⟩ := hdivision h
    exact ⟨parts, hparts⟩
  · intro parts hparts
    obtain ⟨overlap, h⟩ := accepts_of_divide hparts
    obtain ⟨found, hfound, hdivided⟩ := hdivision h
    obtain rfl := Except.ok.inj (hparts.symm.trans hfound)
    have hoverlap := overlapWidth_nonneg h.size h.fraction h.width
    exact ⟨overlap.toNat, by rw [h.width, Int.toNat_of_nonneg hoverlap], hdivided⟩

/-- A document of seven characters. -/
def scale : Document := ⟨⟨"scale.txt", "music/scale.txt", 7, 1, 2⟩, "cdefgab", none⟩

/-- Seven characters in parts of four that overlap in two. -/
theorem divides_scale : scale.content.length < 2 ^ 53 ∧ ∃ (parts : List Part) (overlap : ℕ),
    divide scale 4 (.ofRatio false 1 2) = .ok parts ∧
      overlapWidth 4 (.ofRatio false 1 2) = .ok (overlap : ℤ) ∧
      IsDivision scale 4 overlap parts := by
  have hlength : scale.content.length < 2 ^ 53 := by decide
  obtain ⟨haccepts, hdivision⟩ :=
    @divides scale 4 (.ofRatio false 1 2) hlength
  obtain ⟨parts, hparts⟩ :=
    haccepts.mpr ⟨2, by decide, by decide, by decide, by decide, fun _ => by decide⟩
  obtain ⟨overlap, hwidth, hdivided⟩ := hdivision parts hparts
  exact ⟨hlength, parts, overlap, hparts, hwidth, hdivided⟩

example : contentsOf "cdefgab" 4 (.ofRatio false 1 2) = ["cd", "cdef", "efga", "gab"] := by decide

end SearchGateway.Segment
