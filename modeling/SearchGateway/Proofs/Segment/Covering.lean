import SearchGateway.Proofs.Segment.Division

/-!
# Where the parts of a document lie in its content

Neighbouring parts overlap so that a short phrase is not torn where the content is cut.  The place
of a part in the content is decided by its number, the step and the overlap (`spans`).  A phrase
with at most one character more than the overlap lies within one part wherever it stands, no
character is missing, and none is in more than two parts (`Segment.covers`).
-/

set_option autoImplicit false

namespace SearchGateway.Segment

/-! ## Stretches of a content -/

/-- A stretch of a content, from one offset up to another. -/
structure Span where
  start : ℕ
  stop : ℕ

namespace Span

variable {content : List Char} {inner outer : Span}

/-- The characters of the stretch. -/
def cut (span : Span) (content : List Char) : List Char :=
  (content.take span.stop).drop span.start

/-- The stretch lies inside another one. -/
def Within (inner outer : Span) : Prop := outer.start ≤ inner.start ∧ inner.stop ≤ outer.stop

/-- The character at the offset is one of the stretch. -/
def Holds (span : Span) (offset : ℕ) : Prop := span.start ≤ offset ∧ offset < span.stop

instance (span : Span) (offset : ℕ) : Decidable (span.Holds offset) :=
  inferInstanceAs (Decidable (_ ∧ _))

theorem Within.isInfix_cut (h : inner.Within outer) (content : List Char) :
    inner.cut content <:+: outer.cut content := by
  have htake : content.take inner.stop = (content.take outer.stop).take inner.stop := by
    rw [List.take_take, Nat.min_eq_left h.2]
  have hcut : inner.cut content = ((outer.cut content).take (inner.stop - outer.start)).drop
      (inner.start - outer.start) := by
    rw [cut, cut, htake, ← List.drop_take, List.drop_drop, Nat.add_sub_cancel' h.1]
  rw [hcut]
  exact (List.drop_suffix _ _).isInfix.trans (List.take_prefix _ _).isInfix

/-- A piece of a content is what lies in some stretch of it. -/
theorem exists_of_isInfix {phrase : List Char} (h : phrase <:+: content) : ∃ span : Span,
    span.stop = span.start + phrase.length ∧ span.stop ≤ content.length ∧
      span.cut content = phrase := by
  obtain ⟨front, rest, rfl⟩ := h
  refine ⟨⟨front.length, front.length + phrase.length⟩, rfl, ?_, ?_⟩
  · simp
  · rw [cut, ← List.length_append, List.take_left, List.drop_left]

end Span

/-! ## The places of the parts -/

/-- Where part `number` of a content that is cut lies in it. -/
def spanOf (length step overlap number : ℕ) : Span :=
  ⟨number * step - overlap, min (number * step + step) length⟩

/-- Where the parts of a content of the given length lie in it.  A content that fits is one part. -/
def spans (length maxSize overlap : ℕ) : List Span :=
  if length ≤ maxSize then [⟨0, length⟩]
  else (List.range (length ⌈/⌉ (maxSize - overlap))).map
    (spanOf length (maxSize - overlap) overlap)

theorem cut_spanOf (content : List Char) (step overlap number : ℕ) :
    (spanOf content.length step overlap number).cut content =
      slice content step overlap number := by
  rw [Span.cut, spanOf, slice, ← List.take_eq_take_min]

section

variable {length step overlap : ℕ}

/-- The stretch in which a window of at most one character more than the overlap ends is one in
which it also begins. -/
theorem within_spanOf (hstep : 0 < step) {window : Span} (hstop : window.stop ≤ length)
    (hshort : window.stop ≤ window.start + (overlap + 1)) :
    window.Within (spanOf length step overlap ((window.stop - 1) / step)) := by
  have hbegin : (window.stop - 1) / step * step ≤ window.stop - 1 := Nat.div_mul_le_self _ _
  have hend : window.stop - 1 < (window.stop - 1) / step * step + step := Nat.lt_div_mul_add hstep
  constructor
  · show (window.stop - 1) / step * step - overlap ≤ window.start
    omega
  · show window.stop ≤ min ((window.stop - 1) / step * step + step) length
    omega

/-- A character is in the stretch of its own step or, as part of the overlap, in the next one. -/
theorem number_of_holds (hstep : 0 < step) (hoverlap : overlap ≤ step) {number offset : ℕ}
    (h : (spanOf length step overlap number).Holds offset) :
    number = offset / step ∨ number = offset / step + 1 := by
  obtain ⟨hstart, hstop⟩ : number * step - overlap ≤ offset ∧
    offset < min (number * step + step) length := h
  have hbegin : offset / step * step ≤ offset := Nat.div_mul_le_self _ _
  have hend : offset < offset / step * step + step := Nat.lt_div_mul_add hstep
  have hlow : offset / step < number + 1 := by
    refine Nat.lt_of_mul_lt_mul_right (a := step) ?_
    rw [Nat.succ_mul]
    omega
  have hhigh : number < offset / step + 2 := by
    refine Nat.lt_of_mul_lt_mul_right (a := step) ?_
    rw [Nat.add_mul]
    omega
  omega

end

/-- A property of two neighbouring numbers at most. -/
theorem countP_range_le_two {p : ℕ → Bool} {q : ℕ} (count : ℕ)
    (h : ∀ number, p number = true → number = q ∨ number = q + 1) :
    (List.range count).countP p ≤ 2 := by
  have hsubset : (List.range count).filter p ⊆ [q, q + 1] := by
    intro number hnumber
    rw [List.mem_pair]
    exact h number (List.mem_filter.mp hnumber).2
  rw [List.countP_eq_length_filter]
  exact (List.subperm_of_subset (List.nodup_range.filter p) hsubset).length_le

/-- The stretches cover a content of the given length. -/
structure Cover (length overlap : ℕ) (spans : List Span) : Prop where
  /-- A window with at most one character more than the overlap lies within one of them. -/
  windows : ∀ window : Span, window.stop ≤ length → window.stop ≤ window.start + (overlap + 1) →
    ∃ span ∈ spans, window.Within span
  /-- No offset is in more than two of them. -/
  twice : ∀ offset, spans.countP (fun span => span.Holds offset) ≤ 2

/-- Every offset is in one of the stretches: it makes a window of one character. -/
theorem Cover.once {length overlap offset : ℕ} {spans : List Span}
    (h : Cover length overlap spans) (hoffset : offset < length) :
    1 ≤ spans.countP fun span => span.Holds offset := by
  obtain ⟨span, hspan, hstart, hstop⟩ := h.windows ⟨offset, offset + 1⟩ hoffset (by simp)
  refine List.countP_pos_iff.mpr ⟨span, hspan, ?_⟩
  exact decide_eq_true ⟨hstart, hstop⟩

theorem cover_spans {length maxSize overlap : ℕ} (hsize : 0 < maxSize)
    (hhalf : 2 * overlap ≤ maxSize) : Cover length overlap (spans length maxSize overlap) := by
  rw [spans]
  by_cases hfits : length ≤ maxSize
  · rw [if_pos hfits]
    refine ⟨fun window hstop _ => ⟨_, List.mem_singleton_self _, Nat.zero_le _, hstop⟩, ?_⟩
    intro offset
    exact List.countP_le_length.trans (by simp)
  · rw [if_neg hfits]
    have hstep : 0 < maxSize - overlap := by omega
    obtain ⟨last, hcount, -, habove⟩ :=
      Double.ceilDiv_between (show 0 < length by omega) hstep
    constructor
    · intro window hstop hshort
      refine ⟨_, List.mem_map_of_mem ?_, within_spanOf hstep hstop hshort⟩
      -- The window ends before the last stretch does.
      rw [List.mem_range, hcount]
      refine Nat.div_lt_of_lt_mul ?_
      rw [Nat.mul_comm]
      omega
    · intro offset
      rw [List.countP_map]
      refine countP_range_le_two (q := offset / (maxSize - overlap)) _ fun number hnumber => ?_
      exact number_of_holds hstep (by omega) (of_decide_eq_true hnumber)

/-! ## Lengths -/

/-- Texts that begin with the last characters of the one before them have more characters than what
they make up: those that are shared. -/
theorem sum_length_of_shares {overlap : ℕ} (first : List Char) (rest : List (List Char))
    (h : (first :: rest).IsChain fun text next =>
      ∃ shared, shared.length = overlap ∧ shared <:+ text ∧ shared <+: next) :
    ((first :: rest).map List.length).sum =
      (joined overlap (first :: rest)).length + overlap * rest.length := by
  induction rest generalizing first with
  | nil => simp [joined]
  | cons next rest ih =>
    rw [List.isChain_cons_cons] at h
    obtain ⟨⟨shared, hshared, -, hprefix⟩, hrest⟩ := h
    have hlong : overlap ≤ next.length := hshared ▸ hprefix.length_le
    have hsum := ih next hrest
    simp only [joined, List.map_cons, List.sum_cons, List.length_append, List.flatMap_cons,
      List.length_drop, List.length_cons, Nat.mul_succ] at hsum ⊢
    omega

theorem IsCut.sum_length {content : List Char} {maxSize overlap : ℕ} {texts : List (List Char)}
    (h : IsCut content maxSize overlap texts) (hne : texts ≠ []) :
    (texts.map List.length).sum = content.length + overlap * (texts.length - 1) := by
  obtain ⟨first, rest, rfl⟩ := List.exists_cons_of_ne_nil hne
  have hsum := sum_length_of_shares first rest h.shares
  rw [h.joined] at hsum
  exact hsum

/-- The lengths of the stretches add up to that of the content and of all overlaps. -/
theorem sum_length_cut {content : List Char} {maxSize overlap : ℕ} (hsize : 0 < maxSize)
    (hhalf : 2 * overlap ≤ maxSize) :
    ((spans content.length maxSize overlap).map fun span => (span.cut content).length).sum =
      content.length + overlap * ((spans content.length maxSize overlap).length - 1) := by
  rw [spans]
  by_cases hfits : content.length ≤ maxSize
  · simp [if_pos hfits, Span.cut]
  · have hcut := isCut_slices hsize hhalf (by omega : maxSize < content.length)
    have hmany := one_lt_ceilDiv (show 0 < maxSize - overlap by omega)
      (show maxSize - overlap < content.length by omega)
    have hsum := hcut.sum_length (List.ne_nil_of_length_pos (by simp; omega))
    rw [if_neg hfits]
    simpa [Function.comp_def, cut_spanOf] using hsum

/-! ## Divisions -/

/-- The contents of the parts are what lies at their places. -/
theorem contentsOf_eq {content : String} {maxSize overlap : ℕ} {rate : Double} (hsize : 0 < maxSize)
    (hwidth : overlapWidth maxSize rate = .ok overlap) (hhalf : 2 * overlap ≤ maxSize)
    (hlength : content.length < 2 ^ 53) :
    contentsOf content maxSize rate = (spans content.length maxSize overlap).map fun span =>
      String.ofList (span.cut content.toList) := by
  rw [contentsOf, hwidth, spans]
  by_cases hfits : content.length ≤ maxSize
  · have hcount : partCount content.toList.length maxSize rate = .ok 1 := by
      rw [partCount, if_pos (.inr (by exact_mod_cast hfits))]
      rfl
    rw [hcount, if_pos hfits]
    show [content] = [String.ofList ((content.toList.take content.toList.length).drop 0)]
    rw [List.drop_zero, List.take_length, String.ofList_toList]
  · have hcount := partCount_eq hsize hwidth hhalf (show maxSize < content.length by omega) hlength
    have hmany := one_lt_ceilDiv (show 0 < maxSize - overlap by omega)
      (show maxSize - overlap < content.length by omega)
    rw [show partCount content.toList.length maxSize rate = _ from hcount, if_neg hfits]
    dsimp only
    rw [if_neg (by omega), List.map_map, Int.toNat_natCast, Int.toNat_natCast,
      ← Nat.cast_sub (by omega), Int.toNat_natCast]
    refine List.map_congr_left fun number _ => ?_
    exact congrArg String.ofList (cut_spanOf content.toList _ _ number).symm

/-- The parts cover the content, each from its place. -/
structure IsCovered (content : String) (overlap : ℕ) (places : List Span) (parts : List Part) :
    Prop where
  /-- Every part has the characters of its place. -/
  texts : parts.map Part.content =
    places.map fun place => some (String.ofList (place.cut content.toList))
  /-- A window of the content with at most one character more than the overlap lies in a place. -/
  windows : ∀ window : Span, window.stop ≤ content.length →
    window.stop ≤ window.start + (overlap + 1) → ∃ place ∈ places, window.Within place
  /-- So a phrase of that length stands in a part wherever it stands in the content. -/
  phrases : ∀ phrase : List Char, phrase <:+: content.toList → phrase.length ≤ overlap + 1 →
    ∃ part ∈ parts, ∃ text, part.content = some text ∧ phrase <:+: text.toList
  /-- Every character is in one part or in two. -/
  once : ∀ offset < content.length, 1 ≤ places.countP fun place => place.Holds offset
  twice : ∀ offset < content.length, (places.countP fun place => place.Holds offset) ≤ 2
  lengths : (parts.map fun part => (part.content.getD "").length).sum =
    content.length + overlap * (parts.length - 1)

theorem isCovered_of_texts {content : String} {maxSize overlap : ℕ} {parts : List Part}
    (hsize : 0 < maxSize) (hhalf : 2 * overlap ≤ maxSize)
    (htexts : parts.map Part.content = (spans content.length maxSize overlap).map fun place =>
      some (String.ofList (place.cut content.toList))) :
    IsCovered content overlap (spans content.length maxSize overlap) parts := by
  have hcover : Cover content.length overlap (spans content.length maxSize overlap) :=
    cover_spans hsize hhalf
  refine
    { texts := htexts
      windows := hcover.windows
      phrases := fun phrase hphrase hshort => ?_
      once := fun offset hoffset => hcover.once hoffset
      twice := fun offset _ => hcover.twice offset
      lengths := ?_ }
  · obtain ⟨window, hstop, hin, rfl⟩ := Span.exists_of_isInfix hphrase
    obtain ⟨place, hplace, hwithin⟩ := hcover.windows window hin (by omega)
    have hmem : some (String.ofList (place.cut content.toList)) ∈ parts.map Part.content :=
      htexts ▸ List.mem_map_of_mem hplace
    obtain ⟨part, hpart, htext⟩ := List.mem_map.mp hmem
    exact ⟨part, hpart, _, htext, by simpa using hwithin.isInfix_cut content.toList⟩
  · have hcount := congrArg List.length htexts
    rw [List.length_map, List.length_map] at hcount
    have hsum := congrArg (fun texts => (texts.map fun text => (text.getD "").length).sum) htexts
    simp only [List.map_map, Function.comp_def, Option.getD_some, String.length_ofList] at hsum
    rw [hsum, hcount]
    exact sum_length_cut hsize hhalf

/-- **The parts of a document cover its content, and keep short phrases whole.**  What a division
accepts it divides into parts each of which is a stretch of the content.  A phrase of at most one
character more than the overlap lies within a part wherever it stands, every character is in one
part or in two, and together the parts are longer than the content by their overlaps. -/
theorem covers {document : Document} {maxSize overlap : ℤ} {rate : Double}
    (hlength : document.content.length < 2 ^ 53) (hsize : 0 < maxSize)
    (h : Accepts document maxSize rate overlap) :
    0 ≤ overlap ∧ ∃ parts, divide document maxSize rate = .ok parts ∧
      IsCovered document.content overlap.toNat
        (spans document.content.length maxSize.toNat overlap.toNat) parts := by
  have hoverlap := overlapWidth_nonneg h.size h.fraction h.width
  have hnonneg := hsize.le
  lift maxSize to ℕ using hnonneg
  lift overlap to ℕ using hoverlap
  have hhalf : 2 * overlap ≤ maxSize := by exact_mod_cast h.half
  have hpos : 0 < maxSize := by exact_mod_cast hsize
  obtain ⟨parts, hparts, -⟩ := exists_division h hlength
  refine ⟨Int.natCast_nonneg _, parts, hparts, isCovered_of_texts hpos hhalf ?_⟩
  rw [divide_ok hparts, contentsOf_eq hpos h.width hhalf hlength]
  exact (content_partsWith document _).trans List.map_map

/-- The places of seven characters in parts of four that overlap in two. -/
theorem covers_scale : (scale.content.length < 2 ^ 53 ∧ (0 : ℤ) < 4 ∧
    Accepts scale 4 (.ofRatio false 1 2) 2) ∧ ∃ parts,
      divide scale 4 (.ofRatio false 1 2) = .ok parts ∧
        IsCovered scale.content 2 [⟨0, 2⟩, ⟨0, 4⟩, ⟨2, 6⟩, ⟨4, 7⟩] parts := by
  have hlength : scale.content.length < 2 ^ 53 := by decide
  have haccepts : Accepts scale 4 (.ofRatio false 1 2) 2 :=
    ⟨by decide, by decide, by decide, by decide, fun _ => by decide⟩
  obtain ⟨-, parts, hparts, hcovered⟩ := covers hlength (by decide) haccepts
  exact ⟨⟨hlength, by decide, haccepts⟩, parts, hparts, hcovered⟩

end SearchGateway.Segment
