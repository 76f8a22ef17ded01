import Mathlib.Tactic
import SearchGateway.Json.Reader
import SearchGateway.Json.Writer

/-!
# Texts in JSON text

A text that is written between quotes is read back, whatever characters it has and whether or not
those beyond ASCII are escaped (`Reader.text_write`).  The way goes through code units: what is
written for a character is read as its units (`Reader.units_writeChar`), and the units of a text
stand for its characters (`Text.ofUnits_unitsOf`), since no character is half of a pair.
-/

set_option autoImplicit false

namespace SearchGateway

/-! ## Hexadecimal digits -/

namespace Text

theorem hexValue?_digitChar {d : ℕ} (hd : d < 16) : hexValue? d.digitChar = some d := by
  interval_cases d <;> decide

theorem hexNumber?_append_digit {ds : List Char} {n d : ℕ} (hn : hexNumber? ds = some n)
    (hd : d < 16) : hexNumber? (ds ++ [d.digitChar]) = some (16 * n + d) := by
  unfold hexNumber? at hn ⊢
  rw [List.foldl_append, hn]
  simp [hexValue?_digitChar hd]

theorem hexNumber?_toDigits (n : ℕ) : hexNumber? (Nat.toDigits 16 n) = some n := by
  induction n using Nat.strong_induction_on with
  | _ n ih =>
    rw [Nat.toDigits_eq_if (by norm_num)]
    split
    case isTrue hlt =>
      have hzero : hexNumber? [] = some 0 := rfl
      have h := hexNumber?_append_digit hzero hlt
      simpa using h
    case isFalse hge =>
      rw [hexNumber?_append_digit (ih (n / 16) (by omega)) (Nat.mod_lt n (by norm_num)),
        Nat.div_add_mod]

/-- Zeros in front do not change a number. -/
theorem hexNumber?_hex (width n : ℕ) : hexNumber? (hex width n) = some n := by
  have hzeros (k : ℕ) : hexNumber? (List.replicate k '0' ++ Nat.toDigits 16 n) = some n := by
    induction k with
    | zero => exact hexNumber?_toDigits n
    | succ k ih => exact ih
  exact hzeros _

theorem length_hex {width n : ℕ} (hwidth : 0 < width) (hn : n < 16 ^ width) :
    (hex width n).length = width := by
  have hlen := (Nat.length_toDigits_le_iff (b := 16) (by norm_num) hwidth).mpr hn
  unfold hex
  simp only [List.length_append, List.length_replicate]
  omega

theorem exists_digitChar_of_mem_toDigits {n : ℕ} {c : Char} (hc : c ∈ Nat.toDigits 16 n) :
    ∃ d < 16, c = d.digitChar := by
  induction n using Nat.strong_induction_on with
  | _ n ih =>
    rw [Nat.toDigits_eq_if (by norm_num)] at hc
    split at hc
    case isTrue hlt => exact ⟨n, hlt, List.mem_singleton.mp hc⟩
    case isFalse hge =>
      rcases List.mem_append.mp hc with hc | hc
      · exact ih (n / 16) (by omega) hc
      · exact ⟨n % 16, Nat.mod_lt n (by norm_num), List.mem_singleton.mp hc⟩

theorem newline_not_mem_hex (width n : ℕ) : '\n' ∉ hex width n := by
  intro hmem
  rcases List.mem_append.mp hmem with h | h
  · exact absurd (List.eq_of_mem_replicate h) (by decide)
  · obtain ⟨d, hd, hc⟩ := exists_digitChar_of_mem_toDigits h
    interval_cases d <;> exact absurd hc (by decide)

/-! ## Code units -/

/-- The code units that a character is read as: a pair if it is escaped and beyond the basic
plane. -/
def unitsOf (asciiOnly : Bool) (c : Char) : List ℕ :=
  if asciiOnly ∧ 0x10000 ≤ c.toNat then
    [0xd800 + (c.toNat - 0x10000) / 0x400, 0xdc00 + (c.toNat - 0x10000) % 0x400]
  else [c.toNat]

theorem toNat_not_surrogate (c : Char) : c.toNat < 0xd800 ∨ 0xdfff < c.toNat :=
  c.valid.imp id And.left

theorem toNat_lt (c : Char) : c.toNat < 0x110000 := by
  rcases c.valid with h | h
  · exact lt_trans h (by norm_num)
  · exact h.2

/-- The units of a character stand for it, whatever units follow. -/
theorem ofUnits_unitsOf (asciiOnly : Bool) (c : Char) (us : List ℕ) :
    ofUnits (unitsOf asciiOnly c ++ us) = c :: ofUnits us := by
  have hvalid := toNat_not_surrogate c
  unfold unitsOf
  split
  case isTrue h =>
    -- Quotient and rest by 0x400 are what the two halves of a pair carry.
    have hlt := toNat_lt c
    simp only [List.cons_append, List.nil_append, ofUnits]
    rw [if_pos (by omega)]
    have hpoint : 0x10000 + (0xd800 + (c.toNat - 0x10000) / 0x400 - 0xd800) * 0x400 +
        (0xdc00 + (c.toNat - 0x10000) % 0x400 - 0xdc00) = c.toNat := by omega
    rw [hpoint, Char.ofNat_toNat]
  case isFalse h =>
    -- A single unit is not taken for the first half of a pair, since no character is one.
    have hscalar : scalarChar c.toNat = c := by
      have hnot : isSurrogate c.toNat = false := by
        simp only [isSurrogate, Bool.and_eq_false_iff, decide_eq_false_iff_not]
        omega
      rw [scalarChar, hnot, if_neg (by simp), Char.ofNat_toNat]
    cases us with
    | nil => simp only [List.cons_append, List.nil_append, ofUnits, hscalar]
    | cons low rest =>
      simp only [List.cons_append, List.nil_append, ofUnits, hscalar]
      rw [if_neg (by omega)]

theorem ofUnits_flatMap (asciiOnly : Bool) (cs : List Char) :
    ofUnits (cs.flatMap (unitsOf asciiOnly)) = cs := by
  induction cs with
  | nil => rfl
  | cons c cs ih => rw [List.flatMap_cons, ofUnits_unitsOf, ih]

end Text

/-! ## Escapes -/

namespace Json.Reader

theorem units_unitEscape {n : ℕ} (hn : n < 0x10000) (rest : List Char) :
    units (unitEscape n ++ rest) = (units rest).map fun p => (n :: p.1, p.2) := by
  have hlen : (Text.hex 4 n).length = 4 := Text.length_hex (by norm_num) hn
  have hnumber := Text.hexNumber?_hex 4 n
  obtain ⟨a, b, c, d, hhex⟩ := List.length_eq_four.mp hlen
  rw [hhex] at hnumber
  simp only [unitEscape, hhex, List.cons_append, List.nil_append, units, hnumber]
  cases units rest <;> rfl

/-- The escapes of one letter, with the code units that they stand for. -/
def letters : List (Char × ℕ) :=
  [('"', 0x22), ('\\', 0x5c), ('b', 0x8), ('f', 0xc), ('n', 0xa), ('r', 0xd), ('t', 0x9)]

/-- The four ways to write a character: as an escape of one letter, as the escape of its code unit,
as it is, and as the escapes of a pair. -/
theorem writeChar_cases (asciiOnly : Bool) (c : Char) :
    (∃ e n, (e, n) ∈ letters ∧ c.toNat = n ∧ writeChar asciiOnly c = ['\\', e]) ∨
    (c.toNat < 0x10000 ∧ writeChar asciiOnly c = unitEscape c.toNat) ∨
    (c ≠ '"' ∧ c ≠ '\\' ∧ ¬ c.toNat < 0x20 ∧ (asciiOnly = false ∨ c.toNat < 0x7f) ∧
      writeChar asciiOnly c = [c]) ∨
    (asciiOnly = true ∧ 0x10000 ≤ c.toNat ∧ writeChar asciiOnly c =
      unitEscape (0xd800 + (c.toNat - 0x10000) / 0x400) ++
        unitEscape (0xdc00 + (c.toNat - 0x10000) % 0x400)) := by
  have hletter {e : Char} {n : ℕ} (h : (e, n) ∈ letters) (hn : c.toNat = n) :
      ∃ e' n', (e', n') ∈ letters ∧ c.toNat = n' ∧ ['\\', e] = ['\\', e'] :=
    ⟨e, n, h, hn, rfl⟩
  -- The tests of `writeChar` in its order.
  unfold writeChar
  by_cases hquote : (c == '"') = true
  · rw [if_pos hquote]
    exact .inl (hletter (by decide) (congrArg Char.toNat (beq_iff_eq.mp hquote)))
  rw [if_neg hquote]
  by_cases hslash : (c == '\\') = true
  · rw [if_pos hslash]
    exact .inl (hletter (by decide) (congrArg Char.toNat (beq_iff_eq.mp hslash)))
  rw [if_neg hslash]
  by_cases hnewline : (c == '\n') = true
  · rw [if_pos hnewline]
    exact .inl (hletter (by decide) (congrArg Char.toNat (beq_iff_eq.mp hnewline)))
  rw [if_neg hnewline]
  by_cases hreturn : (c == '\r') = true
  · rw [if_pos hreturn]
    exact .inl (hletter (by decide) (congrArg Char.toNat (beq_iff_eq.mp hreturn)))
  rw [if_neg hreturn]
  by_cases htab : (c == '\t') = true
  · rw [if_pos htab]
    exact .inl (hletter (by decide) (congrArg Char.toNat (beq_iff_eq.mp htab)))
  rw [if_neg htab]
  by_cases hback : c.toNat = 8
  · rw [if_pos hback]
    exact .inl (hletter (by decide) hback)
  rw [if_neg hback]
  by_cases hfeed : c.toNat = 12
  · rw [if_pos hfeed]
    exact .inl (hletter (by decide) hfeed)
  rw [if_neg hfeed]
  by_cases hcontrol : c.toNat < 0x20
  · rw [if_pos hcontrol]
    exact .inr (.inl ⟨by omega, rfl⟩)
  rw [if_neg hcontrol]
  by_cases hplain : (!asciiOnly || decide (c.toNat < 0x7f)) = true
  · rw [if_pos hplain]
    exact .inr (.inr (.inl ⟨by simpa using hquote, by simpa using hslash, hcontrol,
      by simpa using hplain, rfl⟩))
  rw [if_neg hplain]
  by_cases hplane : c.toNat < 0x10000
  · rw [if_pos hplane]
    exact .inr (.inl ⟨hplane, rfl⟩)
  rw [if_neg hplane]
  have hascii : asciiOnly = true := by
    by_contra hnot
    exact hplain (by simp [hnot])
  exact .inr (.inr (.inr ⟨hascii, by omega, rfl⟩))

/-- An escape of one letter is read as the unit that the letter stands for. -/
theorem units_letter {e : Char} {n : ℕ} (he : (e, n) ∈ letters) (rest : List Char) :
    units ('\\' :: e :: rest) = (units rest).map fun p => (n :: p.1, p.2) := by
  simp only [letters, List.mem_cons, Prod.mk.injEq, List.not_mem_nil, or_false] at he
  rcases he with h | h | h | h | h | h | h <;> obtain ⟨rfl, rfl⟩ := h <;>
    rw [units] <;> cases units rest <;> rfl

theorem units_plain {c : Char} (hquote : c ≠ '"') (hslash : c ≠ '\\') (hc : ¬ c.toNat < 0x20)
    (rest : List Char) : units (c :: rest) = (units rest).map fun p => (c.toNat :: p.1, p.2) := by
  -- All equations of `units` but the last one are about a quote or a backslash.
  rw [units.eq_def]
  split
  case h_1 h => exact absurd h (List.cons_ne_nil _ _)
  case h_2 h => exact absurd (List.cons.inj h).1 hquote
  case h_3 h => exact absurd (List.cons.inj h).1 hslash
  case h_4 h => exact absurd (List.cons.inj h).1 hslash
  case h_5 h =>
    obtain ⟨rfl, rfl⟩ := List.cons.inj h
    rw [if_neg hc]
    cases units rest <;> rfl

/-- What is written for a character is read as its units. -/
theorem units_writeChar (asciiOnly : Bool) (c : Char) (rest : List Char) :
    units (writeChar asciiOnly c ++ rest) =
      (units rest).map fun p => (Text.unitsOf asciiOnly c ++ p.1, p.2) := by
  have hone (h : asciiOnly = false ∨ c.toNat < 0x10000) :
      Text.unitsOf asciiOnly c = [c.toNat] := by
    rw [Text.unitsOf, if_neg]
    rintro ⟨hascii, hplane⟩
    rcases h with h | h
    · exact absurd (hascii.symm.trans h) (by decide)
    · omega
  rcases writeChar_cases asciiOnly c with ⟨e, n, he, hn, hw⟩ | ⟨hplane, hw⟩ |
    ⟨hquote, hslash, hcontrol, hplain, hw⟩ | ⟨hascii, hplane, hw⟩
  · have hsmall : n < 0x10000 := (by decide : ∀ p ∈ letters, p.2 < 0x10000) _ he
    rw [hw, hone (.inr (hn ▸ hsmall)), hn]
    exact units_letter he rest
  · rw [hw, hone (.inr hplane)]
    exact units_unitEscape hplane rest
  · rw [hw, hone (hplain.imp_right fun h => by omega)]
    exact units_plain hquote hslash hcontrol rest
  · -- Each half of a pair is within the range of one escape.
    have hlt := Text.toNat_lt c
    rw [hw, Text.unitsOf, if_pos ⟨hascii, hplane⟩, List.append_assoc,
      units_unitEscape (by omega), units_unitEscape (by omega), Option.map_map]
    rfl

theorem units_flatMap (asciiOnly : Bool) (cs rest : List Char) :
    units (cs.flatMap (writeChar asciiOnly) ++ '"' :: rest) =
      some (cs.flatMap (Text.unitsOf asciiOnly), rest) := by
  induction cs with
  | nil => simp [units]
  | cons c cs ih => rw [List.flatMap_cons, List.append_assoc, units_writeChar, ih]; rfl

theorem newline_not_mem_writeChar (asciiOnly : Bool) (c : Char) :
    '\n' ∉ writeChar asciiOnly c := by
  have hunit (n : ℕ) : '\n' ∉ unitEscape n := by
    simpa [unitEscape] using Text.newline_not_mem_hex 4 n
  rcases writeChar_cases asciiOnly c with ⟨e, n, he, -, hw⟩ | ⟨-, hw⟩ |
    ⟨-, -, hcontrol, -, hw⟩ | ⟨-, -, hw⟩ <;> rw [hw]
  · exact (by decide : ∀ p ∈ letters, '\n' ∉ ['\\', p.1]) _ he
  · exact hunit _
  · rw [List.mem_singleton]
    rintro rfl
    exact hcontrol (by decide)
  · exact fun h => (List.mem_append.mp h).elim (hunit _) (hunit _)

/-- **A text that is written is read back.** -/
theorem text_write (asciiOnly : Bool) (s : String) (rest : List Char) :
    text (s.toList.flatMap (writeChar asciiOnly) ++ '"' :: rest) = some (s, rest) := by
  rw [text, units_flatMap]
  simp [Text.ofUnits_flatMap]

end Json.Reader

end SearchGateway
