import Mathlib.Data.List.TakeWhile
import Mathlib.Data.String.Basic
import Mathlib.Tactic
import SearchGateway.CommandLine.SearchWords
import SearchGateway.Proofs.Json.Numbers
import SearchGateway.Proofs.Text.Splitting

/-!
# Points in text

A point is written as two numbers with a comma between them (`point?_eq_some`), and nothing else is
one (`exists_of_point?`).  A decimal in plain writing is read as the number nearest to it
(`DecimalText.decimal?_text`), so two of them make a point.
-/

set_option autoImplicit false

namespace SearchGateway

/-! ## Characters of numbers -/

namespace Numeral

open Json.Reader

/-- The characters of decimals in plain writing. -/
def IsPlain (c : Char) : Prop := c.isDigit = true ∨ c = '.' ∨ c = '-' ∨ c = '+'

theorem exists_of_isDigit {c : Char} (h : c.isDigit = true) :
    ∃ n < 10, c = Char.ofNat ('0'.toNat + n) := by
  have hrange : '0'.toNat ≤ c.toNat ∧ c.toNat ≤ '9'.toNat := by
    simpa [Char.isDigit, UInt32.le_iff_toNat_le] using h
  have hzero : '0'.toNat = 48 := rfl
  have hnine : '9'.toNat = 57 := rfl
  refine ⟨c.toNat - '0'.toNat, by omega, ?_⟩
  rw [Nat.add_sub_cancel' hrange.1, Char.ofNat_toNat]

/-- Characters of plain decimals stand for themselves, and none of them is a small letter. -/
theorem IsPlain.spec {c : Char} (h : IsPlain c) :
    Text.isSpace c = false ∧ asciiDigit c = c ∧ c.isLower = false := by
  have hdigits : ∀ n < 10, Text.isSpace (Char.ofNat ('0'.toNat + n)) = false ∧
      asciiDigit (Char.ofNat ('0'.toNat + n)) = Char.ofNat ('0'.toNat + n) ∧
      (Char.ofNat ('0'.toNat + n)).isLower = false := by
    decide
  rcases h with hdigit | rfl | rfl | rfl
  · obtain ⟨n, hn, rfl⟩ := exists_of_isDigit hdigit
    exact hdigits n hn
  all_goals decide

theorem IsPlain.ne {c d : Char} (h : IsPlain c) (hd : d ∈ ['_', ',', '=', ' ']) : c ≠ d := by
  rintro rfl
  unfold IsPlain at h
  simp only [List.mem_cons, List.not_mem_nil, or_false] at hd
  rcases hd with rfl | rfl | rfl | rfl
  all_goals
    revert h
    decide

/-- Characters of plain decimals are taken as they are. -/
theorem normalized_eq {s : String} (h : ∀ c ∈ s.toList, IsPlain c) : normalized s = s.toList := by
  have htrim (cs : List Char) (hcs : ∀ c ∈ cs, IsPlain c) : cs.dropWhile Text.isSpace = cs := by
    cases cs with
    | nil => rfl
    | cons c cs =>
      rw [List.dropWhile_cons_of_neg]
      rw [(hcs c (List.mem_cons_self ..)).spec.1]
      exact Bool.false_ne_true
  have hreverse : ∀ c ∈ s.toList.reverse, IsPlain c := fun c hc => h c (List.mem_reverse.mp hc)
  rw [normalized, Text.trimBoth, htrim _ h, htrim _ hreverse, List.reverse_reverse]
  exact (List.map_congr_left fun c hc => (h c hc).spec.2.1).trans (List.map_id s.toList)

/-- Without underscores there is none in a wrong place. -/
theorem underscoresInside_eq {cs : List Char} (h : '_' ∉ cs) (inDigit : Bool) :
    underscoresInside inDigit cs = true := by
  induction cs generalizing inDigit with
  | nil => rfl
  | cons c cs ih =>
    obtain ⟨hc, hcs⟩ := List.ne_and_not_mem_of_not_mem_cons h
    rw [underscoresInside]
    · exact ih hcs _
    · exact fun hunderscore => hc hunderscore.symm

/-- Characters of plain decimals are read without more ado. -/
theorem decimal?_eq {s : String} (h : ∀ c ∈ s.toList, IsPlain c) :
    decimal? s = plainDecimal? s.toList := by
  have hunderscore : '_' ∉ s.toList := fun hmem => (h _ hmem).ne (by decide) rfl
  have hfilter : s.toList.filter (· ≠ '_') = s.toList :=
    List.filter_eq_self.mpr fun c hc => decide_eq_true ((h c hc).ne (by decide))
  have hinside := underscoresInside_eq hunderscore false
  unfold decimal?
  simp only [normalized_eq h, hinside, if_true, hfilter]

/-- The digits in front are those that JSON has in front. -/
theorem leadingDigits_eq (cs : List Char) : leadingDigits cs = digits cs := by
  refine Prod.ext ?_ rfl
  show (cs.takeWhile Char.isDigit).filterMap Text.asciiDigitValue? =
    (cs.takeWhile Char.isDigit).map fun c => c.toNat - '0'.toNat
  rw [← List.filterMap_eq_map]
  refine List.filterMap_congr fun c hc => ?_
  rw [Text.asciiDigitValue?, if_pos (List.mem_takeWhile_imp hc)]
  rfl

end Numeral

/-! ## Decimals in plain writing -/

/-- A decimal as it is written: a sign if it has one, digits, and perhaps a point with digits behind
it.  There is at least one digit. -/
structure DecimalText where
  /-- The sign, if there is one: whether it is a minus. -/
  minus : Option Bool
  whole : List Char
  /-- The digits behind the point, if there is a point. -/
  part : Option (List Char)
  digits : Json.Reader.AllDigits (whole ++ part.getD [])
  nonempty : whole ++ part.getD [] ≠ []

namespace DecimalText

open Json.Reader Numeral

variable (d : DecimalText)

/-- Whether the decimal begins with a minus. -/
def isNegative : Bool := d.minus.getD false

/-- The characters of the sign. -/
def signChars : List Char := (d.minus.map fun minus => if minus then '-' else '+').toList

/-- The characters behind the sign. -/
def magnitudeChars : List Char := d.whole ++ (d.part.map ('.' :: ·)).getD []

/-- The text of the decimal. -/
def text : String := String.ofList (d.signChars ++ d.magnitudeChars)

/-- The number nearest to the decimal. -/
def value : Double :=
  .ofDecimal d.isNegative ⟨valueOf (d.whole ++ d.part.getD []), -(d.part.getD []).length⟩

theorem isPlain_magnitudeChars : ∀ c ∈ d.magnitudeChars, c.isDigit = true ∨ c = '.' := by
  intro c hc
  have hdigits := d.digits
  rcases List.mem_append.mp hc with hwhole | hpart
  · exact .inl (hdigits c (List.mem_append_left _ hwhole))
  · cases hsome : d.part with
    | none =>
      rw [hsome] at hpart
      cases hpart
    | some ds =>
      rw [hsome] at hpart hdigits
      rcases List.mem_cons.mp hpart with rfl | hpart
      · exact .inr rfl
      · exact .inl (hdigits c (List.mem_append_right _ hpart))

theorem isPlain_text : ∀ c ∈ d.text.toList, IsPlain c := by
  intro c hc
  rw [text, String.toList_ofList] at hc
  rcases List.mem_append.mp hc with hsign | hmagnitude
  · obtain ⟨minus, -, rfl⟩ := Option.map_eq_some_iff.mp (Option.mem_toList.mp hsign)
    cases minus
    · exact .inr (.inr (.inr rfl))
    · exact .inr (.inr (.inl rfl))
  · exact (d.isPlain_magnitudeChars c hmagnitude).imp_right .inl

/-- Behind the sign there is a digit or a point. -/
theorem exists_magnitudeChars : ∃ c rest, d.magnitudeChars = c :: rest ∧
    (c.isDigit = true ∨ c = '.') := by
  have hne : d.magnitudeChars ≠ [] := by
    intro h
    obtain ⟨hwhole, hpart⟩ := List.append_eq_nil_iff.mp h
    have hnone : d.part = none := by
      cases hsome : d.part with
      | none => rfl
      | some ds =>
        rw [hsome] at hpart
        cases hpart
    exact d.nonempty (by rw [hwhole, hnone]; rfl)
  obtain ⟨c, rest, hchars⟩ := List.exists_cons_of_ne_nil hne
  exact ⟨c, rest, hchars, d.isPlain_magnitudeChars c (hchars ▸ List.mem_cons_self ..)⟩

/-- A decimal that begins with a minus. -/
theorem toList_text_of_isNegative (h : d.isNegative = true) :
    d.text.toList = '-' :: d.magnitudeChars := by
  have hminus : d.minus = some true := (Option.getD_eq_iff.mp h).resolve_right nofun
  rw [text, String.toList_ofList, signChars, hminus]
  rfl

/-- A decimal that does not begin with a minus does not begin with a dash either. -/
theorem exists_toList_text (h : d.isNegative = false) :
    ∃ c rest, d.text.toList = c :: rest ∧ c ≠ '-' := by
  obtain ⟨c, rest, hchars, hc⟩ := d.exists_magnitudeChars
  rw [text, String.toList_ofList, signChars, hchars]
  unfold isNegative at h
  cases hminus : d.minus with
  | some minus =>
    rw [hminus] at h
    obtain rfl : minus = false := h
    exact ⟨'+', c :: rest, rfl, by decide⟩
  | none =>
    refine ⟨c, rest, rfl, ?_⟩
    rintro rfl
    simp at hc

theorem sign_chars : sign (d.signChars ++ d.magnitudeChars) = (d.isNegative, d.magnitudeChars) := by
  obtain ⟨c, rest, hchars, hc⟩ := d.exists_magnitudeChars
  unfold signChars isNegative
  cases d.minus with
  | some minus => cases minus <;> rfl
  | none =>
    -- A digit and a point are no signs.
    have hminus : c ≠ '-' := by
      rintro rfl
      simp at hc
    have hplus : c ≠ '+' := by
      rintro rfl
      simp at hc
    rw [hchars]
    show sign (c :: rest) = _
    unfold sign
    split
    · exact absurd (List.cons.inj ‹_›).1 hminus
    · exact absurd (List.cons.inj ‹_›).1 hplus
    · rfl

/-- A decimal has none of the names of infinities and of not-a-number. -/
theorem lower_notMem : String.ofList (d.magnitudeChars.map Char.toLower) ∉
    ["inf", "infinity", "nan"] := by
  obtain ⟨c, rest, hchars, hc⟩ := d.exists_magnitudeChars
  have hdigits : ∀ n < 10, (Char.ofNat ('0'.toNat + n)).toLower ∉ ['i', 'n'] := by decide
  have hlower : c.toLower ∉ ['i', 'n'] := by
    rcases hc with hdigit | rfl
    · obtain ⟨n, hn, rfl⟩ := exists_of_isDigit hdigit
      exact hdigits n hn
    · decide
  intro hmem
  obtain ⟨name, hname, hequal⟩ : ∃ name ∈ ["inf", "infinity", "nan"],
      (c :: rest).map Char.toLower = name.toList :=
    ⟨_, hmem, by rw [String.toList_ofList, hchars]⟩
  have hhead : some c.toLower = name.toList.head? := by rw [← hequal]; rfl
  have hnames : ∀ name ∈ ["inf", "infinity", "nan"],
      name.toList.head? = some 'i' ∨ name.toList.head? = some 'n' := by decide
  rcases hnames name hname with hfirst | hfirst
  all_goals
    rw [Option.some.inj (hhead.trans hfirst)] at hlower
    simp at hlower

theorem magnitude?_chars (negative : Bool) : magnitude? negative d.magnitudeChars =
    some (.ofDecimal negative
      ⟨valueOf (d.whole ++ d.part.getD []), -(d.part.getD []).length⟩) := by
  have hwhole : AllDigits d.whole := fun c hc => d.digits c (List.mem_append_left _ hc)
  have hpart : AllDigits (d.part.getD []) := fun c hc => d.digits c (List.mem_append_right _ hc)
  have hnonempty : ¬((values d.whole).isEmpty && (values (d.part.getD [])).isEmpty) = true := by
    have hne := d.nonempty
    rw [ne_eq, List.append_eq_nil_iff] at hne
    simpa [values] using hne
  rw [← ofDigits_values, ← values_append, ← length_values (d.part.getD []), ← zero_sub]
  unfold magnitudeChars
  cases hsome : d.part with
  | none =>
    have hlead : leadingDigits (d.whole ++ []) = (values d.whole, []) := by
      rw [leadingDigits_eq]
      exact digits_append hwhole stops_nil.endsDigits
    rw [hsome] at hnonempty
    simp only [Option.map_none, Option.getD_none, magnitude?, hlead]
    exact if_neg hnonempty
  | some ds =>
    rw [hsome] at hpart hnonempty
    have hlead : leadingDigits (d.whole ++ '.' :: ds) = (values d.whole, '.' :: ds) := by
      rw [leadingDigits_eq]
      exact digits_append hwhole (endsDigits_cons _ rfl)
    have hbehind : leadingDigits (ds ++ []) = (values ds, []) := by
      rw [leadingDigits_eq]
      exact digits_append hpart stops_nil.endsDigits
    rw [List.append_nil] at hbehind
    simp only [Option.map_some, Option.getD_some, magnitude?, hlead, hbehind]
    exact if_neg hnonempty

/-- **A decimal is read as the number nearest to it.** -/
theorem decimal?_text : decimal? d.text = some d.value := by
  have hname := d.lower_notMem
  simp only [List.mem_cons, List.not_mem_nil, or_false, not_or] at hname
  obtain ⟨hinf, hinfinity, hnan⟩ := hname
  rw [decimal?_eq d.isPlain_text, text, String.toList_ofList]
  unfold plainDecimal?
  simp only [sign_chars, hinf, hinfinity, hnan, or_self, if_false]
  exact d.magnitude?_chars _

end DecimalText

namespace CommandLine

/-- **A point is two numbers with a comma between them.** -/
theorem exists_of_point? {text : String} {point : List Double} (h : point? text = some point) :
    ∃ (longitude latitude : String) (x y : Double), text = longitude ++ "," ++ latitude ∧
      Numeral.decimal? longitude = some x ∧ Numeral.decimal? latitude = some y ∧
      point = [x, y] := by
  unfold point? at h
  split at h
  case h_2 => cases h
  case h_1 longitude latitude hsplit =>
    obtain ⟨x, hx, h⟩ := Option.bind_eq_some_iff.mp h
    obtain ⟨y, hy, h⟩ := Option.bind_eq_some_iff.mp h
    refine ⟨longitude, latitude, x, y, ?_, hx, hy, (Option.some.inj h).symm⟩
    rw [Text.splitOn_ofList ','] at hsplit
    obtain ⟨a, rest, hpieces, rfl, hrest⟩ := List.map_eq_cons_iff.mp hsplit
    obtain ⟨b, rfl, rfl⟩ := List.map_eq_singleton_iff.mp hrest
    have hjoin : [','].intercalate (text.toList.splitOn ',') = text.toList :=
      List.intercalate_splitOn ','
    rw [hpieces] at hjoin
    rw [← String.toList_inj, ← hjoin]
    simp

/-- What is not two numbers with a comma between them is no point. -/
theorem point?_eq_none {text : String}
    (h : ∀ longitude latitude, text = longitude ++ "," ++ latitude →
      Numeral.decimal? longitude = none ∨ Numeral.decimal? latitude = none) :
    point? text = none := by
  cases hpoint : point? text with
  | none => rfl
  | some point =>
    obtain ⟨longitude, latitude, x, y, htext, hx, hy, -⟩ := exists_of_point? hpoint
    rcases h longitude latitude htext with hnone | hnone
    · rw [hx] at hnone
      cases hnone
    · rw [hy] at hnone
      cases hnone

theorem point?_eq_some {longitude latitude : String} {x y : Double}
    (hlongitude : ',' ∉ longitude.toList) (hlatitude : ',' ∉ latitude.toList)
    (hx : Numeral.decimal? longitude = some x) (hy : Numeral.decimal? latitude = some y) :
    point? (longitude ++ "," ++ latitude) = some [x, y] := by
  have hsplit : (longitude ++ "," ++ latitude).splitOn "," = [longitude, latitude] := by
    have hchars : (longitude ++ "," ++ latitude).toList =
        longitude.toList ++ ',' :: latitude.toList := by simp
    rw [Text.splitOn_ofList ',', hchars, List.splitOn_append_cons_self,
      List.splitOn_eq_singleton hlongitude, List.splitOn_eq_singleton hlatitude]
    simp
  rw [point?, hsplit]
  simp only [hx, hy]
  rfl

/-! ## Points as words -/

/-- Two decimals with a comma between them. -/
def pointText (longitude latitude : DecimalText) : String := longitude.text ++ "," ++ latitude.text

section

variable (longitude latitude : DecimalText)

theorem toList_pointText : (pointText longitude latitude).toList =
    longitude.text.toList ++ ',' :: latitude.text.toList := by
  simp [pointText]

theorem point?_pointText :
    point? (pointText longitude latitude) = some [longitude.value, latitude.value] := by
  have hcomma (d : DecimalText) : ',' ∉ d.text.toList := fun h =>
    (d.isPlain_text _ h).ne (by decide) rfl
  exact point?_eq_some (hcomma longitude) (hcomma latitude) longitude.decimal?_text
    latitude.decimal?_text

/-- No other character than those of decimals is in the text, but for the comma. -/
theorem isPlain_or_comma : ∀ c ∈ (pointText longitude latitude).toList,
    Numeral.IsPlain c ∨ c = ',' := by
  intro c hc
  rw [toList_pointText] at hc
  rcases List.mem_append.mp hc with h | h
  · exact .inl (longitude.isPlain_text c h)
  · rcases List.mem_cons.mp h with rfl | h
    · exact .inr rfl
    · exact .inl (latitude.isPlain_text c h)

theorem notMem_pointText : '=' ∉ (pointText longitude latitude).toList ∧
    ' ' ∉ (pointText longitude latitude).toList := by
  constructor
  · intro h
    rcases isPlain_or_comma longitude latitude _ h with hplain | hcomma
    · exact hplain.ne (by decide) rfl
    · cases hcomma
  · intro h
    rcases isPlain_or_comma longitude latitude _ h with hplain | hcomma
    · exact hplain.ne (by decide) rfl
    · cases hcomma

end

/-- Without a line feed at its end, a text has the same commas. -/
theorem comma_mem_dropLast {cs : List Char} (h : ',' ∈ cs) (hlast : cs.getLast? = some '\n') :
    ',' ∈ cs.dropLast := by
  obtain ⟨before, rfl⟩ := List.getLast?_eq_some_iff.mp hlast
  rw [List.dropLast_concat]
  simpa using h

/-- What has a comma in it does not look like a number. -/
theorem looksLikeNumber_of_comma {cs : List Char} (h : ',' ∈ cs) : looksLikeNumber cs = false := by
  have hcomma : (Text.digitValue? ',').isSome = false := by decide
  have hshort : ',' ∈ if cs.getLast? = some '\n' then cs.dropLast else cs := by
    split
    case isTrue hlast => exact comma_mem_dropLast h hlast
    case isFalse => exact h
  unfold looksLikeNumber
  revert hshort
  generalize (if cs.getLast? = some '\n' then cs.dropLast else cs) = ds
  intro hshort
  dsimp only
  -- The comma is no digit, and it is not in front of the point either.
  split
  case h_1 hall =>
    rw [List.dropWhile_eq_nil_iff.mp hall _ hshort] at hcomma
    cases hcomma
  case h_2 decimals hpoint =>
    have hmem : ',' ∈ decimals := by
      rw [← List.takeWhile_append_dropWhile (p := fun c => (Text.digitValue? c).isSome) (l := ds),
        hpoint] at hshort
      rcases List.mem_append.mp hshort with hbefore | hbehind
      · rw [List.mem_takeWhile_imp hbefore] at hcomma
        cases hcomma
      · exact (List.mem_cons.mp hbehind).resolve_left (by decide)
    rw [Bool.and_eq_false_iff]
    right
    rw [List.all_eq_false]
    exact ⟨',', hmem, by simp [hcomma]⟩
  case h_3 => rfl

/-- A word with a comma that starts with a dash and has no blank in it is taken for a name. -/
theorem strangeWord_of_comma {σ : Type} {word : String} (hcomma : ',' ∈ word.toList.drop 1)
    (hblank : ' ' ∉ word.toList) : (strangeWord word : Word σ) = .unknown word := by
  have hcontains : word.toList.contains ' ' = false := by simpa using hblank
  rw [strangeWord, looksLikeNumber_of_comma hcomma, hcontains]
  rfl

end CommandLine

end SearchGateway
