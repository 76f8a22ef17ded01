import SearchGateway.Json.Reader
import SearchGateway.Json.Writer
import SearchGateway.Proofs.Double.Shortest

/-!
# Numbers in JSON text

A number that is written and read again is the same number, whatever follows it, as long as what
follows could not be more of the number (`Reader.Stops`).  An integer needs a text of at most
`Json.maxDigits` digits for that (`Reader.scalar_writeInt`); a binary64 number needs nothing
(`Reader.scalar_double`), since the decimal that is written rounds to it.
-/

set_option autoImplicit false

namespace SearchGateway.Json.Reader

/-- Characters that cannot go on with a number in front of them. -/
def Stops (rest : List Char) : Prop :=
  ∀ c ∈ rest.head?, c.isDigit = false ∧ c ≠ '.' ∧ c ≠ 'e' ∧ c ≠ 'E'

theorem stops_nil : Stops [] := by
  intro c hc
  simp at hc

theorem stops_cons {c : Char} {rest : List Char} (hc : c.isDigit = false) (hpoint : c ≠ '.')
    (he : c ≠ 'e') (hE : c ≠ 'E') : Stops (c :: rest) := by
  intro d hd
  simp only [List.head?_cons, Option.mem_def, Option.some.injEq] at hd
  subst hd
  exact ⟨hc, hpoint, he, hE⟩

/-! ## Digits -/

/-- The number that decimal digits stand for. -/
abbrev valueOf (ds : List Char) : ℕ := Nat.ofDigitChars 10 ds 0

/-- Characters that are all decimal digits. -/
def AllDigits (ds : List Char) : Prop := ∀ c ∈ ds, c.isDigit = true

/-- Characters of which the first, if there is one, is no digit. -/
def EndsDigits (rest : List Char) : Prop := ∀ c ∈ rest.head?, c.isDigit = false

theorem Stops.endsDigits {rest : List Char} (h : Stops rest) : EndsDigits rest :=
  fun c hc => (h c hc).1

theorem endsDigits_cons {c : Char} (rest : List Char) (hc : c.isDigit = false) :
    EndsDigits (c :: rest) := by
  intro d hd
  simp only [List.head?_cons, Option.mem_def, Option.some.injEq] at hd
  exact hd ▸ hc

theorem allDigits_digitsOf (n : ℕ) : AllDigits (Decimal.digitsOf n) :=
  fun _ hc => Nat.isDigit_of_mem_toDigits (by norm_num) (by norm_num) hc

theorem allDigits_zeros (n : ℕ) : AllDigits (NumberStyle.zeros n) := by
  intro c hc
  rw [NumberStyle.zeros, List.mem_replicate] at hc
  rw [hc.2]
  rfl

theorem AllDigits.append {ds es : List Char} (hd : AllDigits ds) (he : AllDigits es) :
    AllDigits (ds ++ es) := by
  intro c hc
  rcases List.mem_append.mp hc with h | h
  · exact hd c h
  · exact he c h

theorem AllDigits.take {ds : List Char} (hd : AllDigits ds) (n : ℕ) : AllDigits (ds.take n) :=
  fun c hc => hd c (List.mem_of_mem_take hc)

theorem AllDigits.drop {ds : List Char} (hd : AllDigits ds) (n : ℕ) : AllDigits (ds.drop n) :=
  fun c hc => hd c (List.mem_of_mem_drop hc)

theorem valueOf_append (ds es : List Char) :
    valueOf (ds ++ es) = valueOf ds * 10 ^ es.length + valueOf es := by
  rw [valueOf, Nat.ofDigitChars_append, Nat.ofDigitChars_eq_ofDigitChars_zero]
  ring

@[simp]
theorem valueOf_digitsOf (n : ℕ) : valueOf (Decimal.digitsOf n) = n :=
  Nat.ofDigitChars_ten_toDigits

@[simp]
theorem valueOf_zeros (n : ℕ) : valueOf (NumberStyle.zeros n) = 0 := by
  simp [valueOf, NumberStyle.zeros]

/-- The values of digits, one by one. -/
def values (ds : List Char) : List ℕ := ds.map fun c => c.toNat - '0'.toNat

@[simp]
theorem length_values (ds : List Char) : (values ds).length = ds.length := List.length_map ..

theorem values_append (ds es : List Char) : values ds ++ values es = values (ds ++ es) :=
  List.map_append.symm

@[simp]
theorem ofDigits_values (ds : List Char) : Decimal.ofDigits (values ds) = valueOf ds := by
  simp only [values, Decimal.ofDigits, List.foldl_map, valueOf, Nat.ofDigitChars_eq_foldl]

/-- Digits are read up to the first character that is none. -/
theorem digits_append {ds rest : List Char} (hd : AllDigits ds) (hr : EndsDigits rest) :
    digits (ds ++ rest) = (values ds, rest) := by
  have htake : rest.takeWhile Char.isDigit = [] := by
    cases rest with
    | nil => rfl
    | cons c rest => exact List.takeWhile_cons_of_neg (by simp [hr c rfl])
  have hdrop : rest.dropWhile Char.isDigit = rest := by
    cases rest with
    | nil => rfl
    | cons c rest => exact List.dropWhile_cons_of_neg (by simp [hr c rfl])
  unfold digits values
  rw [List.takeWhile_append_of_pos hd, List.dropWhile_append_of_pos hd, htake, hdrop,
    List.append_nil]

/-- The digits of a positive number do not begin with a zero. -/
theorem head_digitsOf_ne_zero (n : ℕ) (hn : 0 < n) : (Decimal.digitsOf n).head? ≠ some '0' := by
  induction n using Nat.strong_induction_on with
  | _ n ih =>
    unfold Decimal.digitsOf
    rw [Nat.toDigits_eq_if (by norm_num)]
    split
    case isTrue hlt =>
      interval_cases n <;> decide
    case isFalse hge =>
      rw [List.head?_append_of_ne_nil _ Nat.toDigits_ne_nil]
      exact ih (n / 10) (by omega) (by omega)

/-! ## Parts of a number -/

/-- The digits of a positive number are read as a whole part. -/
theorem integerDigits_append {ds rest : List Char} (hd : AllDigits ds) (hne : ds ≠ [])
    (hzero : ds.head? ≠ some '0') (hr : EndsDigits rest) :
    integerDigits (ds ++ rest) = some (values ds, rest) := by
  cases ds with
  | nil => exact absurd rfl hne
  | cons c ds =>
    have hc : c ≠ '0' := by
      rintro rfl
      exact hzero rfl
    have hdigits := digits_append hd hr
    simp only [List.cons_append] at hdigits ⊢
    unfold integerDigits
    split
    · simp_all
    · rw [hdigits]
      rfl

/-- A point with digits behind it is a fraction. -/
theorem fraction?_point {ds rest : List Char} (hd : AllDigits ds) (hne : ds ≠ [])
    (hr : EndsDigits rest) :
    fraction? ('.' :: (ds ++ rest)) = some (values ds, rest) := by
  cases ds with
  | nil => exact absurd rfl hne
  | cons c ds =>
    simp only [fraction?, digits_append hd hr]
    rfl

theorem fraction?_eq_none {rest : List Char} (h : ∀ c ∈ rest.head?, c ≠ '.') :
    fraction? rest = none := by
  unfold fraction?
  split
  · exact absurd rfl (h '.' rfl)
  · rfl

/-- A mark with a sign and digits behind it is an exponent. -/
theorem exponent?_mark {ds rest : List Char} (negative : Bool) (hd : AllDigits ds) (hne : ds ≠ [])
    (hr : EndsDigits rest) :
    exponent? ('e' :: (if negative then '-' else '+') :: (ds ++ rest)) =
      some (if negative then -(valueOf ds : ℤ) else valueOf ds, rest) := by
  have hsign : exponentSign ((if negative then '-' else '+') :: (ds ++ rest)) =
      (negative, ds ++ rest) := by cases negative <;> rfl
  cases ds with
  | nil => exact absurd rfl hne
  | cons c ds =>
    have hvalue : Decimal.ofDigits (values (c :: ds)) = valueOf (c :: ds) := ofDigits_values _
    simp only [exponent?, true_or, if_true, hsign, digits_append hd hr]
    rw [← hvalue]
    rfl

theorem exponent?_eq_none {rest : List Char} (h : ∀ c ∈ rest.head?, c ≠ 'e' ∧ c ≠ 'E') :
    exponent? rest = none := by
  unfold exponent?
  split
  · rename_i c rest
    obtain ⟨he, hE⟩ := h c rfl
    rw [if_neg (by simp [he, hE])]
  · rfl

/-! ## Numbers behind their sign -/

section

variable {cs ds es ps rest : List Char} (negative : Bool)

/-- Digits alone are an integer. -/
theorem number_integer (hcs : integerDigits cs = some (values ds, rest)) (hr : Stops rest)
    (hlen : ds.length ≤ maxDigits) :
    number negative cs =
      some (.int (if negative then -(valueOf ds : ℤ) else valueOf ds), rest) := by
  have hfraction : fraction? rest = none := fraction?_eq_none fun c hc => (hr c hc).2.1
  have hexponent : exponent? rest = none := exponent?_eq_none fun c hc => (hr c hc).2.2
  simp only [number, hcs, Option.bind_eq_bind, Option.bind_some, hfraction, hexponent,
    length_values, hlen, if_true, ofDigits_values]

/-- Digits with a point are a decimal. -/
theorem number_point (hcs : integerDigits cs = some (values ds, '.' :: (es ++ rest)))
    (he : AllDigits es) (hne : es ≠ []) (hr : Stops rest) :
    number negative cs =
      some (.num (.ofDecimal negative ⟨valueOf (ds ++ es), -es.length⟩), rest) := by
  have hfraction := fraction?_point he hne hr.endsDigits
  have hexponent : exponent? rest = none := exponent?_eq_none fun c hc => (hr c hc).2.2
  simp only [number, hcs, Option.bind_eq_bind, Option.bind_some, hfraction, hexponent,
    length_values, values_append, ofDigits_values]

/-- Digits with an exponent are a decimal. -/
theorem number_exponent (below : Bool)
    (hcs : integerDigits cs =
      some (values ds, 'e' :: (if below then '-' else '+') :: (ps ++ rest)))
    (hp : AllDigits ps) (hne : ps ≠ []) (hr : Stops rest) :
    number negative cs = some (.num (.ofDecimal negative
      ⟨valueOf ds, if below then -(valueOf ps : ℤ) else valueOf ps⟩), rest) := by
  have hfraction : fraction? ('e' :: (if below then '-' else '+') :: (ps ++ rest)) = none :=
    fraction?_eq_none (by simp)
  have hexponent := exponent?_mark below hp hne hr.endsDigits
  simp only [number, hcs, Option.bind_eq_bind, Option.bind_some, hfraction, hexponent,
    List.append_nil, ofDigits_values, List.length_nil, Nat.cast_zero, sub_zero]

/-- Digits with a point and an exponent are a decimal. -/
theorem number_point_exponent (below : Bool)
    (hcs : integerDigits cs = some (values ds,
      '.' :: (es ++ 'e' :: (if below then '-' else '+') :: (ps ++ rest))))
    (he : AllDigits es) (hes : es ≠ []) (hp : AllDigits ps) (hps : ps ≠ []) (hr : Stops rest) :
    number negative cs = some (.num (.ofDecimal negative
      ⟨valueOf (ds ++ es), (if below then -(valueOf ps : ℤ) else valueOf ps) - es.length⟩),
      rest) := by
  have hmark : EndsDigits ('e' :: (if below then '-' else '+') :: (ps ++ rest)) :=
    endsDigits_cons _ rfl
  have hfraction := fraction?_point he hes hmark
  have hexponent := exponent?_mark below hp hps hr.endsDigits
  simp only [number, hcs, Option.bind_eq_bind, Option.bind_some, hfraction, hexponent,
    length_values, values_append, ofDigits_values]

end

/-! ## Decimals as they are laid out -/

/-- Digits with a point behind the first one if there are more. -/
def mantissaText : List Char → List Char
  | [] => []
  | [c] => [c]
  | c :: more => c :: '.' :: more

/-- The digits of an exponent, without its sign. -/
def exponentText (style : NumberStyle) (first : ℤ) : List Char :=
  NumberStyle.zeros (style.exponentDigits - (Decimal.digitsOf first.natAbs).length) ++
    Decimal.digitsOf first.natAbs

theorem allDigits_exponentText (style : NumberStyle) (first : ℤ) :
    AllDigits (exponentText style first) :=
  (allDigits_zeros _).append (allDigits_digitsOf _)

theorem exponentText_ne_nil (style : NumberStyle) (first : ℤ) : exponentText style first ≠ [] :=
  List.append_ne_nil_of_right_ne_nil _ (Decimal.digitsOf_ne_nil _)

theorem signed_exponentText (style : NumberStyle) (first : ℤ) :
    (if decide (first < 0) then -(valueOf (exponentText style first) : ℤ)
      else valueOf (exponentText style first)) = first := by
  rw [exponentText, valueOf_append, valueOf_zeros, valueOf_digitsOf, Nat.zero_mul, Nat.zero_add]
  by_cases h : first < 0
  · rw [if_pos (by simpa using h)]
    omega
  · rw [if_neg (by simpa using h)]
    omega

section

variable {ds rest : List Char} (negative : Bool)

/-- The digits around a point and the exponent of the first digit. -/
theorem number_scientific (style : NumberStyle) (first : ℤ) (hall : AllDigits ds) (hne : ds ≠ [])
    (hzero : ds.head? ≠ some '0') (hr : Stops rest) :
    number negative (mantissaText ds ++ ['e', if first < 0 then '-' else '+'] ++
        exponentText style first ++ rest) =
      some (.num (.ofDecimal negative ⟨valueOf ds, first - (ds.length - 1 : ℕ)⟩), rest) := by
  have hp := allDigits_exponentText style first
  have hpne := exponentText_ne_nil style first
  have hsign : (if first < 0 then '-' else '+') = if decide (first < 0) then '-' else '+' := by
    simp
  rw [hsign]
  -- There is a point only if there are digits to stand behind it.
  match ds with
  | [] => exact absurd rfl hne
  | [c] =>
    have hcs := integerDigits_append hall hne hzero
      (endsDigits_cons ((if decide (first < 0) then '-' else '+') ::
        (exponentText style first ++ rest)) (c := 'e') rfl)
    have h := number_exponent negative (decide (first < 0)) hcs hp hpne hr
    rw [signed_exponentText] at h
    simpa [mantissaText] using h
  | c :: d :: more =>
    have hc : AllDigits [c] := fun x hx => hall x (by simp_all)
    have hmore : AllDigits (d :: more) := fun x hx => hall x (List.mem_cons_of_mem c hx)
    have hcs := integerDigits_append hc (by simp) (by simpa using hzero)
      (endsDigits_cons ((d :: more) ++ 'e' :: (if decide (first < 0) then '-' else '+') ::
        (exponentText style first ++ rest)) (c := '.') rfl)
    have h := number_point_exponent negative (decide (first < 0)) hcs hmore (by simp) hp hpne hr
    rw [signed_exponentText] at h
    simpa [mantissaText] using h

/-- A zero, a point, zeros, and the digits. -/
theorem number_below_one (zeros : ℕ) (hall : AllDigits ds) (hne : ds ≠ []) (hr : Stops rest) :
    number negative (['0', '.'] ++ NumberStyle.zeros zeros ++ ds ++ rest) =
      some (.num (.ofDecimal negative ⟨valueOf ds, -(zeros + ds.length : ℕ)⟩), rest) := by
  have hes : AllDigits (NumberStyle.zeros zeros ++ ds) := (allDigits_zeros zeros).append hall
  have hcs : integerDigits ('0' :: '.' :: ((NumberStyle.zeros zeros ++ ds) ++ rest)) =
      some (values ['0'], '.' :: ((NumberStyle.zeros zeros ++ ds) ++ rest)) := rfl
  have h := number_point negative hcs hes (List.append_ne_nil_of_right_ne_nil _ hne) hr
  have hvalue : valueOf (['0'] ++ (NumberStyle.zeros zeros ++ ds)) = valueOf ds := by
    rw [valueOf_append, valueOf_append, valueOf_zeros]
    simp [valueOf, Nat.ofDigitChars_cons]
  rw [hvalue] at h
  simpa [NumberStyle.zeros] using h

/-- The digits, zeros, a point and a zero. -/
theorem number_whole (zeros : ℕ) (hall : AllDigits ds) (hne : ds ≠ [])
    (hzero : ds.head? ≠ some '0') (hr : Stops rest) :
    number negative (ds ++ NumberStyle.zeros zeros ++ ['.', '0'] ++ rest) =
      some (.num (.ofDecimal negative ⟨valueOf ds * 10 ^ zeros * 10, -1⟩), rest) := by
  have hds : AllDigits (ds ++ NumberStyle.zeros zeros) := hall.append (allDigits_zeros zeros)
  have hhead : (ds ++ NumberStyle.zeros zeros).head? ≠ some '0' := by
    rwa [List.head?_append_of_ne_nil _ hne]
  have hcs := integerDigits_append hds (List.append_ne_nil_of_left_ne_nil hne _) hhead
    (endsDigits_cons (['0'] ++ rest) (c := '.') rfl)
  have hpoint : AllDigits ['0'] := allDigits_zeros 1
  have h := number_point negative hcs hpoint (by simp) hr
  have hvalue : valueOf (ds ++ NumberStyle.zeros zeros ++ ['0']) =
      valueOf ds * 10 ^ zeros * 10 := by
    rw [valueOf_append, valueOf_append, valueOf_zeros]
    simp [valueOf, NumberStyle.zeros, Nat.ofDigitChars_cons]
  rw [hvalue] at h
  simpa using h

/-- The digits with a point among them. -/
theorem number_split (n : ℕ) (hn : 0 < n) (hlt : n < ds.length) (hall : AllDigits ds)
    (hzero : ds.head? ≠ some '0') (hr : Stops rest) :
    number negative (ds.take n ++ '.' :: ds.drop n ++ rest) =
      some (.num (.ofDecimal negative ⟨valueOf ds, -(ds.length - n : ℕ)⟩), rest) := by
  have hne : ds.take n ≠ [] := by
    rw [← List.length_pos_iff, List.length_take]
    omega
  have hhead : (ds.take n).head? ≠ some '0' := by
    rwa [List.head?_take, if_neg (by omega)]
  have hdrop : ds.drop n ≠ [] := by
    rw [← List.length_pos_iff, List.length_drop]
    omega
  have hcs := integerDigits_append (hall.take n) hne hhead
    (endsDigits_cons (ds.drop n ++ rest) (c := '.') rfl)
  have h := number_point negative hcs (hall.drop n) hdrop hr
  rw [List.take_append_drop, List.length_drop] at h
  simpa using h

end

/-- **A decimal that is laid out is read as a decimal of the same value**, in every style. -/
theorem number_layOut (style : NumberStyle) (negative : Bool) {d : Decimal} (hd : 0 < d.digits)
    {rest : List Char} (hr : Stops rest) :
    ∃ d' : Decimal, d'.value = d.value ∧
      number negative (style.layOut d ++ rest) = some (.num (.ofDecimal negative d'), rest) := by
  have hall := allDigits_digitsOf d.digits
  have hne := Decimal.digitsOf_ne_nil d.digits
  have hzero := head_digitsOf_ne_zero d.digits hd
  have hvalue := valueOf_digitsOf d.digits
  have hpos : 0 < (Decimal.digitsOf d.digits).length := List.length_pos_iff.mpr hne
  have hleading : d.leading = d.exponent + (Decimal.digitsOf d.digits).length - 1 := rfl
  -- The four shapes of `layOut` in its order; in each the exponent makes up for the point.
  unfold NumberStyle.layOut
  generalize d.leading = first at *
  generalize Decimal.digitsOf d.digits = ds at *
  simp only
  split
  case isTrue h =>
    have hnumber := number_scientific negative style first hall hne hzero hr
    rw [exponentText, ← List.append_assoc] at hnumber
    refine ⟨_, ?_, hnumber⟩
    rw [Decimal.value, hvalue, Decimal.value]
    congr 2
    dsimp only
    omega
  case isFalse h =>
    split
    case isTrue hneg =>
      refine ⟨_, ?_, number_below_one negative _ hall hne hr⟩
      rw [Decimal.value, hvalue, Decimal.value]
      congr 2
      dsimp only
      omega
    case isFalse hnonneg =>
      split
      case isTrue hle =>
        refine ⟨_, ?_, number_whole negative _ hall hne hzero hr⟩
        have hexp : ((first.toNat + 1 - ds.length : ℕ) : ℤ) = d.exponent := by omega
        rw [Decimal.value, hvalue, Decimal.value, ← hexp, zpow_natCast, zpow_neg, zpow_one]
        push_cast
        field_simp
      case isFalse hgt =>
        refine ⟨_, ?_, number_split negative (first.toNat + 1) (by omega) (by omega) hall hzero hr⟩
        rw [Decimal.value, hvalue, Decimal.value]
        congr 2
        dsimp only
        omega

/-! ## Numbers as scalars -/

/-- None of the named values begins like a text with this first character. -/
def Unnamed (c : Char) : Prop := c ≠ 'n' ∧ c ≠ 't' ∧ c ≠ 'f' ∧ c ≠ 'N' ∧ c ≠ 'I' ∧ c ≠ '-'

theorem after?_cons_of_ne {e c : Char} (es cs : List Char) (h : c ≠ e) :
    after? (e :: es) (c :: cs) = none := by
  rw [after?, if_neg (Ne.symm h)]

theorem names_eq : names =
    [(['n', 'u', 'l', 'l'], .null), (['t', 'r', 'u', 'e'], .bool true),
      (['f', 'a', 'l', 's', 'e'], .bool false), (['N', 'a', 'N'], .num .nan),
      (['I', 'n', 'f', 'i', 'n', 'i', 't', 'y'], .num (.infinite false)),
      (['-', 'I', 'n', 'f', 'i', 'n', 'i', 't', 'y'], .num (.infinite true))] := by
  rfl

/-- A number without a sign is read as a number. -/
theorem scalar_unsigned {c : Char} (cs : List Char) (hc : Unnamed c) :
    scalar (c :: cs) = number false (c :: cs) := by
  obtain ⟨hn, ht, hf, hN, hI, hminus⟩ := hc
  unfold scalar
  rw [names_eq]
  simp only [List.findSome?, after?_cons_of_ne, hn, ht, hf, hN, hI, hminus, ne_eq,
    not_false_eq_true, Option.map_none]
  split
  · simp_all
  · rfl

/-- A number behind a minus is read as a number. -/
theorem scalar_minus {c : Char} (cs : List Char) (hc : c ≠ 'I') :
    scalar ('-' :: c :: cs) = number true (c :: cs) := by
  unfold scalar
  rw [names_eq]
  simp only [List.findSome?, after?, Char.reduceEq, if_false, if_true, hc.symm, Option.map_none]

theorem unnamed_of_isDigit {c : Char} (h : c.isDigit = true) : Unnamed c ∧ c ≠ 'I' := by
  refine ⟨⟨?_, ?_, ?_, ?_, ?_, ?_⟩, ?_⟩ <;> (rintro rfl; exact absurd h (by decide))

/-- A text that begins with a digit, behind a sign or not, is read as a number. -/
theorem scalar_signed (negative : Bool) {text rest : List Char}
    (h : ∃ c cs, text = c :: cs ∧ c.isDigit = true) :
    scalar ((if negative then '-' :: text else text) ++ rest) = number negative (text ++ rest) := by
  obtain ⟨c, cs, rfl, hc⟩ := h
  obtain ⟨hunnamed, hI⟩ := unnamed_of_isDigit hc
  cases negative with
  | true => exact scalar_minus _ hI
  | false => exact scalar_unsigned _ hunnamed

theorem exists_cons_of_allDigits {ds : List Char} (hall : AllDigits ds) (hne : ds ≠ [])
    (more : List Char) : ∃ c cs, ds ++ more = c :: cs ∧ c.isDigit = true := by
  cases ds with
  | nil => exact absurd rfl hne
  | cons c ds => exact ⟨c, ds ++ more, rfl, hall c (by simp)⟩

/-- An integer that has few enough digits is read back. -/
theorem scalar_writeInt {n : ℤ} (hn : (Decimal.digitsOf n.natAbs).length ≤ maxDigits)
    {rest : List Char} (hr : Stops rest) : scalar (writeInt n ++ rest) = some (.int n, rest) := by
  have hall := allDigits_digitsOf n.natAbs
  have hne := Decimal.digitsOf_ne_nil n.natAbs
  have hhead := exists_cons_of_allDigits hall hne []
  rw [List.append_nil] at hhead
  have hsign : writeInt n = if decide (n < 0) then '-' :: Decimal.digitsOf n.natAbs
      else Decimal.digitsOf n.natAbs := by
    simp [writeInt]
  have hdigits : integerDigits (Decimal.digitsOf n.natAbs ++ rest) =
      some (values (Decimal.digitsOf n.natAbs), rest) := by
    rcases Nat.eq_zero_or_pos n.natAbs with hzero | hpos
    · rw [hzero]
      rfl
    · exact integerDigits_append hall hne (head_digitsOf_ne_zero _ hpos) hr.endsDigits
  rw [hsign, scalar_signed _ hhead, number_integer _ hdigits hr hn, valueOf_digitsOf]
  by_cases h : n < 0
  · rw [if_pos (by simpa using h)]
    congr 3
    omega
  · rw [if_neg (by simpa using h)]
    congr 3
    omega

/-- A decimal as it is laid out begins with a digit. -/
theorem head_layOut (style : NumberStyle) (d : Decimal) :
    ∃ c cs, style.layOut d = c :: cs ∧ c.isDigit = true := by
  have hall := allDigits_digitsOf d.digits
  have hne := Decimal.digitsOf_ne_nil d.digits
  unfold NumberStyle.layOut
  generalize d.leading = first at *
  generalize Decimal.digitsOf d.digits = ds at *
  simp only
  split
  case isTrue =>
    match ds with
    | [] => exact absurd rfl hne
    | [c] => exact ⟨c, _, rfl, hall c (by simp)⟩
    | c :: d :: more => exact ⟨c, _, rfl, hall c (by simp)⟩
  case isFalse =>
    split
    case isTrue => exact ⟨'0', _, rfl, rfl⟩
    case isFalse =>
      split
      case isTrue =>
        rw [List.append_assoc]
        exact exists_cons_of_allDigits hall hne _
      case isFalse =>
        refine exists_cons_of_allDigits (hall.take _) ?_ _
        rw [← List.length_pos_iff, List.length_take]
        have := List.length_pos_iff.mpr hne
        omega

/-- **A binary64 number is read back from its text.** -/
theorem scalar_double (d : Double) {rest : List Char} (hr : Stops rest) :
    scalar ((d.text NumberStyle.json).toList ++ rest) = some (.num d, rest) := by
  cases d with
  | nan => rfl
  | infinite negative => cases negative <;> rfl
  | finite negative m e hc =>
    rw [Double.text, String.toList_ofList]
    by_cases hzero : m = 0
    · -- A zero has its least exponent, so its sign says which one it is.
      subst hzero
      obtain ⟨-, -, -, he | he⟩ := id hc
      · subst he
        simp only [if_true]
        rw [scalar_signed negative ⟨'0', _, rfl, rfl⟩]
        have hwhole : integerDigits (['0', '.', '0'] ++ rest) =
            some (values ['0'], '.' :: (['0'] ++ rest)) := rfl
        rw [number_point negative hwhole (allDigits_zeros 1) (by simp) hr]
        rfl
      · exact absurd he (by decide)
    · simp only [hzero, if_false]
      have hm : 0 < m := Nat.pos_of_ne_zero hzero
      have hround := Double.shortest_roundsTo hm hc
      have hdigits := Decimal.digits_pos_of_value (hround.pos hm)
      rw [scalar_signed negative (head_layOut _ _)]
      obtain ⟨d, hd, hnumber⟩ := number_layOut NumberStyle.json negative hdigits hr
      rw [hnumber, Double.ofDecimal_of_roundsTo negative hm hc (hd ▸ hround)]

end SearchGateway.Json.Reader
