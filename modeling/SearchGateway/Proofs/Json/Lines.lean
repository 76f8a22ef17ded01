import SearchGateway.Proofs.Json.RoundTrip

/-!
# Values in one line of text

A layout that gives no line to an item of its own, and has no line break in its separators, writes
every value into one line (`newline_not_mem_render`): a line break within a text is escaped.
-/

set_option autoImplicit false

namespace SearchGateway.Json

open Reader

/-- A layout that has no line breaks of its own. -/
structure Layout.OneLine (layout : Layout) : Prop where
  comma : '\n' ∉ layout.comma
  colon : '\n' ∉ layout.colon
  indent : layout.indent = none

theorem Layout.oneLine_line : line.OneLine := ⟨by decide, by decide, rfl⟩

theorem Layout.OneLine.newline {layout : Layout} (h : layout.OneLine) (depth : ℕ) :
    layout.newline depth = [] := by
  rw [Layout.newline, h.indent]

/-! ## Scalars -/

theorem newline_not_mem_of_allDigits {ds : List Char} (h : AllDigits ds) : '\n' ∉ ds :=
  fun hmem => absurd (h _ hmem) (by decide)

theorem newline_not_mem_writeInt (n : ℤ) : '\n' ∉ writeInt n := by
  have hdigits := newline_not_mem_of_allDigits (allDigits_digitsOf n.natAbs)
  unfold writeInt
  split
  · rw [List.mem_cons, not_or]
    exact ⟨by decide, hdigits⟩
  · exact hdigits

theorem newline_not_mem_layOut (style : NumberStyle) (d : Decimal) : '\n' ∉ style.layOut d := by
  have hzeros (n : ℕ) := newline_not_mem_of_allDigits (allDigits_zeros n)
  have hpower := newline_not_mem_of_allDigits (allDigits_digitsOf d.leading.natAbs)
  have hall := allDigits_digitsOf d.digits
  have hdigits := newline_not_mem_of_allDigits hall
  have htake (n : ℕ) := newline_not_mem_of_allDigits (hall.take n)
  have hdrop (n : ℕ) := newline_not_mem_of_allDigits (hall.drop n)
  unfold NumberStyle.layOut
  generalize Decimal.digitsOf d.digits = ds at hall hdigits htake hdrop ⊢
  simp only
  split
  case isTrue =>
    have hsign : '\n' ≠ (if d.leading < 0 then '-' else '+') := by split <;> decide
    match ds with
    | [] => simp [hzeros, hpower, hsign]
    | [c] => simp_all
    | c :: c' :: more => simp_all
  case isFalse =>
    split
    case isTrue => simp [hzeros, hdigits]
    case isFalse =>
      split
      case isTrue => simp [hzeros, hdigits]
      case isFalse => simp [htake, hdrop]

theorem newline_not_mem_double (d : Double) :
    '\n' ∉ (d.text NumberStyle.json).toList := by
  cases d with
  | nan => decide
  | infinite negative => cases negative <;> decide
  | finite negative m e hc =>
    have hmagnitude : '\n' ∉ (if m = 0 then ['0', '.', '0']
        else NumberStyle.json.layOut (Double.shortest m e)) := by
      split
      · decide
      · exact newline_not_mem_layOut _ _
    rw [Double.text, String.toList_ofList]
    split
    · rw [List.mem_cons, not_or]
      exact ⟨by decide, hmagnitude⟩
    · exact hmagnitude

theorem newline_not_mem_writeString (asciiOnly : Bool) (s : String) :
    '\n' ∉ writeString asciiOnly s := by
  simp [writeString, newline_not_mem_writeChar]

/-! ## Values -/

variable {layout : Layout}

mutual

theorem newline_not_mem_write (h : layout.OneLine) (level : ℕ) (v : Json) :
    '\n' ∉ write layout level v := by
  match v with
  | null => rw [write]; decide
  | bool true => rw [write]; decide
  | bool false => rw [write]; decide
  | int n => rw [write]; exact newline_not_mem_writeInt n
  | num d => rw [write]; exact newline_not_mem_double d
  | str s => rw [write]; exact newline_not_mem_writeString _ s
  | arr [] => rw [write]; decide
  | arr (item :: items) =>
    have hitem := newline_not_mem_write h (level + 1) item
    have hitems := newline_not_mem_writeItems h (level + 1) items
    simp [write, h.newline, hitem, hitems]
  | obj [] => rw [write]; decide
  | obj ((key, value) :: fields) =>
    have hkey := newline_not_mem_writeString layout.asciiOnly key
    have hvalue := newline_not_mem_write h (level + 1) value
    have hfields := newline_not_mem_writeFields h (level + 1) fields
    simp [write, h.newline, h.colon, hkey, hvalue, hfields]

theorem newline_not_mem_writeItems (h : layout.OneLine) (level : ℕ) (items : List Json) :
    '\n' ∉ writeItems layout level items := by
  match items with
  | [] => rw [writeItems]; exact List.not_mem_nil
  | item :: items =>
    have hitem := newline_not_mem_write h level item
    have hitems := newline_not_mem_writeItems h level items
    simp [writeItems, h.newline, h.comma, hitem, hitems]

theorem newline_not_mem_writeFields (h : layout.OneLine) (level : ℕ) (fields : Fields) :
    '\n' ∉ writeFields layout level fields := by
  match fields with
  | [] => rw [writeFields]; exact List.not_mem_nil
  | (key, value) :: fields =>
    have hkey := newline_not_mem_writeString layout.asciiOnly key
    have hvalue := newline_not_mem_write h level value
    have hfields := newline_not_mem_writeFields h level fields
    simp [writeFields, h.newline, h.comma, h.colon, hkey, hvalue, hfields]

end

/-- **A value is written into one line.** -/
theorem newline_not_mem_render (h : layout.OneLine) (v : Json) :
    '\n' ∉ (v.render layout).toList := by
  rw [render, String.toList_ofList]
  exact newline_not_mem_write h 0 v

end SearchGateway.Json
