import Mathlib.Tactic
import SearchGateway.Text.Raw

/-!
# Texts with an encoding

A raw text has an encoding exactly if it has no surrogate (`Text.Raw.encoded_eq_error_iff`), and
that of a text of characters is this text (`Text.Raw.encoded_ofString`).
-/

set_option autoImplicit false

namespace SearchGateway.Text

namespace Point

/-- No character is a surrogate, so its code point leads back to it. -/
@[simp]
theorem char?_ofChar (c : Char) : (ofChar c).char? = some c := by
  have hvalid := c.valid
  simp only [UInt32.isValidChar, Nat.isValidChar] at hvalid
  have hplain : isSurrogate (ofChar c) = false := by
    show (decide (0xd800 ≤ c.val.toNat) && decide (c.val.toNat ≤ 0xdfff)) = false
    rw [Bool.and_eq_false_iff, decide_eq_false_iff_not, decide_eq_false_iff_not]
    omega
  rw [char?, hplain, if_neg Bool.false_ne_true]
  exact congrArg some (Char.ofNat_toNat c)

theorem char?_eq_none_iff {point : Point} : point.char? = none ↔ isSurrogate point = true := by
  rw [char?]
  split <;> simp [*]

end Point

namespace Raw

theorem mapM_char?_ofChar (cs : List Char) : (cs.map Point.ofChar).mapM Point.char? = some cs := by
  induction cs with
  | nil => rfl
  | cons c cs ih => simp [ih]

/-- A text of characters is its own encoding. -/
theorem encoded_ofString (s : String) : (ofString s).encoded = .ok s := by
  rw [encoded, ofString, mapM_char?_ofChar]
  exact congrArg Except.ok (String.ofList_toList (s := s))

theorem ofString_append (s t : String) : ofString (s ++ t) = ofString s ++ ofString t := by
  rw [ofString, String.toList_append, List.map_append, ofString, ofString]

theorem mapM_char?_eq_none_iff {text : Raw} : text.mapM Point.char? = none ↔
    ∃ point ∈ text, isSurrogate point = true := by
  induction text with
  | nil => simp
  | cons point rest ih =>
    rw [List.exists_mem_cons_iff, ← Point.char?_eq_none_iff, ← ih, List.mapM_cons]
    cases point.char? with
    | none => simp
    | some c => cases rest.mapM Point.char? <;> simp

/-- **A text has no encoding exactly if it has a surrogate in it.** -/
theorem encoded_eq_error_iff {text : Raw} {defect : Defect} : text.encoded = .error defect ↔
    defect = .unencodableText ∧ ∃ point ∈ text, isSurrogate point = true := by
  rw [encoded, ← mapM_char?_eq_none_iff]
  cases text.mapM Point.char? with
  | none => simp [eq_comm]
  | some cs => simp

end Raw

end SearchGateway.Text
