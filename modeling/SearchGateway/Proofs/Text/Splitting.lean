import Mathlib.Data.String.Basic
import Mathlib.Tactic

/-!
# Texts cut at a character

A text is cut by positions in its bytes; what comes of it is what cutting the list of its characters
gives (`Text.splitOn_ofList`).
-/

set_option autoImplicit false

namespace SearchGateway.Text

open String

/-- The text between two positions. -/
theorem extract_between (before found rest : List Char) :
    Pos.Raw.extract (ofList (before ++ found ++ rest)) ⟨utf8Len before⟩
      ⟨utf8Len (before ++ found)⟩ = ofList found := by
  rw [utf8Len_append]
  exact extract_of_valid before found rest

/-- A text is cut by position as its characters are. -/
theorem splitOnAux_eq {c : Char} {cs before found rest : List Char}
    (h : cs = before ++ found ++ rest) (pieces : List String) :
    splitOnAux (ofList cs) (ofList [c]) ⟨utf8Len before⟩ ⟨utf8Len (before ++ found)⟩ 0 pieces =
      pieces.reverse ++ (List.splitOnPPrepend (· == c) rest found.reverse).map ofList := by
  have hget : Pos.Raw.get (ofList [c]) 0 = c := get_of_valid [] [c]
  have hnext : Pos.Raw.next (ofList [c]) 0 = ⟨utf8Len [c]⟩ := next_of_valid [] c []
  have hend : Pos.Raw.atEnd (ofList [c]) ⟨utf8Len [c]⟩ = true := (atEnd_of_valid [c] []).mpr rfl
  induction rest generalizing before found pieces with
  | nil =>
    have hdone : Pos.Raw.atEnd (ofList cs) ⟨utf8Len (before ++ found)⟩ = true :=
      h ▸ (atEnd_of_valid (before ++ found) []).mpr rfl
    rw [splitOnAux, if_pos hdone, h, extract_between, List.reverse_cons, List.splitOnPPrepend_nil,
      List.reverse_reverse, List.map_singleton]
  | cons d rest ih =>
    have hmore : ¬Pos.Raw.atEnd (ofList cs) ⟨utf8Len (before ++ found)⟩ = true := by
      rw [h, atEnd_of_valid]
      exact List.cons_ne_nil d rest
    have hd : Pos.Raw.get (ofList cs) ⟨utf8Len (before ++ found)⟩ = d :=
      h ▸ get_of_valid (before ++ found) (d :: rest)
    have hstep : Pos.Raw.next (ofList cs) ⟨utf8Len (before ++ found)⟩ =
        ⟨utf8Len (before ++ found ++ [d])⟩ := by
      rw [h, next_of_valid, utf8Len_append (before ++ found), utf8Len_cons, utf8Len_nil,
        Nat.zero_add]
    rw [splitOnAux, if_neg hmore, hd, hget]
    by_cases hdc : d = c
    · -- The piece up to here is finished.
      subst hdc
      have htext := h ▸ extract_between before found (d :: rest)
      have hback : Pos.Raw.unoffsetBy ⟨utf8Len (before ++ found ++ [d])⟩ ⟨utf8Len [d]⟩ =
          ⟨utf8Len (before ++ found)⟩ := by
        rw [Pos.Raw.unoffsetBy, utf8Len_append (before ++ found), Nat.add_sub_cancel]
      have hcs : cs = before ++ found ++ [d] ++ [] ++ rest := by simp [h]
      have hrest := ih hcs (ofList found :: pieces)
      rw [List.append_nil] at hrest
      simp only [beq_self_eq_true, if_true, hstep, hnext, hend, hback, htext, hrest]
      rw [List.splitOnPPrepend_cons_eq_if, if_pos (beq_self_eq_true d)]
      simp
    · have hcs : cs = before ++ (found ++ [d]) ++ rest := by simp [h]
      have hrest := ih hcs pieces
      rw [← List.append_assoc] at hrest
      have hback : Pos.Raw.unoffsetBy ⟨utf8Len (before ++ found)⟩ 0 =
          ⟨utf8Len (before ++ found)⟩ := rfl
      have hne : (d == c) = false := beq_eq_false_iff_ne.mpr hdc
      simp only [hne, Bool.false_eq_true, if_false, hback, hstep, hrest]
      rw [List.splitOnPPrepend_cons_eq_if, hne, List.reverse_append]
      rfl

/-- **A text is cut at a character as the list of its characters is.** -/
theorem splitOn_ofList (c : Char) (s : String) :
    s.splitOn (ofList [c]) = (s.toList.splitOn c).map ofList := by
  have h := splitOnAux_eq (c := c) (show s.toList = [] ++ [] ++ s.toList from rfl) []
  rw [ofList_toList] at h
  rw [splitOn, if_neg (by simp)]
  exact h

end SearchGateway.Text
