import Mathlib.Tactic

/-!
# Lists in order

A list that is in strict order by a key is determined by its members (`eq_of_ordered`), and what
comes before a certain point in it are its first members (`eq_filter_append_of_ordered`).
-/

set_option autoImplicit false

namespace SearchGateway

variable {α β : Type}

theorem nodup_eraseDups [BEq α] [LawfulBEq α] (as : List α) : as.eraseDups.Nodup := by
  induction hlength : as.length using Nat.strong_induction_on generalizing as with
  | _ n ih =>
    cases as with
    | nil => exact List.nodup_nil
    | cons a as =>
      rw [List.eraseDups_cons, List.nodup_cons]
      refine ⟨by simp [List.mem_eraseDups], ih _ ?_ _ rfl⟩
      rw [← hlength, List.length_cons]
      exact Nat.lt_succ_of_le (List.length_filter_le ..)

variable [Preorder β] {key : α → β} {as bs : List α}

/-- Lists in order with the same members are the same. -/
theorem eq_of_ordered (has : as.Pairwise fun a b => key a < key b)
    (hbs : bs.Pairwise fun a b => key a < key b) (h : ∀ a, a ∈ as ↔ a ∈ bs) : as = bs := by
  have hnodup {cs : List α} (hcs : cs.Pairwise fun a b => key a < key b) : cs.Nodup := by
    refine hcs.imp ?_
    rintro a _ hlt rfl
    exact lt_irrefl _ hlt
  have hperm : as.Perm bs := (List.perm_ext_iff_of_nodup (hnodup has) (hnodup hbs)).mpr h
  exact hperm.eq_of_pairwise (fun _ _ _ _ hlt hgt => absurd hgt (lt_asymm hlt)) has hbs

/-- In a list in order the members come first that have a property which all before them have. -/
theorem eq_filter_append_of_ordered (has : as.Pairwise fun a b => key a < key b) (p : α → Bool)
    (hp : ∀ a ∈ as, ∀ b ∈ as, key a < key b → p b = true → p a = true) :
    as = as.filter p ++ as.filter (!p ·) := by
  induction as with
  | nil => rfl
  | cons a as ih =>
    obtain ⟨hfirst, hrest⟩ := List.pairwise_cons.mp has
    by_cases ha : p a = true
    · rw [List.filter_cons_of_pos ha, List.filter_cons_of_neg (by simp [ha]), List.cons_append,
        ← ih hrest fun b hb c hc => hp b (List.mem_cons_of_mem _ hb) c (List.mem_cons_of_mem _ hc)]
    · -- None of those behind has the property either.
      have hnone : ∀ b ∈ as, ¬p b = true := fun b hb hpb =>
        ha (hp a List.mem_cons_self b (List.mem_cons_of_mem _ hb) (hfirst b hb) hpb)
      rw [List.filter_cons_of_neg ha, List.filter_cons_of_pos (by simpa using ha),
        List.filter_eq_nil_iff.mpr hnone, List.filter_eq_self.mpr (by simpa using hnone)]
      rfl

end SearchGateway
