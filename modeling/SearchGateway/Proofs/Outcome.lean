import Mathlib.Tactic

/-!
# Outcomes

What can fail succeeds if all its steps do: two steps in a row (`Except.bind_eq_ok_iff`), and one
step for each member of a list (`isOk_mapM`, `isOk_filterM`).
-/

set_option autoImplicit false

namespace SearchGateway

variable {α β ε : Type}

/-- Two outcomes in a row succeed if both do. -/
theorem Except.bind_eq_ok_iff {first : Except ε α} {next : α → Except ε β} {b : β} :
    (first >>= next) = .ok b ↔ ∃ a, first = .ok a ∧ next a = .ok b := by
  cases first <;> simp [bind, Except.bind]

/-- A check and what follows it succeed if both do. -/
theorem Except.bind_eq_ok {first : Except ε Unit} {next : Unit → Except ε β} {b : β} :
    (first >>= next) = .ok b ↔ first = .ok () ∧ next () = .ok b :=
  Except.bind_eq_ok_iff.trans ⟨fun ⟨_, h⟩ => h, fun h => ⟨(), h⟩⟩

/-! ## Success -/

@[simp]
theorem isOk_ok (a : α) : (.ok a : Except ε α).isOk = true := rfl

@[simp]
theorem isOk_error (e : ε) : (.error e : Except ε α).isOk = false := rfl

theorem isOk_iff {outcome : Except ε α} : outcome.isOk = true ↔ ∃ a, outcome = .ok a := by
  cases outcome <;> simp

theorem isOk_bind {first : Except ε α} {next : α → Except ε β} :
    (first >>= next).isOk = true ↔ ∃ a, first = .ok a ∧ (next a).isOk = true := by
  cases first <;> simp [bind, Except.bind]

theorem isOk_mapM {f : α → Except ε β} {as : List α} :
    (as.mapM f).isOk = true ↔ ∀ a ∈ as, (f a).isOk = true := by
  induction as with
  | nil => simp [pure, Except.pure]
  | cons a as ih =>
    rw [List.mapM_cons, isOk_bind, List.forall_mem_cons, ← ih]
    cases f a <;> cases as.mapM f <;> simp [bind, Except.bind, pure, Except.pure]

theorem isOk_filterM {f : α → Except ε Bool} {as : List α} :
    (as.filterM f).isOk = true ↔ ∀ a ∈ as, (f a).isOk = true := by
  have haux (kept : List α) :
      (as.filterAuxM f kept).isOk = true ↔ ∀ a ∈ as, (f a).isOk = true := by
    induction as generalizing kept with
    | nil => simp [List.filterAuxM, pure, Except.pure]
    | cons a as ih =>
      rw [List.filterAuxM, List.forall_mem_cons]
      cases f a with
      | error e => simp [bind, Except.bind]
      | ok b =>
        simp only [bind, Except.bind, isOk_ok, true_and]
        exact ih _
  rw [← haux [], List.filterM]
  cases as.filterAuxM f [] <;> simp [bind, Except.bind, pure, Except.pure]

end SearchGateway
