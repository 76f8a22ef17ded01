/-!
# Entries by key in the order they came

A list of entries with a key each.  Putting a value under a key that is there replaces its value and
keeps its place.
-/

set_option autoImplicit false

namespace SearchGateway.Association

variable {κ α : Type} [DecidableEq κ]

/-- Puts a value under a key: in the place of the value already there, or else at the end. -/
def put (key : κ) (value : α) : List (κ × α) → List (κ × α)
  | [] => [(key, value)]
  | (k, v) :: rest => if k = key then (k, value) :: rest else (k, v) :: put key value rest

/-- The entries without that of a key. -/
def erase (key : κ) (entries : List (κ × α)) : List (κ × α) :=
  entries.filter fun (k, _) => k ≠ key

/-- The value under a key. -/
def get? (key : κ) : List (κ × α) → Option α
  | [] => none
  | (k, v) :: rest => if k = key then some v else get? key rest

/-! ## What is found -/

theorem get?_cons (key k : κ) (v : α) (rest : List (κ × α)) :
    get? key ((k, v) :: rest) = if k = key then some v else get? key rest := rfl

theorem get?_append (key : κ) (xs ys : List (κ × α)) :
    get? key (xs ++ ys) = (get? key xs).or (get? key ys) := by
  induction xs with
  | nil => rfl
  | cons x xs ih =>
    rw [List.cons_append, get?, get?]
    split
    · rfl
    · exact ih

/-- An entry that is erased is not found, and every other one is found as before. -/
theorem get?_erase (key k : κ) (entries : List (κ × α)) :
    get? k (erase key entries) = if k = key then none else get? k entries := by
  induction entries with
  | nil => simp [erase, get?]
  | cons entry entries ih =>
    obtain ⟨k', v⟩ := entry
    unfold erase at ih ⊢
    by_cases h : k' = key
    · subst h
      rw [List.filter_cons_of_neg (by simp), ih, get?]
      split
      case isTrue => rfl
      case isFalse hk => rw [if_neg (Ne.symm hk)]
    · rw [List.filter_cons_of_pos (by simpa using h), get?, get?, ih]
      split <;> simp_all

/-- A value that is put is found, and every other one is found as before. -/
theorem get?_put (key k : κ) (value : α) (entries : List (κ × α)) :
    get? k (put key value entries) = if k = key then some value else get? k entries := by
  induction entries with
  | nil => simp [put, get?, eq_comm]
  | cons entry entries ih => grind [put, get?]

/-- What is found is an entry. -/
theorem mem_of_get? {key : κ} {value : α} {entries : List (κ × α)}
    (h : get? key entries = some value) : (key, value) ∈ entries := by
  induction entries with
  | nil => cases h
  | cons entry entries ih => grind [get?]

/-- What is put is the one entry that was not there before. -/
theorem mem_put {key : κ} {value : α} {entries : List (κ × α)} {entry : κ × α}
    (h : entry ∈ put key value entries) : entry = (key, value) ∨ entry ∈ entries := by
  induction entries with
  | nil => exact .inl (List.mem_singleton.mp h)
  | cons first rest ih => grind [put]

end SearchGateway.Association
