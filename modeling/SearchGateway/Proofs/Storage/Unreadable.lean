import SearchGateway.Proofs.Discipline
import SearchGateway.Proofs.Series
import SearchGateway.Proofs.Storage.ReadingBack

/-!
# Hits that cannot be read

A hit that cannot be read costs the other hits of its page nothing.  But a page is empty once all
its hits are left out, and a walk stops at an empty page, so the pages after it are never asked for.
A reading shows the parts of all answers of a session if and only if no answer with parts comes
after one without (`reads_until_unreadable`).
-/

set_option autoImplicit false

namespace SearchGateway

open SearchGateway.Action

/-! ## Stopping at the first empty list -/

/-- Stopping at the first empty list loses nothing if and only if only empty lists come after it. -/
theorem length_flatMap_take_findIdx {α β : Type} (f : α → List β) (as : List α) :
    ((as.take (as.findIdx (fun a => (f a).isEmpty) + 1)).flatMap f).length =
        (as.flatMap f).length ↔
      as.Pairwise fun a b => f a = [] → f b = [] := by
  induction as with
  | nil => simp
  | cons a as ih =>
    rw [List.pairwise_cons, List.findIdx_cons]
    by_cases hempty : f a = []
    · have hlost : (as.flatMap f).length = 0 ↔ ∀ b ∈ as, f b = [] := by
        rw [List.length_eq_zero_iff, List.flatMap_eq_nil_iff]
      have hall : (∀ b ∈ as, f b = []) → as.Pairwise fun a b => f a = [] → f b = [] :=
        fun h => List.pairwise_of_forall_mem_list fun _ _ b hb _ => h b hb
      simp only [hempty, List.isEmpty_nil, cond_true, Nat.zero_add, List.take_succ_cons,
        List.take_zero, List.flatMap_cons, List.flatMap_nil, List.nil_append, List.length_nil,
        forall_const]
      rw [eq_comm, hlost]
      exact ⟨fun h => ⟨h, hall h⟩, And.left⟩
    · have hsome : (f a).isEmpty = false := by simpa using hempty
      simp only [hsome, cond_false, List.take_succ_cons, List.flatMap_cons, List.length_append,
        Nat.add_left_cancel_iff, hempty, false_implies, implies_true, true_and]
      exact ih

namespace Storage

variable {T : Type} [Operand T] {storage : Storage} {index : String} {documentId : T}
  {s t : Surroundings} {result : Except Fault (List Part)} {answers : List Json.Fields}

/-- **A reading stops at the first answer without a hit that can be read.**  It comes to the parts
of the answers up to there in the order of their numbers, and these are all parts of the session if
and only if no answer with parts comes after one without. -/
theorem reads_until_unreadable (hseries : Extract.Series answers)
    (h : (storage.getDocumentParts index documentId).runIn s = (result, t))
    (hturns : Turns.Agree (s.turns t) (answers.map fun answer => .ok (.obj answer)))
    (hclosed : s.closeFault? t = none) :
    result = .ok (((Extract.shown answers).flatMap Extract.parts).mergeSort
      fun a b => decide (a.number ≤ b.number)) ∧
    ((∃ parts, result = .ok parts ∧ parts.Perm (answers.flatMap Extract.parts)) ↔
      answers.Pairwise fun a b => Extract.parts a = [] → Extract.parts b = []) := by
  have hresult := reads_shown hseries h hturns hclosed
  have hsorted := List.mergeSort_perm ((Extract.shown answers).flatMap Extract.parts)
    fun a b => decide (a.number ≤ b.number)
  refine ⟨hresult, ?_⟩
  rw [← length_flatMap_take_findIdx]
  constructor
  · rintro ⟨parts, hparts, hperm⟩
    obtain rfl := Except.ok.inj (hresult.symm.trans hparts)
    exact (hsorted.symm.trans hperm).length_eq
  · intro hlength
    obtain ⟨more, hmore⟩ : Extract.shown answers <+: answers := List.take_prefix ..
    have hstart : (Extract.shown answers).flatMap Extract.parts <+:
        answers.flatMap Extract.parts :=
      ⟨more.flatMap Extract.parts, by rw [← List.flatMap_append, hmore]⟩
    rw [hstart.eq_of_length hlength] at hsorted hresult
    exact ⟨_, hresult, hsorted⟩

/-! ## A session with a hit that cannot be read -/

/-- The answers of a session with two pages.  The first page has a hit that cannot be read and the
given ones, the second page has one part. -/
def torn (more : List Json) : List Json.Fields :=
  [[("_scroll_id", .str "two"), ("hits", .obj [("hits", .arr (.obj [("_id", .int 1)] :: more))])],
    pageOf none [(Record.ofPart Walk.leaf).toFields]]

/-- The engine that gives these answers. -/
def tearing (more : List Json) : Surroundings :=
  .answering ((torn more).map fun answer => .rendered (.obj answer))

theorem series_torn (more : List Json) : Extract.Series (torn more) :=
  .more (List.cons_ne_nil _ _) rfl (by decide) (.last (by decide) (.inr rfl))

theorem reading_torn (more : List Json) (hw : ∀ answer ∈ (torn more).map Json.obj,
    answer.isWritable = true ∧ answer.fits Exchange.depth = true) :
    ∃ result t, (plain.getDocumentParts "notes" "d").runIn (tearing more) = (result, t) ∧
      Turns.Agree ((tearing more).turns t) ((torn more).map fun answer => .ok (.obj answer)) ∧
      (tearing more).closeFault? t = none := by
  obtain ⟨⟨result, t⟩, hrun⟩ : ∃ run,
    (plain.getDocumentParts "notes" "d").runIn (tearing more) = run := ⟨_, rfl⟩
  obtain ⟨-, hsession⟩ := getDocumentParts_reading hrun
  have hreplies : (tearing more).engineReplies = ((torn more).map Json.obj).map .rendered := by rfl
  refine ⟨result, t, hrun, ?_, ?_⟩
  · exact hsession.agree (hreplies.trans (List.append_nil _).symm) (Reply.forall₂_rendered hw)
  · exact hsession.closeFault?_eq_none
      (Surroundings.exists_outcome_rendered hreplies hw _ "DELETE" "/_search/scroll")

/-- A hit of the part. -/
def leafHit : Json := .obj [("_id", .str "p"), ("_index", .str "notes"),
  ("_source", (Record.ofPart Walk.leaf).toJson)]

/-- Next to a hit that can be read one that cannot costs nothing. -/
theorem reads_until_unreadable_torn : ∃ result t,
    Extract.Series (torn [leafHit]) ∧
    (plain.getDocumentParts "notes" "d").runIn (tearing [leafHit]) = (result, t) ∧
    Turns.Agree ((tearing [leafHit]).turns t)
      ((torn [leafHit]).map fun answer => .ok (.obj answer)) ∧
    (tearing [leafHit]).closeFault? t = none ∧
    result = .ok (((Extract.shown (torn [leafHit])).flatMap Extract.parts).mergeSort
      fun a b => decide (a.number ≤ b.number)) ∧
    ((∃ parts, result = .ok parts ∧ parts.Perm ((torn [leafHit]).flatMap Extract.parts)) ↔
      (torn [leafHit]).Pairwise fun a b => Extract.parts a = [] → Extract.parts b = []) := by
  obtain ⟨result, t, hrun, hagree, hclosed⟩ := reading_torn [leafHit] (by decide)
  exact ⟨result, t, series_torn _, hrun, hagree, hclosed,
    reads_until_unreadable (series_torn _) hrun hagree hclosed⟩

/-- **Parts are lost behind hits that cannot be read.**  The only hit of the first page is left out,
and the part on the second page is never asked for. -/
theorem not_reads_all : ¬∀ (storage : Storage) (index documentId : String) (s t : Surroundings)
    (result : Except Fault (List Part)) (answers : List Json.Fields), Extract.Series answers →
    (storage.getDocumentParts index documentId).runIn s = (result, t) →
    Turns.Agree (s.turns t) (answers.map fun answer => .ok (.obj answer)) →
    s.closeFault? t = none →
    ∃ parts, result = .ok parts ∧ parts.Perm (answers.flatMap Extract.parts) := by
  intro hall
  obtain ⟨result, t, hrun, hagree, hclosed⟩ := reading_torn [] (by decide)
  obtain ⟨parts, hparts, hperm⟩ :=
    hall plain "notes" "d" _ t result _ (series_torn []) hrun hagree hclosed
  have hnone : (Extract.shown (torn [])).flatMap Extract.parts = [] := by rfl
  have hone : ((torn []).flatMap Extract.parts).length = 1 := by rfl
  have hresult := reads_shown (series_torn []) hrun hagree hclosed
  rw [hnone, List.mergeSort_nil] at hresult
  obtain rfl := Except.ok.inj (hresult.symm.trans hparts)
  rw [← hperm.length_eq] at hone
  cases hone

end Storage

end SearchGateway
