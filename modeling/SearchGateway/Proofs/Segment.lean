import Mathlib.Tactic
import SearchGateway.Segment

/-!
# The parts of a document

A division that succeeds numbers its parts from zero, gives each of them the identifier, the facts
and the metadata of the document, and takes their contents from the content of the document alone
(`Segment.divide_ok`).
-/

set_option autoImplicit false

namespace SearchGateway.Segment

/-- The contents of the parts that a content is divided into. -/
def contentsOf (content : String) (maxSize : ℤ) (rate : Double) : List String :=
  match overlapWidth maxSize rate, partCount content.toList.length maxSize rate with
  | .ok overlap, .ok count =>
    if count = 1 then [content]
    else (List.range count.toNat).map fun number =>
      String.ofList (slice content.toList (maxSize - overlap).toNat overlap.toNat number)
  | _, _ => []

theorem map_range_eq_mapIdx {α β : Type} (f : ℕ → α) (g : ℕ → α → β) (n : ℕ) :
    (List.range n).map (fun i => g i (f i)) = ((List.range n).map f).mapIdx g := by
  apply List.ext_getElem
  · simp
  · intro i _ _
    simp

/-! ## Divisions of any text -/

section

variable {τ α β : Type} {path : τ} {content : List α} {id : Except Defect String}
  {make : String → ℕ → List α → β} {maxSize overlap count : ℤ} {rate : Double}

/-- What vetting comes to.  The checks are made in this order, so each may assume that those before
it pass. -/
theorem vet_cases (path : τ) (length : ℕ) (maxSize : ℤ) (rate : Double) :
    (maxSize < 0 ∨ rate.isProperFraction = false ∨
        ∃ overlap, overlapWidth maxSize rate = .ok overlap ∧ maxSize < 2 * overlap) ∧
      (∃ message, vet path length maxSize rate = .error (.invalid message)) ∨
    0 ≤ maxSize ∧ rate.isProperFraction = true ∧
      ((∃ defect, overlapWidth maxSize rate = .error defect ∧
          vet path length maxSize rate = .error (.defect defect)) ∨
        ∃ overlap, overlapWidth maxSize rate = .ok overlap ∧ 2 * overlap ≤ maxSize ∧
          vet path length maxSize rate =
            if 0 < maxSize ∧ length = 0 then .error (.empty path) else .ok overlap) := by
  unfold vet
  simp only [bind, Except.bind, pure, Except.pure, throw, throwThe, MonadExceptOf.throw]
  by_cases hsize : maxSize < 0
  · exact .inl ⟨.inl hsize, _, by rw [if_pos hsize]⟩
  rw [if_neg hsize]
  cases hrate : rate.isProperFraction with
  | false => exact .inl ⟨.inr (.inl rfl), _, by rw [if_pos (by rfl)]⟩
  | true =>
    rw [if_neg (by simp)]
    cases hwidth : overlapWidth maxSize rate with
    | error defect => exact .inr ⟨not_lt.mp hsize, rfl, .inl ⟨defect, rfl, rfl⟩⟩
    | ok overlap =>
      dsimp only [liftM, monadLift, MonadLift.monadLift]
      by_cases hhalf : maxSize - overlap < overlap
      · exact .inl ⟨.inr (.inr ⟨overlap, rfl, by omega⟩), _, by rw [if_pos hhalf]⟩
      · rw [if_neg hhalf]
        exact .inr ⟨not_lt.mp hsize, rfl, .inr ⟨overlap, rfl, by omega, rfl⟩⟩

/-- If at most half of a part may overlap, only an empty content is left to be objected to. -/
theorem vet_of_le (path : τ) (length : ℕ) (hsize : 0 ≤ maxSize)
    (hrate : rate.isProperFraction = true) (hwidth : overlapWidth maxSize rate = .ok overlap)
    (hhalf : 2 * overlap ≤ maxSize) : vet path length maxSize rate =
      if 0 < maxSize ∧ length = 0 then .error (.empty path) else .ok overlap := by
  rcases vet_cases path length maxSize rate with ⟨hneg | hnot | ⟨width, hother, hwide⟩, -⟩ |
    ⟨-, -, ⟨defect, herror, -⟩ | ⟨width, hother, -, hvet⟩⟩
  · omega
  · exact absurd (hnot.symm.trans hrate) Bool.false_ne_true
  · cases hother.symm.trans hwidth
    omega
  · cases herror.symm.trans hwidth
  · cases hother.symm.trans hwidth
    exact hvet

/-- What stands against no division: below a limit there has to be some content, and at most half of
a part may overlap. -/
theorem vet_eq_ok {length : ℕ} : vet path length maxSize rate = .ok overlap ↔
    0 ≤ maxSize ∧ rate.isProperFraction = true ∧ overlapWidth maxSize rate = .ok overlap ∧
      2 * overlap ≤ maxSize ∧ ¬(0 < maxSize ∧ length = 0) := by
  constructor
  · intro h
    rcases vet_cases path length maxSize rate with ⟨-, message, hvet⟩ |
      ⟨hsize, hrate, ⟨defect, -, hvet⟩ | ⟨width, hwidth, hhalf, hvet⟩⟩
    · cases hvet.symm.trans h
    · cases hvet.symm.trans h
    · rw [hvet] at h
      split at h
      next => cases h
      next hempty =>
        cases h
        exact ⟨hsize, hrate, hwidth, hhalf, hempty⟩
  · rintro ⟨hsize, hrate, hwidth, hhalf, hempty⟩
    rw [vet_of_le path length hsize hrate hwidth hhalf, if_neg hempty]

/-- What is objected to is not divided. -/
theorem divideWith_of_error {objection : Objection τ}
    (h : vet path content.length maxSize rate = .error objection) :
    divideWith path content id make maxSize rate = .error objection := by
  rw [divideWith, h]
  rfl

/-- What is accepted is cut into pieces, and they are made parts if there is an identifier. -/
theorem divideWith_of_ok (h : vet path content.length maxSize rate = .ok overlap)
    (hcount : partCount content.length maxSize rate = .ok count) :
    divideWith path content id make maxSize rate = (id.map fun documentId =>
      (pieces content maxSize overlap count).mapIdx (make documentId)).mapError .defect := by
  rw [divideWith, h, hcount]
  cases id <;> rfl

end

/-! ## Divisions of documents -/

/-- What a division asks of the document, the size and the rate.  Below a limit the content must not
be empty, and at most half of a part may overlap. -/
structure Accepts (document : Document) (maxSize : ℤ) (rate : Double) (overlap : ℤ) : Prop where
  size : 0 ≤ maxSize
  fraction : rate.isProperFraction = true
  width : overlapWidth maxSize rate = .ok overlap
  half : 2 * overlap ≤ maxSize
  content : 0 < maxSize → document.content ≠ ""

theorem accepts_iff {document : Document} {maxSize overlap : ℤ} {rate : Double} :
    Accepts document maxSize rate overlap ↔
      vet document.file.path document.content.toList.length maxSize rate = .ok overlap := by
  have hcontent : ¬(0 < maxSize ∧ document.content.toList.length = 0) ↔
      (0 < maxSize → document.content ≠ "") := by simp
  rw [vet_eq_ok, hcontent]
  exact ⟨fun h => ⟨h.size, h.fraction, h.width, h.half, h.content⟩,
    fun ⟨hsize, hrate, hwidth, hhalf, hpos⟩ => ⟨hsize, hrate, hwidth, hhalf, hpos⟩⟩

/-- The parts of a document, of which there are to be `count`. -/
def partsOf (document : Document) (maxSize overlap count : ℤ) : List Part :=
  if count = 1 then [part document document.id 0 document.content]
  else (List.range count.toNat).map fun number => part document document.id number (String.ofList
    (slice document.content.toList (maxSize - overlap).toNat overlap.toNat number))

/-- The parts are the pieces of the content. -/
theorem mapIdx_pieces (document : Document) (maxSize overlap count : ℤ) :
    (pieces document.content.toList maxSize overlap count).mapIdx (fun number piece =>
      part document document.id number (String.ofList piece)) =
        partsOf document maxSize overlap count := by
  rw [pieces, partsOf]
  split
  · simp
  · exact (map_range_eq_mapIdx _ _ _).symm

/-- A division that accepts its input does no more than to count the parts and to cut them. -/
theorem divide_of_accepts {document : Document} {maxSize overlap count : ℤ} {rate : Double}
    (h : Accepts document maxSize rate overlap)
    (hcount : partCount document.content.toList.length maxSize rate = .ok count) :
    divide document maxSize rate = .ok (partsOf document maxSize overlap count) := by
  rw [divide, divideWith_of_ok (accepts_iff.mp h) hcount, ← mapIdx_pieces]
  rfl

/-- What does not meet the conditions is refused. -/
theorem accepts_of_divide {document : Document} {maxSize : ℤ} {rate : Double} {parts : List Part}
    (h : divide document maxSize rate = .ok parts) :
    ∃ overlap, Accepts document maxSize rate overlap := by
  cases hvet : vet document.file.path document.content.toList.length maxSize rate with
  | error objection =>
    rw [divide, divideWith_of_error hvet] at h
    cases h
  | ok overlap => exact ⟨overlap, accepts_iff.mpr hvet⟩

/-- **When a division succeeds, and with which parts.** -/
theorem divide_eq_ok {document : Document} {maxSize : ℤ} {rate : Double} {parts : List Part} :
    divide document maxSize rate = .ok parts ↔ ∃ overlap count,
      Accepts document maxSize rate overlap ∧
        partCount document.content.toList.length maxSize rate = .ok count ∧
        partsOf document maxSize overlap count = parts := by
  constructor
  · intro h
    obtain ⟨overlap, haccepts⟩ := accepts_of_divide h
    cases hcount : partCount document.content.toList.length maxSize rate with
    | error defect =>
      rw [divide, divideWith, accepts_iff.mp haccepts, hcount] at h
      cases h
    | ok count =>
      rw [divide_of_accepts haccepts hcount] at h
      exact ⟨overlap, count, haccepts, rfl, Except.ok.inj h⟩
  · rintro ⟨overlap, count, haccepts, hcount, rfl⟩
    exact divide_of_accepts haccepts hcount

/-- **What a division gives.** -/
theorem divide_ok {document : Document} {maxSize : ℤ} {rate : Double} {parts : List Part}
    (h : divide document maxSize rate = .ok parts) :
    parts = (contentsOf document.content maxSize rate).mapIdx (part document document.id) := by
  obtain ⟨overlap, count, haccepts, hcount, rfl⟩ := divide_eq_ok.mp h
  rw [contentsOf, haccepts.width, hcount, partsOf]
  dsimp only
  split
  · rfl
  · exact map_range_eq_mapIdx _ _ _

/-- **A content that fits is left whole.**  It fits if there is no limit or it is within the limit;
below a limit it must not be empty. -/
theorem divide_whole {document : Document} {maxSize overlap : ℤ} {rate : Double}
    (hsize : 0 ≤ maxSize) (hrate : rate.isProperFraction = true)
    (hwidth : overlapWidth maxSize rate = .ok overlap) (hstep : overlap ≤ maxSize - overlap)
    (hcontent : maxSize = 0 ∨ document.content ≠ "" ∧ document.content.toList.length ≤ maxSize) :
    divide document maxSize rate = .ok [part document document.id 0 document.content] := by
  refine divide_eq_ok.mpr ⟨overlap, 1, ⟨hsize, hrate, hwidth, by omega, fun hpos => ?_⟩, ?_, rfl⟩
  · rcases hcontent with h | ⟨h, -⟩
    · omega
    · exact h
  · rw [partCount, if_pos (hcontent.imp_right And.right)]
    rfl

/-- **A content that does not fit is cut** into slices of it. -/
theorem divide_cut {document : Document} {maxSize overlap count : ℤ} {rate : Double}
    (hsize : 0 ≤ maxSize) (hrate : rate.isProperFraction = true)
    (hwidth : overlapWidth maxSize rate = .ok overlap) (hstep : overlap ≤ maxSize - overlap)
    (hcontent : document.content ≠ "")
    (hcount : partCount document.content.toList.length maxSize rate = .ok count)
    (hcut : count ≠ 1) :
    divide document maxSize rate = .ok ((List.range count.toNat).map fun number =>
      part document document.id number (String.ofList
        (slice document.content.toList (maxSize - overlap).toNat overlap.toNat number))) :=
  divide_eq_ok.mpr ⟨overlap, count, ⟨hsize, hrate, hwidth, by omega, fun _ => hcontent⟩, hcount,
    if_neg hcut⟩

/-- A part of a division is the part of its number. -/
theorem mem_divide {document : Document} {maxSize : ℤ} {rate : Double} {parts : List Part}
    (h : divide document maxSize rate = .ok parts) {p : Part} (hp : p ∈ parts) :
    ∃ (n : ℕ) (content : String), (contentsOf document.content maxSize rate)[n]? = some content ∧
      p = part document document.id n content := by
  rw [divide_ok h] at hp
  obtain ⟨n, hn, rfl⟩ := List.mem_mapIdx.mp hp
  exact ⟨n, _, List.getElem?_eq_getElem hn, rfl⟩

end SearchGateway.Segment
