import SearchGateway.Proofs.Segment
import SearchGateway.Proofs.Text.Raw

/-!
# Documents with an encoding

Documents of characters are those raw documents that have an encoding, and it makes no difference as
which of the two such a document is divided (`RawDocument.divide_ofDocument`).
-/

set_option autoImplicit false

namespace SearchGateway

/-! ## Divisions do not look at characters -/

namespace Segment

variable {τ σ α β : Type} {maxSize overlap : ℤ} {rate : Double}

/-- An objection to what is found under another path. -/
def Objection.map (f : τ → σ) : Objection τ → Objection σ
  | invalid message => invalid message
  | empty path => empty (f path)
  | defect cause => defect cause

theorem vet_map (f : τ → σ) (path : τ) (length : ℕ) (maxSize : ℤ) (rate : Double) :
    vet (f path) length maxSize rate =
      (vet path length maxSize rate).mapError (Objection.map f) := by
  unfold vet
  simp only [bind, Except.bind, pure, Except.pure, throw, throwThe, MonadExceptOf.throw]
  split
  · rfl
  split
  · rfl
  cases overlapWidth maxSize rate with
  | error defect => rfl
  | ok width =>
    dsimp only [liftM, monadLift, MonadLift.monadLift]
    split
    · rfl
    split <;> rfl

theorem slice_map (f : α → β) (content : List α) (step overlap number : ℕ) :
    slice (content.map f) step overlap number = (slice content step overlap number).map f := by
  simp [slice, List.map_take, List.map_drop]

theorem pieces_map (f : α → β) (content : List α) (maxSize overlap count : ℤ) :
    pieces (content.map f) maxSize overlap count =
      (pieces content maxSize overlap count).map (List.map f) := by
  rw [pieces, pieces]
  split
  · rfl
  · rw [List.map_map]
    exact List.map_congr_left fun number _ => slice_map f content _ _ number

/-- What is made of other characters is made of these if every single thing is. -/
theorem mapIdx_map_map {γ δ : Type} {f : α → β} {g : γ → δ} {make : ℕ → List α → γ}
    {remake : ℕ → List β → δ} (h : ∀ number piece, remake number (piece.map f) =
      g (make number piece)) (cut : List (List α)) :
    (cut.map (List.map f)).mapIdx remake = (cut.mapIdx make).map g := by
  apply List.ext_getElem
  · simp
  · intro number _ _
    simp [h]

end Segment

open Segment

/-! ## Documents of characters -/

/-- A part with a text of characters. -/
def RawPart.ofPart (part : Part) : RawPart (FileFacts × Option Metadata) where
  documentId := part.documentId
  number := part.number
  path := .ofString part.file.path
  content := .ofString (part.content.getD "")
  facts := (part.file, part.metadata)

namespace RawDocument

theorem id_ofDocument (document : Document) : (ofDocument document).id = .ok document.id := by
  have htext : Text.Raw.ofString document.file.path ++
      (Text.Raw.ofString "\n" ++ Text.Raw.ofString document.content) =
        Text.Raw.ofString document.identity := by
    rw [← Text.Raw.ofString_append, ← Text.Raw.ofString_append, Document.identity,
      String.append_assoc]
  rw [id, ofDocument, htext, Text.Raw.encoded_ofString]
  rfl

/-- **A document of characters is divided as the raw document that it is.** -/
theorem divide_ofDocument (document : Document) (maxSize : ℤ) (rate : Double) :
    (∃ parts, Segment.divide document maxSize rate = .ok parts ∧
      (ofDocument document).divide maxSize rate = .ok (parts.map RawPart.ofPart)) ∨
    ∃ objection : Objection String,
      Segment.divide document maxSize rate = .error objection.fault ∧
        (ofDocument document).divide maxSize rate = .error (objection.map .ofString) := by
  have hlength : (ofDocument document).content.length = document.content.toList.length :=
    List.length_map ..
  have hvet : vet (ofDocument document).path document.content.toList.length maxSize rate =
      (vet document.file.path document.content.toList.length maxSize rate).mapError
        (Objection.map .ofString) :=
    vet_map Text.Raw.ofString document.file.path _ maxSize rate
  rw [Segment.divide, divide, id_ofDocument]
  cases hobjection : vet document.file.path document.content.toList.length maxSize rate with
  | error objection =>
    rw [hobjection] at hvet
    refine .inr ⟨objection, ?_, divideWith_of_error (hlength ▸ hvet)⟩
    rw [divideWith_of_error hobjection]
    rfl
  | ok overlap =>
    rw [hobjection] at hvet
    cases hcount : partCount document.content.toList.length maxSize rate with
    | error defect =>
      refine .inr ⟨.defect defect, ?_, ?_⟩
      · rw [divideWith, hobjection, hcount]
        rfl
      · rw [divideWith, hlength, hcount, hvet]
        rfl
    | ok count =>
      refine .inl ⟨partsOf document maxSize overlap count, ?_, ?_⟩
      · rw [divideWith_of_ok hobjection hcount, ← mapIdx_pieces]
        rfl
      · have hpieces : pieces (ofDocument document).content maxSize overlap count =
            (pieces document.content.toList maxSize overlap count).map
              (List.map Text.Point.ofChar) := pieces_map ..
        rw [divideWith_of_ok (hlength ▸ hvet) (hlength ▸ hcount), ← mapIdx_pieces, hpieces]
        refine congrArg Except.ok (mapIdx_map_map (fun number piece => ?_) _)
        simp [RawPart.ofPart, part, Text.Raw.ofString, ofDocument]

end RawDocument

end SearchGateway
