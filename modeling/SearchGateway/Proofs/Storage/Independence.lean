import SearchGateway.Proofs.Embedding.Giving
import SearchGateway.Proofs.Storage.Storing

/-!
# Storing a document has nothing to do with files

A document is stored in the same way whatever files there are: the outcome is the same, and so is
all that is done and found around it (`Storage.runIn_storeDocument_withFiles`).
-/

set_option autoImplicit false

namespace SearchGateway

open SearchGateway.Action

namespace Surroundings

/-- The surroundings with other files. -/
def withFiles (s : Surroundings) (files : Files) : Surroundings := { s with files := files }

/-- The surroundings without any files. -/
def withoutFiles (s : Surroundings) : Surroundings := s.withFiles {}

end Surroundings

open Surroundings

/-! ## Actions that do not depend on files -/

namespace Action

variable {α : Type}

/-- An action that depends on nothing of its surroundings that is a file. -/
abbrev IgnoresFiles (action : Action α) : Prop := DependsOn withoutFiles action

/-- It is enough to compare with surroundings that have no files. -/
theorem ignoresFiles_of_withoutFiles {action : Action α}
    (h : ∀ s, (runIn action s).1 = (runIn action s.withoutFiles).1 ∧
      (runIn action s).2.withoutFiles = (runIn action s.withoutFiles).2.withoutFiles) :
    IgnoresFiles action := by
  intro s t hst
  obtain ⟨hs, hs'⟩ := h s
  obtain ⟨ht, ht'⟩ := h t
  rw [hst] at hs hs'
  exact ⟨hs.trans ht.symm, hs'.trans ht'.symm⟩

theorem ignoresFiles_log (level : Level) (message : String) : IgnoresFiles (log level message) :=
  ignoresFiles_of_withoutFiles fun _ => ⟨rfl, rfl⟩

/-- An action that ignores files, and leaves them as they are, does the same whatever they are. -/
theorem IgnoresFiles.runIn_withFiles {action : Action α} (h : IgnoresFiles action)
    (hkeeps : Keeps Surroundings.files action) (files : Files) (s : Surroundings) :
    runIn action (s.withFiles files) =
      ((runIn action s).1, (runIn action s).2.withFiles files) := by
  obtain ⟨hresult, hafter⟩ := h (s.withFiles files) s rfl
  have hfiles : (runIn action (s.withFiles files)).2.files = files := hkeeps _
  refine Prod.ext hresult ?_
  calc (runIn action (s.withFiles files)).2
      = (runIn action (s.withFiles files)).2.withoutFiles.withFiles
          (runIn action (s.withFiles files)).2.files := rfl
    _ = (runIn action s).2.withFiles files := by
      rw [hafter, hfiles]
      rfl

end Action

/-! ## The engine -/

namespace Engine

variable (engine : Engine)

theorem ignoresFiles_request (request : EngineRequest) :
    IgnoresFiles (engine.request request) := by
  refine ignoresFiles_of_withoutFiles fun s => ?_
  rw [runIn_request, runIn_request]
  exact ⟨rfl, rfl⟩

theorem ignoresFiles_getIndex (index : String) : IgnoresFiles (engine.getIndex index) := by
  refine (engine.ignoresFiles_request _).bind fun _ => (dependsOn_ofExcept _).bind fun infos => ?_
  cases infos with
  | nil => exact dependsOn_throw _
  | cons info _ => exact dependsOn_pure info

theorem ignoresFiles_storeParts (index : String) (parts : List Part) :
    IgnoresFiles (engine.storeParts index parts) := by
  cases parts with
  | nil => exact dependsOn_throw _
  | cons first rest =>
    exact (dependsOn_ofDefect _).bind fun _ => (engine.ignoresFiles_request _).bind fun _ =>
      (dependsOn_ofExcept _).bind fun _ => (ignoresFiles_log _ _).bind fun _ => dependsOn_pure _

end Engine

/-! ## Embedders -/

theorem EmbeddingService.ignoresFiles_embed (service : EmbeddingService) (text : String) :
    IgnoresFiles (service.embed text) := by
  refine ignoresFiles_of_withoutFiles fun s => ?_
  rw [runIn_embed, runIn_embed]
  cases Url.ofString? (service.requestFor text).url with
  | none => exact ⟨rfl, rfl⟩
  | some url =>
    have hclients : s.withoutFiles.closedClients = s.closedClients := rfl
    dsimp only
    rw [hclients]
    by_cases hclosed : service.identity ∈ s.closedClients
    · rw [if_pos hclosed, if_pos hclosed]
      exact ⟨rfl, rfl⟩
    · rw [if_neg hclosed, if_neg hclosed]
      exact ⟨rfl, rfl⟩

theorem LocalModel.ignoresFiles_load (model : LocalModel) : IgnoresFiles model.load := by
  refine ignoresFiles_of_withoutFiles fun s => ?_
  rw [load, runIn_bind_of_ok (runIn_get s), runIn_bind_of_ok (runIn_get _)]
  have hmodels : s.withoutFiles.loadedModels = s.loadedModels := rfl
  rw [hmodels]
  by_cases hloaded : s.loadedModels.contains model.identity = true
  · rw [if_pos hloaded]
    exact ⟨rfl, rfl⟩
  · rw [if_neg hloaded]
    exact ⟨rfl, rfl⟩

theorem LocalModel.ignoresFiles_encode (model : LocalModel) (text : String) :
    IgnoresFiles (model.encode text) :=
  model.ignoresFiles_load.bind fun _ =>
    (ignoresFiles_of_withoutFiles fun _ => ⟨rfl, rfl⟩).bind fun _ => dependsOn_pure _

theorem Embedder.ignoresFiles_embedPassage (embedder : Embedder) (text : String) :
    IgnoresFiles (embedder.embedPassage text) := by
  cases embedder with
  | service s => exact s.ignoresFiles_embed text
  | model m => exact m.ignoresFiles_encode _

namespace Storage

theorem ignoresFiles_embedParts (embedder : Option Embedder) (parts : List Part) :
    IgnoresFiles (embedParts embedder parts) := by
  cases embedder with
  | none => exact dependsOn_pure parts
  | some e =>
    exact DependsOn.mapM (fun part =>
      (e.ignoresFiles_embedPassage _).bind fun _ => dependsOn_pure _) parts

theorem ignoresFiles_storeDocument (storage : Storage) (index : String) (document : Document) :
    IgnoresFiles (storage.storeDocument index document) :=
  (storage.indexes.ignoresFiles_getIndex index).bind fun _ => (dependsOn_ofExcept _).bind fun _ =>
    (ignoresFiles_embedParts _ _).bind fun _ => storage.documents.ignoresFiles_storeParts index _

/-- Storing a document leaves the files as they are. -/
theorem keepsFiles_storeDocument (storage : Storage) (index : String) (document : Document) :
    Keeps Surroundings.files (storage.storeDocument index document) :=
  storage.keeps_storeDocument ⟨fun _ _ _ => rfl, fun _ _ => rfl⟩
    ⟨fun _ _ _ => rfl, fun _ _ => rfl, fun _ _ => rfl, fun _ _ => rfl⟩ index document

/-- **A document is stored in the same way whatever files there are.** -/
theorem runIn_storeDocument_withFiles (storage : Storage) (index : String) (document : Document)
    (files : Files) (s : Surroundings) :
    (storage.storeDocument index document).runIn (s.withFiles files) =
      (((storage.storeDocument index document).runIn s).1,
        ((storage.storeDocument index document).runIn s).2.withFiles files) :=
  (storage.ignoresFiles_storeDocument index document).runIn_withFiles
    (storage.keepsFiles_storeDocument index document) files s

end Storage

end SearchGateway
