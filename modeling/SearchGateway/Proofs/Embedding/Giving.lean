import SearchGateway.Proofs.Embedding.Embedder

/-!
# What embedders give

What an embedder gives depends on nothing but what the service and the model are going to answer,
and on the clients that are closed (`Embedder.dependsOn_embedPassage`).  So it makes no difference
what is asked of the engine between one passage and the next, and of an embedder that gives the same
embedding for the same passage it is enough to say what it gives for a list of passages
(`Embedder.Gives`).
-/

set_option autoImplicit false

namespace SearchGateway

open SearchGateway.Action

/-! ## Actions that depend on a view -/

namespace Action

variable {α β γ : Type} {view : Surroundings → γ}

/-- The action depends on nothing but what a view shows: in surroundings that look alike it has the
same outcome, and they look alike after it. -/
def DependsOn (view : Surroundings → γ) (action : Action α) : Prop :=
  ∀ s t, view s = view t →
    (runIn action s).1 = (runIn action t).1 ∧ view (runIn action s).2 = view (runIn action t).2

theorem dependsOn_pure (a : α) : DependsOn view (pure a) := fun _ _ h => ⟨rfl, h⟩

/-- An action that leaves the view as it is and always has the same outcome. -/
theorem Keeps.dependsOn {action : Action α} (h : Keeps view action) {result : Except Fault α}
    (hresult : ∀ s, (runIn action s).1 = result) : DependsOn view action := by
  intro s t hst
  exact ⟨(hresult s).trans (hresult t).symm, (h s).trans (hst.trans (h t).symm)⟩

theorem dependsOn_ofExcept (result : Except Fault α) : DependsOn view (liftM result : Action α) :=
  (keeps_ofExcept result).dependsOn fun s => by rw [runIn_ofExcept]

theorem dependsOn_ofDefect (result : Except Defect α) :
    DependsOn view (liftM result : Action α) :=
  (keeps_ofDefect result).dependsOn fun s => by rw [runIn_ofDefect]

theorem dependsOn_throw (fault : Fault) : DependsOn view (throw fault : Action α) :=
  dependsOn_ofExcept (.error fault)

theorem DependsOn.bind {action : Action α} {f : α → Action β} (h : DependsOn view action)
    (hf : ∀ a, DependsOn view (f a)) : DependsOn view (action >>= f) := by
  intro s t hst
  obtain ⟨hresult, hview⟩ := h s t hst
  rw [runIn_bind, runIn_bind]
  rcases hs : runIn action s with ⟨result, s'⟩
  rcases ht : runIn action t with ⟨result', t'⟩
  rw [hs, ht] at hresult hview
  obtain rfl : result = result' := hresult
  cases result with
  | error fault => exact ⟨rfl, hview⟩
  | ok a => exact hf a s' t' hview

theorem DependsOn.mapM {f : α → Action β} (h : ∀ a, DependsOn view (f a)) (as : List α) :
    DependsOn view (as.mapM f) := by
  induction as with
  | nil => exact dependsOn_pure []
  | cons a as ih =>
    rw [List.mapM_cons]
    exact (h a).bind fun _ => ih.bind fun _ => dependsOn_pure _

/-- Of two runs of an action in surroundings that look alike, one succeeds if the other does. -/
theorem DependsOn.runIn_ok {action : Action α} (h : DependsOn view action) {s t u : Surroundings}
    {a : α} (hst : view s = view t) (hrun : runIn action t = (.ok a, u)) :
    ∃ v, runIn action s = (.ok a, v) ∧ view v = view u := by
  obtain ⟨hresult, hview⟩ := h s t hst
  rw [hrun] at hresult hview
  exact ⟨(runIn action s).2, Prod.ext hresult rfl, hview⟩

end Action

/-! ## What embedding depends on -/

/-- What the outcome of embedding depends on: what the service and the model are going to answer,
and the clients that are closed. -/
def Surroundings.sources (s : Surroundings) :
    (List Reply × Reply) × (List Tensor × Tensor) × List ℕ :=
  ((s.embeddingReplies, s.embeddingRest), (s.modelOutputs, s.modelRest), s.closedClients)

theorem overlooksEngine_sources : OverlooksEngine Surroundings.sources where
  asked _ _ _ := rfl
  logged _ _ := rfl

section

open Surroundings

theorem Action.dependsOn_askModel (text : String) : DependsOn sources (askModel text) := by
  rintro ⟨⟩ ⟨⟩ h
  simp only [sources, Prod.mk.injEq] at h
  obtain ⟨⟨rfl, rfl⟩, ⟨rfl, rfl⟩, rfl⟩ := h
  exact ⟨rfl, rfl⟩

theorem EmbeddingService.dependsOn_embed (service : EmbeddingService) (text : String) :
    DependsOn sources (service.embed text) := by
  rintro ⟨⟩ ⟨⟩ h
  simp only [sources, Prod.mk.injEq] at h
  obtain ⟨⟨rfl, rfl⟩, ⟨rfl, rfl⟩, rfl⟩ := h
  rw [runIn_embed, runIn_embed]
  cases Url.ofString? (service.requestFor text).url with
  | none => exact ⟨rfl, rfl⟩
  | some url =>
    dsimp only
    split
    · exact ⟨rfl, rfl⟩
    · exact ⟨rfl, rfl⟩

/-- Loading a model changes nothing that embedding depends on. -/
theorem LocalModel.runIn_load (model : LocalModel) (s : Surroundings) :
    ∃ t, model.load.runIn s = (.ok (), t) ∧ t.sources = s.sources := by
  rw [load, runIn_bind_of_ok (runIn_get s)]
  split
  · exact ⟨_, rfl, rfl⟩
  · exact ⟨_, rfl, rfl⟩

theorem LocalModel.dependsOn_load (model : LocalModel) : DependsOn sources model.load := by
  have hkeeps : Keeps sources model.load := by
    intro s
    obtain ⟨t, hload, hsources⟩ := model.runIn_load s
    rw [hload]
    exact hsources
  have hok : ∀ s, (model.load.runIn s).1 = .ok () := by
    intro s
    obtain ⟨t, hload, -⟩ := model.runIn_load s
    rw [hload]
  exact hkeeps.dependsOn hok

theorem LocalModel.dependsOn_encode (model : LocalModel) (text : String) :
    DependsOn sources (model.encode text) :=
  model.dependsOn_load.bind fun _ => (dependsOn_askModel text).bind fun _ => dependsOn_pure _

/-- **What an embedder gives for a passage depends on nothing but its sources.** -/
theorem Embedder.dependsOn_embedPassage (embedder : Embedder) (text : String) :
    DependsOn sources (embedder.embedPassage text) := by
  cases embedder with
  | service s => exact s.dependsOn_embed text
  | model m => exact m.dependsOn_encode _

end

/-! ## Embedders that repeat themselves -/

namespace Embedder

variable {embedder : Embedder} {f : String → Embedding} {s t : Surroundings}

/-- Asked for the passages one after the other, the embedder gives `f` of each as far as it gives
anything. -/
def Gives (embedder : Embedder) (f : String → Embedding) : List String → Surroundings → Prop
  | [], _ => True
  | text :: rest, s => ∀ vector t, (embedder.embedPassage text).runIn s = (.ok vector, t) →
      vector = f text ∧ Gives embedder f rest t

theorem Gives.congr {texts : List String} (h : embedder.Gives f texts s)
    (hst : s.sources = t.sources) : embedder.Gives f texts t := by
  induction texts generalizing s t with
  | nil => trivial
  | cons text rest ih =>
    intro vector u hrun
    obtain ⟨v, hrun', hview⟩ := (embedder.dependsOn_embedPassage text).runIn_ok hst hrun
    obtain ⟨hvector, hrest⟩ := h vector v hrun'
    exact ⟨hvector, ih hrest hview⟩

/-- A model with nothing but one output to give gives that for every passage. -/
theorem runIn_embedPassage_model (model : LocalModel) (text : String) {output : Tensor}
    (houtputs : s.modelOutputs = []) (hrest : s.modelRest = output) :
    ∃ t, ((Embedder.model model).embedPassage text).runIn s = (.ok output.embedding, t) ∧
      t.modelOutputs = [] ∧ t.modelRest = output := by
  obtain ⟨u, hload, hsources⟩ := model.runIn_load s
  obtain ⟨_, _, _, outputs, rest, _, _, _, _, _⟩ := u
  simp only [Surroundings.sources, houtputs, hrest, Prod.mk.injEq] at hsources
  obtain ⟨-, ⟨rfl, rfl⟩, -⟩ := hsources
  exact ⟨_, runIn_bind_of_ok hload, rfl, rfl⟩

theorem gives_of_model (model : LocalModel) {output : Tensor} (texts : List String)
    (houtputs : s.modelOutputs = []) (hrest : s.modelRest = output) :
    (Embedder.model model).Gives (fun _ => output.embedding) texts s := by
  induction texts generalizing s with
  | nil => trivial
  | cons text rest ih =>
    intro vector t hrun
    obtain ⟨u, hmodel, hu, hu'⟩ := runIn_embedPassage_model model text houtputs hrest
    obtain ⟨hvector, rfl⟩ := Prod.mk.inj (hrun.symm.trans hmodel)
    exact ⟨Except.ok.inj hvector, ih hu hu'⟩

end Embedder

end SearchGateway
