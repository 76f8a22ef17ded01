import Mathlib.Tactic
import SearchGateway.Engine.Client

/-!
# Runs of actions

What an action comes to in given surroundings, step by step: `Action.runIn` is the outcome together
with the surroundings after it, and every operation that actions are made of has one equation for
it.  A request to the engine takes the next reply and leaves a record of itself
(`Engine.runIn_request`), and nothing else in the surroundings changes.
-/

set_option autoImplicit false

namespace SearchGateway

/-- The request to the engine that an event is. -/
def Event.request? : Event → Option EngineRequest
  | .asked _ request => some request
  | _ => none

namespace Surroundings

/-- What the engine was asked so far, the latest request first. -/
def requests (s : Surroundings) : List EngineRequest := s.events.filterMap Event.request?

/-- The surroundings with one more event on record. -/
def noting (s : Surroundings) (event : Event) : Surroundings :=
  { s with events := event :: s.events }

/-- The reply to the next request to the engine. -/
def reply (s : Surroundings) : Reply := (Action.next Action.idleEngine s.engineReplies).1

/-- The surroundings after a request to the engine. -/
def asked (s : Surroundings) (connection : Connection) (request : EngineRequest) : Surroundings :=
  { s.noting (.asked connection request) with
    engineReplies := (Action.next Action.idleEngine s.engineReplies).2 }

/-- Surroundings of which nothing but the engine gives answers, and in which nothing was done. -/
def answering (replies : List Reply) : Surroundings where
  engineReplies := replies
  embeddingReplies := []
  embeddingRest := .lost .unreachable ""
  modelOutputs := []
  modelRest := .axis []
  files := {}
  loadedModels := []
  made := 0
  events := []

section

variable (s : Surroundings) (event : Event) (connection : Connection) (request : EngineRequest)

@[simp]
theorem engineReplies_noting : (s.noting event).engineReplies = s.engineReplies := rfl

@[simp]
theorem requests_asked : (s.asked connection request).requests = request :: s.requests := rfl

@[simp]
theorem engineReplies_asked : (s.asked connection request).engineReplies =
    (Action.next Action.idleEngine s.engineReplies).2 := rfl

end

theorem reply_of_cons {s : Surroundings} {r : Reply} {rs : List Reply}
    (h : s.engineReplies = r :: rs) : s.reply = r := by
  rw [reply, h]
  rfl

theorem engineReplies_asked_of_cons {s : Surroundings} {r : Reply} {rs : List Reply}
    (h : s.engineReplies = r :: rs) (connection : Connection) (request : EngineRequest) :
    (s.asked connection request).engineReplies = rs := by
  rw [engineReplies_asked, h]
  rfl

/-- Nothing was asked of the engine from the first surroundings to the second. -/
structure Aside (s t : Surroundings) : Prop where
  engineReplies : t.engineReplies = s.engineReplies
  requests : t.requests = s.requests

theorem Aside.refl (s : Surroundings) : s.Aside s := ⟨rfl, rfl⟩

theorem Aside.trans {s t u : Surroundings} (hst : s.Aside t) (htu : t.Aside u) : s.Aside u :=
  ⟨htu.engineReplies.trans hst.engineReplies, htu.requests.trans hst.requests⟩

end Surroundings

namespace Action

variable {α β : Type}

/-- The outcome of an action in the given surroundings, and the surroundings after it. -/
def runIn (action : Action α) (s : Surroundings) : Except Fault α × Surroundings :=
  (ExceptT.run action).run s

/-! ## Sequences -/

@[simp]
theorem runIn_pure (a : α) (s : Surroundings) : runIn (pure a) s = (.ok a, s) := rfl

@[simp]
theorem runIn_throw (fault : Fault) (s : Surroundings) :
    runIn (throw fault : Action α) s = (.error fault, s) := rfl

theorem runIn_bind (action : Action α) (f : α → Action β) (s : Surroundings) :
    runIn (action >>= f) s = match runIn action s with
      | (.ok a, t) => runIn (f a) t
      | (.error fault, t) => (.error fault, t) := by
  show (ExceptT.run (action >>= f)).run s = _
  rw [ExceptT.run_bind]
  simp only [StateT.run_bind, runIn]
  rcases (ExceptT.run action).run s with ⟨_ | _, _⟩ <;> rfl

theorem runIn_bind_of_ok {action : Action α} {f : α → Action β} {s t : Surroundings} {a : α}
    (h : runIn action s = (.ok a, t)) : runIn (action >>= f) s = runIn (f a) t := by
  rw [runIn_bind, h]

/-- A sequence succeeds if both its parts do, one after the other. -/
theorem runIn_bind_ok {action : Action α} {f : α → Action β} {s u : Surroundings} {b : β} :
    runIn (action >>= f) s = (.ok b, u) ↔
      ∃ a t, runIn action s = (.ok a, t) ∧ runIn (f a) t = (.ok b, u) := by
  constructor
  · intro h
    rw [runIn_bind] at h
    rcases hrun : runIn action s with ⟨_ | a, t⟩
    · simp [hrun] at h
    · rw [hrun] at h
      exact ⟨a, t, rfl, h⟩
  · rintro ⟨a, t, h, hf⟩
    rw [runIn_bind_of_ok h, hf]

/-- What an action comes to on each of several values, if it succeeds on all of them. -/
theorem runIn_mapM_ok {f : α → Action β} {as : List α} {bs : List β} {s t : Surroundings}
    (h : runIn (as.mapM f) s = (.ok bs, t)) :
    List.Forall₂ (fun a b => ∃ s t, runIn (f a) s = (.ok b, t)) as bs := by
  induction as generalizing s t bs with
  | nil =>
    obtain rfl := Except.ok.inj (Prod.mk.inj h).1
    exact .nil
  | cons a as ih =>
    rw [List.mapM_cons] at h
    obtain ⟨b, s₁, hb, h⟩ := runIn_bind_ok.mp h
    obtain ⟨bs, s₂, hbs, h⟩ := runIn_bind_ok.mp h
    obtain rfl := Except.ok.inj (Prod.mk.inj h).1
    exact .cons ⟨_, _, hb⟩ (ih hbs)

/-! ## Single steps -/

@[simp]
theorem runIn_record (event : Event) (s : Surroundings) :
    runIn (record event) s = (.ok (), s.noting event) := rfl

@[simp]
theorem runIn_log (level : Level) (message : String) (s : Surroundings) :
    runIn (log level message) s = (.ok (), s.noting (.logged ⟨level, message⟩)) := rfl

@[simp]
theorem runIn_get (s : Surroundings) : runIn (get : Action Surroundings) s = (.ok s, s) := rfl

@[simp]
theorem runIn_askEngine (connection : Connection) (request : EngineRequest) (s : Surroundings) :
    runIn (askEngine connection request) s = (.ok s.reply, s.asked connection request) := rfl

@[simp]
theorem runIn_ofExcept (result : Except Fault α) (s : Surroundings) :
    runIn (liftM result : Action α) s = (result, s) := by
  cases result <;> rfl

theorem runIn_ofDefect (result : Except Defect α) (s : Surroundings) :
    runIn (liftM result : Action α) s = (result.mapError Fault.defect, s) := by
  cases result <;> rfl

@[simp]
theorem runIn_attempt (action : Action α) (s : Surroundings) :
    runIn (attempt action) s = (.ok (runIn action s).1, (runIn action s).2) := by
  rfl

/-! ## Actions that leave something as it is -/

/-- The action leaves what a view shows of its surroundings as it is, whatever they are. -/
def Keeps {γ : Type} (view : Surroundings → γ) (action : Action α) : Prop :=
  ∀ s, view (runIn action s).2 = view s

section

variable {γ : Type} {view : Surroundings → γ}

theorem keeps_pure (a : α) : Keeps view (pure a) := fun _ => rfl

theorem keeps_throw (fault : Fault) : Keeps view (throw fault : Action α) := fun _ => rfl

theorem keeps_get : Keeps view (get : Action Surroundings) := fun _ => rfl

theorem keeps_ofExcept (result : Except Fault α) : Keeps view (liftM result : Action α) := by
  intro s
  rw [runIn_ofExcept]

theorem keeps_ofDefect (result : Except Defect α) : Keeps view (liftM result : Action α) := by
  intro s
  rw [runIn_ofDefect]

theorem Keeps.bind {action : Action α} {f : α → Action β} (h : Keeps view action)
    (hf : ∀ a, Keeps view (f a)) : Keeps view (action >>= f) := by
  intro s
  have hs := h s
  rw [runIn_bind]
  rcases hrun : runIn action s with ⟨_ | a, t⟩ <;> rw [hrun] at hs
  · exact hs
  · exact (hf a t).trans hs

theorem Keeps.attempt {action : Action α} (h : Keeps view action) : Keeps view (attempt action) := by
  intro s
  rw [runIn_attempt]
  exact h s

theorem Keeps.mapM {f : α → Action β} (h : ∀ a, Keeps view (f a)) (as : List α) :
    Keeps view (as.mapM f) := by
  induction as with
  | nil => exact keeps_pure []
  | cons a as ih =>
    rw [List.mapM_cons]
    exact (h a).bind fun _ => ih.bind fun _ => keeps_pure _

theorem Keeps.forM {f : α → Action Unit} (h : ∀ a, Keeps view (f a)) (as : List α) :
    Keeps view (as.forM f) := by
  induction as with
  | nil => exact keeps_pure ()
  | cons a as ih => exact (h a).bind fun _ => ih

end

/-- An action that asks nothing of the engine, whatever it finds around it. -/
def IsAside (action : Action α) : Prop := ∀ s : Surroundings, s.Aside (runIn action s).2

theorem isAside_iff_keeps {action : Action α} :
    IsAside action ↔ Keeps (fun s => (s.engineReplies, s.requests)) action := by
  refine forall_congr' fun s => ⟨fun h => Prod.ext h.engineReplies h.requests, fun h => ?_⟩
  exact ⟨(Prod.mk.inj h).1, (Prod.mk.inj h).2⟩

end Action

/-! ## Requests to the engine -/

/-- The outcome of a request depends on nothing but the next reply. -/
theorem Engine.runIn_request (engine : Engine) (request : EngineRequest) (s : Surroundings) :
    (engine.request request).runIn s =
      (s.reply.outcome request.method request.path, s.asked engine.connection request) := by
  rw [Engine.request, Action.runIn_bind_of_ok (Action.runIn_askEngine ..)]
  exact Action.runIn_ofExcept _ _

/-- The view shows nothing of what is asked of the engine and of what is logged. -/
structure OverlooksEngine {γ : Type} (view : Surroundings → γ) : Prop where
  asked : ∀ s connection request, view (s.asked connection request) = view s
  logged : ∀ s log, view (s.noting (.logged log)) = view s

theorem Engine.keeps_request {γ : Type} {view : Surroundings → γ} (hview : OverlooksEngine view)
    (engine : Engine) (request : EngineRequest) : Action.Keeps view (engine.request request) := by
  intro s
  rw [runIn_request]
  exact hview.asked s engine.connection request

end SearchGateway
