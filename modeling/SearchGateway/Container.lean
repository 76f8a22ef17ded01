import SearchGateway.Association
import SearchGateway.Fault

/-!
# Containers of services

A container makes services on demand by factories and keeps those that are shared.  A factory works
step by step and may ask for the services of other keys on its way; what it does then may depend on
what they come to.  Most factories are given by a recipe, which names the services it needs and makes
the service from them.

Services are made by computations with a state of their own.  A failed computation keeps that state,
and the container keeps the services that were made before it failed.
-/

set_option autoImplicit false

namespace SearchGateway

/-- How a service is made, step by step. -/
inductive Factory (κ ι σ : Type) where
  /-- The service is made, or cannot be made. -/
  | done (result : Except Fault ι)
  /-- A step of the factory's own; what comes next depends on the state before it. -/
  | act (effect : σ → σ) (next : σ → Factory κ ι σ)
  /-- Asks for the service of a key; what comes next depends on what that comes to. -/
  | need (key : κ) (next : Except Fault ι → Factory κ ι σ)

namespace Factory

variable {κ ι σ : Type}

/-- Makes a service without those of other keys. -/
def ofAction (action : ExceptT Fault (StateM σ) ι) : Factory κ ι σ :=
  .act (fun s => (action.run.run s).2) fun s => .done (action.run.run s).1

/-- Asks for the services of several keys in order, up to the first one that cannot be made. -/
def needing : List κ → (List ι → Factory κ ι σ) → Factory κ ι σ
  | [], next => next []
  | key :: keys, next => .need key fun
    | .ok service => needing keys fun services => next (service :: services)
    | .error fault => .done (.error fault)

end Factory

/-- How a service is made: from the services it needs. -/
structure Recipe (κ ι σ : Type) where
  needs : List κ
  make : List ι → ExceptT Fault (StateM σ) ι

/-- The factory that a recipe describes. -/
def Recipe.factory {κ ι σ : Type} (recipe : Recipe κ ι σ) : Factory κ ι σ :=
  .needing recipe.needs fun services => .ofAction (recipe.make services)

instance {κ ι σ : Type} : Coe (Recipe κ ι σ) (Factory κ ι σ) := ⟨Recipe.factory⟩

/-- Services by key: how they are made, which ones are kept, and which ones are shared. -/
structure Container (κ ι σ : Type) where
  factories : List (κ × Factory κ ι σ)
  /-- The services that were made or set and are kept, in the order they came. -/
  kept : List (κ × ι)
  /-- The keys whose services are kept once made. -/
  shared : List κ

namespace Container

variable {κ ι σ : Type} [DecidableEq κ]

/-- A container without factories. -/
def empty : Container κ ι σ := ⟨[], [], []⟩

/-- Sets the factory of a key and drops the service that is kept for it. -/
def register (key : κ) (factory : Factory κ ι σ) (isShared : Bool) (c : Container κ ι σ) :
    Container κ ι σ where
  factories := Association.put key factory c.factories
  kept := Association.erase key c.kept
  shared := if isShared then c.shared.insert key else c.shared.erase key

/-- Pins a service to a key.  Whether services of the key are kept once made stays as it was. -/
def override (key : κ) (service : ι) (c : Container κ ι σ) : Container κ ι σ where
  factories := Association.put key (.done (.ok service)) c.factories
  kept := Association.put key service c.kept
  shared := c.shared

/-- Drops the services that are kept. -/
def reset (c : Container κ ι σ) : Container κ ι σ := { c with kept := [] }

/-- A computation on a container whose services have a state. -/
abbrev Run (κ ι σ : Type) := ExceptT Fault (StateT (Container κ ι σ) (StateM σ))

/-- A computation of the services' own. -/
def Run.lift {α : Type} (action : ExceptT Fault (StateM σ) α) : Run κ ι σ α :=
  ExceptT.mk (StateT.lift action.run)

/-- What a computation comes to, as a value. -/
def Run.attempt {α : Type} (run : Run κ ι σ α) : Run κ ι σ (Except Fault α) :=
  ExceptT.mk do return .ok (← run.run)

/-- Has a factory work, with services of other keys given by `ask`. -/
def Run.follow (ask : κ → Run κ ι σ ι) : Factory κ ι σ → Run κ ι σ ι
  | .done result => ExceptT.mk (pure result)
  | .act effect next => do
    let s ← Run.lift (modifyGet fun s => (s, effect s))
    Run.follow ask (next s)
  | .need key next => do
    let result ← (ask key).attempt
    Run.follow ask (next result)

/-- Keeps a service if those of its key are shared. -/
def keep (key : κ) (service : ι) (c : Container κ ι σ) : Container κ ι σ :=
  if key ∈ c.shared then { c with kept := Association.put key service c.kept } else c

/-- The service of a key: the one that is kept, or a new one.  The fuel bounds how deep factories may
need each other. -/
def resolveWith (nameOf : κ → String) : Nat → κ → Run κ ι σ ι
  | 0, _ => throw (.defect .endlessRecursion)
  | fuel + 1, key => do
    let c ← get
    match Association.get? key c.kept, Association.get? key c.factories with
    | some service, _ => return service
    | none, none => throw (.defect (.unregistered (nameOf key)))
    | none, some factory =>
      let service ← Run.follow (resolveWith nameOf fuel) factory
      modify (keep key service)
      return service

/-- The service of a key.  Factories that do not need themselves form no chain longer than there are
factories. -/
def resolve (nameOf : κ → String) (key : κ) : Run κ ι σ ι := do
  resolveWith nameOf ((← get).factories.length + 1) key

/-- Closes services in order, none twice, up to the first one that fails to close.  `closer` tells
services apart and closes them; services that cannot be closed have none. -/
def closeServices (closer : ι → Option (Nat × ExceptT Fault (StateM σ) Unit)) :
    List Nat → List ι → ExceptT Fault (StateM σ) Unit
  | _, [] => pure ()
  | closed, service :: rest =>
    match closer service with
    | none => closeServices closer closed rest
    | some (identity, close) =>
      if identity ∈ closed then closeServices closer closed rest
      else do
        close
        closeServices closer (identity :: closed) rest

/-- Closes the services that are kept and drops them. -/
def close (closer : ι → Option (Nat × ExceptT Fault (StateM σ) Unit)) : Run κ ι σ Unit := do
  Run.lift (closeServices closer [] ((← get).kept.map (·.2)))
  modify reset

end Container

end SearchGateway
