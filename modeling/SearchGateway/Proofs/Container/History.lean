import SearchGateway.Proofs.Container.Closing

/-!
# What is done to a container

Factories are registered, services are pinned and asked for, and what is kept is dropped or closed,
in any order.  A `Deed` is one such operation with what it came to and what factories did meanwhile,
and a `Course` is a list of deeds that follow each other.  What a deed can do is said once
(`Deed.Happens.inv`); from that comes what holds after any course of an empty container
(`orderly`).
-/

set_option autoImplicit false

namespace SearchGateway

namespace Container

variable {κ ι σ : Type} [DecidableEq κ]

/-! ## Operations -/

/-- What is done to a container. -/
inductive Operation (κ ι σ : Type) where
  | register (key : κ) (factory : Factory κ ι σ) (isShared : Bool)
  | override (key : κ) (service : ι)
  | resolve (key : κ)
  | reset
  | close

namespace Operation

/-- Carries out an operation and gives the service that is asked for, if one is. -/
def perform (nameOf : κ → String) (closer : ι → Option (Nat × ExceptT Fault (StateM σ) Unit)) :
    Operation κ ι σ → Run κ ι σ (Option ι)
  | register key factory isShared => do
    modify (Container.register key factory isShared)
    return none
  | override key service => do
    modify (Container.override key service)
    return none
  | resolve key => return some (← Container.resolve nameOf key)
  | reset => do
    modify Container.reset
    return none
  | close => do
    Container.close closer
    return none

/-- The operation registers a factory of the key. -/
def Registers (key : κ) : Operation κ ι σ → Prop
  | register k _ _ => k = key
  | _ => False

/-- The operation says where services of the key come from. -/
def Sets (key : κ) : Operation κ ι σ → Prop
  | register k _ _ => k = key
  | override k _ => k = key
  | _ => False

/-- The operation may change the service that is kept for the key without asking for it. -/
def Resets (key : κ) : Operation κ ι σ → Prop
  | register k _ _ => k = key
  | override k _ => k = key
  | resolve _ => False
  | reset => True
  | close => True

/-- A factory that the operation registers asks for keys below its own only. -/
def Descends (below : κ → κ → Prop) : Operation κ ι σ → Prop
  | register key factory _ => factory.AsksOnly (below · key)
  | _ => True

omit [DecidableEq κ] in
theorem Resets.of_sets {key : κ} {operation : Operation κ ι σ} (h : operation.Sets key) :
    operation.Resets key := by
  cases operation with
  | register | override => exact h
  | _ => exact h.elim

omit [DecidableEq κ] in
theorem Sets.of_registers {key : κ} {operation : Operation κ ι σ} (h : operation.Registers key) :
    operation.Sets key := by
  cases operation with
  | register => exact h
  | _ => exact h.elim

end Operation

/-- An operation that was carried out. -/
structure Deed (κ ι σ : Type) where
  operation : Operation κ ι σ
  /-- What it came to, with the service that was asked for. -/
  result : Except Fault (Option ι)
  /-- How the requests for services ended, those of factories included. -/
  answers : List (Answer κ ι σ)
  /-- The container afterwards. -/
  left : Container κ ι σ

/-- How the requests in the course of several operations ended. -/
def answersIn (deeds : List (Deed κ ι σ)) : List (Answer κ ι σ) := deeds.flatMap Deed.answers

variable (nameOf : κ → String) (closer : ι → Option (Nat × ExceptT Fault (StateM σ) Unit))

/-- The deed is what its operation comes to in the container `c` and the state `s`, and leaves the
state `s'`. -/
def Deed.Happens (deed : Deed κ ι σ) (c : Container κ ι σ) (s s' : σ) : Prop :=
  (deed.operation.perform nameOf closer).runIn c s = (deed.result, deed.left, s') ∧
    match deed.operation with
    | .resolve key => ∃ result, deed.result = result.map some ∧
        Resolves nameOf key c s deed.answers result deed.left s'
    | _ => deed.answers = []

/-- The deeds follow each other, from the container `c` and the state `s` to `c'` and `s'`. -/
inductive Course : Container κ ι σ → σ → List (Deed κ ι σ) → Container κ ι σ → σ → Prop
  | nil {c : Container κ ι σ} {s : σ} : Course c s [] c s
  | cons {deed : Deed κ ι σ} {rest : List (Deed κ ι σ)} {c c' : Container κ ι σ} {s s₁ s' : σ}
      (first : deed.Happens nameOf closer c s s₁) (later : Course deed.left s₁ rest c' s') :
      Course c s (deed :: rest) c' s'

variable {nameOf : κ → String} {closer : ι → Option (Nat × ExceptT Fault (StateM σ) Unit)}
  {below : κ → κ → Prop}

theorem course_append {deeds deeds' : List (Deed κ ι σ)} {c c' : Container κ ι σ} {s s' : σ} :
    Course nameOf closer c s (deeds ++ deeds') c' s' ↔ ∃ c₁ s₁,
      Course nameOf closer c s deeds c₁ s₁ ∧ Course nameOf closer c₁ s₁ deeds' c' s' := by
  induction deeds generalizing c s with
  | nil =>
    constructor
    · exact fun h => ⟨c, s, .nil, h⟩
    · rintro ⟨_, _, ⟨⟩, h⟩
      exact h
  | cons deed deeds ih =>
    constructor
    · rintro (_ | ⟨first, later⟩)
      obtain ⟨c₁, s₁, h, h'⟩ := ih.mp later
      exact ⟨c₁, s₁, .cons first h, h'⟩
    · rintro ⟨c₁, s₁, ⟨⟩ | ⟨first, later⟩, h'⟩
      exact .cons first (ih.mpr ⟨c₁, s₁, later, h'⟩)

/-! ## What a deed can do -/

namespace Deed.Happens

variable {deed : Deed κ ι σ} {c : Container κ ι σ} {s s' : σ}

/-- **What a deed can do.** -/
theorem inv (h : deed.Happens nameOf closer c s s') :
    (∃ key factory isShared, deed.operation = .register key factory isShared ∧ deed.answers = [] ∧
      deed.left = c.register key factory isShared) ∨
    (∃ key service, deed.operation = .override key service ∧ deed.answers = [] ∧
      deed.left = c.override key service) ∨
    (∃ key result, deed.operation = .resolve key ∧ deed.result = result.map some ∧
      Resolves nameOf key c s deed.answers result deed.left s') ∨
    ((deed.operation = .reset ∨ deed.operation = .close) ∧ deed.answers = [] ∧
      (deed.left = c ∨ deed.left = c.reset)) := by
  obtain ⟨hrun, hanswers⟩ := h
  cases hop : deed.operation with
  | register key factory isShared =>
    rw [hop] at hrun hanswers
    exact .inl ⟨key, factory, isShared, rfl, hanswers, (Prod.mk.inj (Prod.mk.inj hrun).2).1.symm⟩
  | override key service =>
    rw [hop] at hrun hanswers
    exact .inr (.inl ⟨key, service, rfl, hanswers, (Prod.mk.inj (Prod.mk.inj hrun).2).1.symm⟩)
  | resolve key =>
    rw [hop] at hanswers
    obtain ⟨result, hresult, hresolves⟩ := hanswers
    exact .inr (.inr (.inl ⟨key, result, rfl, hresult, hresolves⟩))
  | reset =>
    rw [hop] at hrun hanswers
    exact .inr (.inr (.inr ⟨.inl rfl, hanswers, .inr (Prod.mk.inj (Prod.mk.inj hrun).2).1.symm⟩))
  | close =>
    rw [hop] at hrun hanswers
    refine .inr (.inr (.inr ⟨.inr rfl, hanswers, ?_⟩))
    rw [Operation.perform, Run.runIn_bind, runIn_close] at hrun
    rcases hend : (closeServices closer [] c.services).run.run s with ⟨_ | _, _⟩ <;>
      rw [hend] at hrun
    · exact .inl (Prod.mk.inj (Prod.mk.inj hrun).2).1.symm
    · exact .inr (Prod.mk.inj (Prod.mk.inj hrun).2).1.symm

theorem resolves {key : κ} (h : deed.Happens nameOf closer c s s')
    (hop : deed.operation = .resolve key) : ∃ result, deed.result = result.map some ∧
      Resolves nameOf key c s deed.answers result deed.left s' := by
  have hanswers := h.2
  rw [hop] at hanswers
  exact hanswers

/-- Where services of a key come from changes only where that is said. -/
theorem factories {key : κ} (h : deed.Happens nameOf closer c s s')
    (hkey : ¬deed.operation.Sets key) :
    Association.get? key deed.left.factories = Association.get? key c.factories := by
  rcases h.inv with ⟨k, _, _, hop, -, hleft⟩ | ⟨k, _, hop, -, hleft⟩ | ⟨_, _, -, -, hresolves⟩ |
    ⟨-, -, hleft | hleft⟩
  · rw [hop] at hkey
    rw [hleft, Container.register, Association.get?_put, if_neg (Ne.symm hkey)]
  · rw [hop] at hkey
    rw [hleft, Container.override, Association.get?_put, if_neg (Ne.symm hkey)]
  · rw [hresolves.frame.1]
  · rw [hleft]
  · rw [hleft]
    rfl

theorem descends (h : deed.Happens nameOf closer c s s') (hc : c.Descends below)
    (hdeed : deed.operation.Descends below) : deed.left.Descends below := by
  intro key factory hfactory
  by_cases hkey : deed.operation.Sets key
  · rcases h.inv with ⟨k, _, _, hop, -, hleft⟩ | ⟨k, _, hop, -, hleft⟩ | ⟨_, _, hop, -, -⟩ |
      ⟨hop | hop, -, -⟩ <;> rw [hop] at hkey
    · obtain rfl : k = key := hkey
      rw [hop] at hdeed
      rw [hleft, Container.register, Association.get?_put, if_pos rfl] at hfactory
      rw [← Option.some.inj hfactory]
      exact hdeed
    · obtain rfl : k = key := hkey
      rw [hleft, Container.override, Association.get?_put, if_pos rfl] at hfactory
      rw [← Option.some.inj hfactory]
      trivial
    · exact hkey.elim
    · exact hkey.elim
    · exact hkey.elim
  · rw [h.factories hkey] at hfactory
    exact hc key factory hfactory

/-- Whether services of a key are shared changes only where a factory of it is registered. -/
theorem shared {key : κ} (h : deed.Happens nameOf closer c s s')
    (hkey : ¬deed.operation.Registers key) : key ∈ deed.left.shared ↔ key ∈ c.shared := by
  rcases h.inv with ⟨k, _, isShared, hop, -, hleft⟩ | ⟨_, _, -, -, hleft⟩ |
    ⟨_, _, -, -, hresolves⟩ | ⟨-, -, hleft | hleft⟩
  · rw [hop] at hkey
    rw [hleft, Container.register]
    cases isShared
    · exact List.mem_erase_of_ne (Ne.symm hkey)
    · exact List.mem_insert_iff.trans (or_iff_right (Ne.symm hkey))
  · rw [hleft]
    rfl
  · rw [hresolves.frame.2]
  · rw [hleft]
  · rw [hleft]
    rfl

/-- The factories that work are those of the container. -/
theorem mem_answers (h : deed.Happens nameOf closer c s s') {a : Answer κ ι σ}
    (ha : a ∈ deed.answers) {working : Factory κ ι σ} (hworking : a.factory = some working) :
    Association.get? a.key c.factories = some working ∧
      ∃ c₁ s₁ before c₂ s₂, Follows nameOf working c₁ s₁ before a.result c₂ s₂ := by
  rcases h.inv with ⟨_, _, _, -, hanswers, -⟩ | ⟨_, _, -, hanswers, -⟩ | ⟨_, _, -, -, hresolves⟩ |
    ⟨-, hanswers, -⟩
  · rw [hanswers] at ha
    cases ha
  · rw [hanswers] at ha
    cases ha
  · exact hresolves.mem_answers ha hworking
  · rw [hanswers] at ha
    cases ha

theorem isRegistered (h : deed.Happens nameOf closer c s s') (hc : c.IsRegistered) :
    deed.left.IsRegistered ∧ ∀ a ∈ deed.answers, a.left.IsRegistered := by
  rcases h.inv with ⟨k, factory, isShared, -, hanswers, hleft⟩ | ⟨k, pinned, -, hanswers, hleft⟩ |
    ⟨_, _, -, -, hresolves⟩ | ⟨-, hanswers, hleft | hleft⟩
  · have hregistered : deed.left.IsRegistered := by
      intro key service hkept
      rw [hleft, Container.register, Association.get?_erase] at hkept
      rw [hleft, Container.register, Association.get?_put]
      split_ifs at hkept ⊢
      exact hc key service hkept
    exact ⟨hregistered, by simp [hanswers]⟩
  · have hregistered : deed.left.IsRegistered := by
      intro key service hkept
      rw [hleft, Container.override, Association.get?_put] at hkept
      rw [hleft, Container.override, Association.get?_put]
      split_ifs at hkept ⊢
      · exact ⟨_, rfl⟩
      · exact hc key service hkept
    exact ⟨hregistered, by simp [hanswers]⟩
  · exact hresolves.isRegistered hc
  · exact ⟨hleft ▸ hc, by simp [hanswers]⟩
  · have hregistered : deed.left.IsRegistered := by
      intro key service hkept
      rw [hleft] at hkept
      cases hkept
    exact ⟨hregistered, by simp [hanswers]⟩

/-- Every answer is that of a request of its own, made in the course of the deed. -/
theorem exists_resolves [IsStrictOrder κ below] (h : deed.Happens nameOf closer c s s')
    (hc : c.Descends below) {before after : List (Answer κ ι σ)} {a : Answer κ ι σ}
    (ha : deed.answers = before ++ a :: after) :
    ∃ seen own c₁ s₁ s₂, before = seen ++ own ∧ (∀ key, Accounts key c seen c₁) ∧
      Resolves nameOf a.key c₁ s₁ (own ++ [a]) a.result a.left s₂ := by
  rcases h.inv with ⟨_, _, _, -, hanswers, -⟩ | ⟨_, _, -, hanswers, -⟩ | ⟨_, _, -, -, hresolves⟩ |
    ⟨-, hanswers, -⟩
  · simp [hanswers] at ha
  · simp [hanswers] at ha
  · exact Follows.exists_resolves hresolves hc ha
  · simp [hanswers] at ha

variable [IsStrictOrder κ below]

/-- The answers account for what is kept of a key, unless the key is reset. -/
theorem accounts {key : κ} (h : deed.Happens nameOf closer c s s') (hc : c.Descends below)
    (hkey : ¬deed.operation.Resets key) : Accounts key c deed.answers deed.left := by
  have hsets : ¬deed.operation.Sets key := fun h => hkey (.of_sets h)
  have hshared := h.shared fun h => hsets (.of_registers h)
  have hsame (hanswers : deed.answers = [])
      (hkept : Association.get? key deed.left.kept = Association.get? key c.kept) :
      Accounts key c deed.answers deed.left := by
    rw [hanswers]
    exact ⟨h.factories hsets, hshared, fun _ => by rw [hkept]; exact List.append_nil _,
      fun _ => hkept⟩
  rcases h.inv with ⟨k, _, _, hop, hanswers, hleft⟩ | ⟨k, _, hop, hanswers, hleft⟩ |
    ⟨_, _, -, -, hresolves⟩ | ⟨hop | hop, -, -⟩
  · rw [hop] at hkey
    refine hsame hanswers ?_
    rw [hleft, Container.register, Association.get?_erase, if_neg (Ne.symm hkey)]
  · rw [hop] at hkey
    refine hsame hanswers ?_
    rw [hleft, Container.override, Association.get?_put, if_neg (Ne.symm hkey)]
  · exact hresolves.accounts hc key
  · exact (hkey (hop ▸ trivial)).elim
  · exact (hkey (hop ▸ trivial)).elim

/-- The service kept for a key was kept before, or it was made meanwhile. -/
theorem kept_or_given {key : κ} {service : ι} (h : deed.Happens nameOf closer c s s')
    (hc : c.Descends below) (hkey : ¬deed.operation.Sets key)
    (hkept : Association.get? key deed.left.kept = some service) :
    Association.get? key c.kept = some service ∨ service ∈ given key deed.answers := by
  by_cases hreset : deed.operation.Resets key
  · rcases h.inv with ⟨_, _, _, hop, -, -⟩ | ⟨_, _, hop, -, -⟩ | ⟨_, _, hop, -, -⟩ |
      ⟨-, -, hleft | hleft⟩
    · rw [hop] at hkey hreset
      exact (hkey hreset).elim
    · rw [hop] at hkey hreset
      exact (hkey hreset).elim
    · rw [hop] at hreset
      exact hreset.elim
    · exact .inl (hleft ▸ hkept)
    · rw [hleft] at hkept
      cases hkept
  · exact (h.accounts hc hreset).kept_or_given hkept

/-- A service that is given was kept before the deed, or it was made since. -/
theorem answer_kept_or_given (h : deed.Happens nameOf closer c s s') (hc : c.Descends below)
    {before after : List (Answer κ ι σ)} {a : Answer κ ι σ}
    (ha : deed.answers = before ++ a :: after) {service : ι} (hresult : a.result = .ok service) :
    Association.get? a.key c.kept = some service ∨ service ∈ given a.key (before ++ [a]) := by
  obtain ⟨seen, own, c₁, s₁, s₂, rfl, haccounts, hresolves⟩ := h.exists_resolves hc ha
  rw [hresult] at hresolves
  rw [List.append_assoc, given_append, List.mem_append, ← or_assoc]
  exact hresolves.kept_or_given.imp_left (haccounts a.key).kept_or_given

end Deed.Happens

end Container

end SearchGateway
