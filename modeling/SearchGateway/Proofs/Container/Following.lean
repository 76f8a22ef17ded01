import Mathlib.Tactic
import SearchGateway.Container

/-!
# What a factory comes to

`Follows` says by rules what a factory does in a container: what it comes to, what it leaves behind,
and how each of its requests for a service was answered (`Answer`).  Where no factory needs itself,
be it through others, this is what resolving a key does (`resolve_follows`), and what is kept can be
told from the answers: what was kept before, and what was made since, is what is kept now
(`Follows.accounts`).
-/

set_option autoImplicit false

namespace SearchGateway

/-! ## What a factory asks for -/

/-- The factory asks for keys with the property only, whatever it is told. -/
def Factory.AsksOnly {κ ι σ : Type} (p : κ → Prop) : Factory κ ι σ → Prop
  | done _ => True
  | act _ next => ∀ s, (next s).AsksOnly p
  | need key next => p key ∧ ∀ result, (next result).AsksOnly p

theorem Factory.AsksOnly.mono {κ ι σ : Type} {p q : κ → Prop} (hpq : ∀ key, p key → q key)
    {factory : Factory κ ι σ} (h : factory.AsksOnly p) : factory.AsksOnly q := by
  induction factory with
  | done result => trivial
  | act effect next ih => exact fun s => ih s (h s)
  | need key next ih => exact ⟨hpq key h.1, fun result => ih result (h.2 result)⟩

theorem Factory.AsksOnly.needing {κ ι σ : Type} {p : κ → Prop}
    {next : List ι → Factory κ ι σ} {keys : List κ} (hkeys : ∀ key ∈ keys, p key)
    (hnext : ∀ services, (next services).AsksOnly p) : (Factory.needing keys next).AsksOnly p := by
  induction keys generalizing next with
  | nil => exact hnext []
  | cons key keys ih =>
    obtain ⟨hkey, hrest⟩ := List.forall_mem_cons.mp hkeys
    refine ⟨hkey, fun result => ?_⟩
    cases result with
    | error fault => trivial
    | ok service => exact ih hrest fun services => hnext (service :: services)

/-- A recipe asks for what it needs. -/
theorem Recipe.asksOnly {κ ι σ : Type} (recipe : Recipe κ ι σ) :
    recipe.factory.AsksOnly (· ∈ recipe.needs) :=
  .needing (fun _ hkey => hkey) fun _ _ => trivial

namespace Container

variable {κ ι σ α β : Type}

/-! ## Runs -/

/-- The outcome of a computation, and the container and the state after it. -/
def Run.runIn (run : Run κ ι σ α) (c : Container κ ι σ) (s : σ) :
    Except Fault α × Container κ ι σ × σ :=
  let ((result, c'), s') := (run.run.run c).run s
  (result, c', s')

namespace Run

variable (c : Container κ ι σ) (s : σ)

@[simp]
theorem runIn_pure (a : α) : runIn (pure a) c s = (.ok a, c, s) := rfl

@[simp]
theorem runIn_throw (fault : Fault) :
    runIn (throw fault : Run κ ι σ α) c s = (.error fault, c, s) := rfl

theorem runIn_bind (run : Run κ ι σ α) (f : α → Run κ ι σ β) :
    runIn (run >>= f) c s = match runIn run c s with
      | (.ok a, c', s') => runIn (f a) c' s'
      | (.error fault, c', s') => (.error fault, c', s') := by
  unfold runIn
  rw [ExceptT.run_bind]
  simp only [StateT.run_bind]
  rcases (run.run.run c).run s with ⟨⟨_ | _, _⟩, _⟩ <;> rfl

@[simp]
theorem runIn_get : runIn (get : Run κ ι σ (Container κ ι σ)) c s = (.ok c, c, s) := rfl

@[simp]
theorem runIn_modify (f : Container κ ι σ → Container κ ι σ) :
    runIn (modify f : Run κ ι σ Unit) c s = (.ok (), f c, s) := rfl

@[simp]
theorem runIn_done (result : Except Fault α) :
    runIn (ExceptT.mk (pure result) : Run κ ι σ α) c s = (result, c, s) := rfl

@[simp]
theorem runIn_lift (action : ExceptT Fault (StateM σ) α) :
    runIn (lift action : Run κ ι σ α) c s = ((action.run.run s).1, c, (action.run.run s).2) := rfl

@[simp]
theorem runIn_attempt (run : Run κ ι σ α) :
    runIn run.attempt c s = (.ok (runIn run c s).1, (runIn run c s).2) := rfl

end Run

/-! ## Following a factory -/

variable [DecidableEq κ]

/-- How a request for the service of a key was answered. -/
structure Answer (κ ι σ : Type) where
  key : κ
  /-- The factory that worked for it; none did if a service was kept, or if there is none. -/
  factory : Option (Factory κ ι σ)
  result : Except Fault ι
  /-- The container right after. -/
  left : Container κ ι σ

/-- The service that was made for the answer. -/
def Answer.made? (a : Answer κ ι σ) : Option ι := a.factory.bind fun _ => a.result.toOption

/-- What is kept of what a factory came to. -/
def settle (key : κ) (result : Except Fault ι) (c : Container κ ι σ) : Container κ ι σ :=
  match result with
  | .ok service => keep key service c
  | .error _ => c

/-- `Follows nameOf factory c s answers result c' s'`: in the container `c` and the state `s` the
factory comes to `result` and leaves `c'` and `s'`.  On the way services were asked for, by this
factory and by those that it had to wait for, and `answers` says how these requests ended, the one
that ended first in front. -/
inductive Follows (nameOf : κ → String) : Factory κ ι σ → Container κ ι σ → σ →
    List (Answer κ ι σ) → Except Fault ι → Container κ ι σ → σ → Prop
  | done {result : Except Fault ι} {c : Container κ ι σ} {s : σ} :
      Follows nameOf (.done result) c s [] result c s
  | act {effect : σ → σ} {next : σ → Factory κ ι σ} {c c' : Container κ ι σ} {s s' : σ}
      {answers : List (Answer κ ι σ)} {result : Except Fault ι}
      (rest : Follows nameOf (next s) c (effect s) answers result c' s') :
      Follows nameOf (.act effect next) c s answers result c' s'
  | kept {key : κ} {next : Except Fault ι → Factory κ ι σ} {c c' : Container κ ι σ} {s s' : σ}
      {answers : List (Answer κ ι σ)} {result : Except Fault ι} {service : ι}
      (hkept : Association.get? key c.kept = some service)
      (rest : Follows nameOf (next (.ok service)) c s answers result c' s') :
      Follows nameOf (.need key next) c s (⟨key, none, .ok service, c⟩ :: answers) result c' s'
  | unregistered {key : κ} {next : Except Fault ι → Factory κ ι σ} {c c' : Container κ ι σ}
      {s s' : σ} {answers : List (Answer κ ι σ)} {result : Except Fault ι} {fault : Fault}
      (hkept : Association.get? key c.kept = none)
      (hfactory : Association.get? key c.factories = none)
      (hfault : fault = .defect (.unregistered (nameOf key)))
      (rest : Follows nameOf (next (.error fault)) c s answers result c' s') :
      Follows nameOf (.need key next) c s (⟨key, none, .error fault, c⟩ :: answers) result c' s'
  | worked {key : κ} {next : Except Fault ι → Factory κ ι σ} {factory : Factory κ ι σ}
      {c c₁ c' : Container κ ι σ} {s s₁ s' : σ} {before after : List (Answer κ ι σ)}
      {found result : Except Fault ι}
      (hkept : Association.get? key c.kept = none)
      (hfactory : Association.get? key c.factories = some factory)
      (work : Follows nameOf factory c s before found c₁ s₁)
      (rest : Follows nameOf (next found) (settle key found c₁) s₁ after result c' s') :
      Follows nameOf (.need key next) c s
        (before ++ ⟨key, some factory, found, settle key found c₁⟩ :: after) result c' s'

/-- What asking for the service of a key comes to. -/
abbrev Resolves (nameOf : κ → String) (key : κ) : Container κ ι σ → σ → List (Answer κ ι σ) →
    Except Fault ι → Container κ ι σ → σ → Prop :=
  Follows nameOf (.need key .done)

/-- The services of a key that were made, in order. -/
def given (key : κ) (answers : List (Answer κ ι σ)) : List ι :=
  answers.filterMap fun a => if a.key = key then a.made? else none

variable {nameOf : κ → String}

theorem given_append (key : κ) (before after : List (Answer κ ι σ)) :
    given key (before ++ after) = given key before ++ given key after := List.filterMap_append

theorem given_cons (key : κ) (a : Answer κ ι σ) (answers : List (Answer κ ι σ)) :
    given key (a :: answers) =
      (if a.key = key then a.made?.toList else []) ++ given key answers := by
  unfold given
  by_cases hkey : a.key = key <;> cases hmade : a.made? <;> simp [hkey, hmade]

theorem mem_given {key : κ} {service : ι} {answers : List (Answer κ ι σ)} :
    service ∈ given key answers ↔
      ∃ a ∈ answers, a.key = key ∧ ∃ factory, a.factory = some factory ∧ a.result = .ok service := by
  unfold given
  rw [List.mem_filterMap]
  refine exists_congr fun a => and_congr_right fun _ => ?_
  by_cases hkey : a.key = key <;> cases hfactory : a.factory <;> cases hresult : a.result <;>
    simp [Answer.made?, hkey, hfactory, hresult, Except.toOption]

section

variable (key other : κ) (result : Except Fault ι) (c : Container κ ι σ)

@[simp]
theorem factories_settle : (settle key result c).factories = c.factories := by
  cases result <;> simp only [settle, keep]
  split <;> rfl

@[simp]
theorem shared_settle : (settle key result c).shared = c.shared := by
  cases result <;> simp only [settle, keep]
  split <;> rfl

theorem get?_settle : Association.get? other (settle key result c).kept =
    if other = key ∧ key ∈ c.shared then result.toOption.or (Association.get? other c.kept)
    else Association.get? other c.kept := by
  cases result with
  | error fault => simp [settle, Except.toOption]
  | ok service =>
    by_cases hshared : key ∈ c.shared
    · simp [settle, keep, hshared, Association.get?_put, Except.toOption]
    · simp [settle, keep, hshared]

end

/-- What happens to a key between two containers: `answers` accounts for what is kept.  The service
of a shared key that was kept before, and what was made of it meanwhile, is what is kept after. -/
structure Accounts (key : κ) (c : Container κ ι σ) (answers : List (Answer κ ι σ))
    (c' : Container κ ι σ) : Prop where
  factory : Association.get? key c'.factories = Association.get? key c.factories
  shared : key ∈ c'.shared ↔ key ∈ c.shared
  kept : key ∈ c.shared → (Association.get? key c.kept).toList ++ given key answers =
    (Association.get? key c'.kept).toList
  alone : key ∉ c.shared → Association.get? key c'.kept = Association.get? key c.kept

namespace Accounts

variable {key : κ} {c c₁ c' : Container κ ι σ} {answers before after : List (Answer κ ι σ)}

theorem refl (key : κ) (c : Container κ ι σ) : Accounts key c [] c :=
  ⟨rfl, .rfl, fun _ => List.append_nil _, fun _ => rfl⟩

theorem trans (h : Accounts key c before c₁) (h' : Accounts key c₁ after c') :
    Accounts key c (before ++ after) c' where
  factory := h'.factory.trans h.factory
  shared := h'.shared.trans h.shared
  kept hshared := by
    rw [given_append, ← List.append_assoc, h.kept hshared, h'.kept (h.shared.mpr hshared)]
  alone hshared := (h'.alone fun hkey => hshared (h.shared.mp hkey)).trans (h.alone hshared)

/-- An answer that nothing was made for changes nothing. -/
theorem idle (key : κ) (c : Container κ ι σ) {a : Answer κ ι σ} (ha : a.factory = none) :
    Accounts key c [a] c := by
  have hgiven : given key [a] = [] := by simp [given, Answer.made?, ha]
  exact ⟨rfl, .rfl, fun _ => by rw [hgiven, List.append_nil], fun _ => rfl⟩

/-- What a factory came to is kept if its key is shared. -/
theorem settle (key : κ) (a : Answer κ ι σ) {working : Factory κ ι σ}
    (ha : a.factory = some working) (hkept : Association.get? a.key c.kept = none) :
    Accounts key c [a] (Container.settle a.key a.result c) where
  factory := by rw [factories_settle]
  shared := by rw [shared_settle]
  kept hshared := by
    rw [get?_settle, given_cons, Answer.made?, ha]
    by_cases hkey : key = a.key
    · subst hkey
      rw [if_pos rfl, if_pos ⟨rfl, hshared⟩, hkept, Option.or_none]
      exact List.append_nil _
    · rw [if_neg (Ne.symm hkey), if_neg fun h => hkey h.1]
      exact List.append_nil _
  alone hshared := by
    rw [get?_settle, if_neg]
    rintro ⟨rfl, h⟩
    exact hshared h

/-- What is kept afterwards was kept before or is made meanwhile. -/
theorem kept_or_given (h : Accounts key c answers c') {service : ι}
    (hkept : Association.get? key c'.kept = some service) :
    Association.get? key c.kept = some service ∨ service ∈ given key answers := by
  by_cases hkey : key ∈ c.shared
  · have hmem : service ∈ (Association.get? key c.kept).toList ++ given key answers := by
      rw [h.kept hkey, hkept]
      exact List.mem_singleton_self service
    exact (List.mem_append.mp hmem).imp Option.mem_toList.mp id
  · exact .inl (h.alone hkey ▸ hkept)

/-- At most one service of a shared key is made. -/
theorem length_given_le (h : Accounts key c answers c') (hshared : key ∈ c.shared) :
    (given key answers).length ≤ 1 := by
  have hlength := congrArg List.length (h.kept hshared)
  rw [List.length_append] at hlength
  have hone : (Association.get? key c'.kept).toList.length ≤ 1 := Option.length_toList_le
  omega

end Accounts

/-- Every key that a service is kept for has a factory. -/
def IsRegistered (c : Container κ ι σ) : Prop :=
  ∀ key service, Association.get? key c.kept = some service →
    ∃ factory, Association.get? key c.factories = some factory

namespace Follows

variable {factory : Factory κ ι σ} {c c' : Container κ ι σ} {s s' : σ}
  {answers : List (Answer κ ι σ)} {result : Except Fault ι}

/-- Factories change what is kept and nothing else in the container. -/
theorem frame (h : Follows nameOf factory c s answers result c' s') :
    c'.factories = c.factories ∧ c'.shared = c.shared := by
  induction h with
  | done => exact ⟨rfl, rfl⟩
  | act _ ih => exact ih
  | kept _ _ ih => exact ih
  | unregistered _ _ _ _ ih => exact ih
  | worked _ _ _ _ ihWork ihRest =>
    rw [factories_settle, shared_settle] at ihRest
    exact ⟨ihRest.1.trans ihWork.1, ihRest.2.trans ihWork.2⟩

/-- The factories that work are those of the container, and their answers are what they come to. -/
theorem mem_answers (h : Follows nameOf factory c s answers result c' s') {a : Answer κ ι σ}
    (ha : a ∈ answers) {working : Factory κ ι σ} (hworking : a.factory = some working) :
    Association.get? a.key c.factories = some working ∧
      ∃ c₁ s₁ before c₂ s₂, Follows nameOf working c₁ s₁ before a.result c₂ s₂ := by
  induction h with
  | done => cases ha
  | act _ ih => exact ih ha
  | kept _ _ ih =>
    rcases List.mem_cons.mp ha with rfl | ha
    · cases hworking
    · exact ih ha
  | unregistered _ _ _ _ ih =>
    rcases List.mem_cons.mp ha with rfl | ha
    · cases hworking
    · exact ih ha
  | worked _ hfactory work _ ihWork ihRest =>
    rcases List.mem_append.mp ha with ha | ha
    · exact ihWork ha
    · rcases List.mem_cons.mp ha with rfl | ha
      · obtain rfl := Option.some.inj hworking
        exact ⟨hfactory, _, _, _, _, _, work⟩
      · rw [factories_settle, work.frame.1] at ihRest
        exact ihRest ha

theorem isRegistered (h : Follows nameOf factory c s answers result c' s') (hc : c.IsRegistered) :
    c'.IsRegistered ∧ ∀ a ∈ answers, a.left.IsRegistered := by
  induction h with
  | done => exact ⟨hc, fun _ ha => nomatch ha⟩
  | act _ ih => exact ih hc
  | kept _ _ ih => exact ⟨(ih hc).1, List.forall_mem_cons.mpr ⟨hc, (ih hc).2⟩⟩
  | unregistered _ _ _ _ ih => exact ⟨(ih hc).1, List.forall_mem_cons.mpr ⟨hc, (ih hc).2⟩⟩
  | @worked key _ _ _ c₁ _ _ _ _ _ _ found _ _ hfactory work _ ihWork ihRest =>
    obtain ⟨hc₁, hbefore⟩ := ihWork hc
    have hsettled : (settle key found c₁).IsRegistered := by
      intro other service hkept
      rw [factories_settle]
      by_cases hother : other = key
      · rw [hother, work.frame.1]
        exact ⟨_, hfactory⟩
      · rw [get?_settle, if_neg fun h => hother h.1] at hkept
        exact hc₁ other service hkept
    obtain ⟨hc', hafter⟩ := ihRest hsettled
    exact ⟨hc', List.forall_mem_append.mpr ⟨hbefore, List.forall_mem_cons.mpr ⟨hsettled, hafter⟩⟩⟩

end Follows

/-! ## Factories that do not need themselves -/

variable {below : κ → κ → Prop}

/-- Every factory asks for keys below its own only. -/
def Descends (below : κ → κ → Prop) (c : Container κ ι σ) : Prop :=
  ∀ key factory, Association.get? key c.factories = some factory → factory.AsksOnly (below · key)

theorem Descends.settle {factory : Factory κ ι σ} {c c' : Container κ ι σ} {s s' : σ}
    {answers : List (Answer κ ι σ)} {result : Except Fault ι} (hc : c.Descends below)
    (h : Follows nameOf factory c s answers result c' s') (key : κ) (found : Except Fault ι) :
    (Container.settle key found c').Descends below := by
  unfold Descends
  rw [factories_settle, h.frame.1]
  exact hc

namespace Follows

variable {factory : Factory κ ι σ} {c c' : Container κ ι σ} {s s' : σ}
  {answers : List (Answer κ ι σ)} {result : Except Fault ι}

/-- A key that is not asked for, be it through others, is left alone. -/
theorem untouched (h : Follows nameOf factory c s answers result c' s') (hc : c.Descends below)
    {p : κ → Prop} (hp : ∀ k key, below k key → p key → p k) (hasks : factory.AsksOnly p) (key : κ)
    (hkey : ¬p key) : Association.get? key c'.kept = Association.get? key c.kept := by
  induction h with
  | done => rfl
  | act _ ih => exact ih hc (hasks _)
  | kept _ _ ih => exact ih hc (hasks.2 _)
  | unregistered _ _ _ _ ih => exact ih hc (hasks.2 _)
  | @worked asked _ _ _ _ _ _ _ _ _ _ found _ _ hfactory work _ ihWork ihRest =>
    have hdown := (hc _ _ hfactory).mono fun k hk => hp k _ hk hasks.1
    have hne : key ≠ asked := fun heq => hkey (heq ▸ hasks.1)
    rw [ihRest (hc.settle work asked found) (hasks.2 _), get?_settle, if_neg fun h => hne h.1,
      ihWork hc hdown]

variable [IsStrictOrder κ below]

/-- The factory of a key leaves the key itself alone. -/
theorem untouched_self {key : κ} (h : Follows nameOf factory c s answers result c' s')
    (hc : c.Descends below) (hfactory : Association.get? key c.factories = some factory) :
    Association.get? key c'.kept = Association.get? key c.kept :=
  h.untouched hc (fun _ _ hk hkey => trans_of below hk hkey) (hc key factory hfactory) key
    (irrefl_of below key)

/-- **The answers account for what is kept.** -/
theorem accounts (h : Follows nameOf factory c s answers result c' s') (hc : c.Descends below)
    (key : κ) : Accounts key c answers c' := by
  induction h with
  | done => exact .refl key _
  | act _ ih => exact ih hc
  | kept _ _ ih => exact (Accounts.idle key _ rfl).trans (ih hc)
  | unregistered _ _ _ _ ih => exact (Accounts.idle key _ rfl).trans (ih hc)
  | @worked asked _ working c c₁ _ _ _ _ _ _ found _ hkept hfactory work _ ihWork ihRest =>
    have hnone := (work.untouched_self hc hfactory).trans hkept
    have hsettled := Accounts.settle key ⟨asked, some working, found, Container.settle asked found c₁⟩
      rfl hnone
    exact (ihWork hc).trans (hsettled.trans (ihRest (hc.settle work asked found)))

end Follows

/-! ## Asking for a service -/

namespace Resolves

variable {key : κ} {c c' : Container κ ι σ} {s s' : σ} {answers : List (Answer κ ι σ)}
  {result : Except Fault ι}

/-- A service is kept, or there is no factory, or the factory works. -/
theorem inv (h : Resolves nameOf key c s answers result c' s') :
    (∃ service, Association.get? key c.kept = some service ∧
      answers = [⟨key, none, result, c'⟩] ∧ result = .ok service ∧ c' = c ∧ s' = s) ∨
    (∃ fault, Association.get? key c.kept = none ∧ Association.get? key c.factories = none ∧
      answers = [⟨key, none, result, c'⟩] ∧ result = .error fault ∧
      fault = .defect (.unregistered (nameOf key)) ∧ c' = c ∧ s' = s) ∨
    (∃ factory before c₁, Association.get? key c.kept = none ∧
      Association.get? key c.factories = some factory ∧
      Follows nameOf factory c s before result c₁ s' ∧ c' = settle key result c₁ ∧
      answers = before ++ [⟨key, some factory, result, c'⟩]) := by
  cases h with
  | kept hkept rest =>
    cases rest
    exact .inl ⟨_, hkept, rfl, rfl, rfl, rfl⟩
  | unregistered hkept hfactory hfault rest =>
    cases rest
    exact .inr (.inl ⟨_, hkept, hfactory, rfl, rfl, hfault, rfl, rfl⟩)
  | worked hkept hfactory work rest =>
    cases rest
    exact .inr (.inr ⟨_, _, _, hkept, hfactory, work, rfl, rfl⟩)

/-- The answer to a request comes last. -/
theorem exists_answer (h : Resolves nameOf key c s answers result c' s') :
    ∃ own factory, answers = own ++ [⟨key, factory, result, c'⟩] := by
  rcases h.inv with ⟨_, -, hanswers, -⟩ | ⟨_, -, -, hanswers, -⟩ | ⟨factory, before, _, -, -, -, -,
    hanswers⟩
  · exact ⟨[], none, hanswers⟩
  · exact ⟨[], none, hanswers⟩
  · exact ⟨before, some factory, hanswers⟩

/-- A service that is given was kept or is made. -/
theorem kept_or_given {service : ι} (h : Resolves nameOf key c s answers (.ok service) c' s') :
    Association.get? key c.kept = some service ∨ service ∈ given key answers := by
  rcases h.inv with ⟨_, hkept, -, hresult, -⟩ | ⟨_, -, -, -, hresult, -⟩ |
    ⟨factory, _, _, -, -, -, -, rfl⟩
  · cases hresult
    exact .inl hkept
  · cases hresult
  · exact .inr (mem_given.mpr ⟨_, List.mem_concat_self, rfl, factory, rfl, rfl⟩)

/-- Asking and going on with what that comes to. -/
theorem need {next : Except Fault ι → Factory κ ι σ} {c₁ : Container κ ι σ} {s₁ : σ}
    {before after : List (Answer κ ι σ)} {found : Except Fault ι}
    (h : Resolves nameOf key c s before found c₁ s₁)
    (rest : Follows nameOf (next found) c₁ s₁ after result c' s') :
    Follows nameOf (.need key next) c s (before ++ after) result c' s' := by
  rcases h.inv with ⟨_, hkept, rfl, rfl, rfl, rfl⟩ | ⟨_, hkept, hfactory, rfl, rfl, hfault, rfl, rfl⟩ |
    ⟨factory, before, c₁, hkept, hfactory, work, rfl, rfl⟩
  · exact .kept hkept rest
  · exact .unregistered hkept hfactory hfault rest
  · rw [List.append_assoc]
    exact .worked hkept hfactory work rest

/-- What follows after a request was answered. -/
theorem of_need {next : Except Fault ι → Factory κ ι σ}
    (h : Follows nameOf (.need key next) c s answers result c' s') :
    ∃ before found c₁ s₁ after, Resolves nameOf key c s before found c₁ s₁ ∧
      Follows nameOf (next found) c₁ s₁ after result c' s' := by
  cases h with
  | kept hkept rest => exact ⟨_, _, c, s, _, .kept hkept .done, rest⟩
  | unregistered hkept hfactory hfault rest =>
    exact ⟨_, _, c, s, _, .unregistered hkept hfactory hfault .done, rest⟩
  | worked hkept hfactory work rest => exact ⟨_, _, _, _, _, .worked hkept hfactory work .done, rest⟩

/-- A key whose service cannot be made has none that is kept. -/
theorem not_kept [IsStrictOrder κ below] {fault : Fault}
    (h : Resolves nameOf key c s answers (.error fault) c' s') (hc : c.Descends below) :
    Association.get? key c'.kept = none := by
  rcases h.inv with ⟨_, -, -, hresult, -⟩ | ⟨_, hkept, -, -, -, -, rfl, -⟩ |
    ⟨_, _, _, hkept, hfactory, work, rfl, -⟩
  · cases hresult
  · exact hkept
  · exact (work.untouched_self hc hfactory).trans hkept

end Resolves

/-- A factory that makes a service without those of other keys. -/
theorem Follows.of_action {action : ExceptT Fault (StateM σ) ι} {c c' : Container κ ι σ} {s s' : σ}
    {answers : List (Answer κ ι σ)} {result : Except Fault ι}
    (h : Follows nameOf (.ofAction action) c s answers result c' s') :
    c' = c ∧ action.run.run s = (result, s') := by
  cases h with
  | act rest =>
    cases rest
    exact ⟨rfl, rfl⟩

/-- **Every answer is that of a request of its own**, made when all that was answered before it, but
for its own part in it, accounts for what is kept. -/
theorem Follows.exists_resolves [IsStrictOrder κ below] {factory : Factory κ ι σ}
    {c c' : Container κ ι σ} {s s' : σ} {answers : List (Answer κ ι σ)} {result : Except Fault ι}
    (h : Follows nameOf factory c s answers result c' s') (hc : c.Descends below)
    {before after : List (Answer κ ι σ)} {a : Answer κ ι σ} (ha : answers = before ++ a :: after) :
    ∃ seen own c₁ s₁ s₂, before = seen ++ own ∧ (∀ key, Accounts key c seen c₁) ∧
      Resolves nameOf a.key c₁ s₁ (own ++ [a]) a.result a.left s₂ := by
  induction h generalizing before after with
  | done => simp at ha
  | act _ ih => exact ih hc ha
  | @kept asked _ c _ s _ _ _ _ hkept _ ih =>
    rcases List.cons_eq_append_iff.mp ha with ⟨rfl, hcons⟩ | ⟨rest, rfl, hrest⟩
    · obtain ⟨rfl, -⟩ := List.cons.inj hcons
      exact ⟨[], [], c, s, s, rfl, (Accounts.refl · c), .kept hkept .done⟩
    · obtain ⟨seen, own, c₁, s₁, s₂, rfl, haccounts, hresolves⟩ := ih hc hrest
      exact ⟨_ :: seen, own, c₁, s₁, s₂, rfl,
        fun key => (Accounts.idle key _ rfl).trans (haccounts key), hresolves⟩
  | @unregistered asked _ c _ s _ _ _ _ hkept hfactory hfault _ ih =>
    rcases List.cons_eq_append_iff.mp ha with ⟨rfl, hcons⟩ | ⟨rest, rfl, hrest⟩
    · obtain ⟨rfl, -⟩ := List.cons.inj hcons
      exact ⟨[], [], c, s, s, rfl, (Accounts.refl · c), .unregistered hkept hfactory hfault .done⟩
    · obtain ⟨seen, own, c₁, s₁, s₂, rfl, haccounts, hresolves⟩ := ih hc hrest
      exact ⟨_ :: seen, own, c₁, s₁, s₂, rfl,
        fun key => (Accounts.idle key _ rfl).trans (haccounts key), hresolves⟩
  | @worked asked _ working c c₀ _ s s₀ _ earlier later found _ hkept hfactory work _ ihWork ihRest =>
    have hresolves : Resolves nameOf asked c s
        (earlier ++ [⟨asked, some working, found, Container.settle asked found c₀⟩]) found
        (Container.settle asked found c₀) s₀ := .worked hkept hfactory work .done
    rcases List.append_eq_append_iff.mp ha with ⟨middle, rfl, hmiddle⟩ | ⟨middle, rfl, hmiddle⟩
    · rcases List.cons_eq_append_iff.mp hmiddle with ⟨rfl, hcons⟩ | ⟨rest, rfl, hrest⟩
      · obtain ⟨rfl, -⟩ := List.cons.inj hcons
        rw [List.append_nil]
        exact ⟨[], earlier, c, s, s₀, rfl, (Accounts.refl · c), hresolves⟩
      · obtain ⟨seen, own, c₁, s₁, s₂, rfl, haccounts, hown⟩ :=
          ihRest (hc.settle work asked found) hrest
        exact ⟨_, own, c₁, s₁, s₂, by simp, fun key =>
          (hresolves.accounts hc key).trans (haccounts key), hown⟩
    · rcases List.cons_eq_append_iff.mp hmiddle with ⟨rfl, hcons⟩ | ⟨rest, rfl, hrest⟩
      · obtain ⟨rfl, -⟩ := List.cons.inj hcons
        refine ⟨[], before, c, s, s₀, rfl, (Accounts.refl · c), ?_⟩
        rwa [List.append_nil] at hresolves
      · exact ihWork hc rfl

/-! ## Resolving -/

open scoped Classical in
/-- The number of keys with a factory that are not above a key. -/
noncomputable def height (below : κ → κ → Prop) (factories : List (κ × Factory κ ι σ)) (key : κ) :
    ℕ :=
  ((factories.map Prod.fst).toFinset.filter fun k => k = key ∨ below k key).card

theorem height_le (factories : List (κ × Factory κ ι σ)) (key : κ) :
    height below factories key ≤ factories.length := by
  classical
  calc height below factories key ≤ (factories.map Prod.fst).toFinset.card :=
        Finset.card_filter_le ..
    _ ≤ (factories.map Prod.fst).length := List.toFinset_card_le _
    _ = factories.length := List.length_map ..

variable [IsStrictOrder κ below]

theorem height_lt {factories : List (κ × Factory κ ι σ)} {key lower : κ} {factory : Factory κ ι σ}
    (hfactory : Association.get? key factories = some factory) (hlower : below lower key) :
    height below factories lower < height below factories key := by
  classical
  refine Finset.card_lt_card (Finset.ssubset_iff_of_subset ?_ |>.mpr ⟨key, ?_, ?_⟩)
  · intro k hk
    rw [Finset.mem_filter] at hk ⊢
    refine ⟨hk.1, .inr ?_⟩
    rcases hk.2 with rfl | hk
    · exact hlower
    · exact trans_of below hk hlower
  · rw [Finset.mem_filter, List.mem_toFinset]
    exact ⟨List.mem_map_of_mem (Association.mem_of_get? hfactory), .inl rfl⟩
  · rw [Finset.mem_filter]
    rintro ⟨-, rfl | hkey⟩
    · exact irrefl_of below _ hlower
    · exact irrefl_of below _ (trans_of below hkey hlower)

/-- Following a factory whose requests are answered as resolving does. -/
theorem runIn_follow {ask : κ → Run κ ι σ ι} {p : κ → Prop} {factories : List (κ × Factory κ ι σ)}
    (hask : ∀ key, p key → ∀ c s, c.factories = factories → ∃ answers result c' s',
      (ask key).runIn c s = (result, c', s') ∧ Resolves nameOf key c s answers result c' s')
    {factory : Factory κ ι σ} (hfactory : factory.AsksOnly p) (c : Container κ ι σ) (s : σ)
    (hc : c.factories = factories) : ∃ answers result c' s',
      (Run.follow ask factory).runIn c s = (result, c', s') ∧
        Follows nameOf factory c s answers result c' s' := by
  induction factory generalizing c s with
  | done result => exact ⟨[], result, c, s, rfl, .done⟩
  | act effect next ih =>
    obtain ⟨answers, result, c', s', hrun, hfollows⟩ := ih s (hfactory s) c (effect s) hc
    refine ⟨answers, result, c', s', ?_, .act hfollows⟩
    rw [Run.follow, Run.runIn_bind]
    exact hrun
  | need key next ih =>
    obtain ⟨before, found, c₁, s₁, hfound, hresolves⟩ := hask key hfactory.1 c s hc
    obtain ⟨after, result, c', s', hrun, hfollows⟩ :=
      ih found (hfactory.2 found) c₁ s₁ (hresolves.frame.1.trans hc)
    refine ⟨before ++ after, result, c', s', ?_, hresolves.need hfollows⟩
    rw [Run.follow, Run.runIn_bind, Run.runIn_attempt, hfound]
    exact hrun

/-- Fuel beyond the height of a key suffices to resolve it. -/
theorem runIn_resolveWith (fuel : ℕ) (key : κ) (c : Container κ ι σ) (s : σ)
    (hc : c.Descends below) (hfuel : height below c.factories key < fuel) :
    ∃ answers result c' s', (resolveWith nameOf fuel key).runIn c s = (result, c', s') ∧
      Resolves nameOf key c s answers result c' s' := by
  induction fuel generalizing key c s with
  | zero => cases hfuel
  | succ fuel ih =>
    rw [resolveWith]
    cases hkept : Association.get? key c.kept with
    | some service =>
      refine ⟨_, .ok service, c, s, ?_, Follows.kept hkept .done⟩
      rw [Run.runIn_bind, Run.runIn_get]
      simp only [hkept]
      rfl
    | none =>
      cases hfactory : Association.get? key c.factories with
      | none =>
        refine ⟨_, _, c, s, ?_, Follows.unregistered hkept hfactory rfl .done⟩
        rw [Run.runIn_bind, Run.runIn_get]
        simp only [hkept, hfactory]
        rfl
      | some factory =>
        have hask : ∀ lower, below lower key → ∀ c₁ s₁, c₁.factories = c.factories →
            ∃ answers result c' s', (resolveWith nameOf fuel lower).runIn c₁ s₁ = (result, c', s') ∧
              Resolves nameOf lower c₁ s₁ answers result c' s' := by
          intro lower hlower c₁ s₁ hc₁
          refine ih lower c₁ s₁ ?_ ?_
          · unfold Descends
            rw [hc₁]
            exact hc
          · rw [hc₁]
            exact Nat.lt_of_lt_of_le (height_lt hfactory hlower) (Nat.le_of_lt_succ hfuel)
        obtain ⟨answers, result, c₁, s₁, hrun, hfollows⟩ :=
          runIn_follow hask (hc key factory hfactory) c s rfl
        refine ⟨_, result, settle key result c₁, s₁, ?_,
          Follows.worked hkept hfactory hfollows .done⟩
        rw [Run.runIn_bind, Run.runIn_get]
        simp only [hkept, hfactory]
        rw [Run.runIn_bind, hrun]
        cases result <;> rfl

/-- **Resolving a key does what the rules say**, where no factory needs itself. -/
theorem resolve_follows (nameOf : κ → String) (key : κ) {c : Container κ ι σ} (s : σ)
    (hc : c.Descends below) : ∃ answers result c' s', (resolve nameOf key).runIn c s = (result, c', s') ∧
      Resolves nameOf key c s answers result c' s' := by
  rw [resolve, Run.runIn_bind, Run.runIn_get]
  exact runIn_resolveWith _ key c s hc (Nat.lt_succ_of_le (height_le _ _))

end Container

end SearchGateway
