import SearchGateway.Proofs.Container.Following
import SearchGateway.Proofs.Ordered

/-!
# Closing a container

Closing closes the services that are kept in turn, none twice, until one of them fails to close.
What is kept is dropped only if none does.  So a container releases everything that it keeps exactly
if all of it can be closed (`closes_and_releases_iff`).
-/

set_option autoImplicit false

namespace SearchGateway

namespace Container

variable {κ ι σ : Type}

/-- What a computation comes to that has nothing to give. -/
def outcome : Option Fault → Except Fault Unit
  | none => .ok ()
  | some fault => .error fault

/-- Closing is recorded: `calls` lists the services that were closed, by their identities, and
`fault?` says which of them fail to close, and how. -/
structure Records (closer : ι → Option (ℕ × ExceptT Fault (StateM σ) Unit)) (calls : σ → List ℕ)
    (fault? : ℕ → Option Fault) (services : List ι) : Prop where
  calls : ∀ service ∈ services, ∀ identity close s, closer service = some (identity, close) →
    calls (close.run.run s).2 = calls s ++ [identity]
  result : ∀ service ∈ services, ∀ identity close s, closer service = some (identity, close) →
    (close.run.run s).1 = outcome (fault? identity)

variable (closer : ι → Option (ℕ × ExceptT Fault (StateM σ) Unit)) (calls : σ → List ℕ)
  (fault? : ℕ → Option Fault)

/-- The services that can be closed, by their identities, and none of `closed` among them. -/
def pending (closed : List ℕ) (services : List ι) : List ℕ :=
  ((services.filterMap fun service => (closer service).map (·.1)).filter (· ∉ closed)).eraseDups

/-- The services that a container keeps. -/
def services (c : Container κ ι σ) : List ι := c.kept.map (·.2)

/-- The services that the container keeps and that can be closed, each of them once. -/
def closables (c : Container κ ι σ) : List ℕ := pending closer [] c.services

/-- The services that are closed in turn, the last of which is the first one that fails to close. -/
def reached : List ℕ → List ℕ
  | [] => []
  | identity :: rest => identity :: if (fault? identity).isSome then [] else reached rest

/-- The container and the state after closing the container. -/
def afterClose (c : Container κ ι σ) (s : σ) : Container κ ι σ × σ := ((close closer).runIn c s).2

/-- Closing the container closes every service that it keeps and that can be closed, and each of
them once; then nothing is kept, and closing once more closes nothing. -/
structure Releases (c : Container κ ι σ) (s : σ) : Prop where
  once : ∃ closed, calls (afterClose closer c s).2 = calls s ++ closed ∧
    ∀ identity, closed.count identity = if identity ∈ closables closer c then 1 else 0
  emptied : (afterClose closer c s).1.kept = []
  again : let (c', s') := afterClose closer c s
    calls (afterClose closer c' s').2 = calls s'

variable {closer calls fault?}

/-! ## Services to close -/

theorem count_closables (c : Container κ ι σ) (identity : ℕ) :
    (closables closer c).count identity = if identity ∈ closables closer c then 1 else 0 :=
  (nodup_eraseDups _).count

theorem mem_closables {c : Container κ ι σ} {identity : ℕ} : identity ∈ closables closer c ↔
    ∃ service ∈ c.services, ∃ close, closer service = some (identity, close) := by
  simp [closables, pending, List.mem_eraseDups]

theorem pending_cons (closed : List ℕ) (service : ι) (rest : List ι) :
    pending closer closed (service :: rest) = match closer service with
      | none => pending closer closed rest
      | some (identity, _) => if identity ∈ closed then pending closer closed rest
        else identity :: pending closer (identity :: closed) rest := by
  unfold pending
  cases hservice : closer service with
  | none => simp [hservice]
  | some found =>
    obtain ⟨identity, close⟩ := found
    by_cases hclosed : identity ∈ closed
    · simp [hservice, hclosed]
    · simp [hservice, hclosed, List.eraseDups_cons, List.filter_filter,
        Bool.beq_eq_decide_eq]

theorem reached_eq_self {identities : List ℕ} (h : identities.findSome? fault? = none) :
    reached fault? identities = identities := by
  induction identities with
  | nil => rfl
  | cons identity rest ih =>
    obtain ⟨hfirst, hrest⟩ := List.forall_mem_cons.mp (List.findSome?_eq_none_iff.mp h)
    simp [reached, hfirst, ih (List.findSome?_eq_none_iff.mpr hrest)]

/-! ## Closing in turn -/

theorem run_seq (first next : ExceptT Fault (StateM σ) Unit) (s : σ) :
    (do first; next : ExceptT Fault (StateM σ) Unit).run.run s = match first.run.run s with
      | (.ok _, t) => next.run.run t
      | (.error fault, t) => (.error fault, t) := by
  rw [ExceptT.run_bind]
  simp only [StateT.run_bind]
  rcases first.run.run s with ⟨_ | _, _⟩ <;> rfl

/-- Services are closed in turn until one fails. -/
theorem run_closeServices {services : List ι} (h : Records closer calls fault? services)
    (closed : List ℕ) (s : σ) :
    ((closeServices closer closed services).run.run s).1 =
        outcome ((pending closer closed services).findSome? fault?) ∧
      calls ((closeServices closer closed services).run.run s).2 =
        calls s ++ reached fault? (pending closer closed services) := by
  induction services generalizing closed s with
  | nil => exact ⟨rfl, (List.append_nil _).symm⟩
  | cons service rest ih =>
    obtain ⟨hcalls, hcallsRest⟩ := List.forall_mem_cons.mp h.calls
    obtain ⟨hresult, hresultRest⟩ := List.forall_mem_cons.mp h.result
    replace ih := ih ⟨hcallsRest, hresultRest⟩
    rw [closeServices, pending_cons]
    cases hservice : closer service with
    | none => exact ih closed s
    | some found =>
      obtain ⟨identity, close⟩ := found
      by_cases hclosed : identity ∈ closed
      · simp only [if_pos hclosed]
        exact ih closed s
      · simp only [if_neg hclosed, run_seq]
        replace hcalls := hcalls identity close s hservice
        replace hresult := hresult identity close s hservice
        rcases hrun : close.run.run s with ⟨result, t⟩
        simp only [hrun] at hcalls hresult
        cases hfault : fault? identity with
        | some fault =>
          obtain rfl : result = .error fault := by rw [hresult, hfault, outcome]
          simp [reached, hfault, outcome, hcalls]
        | none =>
          obtain rfl : result = .ok () := by rw [hresult, hfault, outcome]
          obtain ⟨hrest, hrestCalls⟩ := ih (identity :: closed) t
          simp [reached, hfault, hrest, hrestCalls, hcalls]

theorem runIn_close (closer : ι → Option (ℕ × ExceptT Fault (StateM σ) Unit))
    (c : Container κ ι σ) (s : σ) : (close closer).runIn c s =
      match (closeServices closer [] c.services).run.run s with
      | (.ok (), t) => (.ok (), c.reset, t)
      | (.error fault, t) => (.error fault, c, t) := by
  rw [Container.close, Run.runIn_bind, Run.runIn_get]
  dsimp only
  rw [Run.runIn_bind, Run.runIn_lift, ← services]
  rcases (closeServices closer [] c.services).run.run s with ⟨_ | _, _⟩ <;> rfl

/-- What closing a container comes to: it stops at the first service that fails to close, and drops
what is kept only if there is none. -/
theorem exists_runIn_close {c : Container κ ι σ} (h : Records closer calls fault? c.services)
    (s : σ) : ∃ s', (close closer).runIn c s = (outcome ((closables closer c).findSome? fault?),
        if (closables closer c).findSome? fault? = none then c.reset else c, s') ∧
      calls s' = calls s ++ reached fault? (closables closer c) := by
  obtain ⟨hresult, hcalls⟩ := run_closeServices h [] s
  rw [runIn_close]
  rcases hrun : (closeServices closer [] c.services).run.run s with ⟨result, t⟩
  simp only [hrun] at hresult hcalls
  refine ⟨t, ?_, hcalls⟩
  rw [hresult, ← closables]
  cases (closables closer c).findSome? fault? <;> rfl

/-- **What closing a container comes to, and when it releases everything.**  It closes what can be
closed in turn until something fails to close, and keeps everything if something does; so every
service is closed once and nothing is kept exactly if all of them can be closed. -/
theorem closes_and_releases_iff (c : Container κ ι σ) (h : Records closer calls fault? c.services)
    (s : σ) :
    (∃ s', (close closer).runIn c s = (outcome ((closables closer c).findSome? fault?),
        if (closables closer c).findSome? fault? = none then c.reset else c, s') ∧
      calls s' = calls s ++ reached fault? (closables closer c)) ∧
    (Releases closer calls c s ↔ ∀ identity ∈ closables closer c, fault? identity = none) := by
  have hclose := exists_runIn_close h s
  refine ⟨hclose, ?_⟩
  obtain ⟨s', hrun, hcalls⟩ := hclose
  rw [← List.findSome?_eq_none_iff]
  cases hfault : (closables closer c).findSome? fault? with
  | some fault =>
    -- What fails to close is still kept.
    refine iff_of_false (fun hreleases => ?_) (by simp)
    have hkept : c.kept = [] := by
      have hemptied := hreleases.emptied
      rwa [afterClose, hrun, hfault, if_neg (by simp)] at hemptied
    rw [closables, services, hkept] at hfault
    cases hfault
  | none =>
    refine iff_of_true ?_ rfl
    have hafter : afterClose closer c s = (c.reset, s') := by
      rw [afterClose, hrun, hfault, if_pos rfl]
    constructor
    case once =>
      rw [hafter]
      refine ⟨closables closer c, ?_, count_closables c⟩
      rw [hcalls, reached_eq_self hfault]
    case emptied => rw [hafter]; rfl
    case again =>
      rw [hafter]
      have hnone : Records closer calls fault? c.reset.services :=
        ⟨fun _ hservice => (nomatch hservice), fun _ hservice => (nomatch hservice)⟩
      obtain ⟨s'', hagain, hcallsAgain⟩ := exists_runIn_close hnone s'
      show calls ((close closer).runIn c.reset s').2.2 = calls s'
      rw [hagain, hcallsAgain]
      exact List.append_nil _

/-! ## A cabinet -/

/-- The closing of numbered objects, one of which is stuck; what has no number cannot be closed. -/
def withStuck (stuck : ℕ) : Option ℕ → Option (ℕ × ExceptT Fault (StateM (List ℕ)) Unit)
  | none => none
  | some identity => some (identity, do
    modify (· ++ [identity])
    if identity = stuck then throw (.invalid "stuck"))

theorem records_withStuck (stuck : ℕ) (services : List (Option ℕ)) : Records (withStuck stuck) id
    (fun identity => if identity = stuck then some (.invalid "stuck") else none) services := by
  constructor
  all_goals
    intro service _ identity close s hservice
    cases service with
    | none => cases hservice
    | some number =>
      obtain ⟨rfl, rfl⟩ := Prod.mk.inj (Option.some.inj hservice)
      by_cases hstuck : number = stuck <;> simp only [hstuck, if_true, if_false] <;> rfl

/-- Registers objects under keys and asks for them: an object under two keys, of which the second
asks for the first, one that cannot be closed, and one more. -/
def furnish : Run ℕ (Option ℕ) (List ℕ) Unit := do
  let given (object : Option ℕ) : Recipe ℕ (Option ℕ) (List ℕ) := ⟨[], fun _ => pure object⟩
  let same (key : ℕ) : Recipe ℕ (Option ℕ) (List ℕ) :=
    ⟨[key], fun objects => pure objects.head?.join⟩
  modify (register 0 (given (some 4)) true)
  modify (register 1 (given none) true)
  modify (register 2 (same 0) true)
  modify (register 3 (given (some 5)) true)
  [0, 1, 2, 3].forM fun key => discard (resolve toString key)

/-- What comes of that. -/
def cabinet : Container ℕ (Option ℕ) (List ℕ) := (furnish.runIn empty []).2.1

theorem kept_cabinet : cabinet.kept = [(0, some 4), (1, none), (2, some 4), (3, some 5)] := rfl

theorem closables_cabinet (stuck : ℕ) : closables (withStuck stuck) cabinet = [4, 5] := by
  rw [closables, services, kept_cabinet]
  rfl

theorem closes_and_releases_cabinet : Releases (withStuck 9) id cabinet [] := by
  refine (closes_and_releases_iff cabinet (records_withStuck 9 _) []).2.mpr ?_
  rw [closables_cabinet]
  decide

/-- **Not every container releases what it keeps.**  The object that is stuck is kept, and with it
the one behind it. -/
theorem not_releases_stuck : ¬Releases (withStuck 4) id cabinet [] := by
  intro h
  obtain ⟨s, hrun, -⟩ := exists_runIn_close (records_withStuck 4 cabinet.services) []
  have hkept := h.emptied
  rw [afterClose, hrun, closables_cabinet, if_neg (by decide), kept_cabinet] at hkept
  cases hkept

end Container

end SearchGateway
