import SearchGateway.Proofs.Container.History

/-!
# Where services come from

Whatever is done to a container, and whichever factories fail meanwhile, the service of a key is the
one that was pinned last or one that the factory registered last has made, and a shared service is
made once until it is dropped (`orderly`).  Factories may ask for services as they like as long as
none of them needs itself.
-/

set_option autoImplicit false

namespace SearchGateway

namespace Container

variable {κ ι σ : Type} [DecidableEq κ]

/-- The factory of the key made the service for one of the answers. -/
def Made (key : κ) (factory : Factory κ ι σ) (service : ι) (answers : List (Answer κ ι σ)) : Prop :=
  ∃ a ∈ answers, a.key = key ∧ a.factory = some factory ∧ a.result = .ok service

/-- What holds of the deeds done to a container, and of every request that was answered meanwhile,
be it that of a deed or that of a factory. -/
structure Orderly (deeds : List (Deed κ ι σ)) : Prop where
  /-- Every key that a service is kept for has a factory, at any time. -/
  registered : ∀ deed ∈ deeds, deed.left.IsRegistered ∧ ∀ a ∈ deed.answers, a.left.IsRegistered
  /-- What a request came to is the last of the answers. -/
  answered : ∀ deed ∈ deeds, ∀ key, deed.operation = .resolve key →
    ∃ own factory result, deed.answers = own ++ [⟨key, factory, result, deed.left⟩] ∧
      deed.result = result.map some
  /-- A service that is given was pinned to the key, or made by the factory of the key, whichever
  of the two was set last. -/
  origin : ∀ past deed future before a after service, deeds = past ++ deed :: future →
    deed.answers = before ++ a :: after → a.result = .ok service →
    ∃ earlier setting later, past = earlier ++ setting :: later ∧
      (∀ d ∈ later, ¬d.operation.Sets a.key) ∧
      (setting.operation = .override a.key service ∨ ∃ factory isShared,
        setting.operation = .register a.key factory isShared ∧
          Made a.key factory service (answersIn later ++ (before ++ [a])))
  /-- Until a shared key is reset, at most one service of it is made, and every request for the key
  that succeeds gives the same one. -/
  once : ∀ earlier setting later during future key factory,
    deeds = earlier ++ setting :: (later ++ (during ++ future)) →
    setting.operation = .register key factory true →
    (∀ d ∈ later, ¬d.operation.Registers key) → (∀ d ∈ during, ¬d.operation.Resets key) →
    (given key (answersIn during)).length ≤ 1 ∧
      ∀ a ∈ answersIn during, ∀ b ∈ answersIn during, a.key = key → b.key = key →
        ∀ service service', a.result = .ok service → b.result = .ok service' → service = service'
  /-- A factory that fails leaves its key without a service. -/
  failed : ∀ deed ∈ deeds, ∀ a ∈ deed.answers, ∀ fault, a.result = .error fault →
    Association.get? a.key a.left.kept = none
  /-- A service that is pinned to a key is what every request for the key gives until the key is set
  again. -/
  pinned : ∀ earlier setting later deed future key service,
    deeds = earlier ++ setting :: (later ++ deed :: future) →
    setting.operation = .override key service → (∀ d ∈ later, ¬d.operation.Sets key) →
    ∀ a ∈ deed.answers, a.key = key → a.result = .ok service

/-! ## Where what is kept comes from -/

/-- The service is pinned to the key. -/
def IsPinned (key : κ) (service : ι) (c : Container κ ι σ) : Prop :=
  Association.get? key c.factories = some (.done (.ok service)) ∧
    ∀ kept, Association.get? key c.kept = some kept → kept = service

/-- The service of the key comes from the deeds: none was set, or it was pinned, or what is kept was
made by the factory registered last. -/
def ComesFrom (key : κ) (deeds : List (Deed κ ι σ)) (c : Container κ ι σ) : Prop :=
  (Association.get? key c.factories = none ∧ Association.get? key c.kept = none) ∨
  ∃ earlier setting later, deeds = earlier ++ setting :: later ∧
    (∀ d ∈ later, ¬d.operation.Sets key) ∧
    ((∃ service, setting.operation = .override key service ∧ IsPinned key service c) ∨
      ∃ factory isShared, setting.operation = .register key factory isShared ∧
        Association.get? key c.factories = some factory ∧
        ∀ kept, Association.get? key c.kept = some kept →
          Made key factory kept (answersIn later))

variable {nameOf : κ → String} {closer : ι → Option (Nat × ExceptT Fault (StateM σ) Unit)}
  {below : κ → κ → Prop}

omit [DecidableEq κ] in
theorem answersIn_append (deeds deeds' : List (Deed κ ι σ)) :
    answersIn (deeds ++ deeds') = answersIn deeds ++ answersIn deeds' := List.flatMap_append

omit [DecidableEq κ] in
theorem answersIn_cons (deed : Deed κ ι σ) (deeds : List (Deed κ ι σ)) :
    answersIn (deed :: deeds) = deed.answers ++ answersIn deeds := List.flatMap_cons

omit [DecidableEq κ] in
theorem Made.mono {key : κ} {factory : Factory κ ι σ} {service : ι}
    {answers answers' : List (Answer κ ι σ)} (h : Made key factory service answers)
    (hsub : answers ⊆ answers') : Made key factory service answers' :=
  h.imp fun _ ha => ⟨hsub ha.1, ha.2⟩

theorem Descends.of_accounts {c c' : Container κ ι σ} {answers : List (Answer κ ι σ)}
    (hc : c.Descends below) (h : ∀ key, Accounts key c answers c') : c'.Descends below :=
  fun key factory hfactory => hc key factory ((h key).factory ▸ hfactory)

/-- A request for a key that a service is pinned to gives that service. -/
theorem Resolves.result_of_isPinned {key : κ} {service : ι} {c c' : Container κ ι σ} {s s' : σ}
    {answers : List (Answer κ ι σ)} {result : Except Fault ι}
    (h : Resolves nameOf key c s answers result c' s') (hpinned : IsPinned key service c) :
    result = .ok service := by
  rcases h.inv with ⟨kept, hkept, -, rfl, -⟩ | ⟨_, -, hfactory, -⟩ |
    ⟨factory, _, _, -, hfactory, hfollows, -⟩
  · rw [hpinned.2 kept hkept]
  · cases hfactory.symm.trans hpinned.1
  · obtain rfl := Option.some.inj (hfactory.symm.trans hpinned.1)
    cases hfollows
    rfl

namespace Deed.Happens

variable {deed : Deed κ ι σ} {c c₁ : Container κ ι σ} {s s' : σ} {key : κ} {service : ι}

/-- What is made during a deed is made by the factory that the container has. -/
theorem made (h : deed.Happens nameOf closer c s s') {answers : List (Answer κ ι σ)}
    (hgiven : service ∈ given key answers) (hsub : answers ⊆ deed.answers)
    {factory : Factory κ ι σ} (hfactory : Association.get? key c.factories = some factory) :
    Made key factory service answers := by
  obtain ⟨a, ha, rfl, working, hworking, hresult⟩ := mem_given.mp hgiven
  have hsame := (h.mem_answers (hsub ha) hworking).1.symm.trans hfactory
  exact ⟨a, ha, rfl, hworking.trans hsame, hresult⟩

/-- The factory of a pinned service makes nothing else. -/
theorem eq_of_given (h : deed.Happens nameOf closer c s s') {pinned : ι}
    (hfactory : Association.get? key c.factories = some (.done (.ok pinned)))
    (hgiven : service ∈ given key deed.answers) : service = pinned := by
  obtain ⟨a, ha, rfl, working, hworking, hresult⟩ := mem_given.mp hgiven
  obtain ⟨hfound, _, _, _, _, _, hfollows⟩ := h.mem_answers ha hworking
  rw [Option.some.inj (hfound.symm.trans hfactory), hresult] at hfollows
  cases hfollows
  rfl

variable [IsStrictOrder κ below]

theorem isPinned (h : deed.Happens nameOf closer c s s') (hc : c.Descends below)
    (hkey : ¬deed.operation.Sets key) (hpinned : IsPinned key service c) :
    IsPinned key service deed.left := by
  refine ⟨(h.factories hkey).trans hpinned.1, fun kept hkept => ?_⟩
  rcases h.kept_or_given hc hkey hkept with hkept | hgiven
  · exact hpinned.2 kept hkept
  · exact h.eq_of_given hpinned.1 hgiven

/-- Every request for a key that a service is pinned to gives that service. -/
theorem result_of_isPinned (h : deed.Happens nameOf closer c s s') (hc : c.Descends below)
    {a : Answer κ ι σ} (ha : a ∈ deed.answers) (hpinned : IsPinned a.key service c) :
    a.result = .ok service := by
  obtain ⟨before, after, hanswers⟩ := List.append_of_mem ha
  obtain ⟨seen, own, c₁, s₁, s₂, rfl, haccounts, hresolves⟩ := h.exists_resolves hc hanswers
  refine hresolves.result_of_isPinned ⟨(haccounts a.key).factory.trans hpinned.1, ?_⟩
  intro kept hkept
  rcases (haccounts a.key).kept_or_given hkept with hkept | hgiven
  · exact hpinned.2 kept hkept
  · refine h.eq_of_given hpinned.1 ?_
    rw [hanswers, List.append_assoc, given_append]
    exact List.mem_append_left _ hgiven

/-- Where a request fails, its key is left without a service. -/
theorem not_kept (h : deed.Happens nameOf closer c s s') (hc : c.Descends below)
    {a : Answer κ ι σ} (ha : a ∈ deed.answers) {fault : Fault} (hresult : a.result = .error fault) :
    Association.get? a.key a.left.kept = none := by
  obtain ⟨before, after, hanswers⟩ := List.append_of_mem ha
  obtain ⟨seen, own, c₁, s₁, s₂, -, haccounts, hresolves⟩ := h.exists_resolves hc hanswers
  rw [hresult] at hresolves
  exact hresolves.not_kept (hc.of_accounts haccounts)

/-- **A deed leaves every service with an origin.** -/
theorem comesFrom {deeds : List (Deed κ ι σ)} (h : deed.Happens nameOf closer c s s')
    (hc : c.Descends below) (horigin : ComesFrom key deeds c) :
    ComesFrom key (deeds ++ [deed]) deed.left := by
  by_cases hkey : deed.operation.Sets key
  · refine .inr ⟨deeds, deed, [], rfl, (fun _ hd => nomatch hd), ?_⟩
    rcases h.inv with ⟨k, factory, isShared, hop, -, hleft⟩ | ⟨k, service, hop, -, hleft⟩ |
      ⟨_, _, hop, -, -⟩ | ⟨hop | hop, -, -⟩ <;> rw [hop] at hkey
    · obtain rfl : k = key := hkey
      refine .inr ⟨factory, isShared, hop, ?_, fun kept hkept => ?_⟩
      · rw [hleft, Container.register, Association.get?_put, if_pos rfl]
      · rw [hleft, Container.register, Association.get?_erase, if_pos rfl] at hkept
        cases hkept
    · obtain rfl : k = key := hkey
      refine .inl ⟨service, hop, ?_, fun kept hkept => ?_⟩
      · rw [hleft, Container.override, Association.get?_put, if_pos rfl]
      · rw [hleft, Container.override, Association.get?_put, if_pos rfl] at hkept
        exact (Option.some.inj hkept).symm
    · exact hkey.elim
    · exact hkey.elim
    · exact hkey.elim
  · have hlater (later : List (Deed κ ι σ)) (hlater : ∀ d ∈ later, ¬d.operation.Sets key) :
        ∀ d ∈ later ++ [deed], ¬d.operation.Sets key :=
      List.forall_mem_append.mpr ⟨hlater, List.forall_mem_singleton.mpr hkey⟩
    rcases horigin with ⟨hfactory, hkept⟩ |
      ⟨earlier, setting, later, rfl, hnone, ⟨service, hop, hpinned⟩ |
        ⟨factory, isShared, hop, hfactory, hmade⟩⟩
    · refine .inl ⟨(h.factories hkey).trans hfactory, ?_⟩
      rw [Option.eq_none_iff_forall_ne_some]
      intro service hservice
      rcases h.kept_or_given hc hkey hservice with hbefore | hgiven
      · cases hkept.symm.trans hbefore
      · obtain ⟨a, ha, rfl, working, hworking, -⟩ := mem_given.mp hgiven
        cases hfactory.symm.trans (h.mem_answers ha hworking).1
    · exact .inr ⟨earlier, setting, later ++ [deed], by simp, hlater later hnone,
        .inl ⟨service, hop, h.isPinned hc hkey hpinned⟩⟩
    · refine .inr ⟨earlier, setting, later ++ [deed], by simp, hlater later hnone,
        .inr ⟨factory, isShared, hop, (h.factories hkey).trans hfactory, fun kept hkept => ?_⟩⟩
      rw [answersIn_append, answersIn_cons]
      rcases h.kept_or_given hc hkey hkept with hkept | hgiven
      · exact (hmade kept hkept).mono (List.subset_append_left ..)
      · exact (h.made hgiven (List.Subset.refl _) hfactory).mono
          fun _ ha => List.mem_append_right _ (List.mem_append_left _ ha)

end Deed.Happens

/-- Every operation comes to something. -/
theorem Deed.exists_happens [IsStrictOrder κ below] (nameOf : κ → String)
    (closer : ι → Option (Nat × ExceptT Fault (StateM σ) Unit)) (operation : Operation κ ι σ)
    {c : Container κ ι σ} (s : σ) (hc : c.Descends below) :
    ∃ (deed : Deed κ ι σ) (s' : σ), deed.Happens nameOf closer c s s' ∧
      deed.operation = operation := by
  obtain ⟨⟨result, left, s'⟩, hrun⟩ :
    ∃ run, (operation.perform nameOf closer).runIn c s = run := ⟨_, rfl⟩
  cases operation with
  | resolve key =>
    obtain ⟨answers, found, c', s₁, hfound, hresolves⟩ := resolve_follows nameOf key s hc
    refine ⟨⟨.resolve key, found.map some, answers, c'⟩, s₁, ⟨?_, found, rfl, hresolves⟩, rfl⟩
    rw [Operation.perform, Run.runIn_bind, hfound]
    cases found <;> rfl
  | register key factory isShared =>
    exact ⟨⟨_, result, [], left⟩, s', ⟨hrun, rfl⟩, rfl⟩
  | override key service => exact ⟨⟨_, result, [], left⟩, s', ⟨hrun, rfl⟩, rfl⟩
  | reset => exact ⟨⟨_, result, [], left⟩, s', ⟨hrun, rfl⟩, rfl⟩
  | close => exact ⟨⟨_, result, [], left⟩, s', ⟨hrun, rfl⟩, rfl⟩

/-! ## Courses -/

namespace Course

variable {deeds : List (Deed κ ι σ)} {c c' : Container κ ι σ} {s s' : σ} {key : κ}

/-- What each deed keeps so holds after all of them. -/
theorem preserves {q : Container κ ι σ → Prop} (h : Course nameOf closer c s deeds c' s')
    (hq : q c) (hstep : ∀ d ∈ deeds, ∀ c s s', d.Happens nameOf closer c s s' → q c → q d.left) :
    q c' := by
  induction h with
  | nil => exact hq
  | cons first _ ih =>
    obtain ⟨hfirst, hrest⟩ := List.forall_mem_cons.mp hstep
    exact ih (hfirst _ _ _ first hq) hrest

theorem descends (h : Course nameOf closer c s deeds c' s') (hc : c.Descends below)
    (hdeeds : ∀ d ∈ deeds, d.operation.Descends below) : c'.Descends below :=
  h.preserves hc fun d hd _ _ _ hdeed hc => hdeed.descends hc (hdeeds d hd)

theorem isRegistered (h : Course nameOf closer c s deeds c' s') (hc : c.IsRegistered) :
    c'.IsRegistered :=
  h.preserves hc fun _ _ _ _ _ hdeed hc => (hdeed.isRegistered hc).1

theorem shared (h : Course nameOf closer c s deeds c' s')
    (hdeeds : ∀ d ∈ deeds, ¬d.operation.Registers key) (hshared : key ∈ c.shared) :
    key ∈ c'.shared :=
  h.preserves hshared fun d hd _ _ _ hdeed hshared => (hdeed.shared (hdeeds d hd)).mpr hshared

/-- A deed in the middle happens where those before it have led. -/
theorem exists_happens {past future : List (Deed κ ι σ)} {deed : Deed κ ι σ}
    (h : Course nameOf closer c s (past ++ deed :: future) c' s') : ∃ c₁ s₁ s₂,
      Course nameOf closer c s past c₁ s₁ ∧ deed.Happens nameOf closer c₁ s₁ s₂ ∧
        Course nameOf closer deed.left s₂ future c' s' := by
  obtain ⟨c₁, s₁, hpast, _ | ⟨hdeed, hfuture⟩⟩ := course_append.mp h
  exact ⟨c₁, s₁, _, hpast, hdeed, hfuture⟩

variable [IsStrictOrder κ below]

theorem isPinned {service : ι} (h : Course nameOf closer c s deeds c' s') (hc : c.Descends below)
    (hdeeds : ∀ d ∈ deeds, d.operation.Descends below) (hkey : ∀ d ∈ deeds, ¬d.operation.Sets key)
    (hpinned : IsPinned key service c) : IsPinned key service c' := by
  let q (c : Container κ ι σ) : Prop := c.Descends below ∧ IsPinned key service c
  have hstep : ∀ d ∈ deeds, ∀ c s s', d.Happens nameOf closer c s s' → q c → q d.left :=
    fun d hd _ _ _ hdeed h =>
      ⟨hdeed.descends h.1 (hdeeds d hd), hdeed.isPinned h.1 (hkey d hd) h.2⟩
  exact (h.preserves ⟨hc, hpinned⟩ hstep).2

/-- The answers account for what is kept of a key until it is reset. -/
theorem accounts (h : Course nameOf closer c s deeds c' s') (hc : c.Descends below)
    (hdeeds : ∀ d ∈ deeds, d.operation.Descends below)
    (hkey : ∀ d ∈ deeds, ¬d.operation.Resets key) : Accounts key c (answersIn deeds) c' := by
  induction h with
  | nil => exact .refl key _
  | cons first _ ih =>
    obtain ⟨hfirst, hrest⟩ := List.forall_mem_cons.mp hdeeds
    obtain ⟨hkeyFirst, hkeyRest⟩ := List.forall_mem_cons.mp hkey
    rw [answersIn_cons]
    exact (first.accounts hc hkeyFirst).trans (ih (first.descends hc hfirst) hrest hkeyRest)

/-- A shared service that is given is what is kept until it is reset. -/
theorem kept_of_result {service : ι} {a : Answer κ ι σ}
    (h : Course nameOf closer c s deeds c' s') (hc : c.Descends below)
    (hdeeds : ∀ d ∈ deeds, d.operation.Descends below)
    (hkey : ∀ d ∈ deeds, ¬d.operation.Resets a.key) (hshared : a.key ∈ c.shared)
    (ha : a ∈ answersIn deeds) (hresult : a.result = .ok service) :
    Association.get? a.key c'.kept = some service := by
  have hall := h.accounts hc hdeeds hkey
  obtain ⟨deed, hdeedMem, haMem⟩ := List.mem_flatMap.mp ha
  obtain ⟨past, future, rfl⟩ := List.append_of_mem hdeedMem
  obtain ⟨before, after, hanswers⟩ := List.append_of_mem haMem
  obtain ⟨hdeedsPast, -⟩ := List.forall_mem_append.mp hdeeds
  obtain ⟨hkeyPast, -⟩ := List.forall_mem_append.mp hkey
  obtain ⟨c₁, s₁, s₂, hpast, hdeed, -⟩ := h.exists_happens
  -- What was kept or made up to the answer is among what was kept or made in all.
  have hgiven : given a.key (answersIn (past ++ deed :: future)) =
      given a.key (answersIn past) ++
        (given a.key (before ++ [a]) ++ given a.key (after ++ answersIn future)) := by
    rw [← given_append, ← given_append, answersIn_append, answersIn_cons, hanswers]
    simp only [List.append_assoc, List.cons_append, List.nil_append]
  rw [← Option.mem_toList, ← hall.kept hshared, hgiven]
  rcases hdeed.answer_kept_or_given (hpast.descends hc hdeedsPast) hanswers hresult with
    hkept | hmade
  · rcases (hpast.accounts hc hdeedsPast hkeyPast).kept_or_given hkept with hkept | hmade
    · exact List.mem_append_left _ (Option.mem_toList.mpr hkept)
    · exact List.mem_append_right _ (List.mem_append_left _ hmade)
  · exact List.mem_append_right _ (List.mem_append_right _ (List.mem_append_left _ hmade))

theorem comesFrom (h : Course nameOf closer empty s deeds c' s')
    (hdeeds : ∀ d ∈ deeds, d.operation.Descends below) (key : κ) : ComesFrom key deeds c' := by
  induction deeds using List.reverseRecOn generalizing c' s' with
  | nil =>
    cases h
    exact .inl ⟨rfl, rfl⟩
  | append_singleton deeds deed ih =>
    obtain ⟨hdeedsPast, -⟩ := List.forall_mem_append.mp hdeeds
    obtain ⟨c₁, s₁, s₂, hpast, hdeed, ⟨⟩⟩ := h.exists_happens
    have hc₁ : c₁.Descends below :=
      hpast.descends (fun _ _ hfactory => nomatch hfactory) hdeedsPast
    exact hdeed.comesFrom hc₁ (ih hpast hdeedsPast)

/-- **Every course has its deeds**: for each operation in turn there is what it comes to. -/
theorem exists_of_operations (operations : List (Operation κ ι σ))
    (hoperations : ∀ o ∈ operations, o.Descends below) (hc : c.Descends below) :
    ∃ deeds c' s', Course nameOf closer c s deeds c' s' ∧
      deeds.map Deed.operation = operations := by
  induction operations generalizing c s with
  | nil => exact ⟨[], c, s, .nil, rfl⟩
  | cons operation operations ih =>
    obtain ⟨hfirst, hrest⟩ := List.forall_mem_cons.mp hoperations
    obtain ⟨deed, s₁, hdeed, rfl⟩ := Deed.exists_happens nameOf closer operation s hc
    obtain ⟨deeds, c', s', hdeeds, rfl⟩ := ih hrest (hdeed.descends hc hfirst) (s := s₁)
    exact ⟨deed :: deeds, c', s', .cons hdeed hdeeds, rfl⟩

/-! ## Courses of an empty container -/

section

variable {past future : List (Deed κ ι σ)} {deed : Deed κ ι σ} {service : ι}

omit [IsStrictOrder κ below] in
/-- Where a deed happens in the course: its container is the one that the deeds before it have led
to. -/
theorem at_deed (h : Course nameOf closer empty s (past ++ deed :: future) c' s')
    (hdeeds : ∀ d ∈ past ++ deed :: future, d.operation.Descends below) : ∃ c₁ s₁ s₂,
      Course nameOf closer empty s past c₁ s₁ ∧ deed.Happens nameOf closer c₁ s₁ s₂ ∧
        Course nameOf closer deed.left s₂ future c' s' ∧
        c₁.Descends below ∧ deed.left.Descends below ∧ c₁.IsRegistered := by
  obtain ⟨hdeedsPast, hdeedsRest⟩ := List.forall_mem_append.mp hdeeds
  obtain ⟨c₁, s₁, s₂, hpast, hdeed, hfuture⟩ := h.exists_happens
  have hc₁ : c₁.Descends below := hpast.descends (fun _ _ hfactory => nomatch hfactory) hdeedsPast
  exact ⟨c₁, s₁, s₂, hpast, hdeed, hfuture, hc₁,
    hdeed.descends hc₁ (List.forall_mem_cons.mp hdeedsRest).1,
    hpast.isRegistered fun _ _ hkept => (nomatch hkept)⟩

/-- A service that is given comes from what was set last. -/
theorem origin (h : Course nameOf closer empty s (past ++ deed :: future) c' s')
    (hdeeds : ∀ d ∈ past ++ deed :: future, d.operation.Descends below)
    {before after : List (Answer κ ι σ)} {a : Answer κ ι σ}
    (hanswers : deed.answers = before ++ a :: after) (hresult : a.result = .ok service) :
    ∃ earlier setting later, past = earlier ++ setting :: later ∧
      (∀ d ∈ later, ¬d.operation.Sets a.key) ∧
      (setting.operation = .override a.key service ∨ ∃ factory isShared,
        setting.operation = .register a.key factory isShared ∧
          Made a.key factory service (answersIn later ++ (before ++ [a]))) := by
  obtain ⟨c₁, s₁, s₂, hpast, hdeed, -, hc₁, -⟩ := h.at_deed hdeeds
  have hdeedsPast := (List.forall_mem_append.mp hdeeds).1
  have ha : a ∈ deed.answers := hanswers ▸ List.mem_append_right _ List.mem_cons_self
  have hsub : before ++ [a] ⊆ deed.answers := by
    rw [hanswers, List.append_cons before a after]
    exact List.subset_append_left ..
  rcases hpast.comesFrom hdeedsPast a.key with ⟨hfactory, hkept⟩ |
    ⟨earlier, setting, later, rfl, hlater, ⟨pinned, hop, hpinned⟩ |
      ⟨factory, isShared, hop, hfactory, hmade⟩⟩
  · rcases hdeed.answer_kept_or_given hc₁ hanswers hresult with hbefore | hgiven
    · cases hkept.symm.trans hbefore
    · obtain ⟨b, hb, hkey, working, hworking, -⟩ := mem_given.mp hgiven
      rw [← hkey] at hfactory
      cases hfactory.symm.trans (hdeed.mem_answers (hsub hb) hworking).1
  · refine ⟨earlier, setting, later, rfl, hlater, .inl ?_⟩
    rw [hop, Except.ok.inj (hresult.symm.trans (hdeed.result_of_isPinned hc₁ ha hpinned))]
  · refine ⟨earlier, setting, later, rfl, hlater, .inr ⟨factory, isShared, hop, ?_⟩⟩
    rcases hdeed.answer_kept_or_given hc₁ hanswers hresult with hkept | hgiven
    · exact (hmade service hkept).mono (List.subset_append_left ..)
    · exact (hdeed.made hgiven hsub hfactory).mono (List.subset_append_right ..)

/-- Until a shared key is reset, at most one service of it is made and given. -/
theorem once {earlier later during : List (Deed κ ι σ)} {setting : Deed κ ι σ}
    {factory : Factory κ ι σ}
    (h : Course nameOf closer empty s (earlier ++ setting :: (later ++ (during ++ future))) c' s')
    (hdeeds : ∀ d ∈ earlier ++ setting :: (later ++ (during ++ future)),
      d.operation.Descends below)
    (hop : setting.operation = .register key factory true)
    (hlater : ∀ d ∈ later, ¬d.operation.Registers key)
    (hduring : ∀ d ∈ during, ¬d.operation.Resets key) :
    (given key (answersIn during)).length ≤ 1 ∧
      ∀ a ∈ answersIn during, ∀ b ∈ answersIn during, a.key = key → b.key = key →
        ∀ service service', a.result = .ok service → b.result = .ok service' →
          service = service' := by
  obtain ⟨c₁, s₁, s₂, -, hsetting, hrest, -, hc₂, -⟩ := h.at_deed hdeeds
  have hdeedsRest := (List.forall_mem_cons.mp (List.forall_mem_append.mp hdeeds).2).2
  obtain ⟨hdeedsLater, hdeedsRest⟩ := List.forall_mem_append.mp hdeedsRest
  obtain ⟨hdeedsDuring, -⟩ := List.forall_mem_append.mp hdeedsRest
  obtain ⟨c₃, s₃, hlaterCourse, hrest⟩ := course_append.mp hrest
  obtain ⟨c₄, s₄, hduringCourse, -⟩ := course_append.mp hrest
  have hc₃ : c₃.Descends below := hlaterCourse.descends hc₂ hdeedsLater
  have hleft : setting.left = c₁.register key factory true := by
    have hrun := hsetting.1
    rw [hop] at hrun
    exact (Prod.mk.inj (Prod.mk.inj hrun).2).1.symm
  have hshared : key ∈ c₃.shared := by
    refine hlaterCourse.shared hlater ?_
    rw [hleft]
    exact List.mem_insert_self
  refine ⟨(hduringCourse.accounts hc₃ hdeedsDuring hduring).length_given_le hshared, ?_⟩
  rintro a ha b hb rfl hkey service service' hresult hresult'
  have hkept := hduringCourse.kept_of_result hc₃ hdeedsDuring hduring hshared ha hresult
  rw [← hkey] at hduring hshared
  have hkept' := hduringCourse.kept_of_result hc₃ hdeedsDuring hduring hshared hb hresult'
  rw [hkey] at hkept'
  exact Option.some.inj (hkept.symm.trans hkept')

/-- A pinned service is what every request for its key gives. -/
theorem pinned {earlier later : List (Deed κ ι σ)} {setting : Deed κ ι σ}
    (h : Course nameOf closer empty s (earlier ++ setting :: (later ++ deed :: future)) c' s')
    (hdeeds : ∀ d ∈ earlier ++ setting :: (later ++ deed :: future), d.operation.Descends below)
    (hop : setting.operation = .override key service)
    (hlater : ∀ d ∈ later, ¬d.operation.Sets key) {a : Answer κ ι σ} (ha : a ∈ deed.answers)
    (hkey : a.key = key) : a.result = .ok service := by
  obtain ⟨c₁, s₁, s₂, -, hsetting, hrest, -, hc₂, -⟩ := h.at_deed hdeeds
  have hdeedsRest := (List.forall_mem_cons.mp (List.forall_mem_append.mp hdeeds).2).2
  have hdeedsLater := (List.forall_mem_append.mp hdeedsRest).1
  obtain ⟨c₃, s₃, s₄, hlaterCourse, hdeed, -⟩ := hrest.exists_happens
  have hleft : setting.left = c₁.override key service := by
    have hrun := hsetting.1
    rw [hop] at hrun
    exact (Prod.mk.inj (Prod.mk.inj hrun).2).1.symm
  have hpinned : IsPinned key service setting.left := by
    rw [hleft]
    refine ⟨by rw [Container.override, Association.get?_put, if_pos rfl], fun kept hkept => ?_⟩
    rw [Container.override, Association.get?_put, if_pos rfl] at hkept
    exact (Option.some.inj hkept).symm
  refine hdeed.result_of_isPinned (hlaterCourse.descends hc₂ hdeedsLater) ha ?_
  rw [hkey]
  exact hlaterCourse.isPinned hc₂ hdeedsLater hlater hpinned

end

end Course

/-- **Where services come from.**  Whatever is done to an empty container, every operation comes to
something, and however that turns out, what is kept and what is given is in order. -/
theorem orderly [IsStrictOrder κ below] (nameOf : κ → String)
    (closer : ι → Option (Nat × ExceptT Fault (StateM σ) Unit))
    (operations : List (Operation κ ι σ)) (hoperations : ∀ o ∈ operations, o.Descends below)
    (s : σ) :
    (∃ deeds c s', Course nameOf closer empty s deeds c s' ∧
      deeds.map Deed.operation = operations) ∧
    ∀ deeds c s', Course nameOf closer empty s deeds c s' →
      deeds.map Deed.operation = operations → Orderly deeds := by
  have hempty : (empty : Container κ ι σ).Descends below := fun _ _ hfactory => nomatch hfactory
  refine ⟨Course.exists_of_operations operations hoperations hempty, ?_⟩
  rintro deeds c s' h rfl
  have hdeeds : ∀ d ∈ deeds, d.operation.Descends below := fun d hd =>
    hoperations _ (List.mem_map_of_mem hd)
  have happens (deed : Deed κ ι σ) (hdeed : deed ∈ deeds) : ∃ c₁ s₁ s₂,
      c₁.Descends below ∧ c₁.IsRegistered ∧ deed.Happens nameOf closer c₁ s₁ s₂ := by
    obtain ⟨past, future, rfl⟩ := List.append_of_mem hdeed
    obtain ⟨c₁, s₁, s₂, -, hdeed, -, hc₁, -, hregistered⟩ := h.at_deed hdeeds
    exact ⟨c₁, s₁, s₂, hc₁, hregistered, hdeed⟩
  constructor
  case registered =>
    intro deed hdeed
    obtain ⟨c₁, s₁, s₂, -, hc₁, hdeed⟩ := happens deed hdeed
    exact hdeed.isRegistered hc₁
  case answered =>
    intro deed hdeed key hop
    obtain ⟨c₁, s₁, s₂, -, -, hdeed⟩ := happens deed hdeed
    obtain ⟨result, hresult, hresolves⟩ := hdeed.resolves hop
    obtain ⟨own, factory, hanswers⟩ := hresolves.exists_answer
    exact ⟨own, factory, result, hanswers, hresult⟩
  case origin =>
    rintro past deed future before a after service rfl hanswers hresult
    exact h.origin hdeeds hanswers hresult
  case once =>
    rintro earlier setting later during future key factory rfl hop hlater hduring
    exact h.once hdeeds hop hlater hduring
  case failed =>
    intro deed hdeed a ha fault hresult
    obtain ⟨c₁, s₁, s₂, hc₁, -, hdeed⟩ := happens deed hdeed
    exact hdeed.not_kept hc₁ ha hresult
  case pinned =>
    rintro earlier setting later deed future key service rfl hop hlater a ha hkey
    exact h.pinned hdeeds hop hlater ha hkey

/-- Services that need each other in a row, the last of which cannot be made; then the first one is
pinned. -/
def chained : List (Operation ℕ ℕ ℕ) :=
  let fresh : ExceptT Fault (StateM ℕ) ℕ := modifyGet fun s => (s, s + 1)
  let numbered (needs : List ℕ) : Recipe ℕ ℕ ℕ := ⟨needs, fun _ => fresh⟩
  let failing (needs : List ℕ) : Recipe ℕ ℕ ℕ := ⟨needs, fun _ => throw (.invalid "unavailable")⟩
  [.register 0 (numbered []) true, .register 1 (numbered [0]) true,
    .register 2 (failing [1, 0]) true, .resolve 2, .resolve 1, .override 0 7, .reset, .resolve 1,
    .resolve 0, .close, .resolve 2]

theorem orderly_chained :
    ∃ deeds c s', Course toString (fun _ => none) empty 0 deeds c s' ∧
      deeds.map Deed.operation = chained ∧ Orderly deeds := by
  have hchained : ∀ o ∈ chained, o.Descends (· < ·) := by
    simp only [chained, List.forall_mem_cons, Operation.Descends, true_and]
    refine ⟨(Recipe.asksOnly _).mono ?_, (Recipe.asksOnly _).mono ?_,
      (Recipe.asksOnly _).mono ?_, fun _ ho => nomatch ho⟩ <;> simp
  obtain ⟨⟨deeds, c, s', h, hdeeds⟩, hall⟩ := orderly toString (fun _ => none) chained hchained 0
  exact ⟨deeds, c, s', h, hdeeds, hall deeds c s' h hdeeds⟩

end Container

end SearchGateway
