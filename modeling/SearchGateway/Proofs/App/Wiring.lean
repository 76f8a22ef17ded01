import SearchGateway.App
import SearchGateway.Proofs.Clients
import SearchGateway.Proofs.Container.Following

/-!
# How the services of the gateway hang together

Whatever services are asked for, in whatever order, one client of the engine is made at most, and
one embedder; every service works with these two, and the container keeps both, so that they can be
found again (`Wired`).  This is what asking for a service preserves (`wires`), also where the service
cannot be made.
-/

set_option autoImplicit false

namespace SearchGateway

/-- The number that tells an embedder from other clients and models. -/
def Embedder.identity : Embedder → ℕ
  | .service s => s.identity
  | .model m => m.identity

/-- The HTTP client of an embedder. -/
def Embedder.client? : Embedder → Option ℕ
  | .service s => some s.identity
  | .model _ => none

/-- How far the role is from those that need no other. -/
def Role.rank : Role → ℕ
  | client | embedder => 0
  | engine | indexes | documents => 1
  | paginator => 2
  | searcher | storage => 3

namespace App

open SearchGateway.Action SearchGateway.Container

/-! ## What was made -/

/-- What the recipes have made so far. -/
structure Inventory where
  engine : Option Engine := none
  /-- The embedder, which is none at all if the settings say so. -/
  embedder : Option (Option Embedder) := none

namespace Inventory

/-- The clients and models in the inventory. -/
def identities (i : Inventory) : List ℕ :=
  i.engine.toList.map Engine.identity ++ i.embedder.join.toList.map Embedder.identity

/-- The HTTP clients in the inventory. -/
def clients (i : Inventory) : List ℕ :=
  i.engine.toList.map Engine.identity ++ (i.embedder.join.bind Embedder.client?).toList

/-- What is in the first inventory is in the second one. -/
structure Extends (i j : Inventory) : Prop where
  engine : ∀ engine, i.engine = some engine → j.engine = some engine
  embedder : ∀ embedder, i.embedder = some embedder → j.embedder = some embedder

theorem Extends.refl (i : Inventory) : i.Extends i := ⟨fun _ h => h, fun _ h => h⟩

theorem Extends.trans {i j k : Inventory} (hij : i.Extends j) (hjk : j.Extends k) : i.Extends k :=
  ⟨fun e h => hjk.engine e (hij.engine e h), fun m h => hjk.embedder m (hij.embedder m h)⟩

/-- What is in the inventory was made from the first surroundings to the second, and nothing else
was; no client was closed. -/
structure Accounts (i : Inventory) (s t : Surroundings) : Prop where
  made : t.made = s.made + i.identities.length
  identities : i.identities.Perm (List.range' s.made i.identities.length)
  opened : t.opened.Perm (i.clients ++ s.opened)
  closed : t.closed = s.closed

theorem Accounts.refl (s : Surroundings) : Accounts {} s s := ⟨rfl, .refl _, .refl _, rfl⟩

/-- What is steady makes no difference to the account. -/
theorem Accounts.of_ledger {i : Inventory} {s t u : Surroundings} (h : i.Accounts s t)
    (hu : u.ledger = t.ledger) : i.Accounts s u := by
  obtain ⟨hmade, hrest⟩ := Prod.mk.inj hu
  obtain ⟨hopened, hclosed⟩ := Prod.mk.inj hrest
  exact ⟨hmade.trans h.made, h.identities, hopened ▸ h.opened, hclosed.trans h.closed⟩

/-- One more client or model is made and added to the inventory. -/
theorem Accounts.add {i j : Inventory} {s t u : Surroundings} {clients : List ℕ}
    (h : i.Accounts s t) (hidentities : j.identities.Perm (t.made :: i.identities))
    (hclients : j.clients.Perm (clients ++ i.clients)) (hmade : u.made = t.made + 1)
    (hopened : u.opened = clients ++ t.opened) (hclosed : u.closed = t.closed) :
    j.Accounts s u := by
  have hlength : j.identities.length = i.identities.length + 1 := hidentities.length_eq
  constructor
  case made => rw [hmade, h.made, hlength, Nat.add_assoc]
  case identities =>
    rw [hlength, List.range'_1_concat, ← h.made]
    exact (hidentities.trans (h.identities.cons t.made)).trans (List.perm_append_singleton ..).symm
  case opened =>
    rw [hopened]
    refine (h.opened.append_left clients).trans ?_
    rw [← List.append_assoc]
    exact hclients.symm.append_right s.opened
  case closed => exact hclosed.trans h.closed

end Inventory

/-! ## What fits together -/

variable (settings : Settings)

/-- The service is one of the role that works with what is in the inventory. -/
def Fits (i : Inventory) : Role → Service → Prop
  | .client, .engine engine => i.engine = some engine
  | .engine, .engine engine => i.engine = some engine
  | .indexes, .engine engine => i.engine = some engine
  | .documents, .engine engine => i.engine = some engine
  | .embedder, .embedder embedder => i.embedder = some embedder
  | .paginator, .paginator paginator => i.engine = some paginator.engine
  | .searcher, .searcher searcher => i.engine = some searcher.engine ∧
    i.engine = some searcher.paginator.engine ∧ i.embedder = some searcher.embedder
  | .storage, .storage storage => i.engine = some storage.indexes ∧
    i.engine = some storage.documents ∧ i.engine = some storage.engine ∧
    i.engine = some storage.paginator.engine ∧
    if settings.modelId.isEmpty then i.embedder = some storage.embedder
    else storage.embedder = none
  | _, _ => False

/-- The services of the role work with an embedder. -/
def NeedsEmbedder : Role → Prop
  | .embedder => True
  | .searcher => True
  | .storage => settings.modelId.isEmpty = true
  | _ => False

/-- The settings name a kind of embedder that there is. -/
def HasKind : Prop := settings.embedderKind ∈ ["http", "local", "none"]

/-- What asking for the service of a role comes to: a service that fits, or a failure if the embedder
that it needs is of no kind that there is. -/
def Answers (i : Inventory) (role : Role) : Except Fault Service → Prop
  | .ok service => Fits settings i role service ∧ (NeedsEmbedder settings role → HasKind settings)
  | .error fault => NeedsEmbedder settings role ∧ ¬HasKind settings ∧
    fault = .invalid s!"unknown embedder kind: {settings.embedderKind}"

/-- The state of the gateway after some of its services were asked for: the container keeps what is
in the inventory, and all that it keeps works with that. -/
structure Wired (s : Surroundings) (i : Inventory) (c : App) (t : Surroundings) : Prop where
  factories : c.factories = (configure settings).factories
  shared : c.shared = (configure settings).shared
  fits : ∀ entry ∈ c.kept, Fits settings i entry.1 entry.2
  engine : ∀ engine, i.engine = some engine →
    Association.get? .client c.kept = some (.engine engine) ∧ engine.owned = true
  embedder : ∀ embedder, i.embedder = some embedder →
    Association.get? .embedder c.kept = some (.embedder embedder) ∧ HasKind settings ∧
      ∀ service, embedder = some (.service service) → service.owned = true
  accounts : i.Accounts s t

variable {settings} {i j : Inventory} {s t t' : Surroundings} {c c' : App} {role : Role}

theorem Fits.mono {service : Service} (h : Fits settings i role service) (hij : i.Extends j) :
    Fits settings j role service := by
  obtain ⟨hengine, hembedder⟩ := hij
  cases role <;> cases service <;> simp only [Fits] at h ⊢
  case client.engine | engine.engine | indexes.engine | documents.engine => exact hengine _ h
  case embedder.embedder => exact hembedder _ h
  case paginator.paginator => exact hengine _ h
  case searcher.searcher => exact ⟨hengine _ h.1, hengine _ h.2.1, hembedder _ h.2.2⟩
  case storage.storage =>
    refine ⟨hengine _ h.1, hengine _ h.2.1, hengine _ h.2.2.1, hengine _ h.2.2.2.1, ?_⟩
    split
    · exact hembedder _ (by simpa [*] using h.2.2.2.2)
    · simpa [*] using h.2.2.2.2

theorem Fits.eq_engine {engine : Engine} (h : Fits settings i role (.engine engine)) :
    i.engine = some engine := by
  cases role with
  | client | engine | indexes | documents => exact h
  | _ => exact h.elim

theorem Fits.eq_embedder {embedder : Option Embedder} (h : Fits settings i role (.embedder embedder)) :
    i.embedder = some embedder := by
  cases role with
  | embedder => exact h
  | _ => exact h.elim

theorem Fits.exists_engine {service : Service} (h : Fits settings i role service)
    (hrole : role ∈ [Role.client, .engine, .indexes, .documents]) :
    ∃ engine, service = .engine engine ∧ i.engine = some engine := by
  cases service with
  | engine engine => exact ⟨engine, rfl, h.eq_engine⟩
  | _ => cases role <;> simp_all [Fits]

theorem Fits.exists_embedder {service : Service} (h : Fits settings i .embedder service) :
    ∃ embedder, service = .embedder embedder ∧ i.embedder = some embedder := by
  cases service <;> simp_all [Fits]

theorem Fits.exists_paginator {service : Service} (h : Fits settings i .paginator service) :
    ∃ paginator, service = .paginator paginator ∧ i.engine = some paginator.engine := by
  cases service <;> simp_all [Fits]

theorem Answers.mono {result : Except Fault Service} (h : Answers settings i role result)
    (hij : i.Extends j) : Answers settings j role result := by
  cases result with
  | ok service => exact ⟨h.1.mono hij, h.2⟩
  | error fault => exact h

namespace Wired

theorem start (settings : Settings) (s : Surroundings) : Wired settings s {} (configure settings) s :=
  ⟨rfl, rfl, fun _ h => (nomatch h), fun _ h => (nomatch h), fun _ h => (nomatch h), .refl s⟩

/-- What is steady leaves the services as they are wired. -/
theorem of_ledger (hw : Wired settings s i c t) (ht : t'.ledger = t.ledger) :
    Wired settings s i c t' :=
  { hw with accounts := hw.accounts.of_ledger ht }

theorem factory (hw : Wired settings s i c t) (role : Role) :
    Association.get? role c.factories = some (recipe settings role).factory := by
  rw [hw.factories]
  cases role <;> rfl

theorem mem_shared (hw : Wired settings s i c t) (role : Role) : role ∈ c.shared := by
  have hshared : (configure settings).shared = roles.reverse := rfl
  rw [hw.shared, hshared]
  cases role <;> decide

/-- A service that fits is an answer. -/
theorem answers (hw : Wired settings s i c t) {service : Service}
    (h : Fits settings i role service) : Answers settings i role (.ok service) := by
  refine ⟨h, fun hneeds => ?_⟩
  cases role <;> cases service <;> simp only [Fits, NeedsEmbedder] at h hneeds
  case embedder.embedder => exact (hw.embedder _ h).2.1
  case searcher.searcher => exact (hw.embedder _ h.2.2).2.1
  case storage.storage =>
    rw [if_pos hneeds] at h
    exact (hw.embedder _ h.2.2.2.2).2.1

/-- A service that is made is kept. -/
theorem settle (hw : Wired settings s i c t) (hij : i.Extends j) {service : Service}
    (hfits : Fits settings j role service)
    (hengine : ∀ engine, j.engine = some engine →
      Association.get? .client (Association.put role service c.kept) = some (.engine engine) ∧
        engine.owned = true)
    (hembedder : ∀ embedder, j.embedder = some embedder →
      Association.get? .embedder (Association.put role service c.kept) =
          some (.embedder embedder) ∧ HasKind settings ∧
        ∀ service, embedder = some (.service service) → service.owned = true)
    (haccounts : j.Accounts s t') :
    Wired settings s j (Container.settle role (.ok service) c) t' := by
  have hsettle : Container.settle role (.ok service) c =
      { c with kept := Association.put role service c.kept } := if_pos (hw.mem_shared role)
  rw [hsettle]
  refine ⟨hw.factories, hw.shared, fun entry hentry => ?_, hengine, hembedder, haccounts⟩
  rcases Association.mem_put hentry with rfl | hentry
  · exact hfits
  · exact (hw.fits entry hentry).mono hij

end Wired

/-! ## Asking for services -/

variable (settings s)

/-- Asking for the service of the role leaves the gateway wired. -/
def Wires (role : Role) : Prop := ∀ i c t answers result c' t', Wired settings s i c t →
  Resolves Role.title role c t answers result c' t' →
    ∃ j, i.Extends j ∧ Wired settings s j c' t' ∧ Answers settings j role result

variable {settings s}

/-- What is kept of a role answers for it; else its recipe is followed. -/
theorem wires_of_follows
    (h : ∀ i c t answers result c' t', Wired settings s i c t →
      Association.get? role c.kept = none →
      Follows Role.title (recipe settings role).factory c t answers result c' t' →
        ∃ j, i.Extends j ∧ Wired settings s j (Container.settle role result c') t' ∧
          Answers settings j role result) : Wires settings s role := by
  intro i c t answers result c' t' hw hresolves
  rcases hresolves.inv with ⟨service, hkept, -, rfl, rfl, rfl⟩ | ⟨_, -, hfactory, -⟩ |
    ⟨factory, before, c₁, hkept, hfactory, hfollows, rfl, -⟩
  · have hfits := hw.fits _ (Association.mem_of_get? hkept)
    exact ⟨i, .refl i, hw, hw.answers hfits⟩
  · -- Every role has a recipe.
    cases hfactory.symm.trans (hw.factory role)
  · obtain rfl := Option.some.inj (hfactory.symm.trans (hw.factory role))
    exact h i c t before result c₁ t' hw hkept hfollows

/-- The client of the engine is made and opened. -/
theorem run_make_client (settings : Settings) (t : Surroundings) :
    ∃ engine u, ((recipe settings .client).make []).run.run t = (.ok (.engine engine), u) ∧
      engine.identity = t.made ∧ engine.owned = true ∧ u.made = t.made + 1 ∧
      u.opened = [t.made] ++ t.opened ∧ u.closed = t.closed :=
  ⟨_, _, rfl, rfl, rfl, rfl, rfl, rfl⟩

theorem wires_client : Wires settings s .client := by
  refine wires_of_follows fun i c t answers result c' t' hw hkept hfollows => ?_
  have hnone : i.engine = none := by
    rw [Option.eq_none_iff_forall_ne_some]
    intro engine hengine
    exact nomatch (hw.engine engine hengine).1.symm.trans hkept
  obtain ⟨engine, u, hrun, hidentity, howned, hmade, hopened, hclosed⟩ := run_make_client settings t
  obtain ⟨rfl, hresult⟩ := hfollows.of_action
  obtain ⟨rfl, rfl⟩ : .ok (.engine engine) = result ∧ u = t' :=
    Prod.mk.inj (hrun.symm.trans hresult)
  have hij : i.Extends { i with engine := some engine } :=
    ⟨fun other hother => (nomatch hnone.symm.trans hother), fun _ h => h⟩
  have hfits : Fits settings { i with engine := some engine } .client (.engine engine) := rfl
  -- The new client is in the inventory, and it is the one that is kept.
  suffices hwired : Wired settings s { i with engine := some engine }
      (Container.settle .client (.ok (.engine engine)) c') u from
    ⟨_, hij, hwired, hwired.answers hfits⟩
  refine hw.settle hij hfits (fun other hother => ?_) (fun embedder h => ?_)
    (hw.accounts.add ?_ ?_ hmade hopened hclosed)
  · rw [Association.get?_put, if_pos rfl]
    obtain rfl := Option.some.inj hother
    exact ⟨rfl, howned⟩
  · rw [Association.get?_put, if_neg (by decide)]
    exact hw.embedder embedder h
  · simp [Inventory.identities, hnone, hidentity]
  · simp [Inventory.clients, hnone, hidentity]

/-- What makes an embedder: a client that is opened, a model, or neither, as the settings say. -/
theorem run_make_embedder (settings : Settings) (t : Surroundings) :
    (HasKind settings ∧ ∃ embedder u,
      ((recipe settings .embedder).make []).run.run t = (.ok (.embedder (some embedder)), u) ∧
        embedder.identity = t.made ∧ (∀ service, embedder = .service service → service.owned = true) ∧
        u.made = t.made + 1 ∧ u.opened = embedder.client?.toList ++ t.opened ∧
        u.closed = t.closed) ∨
    (HasKind settings ∧
      ((recipe settings .embedder).make []).run.run t = (.ok (.embedder none), t)) ∨
    (¬HasKind settings ∧ ((recipe settings .embedder).make []).run.run t =
      (.error (.invalid s!"unknown embedder kind: {settings.embedderKind}"), t)) := by
  have hrun : (recipe settings .embedder).make [] =
      (return .embedder (← openEmbedder settings) : Action Service) := rfl
  unfold HasKind
  rw [hrun, openEmbedder]
  by_cases hhttp : settings.embedderKind = "http"
  · refine .inl ⟨by simp [hhttp], ?_⟩
    simp only [if_pos hhttp]
    exact ⟨_, _, rfl, rfl, fun _ hservice => Embedder.service.inj hservice ▸ rfl, rfl, rfl, rfl⟩
  by_cases hlocal : settings.embedderKind = "local"
  · refine .inl ⟨by simp [hlocal], ?_⟩
    simp only [if_neg hhttp, if_pos hlocal]
    exact ⟨_, _, rfl, rfl, fun _ hservice => (nomatch hservice), rfl, rfl, rfl⟩
  by_cases hnone : settings.embedderKind = "none"
  · refine .inr (.inl ⟨by simp [hnone], ?_⟩)
    simp only [if_neg hhttp, if_neg hlocal, if_pos hnone]
    rfl
  · refine .inr (.inr ⟨by simp [hhttp, hlocal, hnone], ?_⟩)
    simp only [if_neg hhttp, if_neg hlocal, if_neg hnone]
    rfl

theorem wires_embedder : Wires settings s .embedder := by
  refine wires_of_follows fun i c t answers result c' t' hw hkept hfollows => ?_
  have hnone : i.embedder = none := by
    rw [Option.eq_none_iff_forall_ne_some]
    intro embedder hembedder
    exact nomatch (hw.embedder embedder hembedder).1.symm.trans hkept
  obtain ⟨rfl, hresult⟩ := hfollows.of_action
  -- What is made is all that is new in the inventory.
  have hmakes : ∀ embedder, result = .ok (.embedder embedder) → HasKind settings →
      (∀ service, embedder = some (.service service) → service.owned = true) →
      Inventory.Accounts { i with embedder := some embedder } s t' →
      ∃ j, i.Extends j ∧ Wired settings s j (Container.settle .embedder result c') t' ∧
        Answers settings j .embedder result := by
    rintro embedder rfl hkind howned haccounts
    have hij : i.Extends { i with embedder := some embedder } :=
      ⟨fun _ h => h, fun other hother => (nomatch hnone.symm.trans hother)⟩
    have hfits : Fits settings { i with embedder := some embedder } .embedder
      (.embedder embedder) := rfl
    suffices hwired : Wired settings s { i with embedder := some embedder }
        (Container.settle .embedder (.ok (.embedder embedder)) c') t' from
      ⟨_, hij, hwired, hwired.answers hfits⟩
    refine hw.settle hij hfits (fun engine h => ?_) (fun other hother => ?_) haccounts
    · rw [Association.get?_put, if_neg (by decide)]
      exact hw.engine engine h
    · rw [Association.get?_put, if_pos rfl]
      obtain rfl := Option.some.inj hother
      exact ⟨rfl, hkind, howned⟩
  rcases run_make_embedder settings t with
    ⟨hkind, embedder, u, hrun, hidentity, howned, hmade, hopened, hclosed⟩ | ⟨hkind, hrun⟩ |
    ⟨hkind, hrun⟩
  · obtain ⟨hmaking, rfl⟩ : .ok (.embedder (some embedder)) = result ∧ u = t' :=
      Prod.mk.inj (hrun.symm.trans hresult)
    refine hmakes (some embedder) hmaking.symm hkind
      (fun service hservice => howned service (Option.some.inj hservice))
      (hw.accounts.add ?_ ?_ hmade hopened hclosed)
    · simp [Inventory.identities, hnone, hidentity]
    · cases embedder <;> simp [Inventory.clients, hnone, Embedder.client?]
  · obtain ⟨hmaking, rfl⟩ : .ok (.embedder none) = result ∧ t = t' :=
      Prod.mk.inj (hrun.symm.trans hresult)
    refine hmakes none hmaking.symm hkind (fun _ h => (nomatch h)) ?_
    have hlists : Inventory.identities { i with embedder := some none } = i.identities ∧
        Inventory.clients { i with embedder := some none } = i.clients := by
      simp [Inventory.identities, Inventory.clients, hnone]
    obtain ⟨hmade, hdistinct, hopened, hclosed⟩ := hw.accounts
    rw [← hlists.1] at hmade hdistinct
    rw [← hlists.2] at hopened
    exact ⟨hmade, hdistinct, hopened, hclosed⟩
  · obtain ⟨rfl, rfl⟩ := Prod.mk.inj (hrun.symm.trans hresult)
    exact ⟨i, .refl i, hw, trivial, hkind, rfl⟩

/-- Services are asked for one after the other, up to the first failure. -/
theorem follows_needing {keys : List Role} (hkeys : ∀ key ∈ keys, Wires settings s key)
    {next : List Service → Factory Role Service Surroundings}
    {answers : List (Answer Role Service Surroundings)} {result : Except Fault Service}
    (hw : Wired settings s i c t)
    (h : Follows Role.title (.needing keys next) c t answers result c' t') :
    ∃ j c₁ t₁, i.Extends j ∧ Wired settings s j c₁ t₁ ∧
      ((∃ services after, List.Forall₂ (Fits settings j) keys services ∧
          Follows Role.title (next services) c₁ t₁ after result c' t') ∨
        ∃ key ∈ keys, ∃ fault, result = .error fault ∧ Answers settings j key (.error fault) ∧
          c' = c₁ ∧ t' = t₁) := by
  -- What was given earlier still fits, since the inventory only grows.
  induction keys generalizing next i c t answers with
  | nil => exact ⟨i, c, t, .refl i, hw, .inl ⟨[], answers, .nil, h⟩⟩
  | cons key keys ih =>
    obtain ⟨hkey, hrest⟩ := List.forall_mem_cons.mp hkeys
    obtain ⟨before, found, c₁, t₁, after, hresolves, hfollows⟩ := Resolves.of_need h
    obtain ⟨j, hij, hw₁, hanswers⟩ := hkey _ _ _ _ _ _ _ hw hresolves
    cases found with
    | error fault =>
      cases hfollows
      exact ⟨j, _, _, hij, hw₁, .inr ⟨key, List.mem_cons_self, fault, rfl, hanswers, rfl, rfl⟩⟩
    | ok service =>
      obtain ⟨k, c₂, t₂, hjk, hw₂, hend⟩ := ih hrest hw₁ hfollows
      refine ⟨k, c₂, t₂, hij.trans hjk, hw₂, ?_⟩
      rcases hend with ⟨services, after, hservices, hfollows⟩ | ⟨other, hother, hend⟩
      · exact .inl ⟨service :: services, after, .cons (hanswers.1.mono hjk) hservices, hfollows⟩
      · exact .inr ⟨other, List.mem_cons_of_mem _ hother, hend⟩

/-- A role whose service is put together from others. -/
theorem wires_of_needs (hrole : role ≠ .client ∧ role ≠ .embedder)
    (hneeds : ∀ key ∈ (recipe settings role).needs, Wires settings s key ∧
      (NeedsEmbedder settings key → NeedsEmbedder settings role))
    (hmake : ∀ j services, List.Forall₂ (Fits settings j) (recipe settings role).needs services →
      ∃ service, (recipe settings role).make services = pure service ∧
        Fits settings j role service) : Wires settings s role := by
  refine wires_of_follows fun i c t answers result c' t' hw hkept hfollows => ?_
  obtain ⟨j, c₁, t₁, hij, hw₁, hend⟩ := follows_needing (fun key h => (hneeds key h).1) hw hfollows
  rcases hend with ⟨services, after, hservices, hfollows⟩ |
    ⟨key, hkey, fault, rfl, hanswers, rfl, rfl⟩
  · -- Nothing is added to the inventory: the service is made of what is in it.
    obtain ⟨service, hservice, hfits⟩ := hmake j services hservices
    rw [hservice] at hfollows
    obtain ⟨rfl, hrun⟩ := hfollows.of_action
    obtain ⟨rfl, rfl⟩ : .ok service = result ∧ t₁ = t' := Prod.mk.inj hrun
    refine ⟨j, hij, hw₁.settle (.refl j) hfits (fun engine h => ?_) (fun embedder h => ?_)
      hw₁.accounts, hw₁.answers hfits⟩
    · rw [Association.get?_put, if_neg (Ne.symm hrole.1)]
      exact hw₁.engine engine h
    · rw [Association.get?_put, if_neg (Ne.symm hrole.2)]
      exact hw₁.embedder embedder h
  · exact ⟨j, hij, hw₁, (hneeds key hkey).2 hanswers.1, hanswers.2⟩

/-- The three roles of the engine are played by the client itself. -/
theorem wires_engineRole (hrole : role ∈ [Role.engine, .indexes, .documents]) :
    Wires settings s role := by
  simp only [List.mem_cons, List.not_mem_nil, or_false] at hrole
  rcases hrole with rfl | rfl | rfl
  all_goals
    refine wires_of_needs (by decide) (fun key hkey => ?_) (fun j services hservices => ?_)
    · obtain rfl := List.mem_singleton.mp hkey
      exact ⟨wires_client, id⟩
    · obtain - | ⟨hclient, - | -⟩ := hservices
      obtain ⟨engine, rfl, hengine⟩ := hclient.exists_engine (by decide)
      exact ⟨.engine engine, rfl, hengine⟩

theorem wires_paginator : Wires settings s .paginator := by
  refine wires_of_needs (by decide) (fun key hkey => ?_) (fun j services hservices => ?_)
  · obtain rfl := List.mem_singleton.mp hkey
    exact ⟨wires_engineRole (by decide), id⟩
  · obtain - | ⟨hengine, - | -⟩ := hservices
    obtain ⟨engine, rfl, hengine⟩ := hengine.exists_engine (by decide)
    exact ⟨.paginator ⟨engine, settings.pageLifetime⟩, rfl, hengine⟩

theorem wires_searcher : Wires settings s .searcher := by
  refine wires_of_needs (by decide) (fun key hkey => ?_) (fun j services hservices => ?_)
  · have hkey : key = .engine ∨ key = .paginator ∨ key = .embedder := by
      simpa [recipe] using hkey
    rcases hkey with rfl | rfl | rfl
    · exact ⟨wires_engineRole (by decide), fun h => h.elim⟩
    · exact ⟨wires_paginator, fun h => h.elim⟩
    · exact ⟨wires_embedder, id⟩
  · obtain - | ⟨hengine, - | ⟨hpaginator, - | ⟨hembedder, - | -⟩⟩⟩ := hservices
    obtain ⟨engine, rfl, hengine⟩ := hengine.exists_engine (by decide)
    obtain ⟨paginator, rfl, hpaginator⟩ := hpaginator.exists_paginator
    obtain ⟨embedder, rfl, hembedder⟩ := hembedder.exists_embedder
    exact ⟨_, rfl, hengine, hpaginator, hembedder⟩

theorem wires_storage : Wires settings s .storage := by
  refine wires_of_needs (by decide) (fun key hkey => ?_) (fun j services hservices => ?_)
  · have hkey : key = .indexes ∨ key = .documents ∨ key = .engine ∨ key = .paginator ∨
        (settings.modelId.isEmpty = true ∧ key = .embedder) := by
      by_cases hmodel : settings.modelId.isEmpty = true <;> simpa [recipe, hmodel] using hkey
    rcases hkey with rfl | rfl | rfl | rfl | ⟨hmodel, rfl⟩
    · exact ⟨wires_engineRole (by decide), fun h => h.elim⟩
    · exact ⟨wires_engineRole (by decide), fun h => h.elim⟩
    · exact ⟨wires_engineRole (by decide), fun h => h.elim⟩
    · exact ⟨wires_paginator, fun h => h.elim⟩
    · exact ⟨wires_embedder, fun _ => hmodel⟩
  · obtain - | ⟨hindexes, - | ⟨hdocuments, - | ⟨hengine, - | ⟨hpaginator, hrest⟩⟩⟩⟩ := hservices
    obtain ⟨indexes, rfl, hindexes⟩ := hindexes.exists_engine (by decide)
    obtain ⟨documents, rfl, hdocuments⟩ := hdocuments.exists_engine (by decide)
    obtain ⟨engine, rfl, hengine⟩ := hengine.exists_engine (by decide)
    obtain ⟨paginator, rfl, hpaginator⟩ := hpaginator.exists_paginator
    -- The embedder is among the services that are needed only if the engine has no model.
    by_cases hmodel : settings.modelId.isEmpty = true
    · rw [if_pos hmodel] at hrest
      obtain - | ⟨hembedder, - | -⟩ := hrest
      obtain ⟨embedder, rfl, hembedder⟩ := hembedder.exists_embedder
      refine ⟨_, rfl, hindexes, hdocuments, hengine, hpaginator, ?_⟩
      rwa [if_pos hmodel]
    · rw [if_neg hmodel] at hrest
      obtain - | - := hrest
      refine ⟨_, rfl, hindexes, hdocuments, hengine, hpaginator, ?_⟩
      rw [if_neg hmodel]

/-- **Asking for any service leaves the gateway wired.** -/
theorem wires (role : Role) : Wires settings s role := by
  cases role with
  | client => exact wires_client
  | engine | indexes | documents => exact wires_engineRole (by decide)
  | embedder => exact wires_embedder
  | paginator => exact wires_paginator
  | searcher => exact wires_searcher
  | storage => exact wires_storage

/-! ## Resolving -/

instance : IsStrictOrder Role fun a b => a.rank < b.rank where
  irrefl a := Nat.lt_irrefl a.rank
  trans _ _ _ := Nat.lt_trans

/-- No recipe needs itself, be it through others. -/
theorem Wired.descends (hw : Wired settings s i c t) : c.Descends fun a b => a.rank < b.rank := by
  intro key factory hfactory
  obtain rfl := Option.some.inj ((hw.factory key).symm.trans hfactory)
  refine (recipe settings key).asksOnly.mono fun needed hneeded => ?_
  cases key <;> cases needed <;> simp_all [recipe, Role.rank]

/-- **What asking for a service comes to.** -/
theorem Wired.runIn_resolve (hw : Wired settings s i c t) (role : Role) :
    ∃ result j c' t', (resolve role).runIn c t = (result, c', t') ∧ i.Extends j ∧
      Wired settings s j c' t' ∧ Answers settings j role result := by
  obtain ⟨answers, result, c', t', hrun, hresolves⟩ :=
    resolve_follows Role.title role t hw.descends
  obtain ⟨j, hij, hw', hanswers⟩ := wires role i c t answers result c' t' hw hresolves
  exact ⟨result, j, c', t', hrun, hij, hw', hanswers⟩

end App

end SearchGateway
