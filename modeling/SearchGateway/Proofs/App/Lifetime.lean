import SearchGateway.CommandLine.Run
import SearchGateway.Proofs.App.Wiring
import SearchGateway.Proofs.Container.Closing

/-!
# The lifetime of clients

Whatever services the gateway is asked for, it makes one client of the engine at most and one
embedder, and closing it closes every client that was made, once.  A command line closes the gateway
once, however its command ends.
-/

set_option autoImplicit false

namespace SearchGateway

namespace App

open SearchGateway.Action SearchGateway.Container

/-- Asks for services in turn, whatever each of these requests comes to. -/
def visit (roles : List Role) : Run (List (Except Fault Service)) :=
  roles.mapM fun role => (resolve role).attempt

/-- Closing closes the clients in the inventory, each of them once, and drops all services; closing
once more closes nothing. -/
structure ClosesOnce (i : Inventory) (c : App) (t u : Surroundings) : Prop where
  run : close.runIn c t = (.ok (), c.reset, u)
  closed : ∀ client, u.closed.count client = t.closed.count client +
    if client ∈ i.clients then 1 else 0
  made : u.made = t.made ∧ u.opened = t.opened
  again : close.runIn c.reset u = (.ok (), c.reset, u)

variable {settings : Settings} {s t : Surroundings} {i : Inventory} {c : App}

/-! ## Asking for services in turn -/

/-- Whatever is asked for, the gateway is left wired, and every answer fits what was made. -/
theorem Wired.runIn_visit (hw : Wired settings s i c t) (roles : List Role) :
    ∃ results j c' t', (visit roles).runIn c t = (.ok results, c', t') ∧ i.Extends j ∧
      Wired settings s j c' t' ∧ List.Forall₂ (Answers settings j) roles results := by
  induction roles generalizing i c t with
  | nil => exact ⟨[], i, c, t, rfl, .refl i, hw, .nil⟩
  | cons role roles ih =>
    obtain ⟨result, j, c₁, t₁, hrun, hij, hw₁, hanswers⟩ := hw.runIn_resolve role
    obtain ⟨results, k, c₂, t₂, hrest, hjk, hw₂, hall⟩ := ih hw₁
    refine ⟨result :: results, k, c₂, t₂, ?_, hij.trans hjk, hw₂, .cons (hanswers.mono hjk) hall⟩
    rw [visit, List.mapM_cons, Run.runIn_bind, Run.runIn_attempt, hrun]
    dsimp only
    rw [Run.runIn_bind, ← visit, hrest]
    rfl

/-! ## Closing -/

/-- What closing services leaves as it is if closing each of them does. -/
theorem keeps_closeServices {γ : Type} {view : Surroundings → γ}
    {closer : Service → Option (ℕ × Action Unit)} {services : List Service}
    (h : ∀ service ∈ services, ∀ identity close, closer service = some (identity, close) →
      Keeps view close) (closed : List ℕ) : Keeps view (closeServices closer closed services) := by
  induction services generalizing closed with
  | nil => exact keeps_pure ()
  | cons service rest ih =>
    obtain ⟨hfirst, hrest⟩ := List.forall_mem_cons.mp h
    rw [closeServices]
    cases hservice : closer service with
    | none => exact ih hrest closed
    | some found =>
      obtain ⟨identity, close⟩ := found
      dsimp only
      split
      · exact ih hrest closed
      · exact (hfirst identity close hservice).bind fun _ => ih hrest _

/-- What can be closed among the services that are kept is in the inventory: the client of the
engine, in whatever roles it is kept, and that of the embedder. -/
theorem Wired.closer_eq_some (hw : Wired settings s i c t) {service : Service}
    (hmem : service ∈ c.services) {identity : ℕ} {close : Action Unit}
    (hcloser : closer service = some (identity, close)) :
    identity ∈ i.clients ∧ close = closeClient identity := by
  obtain ⟨⟨role, service⟩, hentry, rfl⟩ := List.mem_map.mp hmem
  have hfits : Fits settings i role service := hw.fits _ hentry
  rcases service with engine | (_ | ⟨service | model⟩) | _ | _ | _
  case engine =>
    obtain ⟨rfl, rfl⟩ := Prod.mk.inj (Option.some.inj hcloser)
    obtain ⟨-, howned⟩ := hw.engine engine hfits.eq_engine
    exact ⟨by simp [Inventory.clients, hfits.eq_engine], if_pos howned⟩
  case embedder.some.service =>
    obtain ⟨rfl, rfl⟩ := Prod.mk.inj (Option.some.inj hcloser)
    obtain ⟨-, -, howned⟩ := hw.embedder _ hfits.eq_embedder
    exact ⟨by simp [Inventory.clients, hfits.eq_embedder, Embedder.client?],
      if_pos (howned service rfl)⟩
  all_goals cases hcloser

/-- What can be closed among the services that are kept is every client in the inventory. -/
theorem Wired.mem_closables (hw : Wired settings s i c t) (client : ℕ) :
    client ∈ closables closer c ↔ client ∈ i.clients := by
  rw [Container.mem_closables]
  constructor
  · rintro ⟨service, hmem, close, hcloser⟩
    exact (hw.closer_eq_some hmem hcloser).1
  · intro hclient
    rcases List.mem_append.mp hclient with hclient | hclient
    · obtain ⟨engine, hengine, rfl⟩ := List.mem_map.mp hclient
      have hkept := (hw.engine engine (Option.mem_toList.mp hengine)).1
      exact ⟨_, List.mem_map_of_mem (Association.mem_of_get? hkept), engine.close, rfl⟩
    · obtain ⟨embedder, hembedder, hclient⟩ := Option.bind_eq_some_iff.mp (Option.mem_toList.mp hclient)
      have hkept := (hw.embedder _ (Option.join_eq_some_iff.mp hembedder)).1
      cases embedder with
      | model model => cases hclient
      | service service =>
        obtain rfl := Option.some.inj hclient
        exact ⟨_, List.mem_map_of_mem (Association.mem_of_get? hkept), service.close, rfl⟩

theorem Wired.records (hw : Wired settings s i c t) :
    Records closer (fun u => u.closed.reverse) (fun _ => none) c.services := by
  constructor
  all_goals
    intro service hmem identity close u hcloser
    obtain ⟨-, rfl⟩ := hw.closer_eq_some hmem hcloser
  · exact List.reverse_cons
  · rfl

/-- **Closing the gateway closes every client that was made, once.** -/
theorem Wired.closesOnce (hw : Wired settings s i c t) : ∃ u, ClosesOnce i c t u := by
  obtain ⟨u, hrun, hclosed⟩ := exists_runIn_close hw.records t
  have hnone : (closables closer c).findSome? (fun _ => (none : Option Fault)) = none :=
    List.findSome?_eq_none_iff.mpr fun _ _ => rfl
  rw [hnone, if_pos rfl] at hrun
  rw [reached_eq_self hnone] at hclosed
  refine ⟨u, hrun, fun client => ?_, ?_, rfl⟩
  · rw [← List.count_reverse, hclosed, List.count_append, List.count_reverse, count_closables]
    simp only [hw.mem_closables]
  · -- Closing makes nothing, so what was made is the same before and after.
    have hkeeps : Keeps (fun v => (v.made, v.opened)) (closeServices closer [] c.services) := by
      refine keeps_closeServices (fun service hmem identity close hcloser => ?_) []
      obtain ⟨-, rfl⟩ := hw.closer_eq_some hmem hcloser
      exact fun _ => rfl
    replace hkeeps := hkeeps t
    rw [runIn_close] at hrun
    unfold Action.runIn at hkeeps
    rcases hservices : (closeServices closer [] c.services).run.run t with ⟨_ | _, t'⟩ <;>
      rw [hservices] at hrun hkeeps
    · cases hrun
    · obtain rfl : t' = u := (Prod.mk.inj (Prod.mk.inj hrun).2).2
      exact Prod.mk.inj hkeeps

end App

end SearchGateway
