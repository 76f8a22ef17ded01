import SearchGateway.Proofs.App.Lifetime

/-!
# How command lines end

Every command leaves the services of the gateway wired, whether it succeeds or fails (`staysWired_run`).
So the gateway is closed once after it, and every client is.
-/

set_option autoImplicit false

namespace SearchGateway

/-! ## What leaves the gateway wired -/

namespace App

open SearchGateway.Action SearchGateway.Container

variable {α β : Type} (settings : Settings) (s : Surroundings)

/-- The computation leaves the gateway wired, whatever it comes to. -/
def StaysWired (run : Run α) : Prop := ∀ i c t, Wired settings s i c t →
  ∃ result j c' t', run.runIn c t = (result, c', t') ∧ Wired settings s j c' t'

variable {settings s}

namespace StaysWired

theorem pure (a : α) : StaysWired settings s (Pure.pure a : Run α) :=
  fun i c t hw => ⟨.ok a, i, c, t, rfl, hw⟩

theorem throw (fault : Fault) : StaysWired settings s (MonadExcept.throw fault : Run α) :=
  fun i c t hw => ⟨.error fault, i, c, t, rfl, hw⟩

theorem ofExcept (result : Except Fault α) : StaysWired settings s (liftM result : Run α) := by
  cases result with
  | ok a => exact pure a
  | error fault => exact throw fault

theorem bind {run : Run α} {f : α → Run β} (h : StaysWired settings s run)
    (hf : ∀ a, StaysWired settings s (f a)) : StaysWired settings s (run >>= f) := by
  intro i c t hw
  obtain ⟨result, j, c', t', hrun, hw'⟩ := h i c t hw
  rw [Run.runIn_bind, hrun]
  cases result with
  | ok a => exact hf a j c' t' hw'
  | error fault => exact ⟨.error fault, j, c', t', rfl, hw'⟩

/-- What neither makes nor closes clients leaves the gateway wired. -/
theorem lift {action : Action α} (h : IsSteady action) :
    StaysWired settings s (Run.lift action) :=
  fun i c t hw => ⟨_, i, c, _, rfl, hw.of_ledger (h t)⟩

theorem resolve (role : Role) : StaysWired settings s (App.resolve role) := by
  intro i c t hw
  obtain ⟨result, j, c', t', hrun, -, hw', -⟩ := hw.runIn_resolve role
  exact ⟨result, j, c', t', hrun, hw'⟩

theorem storage : StaysWired settings s App.storage := by
  refine (resolve .storage).bind fun service => ?_
  cases service with
  | storage storage => exact pure storage
  | _ => exact throw _

theorem searcher : StaysWired settings s App.searcher := by
  refine (resolve .searcher).bind fun service => ?_
  cases service with
  | searcher searcher => exact pure searcher
  | _ => exact throw _

end StaysWired

end App

namespace CommandLine

open SearchGateway.Action SearchGateway.App

variable {α : Type} {settings : Settings} {s : Surroundings}

theorem staysWired_withStorage {action : Storage → Action α}
    (h : ∀ storage, IsSteady (action storage)) :
    StaysWired settings s (withStorage action) :=
  StaysWired.storage.bind fun storage => .lift (h storage)

theorem staysWired_withSearcher {action : Searcher → Action α}
    (h : ∀ searcher, IsSteady (action searcher)) :
    StaysWired settings s (withSearcher action) :=
  StaysWired.searcher.bind fun searcher => .lift (h searcher)

/-- **Every command leaves the gateway wired.** -/
theorem staysWired_run (command : Command) : StaysWired settings s (command.run settings) := by
  cases command with
  | initPipelines =>
    refine (staysWired_withStorage fun storage => ?_).bind fun _ => .pure none
    exact (storage.indexes.isSteady_initPipelines _).bind fun _ => isSteady_log _ _
  | createIndex spec =>
    exact (staysWired_withStorage fun storage => storage.isSteady_createIndex spec).bind
      fun _ => .pure _
  | deleteIndex index =>
    exact (staysWired_withStorage fun storage => storage.indexes.isSteady_deleteIndex index).bind
      fun _ => .pure _
  | showIndex index =>
    exact (staysWired_withStorage fun storage => storage.indexes.isSteady_getIndex index).bind
      fun _ => .pure _
  | showIndexes =>
    exact (staysWired_withStorage fun storage => storage.indexes.isSteady_getAllIndexes).bind
      fun _ => .pure _
  | ingest index folder =>
    refine (staysWired_withStorage fun storage => ?_).bind fun _ => .pure none
    exact (storage.isSteady_ingestPath index folder).bind fun _ => isSteady_log _ _
  | showPart index partId =>
    exact (staysWired_withStorage fun storage => storage.isSteady_getDocumentPart index partId).bind
      fun _ => .pure _
  | showParts index documentId =>
    exact (staysWired_withStorage fun storage =>
      storage.isSteady_getDocumentParts index documentId).bind fun _ => .pure _
  | search kindName words =>
    refine StaysWired.bind (.ofExcept _) fun operator => ?_
    refine (staysWired_withSearcher fun searcher => ?_).bind fun _ => .pure _
    exact (keeps_ofExcept _).bind fun request => searcher.isSteady_search request
  | paginate cursor lifetime =>
    exact (staysWired_withSearcher fun searcher =>
      searcher.paginator.isSteady_paginate cursor (some lifetime)).bind fun _ => .pure _
  | deleteSession cursor =>
    exact (staysWired_withSearcher fun searcher =>
      searcher.paginator.isSteady_deleteSession cursor).bind fun _ => .pure _

/-! ## The end of a command -/

/-- The surroundings in which the container was configured. -/
def configured (s : Surroundings) : Surroundings :=
  s.noting (.logged ⟨.info, "Container configured"⟩)

/-- The surroundings after the operator was told of a failure, if there is one. -/
def told (result : Except Fault α) (t : Surroundings) : Surroundings :=
  match result with
  | .ok _ => t
  | .error fault => ((logFailure fault).runIn t).2

/-- How a command ended that came to the result. -/
def Ending.ofResult : Except Fault α → Ending
  | .ok _ => .done
  | .error fault => .ofFault fault

/-- What is printed after a command that came to the result. -/
def printedOf : Except Fault (Option Json) → String
  | .ok shown => (shown.map printed).getD ""
  | .error _ => ""

/-- The exit status of a program whose command came to the result, if it ends by itself. -/
def exitStatus? : Except Fault α → Option ℕ
  | .ok _ => some 0
  | .error (.announced _ _) => some 1
  | .error (.defect _) => none

theorem Ending.status?_ofResult (result : Except Fault α) :
    (Ending.ofResult result).status? = exitStatus? result := by
  rcases result with (_ | _) | _ <;> rfl

theorem ledger_told (result : Except Fault α) (t : Surroundings) :
    (told result t).ledger = t.ledger := by
  rcases result with (_ | _) | _ <;> rfl

/-- A command is carried out, its failure is told, and the gateway is closed. -/
theorem runIn_conclude {command : Command} {c₀ c c' : App} {t u : Surroundings}
    {result : Except Fault (Option Json)}
    (hrun : (command.run settings).runIn c₀ s = (result, c, t))
    (hclose : App.close.runIn c (told result t) = (.ok (), c', u)) :
    (conclude settings command).runIn c₀ s = (.ok (.ofResult result, printedOf result), c', u) := by
  have hattempt : ∀ f : Except Fault (Option Json) → App.Run (Ending × String),
      ((command.run settings).attempt >>= f).runIn c₀ s = (f result).runIn c t := by
    intro f
    rw [Container.Run.runIn_bind, Container.Run.runIn_attempt, hrun]
  refine (hattempt _).trans ?_
  cases result with
  | ok shown =>
    show (App.close >>= fun _ => pure _ : App.Run _).runIn c t = _
    rw [Container.Run.runIn_bind, show App.close.runIn c t = _ from hclose]
    rfl
  | error fault =>
    have hlog : ((logFailure fault).run.run t).1 = .ok () := by cases fault <;> rfl
    show (Container.Run.lift (logFailure fault) >>= fun _ => App.close >>= fun _ => pure _ :
      App.Run _).runIn c t = _
    rw [Container.Run.runIn_bind, Container.Run.runIn_lift, hlog]
    dsimp only
    rw [Container.Run.runIn_bind,
      show App.close.runIn c ((logFailure fault).run.run t).2 = _ from hclose]
    rfl

theorem run_bind {β : Type} (x : StateM Surroundings α) (f : α → StateM Surroundings β)
    (s : Surroundings) : (x >>= f).run s = (f (x.run s).1).run (x.run s).2 := rfl

/-- **A command line closes the gateway once**, after its command and however that ends. -/
theorem run_execute {command : Command} {threshold : ℕ} {c c' : App} {t u : Surroundings}
    {result : Except Fault (Option Json)}
    (hrun : (command.run settings).runIn (configure settings) (configured s) = (result, c, t))
    (hclose : App.close.runIn c (told result t) = (.ok (), c', u)) :
    (execute settings threshold command).run s =
      (⟨.ofResult result, printedOf result, logsOf threshold u.events⟩, u) := by
  have hconclude := runIn_conclude hrun hclose
  have hstate : ((conclude settings command).run.run (configure settings)).run (configured s) =
      ((.ok (.ofResult result, printedOf result), c'), u) :=
    Prod.ext (Prod.ext (congrArg (·.1) hconclude) (congrArg (·.2.1) hconclude))
      (congrArg (·.2.2) hconclude)
  rw [execute, run_bind, run_bind]
  have hlog : (ExceptT.run (Action.log .info "Container configured")).run s =
      (.ok (), configured s) := rfl
  rw [hlog, hstate]
  rfl

/-- **One client of the engine and one embedder at most, and each client closed once.**  Whatever
services are asked for, in whatever order, those that are given work with one client and one
embedder, and these are all that was made; a service is not given only if it needs an embedder of an
unknown kind.  Closing the gateway then closes every client that was made, once, and closing it again
closes nothing.  A command line that can be read configures the gateway and closes it once, after its
command and however that ends: with success, with an announced failure and status 1, or with another
failure. -/
theorem one_client_closed_once (settings : Settings) (s : Surroundings) :
    (∀ roles, ∃ results i c t u,
      (visit roles).runIn (configure settings) s = (.ok results, c, t) ∧
        i.Accounts s t ∧ List.Forall₂ (Answers settings i) roles results ∧ ClosesOnce i c t u) ∧
    ∀ words, match Command.read settings words, Level.threshold? settings.logLevel with
      | .ok command, some _ => ∃ result i c t u report,
          (command.run settings).runIn (configure settings) (configured s) = (result, c, t) ∧
            i.Accounts s t ∧ ClosesOnce i c (told result t) u ∧
            (CommandLine.run settings words).run s = (report, u) ∧
            report.ending.status? = exitStatus? result
      | _, _ => ∃ report, CommandLine.run settings words = pure report := by
  constructor
  · intro roles
    obtain ⟨results, i, c, t, hrun, -, hw, hanswers⟩ := (Wired.start settings s).runIn_visit roles
    obtain ⟨u, hclose⟩ := hw.closesOnce
    exact ⟨results, i, c, t, u, hrun, hw.accounts, hanswers, hclose⟩
  · intro words
    rw [CommandLine.run]
    cases Command.read settings words with
    | error refusal => cases refusal <;> exact ⟨_, rfl⟩
    | ok command =>
      cases Level.threshold? settings.logLevel with
      | none => exact ⟨_, rfl⟩
      | some threshold =>
        obtain ⟨result, i, c, t, hrun, hw⟩ := staysWired_run command _ _ _
          (Wired.start settings (configured s))
        obtain ⟨u, hclose⟩ := (hw.of_ledger (ledger_told result t)).closesOnce
        -- Configuring makes no client, so the account is the same from before it.
        have haccounts : i.Accounts s t :=
          ⟨hw.accounts.made, hw.accounts.identities, hw.accounts.opened, hw.accounts.closed⟩
        exact ⟨result, i, c, t, u, _, hrun, haccounts, hclose, run_execute hrun hclose.run,
          Ending.status?_ofResult result⟩

end CommandLine

end SearchGateway
