import SearchGateway.Engine.Client

/-!
# Sessions of pages

A search may open a session on the engine, from which further pages are fetched by cursor: every
page brings the cursor for the next one.  A `Walk` goes through a session page by page and closes it
when it ends, however it ends.
-/

set_option autoImplicit false

namespace SearchGateway

/-- The page of an answer; the operator is told about hits that were left out. -/
def Action.page (value : Json) : Action Page := do
  let extract ← (Extract.ofJson value : Except Fault Extract)
  Action.logAll extract.notices
  return extract.page

/-- What fetches further pages of sessions. -/
structure Paginator where
  engine : Engine
  /-- How long a session lives on unless something else is asked for. -/
  lifetime : String := "1m"

namespace Paginator

/-- The lifetime that is asked for, or the usual one. -/
def lifetimeOr (paginator : Paginator) : Option String → String
  | none => paginator.lifetime
  | some lifetime => if lifetime.isEmpty then paginator.lifetime else lifetime

/-- Fetches the page at a cursor and renews the session. -/
def paginate (paginator : Paginator) (cursor : String) (lifetime : Option String) :
    Action Page := do
  if cursor.isEmpty then throw (.invalid "cursor must not be empty")
  let value ← paginator.engine.scroll cursor (paginator.lifetimeOr lifetime)
  Action.page value

/-- Closes the session of a cursor before its lifetime is over. -/
def deleteSession (paginator : Paginator) (cursor : String) : Action Unit := do
  if cursor.isEmpty then throw (.invalid "cursor must not be empty")
  paginator.engine.clearScroll cursor
  Action.log .info "Scroll session closed"

end Paginator

/-! ## Walks -/

/-- How far a walk has come. -/
inductive Walk.Stage where
  /-- Not even the first page was taken. -/
  | fresh
  /-- The current page was taken. -/
  | running
  | finished
deriving Repr, DecidableEq

/-- A walk through the pages of a session. -/
structure Walk where
  /-- The current page. -/
  page : Page
  lifetime : Option String
  stage : Walk.Stage

namespace Walk

/-- A walk that starts at the given page. -/
def start (page : Page) (lifetime : Option String) : Walk := ⟨page, lifetime, .fresh⟩

/-- The walk at its end. -/
def finish (walk : Walk) : Walk := { walk with stage := .finished }

/-- Closes the session of the current page, if it has a cursor. -/
def release (walk : Walk) (paginator : Paginator) : Action Unit :=
  match walk.page.cursor with
  | none => pure ()
  | some cursor => paginator.deleteSession cursor

/-- Takes the next page, if there is one, and the walk after it.  A page without a cursor or without
hits is the last one.  When the walk ends, also by a failure, the session is closed; if closing
fails that is the failure of the walk. -/
def next (walk : Walk) (paginator : Paginator) :
    Action (Except Fault (Option Page) × Walk) := do
  match walk.stage, walk.page.cursor with
  | .fresh, _ => return (.ok (some walk.page), { walk with stage := .running })
  | .finished, _ => return (.ok none, walk)
  | .running, none => return (.ok none, walk.finish)
  | .running, some cursor =>
    if walk.page.hits.isEmpty then
      match ← Action.attempt (walk.release paginator) with
      | .ok () => return (.ok none, walk.finish)
      | .error fault => return (.error fault, walk.finish)
    else
      match ← Action.attempt (paginator.paginate cursor walk.lifetime) with
      | .ok page => return (.ok (some page), { walk with page := page })
      | .error fault =>
        match ← Action.attempt (walk.release paginator) with
        | .ok () => return (.error fault, walk.finish)
        | .error other => return (.error other, walk.finish)

/-- Ends a walk early: one that has started closes its session. -/
def close (walk : Walk) (paginator : Paginator) : Action (Except Fault Unit × Walk) := do
  match walk.stage with
  | .running => return (← Action.attempt (walk.release paginator), walk.finish)
  | _ => return (.ok (), walk.finish)

/-- All pages of a walk.  The fuel bounds the number of steps. -/
def collect (paginator : Paginator) : Nat → Walk → Action (List Page)
  | 0, _ => return []
  | fuel + 1, walk => do
    let (result, walk) ← walk.next paginator
    match result with
    | .error fault => throw fault
    | .ok none => return []
    | .ok (some page) => return page :: (← collect paginator fuel walk)

/-- All pages of a walk.  Every page but the first takes up an answer of the engine, and an engine
without further answers ends the session, so three steps more than there are answers suffice. -/
def pages (walk : Walk) (paginator : Paginator) : Action (List Page) := do
  collect paginator ((← get).engineReplies.length + 3) walk

end Walk

end SearchGateway
