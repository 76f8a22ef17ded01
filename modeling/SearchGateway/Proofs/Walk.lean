import SearchGateway.Paginator
import SearchGateway.Proofs.Asking

/-!
# The course of a walk

A walk asks the engine for one page after the other and closes the session when it ends.  What it
asks is said once for a single step (`Walk.next_of_isLast`, `Walk.next_of_page`,
`Walk.next_of_fault`).  `Walk.Course` is how a walk goes on, step by step; that a consumer who takes
some pages and then ends the walk sees such a course, and what the engine is asked meanwhile,
follows by induction on the number of pages (`Walk.browse_course`).  Reading all pages is browsing
without ever having enough (`Walk.runIn_pages`).
-/

set_option autoImplicit false

namespace SearchGateway

open SearchGateway.Action

/-! ## Single requests -/

/-- The request that searches indexes. -/
def Engine.searchRequest (indexes : List String) (query : Json) (scroll : Option String) :
    EngineRequest :=
  ⟨"POST", searchPath indexes, scrollParameters scroll, .json query⟩

/-- The request for the page at a cursor. -/
def Engine.scrollRequest (cursor lifetime : String) : EngineRequest :=
  ⟨"POST", "/_search/scroll", [],
    .json (.obj [("scroll", .str lifetime), ("scroll_id", .str cursor)])⟩

/-- The request that closes the session of a cursor. -/
def Engine.closingRequest (cursor : String) : EngineRequest :=
  ⟨"DELETE", "/_search/scroll", [], .json (.obj [("scroll_id", .strings [cursor])])⟩

/-- The page that the outcome of a search or a scroll is read as. -/
def Page.read (outcome : Except Fault Json) : Except Fault Page :=
  outcome.bind fun value => (Extract.ofJson value).map Extract.page

theorem Page.read_eq_ok {outcome : Except Fault Json} {found : Page} :
    Page.read outcome = .ok found ↔
      ∃ answer, outcome = .ok (.obj answer) ∧ found = (Extract.ofFields answer).page := by
  unfold Page.read
  cases outcome with
  | error fault => simp [Except.bind]
  | ok value =>
    cases value with
    | obj answer => simp [Except.bind, Except.map, Extract.ofJson, eq_comm]
    | _ => simp [Except.bind, Except.map, Extract.ofJson]

/-- The page that a reply to a scroll is read as. -/
def Reply.page (reply : Reply) : Except Fault Page :=
  Page.read (reply.outcome "POST" "/_search/scroll")

/-- What closing a session comes to, given the reply to the request for it. -/
def Reply.closing (reply : Reply) : Except Fault Unit :=
  (reply.outcome "DELETE" "/_search/scroll").map fun _ => ()

theorem Action.logAll_aside (logs : List Log) (s : Surroundings) :
    ∃ t, (logAll logs).runIn s = (.ok (), t) ∧ s.Aside t := by
  unfold logAll
  induction logs generalizing s with
  | nil => exact ⟨s, rfl, .refl s⟩
  | cons log logs ih =>
    have hlog : s.Aside (s.noting (.logged log)) := ⟨rfl, rfl⟩
    obtain ⟨t, hrun, haside⟩ := ih (s.noting (.logged log))
    exact ⟨t, hrun, hlog.trans haside⟩

/-- A page is read without asking the engine anything. -/
theorem Action.page_aside (value : Json) (s : Surroundings) :
    ∃ t, (Action.page value).runIn s = ((Extract.ofJson value).map Extract.page, t) ∧
      s.Aside t := by
  rw [Action.page, runIn_bind, runIn_ofExcept]
  cases Extract.ofJson value with
  | error fault => exact ⟨s, rfl, .refl s⟩
  | ok extract =>
    obtain ⟨t, hlog, haside⟩ := logAll_aside extract.notices s
    refine ⟨t, ?_, haside⟩
    show (logAll extract.notices >>= fun _ => pure extract.page).runIn s = _
    rw [runIn_bind_of_ok hlog]
    rfl

/-- A request whose answer is read as a page. -/
theorem Engine.request_page_asks (engine : Engine) (request : EngineRequest) (s : Surroundings) :
    ∃ t, (engine.request request >>= Action.page).runIn s =
        (Page.read ((s.answer 0).outcome request.method request.path), t) ∧
      s.Asks [request] t := by
  have hasks := s.asks_asked engine.connection request
  rw [runIn_bind, Engine.runIn_request, s.reply_eq_answer, Page.read]
  cases (s.answer 0).outcome request.method request.path with
  | error fault => exact ⟨_, rfl, hasks⟩
  | ok value =>
    obtain ⟨t, hrun, haside⟩ := Action.page_aside value (s.asked engine.connection request)
    exact ⟨t, hrun, hasks.aside haside⟩

namespace Paginator

variable (paginator : Paginator) (s : Surroundings)

/-- Fetching the page at a cursor is one request and the reading of its reply. -/
theorem paginate_asks {cursor : String} (hne : cursor ≠ "") (lifetime : Option String) :
    ∃ t, (paginator.paginate cursor lifetime).runIn s = ((s.answer 0).page, t) ∧
      s.Asks [Engine.scrollRequest cursor (paginator.lifetimeOr lifetime)] t := by
  have hempty : cursor.isEmpty = false := by simpa using hne
  rw [paginate, hempty, if_neg (by simp)]
  exact paginator.engine.request_page_asks
    (Engine.scrollRequest cursor (paginator.lifetimeOr lifetime)) s

/-- Closing the session of a cursor is one request. -/
theorem deleteSession_asks {cursor : String} (hne : cursor ≠ "") :
    ∃ t, (paginator.deleteSession cursor).runIn s = ((s.answer 0).closing, t) ∧
      s.Asks [Engine.closingRequest cursor] t := by
  have hempty : cursor.isEmpty = false := by simpa using hne
  have hasks := s.asks_asked paginator.engine.connection (Engine.closingRequest cursor)
  rw [deleteSession, hempty, if_neg (by simp)]
  show ∃ t, (paginator.engine.clearScroll cursor >>=
    fun _ => Action.log .info "Scroll session closed").runIn s = _ ∧ _
  rw [runIn_bind, Engine.clearScroll, runIn_bind, Engine.runIn_request, s.reply_eq_answer,
    Reply.closing]
  cases hreply : (s.answer 0).outcome "DELETE" "/_search/scroll" with
  | error fault => exact ⟨_, rfl, hasks⟩
  | ok value => exact ⟨_, rfl, hasks.aside ⟨rfl, rfl⟩⟩

end Paginator

/-! ## Pages that end a walk -/

namespace Page

/-- Whether a walk does not go on from the page: there is nothing to go on with, or no hits. -/
def isLast (page : Page) : Bool := page.cursor.all String.isEmpty || page.hits.isEmpty

/-- The request that closes the session of the page, if it has one. -/
def closings (page : Page) : List EngineRequest :=
  match page.cursor with
  | none => []
  | some cursor => if cursor.isEmpty then [] else [Engine.closingRequest cursor]

/-- What closing the session of the page comes to, given the reply to the request for it.  A
session without a cursor is not closed; one with an empty cursor cannot be. -/
def closed (page : Page) (reply : Reply) : Except Fault Unit :=
  match page.cursor with
  | none => .ok ()
  | some cursor =>
    if cursor.isEmpty then .error (.invalid "cursor must not be empty") else reply.closing

/-- The request for the page after this one. -/
def scroll (lifetime : String) (page : Page) : EngineRequest :=
  Engine.scrollRequest (page.cursor.getD "") lifetime

theorem scroll_eq {page : Page} {cursor : String} (h : page.cursor = some cursor)
    (lifetime : String) : page.scroll lifetime = Engine.scrollRequest cursor lifetime := by
  rw [scroll, h, Option.getD_some]

theorem exists_cursor {page : Page} (h : page.isLast = false) :
    ∃ cursor, page.cursor = some cursor ∧ cursor ≠ "" ∧ page.hits ≠ [] := by
  obtain ⟨hits, cursor⟩ := page
  cases cursor with
  | none => simp [isLast] at h
  | some cursor =>
    refine ⟨cursor, rfl, ?_, ?_⟩ <;> simp_all [isLast]

theorem closings_eq (page : Page) :
    page.closings = (page.cursor.filter (· ≠ "")).toList.map Engine.closingRequest := by
  obtain ⟨hits, cursor⟩ := page
  cases cursor with
  | none => rfl
  | some cursor => by_cases hempty : cursor = "" <;> simp [closings, Option.filter, hempty]

theorem closings_of_ne {page : Page} (h : page.cursor ≠ some "") :
    page.closings = page.cursor.toList.map Engine.closingRequest := by
  have hkept : page.cursor.filter (· ≠ "") = page.cursor := by
    cases hcursor : page.cursor with
    | none => rfl
    | some cursor =>
      have hne : cursor ≠ "" := by simpa [hcursor] using h
      simp [Option.filter, hne]
  rw [closings_eq, hkept]

theorem isLast_iff {page : Page} (h : page.cursor ≠ some "") :
    page.isLast = true ↔ page.cursor = none ∨ page.hits = [] := by
  obtain ⟨hits, cursor⟩ := page
  cases cursor with
  | none => simp [isLast]
  | some cursor =>
    have hempty : cursor ≠ "" := by simpa using h
    simp [isLast, hempty]

end Page

/-! ## One step of a walk -/

namespace Walk

variable (paginator : Paginator) (lifetime : Option String) (s : Surroundings)

/-- Closing the session of a walk's page asks what the page says. -/
theorem release_asks (page : Page) (stage : Stage) :
    ∃ t, (release ⟨page, lifetime, stage⟩ paginator).runIn s = (page.closed (s.answer 0), t) ∧
      s.Asks page.closings t := by
  obtain ⟨hits, cursor⟩ := page
  cases cursor with
  | none => exact ⟨s, rfl, .refl s⟩
  | some cursor =>
    by_cases hempty : cursor.isEmpty
    · refine ⟨s, ?_, ?_⟩
      · simp [release, Page.closed, Paginator.deleteSession, hempty]
      · simpa [Page.closings, hempty] using Surroundings.Asks.refl s
    · have hne : cursor ≠ "" := by simpa using hempty
      simpa [release, Page.closed, Page.closings, hempty] using paginator.deleteSession_asks s hne

/-- A walk ends at a last page, and closes the session. -/
theorem next_of_isLast {page : Page} (hlast : page.isLast = true) :
    ∃ t, (next ⟨page, lifetime, .running⟩ paginator).runIn s =
      (.ok ((page.closed (s.answer 0)).map fun _ => none, ⟨page, lifetime, .finished⟩), t) ∧
      s.Asks page.closings t := by
  obtain ⟨t, hrelease, hasks⟩ := release_asks paginator lifetime s page .running
  obtain ⟨hits, cursor⟩ := page
  cases cursor with
  | none => exact ⟨s, rfl, .refl s⟩
  | some cursor =>
    refine ⟨t, ?_, hasks⟩
    by_cases hhits : hits.isEmpty
    · rw [next]
      dsimp only
      rw [if_pos hhits, runIn_bind_of_ok (runIn_attempt ..), hrelease]
      cases Page.closed _ _ <;> rfl
    · -- The cursor is empty: neither can the next page be fetched nor the session be closed.
      obtain rfl : cursor = "" := by simpa [Page.isLast, hhits] using hlast
      have hpaginate : (paginator.paginate "" lifetime).runIn s =
          (.error (.invalid "cursor must not be empty"), s) := rfl
      rw [next]
      dsimp only
      rw [if_neg hhits, runIn_bind_of_ok (runIn_attempt ..), hpaginate]
      dsimp only
      rw [runIn_bind_of_ok (runIn_attempt ..), hrelease]
      rfl

/-- A walk goes on from a page to the one that the engine gives for its cursor. -/
theorem next_of_page {page found : Page} (hlast : page.isLast = false)
    (hfound : (s.answer 0).page = .ok found) :
    ∃ t, (next ⟨page, lifetime, .running⟩ paginator).runIn s =
        (.ok (.ok (some found), ⟨found, lifetime, .running⟩), t) ∧
      s.Asks [page.scroll (paginator.lifetimeOr lifetime)] t := by
  obtain ⟨cursor, hcursor, hne, hhits⟩ := Page.exists_cursor hlast
  obtain ⟨t, hpaginate, hasks⟩ := paginator.paginate_asks s hne lifetime
  rw [← Page.scroll_eq hcursor] at hasks
  refine ⟨t, ?_, hasks⟩
  obtain ⟨hits, cursor'⟩ := page
  obtain rfl : cursor' = some cursor := hcursor
  have hempty : hits.isEmpty = false := by simpa using hhits
  rw [next]
  dsimp only
  rw [hempty, if_neg (by simp), runIn_bind_of_ok (runIn_attempt ..), hpaginate, hfound]
  rfl

/-- A walk ends where the engine gives no page, and closes the session. -/
theorem next_of_fault {page : Page} {fault : Fault} (hlast : page.isLast = false)
    (hfault : (s.answer 0).page = .error fault) :
    ∃ t, (next ⟨page, lifetime, .running⟩ paginator).runIn s =
        (.ok ((page.closed (s.answer 1)).bind fun _ => .error fault,
          ⟨page, lifetime, .finished⟩), t) ∧
      s.Asks (page.scroll (paginator.lifetimeOr lifetime) :: page.closings) t := by
  obtain ⟨cursor, hcursor, hne, hhits⟩ := Page.exists_cursor hlast
  obtain ⟨t, hpaginate, hscroll⟩ := paginator.paginate_asks s hne lifetime
  rw [← Page.scroll_eq hcursor] at hscroll
  obtain ⟨u, hrelease, hclose⟩ := release_asks paginator lifetime t page .running
  refine ⟨u, ?_, hscroll.trans hclose⟩
  rw [hscroll.answer] at hrelease
  obtain ⟨hits, cursor'⟩ := page
  obtain rfl : cursor' = some cursor := hcursor
  have hempty : hits.isEmpty = false := by simpa using hhits
  rw [next]
  dsimp only
  rw [hempty, if_neg (by simp), runIn_bind_of_ok (runIn_attempt ..), hpaginate, hfault]
  dsimp only
  rw [runIn_bind_of_ok (runIn_attempt ..), hrelease]
  show _ = (Except.ok ((Page.closed _ (s.answer 1)).bind _, _), u)
  cases Page.closed _ (s.answer 1) <;> rfl

/-! ## Whole walks -/

/-- Takes up to so many pages of a walk and then ends it: the pages, and how the walk ended. -/
def browse (paginator : Paginator) : ℕ → Walk → Action (List Page × Except Fault Unit)
  | 0, walk => do
    let (result, _) ← walk.close paginator
    return ([], result)
  | limit + 1, walk => do
    let (result, walk) ← walk.next paginator
    match result with
    | .error fault => return ([], .error fault)
    | .ok none => return ([], .ok ())
    | .ok (some page) => do
      let (pages, result) ← browse paginator limit walk
      return (page :: pages, result)

/-- How a walk that may take so many pages goes on from a page: the replies to its scrolls, the
pages it takes from them, and the failure that ends it, if one does. -/
inductive Course : ℕ → Page → List Reply → List Page → Option Fault → Prop
  | enough (page : Page) : Course 0 page [] [] none
  | last {limit : ℕ} {page : Page} (hlast : page.isLast = true) : Course limit page [] [] none
  | fails {limit : ℕ} {page : Page} {reply : Reply} {fault : Fault}
      (hlast : page.isLast = false) (hreply : reply.page = .error fault) :
      Course (limit + 1) page [reply] [] (some fault)
  | more {limit : ℕ} {page found : Page} {reply : Reply} {replies : List Reply}
      {later : List Page} {failure : Option Fault}
      (hlast : page.isLast = false) (hreply : reply.page = .ok found)
      (hrest : Course limit found replies later failure) :
      Course (limit + 1) page (reply :: replies) (found :: later) failure

namespace Course

variable {limit : ℕ} {page : Page} {replies : List Reply} {later : List Page}
  {failure : Option Fault}

theorem yields (h : Course limit page replies later failure) :
    List.Forall₂ (fun reply found => Reply.page reply = .ok found)
      (replies.take later.length) later := by
  induction h with
  | enough => exact .nil
  | last => exact .nil
  | fails => exact .nil
  | more _ hreply _ ih => exact .cons hreply ih

theorem bounded (h : Course limit page replies later failure) : later.length ≤ limit := by
  induction h with
  | enough => exact Nat.le_refl 0
  | last => exact Nat.zero_le _
  | fails => exact Nat.zero_le _
  | more _ _ _ ih => exact Nat.succ_le_succ ih

/-- A walk only goes on from pages that are not the last one. -/
theorem resumes (h : Course limit page replies later failure) :
    ∀ found ∈ (page :: later).take replies.length, found.isLast = false := by
  induction h with
  | enough => simp
  | last => simp
  | fails hlast => simpa using hlast
  | more hlast _ _ ih =>
    intro found hfound
    rcases List.mem_cons.mp hfound with rfl | hfound
    · exact hlast
    · exact ih found hfound

/-- What ends a walk. -/
theorem stops (h : Course limit page replies later failure) :
    match failure with
    | none => replies.length = later.length ∧
      (later.length = limit ∨ (later.getLastD page).isLast = true)
    | some fault => replies.length = later.length + 1 ∧ later.length < limit ∧
      ∃ reply, replies[later.length]? = some reply ∧ reply.page = .error fault := by
  induction h with
  | enough => exact ⟨rfl, .inl rfl⟩
  | last hlast => exact ⟨rfl, .inr hlast⟩
  | fails _ hreply => exact ⟨rfl, Nat.zero_lt_succ _, _, rfl, hreply⟩
  | @more limit _ found _ replies later failure _ _ _ ih =>
    rw [List.getLastD_cons]
    cases failure with
    | none =>
      obtain ⟨hcount, hend⟩ := ih
      refine ⟨congrArg (· + 1) hcount, hend.imp_left ?_⟩
      exact congrArg (· + 1)
    | some fault =>
      obtain ⟨hcount, hlimit, reply, hreply, hfault⟩ := ih
      exact ⟨congrArg (· + 1) hcount, Nat.succ_lt_succ hlimit, reply, hreply, hfault⟩

theorem length_le (h : Course limit page replies later failure) :
    later.length ≤ replies.length := by
  have hstops := h.stops
  cases failure with
  | none => exact hstops.1.ge
  | some fault => exact (Nat.le_succ _).trans hstops.1.ge

theorem length_le_succ (h : Course limit page replies later failure) :
    replies.length ≤ later.length + 1 := by
  have hstops := h.stops
  cases failure with
  | none => exact hstops.1.le.trans (Nat.le_succ _)
  | some fault => exact hstops.1.le

/-- The pages are read from the replies of the engine. -/
theorem page_answer {s : Surroundings} (h : Course limit page replies later failure)
    (hreplies : replies = s.answers replies.length) {i : ℕ} (hi : i < later.length) :
    (s.answer i).page = .ok later[i] := by
  have hlength := h.length_le
  have hyields := h.yields
  rw [hreplies, Surroundings.take_answers hlength] at hyields
  have hread := (List.forall₂_iff_get.mp hyields).2 i (by rw [hyields.length_eq]; exact hi) hi
  simpa [Surroundings.answers] using hread

end Course

/-- **How a consumer goes through the pages after one it has taken.**  Whatever ends the walk, the
session of the page taken last is closed, after all scrolls. -/
theorem browse_course (paginator : Paginator) (lifetime : Option String) (limit : ℕ) (page : Page)
    (s : Surroundings) :
    ∃ replies later failure t,
      (browse paginator limit ⟨page, lifetime, .running⟩).runIn s =
        (.ok (later, ((later.getLastD page).closed (s.answer replies.length)).bind fun _ =>
          failure.elim (.ok ()) .error), t) ∧
      replies = s.answers replies.length ∧
      s.Asks (((page :: later).take replies.length).map
        (Page.scroll (paginator.lifetimeOr lifetime)) ++ (later.getLastD page).closings) t ∧
      Course limit page replies later failure := by
  induction limit generalizing page s with
  | zero =>
    -- The consumer has seen enough.
    obtain ⟨t, hrelease, hasks⟩ := release_asks paginator lifetime s page .running
    refine ⟨[], [], none, t, ?_, rfl, hasks, .enough page⟩
    rw [browse, close]
    dsimp only
    rw [runIn_bind, runIn_bind_of_ok (runIn_attempt ..), hrelease]
    show (Except.ok (([] : List Page), page.closed (s.answer 0)), t) =
      (Except.ok ([], (page.closed (s.answer 0)).bind fun _ => .ok ()), t)
    cases page.closed (s.answer 0) <;> rfl
  | succ limit ih =>
    cases hlast : page.isLast with
    | true =>
      obtain ⟨t, hnext, hasks⟩ := next_of_isLast paginator lifetime s hlast
      refine ⟨[], [], none, t, ?_, rfl, hasks, .last hlast⟩
      rw [browse, runIn_bind_of_ok hnext]
      show _ = (Except.ok (([] : List Page), (page.closed (s.answer 0)).bind _), t)
      cases page.closed (s.answer 0) <;> rfl
    | false =>
      cases hpage : (s.answer 0).page with
      | error fault =>
        obtain ⟨t, hnext, hasks⟩ := next_of_fault paginator lifetime s hlast hpage
        refine ⟨[s.answer 0], [], some fault, t, ?_, rfl, hasks, .fails hlast hpage⟩
        rw [browse, runIn_bind_of_ok hnext]
        show _ = (Except.ok (([] : List Page), (page.closed (s.answer 1)).bind _), t)
        cases page.closed (s.answer 1) <;> rfl
      | ok found =>
        obtain ⟨t, hnext, hasks⟩ := next_of_page paginator lifetime s hlast hpage
        obtain ⟨replies, later, failure, u, hrun, hreplies, hmore, hcourse⟩ := ih found t
        refine ⟨s.answer 0 :: replies, found :: later, failure, u, ?_, ?_, ?_,
          .more hlast hpage hcourse⟩
        · rw [browse, runIn_bind_of_ok hnext]
          dsimp only
          rw [runIn_bind_of_ok hrun, hasks.answer, List.getLastD_cons]
          rfl
        · rw [List.length_cons, Surroundings.answers_succ hasks, ← hreplies]
        · rw [List.getLastD_cons]
          exact hasks.trans hmore

/-- The first page is there before anything is asked. -/
theorem runIn_browse_start {paginator : Paginator} {lifetime : Option String} {s : Surroundings}
    {limit : ℕ} {first : Page} {later : List Page}
    {result : Except Fault Unit} {t : Surroundings}
    (h : (browse paginator limit ⟨first, lifetime, .running⟩).runIn s = (.ok (later, result), t)) :
    (browse paginator (limit + 1) (start first lifetime)).runIn s =
      (.ok (first :: later, result), t) := by
  have hfresh : (next (start first lifetime) paginator).runIn s =
      (.ok (.ok (some first), ⟨first, lifetime, .running⟩), s) := rfl
  rw [browse, runIn_bind_of_ok hfresh]
  dsimp only
  rw [runIn_bind_of_ok h]
  rfl

/-! ## All pages of a walk -/

/-- Collecting the pages of a walk is browsing without ever having enough. -/
theorem runIn_collect_of_browse {paginator : Paginator} {limit : ℕ} {walk : Walk}
    {pages : List Page} {result : Except Fault Unit} {s t : Surroundings}
    (h : (browse paginator limit walk).runIn s = (.ok (pages, result), t))
    (hmore : pages.length < limit) :
    (collect paginator limit walk).runIn s = (result.map fun _ => pages, t) := by
  induction limit generalizing walk s pages with
  | zero => exact absurd hmore (Nat.not_lt_zero _)
  | succ limit ih =>
    rw [browse] at h
    obtain ⟨⟨outcome, walk'⟩, u, hnext, hrest⟩ := runIn_bind_ok.mp h
    rw [collect, runIn_bind_of_ok hnext]
    cases outcome with
    | error fault =>
      obtain ⟨hresult, rfl⟩ := Prod.mk.inj hrest
      cases hresult
      rfl
    | ok found =>
      cases found with
      | none =>
        obtain ⟨hresult, rfl⟩ := Prod.mk.inj hrest
        cases hresult
        rfl
      | some page =>
        obtain ⟨⟨more, _⟩, v, hbrowse, hpages⟩ := runIn_bind_ok.mp hrest
        obtain ⟨hresult, rfl⟩ := Prod.mk.inj hpages
        cases hresult
        have hcollect := ih hbrowse (by simpa using hmore)
        dsimp only
        rw [runIn_bind, hcollect]
        cases result <;> rfl

theorem page_idleEngine : Reply.page idleEngine = .ok ⟨[], none⟩ := by
  have houtcome : idleEngine.outcome "POST" "/_search/scroll" = .ok (.obj []) := by rfl
  exact Page.read_eq_ok.mpr ⟨[], houtcome, rfl⟩

/-- The engine runs out of answers before a consumer of that many pages has enough. -/
theorem Course.length_lt {s : Surroundings} {limit : ℕ} {page : Page} {replies : List Reply}
    {later : List Page} {failure : Option Fault} (h : Course limit page replies later failure)
    (hreplies : replies = s.answers replies.length)
    (hlimit : s.engineReplies.length + 2 ≤ limit) : later.length < limit := by
  by_contra hlength
  have hlong : s.engineReplies.length + 1 < later.length := by omega
  have hcount := h.length_le
  -- The page that the idle engine gives has no hits, so that no scroll comes after it.
  have hidle : s.answer s.engineReplies.length = idleEngine := by
    simp [Surroundings.answer]
  have hread := h.page_answer hreplies (i := s.engineReplies.length) (by omega)
  rw [hidle, page_idleEngine] at hread
  have hlast := h.resumes later[s.engineReplies.length] (by
    rw [List.mem_take_iff_getElem]
    exact ⟨s.engineReplies.length + 1, by rw [List.length_cons]; omega, rfl⟩)
  rw [← Except.ok.inj hread] at hlast
  cases hlast

/-- **All pages of a walk.**  They come to what the session shows, unless the session fails or
cannot be closed. -/
theorem runIn_pages (paginator : Paginator) (lifetime : Option String) (first : Page)
    (s : Surroundings) : ∃ limit replies later failure t,
      ((start first lifetime).pages paginator).runIn s =
        (((later.getLastD first).closed (s.answer replies.length)).bind fun _ =>
          failure.elim (.ok (first :: later)) .error, t) ∧
      replies = s.answers replies.length ∧
      s.Asks (((first :: later).take replies.length).map
        (Page.scroll (paginator.lifetimeOr lifetime)) ++ (later.getLastD first).closings) t ∧
      Course limit first replies later failure ∧ later.length < limit := by
  obtain ⟨replies, later, failure, t, hrun, hreplies, hasks, hcourse⟩ :=
    browse_course paginator lifetime (s.engineReplies.length + 2) first s
  have hlength := hcourse.length_lt hreplies le_rfl
  refine ⟨_, replies, later, failure, t, ?_, hreplies, hasks, hcourse, hlength⟩
  rw [pages, runIn_bind_of_ok (runIn_get s),
    runIn_collect_of_browse (runIn_browse_start hrun) (Nat.succ_lt_succ hlength)]
  cases (later.getLastD first).closed (s.answer replies.length) with
  | error fault => rfl
  | ok done => cases failure <;> rfl

end Walk

end SearchGateway
