import SearchGateway.Proofs.Engine.Bulk
import SearchGateway.Proofs.Session
import SearchGateway.Proofs.Walk

/-!
# The discipline of a session

The cursor of a session changes with every page, and a session that is left open costs the engine.
So whoever walks through one has to pass the latest cursor, to stop where there is nothing more, and
to close the session at the end, whatever the end is (`Walk.browse_disciplined`).
-/

set_option autoImplicit false

namespace SearchGateway

open SearchGateway.Action

namespace Walk

/-- What a consumer sees of a session and what the engine is asked meanwhile, where `later` are the
pages after the first, `scrolls` the requests for them and `closes` those that end the session. -/
structure Disciplined (paginator : Paginator) (lifetime : Option String) (s : Surroundings)
    (limit : ℕ) (first : Page) (later : List Page) (scrolls closes : List EngineRequest) :
    Prop where
  /-- The pages are those that the engine shows, in order. -/
  yields : later.length ≤ limit ∧ List.Forall₂ (fun reply found => ∃ answer,
    reply.outcome "POST" "/_search/scroll" = .ok (.obj answer) ∧
      found = (Extract.ofFields answer).page) (s.answers later.length) later
  /-- Every scroll comes after a page with hits and a cursor, and passes that cursor and the
  lifetime that is asked for, the usual one if none is.  An empty text asks for none. -/
  scrolled : ∃ lasting, (lifetime = some lasting ∧ lasting ≠ "" ∨
      (lifetime = none ∨ lifetime = some "") ∧ lasting = paginator.lifetime) ∧
    List.Forall₂ (fun page request => page.hits ≠ [] ∧ ∃ cursor, page.cursor = some cursor ∧
      request = Engine.scrollRequest cursor lasting) ((first :: later).take scrolls.length) scrolls
  /-- The session is closed once, with the cursor of the page taken last, if that has one. -/
  closed : closes = (later.getLastD first).cursor.toList.map Engine.closingRequest
  /-- Either the consumer has taken all it wants, or the last page has no cursor or no hits, or the
  reply to one more scroll is no object. -/
  stops : scrolls.length = later.length ∧ (later.length = limit ∨
      (later.getLastD first).cursor = none ∨ (later.getLastD first).hits = []) ∨
    scrolls.length = later.length + 1 ∧ later.length < limit ∧
      ∀ answer, (s.answer later.length).outcome "POST" "/_search/scroll" ≠ .ok (.obj answer)

theorem exists_lifetime (paginator : Paginator) (lifetime : Option String) :
    lifetime = some (paginator.lifetimeOr lifetime) ∧ paginator.lifetimeOr lifetime ≠ "" ∨
      (lifetime = none ∨ lifetime = some "") ∧
        paginator.lifetimeOr lifetime = paginator.lifetime := by
  cases lifetime with
  | none => exact .inr ⟨.inl rfl, rfl⟩
  | some text =>
    by_cases hempty : text = ""
    · subst hempty
      exact .inr ⟨.inr rfl, rfl⟩
    · have hlifetime : paginator.lifetimeOr (some text) = text := by
        simp [Paginator.lifetimeOr, hempty]
      rw [hlifetime]
      exact .inl ⟨rfl, hempty⟩

/-- A walk whose last cursor has a name is disciplined. -/
theorem Course.disciplined {s : Surroundings} {limit : ℕ} {first : Page} {replies : List Reply}
    {later : List Page} {failure : Option Fault} (paginator : Paginator)
    (lifetime : Option String) (h : Course limit first replies later failure)
    (hreplies : replies = s.answers replies.length)
    (hcursor : (later.getLastD first).cursor ≠ some "") :
    Disciplined paginator lifetime s limit first later
      (((first :: later).take replies.length).map (Page.scroll (paginator.lifetimeOr lifetime)))
      (later.getLastD first).closings := by
  have hcount : (((first :: later).take replies.length).map
      (Page.scroll (paginator.lifetimeOr lifetime))).length = replies.length := by
    rw [List.length_map, List.length_take, List.length_cons]
    exact Nat.min_eq_left h.length_le_succ
  refine ⟨⟨h.bounded, ?_⟩, ⟨_, exists_lifetime paginator lifetime, ?_⟩,
    Page.closings_of_ne hcursor, ?_⟩
  · rw [List.forall₂_iff_get]
    refine ⟨by simp [Surroundings.answers], ?_⟩
    intro i hi hi'
    simp only [Surroundings.answers, List.get_eq_getElem, List.getElem_map, List.getElem_range]
    exact Page.read_eq_ok.mp (h.page_answer hreplies hi')
  · rw [hcount, List.forall₂_map_right_iff, List.forall₂_same]
    intro page hpage
    obtain ⟨cursor, hpagecursor, -, hhits⟩ := Page.exists_cursor (h.resumes page hpage)
    exact ⟨hhits, cursor, hpagecursor, Page.scroll_eq hpagecursor _⟩
  · rw [hcount]
    have hstops := h.stops
    cases failure with
    | none =>
      obtain ⟨hall, hend⟩ := hstops
      rw [Page.isLast_iff hcursor] at hend
      exact .inl ⟨hall, hend⟩
    | some fault =>
      obtain ⟨hall, hlimit, reply, hreply, hfault⟩ := hstops
      refine .inr ⟨hall, hlimit, ?_⟩
      intro answer houtcome
      rw [hreplies, Surroundings.getElem?_answers] at hreply
      obtain ⟨-, rfl⟩ := hreply
      rw [Reply.page, Page.read_eq_ok.mpr ⟨answer, houtcome, rfl⟩] at hfault
      cases hfault

/-- **The discipline of a session.**  A consumer that takes at least one page sees the first page
and then what the engine shows, in order.  Every scroll passes the cursor of the page before it, and
none comes after a page without a cursor or without hits.  However the walk ends, the session is
closed exactly once, after all scrolls, with the last cursor, and not at all if the last page has
none. -/
theorem browse_disciplined (paginator : Paginator) (lifetime : Option String) (first : Page)
    (limit : ℕ) (s : Surroundings) (hfirst : first.cursor ≠ some "")
    (hreplies : ∀ i answer, (s.answer i).outcome "POST" "/_search/scroll" = .ok (.obj answer) →
      Extract.cursor? answer ≠ some "") :
    ∃ later scrolls closes result t,
      (browse paginator (limit + 1) (start first lifetime)).runIn s =
        (.ok (first :: later, result), t) ∧
      t.requests = closes ++ scrolls.reverse ++ s.requests ∧
      Disciplined paginator lifetime s limit first later scrolls closes := by
  obtain ⟨replies, later, failure, t, hrun, hanswers, hasks, hcourse⟩ :=
    browse_course paginator lifetime limit first s
  -- The page taken last is the first one or one that the engine gave.
  have hcursor : (later.getLastD first).cursor ≠ some "" := by
    rcases List.mem_cons.mp (List.getLastD_mem_cons (l := later) (a := first)) with hlast | hlast
    · rw [hlast]
      exact hfirst
    · obtain ⟨i, hi, hlast⟩ := List.getElem_of_mem hlast
      obtain ⟨answer, houtcome, hfound⟩ := Page.read_eq_ok.mp (hcourse.page_answer hanswers hi)
      rw [← hlast, hfound]
      exact hreplies i answer houtcome
  have hclosings : (later.getLastD first).closings.reverse = (later.getLastD first).closings := by
    rw [Page.closings_of_ne hcursor]
    cases (later.getLastD first).cursor <;> rfl
  refine ⟨_, _, _, _, t, runIn_browse_start hrun, ?_,
    hcourse.disciplined paginator lifetime hanswers hcursor⟩
  rw [hasks.requests, List.reverse_append, hclosings]

/-- A part of a document. -/
def leaf : Part := ⟨"d", 0, ⟨"a.md", "docs/a.md", 5, 1, 2⟩, some "a", none, none, none⟩

/-- An answer that shows the part and has a cursor. -/
def leafAnswer (cursor : String) : Json :=
  .obj [("_scroll_id", .str cursor), ("hits", .obj [("hits", .arr [.obj [("_id", .str "p"),
    ("_index", .str "notes"), ("_source", (Record.ofPart leaf).toJson)]])])]

/-- A session whose third page does not come. -/
def interrupted : Surroundings := .answering [.rendered (leafAnswer "two"), .lost .late ""]

theorem outcome_leafAnswer (cursor : String) (method path : String) :
    (Reply.rendered (leafAnswer cursor)).outcome method path = .ok (leafAnswer cursor) :=
  Reply.outcome_rendered rfl rfl method path

theorem cursor_ne_of_interrupted (i : ℕ) (answer : Json.Fields)
    (h : (interrupted.answer i).outcome "POST" "/_search/scroll" = .ok (.obj answer)) :
    Extract.cursor? answer ≠ some "" := by
  rcases i with _ | _ | i
  · have hanswer : leafAnswer "two" = .obj answer :=
      Except.ok.inj ((outcome_leafAnswer "two" _ _).symm.trans h)
    obtain rfl := Json.obj.inj hanswer
    decide
  · have hlost : (interrupted.answer 1).outcome "POST" "/_search/scroll" =
        .error (Failure.ofLoss .late "") := rfl
    exact absurd (hlost.symm.trans h) (by simp)
  · have hidle : (interrupted.answer (i + 2)).outcome "POST" "/_search/scroll" = .ok (.obj []) :=
      rfl
    obtain rfl := Json.obj.inj (Except.ok.inj (hidle.symm.trans h))
    decide

/-- A walk through that session, by a consumer that would take four pages. -/
theorem browse_disciplined_interrupted :
    (∀ i answer, (interrupted.answer i).outcome "POST" "/_search/scroll" = .ok (.obj answer) →
      Extract.cursor? answer ≠ some "") ∧
    ∃ later scrolls closes result t,
      (browse ⟨Engine.plain, "1m"⟩ 4
        (start ⟨[⟨"p", "notes", leaf, none, []⟩], some "one"⟩ (some "5m"))).runIn interrupted =
        (.ok (⟨[⟨"p", "notes", leaf, none, []⟩], some "one"⟩ :: later, result), t) ∧
      t.requests = closes ++ scrolls.reverse ++ interrupted.requests ∧
      Disciplined ⟨Engine.plain, "1m"⟩ (some "5m") interrupted 3
        ⟨[⟨"p", "notes", leaf, none, []⟩], some "one"⟩ later scrolls closes :=
  ⟨cursor_ne_of_interrupted, browse_disciplined ⟨Engine.plain, "1m"⟩ (some "5m")
    ⟨[⟨"p", "notes", leaf, none, []⟩], some "one"⟩ 3 interrupted (by decide)
    cursor_ne_of_interrupted⟩

end Walk

end SearchGateway
