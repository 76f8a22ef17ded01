import SearchGateway.Proofs.Engine.Bulk
import SearchGateway.Proofs.Session
import SearchGateway.Proofs.Walk

/-!
# Pages that can be resumed

Whether there is more to fetch is decided by whoever reads an answer: there is if it has a cursor.
Whether it can be fetched is decided by the paginator, which refuses a cursor without characters.
So a page that is not exhausted can be resumed, and its session be closed, exactly if its cursor is
not empty; and a walk through answers of which none is a failure fails exactly if it takes a page
with an empty cursor (`Page.resumes_iff`).
-/

set_option autoImplicit false

namespace SearchGateway

open SearchGateway.Action

/-! ## Cursors -/

/-- The cursor is accepted: to fetch the page at it, and to close its session, is to send one
request with it, and the outcome is what the reply amounts to. -/
structure Paginator.Accepts (cursor : String) : Prop where
  paginate : ∀ (paginator : Paginator) (lifetime : Option String) (s : Surroundings), ∃ t,
    (paginator.paginate cursor lifetime).runIn s = ((s.answer 0).page, t) ∧
      s.Asks [Engine.scrollRequest cursor (paginator.lifetimeOr lifetime)] t
  deleteSession : ∀ (paginator : Paginator) (s : Surroundings), ∃ t,
    (paginator.deleteSession cursor).runIn s = ((s.answer 0).closing, t) ∧
      s.Asks [Engine.closingRequest cursor] t

/-- What a paginator says of a cursor without characters. -/
def Paginator.refusal : Fault := .invalid "cursor must not be empty"

/-- The cursor is refused: nothing is sent, neither to fetch the page at it nor to close its
session. -/
structure Paginator.Refuses (cursor : String) : Prop where
  paginate : ∀ (paginator : Paginator) (lifetime : Option String) (s : Surroundings),
    (paginator.paginate cursor lifetime).runIn s = (.error refusal, s)
  deleteSession : ∀ (paginator : Paginator) (s : Surroundings),
    (paginator.deleteSession cursor).runIn s = (.error refusal, s)

theorem Paginator.refuses_empty : Refuses "" := ⟨fun _ _ _ => rfl, fun _ _ => rfl⟩

theorem Paginator.accepts_iff {cursor : String} : Accepts cursor ↔ cursor ≠ "" := by
  constructor
  · rintro ⟨-, hdelete⟩ rfl
    obtain ⟨t, hrun, hasks⟩ := hdelete { engine := Engine.plain } (.answering [])
    rw [refuses_empty.deleteSession] at hrun
    obtain ⟨-, rfl⟩ := Prod.mk.inj hrun
    cases hasks.requests
  · exact fun hne => ⟨fun paginator lifetime s => paginator.paginate_asks s hne lifetime,
      fun paginator s => paginator.deleteSession_asks s hne⟩

theorem Extract.cursor?_eq_some {answer : Json.Fields} {cursor : String} :
    cursor? answer = some cursor ↔ answer.get? "_scroll_id" = some (.str cursor) := by
  unfold cursor?
  cases answer.get? "_scroll_id" with
  | none => simp
  | some value => cases value <;> simp [Lenient.text?]

/-! ## Pages -/

namespace Page

/-- The page has a cursor that is accepted. -/
def IsResumable (page : Page) : Prop :=
  ∃ cursor, page.cursor = some cursor ∧ Paginator.Accepts cursor

theorem isResumable_iff {page : Page} (h : page.isExhausted = false) :
    page.IsResumable ↔ page.cursor ≠ some "" := by
  unfold IsResumable
  cases hcursor : page.cursor with
  | none => simp [isExhausted, hcursor] at h
  | some cursor => simp [Paginator.accepts_iff]

/-- What closing the session of a page comes to if the engine does it. -/
theorem closed_of_gives {page : Page} {reply : Reply} {answer : Json.Fields}
    (h : reply.Gives answer) : page.closed reply =
      if page.cursor = some "" then .error Paginator.refusal else .ok () := by
  have hclosing : reply.closing = .ok () := by
    rw [Reply.closing, h]
    rfl
  unfold closed
  cases page.cursor with
  | none => rfl
  | some cursor =>
    by_cases hempty : cursor = ""
    · simp [hempty, Paginator.refusal]
    · simp [hempty, hclosing]

end Page

/-! ## Walks -/

/-- The engine answers every request with an object, and none with a failure. -/
def Surroundings.GivesObjects (s : Surroundings) : Prop := ∀ i, ∃ answer, (s.answer i).Gives answer

namespace Walk

variable {paginator : Paginator} {lifetime : Option String} {limit : ℕ} {first : Page}
  {replies : List Reply} {later : List Page} {failure : Option Fault} {s : Surroundings}

/-- A walk through objects does not end with a scroll that fails. -/
theorem Course.failure_eq_none (h : Course limit first replies later failure)
    (hreplies : replies = s.answers replies.length) (hs : s.GivesObjects) : failure = none := by
  have hstops := h.stops
  cases failure with
  | none => rfl
  | some fault =>
    obtain ⟨-, -, reply, hreply, hfault⟩ := hstops
    rw [hreplies, Surroundings.getElem?_answers] at hreply
    obtain ⟨-, rfl⟩ := hreply
    obtain ⟨answer, hgives⟩ := hs later.length
    rw [Reply.page, Page.read_eq_ok.mpr ⟨answer, hgives _ _, rfl⟩] at hfault
    cases hfault

/-- A walk does not go on from an empty cursor, so only the page taken last can have one. -/
theorem Course.empty_iff (h : Course limit first replies later failure) :
    (later.getLastD first).cursor = some "" ↔ ∃ page ∈ first :: later, page.cursor = some "" := by
  induction h with
  | enough | last | fails => simp
  | @more _ page found _ _ later _ hlast _ _ ih =>
    obtain ⟨cursor, hcursor, hne, -⟩ := Page.exists_cursor hlast
    rw [List.getLastD_cons, ih]
    simp [hcursor, hne]

/-- What a walk through objects comes to. -/
theorem browse_of_givesObjects (paginator : Paginator) (lifetime : Option String) (limit : ℕ)
    (first : Page) (hs : s.GivesObjects) : ∃ pages result t,
      (browse paginator limit (start first lifetime)).runIn s = (.ok (pages, result), t) ∧
      ((∀ page ∈ pages, page.cursor ≠ some "") → result = .ok ()) ∧
      ((∃ page ∈ pages, page.cursor = some "") → result = .error Paginator.refusal) := by
  cases limit with
  | zero => exact ⟨[], .ok (), s, rfl, fun _ => rfl, by simp⟩
  | succ limit =>
    obtain ⟨replies, later, failure, t, hrun, hreplies, -, hcourse⟩ :=
      browse_course paginator lifetime limit first s
    obtain rfl := hcourse.failure_eq_none hreplies hs
    obtain ⟨answer, hgives⟩ := hs replies.length
    refine ⟨_, _, t, runIn_browse_start hrun, fun hall => ?_, fun hempty => ?_⟩
    · have hlast : (later.getLastD first).cursor ≠ some "" :=
        hall _ List.getLastD_mem_cons
      rw [Page.closed_of_gives hgives, if_neg hlast]
      rfl
    · rw [Page.closed_of_gives hgives, if_pos (hcourse.empty_iff.mpr hempty)]
      rfl

end Walk

/-! ## Answers -/

/-- **A page that is not exhausted can be resumed exactly if its cursor is not empty.**  An empty
cursor is refused.  So a walk through answers that are objects ends well exactly if it takes no page
with an empty cursor. -/
theorem Page.resumes_iff (answer : Json.Fields) :
    ((Extract.ofFields answer).page.isExhausted = false →
      ((Extract.ofFields answer).page.IsResumable ↔
        answer.get? "_scroll_id" ≠ some (.str "")) ∧
      (answer.get? "_scroll_id" = some (.str "") → ∃ cursor,
        (Extract.ofFields answer).page.cursor = some cursor ∧ Paginator.Refuses cursor)) ∧
    ∀ (paginator : Paginator) (lifetime : Option String) (limit : ℕ) (s : Surroundings),
      s.GivesObjects → ∃ pages result t,
        (Walk.browse paginator limit
          (Walk.start (Extract.ofFields answer).page lifetime)).runIn s =
            (.ok (pages, result), t) ∧
        ((∀ page ∈ pages, page.cursor ≠ some "") → result = .ok ()) ∧
        ((∃ page ∈ pages, page.cursor = some "") → result = .error Paginator.refusal) := by
  refine ⟨fun hopen => ⟨?_, fun hempty => ?_⟩, fun paginator lifetime limit s hs =>
    Walk.browse_of_givesObjects paginator lifetime limit _ hs⟩
  · rw [isResumable_iff hopen]
    exact Extract.cursor?_eq_some.not
  · exact ⟨"", Extract.cursor?_eq_some.mpr hempty, Paginator.refuses_empty⟩

/-- **Not every page that is not exhausted can be resumed.** -/
theorem Page.not_isResumable_blank : ¬∀ answer : Json.Fields,
    (Extract.ofFields answer).page.isExhausted = false →
      (Extract.ofFields answer).page.IsResumable := by
  intro hall
  have hopen : (Extract.ofFields [("_scroll_id", .str "")]).page.isExhausted = false := by decide
  exact (isResumable_iff hopen).mp (hall _ hopen) rfl

end SearchGateway
