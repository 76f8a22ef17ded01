import SearchGateway.Proofs.Action
import SearchGateway.Proofs.Record.RoundTrip

/-!
# Sessions

A `Session` is what an engine answers to a search and to those who fetch its further pages: pages
with hits and a cursor, until there is one without a cursor or without hits.
-/

set_option autoImplicit false

namespace SearchGateway

open SearchGateway.Action

/-! ## Replies -/

/-- A reply that is read as an object. -/
def Reply.Gives (reply : Reply) (answer : Json.Fields) : Prop :=
  ∀ method path, reply.outcome method path = .ok (.obj answer)

/-- A reply that is no failure. -/
def Reply.Acknowledges (reply : Reply) : Prop :=
  ∀ method path, ∃ value, reply.outcome method path = .ok value

/-- An answer with a status of success comes to the value that its text stands for. -/
theorem Reply.outcome_of_parse {status : ℤ} {body : String} {value : Json}
    (hstatus : ¬(400 ≤ status ∧ status < 600)) (hbody : Json.parse Exchange.depth body = .ok value)
    (method path : String) : (Reply.answer status body).outcome method path = .ok value := by
  have hne : body.isEmpty = false := by
    by_contra h
    obtain rfl : body = "" := by simpa using h
    cases hbody
  rw [outcome, if_neg hstatus, hne, hbody]
  rfl

/-- An answer with the text of a value. -/
def Reply.rendered (value : Json) : Reply := .answer 200 (value.render .line)

theorem Reply.outcome_rendered {value : Json} (hw : value.isWritable = true)
    (hfits : value.fits Exchange.depth = true) (method path : String) :
    (rendered value).outcome method path = .ok value :=
  outcome_of_parse (by norm_num) (Json.parse_render Json.Layout.lawful_line hw hfits) method path

theorem Engine.runIn_request_of_gives {engine : Engine} {request : EngineRequest}
    {s : Surroundings} {r : Reply} {rs : List Reply} {answer : Json.Fields}
    (hreplies : s.engineReplies = r :: rs) (hgives : r.Gives answer) :
    (engine.request request).runIn s =
      (.ok (.obj answer), s.asked engine.connection request) := by
  rw [runIn_request, Surroundings.reply_of_cons hreplies, hgives]

/-! ## Pages -/

/-- An answer whose hits show the given sources, in order. -/
def ShowsAll (answer : Json.Fields) (sources : List Json.Fields) : Prop :=
  ∃ hits, Extract.hitValues? answer = some (hits.map .obj) ∧ List.Forall₂ Hit.Shows hits sources

/-- Every hit that can be read is read, in its place. -/
theorem filterMap_read? {hits sources : List Json.Fields} {parts : List Part}
    (hshows : List.Forall₂ Hit.Shows hits sources)
    (hparts : sources.map Record.part? = parts.map some) :
    ((hits.map Json.obj).filterMap Hit.read?).map Hit.part = parts := by
  induction hshows generalizing parts with
  | nil =>
    cases parts with
    | nil => rfl
    | cons part parts => cases hparts
  | @cons fields source hits sources hshow _ ih =>
    cases parts with
    | nil => cases hparts
    | cons part parts =>
      rw [List.map_cons, List.map_cons] at hparts
      obtain ⟨hpart, hmore⟩ := List.cons.inj hparts
      obtain ⟨r, hvalid, rfl⟩ := Record.part?_eq_some.mp hpart
      obtain ⟨hit, hread, hpart⟩ := Hit.read?_of_shows hshow hvalid
      rw [List.map_cons, List.filterMap_cons_some hread, List.map_cons, hpart, ih hmore]

/-! ## Sessions -/

/-- The replies of an engine that shows sources page by page.  The last page has no cursor, or it
has no hits and its session is closed. -/
inductive Session : List Reply → List Json.Fields → Prop
  | last {reply : Reply} {answer : Json.Fields} {sources : List Json.Fields}
      (hgives : reply.Gives answer) (hshows : ShowsAll answer sources)
      (hcursor : Extract.cursor? answer = none) : Session [reply] sources
  | empty {reply close : Reply} {answer : Json.Fields} {cursor : String}
      (hgives : reply.Gives answer) (hshows : ShowsAll answer [])
      (hcursor : Extract.cursor? answer = some cursor) (hne : cursor ≠ "")
      (hclose : close.Acknowledges) : Session [reply, close] []
  | more {reply : Reply} {answer : Json.Fields} {cursor : String}
      {sources rest : List Json.Fields} {replies : List Reply}
      (hgives : reply.Gives answer) (hshows : ShowsAll answer sources) (hsources : sources ≠ [])
      (hcursor : Extract.cursor? answer = some cursor) (hne : cursor ≠ "")
      (hrest : Session replies rest) : Session (reply :: replies) (sources ++ rest)

end SearchGateway
