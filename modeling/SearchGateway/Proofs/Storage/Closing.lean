import SearchGateway.Proofs.Discipline
import SearchGateway.Proofs.Storage.Storing
import SearchGateway.Proofs.Turns

/-!
# Closing the session of a reading

A session that is not closed ends by itself when its lifetime is over, so nothing that was read
depends on whether it can be closed.  Two readings with the same turns show the same parts or fail
with the same turn, as long as none of them fails to close its session (`readings_alike`).  A
failure to close is raised in place of either (`not_readings_alike`).
-/

set_option autoImplicit false

namespace SearchGateway.Storage

open SearchGateway.Action

/-- **Readings with the same turns end alike unless closing fails.**  What the turns show, be it
parts or the failure of a turn, is what both readings come to, except that a failure to close the
session takes its place. -/
theorem readings_alike {T T' : Type} [Operand T] [Operand T'] {storage storage' : Storage}
    {index index' : String} {documentId : T} {documentId' : T'} {s s' t t' : Surroundings}
    {result result' : Except Fault (List Part)}
    (h : (storage.getDocumentParts index documentId).runIn s = (result, t))
    (h' : (storage'.getDocumentParts index' documentId').runIn s' = (result', t'))
    (hturns : Turns.Agree (s.turns t) (s'.turns t')) :
    ∃ own, own = Turns.parts (s.turns t) ∧ own = Turns.parts (s'.turns t') ∧
      result = (s.closeFault? t).elim own .error ∧
      result' = (s'.closeFault? t').elim own .error ∧
      (s.closeFault? t = s'.closeFault? t' → result = result') := by
  obtain ⟨hresult, hsession⟩ := getDocumentParts_reading h
  obtain ⟨hresult', hsession'⟩ := getDocumentParts_reading h'
  have hsame : s.turns t = s'.turns t' := hsession.isOver.eq_of_agree hsession'.isOver hturns
  refine ⟨Turns.parts (s.turns t), rfl, ?_, hresult, ?_, ?_⟩
  · rw [hsame]
  · rw [hsame]
    exact hresult'
  · intro hclosed
    rw [hresult, hresult', hclosed, hsame]

/-! ## A session that ends with an empty page -/

/-- An answer that shows nothing and has a cursor. -/
def emptyAnswer (cursor : String) : Json :=
  .obj [("_scroll_id", .str cursor), ("hits", .obj [("hits", .arr [])])]

/-- A session with one part, in which the request to close it gets the given reply. -/
def closing (reply : Reply) : Surroundings :=
  .answering [.rendered (Walk.leafAnswer "two"), .rendered (emptyAnswer "three"), reply]

theorem over_closing : Turns.Over [.ok (Walk.leafAnswer "two"), .ok (emptyAnswer "three")] := by
  have hread : Page.read (.ok (Walk.leafAnswer "two")) =
      .ok ⟨[⟨"p", "notes", Walk.leaf, none, []⟩], some "two"⟩ := by rfl
  refine .more hread rfl (.last ?_)
  intro page hpage
  rw [← Except.ok.inj hpage]
  rfl

theorem turns_closing {reply : Reply} {t : Surroundings} (h : Turns.IsSession (closing reply) t) :
    (closing reply).turns t = [.ok (Walk.leafAnswer "two"), .ok (emptyAnswer "three")] := by
  have hreplies : (closing reply).engineReplies =
      [Walk.leafAnswer "two", emptyAnswer "three"].map Reply.rendered ++ [reply] := rfl
  exact h.isOver.eq_of_agree over_closing
    (h.agree hreplies (Reply.forall₂_rendered (by decide)))

/-- The reply to the request that closes the session decides what reading the part comes to. -/
theorem reading_closing (reply : Reply) : ∃ t,
    (plain.getDocumentParts "notes" "d").runIn (closing reply) =
      ((Fault.of? (reply.outcome "DELETE" "/_search/scroll")).elim (.ok [Walk.leaf]) .error, t) ∧
    (closing reply).turns t = [.ok (Walk.leafAnswer "two"), .ok (emptyAnswer "three")] ∧
    (closing reply).closeFault? t = Fault.of? (reply.outcome "DELETE" "/_search/scroll") := by
  obtain ⟨⟨result, t⟩, hrun⟩ : ∃ run, (plain.getDocumentParts "notes" "d").runIn (closing reply) =
    run := ⟨_, rfl⟩
  obtain ⟨rfl, hsession⟩ := getDocumentParts_reading hrun
  have hturns := turns_closing hsession
  have hcloses := hsession.closes
  have hcursor : Turns.cursor? [.ok (Walk.leafAnswer "two"), .ok (emptyAnswer "three")] =
      some "three" := by rfl
  rw [hturns, hcursor] at hcloses
  have hfault : (closing reply).closeFault? t =
      Fault.of? (reply.outcome "DELETE" "/_search/scroll") := by
    rw [Surroundings.closeFault?, hcloses]
    show List.findSome? Fault.of? [reply.outcome "DELETE" "/_search/scroll"] = _
    cases reply.outcome "DELETE" "/_search/scroll" <;> rfl
  refine ⟨t, ?_, hturns, hfault⟩
  have hpages : [.ok (Walk.leafAnswer "two"), .ok (emptyAnswer "three")].mapM Turns.page =
      .ok [⟨[⟨"p", "notes", Walk.leaf, none, []⟩], some "two"⟩, ⟨[], some "three"⟩] := by rfl
  have hparts : Turns.parts [.ok (Walk.leafAnswer "two"), .ok (emptyAnswer "three")] =
      .ok [Walk.leaf] := by
    rw [Turns.parts, hpages]
    exact congrArg Except.ok (List.mergeSort_singleton Walk.leaf)
  rw [hrun, hfault, hturns, hparts]

/-- One session is closed, and the other cannot be because the engine is not available: the one
reading comes to the part, the other to the failure. -/
theorem readings_alike_closed : ∃ t t' result result' fault,
    (plain.getDocumentParts "notes" "d").runIn (closing (.answer 200 "")) = (result, t) ∧
    (plain.getDocumentParts "notes" "d").runIn (closing (.answer 503 "")) = (result', t') ∧
    Turns.Agree ((closing (.answer 200 "")).turns t) ((closing (.answer 503 "")).turns t') ∧
    (closing (.answer 200 "")).closeFault? t = none ∧
    (closing (.answer 503 "")).closeFault? t' = some fault ∧
    ∃ own, own = Turns.parts ((closing (.answer 200 "")).turns t) ∧
      own = Turns.parts ((closing (.answer 503 "")).turns t') ∧
      result = ((closing (.answer 200 "")).closeFault? t).elim own .error ∧
      result' = ((closing (.answer 503 "")).closeFault? t').elim own .error ∧
      ((closing (.answer 200 "")).closeFault? t = (closing (.answer 503 "")).closeFault? t' →
        result = result') := by
  obtain ⟨t, h, hturns, hclosed⟩ := reading_closing (.answer 200 "")
  obtain ⟨t', h', hturns', hfault⟩ := reading_closing (.answer 503 "")
  have hagree : Turns.Agree ((closing (.answer 200 "")).turns t)
      ((closing (.answer 503 "")).turns t') := by
    rw [hturns, hturns']
    exact .refl _
  exact ⟨t, t', _, _, _, h, h', hagree, hclosed.trans rfl, hfault.trans rfl,
    readings_alike h h' hagree⟩

/-- **Closing is not advisory.**  Two readings see the same two pages.  One is told that its session
is closed, the other that the engine is not available, and loses the part it has read. -/
theorem not_readings_alike : ¬∀ (storage : Storage) (index documentId : String)
    (s s' t t' : Surroundings) (result result' : Except Fault (List Part)),
    (storage.getDocumentParts index documentId).runIn s = (result, t) →
    (storage.getDocumentParts index documentId).runIn s' = (result', t') →
    Turns.Agree (s.turns t) (s'.turns t') → result = result' := by
  intro halike
  obtain ⟨t, h, hturns, -⟩ := reading_closing (.answer 200 "")
  obtain ⟨t', h', hturns', -⟩ := reading_closing (.answer 503 "")
  have hagree : Turns.Agree ((closing (.answer 200 "")).turns t)
      ((closing (.answer 503 "")).turns t') := by
    rw [hturns, hturns']
    exact .refl _
  have hsame := halike plain "notes" "d" _ _ t t' _ _ h h' hagree
  cases hsame

end SearchGateway.Storage
