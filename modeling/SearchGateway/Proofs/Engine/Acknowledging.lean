import SearchGateway.Proofs.Engine.Answer
import SearchGateway.Proofs.Engine.Bulk
import SearchGateway.Proofs.Discipline

/-!
# Whether the engine acknowledged what was stored

The answer to a bulk request says what became of the parts.  Storing parts is to tell that as it is
(`Bulk.Tells`): they are stored if the answer is an object that reports no errors, the first error
is passed on if it reports some, and an answer of any other shape is none.  This is so for just the
answers from which it can be told (`Engine.tells_storeParts_iff`); an answer that says nothing is
taken for an acknowledgement (`Engine.not_tells_silence`).
-/

set_option autoImplicit false

namespace SearchGateway

namespace Bulk

/-! ## What an answer says -/

/-- The error that an item carries first, if it carries one. -/
def carriedError? : Json → Option Json
  | .obj actions => itemError? actions
  | _ => none

/-- The outcome of storing parts tells what the body of the answer says. -/
structure Tells (body : String) (stored : Stored) (outcome : Except Fault Stored) : Prop where
  /-- The parts are stored if the engine says so, and only then. -/
  stored : outcome = .ok stored ↔
    ∃ fields, Json.parse Exchange.depth body = .ok (.obj fields) ∧ ¬ReportsErrors fields
  /-- An answer that reports errors is a refusal, for the reason of the first item that carries an
  error. -/
  refused : ∀ fields, Json.parse Exchange.depth body = .ok (.obj fields) → ReportsErrors fields →
    ∃ reason, outcome = .error (refusal reason) ∧
      ∀ items error, Json.Fields.get? fields "items" = some (.arr items) →
        items.findSome? carriedError? = some error → reason = errorText error
  /-- A body that is no object is of the wrong shape. -/
  malformed : (∀ fields, Json.parse Exchange.depth body ≠ .ok (.obj fields)) →
    ∃ message, outcome = .error (.malformed message)

/-- What became of the parts can be told from the body: it is an object, whose items lead to the
first error if it reports some, or it is a text that stands for no value. -/
def IsTelling (body : String) : Prop :=
  match Json.parse Exchange.depth body with
  | .ok (.obj fields) => ReportsErrors fields → IsAccount fields
  | .ok _ => False
  | .error .malformed => body ≠ ""
  | .error .tooDeep => False

/-! ## What is told -/

variable {body : String} {stored : Stored}

/-- A defect tells nothing. -/
theorem not_tells_defect (defect : Defect) : ¬Tells body stored (.error (.defect defect)) := by
  intro h
  by_cases hobject : ∃ fields, Json.parse Exchange.depth body = .ok (.obj fields)
  · obtain ⟨fields, hfields⟩ := hobject
    by_cases herrors : ReportsErrors fields
    · obtain ⟨reason, hreason, -⟩ := h.refused fields hfields herrors
      cases hreason
    · cases h.stored.mpr ⟨fields, hfields, herrors⟩
  · obtain ⟨message, hmessage⟩ := h.malformed fun fields hfields => hobject ⟨fields, hfields⟩
    cases hmessage

/-- That the parts are stored is not told by a body that is no object. -/
theorem not_tells_ok (hbody : ∀ fields, Json.parse Exchange.depth body ≠ .ok (.obj fields)) :
    ¬Tells body stored (.ok stored) := by
  intro h
  obtain ⟨message, hmessage⟩ := h.malformed hbody
  cases hmessage

/-- The reason is that of the first item that carries an error. -/
theorem firstError_eq_errorText {items : List Json} {reason : String} {error : Json}
    (h : firstError items = .ok reason) (herror : items.findSome? carriedError? = some error) :
    reason = errorText error := by
  -- Both go along the items and stop at the same one.
  induction items with
  | nil => cases herror
  | cons item rest ih =>
    cases item with
    | obj actions =>
      rw [List.findSome?_cons] at herror
      rw [firstError, ← itemError?] at h
      rw [carriedError?] at herror
      cases hitem : itemError? actions with
      | none =>
        rw [hitem] at h herror
        exact ih h herror
      | some first =>
        rw [hitem] at h herror
        obtain rfl := Option.some.inj herror
        exact (Except.ok.inj h).symm
    | _ => cases h

/-- The outcome is told if the parts are stored and the engine says so. -/
theorem tells_stored {fields : Json.Fields}
    (hbody : Json.parse Exchange.depth body = .ok (.obj fields)) (herrors : ¬ReportsErrors fields) :
    Tells body stored (.ok stored) where
  stored := iff_of_true rfl ⟨fields, hbody, herrors⟩
  refused := by
    intro others hothers hothers'
    rw [hbody] at hothers
    obtain rfl := Json.obj.inj (Except.ok.inj hothers)
    exact absurd hothers' herrors
  malformed := fun h => absurd hbody (h fields)

/-- The outcome is told if the parts are refused for the first error of the answer. -/
theorem tells_refusal {fields : Json.Fields} {reason : String}
    (hbody : Json.parse Exchange.depth body = .ok (.obj fields)) (herrors : ReportsErrors fields)
    (hreason : itemsOf fields >>= firstError = .ok reason) :
    Tells body stored (.error (refusal reason)) where
  stored := by
    refine iff_of_false nofun ?_
    rintro ⟨others, hothers, hnone⟩
    rw [hbody] at hothers
    obtain rfl := Json.obj.inj (Except.ok.inj hothers)
    exact hnone herrors
  refused := by
    intro others hothers _
    rw [hbody] at hothers
    obtain rfl := Json.obj.inj (Except.ok.inj hothers)
    refine ⟨reason, rfl, fun items error hitems herror => ?_⟩
    rw [itemsOf, hitems] at hreason
    exact firstError_eq_errorText hreason herror
  malformed := fun h => absurd hbody (h fields)

/-- The outcome is told if the body is no object and is called malformed. -/
theorem tells_malformed (hbody : ∀ fields, Json.parse Exchange.depth body ≠ .ok (.obj fields))
    (message : String) : Tells body stored (.error (.malformed message)) where
  stored := iff_of_false nofun fun ⟨fields, hfields, _⟩ => hbody fields hfields
  refused := fun fields hfields => absurd hfields (hbody fields)
  malformed := fun _ => ⟨message, rfl⟩

/-- What comes of the parts once the engine has answered. -/
def outcomeOf (stored : Stored) (method path : String) (reply : Reply) : Except Fault Stored :=
  (reply.outcome method path >>= acknowledge).map fun _ => stored

theorem tells_object_iff {fields : Json.Fields}
    (hbody : Json.parse Exchange.depth body = .ok (.obj fields)) :
    Tells body stored ((acknowledge (.obj fields)).map fun _ => stored) ↔
      (ReportsErrors fields → IsAccount fields) := by
  by_cases herrors : ReportsErrors fields
  · rw [acknowledge_of_reportsErrors herrors, ← isOk_account]
    cases hreason : itemsOf fields >>= firstError with
    | error defect => exact iff_of_false (not_tells_defect defect) fun h => nomatch h herrors
    | ok reason => exact iff_of_true (tells_refusal hbody herrors hreason) fun _ => rfl
  · rw [acknowledge_of_not_reportsErrors herrors]
    exact iff_of_true (tells_stored hbody herrors) fun h => absurd h herrors

/-- An answer that is no failure is passed on as it is exactly if its body tells. -/
theorem tells_outcomeOf_iff {status : ℤ} (hstatus : ¬(400 ≤ status ∧ status < 600))
    (method path : String) :
    Tells body stored (outcomeOf stored method path (.answer status body)) ↔ IsTelling body := by
  unfold outcomeOf IsTelling
  cases hbody : Json.parse Exchange.depth body with
  | ok value =>
    rw [Reply.outcome_of_parse hstatus hbody]
    cases value with
    | obj fields => exact tells_object_iff hbody
    | _ => exact iff_of_false (not_tells_ok fun fields hfields => nomatch hbody ▸ hfields) id
  | error reason =>
    have hobject (fields : Json.Fields) : Json.parse Exchange.depth body ≠ .ok (.obj fields) := by
      rw [hbody]
      nofun
    rw [Reply.outcome, if_neg hstatus, hbody]
    -- An empty body does not get as far as being parsed.
    by_cases hempty : body = ""
    · subst hempty
      cases hbody
      exact iff_of_false (not_tells_ok hobject) fun h => h rfl
    · rw [if_neg (by simpa using hempty)]
      cases reason with
      | malformed => exact iff_of_true (tells_malformed hobject _) hempty
      | tooDeep => exact iff_of_false (not_tells_defect _) id

end Bulk

namespace Engine

open Bulk

variable {index : String} {first : Part} {rest : List Part}

/-- What is stored of parts that the engine takes. -/
def taken (index : String) (first : Part) (rest : List Part) : Stored :=
  ⟨first.documentId, first.storedId index, rest.length + 1⟩

/-- Parts that can be written come to what the engine answers. -/
theorem outcome_storeParts (engine : Engine) (hw : ∀ part ∈ first :: rest, IsWritable part)
    (s : Surroundings) : ((engine.storeParts index (first :: rest)).runIn s).1 =
      outcomeOf (taken index first rest) "POST" ("/" ++ index ++ "/_bulk") s.reply := by
  rw [runIn_storeParts engine (text_eq_ok.mpr ⟨hw, rfl⟩), outcomeOf]
  cases s.reply.outcome "POST" ("/" ++ index ++ "/_bulk") >>= acknowledge <;> rfl

/-- Parts that cannot all be written are a defect. -/
theorem outcome_storeParts_of_not_writable (engine : Engine)
    (hw : ¬∀ part ∈ first :: rest, IsWritable part) (s : Surroundings) :
    ∃ defect, ((engine.storeParts index (first :: rest)).runIn s).1 = .error (.defect defect) := by
  cases htext : Bulk.text index (first :: rest) with
  | ok text => exact absurd (text_eq_ok.mp htext).1 hw
  | error defect =>
    rw [runIn_storeParts_of_defect engine htext]
    exact ⟨defect, rfl⟩

/-- **Whether parts are stored is told as the engine answers**, for whatever parts that can be
written and whatever body that tells, and for no others. -/
theorem tells_storeParts_iff (engine : Engine) (index : String) (first : Part) (rest : List Part)
    {s : Surroundings} {status : ℤ} {body : String} (hreply : s.reply = .answer status body)
    (hstatus : ¬(400 ≤ status ∧ status < 600)) :
    Bulk.Tells body (taken index first rest)
        ((engine.storeParts index (first :: rest)).runIn s).1 ↔
      (∀ part ∈ first :: rest, Bulk.IsWritable part) ∧ Bulk.IsTelling body := by
  by_cases hw : ∀ part ∈ first :: rest, IsWritable part
  · rw [outcome_storeParts engine hw, hreply, tells_outcomeOf_iff hstatus, and_iff_right hw]
  · obtain ⟨defect, hdefect⟩ := outcome_storeParts_of_not_writable engine hw s
    rw [hdefect]
    exact iff_of_false (not_tells_defect defect) fun h => hw h.1

/-- The answer about a part that is in conflict with the mapping of its index. -/
def conflict : Json :=
  .obj [("errors", .bool true), ("items", .arr [.obj [("index",
    .obj [("error", .obj [("reason", .str "mapping conflict")])])]])]

theorem tells_storeParts_conflict :
    ((Surroundings.answering [.rendered conflict]).reply = .answer 200 (conflict.render .line) ∧
      ¬(400 ≤ (200 : ℤ) ∧ (200 : ℤ) < 600)) ∧
    Bulk.Tells (conflict.render .line) (taken "notes" Walk.leaf [])
      ((plain.storeParts "notes" [Walk.leaf]).runIn (.answering [.rendered conflict])).1 := by
  have hreply : (Surroundings.answering [.rendered conflict]).reply =
      .answer 200 (conflict.render .line) := rfl
  have hstatus : ¬(400 ≤ (200 : ℤ) ∧ (200 : ℤ) < 600) := by decide
  refine ⟨⟨hreply, hstatus⟩, (tells_storeParts_iff plain "notes" Walk.leaf [] hreply hstatus).mpr
    ⟨?_, ?_⟩⟩
  · rw [List.forall_mem_singleton]
    exact rfl
  · have hparse : Json.parse Exchange.depth (conflict.render .line) = .ok conflict :=
      Json.parse_render Json.Layout.lawful_line rfl rfl
    rw [IsTelling, hparse]
    exact fun _ => leadToError_cons.mpr ⟨_, rfl, nofun⟩

/-- An answer that says nothing is not told as it is: the parts are taken to be stored. -/
theorem not_tells_silence : ¬Bulk.Tells "" (taken "notes" Walk.leaf [])
    ((plain.storeParts "notes" [Walk.leaf]).runIn (.answering [.answer 200 ""])).1 := by
  have hw : ∀ part ∈ [Walk.leaf], IsWritable part := by
    rw [List.forall_mem_singleton]
    exact rfl
  rw [outcome_storeParts plain hw]
  exact not_tells_ok fun fields => nofun

end Engine

end SearchGateway
