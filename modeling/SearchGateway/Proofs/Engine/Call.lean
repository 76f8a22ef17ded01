import SearchGateway.Proofs.Action
import SearchGateway.Proofs.Engine.Answer
import SearchGateway.Proofs.Engine.Bulk

/-!
# Calls of the engine

A `Call` is any operation of an engine client with its arguments.  What the engine replies decides
whether it comes to a result or a failure with a message (`reported_perform_iff`).
-/

set_option autoImplicit false

namespace SearchGateway

namespace Engine

/-- An operation of an engine client. -/
inductive Call : Type 1 where
  | search (indexes : List String) (query : Json) (lifetime : Option String)
  | scroll (cursor lifetime : String)
  | clearScroll (cursor : String)
  | createIndex {N : Type} [Operand N] (spec : IndexSpecOf N)
  | deleteIndex (index : String)
  | getIndex (index : String)
  | getAllIndexes
  | initPipelines (spec : VectorSpec)
  | storeParts (index : String) (parts : List Part)
  | getPart (index partId : String)
  | deleteParts (index documentId : String)

namespace Call

/-- What an operation gives. -/
def Result : Call → Type
  | search _ _ _ => Json
  | scroll _ _ => Json
  | clearScroll _ => Unit
  | createIndex _ => String
  | deleteIndex _ => Unit
  | getIndex _ => IndexInfo
  | getAllIndexes => List IndexInfo
  | initPipelines _ => Unit
  | storeParts _ _ => Stored
  | getPart _ _ => Part
  | deleteParts _ _ => Unit

/-- Carries out an operation. -/
def perform (engine : Engine) : (call : Call) → Action call.Result
  | search indexes query lifetime => engine.search indexes query lifetime
  | scroll cursor lifetime => engine.scroll cursor lifetime
  | clearScroll cursor => engine.clearScroll cursor
  | createIndex spec => engine.createIndex spec
  | deleteIndex index => engine.deleteIndex index
  | getIndex index => engine.getIndex index
  | getAllIndexes => engine.getAllIndexes
  | initPipelines spec => engine.initPipelines spec
  | storeParts index parts => engine.storeParts index parts
  | getPart index partId => engine.getPart index partId
  | deleteParts index documentId => engine.deleteParts index documentId

/-- What the operation needs to come to a result or to a failure with a message: a reply that can be
read, with the contents that the operation looks into.  Some calls are refused before anything is
asked. -/
def Bears (engine : Engine) (reply : Reply) : Call → Prop
  | getIndex _ => reply.IsLegible ∧ ∀ value, reply.Carries value → IndexInfo.AreCounted value
  | getAllIndexes => reply.IsLegible ∧
    ∀ value, reply.Carries value → IndexInfo.AreCounted value ∧ IndexInfo.AreNamed value
  | initPipelines _ => engine.modelId.isEmpty = true ∨ reply.IsLegible
  | storeParts _ parts => parts = [] ∨ (∀ part ∈ parts, Bulk.IsWritable part) ∧
    reply.IsLegible ∧ ∀ value, reply.Carries value → Bulk.AreAccounted value
  | _ => reply.IsLegible

end Call

/-! ## Requests -/

theorem reported_request (engine : Engine) (request : EngineRequest) (s : Surroundings) :
    Reported ((engine.request request).runIn s).1 ↔ s.reply.IsLegible := by
  rw [runIn_request, Reply.reported_outcome]

/-- A request whose answer is looked into. -/
theorem reported_request_bind {α : Type} (engine : Engine) (request : EngineRequest)
    (next : Json → Action α) (s : Surroundings) :
    Reported ((engine.request request >>= next).runIn s).1 ↔ s.reply.IsLegible ∧
      ∀ value, s.reply.Carries value →
        Reported ((next value).runIn (s.asked engine.connection request)).1 := by
  simp only [← Reply.reported_outcome request.method request.path,
    ← @Reply.outcome_eq_ok request.method request.path]
  rw [Action.runIn_bind, runIn_request]
  cases s.reply.outcome request.method request.path <;> simp

/-- A request whose answer is not looked into. -/
theorem reported_request_of {α : Type} (engine : Engine) (request : EngineRequest)
    (next : Json → Action α) (s : Surroundings)
    (hnext : ∀ value t, Reported ((next value).runIn t).1) :
    Reported ((engine.request request >>= next).runIn s).1 ↔ s.reply.IsLegible := by
  rw [reported_request_bind]
  exact and_iff_left fun value _ => hnext value _

/-! ## Calls -/

theorem reported_deleteIndex (engine : Engine) (index : String) (s : Surroundings) :
    Reported ((engine.deleteIndex index).runIn s).1 ↔ s.reply.IsLegible :=
  reported_request_of engine _ _ s fun _ _ => reported_ok _

theorem reported_getIndex (engine : Engine) (index : String) (s : Surroundings) :
    Reported ((engine.getIndex index).runIn s).1 ↔ s.reply.IsLegible ∧
      ∀ value, s.reply.Carries value → IndexInfo.AreCounted value := by
  rw [getIndex, reported_request_bind]
  refine and_congr_right fun _ => forall₂_congr fun value _ => ?_
  rw [← IndexInfo.reported_readAll, Action.runIn_bind, Action.runIn_ofExcept]
  cases IndexInfo.readAll value with
  | error fault => simp
  | ok infos => cases infos <;> simp

theorem reported_getAllIndexes (engine : Engine) (s : Surroundings) :
    Reported (engine.getAllIndexes.runIn s).1 ↔ s.reply.IsLegible ∧
      ∀ value, s.reply.Carries value → IndexInfo.AreCounted value ∧ IndexInfo.AreNamed value := by
  rw [getAllIndexes, reported_request_bind]
  refine and_congr_right fun _ => forall₂_congr fun value _ => ?_
  rw [← IndexInfo.reported_readAll, Action.runIn_bind, Action.runIn_ofExcept]
  cases hinfos : IndexInfo.readAll value with
  | error fault =>
    refine ⟨fun h => ⟨h, ?_⟩, And.left⟩
    -- A list that cannot be read is not reported, and what is no list has no names.
    rintro items rfl
    have hread : Reported (IndexInfo.readAll (.arr items)) := hinfos ▸ h
    rw [IndexInfo.readAll_arr, reported_mapError, isOk_iff] at hread
    obtain ⟨infos, hread⟩ := hread
    rw [IndexInfo.readAll_arr, hread] at hinfos
    cases hinfos
  | ok infos =>
    dsimp only
    rw [Action.runIn_ofDefect, reported_mapError, IndexInfo.isOk_visible]
    refine ⟨fun h => ⟨reported_ok _, ?_⟩, fun h info hinfo => ?_⟩
    · rintro items rfl fields hfields name hname
      obtain ⟨info, hinfo, rfl⟩ := (IndexInfo.exists_name_of_readAll hinfos name).mpr
        ⟨items, fields, rfl, hfields, hname⟩
      exact h info hinfo
    · obtain ⟨items, fields, rfl, hfields, hname⟩ :=
        (IndexInfo.exists_name_of_readAll hinfos info.name).mp ⟨info, hinfo, rfl⟩
      exact h.2 items rfl fields hfields info.name hname

theorem reported_initPipelines (engine : Engine) (spec : VectorSpec) (s : Surroundings) :
    Reported ((engine.initPipelines spec).runIn s).1 ↔
      engine.modelId.isEmpty = true ∨ s.reply.IsLegible := by
  rw [initPipelines]
  by_cases hmodel : engine.modelId.isEmpty = true
  · exact iff_of_true (by simp [hmodel, Fault.invalid]) (.inl hmodel)
  · rw [if_neg hmodel, or_iff_right hmodel]
    exact reported_request_of engine _ _ s fun _ _ => reported_ok _

theorem reported_storeParts (engine : Engine) (index : String) (parts : List Part)
    (s : Surroundings) : Reported ((engine.storeParts index parts).runIn s).1 ↔ parts = [] ∨
      (∀ part ∈ parts, Bulk.IsWritable part) ∧ s.reply.IsLegible ∧
        ∀ value, s.reply.Carries value → Bulk.AreAccounted value := by
  cases parts with
  | nil => exact iff_of_true (reported_error.mpr rfl) (.inl rfl)
  | cons first rest =>
    rw [or_iff_right (List.cons_ne_nil first rest)]
    cases htext : Bulk.text index (first :: rest) with
    | error defect =>
      refine iff_of_false ?_ fun h => ?_
      · rw [runIn_storeParts_of_defect engine htext]
        simp
      · rw [Bulk.text_eq_ok.mpr ⟨h.1, rfl⟩] at htext
        cases htext
    | ok text =>
      have hwritable := (Bulk.text_eq_ok.mp htext).1
      rw [and_iff_right hwritable, runIn_storeParts engine htext,
        ← Reply.reported_outcome "POST" ("/" ++ index ++ "/_bulk")]
      simp only [← @Reply.outcome_eq_ok "POST" ("/" ++ index ++ "/_bulk"),
        ← Bulk.reported_acknowledge]
      rw [← reported_bind]
      cases s.reply.outcome "POST" ("/" ++ index ++ "/_bulk") >>= Bulk.acknowledge <;> simp

theorem reported_getPart (engine : Engine) (index partId : String) (s : Surroundings) :
    Reported ((engine.getPart index partId).runIn s).1 ↔ s.reply.IsLegible := by
  refine reported_request_of engine _ _ s fun value t => ?_
  cases Hit.read? value <;> simp [Fault.malformed]

/-- **When a call is reported.**  Whatever is asked of the engine and whatever it replies, the call
comes to a result or to a failure with a message exactly if the reply bears it. -/
theorem reported_perform_iff (engine : Engine) (call : Call) (s : Surroundings) :
    Reported ((call.perform engine).runIn s).1 ↔ call.Bears engine s.reply := by
  cases call with
  | search indexes query lifetime => exact reported_request engine _ s
  | scroll cursor lifetime => exact reported_request engine _ s
  | clearScroll cursor => exact reported_request_of engine _ _ s fun _ _ => reported_ok _
  | createIndex spec => exact reported_request_of engine _ _ s fun _ _ => reported_ok _
  | deleteIndex index => exact reported_deleteIndex engine index s
  | getIndex index => exact reported_getIndex engine index s
  | getAllIndexes => exact reported_getAllIndexes engine s
  | initPipelines spec => exact reported_initPipelines engine spec s
  | storeParts index parts => exact reported_storeParts engine index parts s
  | getPart index partId => exact reported_getPart engine index partId s
  | deleteParts index documentId =>
    exact reported_request_of engine _ _ s fun _ _ => reported_ok _

/-- The body of a refusal whose type is a list. -/
def refusal : Json :=
  .obj [("error", .obj [("type", .strings ["unknown"]), ("reason", .str "refused")])]

/-- Not every call is reported. -/
theorem not_reported_refusal : ¬Reported (((Call.deleteIndex "notes").perform plain).runIn
    (.answering [.answer 500 (refusal.render .line)])).1 := by
  intro h
  have hparse : Json.parse Exchange.depth (refusal.render .line) = .ok refusal :=
    Json.parse_render Json.Layout.lawful_line rfl rfl
  have hlegible : (Reply.answer 500 (refusal.render .line)).IsLegible :=
    (reported_deleteIndex plain "notes" _).mp h
  rw [Reply.IsLegible, if_pos (by decide)] at hlegible
  exact (hlegible.error _ _ hparse rfl).type.1 _ rfl

end Engine

end SearchGateway
