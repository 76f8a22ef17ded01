import SearchGateway.Proofs.Double.Integers
import SearchGateway.Proofs.Embedding.Embedder
import SearchGateway.Proofs.Engine.Failure
import SearchGateway.Proofs.Json.RoundTrip

/-!
# Answers of the embedding service

Whatever comes of an exchange with the embedding service, embedding a text is to end with a vector
or with a failure of the exchange that has a message (`Delivers`).  That is so exactly if the
request can be sent and the reply is of use: it was not lost in a way without a name, it is not
nested too deep, and the vector in it consists of numbers (`EmbeddingService.delivers_embed_iff`).
A vector of anything else escapes the reading of the answer
(`EmbeddingService.not_delivers_null`).
-/

set_option autoImplicit false

namespace SearchGateway

open SearchGateway.Action

/-! ## Outcomes -/

/-- The cause is one of those that an exchange with the embedding service can fail for. -/
def Cause.IsOfExchange : Cause → Prop
  | .unavailable => True
  | .timeout => True
  | .service _ => True
  | .malformedAnswer => True
  | _ => False

/-- There is a vector with at least one number, or a failure of the exchange with a message. -/
inductive Delivers : Except Fault Embedding → Prop
  | vector {embedding : Embedding} (hne : embedding ≠ []) : Delivers (.ok embedding)
  | failure {cause : Cause} (message : Json) (hcause : cause.IsOfExchange) :
      Delivers (.error (.announced cause message))

theorem not_delivers_defect (defect : Defect) : ¬Delivers (.error (.defect defect)) := nofun

theorem delivers_malformed (message : String) : Delivers (.error (.malformed message)) :=
  .failure _ trivial

namespace EmbeddingService

/-! ## Vectors -/

/-- The value can be read as a number. -/
def IsNumber : Json → Prop
  | .num _ => True
  | .bool _ => True
  | .int n => n.natAbs < Double.limit
  | .str s => (Numeral.decimal? s).isSome = true
  | _ => False

theorem isOk_number {value : Json} : (number value).isOk = true ↔ IsNumber value := by
  cases value with
  | int n => exact isOk_iff.trans Double.exists_ofInt_iff
  | bool b => cases b <;> exact iff_of_true rfl trivial
  | str s =>
    rw [number, IsNumber]
    cases Numeral.decimal? s <;> simp
  | _ => simp [number, IsNumber]

/-- A list at the place of the first embedding consists of numbers. -/
def IsNumeric (value : Json) : Prop :=
  ∀ items, firstEmbedding? value = some (.arr items) → ∀ item ∈ items, IsNumber item

/-- What is read of a list that has entries. -/
theorem delivers_mapM_number_iff {item : Json} {rest : List Json} :
    Delivers ((item :: rest).mapM fun v => (liftM (number v) : Except Fault Double)) ↔
      ∀ v ∈ item :: rest, IsNumber v := by
  rw [mapM_liftM]
  simp only [← isOk_number]
  rw [← isOk_mapM]
  cases hread : (item :: rest).mapM number with
  | error defect => exact iff_of_false (not_delivers_defect defect) nofun
  | ok numbers =>
    refine iff_of_true (.vector ?_) rfl
    -- One number is read of each entry, and there is a first one.
    rintro rfl
    rw [List.mapM_cons] at hread
    cases hfirst : number item <;> cases hrest : rest.mapM number <;>
      simp [hfirst, hrest, bind, Except.bind, pure, Except.pure] at hread

theorem delivers_readEmbedding_iff {value : Json} :
    Delivers (readEmbedding value) ↔ IsNumeric value := by
  rw [readEmbedding, IsNumeric]
  -- There is no embedding, or a list with entries, or something else in its place.
  split
  case h_1 hnone =>
    refine iff_of_true (delivers_malformed _) fun items hitems => ?_
    rw [hnone] at hitems
    cases hitems
  case h_2 item rest hsome =>
    rw [delivers_mapM_number_iff]
    constructor
    · intro h items hitems
      rw [hsome] at hitems
      obtain rfl := Json.arr.inj (Option.some.inj hitems)
      exact h
    · intro h
      exact h _ hsome
  case h_3 other hlist hsome =>
    refine iff_of_true (delivers_malformed _) fun items hitems => ?_
    cases items with
    | nil => nofun
    | cons item rest =>
      rw [hsome] at hitems
      exact (hlist item rest (Option.some.inj hitems)).elim

/-! ## Replies -/

/-- The reply can be classified, and if it has an embedding that can be read. -/
def IsOfUse : Reply → Prop
  | .lost loss _ => ∀ name, loss ≠ .broken name
  | .answer status body => status = 200 →
    match Json.parseBytes Exchange.depth body.toUTF8.toList with
    | .ok value => IsNumeric value
    | .error .malformed => True
    | .error .tooDeep => False

theorem delivers_statusFault (status : ℤ) (body : String) :
    Delivers (.error (statusFault status body)) := by
  refine .failure _ ?_
  split
  · trivial
  · split
    · trivial
    · trivial

theorem delivers_outcome_iff {reply : Reply} : Delivers (outcome reply) ↔ IsOfUse reply := by
  cases reply with
  | lost loss text =>
    cases loss with
    | late | unreachable => exact iff_of_true (.failure _ trivial) nofun
    | broken name => exact iff_of_false (not_delivers_defect _) fun h => h name rfl
  | answer status body =>
    rw [outcome, IsOfUse]
    by_cases hstatus : status = 200
    · rw [if_neg (not_not.mpr hstatus), forall_prop_of_true hstatus]
      cases Json.parseBytes Exchange.depth body.toUTF8.toList with
      | ok value => exact delivers_readEmbedding_iff
      | error reason =>
        cases reason with
        | malformed => exact iff_of_true (delivers_malformed _) trivial
        | tooDeep => exact iff_of_false (not_delivers_defect _) id
    · rw [if_pos hstatus, forall_prop_of_false hstatus]
      exact iff_of_true (delivers_statusFault status body) trivial

end EmbeddingService

/-! ## Embedding -/

namespace EmbeddingService

/-- A request can be sent and its answer taken: there is an open client and a URL, which says where
it leads if there is an answer at all. -/
structure IsInReach (service : EmbeddingService) (s : Surroundings) : Prop where
  available : service.identity ∉ s.closedClients
  url : ∃ url, Url.ofString? (withoutSlashes service.address ++ "/embeddings") = some url ∧
    ∀ status body, s.embeddingReply = .answer status body → url.isAbsolute = true

variable {service : EmbeddingService} {s : Surroundings}

/-- In reach of the service, embedding comes to what the reply amounts to. -/
theorem runIn_embed_of_isInReach (text : String) (h : service.IsInReach s) :
    ((service.embed text).runIn s).1 = outcome s.embeddingReply := by
  obtain ⟨url, hurl, habsolute⟩ := h.url
  have hsome : Url.ofString? (service.requestFor text).url = some url := hurl
  rw [runIn_embed, hsome]
  dsimp only
  rw [if_neg h.available]
  cases hreply : s.embeddingReply with
  | lost loss lostText => rfl
  | answer status body => exact if_pos (habsolute status body hreply)

/-- Out of reach nothing comes of embedding but a defect. -/
theorem runIn_embed_of_not_isInReach (text : String) (h : ¬service.IsInReach s) :
    ∃ defect, ((service.embed text).runIn s).1 = .error (.defect defect) := by
  rw [runIn_embed]
  cases hurl : Url.ofString? (service.requestFor text).url with
  | none => exact ⟨_, rfl⟩
  | some url =>
    dsimp only
    by_cases hclosed : service.identity ∈ s.closedClients
    · rw [if_pos hclosed]
      exact ⟨_, rfl⟩
    · -- There is a URL and an open client, so it is an answer that cannot be taken.
      rw [if_neg hclosed]
      have hanswer : ¬∀ status body, s.embeddingReply = .answer status body →
          url.isAbsolute = true := fun habsolute => h ⟨hclosed, url, hurl, habsolute⟩
      push Not at hanswer
      obtain ⟨status, body, hreply, habsolute⟩ := hanswer
      rw [hreply]
      exact ⟨_, if_neg habsolute⟩

/-- **Embedding a text yields a vector or a failure of the exchange** for every reply that is of
use, provided that the service is in reach, and for no others. -/
theorem delivers_embed_iff (service : EmbeddingService) (text : String) (s : Surroundings) :
    Delivers ((service.embed text).runIn s).1 ↔
      service.IsInReach s ∧ IsOfUse s.embeddingReply := by
  by_cases hreach : service.IsInReach s
  · rw [runIn_embed_of_isInReach text hreach, delivers_outcome_iff, and_iff_right hreach]
  · obtain ⟨defect, hdefect⟩ := runIn_embed_of_not_isInReach text hreach
    rw [hdefect]
    exact iff_of_false (not_delivers_defect defect) fun h => hreach h.1

/-- A client in its plainest form. -/
def plain : EmbeddingService where
  identity := 0
  timeout := Double.oneFifth

/-- An answer whose vector holds something that is no number. -/
def nullAnswer : Json := .arr [.obj [("embedding", .arr [.arr [.null]])]]

theorem parseBytes_nullAnswer :
    Json.parseBytes Exchange.depth (nullAnswer.render .line).toUTF8.toList = .ok nullAnswer := by
  have htext : (Json.encodingOf (nullAnswer.render .line).toUTF8.toList).decode?
      (Json.withoutMark (nullAnswer.render .line).toUTF8.toList) =
        some (nullAnswer.render .line) := by decide +kernel
  rw [Json.parseBytes, htext]
  exact Json.parse_render Json.Layout.lawful_line rfl rfl

/-- Surroundings in which the service gives that answer. -/
def withNull : Surroundings :=
  { Surroundings.answering [] with
    embeddingReplies := [.answer 200 (nullAnswer.render .line)] }

/-- Not every answer comes to a vector or a failure: a vector of something else than numbers does
not. -/
theorem not_delivers_null : ¬Delivers ((plain.embed "hello").runIn withNull).1 := by
  have hreach : plain.IsInReach withNull :=
    ⟨List.not_mem_nil, _, rfl, fun _ _ _ => rfl⟩
  rw [runIn_embed_of_isInReach "hello" hreach, delivers_outcome_iff]
  intro h
  have hnumeric := h rfl
  rw [parseBytes_nullAnswer] at hnumeric
  exact hnumeric [.null] rfl .null List.mem_cons_self

end EmbeddingService

end SearchGateway
