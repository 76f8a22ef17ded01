import SearchGateway.Proofs.Consultation
import SearchGateway.Proofs.Search.Inquiry

/-!
# Whom a search consults

A search that cannot be carried out as it stands is refused before the embedder or the engine is
asked anything.  Any other search asks the embedder once if it needs a vector that is not given, and
not at all otherwise; then it asks the engine once, unless the embedder failed
(`Searcher.consults`).
-/

set_option autoImplicit false

namespace SearchGateway

open SearchGateway.Action

/-! ## Other labels -/

/-- The embedder with another label for stored passages. -/
def Embedder.relabelled (label : String) : Embedder → Embedder
  | service s => service s
  | model m => model { m with passageLabel := label }

theorem Embedder.embed_relabelled (label : String) (embedder : Embedder) (text : String) :
    (embedder.relabelled label).embed text = embedder.embed text := by
  cases embedder <;> rfl

/-! ## Requests that can be carried out -/

namespace Searcher

variable {request : Request} {kind : Kind}

/-- If the check fails, the request is refused as one that cannot be carried out as it stands. -/
def Refuses (check : Except Fault Unit) : Prop :=
  ∀ fault, check = .error fault → ∃ message, fault = .invalid message

theorem refuses_ite {p : Prop} [Decidable p] (message : String) :
    Refuses (if p then throw (.invalid message) else pure ()) := by
  intro fault h
  split at h
  · exact ⟨message, (Except.error.inj h).symm⟩
  · cases h

theorem Refuses.bind {first : Except Fault Unit} {next : Unit → Except Fault Unit}
    (hfirst : Refuses first) (hnext : ∀ a, Refuses (next a)) : Refuses (first >>= next) := by
  intro fault h
  cases first with
  | error other => exact hfirst fault h
  | ok a => exact hnext a fault h

theorem refuses_checkNeighbours (text : String) (near : Neighbours) :
    Refuses (checkNeighbours text near) := by
  rw [checkNeighbours_eq]
  exact (refuses_ite _).bind fun _ => refuses_ite _

theorem refuses_check (hkind : request.kind = some kind) : Refuses (check request) := by
  rw [check_eq hkind]
  refine (refuses_ite _).bind fun _ => (refuses_ite _).bind fun _ => ?_
  refine (refuses_ite _).bind fun _ => ?_
  unfold checkKind
  split
  · exact fun _ h => nomatch h
  · exact refuses_checkNeighbours _ _

/-- The search looks for the neighbours of a vector that is not given, or that has no numbers. -/
def NeedsEmbedding (kind : Kind) : Prop :=
  ∃ near, kind.near? = some near ∧ near.vector.getD [] = []

theorem resolve_of_not_needsEmbedding (searcher : Searcher) (h : ¬NeedsEmbedding kind) :
    ∃ found, searcher.resolve kind = pure found := by
  rw [resolve_eq]
  cases hkind : kind.near? with
  | none => exact ⟨kind, rfl⟩
  | some near =>
    dsimp only
    rw [complete_eq, if_neg fun hempty => h ⟨near, hkind, hempty⟩]
    exact ⟨_, rfl⟩

/-- All that a search does for its vector is to have its text embedded. -/
theorem resolve_of_needsEmbedding (searcher : Searcher) (h : NeedsEmbedding kind) :
    ∃ found : Embedding → Kind, searcher.resolve kind =
      match searcher.embedder with
      | none => throw (.invalid "embedder is not configured, precomputed vector required")
      | some embedder => embedder.embed (text kind) >>= fun vector => pure (found vector) := by
  obtain ⟨near, hkind, hempty⟩ := h
  refine ⟨fun vector => withNear ⟨some vector, near.amount, near.breadth.or searcher.breadth⟩ kind,
    ?_⟩
  rw [resolve_eq, hkind]
  dsimp only
  rw [complete_eq, if_pos hempty]
  cases searcher.embedder with
  | none => rfl
  | some embedder =>
    dsimp only
    rw [bind_assoc]
    rfl

/-! ## Searches -/

/-- How a search is entered: by any request, or by requests of one kind only. -/
def enter (searcher : Searcher) (entry : Option KindName) (request : Request) : Action Page :=
  match entry with
  | none => searcher.search request
  | some expected => searcher.searchAs expected request

/-- The request can be carried out as it stands, by this entry. -/
structure Permits (searcher : Searcher) (entry : Option KindName) (request : Request)
    (kind : Kind) : Prop extends IsChecked request kind where
  entry : ∀ expected, entry = some expected → kind.kindName = expected
  /-- There is something to look for: a text or a vector. -/
  target : ∀ near, kind.near? = some near → text kind ≠ "" ∨ near.vector.getD [] ≠ []
  embedder : NeedsEmbedding kind → searcher.embedder ≠ none

/-- The rest of a search once it has its vector. -/
def fetch (searcher : Searcher) (request : Request) (found : Kind) : Action Page := do
  let query := Query.compose found request.presentation request.filters
  let value ← searcher.engine.search request.indexes query.toJson
    (searcher.sessionFor found request.presentation)
  let page ← Action.page value
  let indexes := ",".intercalate request.indexes
  Action.log .info
    s!"Search {found.kindName.title}: returned {page.hits.length} docs from {indexes}"
  return page

theorem search_eq (searcher : Searcher) (hkind : request.kind = some kind) :
    searcher.search request = (liftM (check request) : Action Unit) >>= fun _ =>
      searcher.resolve kind >>= searcher.fetch request := by
  unfold search
  rw [hkind]
  rfl

theorem consulted_fetch (searcher : Searcher) (request : Request) (found : Kind)
    (s : Surroundings) : ∃ query scroll, ((searcher.fetch request found).runIn s).2.consulted =
      .engine (Engine.searchRequest request.indexes query scroll) :: s.consulted := by
  refine ⟨_, _, Engine.consulted_request_bind (fun value => ?_) searcher.engine _ s⟩
  exact (keeps_consulted_page value).bind fun page =>
    (keeps_consulted_log _ _).bind fun _ => keeps_pure _

theorem searchAs_eq (searcher : Searcher) (hkind : request.kind = some kind)
    (expected : KindName) : searcher.searchAs expected request =
      if kind.kindName = expected then searcher.search request
      else throw (.invalid s!"expected {expected.title} search, got {kind.kindName.title}") := by
  unfold searchAs
  rw [hkind]
  dsimp only [Option.map_some, Option.getD_some]
  by_cases h : kind.kindName = expected
  · rw [if_pos h, if_neg (by simp [h])]
  · rw [if_neg h, if_pos (by simp [h])]
    rfl

section

variable {searcher : Searcher} {entry : Option KindName} (s : Surroundings)

theorem enter_eq_search (hkind : request.kind = some kind)
    (hentry : ∀ expected, entry = some expected → kind.kindName = expected) :
    searcher.enter entry request = searcher.search request := by
  cases entry with
  | none => rfl
  | some expected => rw [enter, searchAs_eq searcher hkind, if_pos (hentry expected rfl)]

theorem runIn_search_of_check (hkind : request.kind = some kind) (hcheck : check request = .ok ()) :
    (searcher.search request).runIn s =
      (searcher.resolve kind >>= searcher.fetch request).runIn s := by
  rw [search_eq searcher hkind, runIn_bind, runIn_ofExcept, hcheck]

/-- A request that is not permitted is refused, and nothing else happens. -/
theorem runIn_enter_of_not_permits (hkind : request.kind = some kind)
    (h : ¬searcher.Permits entry request kind) :
    ∃ message, (searcher.enter entry request).runIn s = (.error (.invalid message), s) := by
  by_cases hentry : ∀ expected, entry = some expected → kind.kindName = expected
  · rw [enter_eq_search hkind hentry]
    cases hcheck : check request with
    | error fault =>
      obtain ⟨message, rfl⟩ := refuses_check hkind fault hcheck
      exact ⟨message, by rw [search_eq searcher hkind, runIn_bind, runIn_ofExcept, hcheck]⟩
    | ok passed =>
      obtain ⟨hchecked, htarget⟩ := (check_eq_ok hkind).mp hcheck
      -- Only the embedder can be missing.
      obtain ⟨hneeds, hnone⟩ : NeedsEmbedding kind ∧ searcher.embedder = none := by
        by_contra hembedder
        exact h ⟨hchecked, hentry, htarget, fun hneeds hnone => hembedder ⟨hneeds, hnone⟩⟩
      obtain ⟨found, hresolve⟩ := resolve_of_needsEmbedding searcher hneeds
      rw [runIn_search_of_check s hkind hcheck, hresolve, hnone]
      exact ⟨_, rfl⟩
  · simp only [not_forall, exists_prop] at hentry
    obtain ⟨expected, rfl, hne⟩ := hentry
    rw [enter, searchAs_eq searcher hkind, if_neg hne]
    exact ⟨_, rfl⟩

/-- Whom a search that is permitted consults, in which order and with what. -/
structure Consults (searcher : Searcher) (entry : Option KindName) (request : Request)
    (kind : Kind) (s : Surroundings) : Prop where
  /-- The text of a search that needs a vector is embedded, once.  If that fails, so does the
  search, and the engine is asked nothing; otherwise the engine is asked once after it. -/
  embedding : NeedsEmbedding kind → text kind ≠ "" ∧ ∃ embedder outcome u,
    searcher.embedder = some embedder ∧ (embedder.embed (text kind)).runIn s = (outcome, u) ∧
    u.consulted = .embedding (embedder.queryText (text kind)) :: s.consulted ∧
    (∀ fault, outcome = .error fault →
      (searcher.enter entry request).runIn s = (.error fault, u)) ∧
    ∀ vector, outcome = .ok vector → ∃ query scroll,
      ((searcher.enter entry request).runIn s).2.consulted =
        .engine (Engine.searchRequest request.indexes query scroll) :: u.consulted
  /-- Any other search asks the engine once, and nobody else. -/
  plain : ¬NeedsEmbedding kind → ∃ query scroll,
    ((searcher.enter entry request).runIn s).2.consulted =
      .engine (Engine.searchRequest request.indexes query scroll) :: s.consulted

theorem consults_of_permits (hkind : request.kind = some kind)
    (h : searcher.Permits entry request kind) : searcher.Consults entry request kind s := by
  have hrun : (searcher.enter entry request).runIn s =
      (searcher.resolve kind >>= searcher.fetch request).runIn s := by
    rw [enter_eq_search hkind h.entry, runIn_search_of_check s hkind]
    exact (check_eq_ok hkind).mpr ⟨h.toIsChecked, h.target⟩
  constructor
  · -- The run is that of the embedder, and what follows depends on its outcome alone.
    intro hneeds
    obtain ⟨embedder, hsome⟩ := Option.ne_none_iff_exists'.mp (h.embedder hneeds)
    obtain ⟨found, hresolve⟩ := resolve_of_needsEmbedding searcher hneeds
    have hconsulted := embedder.consulted_embed (text kind) s
    rw [hresolve, hsome, bind_assoc, runIn_bind] at hrun
    rcases hembed : (embedder.embed (text kind)).runIn s with ⟨outcome, u⟩
    rw [hembed] at hrun hconsulted
    refine ⟨?_, embedder, outcome, u, hsome, hembed, hconsulted, ?_, ?_⟩
    · obtain ⟨near, hnear, hempty⟩ := hneeds
      exact (h.target near hnear).resolve_right (not_not.mpr hempty)
    · rintro fault rfl
      exact hrun
    · rintro vector rfl
      rw [hrun]
      exact consulted_fetch searcher request (found vector) u
  · intro hneeds
    obtain ⟨found, hresolve⟩ := resolve_of_not_needsEmbedding searcher hneeds
    rw [hrun, hresolve, pure_bind]
    exact consulted_fetch searcher request found s

end

/-- The searcher with another label for stored passages. -/
def relabelled (label : String) (searcher : Searcher) : Searcher :=
  { searcher with embedder := searcher.embedder.map (Embedder.relabelled label) }

theorem resolve_relabelled (label : String) (searcher : Searcher) (kind : Kind) :
    (searcher.relabelled label).resolve kind = searcher.resolve kind := by
  have hcomplete (text : String) (near : Neighbours) :
      (searcher.relabelled label).complete text near = searcher.complete text near := by
    rw [complete_eq, complete_eq, relabelled]
    cases searcher.embedder with
    | none => rfl
    | some embedder => simp only [Option.map_some, Embedder.embed_relabelled]
  simp only [resolve_eq, hcomplete]

theorem enter_relabelled (label : String) (searcher : Searcher) (entry : Option KindName)
    (hkind : request.kind = some kind) :
    (searcher.relabelled label).enter entry request = searcher.enter entry request := by
  have hsearch : (searcher.relabelled label).search request = searcher.search request := by
    rw [search_eq _ hkind, search_eq _ hkind, resolve_relabelled]
    rfl
  cases entry with
  | none => exact hsearch
  | some expected => rw [enter, enter, searchAs_eq _ hkind, searchAs_eq _ hkind, hsearch]

/-- **A search consults its collaborators only when it must, and in the right order.**  A request
that is not permitted is refused, and nothing else happens.  One that is permitted has its text
embedded if it needs a vector, and then the engine is asked once.  An entry for one kind of search
is any search for requests of that kind.  Passages have no part in this: the label for them makes no
difference. -/
theorem consults (searcher : Searcher) (entry : Option KindName)
    (hkind : request.kind = some kind) (s : Surroundings) :
    (¬searcher.Permits entry request kind →
      ∃ message, (searcher.enter entry request).runIn s = (.error (.invalid message), s)) ∧
    (searcher.Permits entry request kind → searcher.Consults entry request kind s) ∧
    searcher.enter (some kind.kindName) request = searcher.search request ∧
    ∀ label, (searcher.relabelled label).enter entry request = searcher.enter entry request := by
  refine ⟨runIn_enter_of_not_permits s hkind, consults_of_permits s hkind, ?_,
    fun label => enter_relabelled label searcher entry hkind⟩
  exact enter_eq_search hkind fun expected h => Option.some.inj h

/-- The text of a search in the embeddings is embedded with its label, and then the engine is
asked. -/
theorem consults_meaning : ∃ query scroll,
    ((Inquiry.meaning.searcher.enter (some .semantic) Inquiry.meaning.request).runIn
        Inquiry.numbering).2.consulted =
      [.engine (Engine.searchRequest ["notes"] query scroll), .embedding "query: how"] := by
  have hneeds : NeedsEmbedding (.semantic (some "how") {}) := ⟨_, rfl, rfl⟩
  have hpermits : Inquiry.meaning.searcher.Permits (some .semantic) Inquiry.meaning.request
      (.semantic (some "how") {}) :=
    { kind_eq := rfl
      indexes := by decide
      named := by decide
      size := by decide
      offset := by decide
      amount := by rintro _ ⟨⟩; decide
      entry := by rintro _ ⟨⟩; rfl
      target := fun _ _ => .inl (by decide)
      embedder := fun _ => Option.some_ne_none _ }
  obtain ⟨-, hconsults, -⟩ :=
    consults Inquiry.meaning.searcher (some .semantic) hpermits.kind_eq Inquiry.numbering
  obtain ⟨-, embedder, outcome, u, hembedder, hembed, hu, -, hok⟩ :=
    (hconsults hpermits).embedding hneeds
  obtain rfl := Option.some.inj hembedder
  obtain ⟨vector, hvector⟩ : ∃ vector, outcome = .ok vector := ⟨_, (Prod.mk.inj hembed).1.symm⟩
  obtain ⟨query, scroll, hasked⟩ := hok vector hvector
  exact ⟨query, scroll, hasked.trans (congrArg _ hu)⟩

end Searcher

end SearchGateway
