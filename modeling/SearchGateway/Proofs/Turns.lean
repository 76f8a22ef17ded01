import SearchGateway.Proofs.Session
import SearchGateway.Proofs.Walk
import SearchGateway.Storage

/-!
# The turns of a session

The parts of a document are read through a session.  A *turn* is what becomes of the search that
opens it or of a scroll; whether the session can be closed afterwards is another matter.  The turns
say when they are over (`Turns.Over`), so two readings whose turns never disagree have the same
turns.  What a reading comes to depends on its turns and on the failure to close the session, if
there is one, and on nothing else (`Storage.getDocumentParts_reading`).
-/

set_option autoImplicit false

namespace SearchGateway

open SearchGateway.Action

/-! ## What was asked for and what was closed -/

/-- Whether a request closes a session. -/
def EngineRequest.closesSession (request : EngineRequest) : Bool :=
  request.method == "DELETE" && request.path == "/_search/scroll"

/-- What went wrong, if something did. -/
def Fault.of? {α : Type} : Except Fault α → Option Fault
  | .error fault => some fault
  | .ok _ => none

namespace Surroundings

variable (s t : Surroundings)

/-- The requests from `s` to `t` and what became of each, the first one first. -/
def exchanges : List (EngineRequest × Except Fault Json) :=
  (t.requests.take (t.requests.length - s.requests.length)).reverse.mapIdx fun i request =>
    (request, (s.answer i).outcome request.method request.path)

/-- What became of the requests that open a session or go on with it. -/
def turns : List (Except Fault Json) :=
  ((s.exchanges t).filter fun exchange => !exchange.1.closesSession).map Prod.snd

/-- What became of the requests that close a session. -/
def closes : List (Except Fault Json) :=
  ((s.exchanges t).filter fun exchange => exchange.1.closesSession).map Prod.snd

/-- The failure to close a session, if there is one. -/
def closeFault? : Option Fault := (s.closes t).findSome? Fault.of?

variable {s t}

theorem exchanges_of_asks {asked : List EngineRequest} (h : s.Asks asked t) :
    s.exchanges t = asked.mapIdx fun i request =>
      (request, (s.answer i).outcome request.method request.path) := by
  have hnew : t.requests.take (t.requests.length - s.requests.length) = asked.reverse := by
    rw [h.requests, List.length_append, Nat.add_sub_cancel]
    exact List.take_left
  rw [exchanges, hnew, List.reverse_reverse]

/-- Every reply that was taken belongs to a turn or to the closing of a session. -/
theorem Asks.drop_replies {asked : List EngineRequest} (h : s.Asks asked t) :
    t.engineReplies = s.engineReplies.drop ((s.turns t).length + (s.closes t).length) := by
  have hlength : (s.turns t).length + (s.closes t).length = asked.length := by
    unfold turns closes
    rw [List.length_map, List.length_map, exchanges_of_asks h, Nat.add_comm,
      ← List.length_eq_length_filter_add, List.length_mapIdx]
  rw [hlength, h.replies]

/-- A session whose requests come before those that close it. -/
theorem turns_of_asks {asked closings : List EngineRequest} (h : s.Asks (asked ++ closings) t)
    (hasked : ∀ request ∈ asked, request.closesSession = false)
    (hclosings : ∀ request ∈ closings, request.closesSession = true) :
    s.turns t = (asked.mapIdx fun i request =>
      (s.answer i).outcome request.method request.path) ∧
    s.closes t = closings.mapIdx fun i request =>
      (s.answer (i + asked.length)).outcome request.method request.path := by
  have hleft : ∀ exchange ∈ asked.mapIdx fun i request =>
      (request, (s.answer i).outcome request.method request.path),
      exchange.1.closesSession = false := by
    intro exchange hmem
    obtain ⟨i, hi, rfl⟩ := List.mem_mapIdx.mp hmem
    exact hasked _ (List.getElem_mem hi)
  have hright : ∀ exchange ∈ closings.mapIdx fun i request =>
      (request, (s.answer (i + asked.length)).outcome request.method request.path),
      exchange.1.closesSession = true := by
    intro exchange hmem
    obtain ⟨i, hi, rfl⟩ := List.mem_mapIdx.mp hmem
    exact hclosings _ (List.getElem_mem hi)
  unfold turns closes
  rw [exchanges_of_asks h, List.mapIdx_append, List.filter_append, List.filter_append]
  constructor
  · rw [List.filter_eq_self.mpr (by simpa using hleft),
      List.filter_eq_nil_iff.mpr (by simpa using hright), List.append_nil]
    apply List.ext_getElem?
    intro i
    simp only [List.getElem?_map, List.getElem?_mapIdx, Option.map_map]
    rfl
  · rw [List.filter_eq_nil_iff.mpr (by simpa using hleft), List.filter_eq_self.mpr hright,
      List.nil_append]
    apply List.ext_getElem?
    intro i
    simp only [List.getElem?_map, List.getElem?_mapIdx, Option.map_map]
    rfl

end Surroundings

/-! ## Turns that are over -/

namespace Turns

/-- Two lists that never disagree: where both have an entry, it is the same. -/
def Agree {α : Type} (as bs : List α) : Prop :=
  ∀ (i : ℕ) (a b : α), as[i]? = some a → bs[i]? = some b → a = b

/-- The turns of a session that is over: every turn but the last gives a page to go on from. -/
inductive Over : List (Except Fault Json) → Prop
  | last {turn : Except Fault Json}
      (hlast : ∀ page, Page.read turn = .ok page → page.isLast = true) : Over [turn]
  | more {turn : Except Fault Json} {page : Page} {rest : List (Except Fault Json)}
      (hread : Page.read turn = .ok page) (hlast : page.isLast = false) (hrest : Over rest) :
      Over (turn :: rest)

theorem Agree.refl {α : Type} (as : List α) : Agree as as := by
  intro i a b ha hb
  exact Option.some.inj (ha.symm.trans hb)

theorem Agree.tail {α : Type} {a b : α} {as bs : List α} (h : Agree (a :: as) (b :: bs)) :
    Agree as bs := fun i => h (i + 1)

theorem Agree.of_initial {α : Type} {as bs cs : List α} (h : Agree as cs) (hbs : bs <+: cs) :
    Agree as bs := by
  obtain ⟨more, rfl⟩ := hbs
  intro i a b ha hb
  refine h i a b ha ?_
  rw [List.getElem?_append_left (List.getElem?_eq_some_iff.mp hb).1]
  exact hb

/-- **Sessions end alike.**  Turns that are over tell where they end, so nothing is missing from one
of two such lists that never disagree. -/
theorem Over.eq_of_agree {as bs : List (Except Fault Json)} (has : Over as) (hbs : Over bs)
    (h : Agree as bs) : as = bs := by
  -- The first turn is the same in both, so both are over with it or neither is.
  induction has generalizing bs with
  | last hlast =>
    cases hbs with
    | last => rw [h 0 _ _ rfl rfl]
    | more hread hmore =>
      obtain rfl := h 0 _ _ rfl rfl
      exact absurd (hlast _ hread) (by simp [hmore])
  | more hread hmore _ ih =>
    cases hbs with
    | last hlast =>
      obtain rfl := h 0 _ _ rfl rfl
      exact absurd (hlast _ hread) (by simp [hmore])
    | more _ _ hrest =>
      obtain rfl := h 0 _ _ rfl rfl
      rw [ih hrest h.tail]

/-- The page that a turn gives.  A cursor that is an empty text is refused. -/
def page (turn : Except Fault Json) : Except Fault Page := do
  let page ← Page.read turn
  if page.cursor = some "" then throw (.invalid "cursor must not be empty")
  return page

theorem page_of_read {turn : Except Fault Json} {found : Page} (h : Page.read turn = .ok found) :
    page turn = if found.cursor = some "" then .error (.invalid "cursor must not be empty")
      else .ok found := by
  unfold page
  rw [h]
  show (if found.cursor = some "" then _ else _) = _
  split <;> rfl

theorem page_of_not_isLast {turn : Except Fault Json} {found : Page}
    (h : Page.read turn = .ok found) (hlast : found.isLast = false) : page turn = .ok found := by
  obtain ⟨cursor, hcursor, hne, -⟩ := Page.exists_cursor hlast
  rw [page_of_read h, hcursor, if_neg (by simpa using hne)]

/-- The parts that turns show, in the order of their numbers, unless one of the turns fails. -/
def parts (turns : List (Except Fault Json)) : Except Fault (List Part) :=
  (turns.mapM page).map fun pages =>
    (pages.flatMap fun page => page.hits.map Hit.part).mergeSort
      fun a b => decide (a.number ≤ b.number)

/-- The cursor of the last page that turns give. -/
def cursor? (turns : List (Except Fault Json)) : Option String :=
  (turns.filterMap fun turn => (Page.read turn).toOption).getLast?.bind Page.cursor

end Turns

/-! ## The turns of a walk -/

/-- What becomes of a scroll, given the reply to it. -/
def Reply.turn (reply : Reply) : Except Fault Json := reply.outcome "POST" "/_search/scroll"

namespace Walk.Course

variable {limit : ℕ} {page : Page} {replies : List Reply} {later : List Page}
  {failure : Option Fault} {turn : Except Fault Json}

theorem filterMap_read (h : Course limit page replies later failure)
    (hturn : Page.read turn = .ok page) :
    (turn :: replies.map Reply.turn).filterMap (fun turn => (Page.read turn).toOption) =
      page :: later := by
  induction h generalizing turn with
  | enough => simp [hturn, Except.toOption]
  | last => simp [hturn, Except.toOption]
  | fails _ hreply =>
    have hread : Page.read (Reply.turn _) = _ := hreply
    simp [hturn, hread, Except.toOption]
  | more _ hreply _ ih =>
    rw [List.filterMap_cons_some (by rw [hturn]; rfl), List.map_cons]
    exact congrArg _ (ih hreply)

theorem isOver (h : Course limit page replies later failure) (hmore : later.length < limit)
    (hturn : Page.read turn = .ok page) : Turns.Over (turn :: replies.map Reply.turn) := by
  induction h generalizing turn with
  | enough => exact absurd hmore (Nat.not_lt_zero _)
  | last hlast =>
    refine .last ?_
    intro found hfound
    rw [← Except.ok.inj (hturn.symm.trans hfound)]
    exact hlast
  | fails hlast hreply =>
    -- The turn that fails gives no page at all.
    refine .more hturn hlast (.last ?_)
    intro found hfound
    have hread : Page.read (Reply.turn _) = _ := hreply
    rw [hread] at hfound
    cases hfound
  | more hlast hreply _ ih =>
    exact .more hturn hlast (ih (Nat.lt_of_succ_lt_succ hmore) hreply)

theorem mapM_page (h : Course limit page replies later failure)
    (hturn : Page.read turn = .ok page) :
    (turn :: replies.map Reply.turn).mapM Turns.page =
      if (later.getLastD page).cursor = some "" then .error (.invalid "cursor must not be empty")
      else failure.elim (.ok (page :: later)) .error := by
  induction h generalizing turn with
  | enough =>
    rw [List.map_nil, List.mapM_cons, Turns.page_of_read hturn]
    split <;> simp_all
  | last =>
    rw [List.map_nil, List.mapM_cons, Turns.page_of_read hturn]
    split <;> simp_all
  | @fails _ page reply fault hlast hreply =>
    have hread : Page.read reply.turn = .error fault := hreply
    obtain ⟨cursor, hcursor, hne, -⟩ := Page.exists_cursor hlast
    have hpage : Turns.page reply.turn = .error fault := by rw [Turns.page, hread]; rfl
    rw [List.getLastD_nil, hcursor, if_neg (by simpa using hne), List.map_cons, List.mapM_cons,
      Turns.page_of_not_isLast hturn hlast, List.mapM_cons, hpage]
    rfl
  | @more _ page found reply replies later failure hlast hreply _ ih =>
    have hread : Page.read reply.turn = .ok found := hreply
    rw [List.map_cons, List.mapM_cons, Turns.page_of_not_isLast hturn hlast, List.getLastD_cons,
      ih hread]
    split
    · rfl
    · cases failure <;> rfl

/-- Closing the session decides over what its turns give. -/
theorem closed_bind (h : Course limit page replies later failure)
    (hturn : Page.read turn = .ok page) (reply : Reply) :
    (((later.getLastD page).closed reply).bind fun _ => failure.elim (.ok (page :: later)) .error) =
      ((((later.getLastD page).cursor.filter (· ≠ "")).toList.map fun _ =>
        reply.outcome "DELETE" "/_search/scroll").findSome? Fault.of?).elim
        ((turn :: replies.map Reply.turn).mapM Turns.page) .error := by
  rw [h.mapM_page hturn, Page.closed]
  cases (later.getLastD page).cursor with
  | none => rfl
  | some cursor =>
    by_cases hempty : cursor = ""
    · subst hempty
      rfl
    · have hname : cursor.isEmpty = false := by simpa using hempty
      have hkept : (some cursor).filter (· ≠ "") = some cursor := by simp [Option.filter, hempty]
      dsimp only
      rw [hname, hkept, if_neg (by simp), if_neg (by simpa using hempty), Reply.closing]
      dsimp only [Option.toList, List.map, List.findSome?]
      cases reply.outcome "DELETE" "/_search/scroll" <;> rfl

end Walk.Course

/-! ## Reading the parts of a document -/

/-- The turns of a session are the replies to the search that opens it and to its scrolls. -/
theorem Surroundings.turns_of_session {s t u : Surroundings} {request : EngineRequest}
    {pages : List Page} {lifetime : String} {last : Page} (hpost : request.method = "POST")
    (hsearch : s.Asks [request] u)
    (hmore : u.Asks (pages.map (Page.scroll lifetime) ++ last.closings) t) :
    s.turns t = (s.answer 0).outcome "POST" request.path ::
      (u.answers pages.length).map Reply.turn ∧
    s.closes t = (last.cursor.filter (· ≠ "")).toList.map fun _ =>
      (s.answer (pages.length + 1)).outcome "DELETE" "/_search/scroll" := by
  have hall : s.Asks ((request :: pages.map (Page.scroll lifetime)) ++ last.closings) t := by
    simpa using hsearch.trans hmore
  obtain ⟨hturns, hcloses⟩ := turns_of_asks hall
    (by simp [EngineRequest.closesSession, hpost, Page.scroll, Engine.scrollRequest])
    (by
      intro request hclosing
      rw [Page.closings_eq] at hclosing
      obtain ⟨cursor, -, rfl⟩ := List.mem_map.mp hclosing
      rfl)
  constructor
  · rw [hturns, List.mapIdx_cons, hpost, answers, List.map_map]
    congr 1
    apply List.ext_getElem
    · simp
    · intro i hi _
      simp only [List.getElem_mapIdx, List.getElem_map, List.getElem_range, Function.comp_apply,
        hsearch.answer]
      rfl
  · rw [hcloses, Page.closings_eq]
    cases last.cursor.filter (· ≠ "") with
    | none => rfl
    | some cursor => simp [Engine.closingRequest]

/-- What the engine tells of a session that was gone through from `s` to `t`. -/
structure Turns.IsSession (s t : Surroundings) : Prop where
  isOver : Turns.Over (s.turns t)
  /-- Every turn and the closing of the session take one reply of the engine. -/
  replies : t.engineReplies = s.engineReplies.drop ((s.turns t).length + (s.closes t).length)
  turn : ∀ (i : ℕ) (turn : Except Fault Json), (s.turns t)[i]? = some turn →
    ∃ path, turn = (s.answer i).outcome "POST" path
  /-- The session is closed after its last turn, if the last page has a cursor. -/
  closes : s.closes t = ((Turns.cursor? (s.turns t)).filter (· ≠ "")).toList.map fun _ =>
    (s.answer (s.turns t).length).outcome "DELETE" "/_search/scroll"

/-- Answers that are rendered are read again. -/
theorem Reply.forall₂_rendered {answers : List Json}
    (hw : ∀ answer ∈ answers, answer.isWritable = true ∧ answer.fits Exchange.depth = true) :
    List.Forall₂ (fun reply answer => ∀ method path, Reply.outcome method path reply = .ok answer)
      (answers.map Reply.rendered) answers := by
  rw [List.forall₂_map_left_iff, List.forall₂_same]
  intro answer hmem method path
  exact Reply.outcome_rendered (hw answer hmem).1 (hw answer hmem).2 method path

/-- An engine whose replies are rendered answers fails no request. -/
theorem Surroundings.exists_outcome_rendered {s : Surroundings} {answers : List Json}
    (hreplies : s.engineReplies = answers.map Reply.rendered)
    (hw : ∀ answer ∈ answers, answer.isWritable = true ∧ answer.fits Exchange.depth = true)
    (i : ℕ) (method path : String) : ∃ value, (s.answer i).outcome method path = .ok value := by
  rw [answer, hreplies, List.getD_eq_getElem?_getD, List.getElem?_map]
  cases hanswer : answers[i]? with
  | none => exact ⟨.obj [], rfl⟩
  | some answer =>
    obtain ⟨hwritable, hfits⟩ := hw answer (List.mem_of_getElem? hanswer)
    exact ⟨answer, Reply.outcome_rendered hwritable hfits ..⟩

namespace Turns.IsSession

variable {s t : Surroundings}

/-- The turns of an engine whose first replies are known. -/
theorem agree (h : IsSession s t) {opening rest : List Reply} {answers : List Json}
    (hreplies : s.engineReplies = opening ++ rest)
    (hgives : List.Forall₂ (fun reply answer => ∀ method path,
      Reply.outcome method path reply = .ok answer) opening answers) :
    Turns.Agree (s.turns t) (answers.map .ok) := by
  intro i turn expected hturn hexpected
  obtain ⟨path, rfl⟩ := h.turn i turn hturn
  rw [List.getElem?_map, Option.map_eq_some_iff] at hexpected
  obtain ⟨answer, hanswer, rfl⟩ := hexpected
  obtain ⟨hi, rfl⟩ := List.getElem?_eq_some_iff.mp hanswer
  have hi' : i < opening.length := by rw [hgives.length_eq]; exact hi
  have hreply : s.answer i = opening[i] := by
    rw [Surroundings.answer, hreplies, List.getD_eq_getElem?_getD, List.getElem?_append_left hi',
      List.getElem?_eq_getElem hi', Option.getD_some]
  rw [hreply]
  exact hgives.get hi' hi "POST" path

/-- A session is closed if the engine fails nothing. -/
theorem closeFault?_eq_none (h : IsSession s t)
    (hclose : ∃ value, (s.answer (s.turns t).length).outcome "DELETE" "/_search/scroll" =
      .ok value) : s.closeFault? t = none := by
  obtain ⟨value, hvalue⟩ := hclose
  rw [Surroundings.closeFault?, h.closes, hvalue]
  cases (Turns.cursor? (s.turns t)).filter (· ≠ "") <;> rfl

end Turns.IsSession

/-- A search that fails opens no session. -/
theorem Turns.isSession_of_fault {s t : Surroundings} {request : EngineRequest} {fault : Fault}
    (hpost : request.method = "POST") (hsearch : s.Asks [request] t)
    (hfault : Page.read ((s.answer 0).outcome "POST" request.path) = .error fault) :
    IsSession s t ∧ s.closeFault? t = none ∧ (s.turns t).mapM Turns.page = .error fault := by
  have hnone : t.Asks (([] : List Page).map (Page.scroll "") ++ Page.closings ⟨[], none⟩) t :=
    .refl t
  obtain ⟨hturns, hcloses⟩ : s.turns t = [(s.answer 0).outcome "POST" request.path] ∧
      s.closes t = [] := Surroundings.turns_of_session hpost hsearch hnone
  refine ⟨⟨?_, hsearch.drop_replies, ?_, ?_⟩, ?_, ?_⟩
  · rw [hturns]
    refine .last ?_
    intro page hpage
    rw [hfault] at hpage
    cases hpage
  · intro i turn hturn
    rw [hturns, List.getElem?_singleton] at hturn
    split at hturn
    · subst i
      exact ⟨_, (Option.some.inj hturn).symm⟩
    · cases hturn
  · rw [hcloses, hturns, cursor?, List.filterMap_cons_none (by rw [hfault]; rfl)]
    rfl
  · rw [Surroundings.closeFault?, hcloses]
    rfl
  · rw [hturns, List.mapM_cons, page, hfault]
    rfl

/-- A search that gives a page opens a session. -/
theorem Walk.runIn_pages_isSession (paginator : Paginator) (lifetime : Option String)
    {first : Page} {request : EngineRequest} {s u : Surroundings}
    (hpost : request.method = "POST") (hsearch : s.Asks [request] u)
    (hfirst : Page.read ((s.answer 0).outcome "POST" request.path) = .ok first) :
    ∃ t, ((start first lifetime).pages paginator).runIn u =
        ((s.closeFault? t).elim ((s.turns t).mapM Turns.page) .error, t) ∧
      Turns.IsSession s t := by
  obtain ⟨limit, replies, later, failure, t, hpages, hreplies, hmore, hcourse, hlimit⟩ :=
    runIn_pages paginator lifetime first u
  have hlength : ((first :: later).take replies.length).length = replies.length := by
    rw [List.length_take, List.length_cons]
    exact Nat.min_eq_left hcourse.length_le_succ
  obtain ⟨hturns, hcloses⟩ := Surroundings.turns_of_session hpost hsearch hmore
  rw [hlength] at hturns hcloses
  rw [← hreplies] at hturns
  refine ⟨t, ?_, ?_, (hsearch.trans hmore).drop_replies, ?_, ?_⟩
  · rw [hpages, hcourse.closed_bind hfirst, hsearch.answer, Surroundings.closeFault?, hcloses,
      hturns]
    rfl
  · rw [hturns]
    exact hcourse.isOver hlimit hfirst
  · intro i turn hturn
    rw [hturns] at hturn
    cases i with
    | zero => exact ⟨_, (Option.some.inj hturn).symm⟩
    | succ i =>
      rw [List.getElem?_cons_succ, List.getElem?_map, Option.map_eq_some_iff] at hturn
      obtain ⟨reply, hreply, rfl⟩ := hturn
      rw [hreplies, Surroundings.getElem?_answers] at hreply
      obtain ⟨-, rfl⟩ := hreply
      rw [hsearch.answer]
      exact ⟨_, rfl⟩
  · have hcursor : Turns.cursor? (s.turns t) = (later.getLastD first).cursor := by
      rw [Turns.cursor?, hturns, hcourse.filterMap_read hfirst, List.getLast?_cons,
        List.getLastD_eq_getLast?]
      rfl
    rw [hcloses, hcursor, hturns, List.length_cons, List.length_map]

namespace Storage

variable {T : Type} [Operand T]

/-- Reading the parts of a document is a search, and then a walk through its pages. -/
theorem getDocumentParts_eq (storage : Storage) (index : String) (documentId : T) :
    storage.getDocumentParts index documentId =
      (storage.engine.request (Engine.searchRequest [index] (partsQuery documentId).toJson
        (some storage.lifetime)) >>= Action.page) >>= fun first =>
          (Walk.start first (some storage.lifetime)).pages storage.paginator >>= fun pages =>
            pure ((pages.flatMap fun page => page.hits.map Hit.part).mergeSort
              fun a b => decide (a.number ≤ b.number)) := by
  rw [bind_assoc]
  rfl

/-- **What reading the parts of a document comes to.**  It is what the turns of the session show,
unless closing the session fails: that failure takes the place of all that was read, and of the
failure of a turn. -/
theorem getDocumentParts_reading {storage : Storage} {index : String} {documentId : T}
    {s t : Surroundings} {result : Except Fault (List Part)}
    (h : (storage.getDocumentParts index documentId).runIn s = (result, t)) :
    result = (s.closeFault? t).elim (Turns.parts (s.turns t)) .error ∧ Turns.IsSession s t := by
  set request := Engine.searchRequest [index] (partsQuery documentId).toJson
    (some storage.lifetime)
  obtain ⟨u, hpage, hsearch⟩ := storage.engine.request_page_asks request s
  rw [getDocumentParts_eq, runIn_bind, hpage] at h
  cases hread : Page.read ((s.answer 0).outcome request.method request.path) with
  | error fault =>
    rw [hread] at h
    obtain ⟨rfl, rfl⟩ := Prod.mk.inj h
    obtain ⟨hsession, hclosed, hturns⟩ := Turns.isSession_of_fault rfl hsearch hread
    rw [hclosed, Turns.parts, hturns]
    exact ⟨rfl, hsession⟩
  | ok first =>
    obtain ⟨v, hpages, hsession⟩ := Walk.runIn_pages_isSession storage.paginator
      (some storage.lifetime) rfl hsearch hread
    rw [hread] at h
    dsimp only at h
    rw [runIn_bind, hpages] at h
    have hresult : (result, t) = ((s.closeFault? v).elim (Turns.parts (s.turns v)) .error, v) := by
      rw [← h, Turns.parts]
      cases s.closeFault? v with
      | some fault => rfl
      | none => cases (s.turns v).mapM Turns.page <;> rfl
    obtain ⟨rfl, rfl⟩ := Prod.mk.inj hresult
    exact ⟨rfl, hsession⟩

end Storage

end SearchGateway
