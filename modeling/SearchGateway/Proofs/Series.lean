import SearchGateway.Proofs.Turns

/-!
# Series of answers

The answers of a session one after the other, whatever their hits are like.  A page is empty once
all its hits are left out, and a walk stops at an empty page, so a reading sees the answers up to
the first one without a hit that can be read (`Storage.reads_shown`).
-/

set_option autoImplicit false

namespace SearchGateway

open SearchGateway.Action

namespace Extract

/-! ## Answers with any hits -/

/-- The parts that the hits of an answer show.  A hit that cannot be read shows none. -/
def parts (answer : Json.Fields) : List Part :=
  ((hitValues? answer).getD []).filterMap fun value => (Hit.read? value).map Hit.part

theorem map_part_hits (answer : Json.Fields) :
    (ofFields answer).page.hits.map Hit.part = parts answer := List.map_filterMap

/-- The answers of a session, whatever their hits are like: all but the last have hits and a cursor
to go on with, and the last has no hits or no cursor. -/
inductive Series : List Json.Fields → Prop
  | last {answer : Json.Fields} (hcursor : cursor? answer ≠ some "")
      (hend : (hitValues? answer).getD [] = [] ∨ cursor? answer = none) : Series [answer]
  | more {answer : Json.Fields} {cursor : String} {rest : List Json.Fields}
      (hhits : (hitValues? answer).getD [] ≠ []) (hcursor : cursor? answer = some cursor)
      (hne : cursor ≠ "") (hrest : Series rest) : Series (answer :: rest)

/-- The answers up to the first one without a hit that can be read. -/
def shown (answers : List Json.Fields) : List Json.Fields :=
  answers.take (answers.findIdx (fun answer => (parts answer).isEmpty) + 1)

theorem shown_cons (answer : Json.Fields) (rest : List Json.Fields) :
    shown (answer :: rest) = answer :: if parts answer = [] then [] else shown rest := by
  rw [shown, List.findIdx_cons, List.take_succ_cons]
  by_cases hempty : parts answer = []
  · rw [if_pos hempty, hempty]
    rfl
  · have hsome : (parts answer).isEmpty = false := by simpa using hempty
    rw [if_neg hempty, hsome]
    rfl

theorem read_ok (answer : Json.Fields) :
    Page.read (.ok (.obj answer)) = .ok (ofFields answer).page :=
  Page.read_eq_ok.mpr ⟨answer, rfl, rfl⟩

/-- A page without hits that can be read is the last one, whatever the answer had. -/
theorem isLast_of_parts {answer : Json.Fields} (h : parts answer = []) :
    (ofFields answer).page.isLast = true := by
  rw [← map_part_hits, List.map_eq_nil_iff] at h
  rw [Page.isLast, h]
  exact Bool.or_true _

theorem over_singleton {answer : Json.Fields} (h : (ofFields answer).page.isLast = true) :
    Turns.Over [.ok (.obj answer)] := by
  refine .last ?_
  intro page hpage
  rw [read_ok] at hpage
  rw [← Except.ok.inj hpage]
  exact h

/-- A session is over after the first answer without a hit that can be read. -/
theorem Series.over_shown {answers : List Json.Fields} (h : Series answers) :
    Turns.Over ((shown answers).map fun answer => .ok (.obj answer)) := by
  induction h with
  | @last answer _ hend =>
    have hshown : shown [answer] = [answer] := by
      rw [shown_cons]
      split <;> rfl
    rw [hshown]
    apply over_singleton
    rcases hend with hhits | hcursor
    · apply isLast_of_parts
      rw [parts, hhits]
      rfl
    · show (Option.all _ (cursor? answer) || _) = true
      rw [hcursor]
      rfl
  | @more answer cursor rest _ hcursor hne _ ih =>
    rw [shown_cons]
    by_cases hempty : parts answer = []
    · rw [if_pos hempty]
      exact over_singleton (isLast_of_parts hempty)
    · rw [if_neg hempty]
      refine .more (read_ok answer) ?_ ih
      rw [← map_part_hits, List.map_eq_nil_iff] at hempty
      show (Option.all _ (cursor? answer) || _) = false
      rw [hcursor]
      simpa [hne] using hempty

theorem Series.cursor_ne {answers : List Json.Fields} (h : Series answers) :
    ∀ answer ∈ answers, cursor? answer ≠ some "" := by
  induction h with
  | last hcursor => simpa using hcursor
  | more _ hcursor hne _ ih =>
    intro answer hmem
    rcases List.mem_cons.mp hmem with rfl | hmem
    · rw [hcursor]
      simpa using hne
    · exact ih answer hmem

/-- What turns with these answers show. -/
theorem parts_of_answers {answers : List Json.Fields}
    (h : ∀ answer ∈ answers, cursor? answer ≠ some "") :
    Turns.parts (answers.map fun answer => .ok (.obj answer)) =
      .ok ((answers.flatMap parts).mergeSort fun a b => decide (a.number ≤ b.number)) := by
  have hpages : (answers.map fun answer => .ok (.obj answer)).mapM Turns.page =
      .ok (answers.map fun answer => (ofFields answer).page) := by
    induction answers with
    | nil => rfl
    | cons answer rest ih =>
      obtain ⟨hcursor, hrest⟩ := List.forall_mem_cons.mp h
      have hname : (ofFields answer).page.cursor ≠ some "" := hcursor
      rw [List.map_cons, List.mapM_cons, Turns.page_of_read (read_ok answer), if_neg hname,
        ih hrest]
      rfl
  rw [Turns.parts, hpages]
  simp only [Except.map, List.flatMap_map, map_part_hits]

/-- The last answer has the cursor that is left to close. -/
theorem cursor?_of_answers (answers : List Json.Fields) :
    Turns.cursor? (answers.map fun answer => .ok (.obj answer)) =
      answers.getLast?.bind cursor? := by
  have hpages : (answers.map fun answer => .ok (.obj answer)).filterMap
      (fun turn => (Page.read turn).toOption) =
        answers.map fun answer => (ofFields answer).page := by
    rw [List.filterMap_map, ← List.filterMap_eq_map]
    apply List.filterMap_congr
    intro answer _
    exact congrArg Except.toOption (read_ok answer)
  rw [Turns.cursor?, hpages, List.getLast?_map]
  cases answers.getLast? <;> rfl

theorem parts_of_showsAll {answer : Json.Fields} {sources : List Json.Fields} {found : List Part}
    (hshows : ShowsAll answer sources) (hfound : sources.map Record.part? = found.map some) :
    parts answer = found := by
  obtain ⟨hits, hvalues, hhits⟩ := hshows
  rw [← filterMap_read? hhits hfound, List.map_filterMap, parts, hvalues]
  rfl

end Extract

/-! ## Sessions whose hits can all be read -/

/-- A session taken apart: the replies that open it and go on with it, those that close it, the
answers that the first ones give, and the parts that these show. -/
structure Session.Parts (opening closes : List Reply) (answers : List Json.Fields)
    (found : List Part) : Prop where
  gives : List.Forall₂ Reply.Gives opening answers
  series : Extract.Series answers
  shown : Extract.shown answers = answers
  parts : answers.flatMap Extract.parts = found
  closing : closes.length =
    ((answers.getLast?.bind Extract.cursor?).filter (· ≠ "")).toList.length
  acknowledges : ∀ close ∈ closes, close.Acknowledges

/-- A session shows all its parts. -/
theorem Session.exists_parts {replies : List Reply} {sources : List Json.Fields}
    {found : List Part} (h : Session replies sources)
    (hfound : sources.map Record.part? = found.map some) :
    ∃ opening closes answers, replies = opening ++ closes ∧
      Session.Parts opening closes answers found := by
  induction h generalizing found with
  | @last reply answer sources hgives hshows hcursor =>
    have hparts := Extract.parts_of_showsAll hshows hfound
    refine ⟨[reply], [], [answer], rfl, .cons hgives .nil, .last ?_ (.inr hcursor), ?_, ?_, ?_, ?_⟩
    · simp [hcursor]
    · rw [Extract.shown_cons]
      split <;> rfl
    · simpa using hparts
    · simp [hcursor]
    · simp
  | @empty reply close answer cursor hgives hshows hcursor hne hclose =>
    have hparts := Extract.parts_of_showsAll hshows hfound
    obtain ⟨hits, hvalues, hhits⟩ := hshows
    obtain rfl := List.forall₂_nil_right_iff.mp hhits
    refine ⟨[reply], [close], [answer], rfl, .cons hgives .nil, .last ?_ (.inl ?_), ?_, ?_, ?_, ?_⟩
    · simpa [hcursor] using hne
    · rw [hvalues]
      rfl
    · rw [Extract.shown_cons]
      split <;> rfl
    · simpa using hparts
    · simp [hcursor, Option.filter, hne]
    · simpa using hclose
  | @more reply answer cursor sources rest replies hgives hshows hsources hcursor hne _ ih =>
    -- The parts of this page and those of the pages behind it.
    rw [List.map_append] at hfound
    obtain ⟨these, others, rfl, hthese, hothers⟩ := List.map_eq_append_iff.mp hfound.symm
    obtain ⟨opening, closes, answers, rfl, hrest⟩ := ih hothers.symm
    have hparts := Extract.parts_of_showsAll hshows hthese.symm
    have hsome : Extract.parts answer ≠ [] := by
      rw [hparts]
      rintro rfl
      exact hsources (by simpa using hthese.symm)
    obtain ⟨hits, hvalues, hhits⟩ := hshows
    have hhits' : (Extract.hitValues? answer).getD [] ≠ [] := by
      rw [hvalues]
      rintro hnil
      obtain rfl : hits = [] := by simpa using hnil
      exact hsources (List.forall₂_nil_left_iff.mp hhits)
    -- A page with sources has hits that can be read, so the walk goes on.
    refine ⟨reply :: opening, closes, answer :: answers, rfl, .cons hgives hrest.gives,
      .more hhits' hcursor hne hrest.series, ?_, ?_, ?_, hrest.acknowledges⟩
    · rw [Extract.shown_cons, if_neg hsome, hrest.shown]
    · rw [List.flatMap_cons, hparts, hrest.parts]
    · rw [hrest.closing]
      cases answers with
      | nil => cases hrest.series
      | cons next answers => rw [List.getLast?_cons_cons]

/-! ## Readings -/

namespace Storage

variable {T : Type} [Operand T] {storage : Storage} {index : String} {documentId : T}
  {s t : Surroundings} {result : Except Fault (List Part)} {answers : List Json.Fields}

/-- The turns of a reading that sees the answers of a session. -/
theorem turns_eq_shown (hseries : Extract.Series answers) (hsession : Turns.IsSession s t)
    (hturns : Turns.Agree (s.turns t) (answers.map fun answer => .ok (.obj answer))) :
    s.turns t = (Extract.shown answers).map fun answer => .ok (.obj answer) := by
  have hinitial : Extract.shown answers <+: answers := List.take_prefix ..
  exact hsession.isOver.eq_of_agree hseries.over_shown (hturns.of_initial (hinitial.map _))

/-- What a reading comes to that sees the answers of a session. -/
theorem reads_shown (hseries : Extract.Series answers)
    (h : (storage.getDocumentParts index documentId).runIn s = (result, t))
    (hturns : Turns.Agree (s.turns t) (answers.map fun answer => .ok (.obj answer)))
    (hclosed : s.closeFault? t = none) :
    result = .ok (((Extract.shown answers).flatMap Extract.parts).mergeSort
      fun a b => decide (a.number ≤ b.number)) := by
  obtain ⟨hresult, hsession⟩ := getDocumentParts_reading h
  have hinitial : Extract.shown answers <+: answers := List.take_prefix ..
  rw [hresult, hclosed, turns_eq_shown hseries hsession hturns, Extract.parts_of_answers]
  · rfl
  · intro answer hmem
    exact hseries.cursor_ne answer (hinitial.subset hmem)

end Storage

end SearchGateway
