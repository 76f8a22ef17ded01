import SearchGateway.Proofs.Engine.Failure

/-!
# What the engine's answers tell

Two answers are looked into where the engine reports no failure: descriptions of indexes, and what
became of stored parts.  They can be of any shape; for which ones the reading comes to a result, or
to a failure with a message, is said here (`reported_readAll`, `isOk_visible`,
`reported_acknowledge`).
-/

set_option autoImplicit false

namespace SearchGateway

/-! ## Descriptions of indexes -/

namespace IndexInfo

/-- The value can be read as a count. -/
def IsCount (value : Json) : Prop :=
  value.isSomething = true → match value with
    | .int _ => True
    | .bool _ => True
    | .num (.finite _ _ _ _) => True
    | .str s => (Numeral.integer? s).isSome = true
    | _ => False

/-- The descriptions of indexes in the value have counts that can be read. -/
def AreCounted (value : Json) : Prop := ∀ items, value = .arr items → ∀ fields,
  .obj fields ∈ items → (Json.Fields.get? fields "index").isSome = true →
    ∀ count, Json.Fields.get? fields "docs.count" = some count → IsCount count

/-- The descriptions of indexes in the value have names that are texts. -/
def AreNamed (value : Json) : Prop := ∀ items, value = .arr items → ∀ fields,
  .obj fields ∈ items → ∀ name, Json.Fields.get? fields "index" = some name →
    ∃ text, name = .str text

theorem isOk_count {value : Json} : (count value).isOk = true ↔ IsCount value := by
  unfold count IsCount
  cases hsome : value.isSomething with
  | false => simp
  | true =>
    cases value with
    | num d => cases d <;> simp [Double.truncate]
    | str s => cases hn : Numeral.integer? s <;> simp [hn]
    | _ => simp

theorem isOk_read {item : Json} : (read item).isOk = true ↔ ∀ fields, item = .obj fields →
    (Json.Fields.get? fields "index").isSome = true →
      ∀ value, Json.Fields.get? fields "docs.count" = some value → IsCount value := by
  cases item with
  | obj fields =>
    simp only [Json.obj.injEq, forall_eq']
    rw [read]
    cases hname : Json.Fields.get? fields "index" with
    | none => simp
    | some name =>
      have hcount (value : Json) : (do
          let documents ← count value
          return some (⟨name, (Json.Fields.get? fields "health").getD .null,
            (Json.Fields.get? fields "status").getD .null, documents,
            (Json.Fields.get? fields "store.size").getD .null⟩ : IndexInfo) :
          Except Defect (Option IndexInfo)).isOk = true ↔ IsCount value := by
        rw [← isOk_count]
        cases count value <;> simp [bind, Except.bind, pure, Except.pure]
      dsimp only
      rw [hcount]
      cases Json.Fields.get? fields "docs.count" <;> simp [IsCount, Json.isSomething]
  | _ => simp [read]

/-- The name that is read is the one that the value gives. -/
theorem exists_name_of_read {item : Json} {found : Option IndexInfo} (h : read item = .ok found)
    (name : Json) : (∃ info, found = some info ∧ info.name = name) ↔
      ∃ fields, item = .obj fields ∧ Json.Fields.get? fields "index" = some name := by
  cases item with
  | obj fields =>
    rw [read] at h
    cases hname : Json.Fields.get? fields "index" with
    | none =>
      rw [hname] at h
      obtain rfl := Except.ok.inj h
      simp [hname]
    | some given =>
      rw [hname] at h
      cases hcount : count ((Json.Fields.get? fields "docs.count").getD .null) with
      | error defect => simp [hcount, bind, Except.bind] at h
      | ok documents =>
        simp only [hcount, bind, Except.bind, pure, Except.pure] at h
        obtain rfl := Except.ok.inj h
        simp [hname]
  | _ =>
    obtain rfl := Except.ok.inj h
    simp

theorem readAll_arr (items : List Json) : readAll (.arr items) =
    ((items.mapM read).map (·.filterMap id)).mapError Fault.defect := by
  rw [readAll, mapM_liftM]
  cases items.mapM read <;> rfl

theorem reported_readAll {value : Json} : Reported (readAll value) ↔ AreCounted value := by
  cases value with
  | arr items =>
    rw [readAll_arr, reported_mapError]
    have hmap : ((items.mapM read).map (·.filterMap id)).isOk = (items.mapM read).isOk := by
      cases items.mapM read <;> rfl
    rw [hmap, isOk_mapM]
    simp only [isOk_read, AreCounted, Json.arr.injEq, forall_eq']
    exact ⟨fun h fields hmem => h _ hmem fields rfl, by rintro h _ hmem fields rfl; exact h fields hmem⟩
  | _ => simp [readAll, AreCounted, Fault.malformed]

theorem exists_name_of_mapM {items : List Json} {found : List (Option IndexInfo)}
    (h : items.mapM read = .ok found) (name : Json) :
    (∃ info, some info ∈ found ∧ info.name = name) ↔
      ∃ fields, .obj fields ∈ items ∧ Json.Fields.get? fields "index" = some name := by
  induction items generalizing found with
  | nil =>
    obtain rfl := Except.ok.inj h
    simp
  | cons item items ih =>
    rw [List.mapM_cons] at h
    cases hfirst : read item with
    | error defect => simp [hfirst, bind, Except.bind] at h
    | ok first =>
      cases hrest : items.mapM read with
      | error defect => simp [hfirst, hrest, bind, Except.bind] at h
      | ok rest =>
        simp only [hfirst, hrest, bind, Except.bind, pure, Except.pure] at h
        obtain rfl := Except.ok.inj h
        simp only [List.mem_cons, or_and_right, exists_or, ih hrest, @eq_comm _ (some _) first,
          @eq_comm _ (Json.obj _) item]
        exact or_congr_left (exists_name_of_read hfirst name)

theorem exists_name_of_readAll {value : Json} {infos : List IndexInfo}
    (h : readAll value = .ok infos) (name : Json) : (∃ info ∈ infos, info.name = name) ↔
      ∃ items fields, value = .arr items ∧ .obj fields ∈ items ∧
        Json.Fields.get? fields "index" = some name := by
  cases value with
  | arr items =>
    rw [readAll_arr] at h
    cases hfound : items.mapM read with
    | error defect => simp [hfound, Except.map, Except.mapError] at h
    | ok found =>
      rw [hfound] at h
      obtain rfl := Except.ok.inj h
      have hnames := exists_name_of_mapM hfound name
      simpa using hnames
  | _ => cases h

theorem isOk_visible {infos : List IndexInfo} : (visible infos).isOk = true ↔
    ∀ info ∈ infos, ∃ text, info.name = .str text := by
  unfold visible
  rw [isOk_filterM]
  refine forall₂_congr fun info _ => ?_
  unfold isHidden
  cases info.name <;> simp [bind, Except.bind, pure, Except.pure]

end IndexInfo

/-! ## What became of stored parts -/

namespace Bulk

/-- The error that an item reports first, if it reports one. -/
def itemError? (actions : Json.Fields) : Option Json :=
  actions.findSome? fun (_, action) => actionError? action

/-- The items up to the first error are objects. -/
def LeadToError (items : List Json) : Prop := ∀ before item after, items = before ++ item :: after →
  (∀ actions, .obj actions ∈ before → itemError? actions = none) → ∃ actions, item = .obj actions

/-- The items that the answer lists lead to the first error; an answer without them has none. -/
def IsAccount (fields : Json.Fields) : Prop :=
  match Json.Fields.get? fields "items" with
  | none => True
  | some (.arr items) => LeadToError items
  | some (.str s) => s = ""
  | some (.obj entries) => entries = []
  | some _ => False

/-- If the value reports errors, the first one can be found in it. -/
def AreAccounted (value : Json) : Prop := ∀ fields, value = .obj fields → ∀ errors,
  Json.Fields.get? fields "errors" = some errors → errors.isSomething = true → IsAccount fields

theorem leadToError_cons {item : Json} {rest : List Json} : LeadToError (item :: rest) ↔
    ∃ actions, item = .obj actions ∧ (itemError? actions = none → LeadToError rest) := by
  constructor
  · intro h
    obtain ⟨actions, rfl⟩ := h [] item rest rfl (by simp)
    refine ⟨actions, rfl, fun hnone before other after hrest hbefore => ?_⟩
    refine h (.obj actions :: before) other after (by rw [hrest]; rfl) ?_
    intro others hothers
    rcases List.mem_cons.mp hothers with hothers | hothers
    · rw [Json.obj.inj hothers, hnone]
    · exact hbefore others hothers
  · rintro ⟨actions, rfl, h⟩ before other after hsplit hbefore
    rcases List.cons_eq_append_iff.mp hsplit with ⟨-, hother⟩ | ⟨before, rfl, hrest⟩
    · exact ⟨actions, (List.cons.inj hother).1⟩
    · exact h (hbefore actions List.mem_cons_self) before other after hrest
        fun others hothers => hbefore others (List.mem_cons_of_mem _ hothers)

theorem isOk_firstError {items : List Json} :
    (firstError items).isOk = true ↔ LeadToError items := by
  induction items with
  | nil => simp [firstError, LeadToError]
  | cons item rest ih =>
    rw [leadToError_cons]
    cases item with
    | obj actions =>
      rw [firstError, ← itemError?]
      simp only [Json.obj.injEq, exists_eq_left']
      cases itemError? actions <;> simp [ih]
    | _ => simp [firstError]

/-- The first error can be found exactly if the items lead to it. -/
theorem isOk_account {fields : Json.Fields} :
    (itemsOf fields >>= firstError).isOk = true ↔ IsAccount fields := by
  unfold itemsOf IsAccount
  cases Json.Fields.get? fields "items" with
  | none => simp [bind, Except.bind, firstError]
  | some items =>
    cases items with
    | arr items => simp [bind, Except.bind, isOk_firstError]
    | str s =>
      simp only [bind, Except.bind, ← String.toList_eq_nil_iff]
      cases s.toList <;> simp [firstError]
    | obj entries => cases entries <;> simp [bind, Except.bind, firstError]
    | _ => simp [bind, Except.bind]

/-- The answer reports errors. -/
def ReportsErrors (fields : Json.Fields) : Prop :=
  ∃ errors, Json.Fields.get? fields "errors" = some errors ∧ errors.isSomething = true

theorem areAccounted_obj {fields : Json.Fields} :
    AreAccounted (.obj fields) ↔ (ReportsErrors fields → IsAccount fields) := by
  constructor
  · rintro h ⟨errors, herrors, hsome⟩
    exact h fields rfl errors herrors hsome
  · rintro h _ ⟨⟩ errors herrors hsome
    exact h ⟨errors, herrors, hsome⟩

/-- The failure of parts that were not stored, for the given reason. -/
def refusal (reason : String) : Fault :=
  .announced (.service none) s!"failed to store document parts: {reason}"

theorem acknowledge_of_reportsErrors {fields : Json.Fields} (h : ReportsErrors fields) :
    acknowledge (.obj fields) = match itemsOf fields >>= firstError with
      | .ok reason => .error (refusal reason)
      | .error defect => .error (.defect defect) := by
  obtain ⟨errors, herrors, hsome⟩ := h
  rw [acknowledge, herrors, Option.getD_some, if_pos hsome]
  cases hitems : itemsOf fields with
  | error defect => rfl
  | ok items =>
    cases hfirst : firstError items <;>
      simp [bind, Except.bind, liftM, monadLift, MonadLift.monadLift, hfirst, refusal]

theorem acknowledge_of_not_reportsErrors {fields : Json.Fields} (h : ¬ReportsErrors fields) :
    acknowledge (.obj fields) = .ok () := by
  rw [acknowledge, if_neg]
  intro hsome
  cases herrors : Json.Fields.get? fields "errors" with
  | none => simp [herrors, Json.isSomething] at hsome
  | some errors => exact h ⟨errors, herrors, by simpa [herrors] using hsome⟩

theorem reported_acknowledge {answer : Json} :
    Reported (acknowledge answer) ↔ AreAccounted answer := by
  cases answer with
  | obj fields =>
    rw [areAccounted_obj]
    by_cases herrors : ReportsErrors fields
    · rw [acknowledge_of_reportsErrors herrors, ← isOk_account]
      cases itemsOf fields >>= firstError <;> simp [herrors, refusal]
    · rw [acknowledge_of_not_reportsErrors herrors]
      simp [herrors]
  | _ => simp [acknowledge, AreAccounted]

end Bulk

end SearchGateway
