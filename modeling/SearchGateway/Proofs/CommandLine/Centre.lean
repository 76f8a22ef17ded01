import SearchGateway.CommandLine.Run
import SearchGateway.Proofs.CommandLine.Point
import SearchGateway.Proofs.CommandLine.Reading
import SearchGateway.Proofs.Search.Narrowing

/-!
# Centres on the command line

The centre of a search is given by two words, `--location` and a point.  A point whose longitude has
a minus starts with a dash, and with its comma it does not look like a negative number; so it is
taken for the name of an argument, and the search is refused.  Every other point is read, and goes
into the query as it is written, longitude first (`reads_point_iff`).  If the point is attached to
the name, as in `--location=-30.5,50.4`, then the sign makes no difference
(`reads_attached_point`).
-/

set_option autoImplicit false

namespace SearchGateway

/-- The name of the command for a kind of search. -/
def KindName.command : KindName → String
  | retrieve => "retrieve"
  | fulltext => "fulltext"
  | semantic => "semantic"
  | hybrid => "hybrid"

/-! ## The clauses around that of the centre -/

namespace FiltersOf

variable {N T D : Type} [Operand N] [Operand T] [Operand D] (f : FiltersOf N T D)

/-- The clauses that come before the one of the centre. -/
def rangeClauses : List Clause :=
  rangeClause Field.createdAt f.createdFrom f.createdTo
    ++ rangeClause Field.modifiedAt f.modifiedFrom f.modifiedTo
    ++ rangeClause Field.fileSize f.sizeFrom f.sizeTo

/-- The clauses that come behind the one of the centre. -/
def labelClauses : List Clause :=
  termClause Field.source f.source
    ++ termClause Field.semanticSource f.semanticSource
    ++ termClause Field.pipelines f.pipelineLabel
    ++ f.classClause

theorem clauses_eq : f.clauses = f.rangeClauses ++ (f.locationClause ++ f.labelClauses) := by
  simp only [clauses, rangeClauses, labelClauses, List.append_assoc]

end FiltersOf

namespace CommandLine

/-! ## Arguments that agree with a change -/

namespace Named

variable {σ : Type} {f : σ → σ}

theorem respects_help : (help : Named σ).Respects f := nofun

theorem respects_text {name : String} {set : Given String → σ → σ}
    (h : ∀ given s, set given (f s) = f (set given s)) : (text name set).Respects f := by
  intro _ heffect given s
  obtain rfl := Effect.value.inj heffect
  exact congrArg Except.ok (h given s)

theorem respects_parsed {α : Type} {name : String} {read? : String → Option α}
    {flaw : String → Flaw} {set : Given α → σ → σ}
    (h : ∀ given s, set given (f s) = f (set given s)) :
    (parsed name read? flaw set).Respects f := by
  intro _ heffect given s
  obtain rfl := Effect.value.inj heffect
  have hread (found : Except Flaw (Given α)) :
      (do return set (← found) (f s)) = (do return set (← found) s : Except Flaw σ).map f := by
    cases found with
    | error flaw => rfl
    | ok value => exact congrArg Except.ok (h value s)
  exact hread _

end Named

namespace SearchWords

/-- The argument for the centre. -/
def locationArgument : Named SearchWords :=
  Named.parsed "--location" point? .notPoint fun point =>
    filter fun f => { f with centre := some (point.getD []) }

/-- The words with a centre, unless they have one. -/
def centred (point : List Double) (w : SearchWords) : SearchWords :=
  w.filter fun f => { f with centre := f.centre.or (some point) }

variable (kindName : KindName) (point : List Double)

theorem respects_indexArgument : indexArgument.Respects (centred point) := by
  intro _ heffect given w
  obtain rfl := Effect.value.inj heffect
  rfl

/-- **No argument of a search asks for the centre**, not even the one that gives it. -/
theorem respects_named : ∀ argument ∈ (grammar kindName).named,
    argument.Respects (centred point) := by
  have hshared : ∀ argument ∈ sharedArguments, argument.Respects (centred point) := by
    refine List.forall_mem_cons.mpr ⟨respects_indexArgument point, ?_⟩
    repeat' refine List.forall_mem_cons.mpr ⟨?_, ?_⟩
    all_goals first
      | exact List.forall_mem_nil _
      | exact Named.respects_text fun _ _ => rfl
      | exact Named.respects_parsed fun _ _ => rfl
  have hown : ∀ argument ∈ ownArguments kindName, argument.Respects (centred point) := by
    cases kindName
    all_goals
      repeat' refine List.forall_mem_cons.mpr ⟨?_, ?_⟩
      all_goals first
        | exact List.forall_mem_nil _
        | exact Named.respects_text fun _ _ => rfl
        | exact Named.respects_parsed fun _ _ => rfl
  refine List.forall_mem_cons.mpr ⟨Named.respects_help, fun argument hmem => ?_⟩
  exact (List.mem_append.mp hmem).elim (hown argument) (hshared argument)

theorem respects_placed : ∀ argument ∈ (grammar kindName).placed,
    argument.Respects (centred point) := by
  cases kindName with
  | retrieve => exact List.forall_mem_nil _
  | _ => exact List.forall_mem_singleton.mpr fun _ _ => rfl

/-! ## Words -/

/-- Names have no characters but dashes and small letters. -/
theorem names_spec : ∀ name ∈ (grammar kindName).allNames.map Prod.fst,
    name.toList.all (fun c => c.isLower || c == '-') = true := by
  cases kindName <;> decide

theorem lookup_eq_none {word : String} {c : Char} (hc : c ∈ word.toList)
    (hlower : c.isLower = false) (hdash : c ≠ '-') : (grammar kindName).allNames.lookup word = none := by
  rw [List.lookup_eq_none_iff]
  intro entry hentry
  have hchars := names_spec kindName entry.1 (List.mem_map_of_mem hentry)
  refine bne_iff_ne.mpr ?_
  rintro rfl
  have hfound := List.all_eq_true.mp hchars c hc
  simp [hlower, hdash] at hfound

theorem classify_location :
    (grammar kindName).classify "--location" = .ok (.named locationArgument none) := by
  cases kindName <;> rfl

/-- An equals sign attaches any text to the name. -/
theorem classify_attached (text : String) :
    (grammar kindName).classify ("--location=" ++ text) =
      .ok (.named locationArgument (some text)) := by
  have hchars : ("--location=" ++ text).toList = "--location".toList ++ '=' :: text.toList := by
    rw [String.toList_append]
    rfl
  have hspan : ("--location=" ++ text).toList.span (fun c => decide (c ≠ '=')) =
      ("--location".toList, '=' :: text.toList) := by
    rw [hchars]
    rfl
  have hvalue : splitValue ("--location=" ++ text) = ("--location", some text) := by
    simp only [splitValue, hspan, String.ofList_toList]
  have hword : (grammar kindName).allNames.lookup ("--location=" ++ text) = none :=
    lookup_eq_none kindName (c := '=') (by simp) (by decide) (by decide)
  have hname : (grammar kindName).allNames.lookup "--location" = some locationArgument := by
    cases kindName <;> rfl
  unfold Grammar.classify
  rw [hchars, show "--location".toList = '-' :: '-' :: "location".toList from rfl]
  simp only [List.cons_append, hvalue, hword, hname, if_true]

section

variable (longitude latitude : DecimalText)

/-- **A point with a minus in front is taken for a name** that no argument has. -/
theorem classify_pointText_of_isNegative (h : longitude.isNegative = true) :
    (grammar kindName).classify (pointText longitude latitude) =
      .ok (.unknown (pointText longitude latitude)) := by
  obtain ⟨c, rest, hmagnitude, hc⟩ := longitude.exists_magnitudeChars
  have hchars : (pointText longitude latitude).toList =
      '-' :: c :: (rest ++ ',' :: latitude.text.toList) := by
    rw [toList_pointText, longitude.toList_text_of_isNegative h, hmagnitude]
    rfl
  have hcomma : ',' ∈ (pointText longitude latitude).toList.drop 1 := by
    rw [hchars]
    simp
  have hdash : c ≠ '-' := by
    rintro rfl
    simp at hc
  obtain ⟨hequals, hblank⟩ := notMem_pointText longitude latitude
  have hword := lookup_eq_none kindName (List.mem_of_mem_drop hcomma) (by decide) (by decide)
  have hplain : Numeral.IsPlain c := hc.imp_right .inl
  have hletter : (grammar kindName).allNames.lookup (String.ofList ['-', c]) = none :=
    lookup_eq_none kindName (c := c) (by simp) hplain.spec.2.2 hdash
  rw [Grammar.classify_of_strange hchars hdash hequals hword hletter,
    strangeWord_of_comma hcomma hblank]

/-- A point without a minus in front is a plain word. -/
theorem classify_pointText (h : longitude.isNegative = false) :
    (grammar kindName).classify (pointText longitude latitude) =
      .ok (.plain (pointText longitude latitude)) := by
  refine Grammar.classify_of_head ?_
  obtain ⟨c, rest, hchars, hdash⟩ := longitude.exists_toList_text h
  rw [toList_pointText, hchars]
  exact fun hhead => hdash (Option.some.inj hhead)

theorem pointText_ne : pointText longitude latitude ≠ "--" := by
  intro h
  have hcomma : ',' ∈ (pointText longitude latitude).toList := by simp [toList_pointText]
  rw [h] at hcomma
  revert hcomma
  decide

end

/-! ## Reading the two words -/

/-- What was read after a centre was given. -/
def located (point : List Double) (r : Reading SearchWords) : Reading SearchWords :=
  { r with
    state := r.state.filter fun f => { f with centre := some point }
    given := locationArgument.title :: r.given
    before := .other }

variable {point} {text : String} {r : Reading SearchWords}

theorem give_location (h : point? text = some point) (htext : text ≠ "--") :
    r.give locationArgument text = .ok (located point r) := by
  rw [Reading.give_of_value rfl, Given.ofText, if_neg htext]
  simp only [Given.read, h]
  rfl

/-- A point without a minus in front is read as the word behind the name. -/
theorem readOn_location {longitude : DecimalText} (h : longitude.isNegative = false)
    (latitude : DecimalText) (after : List String) :
    (grammar kindName).readOn r (["--location", pointText longitude latitude] ++ after) =
      (grammar kindName).readOn (located [longitude.value, latitude.value] r) after :=
  Grammar.readOn_named (classify_location kindName) (by decide)
    (classify_pointText kindName longitude latitude h) (pointText_ne longitude latitude) rfl
    (give_location (point?_pointText longitude latitude) (pointText_ne longitude latitude))

/-- Attached to the name every point is read. -/
theorem readOn_attached (longitude latitude : DecimalText) (after : List String) :
    (grammar kindName).readOn r (["--location=" ++ pointText longitude latitude] ++ after) =
      (grammar kindName).readOn (located [longitude.value, latitude.value] r) after := by
  refine Grammar.readOn_attached (classify_attached kindName _) ?_
    (give_location (point?_pointText longitude latitude) (pointText_ne longitude latitude))
  intro h
  have hlength := congrArg (fun word => word.toList.length) h
  simp at hlength

/-- **What is not a point is refused**, whatever word it is and whatever comes behind it. -/
theorem exists_misuse_of_point? (h : point? text = none) (after : List String) :
    ∃ problem, (grammar kindName).readOn r ("--location" :: text :: after) =
      .error (.misuse problem) := by
  refine Grammar.exists_misuse_of_named (classify_location kindName) (by decide) rfl
    fun htext _ => ⟨.notPoint text, ?_⟩
  rw [Given.ofText, if_neg htext]
  simp only [Given.read, h]
  rfl

/-- **A point with a minus in front is refused**, whatever comes behind it. -/
theorem exists_misuse_of_isNegative {longitude : DecimalText} (h : longitude.isNegative = true)
    (latitude : DecimalText) (after : List String) :
    ∃ problem, (grammar kindName).readOn r ("--location" :: pointText longitude latitude :: after) =
      .error (.misuse problem) := by
  refine Grammar.exists_misuse_of_named (classify_location kindName) (by decide) rfl
    fun _ hplain => ?_
  rw [classify_pointText_of_isNegative kindName longitude latitude h] at hplain
  cases hplain

variable {start w : SearchWords} {before after : List String}

/-- A centre that was given stays. -/
theorem centre_of_readOn (hbefore : (grammar kindName).Reads start before r)
    (hread : (grammar kindName).readOn r after = .ok (w, [])) (hw : w.filters.centre = none) :
    r.state.filters.centre = none := by
  obtain ⟨_, -, halike⟩ := hbefore.exists_alike (respects_named kindName [])
    (respects_placed kindName [])
  cases hcentre : r.state.filters.centre with
  | none => rfl
  | some given =>
    -- What was read agrees with itself under a change that makes a difference in the end.
    have hstate : r.state = centred [] r.state := by
      show r.state = { r.state with
        filters := { r.state.filters with centre := r.state.filters.centre.or (some []) } }
      rw [hcentre, Option.some_or, ← hcentre]
    have hself : Reading.Alike (centred []) r r :=
      ⟨hstate, rfl, List.Subset.refl _, rfl, rfl, halike.respects⟩
    have hcentred := Grammar.readOn_of_alike hself (respects_named kindName []) hread
    rw [hread] at hcentred
    have heq : w = centred [] w := (Prod.mk.inj (Except.ok.inj hcentred)).1
    have hsome : w.filters.centre.isSome = true := by
      rw [heq]
      show (w.filters.centre.or (some [])).isSome = true
      rw [Option.isSome_or]
      exact Bool.or_true _
    rw [hw] at hsome
    cases hsome

/-- **A centre goes with any search.**  Words that are read without a centre are read with one, to
the same but for the centre, however the centre is given between them. -/
theorem read_centred {given : List String} (hbefore : (grammar kindName).Reads start before r)
    (hafter : after.head? ≠ some "--")
    (hgiven : (grammar kindName).readOn r (given ++ after) =
      (grammar kindName).readOn (located point r) after)
    (hread : (grammar kindName).read start (before ++ after) = .ok (w, []))
    (hw : w.filters.centre = none) :
    (grammar kindName).read start (before ++ (given ++ after)) = .ok (centred point w, []) := by
  rw [hbefore.read_append] at hread ⊢
  have hcentre := centre_of_readOn kindName hbefore hread hw
  obtain ⟨_, -, halike⟩ := hbefore.exists_alike (respects_named kindName point)
    (respects_placed kindName point)
  have hlocated : Reading.Alike (centred point) r { located point r with before := r.before } := by
    refine ⟨?_, rfl, List.subset_cons_self .., rfl, rfl, halike.respects⟩
    show { r.state with filters := { r.state.filters with centre := some point } } =
      { r.state with
        filters := { r.state.filters with centre := r.state.filters.centre.or (some point) } }
    rw [hcentre, Option.none_or]
  rw [hgiven, ← Grammar.readOn_before (r := located point r) hafter nofun hbefore.before_ne]
  exact Grammar.readOn_of_alike hlocated (respects_named kindName point) hread

end SearchWords

/-! ## Requests -/

/-- The condition on locations as the engine reads it: near to a point, longitude first. -/
def nearJson (distance : String) (longitude latitude : Double) : Json :=
  .obj [("nested", .obj [("path", "metadata.locations"),
    ("query", .obj [("geo_distance", .obj [("distance", distance),
      ("metadata.locations.coords", .arr [.num longitude, .num latitude])])])])]

/-- A request and the same one with a centre: its query has one condition more, in the place of the
filters. -/
structure Nears (longitude latitude : Double) (request near : GivenRequest) : Prop where
  indexes : near.indexes = request.indexes
  kind : near.kind = request.kind
  presentation : near.presentation = request.presentation
  clauses : ∀ (kind : KindOf (Given Int) (Given String)) (p : GivenPresentation),
    ∃ first rest : List Json,
      (Query.compose kind p request.filters).toJson.follow Query.filterPath =
        some (.arr (first ++ rest)) ∧
      (Query.compose kind p near.filters).toJson.follow Query.filterPath =
        some (.arr (first ++ nearJson (request.filters.getD {}).reach longitude latitude :: rest))

/-- A centre has one clause of its own among those of the filters. -/
theorem exists_clauses_centre {f : GivenFilters} (hf : f.centre = none)
    (longitude latitude : Double) : ∃ (first rest : List Clause) (near : Clause),
      f.clauses = first ++ rest ∧
      FiltersOf.clauses { f with centre := some [longitude, latitude] } = first ++ near :: rest ∧
      near.toJson = nearJson f.reach longitude latitude := by
  refine ⟨f.rangeClauses, f.labelClauses, .nested Field.locations none
    (.geoDistance Field.coordinates f.reach [longitude, latitude]), ?_, ?_, rfl⟩
  · rw [FiltersOf.clauses_eq, FiltersOf.locationClause, hf]
    rfl
  · exact FiltersOf.clauses_eq _

namespace SearchWords

variable {w : SearchWords} {kindName : KindName} {operator : MatchOperator}
  {request : GivenRequest}

/-- What has to be in order for a request to be made, and the request. -/
theorem request_eq_ok_iff : w.request kindName operator = .ok request ↔
    ∃ order size offset kind, w.order.get .wrongValue = .ok order ∧
      Searcher.checkIndexes w.indexes = .ok () ∧
      (w.size.get .wrongType = .ok size ∧ Searcher.checkSize size = .ok ()) ∧
      (w.offset.get .wrongType = .ok offset ∧ Searcher.checkOffset offset = .ok ()) ∧
      w.kind operator kindName = .ok kind ∧
      request = ⟨w.indexes, some kind,
        { w.presentation with size := size, offset := offset, order := order },
        if w.filters = {} then none else some w.filters⟩ := by
  constructor
  · intro h
    obtain ⟨order, horder, h⟩ := Except.bind_eq_ok_iff.mp h
    obtain ⟨_, hindexes, h⟩ := Except.bind_eq_ok_iff.mp h
    obtain ⟨size, hsize, h⟩ := Except.bind_eq_ok_iff.mp h
    obtain ⟨_, hsized, h⟩ := Except.bind_eq_ok_iff.mp h
    obtain ⟨offset, hoffset, h⟩ := Except.bind_eq_ok_iff.mp h
    obtain ⟨_, hskipped, h⟩ := Except.bind_eq_ok_iff.mp h
    obtain ⟨kind, hkind, h⟩ := Except.bind_eq_ok_iff.mp h
    exact ⟨order, size, offset, kind, horder, hindexes, ⟨hsize, hsized⟩, ⟨hoffset, hskipped⟩,
      hkind, (Except.ok.inj h).symm⟩
  · rintro ⟨order, size, offset, kind, horder, hindexes, ⟨hsize, hsized⟩, ⟨hoffset, hskipped⟩,
      hkind, rfl⟩
    rw [SearchWords.request, horder, hindexes, hsize, hoffset, hkind]
    simp only [bind, Except.bind, hsized, hskipped]
    rfl

/-- **A centre makes a request out of a request**, and only the filters change. -/
theorem request_centred (point : List Double) (h : w.request kindName operator = .ok request) :
    (centred point w).request kindName operator =
      .ok { request with filters := some (centred point w).filters } := by
  obtain ⟨order, size, offset, kind, horder, hindexes, hsize, hoffset, hkind, rfl⟩ :=
    request_eq_ok_iff.mp h
  have hfilters : (centred point w).filters ≠ {} := by
    intro hempty
    have hcentre := congrArg FiltersOf.centre hempty
    cases hgiven : w.filters.centre <;> simp [centred, filter, hgiven] at hcentre
  have hkind' : (centred point w).kind operator kindName = .ok kind := by
    rw [← hkind]
    cases kindName <;> rfl
  refine request_eq_ok_iff.mpr ⟨order, size, offset, kind, horder, hindexes, hsize, hoffset,
    hkind', ?_⟩
  rw [if_neg hfilters]
  rfl

/-- The filters of a request are those that the words say. -/
theorem filters_of_request (h : w.request kindName operator = .ok request) :
    request.filters.getD {} = w.filters ∧ filterClauses request.filters = w.filters.clauses := by
  obtain ⟨_, _, _, _, -, -, -, -, -, rfl⟩ := request_eq_ok_iff.mp h
  by_cases hempty : w.filters = {}
  · rw [if_pos hempty, hempty]
    exact ⟨rfl, rfl⟩
  · rw [if_neg hempty]
    exact ⟨rfl, rfl⟩

/-- **The centre goes into the query as it is**, longitude first, and nothing else changes. -/
theorem exists_nears (hw : w.filters.centre = none)
    (h : w.request kindName operator = .ok request) (longitude latitude : Double) :
    ∃ near, (centred [longitude, latitude] w).request kindName operator = .ok near ∧
      Nears longitude latitude request near := by
  refine ⟨_, request_centred _ h, rfl, rfl, rfl, fun kind p => ?_⟩
  obtain ⟨hfilters, hrequest⟩ := filters_of_request h
  obtain ⟨first, rest, near, hclauses, hcentred, hnear⟩ :=
    exists_clauses_centre hw longitude latitude
  have hnears : filterClauses (some (centred [longitude, latitude] w).filters) =
      first ++ near :: rest := by
    rw [← hcentred]
    show FiltersOf.clauses { w.filters with
      centre := w.filters.centre.or (some [longitude, latitude]) } = _
    rw [hw, Option.none_or]
  refine ⟨(kind.ownClauses ++ first).map Clause.toJson, rest.map Clause.toJson, ?_, ?_⟩
  · rw [Query.follow_compose, hrequest, hclauses]
    simp
  · rw [Query.follow_compose, hnears, hfilters, ← hnear]
    simp

end SearchWords

/-! ## Command lines of searches -/

/-- What is known before the first word of a search. -/
def SearchWords.start (s : Settings) : SearchWords := { amount := .value s.neighbours }

/-- The words behind the name of a search are read by the grammar of the search. -/
theorem Command.read_search (s : Settings) (kindName : KindName) (words : List String) :
    Command.read s (kindName.command :: words) =
      match (SearchWords.grammar kindName).read (SearchWords.start s) words with
      | .error halt =>
        .error (.ofHalt (some (Forms.search s kindName.command kindName)) halt)
      | .ok (w, []) => .ok (.search kindName w)
      | .ok (_, unknown) => .error (.misuse none (.unknown unknown)) := by
  have hsplit : Form.split (kindName.command :: words) = .ok ([], kindName.command, words) := by
    cases kindName <;> rfl
  have hform : (Forms.all s).find? (·.name = kindName.command) =
      some (Forms.search s kindName.command kindName) := by
    cases kindName <;> rfl
  have hread : (Forms.search s kindName.command kindName).read words =
      (SearchWords.grammar kindName).read (SearchWords.start s) words >>= fun found =>
        .ok (.search kindName found.1, found.2) := rfl
  rw [Command.read, Form.choose, hsplit]
  simp only [hform, hread, List.nil_append]
  cases (SearchWords.grammar kindName).read (SearchWords.start s) words with
  | error halt => rfl
  | ok found =>
    obtain ⟨w, unknown⟩ := found
    cases unknown <;> rfl

/-- The command line is refused: nothing is done, and the exit status is 2. -/
structure IsRefused (s : Settings) (words : List String) : Prop where
  misuse : ∃ form problem, Command.read s words = .error (.misuse form problem)
  status : ∀ u, ∃ report, (run s words).run u = (report, u) ∧ report.ending.status? = some 2

/-- The command line of a search, with the words that give a centre between the others. -/
def lineWith (kindName : KindName) (before given after : List String) : List String :=
  kindName.command :: (before ++ (given ++ after))

/-- The command line asks for the search that other words ask for, near to a point. -/
def AsksNear (s : Settings) (kindName : KindName) (words : List String) (w : SearchWords)
    (longitude latitude : Double) : Prop :=
  ∃ w', Command.read s words = .ok (.search kindName w') ∧
    ∀ operator request, w.request kindName operator = .ok request →
      ∃ near, w'.request kindName operator = .ok near ∧ Nears longitude latitude request near

section

variable {s : Settings} {kindName : KindName} {before given after words : List String}
  {r : Reading SearchWords} {w : SearchWords}

theorem isRefused_of_readOn
    (hbefore : (SearchWords.grammar kindName).Reads (SearchWords.start s) before r)
    (h : ∃ problem, (SearchWords.grammar kindName).readOn r words = .error (.misuse problem)) :
    IsRefused s (kindName.command :: (before ++ words)) := by
  obtain ⟨problem, hproblem⟩ := h
  have hread : Command.read s (kindName.command :: (before ++ words)) =
      .error (.misuse (some (Forms.search s kindName.command kindName)) problem) := by
    rw [Command.read_search, hbefore.read_append, hproblem]
    rfl
  refine ⟨⟨_, _, hread⟩, fun u => ?_⟩
  rw [run, hread]
  exact ⟨_, rfl, rfl⟩

/-- What is refused is not read. -/
theorem IsRefused.read_ne (h : IsRefused s words) (command : Command) :
    Command.read s words ≠ .ok command := by
  obtain ⟨_, _, hmisuse⟩ := h.misuse
  rw [hmisuse]
  exact nofun

theorem read_eq_ok_of_search
    (h : Command.read s (kindName.command :: words) = .ok (.search kindName w)) :
    (SearchWords.grammar kindName).read (SearchWords.start s) words = .ok (w, []) := by
  rw [Command.read_search] at h
  split at h
  case h_1 => cases h
  case h_2 hread =>
    obtain ⟨-, rfl⟩ := Command.search.inj (Except.ok.inj h)
    exact hread
  case h_3 => cases h

theorem asksNear_of_readOn {longitude latitude : Double}
    (hbefore : (SearchWords.grammar kindName).Reads (SearchWords.start s) before r)
    (hafter : after.head? ≠ some "--")
    (hgiven : (SearchWords.grammar kindName).readOn r (given ++ after) =
      (SearchWords.grammar kindName).readOn (SearchWords.located [longitude, latitude] r) after)
    (hread : Command.read s (kindName.command :: (before ++ after)) = .ok (.search kindName w))
    (hw : w.filters.centre = none) :
    AsksNear s kindName (lineWith kindName before given after) w longitude latitude := by
  have hcentred := SearchWords.read_centred kindName hbefore hafter hgiven
    (read_eq_ok_of_search hread) hw
  refine ⟨SearchWords.centred [longitude, latitude] w, ?_, fun operator request h =>
    SearchWords.exists_nears hw h longitude latitude⟩
  rw [lineWith, Command.read_search, hcentred]

/-- **A centre can be given on the command line just if it does not begin with a minus.**  Between
words that make a search, `--location` and a point of two decimals make the same search near to that
point, longitude first; but if the longitude has a minus, the command line is refused with status 2.
It is also refused if the centre is not two numbers with a comma between them. -/
theorem reads_point_iff
    (hbefore : (SearchWords.grammar kindName).Reads (SearchWords.start s) before r)
    (after : List String) :
    (∀ w longitude latitude, after.head? ≠ some "--" → w.filters.centre = none →
      Command.read s (kindName.command :: (before ++ after)) = .ok (.search kindName w) →
      (AsksNear s kindName
        (lineWith kindName before ["--location", pointText longitude latitude] after) w
        longitude.value latitude.value ↔ longitude.isNegative = false)) ∧
    (∀ longitude latitude, longitude.isNegative = true →
      IsRefused s
        (lineWith kindName before ["--location", pointText longitude latitude] after)) ∧
    ∀ value, (∀ longitude latitude, value = longitude ++ "," ++ latitude →
        Numeral.decimal? longitude = none ∨ Numeral.decimal? latitude = none) →
      IsRefused s (lineWith kindName before ["--location", value] after) := by
  have hnegative (longitude latitude : DecimalText) (h : longitude.isNegative = true) :
      IsRefused s (lineWith kindName before ["--location", pointText longitude latitude] after) :=
    isRefused_of_readOn hbefore
      (SearchWords.exists_misuse_of_isNegative kindName h latitude after)
  refine ⟨fun w longitude latitude hafter hw hread => ⟨?_, fun hpositive => ?_⟩, hnegative,
    fun value hvalue => isRefused_of_readOn hbefore
      (SearchWords.exists_misuse_of_point? kindName (point?_eq_none hvalue) after)⟩
  · rintro ⟨w', hline, -⟩
    by_contra hminus
    exact (hnegative longitude latitude (by simpa using hminus)).read_ne _ hline
  · exact asksNear_of_readOn hbefore hafter
      (SearchWords.readOn_location kindName hpositive latitude after) hread hw

/-- **Attached to the name, every centre can be given**, whatever its signs. -/
theorem reads_attached_point
    (hbefore : (SearchWords.grammar kindName).Reads (SearchWords.start s) before r)
    (hafter : after.head? ≠ some "--") (hw : w.filters.centre = none)
    (hread : Command.read s (kindName.command :: (before ++ after)) = .ok (.search kindName w))
    (longitude latitude : DecimalText) :
    AsksNear s kindName
      (lineWith kindName before ["--location=" ++ pointText longitude latitude] after) w
      longitude.value latitude.value :=
  asksNear_of_readOn hbefore hafter (SearchWords.readOn_attached kindName longitude latitude after)
    hread hw

end

/-- The decimal 30.5. -/
def east : DecimalText := ⟨none, ['3', '0'], some ['5'], by simp [Json.Reader.AllDigits], by simp⟩

/-- The decimal -30.5. -/
def west : DecimalText :=
  ⟨some true, ['3', '0'], some ['5'], by simp [Json.Reader.AllDigits], by simp⟩

/-- The decimal 50.4. -/
def north : DecimalText := ⟨none, ['5', '0'], some ['4'], by simp [Json.Reader.AllDigits], by simp⟩

theorem reads_docs (s : Settings) : ∃ r w,
    (SearchWords.grammar .fulltext).Reads (SearchWords.start s) ["-i", "docs"] r ∧
    Command.read s ["fulltext", "-i", "docs"] = .ok (.search .fulltext w) ∧
    w.filters.centre = none :=
  ⟨_, _, ⟨by decide, _, rfl, rfl⟩, rfl, rfl⟩

/-- East of the zero meridian a search is read, west of it and without a longitude it is refused. -/
theorem reads_point_iff_docs : ∃ s w, Settings.read [] [] {} = .ok s ∧
    Command.read s ["fulltext", "-i", "docs"] = .ok (.search .fulltext w) ∧
    AsksNear s .fulltext ["fulltext", "-i", "docs", "--location", "30.5,50.4"] w
      east.value north.value ∧
    IsRefused s ["fulltext", "-i", "docs", "--location", "-30.5,50.4"] ∧
    IsRefused s ["fulltext", "-i", "docs", "--location", "50.4"] := by
  obtain ⟨s, hs⟩ : ∃ s, Settings.read [] [] {} = .ok s := ⟨_, rfl⟩
  obtain ⟨r, w, hbefore, hread, hw⟩ := reads_docs s
  obtain ⟨hnear, hwest, hnone⟩ := reads_point_iff hbefore []
  refine ⟨s, w, hs, hread, ?_, hwest west north rfl, ?_⟩
  · exact (hnear w east north nofun hw hread).mpr rfl
  · refine hnone "50.4" fun longitude latitude h => ?_
    have hcomma : ',' ∈ "50.4".toList := by
      rw [h]
      simp
    exact absurd hcomma (by decide)

/-- **West of the zero meridian a search is refused** that is read without its centre. -/
theorem not_reads_west : ∃ s w, Settings.read [] [] {} = .ok s ∧
    Command.read s ["fulltext", "-i", "docs"] = .ok (.search .fulltext w) ∧
    point? "-30.5,50.4" = some [west.value, north.value] ∧
    IsRefused s ["fulltext", "-i", "docs", "--location", "-30.5,50.4"] ∧
    ¬AsksNear s .fulltext ["fulltext", "-i", "docs", "--location", "-30.5,50.4"] w
      west.value north.value := by
  obtain ⟨s, hs⟩ : ∃ s, Settings.read [] [] {} = .ok s := ⟨_, rfl⟩
  obtain ⟨r, w, hbefore, hread, -⟩ := reads_docs s
  have hrefused : IsRefused s ["fulltext", "-i", "docs", "--location", "-30.5,50.4"] :=
    isRefused_of_readOn hbefore (SearchWords.exists_misuse_of_isNegative .fulltext
      (show west.isNegative = true from rfl) north [])
  refine ⟨s, w, hs, hread, point?_pointText west north, hrefused, ?_⟩
  rintro ⟨w', hline, -⟩
  exact hrefused.read_ne _ hline

end CommandLine

end SearchGateway
