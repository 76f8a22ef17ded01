import SearchGateway.Proofs.Action
import SearchGateway.Proofs.Json.Lines
import SearchGateway.Proofs.Record.RoundTrip

/-!
# Bulk requests

The text of a bulk request has two lines for every part, since no value has a line break in its
line, and from these lines the identifiers and the parts are read back.
-/

set_option autoImplicit false

namespace SearchGateway

/-! ## Values for a partner -/

namespace Json

theorem encode_eq_ok {layout : Layout} {v : Json} {text : String} :
    v.encode layout = .ok text ↔ v.isWritable = true ∧ text = v.render layout := by
  unfold encode
  split
  case isTrue h => simp [h, eq_comm]
  case isFalse h => simp [h]

end Json

namespace Bulk

/-! ## Lines -/

/-- The lines of a text, as a reader that splits it at its line breaks finds them. -/
def linesOf (text : String) : List String := (text.toList.splitOn '\n').map String.ofList

theorem linesOf_intercalate {lines : List String} (hne : lines ≠ [])
    (hlines : ∀ line ∈ lines, '\n' ∉ line.toList) :
    linesOf ("\n".intercalate lines ++ "\n") = lines ++ [""] := by
  -- The line break at the end makes one more line, which is empty.
  have hlast : "\n".intercalate lines ++ "\n" = "\n".intercalate (lines ++ [""]) := by
    rw [String.intercalate_append_of_ne_nil hne (by simp), String.intercalate_singleton,
      String.append_empty]
  rw [linesOf, hlast, String.toList_intercalate]
  show (List.splitOn '\n' (['\n'].intercalate _)).map _ = _
  rw [List.splitOn_intercalate]
  · simp
  · intro cs hcs
    obtain ⟨line, hline, rfl⟩ := List.mem_map.mp hcs
    rcases List.mem_append.mp hline with h | h
    · exact hlines line h
    · rw [List.mem_singleton.mp h]
      decide
  · simp

/-- The value that the first line of a part stands for. -/
def action (partId : String) : Json := .obj [("index", .obj [("_id", .str partId)])]

/-- The two lines of a part. -/
def linePair (index : String) (part : Part) : List String :=
  [actionLine (part.storedId index), (Record.ofPart part).toJson.render .line]

theorem newline_not_mem_linePair {index : String} {parts : List Part} {line : String}
    (h : line ∈ parts.flatMap (linePair index)) : '\n' ∉ line.toList := by
  obtain ⟨part, -, hline⟩ := List.mem_flatMap.mp h
  rcases List.mem_pair.mp hline with rfl | rfl
  · exact Json.newline_not_mem_render Json.Layout.oneLine_line _
  · exact Json.newline_not_mem_render Json.Layout.oneLine_line _

/-- The lines of the parts stand in pairs, one pair for each part. -/
theorem getElem?_linePair (index : String) (parts : List Part) (i : ℕ) :
    (parts.flatMap (linePair index))[2 * i]? =
        parts[i]?.map (fun part => actionLine (part.storedId index)) ∧
      (parts.flatMap (linePair index))[2 * i + 1]? =
        parts[i]?.map (fun part => (Record.ofPart part).toJson.render .line) := by
  induction parts generalizing i with
  | nil => simp
  | cons part parts ih =>
    cases i with
    | zero => exact ⟨rfl, rfl⟩
    | succ i => exact ih i

theorem length_linePair (index : String) (parts : List Part) :
    (parts.flatMap (linePair index)).length = 2 * parts.length := by
  induction parts with
  | nil => rfl
  | cons part parts ih =>
    rw [List.flatMap_cons, List.length_append, ih, List.length_cons]
    show 2 + _ = _
    omega

/-! ## The text -/

/-- Whether the numbers of a part have a text. -/
def IsWritable (part : Part) : Prop := (Record.ofPart part).toJson.isWritable = true

theorem partLines_eq_ok {index : String} {part : Part} {lines : List String} :
    partLines index part = .ok lines ↔ IsWritable part ∧ lines = linePair index part := by
  rw [partLines, recordLine, IsWritable, linePair]
  cases h : (Record.ofPart part).toJson.encode .line with
  | error defect =>
    have hnot : (Record.ofPart part).toJson.isWritable ≠ true := by
      intro hw
      rw [Json.encode_eq_ok.mpr ⟨hw, rfl⟩] at h
      cases h
    simp [hnot, bind, Except.bind]
  | ok text =>
    obtain ⟨hw, rfl⟩ := Json.encode_eq_ok.mp h
    simp [hw, bind, Except.bind, pure, Except.pure, eq_comm]

theorem mapM_partLines_eq_ok {index : String} {parts : List Part} {pairs : List (List String)} :
    parts.mapM (partLines index) = .ok pairs ↔
      (∀ part ∈ parts, IsWritable part) ∧ pairs = parts.map (linePair index) := by
  induction parts generalizing pairs with
  | nil => simp [pure, Except.pure, eq_comm]
  | cons part parts ih =>
    rw [List.mapM_cons, List.forall_mem_cons, List.map_cons]
    constructor
    · intro h
      cases hpart : partLines index part with
      | error defect => simp [hpart, bind, Except.bind] at h
      | ok lines =>
        cases hparts : parts.mapM (partLines index) with
        | error defect => simp [hpart, hparts, bind, Except.bind] at h
        | ok more =>
          obtain ⟨hw, rfl⟩ := partLines_eq_ok.mp hpart
          obtain ⟨hws, rfl⟩ := ih.mp hparts
          simp only [hpart, hparts, bind, Except.bind, pure, Except.pure, Except.ok.injEq] at h
          exact ⟨⟨hw, hws⟩, h.symm⟩
    · rintro ⟨⟨hw, hws⟩, rfl⟩
      rw [partLines_eq_ok.mpr ⟨hw, rfl⟩, ih.mpr ⟨hws, rfl⟩]
      rfl

/-- **A bulk request has a text if the numbers of its parts have one, and it is the lines of its
parts in order.** -/
theorem text_eq_ok {index : String} {parts : List Part} {text : String} :
    Bulk.text index parts = .ok text ↔ (∀ part ∈ parts, IsWritable part) ∧
      text = "\n".intercalate (parts.flatMap (linePair index)) ++ "\n" := by
  rw [Bulk.text]
  constructor
  · intro h
    cases hpairs : parts.mapM (partLines index) with
    | error defect => simp [hpairs, bind, Except.bind] at h
    | ok pairs =>
      obtain ⟨hw, rfl⟩ := mapM_partLines_eq_ok.mp hpairs
      simp only [hpairs, bind, Except.bind, pure, Except.pure, Except.ok.injEq] at h
      exact ⟨hw, by rw [← h, List.flatMap_def]⟩
  · rintro ⟨hw, rfl⟩
    rw [mapM_partLines_eq_ok.mpr ⟨hw, rfl⟩, List.flatMap_def]
    rfl

/-! ## The way back -/

theorem parse_actionLine (partId : String) :
    Json.parse Exchange.depth (actionLine partId) = .ok (action partId) :=
  Json.parse_render Json.Layout.lawful_line rfl rfl

/-- The record line of a part stands for its stored form. -/
theorem parse_recordLine {part : Part} (hw : IsWritable part) :
    Json.parse Exchange.depth ((Record.ofPart part).toJson.render .line) =
      .ok (.obj (Record.ofPart part).toFields) :=
  Json.parse_render Json.Layout.lawful_line hw (Record.fits_ofPart part 975)

/-- The identifier in the value of a first line. -/
def idOf? (value : Json) : Option String :=
  match (value.get? "index").bind (·.get? "_id") with
  | some (.str partId) => some partId
  | _ => none

/-- What an engine takes from the lines of a bulk request: under every identifier an object. -/
def entriesOfLines : List String → List (String × Json.Fields)
  | first :: second :: rest =>
    match Json.parse Exchange.depth first, Json.parse Exchange.depth second with
    | .ok value, .ok (.obj body) =>
      match idOf? value with
      | some partId => (partId, body) :: entriesOfLines rest
      | none => entriesOfLines rest
    | _, _ => entriesOfLines rest
  | _ => []

/-- What an engine takes from the text of a bulk request. -/
def entriesOf (text : String) : List (String × Json.Fields) := entriesOfLines (linesOf text)

/-- What an engine takes of a part. -/
def entry (index : String) (part : Part) : String × Json.Fields :=
  (part.storedId index, (Record.ofPart part).toFields)

theorem entry_injective (index : String) : Function.Injective (entry index) := by
  intro part other h
  have hsource := congrArg (fun entry => Record.part? entry.2) h
  simpa only [entry, Record.part?_toFields, Option.some.injEq] using hsource

theorem entriesOfLines_linePair (index : String) {parts : List Part}
    (hw : ∀ part ∈ parts, IsWritable part) :
    entriesOfLines (parts.flatMap (linePair index) ++ [""]) = parts.map (entry index) := by
  induction parts with
  | nil => rfl
  | cons part parts ih =>
    rw [List.forall_mem_cons] at hw
    simp only [List.flatMap_cons, linePair, List.cons_append, List.nil_append] at ih ⊢
    rw [entriesOfLines, parse_actionLine, parse_recordLine hw.1, ih hw.2]
    rfl

/-- **An engine takes every part from a bulk request**, under its identifier and in order. -/
theorem entriesOf_eq {index text : String} {parts : List Part} (hne : parts ≠ [])
    (htext : Bulk.text index parts = .ok text) : entriesOf text = parts.map (entry index) := by
  obtain ⟨hw, rfl⟩ := text_eq_ok.mp htext
  have hlines : parts.flatMap (linePair index) ≠ [] := by
    obtain ⟨part, rest, rfl⟩ := List.exists_cons_of_ne_nil hne
    simp [linePair]
  rw [entriesOf, linesOf_intercalate hlines fun line hline => newline_not_mem_linePair hline,
    entriesOfLines_linePair index hw]

/-- **A record line is read as its part** by a search whose answer has it as the source of a hit. -/
theorem ofJson_of_shows (part : Part) {answer hit : Json.Fields}
    (hhits : Extract.hitValues? answer = some [.obj hit])
    (hhit : Hit.Shows hit (Record.ofPart part).toFields) :
    ∃ e h, Extract.ofJson (.obj answer) = .ok e ∧ e.notices = [] ∧ e.page.hits = [h] ∧
      h.part = part := by
  obtain ⟨h, hread, hpart⟩ := Hit.read?_of_shows hhit (Record.readFields_toFields _)
  rw [Record.toPart_ofPart] at hpart
  have hpage : (Extract.ofFields answer).page.hits = [h] := by
    simp [Extract.ofFields, hhits, hread]
  refine ⟨Extract.ofFields answer, h, rfl, ?_, hpage, hpart⟩
  rw [Extract.notices, hpage]
  simp [Extract.ofFields, hhits]

/-- The request with a given text. -/
def request (index text : String) : EngineRequest :=
  ⟨"POST", "/" ++ index ++ "/_bulk", [], .lines text⟩

end Bulk

namespace Engine

/-- What storing parts comes to: one request, whose answer has to acknowledge it. -/
theorem runIn_storeParts (engine : Engine) {index text : String} {first : Part} {rest : List Part}
    (htext : Bulk.text index (first :: rest) = .ok text) (s : Surroundings) :
    (engine.storeParts index (first :: rest)).runIn s =
      let t := s.asked engine.connection (Bulk.request index text)
      match s.reply.outcome "POST" ("/" ++ index ++ "/_bulk") >>= Bulk.acknowledge with
      | .error fault => (.error fault, t)
      | .ok () => (.ok ⟨first.documentId, first.storedId index, rest.length + 1⟩,
          t.noting (.logged ⟨.info,
            s!"Stored {rest.length + 1} parts of {first.file.name} in {index}"⟩)) := by
  rw [storeParts, htext]
  rw [Action.runIn_bind_of_ok (Action.runIn_ofDefect (.ok text) s), Action.runIn_bind,
    Engine.runIn_request]
  dsimp only
  cases s.reply.outcome "POST" ("/" ++ index ++ "/_bulk") with
  | error fault => rfl
  | ok answer =>
    dsimp only
    rw [Action.runIn_bind, Action.runIn_ofExcept]
    cases hanswer : Bulk.acknowledge answer with
    | error fault => simp [bind, Except.bind, hanswer, Bulk.request]
    | ok _ => simp [bind, Except.bind, hanswer, Bulk.request]; rfl

/-- Parts that cannot all be written are not sent. -/
theorem runIn_storeParts_of_defect (engine : Engine) {index : String} {first : Part}
    {rest : List Part} {defect : Defect} (htext : Bulk.text index (first :: rest) = .error defect)
    (s : Surroundings) :
    (engine.storeParts index (first :: rest)).runIn s = (.error (.defect defect), s) := by
  rw [storeParts, htext]
  rfl

/-- Storing parts takes at most one request. -/
theorem requests_storeParts (engine : Engine) (index : String) (parts : List Part)
    (s : Surroundings) :
    ∃ asked, ((engine.storeParts index parts).runIn s).2.requests = asked ++ s.requests := by
  cases parts with
  | nil => exact ⟨[], rfl⟩
  | cons first rest =>
    cases htext : Bulk.text index (first :: rest) with
    | error defect => exact ⟨[], by rw [runIn_storeParts_of_defect engine htext]; rfl⟩
    | ok text =>
      refine ⟨[Bulk.request index text], ?_⟩
      rw [runIn_storeParts engine htext]
      dsimp only
      split
      · rfl
      · rfl

theorem keeps_storeParts {γ : Type} {view : Surroundings → γ} (hview : OverlooksEngine view)
    (engine : Engine) (index : String) (parts : List Part) :
    Action.Keeps view (engine.storeParts index parts) := by
  cases parts with
  | nil => exact Action.keeps_throw _
  | cons first rest =>
    exact (Action.keeps_ofDefect _).bind fun _ => (engine.keeps_request hview _).bind fun _ =>
      (Action.keeps_ofExcept _).bind fun _ =>
        Action.Keeps.bind (fun s => hview.logged s _) fun _ => Action.keeps_pure _

/-- What was done if parts were stored. -/
theorem storeParts_ok {engine : Engine} {index : String} {parts : List Part} {stored : Stored}
    {s t : Surroundings} (h : (engine.storeParts index parts).runIn s = (.ok stored, t)) :
    ∃ first rest text, parts = first :: rest ∧ Bulk.text index parts = .ok text ∧
      t.requests = Bulk.request index text :: s.requests ∧
      stored = ⟨first.documentId, first.storedId index, parts.length⟩ := by
  cases parts with
  | nil => cases h
  | cons first rest =>
    cases htext : Bulk.text index (first :: rest) with
    | error defect =>
      rw [runIn_storeParts_of_defect engine htext] at h
      cases h
    | ok text =>
      rw [runIn_storeParts engine htext] at h
      dsimp only at h
      split at h
      · cases h
      · obtain ⟨hstored, rfl⟩ := Prod.mk.inj h
        exact ⟨first, rest, text, rfl, rfl, rfl, (Except.ok.inj hstored).symm⟩

/-- **The parts that are stored are on the wire, two lines each, and can be read back from it.**
Whatever the engine answers, one text is sent to it; it consists of the lines of the parts in order
and an empty line at the end, the first line of a part stands for its identifier, and the second one
for an object that is read as the part. -/
theorem storeParts_on_wire (engine : Engine) (index : String) {parts : List Part}
    (hparts : parts ≠ [])
    (hnumbers : ∀ part ∈ parts, (Record.ofPart part).toJson.isWritable = true)
    (s : Surroundings) :
    ∃ text lines,
      ((engine.storeParts index parts).runIn s).2.requests =
        ⟨"POST", "/" ++ index ++ "/_bulk", [], .lines text⟩ :: s.requests ∧
      Bulk.linesOf text = lines ++ [""] ∧ lines.length = 2 * parts.length ∧
      ∀ (i : ℕ) (hi : i < parts.length),
        lines[2 * i]?.map (Json.parse Exchange.depth) =
          some (.ok (.obj [("index", .obj [("_id", .str (parts[i].storedId index))])])) ∧
        ∃ source, lines[2 * i + 1]?.map (Json.parse Exchange.depth) = some (.ok (.obj source)) ∧
          ∀ answer hit, Extract.hitValues? answer = some [.obj hit] → Hit.Shows hit source →
            ∃ e h, Extract.ofJson (.obj answer) = .ok e ∧ e.notices = [] ∧ e.page.hits = [h] ∧
              h.part = parts[i] := by
  obtain ⟨first, rest, rfl⟩ := List.exists_cons_of_ne_nil hparts
  obtain ⟨text, hjoined⟩ : ∃ text, text =
      "\n".intercalate ((first :: rest).flatMap (Bulk.linePair index)) ++ "\n" := ⟨_, rfl⟩
  have htext := Bulk.text_eq_ok.mpr ⟨hnumbers, hjoined⟩
  have hne : (first :: rest).flatMap (Bulk.linePair index) ≠ [] := by simp [Bulk.linePair]
  have hlines := Bulk.linesOf_intercalate hne fun line hline => Bulk.newline_not_mem_linePair hline
  rw [← hjoined] at hlines
  have hrequests : ((engine.storeParts index (first :: rest)).runIn s).2.requests =
      Bulk.request index text :: s.requests := by
    rw [runIn_storeParts engine htext s]
    dsimp only
    split
    · rfl
    · rfl
  refine ⟨text, _, hrequests, hlines, Bulk.length_linePair index _, fun i hi => ?_⟩
  obtain ⟨haction, hrecord⟩ := Bulk.getElem?_linePair index (first :: rest) i
  rw [haction, hrecord, List.getElem?_eq_getElem hi]
  have hw := hnumbers _ (List.getElem_mem hi)
  refine ⟨congrArg some (Bulk.parse_actionLine _), _, congrArg some (Bulk.parse_recordLine hw), ?_⟩
  exact fun answer hit hhits hhit => Bulk.ofJson_of_shows _ hhits hhit

/-- A client in its plainest form. -/
def plain : Engine where
  identity := 0
  connection := { timeout := Double.oneFifth }

end Engine

/-- A part with what is easily lost on the way: line breaks, quotes, characters beyond the basic
plane, lists that are empty and lists that are missing. -/
def Part.intricate : Part where
  documentId := "\n\"\\"
  number := 0
  file := ⟨"𝒜.md", "a\u2028b", -7, 0, 1⟩
  content := some "one\ntwo\t\x01"
  chunks := some []
  embeddings := none
  metadata := some {
    photo := none
    pipelineId := some 12
    source := some ""
    semanticSource := none
    summary := none
    locations := [⟨"here", Double.oneFifth, .infinite true⟩]
    subjects := ["b", "a", "b"]
    classes := [⟨"c", .nan⟩]
    icons := []
    groups := []
    pipelines := [""]
    references := [] }

theorem Engine.storeParts_on_wire_intricate :
    ([Part.intricate] ≠ [] ∧
      ∀ part ∈ [Part.intricate], (Record.ofPart part).toJson.isWritable = true) ∧
    ∃ text lines,
      ((Engine.plain.storeParts "notes" [Part.intricate]).runIn (.answering [])).2.requests =
        [⟨"POST", "/" ++ "notes" ++ "/_bulk", [], .lines text⟩] ∧
      Bulk.linesOf text = lines ++ [""] ∧ lines.length = 2 * [Part.intricate].length ∧
      ∀ (i : ℕ) (hi : i < [Part.intricate].length),
        lines[2 * i]?.map (Json.parse Exchange.depth) = some (.ok
          (.obj [("index", .obj [("_id", .str ([Part.intricate][i].storedId "notes"))])])) ∧
        ∃ source, lines[2 * i + 1]?.map (Json.parse Exchange.depth) = some (.ok (.obj source)) ∧
          ∀ answer hit, Extract.hitValues? answer = some [.obj hit] → Hit.Shows hit source →
            ∃ e h, Extract.ofJson (.obj answer) = .ok e ∧ e.notices = [] ∧ e.page.hits = [h] ∧
              h.part = [Part.intricate][i] := by
  have hne : [Part.intricate] ≠ [] := by decide
  have hw : ∀ part ∈ [Part.intricate], (Record.ofPart part).toJson.isWritable = true := by
    rw [List.forall_mem_singleton]
    decide
  exact ⟨⟨hne, hw⟩, Engine.storeParts_on_wire Engine.plain "notes" hne hw (.answering [])⟩

end SearchGateway
