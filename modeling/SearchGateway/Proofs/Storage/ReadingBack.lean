import SearchGateway.Proofs.Document
import SearchGateway.Proofs.Series
import SearchGateway.Proofs.Storage.Ingesting

/-!
# Reading a document back

The parts of a stored document come back from the engine in any order and cut into pages at any
places.  Whatever order and cuts, they are read as the parts the document was divided into, in the
order of their numbers (`Storage.reads_back_stored`).
-/

set_option autoImplicit false

namespace SearchGateway

open SearchGateway.Action

/-! ## Sources without embeddings -/

/-- The fields of a source are those of a stored form, but for its embeddings. -/
def Record.Conceals (source body : Json.Fields) : Prop :=
  ∀ key, source.get? key = if key = "embeddings" then none else body.get? key

/-- The stored form of a part without its embeddings conceals just them. -/
theorem Record.conceals_stored (part : Part) :
    Conceals (ofPart { part with embeddings := none }).toFields (ofPart part).toFields := by
  intro key
  have herase := erase_embeddings (ofPart part)
  rw [← Json.Fields.get?_erase, herase]
  rfl

/-- A source without embeddings is read as the part without them. -/
theorem Record.part?_of_conceals {source : Json.Fields} {part : Part}
    (h : Conceals source (ofPart part).toFields) :
    part? source = some { part with embeddings := none } := by
  have hget (key : String) :
      source.get? key = Json.Fields.get? (Association.erase "embeddings" (ofPart part).toFields)
        key := by
    rw [h key]
    exact (Json.Fields.get?_erase ..).symm
  rw [part?, readFields_congr hget, erase_embeddings, readFields_toFields]
  exact congrArg some (toPart_ofPart { part with embeddings := none })

theorem Record.map_part?_of_conceals {sources : List Json.Fields} {parts : List Part}
    (h : List.Forall₂ Conceals sources (parts.map fun part => (ofPart part).toFields)) :
    sources.map part? = (parts.map fun part => { part with embeddings := none }).map some := by
  induction parts generalizing sources with
  | nil =>
    cases h
    rfl
  | cons part parts ih =>
    cases h with
    | cons hpart hparts =>
      rw [List.map_cons, part?_of_conceals hpart, ih hparts]
      rfl

/-! ## The order of parts -/

/-- Parts in any order are put in the order of their numbers. -/
theorem Part.mergeSort_number {found parts : List Part} (hperm : found.Perm parts)
    (hparts : parts.Pairwise fun a b => a.number < b.number) :
    (found.mergeSort fun a b => decide (a.number ≤ b.number)) = parts := by
  have hsorted : (found.mergeSort fun a b => decide (a.number ≤ b.number)).Pairwise
      fun a b => decide (a.number ≤ b.number) = true :=
    List.pairwise_mergeSort (by simp only [decide_eq_true_eq]; intro a b c; omega)
      (by simp only [Bool.or_eq_true, decide_eq_true_eq]; intro a b; omega) found
  have hfound : (found.mergeSort fun a b => decide (a.number ≤ b.number)).Perm parts :=
    (List.mergeSort_perm found _).trans hperm
  -- Numbers order the parts strictly, so there is no other way to put them in order.
  have hnodup : (parts.map Part.number).Nodup := by
    rw [List.Nodup, List.pairwise_map]
    exact hparts.imp ne_of_lt
  refine List.Perm.eq_of_pairwise ?_ hsorted (hparts.imp fun h => decide_eq_true h.le) hfound
  intro a b ha hb hab hba
  rw [decide_eq_true_eq] at hab hba
  exact List.inj_on_of_nodup_map hnodup (hfound.subset ha) hb (le_antisymm hab hba)

/-! ## The parts of a document -/

namespace Storage

/-- A part as it is shown to those who read a document: with its content as its only chunk if it
was embedded, and without the embedding. -/
def asShown (embedder : Option Embedder) (part : Part) : Part :=
  { part with chunks := embedder.map fun _ => part.content.toList, embeddings := none }

/-- What is shown of a part is what was sent of it, but for its embeddings. -/
theorem IsStoredAs.asShown_eq {embedder : Option Embedder} {document : Document}
    {documentId content : String} {n : ℕ} {sent : Part}
    (h : IsStoredAs embedder (Segment.part document documentId n content) sent) :
    { sent with embeddings := none } =
      asShown embedder (Segment.part document documentId n content) := by
  cases embedder with
  | none =>
    obtain rfl := h
    rfl
  | some e =>
    obtain ⟨embedding, rfl⟩ := h
    rfl

theorem map_asShown {embedder : Option Embedder} {document : Document} {parts sent : List Part}
    (hparts : ∀ part ∈ parts, ∃ n content, part = Segment.part document document.id n content)
    (hsent : List.Forall₂ (IsStoredAs embedder) parts sent) :
    (sent.map fun part => { part with embeddings := none }) = parts.map (asShown embedder) := by
  induction hsent with
  | nil => rfl
  | cons hpart _ ih =>
    rw [List.forall_mem_cons] at hparts
    obtain ⟨⟨n, content, rfl⟩, hrest⟩ := hparts
    rw [List.map_cons, List.map_cons, hpart.asShown_eq, ih hrest]

/-- The numbers of the parts of a document grow. -/
theorem pairwise_number {embedder : Option Embedder} {document : Document} {maxSize : ℤ}
    {rate : Double} {parts : List Part}
    (hparts : Segment.divide document maxSize rate = .ok parts) :
    (parts.map (asShown embedder)).Pairwise fun a b => a.number < b.number := by
  rw [Segment.divide_ok hparts, List.pairwise_map, List.pairwise_iff_getElem]
  intro i j hi hj hij
  rw [List.getElem_mapIdx, List.getElem_mapIdx]
  show (i : ℤ) < (j : ℤ)
  exact_mod_cast hij

/-- What a session shows of sources that can be read is put in order. -/
theorem runIn_getDocumentParts (storage : Storage) (index documentId : String)
    {replies rest : List Reply} {sources : List Json.Fields} {found : List Part}
    (hsession : Session replies sources) (hfound : sources.map Record.part? = found.map some)
    {s : Surroundings} (hreplies : s.engineReplies = replies ++ rest) :
    ∃ t, (storage.getDocumentParts index documentId).runIn s =
      (.ok (found.mergeSort fun a b => decide (a.number ≤ b.number)), t) ∧
        t.engineReplies = rest := by
  obtain ⟨opening, closes, answers, rfl, hparts⟩ := hsession.exists_parts hfound
  obtain ⟨⟨result, t⟩, hrun⟩ : ∃ run, (storage.getDocumentParts index documentId).runIn s = run :=
    ⟨_, rfl⟩
  obtain ⟨-, hread⟩ := getDocumentParts_reading hrun
  have hopening := hreplies.trans (List.append_assoc ..)
  have hagree := hread.agree hopening (List.forall₂_map_right_iff.mpr hparts.gives)
  rw [List.map_map] at hagree
  have hturns := turns_eq_shown hparts.series hread hagree
  rw [hparts.shown] at hturns
  have hlength : (s.turns t).length = opening.length := by
    rw [hturns, List.length_map, hparts.gives.length_eq]
  have hcloses : (s.closes t).length = closes.length := by
    rw [hread.closes, List.length_map, hturns, Extract.cursor?_of_answers, hparts.closing]
  -- The reply after those to the turns is the one to the request that closes the session.
  have hclosed : s.closeFault? t = none := by
    cases closes with
    | nil =>
      rw [Surroundings.closeFault?, List.eq_nil_of_length_eq_zero hcloses, List.findSome?_nil]
    | cons close closes =>
      apply hread.closeFault?_eq_none
      have hanswer : s.answer (s.turns t).length = close := by
        rw [Surroundings.answer, hlength, hopening]
        simp
      rw [hanswer]
      exact hparts.acknowledges close List.mem_cons_self "DELETE" "/_search/scroll"
  have hresult := reads_shown hparts.series hrun hagree hclosed
  rw [hparts.shown, hparts.parts] at hresult
  refine ⟨t, by rw [hrun, hresult], ?_⟩
  rw [hread.replies, hlength, hcloses, hreplies, ← List.length_append]
  exact List.drop_left

/-- A part whose stored form the engine gives is read with all it has. -/
theorem runIn_getDocumentPart (storage : Storage) (index : String) {partId : String}
    (hne : partId ≠ "")
    {reply : Reply} {rest : List Reply} {answer source : Json.Fields} {part : Part}
    (hgives : reply.Gives answer) (hshows : Hit.Shows answer source)
    (hsource : ∀ key, source.get? key = (Record.ofPart part).toFields.get? key)
    {s : Surroundings} (hreplies : s.engineReplies = reply :: rest) :
    ∃ t, (storage.getDocumentPart index partId).runIn s = (.ok part, t) ∧
      t.engineReplies = rest := by
  have hempty : partId.isEmpty = false := by simpa using hne
  obtain ⟨hit, hread, hpart⟩ := Hit.read?_of_shows hshows
    ((Record.readFields_congr hsource).trans (Record.readFields_toFields _))
  rw [Record.toPart_ofPart] at hpart
  rw [getDocumentPart, hempty, if_neg (by simp)]
  dsimp only
  rw [Engine.getPart, runIn_bind_of_ok (Engine.runIn_request_of_gives hreplies hgives), hread]
  dsimp only
  rw [hpart]
  exact ⟨_, rfl, Surroundings.engineReplies_asked_of_cons hreplies _ _⟩

/-- **A document is read back as it was divided.**  Once it is stored, the request that stored it
carries an object for every part, under the identifier of the part.  If the engine shows these
objects without their embeddings, each once, in any order and cut into any pages, then the parts are
read in their order, field for field, with their content as the only chunk if they were embedded.
If it shows the object under an identifier, then the part is read as it was sent, with its
embedding. -/
theorem reads_back_stored {storage : Storage} {index : String} {document : Document}
    {stored : Stored} {s t : Surroundings}
    (h : (storage.storeDocument index document).runIn s = (.ok stored, t)) :
    ∃ (parts sent : List Part) (text : String),
      Segment.divide document storage.maxSize storage.overlapRate = .ok parts ∧
      (∃ u v, (embedParts storage.embedder parts).runIn u = (.ok sent, v)) ∧
      t.requests = ⟨"POST", "/" ++ index ++ "/_bulk", [], .lines text⟩ ::
        Engine.descriptionRequest index :: s.requests ∧
      Bulk.entriesOf text =
        sent.map (fun part => (part.storedId index, (Record.ofPart part).toFields)) ∧
      (∀ (arranged sources : List Json.Fields) (replies rest : List Reply) (u : Surroundings),
        arranged.Perm ((Bulk.entriesOf text).map Prod.snd) →
        List.Forall₂ Record.Conceals sources arranged → Session replies sources →
        u.engineReplies = replies ++ rest →
        ∃ v, (storage.getDocumentParts index document.id).runIn u =
          (.ok (parts.map (asShown storage.embedder)), v) ∧ v.engineReplies = rest) ∧
      ∀ (i : ℕ) (part sentPart : Part) (partId : String) (body : Json.Fields),
        parts[i]? = some part → sent[i]? = some sentPart →
        (Bulk.entriesOf text)[i]? = some (partId, body) →
        partId = part.storedId index ∧ IsStoredAs storage.embedder part sentPart ∧
        ∀ (answer source : Json.Fields) (reply : Reply) (rest : List Reply) (u : Surroundings),
          (∀ key, source.get? key = body.get? key) → Hit.Shows answer source →
          reply.Gives answer → u.engineReplies = reply :: rest →
          ∃ v, (storage.getDocumentPart index partId).runIn u = (.ok sentPart, v) ∧
            v.engineReplies = rest := by
  obtain ⟨parts, sent, text, hstores, hrequests, -⟩ := storeDocument_ok h
  have hsent := hstores.storedAs
  have hentries := Bulk.entriesOf_eq hstores.nonempty hstores.written
  have hparts : ∀ part ∈ parts, ∃ n content,
      part = Segment.part document document.id n content := by
    intro part hpart
    obtain ⟨n, content, -, heq⟩ := Segment.mem_divide hstores.divided hpart
    exact ⟨n, content, heq⟩
  refine ⟨parts, sent, text, hstores.divided, hstores.embedded, hrequests, hentries, ?_, ?_⟩
  · intro arranged sources replies rest u hperm hconceals hsession hreplies
    rw [hentries, List.map_map] at hperm
    -- The parts in the order in which their stored forms come.
    have hbodies : List.Forall₂ (fun body part => body = (Record.ofPart part).toFields)
        (sent.map (Prod.snd ∘ Bulk.entry index)) sent := by
      rw [List.forall₂_map_left_iff]
      exact List.forall₂_same.mpr fun part _ => rfl
    obtain ⟨found, hfound, hsame⟩ := List.perm_comp_forall₂ hperm hbodies
    have harranged : arranged = found.map fun part => (Record.ofPart part).toFields := by
      rw [← List.forall₂_eq_eq_eq, List.forall₂_map_right_iff]
      exact hfound
    rw [harranged] at hconceals
    obtain ⟨v, hrun, hv⟩ := storage.runIn_getDocumentParts index document.id hsession
      (Record.map_part?_of_conceals hconceals) hreplies
    have hshown : (found.map fun part => { part with embeddings := none }).Perm
        (parts.map (asShown storage.embedder)) := by
      rw [← map_asShown hparts hsent]
      exact hsame.map _
    rw [hrun, Part.mergeSort_number hshown (pairwise_number hstores.divided)]
    exact ⟨v, rfl, hv⟩
  · intro i part sentPart partId body hpart hsentPart hentry
    rw [hentries, List.getElem?_map, hsentPart] at hentry
    obtain ⟨rfl, rfl⟩ := Prod.mk.inj (Option.some.inj hentry)
    obtain ⟨hi, rfl⟩ := List.getElem?_eq_some_iff.mp hpart
    obtain ⟨hi', rfl⟩ := List.getElem?_eq_some_iff.mp hsentPart
    refine ⟨(hsent.get hi hi').storedId_eq index, hsent.get hi hi', ?_⟩
    intro answer source reply rest u hsource hshows hgives hreplies
    exact storage.runIn_getDocumentPart index (Digest.ofText_ne_empty _) hgives hshows hsource
      hreplies

end Storage

/-! ## A document in three parts -/

namespace Storage

/-- A document that is cut into single characters. -/
def note : Document := ⟨⟨"a.md", "docs/a.md", 3, 1, 2⟩, "abc", none⟩

/-- A part of it. -/
def noted (n : ℕ) (content : String) : Part := Segment.part note note.id n content

theorem divide_note : Segment.divide note encoding.maxSize encoding.overlapRate =
    .ok [noted 0 "a", noted 1 "b", noted 2 "c"] := by
  have hwidth : Segment.overlapWidth 1 Double.oneFifth = .ok 0 := by decide
  have hcount : Segment.partCount note.content.toList.length 1 Double.oneFifth = .ok 3 := by decide
  exact Segment.divide_cut (by decide) (by decide) hwidth (by decide) (by decide) hcount (by decide)

/-- Surroundings in which the note is stored. -/
def storing : Surroundings := { Surroundings.answering acknowledging with modelRest := output }

theorem acknowledges_storing : Acknowledges 1 storing := ⟨rfl, rfl, rfl⟩

theorem runIn_storeDocument_note : ∃ stored t,
    (encoding.storeDocument "notes" note).runIn storing = (.ok stored, t) := by
  have hw : ∀ part ∈ [noted 0 "a", noted 1 "b", noted 2 "c"],
      Bulk.IsWritable (part.embedded fun _ => output.embedding) := by
    simp only [List.forall_mem_cons, List.not_mem_nil, false_implies, implies_true, and_true]
    exact ⟨rfl, rfl, rfl⟩
  obtain ⟨stored, t, hrun, -⟩ := runIn_storeDocument_encoding divide_note hw acknowledges_storing
  exact ⟨stored, t, hrun⟩

/-- The hit that shows a source. -/
def hitOf (source : Json.Fields) : Json.Fields :=
  [("_id", .str "x"), ("_index", .str "notes"), ("_source", .obj source)]

theorem shows_hitOf (source : Json.Fields) : Hit.Shows (hitOf source) source :=
  ⟨⟨_, rfl⟩, ⟨_, rfl⟩, rfl, ⟨_, rfl⟩, ⟨_, rfl⟩⟩

/-- An answer with a cursor or none, whose hits show sources. -/
def pageOf (cursor : Option String) (sources : List Json.Fields) : Json.Fields :=
  (cursor.map fun text => ("_scroll_id", .str text)).toList ++
    [("hits", .obj [("hits", .arr ((sources.map hitOf).map .obj))])]

theorem showsAll_pageOf (cursor : Option String) (sources : List Json.Fields) :
    ShowsAll (pageOf cursor sources) sources := by
  refine ⟨sources.map hitOf, by cases cursor <;> rfl, ?_⟩
  exact List.forall₂_map_left_iff.mpr (List.forall₂_same.mpr fun source _ => shows_hitOf source)

/-- The stored form of a part without its embedding. -/
def bare (part : Part) : Json.Fields := (Record.ofPart (asShown encoding.embedder part)).toFields

/-- The last part and the first. -/
def firstPage : Json.Fields :=
  pageOf (some "two") [bare (noted 2 "c"), bare (noted 0 "a")]

/-- The part between them. -/
def secondPage : Json.Fields := pageOf none [bare (noted 1 "b")]

theorem session_note : Session [.rendered (.obj firstPage), .rendered (.obj secondPage)]
    [bare (noted 2 "c"), bare (noted 0 "a"), bare (noted 1 "b")] :=
  .more (Reply.outcome_rendered (by decide) (by decide)) (showsAll_pageOf _ _)
    (List.cons_ne_nil _ _) rfl (by decide)
    (.last (Reply.outcome_rendered (by decide) (by decide)) (showsAll_pageOf _ _) rfl)

/-- The part in the middle as it is stored. -/
def middle : Part := (noted 1 "b").embedded fun _ => output.embedding

/-- The note is stored in three parts.  The engine shows them out of order and on two pages, and
they are read in order; it shows the one in the middle under its identifier, and that is read with
its embedding. -/
theorem reads_back_note : ∃ stored t v w,
    (encoding.storeDocument "notes" note).runIn storing = (.ok stored, t) ∧
    (encoding.getDocumentParts "notes" note.id).runIn
      (.answering [.rendered (.obj firstPage), .rendered (.obj secondPage)]) =
      (.ok ([noted 0 "a", noted 1 "b", noted 2 "c"].map (asShown encoding.embedder)), v) ∧
    (encoding.getDocumentPart "notes" ((noted 1 "b").storedId "notes")).runIn
      (.answering [.rendered (.obj (hitOf (Record.ofPart middle).toFields))]) =
      (.ok middle, w) := by
  obtain ⟨stored, t, hstore⟩ := runIn_storeDocument_note
  obtain ⟨parts, sent, text, hdivide, -, hrequests, hentries, hread, hreadPart⟩ :=
    reads_back_stored hstore
  obtain rfl := Except.ok.inj (divide_note.symm.trans hdivide)
  -- What was sent is what the model made of the parts.
  have hgives : encoding.Gives (fun _ => output.embedding)
      (passages (encoding.divided note) ++ []) storing := by
    rintro _ ⟨⟩
    exact Embedder.gives_of_model _ _ acknowledges_storing.outputs acknowledges_storing.rest
  obtain ⟨-, text', hrequests', hentries'⟩ := storeDocument_sends hgives hstore
  obtain rfl : text = text' := by
    have hsame := (List.cons.inj (hrequests.symm.trans hrequests')).1
    simpa [Bulk.request] using hsame
  have hsent : sent = [noted 0 "a", noted 1 "b", noted 2 "c"].map
      (Part.embedded fun _ => output.embedding) := by
    have hdivided : encoding.divided note = _ := Change.parts_of_divide divide_note
    rw [entries, hdivided] at hentries'
    exact (Bulk.entry_injective "notes").list_map (hentries.symm.trans hentries')
  subst hsent
  have hconceals (n : ℕ) (content : String) : Record.Conceals (bare (noted n content))
      (Bulk.entry "notes" ((noted n content).embedded fun _ => output.embedding)).2 :=
    Record.conceals_stored ((noted n content).embedded fun _ => output.embedding)
  obtain ⟨v, hparts, -⟩ := hread _ _ _ [] (.answering _)
    (by rw [hentries]; exact (List.perm_append_singleton _ [_, _]).symm)
    (.cons (hconceals 2 "c") (.cons (hconceals 0 "a") (.cons (hconceals 1 "b") .nil)))
    session_note rfl
  obtain ⟨-, -, hmiddle⟩ := hreadPart 1 (noted 1 "b") middle _ _ rfl rfl (by rw [hentries]; rfl)
  obtain ⟨w, hpart, -⟩ := hmiddle _ (Record.ofPart middle).toFields _ [] (.answering _)
    (fun _ => rfl) (shows_hitOf _) (Reply.outcome_rendered (by decide) (by decide)) rfl
  exact ⟨stored, t, v, w, hstore, hparts, hpart⟩

end Storage

end SearchGateway
