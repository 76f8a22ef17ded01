import SearchGateway.Proofs.Embedding.Giving
import SearchGateway.Proofs.Storage.Versions

/-!
# Storing many documents

With an embedder that gives the same embedding for the same passage, or with none, what a document
puts into an index depends on nothing but the document (`Storage.entries`).  So to store documents
is to put their entries, one after the other, over what the index held before
(`Storage.Ingests.held_eq`).  Entries of different files never stand under one identifier, and that
makes it the same for the index whether a document is stored once or twice, and in which order files
are stored (`Storage.ingests_alike`).
-/

set_option autoImplicit false

namespace SearchGateway

open SearchGateway.Action

/-! ## What a document puts into an index -/

/-- A part with its content embedded by `f`. -/
def Part.embedded (f : String → Embedding) (part : Part) : Part :=
  { part with chunks := some [part.content.getD ""], embeddings := some [f (part.content.getD "")] }

namespace Storage

variable {storage : Storage} {index : String} {f : String → Embedding} {document : Document}
  {documents : List Document} {parts sent : List Part} {texts : List String} {s t : Surroundings}

/-- The parts that a document is divided into. -/
def divided (storage : Storage) (document : Document) : List Part :=
  (Change.store storage document).parts

/-- A part as it is stored if whatever is embedded is embedded by `f`. -/
def storedPart (storage : Storage) (f : String → Embedding) (part : Part) : Part :=
  if storage.embedder.isSome then part.embedded f else part

/-- What a document puts into an index: an object under an identifier for every part. -/
def entries (storage : Storage) (index : String) (f : String → Embedding) (document : Document) :
    List (String × Json.Fields) :=
  ((storage.divided document).map (storage.storedPart f)).map (Bulk.entry index)

/-- The passages that are embedded for the parts. -/
def passages (parts : List Part) : List String := parts.map fun part => part.content.getD ""

/-- If there is an embedder, it gives `f` of the passages. -/
def Gives (storage : Storage) (f : String → Embedding) (texts : List String) (s : Surroundings) :
    Prop :=
  ∀ embedder, storage.embedder = some embedder → embedder.Gives f texts s

theorem Gives.congr (h : storage.Gives f texts s) (hst : s.sources = t.sources) :
    storage.Gives f texts t :=
  fun embedder hembedder => (h embedder hembedder).congr hst

/-! ## Storing one document -/

theorem mapM_embedPart_of_gives {embedder : Embedder}
    (hgives : embedder.Gives f (passages parts ++ texts) s)
    (h : (parts.mapM (embedPart embedder)).runIn s = (.ok sent, t)) :
    sent = parts.map (Part.embedded f) ∧ embedder.Gives f texts t := by
  induction parts generalizing s sent with
  | nil =>
    obtain ⟨hsent, rfl⟩ := Prod.mk.inj h
    exact ⟨(Except.ok.inj hsent).symm, hgives⟩
  | cons part parts ih =>
    rw [List.mapM_cons] at h
    obtain ⟨first, u, hfirst, h⟩ := runIn_bind_ok.mp h
    obtain ⟨rest, v, hrest, h⟩ := runIn_bind_ok.mp h
    obtain ⟨hsent, rfl⟩ := Prod.mk.inj h
    obtain ⟨vector, w, hembed, hpart⟩ := runIn_bind_ok.mp hfirst
    obtain ⟨hfirst, rfl⟩ := Prod.mk.inj hpart
    obtain ⟨rfl, hmore⟩ := hgives vector w hembed
    obtain ⟨rfl, htexts⟩ := ih hmore hrest
    rw [← Except.ok.inj hsent, ← Except.ok.inj hfirst]
    exact ⟨rfl, htexts⟩

/-- What comes out of embedding parts, and what is given after that. -/
theorem embedParts_of_gives (hgives : storage.Gives f (passages parts ++ texts) s)
    (h : (embedParts storage.embedder parts).runIn s = (.ok sent, t)) :
    sent = parts.map (storage.storedPart f) ∧ storage.Gives f texts t := by
  cases hembedder : storage.embedder with
  | none =>
    rw [hembedder] at h
    obtain ⟨hsent, rfl⟩ := Prod.mk.inj h
    obtain rfl := Except.ok.inj hsent
    refine ⟨?_, fun embedder hsome => nomatch hembedder.symm.trans hsome⟩
    exact (List.map_id'' (fun part => by simp [storedPart, hembedder]) parts).symm
  | some embedder =>
    rw [hembedder] at h
    obtain ⟨rfl, htexts⟩ := mapM_embedPart_of_gives (hgives embedder hembedder) h
    refine ⟨List.map_congr_left fun part _ => by simp [storedPart, hembedder], ?_⟩
    rintro other hother
    obtain rfl := Option.some.inj (hembedder.symm.trans hother)
    exact htexts

/-- A document is stored by one bulk request with all its parts. -/
theorem storeDocument_sends {stored : Stored}
    (hgives : storage.Gives f (passages (storage.divided document) ++ texts) s)
    (h : (storage.storeDocument index document).runIn s = (.ok stored, t)) :
    storage.Gives f texts t ∧ ∃ text,
      t.requests = Bulk.request index text :: Engine.descriptionRequest index :: s.requests ∧
      Bulk.entriesOf text = storage.entries index f document := by
  obtain ⟨parts, sent, u, hdivide, hembed, hsend⟩ := storeDocument_steps h
  have hparts : storage.divided document = parts := Change.parts_of_divide hdivide
  rw [hparts] at hgives
  have hgives := hgives.congr (t := s.asked storage.indexes.connection
    (Engine.descriptionRequest index)) rfl
  obtain ⟨rfl, hmore⟩ := embedParts_of_gives hgives hembed
  have hkeeps := storage.documents.keeps_storeParts overlooksEngine_sources index
    (parts.map (storage.storedPart f)) u
  rw [hsend] at hkeeps
  obtain ⟨first, rest, text, hsent, htext, hrequests, -⟩ := Engine.storeParts_ok hsend
  have haside := isAside_embedParts storage.embedder parts
    (s.asked storage.indexes.connection (Engine.descriptionRequest index))
  rw [hembed] at haside
  refine ⟨hmore.congr hkeeps.symm, text, ?_, ?_⟩
  · rw [hrequests, haside.requests]
    rfl
  · rw [Bulk.entriesOf_eq _ htext, entries, hparts]
    rw [hsent]
    exact List.cons_ne_nil _ _

/-- **To store a document is to put its entries into the index.** -/
theorem storeDocument_puts {stored : Stored}
    (hgives : storage.Gives f (passages (storage.divided document) ++ texts) s)
    (h : (storage.storeDocument index document).runIn s = (.ok stored, t)) :
    storage.Gives f texts t ∧ ∃ made, t.requests = made ++ s.requests ∧
      ∀ held : Holdings, held.served index made =
        held.putAll (storage.entries index f document) := by
  obtain ⟨hmore, text, hrequests, hentries⟩ := storeDocument_sends hgives h
  refine ⟨hmore, [Bulk.request index text, Engine.descriptionRequest index], hrequests, ?_⟩
  intro held
  show Holdings.serve index (Bulk.request index text)
    (Holdings.serve index (Engine.descriptionRequest index) held) = _
  rw [Holdings.serve_description, Holdings.serve_bulk, hentries]

/-! ## Storing many documents -/

/-- The documents were stored in a run from `s` to `t`, one after the other and all of them with
success, what was embedded was embedded by `f`, and the index holds `held'` after the run if it held
`held` before. -/
structure Ingests (storage : Storage) (index : String) (f : String → Embedding)
    (documents : List Document) (s t : Surroundings) (held held' : Holdings) : Prop where
  run : (Change.performAll index (documents.map (.store storage))).runIn s = (.ok (), t)
  gives : storage.Gives f (passages (documents.flatMap storage.divided)) s
  serves : ∃ made, t.requests = made ++ s.requests ∧ held' = held.served index made

/-- **To store documents is to put their entries into the index.** -/
theorem performAll_puts
    (hgives : storage.Gives f (passages (documents.flatMap storage.divided)) s)
    (hrun : (Change.performAll index (documents.map (.store storage))).runIn s = (.ok (), t)) :
    ∃ made, t.requests = made ++ s.requests ∧
      ∀ held : Holdings, held.served index made =
        held.putAll (documents.flatMap (storage.entries index f)) := by
  induction documents generalizing s with
  | nil =>
    obtain ⟨-, rfl⟩ := Prod.mk.inj hrun
    exact ⟨[], rfl, fun held => rfl⟩
  | cons document documents ih =>
    obtain ⟨_, u, hperform, hrest⟩ := runIn_bind_ok.mp hrun
    obtain ⟨stored, v, hstore, hdone⟩ := runIn_bind_ok.mp hperform
    obtain ⟨-, rfl⟩ := Prod.mk.inj hdone
    rw [List.flatMap_cons, passages, List.map_append] at hgives
    obtain ⟨hmore, first, hfirst, hputs⟩ := storeDocument_puts hgives hstore
    obtain ⟨made, hmade, hserved⟩ := ih hmore hrest
    refine ⟨made ++ first, ?_, fun held => ?_⟩
    · rw [hmade, hfirst, List.append_assoc]
    · rw [Holdings.served, List.foldr_append, ← Holdings.served, ← Holdings.served, hputs, hserved,
        List.flatMap_cons, Holdings.putAll_append]

theorem Ingests.held_eq {held held' : Holdings}
    (h : storage.Ingests index f documents s t held held') :
    held' = held.putAll (documents.flatMap (storage.entries index f)) := by
  obtain ⟨made, hmade, rfl⟩ := h.serves
  obtain ⟨made', hmade', hserved⟩ := performAll_puts h.gives h.run
  rw [List.append_cancel_right (hmade.symm.trans hmade'), hserved]

/-! ## Identifiers -/

theorem storedId_storedPart (storage : Storage) (f : String → Embedding) (part : Part)
    (index : String) : (storage.storedPart f part).storedId index = part.storedId index := by
  unfold storedPart
  split
  · rfl
  · rfl

theorem map_fst_entries (storage : Storage) (index : String) (f : String → Embedding)
    (document : Document) : (storage.entries index f document).map Prod.fst =
      (storage.divided document).map (Part.storedId index) := by
  rw [entries, List.map_map, List.map_map]
  exact List.map_congr_left fun part _ => storage.storedId_storedPart f part index

theorem nodup_divided (storage : Storage) (document : Document) :
    (storage.divided document).Nodup := by
  rw [divided, Change.parts]
  cases hdivide : Segment.divide document storage.maxSize storage.overlapRate with
  | error fault => exact List.nodup_nil
  | ok parts =>
    dsimp only
    rw [Segment.divide_ok hdivide, List.nodup_iff_injective_getElem]
    intro i j hij
    have hnumber := congrArg Part.number hij
    simpa [Segment.part, Fin.ext_iff] using hnumber

/-- Parts of a document that stand under one identifier are one part, and documents with parts that
stand under one identifier have the same path. -/
theorem eq_of_storedId_eq
    (hapart : Digest.TellsApart ((documents.map (.store storage)).flatMap
      (Change.identities index))) {document' : Document} (hmem : document ∈ documents)
    (hmem' : document' ∈ documents) {part part' : Part} (hpart : part ∈ storage.divided document)
    (hpart' : part' ∈ storage.divided document')
    (hid : part.storedId index = part'.storedId index) :
    document.file.path = document'.file.path ∧ part.number = part'.number := by
  obtain ⟨hpath, hnumber⟩ := Change.path_number_of_storedId_eq hapart
    (List.mem_map_of_mem hmem) hpart (List.mem_map_of_mem hmem') hpart' hid
  rw [Change.path_of_mem_parts hpart, Change.path_of_mem_parts hpart'] at hpath
  exact ⟨hpath, hnumber⟩

/-- **Entries of different files stand under different identifiers.** -/
theorem nodup_map_fst_entries (hpaths : (documents.map fun document => document.file.path).Nodup)
    (hapart : Digest.TellsApart ((documents.map (.store storage)).flatMap
      (Change.identities index))) :
    ((documents.flatMap (storage.entries index f)).map Prod.fst).Nodup := by
  rw [List.map_flatMap, List.nodup_flatMap]
  constructor
  · intro document hmem
    rw [map_fst_entries]
    refine (storage.nodup_divided document).map_on fun part hpart part' hpart' hid => ?_
    obtain ⟨-, hnumber⟩ := eq_of_storedId_eq hapart hmem hmem hpart hpart' hid
    obtain ⟨_, _, _, hstore, hdivide, hpart⟩ := Change.exists_of_mem_parts hpart
    obtain ⟨rfl, rfl⟩ := Change.store.inj hstore
    rw [divided, Change.parts_of_divide hdivide] at hpart'
    exact Segment.eq_of_number_eq hdivide hpart hpart' hnumber
  · refine (List.pairwise_map.mp hpaths).imp_of_mem fun {document document'} hmem hmem' hne => ?_
    rw [Function.onFun, map_fst_entries, map_fst_entries, List.disjoint_left]
    rintro id hid hid'
    obtain ⟨part, hpart, rfl⟩ := List.mem_map.mp hid
    obtain ⟨part', hpart', hsame⟩ := List.mem_map.mp hid'
    exact hne (eq_of_storedId_eq hapart hmem hmem' hpart hpart' hsame.symm).1

/-! ## Any order, any number of times -/

/-- **It makes no difference whether a document is stored once or twice, and in which order files
are stored.**  From an empty index there are as many parts held afterwards as the documents are
divided into. -/
theorem ingests_alike (storage : Storage) (index : String) (f : String → Embedding) :
    (∀ (document : Document) (held once twice : Holdings) (s t s' t' : Surroundings),
      storage.Ingests index f [document] s t held once →
      storage.Ingests index f [document, document] s' t' held twice → twice = once) ∧
    ∀ documents : List Document, (documents.map fun document => document.file.path).Nodup →
      Digest.TellsApart ((documents.map (.store storage)).flatMap (Change.identities index)) →
      (∀ (documents' : List Document) (held first second : Holdings) (s t s' t' : Surroundings),
        documents.Perm documents' → storage.Ingests index f documents s t held first →
        storage.Ingests index f documents' s' t' held second → first = second) ∧
      ∀ (held : Holdings) (s t : Surroundings),
        storage.Ingests index f documents s t Holdings.empty held →
        held.taken.encard = (documents.map fun document => (storage.divided document).length).sum := by
  refine ⟨?_, fun documents hpaths hapart => ⟨?_, ?_⟩⟩
  · intro document held once twice s t s' t' honce htwice
    rw [honce.held_eq, htwice.held_eq, List.flatMap_cons, List.flatMap_singleton,
      Holdings.putAll_append, Holdings.putAll_putAll]
  · intro documents' held first second s t s' t' hperm hfirst hsecond
    rw [hfirst.held_eq, hsecond.held_eq]
    exact held.putAll_perm (hperm.flatMap_right _) (nodup_map_fst_entries hpaths hapart)
  · intro held s t hrun
    rw [hrun.held_eq, Holdings.encard_taken_putAll (nodup_map_fst_entries hpaths hapart),
      List.length_flatMap]
    simp only [entries, List.length_map]

/-! ## Two files -/

/-- A storage that cuts documents into single characters and has a local model. -/
def encoding : Storage := { cutting with embedder := some (.model { identity := 0 }) }

/-- A file next to the draft. -/
def memo : Document := ⟨⟨"b.md", "docs/b.md", 1, 1, 2⟩, "c", none⟩

theorem divide_memo : Segment.divide memo cutting.maxSize cutting.overlapRate =
    .ok [Segment.part memo memo.id 0 "c"] := by
  have hwidth : Segment.overlapWidth 1 Double.oneFifth = .ok 0 := by decide
  exact Segment.divide_whole (by decide) (by decide) hwidth (by decide) (.inr (by decide))

/-- What the model gives out for any text. -/
def output : Tensor := .scalar .oneFifth

/-- Surroundings in which the model gives that out, and in which the engine acknowledges whatever is
stored, `n` times over. -/
structure Acknowledges (n : ℕ) (s : Surroundings) : Prop where
  replies : s.engineReplies = (List.replicate n acknowledging).flatten
  outputs : s.modelOutputs = []
  rest : s.modelRest = output

theorem runIn_embedParts_encoding (parts : List Part) (houtputs : s.modelOutputs = [])
    (hrest : s.modelRest = output) :
    ∃ t, (embedParts encoding.embedder parts).runIn s =
        (.ok (parts.map (Part.embedded fun _ => output.embedding)), t) ∧
      t.engineReplies = s.engineReplies ∧ t.modelOutputs = [] ∧ t.modelRest = output := by
  obtain ⟨t, hrun, hsources⟩ : ∃ t, (embedParts encoding.embedder parts).runIn s =
      (.ok (parts.map (Part.embedded fun _ => output.embedding)), t) ∧
      t.modelOutputs = [] ∧ t.modelRest = output := by
    induction parts generalizing s with
    | nil => exact ⟨s, rfl, houtputs, hrest⟩
    | cons part parts ih =>
      obtain ⟨u, hpart, hu, hu'⟩ :=
        Embedder.runIn_embedPassage_model { identity := 0 } (part.content.getD "") houtputs hrest
      obtain ⟨t, hparts, ht⟩ := ih hu hu'
      refine ⟨t, ?_, ht⟩
      rw [encoding, embedParts, List.mapM_cons, embedPart, bind_assoc, runIn_bind_of_ok hpart]
      exact runIn_bind_of_ok hparts
  have haside := isAside_embedParts encoding.embedder parts s
  rw [hrun] at haside
  exact ⟨t, hrun, haside.engineReplies, hsources⟩

/-- What can be divided and written is stored. -/
theorem runIn_storeDocument_encoding {first : Part} {more : List Part} {n : ℕ}
    (hdivide : Segment.divide document cutting.maxSize cutting.overlapRate = .ok (first :: more))
    (hw : ∀ part ∈ first :: more,
      Bulk.IsWritable (part.embedded fun _ => output.embedding)) (hs : Acknowledges (n + 1) s) :
    ∃ stored t, (encoding.storeDocument "notes" document).runIn s = (.ok stored, t) ∧
      Acknowledges n t := by
  have hreplies : s.engineReplies = .rendered listing :: .rendered (.obj []) ::
      (List.replicate n acknowledging).flatten := hs.replies
  obtain ⟨info, hindex⟩ := runIn_getIndex_listing (Surroundings.reply_of_cons hreplies)
  have hasked := Surroundings.engineReplies_asked_of_cons hreplies Engine.plain.connection
    (Engine.descriptionRequest "notes")
  obtain ⟨u, hembed, hu, houtputs, hrest⟩ := runIn_embedParts_encoding (first :: more)
    (s := s.asked Engine.plain.connection (Engine.descriptionRequest "notes")) hs.outputs hs.rest
  obtain ⟨text, htext⟩ : ∃ text, Bulk.text "notes"
      ((first :: more).map (Part.embedded fun _ => output.embedding)) = .ok text :=
    ⟨_, Bulk.text_eq_ok.mpr ⟨List.forall_mem_map.mpr hw, rfl⟩⟩
  have hack := hu.trans hasked
  refine ⟨_, _, runIn_storeDocument hindex hdivide hembed htext ?_, ?_⟩
  · rw [Surroundings.reply_of_cons hack, Reply.outcome_rendered (by decide) (by decide)]
    rfl
  · exact ⟨Surroundings.engineReplies_asked_of_cons hack Engine.plain.connection
      (Bulk.request "notes" text), houtputs, hrest⟩

/-- The draft and the other file can be stored in any order and any number of times. -/
theorem exists_ingests (documents : List Document)
    (hdocuments : ∀ document ∈ documents, document = draft ∨ document = memo)
    (hs : Acknowledges documents.length s) : ∃ t held,
      encoding.Ingests "notes" (fun _ => output.embedding) documents s t Holdings.empty held := by
  obtain ⟨t, hrun⟩ : ∃ t,
      (Change.performAll "notes" (documents.map (.store encoding))).runIn s = (.ok (), t) := by
    induction documents generalizing s with
    | nil => exact ⟨s, rfl⟩
    | cons document documents ih =>
      rw [List.forall_mem_cons] at hdocuments
      obtain ⟨stored, u, hstore, hu⟩ : ∃ stored u,
          (encoding.storeDocument "notes" document).runIn s = (.ok stored, u) ∧
            Acknowledges documents.length u := by
        rcases hdocuments.1 with rfl | rfl
        · refine runIn_storeDocument_encoding divide_draft ?_ hs
          simp only [List.forall_mem_cons, List.not_mem_nil, false_implies, implies_true, and_true]
          exact ⟨rfl, rfl⟩
        · exact runIn_storeDocument_encoding divide_memo (List.forall_mem_singleton.mpr rfl) hs
      obtain ⟨t, hrest⟩ := ih hdocuments.2 hu
      exact ⟨t, runIn_bind_ok.mpr ⟨(), u, runIn_bind_ok.mpr ⟨stored, u, hstore, rfl⟩, hrest⟩⟩
  have hgives : encoding.Gives (fun _ => output.embedding)
      (passages (documents.flatMap encoding.divided)) s := by
    rintro _ ⟨⟩
    exact Embedder.gives_of_model _ _ hs.outputs hs.rest
  obtain ⟨made, hmade, -⟩ := performAll_puts hgives hrun
  exact ⟨t, _, hrun, hgives, made, hmade, rfl⟩

theorem acknowledges_answering (n : ℕ) : Acknowledges n
    { Surroundings.answering (List.replicate n acknowledging).flatten with modelRest := output } :=
  ⟨rfl, rfl, rfl⟩

theorem divided_draft : encoding.divided draft =
    [Segment.part draft draft.id 0 "a", Segment.part draft draft.id 1 "b"] :=
  Change.parts_of_divide divide_draft

theorem divided_memo : encoding.divided memo = [Segment.part memo memo.id 0 "c"] :=
  Change.parts_of_divide divide_memo

theorem tellsApart_pair : Digest.TellsApart
    (([draft, memo].map (.store encoding)).flatMap (Change.identities "notes")) := by
  have hnodup : ([draft.identity, "notes/docs/a.md/0", "notes/docs/a.md/1", memo.identity,
      "notes/docs/b.md/0"].map Digest.ofText).Nodup := by decide +kernel
  have htexts : ([draft, memo].map (.store encoding)).flatMap (Change.identities "notes") =
      [draft.identity, "notes/docs/a.md/0", "notes/docs/a.md/1", memo.identity,
        "notes/docs/b.md/0"] := by
    show (draft.identity :: (encoding.divided draft).map (Part.identity "notes")) ++
      (memo.identity :: (encoding.divided memo).map (Part.identity "notes") ++ []) = _
    rw [divided_draft, divided_memo]
    rfl
  rw [htexts]
  exact Digest.tellsApart_of_nodup (List.Subset.refl _) hnodup

/-- The draft is stored once and twice, and the two files are stored one way and the other: three
parts are held of them either way. -/
theorem ingests_alike_pair : ∃ once twice there back : Holdings,
    (∃ s t, encoding.Ingests "notes" (fun _ => output.embedding) [draft] s t .empty once) ∧
    (∃ s t, encoding.Ingests "notes" (fun _ => output.embedding) [draft, draft] s t .empty twice) ∧
    (∃ s t, encoding.Ingests "notes" (fun _ => output.embedding) [draft, memo] s t .empty there) ∧
    (∃ s t, encoding.Ingests "notes" (fun _ => output.embedding) [memo, draft] s t .empty back) ∧
    ([draft, memo].map fun document => document.file.path).Nodup ∧
    twice = once ∧ there = back ∧ there.taken.encard = 3 := by
  obtain ⟨t, once, honce⟩ := exists_ingests [draft] (by simp)
    (acknowledges_answering 1)
  obtain ⟨t', twice, htwice⟩ := exists_ingests [draft, draft] (by simp)
    (acknowledges_answering 2)
  obtain ⟨u, there, hthere⟩ := exists_ingests [draft, memo] (by simp)
    (acknowledges_answering 2)
  obtain ⟨u', back, hback⟩ := exists_ingests [memo, draft] (by simp)
    (acknowledges_answering 2)
  have hpaths : ([draft, memo].map fun document => document.file.path).Nodup := by decide
  obtain ⟨hagain, halike⟩ := ingests_alike encoding "notes" fun _ => output.embedding
  obtain ⟨horder, hcount⟩ := halike [draft, memo] hpaths tellsApart_pair
  refine ⟨once, twice, there, back, ⟨_, t, honce⟩, ⟨_, t', htwice⟩, ⟨_, u, hthere⟩, ⟨_, u', hback⟩,
    hpaths, hagain _ _ _ _ _ _ _ _ honce htwice,
    horder _ _ _ _ _ _ _ _ (.swap _ _ _) hthere hback, ?_⟩
  rw [hcount _ _ _ hthere]
  simp [divided_draft, divided_memo]

end Storage

end SearchGateway
