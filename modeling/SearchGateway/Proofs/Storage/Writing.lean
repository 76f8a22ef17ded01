import SearchGateway.Proofs.Consultation
import SearchGateway.Proofs.Segment.Division
import SearchGateway.Proofs.Storage.Storing

/-!
# When a document is written

A document is written in one bulk request, and that request is the last thing that is asked.  Before
it the index was found, the document was divided, and its parts were embedded one after the other,
each of them by its own content; what fails on the way ends it, and nothing is written
(`Storage.writes_last`).
-/

set_option autoImplicit false

namespace SearchGateway

open SearchGateway.Action

/-! ## Passages one after the other -/

/-- Asked for the passages one after the other, the embedder gives the vectors, one for each. -/
inductive Embedder.Embeds (embedder : Embedder) :
    List String → List Embedding → Surroundings → Surroundings → Prop where
  | nil (s : Surroundings) : Embeds embedder [] [] s s
  | cons {text : String} {vector : Embedding} {texts : List String} {vectors : List Embedding}
      {s t u : Surroundings} (first : (embedder.embedPassage text).runIn s = (.ok vector, t))
      (rest : Embeds embedder texts vectors t u) :
      Embeds embedder (text :: texts) (vector :: vectors) s u

/-- What an embedder is asked to embed the passages, in order. -/
def Embedder.passages (embedder : Embedder) (texts : List String) : List Consultation :=
  texts.map fun text => .embedding (embedder.passageText text)

/-- A part with a vector that stands for its content. -/
def Part.withVector (part : Part) (vector : Embedding) : Part :=
  { part with chunks := part.content.map fun content => [content], embeddings := some [vector] }

namespace Embedder.Embeds

variable {embedder : Embedder} {texts : List String} {vectors : List Embedding}
  {s t : Surroundings}

/-- Every passage is asked for once, in order, and nothing else is asked. -/
theorem consulted (h : embedder.Embeds texts vectors s t) :
    t.consulted = (embedder.passages texts).reverse ++ s.consulted := by
  induction h with
  | nil => rfl
  | @cons text _ texts _ s t _ first _ ih =>
    have hfirst := embedder.consulted_embedPassage text s
    rw [first] at hfirst
    rw [ih, show t.consulted = _ from hfirst]
    simp [passages]

end Embedder.Embeds

/-- The embedder gives a vector for each of the passages, or it fails for one of them after it gave
vectors for those before. -/
theorem Embedder.embeds_or_fails (embedder : Embedder) (texts : List String) (s : Surroundings) :
    (∃ vectors t, embedder.Embeds texts vectors s t) ∨
    ∃ before text after vectors u fault t, texts = before ++ text :: after ∧
      embedder.Embeds before vectors s u ∧
      (embedder.embedPassage text).runIn u = (.error fault, t) := by
  induction texts generalizing s with
  | nil => exact .inl ⟨[], s, .nil s⟩
  | cons text texts ih =>
    rcases hfirst : (embedder.embedPassage text).runIn s with ⟨fault | vector, t⟩
    · exact .inr ⟨[], text, texts, [], s, fault, t, rfl, .nil s, hfirst⟩
    · rcases ih t with ⟨vectors, u, hembeds⟩ |
        ⟨before, other, after, vectors, u, fault, v, rfl, hembeds, hfails⟩
      · exact .inl ⟨vector :: vectors, u, .cons hfirst hembeds⟩
      · exact .inr ⟨text :: before, other, after, vector :: vectors, u, fault, v, rfl,
          .cons hfirst hembeds, hfails⟩

namespace Storage

variable {embedder : Embedder} {parts : List Part} {texts : List String}

/-! ## Parts one after the other -/

theorem runIn_embedPart (embedder : Embedder) {part : Part} {text : String}
    (hcontent : part.content = some text) (s : Surroundings) :
    (embedPart embedder part).runIn s = match (embedder.embedPassage text).runIn s with
      | (.ok vector, t) => (.ok (part.withVector vector), t)
      | (.error fault, t) => (.error fault, t) := by
  rw [embedPart, hcontent]
  dsimp only [Option.getD_some]
  rw [runIn_bind]
  rcases (embedder.embedPassage text).runIn s with ⟨fault | vector, t⟩
  · rfl
  · simp [Part.withVector, hcontent]

/-- If the embedder gives vectors for the contents of the parts, every part gets its own. -/
theorem runIn_mapM_embedPart {vectors : List Embedding} {s t : Surroundings}
    (hparts : parts.map Part.content = texts.map some) (h : embedder.Embeds texts vectors s t) :
    (parts.mapM (embedPart embedder)).runIn s =
      (.ok (List.zipWith Part.withVector parts vectors), t) := by
  induction h generalizing parts with
  | nil s =>
    obtain rfl : parts = [] := by simpa using hparts
    rfl
  | cons hfirst _ ih =>
    cases parts with
    | nil => simp at hparts
    | cons part parts =>
      obtain ⟨hcontent, hparts⟩ := List.cons.inj hparts
      rw [List.mapM_cons, runIn_bind, runIn_embedPart embedder hcontent, hfirst]
      dsimp only
      rw [runIn_bind_of_ok (ih hparts)]
      rfl

/-- If the embedder fails for one of the contents, so does the embedding of the parts. -/
theorem runIn_mapM_embedPart_of_fault {before after : List String} {text : String}
    {vectors : List Embedding} {s u v : Surroundings} {fault : Fault}
    (hparts : parts.map Part.content = (before ++ text :: after).map some)
    (hbefore : embedder.Embeds before vectors s u)
    (hfault : (embedder.embedPassage text).runIn u = (.error fault, v)) :
    (parts.mapM (embedPart embedder)).runIn s = (.error fault, v) := by
  rw [List.map_append, List.map_cons] at hparts
  obtain ⟨front, others, rfl, hfront, hothers⟩ := List.map_eq_append_iff.mp hparts
  obtain ⟨part, rest, rfl, hcontent, -⟩ := List.map_eq_cons_iff.mp hothers
  rw [List.mapM_append, runIn_bind_of_ok (runIn_mapM_embedPart hfront hbefore), runIn_bind,
    List.mapM_cons, runIn_bind, runIn_embedPart embedder hcontent, hfault]

/-- How parts are embedded from `s` on: what is asked for it, in order, and the parts as they are
sent.  Without an embedder they are sent as they are; otherwise the content of each of them is
embedded, and it is sent with the vector that this gave. -/
inductive Embedded :
    Option Embedder → List Part → Surroundings → List Consultation → List Part → Prop where
  | plain (parts : List Part) (s : Surroundings) : Embedded none parts s [] parts
  | each {embedder : Embedder} {parts : List Part} {texts : List String} {vectors : List Embedding}
      {s u : Surroundings} (contents : parts.map Part.content = texts.map some)
      (embeds : embedder.Embeds texts vectors s u) :
      Embedded (some embedder) parts s (embedder.passages texts)
        (List.zipWith Part.withVector parts vectors)

end Storage

/-! ## Writes -/

/-- The collaborator is asked to write parts. -/
def Consultation.IsWrite (consultation : Consultation) : Prop :=
  ∃ index text, consultation = .engine (Bulk.request index text)

theorem Consultation.not_isWrite_description (index : String) :
    ¬(Consultation.engine (Engine.descriptionRequest index)).IsWrite := by
  rintro ⟨other, text, h⟩
  have hmethod : "GET" = "POST" := congrArg EngineRequest.method (Consultation.engine.inj h)
  exact absurd hmethod (by decide)

theorem Embedder.not_isWrite_passages {embedder : Embedder} {texts : List String}
    {consultation : Consultation} (h : consultation ∈ embedder.passages texts) :
    ¬consultation.IsWrite := by
  obtain ⟨text, -, rfl⟩ := List.mem_map.mp h
  rintro ⟨index, bulk, h⟩
  cases h

/-- From the first surroundings to the second nothing was asked but what is listed, in order, and no
write is among it. -/
structure Surroundings.AsksQuietly (s t : Surroundings) (asked : List Consultation) : Prop where
  consulted : t.consulted = asked.reverse ++ s.consulted
  quiet : ∀ consultation ∈ asked, ¬consultation.IsWrite

namespace Surroundings.AsksQuietly

variable {s t u : Surroundings} {before after : List Consultation}

theorem refl (s : Surroundings) : s.AsksQuietly s [] := ⟨rfl, by simp⟩

theorem trans (hst : s.AsksQuietly t before) (htu : t.AsksQuietly u after) :
    s.AsksQuietly u (before ++ after) where
  consulted := by
    rw [htu.consulted, hst.consulted, List.reverse_append, List.append_assoc]
  quiet := List.forall_mem_append.mpr ⟨hst.quiet, htu.quiet⟩

/-- Looking up an index is no write. -/
theorem description (s : Surroundings) (connection : Connection) (index : String) :
    s.AsksQuietly (s.asked connection (Engine.descriptionRequest index))
      [.engine (Engine.descriptionRequest index)] where
  consulted := Surroundings.consulted_asked s connection _
  quiet := List.forall_mem_singleton.mpr (Consultation.not_isWrite_description index)

end Surroundings.AsksQuietly

/-- Parts are written by one request, which is all that is asked, or they are not written. -/
theorem Engine.consulted_storeParts (engine : Engine) (index : String) (parts : List Part)
    (s : Surroundings) :
    (∃ text, Bulk.text index parts = .ok text ∧
      ((engine.storeParts index parts).runIn s).2.consulted =
        .engine (Bulk.request index text) :: s.consulted) ∨
    ∃ fault, (engine.storeParts index parts).runIn s = (.error fault, s) := by
  cases parts with
  | nil => exact .inr ⟨_, rfl⟩
  | cons first rest =>
    cases htext : Bulk.text index (first :: rest) with
    | error defect => exact .inr ⟨_, runIn_storeParts_of_defect engine htext s⟩
    | ok text =>
      refine .inl ⟨text, rfl, ?_⟩
      rw [runIn_storeParts engine htext]
      dsimp only
      split <;> rfl

namespace Storage

variable {document : Document} {s : Surroundings} {parts : List Part} {texts : List String}

theorem Embedded.not_isWrite {embedder : Option Embedder} {passages : List Consultation}
    {sent : List Part} (h : Embedded embedder parts s passages sent) :
    ∀ passage ∈ passages, ¬passage.IsWrite := by
  cases h with
  | plain => simp
  | each => exact fun _ => Embedder.not_isWrite_passages

/-- Parts are embedded, or the embedding of one of them fails; either way nothing is written. -/
theorem runIn_embedParts (embedder : Option Embedder)
    (hparts : parts.map Part.content = texts.map some) (s : Surroundings) :
    ∃ passages outcome u, (embedParts embedder parts).runIn s = (outcome, u) ∧
      s.AsksQuietly u passages ∧
      ∀ sent, outcome = .ok sent → Embedded embedder parts s passages sent := by
  cases embedder with
  | none =>
    refine ⟨[], .ok parts, s, rfl, .refl s, ?_⟩
    rintro _ ⟨⟩
    exact .plain parts s
  | some e =>
    rcases e.embeds_or_fails texts s with ⟨vectors, u, hembeds⟩ |
      ⟨before, text, after, vectors, u, fault, v, rfl, hembeds, hfails⟩
    · refine ⟨e.passages texts, _, u, runIn_mapM_embedPart hparts hembeds,
        ⟨hembeds.consulted, fun _ => Embedder.not_isWrite_passages⟩, ?_⟩
      rintro _ ⟨⟩
      exact .each hparts hembeds
    · have hlast := e.consulted_embedPassage text u
      rw [hfails] at hlast
      refine ⟨e.passages (before ++ [text]), _, v,
        runIn_mapM_embedPart_of_fault hparts hembeds hfails,
        ⟨?_, fun _ => Embedder.not_isWrite_passages⟩, fun _ h => nomatch h⟩
      rw [show v.consulted = _ from hlast, hembeds.consulted]
      simp [Embedder.passages]

theorem exists_contents {maxSize : ℤ} {rate : Double}
    (h : Segment.divide document maxSize rate = .ok parts) :
    ∃ texts : List String, parts.map Part.content = texts.map some := by
  rw [Segment.divide_ok h]
  exact ⟨_, Segment.content_partsWith document _⟩

/-- All that comes before a document is written: its index is found, it is divided, and its parts
are embedded, if there is what embeds them. -/
structure Prepares (storage : Storage) (index : String) (document : Document) (s : Surroundings)
    (parts : List Part) (passages : List Consultation) (sent : List Part) : Prop where
  found : ∃ info, ((storage.indexes.getIndex index).runIn s).1 = .ok info
  divided : Segment.divide document storage.maxSize storage.overlapRate = .ok parts
  embedded : Embedded storage.embedder parts
    (s.asked storage.indexes.connection (Engine.descriptionRequest index)) passages sent

/-- All that is asked for a document that is written. -/
def writing (index : String) (passages : List Consultation) (text : String) :
    List Consultation :=
  .engine (Engine.descriptionRequest index) :: passages ++ [.engine (Bulk.request index text)]

/-- A document is stored in one of two ways: it ends with a fault before anything is written, or all
is prepared and then written. -/
theorem storeDocument_cases (storage : Storage) (index : String) (document : Document)
    (s : Surroundings) :
    (∃ asked fault, s.AsksQuietly ((storage.storeDocument index document).runIn s).2 asked ∧
        ((storage.storeDocument index document).runIn s).1 = .error fault) ∨
      ∃ parts passages sent text, storage.Prepares index document s parts passages sent ∧
        Bulk.text index sent = .ok text ∧
        ((storage.storeDocument index document).runIn s).2.consulted =
          (writing index passages text).reverse ++ s.consulted := by
  have hlookup := Surroundings.AsksQuietly.description s storage.indexes.connection index
  -- Each step ends it while all is quiet, or leaves it to the next; the last one is the write.
  rw [storeDocument, runIn_bind]
  have hindex := storage.indexes.runIn_getIndex index s
  rcases hfound : (storage.indexes.getIndex index).runIn s with ⟨fault | info, t⟩
  · obtain rfl : t = _ := hfound ▸ hindex
    exact .inl ⟨_, fault, hlookup, rfl⟩
  obtain rfl : t = _ := hfound ▸ hindex
  dsimp only
  rw [runIn_bind, runIn_ofExcept]
  cases hdivided : Segment.divide document storage.maxSize storage.overlapRate with
  | error fault => exact .inl ⟨_, fault, hlookup, rfl⟩
  | ok parts =>
    obtain ⟨texts, hparts⟩ := exists_contents hdivided
    obtain ⟨passages, outcome, u, hembed, hquiet, hsent⟩ :=
      runIn_embedParts storage.embedder hparts
        (s.asked storage.indexes.connection (Engine.descriptionRequest index))
    have hbefore := hlookup.trans hquiet
    dsimp only
    rw [runIn_bind, hembed]
    cases outcome with
    | error fault => exact .inl ⟨_, fault, hbefore, rfl⟩
    | ok sent =>
      dsimp only
      rcases storage.documents.consulted_storeParts index sent u with ⟨text, htext, hwrite⟩ |
        ⟨fault, hfault⟩
      · refine .inr ⟨parts, passages, sent, text,
          ⟨⟨info, by rw [hfound]⟩, hdivided, hsent sent rfl⟩, htext, ?_⟩
        rw [hwrite, hbefore.consulted]
        simp [writing]
      · rw [hfault]
        exact .inl ⟨_, fault, hbefore, rfl⟩

/-- What is asked while a document is stored, in order, and what comes of it. -/
structure WritesLast (storage : Storage) (index : String) (document : Document) (s : Surroundings)
    (outcome : Except Fault Stored) (asked : List Consultation) : Prop where
  /-- A write is the last thing that is asked, and the only one of its kind. -/
  last : ∀ front write rest, asked = front ++ write :: rest → write.IsWrite →
    rest = [] ∧ ∀ other ∈ front, ¬other.IsWrite
  /-- What is written was prepared: the index found, the document divided, all parts embedded. -/
  prepared : ∀ write ∈ asked, write.IsWrite → ∃ parts passages sent text,
    storage.Prepares index document s parts passages sent ∧ Bulk.text index sent = .ok text ∧
      write = .engine (Bulk.request index text)
  /-- If the embedding of a part fails, nothing is asked after it, and its fault is that of all. -/
  interrupted : ∀ {info t embedder parts before text after vectors u fault v},
    (storage.indexes.getIndex index).runIn s = (.ok info, t) →
    Segment.divide document storage.maxSize storage.overlapRate = .ok parts →
    storage.embedder = some embedder →
    parts.map Part.content = (before ++ text :: after).map some →
    embedder.Embeds before vectors t u →
    (embedder.embedPassage text).runIn u = (.error fault, v) →
    outcome = .error fault ∧ asked = .engine (Engine.descriptionRequest index) ::
      embedder.passages (before ++ [text])
  /-- A document that was stored was written once, with all its parts in order. -/
  written : ∀ stored, outcome = .ok stored → ∃ parts passages sent text,
    storage.Prepares index document s parts passages sent ∧ Bulk.text index sent = .ok text ∧
      asked = writing index passages text ∧
      (storage.embedder = none → ∀ part ∈ sent, part.chunks = none ∧ part.embeddings = none)

section

variable {storage : Storage} {index : String} {passages : List Consultation} {sent : List Part}

/-- In all that is asked for a document that is written, only the last is a write. -/
theorem Prepares.last (h : storage.Prepares index document s parts passages sent)
    {text : String} {front rest : List Consultation} {write : Consultation}
    (hasked : writing index passages text = front ++ write :: rest) (hwrite : write.IsWrite) :
    write = .engine (Bulk.request index text) ∧ rest = [] ∧ ∀ other ∈ front, ¬other.IsWrite := by
  have hquiet : ∀ other ∈ .engine (Engine.descriptionRequest index) :: passages,
      ¬other.IsWrite :=
    List.forall_mem_cons.mpr
      ⟨Consultation.not_isWrite_description index, h.embedded.not_isWrite⟩
  rcases List.append_eq_append_iff.mp hasked with ⟨between, hfront, hlast⟩ |
    ⟨between, hbefore, hrest⟩
  · -- The write comes after all that is quiet.
    cases between with
    | nil =>
      obtain ⟨rfl, rfl⟩ := List.cons.inj hlast
      rw [hfront, List.append_nil]
      exact ⟨rfl, rfl, hquiet⟩
    | cons other between => simp at hlast
  · cases between with
    | nil =>
      obtain ⟨rfl, rfl⟩ := List.cons.inj hrest
      rw [List.append_nil] at hbefore
      exact ⟨rfl, rfl, hbefore ▸ hquiet⟩
    | cons other between =>
      obtain ⟨rfl, -⟩ := List.cons.inj hrest
      exact absurd hwrite (hquiet _ (hbefore ▸ List.mem_append_right _ List.mem_cons_self))

theorem Prepares.bare (h : storage.Prepares index document s parts passages sent)
    (hnone : storage.embedder = none) {part : Part} (hpart : part ∈ sent) :
    part.chunks = none ∧ part.embeddings = none := by
  have hembedded := h.embedded
  rw [hnone] at hembedded
  cases hembedded
  obtain ⟨_, _, -, rfl⟩ := Segment.mem_divide h.divided hpart
  exact ⟨rfl, rfl⟩

end

/-- What comes of a document if the embedding of one of its parts fails. -/
theorem runIn_storeDocument_of_fault {storage : Storage} {index : String} {info : IndexInfo}
    {embedder : Embedder} {before after : List String} {text : String} {vectors : List Embedding}
    {fault : Fault} {t u v : Surroundings}
    (hfound : (storage.indexes.getIndex index).runIn s = (.ok info, t))
    (hdivided : Segment.divide document storage.maxSize storage.overlapRate = .ok parts)
    (hembedder : storage.embedder = some embedder)
    (hparts : parts.map Part.content = (before ++ text :: after).map some)
    (hbefore : embedder.Embeds before vectors t u)
    (hfault : (embedder.embedPassage text).runIn u = (.error fault, v)) :
    (storage.storeDocument index document).runIn s = (.error fault, v) ∧
      v.consulted = (.engine (Engine.descriptionRequest index) ::
        embedder.passages (before ++ [text])).reverse ++ s.consulted := by
  constructor
  · rw [storeDocument, runIn_bind_of_ok hfound, runIn_bind, runIn_ofExcept, hdivided]
    dsimp only
    rw [runIn_bind, hembedder, embedParts, runIn_mapM_embedPart_of_fault hparts hbefore hfault]
  · have hindex := storage.indexes.runIn_getIndex index s
    have hlast := embedder.consulted_embedPassage text u
    rw [hfound] at hindex
    rw [hfault] at hlast
    rw [show v.consulted = _ from hlast, hbefore.consulted, show t = _ from hindex]
    simp [Embedder.passages]

/-- The embedding of a part that fails is what the whole ends with. -/
theorem interrupted_of_consulted {storage : Storage} {index : String} {asked : List Consultation}
    (hasked : ((storage.storeDocument index document).runIn s).2.consulted =
      asked.reverse ++ s.consulted) {info : IndexInfo} {embedder : Embedder}
    {before after : List String} {text : String} {vectors : List Embedding} {fault : Fault}
    {t u v : Surroundings} (hfound : (storage.indexes.getIndex index).runIn s = (.ok info, t))
    (hdivided : Segment.divide document storage.maxSize storage.overlapRate = .ok parts)
    (hembedder : storage.embedder = some embedder)
    (hparts : parts.map Part.content = (before ++ text :: after).map some)
    (hbefore : embedder.Embeds before vectors t u)
    (hfault : (embedder.embedPassage text).runIn u = (.error fault, v)) :
    ((storage.storeDocument index document).runIn s).1 = .error fault ∧
      asked = .engine (Engine.descriptionRequest index) ::
        embedder.passages (before ++ [text]) := by
  obtain ⟨hrun, hv⟩ :=
    runIn_storeDocument_of_fault hfound hdivided hembedder hparts hbefore hfault
  rw [hrun] at hasked ⊢
  exact ⟨rfl, List.reverse_inj.mp (List.append_cancel_right (hasked.symm.trans hv))⟩

section

variable {storage : Storage} {index : String} {asked passages : List Consultation}
  {sent : List Part} {text : String} {fault : Fault}

theorem writesLast_of_fault
    (hquiet : s.AsksQuietly ((storage.storeDocument index document).runIn s).2 asked)
    (hfault : ((storage.storeDocument index document).runIn s).1 = .error fault) :
    storage.WritesLast index document s ((storage.storeDocument index document).runIn s).1
      asked where
  last := by
    rintro front write rest rfl hwrite
    exact absurd hwrite (hquiet.quiet write (List.mem_append_right _ List.mem_cons_self))
  prepared := fun write hmem hwrite => absurd hwrite (hquiet.quiet write hmem)
  interrupted := interrupted_of_consulted hquiet.consulted
  written := by
    intro stored hstored
    rw [hstored] at hfault
    cases hfault

theorem writesLast_of_prepares (h : storage.Prepares index document s parts passages sent)
    (htext : Bulk.text index sent = .ok text)
    (hasked : ((storage.storeDocument index document).runIn s).2.consulted =
      (writing index passages text).reverse ++ s.consulted) :
    storage.WritesLast index document s ((storage.storeDocument index document).runIn s).1
      (writing index passages text) where
  last := fun front write rest hsplit hwrite => (h.last hsplit hwrite).2
  prepared := by
    intro write hmem hwrite
    obtain ⟨front, rest, hsplit⟩ := List.append_of_mem hmem
    exact ⟨parts, passages, sent, text, h, htext, (h.last hsplit hwrite).1⟩
  interrupted := interrupted_of_consulted hasked
  written := fun stored _ => ⟨parts, passages, sent, text, h, htext, rfl,
    fun hnone _ => h.bare hnone⟩

end

/-- **A document is written last and at most once.**  Whatever the engine and the embedder answer,
the bulk request is sent only when the index was found, the document was divided and all its parts
were embedded, and nothing is asked after it.  The first part that cannot be embedded ends it with
its own fault. -/
theorem writes_last (storage : Storage) (index : String) (document : Document) (s : Surroundings) :
    ∃ asked, ((storage.storeDocument index document).runIn s).2.consulted =
        asked.reverse ++ s.consulted ∧
      storage.WritesLast index document s ((storage.storeDocument index document).runIn s).1
        asked := by
  rcases storeDocument_cases storage index document s with ⟨asked, fault, hquiet, hfault⟩ |
    ⟨parts, passages, sent, text, hprepares, htext, hasked⟩
  · exact ⟨asked, hquiet.consulted, writesLast_of_fault hquiet hfault⟩
  · exact ⟨_, hasked, writesLast_of_prepares hprepares htext hasked⟩

end Storage

end SearchGateway
