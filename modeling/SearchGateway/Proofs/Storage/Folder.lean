import SearchGateway.Proofs.Files
import SearchGateway.Proofs.Path
import SearchGateway.Proofs.Storage.Independence

/-!
# Taking in a folder

The text files of a folder are stored one after the other, in the order of their names, until one of
them cannot be stored.  What it means that documents are stored, or that one of them is the first
that is not, says nothing of folders (`Storage.StoresAll`, `Storage.StoresUntil`); taking in a
folder comes to the one or the other for the documents in it (`Storage.ingests_until_failure`).
-/

set_option autoImplicit false

namespace SearchGateway

open SearchGateway.Action

/-! ## Documents one after the other -/

namespace Surroundings

variable (s : Surroundings) (document : Document)

/-- The surroundings after the operator was told that a document was stored. -/
def confirming (stored : Stored) : Surroundings :=
  s.noting (.logged ⟨.info, s!"Stored {document.file.name}: {stored.parts} parts"⟩)

/-- The surroundings after a document could not be stored.  The operator is told of announced
failures. -/
def reporting : Fault → Surroundings
  | .announced _ message =>
    s.noting (.logged ⟨.error, s!"Failed to store {document.file.name}: {message.display}"⟩)
  | .defect _ => s

/-- The surroundings after the operator was told that a folder was taken in. -/
def completing (count : ℕ) (index : String) : Surroundings :=
  s.noting (.logged ⟨.info, s!"Ingest complete: {count} documents into {index}"⟩)

end Surroundings

namespace Storage

variable (storage : Storage) (index : String)

/-- All documents are stored from `s` to `t`, one after the other and each once, and nothing else is
done but to tell the operator. -/
inductive StoresAll : List Document → Surroundings → Surroundings → Prop
  | nil (s : Surroundings) : StoresAll [] s s
  | cons {document : Document} {documents : List Document} {stored : Stored}
      {s t u : Surroundings}
      (first : (storage.storeDocument index document).runIn s = (.ok stored, t))
      (rest : StoresAll documents (t.confirming document stored) u) :
      StoresAll (document :: documents) s u

/-- One of the documents cannot be stored: those before it are, and none after it is tried. -/
inductive StoresUntil : List Document → Surroundings → Fault → Surroundings → Prop
  | fails {document : Document} {after : List Document} {fault : Fault} {s t : Surroundings}
      (first : (storage.storeDocument index document).runIn s = (.error fault, t)) :
      StoresUntil (document :: after) s fault (t.reporting document fault)
  | later {document : Document} {documents : List Document} {stored : Stored} {fault : Fault}
      {s t u : Surroundings}
      (first : (storage.storeDocument index document).runIn s = (.ok stored, t))
      (rest : StoresUntil documents (t.confirming document stored) fault u) :
      StoresUntil (document :: documents) s fault u

variable {storage index} {documents : List Document} {s t u : Surroundings}

/-- Where it ends. -/
theorem StoresUntil.split {fault : Fault} (h : storage.StoresUntil index documents s fault u) :
    ∃ before document after t v, documents = before ++ document :: after ∧
      storage.StoresAll index before s t ∧
      (storage.storeDocument index document).runIn t = (.error fault, v) ∧
      u = v.reporting document fault := by
  induction h with
  | @fails document after _ s t first =>
    exact ⟨[], document, after, s, t, rfl, .nil s, first, rfl⟩
  | later first _ ih =>
    obtain ⟨before, document, after, t, v, rfl, hbefore, hfails, rfl⟩ := ih
    exact ⟨_ :: before, document, after, t, v, rfl, .cons first hbefore, hfails, rfl⟩

/-- Documents that are stored one after the other are all stored, or there is a first one that is
not. -/
theorem storesAll_or_storesUntil (storage : Storage) (index : String) (documents : List Document)
    (s : Surroundings) : (∃ t, storage.StoresAll index documents s t) ∨
      ∃ fault t, storage.StoresUntil index documents s fault t := by
  induction documents generalizing s with
  | nil => exact .inl ⟨s, .nil s⟩
  | cons document documents ih =>
    rcases hfirst : (storage.storeDocument index document).runIn s with ⟨fault | stored, t⟩
    · exact .inr ⟨fault, _, .fails hfirst⟩
    · rcases ih (t.confirming document stored) with ⟨u, hrest⟩ | ⟨fault, u, hrest⟩
      · exact .inl ⟨u, .cons hfirst hrest⟩
      · exact .inr ⟨fault, u, .later hfirst hrest⟩

section

variable {front back : List Document} {fault : Fault}

theorem storesAll_append : storage.StoresAll index (front ++ back) s u ↔
    ∃ t, storage.StoresAll index front s t ∧ storage.StoresAll index back t u := by
  constructor
  · intro h
    induction front generalizing s with
    | nil => exact ⟨s, .nil s, h⟩
    | cons document front ih =>
      cases h with
      | cons first rest =>
        obtain ⟨t, hfront, hback⟩ := ih rest
        exact ⟨t, .cons first hfront, hback⟩
  · rintro ⟨t, hfront, hback⟩
    induction hfront with
    | nil => exact hback
    | cons first _ ih => exact .cons first (ih hback)

theorem StoresUntil.append (h : storage.StoresUntil index front s fault u) (back : List Document) :
    storage.StoresUntil index (front ++ back) s fault u := by
  induction h with
  | fails first => exact .fails first
  | later first _ ih => exact .later first ih

/-- What cannot be stored is not among the documents that are. -/
theorem StoresAll.storesUntil_of_append (hfront : storage.StoresAll index front s t)
    (h : storage.StoresUntil index (front ++ back) s fault u) :
    storage.StoresUntil index back t fault u := by
  induction hfront with
  | nil => exact h
  | cons first _ ih =>
    cases h with
    | fails hfails =>
      rw [first] at hfails
      cases hfails
    | later hfirst hrest =>
      rw [first] at hfirst
      cases hfirst
      exact ih hrest

/-- The engine is asked for something before storing ends with a failure. -/
theorem StoresUntil.length_requests_lt (h : storage.StoresUntil index documents s fault u) :
    s.requests.length < u.requests.length := by
  have hstep {document : Document} {result : Except Fault Stored} {s t : Surroundings}
      (hrun : (storage.storeDocument index document).runIn s = (result, t)) :
      s.requests.length < t.requests.length := by
    obtain ⟨asked, hasked⟩ := storage.requests_storeDocument index document s
    rw [hrun] at hasked
    rw [show t.requests = _ from hasked, List.length_append, List.length_cons]
    omega
  induction h with
  | @fails document _ fault _ t first =>
    have hreporting : (t.reporting document fault).requests = t.requests := by
      cases fault <;> rfl
    rw [hreporting]
    exact hstep first
  | later first _ ih => exact (hstep first).trans ih

end

/-! ## Files one after the other -/

/-- What storing a document of a folder comes to. -/
theorem runIn_ingestDocument (storage : Storage) (index : String) (document : Document)
    (s : Surroundings) : (storage.ingestDocument index document).runIn s =
      match (storage.storeDocument index document).runIn s with
      | (.ok stored, t) => (.ok (), t.confirming document stored)
      | (.error fault, t) => (.error fault, t.reporting document fault) := by
  rw [ingestDocument, runIn_bind_of_ok (runIn_attempt ..)]
  rcases (storage.storeDocument index document).runIn s with ⟨⟨_ | _⟩ | _, _⟩ <;> rfl

theorem files_eq_of_storeDocument (storage : Storage) {index : String} {document : Document}
    {result : Except Fault Stored} {s t : Surroundings}
    (h : (storage.storeDocument index document).runIn s = (result, t)) : t.files = s.files := by
  have hfiles := storage.keepsFiles_storeDocument index document s
  rwa [h] at hfiles

variable {storage : Storage} {index : String} {trail : Trail} {path : Path} {names : List String}
  {s t u : Surroundings}

/-- What comes of the first of several files if it can be read. -/
theorem runIn_ingestFiles_cons {name : String} (rest : List String)
    (hreadable : Path.HasTextSuffix name → ∃ document, s.files.ReadsAs trail path name document) :
    (storage.ingestFiles index trail path (name :: rest)).runIn s =
      match s.files.document? trail path name with
      | none => (storage.ingestFiles index trail path rest).runIn s
      | some document => match (storage.storeDocument index document).runIn s with
        | (.ok stored, t) => ((storage.ingestFiles index trail path rest).runIn
            (t.confirming document stored)).map (Except.map (· + 1)) id
        | (.error fault, t) => (.error fault, t.reporting document fault) := by
  rw [ingestFiles, Files.document?]
  by_cases hsuffix : textSuffixes.contains (Path.suffix name) = true
  · obtain ⟨document, hreads⟩ := hreadable (Path.contains_suffix_iff.mp hsuffix)
    have hload := Files.loadDocument_eq_ok.mpr hreads
    rw [if_neg (by rw [hsuffix]; decide), if_pos hsuffix, runIn_bind_of_ok (runIn_get s), hload]
    show (if Text.isBlankText document.content = true then _ else _ : Action ℕ).runIn s =
      match (some document).filter _ with | none => _ | some _ => _
    cases hblank : Text.isBlankText document.content with
    | true =>
      rw [Option.filter_some, if_pos rfl, hblank]
      rfl
    | false =>
      rw [Option.filter_some, if_neg Bool.false_ne_true, hblank]
      show _ = match (storage.storeDocument index document).runIn s with | _ => _
      rw [runIn_bind, runIn_ingestDocument]
      rcases (storage.storeDocument index document).runIn s with ⟨fault | stored, t⟩
      · rfl
      · dsimp only
        rw [runIn_bind]
        rcases (storage.ingestFiles index trail path rest).runIn (t.confirming document stored)
          with ⟨_ | _, _⟩ <;> rfl
  · rw [if_pos (by simpa using hsuffix), if_neg hsuffix]

variable {files : Files} {more : List String}

/-- If the documents among some files are all stored, it goes on with the files after those. -/
theorem runIn_ingestFiles_of_storesAll {result : Except Fault ℕ}
    (hreadable : files.AreReadable trail path names)
    (hstored : storage.StoresAll index (files.documents trail path names) s t)
    (hfiles : s.files = files)
    (hmore : (storage.ingestFiles index trail path more).runIn t = (result, u)) :
    (storage.ingestFiles index trail path (names ++ more)).runIn s =
      (result.map ((files.documents trail path names).length + ·), u) := by
  induction names generalizing s with
  | nil =>
    cases hstored
    rw [List.nil_append, hmore]
    cases result <;> simp [Except.map, Files.documents]
  | cons name rest ih =>
    obtain ⟨hname, hrest⟩ := List.forall_mem_cons.mp hreadable
    rw [List.cons_append, runIn_ingestFiles_cons (rest ++ more) (hfiles ▸ hname), hfiles]
    cases hdocument : files.document? trail path name with
    | none =>
      rw [Files.documents_cons_none hdocument] at hstored ⊢
      exact ih hrest hstored hfiles
    | some document =>
      rw [Files.documents_cons_some hdocument] at hstored ⊢
      cases hstored with
      | cons hfirst hlater =>
        dsimp only
        rw [hfirst]
        dsimp only
        rw [ih hrest hlater ((storage.files_eq_of_storeDocument hfirst).trans hfiles)]
        cases result with
        | error fault => rfl
        | ok count => simp [Except.map, Nat.add_right_comm]

/-- If one of the documents among some files cannot be stored, that is the end. -/
theorem runIn_ingestFiles_of_storesUntil {fault : Fault}
    (hreadable : files.AreReadable trail path names)
    (hstored : storage.StoresUntil index (files.documents trail path names) s fault t)
    (hfiles : s.files = files) :
    (storage.ingestFiles index trail path (names ++ more)).runIn s = (.error fault, t) := by
  induction names generalizing s with
  | nil => cases hstored
  | cons name rest ih =>
    obtain ⟨hname, hrest⟩ := List.forall_mem_cons.mp hreadable
    rw [List.cons_append, runIn_ingestFiles_cons (rest ++ more) (hfiles ▸ hname), hfiles]
    cases hdocument : files.document? trail path name with
    | none =>
      rw [Files.documents_cons_none hdocument] at hstored
      exact ih hrest hstored hfiles
    | some document =>
      rw [Files.documents_cons_some hdocument] at hstored
      cases hstored with
      | fails hfirst =>
        dsimp only
        rw [hfirst]
      | later hfirst hlater =>
        dsimp only
        rw [hfirst]
        dsimp only
        rw [ih hrest hlater ((storage.files_eq_of_storeDocument hfirst).trans hfiles)]
        rfl

/-! ## The whole folder -/

theorem runIn_ingestPath {folder : String}
    (hfolder : s.files.folder? (.ofString folder) = .ok (some trail)) :
    (storage.ingestPath index folder).runIn s =
      match (storage.ingestFiles index trail (.ofString folder) (s.files.names trail)).runIn s with
      | (.ok count, t) => (.ok count, t.completing count index)
      | (.error fault, t) => (.error fault, t) := by
  rw [ingestPath, runIn_bind_of_ok (runIn_get s)]
  dsimp only
  rw [hfolder]
  show (storage.ingestFiles index trail (.ofString folder) (s.files.names trail) >>= _).runIn s = _
  rw [runIn_bind]
  rcases (storage.ingestFiles index trail (.ofString folder) (s.files.names trail)).runIn s
    with ⟨_ | _, _⟩ <;> rfl

section

variable {folder : String} {documents : List Document}
  (hfolder : s.files.folder? (.ofString folder) = .ok (some trail))
  (hreadable : s.files.AreReadable trail (.ofString folder) (s.files.names trail))
  (hlists : s.files.Lists trail (.ofString folder) documents)

include hfolder hreadable hlists

theorem runIn_ingestPath_of_storesAll (h : storage.StoresAll index documents s t) :
    (storage.ingestPath index folder).runIn s =
      (.ok documents.length, t.completing documents.length index) := by
  obtain rfl := hlists.eq (s.files.lists_documents trail (.ofString folder))
  have hrun : (storage.ingestFiles index trail (.ofString folder) (s.files.names trail ++ [])).runIn
      s = _ := runIn_ingestFiles_of_storesAll hreadable h rfl rfl
  rw [List.append_nil] at hrun
  rw [runIn_ingestPath hfolder, hrun]
  rfl

theorem runIn_ingestPath_of_storesUntil {fault : Fault}
    (h : storage.StoresUntil index documents s fault t) :
    (storage.ingestPath index folder).runIn s = (.error fault, t) := by
  obtain rfl := hlists.eq (s.files.lists_documents trail (.ofString folder))
  have hrun : (storage.ingestFiles index trail (.ofString folder) (s.files.names trail ++ [])).runIn
      s = _ := runIn_ingestFiles_of_storesUntil hreadable h rfl
  rw [List.append_nil] at hrun
  rw [runIn_ingestPath hfolder, hrun]

end

/-- **A folder is taken in up to the first failure.**  The documents that are handed over to be
stored are the text files of the folder with content, in order and each once.  If all of them are
stored their number is the result.  Otherwise the first failure is, and nothing comes after it. -/
theorem ingests_until_failure (storage : Storage) (index folder : String) (s : Surroundings)
    {trail : Trail} (hfolder : s.files.folder? (.ofString folder) = .ok (some trail))
    (hreadable : s.files.AreReadable trail (.ofString folder) (s.files.names trail)) :
    ∃ documents, s.files.Lists trail (.ofString folder) documents ∧
      ((∃ t, storage.StoresAll index documents s t ∧
          (storage.ingestPath index folder).runIn s =
            (.ok documents.length, t.completing documents.length index)) ∨
        ∃ before document after t fault u, documents = before ++ document :: after ∧
          storage.StoresAll index before s t ∧
          (storage.storeDocument index document).runIn t = (.error fault, u) ∧
          (storage.ingestPath index folder).runIn s =
            (.error fault, u.reporting document fault)) := by
  have hlists := s.files.lists_documents trail (.ofString folder)
  refine ⟨_, hlists, ?_⟩
  rcases storesAll_or_storesUntil storage index _ s with ⟨t, h⟩ | ⟨fault, t, h⟩
  · exact .inl ⟨t, h, runIn_ingestPath_of_storesAll hfolder hreadable hlists h⟩
  · obtain ⟨before, document, after, u, v, hdocuments, hbefore, hfails, rfl⟩ := h.split
    exact .inr ⟨before, document, after, u, fault, v, hdocuments, hbefore, hfails,
      runIn_ingestPath_of_storesUntil hfolder hreadable hlists h⟩

/-- A file with a text in it. -/
def page (text : String) : Entry := .file ⟨text.toUTF8, .seconds 1, .seconds 2⟩

/-- A folder with two texts, a blank one and a file of another kind, beside the working folder. -/
def shelf : Files where
  entries := [(["srv", "in", "b.txt"], page "b"), (["srv", "in", "list.json"], page "[]"),
    (["srv", "in", "c.md"], page " "), (["srv", "in", "a.MD"], page "a")]
  working := ["srv", "app"]

theorem ofString_absolute : Path.ofString "/srv/in" = ⟨"/", ["srv", "in"]⟩ := by
  have htext : (⟨"/", ["srv", "in"]⟩ : Path).toString = "/srv/in" := by decide
  rw [← htext]
  exact Path.ofString_toString ⟨.inr (.inl rfl), by decide⟩

theorem folder?_shelf : shelf.folder? (.ofString "/srv/in") = .ok (some ["srv", "in"]) := by
  have htext : (⟨"/", ["srv", "in"]⟩ : Path).toString = "/srv/in" := by decide
  rw [ofString_absolute]
  exact Files.folder?_of_isFolder rfl (by decide) (by decide) (by rw [htext]; simp)

theorem mem_names_shelf {name : String} : name ∈ shelf.names ["srv", "in"] ↔
    name = "b.txt" ∨ name = "list.json" ∨ name = "c.md" ∨ name = "a.MD" := by
  rw [Files.mem_names_iff, Files.isSome_entry?_iff]
  simp [shelf, Files.listed]

/-- The text files can be read, under whatever path the folder is found. -/
theorem areReadable_shelf {path : Path} (hreach : ∀ name ∈ ["b.txt", "list.json", "c.md", "a.MD"],
    (path.child name).toString.utf8ByteSize ≤ Files.longestPath) :
    shelf.AreReadable ["srv", "in"] path (shelf.names ["srv", "in"]) := by
  have hpage (name text : String) (hlisted : shelf.entry? ["srv", "in", name] = some (page text))
      (hname : name ∈ ["b.txt", "list.json", "c.md", "a.MD"])
      (htext : String.fromUTF8? text.toUTF8 = some text) :
      ∃ document, shelf.ReadsAs ["srv", "in"] path name document :=
    ⟨_, .file hlisted (hreach name hname) htext rfl rfl⟩
  intro name hname _
  rcases mem_names_shelf.mp hname with rfl | rfl | rfl | rfl
  · exact hpage _ "b" rfl (by decide) rfl
  · exact hpage _ "[]" rfl (by decide) rfl
  · exact hpage _ " " rfl (by decide) rfl
  · exact hpage _ "a" rfl (by decide) rfl

theorem areReadable_absolute :
    shelf.AreReadable ["srv", "in"] (.ofString "/srv/in") (shelf.names ["srv", "in"]) := by
  rw [ofString_absolute]
  exact areReadable_shelf (by decide)

/-- The folder is taken in by its path from the root, while the engine answers for one document. -/
theorem ingests_until_failure_shelf :
    let s := { Surroundings.answering [.rendered listing, .rendered (.obj [])] with files := shelf }
    s.files.folder? (.ofString "/srv/in") = .ok (some ["srv", "in"]) ∧
    s.files.AreReadable ["srv", "in"] (.ofString "/srv/in") (s.files.names ["srv", "in"]) ∧
    ∃ documents, s.files.Lists ["srv", "in"] (.ofString "/srv/in") documents ∧
      ((∃ t, plain.StoresAll "notes" documents s t ∧
          (plain.ingestPath "notes" "/srv/in").runIn s =
            (.ok documents.length, t.completing documents.length "notes")) ∨
        ∃ before document after t fault u, documents = before ++ document :: after ∧
          plain.StoresAll "notes" before s t ∧
          (plain.storeDocument "notes" document).runIn t = (.error fault, u) ∧
          (plain.ingestPath "notes" "/srv/in").runIn s =
            (.error fault, u.reporting document fault)) :=
  ⟨folder?_shelf, areReadable_absolute,
    ingests_until_failure plain "notes" "/srv/in" _ folder?_shelf areReadable_absolute⟩

end Storage

end SearchGateway
