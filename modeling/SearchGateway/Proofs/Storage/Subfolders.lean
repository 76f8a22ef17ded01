import Mathlib.Data.Finset.Max
import SearchGateway.Proofs.Storage.Folder

/-!
# Subfolders

A folder is gone through by names, and a name says nothing of whether it stands for a file.  So a
subfolder is passed over unless its name ends like that of a text file; such a one ends it, after
what comes before it in order is stored.  Subfolders make no difference exactly if there is none of
these that storing gets to (`Storage.undisturbed_iff`).
-/

set_option autoImplicit false

namespace SearchGateway

open SearchGateway.Action

namespace Files

variable {files files' : Files} {trail : Trail} {path : Path} {name : String}
  {document : Document}

/-! ## Subfolders among files -/

/-- A name stands for nothing among the first files and for a folder among the others. -/
def IsAdded (files files' : Files) (trail : Trail) (name : String) : Prop :=
  files.entry? (trail ++ [name]) = none ∧ files'.entry? (trail ++ [name]) = some .folder

/-- A folder holds the same among the one files as among the others, and some folders more. -/
def AddsFolders (files files' : Files) (trail : Trail) : Prop :=
  ∀ name, files'.entry? (trail ++ [name]) = files.entry? (trail ++ [name]) ∨
    files.IsAdded files' trail name

/-- A folder was added that has the name of a text file. -/
def Misleads (files files' : Files) (trail : Trail) (name : String) : Prop :=
  files.IsAdded files' trail name ∧ Path.HasTextSuffix name

theorem ReadsAs.of_entry?_eq (h : files.ReadsAs trail path name document)
    (hentry : files'.entry? (trail ++ [name]) = files.entry? (trail ++ [name])) :
    files'.ReadsAs trail path name document := by
  cases h with
  | file listed inReach isText created modified =>
    exact .file (hentry.trans listed) inReach isText created modified

/-- Added folders are read neither before nor after. -/
theorem AddsFolders.readsAs_iff (h : files.AddsFolders files' trail) :
    files'.ReadsAs trail path name document ↔ files.ReadsAs trail path name document := by
  rcases h name with hsame | ⟨hnone, hfolder⟩
  · exact ⟨fun hreads => hreads.of_entry?_eq hsame.symm, fun hreads => hreads.of_entry?_eq hsame⟩
  · constructor
    · rintro ⟨hlisted⟩
      simp [hfolder] at hlisted
    · rintro ⟨hlisted⟩
      simp [hnone] at hlisted

theorem AddsFolders.document?_eq (h : files.AddsFolders files' trail) (name : String) :
    files'.document? trail path name = files.document? trail path name := by
  ext document
  rw [document?_eq_some, document?_eq_some, h.readsAs_iff]

theorem AddsFolders.documents_eq (h : files.AddsFolders files' trail) (names : List String) :
    files'.documents trail path names = files.documents trail path names :=
  List.filterMap_congr fun name _ => h.document?_eq name

theorem AddsFolders.lists_iff (h : files.AddsFolders files' trail) {documents : List Document} :
    files'.Lists trail path documents ↔ files.Lists trail path documents := by
  constructor
  · rintro ⟨hordered, hmem⟩
    exact ⟨hordered, by simpa only [h.readsAs_iff] using hmem⟩
  · rintro ⟨hordered, hmem⟩
    exact ⟨hordered, by simpa only [h.readsAs_iff] using hmem⟩

/-- The text files among names that do not mislead can be read with the folders as they can be
without. -/
theorem AddsFolders.areReadable (h : files.AddsFolders files' trail) {names : List String}
    (hreadable : files.AreReadable trail path (files.names trail))
    (hnames : ∀ name ∈ names, name ∈ files'.names trail ∧ ¬files.Misleads files' trail name) :
    files'.AreReadable trail path names := by
  intro name hmem hsuffix
  obtain ⟨hname, hleads⟩ := hnames name hmem
  rw [mem_names_iff] at hname
  rcases h name with hsame | hadded
  · rw [hsame, ← mem_names_iff] at hname
    obtain ⟨document, hreads⟩ := hreadable name hname hsuffix
    exact ⟨document, h.readsAs_iff.mpr hreads⟩
  · exact absurd ⟨hadded, hsuffix⟩ hleads

/-- The documents whose names come before a name. -/
def earlier (name : String) (documents : List Document) : List Document :=
  documents.filter fun document => document.file.name < name

/-- In order, the documents before a name come first. -/
theorem exists_eq_earlier_append {documents : List Document}
    (h : documents.Pairwise fun first second => first.file.name < second.file.name)
    (name : String) : ∃ later, documents = earlier name documents ++ later :=
  ⟨_, eq_filter_append_of_ordered h _ fun _ _ _ _ hlt hother => by
    simpa using hlt.trans (of_decide_eq_true hother)⟩

theorem earlier_earlier {other : String} (h : other ≤ name) (documents : List Document) :
    earlier other (earlier name documents) = earlier other documents := by
  rw [earlier, earlier, List.filter_filter, earlier]
  refine List.filter_congr fun document _ => ?_
  rw [Bool.and_eq_left_iff_imp]
  intro hother
  simpa using (of_decide_eq_true hother).trans_le h

/-- If subfolders mislead there is a first one that does. -/
theorem Misleads.exists_first (h : files.Misleads files' trail name) :
    ∃ first, files.Misleads files' trail first ∧ first ≤ name ∧
      ∀ other, files.Misleads files' trail other → first ≤ other := by
  classical
  have hmem {other : String} (hother : files.Misleads files' trail other) :
      other ∈ (files'.names trail).toFinset.filter (files.Misleads files' trail) := by
    rw [Finset.mem_filter, List.mem_toFinset, mem_names_iff, hother.1.2]
    exact ⟨rfl, hother⟩
  obtain ⟨first, hfirst, hleast⟩ := Finset.exists_min_image _ id ⟨name, hmem h⟩
  exact ⟨first, (Finset.mem_filter.mp hfirst).2, hleast _ (hmem h), fun other hother =>
    hleast _ (hmem hother)⟩

/-- What comes before the first folder that misleads: nothing but what is there without folders. -/
theorem AddsFolders.split_names (h : files.AddsFolders files' trail)
    (hreadable : files.AreReadable trail path (files.names trail))
    (hname : files.Misleads files' trail name)
    (hfirst : ∀ other, files.Misleads files' trail other → name ≤ other) :
    ∃ front back, files'.names trail = front ++ name :: back ∧
      files'.AreReadable trail path front ∧ files'.documents trail path front =
        earlier name (files.documents trail path (files.names trail)) := by
  have hmem : name ∈ files'.names trail := by
    rw [mem_names_iff, hname.1.2]
    rfl
  obtain ⟨front, back, hnames⟩ := List.append_of_mem hmem
  have hsorted := files'.pairwise_names trail
  rw [hnames, List.pairwise_append] at hsorted
  obtain ⟨hfront, hback, hbefore⟩ := hsorted
  have hlt : ∀ other ∈ front, other < name := fun other hother =>
    hbefore other hother name List.mem_cons_self
  refine ⟨front, back, hnames, h.areReadable hreadable fun other hother => ⟨?_, ?_⟩, ?_⟩
  · rw [hnames]
    exact List.mem_append_left _ hother
  · exact fun hmisleads => absurd (hlt other hother) (not_lt_of_ge (hfirst other hmisleads))
  · rw [h.documents_eq]
    refine eq_of_ordered (pairwise_documents hfront)
      ((pairwise_documents (files.pairwise_names trail)).filter _) fun document => ?_
    rw [earlier, List.mem_filter, mem_documents_iff, mem_documents_iff, decide_eq_true_iff]
    constructor
    · rintro ⟨hother, hdocument⟩
      exact ⟨⟨mem_names_of_document? hdocument, hdocument⟩, hlt _ hother⟩
    · rintro ⟨⟨-, hdocument⟩, hother⟩
      have hthere : document.file.name ∈ front ++ name :: back :=
        hnames ▸ mem_names_of_document? ((h.document?_eq _).trans hdocument)
      refine ⟨(List.mem_append.mp hthere).resolve_right fun hbehind => ?_, hdocument⟩
      rcases List.mem_cons.mp hbehind with hsame | hlater
      · exact hother.ne hsame
      · exact lt_asymm hother ((List.pairwise_cons.mp hback).1 _ hlater)

end Files

/-! ## Storing with other files around -/

namespace Storage

variable {storage : Storage} {index : String} {documents : List Document} {s t : Surroundings}

theorem StoresAll.withFiles (h : storage.StoresAll index documents s t) (files : Files) :
    storage.StoresAll index documents (s.withFiles files) (t.withFiles files) := by
  induction h with
  | nil => exact .nil _
  | @cons document _ _ s _ _ first _ ih =>
    have hrun := storage.runIn_storeDocument_withFiles index document files s
    rw [first] at hrun
    exact .cons hrun ih

theorem StoresUntil.withFiles {fault : Fault} (h : storage.StoresUntil index documents s fault t)
    (files : Files) :
    storage.StoresUntil index documents (s.withFiles files) fault (t.withFiles files) := by
  induction h with
  | @fails document _ fault s t first =>
    have hrun := storage.runIn_storeDocument_withFiles index document files s
    rw [first] at hrun
    have hreporting : (t.reporting document fault).withFiles files =
        (t.withFiles files).reporting document fault := by
      cases fault <;> rfl
    rw [hreporting]
    exact .fails hrun
  | @later document _ _ _ s _ _ first _ ih =>
    have hrun := storage.runIn_storeDocument_withFiles index document files s
    rw [first] at hrun
    exact .later hrun ih

/-! ## Folders that mislead -/

variable {files files' : Files} {trail : Trail} {path : Path} {name : String}

/-- What a folder with the name of a text file leads to. -/
def misled (path : Path) (name : String) : Defect :=
  if Files.longestPath < (path.child name).toString.utf8ByteSize then .pathTooLong
  else .folderAsFile

/-- Storing the files of a folder ends at a folder with the name of a text file. -/
theorem runIn_ingestFiles_of_misleads (hmisleads : files.Misleads files' trail name)
    (rest : List String) (hfiles : s.files = files') :
    (storage.ingestFiles index trail path (name :: rest)).runIn s =
      (.error (.defect (misled path name)), s) := by
  obtain ⟨⟨-, hfolder⟩, hsuffix⟩ := hmisleads
  have hload : loadDocument files' trail path name = .error (misled path name) := by
    rw [loadDocument, misled, hfolder]
    split
    · rfl
    · rfl
  rw [ingestFiles, if_neg (by rw [Path.contains_suffix_iff.mpr hsuffix]; decide),
    runIn_bind_of_ok (runIn_get s), hfiles, hload]
  rfl

/-! ## What subfolders do to a folder -/

section

variable {folder : String} {documents : List Document}

/-- Taking in a folder comes to the same with other files: the same documents are stored in the same
order, and the result is the same. -/
def Undisturbed (storage : Storage) (index folder : String) (s : Surroundings) (files : Files) :
    Prop :=
  (storage.ingestPath index folder).runIn (s.withFiles files) =
    (((storage.ingestPath index folder).runIn s).1,
      ((storage.ingestPath index folder).runIn s).2.withFiles files)

variable (hadds : s.files.AddsFolders files' trail)
  (hreadable : s.files.AreReadable trail (.ofString folder) (s.files.names trail))
  (hfolder' : files'.folder? (.ofString folder) = .ok (some trail))
  (hlists : s.files.Lists trail (.ofString folder) documents)

include hadds hreadable hfolder' hlists

/-- What comes of a folder with a first subfolder that misleads. -/
theorem runIn_ingestPath_of_misleads (hname : s.files.Misleads files' trail name)
    (hfirst : ∀ other, s.files.Misleads files' trail other → name ≤ other) :
    (∀ t, storage.StoresAll index (Files.earlier name documents) s t →
      (storage.ingestPath index folder).runIn (s.withFiles files') =
        (.error (.defect (misled (.ofString folder) name)), t.withFiles files')) ∧
    ∀ fault t, storage.StoresUntil index (Files.earlier name documents) s fault t →
      (storage.ingestPath index folder).runIn (s.withFiles files') =
        (.error fault, t.withFiles files') := by
  obtain rfl := hlists.eq (s.files.lists_documents trail (.ofString folder))
  obtain ⟨front, back, hnames, hfront, hdocuments⟩ := hadds.split_names hreadable hname hfirst
  have hrun : (storage.ingestPath index folder).runIn (s.withFiles files') = _ :=
    runIn_ingestPath hfolder'
  have hhere : (s.withFiles files').files = files' := rfl
  rw [hhere, hnames] at hrun
  rw [← hdocuments, hrun]
  constructor
  · intro t hstored
    rw [runIn_ingestFiles_of_storesAll hfront (hstored.withFiles files') rfl
      (runIn_ingestFiles_of_misleads hname back rfl)]
    rfl
  · intro fault t hfails
    rw [runIn_ingestFiles_of_storesUntil hfront (hfails.withFiles files') rfl]

variable (hfolder : s.files.folder? (.ofString folder) = .ok (some trail))

include hfolder

/-- Without subfolders that mislead there is no difference. -/
theorem undisturbed_of_none (hnone : ∀ name, ¬s.files.Misleads files' trail name) :
    storage.Undisturbed index folder s files' := by
  have hlists' : files'.Lists trail (.ofString folder) documents := hadds.lists_iff.mpr hlists
  have hreadable' : files'.AreReadable trail (.ofString folder) (files'.names trail) :=
    hadds.areReadable hreadable fun name hname => ⟨hname, hnone name⟩
  unfold Undisturbed
  rcases storesAll_or_storesUntil storage index documents s with ⟨t, h⟩ | ⟨fault, t, h⟩
  · rw [runIn_ingestPath_of_storesAll hfolder hreadable hlists h, runIn_ingestPath_of_storesAll
      (s := s.withFiles files') hfolder' hreadable' hlists' (h.withFiles files')]
    rfl
  · rw [runIn_ingestPath_of_storesUntil hfolder hreadable hlists h,
      runIn_ingestPath_of_storesUntil (s := s.withFiles files') hfolder' hreadable' hlists'
        (h.withFiles files')]

/-- If everything before a first subfolder that misleads can be stored, there is a difference. -/
theorem not_undisturbed (hname : s.files.Misleads files' trail name)
    (hfirst : ∀ other, s.files.Misleads files' trail other → name ≤ other)
    (hstored : storage.StoresAll index (Files.earlier name documents) s t) :
    ¬storage.Undisturbed index folder s files' := by
  intro hsame
  have hends := (runIn_ingestPath_of_misleads hadds hreadable hfolder' hlists hname hfirst).1 t
    hstored
  rw [hsame] at hends
  obtain ⟨hresult, hafter⟩ := Prod.mk.inj hends
  rcases storesAll_or_storesUntil storage index documents s with ⟨u, h⟩ | ⟨fault, u, h⟩
  · rw [runIn_ingestPath_of_storesAll hfolder hreadable hlists h] at hresult
    cases hresult
  · -- Without the subfolder at least one more document is tried.
    rw [runIn_ingestPath_of_storesUntil hfolder hreadable hlists h] at hafter
    obtain ⟨later, hlater⟩ := Files.exists_eq_earlier_append hlists.ordered name
    rw [hlater] at h
    have hlt := (hstored.storesUntil_of_append h).length_requests_lt
    have hrequests := congrArg Surroundings.requests hafter
    change u.requests = t.requests at hrequests
    rw [hrequests] at hlt
    exact lt_irrefl _ hlt

end

/-- **Subfolders make no difference exactly if storing fails before any of them that has the name of
a text file.**  Otherwise the first one of these ends it with a defect, after all that comes before
it was stored. -/
theorem undisturbed_iff (storage : Storage) (index folder : String) (s : Surroundings)
    {files' : Files} {trail : Trail}
    (hfolder : s.files.folder? (.ofString folder) = .ok (some trail))
    (hfolder' : files'.folder? (.ofString folder) = .ok (some trail))
    (hreadable : s.files.AreReadable trail (.ofString folder) (s.files.names trail))
    (hadds : s.files.AddsFolders files' trail) :
    ∃ documents, s.files.Lists trail (.ofString folder) documents ∧
      (storage.Undisturbed index folder s files' ↔ ∀ name, s.files.Misleads files' trail name →
        ¬∃ t, storage.StoresAll index (Files.earlier name documents) s t) ∧
      ∀ name, s.files.Misleads files' trail name →
        (∀ other, s.files.Misleads files' trail other → name ≤ other) →
        ∀ t, storage.StoresAll index (Files.earlier name documents) s t →
          (storage.ingestPath index folder).runIn (s.withFiles files') =
            (.error (.defect (misled (.ofString folder) name)), t.withFiles files') := by
  have hlists := s.files.lists_documents trail (.ofString folder)
  refine ⟨_, hlists, ⟨?_, fun hstuck => ?_⟩, fun name hname hfirst =>
    (runIn_ingestPath_of_misleads hadds hreadable hfolder' hlists hname hfirst).1⟩
  · rintro hsame name hname ⟨t, hstored⟩
    obtain ⟨first, hmisleads, hle, hfirst⟩ := hname.exists_first
    have hordered : (Files.earlier name _).Pairwise _ := hlists.ordered.filter _
    obtain ⟨later, hlater⟩ := Files.exists_eq_earlier_append hordered first
    rw [Files.earlier_earlier hle] at hlater
    rw [hlater] at hstored
    obtain ⟨u, hbefore, -⟩ := storesAll_append.mp hstored
    exact not_undisturbed hadds hreadable hfolder' hlists hfolder hmisleads hfirst hbefore hsame
  · by_cases hnone : ∀ name, ¬s.files.Misleads files' trail name
    · exact undisturbed_of_none hadds hreadable hfolder' hlists hfolder hnone
    · obtain ⟨name, hname⟩ := not_forall_not.mp hnone
      obtain ⟨first, hmisleads, -, hfirst⟩ := hname.exists_first
      obtain ⟨fault, t, hfails⟩ :=
        (storesAll_or_storesUntil storage index _ s).resolve_left (hstuck first hmisleads)
      obtain ⟨later, hlater⟩ := Files.exists_eq_earlier_append hlists.ordered first
      have hall := hfails.append later
      rw [← hlater] at hall
      rw [Undisturbed, runIn_ingestPath_of_storesUntil hfolder hreadable hlists hall]
      exact (runIn_ingestPath_of_misleads hadds hreadable hfolder' hlists hmisleads hfirst).2
        fault t hfails

/-- The folder with a subfolder more, which comes first in order. -/
def stackedShelf : Files :=
  { shelf with entries := (["srv", "in", "0.txt"], .folder) :: shelf.entries }

theorem ofString_beside : Path.ofString "../in" = ⟨"", ["..", "in"]⟩ := by
  have htext : (⟨"", ["..", "in"]⟩ : Path).toString = "../in" := by decide
  rw [← htext]
  exact Path.ofString_toString ⟨.inl rfl, by decide⟩

/-- One step up from the working folder, and from there one step down. -/
theorem folder?_beside (files : Files) : files.folder? (.ofString "../in") =
    files.enter files.working ["..", "in"] := by
  have htext : (⟨"", ["..", "in"]⟩ : Path).toString = "../in" := by decide
  rw [ofString_beside, Files.folder?, htext, if_neg (by simp), if_neg (by decide)]
  rfl

theorem folder?_shelf_beside : shelf.folder? (.ofString "../in") = .ok (some ["srv", "in"]) := by
  rw [folder?_beside]
  rfl

theorem folder?_stackedShelf :
    stackedShelf.folder? (.ofString "../in") = .ok (some ["srv", "in"]) := by
  rw [folder?_beside]
  rfl

theorem areReadable_beside :
    shelf.AreReadable ["srv", "in"] (.ofString "../in") (shelf.names ["srv", "in"]) := by
  rw [ofString_beside]
  exact areReadable_shelf (by decide)

theorem entry?_stackedShelf {name : String} (h : name ≠ "0.txt") :
    stackedShelf.entry? (["srv", "in"] ++ [name]) = shelf.entry? (["srv", "in"] ++ [name]) := by
  have hlookup : List.lookup ["srv", "in", name] stackedShelf.listed =
      List.lookup ["srv", "in", name] shelf.listed := by
    simp [Files.listed, stackedShelf, List.lookup_cons, beq_eq_false_iff_ne.mpr h]
  have hfolder : stackedShelf.isFolder ["srv", "in", name] =
      shelf.isFolder ["srv", "in", name] := by
    simp [Files.isFolder, Files.listed, stackedShelf, List.isPrefixOf, beq_eq_false_iff_ne.mpr h]
  rw [List.cons_append, List.singleton_append, Files.entry?, Files.entry?, hlookup, hfolder]

theorem addsFolders_stackedShelf : shelf.AddsFolders stackedShelf ["srv", "in"] := by
  intro name
  by_cases hname : name = "0.txt"
  · subst hname
    exact .inr ⟨rfl, rfl⟩
  · exact .inl (entry?_stackedShelf hname)

theorem misleads_stackedShelf {name : String} :
    shelf.Misleads stackedShelf ["srv", "in"] name ↔ name = "0.txt" := by
  constructor
  · rintro ⟨⟨hnone, hfolder⟩, -⟩
    by_contra hname
    rw [entry?_stackedShelf hname, hnone] at hfolder
    cases hfolder
  · rintro rfl
    exact ⟨⟨rfl, rfl⟩, ['0'], ['.', 't', 'x', 't'], rfl, by decide, by decide⟩

/-- The folder beside the working folder is taken in with the subfolder. -/
theorem undisturbed_iff_shelf :
    let s := { Surroundings.answering [.rendered listing, .rendered (.obj [])] with files := shelf }
    s.files.folder? (.ofString "../in") = .ok (some ["srv", "in"]) ∧
    stackedShelf.folder? (.ofString "../in") = .ok (some ["srv", "in"]) ∧
    s.files.AreReadable ["srv", "in"] (.ofString "../in") (s.files.names ["srv", "in"]) ∧
    s.files.AddsFolders stackedShelf ["srv", "in"] ∧
    ∃ documents, s.files.Lists ["srv", "in"] (.ofString "../in") documents ∧
      (plain.Undisturbed "notes" "../in" s stackedShelf ↔
        ∀ name, s.files.Misleads stackedShelf ["srv", "in"] name →
          ¬∃ t, plain.StoresAll "notes" (Files.earlier name documents) s t) ∧
      ∀ name, s.files.Misleads stackedShelf ["srv", "in"] name →
        (∀ other, s.files.Misleads stackedShelf ["srv", "in"] other → name ≤ other) →
        ∀ t, plain.StoresAll "notes" (Files.earlier name documents) s t →
          (plain.ingestPath "notes" "../in").runIn (s.withFiles stackedShelf) =
            (.error (.defect (misled (.ofString "../in") name)), t.withFiles stackedShelf) :=
  ⟨folder?_shelf_beside, folder?_stackedShelf, areReadable_beside, addsFolders_stackedShelf,
    undisturbed_iff plain "notes" "../in" _ folder?_shelf_beside folder?_stackedShelf
      areReadable_beside addsFolders_stackedShelf⟩

/-- **Subfolders can make a difference.**  One with the name of a text file that comes first ends it
before anything is stored. -/
theorem not_undisturbed_shelf : ¬∀ (storage : Storage) (index folder : String) (s : Surroundings)
    (files' : Files) (trail : Trail), s.files.folder? (.ofString folder) = .ok (some trail) →
    files'.folder? (.ofString folder) = .ok (some trail) →
    s.files.AreReadable trail (.ofString folder) (s.files.names trail) →
    s.files.AddsFolders files' trail → storage.Undisturbed index folder s files' := by
  intro hall
  let s : Surroundings := { Surroundings.answering [] with files := shelf }
  have hsame := hall plain "notes" "../in" s stackedShelf ["srv", "in"] folder?_shelf_beside
    folder?_stackedShelf areReadable_beside addsFolders_stackedShelf
  have hnone : Files.earlier "0.txt"
      (shelf.documents ["srv", "in"] (.ofString "../in") (shelf.names ["srv", "in"])) = [] := by
    rw [Files.earlier, List.filter_eq_nil_iff]
    intro document hdocument
    have hname := mem_names_shelf.mp (Files.mem_documents_iff.mp hdocument).1
    rcases hname with h | h | h | h <;> rw [h] <;> decide
  refine not_undisturbed (t := s) addsFolders_stackedShelf areReadable_beside folder?_stackedShelf
    (shelf.lists_documents ["srv", "in"] (.ofString "../in")) folder?_shelf_beside
    (misleads_stackedShelf.mpr rfl) (fun other hother => (misleads_stackedShelf.mp hother).ge) ?_
    hsame
  rw [hnone]
  exact .nil s

end Storage

end SearchGateway
