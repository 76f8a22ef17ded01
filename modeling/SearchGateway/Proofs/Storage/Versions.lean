import SearchGateway.Proofs.Storage.Changes

/-!
# Versions of a document

A file that is stored again gets a new document whose parts stand under the identifiers of the old
ones, as far as their numbers go.  So the latest version of a file is always held in full
(`Storage.holds_latest`), but what an older version had more parts of is left over: storing replaces
the older versions exactly if none of them had more parts (`Storage.replaces_iff_no_longer`).
-/

set_option autoImplicit false

namespace SearchGateway

open SearchGateway.Action

namespace Change

variable {index : String} {run : List Change} {change : Change} {part : Part}

/-- Only storing a document stores parts. -/
theorem exists_of_mem_parts (h : part ∈ change.parts) :
    ∃ storage document found, change = .store storage document ∧
      Segment.divide document storage.maxSize storage.overlapRate = .ok found ∧ part ∈ found := by
  cases change with
  | store storage document =>
    cases hdivide : Segment.divide document storage.maxSize storage.overlapRate with
    | ok found =>
      rw [parts_of_divide hdivide] at h
      exact ⟨storage, document, found, rfl, hdivide, h⟩
    | error fault =>
      rw [parts, hdivide] at h
      cases h
  | delete storage documentId => cases h

/-- Every number below their count is the number of a part. -/
theorem exists_number_eq {n : ℕ} (h : n < change.parts.length) :
    ∃ part ∈ change.parts, part.number = n := by
  obtain ⟨_, _, _, rfl, hdivide, -⟩ := exists_of_mem_parts (List.getElem_mem h)
  rw [parts_of_divide hdivide] at h ⊢
  exact Segment.exists_number_eq hdivide h

theorem path_of_mem_parts {storage : Storage} {document : Document}
    (h : part ∈ (store storage document).parts) : part.file.path = document.file.path := by
  obtain ⟨_, _, _, hstore, hdivide, hpart⟩ := exists_of_mem_parts h
  obtain ⟨rfl, rfl⟩ := store.inj hstore
  exact Segment.path_of_mem_divide hdivide hpart

theorem identity_part_mem (hchange : change ∈ run) (hpart : part ∈ change.parts) :
    part.identity index ∈ run.flatMap (identities index) := by
  obtain ⟨storage, document, found, rfl, -, -⟩ := exists_of_mem_parts hpart
  exact List.mem_flatMap.mpr ⟨_, hchange, List.mem_cons_of_mem _ (List.mem_map_of_mem hpart)⟩

theorem identity_document_mem {storage : Storage} {document : Document}
    (hchange : .store storage document ∈ run) :
    document.identity ∈ run.flatMap (identities index) :=
  List.mem_flatMap.mpr ⟨_, hchange, List.mem_cons_self ..⟩

/-- Parts of a run that stand under one identifier have the same path and the same number. -/
theorem path_number_of_storedId_eq (hapart : Digest.TellsApart (run.flatMap (identities index)))
    {change' : Change} {part' : Part} (hchange : change ∈ run) (hpart : part ∈ change.parts)
    (hchange' : change' ∈ run) (hpart' : part' ∈ change'.parts)
    (h : part.storedId index = part'.storedId index) :
    part.file.path = part'.file.path ∧ part.number = part'.number :=
  Part.identity_inj (hapart _ (identity_part_mem hchange hpart) _
    (identity_part_mem hchange' hpart') h)

/-- What was done to the index first if a document was stored first. -/
theorem performAll_store_ok {storage : Storage} {document : Document} {later : List Change}
    {s t : Surroundings}
    (h : (performAll index (store storage document :: later)).runIn s = (.ok (), t)) :
    ∃ (parts sent : List Part) (u : Surroundings),
      Segment.divide document storage.maxSize storage.overlapRate = .ok parts ∧
      sent.map Part.bare = parts ∧
      Holdings.after index u.requests =
        (Holdings.after index s.requests).putAll (sent.map (Bulk.entry index)) ∧
      (performAll index later).runIn u = (.ok (), t) := by
  obtain ⟨_, u, hperform, hrest⟩ := runIn_bind_ok.mp h
  have hmakes := makes_of_perform hperform
  generalize hheld : Holdings.after index s.requests = held at hmakes ⊢
  generalize hheld' : Holdings.after index u.requests = held' at hmakes
  cases hmakes with
  | store hdivide hsent => exact ⟨_, _, u, hdivide, hsent, hheld', hrest⟩

end Change

/-! ## The latest version -/

namespace Change

variable {index : String} {maxSize : ℤ} {rate : Double} {run later : List Change}
  {storage : Storage} {document : Document} {parts : List Part}

/-- A document is held in full after it is stored and as long as nothing else is stored under its
path and it is not deleted. -/
theorem complete_of_performAll
    (hdivide : Segment.divide document storage.maxSize storage.overlapRate = .ok parts)
    (hsub : store storage document :: later ⊆ run)
    (hapart : Digest.TellsApart (run.flatMap (identities index)))
    (hlast : ∀ storage' document', store storage' document' ∈ later →
      document'.file.path ≠ document.file.path)
    (hkept : ∀ storage' documentId, delete storage' documentId ∈ later → documentId ≠ document.id)
    {s t : Surroundings}
    (hrun : (performAll index (store storage document :: later)).runIn s = (.ok (), t)) :
    (Holdings.after index t.requests).Complete index parts := by
  obtain ⟨hmem, hlater⟩ := List.cons_subset.mp hsub
  have hparts : (store storage document).parts = parts := parts_of_divide hdivide
  obtain ⟨found, sent, u, hfound, hsent, hheld, hrest⟩ := performAll_store_ok hrun
  obtain rfl : parts = found := Except.ok.inj (hdivide.symm.trans hfound)
  have hu : (Holdings.after index u.requests).Complete index parts := by
    rw [hheld]
    apply Holdings.complete_putAll hsent
    intro p hp q hq hid
    have hnumber := (path_number_of_storedId_eq hapart hmem (hparts ▸ hp) hmem (hparts ▸ hq) hid).2
    exact Segment.eq_of_number_eq hdivide hp hq hnumber
  -- None of the later changes takes a part of it away.
  refine invariant ?_ hrest hu
  intro change hchange held held' hmakes h
  cases hmakes with
  | @store storage' document' parts' sent' _ hdivide' hsent' =>
    apply h.putAll
    intro other hother part hpart hid
    have hother' : other.bare ∈ (store storage' document').parts := by
      rw [parts_of_divide hdivide', ← hsent']
      exact List.mem_map_of_mem hother
    have hpaths := (path_number_of_storedId_eq hapart (hlater hchange) hother' hmem
      (hparts ▸ hpart) hid).1
    rw [path_of_mem_parts hother', Segment.path_of_mem_divide hdivide hpart] at hpaths
    exact hlast _ _ hchange hpaths
  | delete =>
    apply h.remove
    intro part hpart
    rw [Segment.documentId_of_mem_divide hdivide hpart]
    exact (hkept _ _ hchange).symm

/-- A part that is held of a document stands where one of the parts stands that the document is
divided into: it is a part of a document with the same path and the same content. -/
theorem exists_storedId_eq_of_comes
    (hdivide : Segment.divide document maxSize rate = .ok parts)
    (hmem : store storage document ∈ run)
    (hstores : ∀ storage' document', store storage' document' ∈ run →
      storage'.maxSize = maxSize ∧ storage'.overlapRate = rate ∧
        '\n' ∉ document'.file.path.toList)
    (hapart : Digest.TellsApart (run.flatMap (identities index))) {held : Holdings}
    (hcomes : held.Comes index run) {id : String} {found : Part}
    (hfound : held.part? id = some found) (hid : found.documentId = document.id) :
    ∃ part ∈ parts, part.storedId index = id := by
  obtain ⟨hstored, change, hchange, hpart⟩ := hcomes id found hfound
  obtain ⟨storage', document', parts', rfl, hdivide', hpart'⟩ := exists_of_mem_parts hpart
  obtain ⟨hsize, hrate, hpath'⟩ := hstores _ _ hchange
  obtain ⟨-, -, hpath⟩ := hstores _ _ hmem
  have hids : document'.id = document.id :=
    (Segment.documentId_of_mem_divide hdivide' hpart').symm.trans hid
  obtain ⟨hpaths, hcontents⟩ := Document.identity_inj hpath' hpath
    (hapart _ (identity_document_mem hchange) _ (identity_document_mem hmem) hids)
  rw [hsize, hrate] at hdivide'
  have hlength := Segment.length_eq_of_content_eq hdivide' hdivide hcontents
  obtain ⟨n, hn, hnumber⟩ := Segment.number_of_mem_divide hdivide' hpart'
  obtain ⟨part, hpart, hplace⟩ := Segment.exists_storedId_eq hdivide index (hlength ▸ hn)
    ((Segment.path_of_mem_divide hdivide' hpart').trans hpaths) hnumber
  exact ⟨part, hpart, hplace.trans hstored⟩

end Change

/-! ## Two versions of a note -/

namespace Storage

/-- A storage that cuts documents into single characters. -/
def cutting : Storage := { plain with maxSize := 1 }

/-- The first version of a note, in two parts. -/
def draft : Document := ⟨⟨"a.md", "docs/a.md", 2, 1, 2⟩, "ab", none⟩

/-- The second version, in one part. -/
def revision : Document := ⟨⟨"a.md", "docs/a.md", 1, 1, 3⟩, "c", none⟩

theorem divide_draft : Segment.divide draft cutting.maxSize cutting.overlapRate =
    .ok [Segment.part draft draft.id 0 "a", Segment.part draft draft.id 1 "b"] := by
  have hwidth : Segment.overlapWidth 1 Double.oneFifth = .ok 0 := by decide
  have hcount : Segment.partCount draft.content.toList.length 1 Double.oneFifth = .ok 2 := by decide
  exact Segment.divide_cut (by decide) (by decide) hwidth (by decide) (by decide) hcount (by decide)

theorem divide_revision : Segment.divide revision cutting.maxSize cutting.overlapRate =
    .ok [Segment.part revision revision.id 0 "c"] := by
  have hwidth : Segment.overlapWidth 1 Double.oneFifth = .ok 0 := by decide
  exact Segment.divide_whole (by decide) (by decide) hwidth (by decide) (.inr (by decide))

theorem draft_id_ne : draft.id ≠ revision.id := by decide +kernel

/-- How the engine answers while a document is stored. -/
def acknowledging : List Reply := [.rendered listing, .rendered (.obj [])]

variable (later : List Change) {replies : List Reply} {s : Surroundings}

/-- What can be divided and written is stored, and the run goes on. -/
theorem performAll_store {document : Document} {first : Part} {more : List Part}
    (hdivide : Segment.divide document cutting.maxSize cutting.overlapRate = .ok (first :: more))
    (hw : ∀ part ∈ first :: more, Bulk.IsWritable part)
    (hs : s.engineReplies = acknowledging ++ replies) :
    ∃ u, u.engineReplies = replies ∧
      (Change.performAll "notes" (.store cutting document :: later)).runIn s =
        (Change.performAll "notes" later).runIn u := by
  obtain ⟨stored, u, hstore, hu⟩ := runIn_storeDocument_plain hdivide hw hs
  exact ⟨u, hu, runIn_bind_of_ok (runIn_bind_ok.mpr ⟨stored, u, hstore, rfl⟩)⟩

theorem performAll_draft (hs : s.engineReplies = acknowledging ++ replies) :
    ∃ u, u.engineReplies = replies ∧
      (Change.performAll "notes" (.store cutting draft :: later)).runIn s =
        (Change.performAll "notes" later).runIn u := by
  refine performAll_store later divide_draft ?_ hs
  intro part hpart
  rcases List.mem_pair.mp hpart with rfl | rfl
  · rfl
  · rfl

theorem performAll_revision (hs : s.engineReplies = acknowledging ++ replies) :
    ∃ u, u.engineReplies = replies ∧
      (Change.performAll "notes" (.store cutting revision :: later)).runIn s =
        (Change.performAll "notes" later).runIn u := by
  refine performAll_store later divide_revision ?_ hs
  intro part hpart
  rw [List.mem_singleton.mp hpart]
  rfl

theorem identities_draft : (Change.store cutting draft).identities "notes" =
    [draft.identity, "notes/docs/a.md/0", "notes/docs/a.md/1"] := by
  rw [Change.identities, Change.parts_of_divide divide_draft]
  rfl

theorem identities_revision : (Change.store cutting revision).identities "notes" =
    [revision.identity, "notes/docs/a.md/0"] := by
  rw [Change.identities, Change.parts_of_divide divide_revision]
  rfl

/-- The digests tell apart all that has identifiers made of it in runs with the two versions. -/
theorem tellsApart_versions {run : List Change} (hrun : ∀ change ∈ run,
    change = .store cutting draft ∨ change = .store cutting revision ∨
      change = .delete plain draft.id) :
    Digest.TellsApart (run.flatMap (Change.identities "notes")) := by
  have hnodup : ([draft.identity, revision.identity, "notes/docs/a.md/0",
      "notes/docs/a.md/1"].map Digest.ofText).Nodup := by decide +kernel
  refine Digest.tellsApart_of_nodup (fun text htext => ?_) hnodup
  obtain ⟨change, hchange, htext⟩ := List.mem_flatMap.mp htext
  rcases hrun change hchange with rfl | rfl | rfl
  · rw [identities_draft] at htext
    simp only [List.mem_cons, List.not_mem_nil, or_false] at htext ⊢
    tauto
  · rw [identities_revision] at htext
    simp only [List.mem_cons, List.not_mem_nil, or_false] at htext ⊢
    tauto
  · cases htext

end Storage

/-! ## The latest version as a whole -/

/-- **The latest version of a file is held in full, and nothing else is held of it.**  After any run
of changes from an empty index, all with the same part size and overlap, the parts that are held of
the last document stored under a path are those it was divided into, each under its identifier, if
the document was not deleted since. -/
theorem Storage.holds_latest {index : String} {maxSize : ℤ} {rate : Double}
    {before later : List Change} {storage : Storage} {document : Document} {s t : Surroundings}
    (hempty : Holdings.after index s.requests = Holdings.empty)
    (hrun : (Change.performAll index (before ++ .store storage document :: later)).runIn s =
      (.ok (), t))
    (hstores : ∀ storage' document',
      .store storage' document' ∈ before ++ .store storage document :: later →
        storage'.maxSize = maxSize ∧ storage'.overlapRate = rate ∧
          '\n' ∉ document'.file.path.toList)
    (hapart : Digest.TellsApart ((before ++ .store storage document :: later).flatMap
      (Change.identities index)))
    (hlast : ∀ storage' document', .store storage' document' ∈ later →
      document'.file.path ≠ document.file.path)
    (hkept : ∀ storage' documentId, .delete storage' documentId ∈ later →
      documentId ≠ document.id) :
    ∃ parts, Segment.divide document maxSize rate = .ok parts ∧
      ∀ id part,
        (∃ found, (Holdings.after index t.requests).part? id = some found ∧
          found.documentId = document.id ∧ found.bare = part) ↔
        part ∈ parts ∧ part.storedId index = id := by
  have hsub : .store storage document :: later ⊆ before ++ .store storage document :: later :=
    List.subset_append_right _ _
  have hmem := hsub (List.mem_cons_self ..)
  have hcomes := Holdings.comes_of_performAll hempty hrun
  obtain ⟨u, -, hrest⟩ := Change.performAll_append_ok.mp hrun
  obtain ⟨parts, _, _, hdivide, -⟩ := Change.performAll_store_ok hrest
  have hcomplete := Change.complete_of_performAll hdivide hsub hapart hlast hkept hrest
  obtain ⟨hsize, hrate, -⟩ := hstores _ _ hmem
  rw [hsize, hrate] at hdivide
  refine ⟨parts, hdivide, ?_⟩
  intro id part
  constructor
  · rintro ⟨found, hfound, hid, rfl⟩
    obtain ⟨latest, hlatest, hplace⟩ := Change.exists_storedId_eq_of_comes hdivide hmem hstores
      hapart hcomes hfound hid
    -- The part of the latest version that is held in this place is the one that was found.
    obtain ⟨other, hother, hbare⟩ := hcomplete latest hlatest
    rw [hplace, hfound] at hother
    obtain rfl : found = other := Option.some.inj hother
    rw [hbare]
    exact ⟨hlatest, hplace⟩
  · rintro ⟨hpart, rfl⟩
    obtain ⟨found, hfound, hbare⟩ := hcomplete part hpart
    have hid : found.bare.documentId = document.id :=
      Segment.documentId_of_mem_divide hdivide (hbare ▸ hpart)
    exact ⟨found, hfound, hid, hbare⟩

/-- The draft is stored, then the revision, and then the draft is deleted. -/
theorem Storage.holds_latest_revision : ∃ t,
    (Change.performAll "notes" ([.store cutting draft] ++
      .store cutting revision :: [.delete plain draft.id])).runIn
        (.answering (acknowledging ++ (acknowledging ++ [.rendered (.obj [])]))) = (.ok (), t) ∧
    ∃ parts, Segment.divide revision 1 Double.oneFifth = .ok parts ∧
      ∀ id part,
        (∃ found, (Holdings.after "notes" t.requests).part? id = some found ∧
          found.documentId = revision.id ∧ found.bare = part) ↔
        part ∈ parts ∧ part.storedId "notes" = id := by
  obtain ⟨u, hu, hdraft⟩ := performAll_draft
    (.store cutting revision :: [.delete plain draft.id])
    (s := .answering (acknowledging ++ (acknowledging ++ [.rendered (.obj [])]))) rfl
  obtain ⟨v, hv, hrevision⟩ := performAll_revision [.delete plain draft.id] hu
  obtain ⟨t, hdelete, -⟩ := runIn_deleteDocument_plain draft.id hv
  have hrun : (Change.performAll "notes" ([.store cutting draft] ++
      .store cutting revision :: [.delete plain draft.id])).runIn
        (.answering (acknowledging ++ (acknowledging ++ [.rendered (.obj [])]))) = (.ok (), t) := by
    rw [List.singleton_append, hdraft, hrevision]
    exact runIn_bind_of_ok hdelete
  refine ⟨t, hrun, holds_latest rfl hrun ?_ (tellsApart_versions ?_) ?_ ?_⟩
  · intro storage document h
    rcases List.mem_append.mp h with h | h
    · obtain ⟨rfl, rfl⟩ := Change.store.inj (List.mem_singleton.mp h)
      exact ⟨rfl, rfl, by decide⟩
    · rcases List.mem_pair.mp h with h | h
      · obtain ⟨rfl, rfl⟩ := Change.store.inj h
        exact ⟨rfl, rfl, by decide⟩
      · cases h
  · intro change h
    simpa using h
  · intro storage document h
    cases List.mem_singleton.mp h
  · intro storage documentId h
    obtain ⟨-, rfl⟩ := Change.delete.inj (List.mem_singleton.mp h)
    exact draft_id_ne

/-! ## What is left of older versions -/

namespace Holdings

/-- Whatever is held with the given path is one of the given parts. -/
def HoldsOnly (held : Holdings) (path : String) (parts : List Part) : Prop :=
  ∀ id part, held.part? id = some part → part.file.path = path → part.bare ∈ parts

variable {index : String} {held : Holdings} {run : List Change} {document : Document}
  {maxSize : ℤ} {rate : Double} {parts sent : List Part}

/-- Storing a document replaces all versions of its file that do not have more parts. -/
theorem holdsOnly_putAll (hcomes : held.Comes index run)
    (hdivide : Segment.divide document maxSize rate = .ok parts)
    (hsent : sent.map Part.bare = parts)
    (hlength : ∀ storage' document', .store storage' document' ∈ run →
      document'.file.path = document.file.path →
      (Change.store storage' document').parts.length ≤ parts.length) :
    (held.putAll (sent.map (Bulk.entry index))).HoldsOnly document.file.path parts := by
  intro id part hpart hpath
  rcases part?_putAll_cases index id held sent with ⟨other, hother, -, hheld⟩ | ⟨hnone, hheld⟩
  · obtain rfl : other = part := Option.some.inj (hheld.symm.trans hpart)
    rw [← hsent]
    exact List.mem_map_of_mem hother
  · obtain ⟨hstored, change, hchange, hbare⟩ := hcomes id part (hheld.symm.trans hpart)
    obtain ⟨storage', document', parts', rfl, hdivide', hmem'⟩ := Change.exists_of_mem_parts hbare
    obtain ⟨n, hn, hnumber⟩ := Segment.number_of_mem_divide hdivide' hmem'
    have hle := hlength _ _ hchange ((Segment.path_of_mem_divide hdivide' hmem').symm.trans hpath)
    rw [Change.parts_of_divide hdivide'] at hle
    -- A part was sent in the place of this one.
    obtain ⟨p, hp, hplace⟩ := Segment.exists_storedId_eq hdivide index (hn.trans_le hle) hpath
      hnumber
    rw [← hsent] at hp
    obtain ⟨other, hother, rfl⟩ := List.mem_map.mp hp
    exact absurd (hplace.trans hstored) (hnone other hother)

end Holdings

namespace Change

variable {index : String} {before : List Change} {storage storage' : Storage}
  {document document' : Document} {parts : List Part} {s t : Surroundings}

/-- What was stored in a run of nothing but storing leaves its place taken. -/
theorem isSome_part?_of_performAll {run : List Change}
    (hstores : ∀ change ∈ run, ∃ storage document, change = store storage document)
    (hrun : (performAll index run).runIn s = (.ok (), t)) {change : Change} (hchange : change ∈ run)
    {part : Part} (hpart : part ∈ change.parts) :
    ((Holdings.after index t.requests).part? (part.storedId index)).isSome := by
  obtain ⟨before, later, rfl⟩ := List.append_of_mem hchange
  obtain ⟨u, -, hrest⟩ := performAll_append_ok.mp hrun
  obtain ⟨storage, document, parts, rfl, hdivide, hpart⟩ := exists_of_mem_parts hpart
  obtain ⟨found, sent, v, hfound, hsent, hheld, hlater⟩ := performAll_store_ok hrest
  refine invariant (P := fun held => (held.part? (part.storedId index)).isSome)
    (fun change hmem held held' hmakes h => ?_) hlater ?_
  · obtain ⟨storage', document', rfl⟩ := hstores change
      (List.mem_append_right _ (List.mem_cons_of_mem _ hmem))
    cases hmakes with
    | store => exact Holdings.isSome_part?_putAll h
  · obtain rfl : parts = found := Except.ok.inj (hdivide.symm.trans hfound)
    rw [← hsent] at hpart
    obtain ⟨other, hother, rfl⟩ := List.mem_map.mp hpart
    have hput : ∃ p ∈ sent, p.storedId index = other.bare.storedId index := ⟨other, hother, rfl⟩
    obtain ⟨p, -, -, hp⟩ := Holdings.part?_putAll_of_mem (Holdings.after index u.requests) hput
    rw [hheld, hp]
    rfl

/-- Storing a document leaves something of an older version that had more parts. -/
theorem not_holdsOnly_of_longer {run : List Change}
    (hempty : Holdings.after index s.requests = Holdings.empty)
    (hstores : ∀ change ∈ run, ∃ storage document, change = store storage document)
    (hrun : (performAll index run).runIn s = (.ok (), t))
    (hapart : Digest.TellsApart (run.flatMap (identities index)))
    (hdivide : Segment.divide document storage.maxSize storage.overlapRate = .ok parts)
    (hold : store storage' document' ∈ run) (hpath : document'.file.path = document.file.path)
    (hlonger : parts.length < (store storage' document').parts.length) :
    ¬(Holdings.after index t.requests).HoldsOnly document.file.path parts := by
  intro honly
  -- The first part of the older version that has no counterpart.
  obtain ⟨part, hpart, hnumber⟩ := exists_number_eq hlonger
  obtain ⟨found, hfound⟩ := Option.isSome_iff_exists.mp
    (isSome_part?_of_performAll hstores hrun hold hpart)
  obtain ⟨hstored, change, hchange, hbare⟩ := Holdings.comes_of_performAll hempty hrun _ _ hfound
  obtain ⟨hpaths, hnumbers⟩ := path_number_of_storedId_eq hapart hchange hbare hold hpart hstored
  have hmem := honly _ _ hfound (hpaths.trans ((path_of_mem_parts hpart).trans hpath))
  obtain ⟨n, hn, hfoundNumber⟩ := Segment.number_of_mem_divide hdivide hmem
  rw [hnumbers, hnumber] at hfoundNumber
  exact absurd (Int.ofNat.inj hfoundNumber) hn.ne'

end Change

/-- **Storing a document replaces the older versions of its file exactly if none of them had more
parts.**  In a run of nothing but storing, from an empty index, whatever is held with the path of
the last document is one of its parts if no older version was divided into more parts; and if the
digests tell the identities apart, only then. -/
theorem Storage.replaces_iff_no_longer {index : String} {before : List Change} {storage : Storage}
    {document : Document} {s t : Surroundings}
    (hempty : Holdings.after index s.requests = Holdings.empty)
    (hstores : ∀ change ∈ before, ∃ storage document, change = .store storage document)
    (hrun : (Change.performAll index (before ++ [.store storage document])).runIn s =
      (.ok (), t)) :
    ∃ parts, Segment.divide document storage.maxSize storage.overlapRate = .ok parts ∧
      ((∀ storage' document', .store storage' document' ∈ before →
          document'.file.path = document.file.path →
          (Change.store storage' document').parts.length ≤ parts.length) →
        (Holdings.after index t.requests).HoldsOnly document.file.path parts) ∧
      (Digest.TellsApart
          ((before ++ [Change.store storage document]).flatMap (Change.identities index)) →
        (Holdings.after index t.requests).HoldsOnly document.file.path parts →
        ∀ storage' document', .store storage' document' ∈ before →
          document'.file.path = document.file.path →
          (Change.store storage' document').parts.length ≤ parts.length) := by
  obtain ⟨u, hbefore, hlast⟩ := Change.performAll_append_ok.mp hrun
  obtain ⟨parts, sent, v, hdivide, hsent, hheld, hnone⟩ := Change.performAll_store_ok hlast
  obtain ⟨-, rfl⟩ := Prod.mk.inj hnone
  refine ⟨parts, hdivide, ?_, ?_⟩
  · intro hlength
    rw [hheld]
    exact Holdings.holdsOnly_putAll (Holdings.comes_of_performAll hempty hbefore) hdivide hsent
      hlength
  · intro hapart honly storage' document' hold hpath
    by_contra hlonger
    have hall : ∀ change ∈ before ++ [Change.store storage document], ∃ storage document,
        change = Change.store storage document := by
      intro change hchange
      rcases List.mem_append.mp hchange with h | h
      · exact hstores change h
      · exact ⟨storage, document, List.mem_singleton.mp h⟩
    exact Change.not_holdsOnly_of_longer hempty hall hrun hapart hdivide
      (List.mem_append_left _ hold) hpath (not_le.mp hlonger) honly

/-- The revision is stored, and then the draft, which has more parts. -/
theorem Storage.replaces_iff_no_longer_draft : ∃ t,
    (Change.performAll "notes" ([.store cutting revision] ++ [.store cutting draft])).runIn
      (.answering (acknowledging ++ acknowledging)) = (.ok (), t) ∧
    (Holdings.after "notes" t.requests).HoldsOnly "docs/a.md"
      [Segment.part draft draft.id 0 "a", Segment.part draft draft.id 1 "b"] := by
  obtain ⟨u, hu, hrevision⟩ := performAll_revision [.store cutting draft]
    (s := .answering (acknowledging ++ acknowledging)) rfl
  obtain ⟨t, -, hdraft⟩ := performAll_draft [] (hu.trans (List.append_nil _).symm)
  have hrun : (Change.performAll "notes" ([.store cutting revision] ++
      [.store cutting draft])).runIn (.answering (acknowledging ++ acknowledging)) =
        (.ok (), t) := by
    rw [List.singleton_append, hrevision, hdraft]
    rfl
  have hstores : ∀ change ∈ [Change.store cutting revision], ∃ storage document,
      change = .store storage document := fun change h => ⟨_, _, List.mem_singleton.mp h⟩
  obtain ⟨parts, hdivide, honly, -⟩ := replaces_iff_no_longer rfl hstores hrun
  obtain rfl := Except.ok.inj (divide_draft.symm.trans hdivide)
  refine ⟨t, hrun, honly fun storage document h _ => ?_⟩
  obtain ⟨rfl, rfl⟩ := Change.store.inj (List.mem_singleton.mp h)
  rw [Change.parts_of_divide divide_revision]
  decide

/-- The draft is stored, and then the revision, which has fewer parts: the second part of the draft
is left over. -/
theorem Storage.not_holdsOnly_revision : ∃ t,
    (Change.performAll "notes" [.store cutting draft, .store cutting revision]).runIn
      (.answering (acknowledging ++ acknowledging)) = (.ok (), t) ∧
    Segment.divide revision cutting.maxSize cutting.overlapRate =
      .ok [Segment.part revision revision.id 0 "c"] ∧
    ¬(Holdings.after "notes" t.requests).HoldsOnly "docs/a.md"
      [Segment.part revision revision.id 0 "c"] := by
  obtain ⟨u, hu, hdraft⟩ := performAll_draft [.store cutting revision]
    (s := .answering (acknowledging ++ acknowledging)) rfl
  obtain ⟨t, -, hrevision⟩ := performAll_revision [] (hu.trans (List.append_nil _).symm)
  have hrun : (Change.performAll "notes" [.store cutting draft, .store cutting revision]).runIn
      (.answering (acknowledging ++ acknowledging)) = (.ok (), t) := by
    rw [hdraft, hrevision]
    rfl
  have hold : Change.store cutting draft ∈ [.store cutting draft, .store cutting revision] :=
    List.mem_cons_self ..
  refine ⟨t, hrun, divide_revision, ?_⟩
  refine Change.not_holdsOnly_of_longer rfl ?_ hrun (tellsApart_versions ?_) divide_revision hold
    rfl ?_
  · intro change h
    rcases List.mem_pair.mp h with rfl | rfl
    · exact ⟨_, _, rfl⟩
    · exact ⟨_, _, rfl⟩
  · intro change h
    rcases List.mem_pair.mp h with rfl | rfl
    · exact .inl rfl
    · exact .inr (.inl rfl)
  · rw [Change.parts_of_divide divide_draft]
    decide

end SearchGateway
