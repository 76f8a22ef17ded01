import SearchGateway.Proofs.Search.Meaning
import SearchGateway.Proofs.Search.Standing
import SearchGateway.Proofs.Storage.Versions

/-!
# One hit for each file

Every document has a first part, and the first parts of all versions of a file stand under one
identifier.  So of all versions only the latest one can have its first part in the index, and it has
until it is deleted.  An exact retrieval without identifier and number asks for first parts, and
therefore finds each file once (`Storage.finds_each_once`), whatever older versions have left behind.
-/

set_option autoImplicit false

namespace SearchGateway

open SearchGateway.Action

/-! ## What stands in an index -/

namespace Holdings

variable {held held' : Holdings} {index : String} {change : Change}

/-- Whatever is held is the stored form of a part. -/
def OfParts (held : Holdings) : Prop :=
  ∀ id body, held id = some body → ∃ part : Part, body = (Record.ofPart part).toFields

theorem OfParts.step (hmakes : change.Makes index held held') (h : held.OfParts) :
    held'.OfParts := by
  cases hmakes with
  | @store storage document parts sent _ hdivide hsent =>
    intro id body hbody
    by_cases hput : ∃ entry ∈ sent.map (Bulk.entry index), entry.1 = id
    · obtain ⟨entry, hentry, -, hheld⟩ := putAll_of_mem held hput
      obtain ⟨part, -, rfl⟩ := List.mem_map.mp hentry
      exact ⟨part, Option.some.inj (hbody.symm.trans hheld)⟩
    · rw [putAll_of_forall_ne fun entry hentry hid => hput ⟨entry, hentry, hid⟩] at hbody
      exact h id body hbody
  | delete =>
    intro id body hbody
    exact h id body (Option.filter_eq_some_iff.mp hbody).1

/-- After a run from an empty index nothing but parts is held. -/
theorem ofParts_of_performAll {changes : List Change} {s t : Surroundings}
    (hempty : after index s.requests = empty)
    (hrun : (Change.performAll index changes).runIn s = (.ok (), t)) :
    (after index t.requests).OfParts := by
  refine Change.invariant (fun change _ held held' hmakes h => h.step hmakes) hrun ?_
  rw [hempty]
  exact fun _ _ hbody => nomatch hbody

theorem part?_of_eq {id : String} {part : Part}
    (h : held id = some (Record.ofPart part).toFields) : held.part? id = some part := by
  rw [part?, h]
  exact Record.part?_toFields part

theorem OfParts.eq_of_part? (h : held.OfParts) {id : String} {part : Part}
    (hpart : held.part? id = some part) : held id = some (Record.ofPart part).toFields := by
  obtain ⟨body, hbody, -⟩ := Option.bind_eq_some_iff.mp hpart
  obtain ⟨other, rfl⟩ := h id body hbody
  obtain rfl := Option.some.inj ((part?_of_eq hbody).symm.trans hpart)
  exact hbody

/-- A query finds what is held under an identifier. -/
def Finds (held : Holdings) (judge : Judge) (query : Json) (id : String) (body : Json.Fields) :
    Prop :=
  held id = some body ∧ Selects judge query (.whole (.obj body))

end Holdings

/-! ## The latest versions -/

namespace Change

variable {index : String} {run before later : List Change} {storage : Storage}
  {document : Document} {parts : List Part} {first : Part} {s t : Surroundings}

/-- Nothing is stored under the path of the document. -/
def Spares (changes : List Change) (document : Document) : Prop :=
  ∀ storage' document', store storage' document' ∈ changes →
    document'.file.path ≠ document.file.path

/-- The document is the latest version of its file in the run, and it was not deleted since. -/
def IsCurrent (run : List Change) (storage : Storage) (document : Document) : Prop :=
  ∃ before later, run = before ++ store storage document :: later ∧ Spares later document ∧
    ∀ storage' documentId, delete storage' documentId ∈ later → documentId ≠ document.id

/-- A file that was stored has a latest version. -/
theorem exists_latest {path : String}
    (h : ∃ storage document, store storage document ∈ run ∧ document.file.path = path) :
    ∃ before storage document later, run = before ++ store storage document :: later ∧
      document.file.path = path ∧ Spares later document := by
  induction run with
  | nil => simp at h
  | cons change run ih =>
    by_cases hmore : ∃ storage document, store storage document ∈ run ∧ document.file.path = path
    · obtain ⟨before, storage, document, later, rfl, hlatest⟩ := ih hmore
      exact ⟨change :: before, storage, document, later, rfl, hlatest⟩
    · obtain ⟨storage, document, hmem, rfl⟩ := h
      rcases List.mem_cons.mp hmem with rfl | hmem
      · exact ⟨[], storage, document, run, rfl, rfl,
          fun storage' document' hmem' hpath => hmore ⟨storage', document', hmem', hpath⟩⟩
      · exact absurd ⟨storage, document, hmem, rfl⟩ hmore

/-- Every document that was stored has a first part. -/
theorem exists_first (hrun : (performAll index run).runIn s = (.ok (), t))
    (hmem : store storage document ∈ run) :
    ∃ parts, Segment.divide document storage.maxSize storage.overlapRate = .ok parts ∧
      ∃ first ∈ parts, first.number = 0 := by
  obtain ⟨before, later, rfl⟩ := List.append_of_mem hmem
  obtain ⟨u, -, hrest⟩ := performAll_append_ok.mp hrun
  obtain ⟨_, v, hperform, -⟩ := runIn_bind_ok.mp hrest
  obtain ⟨stored, w, hstore, -⟩ := runIn_bind_ok.mp hperform
  obtain ⟨parts, sent, text, hstores, -, -⟩ := Storage.storeDocument_ok hstore
  refine ⟨parts, hstores.divided, Segment.exists_number_eq hstores.divided ?_⟩
  rw [hstores.storedAs.length_eq]
  exact List.length_pos_of_ne_nil hstores.nonempty

section

variable (hapart : Digest.TellsApart (run.flatMap (identities index)))
  (hmem : store storage document ∈ run) (hfirst : first ∈ (store storage document).parts)

include hapart hmem hfirst

/-- While a file is spared, what stands in the place of one of its parts stays as it is or goes. -/
theorem stays_or_goes (hsub : later ⊆ run) (hspares : Spares later document)
    (hlater : (performAll index later).runIn s = (.ok (), t)) :
    (Holdings.after index t.requests).part? (first.storedId index) = none ∨
      (Holdings.after index t.requests).part? (first.storedId index) =
        (Holdings.after index s.requests).part? (first.storedId index) := by
  generalize hheld : (Holdings.after index s.requests).part? (first.storedId index) = stood
  refine invariant (P := fun held => held.part? (first.storedId index) = none ∨
    held.part? (first.storedId index) = stood) ?_ hlater (.inr hheld)
  intro change hchange held held' hmakes h
  cases hmakes with
  | @store storage' document' parts' sent' _ hdivide' hsent' =>
    rwa [Holdings.part?_putAll_of_forall_ne]
    intro part hpart hid
    have hpart' : part.bare ∈ (store storage' document').parts := by
      rw [parts_of_divide hdivide', ← hsent']
      exact List.mem_map_of_mem hpart
    have hpaths := (path_number_of_storedId_eq hapart (hsub hchange) hpart' hmem hfirst hid).1
    rw [path_of_mem_parts hpart', path_of_mem_parts hfirst] at hpaths
    exact hspares _ _ hchange hpaths
  | delete =>
    rw [Holdings.part?_remove]
    rcases h with h | h
    · exact .inl (by rw [h]; rfl)
    · rw [h]
      cases stood with
      | none => exact .inl rfl
      | some part => exact (ite_eq_or_eq ..).symm

end

/-- A part of the latest version that has something in its place was not deleted. -/
theorem isCurrent_of_held (hrun : (performAll index run).runIn s = (.ok (), t))
    (hapart : Digest.TellsApart (run.flatMap (identities index)))
    (hsplit : run = before ++ store storage document :: later) (hspares : Spares later document)
    (hfirst : first ∈ (store storage document).parts)
    (hheld : (Holdings.after index t.requests).part? (first.storedId index) ≠ none) :
    IsCurrent run storage document := by
  refine ⟨before, later, hsplit, hspares, ?_⟩
  rintro storage' _ hdelete rfl
  have hmem : store storage document ∈ run := hsplit ▸ List.mem_append_right _ (List.mem_cons_self ..)
  have hlater : later ⊆ run := fun change hchange =>
    hsplit ▸ List.mem_append_right _ (List.mem_cons_of_mem _ hchange)
  rw [hsplit] at hrun
  obtain ⟨_, -, hrest⟩ := performAll_append_ok.mp hrun
  obtain ⟨parts, sent, u, hdivide, hsent, hu, hrest⟩ := performAll_store_ok hrest
  obtain ⟨between, after, rfl⟩ := List.append_of_mem hdelete
  obtain ⟨v, hbetween, hrest⟩ := performAll_append_ok.mp hrest
  obtain ⟨_, w, hremove, hafter⟩ := runIn_bind_ok.mp hrest
  -- Right after the document was stored, its own part stands there.
  obtain ⟨own, hown, hstands⟩ : ∃ own : Part, own.documentId = document.id ∧
      (Holdings.after index u.requests).part? (first.storedId index) = some own := by
    have hput : ∃ other ∈ sent, other.storedId index = first.storedId index := by
      rw [parts_of_divide hdivide, ← hsent] at hfirst
      obtain ⟨other, hother, rfl⟩ := List.mem_map.mp hfirst
      exact ⟨other, hother, rfl⟩
    obtain ⟨own, hown, -, hstands⟩ :=
      Holdings.part?_putAll_of_mem (Holdings.after index _) hput
    have hbare : own.bare ∈ parts := hsent ▸ List.mem_map_of_mem hown
    have hid : own.bare.documentId = document.id := Segment.documentId_of_mem_divide hdivide hbare
    exact ⟨own, hid, hu ▸ hstands⟩
  -- The deletion takes it away, and it does not come back.
  have hv := stays_or_goes hapart hmem hfirst (List.Subset.trans (List.subset_append_left _ _) hlater)
    (fun _ _ h => hspares _ _ (List.mem_append_left _ h)) hbetween
  have hw : (Holdings.after index w.requests).part? (first.storedId index) = none := by
    rw [Storage.deleteDocument_ok hremove, Holdings.after, Holdings.serve_deletion,
      Holdings.part?_remove]
    rcases hv with hv | hv
    · rw [hv]
      rfl
    · rw [hv, hstands, Option.filter_some, if_neg (by simp [hown])]
  have ht := stays_or_goes hapart hmem hfirst
    (List.Subset.trans (fun _ h => List.mem_append_right _ (List.mem_cons_of_mem _ h)) hlater)
    (fun _ _ h => hspares _ _ (List.mem_append_right _ (List.mem_cons_of_mem _ h))) hafter
  rw [hw, or_self] at ht
  exact hheld ht

end Change

/-! ## What an exact retrieval finds -/

/-- Parts with the same path and the same number stand under the same identifier. -/
theorem Part.storedId_congr {part part' : Part} (index : String)
    (hpath : part.file.path = part'.file.path) (hnumber : part.number = part'.number) :
    part.storedId index = part'.storedId index := by
  rw [storedId, storedId, identity, identity, hpath, hnumber]

/-- Without identifier and number the first parts are asked for. -/
theorem KindOf.selects_retrieve {judge : Judge} (path : Option String) (part : Part) :
    Selects judge ((retrieve path none none : Kind).clause []).toJson
        (.whole (.obj (Record.ofPart part).toFields)) ↔
      part.number = 0 ∧ ∀ value, path = some value → part.file.path = value := by
  rw [← Record.toJson, ← Scope.ofPart, selects_clause]
  simp [Admits, and_comm]

/-- **An exact retrieval finds every file once.**  After any run of changes from an empty index, the
query for all parts without identifier and number finds the first part of the latest version of each
file that was not deleted since, and nothing else.  With a path it finds that of the one file. -/
theorem Storage.finds_each_once {index : String} {run : List Change} {s t : Surroundings}
    (hempty : Holdings.after index s.requests = Holdings.empty)
    (hrun : (Change.performAll index run).runIn s = (.ok (), t))
    (hapart : Digest.TellsApart (run.flatMap (Change.identities index))) (judge : Judge)
    (indexes : List String) (path : Option String) (presentation : Presentation) :
    ∃ query clause, RequestOf.compose (⟨indexes, some (.retrieve path none none), presentation,
        none⟩ : Request) = .ok query ∧ query.toJson.get? "query" = some clause ∧
      (∀ storage document, Change.IsCurrent run storage document →
        (∀ value, path = some value → document.file.path = value) →
        ∃ parts first found,
          Segment.divide document storage.maxSize storage.overlapRate = .ok parts ∧
          first ∈ parts ∧ first.number = 0 ∧ found.bare = first ∧
          ∀ id part, ((Holdings.after index t.requests).Finds judge clause id
              (Record.ofPart part).toFields ∧ part.file.path = document.file.path) ↔
            id = first.storedId index ∧ part = found) ∧
      ∀ id body, (Holdings.after index t.requests).Finds judge clause id body →
        ∃ storage document part, Change.IsCurrent run storage document ∧
          body = (Record.ofPart part).toFields ∧ part.file.path = document.file.path ∧
          ∀ value, path = some value → document.file.path = value := by
  have hcomes := Holdings.comes_of_performAll hempty hrun
  have hofParts := Holdings.ofParts_of_performAll hempty hrun
  refine ⟨_, _, rfl, Query.get?_query _, ?_, ?_⟩
  · rintro storage document ⟨before, later, rfl, hspares, hkept⟩ hpath
    have hsub : .store storage document :: later ⊆ before ++ .store storage document :: later :=
      List.subset_append_right _ _
    obtain ⟨parts, hdivide, first, hfirst, hnumber⟩ :=
      Change.exists_first hrun (hsub (List.mem_cons_self ..))
    obtain ⟨_, -, hrest⟩ := Change.performAll_append_ok.mp hrun
    obtain ⟨found, hfound, rfl⟩ :=
      Change.complete_of_performAll hdivide hsub hapart hspares hkept hrest first hfirst
    have hplace : found.bare.file.path = document.file.path :=
      Segment.path_of_mem_divide hdivide hfirst
    refine ⟨parts, found.bare, found, hdivide, hfirst, hnumber, rfl, fun id part => ?_⟩
    constructor
    · rintro ⟨⟨hheld, hselects⟩, hfile⟩
      obtain ⟨hzero, -⟩ := (KindOf.selects_retrieve path part).mp hselects
      have hpart := Holdings.part?_of_eq hheld
      have hid := Part.storedId_congr index (hfile.trans hplace.symm) (hzero.trans hnumber.symm)
      rw [(hcomes id part hpart).1] at hid
      subst hid
      exact ⟨rfl, Option.some.inj (hpart.symm.trans hfound)⟩
    · rintro ⟨rfl, rfl⟩
      refine ⟨⟨hofParts.eq_of_part? hfound, (KindOf.selects_retrieve path part).mpr ?_⟩, hplace⟩
      exact ⟨hnumber, fun value hvalue => hplace.trans (hpath value hvalue)⟩
  · rintro id body ⟨hheld, hselects⟩
    obtain ⟨part, rfl⟩ := hofParts id body hheld
    obtain ⟨hzero, hpath⟩ := (KindOf.selects_retrieve path part).mp hselects
    have hpart := Holdings.part?_of_eq hheld
    obtain ⟨rfl, change, hchange, hbare⟩ := hcomes id part hpart
    obtain ⟨storage', document', _, rfl, -, -⟩ := Change.exists_of_mem_parts hbare
    have hplace : part.bare.file.path = document'.file.path := Change.path_of_mem_parts hbare
    -- Where it stands, the latest version of its file has its first part.
    obtain ⟨before, storage, document, later, hsplit, hlatest, hspares⟩ :=
      Change.exists_latest ⟨storage', document', hchange, rfl⟩
    have hmem : .store storage document ∈ run :=
      hsplit ▸ List.mem_append_right _ (List.mem_cons_self ..)
    obtain ⟨parts, hdivide, first, hfirst, hnumber⟩ := Change.exists_first hrun hmem
    have hfile : part.file.path = document.file.path := hplace.trans hlatest.symm
    have hid := Part.storedId_congr index
      (hfile.trans (Segment.path_of_mem_divide hdivide hfirst).symm) (hzero.trans hnumber.symm)
    rw [← Change.parts_of_divide hdivide] at hfirst
    have hcurrent := Change.isCurrent_of_held hrun hapart hsplit hspares hfirst
      (by rw [← hid, hpart]; exact Option.some_ne_none _)
    exact ⟨storage, document, part, hcurrent, rfl, hfile,
      fun value hvalue => hfile.symm.trans (hpath value hvalue)⟩

/-- The draft is stored, then the revision, and then the draft is deleted: the revision is found. -/
theorem Storage.finds_each_once_revision : ∃ t,
    (Change.performAll "notes" [.store cutting draft, .store cutting revision,
      .delete plain draft.id]).runIn
        (.answering (acknowledging ++ (acknowledging ++ [.rendered (.obj [])]))) = (.ok (), t) ∧
    ∀ judge, ∃ query clause found,
      RequestOf.compose (⟨["notes"], some (.retrieve none none none), {}, none⟩ : Request) =
        .ok query ∧ query.toJson.get? "query" = some clause ∧
      found.bare = Segment.part revision revision.id 0 "c" ∧
      ∀ id part, ((Holdings.after "notes" t.requests).Finds judge clause id
          (Record.ofPart part).toFields ∧ part.file.path = "docs/a.md") ↔
        id = found.storedId "notes" ∧ part = found := by
  obtain ⟨u, hu, hdraft⟩ := performAll_draft [.store cutting revision, .delete plain draft.id]
    (s := .answering (acknowledging ++ (acknowledging ++ [.rendered (.obj [])]))) rfl
  obtain ⟨v, hv, hrevision⟩ := performAll_revision [.delete plain draft.id] hu
  obtain ⟨t, hdelete, -⟩ := runIn_deleteDocument_plain draft.id hv
  have hrun := hdraft.trans (hrevision.trans (runIn_bind_of_ok hdelete))
  refine ⟨t, hrun, fun judge => ?_⟩
  have hcurrent : Change.IsCurrent [.store cutting draft, .store cutting revision,
      .delete plain draft.id] cutting revision := by
    refine ⟨[.store cutting draft], [.delete plain draft.id], rfl, ?_, ?_⟩
    · intro storage document h
      cases List.mem_singleton.mp h
    · intro storage documentId h
      obtain ⟨-, rfl⟩ := Change.delete.inj (List.mem_singleton.mp h)
      exact draft_id_ne
  obtain ⟨query, clause, hquery, hclause, hfinds, -⟩ := finds_each_once rfl hrun
    (tellsApart_versions (by simp)) judge ["notes"] none {}
  obtain ⟨parts, first, found, hdivide, hfirst, -, rfl, hfound⟩ :=
    hfinds cutting revision hcurrent nofun
  obtain rfl := Except.ok.inj (divide_revision.symm.trans hdivide)
  exact ⟨query, clause, found, hquery, hclause, List.mem_singleton.mp hfirst, hfound⟩

end SearchGateway
