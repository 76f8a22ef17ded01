import SearchGateway.Proofs.Document
import SearchGateway.Proofs.Storage.Holdings

/-!
# Changes to an index

Documents are stored and deleted, one after the other, in any order.  What each `Change` makes of
what the index holds is one of two things (`Change.Makes`), and so a property of what is held that
survives both is there after any run of changes (`Change.invariant`).  Two such properties carry
everything that is said about versions of a document: what is held comes from a change of the run
and stands under its own identifier (`Holdings.Comes`), and the parts of a document stay until
something is stored in their place or the document is deleted (`Holdings.Complete`).
-/

set_option autoImplicit false

namespace SearchGateway

open SearchGateway.Action

/-- A part without what embedding it adds. -/
def Part.bare (part : Part) : Part := { part with chunks := none, embeddings := none }

/-! ## Divided parts -/

namespace Segment

variable {document : Document} {maxSize : ℤ} {rate : Double} {parts : List Part}

theorem documentId_of_mem_divide (h : divide document maxSize rate = .ok parts) {p : Part}
    (hp : p ∈ parts) : p.documentId = document.id := by
  obtain ⟨_, _, -, rfl⟩ := mem_divide h hp
  rfl

theorem path_of_mem_divide (h : divide document maxSize rate = .ok parts) {p : Part}
    (hp : p ∈ parts) : p.file.path = document.file.path := by
  obtain ⟨_, _, -, rfl⟩ := mem_divide h hp
  rfl

theorem bare_of_mem_divide (h : divide document maxSize rate = .ok parts) {p : Part}
    (hp : p ∈ parts) : p.bare = p := by
  obtain ⟨_, _, -, rfl⟩ := mem_divide h hp
  rfl

/-- The number of a part is below their count. -/
theorem number_of_mem_divide (h : divide document maxSize rate = .ok parts) {p : Part}
    (hp : p ∈ parts) : ∃ n : ℕ, n < parts.length ∧ p.number = n := by
  obtain ⟨n, content, hcontent, rfl⟩ := mem_divide h hp
  refine ⟨n, ?_, rfl⟩
  rw [divide_ok h, List.length_mapIdx]
  exact (List.getElem?_eq_some_iff.mp hcontent).1

/-- Every number below their count is the number of a part. -/
theorem exists_number_eq (h : divide document maxSize rate = .ok parts) {n : ℕ}
    (hn : n < parts.length) : ∃ p ∈ parts, p.number = n := by
  rw [divide_ok h] at hn ⊢
  rw [List.length_mapIdx] at hn
  exact ⟨_, List.mem_mapIdx.mpr ⟨n, hn, rfl⟩, rfl⟩

/-- A part with the path of the document and a number below their count stands where one of them
stands. -/
theorem exists_storedId_eq (h : divide document maxSize rate = .ok parts) (index : String)
    {q : Part} {n : ℕ} (hn : n < parts.length) (hpath : q.file.path = document.file.path)
    (hnumber : q.number = n) : ∃ p ∈ parts, p.storedId index = q.storedId index := by
  obtain ⟨p, hp, hpn⟩ := exists_number_eq h hn
  refine ⟨p, hp, ?_⟩
  rw [Part.storedId, Part.storedId, Part.identity, Part.identity, path_of_mem_divide h hp, hpn,
    hpath, hnumber]

/-- No two parts have the same number. -/
theorem eq_of_number_eq (h : divide document maxSize rate = .ok parts) {p q : Part}
    (hp : p ∈ parts) (hq : q ∈ parts) (hnumber : p.number = q.number) : p = q := by
  obtain ⟨n, content, hcontent, rfl⟩ := mem_divide h hp
  obtain ⟨m, content', hcontent', rfl⟩ := mem_divide h hq
  have hnm : n = m := Int.ofNat.inj hnumber
  rw [hnm, hcontent'] at hcontent
  rw [hnm, Option.some.inj hcontent]

/-- Documents with the same content are divided into as many parts. -/
theorem length_eq_of_content_eq {document' : Document} {parts' : List Part}
    (h : divide document maxSize rate = .ok parts)
    (h' : divide document' maxSize rate = .ok parts')
    (hcontent : document.content = document'.content) : parts.length = parts'.length := by
  rw [divide_ok h, divide_ok h', hcontent, List.length_mapIdx, List.length_mapIdx]

end Segment

/-! ## Changes -/

/-- What changes an index: a document is stored, or the parts of a document are deleted. -/
inductive Change where
  | store (storage : Storage) (document : Document)
  | delete (storage : Storage) (documentId : String)

namespace Change

/-- Makes a change. -/
def perform (index : String) : Change → Action Unit
  | store storage document => do
    let _ ← storage.storeDocument index document
  | delete storage documentId => storage.deleteDocument index documentId

/-- Makes changes one after the other. -/
def performAll (index : String) : List Change → Action Unit
  | [] => pure ()
  | change :: rest => do
    change.perform index
    performAll index rest

/-- The parts that a change stores, as they are before they are embedded. -/
def parts : Change → List Part
  | store storage document =>
    match Segment.divide document storage.maxSize storage.overlapRate with
    | .ok parts => parts
    | .error _ => []
  | delete _ _ => []

/-- The texts that a change has identifiers made of. -/
def identities (index : String) : Change → List String
  | store storage document =>
    document.identity :: (store storage document).parts.map (Part.identity index)
  | delete _ _ => []

/-- What a change makes of what the index held before. -/
inductive Makes (index : String) : Change → Holdings → Holdings → Prop
  | store {storage : Storage} {document : Document} {parts sent : List Part} {held : Holdings}
      (hdivide : Segment.divide document storage.maxSize storage.overlapRate = .ok parts)
      (hsent : sent.map Part.bare = parts) :
      Makes index (.store storage document) held (held.putAll (sent.map (Bulk.entry index)))
  | delete {storage : Storage} {documentId : String} {held : Holdings} :
      Makes index (.delete storage documentId) held (held.remove documentId)

theorem parts_of_divide {storage : Storage} {document : Document} {found : List Part}
    (h : Segment.divide document storage.maxSize storage.overlapRate = .ok found) :
    (store storage document).parts = found := by
  rw [parts, h]

/-- What is sent of divided parts are these parts, but for what embedding them adds. -/
theorem map_bare_of_storedAs {embedder : Option Embedder} {divided sent : List Part}
    (h : List.Forall₂ (Storage.IsStoredAs embedder) divided sent)
    (hbare : ∀ part ∈ divided, part.bare = part) : sent.map Part.bare = divided := by
  induction h with
  | nil => rfl
  | @cons part stored divided sent hstored _ ih =>
    rw [List.forall_mem_cons] at hbare
    have hpart : stored.bare = part.bare := by
      cases embedder with
      | none => exact congrArg Part.bare hstored
      | some e =>
        obtain ⟨embedding, rfl⟩ := hstored
        rfl
    rw [List.map_cons, hpart, hbare.1, ih hbare.2]

/-- **A change that succeeds does one of two things to the index.** -/
theorem makes_of_perform {index : String} {change : Change} {s t : Surroundings}
    (h : (change.perform index).runIn s = (.ok (), t)) :
    change.Makes index (Holdings.after index s.requests) (Holdings.after index t.requests) := by
  cases change with
  | store storage document =>
    obtain ⟨stored, u, hstore, h⟩ := runIn_bind_ok.mp h
    obtain ⟨-, rfl⟩ := Prod.mk.inj h
    obtain ⟨parts, sent, text, hstores, hrequests, -⟩ := Storage.storeDocument_ok hstore
    have hsent := map_bare_of_storedAs hstores.storedAs fun part =>
      Segment.bare_of_mem_divide hstores.divided
    rw [hrequests, Holdings.after, Holdings.after, Holdings.serve_bulk,
      Holdings.serve_description, Bulk.entriesOf_eq hstores.nonempty hstores.written]
    exact .store hstores.divided hsent
  | delete storage documentId =>
    rw [Storage.deleteDocument_ok h, Holdings.after, Holdings.serve_deletion]
    exact .delete

theorem performAll_append_ok {index : String} {before later : List Change} {s u : Surroundings} :
    (performAll index (before ++ later)).runIn s = (.ok (), u) ↔
      ∃ t, (performAll index before).runIn s = (.ok (), t) ∧
        (performAll index later).runIn t = (.ok (), u) := by
  induction before generalizing s with
  | nil => exact ⟨fun h => ⟨s, rfl, h⟩, fun ⟨_, hs, h⟩ => (Prod.mk.inj hs).2 ▸ h⟩
  | cons change before ih =>
    constructor
    · intro h
      obtain ⟨_, t, hchange, hrest⟩ := runIn_bind_ok.mp h
      obtain ⟨v, hbefore, hlater⟩ := ih.mp hrest
      exact ⟨v, runIn_bind_ok.mpr ⟨_, t, hchange, hbefore⟩, hlater⟩
    · rintro ⟨v, hall, hlater⟩
      obtain ⟨_, t, hchange, hbefore⟩ := runIn_bind_ok.mp hall
      exact runIn_bind_ok.mpr ⟨_, t, hchange, ih.mpr ⟨v, hbefore, hlater⟩⟩

/-- **What every change of a run preserves is there after the run.** -/
theorem invariant {index : String} {P : Holdings → Prop} {changes : List Change}
    (hstep : ∀ change ∈ changes, ∀ held held', change.Makes index held held' → P held → P held')
    {s t : Surroundings} (hrun : (performAll index changes).runIn s = (.ok (), t))
    (hs : P (Holdings.after index s.requests)) : P (Holdings.after index t.requests) := by
  induction changes generalizing s with
  | nil =>
    obtain ⟨-, rfl⟩ := Prod.mk.inj hrun
    exact hs
  | cons change changes ih =>
    rw [List.forall_mem_cons] at hstep
    obtain ⟨_, u, hchange, hrest⟩ := runIn_bind_ok.mp hrun
    exact ih hstep.2 hrest (hstep.1 _ _ (makes_of_perform hchange) hs)

end Change

/-! ## Where parts come from -/

namespace Holdings

variable {index : String} {held held' : Holdings} {change : Change} {run : List Change}

/-- Whatever part is held stands under its own identifier, and a change of the run stored it. -/
def Comes (index : String) (run : List Change) (held : Holdings) : Prop :=
  ∀ id part, held.part? id = some part →
    part.storedId index = id ∧ ∃ change ∈ run, part.bare ∈ change.parts

theorem comes_empty (index : String) (run : List Change) : empty.Comes index run := by
  intro id part h
  cases h

theorem Comes.step (hmem : change ∈ run) (hmakes : change.Makes index held held')
    (h : held.Comes index run) : held'.Comes index run := by
  cases hmakes with
  | @store storage document parts sent _ hdivide hsent =>
    intro id part hpart
    rcases part?_putAll_cases index id held sent with ⟨other, hother, hid, hheld⟩ | ⟨-, hheld⟩
    · obtain rfl : other = part := Option.some.inj (hheld.symm.trans hpart)
      refine ⟨hid, _, hmem, ?_⟩
      rw [Change.parts_of_divide hdivide, ← hsent]
      exact List.mem_map_of_mem hother
    · exact h id part (hheld.symm.trans hpart)
  | delete =>
    intro id part hpart
    rw [part?_remove] at hpart
    exact h id part (Option.filter_eq_some_iff.mp hpart).1

/-- After a run from an empty index, whatever is held comes from the run. -/
theorem comes_of_performAll {changes : List Change} {s t : Surroundings}
    (hempty : after index s.requests = empty)
    (hrun : (Change.performAll index changes).runIn s = (.ok (), t)) :
    (after index t.requests).Comes index changes := by
  refine Change.invariant ?_ hrun ?_
  · intro change hchange held held' hmakes h
    exact h.step hchange hmakes
  · rw [hempty]
    exact comes_empty index changes

/-! ## What stays -/

/-- Storing takes no identifier away. -/
theorem isSome_part?_putAll {id : String} {sent : List Part} (h : (held.part? id).isSome) :
    ((held.putAll (sent.map (Bulk.entry index))).part? id).isSome := by
  rcases part?_putAll_cases index id held sent with ⟨other, -, -, hheld⟩ | ⟨-, hheld⟩
  · rw [hheld]
    rfl
  · rw [hheld]
    exact h

/-- Every part is held under its identifier. -/
def Complete (index : String) (parts : List Part) (held : Holdings) : Prop :=
  ∀ part ∈ parts, ∃ found, held.part? (part.storedId index) = some found ∧ found.bare = part

variable {parts sent : List Part}

/-- Parts are held once they are put, if their identifiers tell them apart. -/
theorem complete_putAll (hsent : sent.map Part.bare = parts)
    (hapart : ∀ p ∈ parts, ∀ q ∈ parts, p.storedId index = q.storedId index → p = q) :
    (held.putAll (sent.map (Bulk.entry index))).Complete index parts := by
  intro part hpart
  have hput : ∃ other ∈ sent, other.storedId index = part.storedId index := by
    rw [← hsent] at hpart
    obtain ⟨other, hother, rfl⟩ := List.mem_map.mp hpart
    exact ⟨other, hother, rfl⟩
  obtain ⟨found, hfound, hid, hheld⟩ := part?_putAll_of_mem held hput
  refine ⟨found, hheld, hapart _ ?_ _ hpart hid⟩
  rw [← hsent]
  exact List.mem_map_of_mem hfound

/-- They stay when others are put. -/
theorem Complete.putAll (h : held.Complete index parts)
    (hother : ∀ other ∈ sent, ∀ part ∈ parts, other.storedId index ≠ part.storedId index) :
    (held.putAll (sent.map (Bulk.entry index))).Complete index parts := by
  intro part hpart
  rw [part?_putAll_of_forall_ne fun other hmem => hother other hmem part hpart]
  exact h part hpart

/-- They stay when another document is deleted. -/
theorem Complete.remove (h : held.Complete index parts) {documentId : String}
    (hother : ∀ part ∈ parts, part.documentId ≠ documentId) :
    (held.remove documentId).Complete index parts := by
  intro part hpart
  obtain ⟨found, hfound, rfl⟩ := h part hpart
  have hne : found.documentId ≠ documentId := hother found.bare hpart
  refine ⟨found, ?_, rfl⟩
  rw [part?_remove, hfound, Option.filter_some, if_pos (decide_eq_true hne)]

end Holdings

end SearchGateway
