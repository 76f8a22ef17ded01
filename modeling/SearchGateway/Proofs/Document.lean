import Mathlib.Tactic
import Std.Data.String.ToInt
import SearchGateway.Document
import SearchGateway.Proofs.Digest

/-!
# What identifiers tell apart

The text that identifies a document is its path and its content with a line break between them.
Documents with the same text have the same path and content, or one of them is a later cut of the
text of the other (`Document.identity_eq_iff`), which cannot be if paths have no line breaks.

The text that identifies a stored part gives index, path and number, whatever the path: the index
has no slash in it, so the first slash is where it ends, and neither has the number, so the last one
is where it starts.  Between parts of one index the slashes in it do not matter.  Parts with the
same key have the same place or their texts collide (`Part.keys_unambiguous`).
-/

set_option autoImplicit false

namespace SearchGateway

/-! ## Texts around a separator -/

/-- A text is taken apart in two ways at a separator: both cut it at the same place, or one cuts it
at a later one. -/
theorem append_cons_eq_iff {c : Char} {xs xs' ys ys' : List Char} :
    xs ++ c :: ys = xs' ++ c :: ys' ↔ (xs = xs' ∧ ys = ys') ∨
      (∃ between, xs' = xs ++ c :: between ∧ ys = between ++ c :: ys') ∨
      ∃ between, xs = xs' ++ c :: between ∧ ys' = between ++ c :: ys := by
  rw [List.append_eq_append_iff]
  constructor
  · rintro (⟨_ | ⟨x, between⟩, hxs, hys⟩ | ⟨_ | ⟨x, between⟩, hxs, hys⟩)
    · exact .inl ⟨by simpa using hxs.symm, (List.cons.inj hys).2⟩
    · obtain ⟨rfl, hrest⟩ := List.cons.inj hys
      exact .inr (.inl ⟨between, hxs, hrest⟩)
    · exact .inl ⟨by simpa using hxs, (List.cons.inj hys).2.symm⟩
    · obtain ⟨rfl, hrest⟩ := List.cons.inj hys
      exact .inr (.inr ⟨between, hxs, hrest⟩)
  · rintro (⟨rfl, rfl⟩ | ⟨between, rfl, rfl⟩ | ⟨between, rfl, rfl⟩)
    · exact .inl ⟨[], by simp⟩
    · exact .inl ⟨c :: between, rfl, rfl⟩
    · exact .inr ⟨c :: between, rfl, rfl⟩

/-- Two texts that are equal are equal on both sides of a separator that neither has in front. -/
theorem append_cons_inj {c : Char} {xs xs' ys ys' : List Char} (hxs : c ∉ xs) (hxs' : c ∉ xs')
    (h : xs ++ c :: ys = xs' ++ c :: ys') : xs = xs' ∧ ys = ys' := by
  rcases append_cons_eq_iff.mp h with hsame | ⟨between, rfl, -⟩ | ⟨between, rfl, -⟩
  · exact hsame
  · simp at hxs'
  · simp at hxs

theorem append_cons_inj_right {c : Char} {xs xs' ys ys' : List Char} (hys : c ∉ ys)
    (hys' : c ∉ ys') (h : xs ++ c :: ys = xs' ++ c :: ys') : xs = xs' ∧ ys = ys' := by
  have hreverse : ys.reverse ++ c :: xs.reverse = ys'.reverse ++ c :: xs'.reverse := by
    have h' := congrArg List.reverse h
    simpa using h'
  obtain ⟨hy, hx⟩ := append_cons_inj (by simpa using hys) (by simpa using hys') hreverse
  exact ⟨List.reverse_injective hx, List.reverse_injective hy⟩

theorem slash_not_mem_toString (n : ℤ) : '/' ∉ (toString n).toList := by
  have hdigits (m : ℕ) : '/' ∉ (Nat.repr m).toList := by
    intro h
    rw [Nat.repr, String.toList_ofList] at h
    exact absurd (Nat.isDigit_of_mem_toDigits (by norm_num) (by norm_num) h) (by decide)
  -- A negative number has a minus in front of its digits.
  cases n with
  | ofNat m => exact hdigits m
  | negSucc m =>
    show '/' ∉ ("-" ++ Nat.repr (m + 1)).toList
    rw [String.toList_append, List.mem_append, not_or]
    exact ⟨by decide, hdigits _⟩

/-! ## Identities -/

namespace Document

variable {d d' : Document}

/-- The documents are versions of one file with the same content. -/
def IsSame (d d' : Document) : Prop := d.file.path = d'.file.path ∧ d.content = d'.content

/-- The other document is a later cut of the text of this one: its path goes on, behind a line
break, with what the content of this one begins with, and its content is what comes behind a further
line break. -/
def RunsInto (d d' : Document) : Prop :=
  ∃ between, d'.file.path = d.file.path ++ "\n" ++ between ∧
    d.content = between ++ "\n" ++ d'.content

theorem toList_identity (d : Document) :
    d.identity.toList = d.file.path.toList ++ '\n' :: d.content.toList := by
  simp [identity]

theorem isSame_iff : d.IsSame d' ↔
    d.file.path.toList = d'.file.path.toList ∧ d.content.toList = d'.content.toList := by
  rw [IsSame, String.toList_inj, String.toList_inj]

theorem runsInto_iff : d.RunsInto d' ↔ ∃ between : List Char,
    d'.file.path.toList = d.file.path.toList ++ '\n' :: between ∧
      d.content.toList = between ++ '\n' :: d'.content.toList := by
  constructor
  · rintro ⟨between, hpath, hcontent⟩
    exact ⟨between.toList, by simp [hpath], by simp [hcontent]⟩
  · rintro ⟨between, hpath, hcontent⟩
    refine ⟨.ofList between, ?_, ?_⟩
    · rw [← String.toList_inj, hpath]
      simp
    · rw [← String.toList_inj, hcontent]
      simp

/-- **Which documents are identified by the same text.** -/
theorem identity_eq_iff :
    d.identity = d'.identity ↔ d.IsSame d' ∨ d.RunsInto d' ∨ d'.RunsInto d := by
  rw [← String.toList_inj, toList_identity, toList_identity, append_cons_eq_iff, isSame_iff,
    runsInto_iff, runsInto_iff]

/-- No document runs into one whose path has no line breaks. -/
theorem not_runsInto_of_path (h : '\n' ∉ d'.file.path.toList) : ¬d.RunsInto d' := by
  rintro ⟨between, hpath, -⟩
  exact h (by simp [hpath])

theorem RunsInto.not_isSame (h : d.RunsInto d') : ¬d.IsSame d' := by
  obtain ⟨between, hpath, -⟩ := runsInto_iff.mp h
  rintro ⟨hsame, -⟩
  rw [hsame] at hpath
  simp at hpath

/-- **Path and content can be told from what identifies a document** if paths have no line
breaks. -/
theorem identity_inj (hd : '\n' ∉ d.file.path.toList) (hd' : '\n' ∉ d'.file.path.toList)
    (h : d.identity = d'.identity) : d.file.path = d'.file.path ∧ d.content = d'.content := by
  rcases identity_eq_iff.mp h with hsame | hruns | hruns
  · exact hsame
  · exact absurd hruns (not_runsInto_of_path hd')
  · exact absurd hruns (not_runsInto_of_path hd)

end Document

/-! ## Keys of parts -/

namespace Part

variable {index index' : String} {p p' : Part}

/-- What a stored part is kept by: its index, the path of its file and its number. -/
structure Place where
  index : String
  path : String
  number : ℤ
deriving DecidableEq

/-- Where a part is kept in an index. -/
def place (index : String) (part : Part) : Place := ⟨index, part.file.path, part.number⟩

theorem toList_identity (index : String) (p : Part) : (p.identity index).toList =
    (index ++ "/" ++ p.file.path).toList ++ '/' :: (toString p.number).toList := by
  simp [identity]

/-- The number starts behind the last slash, whatever index and path are. -/
theorem identity_eq_iff : p.identity index = p'.identity index' ↔
    index ++ "/" ++ p.file.path = index' ++ "/" ++ p'.file.path ∧ p.number = p'.number := by
  constructor
  · intro h
    have hlist := congrArg String.toList h
    rw [toList_identity, toList_identity] at hlist
    -- The path may have slashes, so the texts are taken apart from behind.
    obtain ⟨hfile, hnumber⟩ := append_cons_inj_right (slash_not_mem_toString _)
      (slash_not_mem_toString _) hlist
    exact ⟨String.toList_injective hfile, Int.repr_injective (String.toList_injective hnumber)⟩
  · rintro ⟨hfile, hnumber⟩
    rw [identity, identity, hfile, hnumber]

/-- **Path and number can be told from what identifies a part** within an index. -/
theorem identity_inj (h : p.identity index = p'.identity index) :
    p.file.path = p'.file.path ∧ p.number = p'.number := by
  obtain ⟨hfile, hnumber⟩ := identity_eq_iff.mp h
  have hlist := congrArg String.toList hfile
  exact ⟨String.toList_injective (by simpa using hlist), hnumber⟩

/-- The index ends at the first slash if it has none itself. -/
theorem identity_eq_iff_place (hindex : '/' ∉ index.toList) (hindex' : '/' ∉ index'.toList) :
    p.identity index = p'.identity index' ↔ p.place index = p'.place index' := by
  rw [identity_eq_iff, place, place, Place.mk.injEq, ← and_assoc]
  refine and_congr_left fun _ => ⟨fun hfile => ?_, fun ⟨hsame, hpath⟩ => by rw [hsame, hpath]⟩
  have hlist : index.toList ++ '/' :: p.file.path.toList =
      index'.toList ++ '/' :: p'.file.path.toList := by
    have h := congrArg String.toList hfile
    simpa using h
  obtain ⟨hsame, hpath⟩ := append_cons_inj hindex hindex' hlist
  exact ⟨String.toList_injective hsame, String.toList_injective hpath⟩

/-- **Keys of parts are unambiguous.**  The text that a part is identified by gives its place: the
index, which has no slash, the path, which may have any, and the number.  So parts are stored under
the same key exactly if they have the same place or two different texts collide. -/
theorem keys_unambiguous (hindex : '/' ∉ index.toList) (hindex' : '/' ∉ index'.toList)
    (p p' : Part) :
    (p.identity index = p'.identity index' ↔ p.place index = p'.place index') ∧
    (p.storedId index = p'.storedId index' ↔
      p.place index = p'.place index' ∨
        Digest.Collide (p.identity index) (p'.identity index')) := by
  refine ⟨identity_eq_iff_place hindex hindex', ?_⟩
  rw [storedId, storedId, Digest.ofText_eq_iff, identity_eq_iff_place hindex hindex']

/-- A part of a file without a path. -/
def unplaced : Part := ⟨"d", 1, ⟨"", "", 0, 0, 0⟩, none, none, none, none⟩

/-- A part of a file whose path is what stands behind the index in the key of the other part. -/
def misplaced : Part := ⟨"d", -2, ⟨"1", "/1", 0, 0, 0⟩, none, none, none, none⟩

/-- The keys of both parts begin with the same text, and are different unless they collide. -/
theorem keys_unambiguous_misplaced : '/' ∉ "notes".toList ∧
    unplaced.identity "notes" ≠ misplaced.identity "notes" ∧
    (unplaced.storedId "notes" = misplaced.storedId "notes" ↔
      Digest.Collide (unplaced.identity "notes") (misplaced.identity "notes")) := by
  have hindex : '/' ∉ "notes".toList := by decide
  have hplaces : unplaced.place "notes" ≠ misplaced.place "notes" := by decide
  obtain ⟨hidentity, hkeys⟩ := keys_unambiguous hindex hindex unplaced misplaced
  exact ⟨hindex, hidentity.not.mpr hplaces, hkeys.trans (or_iff_right hplaces)⟩

/-- A slash in an index is taken for the beginning of a path. -/
example : unplaced.identity "notes/1" = { unplaced with file.path := "1/" }.identity "notes" := by
  decide

end Part

end SearchGateway
