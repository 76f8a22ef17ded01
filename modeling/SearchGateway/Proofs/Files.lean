import Mathlib.Data.List.TakeWhile
import Mathlib.Data.String.Basic
import SearchGateway.Proofs.Ordered
import SearchGateway.Proofs.Outcome
import SearchGateway.Storage

/-!
# What a folder holds

The names in a folder come in order and each once (`Files.pairwise_names`), and a file counts as
text if its name is a stem and one of three endings, in any case (`Path.HasTextSuffix`).  What is
read from a file is said apart from how it is read (`Files.ReadsAs`), and so is what the documents
of a folder are (`Files.Lists`): no two lists of documents are those of one folder.
-/

set_option autoImplicit false

namespace SearchGateway

/-! ## Text suffixes -/

/-- Whether a name ends like that of a text file: a stem that is not empty, and an ending that is a
text suffix in any case. -/
def Path.HasTextSuffix (name : String) : Prop :=
  ∃ stem ending : List Char, name.toList = stem ++ ending ∧ stem ≠ [] ∧
    String.ofList (ending.map Text.toAsciiLower) ∈ Storage.textSuffixes

/-- No character but the dot is a dot in lower case. -/
theorem Text.toAsciiLower_eq_dot {c : Char} : toAsciiLower c = '.' ↔ c = '.' := by
  unfold toAsciiLower
  split
  next hkelvin =>
    rw [beq_iff_eq.mp hkelvin]
    decide
  next =>
    show (if h : c.val ≥ 'A'.val ∧ c.val ≤ 'Z'.val then
      (⟨c.val + ('a'.val - 'A'.val), _⟩ : Char) else c) = '.' ↔ c = '.'
    split
    next hupper =>
      have hge := UInt32.le_iff_toNat_le.mp hupper.1
      have hle := UInt32.le_iff_toNat_le.mp hupper.2
      constructor
      · intro hdot
        have hval := congrArg (fun c => c.val.toNat) hdot
        simp at hge hle hval
        omega
      · rintro rfl
        exact absurd hge (by decide)
    next => rfl

theorem Text.dot_mem_map_toAsciiLower {cs : List Char} : '.' ∈ cs.map toAsciiLower ↔ '.' ∈ cs := by
  simp [toAsciiLower_eq_dot]

/-- A text suffix is a dot and some characters after it, none of which is a dot. -/
theorem Path.ending_of_mem_textSuffixes {ending : List Char}
    (h : String.ofList (ending.map Text.toAsciiLower) ∈ Storage.textSuffixes) :
    ∃ after, ending = '.' :: after ∧ after ≠ [] ∧ '.' ∉ after := by
  have hshape : ∀ suffix ∈ Storage.textSuffixes, ∃ after, suffix.toList = '.' :: after ∧
      after ≠ [] ∧ '.' ∉ after := by
    simp only [Storage.textSuffixes, List.forall_mem_cons]
    refine ⟨⟨_, rfl, by decide⟩, ⟨_, rfl, by decide⟩, ⟨_, rfl, by decide⟩, by simp⟩
  obtain ⟨after, hafter, hne, hdot⟩ := hshape _ h
  rw [String.toList_ofList] at hafter
  obtain ⟨c, rest, rfl, hc, rfl⟩ := List.map_eq_cons_iff.mp hafter
  obtain rfl := Text.toAsciiLower_eq_dot.mp hc
  exact ⟨rest, rfl, fun hnil => hne (by rw [hnil]; rfl),
    fun hmem => hdot (Text.dot_mem_map_toAsciiLower.mpr hmem)⟩

/-- The last dot of a name, looked for from its end. -/
theorem Path.span_reverse {cs after stem : List Char} (hcs : cs = stem ++ '.' :: after)
    (hdot : '.' ∉ after) :
    cs.reverse.span (· ≠ '.') = (after.reverse, '.' :: stem.reverse) := by
  have hreverse : cs.reverse = after.reverse ++ '.' :: stem.reverse := by simp [hcs]
  have hno : ∀ c ∈ after.reverse, decide (c ≠ '.') = true := by
    intro c hc
    refine decide_eq_true ?_
    rintro rfl
    exact hdot (List.mem_reverse.mp hc)
  rw [List.span_eq_takeWhile_dropWhile, hreverse, List.takeWhile_append_of_pos hno,
    List.dropWhile_append_of_pos hno]
  simp

/-- The suffix of a name with a dot in it. -/
theorem Path.suffix_of_append {name : String} {stem after : List Char}
    (hname : name.toList = stem ++ '.' :: after) (hdot : '.' ∉ after) :
    Path.suffix name = if stem = [] ∨ after = [] then ""
      else String.ofList (('.' :: after).map Text.toAsciiLower) := by
  rw [suffix, span_reverse hname hdot]
  cases stem using List.reverseRecOn with
  | nil => rfl
  | append_singleton stem c => simp

/-- A suffix is not empty only if it is what follows a stem. -/
theorem Path.exists_of_suffix_ne {name : String} (h : Path.suffix name ≠ "") :
    ∃ stem after : List Char, name.toList = stem ++ '.' :: after ∧ stem ≠ [] ∧
      Path.suffix name = String.ofList (('.' :: after).map Text.toAsciiLower) := by
  by_cases hdot : '.' ∈ name.toList.reverse
  · obtain ⟨front, back, hreverse, hfront⟩ := List.eq_append_cons_of_mem hdot
    have hname : name.toList = back.reverse ++ '.' :: front.reverse := by
      rw [← List.reverse_reverse name.toList, hreverse]
      simp
    have hsuffix := suffix_of_append hname (by simpa using hfront)
    have hnot : ¬(back.reverse = [] ∨ front.reverse = []) := by
      intro hempty
      exact h (by rw [hsuffix, if_pos hempty])
    exact ⟨_, _, hname, (not_or.mp hnot).1, by rw [hsuffix, if_neg hnot]⟩
  · -- Without a dot there is nothing before the characters that are looked through.
    have hnone : name.toList.reverse.span (· ≠ '.') = (name.toList.reverse, []) := by
      rw [List.span_eq_takeWhile_dropWhile, List.takeWhile_eq_self_iff.mpr,
        List.dropWhile_eq_nil_iff.mpr] <;>
      · intro c hc
        refine decide_eq_true ?_
        rintro rfl
        exact hdot hc
    rw [suffix, hnone] at h
    exact absurd rfl h

theorem Path.contains_suffix_iff {name : String} :
    Storage.textSuffixes.contains (Path.suffix name) = true ↔ Path.HasTextSuffix name := by
  rw [List.contains_iff_mem]
  constructor
  · intro hmem
    have hne : Path.suffix name ≠ "" := by
      intro hempty
      rw [hempty] at hmem
      exact absurd hmem (by decide)
    obtain ⟨stem, after, hname, hstem, hsuffix⟩ := exists_of_suffix_ne hne
    exact ⟨stem, '.' :: after, hname, hstem, hsuffix ▸ hmem⟩
  · rintro ⟨stem, ending, hname, hstem, hmem⟩
    obtain ⟨after, rfl, hafter, hdot⟩ := ending_of_mem_textSuffixes hmem
    rw [suffix_of_append hname hdot, if_neg (not_or.mpr ⟨hstem, hafter⟩)]
    exact hmem

/-! ## Texts -/

theorem FileEntry.text_eq_ok {entry : FileEntry} {content : String} :
    entry.text = .ok content ↔ ∃ text, String.fromUTF8? entry.bytes = some text ∧
      content = String.ofList (unifyLineEndings text.toList) := by
  unfold FileEntry.text
  cases String.fromUTF8? entry.bytes with
  | none => simp
  | some text => simp [eq_comm]

/-! ## Names in a folder -/

namespace Files

variable {files : Files} {trail : Trail} {name : String}

/-- Something is found under a name if anything is listed there or below. -/
theorem isSome_entry?_iff : (files.entry? (trail ++ [name])).isSome ↔
    ∃ known ∈ files.listed, trail ++ [name] <+: known.1 := by
  unfold entry?
  cases hlookup : List.lookup (trail ++ [name]) files.listed with
  | some entry =>
    obtain ⟨front, back, hlisted, -⟩ := List.lookup_eq_some_iff.mp hlookup
    rw [hlisted]
    exact iff_of_true rfl
      ⟨_, List.mem_append_right _ List.mem_cons_self, List.prefix_refl _⟩
  | none =>
    have hfolder : files.isFolder (trail ++ [name]) = true ↔
        ∃ known ∈ files.listed, trail ++ [name] <+: known.1 := by
      rw [isFolder, List.isEmpty_eq_false_iff.mpr (by simp), Bool.false_or, List.any_eq_true]
      refine exists_congr fun ⟨t, entry⟩ => and_congr_right fun hmem => ?_
      cases entry with
      | folder => exact List.isPrefixOf_iff_prefix
      | file entry =>
        -- What is listed is not the name itself, so it is below it.
        have hne : trail ++ [name] ≠ t := by
          simpa using List.lookup_eq_none_iff.mp hlookup _ hmem
        rw [Bool.and_eq_true, List.isPrefixOf_iff_prefix, decide_eq_true_iff]
        exact and_iff_left_of_imp fun hbegins => hbegins.length_le.lt_of_ne
          fun hlength => hne (hbegins.eq_of_length hlength)
    rw [← hfolder]
    dsimp only
    split <;> simp [*]

theorem mem_names_iff : name ∈ files.names trail ↔ (files.entry? (trail ++ [name])).isSome := by
  rw [names, List.mem_mergeSort, List.mem_eraseDups, List.mem_filterMap, isSome_entry?_iff]
  refine exists_congr fun ⟨t, entry⟩ => and_congr_right fun _ => ?_
  rw [ite_eq_iff]
  constructor
  · rintro (⟨hbegins, hname⟩ | ⟨-, h⟩)
    · obtain ⟨more, rfl⟩ := List.isPrefixOf_iff_prefix.mp hbegins
      rw [List.drop_left] at hname
      obtain ⟨rest, rfl⟩ := List.head?_eq_some_iff.mp hname
      exact ⟨rest, by simp⟩
    · cases h
  · rintro ⟨more, rfl⟩
    exact .inl (by simp)

theorem pairwise_names (files : Files) (trail : Trail) :
    (files.names trail).Pairwise (· < ·) := by
  have hsorted (as : List String) : (as.mergeSort fun a b => decide (a ≤ b)).Pairwise
      fun a b => decide (a ≤ b) = true :=
    List.pairwise_mergeSort
      (fun a b c hab hbc => by
        simpa using String.le_trans (of_decide_eq_true hab) (of_decide_eq_true hbc))
      (fun a b => by simpa using String.le_total a b) as
  have hnodup (as : List String) : (as.eraseDups.mergeSort fun a b => decide (a ≤ b)).Nodup :=
    (List.mergeSort_perm _ _).nodup_iff.mpr (nodup_eraseDups as)
  refine ((hsorted _).and (hnodup _)).imp ?_
  rintro a b ⟨hle, hne⟩
  exact lt_of_le_of_ne (of_decide_eq_true hle) hne

/-! ## Documents in a folder -/

/-- What is read from a file: its text as UTF-8 with unified line endings, under its name, path and
size, and with the whole seconds of its times. -/
inductive ReadsAs (files : Files) (trail : Trail) (path : Path) (name : String) : Document → Prop
  | file {entry : FileEntry} {text : String} {createdAt modifiedAt : ℤ}
      (listed : files.entry? (trail ++ [name]) = some (.file entry))
      (inReach : (path.child name).toString.utf8ByteSize ≤ longestPath)
      (isText : String.fromUTF8? entry.bytes = some text)
      (created : entry.createdAt.truncate = .ok createdAt)
      (modified : entry.modifiedAt.truncate = .ok modifiedAt) :
      ReadsAs files trail path name {
        file := ⟨name, (path.child name).toString, entry.bytes.size, createdAt, modifiedAt⟩
        content := String.ofList (unifyLineEndings text.toList)
        metadata := none }

variable {path : Path} {document : Document}

theorem loadDocument_eq_ok : Storage.loadDocument files trail path name = .ok document ↔
    files.ReadsAs trail path name document := by
  unfold Storage.loadDocument
  constructor
  · intro h
    by_cases hreach : longestPath < (path.child name).toString.utf8ByteSize
    · rw [if_pos hreach] at h
      cases h
    · rw [if_neg hreach] at h
      cases hlisted : files.entry? (trail ++ [name]) with
      | none =>
        rw [hlisted] at h
        cases h
      | some found =>
        rw [hlisted] at h
        cases found with
        | folder => cases h
        | file entry =>
          obtain ⟨createdAt, hcreated, h⟩ := Except.bind_eq_ok_iff.mp h
          obtain ⟨modifiedAt, hmodified, h⟩ := Except.bind_eq_ok_iff.mp h
          obtain ⟨content, hcontent, h⟩ := Except.bind_eq_ok_iff.mp h
          obtain ⟨text, htext, rfl⟩ := FileEntry.text_eq_ok.mp hcontent
          cases h
          exact .file hlisted (Nat.le_of_not_lt hreach) htext hcreated hmodified
  · rintro ⟨hlisted, hreach, htext, hcreated, hmodified⟩
    rw [if_neg hreach.not_gt, hlisted]
    simp [FileEntry.text, htext, hcreated, hmodified, bind, Except.bind, pure, Except.pure]

theorem ReadsAs.name_eq (h : files.ReadsAs trail path name document) :
    document.file.name = name := by
  cases h
  rfl

/-- The text files among the names can be read. -/
def AreReadable (files : Files) (trail : Trail) (path : Path) (names : List String) : Prop :=
  ∀ name ∈ names, Path.HasTextSuffix name → ∃ document, files.ReadsAs trail path name document

/-- What the documents of a folder are: its text files with content, in the order of their names. -/
structure Lists (files : Files) (trail : Trail) (path : Path) (documents : List Document) :
    Prop where
  ordered : documents.Pairwise fun first second => first.file.name < second.file.name
  mem_iff : ∀ document, document ∈ documents ↔ ∃ name, Path.HasTextSuffix name ∧
    files.ReadsAs trail path name document ∧ Text.isBlankText document.content = false

theorem Lists.eq {documents documents' : List Document}
    (h : files.Lists trail path documents) (h' : files.Lists trail path documents') :
    documents = documents' :=
  eq_of_ordered h.ordered h'.ordered fun document =>
    (h.mem_iff document).trans (h'.mem_iff document).symm

/-- The document that a name stands for, if it is that of a text file with content. -/
def document? (files : Files) (trail : Trail) (path : Path) (name : String) : Option Document :=
  if Storage.textSuffixes.contains (Path.suffix name) then
    (Storage.loadDocument files trail path name).toOption.filter
      fun document => !Text.isBlankText document.content
  else none

theorem document?_eq_some : files.document? trail path name = some document ↔
    Path.HasTextSuffix name ∧ files.ReadsAs trail path name document ∧
      Text.isBlankText document.content = false := by
  unfold document?
  split
  next hsuffix =>
    rw [and_iff_right (Path.contains_suffix_iff.mp hsuffix), ← loadDocument_eq_ok]
    cases Storage.loadDocument files trail path name with
    | error defect => simp [Except.toOption]
    | ok found =>
      simp only [Except.toOption, Option.filter_eq_some_iff, Option.some.injEq, Except.ok.injEq,
        Bool.not_eq_true']
  next hsuffix =>
    simp [mt Path.contains_suffix_iff.mpr hsuffix]

/-- The documents that names stand for. -/
def documents (files : Files) (trail : Trail) (path : Path) (names : List String) :
    List Document :=
  names.filterMap (files.document? trail path)

theorem documents_cons_none {rest : List String} (h : files.document? trail path name = none) :
    files.documents trail path (name :: rest) = files.documents trail path rest :=
  List.filterMap_cons_none h

theorem documents_cons_some {rest : List String}
    (h : files.document? trail path name = some document) :
    files.documents trail path (name :: rest) = document :: files.documents trail path rest :=
  List.filterMap_cons_some h

theorem mem_documents_iff {names : List String} :
    document ∈ files.documents trail path names ↔ document.file.name ∈ names ∧
      files.document? trail path document.file.name = some document := by
  constructor
  · intro h
    obtain ⟨name, hmem, hdocument⟩ := List.mem_filterMap.mp h
    obtain ⟨-, hreads, -⟩ := document?_eq_some.mp hdocument
    rw [hreads.name_eq]
    exact ⟨hmem, hdocument⟩
  · rintro ⟨hmem, hdocument⟩
    exact List.mem_filterMap.mpr ⟨_, hmem, hdocument⟩

theorem mem_names_of_document? (h : files.document? trail path name = some document) :
    name ∈ files.names trail := by
  obtain ⟨-, hreads, -⟩ := document?_eq_some.mp h
  cases hreads with
  | file hlisted =>
    rw [mem_names_iff, hlisted]
    rfl

theorem pairwise_documents {names : List String} (hnames : names.Pairwise (· < ·)) :
    (files.documents trail path names).Pairwise fun first second =>
      first.file.name < second.file.name := by
  refine List.Pairwise.filterMap _ ?_ hnames
  intro name other hlt document hdocument document' hdocument'
  obtain ⟨-, hreads, -⟩ := document?_eq_some.mp hdocument
  obtain ⟨-, hreads', -⟩ := document?_eq_some.mp hdocument'
  rwa [hreads.name_eq, hreads'.name_eq]

/-- Going through the names of a folder gives its documents. -/
theorem lists_documents (files : Files) (trail : Trail) (path : Path) :
    files.Lists trail path (files.documents trail path (files.names trail)) where
  ordered := pairwise_documents (files.pairwise_names trail)
  mem_iff document := by
    rw [documents, List.mem_filterMap]
    refine exists_congr fun name => ?_
    rw [document?_eq_some, and_iff_right_iff_imp]
    exact fun h => mem_names_of_document? (document?_eq_some.mpr h)

end Files

end SearchGateway
