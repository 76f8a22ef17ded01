import SearchGateway.Files
import SearchGateway.Proofs.Text.Splitting

/-!
# Where paths lead

A path is read back from its text (`Path.ofString_toString`).  Every folder is found by its path,
whether that starts at the root or leads on from the working folder (`Files.folder?_of_isFolder`).
-/

set_option autoImplicit false

namespace SearchGateway

/-! ## Paths and their texts -/

namespace Path

/-- What every path consists of that is read from a text. -/
structure IsPlain (path : Path) : Prop where
  root : path.root = "" ∨ path.root = "/" ∨ path.root = "//"
  names : ∀ name ∈ path.names, name ≠ "" ∧ name ≠ "." ∧ '/' ∉ name.toList

theorem ofString_eq (s : String) : ofString s =
    ⟨rootOf s.toList, ((s.toList.splitOn '/').map String.ofList).filter
      fun name => name ≠ "" ∧ name ≠ "."⟩ := by
  rw [ofString, ← Text.splitOn_ofList]

/-- The names between slashes, after some more slashes. -/
theorem filter_splitOn_replicate {names : List String} (hne : names ≠ [])
    (hnames : ∀ name ∈ names, name ≠ "" ∧ name ≠ "." ∧ '/' ∉ name.toList) (n : ℕ) :
    ((List.splitOn '/' (List.replicate n '/' ++ ("/".intercalate names).toList)).map
      String.ofList).filter (fun name => name ≠ "" ∧ name ≠ ".") = names := by
  induction n with
  | zero =>
    rw [List.replicate_zero, List.nil_append, String.toList_intercalate]
    show ((List.splitOn '/' (['/'].intercalate _)).map _).filter _ = _
    rw [List.splitOn_intercalate]
    · simpa using fun name hname => (hnames name hname).imp_right And.left
    · intro cs hcs
      obtain ⟨name, hname, rfl⟩ := List.mem_map.mp hcs
      exact (hnames name hname).2.2
    · simpa using hne
  | succ n ih =>
    have hcut := List.splitOn_append_cons_self (a := '/') []
      (List.replicate n '/' ++ ("/".intercalate names).toList)
    rw [List.nil_append] at hcut
    rw [List.replicate_succ, List.cons_append, hcut]
    simpa using ih

/-- A name does not begin with a slash, so names do not make a difference to the root. -/
theorem rootOf_replicate {names : List String}
    (hnames : ∀ name ∈ names, name ≠ "" ∧ name ≠ "." ∧ '/' ∉ name.toList) (n : ℕ) :
    rootOf (List.replicate n '/' ++ ("/".intercalate names).toList) =
      rootOf (List.replicate n '/') := by
  suffices hnone : ("/".intercalate names).toList.takeWhile (· == '/') = [] by
    rw [rootOf, rootOf, List.takeWhile_append_of_pos (by simp), hnone, List.append_nil,
      List.takeWhile_replicate, if_pos (by rfl)]
  cases names with
  | nil => simp
  | cons first rest =>
    obtain ⟨hfirst, -, hslash⟩ := hnames first List.mem_cons_self
    obtain ⟨c, cs, hc⟩ := List.exists_cons_of_ne_nil (String.toList_eq_nil_iff.not.mpr hfirst)
    have hbegins : ∃ more, ("/".intercalate (first :: rest)).toList = c :: more := by
      cases rest with
      | nil => exact ⟨cs, by simp [hc]⟩
      | cons second rest =>
        rw [String.intercalate_cons_cons, String.toList_append, String.toList_append, hc]
        exact ⟨_, rfl⟩
    obtain ⟨more, hmore⟩ := hbegins
    have hne : (c == '/') = false := by
      rw [beq_eq_false_iff_ne]
      rintro rfl
      exact hslash (by rw [hc]; exact List.mem_cons_self)
    rw [hmore, List.takeWhile_cons_of_neg (by simp [hne])]

/-- **A path is read back from its text.** -/
theorem ofString_toString {path : Path} (h : path.IsPlain) : ofString path.toString = path := by
  obtain ⟨root, names⟩ := path
  obtain ⟨hroot, hnames⟩ := h
  obtain rfl | hne := eq_or_ne names []
  · rcases hroot with rfl | rfl | rfl <;> rw [ofString_eq] <;> decide
  · have htext : (toString ⟨root, names⟩).toList =
        root.toList ++ ("/".intercalate names).toList := by
      simp [toString, hne]
    have hread (n : ℕ) (hslashes : root.toList = List.replicate n '/')
        (hrootOf : rootOf (List.replicate n '/') = root) :
        ofString (toString ⟨root, names⟩) = ⟨root, names⟩ := by
      rw [ofString_eq, htext, hslashes, filter_splitOn_replicate hne hnames,
        rootOf_replicate hnames, hrootOf]
    rcases hroot with rfl | rfl | rfl
    · exact hread 0 rfl rfl
    · exact hread 1 rfl rfl
    · exact hread 2 rfl rfl

end Path

/-! ## Folders -/

namespace Files

variable {files : Files} {trail : Trail}

/-- What holds a folder is a folder. -/
theorem isFolder_of_append {more : Trail} (h : files.isFolder (trail ++ more) = true) :
    files.isFolder trail = true := by
  obtain rfl | hne := eq_or_ne more []
  · rwa [List.append_nil] at h
  · rw [isFolder, List.isEmpty_eq_false_iff.mpr (by simp [hne]), Bool.false_or,
      List.any_eq_true] at h
    obtain ⟨⟨t, entry⟩, hlisted, hbegins⟩ := h
    rw [isFolder, Bool.or_eq_true, List.any_eq_true]
    refine .inr ⟨(t, entry), hlisted, ?_⟩
    have hbelow (hmore : (trail ++ more).isPrefixOf t = true) :
        trail <+: t ∧ trail.length < t.length := by
      have hlonger := List.isPrefixOf_iff_prefix.mp hmore
      have hlength := hlonger.length_le
      rw [List.length_append] at hlength
      have hpos := List.length_pos_iff.mpr hne
      exact ⟨(List.prefix_append _ _).trans hlonger, by omega⟩
    cases entry with
    | folder => exact List.isPrefixOf_iff_prefix.mpr (hbelow hbegins).1
    | file entry =>
      rw [Bool.and_eq_true] at hbegins
      obtain ⟨hhere, hlength⟩ := hbelow hbegins.1
      simpa using ⟨hhere, hlength⟩

/-- Steps down lead to a folder that is there. -/
theorem enter_of_isFolder {names : List String} (h : files.isFolder (trail ++ names) = true)
    (hnames : ∀ name ∈ names, name ≠ ".." ∧ name.utf8ByteSize ≤ longestName) :
    files.enter trail names = .ok (some (trail ++ names)) := by
  induction names generalizing trail with
  | nil =>
    rw [List.append_nil] at h ⊢
    rw [enter, if_pos h]
  | cons name rest ih =>
    obtain ⟨⟨hup, hlength⟩, hrest⟩ := List.forall_mem_cons.mp hnames
    rw [enter, isFolder_of_append h, if_neg (by decide), if_neg hup, if_neg hlength.not_gt]
    rw [ih (by rwa [List.append_assoc]) hrest, List.append_assoc, List.singleton_append]

/-- **A folder is found by its path**, from the root or from the working folder. -/
theorem folder?_of_isFolder {path : Path} (h : files.isFolder (path.trailFrom files.working) = true)
    (hnames : ∀ name ∈ path.names, name ≠ ".." ∧ name.utf8ByteSize ≤ longestName)
    (hreach : path.toString.utf8ByteSize ≤ longestPath)
    (hnul : path.toString.contains '\x00' = false) :
    files.folder? path = .ok (some (path.trailFrom files.working)) := by
  rw [folder?, if_neg (by simpa using hnul), if_neg hreach.not_gt]
  unfold Path.trailFrom at h ⊢
  split
  next hrelative =>
    rw [if_pos hrelative] at h
    exact enter_of_isFolder h hnames
  next habsolute =>
    rw [if_neg habsolute] at h
    exact enter_of_isFolder h hnames

end Files

end SearchGateway
