import Mathlib.Data.List.TakeWhile
import Mathlib.Tactic
import SearchGateway.Exchange
import SearchGateway.Url.Basic

/-!
# Segments of URLs

The path of a URL stands behind scheme and authority and goes up to the first question mark or
number sign; its segments are what stands behind each of its slashes (`Url.segments`).  A request is
sent to an address with a path put to it.  That adds to the path of the address, unless the path of
the address is at its end already (`Url.empty_mem_segments_append_iff`).
-/

set_option autoImplicit false

namespace SearchGateway

namespace Url

/-! ## Paths and their segments -/

/-- The characters that end a path. -/
def pathEnds : List Char := ['?', '#']

/-- What stands behind scheme and authority of a URL. -/
def behindAuthority (cs : List Char) : List Char :=
  (splitMarked ['/', '/'] ['/', '?', '#'] (splitScheme cs).2).2

/-- The path that a text begins with. -/
def pathOf (cs : List Char) : List Char := cs.takeWhile fun c => c ∉ pathEnds

/-- What stands behind each slash of a path. -/
def steps (path : List Char) : List (List Char) := (path.splitOn '/').tail

/-- The segments of the path of a URL, as it is written. -/
def segments (url : String) : List String :=
  (steps (pathOf (behindAuthority url.toList))).map String.ofList

example : segments "https://host:9200/notes,drafts/_search?size=1" = ["notes,drafts", "_search"] :=
  by decide

example : segments "https://host/?/_search" = [""] := by decide

theorem empty_mem_segments_iff {url : String} :
    "" ∈ segments url ↔ [] ∈ steps (pathOf (behindAuthority url.toList)) := by
  rw [segments, List.mem_map]
  constructor
  · rintro ⟨cs, hcs, hempty⟩
    rwa [String.ofList_eq_empty_iff.mp hempty] at hcs
  · exact fun h => ⟨[], h, rfl⟩

theorem pathOf_eq_self {cs : List Char} (h : ∀ c ∈ pathEnds, c ∉ cs) : pathOf cs = cs :=
  List.takeWhile_eq_self_iff.mpr fun c hc => decide_eq_true fun hend => h c hend hc

/-- A path goes on in what is put to it. -/
theorem pathOf_append_of_not_mem {cs : List Char} (h : ∀ c ∈ pathEnds, c ∉ cs) (more : List Char) :
    pathOf (cs ++ more) = cs ++ pathOf more :=
  List.takeWhile_append_of_pos fun c hc => decide_eq_true fun hend => h c hend hc

/-- A path that is at its end does not. -/
theorem pathOf_append_of_mem {cs : List Char} (h : ¬∀ c ∈ pathEnds, c ∉ cs) (more : List Char) :
    pathOf (cs ++ more) = pathOf cs := by
  rw [pathOf, List.takeWhile_append, if_neg, pathOf]
  intro hlength
  refine h fun c hend hc => ?_
  have hall := List.takeWhile_eq_self_iff.mp ((List.takeWhile_prefix _).eq_of_length hlength)
  exact of_decide_eq_true (hall c hc) hend

theorem steps_append (path more : List Char) :
    steps (path ++ '/' :: more) = steps path ++ more.splitOn '/' := by
  rw [steps, List.splitOn_append_cons_self, List.tail_append_of_ne_nil (List.splitOn_ne_nil _ _),
    steps]

/-! ## Scheme and authority -/

/-- What is taken from the front of a list does not depend on what stands behind a stop. -/
theorem takeWhile_append_stop {α : Type} {p : α → Bool} {stop : α} (h : p stop = false)
    (front behind : List α) : (front ++ stop :: behind).takeWhile p = front.takeWhile p := by
  rw [List.takeWhile_append, List.takeWhile_cons_of_neg (by simp [h]), List.append_nil]
  split
  next hlength => exact ((List.takeWhile_prefix _).eq_of_length hlength).symm
  next => rfl

theorem dropWhile_append_stop {α : Type} {p : α → Bool} {stop : α} (h : p stop = false)
    (front behind : List α) :
    (front ++ stop :: behind).dropWhile p = front.dropWhile p ++ stop :: behind := by
  rw [List.dropWhile_append, List.dropWhile_cons_of_neg (by simp [h])]
  split
  next hempty => rw [List.isEmpty_iff.mp hempty, List.nil_append]
  next => rfl

/-- Whether a URL names a host. -/
def HasAuthority (cs : List Char) : Prop := ['/', '/'] <+: (splitScheme cs).2

/-- A slash is not a part of a scheme, so what stands behind one makes no difference. -/
theorem splitScheme_append (cs more : List Char) :
    splitScheme (cs ++ '/' :: more) = ((splitScheme cs).1, (splitScheme cs).2 ++ '/' :: more) := by
  set isScheme := fun c : Char => c.isAlphanum || c ∈ ['+', '.', '-'] with hisScheme
  have hslash : isScheme '/' = false := by decide
  unfold splitScheme
  rw [← hisScheme]
  dsimp only
  rw [takeWhile_append_stop hslash, dropWhile_append_stop hslash]
  cases cs.dropWhile isScheme with
  | nil => cases (cs.takeWhile isScheme).head?.any (!·.isAlpha) <;> rfl
  | cons c rest =>
    cases (cs.takeWhile isScheme).head?.any (!·.isAlpha) with
    | true => rfl
    | false =>
      by_cases hc : c = ':'
      · subst hc
        rfl
      · simp [hc]

/-- What is taken for a scheme has nothing in it but characters of schemes, and a colon behind
it. -/
theorem splitScheme_cases (cs : List Char) :
    (∃ scheme rest, cs = scheme ++ ':' :: rest ∧ splitScheme cs = (scheme, rest) ∧
      ∀ c ∈ scheme, (c.isAlphanum || c ∈ ['+', '.', '-']) = true) ∨ splitScheme cs = ([], cs) := by
  unfold splitScheme
  dsimp only
  split
  next rest _ hrest =>
    refine .inl ⟨_, rest, ?_, rfl, fun c hc => ?_⟩
    · rw [← hrest, List.takeWhile_append_dropWhile]
    · have hscheme := List.mem_takeWhile_imp hc
      exact hscheme
  next => exact .inr rfl

/-- What stands before the path has none of the characters that end a path. -/
theorem exists_eq_append_behindAuthority (cs : List Char) :
    ∃ front, cs = front ++ behindAuthority cs ∧ ∀ c ∈ pathEnds, c ∉ front := by
  have hscheme : ∃ front, cs = front ++ (splitScheme cs).2 ∧ ∀ c ∈ pathEnds, c ∉ front := by
    rcases splitScheme_cases cs with ⟨scheme, rest, rfl, hsplit, hscheme⟩ | hsplit
    · rw [hsplit]
      refine ⟨scheme ++ [':'], by simp, fun c hend hc => ?_⟩
      obtain ⟨hnot, hcolon⟩ : (c.isAlphanum || c ∈ ['+', '.', '-']) = false ∧ c ≠ ':' := by
        rcases List.mem_pair.mp hend with rfl | rfl <;> decide
      rcases List.mem_append.mp hc with hmem | hmem
      · exact absurd (hscheme c hmem) (by rw [hnot]; decide)
      · exact hcolon (List.mem_singleton.mp hmem)
    · rw [hsplit]
      exact ⟨[], rfl, fun _ _ => List.not_mem_nil⟩
  have hmarked (rest : List Char) : ∃ front,
      rest = front ++ (splitMarked ['/', '/'] ['/', '?', '#'] rest).2 ∧
        ∀ c ∈ pathEnds, c ∉ front := by
    unfold splitMarked
    split
    next hmark =>
      obtain ⟨behind, rfl⟩ := List.isPrefixOf_iff_prefix.mp hmark
      rw [List.drop_left, List.span_eq_takeWhile_dropWhile]
      refine ⟨['/', '/'] ++ behind.takeWhile (fun c => c ∉ ['/', '?', '#']), ?_, ?_⟩
      · rw [List.append_assoc, List.takeWhile_append_dropWhile]
      · intro c hend hc
        rcases List.mem_append.mp hc with hmem | hmem
        · have hplain : c ∉ ['/', '/'] := by
            rcases List.mem_pair.mp hend with rfl | rfl <;> decide
          exact hplain hmem
        · have hhost := List.mem_takeWhile_imp hmem
          exact of_decide_eq_true hhost (List.mem_cons_of_mem _ hend)
    next => exact ⟨[], rfl, fun _ _ => List.not_mem_nil⟩
  obtain ⟨first, hfirst, hnone⟩ := hscheme
  obtain ⟨second, hsecond, hnone'⟩ := hmarked (splitScheme cs).2
  refine ⟨first ++ second, ?_, fun c hend hc => ?_⟩
  · rw [List.append_assoc, behindAuthority, ← hsecond, ← hfirst]
  · exact (List.mem_append.mp hc).elim (hnone c hend) (hnone' c hend)

/-- A path can only be ended behind scheme and authority. -/
theorem ends_behindAuthority_iff {cs : List Char} :
    (∀ c ∈ pathEnds, c ∉ behindAuthority cs) ↔ ∀ c ∈ pathEnds, c ∉ cs := by
  obtain ⟨front, hcs, hfront⟩ := exists_eq_append_behindAuthority cs
  refine forall_congr' fun c => forall_congr' fun hend => not_congr ?_
  conv_rhs => rw [hcs]
  rw [List.mem_append, or_iff_right (hfront c hend)]

/-- What is put to a URL that names a host goes on behind the authority. -/
theorem behindAuthority_append {cs : List Char} (h : HasAuthority cs) (more : List Char) :
    behindAuthority (cs ++ '/' :: more) = behindAuthority cs ++ '/' :: more := by
  obtain ⟨behind, hbehind⟩ := h
  have hmarked (host : List Char) : (splitMarked ['/', '/'] ['/', '?', '#']
      (['/', '/'] ++ host)).2 = host.dropWhile (fun c => c ∉ ['/', '?', '#']) := by
    rw [splitMarked, if_pos (List.isPrefixOf_iff_prefix.mpr (List.prefix_append _ _)),
      List.drop_left, List.span_eq_takeWhile_dropWhile]
  rw [behindAuthority, behindAuthority, splitScheme_append]
  dsimp only
  rw [← hbehind, List.append_assoc, hmarked, hmarked, dropWhile_append_stop (by decide)]

/-- What stands behind the authority brings its empty segments along, and unless a path ends in it
so does what is put to it. -/
theorem empty_mem_steps_append_iff (cs more : List Char) :
    [] ∈ steps (pathOf (cs ++ '/' :: more)) ↔ [] ∈ steps (pathOf cs) ∨
      (∀ c ∈ pathEnds, c ∉ cs) ∧ [] ∈ (pathOf more).splitOn '/' := by
  by_cases h : ∀ c ∈ pathEnds, c ∉ cs
  · have hslash : pathOf ('/' :: more) = '/' :: pathOf more := rfl
    rw [pathOf_append_of_not_mem h, hslash, steps_append, List.mem_append, and_iff_right h,
      pathOf_eq_self h]
  · rw [pathOf_append_of_mem h, or_iff_left (fun hboth => h hboth.1)]

end Url

/-! ## Where requests go -/

theorem exists_eq_withoutSlashes_append (address : String) :
    ∃ slashes, address.toList = (withoutSlashes address).toList ++ slashes ∧
      ∀ c ∈ slashes, c = '/' := by
  refine ⟨(address.toList.reverse.takeWhile (· == '/')).reverse, ?_, fun c hc => ?_⟩
  · rw [withoutSlashes, String.toList_ofList, ← List.reverse_append,
      List.takeWhile_append_dropWhile, List.reverse_reverse]
  · have hslash := List.mem_takeWhile_imp (List.mem_reverse.mp hc)
    exact eq_of_beq hslash

namespace Connection

variable (connection : Connection) (path : String)

/-- The path of an address ends before what is put to it. -/
theorem ends_withoutSlashes_iff :
    (∀ c ∈ Url.pathEnds, c ∉ Url.behindAuthority (withoutSlashes connection.address).toList) ↔
      ∀ c ∈ Url.pathEnds, c ∉ connection.address.toList := by
  obtain ⟨slashes, haddress, hslashes⟩ := exists_eq_withoutSlashes_append connection.address
  rw [Url.ends_behindAuthority_iff]
  refine forall_congr' fun c => forall_congr' fun hend => not_congr ?_
  rw [haddress, List.mem_append, or_iff_left]
  intro hc
  rw [hslashes c hc] at hend
  exact absurd hend (by decide)

/-- The address brings an empty segment into the URL of a request, or what is put to it does. -/
def BringsEmpty : Prop :=
  "" ∈ Url.segments (withoutSlashes connection.address) ∨
    (∀ c ∈ Url.pathEnds, c ∉ connection.address.toList) ∧
      [] ∈ (Url.pathOf path.toList).splitOn '/'

theorem bringsEmpty_iff : connection.BringsEmpty path ↔ [] ∈ Url.steps (Url.pathOf
    (Url.behindAuthority (withoutSlashes connection.address).toList ++ '/' :: path.toList)) := by
  rw [Url.empty_mem_steps_append_iff, ← Url.empty_mem_segments_iff, ends_withoutSlashes_iff,
    BringsEmpty]

theorem toList_url : (connection.url ("/" ++ path)).toList =
    (withoutSlashes connection.address).toList ++ '/' :: path.toList := by
  rw [url, String.toList_append, String.toList_append]
  rfl

/-- **An address that names a host brings its empty segments into the URL of a request, and so does
the path.** -/
theorem empty_mem_segments_iff
    (h : Url.HasAuthority (withoutSlashes connection.address).toList) :
    "" ∈ Url.segments (connection.url ("/" ++ path)) ↔ connection.BringsEmpty path := by
  rw [Url.empty_mem_segments_iff, toList_url, Url.behindAuthority_append h, bringsEmpty_iff]

end Connection

end SearchGateway
