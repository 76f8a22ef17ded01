import Mathlib.Data.List.TakeWhile
import Mathlib.Tactic
import SearchGateway.CommandLine.Grammar
import SearchGateway.Proofs.Outcome

/-!
# Reading words in two stages

The words of a command are read one after the other, so a command line can be read up to some place
and then on from there (`Grammar.Reads.read_append`), as long as no name waits for its value in that
place.  What is read from there on depends on what was read before only as far as the arguments do:
if they all agree with a change of what the words say, then so does the whole reading
(`Reading.Alike.consume`).
-/

set_option autoImplicit false

namespace SearchGateway.CommandLine

variable {σ : Type}

/-! ## What words are -/

/-- What the classification of a word, other than `--`, has to do with the word and the command. -/
def Word.Fits (g : Grammar σ) (word : String) : Word σ → Prop
  | .plain text => text = word
  | .separator => False
  | .named argument _ => argument ∈ g.named
  | .helpBefore argument => argument ∈ g.named
  | .unknown text => text = word

namespace Grammar

variable {g : Grammar σ} {argument : Named σ} {word : String}

theorem mem_named_of_mem {name : String} (h : (name, argument) ∈ g.allNames) :
    argument ∈ g.named := by
  obtain ⟨owner, howner, hmem⟩ := List.mem_flatMap.mp h
  obtain ⟨_, -, hentry⟩ := List.mem_map.mp hmem
  obtain ⟨-, rfl⟩ := Prod.ext_iff.mp hentry
  exact howner

theorem mem_named_of_lookup {name : String} (h : g.allNames.lookup name = some argument) :
    argument ∈ g.named := by
  obtain ⟨before, after, hnames, -⟩ := List.lookup_eq_some_iff.mp h
  exact mem_named_of_mem (hnames ▸ List.mem_append_right before (List.mem_cons_self ..))

theorem fits_helpWord {help : Named σ} (hhelp : help ∈ g.named) (letters : List Char) :
    (g.helpWord help letters).Fits g word := by
  induction letters generalizing help with
  | nil => exact hhelp
  | cons letter rest ih =>
    unfold helpWord
    split
    · exact hhelp
    · rename_i other hother
      have hknown := mem_named_of_lookup hother
      split
      · exact ih hknown
      · split
        · exact hknown
        · exact hhelp

theorem fits_letterWord (h : argument ∈ g.named) (attached : List Char) :
    (g.letterWord argument attached).Fits g word := by
  unfold letterWord
  split
  · exact fits_helpWord h _
  · exact h

theorem fits_strangeWord (g : Grammar σ) (word : String) : (strangeWord word).Fits g word := by
  unfold strangeWord
  split <;> rfl

theorem fits_of_classify {found : Word σ} (h : g.classify word = .ok found) :
    found.Fits g word := by
  unfold classify at h
  split at h
  case h_2 =>
    obtain rfl := Except.ok.inj h
    rfl
  case h_1 letter rest _ =>
    dsimp only at h
    split at h
    -- The word or what stands before its equals sign is a name.
    case h_1 hlookup =>
      obtain rfl := Except.ok.inj h
      exact mem_named_of_lookup hlookup
    case h_2 hlookup _ =>
      obtain rfl := Except.ok.inj h
      split
      · exact mem_named_of_lookup hlookup
      · exact fits_letterWord (mem_named_of_lookup hlookup) _
    case h_3 =>
      split at h
      · -- Or it begins some names.
        split at h
        case h_1 =>
          obtain rfl := Except.ok.inj h
          exact fits_strangeWord g word
        case h_2 hfilter =>
          obtain rfl := Except.ok.inj h
          exact mem_named_of_mem (List.mem_of_mem_filter (hfilter ▸ List.mem_singleton_self _))
        case h_3 => cases h
      · -- Or its first letter is one.
        split at h
        case h_1 hlookup =>
          obtain rfl := Except.ok.inj h
          exact fits_letterWord (mem_named_of_lookup hlookup) _
        case h_2 =>
          obtain rfl := Except.ok.inj h
          exact fits_strangeWord g word

/-- A word that does not start with a dash is plain. -/
theorem classify_of_head (h : word.toList.head? ≠ some '-') :
    g.classify word = .ok (.plain word) := by
  unfold classify
  split
  case h_1 hchars => exact absurd (congrArg List.head? hchars) h
  case h_2 => rfl

/-- A word that starts with one dash is strange if neither it nor its first letter is a name. -/
theorem classify_of_strange {letter : Char} {rest : List Char}
    (hchars : word.toList = '-' :: letter :: rest) (hdash : letter ≠ '-')
    (hequals : '=' ∉ word.toList) (hword : g.allNames.lookup word = none)
    (hletter : g.allNames.lookup (String.ofList ['-', letter]) = none) :
    g.classify word = .ok (strangeWord word) := by
  have hspan : word.toList.span (fun c => decide (c ≠ '=')) = (word.toList, []) := by
    have hall : ∀ c ∈ word.toList, decide (c ≠ '=') = true := fun c hc =>
      decide_eq_true fun heq => hequals (heq ▸ hc)
    rw [List.span_eq_takeWhile_dropWhile, List.takeWhile_eq_self_iff.mpr hall,
      List.dropWhile_eq_nil_iff.mpr hall]
  have hvalue : splitValue word = (word, none) := by
    rw [splitValue, hspan]
  unfold classify
  rw [hchars]
  simp only [hvalue, hword, hletter, if_neg hdash]

/-- A word is classified by itself, as long as no `--` has come. -/
theorem classifyAll_cons (hword : word ≠ "--") (rest : List String) :
    g.classifyAll (word :: rest) = do return (← g.classify word) :: (← g.classifyAll rest) := by
  rw [classifyAll, if_neg hword]

theorem exists_of_classifyAll_cons {rest : List String} {found : List (Word σ)}
    (hword : word ≠ "--") (h : g.classifyAll (word :: rest) = .ok found) :
    ∃ first others, g.classify word = .ok first ∧ g.classifyAll rest = .ok others ∧
      found = first :: others := by
  rw [classifyAll_cons hword] at h
  obtain ⟨first, hfirst, h⟩ := Except.bind_eq_ok_iff.mp h
  obtain ⟨others, hothers, h⟩ := Except.bind_eq_ok_iff.mp h
  exact ⟨first, others, hfirst, hothers, (Except.ok.inj h).symm⟩

/-- Of words before any `--` none is the first `--`. -/
theorem separator_notMem {words : List String} {found : List (Word σ)} (hwords : "--" ∉ words)
    (h : g.classifyAll words = .ok found) : Word.separator ∉ found := by
  induction words generalizing found with
  | nil =>
    obtain rfl := Except.ok.inj h
    exact List.not_mem_nil
  | cons word rest ih =>
    obtain ⟨hword, hrest⟩ := List.ne_and_not_mem_of_not_mem_cons hwords
    obtain ⟨first, others, hfirst, hothers, rfl⟩ := exists_of_classifyAll_cons (Ne.symm hword) h
    refine List.not_mem_cons_of_ne_of_not_mem ?_ (ih hrest hothers)
    rintro rfl
    exact fits_of_classify hfirst

/-- Words after others that have no `--` among them are classified as by themselves. -/
theorem classifyAll_append {words : List String} {found : List (Word σ)} (hwords : "--" ∉ words)
    (h : g.classifyAll words = .ok found) (more : List String) :
    g.classifyAll (words ++ more) = (g.classifyAll more).map (found ++ ·) := by
  induction words generalizing found with
  | nil =>
    obtain rfl := Except.ok.inj h
    cases hmore : g.classifyAll more <;> simp [hmore, Except.map]
  | cons word rest ih =>
    obtain ⟨hword, hrest⟩ := List.ne_and_not_mem_of_not_mem_cons hwords
    obtain ⟨first, others, hfirst, hothers, rfl⟩ := exists_of_classifyAll_cons (Ne.symm hword) h
    rw [List.cons_append, classifyAll_cons (Ne.symm hword), hfirst, ih hrest hothers]
    cases g.classifyAll more <;> rfl

/-- Every name among the words is the name of an argument of the command. -/
theorem mem_named_of_mem_classifyAll {words : List String} {found : List (Word σ)}
    (h : g.classifyAll words = .ok found) {value : Option String}
    (hmem : Word.named argument value ∈ found) : argument ∈ g.named := by
  induction words generalizing found with
  | nil =>
    obtain rfl := Except.ok.inj h
    cases hmem
  | cons word rest ih =>
    by_cases hword : word = "--"
    · rw [classifyAll, if_pos hword] at h
      obtain rfl := Except.ok.inj h
      simp at hmem
    · obtain ⟨first, others, hfirst, hothers, rfl⟩ := exists_of_classifyAll_cons hword h
      rcases List.mem_cons.mp hmem with rfl | hmem
      · exact fits_of_classify hfirst
      · exact ih hothers hmem

end Grammar

/-! ## Reading on -/

namespace Reading

section

variable {r t : Reading σ} {argument : Named σ} {set : Given String → σ → Except Flaw σ}

theorem before_place (r : Reading σ) (word : String) : (r.place word).before ≠ .separator := by
  unfold place
  split <;> exact nofun

theorem give_of_value (heffect : argument.effect = .value set) (text : String) :
    r.give argument text =
      match set (.ofText text) r.state with
      | .ok state =>
        .ok { r with state := state, given := argument.title :: r.given, before := .other }
      | .error flaw => .error (.misuse (.flawed argument.title flaw)) := by
  cases hset : set (.ofText text) r.state <;> simp only [give, heffect, hset]

/-- What a named argument with its value adds to what was read. -/
theorem exists_of_give {text : String} (h : r.give argument text = .ok t) :
    ∃ set state, argument.effect = .value set ∧ set (.ofText text) r.state = .ok state ∧
      t = { r with state := state, given := argument.title :: r.given, before := .other } := by
  cases heffect : argument.effect with
  | help =>
    rw [give, heffect] at h
    cases h
  | value set =>
    rw [give_of_value heffect] at h
    cases hset : set (.ofText text) r.state with
    | ok state =>
      rw [hset] at h
      exact ⟨set, state, rfl, hset, (Except.ok.inj h).symm⟩
    | error flaw =>
      rw [hset] at h
      cases h

/-- A name takes the next word for its value if that is a plain one. -/
theorem consume_named (heffect : argument.effect = .value set) (text : String)
    (rest : List (Word σ)) : consume (.named argument none :: .plain text :: rest) r =
      r.give argument text >>= consume rest := by
  unfold consume
  simp only [heffect]

end

/-- **Words are read one after the other**, if no `--` is among them. -/
theorem consume_append {words : List (Word σ)} {r t : Reading σ} (hwords : Word.separator ∉ words)
    (h : consume words r = .ok t) (more : List (Word σ)) :
    consume (words ++ more) r = consume more t ∧
      (r.before ≠ .separator → t.before ≠ .separator) := by
  fun_induction consume words r with
  | case1 r =>
    obtain rfl := Except.ok.inj h
    exact ⟨rfl, id⟩
  | case2 text rest r ih =>
    obtain ⟨hrest, hbefore⟩ := ih (List.not_mem_of_not_mem_cons hwords) h
    exact ⟨hrest, fun _ => hbefore (r.before_place text)⟩
  | case3 => exact absurd (List.mem_cons_self ..) hwords
  | case4 text rest r ih =>
    obtain ⟨hrest, hbefore⟩ := ih (List.not_mem_of_not_mem_cons hwords) h
    exact ⟨hrest, fun _ => hbefore nofun⟩
  | case5 argument text rest r ih =>
    obtain ⟨next, hgive, h⟩ := Except.bind_eq_ok_iff.mp h
    obtain ⟨hrest, hbefore⟩ := ih next (List.not_mem_of_not_mem_cons hwords) h
    obtain ⟨_, _, -, -, rfl⟩ := exists_of_give hgive
    refine ⟨?_, fun _ => hbefore nofun⟩
    rw [List.cons_append, consume, hgive]
    exact hrest
  | case7 argument r set text rest heffect ih =>
    obtain ⟨next, hgive, h⟩ := Except.bind_eq_ok_iff.mp h
    have hwords := List.not_mem_of_not_mem_cons (List.not_mem_of_not_mem_cons hwords)
    obtain ⟨hrest, hbefore⟩ := ih next hwords h
    obtain ⟨_, _, -, -, rfl⟩ := exists_of_give hgive
    refine ⟨?_, fun _ => hbefore nofun⟩
    rw [List.cons_append, List.cons_append, consume_named heffect, hgive]
    exact hrest
  | case6 => cases h
  | case8 => cases h
  | case9 => cases h
  | case10 => cases h

/-! ## Readings that differ -/

end Reading

/-- Giving an argument agrees with a change of what the words say: it makes no difference whether
the change comes before or after. -/
def Named.Respects (f : σ → σ) (argument : Named σ) : Prop :=
  ∀ set, argument.effect = .value set → ∀ given s, set given (f s) = (set given s).map f

/-- The same for a placed argument. -/
def Placed.Respects (f : σ → σ) (argument : Placed σ) : Prop :=
  ∀ given s, argument.set given (f s) = f (argument.set given s)

namespace Reading

/-- The readings are the same, but what the words say has changed, and there may be more names that
were given. -/
structure Alike (f : σ → σ) (r r' : Reading σ) : Prop where
  state : r'.state = f r.state
  awaited : r'.awaited = r.awaited
  given : r.given ⊆ r'.given
  unknown : r'.unknown = r.unknown
  before : r'.before = r.before
  respects : ∀ argument ∈ r.awaited, argument.Respects f

namespace Alike

variable {f : σ → σ} {r r' t : Reading σ}

theorem skip (h : Alike f r r') (word : String) : Alike f (r.skip word) (r'.skip word) :=
  ⟨h.state, h.awaited, h.given, congrArg (· ++ [word]) h.unknown, rfl, h.respects⟩

theorem place (h : Alike f r r') (word : String) : Alike f (r.place word) (r'.place word) := by
  unfold Reading.place
  rw [h.awaited]
  cases hawaited : r.awaited with
  | nil => exact h.skip word
  | cons argument rest =>
    have hrespects := h.respects
    rw [hawaited] at hrespects
    obtain ⟨hfirst, hrest⟩ := List.forall_mem_cons.mp hrespects
    refine ⟨?_, rfl, h.given, h.unknown, rfl, hrest⟩
    show argument.set _ r'.state = f (argument.set _ r.state)
    rw [h.before, h.state, hfirst]

theorem separate (h : Alike f r r') (isLast : Bool) :
    Alike f (r.separate isLast) (r'.separate isLast) := by
  unfold Reading.separate
  rw [h.before, h.awaited]
  split
  · exact ⟨h.state, rfl, h.given, h.unknown, rfl, h.respects⟩
  · exact h.skip "--"
  · split
    · exact h.skip "--"
    · exact ⟨h.state, rfl, h.given, h.unknown, rfl, h.respects⟩

theorem give {argument : Named σ} {text : String} (h : Alike f r r')
    (hargument : argument.Respects f) (hgive : r.give argument text = .ok t) :
    ∃ t', r'.give argument text = .ok t' ∧ Alike f t t' := by
  obtain ⟨set, state, heffect, hset, rfl⟩ := exists_of_give hgive
  refine ⟨{ r' with state := f state, given := argument.title :: r'.given, before := .other }, ?_,
    rfl, h.awaited, List.cons_subset_cons _ h.given, h.unknown, rfl, h.respects⟩
  rw [give_of_value heffect, h.state, hargument set heffect, hset]
  rfl

/-- **If all arguments agree with a change, then so does the whole reading.** -/
theorem consume {words : List (Word σ)} (h : Alike f r r')
    (hnamed : ∀ argument value, Word.named argument value ∈ words → argument.Respects f)
    (hrun : Reading.consume words r = .ok t) :
    ∃ t', Reading.consume words r' = .ok t' ∧ Alike f t t' := by
  have hlater {word : Word σ} {rest : List (Word σ)}
      (hnamed : ∀ argument value, Word.named argument value ∈ word :: rest → argument.Respects f)
      (argument : Named σ) (value : Option String) (hmem : Word.named argument value ∈ rest) :
      argument.Respects f := hnamed argument value (List.mem_cons_of_mem word hmem)
  fun_induction Reading.consume words r generalizing r' with
  | case1 r =>
    obtain rfl := Except.ok.inj hrun
    exact ⟨r', rfl, h⟩
  | case2 text rest r ih => exact ih (h.place text) (hlater hnamed) hrun
  | case3 rest r ih => exact ih (h.separate _) (hlater hnamed) hrun
  | case4 text rest r ih => exact ih (h.skip text) (hlater hnamed) hrun
  | case5 argument text rest r ih =>
    obtain ⟨next, hgive, hrun⟩ := Except.bind_eq_ok_iff.mp hrun
    obtain ⟨next', hgive', hnext⟩ := h.give (hnamed _ _ (List.mem_cons_self ..)) hgive
    rw [Reading.consume, hgive']
    exact ih next hnext (hlater hnamed) hrun
  | case7 argument r set text rest heffect ih =>
    obtain ⟨next, hgive, hrun⟩ := Except.bind_eq_ok_iff.mp hrun
    obtain ⟨next', hgive', hnext⟩ := h.give (hnamed _ _ (List.mem_cons_self ..)) hgive
    rw [consume_named heffect, hgive']
    exact ih next hnext (hlater (hlater hnamed)) hrun
  | case6 => cases hrun
  | case8 => cases hrun
  | case9 => cases hrun
  | case10 => cases hrun

end Alike

/-- Words that do not begin with `--` do not ask what came right before them. -/
theorem consume_before {word : Word σ} (hword : word ≠ .separator) (rest : List (Word σ))
    {r : Reading σ} {before : Before} (hr : r.before ≠ .separator) (hbefore : before ≠ .separator) :
    consume (word :: rest) { r with before := before } = consume (word :: rest) r := by
  obtain ⟨state, awaited, given, unknown, previous⟩ := r
  cases word with
  | separator => exact absurd rfl hword
  | plain text =>
    have hplace : Reading.place ⟨state, awaited, given, unknown, before⟩ text =
        Reading.place ⟨state, awaited, given, unknown, previous⟩ text := by
      cases awaited with
      | nil => rfl
      | cons argument rest => simp only [place, if_neg hr, if_neg hbefore]
    rw [consume, consume, hplace]
  | unknown text => rfl
  | helpBefore argument => rfl
  | named argument value =>
    have hgive (text : String) :
        Reading.give ⟨state, awaited, given, unknown, before⟩ argument text =
          Reading.give ⟨state, awaited, given, unknown, previous⟩ argument text := rfl
    cases value with
    | some text => rw [consume, consume, hgive]
    | none =>
      unfold consume
      simp only [hgive]

end Reading

/-! ## The words of a command -/

namespace Grammar

variable {g : Grammar σ}

/-- What is read before the first word. -/
def opening (g : Grammar σ) (start : σ) : Reading σ := ⟨start, g.placed, [], [], .other⟩

/-- What comes of further words. -/
def readOn (g : Grammar σ) (r : Reading σ) (words : List String) : Except Halt (σ × List String) :=
  match g.classifyAll words with
  | .error problem => .error (.misuse problem)
  | .ok found => do
    let r ← Reading.consume found r
    match g.missing r with
    | [] => .ok (r.state, r.unknown)
    | titles => .error (.misuse (.missing titles))

/-- The words can be read to their end: none of them is `--`, and none is a name that still waits
for its value. -/
structure Reads (g : Grammar σ) (start : σ) (words : List String) (r : Reading σ) : Prop where
  separator : "--" ∉ words
  run : ∃ found, g.classifyAll words = .ok found ∧
    Reading.consume found (g.opening start) = .ok r

section

variable {start : σ} {words : List String} {r r' : Reading σ}

/-- **A command line can be read up to some place and then on from there.** -/
theorem Reads.read_append (h : g.Reads start words r) (more : List String) :
    g.read start (words ++ more) = g.readOn r more := by
  obtain ⟨hwords, found, hfound, hrun⟩ := h
  have hsame (others : List (Word σ)) : Reading.consume (found ++ others) (g.opening start) =
      Reading.consume others r :=
    (Reading.consume_append (separator_notMem hwords hfound) hrun others).1
  show g.readOn (g.opening start) (words ++ more) = _
  rw [readOn, readOn, classifyAll_append hwords hfound]
  cases g.classifyAll more with
  | error problem => rfl
  | ok others =>
    simp only [Except.map, hsame]

theorem Reads.before_ne (h : g.Reads start words r) : r.before ≠ .separator := by
  obtain ⟨hwords, found, hfound, hrun⟩ := h
  exact (Reading.consume_append (separator_notMem hwords hfound) hrun []).2 nofun

variable {f : σ → σ}

/-- From a changed start the words are read to a changed end. -/
theorem Reads.exists_alike (h : g.Reads start words r)
    (hnamed : ∀ argument ∈ g.named, argument.Respects f)
    (hplaced : ∀ argument ∈ g.placed, argument.Respects f) :
    ∃ t, g.Reads (f start) words t ∧ Reading.Alike f r t := by
  obtain ⟨hwords, found, hfound, hrun⟩ := h
  have hstart : Reading.Alike f (g.opening start) (g.opening (f start)) :=
    ⟨rfl, rfl, List.Subset.refl _, rfl, rfl, hplaced⟩
  obtain ⟨t, ht, halike⟩ := hstart.consume
    (fun argument _ hmem => hnamed argument (mem_named_of_mem_classifyAll hfound hmem)) hrun
  exact ⟨t, ⟨hwords, found, hfound, ht⟩, halike⟩

/-- What is missing after fewer names were given is missing after more. -/
theorem missing_of_alike (h : Reading.Alike f r r') (hmissing : g.missing r = []) :
    g.missing r' = [] := by
  obtain ⟨hplaced, hnamed⟩ := List.append_eq_nil_iff.mp hmissing
  refine List.append_eq_nil_iff.mpr ⟨h.awaited ▸ hplaced, ?_⟩
  rw [List.filter_eq_nil_iff] at hnamed ⊢
  intro title htitle
  have hgiven : title ∈ r.given := by simpa using hnamed title htitle
  simpa using h.given hgiven

/-- **Further words after a changed beginning say the same, with the change.** -/
theorem readOn_of_alike {s : σ} {unknown : List String} (h : Reading.Alike f r r')
    (hnamed : ∀ argument ∈ g.named, argument.Respects f)
    (hread : g.readOn r words = .ok (s, unknown)) : g.readOn r' words = .ok (f s, unknown) := by
  unfold readOn at hread ⊢
  cases hfound : g.classifyAll words with
  | error problem =>
    rw [hfound] at hread
    cases hread
  | ok found =>
    rw [hfound] at hread
    obtain ⟨t, hrun, hread⟩ := Except.bind_eq_ok_iff.mp hread
    obtain ⟨t', hrun', halike⟩ := h.consume
      (fun argument _ hmem => hnamed argument (mem_named_of_mem_classifyAll hfound hmem)) hrun
    split at hread
    case h_2 => cases hread
    case h_1 hmissing =>
      obtain ⟨rfl, rfl⟩ := Prod.mk.inj (Except.ok.inj hread)
      simp only [hrun', missing_of_alike halike hmissing, halike.state, halike.unknown, bind,
        Except.bind]

/-- Words that do not begin with `--` do not ask what came right before them. -/
theorem readOn_before {before : Before} (hwords : words.head? ≠ some "--")
    (hr : r.before ≠ .separator) (hbefore : before ≠ .separator) :
    g.readOn { r with before := before } words = g.readOn r words := by
  cases words with
  | nil => rfl
  | cons word rest =>
    have hword : word ≠ "--" := fun h => hwords (congrArg some h)
    unfold readOn
    cases hfound : g.classifyAll (word :: rest) with
    | error problem => rfl
    | ok found =>
      obtain ⟨first, others, hfirst, -, rfl⟩ := exists_of_classifyAll_cons hword hfound
      have hseparator : first ≠ .separator := by
        rintro rfl
        exact fits_of_classify hfirst
      simp only [Reading.consume_before hseparator others hr hbefore]

/-! ### A name and its value -/

variable {name value : String} {argument : Named σ} {set : Given String → σ → Except Flaw σ}

/-- A name with a plain word behind it is read at once. -/
theorem readOn_named (hname : g.classify name = .ok (.named argument none)) (hsep : name ≠ "--")
    (hvalue : g.classify value = .ok (.plain value)) (hplain : value ≠ "--")
    (heffect : argument.effect = .value set) (hgive : r.give argument value = .ok r') :
    g.readOn r (name :: value :: words) = g.readOn r' words := by
  unfold readOn
  rw [classifyAll_cons hsep, classifyAll_cons hplain, hname, hvalue]
  cases g.classifyAll words with
  | error problem => rfl
  | ok found =>
    show (Reading.consume (.named argument none :: .plain value :: found) r >>= _) = _
    rw [Reading.consume_named heffect, hgive]
    rfl

/-- A name with its value attached is read at once. -/
theorem readOn_attached (hname : g.classify name = .ok (.named argument (some value)))
    (hsep : name ≠ "--") (hgive : r.give argument value = .ok r') :
    g.readOn r (name :: words) = g.readOn r' words := by
  unfold readOn
  rw [classifyAll_cons hsep, hname]
  cases g.classifyAll words with
  | error problem => rfl
  | ok found =>
    show (Reading.consume (.named argument (some value) :: found) r >>= _) = _
    rw [Reading.consume, hgive]
    rfl

/-- A name is refused if the next word is not a plain one, or not one that it takes. -/
theorem exists_misuse_of_named (hname : g.classify name = .ok (.named argument none))
    (hsep : name ≠ "--") (heffect : argument.effect = .value set)
    (hvalue : value ≠ "--" → g.classify value = .ok (.plain value) →
      ∃ flaw, set (.ofText value) r.state = .error flaw) :
    ∃ problem, g.readOn r (name :: value :: words) = .error (.misuse problem) := by
  unfold readOn
  rw [classifyAll_cons hsep, hname]
  cases hfound : g.classifyAll (value :: words) with
  | error problem => exact ⟨problem, rfl⟩
  | ok found =>
    show ∃ problem, (Reading.consume (.named argument none :: found) r >>= _) = _
    by_cases hplain : value = "--"
    · rw [classifyAll, if_pos hplain] at hfound
      obtain rfl := Except.ok.inj hfound
      refine ⟨.flawed argument.title .missingValue, ?_⟩
      unfold Reading.consume
      simp only [heffect]
      rfl
    · obtain ⟨first, others, hfirst, -, rfl⟩ := exists_of_classifyAll_cons hplain hfound
      cases first with
      | plain text =>
        obtain rfl : text = value := fits_of_classify hfirst
        obtain ⟨flaw, hflaw⟩ := hvalue hplain hfirst
        refine ⟨.flawed argument.title flaw, ?_⟩
        rw [Reading.consume_named heffect, Reading.give_of_value heffect, hflaw]
        rfl
      | _ =>
        refine ⟨.flawed argument.title .missingValue, ?_⟩
        unfold Reading.consume
        simp only [heffect]
        rfl

end

end Grammar

end SearchGateway.CommandLine
