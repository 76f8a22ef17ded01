import SearchGateway.Proofs.Json.Numbers
import SearchGateway.Proofs.Json.Texts

/-!
# Values in JSON text

A value that is written is read back (`parse_render`), in any layout whose separators are those of
JSON.  Three things could get in the way, and each is a condition: an integer with more digits than
are read (`Json.isWritable`), arrays and objects deeper inside each other than are read, and a key
that an object gives twice (`Json.fits` for both).
-/

set_option autoImplicit false

namespace SearchGateway

namespace Association

variable {κ α : Type} [DecidableEq κ]

theorem put_of_not_mem {key : κ} {value : α} {entries : List (κ × α)}
    (h : key ∉ entries.map Prod.fst) : put key value entries = entries ++ [(key, value)] := by
  induction entries with
  | nil => rfl
  | cons entry entries ih =>
    obtain ⟨k, v⟩ := entry
    rw [List.map_cons, List.mem_cons, not_or] at h
    rw [put, if_neg (Ne.symm h.1), ih h.2, List.cons_append]

end Association

namespace Json

/-! ## Values that can be read -/

mutual

/-- Whether a value opens at most `depth` arrays and objects inside each other, and no object of it
gives a key twice. -/
def fits (depth : ℕ) : Json → Bool
  | arr items => match depth with
    | 0 => false
    | depth + 1 => fitsAll depth items
  | obj fields => match depth with
    | 0 => false
    | depth + 1 => decide (fields.map Prod.fst).Nodup && fitsFields depth fields
  | _ => true

/-- Whether each of several values fits. -/
def fitsAll (depth : ℕ) : List Json → Bool
  | [] => true
  | item :: rest => item.fits depth && fitsAll depth rest

/-- Whether the value of each entry fits. -/
def fitsFields (depth : ℕ) : List (String × Json) → Bool
  | [] => true
  | (_, value) :: rest => value.fits depth && fitsFields depth rest

end

/-! ## Gaps and separators -/

namespace Reader

/-- Characters that may stand between the parts of a value. -/
def Gaps (cs : List Char) : Prop := ∀ c ∈ cs, isGap c = true

theorem skip_gaps {gaps : List Char} (hgaps : Gaps gaps) (cs : List Char) :
    skip (gaps ++ cs) = skip cs := by
  induction gaps with
  | nil => rfl
  | cons c gaps ih =>
    rw [skip, List.cons_append, List.dropWhile_cons_of_pos (hgaps c (by simp))]
    exact ih fun d hd => hgaps d (List.mem_cons_of_mem _ hd)

theorem skip_cons {c : Char} (hc : isGap c = false) (cs : List Char) : skip (c :: cs) = c :: cs :=
  List.dropWhile_cons_of_neg (by simp [hc])

theorem stops_of_isGap {c : Char} (hc : isGap c = true) (cs : List Char) : Stops (c :: cs) := by
  simp only [isGap, Bool.or_eq_true, beq_iff_eq] at hc
  rcases hc with ((rfl | rfl) | rfl) | rfl <;> exact stops_cons (by decide) (by decide) (by decide)
    (by decide)

theorem Stops.gaps_append {gaps cs : List Char} (hgaps : Gaps gaps) (hcs : Stops cs) :
    Stops (gaps ++ cs) := by
  cases gaps with
  | nil => exact hcs
  | cons c gaps => exact stops_of_isGap (hgaps c (by simp)) _

/-- A closing bracket behind gaps. -/
theorem closing {gaps : List Char} (hgaps : Gaps gaps) {c : Char} (hc : c ∈ [']', '\x7d'])
    (rest : List Char) :
    Stops (gaps ++ c :: rest) ∧ skip (gaps ++ c :: rest) = c :: rest := by
  obtain ⟨hgap, hdigit, hpoint, he, hE⟩ : isGap c = false ∧ c.isDigit = false ∧ c ≠ '.' ∧
      c ≠ 'e' ∧ c ≠ 'E' := by
    rcases List.mem_pair.mp hc with rfl | rfl
    · decide
    · decide
  exact ⟨Stops.gaps_append hgaps (stops_cons hdigit hpoint he hE),
    by rw [skip_gaps hgaps, skip_cons hgap]⟩

end Reader

open Reader

/-- A layout whose separators are those of JSON, with nothing but gaps after them. -/
structure Layout.Lawful (layout : Layout) : Prop where
  comma : ∃ gaps, Gaps gaps ∧ layout.comma = ',' :: gaps
  colon : ∃ gaps, Gaps gaps ∧ layout.colon = ':' :: gaps

namespace Layout

theorem lawful_compact : compact.Lawful :=
  ⟨⟨[], by simp [Gaps], rfl⟩, ⟨[], by simp [Gaps], rfl⟩⟩

theorem lawful_line : line.Lawful :=
  ⟨⟨[' '], by simp [Gaps, isGap], rfl⟩, ⟨[' '], by simp [Gaps, isGap], rfl⟩⟩

theorem lawful_pretty : pretty.Lawful :=
  ⟨⟨[], by simp [Gaps], rfl⟩, ⟨[' '], by simp [Gaps, isGap], rfl⟩⟩

theorem gaps_newline (layout : Layout) (depth : ℕ) : Gaps (layout.newline depth) := by
  intro c hc
  unfold newline at hc
  split at hc
  · exact absurd hc (List.not_mem_nil)
  · rcases List.mem_cons.mp hc with rfl | hc
    · rfl
    · rw [List.eq_of_mem_replicate hc]
      rfl

end Layout

/-! ## The first character -/

/-- A character that a number or a named value begins with. -/
def StartsScalar (c : Char) : Prop :=
  c.isDigit = true ∨ c ∈ ['-', 'n', 't', 'f', 'N', 'I']

theorem StartsScalar.ne {c : Char} (h : StartsScalar c) :
    isGap c = false ∧ c ≠ ']' ∧ c ≠ '"' ∧ c ≠ '[' ∧ c ≠ '\x7b' := by
  rcases h with h | h
  · refine ⟨?_, ?_, ?_, ?_, ?_⟩
    · by_contra hgap
      simp only [isGap, Bool.not_eq_false, Bool.or_eq_true, beq_iff_eq] at hgap
      rcases hgap with ((rfl | rfl) | rfl) | rfl <;> exact absurd h (by decide)
    all_goals rintro rfl; exact absurd h (by decide)
  · simp only [List.mem_cons, List.not_mem_nil, or_false] at h
    rcases h with rfl | rfl | rfl | rfl | rfl | rfl <;> decide

theorem startsScalar_writeInt (n : ℤ) : ∃ c cs, writeInt n = c :: cs ∧ StartsScalar c := by
  obtain ⟨c, cs, hcs, hc⟩ := exists_cons_of_allDigits (allDigits_digitsOf n.natAbs)
    (Decimal.digitsOf_ne_nil n.natAbs) []
  rw [List.append_nil] at hcs
  unfold writeInt
  split
  · exact ⟨'-', _, rfl, .inr (by decide)⟩
  · exact ⟨c, cs, hcs, .inl hc⟩

theorem startsScalar_double (d : Double) :
    ∃ c cs, (d.text NumberStyle.json).toList = c :: cs ∧ StartsScalar c := by
  cases d with
  | nan => exact ⟨'N', _, rfl, .inr (by decide)⟩
  | infinite negative =>
    cases negative
    · exact ⟨'I', _, rfl, .inr (by decide)⟩
    · exact ⟨'-', _, rfl, .inr (by decide)⟩
  | finite negative m e hc =>
    rw [Double.text, String.toList_ofList]
    cases negative
    · by_cases hzero : m = 0
      · exact ⟨'0', _, by simp [hzero]; rfl, .inl rfl⟩
      · obtain ⟨c, cs, hcs, hc⟩ := head_layOut NumberStyle.json (Double.shortest m e)
        exact ⟨c, cs, by simp [hzero, hcs], .inl hc⟩
    · exact ⟨'-', _, rfl, .inr (by decide)⟩

/-- A value begins with a character that is neither a gap nor a closing bracket. -/
theorem head_write (layout : Layout) (depth : ℕ) (v : Json) :
    ∃ c cs, write layout depth v = c :: cs ∧ isGap c = false ∧ c ≠ ']' := by
  have hscalar {text : List Char} (h : ∃ c cs, text = c :: cs ∧ StartsScalar c) :
      ∃ c cs, text = c :: cs ∧ isGap c = false ∧ c ≠ ']' := by
    obtain ⟨c, cs, htext, hc⟩ := h
    exact ⟨c, cs, htext, hc.ne.1, hc.ne.2.1⟩
  match v with
  | null => exact ⟨'n', _, by rw [write], by decide, by decide⟩
  | bool true => exact ⟨'t', _, by rw [write], by decide, by decide⟩
  | bool false => exact ⟨'f', _, by rw [write], by decide, by decide⟩
  | int n => rw [write]; exact hscalar (startsScalar_writeInt n)
  | num d => rw [write]; exact hscalar (startsScalar_double d)
  | str s => exact ⟨'"', _, by rw [write, writeString], by decide, by decide⟩
  | arr [] => exact ⟨'[', _, by rw [write], by decide, by decide⟩
  | arr (_ :: _) => exact ⟨'[', _, by rw [write], by decide, by decide⟩
  | obj [] => exact ⟨'\x7b', _, by rw [write], by decide, by decide⟩
  | obj (_ :: _) => exact ⟨'\x7b', _, by rw [write], by decide, by decide⟩

theorem skip_write (layout : Layout) (depth : ℕ) (v : Json) (cs : List Char) :
    skip (write layout depth v ++ cs) = write layout depth v ++ cs := by
  obtain ⟨c, more, hwrite, hc, -⟩ := head_write layout depth v
  rw [hwrite]
  exact skip_cons hc _

/-! ## The steps of the reader -/

namespace Reader

variable {depth fuel : ℕ} {cs cs' rest close : List Char} {v : Json}

theorem value_scalar {text : List Char} (h : ∃ c cs, text = c :: cs ∧ StartsScalar c)
    (hscalar : scalar (text ++ rest) = some (v, rest)) :
    value depth (fuel + 1) (text ++ rest) = .ok (v, rest) := by
  obtain ⟨c, cs, rfl, hc⟩ := h
  obtain ⟨-, -, hquote, hbracket, hbrace⟩ := hc.ne
  rw [List.cons_append] at hscalar ⊢
  unfold value
  split
  case h_1 h => exact absurd (List.cons.inj h).1 hquote
  case h_2 h => exact absurd (List.cons.inj h).1 hbracket
  case h_3 h => exact absurd (List.cons.inj h).1 hbracket
  case h_4 h => exact absurd (List.cons.inj h).1 hbrace
  case h_5 h => exact absurd (List.cons.inj h).1 hbrace
  case h_6 => rw [hscalar, orMalformed]

theorem value_text (asciiOnly : Bool) (s : String) (rest : List Char) :
    value depth (fuel + 1) (writeString asciiOnly s ++ rest) = .ok (.str s, rest) := by
  rw [writeString, List.cons_append, List.append_assoc, List.singleton_append, value, text_write]
  rfl

theorem value_array {items : List Json} (hskip : skip cs = cs') (hhead : ∀ rest, cs' ≠ ']' :: rest)
    (hitems : Reader.items depth fuel cs' = .ok (items, rest)) :
    value (depth + 1) (fuel + 1) ('[' :: cs) = .ok (.arr items, rest) := by
  rw [value, hskip]
  split
  · exact absurd rfl (hhead _)
  · rw [hitems]
    rfl

theorem items_last (hvalue : value depth fuel cs = .ok (v, close))
    (hclose : skip close = ']' :: rest) : items depth (fuel + 1) cs = .ok ([v], rest) := by
  rw [items, hvalue]
  simp only [bind, Except.bind, hclose]
  rfl

theorem items_next {vs : List Json} (hvalue : value depth fuel cs = .ok (v, close))
    (hclose : skip close = ',' :: rest)
    (hitems : items depth fuel (skip rest) = .ok (vs, cs')) :
    items depth (fuel + 1) cs = .ok (v :: vs, cs') := by
  rw [items, hvalue]
  simp only [bind, Except.bind, hclose, hitems]
  rfl

theorem value_object {fields : Fields} (hskip : skip cs = '"' :: cs')
    (hfields : Reader.fields depth fuel [] ('"' :: cs') = .ok (fields, rest)) :
    value (depth + 1) (fuel + 1) ('\x7b' :: cs) = .ok (.obj fields, rest) := by
  rw [value, hskip]
  split
  case h_1 h => exact absurd (List.cons.inj h).1 (by decide)
  case h_2 =>
    rw [hfields]
    rfl

theorem fields_last {key : String} {before : Fields} (asciiOnly : Bool)
    (hcolon : skip cs = ':' :: rest)
    (hvalue : value depth fuel (skip rest) = .ok (v, close))
    (hclose : skip close = '\x7d' :: cs') :
    fields depth (fuel + 1) before (writeString asciiOnly key ++ cs) =
      .ok (Association.put key v before, cs') := by
  rw [writeString, List.cons_append, List.append_assoc, List.singleton_append, fields, text_write]
  simp only [orMalformed, bind, Except.bind, hcolon, hvalue, hclose]
  rfl

theorem fields_next {key : String} {before : Fields} (asciiOnly : Bool)
    (hcolon : skip cs = ':' :: rest)
    (hvalue : value depth fuel (skip rest) = .ok (v, close))
    (hclose : skip close = ',' :: cs') :
    fields depth (fuel + 1) before (writeString asciiOnly key ++ cs) =
      fields depth fuel (Association.put key v before) (skip cs') := by
  rw [writeString, List.cons_append, List.append_assoc, List.singleton_append, fields, text_write]
  simp only [orMalformed, bind, Except.bind, hcolon, hvalue, hclose]

end Reader

/-! ## What is written is read -/

variable {layout : Layout}

theorem skip_colon (hlayout : layout.Lawful) (level : ℕ) (v : Json) (cs : List Char) :
    ∃ rest, skip (layout.colon ++ write layout level v ++ cs) = ':' :: rest ∧
      skip rest = write layout level v ++ cs := by
  obtain ⟨gaps, hgaps, hcolon⟩ := hlayout.colon
  refine ⟨gaps ++ write layout level v ++ cs, ?_, ?_⟩
  · rw [hcolon]
    exact skip_cons (by decide) _
  · rw [List.append_assoc, skip_gaps hgaps, skip_write]

/- One induction over values, items and fields.  The fuel that a text needs is bounded by its
length, so every step has as much left as the rest of the text is long. -/
mutual

theorem value_write (hlayout : layout.Lawful) (depth level fuel : ℕ) (v : Json)
    (hw : v.isWritable = true) (hfits : v.fits depth = true)
    (hfuel : (write layout level v).length ≤ fuel)
    {rest : List Char} (hrest : Stops rest) :
    Reader.value depth fuel (write layout level v ++ rest) = .ok (v, rest) := by
  obtain ⟨fuel, rfl⟩ : ∃ k, fuel = k + 1 := by
    obtain ⟨c, cs, hcs, -⟩ := head_write layout level v
    rw [hcs, List.length_cons] at hfuel
    exact ⟨fuel - 1, by omega⟩
  match v with
  | null =>
    rw [write]
    exact value_scalar ⟨'n', _, rfl, .inr (by decide)⟩ rfl
  | bool true =>
    rw [write]
    exact value_scalar ⟨'t', _, rfl, .inr (by decide)⟩ rfl
  | bool false =>
    rw [write]
    exact value_scalar ⟨'f', _, rfl, .inr (by decide)⟩ rfl
  | int n =>
    rw [isWritable, decide_eq_true_eq] at hw
    rw [write]
    exact value_scalar (startsScalar_writeInt n) (scalar_writeInt hw hrest)
  | num d =>
    rw [write]
    exact value_scalar (startsScalar_double d) (scalar_double d hrest)
  | str s =>
    rw [write]
    exact value_text layout.asciiOnly s rest
  | arr items =>
    cases depth with
    -- What opens another array does not fit into no depth at all.
    | zero => exact absurd hfits (by simp [fits])
    | succ depth =>
      rw [fits] at hfits
      rw [isWritable] at hw
      match items with
      | [] =>
        rw [write]
        rfl
      | item :: items =>
        rw [write, List.length_cons, List.length_append, List.length_append, List.length_append,
          List.length_append, List.length_singleton] at hfuel
        obtain ⟨hstops, hclose⟩ := closing (layout.gaps_newline level) (c := ']') (by decide) rest
        -- The items are read with the fuel that is left behind the opening bracket.
        have hitems := items_write hlayout depth (level + 1) fuel item items hw hfits (by omega)
          hstops hclose
        rw [write]
        simp only [List.cons_append, List.append_assoc, List.nil_append] at hitems ⊢
        refine value_array ?_ ?_ hitems
        · rw [skip_gaps (layout.gaps_newline _), skip_write]
        · -- The first item does not look like the end of the array.
          intro rest' h
          obtain ⟨c, cs, hcs, -, hc⟩ := head_write layout (level + 1) item
          rw [hcs] at h
          exact hc (List.cons.inj h).1
  | obj fields =>
    cases depth with
    | zero => exact absurd hfits (by simp [fits])
    | succ depth =>
      rw [fits, Bool.and_eq_true, decide_eq_true_eq] at hfits
      rw [isWritable] at hw
      match fields with
      | [] =>
        rw [write]
        rfl
      | (key, v) :: fields =>
        rw [write, List.length_cons, List.length_append, List.length_append, List.length_append,
          List.length_append, List.length_append, List.length_append,
          List.length_singleton] at hfuel
        obtain ⟨hstops, hclose⟩ :=
          closing (layout.gaps_newline level) (c := '\x7d') (by decide) rest
        have hfields := fields_write hlayout depth (level + 1) fuel [] key v fields hw hfits.2
          hfits.1 (by omega) hstops hclose
        rw [write]
        simp only [writeString, List.cons_append, List.append_assoc, List.nil_append] at hfields ⊢
        refine value_object ?_ hfields
        rw [skip_gaps (layout.gaps_newline _), skip_cons (by decide)]

theorem items_write (hlayout : layout.Lawful) (depth level fuel : ℕ) (v : Json)
    (vs : List Json) (hw : areWritable (v :: vs) = true)
    (hfits : fitsAll depth (v :: vs) = true)
    (hfuel : (write layout level v).length + (writeItems layout level vs).length < fuel)
    {close rest : List Char} (hstops : Stops close) (hclose : skip close = ']' :: rest) :
    Reader.items depth fuel (write layout level v ++ writeItems layout level vs ++ close) =
      .ok (v :: vs, rest) := by
  obtain ⟨fuel, rfl⟩ : ∃ k, fuel = k + 1 := ⟨fuel - 1, by omega⟩
  rw [areWritable, Bool.and_eq_true] at hw
  rw [fitsAll, Bool.and_eq_true] at hfits
  match vs with
  | [] =>
    rw [writeItems, List.append_nil]
    exact items_last (value_write hlayout depth level fuel v hw.1 hfits.1 (by omega) hstops) hclose
  | next :: vs =>
    obtain ⟨gaps, hgaps, hcomma⟩ := hlayout.comma
    rw [writeItems, hcomma, List.length_append, List.length_append, List.length_append,
      List.length_cons] at hfuel
    have hitems := items_write hlayout depth level fuel next vs hw.2 hfits.2 (by omega) hstops
      hclose
    rw [writeItems, hcomma]
    simp only [List.cons_append, List.append_assoc] at hitems ⊢
    refine items_next (value_write hlayout depth level fuel v hw.1 hfits.1 (by omega) ?_)
      (skip_cons (by decide) _) ?_
    · exact stops_cons (by decide) (by decide) (by decide) (by decide)
    · rw [skip_gaps hgaps, skip_gaps (layout.gaps_newline level), skip_write]
      exact hitems

theorem fields_write (hlayout : layout.Lawful) (depth level fuel : ℕ) (before : Fields)
    (key : String) (v : Json) (more : Fields)
    (hw : areWritableFields ((key, v) :: more) = true)
    (hfits : fitsFields depth ((key, v) :: more) = true)
    (hkeys : ((before ++ (key, v) :: more).map Prod.fst).Nodup)
    (hfuel : (write layout level v).length + (writeFields layout level more).length < fuel)
    {close rest : List Char} (hstops : Stops close) (hclose : skip close = '\x7d' :: rest) :
    Reader.fields depth fuel before (writeString layout.asciiOnly key ++ layout.colon ++
      write layout level v ++ writeFields layout level more ++ close) =
      .ok (before ++ (key, v) :: more, rest) := by
  obtain ⟨fuel, rfl⟩ : ∃ k, fuel = k + 1 := ⟨fuel - 1, by omega⟩
  rw [areWritableFields, Bool.and_eq_true] at hw
  rw [fitsFields, Bool.and_eq_true] at hfits
  have hnew : key ∉ before.map Prod.fst := by
    rw [List.map_append, List.map_cons] at hkeys
    intro hmem
    exact (List.nodup_append.mp hkeys).2.2 _ hmem _ (by simp) rfl
  obtain ⟨gaps, hgaps, hcomma⟩ := hlayout.comma
  match more with
  | [] =>
    obtain ⟨cs, hcolon, hskip⟩ := skip_colon hlayout level v close
    rw [writeFields, List.append_nil]
    have hvalue := value_write hlayout depth level fuel v hw.1 hfits.1 (by omega) hstops
    rw [← hskip] at hvalue
    rw [List.append_assoc, List.append_assoc, ← List.append_assoc layout.colon,
      fields_last layout.asciiOnly hcolon hvalue hclose, Association.put_of_not_mem hnew]
  | (key', v') :: more =>
    rw [writeFields, hcomma, List.length_append, List.length_append, List.length_append,
      List.length_append, List.length_append, List.length_cons] at hfuel
    have hfields := fields_write hlayout depth level fuel (before ++ [(key, v)]) key' v' more hw.2
      hfits.2 (by simpa using hkeys) (by omega) hstops hclose
    rw [writeFields, hcomma]
    simp only [List.cons_append, List.append_assoc] at hfields ⊢
    set behind := gaps ++ (layout.newline level ++ (writeString layout.asciiOnly key' ++
      (layout.colon ++ (write layout level v' ++ (writeFields layout level more ++ close)))))
    obtain ⟨cs, hcolon, hskip⟩ := skip_colon hlayout level v (',' :: behind)
    have hcommaStops : Stops (',' :: behind) :=
      stops_cons (by decide) (by decide) (by decide) (by decide)
    have hvalue := value_write hlayout depth level fuel v hw.1 hfits.1 (by omega) hcommaStops
    rw [← hskip] at hvalue
    rw [List.append_assoc] at hcolon
    rw [fields_next layout.asciiOnly hcolon hvalue (skip_cons (by decide) _),
      Association.put_of_not_mem hnew, skip_gaps hgaps, skip_gaps (layout.gaps_newline level)]
    have hquote (cs : List Char) : skip (writeString layout.asciiOnly key' ++ cs) =
        writeString layout.asciiOnly key' ++ cs := skip_cons (by decide) _
    rw [hquote]
    exact hfields

end

/-- **A value that is written is read back.** -/
theorem parse_render (hlayout : layout.Lawful) {depth : ℕ} {v : Json} (hw : v.isWritable = true)
    (hfits : v.fits depth = true) : parse depth (v.render layout) = .ok v := by
  have hvalue := value_write hlayout depth 0 ((write layout 0 v).length + 1) v hw hfits (by omega)
    stops_nil
  have hskip := skip_write layout 0 v []
  rw [List.append_nil] at hvalue hskip
  rw [parse, render, String.toList_ofList, hskip, hvalue]
  rfl

end Json

end SearchGateway
