import SearchGateway.Proofs.Record.WellFormed
import SearchGateway.Proofs.Storage.Unreadable

/-!
# How answers are read hit by hit

An answer is an object or it cannot be read at all.  Every entry of its array of hits is read on its
own: what it yields, one hit or none, does not depend on the entries around it, and the page is what
the entries yield in their order (`Extract.extraction`).  The part that is stored under an
identifier is read in the same way as an entry, so the engine's answer for it is refused if and only
if it would be left out of a page.
-/

set_option autoImplicit false

namespace SearchGateway

open SearchGateway.Action Json

/-! ## Highlights -/

namespace Hit

/-- The snippets are those of the highlight: the fragments of the content first, and then those of
the other fields in their order.  An object gives no field twice, and then every fragment is among
the snippets as often as it is in the highlight. -/
def Highlights (fields : Json.Fields) (snippets : List String) : Prop :=
  (fields.get? "highlight" = none ∨ fields.get? "highlight" = some .null) ∧ snippets = [] ∨
    ∃ lists : List (String × List String),
      fields.get? "highlight" = some (.obj (lists.map fun list => (list.1, .strings list.2))) ∧
      ((lists.map Prod.fst).Nodup →
        snippets = (lists.filter (·.1 = "content") ++ lists.filter (·.1 ≠ "content")).flatMap
          Prod.snd ∧
        snippets.Perm (lists.flatMap Prod.snd))

/-- The fragments of a field that is given once are all fragments under its name. -/
theorem lookup_getD {name : String} {lists : List (String × List String)}
    (h : (lists.map Prod.fst).Nodup) :
    (lists.lookup name).getD [] = (lists.filter (·.1 = name)).flatMap Prod.snd := by
  induction lists with
  | nil => rfl
  | cons list lists ih =>
    obtain ⟨hnew, hlists⟩ := List.nodup_cons.mp h
    by_cases hname : list.1 = name
    · -- The names are distinct, so nothing more stands under this one.
      have hnone : lists.filter (·.1 = name) = [] := by
        rw [List.filter_eq_nil_iff]
        intro other hother hsame
        have hfirst : list.1 = other.1 := hname.trans (of_decide_eq_true hsame).symm
        exact hnew (hfirst ▸ List.mem_map_of_mem hother)
      rw [List.lookup_cons, beq_iff_eq.mpr hname.symm,
        List.filter_cons_of_pos (by simpa using hname), hnone]
      simp
    · rw [List.lookup_cons, beq_eq_false_iff_ne.mpr (Ne.symm hname),
        List.filter_cons_of_neg (by simpa using hname)]
      exact ih hlists

theorem snippets_eq {lists : List (String × List String)} (h : (lists.map Prod.fst).Nodup) :
    snippets lists =
      (lists.filter (·.1 = "content") ++ lists.filter (·.1 ≠ "content")).flatMap Prod.snd := by
  rw [snippets, lookup_getD h, List.flatMap_append]

/-- Putting the content first neither loses nor repeats anything. -/
theorem snippets_perm {lists : List (String × List String)} (h : (lists.map Prod.fst).Nodup) :
    (snippets lists).Perm (lists.flatMap Prod.snd) := by
  rw [snippets_eq h]
  refine List.Perm.flatMap_right _ ?_
  simpa using List.filter_append_perm (fun list : String × List String => list.1 = "content") lists

/-- Values that can be told from what is read of them. -/
theorem eq_map_of_mapM {α β : Type} {f : α → Option β} {g : β → α}
    (hback : ∀ a b, f a = some b → a = g b) {as : List α} {bs : List β}
    (h : as.mapM f = some bs) : as = bs.map g := by
  induction as generalizing bs with
  | nil =>
    obtain rfl := Option.some.inj h
    rfl
  | cons a as ih =>
    rw [List.mapM_cons] at h
    obtain ⟨b, hb, h⟩ := Option.bind_eq_some_iff.mp h
    obtain ⟨bs, hbs, h⟩ := Option.bind_eq_some_iff.mp h
    obtain rfl := Option.some.inj h
    rw [List.map_cons, ← hback a b hb, ← ih hbs]

theorem list?_text?_eq_some {value : Json} {texts : List String}
    (h : Lenient.list? Lenient.text? value = some texts) : value = .strings texts := by
  cases value with
  | arr items =>
    refine congrArg Json.arr (eq_map_of_mapM (fun item text hitem => ?_) h)
    cases item with
    | str s => exact congrArg Json.str (Option.some.inj hitem)
    | _ => cases hitem
  | _ => cases h

/-- What is read of a highlight is all that it has. -/
theorem textLists?_eq_some {value : Json} {lists : List (String × List String)}
    (h : Lenient.textLists? value = some lists) :
    value = .obj (lists.map fun list => (list.1, .strings list.2)) := by
  cases value with
  | obj fields =>
    refine congrArg Json.obj (eq_map_of_mapM (fun entry list hentry => ?_) h)
    obtain ⟨texts, htexts, rfl⟩ := Option.map_eq_some_iff.mp hentry
    exact Prod.ext rfl (list?_text?_eq_some htexts)
  | _ => cases h

theorem highlights_of_optional {fields : Json.Fields}
    {highlight : Option (List (String × List String))}
    (h : Checked.optional fields "highlight" Lenient.textLists? = .valid highlight) :
    Highlights fields (snippets (highlight.getD [])) := by
  unfold Checked.optional at h
  split at h
  case h_1 hnone =>
    obtain rfl := Checked.valid.inj h
    exact .inl ⟨.inl hnone, rfl⟩
  case h_2 hnull =>
    obtain rfl := Checked.valid.inj h
    exact .inl ⟨.inr hnull, rfl⟩
  case h_3 value _ hsome =>
    cases hread : Lenient.textLists? value with
    | none =>
      rw [hread] at h
      cases h
    | some lists =>
      rw [hread] at h
      obtain rfl := Checked.valid.inj h
      obtain rfl := textLists?_eq_some hread
      exact .inr ⟨lists, hsome, fun hlists => ⟨snippets_eq hlists, snippets_perm hlists⟩⟩

/-- A hit lists the fragments of its highlight. -/
theorem highlights_of_read? {fields : Json.Fields} {hit : Hit}
    (h : read? (.obj fields) = some hit) : Highlights fields hit.highlight := by
  obtain ⟨_, _, _, _, highlight, -, -, -, -, hhighlight, rfl⟩ := read?_eq_some.mp h
  exact highlights_of_optional hhighlight

end Hit

/-! ## Entries -/

/-- The value is a hit that can be read. -/
def Json.IsHit (value : Json) : Prop := value.IsObjectWith Hit.IsWellFormed

namespace Extract

/-- What an answer has under the name of its hits. -/
def container (answer : Json.Fields) : Json.Fields :=
  ((answer.get? "hits").bind Json.fields?).getD []

/-- The entries in the array of hits of an answer; there are none if it has no array. -/
def entriesOf (answer : Json.Fields) : List Json :=
  match (container answer).get? "hits" with
  | some (.arr entries) => entries
  | _ => []

/-- What an entry yields that is alone in its answer. -/
def yieldOf (entry : Json) : List Hit :=
  (ofFields [("hits", .obj [("hits", .arr [entry])])]).page.hits

/-- The answer with another entry in a place of its array. -/
def withEntry (answer : Json.Fields) (i : ℕ) (entry : Json) : Json.Fields :=
  let entries := (entriesOf answer).set i entry
  Association.put "hits" (.obj (Association.put "hits" (.arr entries) (container answer))) answer

/-- The number of entries that yield nothing. -/
def dropped (answer : Json.Fields) : ℕ :=
  (entriesOf answer).countP fun entry => (yieldOf entry).isEmpty

/-- What the operator is told about an answer. -/
def toldOf (answer : Json.Fields) : List Log :=
  match (container answer).get? "hits" with
  | some (.arr entries) =>
    if dropped answer = 0 then []
    else [⟨.warning, s!"Dropped {dropped answer}/{entries.length} malformed hits"⟩]
  | _ => [⟨.warning, "Response has no hits array, returning empty page"⟩]

section

variable {answer : Json.Fields}

theorem hitValues?_eq (answer : Json.Fields) :
    hitValues? answer = ((container answer).get? "hits").bind Json.items? := by
  simp only [hitValues?, container, Json.get?, bind]
  cases answer.get? "hits" with
  | none => rfl
  | some inner =>
    simp only [Option.bind_some]
    cases inner.fields? <;> rfl

theorem hitValues?_getD (answer : Json.Fields) :
    (hitValues? answer).getD [] = entriesOf answer := by
  rw [hitValues?_eq, entriesOf]
  cases (container answer).get? "hits" with
  | none => rfl
  | some value => cases value <;> rfl

theorem yieldOf_eq (entry : Json) : yieldOf entry = (Hit.read? entry).toList := by
  show [entry].filterMap Hit.read? = _
  cases h : Hit.read? entry <;> simp [h]

theorem hits_ofFields (answer : Json.Fields) :
    (ofFields answer).page.hits = (entriesOf answer).flatMap yieldOf := by
  show ((hitValues? answer).getD []).filterMap Hit.read? = _
  rw [hitValues?_getD]
  induction entriesOf answer with
  | nil => rfl
  | cons entry entries ih =>
    rw [List.flatMap_cons, ← ih, yieldOf_eq]
    cases h : Hit.read? entry <;> simp [h]

theorem container_withEntry (i : ℕ) (entry : Json) : container (withEntry answer i entry) =
    Association.put "hits" (.arr ((entriesOf answer).set i entry)) (container answer) := by
  rw [container, Json.Fields.get?, withEntry, Association.get?_put, if_pos rfl]
  rfl

theorem entriesOf_withEntry (i : ℕ) (entry : Json) :
    entriesOf (withEntry answer i entry) = (entriesOf answer).set i entry := by
  rw [entriesOf, container_withEntry, Json.Fields.get?, Association.get?_put, if_pos rfl]

theorem cursor?_withEntry (i : ℕ) (entry : Json) :
    cursor? (withEntry answer i entry) = cursor? answer := by
  rw [cursor?, Json.Fields.get?, withEntry, Association.get?_put, if_neg (by decide)]
  rfl

theorem yieldOf_eq_singleton {entry : Json} {hit : Hit} :
    yieldOf entry = [hit] ↔ Hit.read? entry = some hit := by
  rw [yieldOf_eq]
  cases Hit.read? entry <;> simp

/-- An entry yields one hit if it can be read, and otherwise nothing. -/
theorem yieldOf_cases (entry : Json) :
    ¬entry.IsHit ∧ yieldOf entry = [] ∨
      entry.IsHit ∧ ∃ hit, Hit.read? entry = some hit ∧ yieldOf entry = [hit] := by
  rw [Json.IsHit, ← Hit.takes_read? entry, yieldOf_eq]
  cases h : Hit.read? entry with
  | none => exact .inl ⟨by simp, rfl⟩
  | some hit => exact .inr ⟨⟨hit, rfl⟩, hit, rfl, rfl⟩

theorem length_flatMap_yieldOf (entries : List Json) :
    (entries.flatMap yieldOf).length + entries.countP (fun entry => (yieldOf entry).isEmpty) =
      entries.length := by
  induction entries with
  | nil => rfl
  | cons entry entries ih =>
    rw [List.flatMap_cons, List.length_append, List.countP_cons, List.length_cons, ← ih]
    rcases yieldOf_cases entry with ⟨-, hyield⟩ | ⟨-, hit, -, hyield⟩ <;>
      simp [hyield] <;> omega

/-- The operator is told how many entries yield nothing. -/
theorem notices_ofFields (answer : Json.Fields) : (ofFields answer).notices = toldOf answer := by
  have hcount := length_flatMap_yieldOf (entriesOf answer)
  rw [← hits_ofFields] at hcount
  have hentries : (ofFields answer).entries =
      (((container answer).get? "hits").bind Json.items?).map List.length :=
    congrArg (Option.map List.length) (hitValues?_eq answer)
  unfold notices toldOf dropped
  rw [hentries]
  unfold entriesOf at hcount ⊢
  cases h : (container answer).get? "hits" with
  | none => rfl
  | some value =>
    cases value with
    | arr entries =>
      -- What is told is how many hits are missing, and these are the entries that yield nothing.
      rw [h] at hcount
      dsimp only [Option.bind_some, Json.items?, Option.map_some]
      rw [Nat.sub_eq_of_eq_add' hcount.symm]
    | _ => rfl

end

/-! ## Pages -/

/-- The page is what the answer amounts to entry by entry. -/
structure Extracts (answer : Json.Fields) (page : Page) : Prop where
  /-- A cursor that is no text counts as none. -/
  cursor : ∀ cursor, page.cursor = some cursor ↔ answer.get? "_scroll_id" = some (.str cursor)
  hits : page.hits = (entriesOf answer).flatMap yieldOf
  count : page.hits.length + dropped answer = (entriesOf answer).length
  /-- Another entry in one place changes what this place yields and nothing else. -/
  apart : ∀ i entry, Page.read (.ok (.obj (withEntry answer i entry))) =
    .ok ⟨(((entriesOf answer).map yieldOf).set i (yieldOf entry)).flatten, page.cursor⟩

theorem extracts_ofFields (answer : Json.Fields) : Extracts answer (ofFields answer).page where
  cursor cursor := by
    show cursor? answer = some cursor ↔ _
    rw [cursor?, Option.bind_eq_some_iff]
    constructor
    · rintro ⟨value, hvalue, htext⟩
      cases value with
      | str text => rw [hvalue, Option.some.inj htext]
      | _ => cases htext
    · intro htext
      exact ⟨_, htext, rfl⟩
  hits := hits_ofFields answer
  count := hits_ofFields answer ▸ length_flatMap_yieldOf (entriesOf answer)
  apart i entry := by
    have hhits := hits_ofFields (withEntry answer i entry)
    rw [entriesOf_withEntry, List.flatMap, List.map_set] at hhits
    have hcursor : (ofFields (withEntry answer i entry)).page.cursor =
        (ofFields answer).page.cursor := cursor?_withEntry i entry
    rw [Page.read_eq_ok]
    exact ⟨_, rfl, by rw [← hhits, ← hcursor]⟩

end Extract

/-- The surroundings after the operator was told something. -/
def Surroundings.told (s : Surroundings) (logs : List Log) : Surroundings :=
  { s with events := (logs.map Event.logged).reverse ++ s.events }

theorem Action.runIn_logAll (logs : List Log) (s : Surroundings) :
    (logAll logs).runIn s = (.ok (), s.told logs) := by
  unfold logAll
  induction logs generalizing s with
  | nil => rfl
  | cons log logs ih =>
    refine (ih (s.noting (.logged log))).trans ?_
    simp [Surroundings.told, Surroundings.noting]

theorem Action.runIn_page_obj (answer : Json.Fields) (s : Surroundings) :
    (Action.page (.obj answer)).runIn s =
      (.ok (Extract.ofFields answer).page, s.told (Extract.toldOf answer)) := by
  rw [← Extract.notices_ofFields]
  exact runIn_bind_of_ok (runIn_logAll _ s)

/-- The part that is stored under an identifier is read from the answer as an entry is. -/
theorem Engine.runIn_getPart {engine : Engine} {index partId : String} {s : Surroundings}
    {value : Json} (h : s.reply.outcome "GET" ("/" ++ index ++ "/_doc/" ++ partId) = .ok value) :
    (engine.getPart index partId).runIn s =
      (match Hit.read? value with
        | some hit => .ok hit.part
        | none => .error (.malformed s!"failed to parse document part {partId}"),
      s.asked engine.connection ⟨"GET", "/" ++ index ++ "/_doc/" ++ partId, [], .empty⟩) := by
  rw [getPart, runIn_bind, runIn_request, h]
  dsimp only
  cases Hit.read? value <;> rfl

open Extract in
/-- **Answers are read hit by hit.**  Whatever the engine answers, it is refused if it is no object,
and otherwise its page is what the entries yield in their order, each on its own.  An entry yields
one hit if it is well-formed and nothing if it is not.  As an answer for one part, the value gives
the part of the hit it would yield as an entry, and it is refused if it would yield nothing. -/
theorem Extract.extraction (raw : Json) (s : Surroundings) :
    ((∀ answer, raw ≠ .obj answer) → (Action.page raw).runIn s =
      (.error (.malformed s!"expected JSON object in response, got {raw.kindName}"), s)) ∧
    (∀ answer, raw = .obj answer → ∃ page,
      (Action.page raw).runIn s = (.ok page, s.told (toldOf answer)) ∧ Extracts answer page) ∧
    (¬raw.IsHit ∧ yieldOf raw = [] ∨ raw.IsHit ∧ ∃ hit fields, yieldOf raw = [hit] ∧
      raw = .obj fields ∧ Hit.Highlights fields hit.highlight) ∧
    ∀ (engine : Engine) (index partId : String),
      s.reply.outcome "GET" ("/" ++ index ++ "/_doc/" ++ partId) = .ok raw →
      ∃ result, (engine.getPart index partId).runIn s = (result, s.asked engine.connection
          ⟨"GET", "/" ++ index ++ "/_doc/" ++ partId, [], .empty⟩) ∧
        (∀ hit, yieldOf raw = [hit] → result = .ok hit.part) ∧
        (yieldOf raw = [] →
          result = .error (.malformed s!"failed to parse document part {partId}")) := by
  refine ⟨?_, ?_, ?_, ?_⟩
  · intro hraw
    cases raw with
    | obj answer => exact absurd rfl (hraw answer)
    | _ => rfl
  · rintro answer rfl
    exact ⟨_, Action.runIn_page_obj answer s, extracts_ofFields answer⟩
  · refine (yieldOf_cases raw).imp id fun ⟨hhit, hit, hread, hyield⟩ => ⟨hhit, hit, ?_⟩
    obtain ⟨fields, rfl, -⟩ := hhit
    exact ⟨fields, hyield, rfl, Hit.highlights_of_read? hread⟩
  · intro engine index partId houtcome
    refine ⟨_, Engine.runIn_getPart houtcome, ?_⟩
    rcases yieldOf_cases raw with ⟨-, hyield⟩ | ⟨-, hit, hread, hyield⟩
    · have hnone : Hit.read? raw = none := by
        rwa [yieldOf_eq, Option.toList_eq_nil_iff] at hyield
      rw [hyield, hnone]
      exact ⟨fun hit hhit => absurd hhit.symm (List.cons_ne_nil _ _), fun _ => rfl⟩
    · rw [hyield, hread]
      refine ⟨fun other hother => ?_, fun hempty => absurd hempty (List.cons_ne_nil _ _)⟩
      rw [List.head_eq_of_cons_eq hother]

/-- The entry of the part yields a hit of it. -/
theorem Extract.exists_yieldOf_leafHit :
    ∃ hit, yieldOf Storage.leafHit = [hit] ∧ hit.part = Walk.leaf := by
  obtain ⟨hit, hread, hpart⟩ : ∃ hit, Hit.read? Storage.leafHit = some hit ∧
      hit.part = (Record.ofPart Walk.leaf).toPart := by
    refine Hit.read?_of_shows ?_ (Record.readFields_toFields _)
    exact ⟨⟨"p", rfl⟩, ⟨"notes", rfl⟩, rfl, ⟨none, rfl⟩, none, rfl⟩
  exact ⟨hit, yieldOf_eq_singleton.mpr hread, hpart.trans (Record.toPart_ofPart _)⟩

/-- An entry that cannot be read, because its identifier is a number. -/
def Extract.blot : Json := .obj [("_id", .int 1)]

/-- An answer with that entry and the entry of the part. -/
def Extract.blotted : Json.Fields :=
  [("_scroll_id", .str "two"), ("hits", .obj [("hits", .arr [blot, Storage.leafHit])])]

theorem Extract.yieldOf_blot : yieldOf blot = [] := rfl

theorem Extract.toldOf_blotted :
    toldOf blotted = [⟨.warning, "Dropped 1/2 malformed hits"⟩] := by
  obtain ⟨hit, hyield, -⟩ := exists_yieldOf_leafHit
  have hdropped : dropped blotted = 1 := by
    show [blot, Storage.leafHit].countP (fun entry => (yieldOf entry).isEmpty) = 1
    rw [List.countP_cons, List.countP_cons, yieldOf_blot, hyield]
    rfl
  have htold : toldOf blotted = if dropped blotted = 0 then [] else
      [⟨.warning, s!"Dropped {dropped blotted}/{2} malformed hits"⟩] := rfl
  rw [htold, hdropped]
  rfl

/-- The page of the answer shows the part, and the operator is told of the entry that cannot be
read.  As an answer for one part, the one entry gives the part and the other is refused. -/
theorem Extract.extraction_leafHit : ∃ page hit t u,
    (Action.page (.obj blotted)).runIn (.answering []) = (.ok page,
      Surroundings.told (.answering []) [⟨.warning, "Dropped 1/2 malformed hits"⟩]) ∧
    page.hits = [hit] ∧ page.cursor = some "two" ∧ hit.part = Walk.leaf ∧ ¬blot.IsHit ∧
    (Engine.plain.getPart "notes" "p").runIn (.answering [.rendered Storage.leafHit]) =
      (.ok Walk.leaf, t) ∧
    (Engine.plain.getPart "notes" "p").runIn (.answering [.rendered blot]) =
      (.error (.malformed "failed to parse document part p"), u) := by
  obtain ⟨hit, hyield, hleaf⟩ := exists_yieldOf_leafHit
  obtain ⟨-, hpage, -, -⟩ := extraction (.obj blotted) (.answering [])
  obtain ⟨page, hread, hextracts⟩ := hpage blotted rfl
  rw [toldOf_blotted] at hread
  have hhits : page.hits = [hit] := by
    rw [hextracts.hits]
    show yieldOf blot ++ (yieldOf Storage.leafHit ++ []) = _
    rw [yieldOf_blot, hyield]
    rfl
  obtain ⟨-, -, hblot, hnone⟩ := extraction blot (.answering [.rendered blot])
  obtain ⟨-, -, -, hpart⟩ := extraction Storage.leafHit (.answering [.rendered Storage.leafHit])
  obtain ⟨result, hrun, hresult, -⟩ := hpart .plain "notes" "p"
    (Reply.outcome_rendered (by decide) (by decide) _ _)
  obtain ⟨result', hrun', -, hresult'⟩ := hnone .plain "notes" "p"
    (Reply.outcome_rendered (by decide) (by decide) _ _)
  refine ⟨page, hit, _, _, hread, hhits, (hextracts.cursor "two").mpr rfl, hleaf, ?_,
    hrun.trans (by rw [hresult hit hyield, hleaf]),
    hrun'.trans (by rw [hresult' yieldOf_blot]; rfl)⟩
  rcases hblot with ⟨hblot, -⟩ | ⟨-, other, _, hother, -⟩
  · exact hblot
  · exact absurd (yieldOf_blot.symm.trans hother) (List.cons_ne_nil _ _).symm

end SearchGateway
