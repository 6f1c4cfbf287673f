-- The grammar of pages. A list of pages and ranges is read as what it spells,
-- however its dashes and commas are written, and every other text stays one
-- literal. The pieces cannot run into each other: no letter or digit of a page
-- is a dash, a comma or a space.
import CiteStyle.Pages.Reader
import CiteStyle.Proofs.Runs
import Mathlib.Data.List.Forall2

namespace CiteStyle.Pages

open Text

/-! ## The grammar -/

/-- The text of a page: a run of letters and digits, or the page that is not known. -/
def PageText (cs : List Char) : Prop :=
  cs = unknownPage ∨ cs ≠ [] ∧ ∀ c ∈ cs, isAlphanumeric c

/-- Spaces and tabs, or nothing. -/
def Spacing (cs : List Char) : Prop := ∀ c ∈ cs, isSpaceOrTab c

instance (cs : List Char) : Decidable (PageText cs) :=
  decidable_of_iff (cs = unknownPage ∨ cs ≠ [] ∧ cs.all isAlphanumeric)
    (or_congr_right (and_congr_right' List.all_eq_true))

instance (cs : List Char) : Decidable (Spacing cs) :=
  decidable_of_iff (cs.all isSpaceOrTab) List.all_eq_true

/-- The text between the pages of a range: hyphens or en dashes with spacing around them. -/
inductive DashText : List Char → Prop
  | spaced {before dashes after : List Char} (spaceBefore : Spacing before)
      (filled : dashes ≠ []) (all : ∀ c ∈ dashes, isDash c) (spaceAfter : Spacing after) :
      DashText (before ++ dashes ++ after)

/-- The text between the items of a list: a comma with spacing around it. -/
inductive CommaText : List Char → Prop
  | spaced {before after : List Char} (spaceBefore : Spacing before)
      (spaceAfter : Spacing after) : CommaText (before ++ ',' :: after)

/-- An item of a list: a page, or a range if a second page is written. -/
structure Entry where
  first : List Char
  second : Option (List Char) := none

/-- The text of an item. -/
inductive EntryText : Entry → List Char → Prop
  | page {page : List Char} (text : PageText page) : EntryText { first := page } page
  | range {first dash last : List Char} (textFirst : PageText first) (textDash : DashText dash)
      (textLast : PageText last) :
      EntryText { first, second := some last } (first ++ dash ++ last)

/-- The text of a list of items. -/
inductive ListText : List Entry → List Char → Prop
  | single {e : Entry} {cs : List Char} (text : EntryText e cs) : ListText [e] cs
  | more {e : Entry} {es : List Entry} {cs comma rest : List Char} (text : EntryText e cs)
      (textComma : CommaText comma) (others : ListText es rest) :
      ListText (e :: es) (cs ++ comma ++ rest)

/-- A range has the pages of an item. It counts as several if a second page is written. -/
structure Entry.Reads (e : Entry) (r : Range) : Prop where
  first : r.first = some (String.ofList e.first)
  last : r.last = some (String.ofList (e.second.getD e.first))
  several : r.several = e.second.isSome

/-! ## Characters -/

theorem eq_of_isSpaceOrTab {c : Char} (h : isSpaceOrTab c) : c = ' ' ∨ c = '\t' := by
  simpa [isSpaceOrTab] using h

theorem eq_of_isDash {c : Char} (h : isDash c) : c = '-' ∨ c = '–' := by
  simpa [isDash] using h

theorem isAlphanumeric_spaceOrTab {c : Char} (h : isSpaceOrTab c) : isAlphanumeric c = false := by
  obtain rfl | rfl := eq_of_isSpaceOrTab h <;> decide

theorem isAlphanumeric_dash {c : Char} (h : isDash c) : isAlphanumeric c = false := by
  obtain rfl | rfl := eq_of_isDash h <;> decide +kernel

theorem isDash_spaceOrTab {c : Char} (h : isSpaceOrTab c) : isDash c = false := by
  obtain rfl | rfl := eq_of_isSpaceOrTab h <;> decide

theorem isSpaceOrTab_dash {c : Char} (h : isDash c) : isSpaceOrTab c = false := by
  obtain rfl | rfl := eq_of_isDash h <;> decide

/-- No character of a page belongs to what stands between pages. -/
theorem PageText.apart {page : List Char} (h : PageText page) {c : Char} (mem : c ∈ page) :
    isSpaceOrTab c = false ∧ isDash c = false ∧ isBlank c = false := by
  rcases h with rfl | ⟨-, all⟩
  · have question : c = '?' := by simpa [unknownPage] using mem
    subst question
    decide
  · have hc := all c mem
    refine ⟨?_, ?_, isBlank_alphanumeric hc⟩
    · exact Bool.eq_false_iff.mpr fun space => by simp [isAlphanumeric_spaceOrTab space] at hc
    · exact Bool.eq_false_iff.mpr fun dash => by simp [isAlphanumeric_dash dash] at hc

theorem PageText.ne_nil {page : List Char} (h : PageText page) : page ≠ [] := by
  rcases h with rfl | ⟨filled, -⟩
  · exact List.cons_ne_nil _ _
  · exact filled

/-- What follows a page in a text of the grammar does not go on with letters or digits. -/
def Stops (rest : List Char) : Prop := ∀ c ∈ rest.head?, isAlphanumeric c = false

theorem stops_append {before rest : List Char} (all : ∀ c ∈ before, isAlphanumeric c = false)
    (stop : Stops rest) : Stops (before ++ rest) := by
  obtain _ | ⟨c, cs⟩ := before
  · exact stop
  · intro d hd
    rw [List.cons_append, List.head?_cons, Option.mem_some_iff] at hd
    exact hd ▸ all c List.mem_cons_self

theorem DashText.stops {dash : List Char} (h : DashText dash) (rest : List Char) :
    Stops (dash ++ rest) := by
  obtain ⟨spaceBefore, filled, all, -⟩ := h
  rw [List.append_assoc, List.append_assoc]
  refine stops_append (fun c hc => isAlphanumeric_spaceOrTab (spaceBefore c hc)) fun c hc => ?_
  exact isAlphanumeric_dash (all c (mem_of_head?_append filled hc))

theorem CommaText.stops {comma : List Char} (h : CommaText comma) (rest : List Char) :
    Stops (comma ++ rest) := by
  obtain ⟨spaceBefore, -⟩ := h
  rw [List.append_assoc]
  refine stops_append (fun c hc => isAlphanumeric_spaceOrTab (spaceBefore c hc)) fun c hc => ?_
  rw [List.cons_append, List.head?_cons, Option.mem_some_iff] at hc
  subst hc
  decide

/-! ## Pieces -/

theorem pageAt?_text {page rest : List Char} (h : PageText page) (stop : Stops rest) :
    pageAt? (page ++ rest) = some (page, rest) := by
  rcases h with rfl | ⟨filled, all⟩
  · rfl
  · unfold pageAt?
    split
    · rename_i heq
      obtain _ | ⟨c, cs⟩ := page
      · exact absurd rfl filled
      · rw [List.cons_append, List.cons.injEq] at heq
        have question := all c List.mem_cons_self
        rw [heq.1] at question
        exact absurd question (by decide)
    · rw [takeWhile_run all stop, dropWhile_run all stop, if_neg (by simpa using filled)]

theorem text_of_pageAt? {cs page rest : List Char} (h : pageAt? cs = some (page, rest)) :
    PageText page ∧ cs = page ++ rest := by
  unfold pageAt? at h
  split at h
  · rw [Option.some.injEq, Prod.mk.injEq] at h
    obtain ⟨rfl, rfl⟩ := h
    exact ⟨.inl rfl, rfl⟩
  · split at h
    · contradiction
    · rename_i filled
      rw [Option.some.injEq, Prod.mk.injEq] at h
      obtain ⟨rfl, rfl⟩ := h
      refine ⟨.inr ⟨by simpa using filled, ?_⟩, List.takeWhile_append_dropWhile.symm⟩
      exact List.all_eq_true.mp List.all_takeWhile

theorem dashAt?_text {dash rest : List Char} (h : DashText dash)
    (space : ∀ c ∈ rest.head?, isSpaceOrTab c = false)
    (noDash : ∀ c ∈ rest.head?, isDash c = false) : dashAt? (dash ++ rest) = some (dash, rest) := by
  obtain @⟨before, dashes, after, spaceBefore, filled, all, spaceAfter⟩ := h
  have noSpace : ∀ c ∈ (dashes ++ (after ++ rest)).head?, isSpaceOrTab c = false := by
    intro c hc
    exact isSpaceOrTab_dash (all c (mem_of_head?_append filled hc))
  have endDash : ∀ c ∈ (after ++ rest).head?, isDash c = false := by
    obtain _ | ⟨a, as⟩ := after
    · exact noDash
    · intro c hc
      rw [List.cons_append, List.head?_cons, Option.mem_some_iff] at hc
      exact hc ▸ isDash_spaceOrTab (spaceAfter a List.mem_cons_self)
  rw [List.append_assoc, List.append_assoc]
  unfold dashAt?
  rw [takeWhile_run spaceBefore noSpace, dropWhile_run spaceBefore noSpace]
  dsimp only
  rw [takeWhile_run all endDash, dropWhile_run all endDash, takeWhile_run spaceAfter space,
    dropWhile_run spaceAfter space, if_neg (by simpa using filled)]

theorem text_of_dashAt? {cs dash rest : List Char} (h : dashAt? cs = some (dash, rest)) :
    DashText dash ∧ cs = dash ++ rest := by
  unfold dashAt? at h
  dsimp only at h
  split at h
  · contradiction
  · rename_i filled
    rw [Option.some.injEq, Prod.mk.injEq] at h
    obtain ⟨rfl, rfl⟩ := h
    refine ⟨.spaced ?_ (by simpa using filled) ?_ ?_, ?_⟩
    · exact List.all_eq_true.mp List.all_takeWhile
    · exact List.all_eq_true.mp List.all_takeWhile
    · exact List.all_eq_true.mp List.all_takeWhile
    · simp only [List.append_assoc, List.takeWhile_append_dropWhile]

/-- Where no dash stands, none is read. -/
theorem dashAt?_none {before rest : List Char} (space : Spacing before)
    (stop : ∀ c ∈ rest.head?, isSpaceOrTab c = false ∧ isDash c = false) :
    dashAt? (before ++ rest) = none := by
  have noDash := @takeWhile_run _ isDash [] rest (by simp) fun c hc => (stop c hc).2
  rw [List.nil_append] at noDash
  unfold dashAt?
  rw [dropWhile_run space fun c hc => (stop c hc).1]
  dsimp only
  rw [noDash]
  rfl

theorem commaAt?_text {comma rest : List Char} (h : CommaText comma)
    (stop : ∀ c ∈ rest.head?, isSpaceOrTab c = false) : commaAt? (comma ++ rest) = some rest := by
  obtain @⟨before, after, spaceBefore, spaceAfter⟩ := h
  have noSpace : ∀ c ∈ (',' :: (after ++ rest)).head?, isSpaceOrTab c = false := by
    intro c hc
    rw [List.head?_cons, Option.mem_some_iff] at hc
    subst hc
    decide
  unfold commaAt?
  rw [List.append_assoc, List.cons_append, dropWhile_run spaceBefore noSpace]
  simp only [dropWhile_run spaceAfter stop]

theorem text_of_commaAt? {cs rest : List Char} (h : commaAt? cs = some rest) :
    ∃ comma, CommaText comma ∧ cs = comma ++ rest := by
  unfold commaAt? at h
  split at h
  · rename_i after hcomma
    rw [Option.some.injEq] at h
    subst h
    refine ⟨cs.takeWhile isSpaceOrTab ++ ',' :: after.takeWhile isSpaceOrTab, .spaced ?_ ?_, ?_⟩
    · exact List.all_eq_true.mp List.all_takeWhile
    · exact List.all_eq_true.mp List.all_takeWhile
    · rw [List.append_assoc, List.cons_append, List.takeWhile_append_dropWhile, ← hcomma,
        List.takeWhile_append_dropWhile]
  · contradiction

/-! ## Items -/

theorem reads_ofPage (page : List Char) : Entry.Reads { first := page } (.ofPage page) :=
  ⟨rfl, rfl, rfl⟩

theorem ends_ofEnds (first dash last : List Char) :
    (Range.ofEnds first dash last).ends = some (String.ofList first, String.ofList last) := by
  unfold Range.ofEnds
  split
  · rfl
  · split <;> rfl

theorem reads_ofEnds (first dash last : List Char) :
    Entry.Reads { first, second := some last } (.ofEnds first dash last) := by
  refine ⟨?_, ?_, ?_⟩
  · rw [Range.first, ends_ofEnds, Option.map_some]
  · rw [Range.last, ends_ofEnds, Option.map_some, Option.getD_some]
  · unfold Range.ofEnds
    split
    · rfl
    · split <;> rfl

/-- A range has the pages of one item only. -/
theorem Entry.Reads.unique {e e' : Entry} {r : Range} (h : e.Reads r) (h' : e'.Reads r) :
    e = e' := by
  obtain ⟨first, second⟩ := e
  obtain ⟨first', second'⟩ := e'
  have sameFirst : first = first' :=
    String.ofList_injective (Option.some.inj (h.first.symm.trans h'.first))
  have sameLast : second.getD first = second'.getD first' :=
    String.ofList_injective (Option.some.inj (h.last.symm.trans h'.last))
  have sameSeveral : second.isSome = second'.isSome := h.several.symm.trans h'.several
  cases second <;> cases second' <;> simp_all

theorem rangeAt?_ofEnds {first dash last rest : List Char} (textFirst : PageText first)
    (textDash : DashText dash) (textLast : PageText last) (stop : Stops rest) :
    rangeAt? (first ++ dash ++ last ++ rest) = some (.ofEnds first dash last, rest) := by
  have apart : ∀ c ∈ (last ++ rest).head?, isSpaceOrTab c = false ∧ isDash c = false := by
    intro c hc
    have := textLast.apart (mem_of_head?_append textLast.ne_nil hc)
    exact ⟨this.1, this.2.1⟩
  unfold rangeAt?
  rw [List.append_assoc, List.append_assoc, pageAt?_text textFirst (textDash.stops _)]
  dsimp only
  rw [dashAt?_text textDash (fun c hc => (apart c hc).1) fun c hc => (apart c hc).2]
  dsimp only
  rw [pageAt?_text textLast stop]

/-- What may follow an item in a list: nothing, or a comma. -/
def EndsEntry (rest : List Char) : Prop :=
  rest = [] ∨ ∃ comma others, CommaText comma ∧ rest = comma ++ others

theorem EndsEntry.stops {rest : List Char} (h : EndsEntry rest) : Stops rest := by
  rcases h with rfl | ⟨comma, others, text, rfl⟩
  · exact fun _ hc => absurd hc (by simp)
  · exact text.stops others

theorem EndsEntry.noDash {rest : List Char} (h : EndsEntry rest) : dashAt? rest = none := by
  rcases h with rfl | ⟨comma, others, text, rfl⟩
  · rfl
  · obtain @⟨before, after, spaceBefore, -⟩ := text
    rw [List.append_assoc]
    refine dashAt?_none spaceBefore fun c hc => ?_
    rw [List.cons_append, List.head?_cons, Option.mem_some_iff] at hc
    subst hc
    decide

theorem rangeAt?_text {e : Entry} {cs rest : List Char} (h : EntryText e cs)
    (follows : EndsEntry rest) : ∃ r, rangeAt? (cs ++ rest) = some (r, rest) ∧ e.Reads r := by
  cases h with
  | page text =>
    refine ⟨_, ?_, reads_ofPage cs⟩
    unfold rangeAt?
    rw [pageAt?_text text follows.stops]
    dsimp only
    rw [follows.noDash]
  | range textFirst textDash textLast =>
    exact ⟨_, rangeAt?_ofEnds textFirst textDash textLast follows.stops, reads_ofEnds _ _ _⟩

theorem text_of_rangeAt? {cs rest : List Char} {r : Range} (h : rangeAt? cs = some (r, rest)) :
    ∃ e text, EntryText e text ∧ cs = text ++ rest ∧ e.Reads r := by
  unfold rangeAt? at h
  split at h
  · contradiction
  · rename_i first rest' readFirst
    obtain ⟨textFirst, rfl⟩ := text_of_pageAt? readFirst
    have alone : some (Range.ofPage first, rest') = some (r, rest) →
        ∃ e text, EntryText e text ∧ first ++ rest' = text ++ rest ∧ e.Reads r := by
      intro h
      rw [Option.some.injEq, Prod.mk.injEq] at h
      obtain ⟨rfl, rfl⟩ := h
      exact ⟨_, first, .page textFirst, rfl, reads_ofPage first⟩
    split at h
    · exact alone h
    · rename_i dash after readDash
      obtain ⟨textDash, rfl⟩ := text_of_dashAt? readDash
      split at h
      · exact alone h
      · rename_i last rest'' readLast
        obtain ⟨textLast, rfl⟩ := text_of_pageAt? readLast
        rw [Option.some.injEq, Prod.mk.injEq] at h
        obtain ⟨rfl, rfl⟩ := h
        refine ⟨_, first ++ dash ++ last, .range textFirst textDash textLast, ?_,
          reads_ofEnds first dash last⟩
        simp only [List.append_assoc]

/-! ## Lists -/

/-- A text of one range is read as this range. -/
theorem ranges?_of_rangeAt? {cs : List Char} {r : Range} (h : rangeAt? cs = some (r, [])) :
    ranges? cs = some [r] := by
  rw [ranges?]
  split <;> simp_all

/-- A text that goes on after its first range is read on from the comma. -/
theorem ranges?_of_more {cs rest : List Char} {r : Range} {c : Char}
    (more : rangeAt? cs = some (r, c :: rest)) :
    ranges? cs = (commaAt? (c :: rest)).bind fun after => (ranges? after).map (r :: ·) := by
  rw [ranges?]
  split
  · simp_all
  · simp_all
  · rename_i heq
    rw [more, Option.some.injEq, Prod.mk.injEq, List.cons.injEq] at heq
    obtain ⟨rfl, rfl, rfl⟩ := heq
    split
    · rename_i comma
      rw [comma, Option.bind_none]
    · rename_i comma
      rw [comma, Option.bind_some]

theorem EntryText.head {e : Entry} {cs : List Char} (h : EntryText e cs) :
    ∃ page rest, PageText page ∧ cs = page ++ rest := by
  cases h with
  | page text => exact ⟨cs, [], text, (List.append_nil cs).symm⟩
  | range textFirst => exact ⟨_, _, textFirst, List.append_assoc _ _ _⟩

theorem EntryText.getLast {e : Entry} {cs : List Char} (h : EntryText e cs) :
    ∃ front page, PageText page ∧ cs = front ++ page := by
  cases h with
  | page text => exact ⟨[], cs, text, rfl⟩
  | range textFirst textDash textLast => exact ⟨_, _, textLast, rfl⟩

theorem ListText.head {es : List Entry} {cs : List Char} (h : ListText es cs) :
    ∃ page rest, PageText page ∧ cs = page ++ rest := by
  cases h with
  | single text => exact text.head
  | more text =>
    obtain ⟨page, rest, textPage, rfl⟩ := text.head
    exact ⟨page, _, textPage, by simp only [List.append_assoc]; rfl⟩

theorem ListText.getLast {es : List Entry} {cs : List Char} (h : ListText es cs) :
    ∃ front page, PageText page ∧ cs = front ++ page := by
  induction h with
  | single text => exact text.getLast
  | more _ _ _ ih =>
    obtain ⟨front, page, textPage, rfl⟩ := ih
    exact ⟨_, page, textPage, (List.append_assoc _ front page).symm⟩

/-- A list of pages has no white space at its ends. -/
theorem ListText.trimChars {es : List Entry} {cs : List Char} (h : ListText es cs) :
    trimChars cs = cs := by
  refine trimChars_of_ends (fun c hc => ?_) fun c hc => ?_
  · obtain ⟨page, rest, text, rfl⟩ := h.head
    exact (text.apart (mem_of_head?_append text.ne_nil hc)).2.2
  · obtain ⟨front, page, text, rfl⟩ := h.getLast
    exact (text.apart (mem_of_getLast?_append text.ne_nil hc)).2.2

theorem EntryText.pages {e : Entry} {cs : List Char} (h : EntryText e cs) :
    PageText e.first ∧ PageText (e.second.getD e.first) := by
  cases h with
  | page text => exact ⟨text, text⟩
  | range textFirst textDash textLast => exact ⟨textFirst, textLast⟩

theorem ListText.pages {es : List Entry} {cs : List Char} (h : ListText es cs) :
    ∀ e ∈ es, PageText e.first ∧ PageText (e.second.getD e.first) := by
  induction h with
  | single text => simpa using text.pages
  | more text _ _ ih => simpa using ⟨text.pages, ih⟩

/-- A range with a comma behind it is put in front of what is read behind the comma. -/
theorem ranges?_of_comma {es : List Entry} {cs comma rest : List Char} {r : Range}
    (textComma : CommaText comma) (others : ListText es rest)
    (read : rangeAt? (cs ++ (comma ++ rest)) = some (r, comma ++ rest)) :
    ranges? (cs ++ comma ++ rest) = (ranges? rest).map (r :: ·) := by
  have start : ∀ c ∈ rest.head?, isSpaceOrTab c = false := by
    intro c hc
    obtain ⟨page, rest', textPage, rfl⟩ := others.head
    exact (textPage.apart (mem_of_head?_append textPage.ne_nil hc)).1
  have readComma := commaAt?_text textComma start
  cases hcs : comma ++ rest with
  | nil =>
    rw [hcs] at readComma
    contradiction
  | cons c cs' =>
    rw [hcs] at readComma read
    rw [List.append_assoc, hcs, ranges?_of_more read, readComma, Option.bind_some]

/-- Every list of the grammar is read. -/
theorem ranges?_text {es : List Entry} {cs : List Char} (h : ListText es cs) :
    ∃ rs, ranges? cs = some rs ∧ List.Forall₂ Entry.Reads es rs := by
  induction h with
  | single text =>
    obtain ⟨r, read, reads⟩ := rangeAt?_text text (.inl rfl)
    rw [List.append_nil] at read
    exact ⟨[r], ranges?_of_rangeAt? read, .cons reads .nil⟩
  | @more e es cs comma rest text textComma others ih =>
    obtain ⟨rs, readOthers, readsOthers⟩ := ih
    obtain ⟨r, read, reads⟩ := rangeAt?_text text (.inr ⟨comma, rest, textComma, rfl⟩)
    refine ⟨r :: rs, ?_, .cons reads readsOthers⟩
    rw [ranges?_of_comma textComma others read, readOthers, Option.map_some]

/-- Nothing but lists of the grammar is read. -/
theorem text_of_ranges? {cs : List Char} {rs : List Range} (h : ranges? cs = some rs) :
    ∃ es, ListText es cs ∧ List.Forall₂ Entry.Reads es rs := by
  induction cs using ranges?.induct generalizing rs with
  | case1 cs none =>
    rw [ranges?] at h
    split at h <;> simp_all
  | case2 cs r one =>
    rw [ranges?_of_rangeAt? one, Option.some.injEq] at h
    obtain ⟨e, text, textEntry, rfl, reads⟩ := text_of_rangeAt? one
    rw [List.append_nil]
    exact ⟨[e], .single textEntry, h ▸ .cons reads .nil⟩
  | case3 cs r c rest more none =>
    rw [ranges?_of_more more, none] at h
    contradiction
  | case4 cs r c rest more after comma ih =>
    rw [ranges?_of_more more, comma, Option.bind_some] at h
    obtain ⟨others, readOthers, rfl⟩ := Option.map_eq_some_iff.mp h
    obtain ⟨es, textOthers, readsOthers⟩ := ih readOthers
    obtain ⟨e, text, textEntry, rfl, reads⟩ := text_of_rangeAt? more
    obtain ⟨commaText, textComma, hcomma⟩ := text_of_commaAt? comma
    rw [hcomma, ← List.append_assoc]
    exact ⟨e :: es, .more textEntry textComma textOthers, .cons reads readsOthers⟩

/-! ## The whole text -/

theorem not_reads_ofText (e : Entry) (text : String) : ¬e.Reads (.ofText text) :=
  fun h => absurd h.first (by simp [Range.first, Range.ofText])

/-- The items of a list are told by the ranges that are read from it. -/
theorem reads_unique {es es' : List Entry} {rs : List Range} (h : List.Forall₂ Entry.Reads es rs)
    (h' : List.Forall₂ Entry.Reads es' rs) : es = es' := by
  induction h generalizing es' with
  | nil => cases h'; rfl
  | cons reads _ ih =>
    cases h' with
    | cons reads' others' => rw [reads.unique reads', ih others']

theorem exists_reads {es : List Entry} {rs : List Range} (h : List.Forall₂ Entry.Reads es rs)
    {r : Range} (mem : r ∈ rs) : ∃ e ∈ es, e.Reads r := by
  induction h with
  | nil => contradiction
  | cons reads _ ih =>
    rcases List.mem_cons.mp mem with rfl | mem
    · exact ⟨_, List.mem_cons_self, reads⟩
    · obtain ⟨e, he, reads⟩ := ih mem
      exact ⟨e, List.mem_cons_of_mem _ he, reads⟩

/-- Pages are read by the grammar, and by nothing else. A list of the grammar gives one range for
each of its items, with their pages, and only that list gives them, with or without white space
around it. A text that is no such list gives one range that is the text as it is, without pages
and without their number. -/
theorem read_grammar (text : String) :
    (∀ es, ListText es text.toList → List.Forall₂ Entry.Reads es (read text)) ∧
      (∀ es, List.Forall₂ Entry.Reads es (read text) ↔ ListText es (trimChars text.toList)) ∧
      ((∀ es, ¬ListText es (trimChars text.toList)) → read text = [.ofText text]) := by
  have spelled : ∀ es, ListText es (trimChars text.toList) →
      List.Forall₂ Entry.Reads es (read text) := by
    intro es list
    obtain ⟨rs, read, reads⟩ := ranges?_text list
    rw [Pages.read, read, Option.getD_some]
    exact reads
  refine ⟨fun es list => spelled es (by rwa [list.trimChars]), fun es => ⟨fun reads => ?_,
    spelled es⟩, fun other => ?_⟩
  · unfold read at reads
    rcases h : ranges? (trimChars text.toList) with _ | rs
    · rw [h, Option.getD_none] at reads
      cases reads with
      | cons first _ => exact absurd first (not_reads_ofText _ _)
    · rw [h, Option.getD_some] at reads
      obtain ⟨es', list, reads'⟩ := text_of_ranges? h
      rwa [reads_unique reads reads']
  · unfold read
    rcases h : ranges? (trimChars text.toList) with _ | rs
    · rfl
    · obtain ⟨es, list, -⟩ := text_of_ranges? h
      exact absurd list (other es)

/-- A range whose dash is an en dash and a hyphen, and a page that is not known. -/
def mixedEntries : List Entry :=
  [{ first := ['1', '0'], second := some ['2', '0'] }, { first := ['?', '?'] }]

theorem listText_mixed : ListText mixedEntries "10 –- 20\t,??".toList := by
  have ten : PageText ['1', '0'] := by decide
  have twenty : PageText ['2', '0'] := by decide
  have dash : DashText ([' '] ++ ['–', '-'] ++ [' ']) :=
    .spaced (by decide) (by decide) (by simp [isDash]) (by decide)
  have comma : CommaText (['\t'] ++ ',' :: []) := .spaced (by decide) (by decide)
  exact .more (.range ten dash twenty) comma (.single (.page (.inl rfl)))

/-- Two words are no list of pages. -/
theorem not_listText_words (es : List Entry) : ¬ListText es (trimChars "A page".toList) := by
  intro list
  obtain ⟨rs, read, -⟩ := ranges?_text list
  have more : rangeAt? (trimChars "A page".toList) =
      some (.ofPage ['A'], [' ', 'p', 'a', 'g', 'e']) := by decide +kernel
  rw [ranges?_of_more more] at read
  contradiction

theorem read_grammar_mixed :
    ListText mixedEntries "10 –- 20\t,??".toList ∧
      List.Forall₂ Entry.Reads mixedEntries (read "10 –- 20\t,??") ∧
      (∀ es, ¬ListText es (trimChars "A page".toList)) ∧
      read "A page" = [.ofText "A page"] :=
  ⟨listText_mixed, (read_grammar _).1 _ listText_mixed, not_listText_words,
    (read_grammar _).2.2 not_listText_words⟩

end CiteStyle.Pages
