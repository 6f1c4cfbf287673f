-- Output as HTML. Whatever its tokens are, it is read without a fault: the tags
-- close each other, what they leave is the plain text, and no text has a say in
-- which tags and attributes there are.
import CiteStyle.Proofs.HtmlReading
import CiteStyle.Proofs.MarkupWalk

namespace CiteStyle.Html

/-! ## Elements -/

/-- Contents are put into an element that starts with a tag. -/
structure Encloses (f : String → String) (tag : StartTag) : Prop where
  reads : ∀ {s pieces}, Reads s pieces → Reads (f s) (tag.around pieces)

theorem encloses_emphasis : Encloses Markup.html.emphasis { name := "i".toList } :=
  ⟨Reads.tagged rfl rfl⟩

theorem encloses_strong : Encloses Markup.html.strong { name := "b".toList } :=
  ⟨Reads.tagged rfl rfl⟩

/-- The tag of a span of some style. -/
def spanTag (style : String) : StartTag := ⟨"span".toList, [("style".toList, style.toList)]⟩

theorem encloses_smallCaps : Encloses Markup.html.smallCaps (spanTag "font-variant:small-caps") :=
  ⟨Reads.tagged rfl rfl⟩

theorem encloses_underline :
    Encloses Markup.html.underline (spanTag "text-decoration:underline") :=
  ⟨Reads.tagged rfl rfl⟩

theorem encloses_superscript : Encloses Markup.html.superscript { name := "sup".toList } :=
  ⟨Reads.tagged rfl rfl⟩

theorem encloses_subscript : Encloses Markup.html.subscript { name := "sub".toList } :=
  ⟨Reads.tagged rfl rfl⟩

/-- The tag of a display group. -/
def displayTag (d : Display) : StartTag :=
  ⟨"div".toList, [("class".toList, ("csl-" ++ d.name).toList)]⟩

theorem encloses_display (d : Display) : Encloses (Markup.html.display d) (displayTag d) := by
  refine ⟨Reads.tagged ?_ rfl⟩
  cases d <;> rfl

/-- The tag of a link. -/
def linkTag (location : String) : StartTag := ⟨"a".toList, [("href".toList, location.toList)]⟩

theorem encloses_link (location : String) :
    Encloses (Markup.html.link location) (linkTag location) := by
  refine ⟨Reads.tagged ?_ rfl⟩
  have parts : "<" ++ "a" ++ Markup.tagAttribute "href" (Markup.escape location) ++ ">" =
      "<a href=\"" ++ Markup.escape location ++ "\">" := by
    apply String.toList_injective
    simp [Markup.tagAttribute]
  rw [parts, String.toList_append, String.toList_append]
  have before : Place.content.walk "<a href=\"".toList =
      some (.value { name := "a".toList } "href".toList [], []) := rfl
  have behind : (Place.value { name := "a".toList } "href".toList location.toList).walk
      "\">".toList = some (.content, [.start (linkTag location)]) := rfl
  exact Place.walk_append (Place.walk_append before (Place.walk_escape_value _ _ _ _)) behind

/-! ## What is read -/

/-- A text is read as pieces that show another text. -/
def Shows (s t : String) : Prop := ∃ pieces, Reads s pieces ∧ shownText pieces = t

/-- Two texts are read as pieces with the same tags. -/
def SameTags (s t : String) : Prop :=
  ∃ pieces others, Reads s pieces ∧ Reads t others ∧ outline pieces = outline others

theorem Encloses.shows {f : String → String} {tag : StartTag} (h : Encloses f tag) {s t : String} :
    Shows s t → Shows (f s) t := by
  rintro ⟨pieces, reads, shown⟩
  exact ⟨tag.around pieces, h.reads reads, by rw [shownText_around, shown]⟩

theorem Encloses.sameTags {f f' : String → String} {tag tag' : StartTag} (h : Encloses f tag)
    (h' : Encloses f' tag') (same : tag.blank = tag'.blank) {s t : String} :
    SameTags s t → SameTags (f s) (f' t) := by
  rintro ⟨pieces, others, reads, reads', tags⟩
  refine ⟨tag.around pieces, tag'.around others, h.reads reads, h'.reads reads', ?_⟩
  rw [outline_around, outline_around, same, tags]

theorem shows_sideBySide : Markup.SideBySide Markup.html Markup.bare id Shows where
  empty := ⟨[], .empty, rfl⟩
  append := by
    rintro s s' t t' ⟨a, ha, rfl⟩ ⟨b, hb, rfl⟩
    exact ⟨a ++ b, ha.append hb, shownText_append a b⟩
  text s := ⟨_, .escape s, by rw [shownText_map_shown, String.ofList_toList]; rfl⟩
  emphasis := encloses_emphasis.shows
  strong := encloses_strong.shows
  smallCaps := encloses_smallCaps.shows
  underline := encloses_underline.shows
  superscript := encloses_superscript.shows
  subscript := encloses_subscript.shows
  link location _ _ _ := (encloses_link location).shows
  display d _ _ := (encloses_display d).shows

theorem sameTags_sideBySide (change : String → String) :
    Markup.SideBySide Markup.html Markup.html change SameTags where
  empty := ⟨[], [], .empty, .empty, rfl⟩
  append := by
    rintro s s' t t' ⟨a, a', ha, ha', same⟩ ⟨b, b', hb, hb', same'⟩
    refine ⟨a ++ b, a' ++ b', ha.append hb, ha'.append hb', ?_⟩
    rw [outline_append, outline_append, same, same']
  text s := ⟨_, _, .escape s, .escape (change s), by rw [outline_map_shown, outline_map_shown]⟩
  emphasis := encloses_emphasis.sameTags encloses_emphasis rfl
  strong := encloses_strong.sameTags encloses_strong rfl
  smallCaps := encloses_smallCaps.sameTags encloses_smallCaps rfl
  underline := encloses_underline.sameTags encloses_underline rfl
  superscript := encloses_superscript.sameTags encloses_superscript rfl
  subscript := encloses_subscript.sameTags encloses_subscript rfl
  link location location' _ _ := (encloses_link location).sameTags (encloses_link location') rfl
  display d _ _ := (encloses_display d).sameTags (encloses_display d) rfl

/-! ## Buffers -/

/-- Any output is written as HTML whose tags close each other and leave the plain text. The tags
and their attributes do not depend on the texts. -/
theorem write_wellFormed (b : Buffer) :
    ∃ pieces, read? (Markup.html.write b) = some pieces ∧
      nested [] pieces ∧
      shownText pieces = b.plainText ∧
      ∀ change, ∃ others, read? (Markup.html.write (b.map (·.mapText change))) = some others ∧
        outline others = outline pieces := by
  have unchanged : b.map (·.mapText id) = b := by
    rw [List.map_congr_left (g := id), List.map_id]
    intro t _
    cases t <;> rfl
  have shown := shows_sideBySide.write b
  rw [unchanged, Markup.write_bare] at shown
  obtain ⟨pieces, reads, text⟩ := shown
  refine ⟨pieces, reads.read?_eq, reads.nested_eq, text, fun change => ?_⟩
  obtain ⟨pieces', others, reads', readsOthers, tags⟩ := (sameTags_sideBySide change).write b
  -- A text is read in one way only.
  obtain rfl : pieces' = pieces := by
    simpa [reads'.read?_eq] using reads.read?_eq
  exact ⟨others, readsOthers.read?_eq, tags.symm⟩

-- Marks that do not match leave whole tags all the same.
example : Markup.html.write [.displayEnd .block, .displayStart .indent, .text .url "<i>" .unset] =
    "<div class=\"csl-indent\"><a href=\"&lt;i&gt;\">&lt;i&gt;</a></div>" := by decide +kernel

end CiteStyle.Html
