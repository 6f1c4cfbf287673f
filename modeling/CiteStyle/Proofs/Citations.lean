-- A citation of several works is put together from the bodies that its cites have
-- alone: those that are not empty, with the delimiter of the layout between them,
-- in its formatting and then in its affixes, which are all that a layout has. The
-- same is collected in place, from one session for each cite.
import CiteStyle.Proofs.InPlace
import CiteStyle.Proofs.PassAgreement
import CiteStyle.Render.Session.Layout

namespace CiteStyle

open Rendering Session

/-! ## Decorations of layouts -/

namespace Decoration

/-- A decoration with affixes and formatting only. -/
def IsPlain (d : Decoration) : Prop := d = { affixes := d.affixes, formatting := d.formatting }

theorem IsPlain.apply_eq {d : Decoration} (h : d.IsPlain) (locale : Locale) (b : Buffer) :
    d.apply locale b = d.affixes.apply (b.wrap d.formatting) := by
  rw [h]
  rfl

end Decoration

theorem Layout.isPlain_ofXml {e : Xml.Element} {layout : Layout}
    (h : Layout.ofXml e = .ok layout) : layout.decoration.IsPlain := by
  obtain ⟨nameOptions, -, h⟩ := except_bind_ok h
  split at h
  · cases h
  · obtain ⟨elements, -, h⟩ := except_bind_ok h
    cases h
    rfl

theorem Sections.isPlain_add {found found' : Sections} {e : Xml.Element}
    (before : ∀ l ∈ found.citation, l.decoration.IsPlain) (h : found.add e = .ok found') :
    ∀ l ∈ found'.citation, l.decoration.IsPlain := by
  unfold Sections.add at h
  split at h
  · cases h
    exact before
  · obtain ⟨name, -, h⟩ := except_bind_ok h
    obtain ⟨children, -, h⟩ := except_bind_ok h
    cases h
    exact before
  · obtain ⟨layout, read, h⟩ := except_bind_ok h
    cases h
    intro l mem
    cases mem
    exact Layout.isPlain_ofXml read
  · obtain ⟨layout, -, h⟩ := except_bind_ok h
    cases h
    exact before
  · cases h
    exact before

/-! ## Joined bodies -/

namespace Buffer

theorem joinWith_eq_intercalate (delimiter : String) (bs : List Buffer) :
    joinWith delimiter bs = (ofText .delimiter delimiter).intercalate bs := by
  induction bs with
  | nil => rfl
  | cons b rest ih =>
    cases rest with
    | nil => exact List.intercalate_singleton.symm
    | cons next rest =>
      rw [List.intercalate_cons_cons, ← ih]
      rfl

theorem joinFilled_single (delimiter : String) (b : Buffer) : joinFilled delimiter [b] = b := by
  cases b <;> rfl

theorem joinFilled_blank (delimiter : String) (before after : List Buffer) :
    joinFilled delimiter (before ++ [] :: after) = joinFilled delimiter (before ++ after) := by
  unfold joinFilled
  rw [List.filter_append, List.filter_append]
  rfl

end Buffer

/-! ## Layouts in place -/

theorem Layout.renderInto_eq (layout : Layout) :
    layout.renderInto = output fun s =>
      Element.renderWithin { s with nameOptions := s.nameOptions.merge layout.nameOptions }
        s.callDepth layout.elements := by
  unfold Layout.renderInto
  simp only [renderEach_eq]
  rfl

namespace Style

variable {config : Config} {root : Xml.Element} {style : Style}

/-! ## Layouts of accepted styles -/

theorem isPlain_sections {elements : List Xml.Element} {found found' : Sections}
    (before : ∀ l ∈ found.citation, l.decoration.IsPlain)
    (h : elements.foldlM Sections.add found = .ok found') :
    ∀ l ∈ found'.citation, l.decoration.IsPlain :=
  foldlM_keeps (fun _ _ _ => Sections.isPlain_add) before h

/-- The citation layout of an accepted style has affixes and formatting only. -/
theorem isPlain_citation (accepted : ofXml config root = .ok style) :
    style.citation.decoration.IsPlain := by
  obtain ⟨style', read, checked⟩ := except_bind_ok accepted
  obtain ⟨-, -, same⟩ := except_bind_ok checked
  cases same
  obtain ⟨found, sections, read⟩ := except_bind_ok read
  split at read
  · cases read
  · rename_i citation given
    obtain ⟨rangeFormat, -, read⟩ := except_bind_ok read
    obtain ⟨nameOptions, -, read⟩ := except_bind_ok read
    cases read
    exact isPlain_sections (by simp) sections citation given

/-! ## Citations -/

/-- The body of a cite in a citation of its own, with the readers of dates that are at hand. -/
def bodyAlone (style : Style) (locale : Locale) (readers : DateReaders)
    (cited : Record × Cite) : Buffer :=
  (style.renderBody style.citation locale cited.1 cited.2 readers).1

/-- No cite says anything to the next: the bodies are those that the cites have alone. -/
theorem renderBodies_alone (style : Style) (locale : Locale) (readers : DateReaders)
    (cites : List (Record × Cite)) :
    (style.renderBodies locale cites readers).1 = cites.map (style.bodyAlone locale readers) := by
  have follows := readers.follows_ofTable locale.consulted locale.consulted_apart
  exact (renderBodies_blind (fun _ mem => mem) style cites follows follows).1

theorem renderCitation_apply (style : Style) (locale : Locale) (readers : DateReaders)
    (cites : List (Record × Cite)) :
    (style.renderCitation locale cites readers).1 =
      style.citation.decoration.apply locale (Buffer.joinFilled (style.citation.delimiter.getD "")
        (cites.map (style.bodyAlone locale readers))) := by
  rw [← renderBodies_alone]
  rfl

/-- A citation of one work is what that cite gives. -/
theorem renderCitation_single (style : Style) (locale : Locale) (record : Record) (cite : Cite) :
    style.renderCitation locale [(record, cite)] = style.renderCite locale record cite := by
  funext readers
  exact congrArg (fun b => (style.citation.decoration.apply locale b, _))
    (Buffer.joinFilled_single _ _)

/-- A cite that shows nothing may be left out. -/
theorem renderCitation_blank (style : Style) (locale : Locale) (readers : DateReaders)
    (before after : List (Record × Cite)) {cited : Record × Cite}
    (blank : style.bodyAlone locale readers cited = []) :
    (style.renderCitation locale (before ++ cited :: after) readers).1 =
      (style.renderCitation locale (before ++ after) readers).1 := by
  rw [renderCitation_apply, renderCitation_apply, List.map_append, List.map_cons, blank,
    List.map_append, Buffer.joinFilled_blank]

/-! ## Citations in place -/

theorem renderInPlace_eq (style : Style) (layout : Layout) (locale : Locale) (record : Record)
    (cite : Cite) :
    style.renderInPlace layout locale record cite = style.renderIn layout locale record cite := by
  have within := inChild_output fun s =>
    Element.renderWithin { s with nameOptions := s.nameOptions.merge layout.nameOptions }
      s.callDepth layout.elements
  rw [← Layout.renderInto_eq] at within
  funext readers
  unfold renderInPlace
  dsimp only
  rw [decorated_perform _ within, output_apply, map_apply]
  rfl

theorem collectCites_eq (style : Style) (locale : Locale) (cites : List (Record × Cite)) :
    ∀ collected, style.collectCites locale collected cites =
      (List.foldl (Buffer.appendItem (style.citation.delimiter.getD "")) collected ·) <$>
        style.renderBodies locale cites := by
  induction cites with
  | nil => exact fun _ => rfl
  | cons cited rest ih =>
    intro collected
    rw [collectCites, Layout.renderInto_eq]
    funext readers
    dsimp only
    rw [output_apply, ih]
    rfl

theorem citationInPlace_eq (accepted : ofXml config root = .ok style) (locale : Locale)
    (cites : List (Record × Cite)) :
    style.citationInPlace locale cites = style.renderCitation locale cites := by
  have joined : (List.foldl (Buffer.appendItem (style.citation.delimiter.getD "")) [] ·) =
      Buffer.joinFilled (style.citation.delimiter.getD "") :=
    funext fun bodies => Buffer.foldl_appendItem _ bodies []
  unfold citationInPlace renderCitation
  rw [collectCites_eq, joined, bind_map_left]
  simp only [(isPlain_citation accepted).apply_eq]

/-! ## Cites alone -/

/-- A citation of an accepted style is made of the bodies that its cites have alone: those that
are not empty, with a token for the delimiter between them if the layout has one, in the
formatting and then in the affixes of the layout. It is the same if it is collected in place. So
what one cite suppresses or labels says nothing to the others, the citation of one work is what
its cite gives, in place as well, and a cite that shows nothing may be left out. -/
theorem renderCitation_alone (accepted : ofXml config root = .ok style) (locale : Locale)
    (readers : DateReaders) :
    let alone := style.bodyAlone locale readers
    let gap := Buffer.ofText .delimiter (style.citation.delimiter.getD "")
    (∀ cites, style.citationInPlace locale cites = style.renderCitation locale cites) ∧
      (∀ cites, (style.renderCitation locale cites readers).1 =
        style.citation.decoration.affixes.apply
          (Buffer.wrap style.citation.decoration.formatting
            (gap.intercalate ((cites.map alone).filter (!·.isEmpty))))) ∧
      (∀ cites, (style.renderBodies locale cites readers).1 = cites.map alone) ∧
      (∀ record cite,
        style.renderCitation locale [(record, cite)] = style.renderCite locale record cite ∧
          style.citationInPlace locale [(record, cite)] =
            style.renderInPlace style.citation locale record cite) ∧
      ∀ before cited after, alone cited = [] →
        (style.renderCitation locale (before ++ cited :: after) readers).1 =
          (style.renderCitation locale (before ++ after) readers).1 := by
  intro alone gap
  refine ⟨citationInPlace_eq accepted locale, fun cites => ?_,
    style.renderBodies_alone locale readers, fun record cite => ?_, fun before cited after => ?_⟩
  · rw [renderCitation_apply, (isPlain_citation accepted).apply_eq, Buffer.joinFilled,
      Buffer.joinWith_eq_intercalate]
  · have single := style.renderCitation_single locale record cite
    refine ⟨single, ?_⟩
    rw [citationInPlace_eq accepted, single, renderInPlace_eq]
    rfl
  · exact style.renderCitation_blank locale readers before after

/-- A style whose names are replaced by the title, which then does not count. -/
def titledCites : Xml.Element :=
  ⟨"style", [], none, [⟨"citation", [], none, [⟨"layout",
    [("prefix", "("), ("suffix", ")"), ("delimiter", "; "), ("font-style", "italic")], none, [
      ⟨"names", [("variable", "author")], none,
        [⟨"substitute", [], none, [⟨"text", [("variable", "title")], none, []⟩]⟩]⟩,
      ⟨"text", [("variable", "title"), ("prefix", ", ")], none, []⟩]⟩]⟩]⟩

/-- The style that is read from it. -/
def titledStyle : Style where
  citation := {
    elements := [
      .names ["author"] ⟨{}, none, false, "", {}⟩ [.text ⟨.ofVariable "title" false, {}⟩],
      .text ⟨.ofVariable "title" false, { affixes := { before := ", " } }⟩]
    delimiter := some "; "
    decoration := {
      affixes := { before := "(", behind := ")" }
      formatting := { fontStyle := some .italic } } }
  callDepth := 2

theorem renderCitation_alone_titled :
    ofXml { callDepth := 2 } titledCites = .ok titledStyle ∧
      (titledStyle.renderCitation Locale.english
        [({ texts := [("title", "Beowulf")] }, {}), ({}, {}),
          ({ texts := [("title", "First Book")], names := [("author", [.ofLiteral "Doe"])] }, {})]
        []).1.plainText = "(Beowulf; Doe, First Book)" := by
  have accepted : ofXml { callDepth := 2 } titledCites = .ok titledStyle := by cbv
  refine ⟨accepted, ?_⟩
  rw [(renderCitation_alone accepted Locale.english []).2.1]
  decide

end Style

end CiteStyle
