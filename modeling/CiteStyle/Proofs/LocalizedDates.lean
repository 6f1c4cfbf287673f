-- What a date element writes that leaves all to the locale: each component of
-- the format in turn, with the text of the locale in front of it and behind it.
-- A component that the date does not have is left out together with them.
import CiteStyle.Proofs.DateRanges
import CiteStyle.Render.Element

namespace CiteStyle

open Text Rendering

/-! ## Texts of buffers -/

namespace Buffer

theorem toList_plainText (b : Buffer) : b.plainText.toList = b.flatMap (·.content.toList) := by
  unfold plainText
  induction b with
  | nil => rfl
  | cons t rest ih => simp [String.join_cons, ih]

theorem toList_plainText_append (b c : Buffer) :
    (b ++ c).plainText.toList = b.plainText.toList ++ c.plainText.toList := by
  simp only [toList_plainText, List.flatMap_append]

theorem toList_plainText_ofText (kind : TokenKind) (s : String) :
    (ofText kind s).plainText.toList = s.toList := by
  unfold ofText
  split
  · rename_i empty
    rw [empty]
    rfl
  · simp [toList_plainText, Token.ofText, Token.content]

theorem toList_plainText_wrap (f : Formatting) (b : Buffer) :
    (b.wrap f).plainText.toList = b.plainText.toList := by
  have content (t : Token) : (t.wrap f).content = t.content := by
    cases t <;> rfl
  simp only [toList_plainText, wrap, List.flatMap_map, content]

end Buffer

/-! ## Decorations without changes of the text -/

namespace Decoration

/-- A decoration that leaves the texts within as they are: it has affixes, formatting and a
display group at most. -/
def KeepsText (d : Decoration) : Prop :=
  d = { display := d.display, affixes := d.affixes, formatting := d.formatting }

theorem toList_plainText_apply {d : Decoration} (keeps : d.KeepsText) (locale : Locale)
    (b : Buffer) : (d.apply locale b).plainText.toList =
      if b = [] then []
      else d.affixes.before.toList ++ b.plainText.toList ++ d.affixes.behind.toList := by
  have stages : d.apply locale b =
      applyTo Display.frame d.display (d.affixes.apply (b.wrap d.formatting)) := by
    rw [keeps]
    rfl
  have framed (c : Buffer) :
      (applyTo Display.frame d.display c).plainText.toList = c.plainText.toList := by
    unfold applyTo Display.frame
    split
    · split
      · rfl
      · simp [Buffer.toList_plainText, Token.content]
    · rfl
  rw [stages, framed]
  unfold Affixes.apply Buffer.prependText Buffer.appendText
  by_cases empty : b = []
  · subst empty
    rfl
  · rw [if_neg (by simpa [Buffer.wrap] using empty), if_neg empty]
    simp only [Buffer.toList_plainText_append, Buffer.toList_plainText_ofText,
      Buffer.toList_plainText_wrap]

end Decoration

/-! ## Components -/

namespace DatePart

variable {t : DateTemplate} {locale : Locale} {date : List Int}

theorem keepsText_ofTemplate (uncased : t.textCase = none) (unstripped : t.stripPeriods = false) :
    (ofTemplate t).decoration.KeepsText := by
  simp [Decoration.KeepsText, ofTemplate, uncased, unstripped]

/-- A component of a format that does not change its text stands between the texts of the
format. -/
theorem toList_write_ofTemplate (uncased : t.textCase = none) (unstripped : t.stripPeriods = false)
    {text : List Char} (filled : text ≠ [])
    (written : (ofTemplate t).text? locale none date = some (String.ofList text)) :
    ((ofTemplate t).write locale none date).plainText.toList =
      (t.before.getD "").toList ++ text ++ (t.behind.getD "").toList := by
  have keeps := keepsText_ofTemplate uncased unstripped
  have content : Buffer.ofText .plain (String.ofList text) ≠ [] := by
    simp [Buffer.ofText, filled]
  rw [write, written, Option.getD_some, Decoration.toList_plainText_apply keeps, if_neg content,
    Buffer.toList_plainText_ofText, String.toList_ofList]
  rfl

/-- A component that the date does not have is left out, and so are the texts around it. -/
theorem toList_write_absent (t : DateTemplate) (locale : Locale) (date : List Int)
    (uncased : t.textCase = none) (unstripped : t.stripPeriods = false)
    (absent : date[t.component.index]? = none) :
    ((ofTemplate t).write locale none date).plainText.toList = [] := by
  have keeps := keepsText_ofTemplate uncased unstripped
  have unwritten : (ofTemplate t).text? locale none date = none := by
    unfold text?
    cases component : t.component <;>
      simp_all [ofTemplate, DateComponent.index]
  rw [write, unwritten, Option.getD_none, Decoration.toList_plainText_apply keeps]
  rfl

end DatePart

/-! ## Elements -/

namespace DateElement

/-- A date element that asks for a format of the locale and shows all of it: it has no components
of its own, no affixes and no change of case. -/
structure Localized (e : DateElement) (form : DateForm) : Prop where
  form : e.form = some form
  whole : e.precision = .day
  bare : e.parts = []
  keeps : e.decoration.KeepsText
  unaffixed : e.decoration.affixes = {}

variable {e : DateElement} {form : DateForm}

theorem Localized.partsIn (h : e.Localized form) {locale : Locale} {templates : List DateTemplate}
    (format : locale.dateFormat? form = some templates) :
    e.partsIn locale = templates.map DatePart.ofTemplate := by
  have all (t : DateTemplate) : t.component.index ≤ DateComponent.day.index := by
    cases t.component <;> decide
  simp [DateElement.partsIn, h.form, h.whole, h.bare, format, all]

/-- A single date is written component by component, in the order of the format. -/
theorem renderContent_single {s : Setting} {p : Pass} {templates : List DateTemplate}
    (h : e.Localized form) (format : s.locale.dateFormat? form = some templates)
    {components : List Int} (filled : components ≠ [])
    (dated : s.date? p.suppressed e.subject = some (.ofParts components)) :
    (e.renderContent s p).1 =
      DatePart.writeAll s.locale none components (templates.map DatePart.ofTemplate) := by
  have peeked : peekDate s e.subject p = (some (.ofParts components), [], p) := by
    rw [← dated]
    rfl
  have value : (Date.ofParts components).value = some (.parts components components) := by
    simp [Date.value, Date.ofParts, filled]
  have shared : ∀ part ∈ templates.map DatePart.ofTemplate, part.shared components components :=
    fun part _ => by simp [DatePart.shared]
  have written := writeRangeFrom_shared s.locale none components components shared []
  have done : writeRangeFrom s.locale none components components {} [] = [] := rfl
  rw [List.append_nil, done, List.append_nil] at written
  rw [renderContent, bind_apply, peeked]
  dsimp only
  rw [value]
  show writeRange s.locale none components components (e.partsIn s.locale) = _
  rw [h.partsIn format, writeRange, if_pos rfl, written]

theorem toList_render {s : Setting} {p : Pass} {templates : List DateTemplate}
    (h : e.Localized form) (format : s.locale.dateFormat? form = some templates)
    {components : List Int} (filled : components ≠ [])
    (dated : s.date? p.suppressed e.subject = some (.ofParts components)) :
    (e.render s p).1.plainText.toList = (templates.map DatePart.ofTemplate).flatMap fun part =>
      (part.write s.locale none components).plainText.toList := by
  have rendered : (e.render s p).1 = e.decoration.apply s.locale (e.renderContent s p).1 := rfl
  have texts : (e.renderContent s p).1.plainText.toList =
      (templates.map DatePart.ofTemplate).flatMap fun part =>
        (part.write s.locale none components).plainText.toList := by
    rw [renderContent_single h format filled dated]
    simp only [DatePart.writeAll, Buffer.toList_plainText, List.flatMap_assoc]
  rw [← texts, rendered, Decoration.toList_plainText_apply h.keeps, h.unaffixed]
  split
  · rename_i empty
    rw [empty]
    rfl
  · simp

end DateElement

end CiteStyle
