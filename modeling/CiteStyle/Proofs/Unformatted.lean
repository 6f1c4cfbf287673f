-- Output and elements without their formatting. Every way to put output together
-- commutes with taking the formatting away: what is written in the end is the same
-- whether it goes from the output or from the elements that ask for it.
import CiteStyle.Render.Element
import CiteStyle.Style.Basic

namespace CiteStyle

/-! ## Output -/

/-- A token in which no formatting is set. -/
def Token.unformatted : Token → Token
  | .text kind s _ => .text kind s .unset
  | t => t

namespace Buffer

/-- Output in which no formatting is set. -/
def unformatted (b : Buffer) : Buffer := b.map Token.unformatted

@[simp] theorem unformatted_nil : unformatted [] = [] := rfl

@[simp] theorem unformatted_cons (t : Token) (b : Buffer) :
    unformatted (t :: b) = t.unformatted :: b.unformatted := rfl

@[simp] theorem unformatted_append (a b : Buffer) :
    (a ++ b).unformatted = a.unformatted ++ b.unformatted := List.map_append

@[simp] theorem isEmpty_unformatted (b : Buffer) : b.unformatted.isEmpty = b.isEmpty :=
  List.isEmpty_map

@[simp] theorem unformatted_ofText (kind : TokenKind) (s : String) :
    (ofText kind s).unformatted = ofText kind s := by
  unfold ofText
  split <;> rfl

@[simp] theorem unformatted_flatten (bs : List Buffer) :
    unformatted bs.flatten = (bs.map unformatted).flatten := List.map_flatten

@[simp] theorem unformatted_prependText (b : Buffer) (kind : TokenKind) (s : String) :
    (b.prependText kind s).unformatted = b.unformatted.prependText kind s := by
  simp [prependText]

@[simp] theorem unformatted_appendText (b : Buffer) (kind : TokenKind) (s : String) :
    (b.appendText kind s).unformatted = b.unformatted.appendText kind s := by
  simp [appendText]

@[simp] theorem unformatted_mapText (f : String → String) (b : Buffer) :
    (b.mapText f).unformatted = b.unformatted.mapText f := by
  have mapped (t : Token) : (t.mapText f).unformatted = t.unformatted.mapText f := by
    cases t <;> rfl
  have empty (t : Token) : t.unformatted.isEmptyText = t.isEmptyText := by
    cases t <;> rfl
  unfold unformatted mapText
  simp only [List.map_map, List.filter_map, Function.comp_def, ← mapped, empty]

/-- Whatever formatting is laid over output, none of it is left. -/
@[simp] theorem unformatted_wrap (outer : Formatting) (b : Buffer) :
    (b.wrap outer).unformatted = b.unformatted.wrap .unset := by
  unfold unformatted wrap
  simp only [List.map_map]
  refine List.map_congr_left fun t _ => ?_
  cases t <;> rfl

@[simp] theorem unformatted_trimLast (kind : TokenKind) (b : Buffer) :
    (b.unformatted.trimLast kind).2 = (b.trimLast kind).2.unformatted := by
  have ofKind (t : Token) : t.unformatted.isOfKind kind = t.isOfKind kind := by
    cases t <;> rfl
  unfold trimLast unformatted
  rw [List.getLast?_map]
  cases b.getLast? with
  | none => rfl
  | some t =>
    simp only [Option.map_some, ofKind]
    split
    · exact List.map_dropLast.symm
    · rfl

@[simp] theorem unformatted_trimFirst (kind : TokenKind) (b : Buffer) :
    (b.unformatted.trimFirst kind).2 = (b.trimFirst kind).2.unformatted := by
  cases b with
  | nil => rfl
  | cons t rest =>
    have ofKind : t.unformatted.isOfKind kind = t.isOfKind kind := by
      cases t <;> rfl
    simp only [unformatted_cons, trimFirst, ofKind]
    split <;> rfl

theorem unformatted_joinWith (delimiter : String) (bs : List Buffer) :
    (joinWith delimiter bs).unformatted = joinWith delimiter (bs.map unformatted) := by
  induction bs with
  | nil => rfl
  | cons b rest ih =>
    cases rest with
    | nil => rfl
    | cons next rest =>
      simp only [joinWith, List.map_cons, unformatted_append, unformatted_ofText] at ih ⊢
      rw [ih]

@[simp] theorem unformatted_joinFilled (delimiter : String) (bs : List Buffer) :
    (joinFilled delimiter bs).unformatted = joinFilled delimiter (bs.map unformatted) := by
  unfold joinFilled
  rw [unformatted_joinWith, List.filter_map]
  simp only [Function.comp_def, isEmpty_unformatted]

end Buffer

/-! ## Decorations -/

/-- A decoration that sets no formatting. -/
def Decoration.unformatted (d : Decoration) : Decoration := { d with formatting := .unset }

@[simp] theorem Affixes.unformatted_apply (a : Affixes) (b : Buffer) :
    (a.apply b).unformatted = a.apply b.unformatted := by
  unfold apply
  simp only [Buffer.isEmpty_unformatted, apply_ite Buffer.unformatted,
    Buffer.unformatted_appendText, Buffer.unformatted_prependText]

namespace Decoration

theorem unformatted_applyStage (locale : Locale) (d : Decoration) (b : Buffer) (stage : Stage) :
    (d.applyStage locale b stage).unformatted =
      d.unformatted.applyStage locale b.unformatted stage := by
  cases stage with
  | formatting => exact b.unformatted_wrap d.formatting
  | stripPeriods =>
    show (if d.stripPeriods then b.stripPeriods else b).unformatted =
      if d.stripPeriods then b.unformatted.stripPeriods else b.unformatted
    split
    · exact b.unformatted_mapText _
    · rfl
  | textCase =>
    show (applyTo (Buffer.changeCase locale) d.textCase b).unformatted =
      applyTo (Buffer.changeCase locale) d.textCase b.unformatted
    unfold applyTo
    split
    · exact b.unformatted_mapText _
    · rfl
  | quotes =>
    show (if d.quotes then b.quoted locale else b).unformatted =
      if d.quotes then b.unformatted.quoted locale else b.unformatted
    unfold Buffer.quoted
    simp only [Buffer.isEmpty_unformatted, apply_ite Buffer.unformatted,
      Buffer.unformatted_appendText, Buffer.unformatted_prependText]
  | affixes => exact d.affixes.unformatted_apply b
  | display =>
    show (applyTo Display.frame d.display b).unformatted =
      applyTo Display.frame d.display b.unformatted
    unfold applyTo Display.frame
    split
    · simp only [Buffer.isEmpty_unformatted, apply_ite Buffer.unformatted,
        Buffer.unformatted_append, Buffer.unformatted_cons]
      rfl
    · rfl

/-- Formatting decides on nothing else that a decoration does. -/
@[simp] theorem unformatted_apply (locale : Locale) (d : Decoration) (b : Buffer) :
    (d.apply locale b).unformatted = d.unformatted.apply locale b.unformatted := by
  unfold apply
  induction Stage.inOrder generalizing b with
  | nil => rfl
  | cons stage rest ih => rw [List.foldl_cons, List.foldl_cons, ih, unformatted_applyStage]

end Decoration

/-! ## Names -/

namespace NameFormat

/-- How names are written, without formatting. -/
def unformatted (f : NameFormat) : NameFormat :=
  { f with
    family := f.family.unformatted
    given := f.given.unformatted
    decoration := f.decoration.unformatted }

variable (f : NameFormat) (locale : Locale)

@[simp] theorem unformatted_styled (d : Decoration) (s : String) :
    (styled locale d s).unformatted = styled locale d.unformatted s := rfl

@[simp] theorem unformatted_withParticle (d : Decoration) (particle : Option String)
    (b : Buffer) :
    (withParticle locale d particle b).unformatted =
      withParticle locale d.unformatted particle b.unformatted := by
  unfold withParticle spaced
  split <;> simp

@[simp] theorem unformatted_withEnding (ending : Option String) (b : Buffer) :
    (withEnding ending b).unformatted = withEnding ending b.unformatted := by
  unfold withEnding spaced
  split <;> simp

@[simp] theorem unformatted_familyPart (n : Name) :
    (f.familyPart locale n).unformatted = f.unformatted.familyPart locale n := by
  unfold familyPart
  split
  · rfl
  · simp only [Affixes.unformatted_apply, apply_ite Buffer.unformatted, unformatted_withEnding,
      unformatted_withParticle, Buffer.unformatted_cons, Buffer.unformatted_nil,
      unformatted_styled]
    rfl

@[simp] theorem unformatted_givenPart (o : NameOptions) (besideFamily : Bool) (n : Name) :
    (f.givenPart o locale besideFamily n).unformatted =
      f.unformatted.givenPart o locale besideFamily n := by
  unfold givenPart
  simp only [Affixes.unformatted_apply, apply_ite Buffer.unformatted, Buffer.unformatted_cons,
    Buffer.unformatted_nil, unformatted_styled]
  rfl

@[simp] theorem unformatted_writeName (o : NameOptions) (inverted : Bool) (n : Name) :
    (f.writeName o locale inverted n).unformatted =
      f.unformatted.writeName o locale inverted n := by
  have form : f.unformatted.form = f.form := rfl
  unfold writeName
  cases n.literal with
  | some s => simp
  | none =>
    simp only [← unformatted_familyPart, ← unformatted_givenPart, Buffer.isEmpty_unformatted, form,
      apply_ite Buffer.unformatted, Buffer.unformatted_joinFilled, List.map_cons, List.map_nil]

theorem unformatted_joinNames (delimiter : String) (joint : Buffer) (bs : List Buffer) :
    (joinNames delimiter joint bs).unformatted =
      joinNames delimiter joint.unformatted (bs.map Buffer.unformatted) := by
  induction bs with
  | nil => rfl
  | cons b rest ih =>
    match rest with
    | [] => rfl
    | [_] => simp [joinNames]
    | _ :: _ :: _ =>
      simp only [joinNames, List.map_cons, Buffer.unformatted_append,
        Buffer.unformatted_ofText] at ih ⊢
      rw [ih]

@[simp] theorem unformatted_lastJoint (o : NameOptions) (count : Nat) :
    (f.lastJoint o locale count).unformatted = f.unformatted.lastJoint o locale count := by
  unfold lastJoint
  simp only [apply_ite Buffer.unformatted, Buffer.unformatted_append, Buffer.unformatted_ofText,
    Buffer.unformatted_nil]
  rfl

@[simp] theorem unformatted_remainder (o : NameOptions) (kept : Nat) :
    (f.remainder o locale kept).unformatted = f.unformatted.remainder o locale kept := by
  unfold remainder
  simp only [apply_ite Buffer.unformatted, Buffer.unformatted_append, Buffer.unformatted_ofText]
  rfl

@[simp] theorem unformatted_write (inherited : NameOptions) (names : List Name) :
    (f.write inherited locale names).unformatted = f.unformatted.write inherited locale names := by
  have count : f.unformatted.count inherited names = f.count inherited names := rfl
  unfold write
  simp only [count, Decoration.unformatted_apply, apply_ite Buffer.unformatted,
    Buffer.unformatted_append, Buffer.unformatted_joinWith, unformatted_joinNames,
    unformatted_remainder, unformatted_lastJoint, Buffer.unformatted_nil, List.map_take,
    List.map_map, Function.comp_def, unformatted_writeName]
  rfl

end NameFormat

/-! ## Numbers and dates -/

@[simp] theorem NumberForm.unformatted_writeAll (form : NumberForm) (locale : Locale)
    (text : String) : (form.writeAll locale text).unformatted = form.writeAll locale text := by
  unfold writeAll
  split
  · unfold Buffer.unformatted
    rw [List.map_flatMap]
    exact congrArg (Numeric.tokens text).flatMap
      (funext fun token => Buffer.unformatted_ofText .plain _)
  · exact Buffer.unformatted_ofText .plain text

/-- A component of a date, without formatting. -/
def DatePart.unformatted (p : DatePart) : DatePart :=
  { p with decoration := p.decoration.unformatted }

@[simp] theorem DatePart.unformatted_write (p : DatePart) (locale : Locale)
    (season : Option String) (date : List Int) :
    (p.write locale season date).unformatted = p.unformatted.write locale season date := by
  unfold write
  rw [Decoration.unformatted_apply, Buffer.unformatted_ofText]
  rfl

namespace OpenRange

/-- A range that is not yet joined, without formatting. -/
def unformatted (r : OpenRange) : OpenRange where
  first := r.first.unformatted
  last := r.last.unformatted
  leading := r.leading.map DatePart.unformatted

theorem unformatted_add (r : OpenRange) (p : DatePart) (first last : Buffer) :
    (r.add p first last).unformatted =
      r.unformatted.add p.unformatted first.unformatted last.unformatted := by
  have leading : (r.add p first last).leading.map DatePart.unformatted =
      (r.unformatted.add p.unformatted first.unformatted last.unformatted).leading := by
    unfold add unformatted
    cases r.leading with
    | none => rfl
    | some q => exact apply_ite (Option.map DatePart.unformatted) _ _ _
  unfold unformatted at leading ⊢
  rw [leading]
  unfold add
  simp

theorem unformatted_close (r : OpenRange) : r.close.unformatted = r.unformatted.close := by
  have delimiter : ((r.leading.map DatePart.unformatted).map DatePart.delimiter) =
      r.leading.map DatePart.delimiter := by
    cases r.leading <;> rfl
  unfold close unformatted
  simp only [Buffer.isEmpty_unformatted, apply_ite Buffer.unformatted, Buffer.unformatted_append,
    Buffer.unformatted_ofText, Buffer.unformatted_trimLast, Buffer.unformatted_trimFirst,
    delimiter]

end OpenRange

theorem unformatted_writeRangeFrom (locale : Locale) (season : Option String)
    (first last : List Int) (r : OpenRange) (parts : List DatePart) :
    (writeRangeFrom locale season first last r parts).unformatted =
      writeRangeFrom locale season first last r.unformatted (parts.map DatePart.unformatted) := by
  induction parts generalizing r with
  | nil => exact r.unformatted_close
  | cons p rest ih =>
    have shared : p.unformatted.shared first last = p.shared first last := rfl
    simp only [writeRangeFrom, List.map_cons, shared]
    split
    · rw [Buffer.unformatted_append, Buffer.unformatted_append, r.unformatted_close,
        p.unformatted_write, ih]
      rfl
    · rw [ih, r.unformatted_add, p.unformatted_write, p.unformatted_write]

@[simp] theorem unformatted_writeRange (locale : Locale) (season : Option String)
    (first last : List Int) (parts : List DatePart) :
    (writeRange locale season first last parts).unformatted =
      writeRange locale season first last (parts.map DatePart.unformatted) :=
  unformatted_writeRangeFrom locale season first _ {} parts

/-- A date, without formatting. -/
def DateElement.unformatted (e : DateElement) : DateElement :=
  { e with
    parts := e.parts.map DatePart.unformatted
    decoration := e.decoration.unformatted }

/-- The components of a format of the locale keep the formatting of the element, and no more. -/
theorem DateElement.unformatted_partsIn (e : DateElement) (locale : Locale) :
    (e.partsIn locale).map DatePart.unformatted = e.unformatted.partsIn locale := by
  have changed (t : DateTemplate) (own : DatePart) :
      ((DatePart.ofTemplate t).changed own).unformatted =
        (DatePart.ofTemplate t).changed own.unformatted := rfl
  have template (t : DateTemplate) :
      (DatePart.ofTemplate t).unformatted = DatePart.ofTemplate t := rfl
  have sameComponent (t : DateTemplate) :
      (e.parts.map DatePart.unformatted).find? (·.component = t.component) =
        (e.parts.find? (·.component = t.component)).map DatePart.unformatted :=
    List.find?_map ..
  unfold partsIn
  have form : e.unformatted.form = e.form := rfl
  rw [form]
  cases e.form.bind locale.dateFormat? with
  | none => rfl
  | some templates =>
    have parts : e.unformatted.parts = e.parts.map DatePart.unformatted := rfl
    have precision : e.unformatted.precision = e.precision := rfl
    simp only [List.map_map, parts, precision]
    refine List.map_congr_left fun t _ => ?_
    simp only [Function.comp_apply, sameComponent]
    cases e.parts.find? (·.component = t.component) with
    | none => exact template t
    | some own => exact changed t own

/-! ## Elements -/

/-- A text, without formatting. -/
def TextElement.unformatted (e : TextElement) : TextElement :=
  { e with decoration := e.decoration.unformatted }

/-- A number, without formatting. -/
def NumberElement.unformatted (e : NumberElement) : NumberElement :=
  { e with decoration := e.decoration.unformatted }

/-- A label, without formatting. -/
def LabelElement.unformatted (e : LabelElement) : LabelElement :=
  { e with decoration := e.decoration.unformatted }

/-- How lists of names are written, without formatting. -/
def NamesFormat.unformatted (f : NamesFormat) : NamesFormat :=
  { f with
    name := f.name.unformatted
    label := f.label.map LabelElement.unformatted
    decoration := f.decoration.unformatted }

namespace Element

mutual
/-- An element that sets no formatting, at any depth. -/
def unformatted : Element → Element
  | .text e => .text e.unformatted
  | .number e => .number e.unformatted
  | .label e => .label e.unformatted
  | .date e => .date e.unformatted
  | .names subjects format substitute =>
    .names subjects format.unformatted (unformattedAll substitute)
  | .group delimiter decoration children =>
    .group delimiter decoration.unformatted (unformattedAll children)
  | .choose branches => .choose (unformattedBranches branches)

/-- Some elements that set no formatting. -/
def unformattedAll : List Element → List Element
  | [] => []
  | e :: rest => unformatted e :: unformattedAll rest

/-- The branches of a choice whose elements set no formatting. -/
def unformattedBranches : List Branch → List Branch
  | [] => []
  | .mk condition children :: rest =>
    .mk condition (unformattedAll children) :: unformattedBranches rest
end

end Element

/-- Macros whose elements set no formatting. -/
def Macros.unformatted (macros : Macros) : Macros :=
  macros.map fun (name, elements) => (name, Element.unformattedAll elements)

theorem Macros.lookup_unformatted (macros : Macros) (name : String) :
    macros.unformatted.lookup name = (macros.lookup name).map Element.unformattedAll :=
  lookup_map_values Element.unformattedAll macros name

/-! ## Styles -/

/-- A layout that sets no formatting. -/
def Layout.unformatted (layout : Layout) : Layout :=
  { layout with
    elements := Element.unformattedAll layout.elements
    decoration := layout.decoration.unformatted }

/-- A style that sets no formatting, in its macros and in its layouts. Styles that are the same
without formatting differ in nothing else. -/
def Style.unformatted (style : Style) : Style :=
  { style with
    macros := style.macros.unformatted
    citation := style.citation.unformatted
    bibliography := style.bibliography.map Layout.unformatted }

/-- What is rendered by, where macros set no formatting. -/
def Setting.unformatted (s : Setting) : Setting := { s with macros := s.macros.unformatted }

/-- A pass whose last label sets no formatting. -/
def Pass.unformatted (p : Pass) : Pass :=
  { p with lastLabel := p.lastLabel.map LabelElement.unformatted }

end CiteStyle
