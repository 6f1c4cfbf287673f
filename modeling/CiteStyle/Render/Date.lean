-- Writing dates. Of a range, the components that both ends share are written
-- once; the others are written for each end, with a delimiter between them.
import CiteStyle.Render.Number

namespace CiteStyle

open Text

/-! ## Components -/

/-- A number with two digits or more. -/
def twoDigits (n : Int) : String :=
  String.ofList (if n < 0 then decimalInt n else paddedDigits 2 n.toNat)

/-- A number in decimal. -/
def plainNumber (n : Int) : String := String.ofList (decimalInt n)

/-- A season: the term of the locale for one of the four by its number, or else the text as it
is. -/
def seasonText (locale : Locale) (text : String) : String :=
  match readNat? 255 (trimChars text.toList) with
  | some n =>
    if 1 ≤ n && n ≤ 4 then (locale.term? (numberedName "season" n) .long false).getD text
    else text
  | none => text

namespace DatePartForm

/-- The number of years before the first one. It has 32 bits, like the year, so that the number of
the least year wraps around to the year itself. -/
def yearsBefore (year : Int) : Int := (-Int32.ofInt year).toInt

/-- A year. One before the year 1000 is followed by its era. -/
def writeYear (form : Option DatePartForm) (locale : Locale) (year : Int) : String :=
  let era (name : String) := (locale.term? name .long false).getD ""
  if year < 0 then plainNumber (yearsBefore year) ++ era "bc"
  else if year < 1000 then plainNumber year ++ era "ad"
  else if form = some .short then twoDigits (year % 100)
  else plainNumber year

/-- The name of a month, or its number if the locale has no name for it. -/
def monthName (locale : Locale) (form : TermForm) (month : Int) : String :=
  (locale.term? ("month-" ++ twoDigits month) form false).getD (plainNumber month)

/-- A month. -/
def writeMonth (form : Option DatePartForm) (locale : Locale) (month : Int) : String :=
  match form with
  | some .short => monthName locale .short month
  | some .numeric => plainNumber month
  | some .numericLeadingZeros => twoDigits month
  | _ => monthName locale .long month

/-- A day. -/
def writeDay (form : Option DatePartForm) (locale : Locale) (day : Int) : String :=
  match form with
  | some .numericLeadingZeros => twoDigits day
  | some .ordinal => if 0 < day then locale.ordinal day.toNat else plainNumber day
  | _ => plainNumber day

end DatePartForm

namespace DatePart

/-- The text of a component of a date, if the date has it. A season stands in for a month. -/
def text? (p : DatePart) (locale : Locale) (season : Option String) (date : List Int) :
    Option String :=
  match p.component with
  | .year => date[0]?.map (DatePartForm.writeYear p.form locale)
  | .month => (date[1]?.map (DatePartForm.writeMonth p.form locale)).or
      (season.map (seasonText locale))
  | .day => date[2]?.map (DatePartForm.writeDay p.form locale)

/-- A component of a date. -/
def write (p : DatePart) (locale : Locale) (season : Option String) (date : List Int) : Buffer :=
  p.decoration.apply locale (Buffer.ofText .plain ((p.text? locale season date).getD ""))

/-! ## Ranges -/

/-- What stands between the ends of a range that differ from a component on. -/
def delimiter (p : DatePart) : String := p.rangeDelimiter.getD "–"

/-- Both ends of a range agree on a component and on all that are more significant. -/
def shared (p : DatePart) (first last : List Int) : Bool :=
  first.take (p.component.index + 1) = last.take (p.component.index + 1)

end DatePart

/-- Components that are written for each end of a range and not yet joined. -/
structure OpenRange where
  first : Buffer := []
  last : Buffer := []
  /-- The most significant of the components. -/
  leading : Option DatePart := none

namespace OpenRange

/-- Take in one more component. -/
def add (r : OpenRange) (p : DatePart) (first last : Buffer) : OpenRange where
  first := r.first ++ first
  last := r.last ++ last
  leading := match r.leading with
    | some q => if p.component.index < q.component.index then some p else some q
    | none => some p

/-- Join the two ends, without a text that would stand behind the first or in front of the
last. An end without output is left out. -/
def close (r : OpenRange) : Buffer :=
  if r.first.isEmpty then r.last
  else if r.last.isEmpty then r.first
  else
    let delimiter := (r.leading.map DatePart.delimiter).getD "–"
    (Buffer.trimLast .behind r.first).2 ++ Buffer.ofText .plain delimiter
      ++ (Buffer.trimFirst .before r.last).2

end OpenRange

/-- The rest of a range, after components that are not yet joined. -/
def writeRangeFrom (locale : Locale) (season : Option String) (first last : List Int)
    (r : OpenRange) : List DatePart → Buffer
  | [] => r.close
  | p :: rest =>
    let atFirst := p.write locale season first
    if p.shared first last then
      r.close ++ atFirst ++ writeRangeFrom locale season first last {} rest
    else
      writeRangeFrom locale season first last (r.add p atFirst (p.write locale season last)) rest

/-- A range of dates. Ends with different numbers of components cannot be joined, and the first
one stands for both. -/
def writeRange (locale : Locale) (season : Option String) (first last : List Int)
    (parts : List DatePart) : Buffer :=
  let last := if first.length = last.length then last else first
  writeRangeFrom locale season first last {} parts

/-! ## Formats of the locale -/

namespace DatePart

/-- A component as a locale writes it. -/
def ofTemplate (t : DateTemplate) : DatePart where
  component := t.component
  form := t.form.bind DatePartForm.ofName?
  decoration := {
    affixes := ⟨t.before.getD "", t.behind.getD ""⟩
    textCase := t.textCase.bind TextCase.ofName?
    stripPeriods := t.stripPeriods }
  rangeDelimiter := t.rangeDelimiter

/-- A component as a locale writes it, with the changes that a style asks for. The affixes
always stay those of the locale. -/
def changed (p : DatePart) (own : DatePart) : DatePart where
  component := p.component
  form := own.form.or p.form
  decoration := { p.decoration with
    textCase := own.decoration.textCase.or p.decoration.textCase
    stripPeriods := own.decoration.stripPeriods || p.decoration.stripPeriods
    formatting := p.decoration.formatting.merge own.decoration.formatting }
  rangeDelimiter := own.rangeDelimiter.or p.rangeDelimiter

end DatePart

namespace DateElement

/-- The components that a date element writes: those of the format of the locale, as far as
they are shown and with the changes of the element, or else its own. -/
def partsIn (e : DateElement) (locale : Locale) : List DatePart :=
  match e.form.bind locale.dateFormat? with
  | none => e.parts
  | some templates =>
    (templates.filter (·.component.index ≤ e.precision.index)).map fun t =>
      match e.parts.find? (·.component = t.component) with
      | some own => (DatePart.ofTemplate t).changed own
      | none => .ofTemplate t

end DateElement

end CiteStyle
