-- Locales in JSON: terms by name, and date formats by form. A term is a text,
-- a pair of singular and plural, or a table of such by form.
import CiteStyle.Json.Fields
import CiteStyle.Locale.Basic

namespace CiteStyle.Locale

/-! ## Terms -/

/-- A term as it is written. -/
inductive TermEntry where
  | simple (text : String)
  | numbered (single multiple : String)
  | forms (entries : List (String × TermEntry))

/-- The singular and the plural of an entry that is no table. -/
def TermEntry.texts? : TermEntry → Option (String × String)
  | .simple text => some (text, text)
  | .numbered single multiple => some (single, multiple)
  | .forms _ => none

/-- The singular and the plural among the fields of an object, if both are there once and
are texts. -/
def numbered? (fields : List (String × Json)) : Option (String × String) :=
  let under (name : String) := fields.filter (·.1 = name)
  match under "single", under "multiple" with
  | [(_, .text single)], [(_, .text multiple)] => some (single, multiple)
  | _, _ => none

mutual
/-- The term that a value writes. -/
def TermEntry.ofJson? : Json → Option TermEntry
  | .text s => some (.simple s)
  | .object fields =>
    match numbered? fields with
    | some (single, multiple) => some (.numbered single multiple)
    | none => (formsOf? fields).map fun entries => .forms (lastWins entries)
  | _ => none

/-- The terms that the fields of an object write. -/
def formsOf? : List (String × Json) → Option (List (String × TermEntry))
  | [] => some []
  | (name, value) :: rest =>
    match TermEntry.ofJson? value, formsOf? rest with
    | some entry, some entries => some ((name, entry) :: entries)
    | _, _ => none
end

/-- A form of a term under the name of the form. -/
def setForm (name : String) (l : Locale) (entry : String × TermEntry) :
    Except LocaleFault Locale := do
  let form ← TermForm.ofName entry.1
  match entry.2.texts? with
  | some (single, multiple) => return l.setTerm ⟨name, form, single, multiple⟩
  | none => return l

/-- Set a term from its entry. A table inside of a table is passed over. -/
def setEntry (l : Locale) (entry : String × TermEntry) : Except LocaleFault Locale :=
  match entry.2 with
  | .forms entries => entries.foldlM (setForm entry.1) l
  | .simple text => .ok (l.setTerm ⟨entry.1, .long, text, text⟩)
  | .numbered single multiple => .ok (l.setTerm ⟨entry.1, .long, single, multiple⟩)

/-! ## Date formats -/

/-- The names of the fields of a date template, in order. -/
def templateFields : List String :=
  ["name", "form", "prefix", "suffix", "text-case", "strip-periods", "range-delimiter"]

/-- The date template that a value writes. -/
def templateOf? (scalars : Json.Scalars) (value : Json) : Option DateTemplate := do
  let fields ← value.knownFields? templateFields
  let name ← (← fields.lookup "name").choice? scalars
  let component ← (DateComponent.ofName name).toOption
  let text (name : String) := Json.optionalText? scalars (fields.lookup name)
  let stripPeriods ← match fields.lookup "strip-periods" with
    | none => some false
    | some (.bool b) => some b
    | some _ => none
  return { component, form := ← text "form", before := ← text "prefix",
           behind := ← text "suffix", textCase := ← text "text-case", stripPeriods,
           rangeDelimiter := ← text "range-delimiter" }

/-- The date format that a value writes. -/
def formatOf? (scalars : Json.Scalars) : Json → Option (List DateTemplate)
  | .array items => items.mapM (templateOf? scalars)
  | _ => none

/-- Set a date format under the name of its form. -/
def setFormat (l : Locale) (format : String × List DateTemplate) :
    Except LocaleFault Locale := do
  return l.setDateFormat (← DateForm.ofName format.1) format.2

/-! ## Locales -/

/-- The names of the fields of a locale, in order. -/
def localeFields : List String := ["locale", "terms", "dates"]

/-- A locale as it is written. -/
structure Source where
  lang : String
  terms : List (String × TermEntry)
  dates : List (String × List DateTemplate)

/-- The locale that a value writes, with its terms and formats not looked into. -/
def Source.ofJson? (scalars : Json.Scalars) (value : Json) : Option Source := do
  let fields ← value.knownFields? localeFields
  let lang ← (← fields.lookup "locale").textOf? scalars
  let terms ← match fields.lookup "terms" with
    | none => some []
    | some (.object entries) =>
      if entries.all (·.2.isPlain scalars 2) then formsOf? entries else none
    | some _ => none
  let dates ← match fields.lookup "dates" with
    | none => some []
    | some (.object entries) =>
      entries.mapM fun (name, value) => (formatOf? scalars value).map (name, ·)
    | some _ => none
  return ⟨lang, lastWins terms, lastWins dates⟩

/-- The locale that a source describes. Terms come before date formats. -/
def ofSource (source : Source) : Except LocaleFault Locale := do
  let l ← source.terms.foldlM setEntry { lang := source.lang }
  source.dates.foldlM setFormat l

end CiteStyle.Locale
