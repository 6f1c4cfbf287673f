-- Locales: the terms and the date formats of a language. Terms stand in tables, one for
-- each form, and in a table under their names.
import CiteStyle.Entries
import CiteStyle.Locale.DateFormat
import CiteStyle.Text.Cut

namespace CiteStyle

open Text

/-- A locale. -/
structure Locale where
  /-- The tag of the language, such as en-US. -/
  lang : String
  /-- The tables of terms, by form, and in each table the terms by name. -/
  terms : List (TermForm × List (String × Term)) := []
  textDate : Option (List DateTemplate) := none
  numericDate : Option (List DateTemplate) := none
  deriving DecidableEq, Repr

namespace Locale

/-- The language without its region: en for en-US. -/
def language (l : Locale) : String :=
  String.ofList (l.lang.toList.takeWhile fun c => c != '-' && c != '_')

/-! ## Terms -/

/-- The table of the terms of a form. -/
def termsIn (l : Locale) (form : TermForm) : List (String × Term) :=
  (l.terms.lookup form).getD []

/-- Set a term, under its own form and name. -/
def setTerm (l : Locale) (t : Term) : Locale :=
  { l with terms := putEntry t.form (putEntry t.name t (l.termsIn t.form)) l.terms }

/-- The term of a name in exactly one form. -/
def termIn? (l : Locale) (name : String) (form : TermForm) : Option Term :=
  (l.termsIn form).lookup name

/-- A term that is set is the term of its name in its form, and all others stay. -/
theorem termIn?_setTerm (l : Locale) (t : Term) (name : String) (form : TermForm) :
    (l.setTerm t).termIn? name form =
      if form = t.form ∧ name = t.name then some t else l.termIn? name form := by
  unfold termIn? setTerm termsIn
  rw [lookup_putEntry]
  by_cases same : form = t.form
  · subst same
    simp [lookup_putEntry]
  · simp [same]

/-- The text of a term, in its form or in the first that stands in for it. -/
def term? (l : Locale) (name : String) (form : TermForm) (plural : Bool) : Option String :=
  (form.withFallbacks.findSome? (l.termIn? name)).map (·.value plural)

/-! ## Date formats -/

/-- The date format of a form. -/
def dateFormat? (l : Locale) : DateForm → Option (List DateTemplate)
  | .text => l.textDate
  | .numeric => l.numericDate

/-- Set the date format of a form. -/
def setDateFormat (l : Locale) (form : DateForm) (parts : List DateTemplate) : Locale :=
  match form with
  | .text => { l with textDate := some parts }
  | .numeric => { l with numericDate := some parts }

/-- The numeric date format has a day, and a month after it. -/
def dayBeforeMonth (l : Locale) : Bool :=
  match l.numericDate with
  | none => false
  | some parts =>
    match parts.findIdx? (·.component = .day), parts.findIdx? (·.component = .month) with
    | some day, some month => day < month
    | _, _ => false

/-! ## Overlay -/

/-- All terms, table by table. -/
def allTerms (l : Locale) : List Term := l.terms.flatMap fun (_, named) => named.map (·.2)

/-- The locale with the terms and date formats of another laid over its own. -/
def merge (l other : Locale) : Locale :=
  { other.allTerms.foldl setTerm l with
    textDate := other.textDate.or l.textDate
    numericDate := other.numericDate.or l.numericDate }

end Locale

end CiteStyle
