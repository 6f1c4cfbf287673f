-- The locale of American English.
import CiteStyle.Locale.Basic

namespace CiteStyle.Locale.English

/-! ## Terms -/

/-- Terms with no plural of their own. -/
def simpleTerms : List (String × String) :=
  [("and", "and"), ("and others", "and others"), ("anonymous", "anonymous"), ("at", "at"),
   ("accessed", "accessed"), ("available at", "available at"), ("by", "by"),
   ("circa", "circa"), ("et-al", "et al."), ("forthcoming", "forthcoming"), ("from", "from"),
   ("ibid", "ibid."), ("in", "in"), ("in press", "in press"), ("no date", "no date"),
   ("online", "online"), ("presented at", "presented at the"), ("retrieved", "retrieved"),
   ("ad", "AD"), ("bc", "BC"), ("open-quote", "“"), ("close-quote", "”"),
   ("open-inner-quote", "‘"), ("close-inner-quote", "’"), ("page-range-delimiter", "–"),
   ("ordinal", "th"), ("ordinal-01", "st"), ("ordinal-02", "nd"), ("ordinal-03", "rd"),
   ("ordinal-11", "th"), ("ordinal-12", "th"), ("ordinal-13", "th"),
   ("long-ordinal-01", "first"), ("long-ordinal-02", "second"), ("long-ordinal-03", "third"),
   ("long-ordinal-04", "fourth"), ("long-ordinal-05", "fifth"), ("long-ordinal-06", "sixth"),
   ("long-ordinal-07", "seventh"), ("long-ordinal-08", "eighth"), ("long-ordinal-09", "ninth"),
   ("long-ordinal-10", "tenth"), ("season-01", "spring"), ("season-02", "summer"),
   ("season-03", "autumn"), ("season-04", "winter")]

/-- The long and the short name of each month. -/
def months : List (String × String × String) :=
  [("month-01", "January", "Jan."), ("month-02", "February", "Feb."),
   ("month-03", "March", "Mar."), ("month-04", "April", "Apr."), ("month-05", "May", "May"),
   ("month-06", "June", "Jun."), ("month-07", "July", "Jul."), ("month-08", "August", "Aug."),
   ("month-09", "September", "Sept."), ("month-10", "October", "Oct."),
   ("month-11", "November", "Nov."), ("month-12", "December", "Dec.")]

/-- The long and the short form of each label, singular and plural. -/
def labels : List (String × (String × String) × (String × String)) :=
  [("book", ("book", "books"), ("bk.", "bks.")),
   ("chapter", ("chapter", "chapters"), ("chap.", "chaps.")),
   ("column", ("column", "columns"), ("col.", "cols.")),
   ("figure", ("figure", "figures"), ("fig.", "figs.")),
   ("folio", ("folio", "folios"), ("fol.", "fols.")),
   ("issue", ("issue", "issues"), ("no.", "nos.")),
   ("line", ("line", "lines"), ("l.", "ll.")),
   ("note", ("note", "notes"), ("n.", "nn.")),
   ("number", ("number", "numbers"), ("no.", "nos.")),
   ("opus", ("opus", "opera"), ("op.", "opp.")),
   ("page", ("page", "pages"), ("p.", "pp.")),
   ("paragraph", ("paragraph", "paragraph"), ("para.", "paras.")),
   ("part", ("part", "parts"), ("pt.", "pts.")),
   ("section", ("section", "sections"), ("sec.", "secs.")),
   ("sub verbo", ("sub verbo", "sub verbis"), ("s.v.", "s.vv.")),
   ("verse", ("verse", "verses"), ("v.", "vv.")),
   ("volume", ("volume", "volumes"), ("vol.", "vols.")),
   ("edition", ("edition", "editions"), ("ed.", "eds.")),
   ("editor", ("editor", "editors"), ("ed.", "eds.")),
   ("translator", ("translator", "translators"), ("tran.", "trans.")),
   ("director", ("director", "directors"), ("dir.", "dirs.")),
   ("illustrator", ("illustrator", "illustrators"), ("ill.", "ills.")),
   ("editortranslator", ("editor & translator", "editors & translators"),
    ("ed. & tran.", "eds. & trans."))]

/-- The verb and its short form for each role. -/
def verbs : List (String × String × String) :=
  [("editor", "edited by", "ed."), ("translator", "translated by", "trans."),
   ("director", "directed by", "dir."), ("illustrator", "illustrated by", "illus."),
   ("editortranslator", "edited & translated by", "ed. & trans.")]

/-- All terms. -/
def terms : List Term :=
  simpleTerms.map (fun (name, text) => ⟨name, .long, text, text⟩)
    ++ [⟨"circa", .short, "c.", "c."⟩, ⟨"no date", .short, "n.d.", "n.d."⟩,
        ⟨"and", .symbol, "&", "&"⟩]
    ++ months.flatMap (fun (name, long, short) =>
        [⟨name, .long, long, long⟩, ⟨name, .short, short, short⟩])
    ++ labels.flatMap (fun (name, (long, longs), (short, shorts)) =>
        [⟨name, .long, long, longs⟩, ⟨name, .short, short, shorts⟩])
    ++ [⟨"page", .symbol, "p.", "pp."⟩, ⟨"section", .symbol, "§", "§§"⟩,
        ⟨"paragraph", .symbol, "¶", "¶¶"⟩]
    ++ verbs.flatMap (fun (name, verb, short) =>
        [⟨name, .verb, verb, verb⟩, ⟨name, .verbShort, short, short⟩])

/-- All terms in tables, by form and by name. -/
def tables : List (TermForm × List (String × Term)) :=
  [.long, .short, .symbol, .verb, .verbShort].map fun form =>
    (form, (terms.filter (·.form = form)).map fun t => (t.name, t))

/-! ## Date formats -/

/-- Month, day and year, as in May 5, 2020. -/
def textDate : List DateTemplate :=
  [{ component := .month, behind := some " " }, { component := .day, behind := some ", " },
   { component := .year }]

/-- Month, day and year in digits, as in 05/05/2020. -/
def numericDate : List DateTemplate :=
  [{ component := .month, form := some "numeric-leading-zeros", behind := some "/" },
   { component := .day, form := some "numeric-leading-zeros", behind := some "/" },
   { component := .year }]

end CiteStyle.Locale.English

namespace CiteStyle.Locale

/-- The locale of American English. -/
def english : Locale where
  lang := "en-US"
  terms := English.tables
  textDate := some English.textDate
  numericDate := some English.numericDate

end CiteStyle.Locale
