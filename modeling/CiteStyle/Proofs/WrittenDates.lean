-- Dates that American English writes are read back. The name of a month is read
-- up to the blank behind it, and no pattern that is asked earlier finds its marks
-- in the text: a month and a year have one blank only, a year alone has no mark
-- at all, and in numbers no year stands in front of a slash.
import CiteStyle.Locale.English
import CiteStyle.Proofs.LocalizedDates
import CiteStyle.Proofs.NumberedDates

namespace CiteStyle

open DateText Scan Text

/-! ## Names of months -/

namespace DateText

/-- No name of a month has a character like a stop. -/
def NamesApart (names : MonthNames) (stop : Char) : Prop :=
  (names.long ++ names.short).all fun name => name.1.toList.all fun c => !sameFolded c stop

/-- A name of a month is read in front of a stop as at the end of a text. -/
theorem halts_monthName {names : MonthNames} {stop : Char} (apart : NamesApart names stop)
    (other : stop ≠ '.') : Halts stop (monthName names) := by
  have word (name : String × Nat) (listed : name ∈ names.long ++ names.short) :
      Halts stop (word name.1.toList) := by
    have letters := List.all_eq_true.mp apart name listed
    exact halts_word fun c hc => by simpa using List.all_eq_true.mp letters c hc
  refine halts_map _ (halts_oneOf fun p tried => ?_)
  -- A short name may have a period behind it, which is not the stop.
  rcases List.mem_append.mp tried with long | short
  · obtain ⟨w, listed, rfl⟩ := List.mem_map.mp long
    obtain ⟨name, within, rfl⟩ := mem_byLength.mp listed
    exact word name (List.mem_append_left _ within)
  · obtain ⟨w, listed, rfl⟩ := List.mem_map.mp short
    obtain ⟨name, within, rfl⟩ := mem_byLength.mp listed
    exact halts_andThen (word name (List.mem_append_right _ within)) fun _ =>
      halts_map _ (halts_optional (halts_char other))

/-- A text is the name of a month: a reader of names reads it whole and knows the month. It has
letters only, as far as the marks of dates go. -/
structure NamesMonth (names : MonthNames) (text : List Char) (month : Nat) : Prop where
  filled : text ≠ []
  unmarked : ∀ c ∈ text, isBlank c = false ∧ isDigit c = false
  reads : Prefers (monthName names) text (.name text) []
  known : names.find? (String.ofList text) = some month

/-! ## Dates with the name of a month -/

section Names

variable {names : MonthNames} {text day year : List Char} {month : Nat}

theorem NamesMonth.head? (h : NamesMonth names text month) (rest : List Char) :
    ∀ c ∈ (text ++ rest).head?, isBlank c = false ∧ isDigit c = false :=
  fun c hc => h.unmarked c (mem_of_head?_append h.filled hc)

theorem prefers_blank {run : List Char} (digits : ∀ c ∈ run, isDigit c) (filled : run ≠ [])
    (rest : List Char) : Prefers (blanks 1) (' ' :: (run ++ rest)) () (run ++ rest) := by
  have blank : ∀ c ∈ [' '], isBlank c := by simp [isBlank]
  refine prefers_blanks blank (fun c hc => ?_) (by simp)
  exact isBlank_alphanumeric (isAlphanumeric_digit (digits c (mem_of_head?_append filled hc)))

theorem ordinalEnding_comma (rest : List Char) : ordinalEnding (',' :: rest) = [] := by
  have apart : sameFolded 't' ',' = false ∧ sameFolded 's' ',' = false ∧
      sameFolded 'n' ',' = false ∧ sameFolded 'r' ',' = false := by decide +kernel
  simp [ordinalEnding, oneOf, word, apart]

theorem find?_monthDayYear (hm : NamesMonth names text month) (apart : NamesApart names ' ')
    (hd : ShortNumber day) (hy : FullYear year) :
    (monthDayYear names).find? (text ++ ' ' :: (day ++ ',' :: ' ' :: year)) =
      some ⟨.long year, some (.name text), some day⟩ := by
  have readsName := (halts_monthName apart (by decide)).prefers hm.reads
    (day ++ ',' :: ' ' :: year)
  have readsBlank := prefers_blank hd.digits hd.ne_nil (',' :: ' ' :: year)
  have readsDay : Prefers DateText.day (day ++ ',' :: ' ' :: year) day (',' :: ' ' :: year) :=
    prefers_day hd (by simp [isDigit])
  have noEnding := prefers_none (ordinalEnding_comma (' ' :: year))
  have nothing : ∀ c ∈ ([] : List Char), isBlank c := by simp
  have noBlank : Prefers (blanks 0) (',' :: ' ' :: year) () (',' :: ' ' :: year) :=
    prefers_blanks nothing (by simp [isBlank]) (Nat.zero_le 0)
  have readsComma := (noBlank.andThen (f := fun _ => char ',')
    (prefers_char ',' (' ' :: year))).optional
  have readsSpace := prefers_blank hy.digits hy.ne_nil []
  rw [List.append_nil] at readsSpace
  have reads : Prefers (monthDayYear names) (text ++ ' ' :: (day ++ ',' :: ' ' :: year))
      ⟨.long year, some (.name text), some day⟩ [] := by
    unfold monthDayYear
    apply readsName.andThen
    apply readsBlank.andThen
    apply readsDay.andThen
    apply noEnding.andThen
    apply readsComma.andThen
    apply readsSpace.andThen
    exact (prefers_year hy).map _
  exact reads.find?

theorem find?_dayMonthYear (hm : NamesMonth names text month) (apart : NamesApart names ' ')
    (hy : FullYear year) : (dayMonthYear names).find? (text ++ ' ' :: year) =
      some ⟨.long year, some (.name text), none⟩ := by
  -- The day is optional in this pattern, and a name does not start with one.
  have noDay : DateText.day (text ++ ' ' :: year) = [] :=
    span_eq_nil (fun c hc => (hm.head? _ c hc).2) Nat.one_pos
  have unread : (andThen DateText.day fun d => andThen (optional (char '.')) fun _ =>
      Scan.map (fun _ => d) (blanks 1)) (text ++ ' ' :: year) = [] := by
    rw [Scan.andThen, noDay]
    rfl
  have readsName := (halts_monthName apart (by decide)).prefers hm.reads year
  have readsBlank := prefers_blank hy.digits hy.ne_nil []
  rw [List.append_nil] at readsBlank
  have reads : Prefers (dayMonthYear names) (text ++ ' ' :: year)
      ⟨.long year, some (.name text), none⟩ [] := by
    unfold dayMonthYear
    apply (prefers_none unread).andThen
    apply readsName.andThen
    apply readsBlank.andThen
    exact (prefers_year hy).map _
  exact reads.find?

end Names

end DateText

namespace DateReader

variable {reader : DateReader} {text day year : List Char} {month : Nat}

/-- A text that starts with a name of a month and ends with a year is kept as it is. -/
theorem trimChars_named (hm : NamesMonth reader.months text month) (hy : FullYear year)
    (between : List Char) : trimChars (String.ofList (text ++ between ++ year)).toList =
      text ++ between ++ year := by
  rw [String.toList_ofList]
  refine trimChars_of_ends (fun c hc => ?_) fun c hc => ?_
  · rw [List.append_assoc] at hc
    exact (hm.head? _ c hc).1
  · have digit := hy.digits c (mem_of_getLast?_append hy.ne_nil hc)
    exact isBlank_alphanumeric (isAlphanumeric_digit digit)

/-- As in May 5, 2020. -/
theorem read?_monthDayYear (hm : NamesMonth reader.months text month)
    (apart : NamesApart reader.months ' ') (hd : ShortNumber day) (hy : FullYear year)
    (low : month ≤ 12) :
    reader.read? (String.ofList (text ++ ' ' :: (day ++ ',' :: ' ' :: year))) =
      some ⟨some (digitsValue year), some month, some (digitsValue day)⟩ := by
  have trimmed := trimChars_named hm hy (' ' :: (day ++ [',', ' ']))
  simp only [List.append_assoc, List.cons_append, List.nil_append] at trimmed
  have number : reader.monthNumber (.name text) = some month := hm.known
  rw [read?_eq_findSome? reader trimmed]
  simp only [allPatterns, List.findSome?_cons, find?_monthDayYear hm apart hd hy, Option.map_some,
    toDate, number, yearNumber_full hy, readNat?_short hd, Option.bind_some, Bool.and_false,
    Bool.false_eq_true, if_false]
  rw [mend_of_le (by simpa using low)]

/-- As in May 2020. -/
theorem read?_monthYear (hm : NamesMonth reader.months text month)
    (apart : NamesApart reader.months ' ') (hy : FullYear year) (low : month ≤ 12) :
    reader.read? (String.ofList (text ++ ' ' :: year)) =
      some ⟨some (digitsValue year), some month, none⟩ := by
  have trimmed := trimChars_named hm hy [' ']
  simp only [List.append_assoc, List.cons_append, List.nil_append] at trimmed
  have number : reader.monthNumber (.name text) = some month := hm.known
  -- One blank is too few for a month, a day and a year.
  have oneBlank : (text ++ ' ' :: year).countP isBlank = 1 := by
    have none : text.countP isBlank = 0 :=
      List.countP_eq_zero.mpr fun c hc => by simp [(hm.unmarked c hc).1]
    rw [List.countP_append, none, List.countP_cons_of_pos (by decide),
      countP_digits (by decide) hy.digits]
  have h1 := (spends_monthDayYear reader.months).find?_eq_none (by rw [oneBlank]; decide)
  rw [read?_eq_findSome? reader trimmed]
  simp only [allPatterns, List.findSome?_cons, h1, find?_dayMonthYear hm apart hy, Option.map_none,
    Option.map_some, toDate, number, yearNumber_full hy, Option.bind_some, Option.bind_none,
    Bool.and_false, Bool.false_eq_true, if_false]
  rw [mend_of_le (by simpa using low)]

/-- A year alone. -/
theorem read?_year (hy : FullYear year) : reader.read? (String.ofList year) =
    some ⟨some (digitsValue year), none, none⟩ := by
  have blankless : year.countP isBlank = 0 := countP_digits (by decide) hy.digits
  have hyphenless : year.countP (· == '-') = 0 := countP_digits (by decide) hy.digits
  have dotless : year.countP (· == '.') = 0 := countP_digits (by decide) hy.digits
  have slashless : year.countP (· == '/') = 0 := countP_digits (by decide) hy.digits
  have h1 := (spends_yearMonthDay '.' leaves_month).find?_eq_none (by rw [dotless]; decide)
  have h2 := (spends_yearMonthDay '/' leaves_month).find?_eq_none (by rw [slashless]; decide)
  have h3 := spends_slashedNumbers.find?_eq_none (by rw [slashless]; decide)
  have h4 := (spends_slashedName reader.months).find?_eq_none (by rw [slashless]; decide)
  have h5 := spends_dottedNumbers.find?_eq_none (by rw [dotless]; decide)
  have found : yearAlone.find? year = some ⟨.long year, none, none⟩ :=
    ((prefers_year hy).map _).find?
  rw [read?_unhyphened reader blankless hyphenless]
  simp only [List.findSome?_cons, h1, h2, h3, h4, h5, found, Option.map_none, Option.map_some,
    toDate, yearNumber_full hy, Option.bind_none, Bool.and_false, Bool.false_eq_true, if_false]
  rw [mend_of_le (by simp)]

end DateReader

namespace Locale

/-- The names of the months in American English. -/
def englishMonths : MonthNames where
  long := [("january", 1), ("february", 2), ("march", 3), ("april", 4), ("may", 5), ("june", 6),
    ("july", 7), ("august", 8), ("september", 9), ("october", 10), ("november", 11),
    ("december", 12)]
  short := [("jan", 1), ("feb", 2), ("mar", 3), ("apr", 4), ("may", 5), ("jun", 6), ("jul", 7),
    ("aug", 8), ("sept", 9), ("oct", 10), ("nov", 11), ("dec", 12)]

/-- The long name of a month as it is written. -/
def englishName (m : Nat) : String := (English.months.map (·.2.1)).getD (m - 1) ""

theorem months_english : MonthNames.ofLocale english = englishMonths := by decide +kernel

theorem monthName_english {m : Nat} (low : 1 ≤ m) (high : m ≤ 12) :
    DatePartForm.monthName english .long m = englishName m := by
  have all : ∀ m ∈ List.range' 1 12,
      DatePartForm.monthName english .long (m : Nat) = englishName m := by
    decide +kernel
  exact all m (by simp; omega)

theorem namesApart_english : NamesApart englishMonths ' ' := by
  unfold NamesApart
  decide +kernel

theorem byLength_english : byLength englishMonths.long = ["september", "february", "november",
    "december", "january", "october", "august", "march", "april", "june", "july",
    "may"].map String.toList ∧ byLength englishMonths.short = ["sept", "jan", "feb", "mar", "apr",
    "may", "jun", "jul", "aug", "oct", "nov", "dec"].map String.toList := by
  constructor <;> cbv

theorem namesMonth_english {m : Nat} (low : 1 ≤ m) (high : m ≤ 12) :
    NamesMonth englishMonths (englishName m).toList m := by
  have all : ∀ m ∈ List.range' 1 12, (englishName m).toList ≠ [] ∧
      (englishName m).toList.all (fun c => !isBlank c && !isDigit c) ∧
      (monthName englishMonths (englishName m).toList).head? =
        some (.name (englishName m).toList, []) ∧
      englishMonths.find? (englishName m) = some m := by
    unfold monthName
    rw [byLength_english.1, byLength_english.2]
    decide +kernel
  obtain ⟨filled, unmarked, reads, known⟩ := all m (by simp; omega)
  refine ⟨filled, fun c hc => ?_, reads, by rwa [String.ofList_toList]⟩
  simpa using List.all_eq_true.mp unmarked c hc

end Locale

/-! ## Writing -/

namespace DatePartForm

theorem plainNumber_natCast (n : Nat) : plainNumber n = String.ofList (decimalDigits n) := by
  have nonneg : ¬(n : Int) < 0 := by omega
  simp [plainNumber, decimalInt, nonneg]

theorem twoDigits_natCast (n : Nat) : twoDigits n = String.ofList (paddedDigits 2 n) := by
  have nonneg : ¬(n : Int) < 0 := by omega
  simp [twoDigits, nonneg]

/-- From the year 1000 on no era is written. -/
theorem writeYear_plain {y : Nat} (low : 1000 ≤ y) (locale : Locale) :
    writeYear none locale y = String.ofList (decimalDigits y) := by
  rw [writeYear, if_neg (by omega), if_neg (by omega), if_neg (by simp), plainNumber_natCast]

end DatePartForm

namespace Locale.English

open DatePart DatePartForm

variable {y m d : Nat}

theorem toList_write_year (date : List Int) (low : 1000 ≤ y) (present : date[0]? = some (y : Int)) :
    ((ofTemplate { component := .year }).write english none date).plainText.toList =
      decimalDigits y := by
  have written : text? (ofTemplate { component := .year }) english none date =
      some (String.ofList (decimalDigits y)) := by
    rw [← writeYear_plain low english]
    show date[0]?.map _ = _
    rw [present]
    rfl
  rw [toList_write_ofTemplate rfl rfl (decimalDigits_ne_nil _) written]
  simp

theorem toList_write_month (date : List Int) (low : 1 ≤ m) (high : m ≤ 12)
    (present : date[1]? = some (m : Int)) :
    ((ofTemplate { component := .month, behind := some " " }).write english none
      date).plainText.toList = (englishName m).toList ++ [' '] := by
  have written : text? (ofTemplate { component := .month, behind := some " " }) english none date =
      some (String.ofList (englishName m).toList) := by
    show (date[1]?.map _).or none = _
    rw [present, String.ofList_toList, ← monthName_english low high]
    rfl
  rw [toList_write_ofTemplate rfl rfl (namesMonth_english low high).filled written]
  simp

theorem toList_write_day (date : List Int) (present : date[2]? = some (d : Int)) :
    ((ofTemplate { component := .day, behind := some ", " }).write english none
      date).plainText.toList = decimalDigits d ++ [',', ' '] := by
  have written : text? (ofTemplate { component := .day, behind := some ", " }) english none date =
      some (String.ofList (decimalDigits d)) := by
    show date[2]?.map _ = _
    rw [present, ← plainNumber_natCast]
    rfl
  rw [toList_write_ofTemplate rfl rfl (decimalDigits_ne_nil _) written]
  simp

/-- A month or a day in two digits. -/
theorem toList_write_padded (date : List Int) {c : DateComponent} {n : Nat}
    (listed : c = .month ∨ c = .day) (present : date[c.index]? = some (n : Int)) :
    ((ofTemplate { component := c, form := some "numeric-leading-zeros", behind := some "/" }).write
      english none date).plainText.toList = paddedDigits 2 n ++ ['/'] := by
  have form : ofName? "numeric-leading-zeros" = some numericLeadingZeros := by decide
  have written : text?
      (ofTemplate { component := c, form := some "numeric-leading-zeros", behind := some "/" })
      english none date = some (String.ofList (paddedDigits 2 n)) := by
    unfold text? ofTemplate
    rw [← twoDigits_natCast]
    rcases listed with rfl | rfl
    · rw [DateComponent.index] at present
      simp [present, form, writeMonth]
    · rw [DateComponent.index] at present
      simp [present, form, writeDay]
  rw [toList_write_ofTemplate rfl rfl (paddedDigits_ne_nil 2 n) written]
  simp

end Locale.English

namespace DateElement

open Locale.English

variable {s : Setting} {p : Pass} {e : DateElement} {y m d : Nat}

/-- The components of a date in words, one after another. -/
theorem toList_render_text (h : e.Localized .text) (own : s.locale = Locale.english)
    {date : List Int} (filled : date ≠ [])
    (dated : s.date? p.suppressed e.subject = some (.ofParts date)) :
    (e.render s p).1.plainText.toList = (textDate.map DatePart.ofTemplate).flatMap fun part =>
      (part.write Locale.english none date).plainText.toList := by
  have format : s.locale.dateFormat? .text = some textDate := by
    rw [own]
    rfl
  rw [toList_render h format filled dated, own]

/-- As in May 5, 2020. -/
theorem toList_render_monthDayYear (h : e.Localized .text) (own : s.locale = Locale.english)
    (lowYear : 1000 ≤ y) (lowMonth : 1 ≤ m) (highMonth : m ≤ 12)
    (dated : s.date? p.suppressed e.subject = some (.ofParts [(y : Int), (m : Int), (d : Int)])) :
    (e.render s p).1.plainText.toList = (Locale.englishName m).toList ++
      ' ' :: (decimalDigits d ++ ',' :: ' ' :: decimalDigits y) := by
  have month := toList_write_month [(y : Int), (m : Int), (d : Int)] lowMonth highMonth rfl
  have day := toList_write_day [(y : Int), (m : Int), (d : Int)] rfl
  have year := toList_write_year [(y : Int), (m : Int), (d : Int)] lowYear rfl
  rw [toList_render_text h own (List.cons_ne_nil _ _) dated]
  simp [textDate, month, day, year]

/-- As in May 2020. -/
theorem toList_render_monthYear (h : e.Localized .text) (own : s.locale = Locale.english)
    (lowYear : 1000 ≤ y) (lowMonth : 1 ≤ m) (highMonth : m ≤ 12)
    (dated : s.date? p.suppressed e.subject = some (.ofParts [(y : Int), (m : Int)])) :
    (e.render s p).1.plainText.toList =
      (Locale.englishName m).toList ++ ' ' :: decimalDigits y := by
  have month := toList_write_month [(y : Int), (m : Int)] lowMonth highMonth rfl
  have day := DatePart.toList_write_absent { component := .day, behind := some ", " }
    Locale.english [(y : Int), (m : Int)] rfl rfl rfl
  have year := toList_write_year [(y : Int), (m : Int)] lowYear rfl
  rw [toList_render_text h own (List.cons_ne_nil _ _) dated]
  simp [textDate, month, day, year]

/-- A year alone. -/
theorem toList_render_year (h : e.Localized .text) (own : s.locale = Locale.english)
    (lowYear : 1000 ≤ y) (dated : s.date? p.suppressed e.subject = some (.ofParts [(y : Int)])) :
    (e.render s p).1.plainText.toList = decimalDigits y := by
  have month := DatePart.toList_write_absent { component := .month, behind := some " " }
    Locale.english [(y : Int)] rfl rfl rfl
  have day := DatePart.toList_write_absent { component := .day, behind := some ", " }
    Locale.english [(y : Int)] rfl rfl rfl
  have year := toList_write_year [(y : Int)] lowYear rfl
  rw [toList_render_text h own (List.cons_ne_nil _ _) dated]
  simp [textDate, month, day, year]

/-- A date in digits, as 05/05/2020. -/
theorem toList_render_numeric (h : e.Localized .numeric) (own : s.locale = Locale.english)
    (lowYear : 1000 ≤ y)
    (dated : s.date? p.suppressed e.subject = some (.ofParts [(y : Int), (m : Int), (d : Int)])) :
    (e.render s p).1.plainText.toList =
      threeNumbers '/' (paddedDigits 2 m) (paddedDigits 2 d) (decimalDigits y) := by
  have format : s.locale.dateFormat? .numeric = some numericDate := by
    rw [own]
    rfl
  have month := toList_write_padded [(y : Int), (m : Int), (d : Int)] (.inl rfl) rfl
  have day := toList_write_padded [(y : Int), (m : Int), (d : Int)] (.inr rfl) rfl
  have year := toList_write_year [(y : Int), (m : Int), (d : Int)] lowYear rfl
  rw [toList_render h format (List.cons_ne_nil _ _) dated, own]
  simp [numericDate, threeNumbers, month, day, year]

/-! ## Reading back -/

/-- What American English writes of a date it reads back: year, month and day in words or in
numbers, and in words also a year with its month or alone. -/
theorem read?_render (own : s.locale = Locale.english) (e : DateElement) (p : Pass)
    (lowYear : 1000 ≤ y) (highYear : y ≤ maxSigned32) (lowMonth : 1 ≤ m) (highMonth : m ≤ 12)
    (highDay : d ≤ 31) :
    let reader := DateReader.ofLocale Locale.english
    let text := (e.render s p).1.plainText
    (∀ form, e.Localized form →
      s.date? p.suppressed e.subject = some (.ofParts [(y : Int), (m : Int), (d : Int)]) →
      reader.read? text = some ⟨some y, some m, some d⟩) ∧
    (e.Localized .text → s.date? p.suppressed e.subject = some (.ofParts [(y : Int), (m : Int)]) →
      reader.read? text = some ⟨some y, some m, none⟩) ∧
    (e.Localized .text → s.date? p.suppressed e.subject = some (.ofParts [(y : Int)]) →
      reader.read? text = some ⟨some y, none, none⟩) := by
  intro reader text
  have months : reader.months = Locale.englishMonths := Locale.months_english
  have monthFirst : reader.dayFirst = false := by decide
  have fullYear := fullYear_decimalDigits lowYear highYear
  have named : NamesMonth reader.months (Locale.englishName m).toList m := by
    rw [months]
    exact Locale.namesMonth_english lowMonth highMonth
  have apart : NamesApart reader.months ' ' := by
    rw [months]
    exact Locale.namesApart_english
  have written {cs : List Char} (h : (e.render s p).1.plainText.toList = cs) :
      text = String.ofList cs := by
    rw [← h, String.ofList_toList]
  refine ⟨fun form h dated => ?_, fun h dated => ?_, fun h dated => ?_⟩
  · cases form with
    | text =>
      have shortDay := shortNumber_decimalDigits (n := d) (by omega)
      rw [written (toList_render_monthDayYear h own lowYear lowMonth highMonth dated),
        DateReader.read?_monthDayYear named apart shortDay fullYear highMonth]
      simp only [digitsValue_decimalDigits]
    | numeric =>
      have shortMonth := shortNumber_paddedDigits (n := m) (by omega)
      have shortDay := shortNumber_paddedDigits (n := d) (by omega)
      have low : digitsValue (paddedDigits 2 m) ≤ 12 := by rwa [digitsValue_paddedDigits]
      have numbers := reader.toDate_numbers true fullYear shortMonth shortDay
        (by simpa [monthFirst] using low)
      rw [written (toList_render_numeric h own lowYear dated),
        DateReader.read?_slashed reader shortMonth shortDay fullYear, numbers]
      simp [monthFirst, digitsValue_decimalDigits, digitsValue_paddedDigits]
  · rw [written (toList_render_monthYear h own lowYear lowMonth highMonth dated),
      DateReader.read?_monthYear named apart fullYear highMonth, digitsValue_decimalDigits]
  · rw [written (toList_render_year h own lowYear dated), DateReader.read?_year fullYear,
      digitsValue_decimalDigits]

/-- A work with a date of its own, the month in which it was seen, and the year in which it first
came out. -/
def datedWork : Setting where
  record := { dates := [("issued", .ofParts [2020, 5, 15]), ("accessed", .ofParts [2021, 9]),
    ("original-date", .ofParts [1854])] }
  locale := Locale.english

/-- The date of a variable in a format of the locale. -/
def inFormat (form : DateForm) (subject : String) : DateElement where
  subject := subject
  form := some form
  precision := .day
  parts := []
  decoration := {}

theorem localized_inFormat (form : DateForm) (subject : String) :
    (inFormat form subject).Localized form := ⟨rfl, rfl, rfl, rfl, rfl⟩

theorem read?_render_datedWork :
    let dated := datedWork.date? []
    let read (form : DateForm) (subject : String) := (DateReader.ofLocale Locale.english).read?
      ((inFormat form subject).render datedWork {}).1.plainText
    (dated "issued" = some (.ofParts [2020, 5, 15]) ∧
      ∀ form, read form "issued" = some ⟨some 2020, some 5, some 15⟩) ∧
    (dated "accessed" = some (.ofParts [2021, 9]) ∧
      read .text "accessed" = some ⟨some 2021, some 9, none⟩) ∧
    (dated "original-date" = some (.ofParts [1854]) ∧
      read .text "original-date" = some ⟨some 1854, none, none⟩) := by
  have issued (form : DateForm) := (read?_render (s := datedWork) rfl (inFormat form "issued") {}
    (y := 2020) (m := 5) (d := 15) (by decide) (by decide) (by decide) (by decide) (by decide)).1
    form (localized_inFormat form "issued") rfl
  have accessed := (read?_render (s := datedWork) rfl (inFormat .text "accessed") {}
    (y := 2021) (m := 9) (d := 1) (by decide) (by decide) (by decide) (by decide) (by decide)).2.1
    (localized_inFormat .text "accessed") rfl
  have original := (read?_render (s := datedWork) rfl (inFormat .text "original-date") {}
    (y := 1854) (m := 1) (d := 1) (by decide) (by decide) (by decide) (by decide) (by decide)).2.2
    (localized_inFormat .text "original-date") rfl
  exact ⟨⟨rfl, issued⟩, ⟨rfl, accessed⟩, rfl, original⟩

end DateElement

end CiteStyle
