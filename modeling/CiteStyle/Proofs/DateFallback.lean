-- A text is read as a date in the own locale, and then in American English. But
-- every pattern reads a year, and the last pattern of every locale is a year
-- alone, so that American English is never asked to any effect.
import CiteStyle.Locale.English
import CiteStyle.Proofs.DateScans
import CiteStyle.Proofs.ReaderTables

namespace CiteStyle

open DateText Rendering Text

/-! ## One reader -/

theorem DateText.patterns_concat (names : MonthNames) :
    (patterns names).dropLast ++ [⟨yearAlone, false⟩] = patterns names := by
  refine List.dropLast_append_getLast? _ ?_
  unfold patterns
  rw [List.getLast?_append]
  rfl

namespace DateReader

variable (reader : DateReader) (text : String)

/-- A reader reads just those texts that have a year somewhere. -/
theorem read?_isSome_iff :
    (reader.read? text).isSome ↔ (year.find? (trimChars text.toList)).isSome := by
  unfold read?
  rw [List.findSome?_isSome_iff]
  constructor
  · rintro ⟨pattern, mem, found⟩
    exact (includes_year mem).find?_isSome (by simpa using found)
  · intro found
    refine ⟨⟨yearAlone, false⟩, ?_, ?_⟩
    · rw [← patterns_concat]
      exact List.mem_append_right _ List.mem_cons_self
    · simpa [yearAlone, Scan.find?_map] using found

/-- What one reader cannot read, no reader can. -/
theorem read?_eq_none_iff (other : DateReader) :
    reader.read? text = none ↔ other.read? text = none := by
  rw [← Option.not_isSome_iff_eq_none, ← Option.not_isSome_iff_eq_none, read?_isSome_iff,
    read?_isSome_iff]

/-- Where no other pattern is found, a reader gives the first year in the text, and no month and
no day. -/
theorem read?_of_yearAlone (unfound : ∀ pattern ∈ (patterns reader.months).dropLast,
      pattern.scan.find? (trimChars text.toList) = none) :
    reader.read? text = (year.find? (trimChars text.toList)).map fun y =>
      ⟨yearNumber y, none, none⟩ := by
  have before : (patterns reader.months).dropLast.findSome? (fun pattern =>
      (pattern.scan.find? (trimChars text.toList)).map (reader.toDate pattern.localOrder)) =
        none :=
    List.findSome?_eq_none_iff.mpr fun pattern mem => by rw [unfound pattern mem]; rfl
  unfold read?
  rw [← patterns_concat, List.findSome?_append, before, Option.none_or, List.findSome?_singleton,
    yearAlone, Scan.find?_map, Option.map_map]
  refine congrArg (Option.map · _) (funext fun y => ?_)
  simp [toDate, mend]

end DateReader

/-! ## Several readers -/

namespace DateReaders

variable {text : String} {reader : DateReader}

theorem read?_of_none (unread : reader.read? text = none) (locales : List Locale) :
    ∀ readers : DateReaders, (readers.read? text locales).1 = none := by
  induction locales with
  | nil => exact fun _ => rfl
  | cons l rest ih =>
    intro readers
    rw [read?_cons, (reader.read?_eq_none_iff text _).mp unread]
    exact ih _

/-- The first locale decides alone. -/
theorem read?_cons_fst (readers : DateReaders) (text : String) (l : Locale)
    (rest : List Locale) :
    (readers.read? text (l :: rest)).1 = (readers.reader l).1.read? text := by
  rw [read?_cons]
  rcases unread : (readers.reader l).1.read? text with _ | date
  · exact read?_of_none unread rest _
  · rfl

end DateReaders

/-! ## Reading in a pass -/

/-- A text is read as the own locale alone reads it. Where a year alone is all that is found
there, the answer is the first year in the text, and no month and no day, even if another reader
finds more. -/
theorem Rendering.readDate_own {s : Setting} {fallback : Locale}
    (enabled : s.fallback = some fallback) (text : String) (p : Pass) :
    let reader := (p.readers.reader s.locale).1
    let cs := trimChars text.toList
    (readDate s text p).1 = (reader.read? text).filter (·.year.isSome) ∧
      ((∀ pattern ∈ (patterns reader.months).dropLast, pattern.scan.find? cs = none) →
        ∀ other : DateReader, (other.read? text).isSome →
          ∃ y, year.find? cs = some y ∧
            (readDate s text p).1 =
              (DateReader.yearNumber y).map fun n => ⟨some n, none, none⟩) := by
  intro reader cs
  have own : (readDate s text p).1 = (reader.read? text).filter (·.year.isSome) := by
    rw [readDate_of_some enabled]
    refine congrArg (Option.filter fun date : ReadDate => date.year.isSome) ?_
    unfold readingLocales
    split
    · exact p.readers.read?_cons_fst text s.locale []
    · exact p.readers.read?_cons_fst text s.locale [fallback]
  refine ⟨own, fun unfound other read => ?_⟩
  obtain ⟨y, found⟩ := Option.isSome_iff_exists.mp ((other.read?_isSome_iff text).mp read)
  refine ⟨y, found, ?_⟩
  rw [own, reader.read?_of_yearAlone text unfound, found]
  cases number : DateReader.yearNumber y <;> simp [number]

/-- A setting in German, with a locale that has no names of months. -/
def germanSetting : Setting where
  record := {}
  locale := { lang := "de-DE" }
  fallback := some Locale.english

theorem unfound_german : ∀ pattern ∈ (patterns (MonthNames.ofLocale germanSetting.locale)).dropLast,
    pattern.scan.find? "May 15, 2020".toList = none := by decide +kernel

theorem read?_english : (DateReader.ofLocale Locale.english).read? "May 15, 2020" =
    some ⟨some 2020, some 5, some 15⟩ := by cbv

theorem readDate_own_german :
    germanSetting.fallback = some Locale.english ∧
      (∀ pattern ∈ (patterns (MonthNames.ofLocale germanSetting.locale)).dropLast,
        pattern.scan.find? "May 15, 2020".toList = none) ∧
      ((DateReader.ofLocale Locale.english).read? "May 15, 2020").isSome ∧
      ∃ y, year.find? "May 15, 2020".toList = some y ∧
        (readDate germanSetting "May 15, 2020" {}).1 =
          (DateReader.yearNumber y).map fun n => ⟨some n, none, none⟩ := by
  have read : ((DateReader.ofLocale Locale.english).read? "May 15, 2020").isSome := by
    rw [read?_english]
    rfl
  exact ⟨rfl, unfound_german, read, (readDate_own (s := germanSetting) rfl "May 15, 2020" {}).2
    unfound_german (.ofLocale Locale.english) read⟩

/-- A month that only American English names is lost, and the day is read as a year. -/
theorem readDate_loses_month :
    germanSetting.locale.lang ≠ Locale.english.lang ∧
      (∀ pattern ∈ (patterns (MonthNames.ofLocale germanSetting.locale)).dropLast,
        pattern.scan.find? "May 15, 2020".toList = none) ∧
      ((monthDayYear (.ofLocale Locale.english)).find? "May 15, 2020".toList).isSome ∧
      (DateReader.ofLocale Locale.english).read? "May 15, 2020" =
        some ⟨some 2020, some 5, some 15⟩ ∧
      (readDate germanSetting "May 15, 2020" {}).1 = some ⟨some 2015, none, none⟩ :=
  ⟨by decide, unfound_german, by cbv, read?_english, by decide +kernel⟩

end CiteStyle
