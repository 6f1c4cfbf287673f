-- The readers of dates that are kept by the tag of a locale. If locales with one
-- tag ask for one reader, then a table that gives each of them its reader still
-- does so after any text is read, so that what was read before makes no difference.
import CiteStyle.Render.Element
import Mathlib

namespace CiteStyle

/-! ## Choices of readers -/

/-- A reader for each of some locales, the same for locales with the same tag. -/
structure ReaderChoice where
  locales : List Locale
  reader : Locale → DateReader
  byTag : ∀ l ∈ locales, ∀ l' ∈ locales, l.lang = l'.lang → reader l = reader l'

namespace DateReaders

/-- A table gives each of some locales the reader that is chosen for it. -/
def Follows (readers : DateReaders) (choice : ReaderChoice) : Prop :=
  ∀ l ∈ choice.locales, (readers.reader l).1 = choice.reader l

theorem reader_of_known {readers : DateReaders} {l : Locale} {reader : DateReader}
    (known : readers.lookup l.lang = some reader) : readers.reader l = (reader, readers) := by
  simp only [DateReaders.reader, known]

theorem reader_of_unknown {readers : DateReaders} {l : Locale}
    (unknown : readers.lookup l.lang = none) :
    readers.reader l = (.ofLocale l, readers ++ [(l.lang, .ofLocale l)]) := by
  simp only [DateReaders.reader, unknown]

/-- A reader that is looked up in a longer table. -/
theorem reader_append_fst (readers : DateReaders) (tag : String) (added : DateReader) (l : Locale) :
    (DateReaders.reader (readers ++ [(tag, added)]) l).1 =
      if readers.lookup l.lang = none ∧ l.lang = tag then added else (readers.reader l).1 := by
  unfold DateReaders.reader
  rw [List.lookup_append]
  cases readers.lookup l.lang with
  | some reader => simp
  | none =>
    by_cases same : l.lang = tag
    · simp [List.lookup, same]
    · simp [List.lookup, same, beq_eq_false_iff_ne.mpr same]

/-- A table that follows a choice still does so after one of its locales is looked up. -/
theorem Follows.after_reader {readers : DateReaders} {choice : ReaderChoice}
    (h : readers.Follows choice) {l : Locale} (mem : l ∈ choice.locales) :
    Follows (readers.reader l).2 choice := by
  rcases found : readers.lookup l.lang with _ | reader
  · have own : DateReader.ofLocale l = choice.reader l := by
      rw [← h l mem, reader_of_unknown found]
    rw [reader_of_unknown found]
    intro l' mem'
    rw [reader_append_fst]
    split
    · rename_i same
      rw [own, choice.byTag l mem l' mem' same.2.symm]
    · exact h l' mem'
  · rw [reader_of_known found]
    exact h

theorem read?_cons (readers : DateReaders) (text : String) (l : Locale) (rest : List Locale) :
    readers.read? text (l :: rest) =
      match (readers.reader l).1.read? text with
      | some date => (some date, (readers.reader l).2)
      | none => DateReaders.read? (readers.reader l).2 text rest := rfl

/-- Along locales of a choice a text is read by the readers that are chosen, whatever else is in
the table. -/
theorem Follows.read? {choice : ReaderChoice} {locales : List Locale}
    (within : ∀ l ∈ locales, l ∈ choice.locales) (text : String) :
    ∀ {readers : DateReaders}, readers.Follows choice →
      (readers.read? text locales).1 =
          locales.findSome? (fun l => (choice.reader l).read? text) ∧
        Follows (readers.read? text locales).2 choice := by
  induction locales with
  | nil => exact fun h => ⟨rfl, h⟩
  | cons l rest ih =>
    intro readers h
    have mem := within l List.mem_cons_self
    have next := h.after_reader mem
    rw [read?_cons, List.findSome?_cons, ← h l mem]
    rcases (readers.reader l).1.read? text with _ | date
    · exact ih (fun l' mem' => within l' (List.mem_cons_of_mem l mem')) next
    · exact ⟨rfl, next⟩

end DateReaders

/-! ## Month names beside the readers -/

/-- The readers with a table of month names of its own, from which new readers are made. -/
structure DateCache where
  readers : DateReaders := []
  months : MonthTables := []

namespace DateCache

/-- The reader of a locale. -/
def reader (cache : DateCache) (locale : Locale) : DateReader × DateCache :=
  match cache.readers.lookup locale.lang with
  | some reader => (reader, cache)
  | none =>
    let found := cache.months.table locale
    let reader : DateReader := ⟨found.1, locale.dayBeforeMonth⟩
    (reader, ⟨cache.readers ++ [(locale.lang, reader)], found.2⟩)

/-- The table has the names of just those locales that have a reader. -/
def Paired (cache : DateCache) : Prop :=
  ∀ tag, cache.months.lookup tag = (cache.readers.lookup tag).map DateReader.months

/-- The table of month names makes no difference. -/
theorem Paired.reader {cache : DateCache} (h : cache.Paired) (l : Locale) :
    (cache.reader l).1 = (cache.readers.reader l).1 ∧
      (cache.reader l).2.readers = (cache.readers.reader l).2 ∧ (cache.reader l).2.Paired := by
  rcases found : cache.readers.lookup l.lang with _ | reader
  · have names : cache.months.lookup l.lang = none := by rw [h, found]; rfl
    have built : cache.reader l = (.ofLocale l,
        ⟨cache.readers ++ [(l.lang, .ofLocale l)], cache.months ++ [(l.lang, .ofLocale l)]⟩) := by
      simp only [DateCache.reader, MonthTables.table, found, names]
      rfl
    rw [DateReaders.reader_of_unknown found, built]
    refine ⟨rfl, rfl, fun tag => ?_⟩
    simp only [List.lookup_append, h tag]
    cases cache.readers.lookup tag with
    | some reader => rfl
    | none => simp only [List.lookup]; split <;> rfl
  · have kept : cache.reader l = (reader, cache) := by
      simp only [DateCache.reader, found]
    rw [DateReaders.reader_of_known found, kept]
    exact ⟨rfl, rfl, h⟩

/-- The readers of some locales, looked up one after the other. -/
def readersOf (locales : List Locale) : StateM DateCache (List DateReader) :=
  locales.mapM fun l cache => cache.reader l

/-- Locales of a choice have the readers that are chosen for them, in whatever order they are
looked up. -/
theorem Paired.readersOf {choice : ReaderChoice} {locales : List Locale}
    (within : ∀ l ∈ locales, l ∈ choice.locales) :
    ∀ {cache : DateCache}, cache.Paired → cache.readers.Follows choice →
      (DateCache.readersOf locales cache).1 = locales.map choice.reader := by
  induction locales with
  | nil => exact fun _ _ => rfl
  | cons l rest ih =>
    intro cache paired follows
    have mem := within l List.mem_cons_self
    obtain ⟨same, readers, next⟩ := paired.reader l
    have others := ih (fun l' mem' => within l' (List.mem_cons_of_mem l mem')) next
      (readers ▸ follows.after_reader mem)
    unfold DateCache.readersOf at others ⊢
    rw [List.mapM_cons, List.map_cons, ← follows l mem, ← same]
    exact congrArg₂ List.cons rfl others

end DateCache

/-! ## Reading in a pass -/

namespace Rendering

theorem readDate_of_none {s : Setting} (h : s.fallback = none) (text : String) (p : Pass) :
    readDate s text p = (none, [], p) := by
  unfold readDate
  rw [h]
  rfl

theorem readDate_of_some {s : Setting} {fallback : Locale} (h : s.fallback = some fallback)
    (text : String) (p : Pass) :
    readDate s text p =
      let (date, readers) := p.readers.read? text (readingLocales s fallback)
      (date.filter (·.year.isSome), [], { p with readers }) := by
  unfold readDate
  rw [h]
  rfl

/-- No two locales that a setting asks have one tag. -/
theorem readingLocales_apart (s : Setting) (fallback : Locale) :
    ∀ l ∈ readingLocales s fallback, ∀ l' ∈ readingLocales s fallback,
      l.lang = l'.lang → l = l' := by
  unfold readingLocales
  split
  · simp
  · rename_i apart
    simp only [List.mem_cons, List.not_mem_nil, or_false]
    rintro l (rfl | rfl) l' (rfl | rfl) same
    · rfl
    · exact absurd same.symm apart
    · exact absurd same apart
    · rfl

end Rendering

namespace ReaderChoice

/-- The readers of all locales that a setting asks are chosen. -/
def Covers (choice : ReaderChoice) (s : Setting) : Prop :=
  ∀ fallback, s.fallback = some fallback →
    ∀ l ∈ Rendering.readingLocales s fallback, l ∈ choice.locales

/-- The date that a text is read as by the readers that are chosen. -/
def readDate (choice : ReaderChoice) (s : Setting) (text : String) : Option ReadDate :=
  let found := s.fallback.bind fun fallback =>
    (Rendering.readingLocales s fallback).findSome? fun l => (choice.reader l).read? text
  found.filter (·.year.isSome)

/-- A pass whose readers follow a choice reads by it, whatever else it remembers. -/
theorem Covers.readDate {choice : ReaderChoice} {s : Setting} (covers : choice.Covers s)
    {p : Pass} (h : p.readers.Follows choice) (text : String) :
    ∃ readers, DateReaders.Follows readers choice ∧
      Rendering.readDate s text p = (choice.readDate s text, [], { p with readers }) := by
  unfold ReaderChoice.readDate
  cases found : s.fallback with
  | none =>
    rw [Rendering.readDate_of_none found]
    exact ⟨p.readers, h, rfl⟩
  | some fallback =>
    obtain ⟨result, after⟩ := h.read? (covers fallback found) text
    rw [Rendering.readDate_of_some found]
    exact ⟨_, after, by rw [Option.bind_some, ← result]⟩

end ReaderChoice

/-- A step tells nothing, and changes nothing but the readers of dates. -/
def Quiet (x : Rendering α) : Prop := ∀ p, ∃ readers, (x p).2 = ([], { p with readers })

namespace Quiet

theorem pure (a : α) : Quiet (pure a : Rendering α) := fun p => ⟨p.readers, rfl⟩

theorem bind {x : Rendering α} {f : α → Rendering β} (hx : Quiet x) (hf : ∀ a, Quiet (f a)) :
    Quiet (x >>= f) := by
  intro p
  obtain ⟨between, first⟩ := hx p
  obtain ⟨readers, second⟩ := hf (x p).1 { p with readers := between }
  refine ⟨readers, ?_⟩
  rw [Rendering.bind_apply, first, second]
  rfl

theorem readDate (s : Setting) (text : String) : Quiet (Rendering.readDate s text) := by
  intro p
  cases found : s.fallback with
  | none =>
    rw [Rendering.readDate_of_none found]
    exact ⟨p.readers, rfl⟩
  | some fallback =>
    rw [Rendering.readDate_of_some found]
    exact ⟨_, rfl⟩

theorem renderContent (s : Setting) (e : DateElement) : Quiet (e.renderContent s) := by
  unfold DateElement.renderContent
  refine bind (fun p => ⟨p.readers, rfl⟩) fun date => ?_
  split
  · exact pure []
  · split
    · unfold DateElement.renderValue
      split
      · exact pure _
      · exact pure _
      · exact pure _
      · refine bind (readDate s _) fun date => ?_
        cases date <;> exact pure _
    · exact pure []

end Quiet

/-! ## Which choices tables follow -/

/-- The readers that a table gives to locales whose tags differ. -/
def ReaderChoice.ofTable (readers : DateReaders) (locales : List Locale)
    (apart : ∀ l ∈ locales, ∀ l' ∈ locales, l.lang = l'.lang → l = l') : ReaderChoice where
  locales := locales
  reader l := (readers.reader l).1
  byTag l mem l' mem' same := by rw [apart l mem l' mem' same]

theorem DateReaders.follows_ofTable (readers : DateReaders) (locales : List Locale)
    (apart : ∀ l ∈ locales, ∀ l' ∈ locales, l.lang = l'.lang → l = l') :
    readers.Follows (.ofTable readers locales apart) := fun _ _ => rfl

/-- The own readers of locales, where those with one tag have one. -/
def ReaderChoice.own (locales : List Locale)
    (agree : ∀ l ∈ locales, ∀ l' ∈ locales, l.lang = l'.lang →
      DateReader.ofLocale l = DateReader.ofLocale l') : ReaderChoice where
  locales := locales
  reader := DateReader.ofLocale
  byTag := agree

theorem DateReaders.follows_own (locales : List Locale)
    (agree : ∀ l ∈ locales, ∀ l' ∈ locales, l.lang = l'.lang →
      DateReader.ofLocale l = DateReader.ofLocale l') :
    Follows [] (.own locales agree) := fun _ _ => rfl

end CiteStyle
